import Cloak.Text.Basic

/-! Guards: rules on which occurrences of a symbol count, by the text after them. One look at a text also settles the
    texts that begin a little later in it, so that a guard is asked again only where its answer can change. -/

namespace Cloak

/-- A guard. `look` gives the answer on a text, and for how many of its characters the answer stays. -/
structure Guard where
  look : Text → Bool × Nat
  steady : ∀ s n, n ≤ (look s).2 → (look (s.drop n)).1 = (look s).1

namespace Guard

/-- The guard admits an occurrence before `rest`. -/
def admits (g : Guard) (rest : Text) : Bool := (g.look rest).1

/-- A guard that looks at every text anew. -/
def ofTest (test : Text → Bool) : Guard where
  look s := (test s, 0)
  steady s n h := by
    have hn : n = 0 := Nat.le_zero.mp h
    rw [hn, List.drop_zero]

/-- The guard that admits every occurrence. -/
def always : Guard := ofTest fun _ => true

/-- The answer `verdict` is known of the first `ahead` texts that begin in `s`. -/
def Knows (g : Guard) (verdict : Bool) (ahead : Nat) (s : Text) : Prop :=
  ∀ n, n < ahead → g.admits (s.drop n) = verdict

/-- The answer on `rest`, which begins `skipped` characters later, and of how many texts it is then known: by memory if
    that reaches so far, else by a new look. -/
def consult (g : Guard) (verdict : Bool) (ahead skipped : Nat) (rest : Text) : Bool × Nat :=
  if skipped < ahead then (verdict, ahead - skipped)
  else
    let (answer, n) := g.look rest
    (answer, n + 1)

theorem knows_zero (g : Guard) (verdict : Bool) (s : Text) : g.Knows verdict 0 s := fun _ h => absurd h (Nat.not_lt_zero _)

theorem Knows.tail {g : Guard} {verdict : Bool} {ahead : Nat} {c : Char} {s : Text} (h : g.Knows verdict ahead (c :: s)) :
    g.Knows verdict (ahead - 1) s := by
  intro n hn
  rw [← h (n + 1) (by omega), List.drop_succ_cons]

theorem knows_consult {g : Guard} {verdict : Bool} {ahead : Nat} {symbol rest : Text}
    (h : g.Knows verdict ahead (symbol ++ rest)) :
    g.Knows (g.consult verdict ahead symbol.length rest).1 (g.consult verdict ahead symbol.length rest).2 rest := by
  intro n hn
  unfold consult at hn ⊢
  split at hn
  · next hs =>
    rw [if_pos hs]
    rw [← h (symbol.length + n) (by simp only at hn; omega), ← List.drop_drop, List.drop_left]
  · next hs =>
    rw [if_neg hs]
    exact g.steady rest n (Nat.lt_succ_iff.mp hn)

theorem consult_fst {g : Guard} {verdict : Bool} {ahead : Nat} {symbol rest : Text}
    (h : g.Knows verdict ahead (symbol ++ rest)) : (g.consult verdict ahead symbol.length rest).1 = g.admits rest := by
  have hpos : 0 < (g.consult verdict ahead symbol.length rest).2 := by
    unfold consult
    split
    · next hs => exact Nat.sub_pos_of_lt hs
    · exact Nat.succ_pos _
  rw [← knows_consult h 0 hpos, List.drop_zero]

end Guard

/-- No `marker` begins before the next `;`: what precedes is no part of a string that the marker ends. -/
def isUnquoted (marker : Text) : Text → Bool
  | [] => true
  | c :: s => c == ';' || (!marker.isPrefixOf (c :: s) && isUnquoted marker s)

/-- Whether a text is unquoted, and how many characters stand before the place that settles it, after `passed` others. -/
def settle (marker : Text) (passed : Nat) : Text → Bool × Nat
  | [] => (true, passed)
  | c :: s =>
    if c == ';' then (true, passed)
    else if marker.isPrefixOf (c :: s) then (false, passed)
    else settle marker (passed + 1) s

theorem settle_fst (marker : Text) (passed : Nat) (s : Text) : (settle marker passed s).1 = isUnquoted marker s := by
  induction s generalizing passed with
  | nil => rfl
  | cons c s ih =>
    unfold settle isUnquoted
    split
    · next h => simp [h]
    · next h =>
      split
      · next hm => simp [h, hm]
      · next hm => simp [h, hm, ih]

theorem settle_snd (marker : Text) (passed : Nat) (s : Text) :
    (settle marker passed s).2 = passed + (settle marker 0 s).2 := by
  induction s generalizing passed with
  | nil => rfl
  | cons c s ih =>
    unfold settle
    split
    · rfl
    · split
      · rfl
      · rw [ih (passed + 1), ih (0 + 1)]
        omega

theorem isUnquoted_drop (marker : Text) (s : Text) (n : Nat) (h : n ≤ (settle marker 0 s).2) :
    isUnquoted marker (s.drop n) = isUnquoted marker s := by
  induction s generalizing n with
  | nil => rw [List.drop_nil]
  | cons c s ih =>
    cases n with
    | zero => rfl
    | succ n =>
      unfold settle at h
      split at h
      · exact absurd h (Nat.not_succ_le_zero n)
      · next hc =>
        split at h
        · exact absurd h (Nat.not_succ_le_zero n)
        · next hm =>
          rw [settle_snd] at h
          rw [List.drop_succ_cons, ih n (by omega)]
          simp [isUnquoted, hc, hm]

/-- The guard that admits what no string contains up to `marker`. -/
def Guard.unquoted (marker : Text) : Guard where
  look := settle marker 0
  steady s n h := by rw [settle_fst, settle_fst, isUnquoted_drop marker s n h]

theorem Guard.admits_unquoted (marker rest : Text) : (Guard.unquoted marker).admits rest = isUnquoted marker rest :=
  settle_fst marker 0 rest

end Cloak
