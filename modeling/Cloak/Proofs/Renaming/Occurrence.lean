import Cloak.Proofs.Renaming.Splice

/-! Where a search finds its symbol, as stretches of the text. Whatever the symbol is, they are in order, and replacing its occurrences
    is splicing the text over them. -/

namespace Cloak
open Utf8 (size size_cons size_append dropBytes? dropBytes?_size)

/-! ### Pieces of a search -/

namespace Search

/-- How a search cuts a text that begins after the character `before`. -/
inductive Cuts (q : Search) : (before : Option Char) → Text → List Piece → Prop where
  | stop {before : Option Char} : q.at? before [] = none → Cuts q before [] []
  | last {before : Option Char} : q.at? before [] = some [] → Cuts q before [] [.hit []]
  | pass {before : Option Char} {c : Char} {s : Text} {ps : List Piece} :
      q.at? before (c :: s) = none → Cuts q (some c) s ps → Cuts q before (c :: s) (.char c :: ps)
  | empty {before : Option Char} {c : Char} {s : Text} {ps : List Piece} :
      q.symbol = [] → q.at? before (c :: s) = some (c :: s) → Cuts q (some c) s ps →
      Cuts q before (c :: s) (.hit (c :: s) :: .char c :: ps)
  | found {before : Option Char} {rest : Text} {ps : List Piece} :
      q.symbol ≠ [] → q.at? before (q.symbol ++ rest) = some rest → Cuts q q.symbol.getLast? rest ps →
      Cuts q before (q.symbol ++ rest) (.hit rest :: ps)

theorem cuts_piecesFrom (q : Search) (before : Option Char) (s : Text) : q.Cuts before s (q.piecesFrom [] before s) := by
  induction hn : s.length using Nat.strongRecOn generalizing s before with
  | _ n ih =>
    cases s with
    | nil =>
      cases h : q.at? before [] with
      | none => simpa [piecesFrom, h] using Cuts.stop h
      | some rest =>
        have hrest : rest = [] := (List.append_eq_nil_iff.mp (q.spells h).symm).2
        simpa [piecesFrom, h] using Cuts.last (hrest ▸ h)
    | cons c s =>
      have hs : s.length < n := by simp only [← hn, List.length_cons]; omega
      cases h : q.at? before (c :: s) with
      | none =>
        rw [piecesFrom_cons_none [] h, piecesFrom_eq_append]
        exact .pass h (ih _ hs _ s rfl)
      | some rest =>
        have hspells := q.spells h
        by_cases hq : q.symbol = []
        · rw [hq, List.nil_append] at hspells
          rw [piecesFrom_cons_empty [] h hq, piecesFrom_eq_append, ← hspells]
          exact .empty hq (hspells ▸ h) (ih _ hs _ s rfl)
        · have hr : rest.length < n := hn ▸ q.length_lt_of_at? hq h
          rw [piecesFrom_cons_some [] h hq, piecesFrom_eq_append]
          rw [hspells] at h ⊢
          exact .found hq h (ih _ hr _ rest rfl)

/-- The stretches of the occurrences among pieces that begin at byte `base`. -/
def stretchesFrom (symbol : Text) : (base : Nat) → List Piece → List Stretch
  | _, [] => []
  | base, .char c :: ps => stretchesFrom symbol (base + c.utf8Size) ps
  | base, .hit _ :: ps => ⟨base, base + size symbol⟩ :: stretchesFrom symbol (base + size symbol) ps

/-- The stretches where a search finds its symbol. -/
def stretches (q : Search) (s : Text) : List Stretch := stretchesFrom q.symbol 0 (q.pieces s)

end Search

/-- The guard admits the stretch of a text, by what follows it. -/
def Guard.accepts (g : Guard) (s : Text) (p : Stretch) : Bool := (dropBytes? p.stop s).any g.admits

theorem Guard.accepts_eq (g : Guard) {buffer front x rest : Text} (h : buffer = front ++ (x ++ rest)) :
    g.accepts buffer ⟨size front, size front + size x⟩ = g.admits rest := by
  have hstop : dropBytes? (size front + size x) buffer = some rest := by
    rw [h, ← size_append, ← List.append_assoc, dropBytes?_size]
  rw [accepts, hstop, Option.any_some]

namespace Search
variable {q : Search} {before : Option Char} {s : Text} {ps : List Piece}

theorem spliced_char {name s t : Text} {accept : Stretch → Bool} {base : Nat} {c : Char} {ps : List Stretch} {parts : List Part}
    (h : Spliced name accept (base + c.utf8Size) s ps ⟨t, parts.count .replaced⟩) :
    Spliced name accept base (c :: s) ps ⟨c :: t, (.char c :: parts).count .replaced⟩ := by
  rw [List.count_cons_of_ne (by simp)]
  exact h.cons

theorem spliced_hit {g : Guard} {buffer front x s rest name t : Text} {ps : List Stretch} {parts : List Part} (hs : s = x ++ rest)
    (hbuffer : buffer = front ++ s)
    (h : Spliced name (g.accepts buffer) (size front + size x) rest ps ⟨t, parts.count .replaced⟩) :
    Spliced name (g.accepts buffer) (size front) s (⟨size front, size front + size x⟩ :: ps)
      ⟨((Piece.hit rest).judge g).spell x name ++ t, ((Piece.hit rest).judge g :: parts).count .replaced⟩ := by
  subst hs
  have haccepts := g.accepts_eq hbuffer
  have hstretch := @Spliced.stretch name (g.accepts buffer) (size front) ⟨size front, size front + size x⟩ ps [] x rest t _ rfl rfl h
  rw [haccepts, List.nil_append] at hstretch
  rw [Piece.judge]
  cases hadmits : g.admits rest with
  | true => simpa [hadmits, Part.spell] using hstretch
  | false => simpa [hadmits, Part.spell] using hstretch

/-- The parts of a text, spelled one after the other, are a splice of it. -/
theorem Cuts.spliced (h : q.Cuts before s ps) (name : Text) (g : Guard) {buffer : Text} (front : Text)
    (hbuffer : buffer = front ++ s) :
    Spliced name (g.accepts buffer) (size front) s (stretchesFrom q.symbol (size front) ps)
      ⟨(ps.map (Piece.judge g)).flatMap (Part.spell q.symbol name), (ps.map (Piece.judge g)).count .replaced⟩ := by
  induction h generalizing front with
  | stop => exact .rest
  | last h => exact spliced_hit (q.spells h) hbuffer .rest
  | @pass before c s ps _ _ ih =>
    have hrest := ih (front ++ [c]) (by rw [hbuffer, List.append_assoc]; rfl)
    rw [size_concat] at hrest
    exact spliced_char hrest
  | @empty before c s ps hq h _ ih =>
    have hrest := ih (front ++ [c]) (by rw [hbuffer, List.append_assoc]; rfl)
    have hbase : size front + c.utf8Size = size front + size q.symbol + c.utf8Size := by rw [hq]; rfl
    rw [size_concat, hbase] at hrest
    exact spliced_hit (q.spells h) hbuffer (spliced_char hrest)
  | @found before rest ps _ h _ ih =>
    have hrest := ih (front ++ q.symbol) (by rw [hbuffer, List.append_assoc])
    rw [size_append] at hrest
    exact spliced_hit (q.spells h) hbuffer hrest

theorem spliced_stretches (q : Search) (name : Text) (g : Guard) (s : Text) :
    Spliced name (g.accepts s) 0 s (q.stretches s) (q.replace name g s) := by
  rw [q.replace_eq]
  exact (q.cuts_piecesFrom none s).spliced name g [] rfl

/-! ### Order -/

/-- The stretches begin one after the other, none of them before `base`. -/
structure Ascends (base : Nat) (ps : List Stretch) : Prop where
  base_le : ∀ p ∈ ps, base ≤ p.start
  increasing : ps.Pairwise fun p p' => p.start < p'.start

theorem Ascends.nil (base : Nat) : Ascends base [] := ⟨by simp, .nil⟩

theorem Ascends.mono {base base' : Nat} {ps : List Stretch} (h : Ascends base' ps) (hle : base ≤ base') : Ascends base ps :=
  ⟨fun p hp => Nat.le_trans hle (h.base_le p hp), h.increasing⟩

theorem Ascends.cons {base base' stop : Nat} {ps : List Stretch} (h : Ascends base' ps) (hlt : base < base') :
    Ascends base (⟨base, stop⟩ :: ps) where
  base_le := List.forall_mem_cons.mpr ⟨Nat.le_refl base, (h.mono (Nat.le_of_lt hlt)).base_le⟩
  increasing := .cons (fun p hp => Nat.lt_of_lt_of_le hlt (h.base_le p hp)) h.increasing

theorem Cuts.ascends (h : q.Cuts before s ps) (base : Nat) : Ascends base (stretchesFrom q.symbol base ps) := by
  induction h generalizing base with
  | stop => exact .nil base
  | last => exact (Ascends.nil (base + 1)).cons (Nat.lt_succ_self base)
  | @pass before c s ps _ _ ih => exact (ih (base + c.utf8Size)).mono (Nat.le_add_right _ _)
  | @empty before c s ps _ _ _ ih =>
    -- The empty symbol takes no bytes, but the character after an occurrence is passed over.
    have hpos := c.utf8Size_pos
    exact (ih (base + size q.symbol + c.utf8Size)).cons (by omega)
  | @found before rest ps hq _ _ ih =>
    have hpos : size q.symbol ≠ 0 := fun hzero => hq (eq_nil_of_size_eq_zero hzero)
    exact (ih (base + size q.symbol)).cons (by omega)

/-! ### Occurrences -/

/-- The symbol is found after `i` bytes of the text, which begins after the character `before`. -/
def FindsAfter (q : Search) (before : Option Char) (s : Text) (i : Nat) : Prop :=
  ∃ a b, s = a ++ (q.symbol ++ b) ∧ size a = i ∧ q.at? (a.getLast?.or before) (q.symbol ++ b) = some b

theorem findsAfter_zero {rest : Text} (h : q.at? before s = some rest) : q.FindsAfter before s 0 :=
  ⟨[], rest, q.spells h, rfl, by rw [← q.spells h]; exact h⟩

theorem FindsAfter.at_zero (h : q.FindsAfter before s 0) : ∃ rest, q.at? before s = some rest := by
  obtain ⟨a, b, rfl, ha, h⟩ := h
  rw [eq_nil_of_size_eq_zero ha] at h ⊢
  exact ⟨b, h⟩

theorem FindsAfter.eq_zero {i : Nat} (h : q.FindsAfter before [] i) : i = 0 := by
  obtain ⟨a, b, heq, rfl, -⟩ := h
  rw [(List.append_eq_nil_iff.mp heq.symm).1]
  rfl

theorem FindsAfter.append {i : Nat} (x : Text) (h : q.FindsAfter (x.getLast?.or before) s i) :
    q.FindsAfter before (x ++ s) (size x + i) := by
  obtain ⟨a, b, rfl, rfl, h⟩ := h
  refine ⟨x ++ a, b, (List.append_assoc ..).symm, size_append x a, ?_⟩
  rwa [List.getLast?_append, Option.or_assoc]

theorem FindsAfter.of_append {i : Nat} {x : Text} (h : q.FindsAfter before (x ++ s) i) (hle : size x ≤ i) :
    ∃ j, i = size x + j ∧ q.FindsAfter (x.getLast?.or before) s j := by
  obtain ⟨a, b, heq, rfl, h⟩ := h
  obtain ⟨y, rfl, hs⟩ := exists_append_of_size_le heq hle
  refine ⟨size y, size_append x y, y, b, hs, rfl, ?_⟩
  rwa [List.getLast?_append, Option.or_assoc] at h

theorem FindsAfter.cons {c : Char} {i : Nat} (h : q.FindsAfter (some c) s i) : q.FindsAfter before (c :: s) (c.utf8Size + i) := by
  have hcons : q.FindsAfter before ([c] ++ s) (size [c] + i) := FindsAfter.append [c] h
  rwa [size_cons] at hcons

theorem FindsAfter.of_cons {c : Char} {i : Nat} (h : q.FindsAfter before (c :: s) i) (hi : i ≠ 0) :
    ∃ j, i = c.utf8Size + j ∧ q.FindsAfter (some c) s j := by
  have hsize : size [c] = c.utf8Size := size_cons c []
  have hle : size [c] ≤ i := by
    obtain ⟨a, b, heq, rfl, -⟩ := h
    cases a with
    | nil => exact absurd rfl hi
    | cons d a =>
      rw [hsize, (List.cons.inj heq).1, size_cons]
      exact Nat.le_add_right _ _
  rw [← hsize]
  exact FindsAfter.of_append (x := [c]) h hle

/-- Every stretch is an occurrence. -/
theorem Cuts.findsAfter (h : q.Cuts before s ps) (base : Nat) :
    ∀ p ∈ stretchesFrom q.symbol base ps, p.stop = p.start + size q.symbol ∧ ∃ i, p.start = base + i ∧ q.FindsAfter before s i := by
  induction h generalizing base with
  | stop => simp [stretchesFrom]
  | last h => exact List.forall_mem_singleton.mpr ⟨rfl, 0, rfl, findsAfter_zero h⟩
  | @pass before c s ps _ _ ih =>
    intro p hp
    obtain ⟨hstop, i, hi, hfinds⟩ := ih (base + c.utf8Size) p hp
    exact ⟨hstop, c.utf8Size + i, by omega, hfinds.cons⟩
  | @empty before c s ps hq h _ ih =>
    refine List.forall_mem_cons.mpr ⟨⟨rfl, 0, rfl, findsAfter_zero h⟩, fun p hp => ?_⟩
    obtain ⟨hstop, i, hi, hfinds⟩ := ih (base + size q.symbol + c.utf8Size) p hp
    have hsize : size q.symbol = 0 := by rw [hq]; rfl
    exact ⟨hstop, c.utf8Size + i, by omega, hfinds.cons⟩
  | @found before rest ps hq h _ ih =>
    refine List.forall_mem_cons.mpr ⟨⟨rfl, 0, rfl, findsAfter_zero h⟩, fun p hp => ?_⟩
    obtain ⟨hstop, i, hi, hfinds⟩ := ih (base + size q.symbol) p hp
    refine ⟨hstop, size q.symbol + i, by omega, FindsAfter.append q.symbol ?_⟩
    rwa [List.getLast?_eq_some_getLast hq] at hfinds ⊢

/-- An occurrence that is no stretch begins inside one that comes before it. -/
theorem Cuts.exists_stretch (h : q.Cuts before s ps) (base : Nat) {i : Nat} (hi : q.FindsAfter before s i) :
    ∃ p ∈ stretchesFrom q.symbol base ps, p.start = base + i ∨ (p.start < base + i ∧ base + i < p.stop) := by
  induction h generalizing base i with
  | @stop before hnone =>
    obtain ⟨rest, hrest⟩ := (hi.eq_zero ▸ hi).at_zero
    rw [hnone] at hrest
    cases hrest
  | last => exact ⟨_, List.mem_cons_self, .inl (hi.eq_zero ▸ rfl)⟩
  | @pass before c s ps hnone _ ih =>
    by_cases hzero : i = 0
    · subst hzero
      obtain ⟨rest, hrest⟩ := hi.at_zero
      rw [hnone] at hrest
      cases hrest
    · obtain ⟨j, rfl, hj⟩ := hi.of_cons hzero
      rw [← Nat.add_assoc]
      exact ih (base + c.utf8Size) hj
  | @empty before c s ps hq h _ ih =>
    by_cases hzero : i = 0
    · subst hzero
      exact ⟨_, List.mem_cons_self, .inl rfl⟩
    · obtain ⟨j, rfl, hj⟩ := hi.of_cons hzero
      have hsize : size q.symbol = 0 := by rw [hq]; rfl
      obtain ⟨p, hp, hplace⟩ := ih (base + size q.symbol + c.utf8Size) hj
      exact ⟨p, List.mem_cons_of_mem _ hp, by omega⟩
  | @found before rest ps hq h _ ih =>
    by_cases hinside : i < size q.symbol
    · exact ⟨_, List.mem_cons_self, by dsimp only; omega⟩
    · obtain ⟨j, rfl, hj⟩ := hi.of_append (Nat.le_of_not_lt hinside)
      rw [List.getLast?_eq_some_getLast hq] at ih hj
      obtain ⟨p, hp, hplace⟩ := ih (base + size q.symbol) hj
      exact ⟨p, List.mem_cons_of_mem _ hp, by omega⟩

theorem at?_word_iff {symbol b : Text} :
    (word symbol).at? before (symbol ++ b) = some b ↔
      isBoundary before (symbol ++ b).head? = true ∧ isBoundary (symbol.getLast?.or before) b.head? = true := by
  have hstart : startsAlike symbol (symbol ++ b) = true := by
    cases symbol with
    | nil => rfl
    | cons c symbol => simp [startsAlike]
  change wordAt? symbol before (symbol ++ b) = some b ↔ _
  simp only [wordAt?, hstart, Bool.true_and, after?_eq_some_iff.mpr rfl]
  simp

theorem at?_plain_iff {symbol b : Text} : (plain symbol).at? before (symbol ++ b) = some b ↔ symbol ≠ [] := by
  change plainAt? symbol (symbol ++ b) = some b ↔ _
  simp [plainAt?, after?_eq_some_iff]

end Search

/-- `symbol` stands in the text after `i` bytes, between texts of which `P` holds. -/
def StandsAt (symbol s : Text) (P : (before after : Text) → Prop) (i : Nat) : Prop :=
  ∃ a b, s = a ++ (symbol ++ b) ∧ size a = i ∧ P a b

/-- The stretches are occurrences of a symbol. They are in order, and every other occurrence begins inside one of them. -/
structure Marks (symbol s : Text) (P : (before after : Text) → Prop) (ps : List Stretch) : Prop where
  orderly : Orderly 0 s ps
  increasing : ps.Pairwise fun p p' => p.start < p'.start
  occurs : ∀ p ∈ ps, StandsAt symbol s P p.start ∧ p.stop = p.start + size symbol
  complete : ∀ i, StandsAt symbol s P i → ∃ p ∈ ps, p.start = i ∨ (p.start < i ∧ i < p.stop)

theorem Search.marks_stretches (q : Search) (s : Text) {P : (before after : Text) → Prop}
    (h : ∀ a b, q.at? a.getLast? (q.symbol ++ b) = some b ↔ P a b) : Marks q.symbol s P (q.stretches s) := by
  have hfinds : ∀ i, q.FindsAfter none s i ↔ StandsAt q.symbol s P i := by
    intro i
    simp only [FindsAfter, StandsAt, Option.or_none, h]
  have hcuts := q.cuts_piecesFrom none s
  refine ⟨(q.spliced_stretches [] .always s).orderly, (hcuts.ascends 0).increasing, fun p hp => ?_, fun i hi => ?_⟩
  · obtain ⟨hstop, i, hi, hfind⟩ := hcuts.findsAfter 0 p hp
    rw [Nat.zero_add] at hi
    exact ⟨hi ▸ (hfinds i).mp hfind, hstop⟩
  · have hstretch := hcuts.exists_stretch 0 ((hfinds i).mpr hi)
    rwa [Nat.zero_add] at hstretch

/-- A word boundary on both sides of the symbol. -/
def IsWordBetween (symbol before after : Text) : Prop :=
  isBoundary before.getLast? (symbol ++ after).head? = true ∧ isBoundary (before ++ symbol).getLast? after.head? = true

/-- Where the searches find a symbol are stretches in order, and every splice over stretches in order has a result: the text with
    `name` for the accepted stretches and all else as it was. Replacing the occurrences that a guard admits is such a splice. -/
theorem splice_over_stretches (symbol s : Text) :
    Marks symbol s (IsWordBetween symbol) ((Search.word symbol).stretches s) ∧
    Marks symbol s (fun _ _ => symbol ≠ []) ((Search.plain symbol).stretches s) ∧
    (∀ (q : Search) (g : Guard) (name : Text), splice s name (g.accepts s) (q.stretches s) = some (q.replace name g s)) ∧
    ∀ ps, Orderly 0 s ps → ∀ (name : Text) (accept : Stretch → Bool),
      ∃ r, splice s name accept ps = some r ∧ Spliced name accept 0 s ps r ∧ r.replaced = ps.countP accept ∧
        size r.text + ((ps.filter accept).map Stretch.size).sum = size s + r.replaced * size name := by
  refine ⟨(Search.word symbol).marks_stretches s fun a b => ?_, (Search.plain symbol).marks_stretches s fun a b => ?_,
    fun q g name => (q.spliced_stretches name g s).splice_eq, fun ps h name accept => ?_⟩
  · rw [IsWordBetween, List.getLast?_append]
    exact Search.at?_word_iff
  · exact Search.at?_plain_iff
  · obtain ⟨r, hr⟩ := h.exists_spliced name accept
    exact ⟨r, hr.splice_eq, hr, hr.replaced_eq, hr.size_eq⟩

/-- Of two stretches the second is accepted. The first is a character of two bytes. -/
theorem splice_over_stretches_sample :
    Orderly 0 ['é', '=', 'x'] [⟨0, 2⟩, ⟨3, 4⟩] ∧
      ∃ r, splice ['é', '=', 'x'] ['a', '1'] (fun p => p.start == 3) [⟨0, 2⟩, ⟨3, 4⟩] = some r ∧ r.replaced = 1 ∧ size r.text = 5 := by
  have horderly : Orderly 0 ['é', '=', 'x'] [⟨0, 2⟩, ⟨3, 4⟩] := by
    refine ⟨by simp, by simp, ?_⟩
    simp only [List.forall_mem_cons, List.not_mem_nil, false_implies, implies_true, and_true]
    exact ⟨⟨⟨[], _, rfl, rfl⟩, ['é'], _, rfl, rfl⟩, ⟨['é', '='], _, rfl, rfl⟩, ['é', '=', 'x'], _, rfl, rfl⟩
  obtain ⟨r, hsplice, -, hreplaced, hsize⟩ :=
    (splice_over_stretches [] ['é', '=', 'x']).2.2.2 _ horderly ['a', '1'] (fun p => p.start == 3)
  have hone : r.replaced = 1 := hreplaced
  rw [hone] at hsize
  exact ⟨horderly, r, hsplice, hone, Nat.add_right_cancel hsize⟩

end Cloak
