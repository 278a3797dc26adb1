import Cloak.Proofs.Renaming.Sweep

/-! Renaming of functions seen word by word. A plain search finds a function anywhere, also inside a word; but only an
    occurrence that a call follows is replaced, and inside a word no call follows. So a word changes at its end at most, and
    only if the search from its left ends with an occurrence there. -/

namespace Cloak

/-! ### Plain searches -/

namespace Search

/-- What a piece reads, given the symbol looked for. -/
def Piece.spell (symbol : Text) : Piece → Text
  | .char c => [c]
  | .hit _ => symbol

section
variable {f name : Text} {g : Guard} {before : Option Char} {c : Char} {s rest : Text}

theorem at?_plain (hf : f ≠ []) (before : Option Char) (s : Text) : (plain f).at? before s = after? f s := by
  simp [plain, plainAt?, hf]

/-- A plain search does not look at the character before the text. -/
theorem piecesFrom_plain (f : Text) (before : Option Char) (s : Text) :
    (plain f).piecesFrom [] before s = (plain f).pieces s := by
  cases s with
  | nil => simp [pieces, piecesFrom, plain]
  | cons c s =>
    cases h : (plain f).at? before (c :: s) with
    | none =>
      have hstart : (plain f).at? none (c :: s) = none := h
      rw [pieces, piecesFrom_cons_none [] h, piecesFrom_cons_none [] hstart]
    | some rest =>
      have hstart : (plain f).at? none (c :: s) = some rest := h
      by_cases hf : (plain f).symbol = []
      · rw [pieces, piecesFrom_cons_empty [] h hf, piecesFrom_cons_empty [] hstart hf]
      · rw [pieces, piecesFrom_cons_some [] h hf, piecesFrom_cons_some [] hstart hf]

theorem sweep_plain (f name : Text) (g : Guard) (before : Option Char) (s : Text) :
    (plain f).sweep name g before s = (plain f).replace name g s := by
  rw [replace_eq_sweep, sweep, sweep, piecesFrom_plain, ← piecesFrom_plain f none]

theorem replace_plain_nil (hf : f ≠ []) : (plain f).replace name g [] = ⟨[], 0⟩ := by
  rw [replace_eq_sweep, sweep_nil (q := plain f) hf]

theorem replace_plain_none (hf : f ≠ []) (h : after? f (c :: s) = none) :
    (plain f).replace name g (c :: s) = ((plain f).replace name g s).after [c] 0 := by
  rw [replace_eq_sweep, sweep_cons_none (by rw [at?_plain hf, h]), sweep_plain]

theorem replace_plain_append (hf : f ≠ []) :
    (plain f).replace name g (f ++ rest) =
      ((plain f).replace name g rest).after (if g.admits rest then name else f) (if g.admits rest then 1 else 0) := by
  obtain ⟨c, t, rfl⟩ := List.exists_cons_of_ne_nil hf
  have h : (plain (c :: t)).at? none (c :: (t ++ rest)) = some rest := by
    rw [at?_plain hf, after?_eq_some_iff, List.cons_append]
  rw [List.cons_append, replace_eq_sweep, sweep_cons_some h hf, sweep_plain]
  rfl

theorem pieces_plain_nil (hf : f ≠ []) : (plain f).pieces [] = [] := by
  have h : after? f [] = none := by
    obtain ⟨c, t, rfl⟩ := List.exists_cons_of_ne_nil hf
    rfl
  simp [pieces, piecesFrom, at?_plain hf, h]

theorem pieces_plain_none (hf : f ≠ []) (h : after? f (c :: s) = none) :
    (plain f).pieces (c :: s) = .char c :: (plain f).pieces s := by
  rw [pieces, piecesFrom_cons_none [] (by rw [at?_plain hf, h]), piecesFrom_eq_append, piecesFrom_plain]
  rfl

theorem pieces_plain_append (hf : f ≠ []) (rest : Text) : (plain f).pieces (f ++ rest) = .hit rest :: (plain f).pieces rest := by
  obtain ⟨c, t, rfl⟩ := List.exists_cons_of_ne_nil hf
  have h : (plain (c :: t)).at? none (c :: (t ++ rest)) = some rest := by
    rw [at?_plain hf, after?_eq_some_iff, List.cons_append]
  rw [List.cons_append, pieces, piecesFrom_cons_some [] h hf, piecesFrom_eq_append, piecesFrom_plain]
  rfl

/-- Induction along a plain search: a character that begins no occurrence, or an occurrence. -/
theorem plain_induction (hf : f ≠ []) {motive : Text → Prop} (nil : motive [])
    (char : ∀ c s, after? f (c :: s) = none → motive s → motive (c :: s))
    (hit : ∀ rest, motive rest → motive (f ++ rest)) (s : Text) : motive s := by
  induction hn : s.length using Nat.strongRecOn generalizing s with
  | _ n ih =>
    cases s with
    | nil => exact nil
    | cons c s =>
      cases h : after? f (c :: s) with
      | none => exact char c s h (ih _ (by rw [← hn, List.length_cons]; omega) s rfl)
      | some rest =>
        have hs := after?_eq_some_iff.mp h
        have hp := List.length_pos_iff.mpr hf
        rw [hs] at hn ⊢
        exact hit rest (ih _ (by rw [← hn, List.length_append]; omega) rest rfl)

end
end Search

/-! ### Stems -/

/-- What stands before `f` at the end of a word, if the search from the left ends with an occurrence there. -/
def stem? (f word : Text) : Option Text :=
  let ps := (Search.plain f).pieces word
  if ps.getLast? = some (.hit []) then some (ps.dropLast.flatMap (Search.Piece.spell f)) else none

section
variable {f name : Text}

theorem stem?_nil (hf : f ≠ []) : stem? f [] = none := by simp [stem?, Search.pieces_plain_nil hf]

theorem stem?_none (hf : f ≠ []) {c : Char} {w : Text} (h : after? f (c :: w) = none) :
    stem? f (c :: w) = (stem? f w).map (c :: ·) := by
  unfold stem?
  rw [Search.pieces_plain_none hf h]
  cases hp : (Search.plain f).pieces w with
  | nil => simp
  | cons a ps => by_cases hl : (a :: ps).getLast? = some (.hit []) <;> simp_all [Search.Piece.spell]

theorem pieces_ne_nil (hf : f ≠ []) {w : Text} (hw : w ≠ []) : (Search.plain f).pieces w ≠ [] := by
  obtain ⟨c, w, rfl⟩ := List.exists_cons_of_ne_nil hw
  cases h : after? f (c :: w) with
  | none =>
    rw [Search.pieces_plain_none hf h]
    exact List.cons_ne_nil _ _
  | some rest =>
    rw [after?_eq_some_iff.mp h, Search.pieces_plain_append hf]
    exact List.cons_ne_nil _ _

theorem stem?_self (hf : f ≠ []) : stem? f f = some [] := by
  have h := Search.pieces_plain_append hf []
  rw [List.append_nil, Search.pieces_plain_nil hf] at h
  simp [stem?, h]

theorem stem?_append (hf : f ≠ []) {w : Text} (hw : w ≠ []) : stem? f (f ++ w) = (stem? f w).map (f ++ ·) := by
  unfold stem?
  rw [Search.pieces_plain_append hf]
  cases hp : (Search.plain f).pieces w with
  | nil => exact absurd hp (pieces_ne_nil hf hw)
  | cons a ps => by_cases hl : (a :: ps).getLast? = some (.hit []) <;> simp_all [Search.Piece.spell]

/-- The stem and the name make the word. -/
theorem eq_append_of_stem? (hf : f ≠ []) {w stem : Text} (h : stem? f w = some stem) : w = stem ++ f := by
  induction w using Search.plain_induction hf generalizing stem with
  | nil => rw [stem?_nil hf] at h; cases h
  | char c w hc ih =>
    rw [stem?_none hf hc] at h
    obtain ⟨u, hu, rfl⟩ := Option.map_eq_some_iff.mp h
    rw [List.cons_append, ← ih hu]
  | hit rest ih =>
    by_cases hr : rest = []
    · rw [hr, List.append_nil, stem?_self hf] at h
      cases h
      rw [hr, List.append_nil, List.nil_append]
    · rw [stem?_append hf hr] at h
      obtain ⟨u, hu, rfl⟩ := Option.map_eq_some_iff.mp h
      rw [List.append_assoc, ← ih hu]

/-- A search from the left, in which no two occurrences share a character, ends with an occurrence of `f`. -/
inductive FoundAtEnd (f : Text) : Text → Prop
  | here : FoundAtEnd f f
  | skip {c : Char} {w : Text} (h : ¬ f <+: c :: w) (hw : FoundAtEnd f w) : FoundAtEnd f (c :: w)
  | again {w : Text} (hw : FoundAtEnd f w) : FoundAtEnd f (f ++ w)

theorem FoundAtEnd.suffix {w : Text} (h : FoundAtEnd f w) : f <:+ w := by
  induction h with
  | here => exact List.suffix_refl f
  | @skip c w _ _ ih => exact ih.trans (List.suffix_cons c w)
  | @again w _ ih => exact ih.trans (List.suffix_append f w)

theorem stem?_ne_none_iff (hf : f ≠ []) {w : Text} : stem? f w ≠ none ↔ FoundAtEnd f w := by
  constructor
  · induction w using Search.plain_induction hf with
    | nil => exact fun h => absurd (stem?_nil hf) h
    | char c w hc ih =>
      intro h
      rw [stem?_none hf hc, Ne, Option.map_eq_none_iff] at h
      refine .skip ?_ (ih h)
      rintro ⟨rest, hrest⟩
      rw [after?_eq_some_iff.mpr hrest.symm] at hc
      cases hc
    | hit rest ih =>
      intro h
      by_cases hr : rest = []
      · rw [hr, List.append_nil]
        exact .here
      · rw [stem?_append hf hr, Ne, Option.map_eq_none_iff] at h
        exact .again (ih h)
  · intro h
    induction h with
    | here => simp [stem?_self hf]
    | @skip c w h _ ih =>
      have hc : after? f (c :: w) = none := by
        cases ha : after? f (c :: w) with
        | none => rfl
        | some rest => exact absurd ⟨rest, (after?_eq_some_iff.mp ha).symm⟩ h
      rwa [stem?_none hf hc, Ne, Option.map_eq_none_iff]
    | @again w _ ih =>
      have hw : w ≠ [] := by
        rintro rfl
        exact ih (stem?_nil hf)
      rwa [stem?_append hf hw, Ne, Option.map_eq_none_iff]

/-- Puts `name` for the function `f` at the end of a word that a call follows. -/
def callRule (f name : Text) : Rule Char := fun c rest =>
  if isCallFollower rest then (stem? f c).map (· ++ name) else none

/-! ### Words in call position -/

theorem isCallFollower_append {u s : Text} (hu : ∀ c ∈ u, c ≠ '(' ∧ c ≠ ' ') :
    isCallFollower (u ++ s) = (u.isEmpty && isCallFollower s) := by
  cases u with
  | nil => rfl
  | cons c u =>
    obtain ⟨h₁, h₂⟩ := hu c List.mem_cons_self
    simp [isCallFollower, h₁, h₂]

/-- No occurrence begins with a character that it does not have. -/
theorem after?_cons_eq_none (hf : f ≠ []) {c : Char} (hc : c ∉ f) (s : Text) : after? f (c :: s) = none := by
  obtain ⟨d, u, rfl⟩ := List.exists_cons_of_ne_nil hf
  refine Option.eq_none_iff_forall_ne_some.mpr fun rest h => hc ?_
  rw [(List.cons.inj (after?_eq_some_iff.mp h)).1]
  exact List.mem_cons_self

/-- No occurrence begins before a text that it cannot reach into, unless it ends there too. -/
theorem after?_append_eq_none {r s : Text} (hs : ∀ c ∈ s.head?, c ∉ f) (h : after? f r = none) :
    after? f (r ++ s) = none := by
  cases ha : after? f (r ++ s) with
  | none => rfl
  | some rest =>
    rcases List.append_eq_append_iff.mp (after?_eq_some_iff.mp ha) with ⟨u, hfu, hsu⟩ | ⟨u, hru, -⟩
    · cases u with
      | nil =>
        have hr : r = f ++ [] := by rw [hfu, List.append_nil, List.append_nil]
        rw [after?_eq_some_iff.mpr hr] at h
        cases h
      | cons c u => exact absurd (hfu ▸ List.mem_append_right r List.mem_cons_self) (hs c (by rw [hsu]; rfl))
    · rw [after?_eq_some_iff.mpr hru] at h
      cases h

/-- A stretch in which nothing is called, before a text that no occurrence reaches into, changes at its end at most. -/
theorem renameFunction_append (hf : f ≠ []) {r s : Text} (hr : ∀ c ∈ r, c ≠ '(' ∧ c ≠ ' ')
    (hs : ∀ c ∈ s.head?, c ∉ f) :
    renameFunction f name (r ++ s) = (renameFunction f name s).after ((callRule f name r s).getD r)
      (if (callRule f name r s).isSome then 1 else 0) := by
  unfold renameFunction
  induction r using Search.plain_induction hf with
  | nil => simp [callRule, stem?_nil hf, Pass.after]
  | char c r hc ih =>
    have hnone : after? f (c :: (r ++ s)) = none := after?_append_eq_none hs hc
    rw [List.cons_append, Search.replace_plain_none hf hnone, ih fun d hd => hr d (List.mem_cons_of_mem c hd),
      Pass.after_after]
    cases hst : stem? f r <;> cases hcall : isCallFollower s <;> simp [callRule, stem?_none hf hc, hst, hcall]
  | hit rest ih =>
    have hrest : ∀ c ∈ rest, c ≠ '(' ∧ c ≠ ' ' := fun c hc => hr c (List.mem_append_right f hc)
    have hg : (Guard.ofTest isCallFollower).admits (rest ++ s) = (rest.isEmpty && isCallFollower s) :=
      isCallFollower_append hrest
    rw [List.append_assoc, Search.replace_plain_append hf, ih hrest, Pass.after_after, hg]
    by_cases he : rest = []
    · subst he
      cases hcall : isCallFollower s <;> simp [callRule, stem?_nil hf, stem?_self hf, hcall]
    · cases hst : stem? f rest <;> cases hcall : isCallFollower s <;> simp [callRule, stem?_append hf he, hst, hcall, he]

theorem ne_follower_of_isWord {c : Char} (h : isWord c = true) : c ≠ '(' ∧ c ≠ ' ' := by
  constructor <;> rintro rfl <;> revert h <;> decide

/-- Renaming a function goes word by word. -/
theorem renameFunction_eq_pass (hf : IsWordText f) (s : Text) : renameFunction f name s = (callRule f name).pass s := by
  induction s using cluster_induction isWord with
  | nil => exact Search.replace_plain_nil hf.ne_nil
  | single c s hc ih =>
    have hmem : c ∉ f := fun hcf => Bool.false_ne_true (hc.symm.trans (hf.all c hcf))
    have hnone : ∀ t, after? f (c :: t) = none := after?_cons_eq_none hf.ne_nil hmem
    have hrule : callRule f name [c] s = none := by
      simp [callRule, stem?_none hf.ne_nil (hnone []), stem?_nil hf.ne_nil]
    rw [renameFunction, Search.replace_plain_none hf.ne_nil (hnone s), Rule.pass_cons_of_neg _ hc, hrule, ← ih]
    rfl
  | run r s hne hr hs ih =>
    rw [Rule.pass_run_append _ hne hr hs, ← ih]
    refine renameFunction_append hf.ne_nil (fun c hc => ne_follower_of_isWord (hr c hc)) fun c hc => ?_
    exact hf.not_mem (hs c hc)

end
end Cloak
