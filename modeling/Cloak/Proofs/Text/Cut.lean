import Cloak.Text.Basic
import Mathlib.Data.List.Basic
import Mathlib.Data.List.DropRight

/-! Parts of a text: the pieces between separators, and texts without white space. -/

namespace Cloak

theorem dropEndWhile_eq_rdropWhile {α : Type} (p : α → Bool) (l : List α) : dropEndWhile p l = l.rdropWhile p := rfl

/-! ### Pieces -/

/-- Induction along the pieces of a list: one piece, or a piece, a separator and the rest. -/
theorem piece_induction {α : Type} (p : α → Bool) {motive : List α → Prop} (piece : ∀ l, (∀ a ∈ l, p a = false) → motive l)
    (cut : ∀ l a s, (∀ b ∈ l, p b = false) → p a = true → motive s → motive (l ++ a :: s)) (l : List α) : motive l := by
  suffices h : ∀ l first : List α, (∀ a ∈ first, p a = false) → motive (first ++ l) from h l [] fun a ha => by cases ha
  intro l
  induction l with
  | nil =>
    intro first hfirst
    rw [List.append_nil]
    exact piece first hfirst
  | cons a l ih =>
    intro first hfirst
    cases ha : p a with
    | true => exact cut first a l hfirst ha (ih [] fun b hb => by cases hb)
    | false =>
      rw [List.append_cons]
      refine ih (first ++ [a]) fun b hb => ?_
      rcases List.mem_append.mp hb with hb | hb
      · exact hfirst b hb
      · rwa [List.mem_singleton.mp hb]

/-- A piece stands in the list, and a separator or nothing comes before and after it. -/
theorem exists_append_of_mem_splitOnP {α : Type} {p : α → Bool} {l d : List α} (h : d ∈ l.splitOnP p) :
    ∃ a b, l = a ++ (d ++ b) ∧ (∀ c ∈ b.head?, p c = true) ∧ ∀ c ∈ a.getLast?, p c = true := by
  induction l using piece_induction p with
  | piece l hl =>
    rw [List.splitOnP_eq_singleton hl, List.mem_singleton] at h
    subst h
    exact ⟨[], [], (List.append_nil d).symm, by simp, by simp⟩
  | cut l c s hl hc ih =>
    rw [List.splitOnP_append_cons_of_forall_mem hl c hc] at h
    rcases List.mem_cons.mp h with rfl | hd
    · refine ⟨[], c :: s, rfl, fun e he => ?_, by simp⟩
      cases he
      exact hc
    · obtain ⟨a, b, rfl, hb, ha⟩ := ih hd
      refine ⟨l ++ c :: a, b, (List.append_assoc l (c :: a) (d ++ b)).symm, hb, fun e he => ?_⟩
      rw [List.getLast?_append_of_ne_nil _ (List.cons_ne_nil c a)] at he
      cases a with
      | nil =>
        cases he
        exact hc
      | cons f a => exact ha e he

theorem infix_of_mem_splitOnP {α : Type} {p : α → Bool} {l d : List α} (h : d ∈ l.splitOnP p) : d <:+: l := by
  obtain ⟨a, b, rfl, -⟩ := exists_append_of_mem_splitOnP h
  exact ⟨a, b, List.append_assoc a d b⟩

theorem not_of_mem_splitOnP {α : Type} {p : α → Bool} {l d : List α} (h : d ∈ l.splitOnP p) : ∀ a ∈ d, p a = false := by
  induction l using piece_induction p with
  | piece l hl =>
    rw [List.splitOnP_eq_singleton hl, List.mem_singleton] at h
    exact h ▸ hl
  | cut l c s hl hc ih =>
    rw [List.splitOnP_append_cons_of_forall_mem hl c hc] at h
    rcases List.mem_cons.mp h with rfl | hd
    · exact hl
    · exact ih hd

/-! ### Parts of a joined list -/

section
variable {α : Type} {n a b : List α} {c : α}

/-- A part without the element between two lists is a part of one of them. -/
theorem infix_of_infix_append_cons (hc : c ∉ n) (h : n <:+: a ++ c :: b) : n <:+: a ∨ n <:+: b := by
  obtain ⟨x, y, h⟩ := h
  rw [List.append_assoc] at h
  rcases List.append_eq_append_iff.mp h with ⟨u, rfl, hu⟩ | ⟨u, rfl, hu⟩
  · rcases List.append_eq_append_iff.mp hu with ⟨v, rfl, hv⟩ | ⟨v, rfl, hv⟩
    · exact Or.inl ⟨x, v, List.append_assoc x n v⟩
    · cases v with
      | nil => exact Or.inl ⟨x, [], by rw [List.append_nil, List.append_nil]⟩
      | cons d v =>
        rw [List.cons_append, List.cons.injEq] at hv
        exact absurd (hv.1 ▸ List.mem_append_right u List.mem_cons_self) hc
  · cases u with
    | nil =>
      cases n with
      | nil => exact Or.inl (List.nil_infix)
      | cons d n =>
        rw [List.nil_append, List.cons_append, List.cons.injEq] at hu
        exact absurd (hu.1 ▸ List.mem_cons_self) hc
    | cons d u =>
      rw [List.cons_append, List.cons.injEq] at hu
      exact Or.inr ⟨u, y, by rw [hu.2, List.append_assoc]⟩

theorem infix_of_infix_append_run {r : List α} (hn : n ≠ []) (hne : r ≠ []) (hr : ∀ c ∈ r, c ∉ n)
    (h : n <:+: a ++ (r ++ b)) : n <:+: a ∨ n <:+: b := by
  induction r generalizing a with
  | nil => exact absurd rfl hne
  | cons c r ih =>
    rw [List.cons_append] at h
    refine (infix_of_infix_append_cons (hr c List.mem_cons_self) h).imp_right fun h => ?_
    cases r with
    | nil => exact h
    | cons d r =>
      rcases ih (a := []) (List.cons_ne_nil d r) (fun e he => hr e (List.mem_cons_of_mem c he)) h with h | h
      · exact absurd (List.infix_nil.mp h) hn
      · exact h

end

/-! ### Solid texts -/

/-- A property is checked one character after the other. -/
theorem forall_of_all {t : Text} {P : Char → Prop} [DecidablePred P] (h : t.all (fun c => decide (P c)) = true) :
    ∀ c ∈ t, P c := fun c hc =>
  of_decide_eq_true (List.all_eq_true.mp h c hc)

/-- Not empty, and without white space. -/
structure IsSolid (t : Text) : Prop where
  ne_nil : t ≠ []
  not_blank : ∀ c ∈ t, isBlank c = false

theorem IsSolid.not_mem {t : Text} (ht : IsSolid t) {c : Char} (hc : isBlank c = true) : c ∉ t := by
  intro hmem
  rw [ht.not_blank c hmem] at hc
  cases hc

theorem IsSolid.not_isLineBreak {t : Text} (ht : IsSolid t) : ∀ c ∈ t, isLineBreak c = false := fun _ hc =>
  Bool.eq_false_iff.mpr fun h => ht.not_mem (isBlank_of_isLineBreak h) hc

end Cloak
