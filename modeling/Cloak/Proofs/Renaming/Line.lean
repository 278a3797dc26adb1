import Cloak.Proofs.Renaming.Call

/-! Renaming of functions seen line by line. No function has white space in its name, and a line break is not what follows
    a call; so a pass over functions changes each line by itself. A line that is changed holds the name put there. -/

namespace Cloak

section
variable {f name : Text}

/-! ### One function -/

/-- What follows no call and is no part of the function cuts the text. -/
theorem renameFunction_cut (hf : f ≠ []) {c : Char} (hc : c ∉ f) (hcall : c ≠ '(' ∧ c ≠ ' ') (name a b : Text) :
    renameFunction f name (a ++ c :: b) = (renameFunction f name b).after ((renameFunction f name a).text ++ [c])
      (renameFunction f name a).replaced := by
  have hhead : ∀ d ∈ (c :: b).head?, d ∉ f := fun d hd => Option.some.inj hd ▸ hc
  have hfollow : isCallFollower (c :: b) = false := by simp [isCallFollower, hcall]
  unfold renameFunction
  induction a using Search.plain_induction hf with
  | nil =>
    rw [List.nil_append, Search.replace_plain_none hf (after?_cons_eq_none hf hc b), Search.replace_plain_nil hf]
    rfl
  | char d a hd ih =>
    have hnone : after? f (d :: (a ++ c :: b)) = none := after?_append_eq_none hhead hd
    rw [List.cons_append, Search.replace_plain_none hf hnone, ih, Search.replace_plain_none hf hd, Pass.after_after,
      Pass.text_after, Pass.replaced_after, List.append_assoc]
  | hit rest ih =>
    -- An occurrence at the end is no call, with the separator after it or without.
    have hsame : (Guard.ofTest isCallFollower).admits (rest ++ c :: b) = (Guard.ofTest isCallFollower).admits rest := by
      cases rest with
      | nil => exact hfollow
      | cons d rest => rfl
    rw [List.append_assoc, Search.replace_plain_append hf, ih, Search.replace_plain_append hf, hsame, Pass.after_after,
      Pass.text_after, Pass.replaced_after, List.append_assoc]

/-- A text that is changed holds the name. -/
theorem renameFunction_text_cases (hf : f ≠ []) (s : Text) :
    (renameFunction f name s).text = s ∨ name <:+: (renameFunction f name s).text := by
  unfold renameFunction
  induction s using Search.plain_induction hf with
  | nil =>
    rw [Search.replace_plain_nil hf]
    exact Or.inl rfl
  | char c s hc ih =>
    rw [Search.replace_plain_none hf hc, Pass.text_after, List.singleton_append]
    exact ih.imp (congrArg (c :: ·)) List.infix_cons
  | hit rest ih =>
    rw [Search.replace_plain_append hf, Pass.text_after]
    split
    · exact Or.inr (List.prefix_append name _).isInfix
    · rcases ih with ih | ih
      · exact Or.inl (by rw [ih])
      · exact Or.inr (ih.trans (List.suffix_append f _).isInfix)

theorem mem_renameFunction {s : Text} {c : Char} (hf : f ≠ []) (h : c ∈ (renameFunction f name s).text) :
    c ∈ s ∨ c ∈ name := by
  unfold renameFunction at h
  induction s using Search.plain_induction hf with
  | nil =>
    rw [Search.replace_plain_nil hf] at h
    cases h
  | char d s hd ih =>
    rw [Search.replace_plain_none hf hd, Pass.text_after, List.singleton_append] at h
    rcases List.mem_cons.mp h with rfl | h
    · exact Or.inl List.mem_cons_self
    · exact (ih h).imp_left (List.mem_cons_of_mem d)
  | hit rest ih =>
    rw [Search.replace_plain_append hf, Pass.text_after] at h
    rcases List.mem_append.mp h with h | h
    · split at h
      · exact Or.inr h
      · exact Or.inl (List.mem_append_left rest h)
    · exact (ih h).imp_left (List.mem_append_right f)

theorem ne_follower_of_isLineBreak {c : Char} (h : isLineBreak c = true) : c ≠ '(' ∧ c ≠ ' ' := by
  constructor <;> rintro rfl <;> cases h

/-- Renaming a function goes line by line, whichever line breaks are looked at. -/
theorem splitOnP_renameFunction {p : Char → Bool} (hp : ∀ c, p c = true → isLineBreak c = true) (hf : IsSolid f)
    (hname : ∀ c ∈ name, p c = false) (s : Text) :
    (renameFunction f name s).text.splitOnP p = (s.splitOnP p).map fun l => (renameFunction f name l).text := by
  have hline : ∀ {l : Text}, (∀ c ∈ l, p c = false) → ∀ c ∈ (renameFunction f name l).text, p c = false := fun hl c hc =>
    (mem_renameFunction hf.ne_nil hc).elim (hl c) (hname c)
  induction s using piece_induction p with
  | piece l hl => rw [List.splitOnP_eq_singleton hl, List.splitOnP_eq_singleton (hline hl), List.map_singleton]
  | cut l c s hl hc ih =>
    have hbreak := hp c hc
    have hcut := renameFunction_cut hf.ne_nil (hf.not_mem (isBlank_of_isLineBreak hbreak)) (ne_follower_of_isLineBreak hbreak)
      name l s
    rw [hcut, Pass.text_after, List.append_assoc, List.singleton_append,
      List.splitOnP_append_cons_of_forall_mem (hline hl) c hc, List.splitOnP_append_cons_of_forall_mem hl c hc, ih,
      List.map_cons]

end

/-! ### The functions of a table -/

section
variable {es : List (Text × Text)}

theorem splitOnP_run {p : Char → Bool} (hp : ∀ c, p c = true → isLineBreak c = true)
    (hes : ∀ e ∈ es, IsSolid e.1 ∧ ∀ c ∈ e.2, p c = false) (s : Text) :
    (Pass.run renameFunction es s).splitOnP p = (s.splitOnP p).map (Pass.run renameFunction es) := by
  induction es generalizing s with
  | nil => exact (List.map_id' _).symm
  | cons e es ih =>
    obtain ⟨hf, hname⟩ := hes e List.mem_cons_self
    have hrest := ih (fun d hd => hes d (List.mem_cons_of_mem e hd)) (renameFunction e.1 e.2 s).text
    rw [splitOnP_renameFunction hp hf hname, List.map_map] at hrest
    exact hrest

/-- A line in which no name stands was there before, and no function changes it. -/
theorem eq_of_run (hes : ∀ e ∈ es, IsSolid e.1) {l line : Text} (habsent : ∀ e ∈ es, ¬ e.2 <:+: line)
    (h : Pass.run renameFunction es l = line) : l = line ∧ ∀ e ∈ es, (renameFunction e.1 e.2 line).text = line := by
  induction es generalizing l with
  | nil => exact ⟨h, fun e he => by cases he⟩
  | cons e es ih =>
    obtain ⟨hline, hfix⟩ := ih (fun d hd => hes d (List.mem_cons_of_mem e hd))
      (fun d hd => habsent d (List.mem_cons_of_mem e hd)) h
    rcases renameFunction_text_cases (hes e List.mem_cons_self).ne_nil l with hl | hl
    · have heq : l = line := hl.symm.trans hline
      exact ⟨heq, List.forall_mem_cons.mpr ⟨by rw [← heq, hl], hfix⟩⟩
    · exact absurd (hline ▸ hl) (habsent e List.mem_cons_self)

theorem run_of_fixed {line : Text} (h : ∀ e ∈ es, (renameFunction e.1 e.2 line).text = line) :
    Pass.run renameFunction es line = line := by
  induction es with
  | nil => rfl
  | cons e es ih =>
    have he := h e List.mem_cons_self
    have hes := ih fun d hd => h d (List.mem_cons_of_mem e hd)
    rw [Pass.run_cons, he, hes]

end
end Cloak
