import Cloak.Proofs.Renaming.Sweep

/-! What guards look at. A guard asks whether its marker stands in the rest of the statement. No part of a marker is in a word, so
    the answer is the same for all texts that differ in words only. -/

namespace Cloak

/-! ### The rest of a statement -/

section
variable {marker : Text}

theorem Text.statement_cons {c : Char} (hc : c ≠ ';') (s : Text) : statement (c :: s) = c :: statement s := by
  simp [statement, hc]

theorem Text.statement_append_semicolon (a b : Text) : statement (a ++ ';' :: b) = statement a := by
  induction a with
  | nil => simp [statement]
  | cons c a ih =>
    by_cases hc : c = ';'
    · simp [statement, hc]
    · rw [List.cons_append, statement_cons hc, statement_cons hc, ih]

theorem Text.isPrefixOf_statement (h : ';' ∉ marker) (s : Text) : marker.isPrefixOf (statement s) = marker.isPrefixOf s := by
  induction s generalizing marker with
  | nil => rfl
  | cons c s ih =>
    cases marker with
    | nil => rfl
    | cons a marker =>
      rw [List.mem_cons, not_or] at h
      by_cases hc : c = ';'
      · subst hc
        simp [statement, List.isPrefixOf, Ne.symm h.1]
      · rw [statement_cons hc, List.isPrefixOf, List.isPrefixOf, ih h.2]

/-- The marker stands between here and the next `;`. -/
def isQuoted (marker rest : Text) : Bool := Text.occursIn marker (Text.statement rest)

/-- What marks the end of a string: no part of it is in a word, and it holds no `;`. -/
structure IsMarker (marker : Text) : Prop where
  ne_nil : marker ≠ []
  outside : ∀ c ∈ marker, isWord c = false
  semicolon : ';' ∉ marker

theorem isMarker_quote : IsMarker ['"'] := ⟨by simp, forall_of_all rfl, by simp⟩

theorem isMarker_quoteParen : IsMarker ['"', ')'] := ⟨by simp, forall_of_all rfl, by simp⟩

theorem IsMarker.startsOutside (hm : IsMarker marker) (s : Text) : StartsOutside isWord (marker ++ s) := by
  obtain ⟨a, m, rfl⟩ := List.exists_cons_of_ne_nil hm.ne_nil
  exact startsOutside_cons.mpr (hm.outside a List.mem_cons_self)

theorem isUnquoted_eq (hm : IsMarker marker) (s : Text) : isUnquoted marker s = !isQuoted marker s := by
  unfold isQuoted
  induction s with
  | nil => simp [isUnquoted, Text.statement, Text.occursIn, hm.ne_nil]
  | cons c s ih =>
    by_cases hc : c = ';'
    · simp [isUnquoted, Text.statement, Text.occursIn, hm.ne_nil, hc]
    · have hstart := Text.isPrefixOf_statement hm.semicolon (c :: s)
      rw [Text.statement_cons hc] at hstart ⊢
      rw [isUnquoted, Text.occursIn, hstart, ih, Bool.not_or, beq_eq_false_iff_ne.mpr hc, Bool.false_or]

theorem isQuoted_append (hm : IsMarker marker) {s : Text} (hs : ';' ∉ s) (q : Text) :
    isQuoted marker (s ++ (marker ++ q)) = true := by
  unfold isQuoted
  induction s with
  | nil =>
    obtain ⟨a, m, rfl⟩ := List.exists_cons_of_ne_nil hm.ne_nil
    have ha : a ≠ ';' := fun ha => hm.semicolon (ha ▸ List.mem_cons_self)
    have hstart := Text.isPrefixOf_statement hm.semicolon (a :: m ++ q)
    rw [List.cons_append, Text.statement_cons ha] at hstart
    rw [List.nil_append, List.cons_append, Text.statement_cons ha, Text.occursIn, hstart]
    simp
  | cons c s ih =>
    rw [List.mem_cons, not_or] at hs
    rw [List.cons_append, Text.statement_cons (Ne.symm hs.1), Text.occursIn, ih hs.2, Bool.or_true]

end

/-! ### Texts that differ in words -/

/-- `t` is `s` with words put for words. -/
inductive Respells : Text → Text → Prop
  | nil : Respells [] []
  | char {c : Char} {s t : Text} (hc : isWord c = false) (h : Respells s t) : Respells (c :: s) (c :: t)
  | word {r r' s t : Text} (hr : IsWordText r) (hr' : IsWordText r') (h : Respells s t) : Respells (r ++ s) (r' ++ t)

section
variable {s t marker : Text}

theorem not_startsOutside_append {r : Text} (hr : IsWordText r) (s : Text) : ¬ StartsOutside isWord (r ++ s) := by
  obtain ⟨c, r, rfl⟩ := List.exists_cons_of_ne_nil hr.ne_nil
  intro h
  have hc := startsOutside_cons.mp h
  rw [hr.all c List.mem_cons_self] at hc
  cases hc

theorem Respells.startsOutside (h : Respells s t) (hs : StartsOutside isWord s) : StartsOutside isWord t := by
  cases h with
  | nil => exact hs
  | char hc _ => exact startsOutside_cons.mpr hc
  | word hr _ _ => exact absurd hs (not_startsOutside_append hr _)

theorem isPrefixOf_word_append {a : Char} (ha : isWord a = false) {r : Text} (hr : IsWordText r) (s : Text) :
    (a :: marker).isPrefixOf (r ++ s) = false := by
  obtain ⟨c, r, rfl⟩ := List.exists_cons_of_ne_nil hr.ne_nil
  have hne : a ≠ c := by
    rintro rfl
    exact hr.not_mem ha List.mem_cons_self
  simp [List.isPrefixOf, hne]

theorem Respells.isPrefixOf (h : Respells s t) (hm : ∀ c ∈ marker, isWord c = false) :
    marker.isPrefixOf s = marker.isPrefixOf t := by
  induction h generalizing marker with
  | nil => rfl
  | char hc _ ih =>
    cases marker with
    | nil => rfl
    | cons a marker => rw [List.isPrefixOf, List.isPrefixOf, ih fun c hc => hm c (List.mem_cons_of_mem a hc)]
  | word hr hr' _ _ =>
    cases marker with
    | nil => simp
    | cons a marker =>
      have ha := hm a List.mem_cons_self
      rw [isPrefixOf_word_append ha hr, isPrefixOf_word_append ha hr']

theorem isUnquoted_word_append (hm : IsMarker marker) {r : Text} (hr : IsWordText r) (s : Text) :
    isUnquoted marker (r ++ s) = isUnquoted marker s := by
  refine isUnquoted_append hm.ne_nil (fun c hc => ⟨?_, fun hhead => ?_⟩) s
  · rintro rfl
    exact hr.not_mem rfl hc
  · exact hr.not_mem (hm.outside c (List.mem_of_mem_head? hhead)) hc

theorem Respells.isUnquoted (h : Respells s t) (hm : IsMarker marker) : isUnquoted marker s = isUnquoted marker t := by
  induction h with
  | nil => rfl
  | char hc h ih => rw [Cloak.isUnquoted, Cloak.isUnquoted, (Respells.char hc h).isPrefixOf hm.outside, ih]
  | word hr hr' _ ih => rw [isUnquoted_word_append hm hr, isUnquoted_word_append hm hr', ih]

theorem Respells.isQuoted (h : Respells s t) (hm : IsMarker marker) : isQuoted marker s = isQuoted marker t := by
  have hguard := h.isUnquoted hm
  rw [isUnquoted_eq hm, isUnquoted_eq hm] at hguard
  exact Bool.not_inj hguard

end

end Cloak
