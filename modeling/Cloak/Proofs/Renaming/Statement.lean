import Cloak.Proofs.Renaming.Marker

/-! Guards and statements. A guarded symbol is judged by the rest of its statement only. So a `;` cuts a text into two parts that
    are renamed for themselves, and between a `;` and the marker of a string nothing is renamed. A symbol leaves every `;` and
    every such string where it is, hence the same holds of a whole table. -/

namespace Cloak

/-! ### Rules that heed a marker -/

/-- A rule that leaves single characters alone, judges a word by the rest of its statement, and leaves it if the marker stands
    there. -/
structure Rule.Heeds (marker : Text) (rule : Rule Char) : Prop where
  single : ∀ c rest, isWord c = false → rule [c] rest = none
  statement : ∀ w rest rest', Text.statement rest = Text.statement rest' → rule w rest = rule w rest'
  quoted : ∀ w rest, isQuoted marker rest = true → rule w rest = none

section
variable {marker symbol name : Text} {rule : Rule Char}

theorem heeds_wordRule (hm : IsMarker marker) (hs : IsWordText symbol) :
    (wordRule symbol name (wordAdmits symbol (Guard.unquoted marker))).Heeds marker := by
  have hadmits : ∀ rest, wordAdmits symbol (Guard.unquoted marker) rest =
      (decide (Utf8.size symbol ≤ Search.longestWord) && !isQuoted marker rest) := by
    intro rest
    rw [wordAdmits, Guard.admits_unquoted, isUnquoted_eq hm]
  refine ⟨?_, ?_, ?_⟩
  · rintro c rest hc
    refine if_neg ?_
    rintro ⟨rfl, -⟩
    exact hs.not_mem hc List.mem_cons_self
  · intro w rest rest' h
    simp only [wordRule, hadmits, isQuoted, h]
  · intro w rest h
    simp [wordRule, hadmits, h]

theorem Rule.Heeds.pass_cons (h : rule.Heeds marker) {c : Char} (hc : isWord c = false) (s : Text) :
    rule.pass (c :: s) = (rule.pass s).after [c] 0 :=
  pass_cons_of_single h.single hc s

/-- A `;` cuts the text: both sides are renamed for themselves. -/
theorem Rule.Heeds.pass_semicolon (h : rule.Heeds marker) (a b : Text) :
    rule.pass (a ++ ';' :: b) = (rule.pass b).after ((rule.pass a).text ++ [';']) (rule.pass a).replaced := by
  have hsemi : isWord ';' = false := rfl
  induction a using cluster_induction isWord with
  | nil => exact h.pass_cons hsemi b
  | single c a hc ih =>
    rw [List.cons_append, h.pass_cons hc, h.pass_cons hc, ih, Pass.after_after]
    rfl
  | run r a hne hr ha ih =>
    have hout : StartsOutside isWord (a ++ ';' :: b) := ha.append (startsOutside_cons.mpr hsemi)
    -- The word is judged by the rest of its statement, which ends before the cut.
    have hjudge := h.statement r _ _ (Text.statement_append_semicolon a b)
    rw [List.append_assoc, pass_run_append rule hne hr hout, pass_run_append rule hne hr ha, hjudge, ih, Pass.after_after]
    simp

/-- Up to a marker in its statement nothing is renamed. -/
theorem Rule.Heeds.pass_quoted (h : rule.Heeds marker) (hm : IsMarker marker) {s : Text} (hs : ';' ∉ s) (q : Text) :
    rule.pass (s ++ (marker ++ q)) = (rule.pass q).after (s ++ marker) 0 := by
  induction s using cluster_induction isWord with
  | nil => exact pass_append_of_single h.single hm.outside q
  | single c s hc ih =>
    rw [List.mem_cons, not_or] at hs
    rw [List.cons_append, h.pass_cons hc, ih hs.2, Pass.after_after]
    rfl
  | run r s hne hr hout ih =>
    rw [List.mem_append, not_or] at hs
    have hrest : StartsOutside isWord (s ++ (marker ++ q)) := hout.append (hm.startsOutside q)
    rw [List.append_assoc, Rule.pass_run_append rule hne hr hrest, h.quoted r _ (isQuoted_append hm hs.2 q), ih hs.2,
      Pass.after_after]
    simp

/-! ### Around a string -/

/-- No statement is open at the end of the text. -/
def IsClosed (p : Text) : Prop := p = [] ∨ ∃ a, p = a ++ [';']

/-- A string that a closed text comes before stays as it is, and what comes before it and after it is renamed for itself. -/
theorem Rule.Heeds.pass_around (h : rule.Heeds marker) (hm : IsMarker marker) {p s : Text} (hp : IsClosed p) (hs : ';' ∉ s)
    (q : Text) :
    IsClosed (rule.pass p).text ∧
      rule.pass (p ++ (s ++ marker) ++ q) =
        (rule.pass q).after ((rule.pass p).text ++ (s ++ marker)) (rule.pass p).replaced := by
  have hempty : rule.pass [] = ⟨[], 0⟩ := rfl
  have hstring : rule.pass (s ++ marker ++ q) = (rule.pass q).after (s ++ marker) 0 := by
    rw [List.append_assoc, h.pass_quoted hm hs]
  rcases hp with rfl | ⟨a, rfl⟩
  · exact ⟨Or.inl rfl, hstring⟩
  · have hclosed := h.pass_semicolon a []
    rw [hempty] at hclosed
    refine ⟨Or.inr ⟨(rule.pass a).text, by rw [hclosed]; exact List.append_nil _⟩, ?_⟩
    rw [hclosed, List.append_assoc, List.append_assoc, List.singleton_append, h.pass_semicolon, hstring, Pass.after_after]
    simp [Pass.after]

theorem replaceGuarded_around (hm : IsMarker marker) (hx : IsWordText symbol) {p s : Text} (hp : IsClosed p) (hs : ';' ∉ s)
    (q : Text) :
    IsClosed (replaceGuarded marker symbol name p).text ∧
      replaceGuarded marker symbol name (p ++ (s ++ marker) ++ q) =
        (replaceGuarded marker symbol name q).after ((replaceGuarded marker symbol name p).text ++ (s ++ marker))
          (replaceGuarded marker symbol name p).replaced := by
  unfold replaceGuarded
  rw [replaceWord_eq_pass hx, replaceWord_eq_pass hx, replaceWord_eq_pass hx]
  exact (heeds_wordRule hm hx).pass_around hm hp hs q

/-- What every entry leaves in place between two parts that are renamed for themselves, the table leaves in place. -/
theorem Pass.overTable_around {step : (symbol name : Text) → Text → Pass} {t : SymbolTable} {P : Text → Prop} {x : Text}
    (hstep : ∀ e ∈ t.entries, ∀ p q, P p → P (step e.1 e.2 p).text ∧ step e.1 e.2 (p ++ x ++ q) =
      (step e.1 e.2 q).after ((step e.1 e.2 p).text ++ x) (step e.1 e.2 p).replaced)
    {p : Text} (hp : P p) (q : Text) :
    overTable step t (p ++ x ++ q) =
      (overTable step t q).after ((overTable step t p).text ++ x) (overTable step t p).replaced := by
  simp only [overTable_eq]
  -- The counts so far are carried along, as the parts are counted apart.
  suffices hfold : ∀ (es : List (Text × Text)) (p q : Text) (n k : Nat), (∀ e ∈ es, e ∈ t.entries) → P p →
      es.foldl (advance step) ⟨p ++ x ++ q, n + k⟩ = (es.foldl (advance step) ⟨q, k⟩).after
        ((es.foldl (advance step) ⟨p, n⟩).text ++ x) (es.foldl (advance step) ⟨p, n⟩).replaced from
    hfold t.entries p q 0 0 (fun _ he => he) hp
  intro es
  induction es with
  | nil => intro p q n k _ _; rfl
  | cons e es ih =>
    intro p q n k hes hp
    obtain ⟨he, hes⟩ := List.forall_mem_cons.mp hes
    obtain ⟨hp', hcut⟩ := hstep e he p q hp
    have hsum : n + k + ((step e.1 e.2 p).replaced + (step e.1 e.2 q).replaced) =
        n + (step e.1 e.2 p).replaced + (k + (step e.1 e.2 q).replaced) := by omega
    rw [List.foldl_cons, List.foldl_cons, List.foldl_cons, advance, advance, advance, hcut, ← ih _ _ _ _ hes hp', ← hsum]
    rfl

end

/-- Between the end of a statement and the marker of a string nothing is renamed, whatever the table: what comes before and what
    comes after is renamed for itself. -/
theorem rename_around_string {p s : Text} (hp : p = [] ∨ ∃ a, p = a ++ [';']) (hs : ';' ∉ s) (q : Text) :
    (∀ t : SymbolTable, (∀ x ∈ t.symbols, isIdentifier x = true) →
      renameVariables t (p ++ (s ++ ['"', ')']) ++ q) =
        ⟨(renameVariables t p).text ++ (s ++ ['"', ')']) ++ (renameVariables t q).text,
          (renameVariables t p).replaced + (renameVariables t q).replaced⟩) ∧
    ∀ keyword name, isIdentifier keyword = true →
      replaceGuarded ['"'] keyword name (p ++ (s ++ ['"']) ++ q) =
        ⟨(replaceGuarded ['"'] keyword name p).text ++ (s ++ ['"']) ++ (replaceGuarded ['"'] keyword name q).text,
          (replaceGuarded ['"'] keyword name p).replaced + (replaceGuarded ['"'] keyword name q).replaced⟩ := by
  constructor
  · intro t ht
    refine Pass.overTable_around (P := IsClosed) (fun e he p q hp => ?_) hp q
    exact replaceGuarded_around isMarker_quoteParen (isWordText_of_isIdentifier (ht e.1 (List.mem_map_of_mem he))) hp hs q
  · intro keyword name hk
    exact (replaceGuarded_around isMarker_quote (isWordText_of_isIdentifier hk) hp hs q).2

/-- The name of the one variable is the other variable, and both stand in the string too. -/
theorem rename_around_string_sample :
    let t := SymbolTable.ofList [("x".toList, "y".toList), ("y".toList, "z".toList)]
    let p := "x int".toList ++ [';']
    let s := "puts(\"x=y int".toList
    let q := ";y int".toList
    (∀ x ∈ t.symbols, isIdentifier x = true) ∧ isIdentifier "int".toList = true ∧ ';' ∉ s ∧
      renameVariables t (p ++ (s ++ ['"', ')']) ++ q) = ⟨"z int;puts(\"x=y int\");z int".toList, 3⟩ ∧
      replaceGuarded ['"'] "int".toList "k".toList (p ++ (s ++ ['"']) ++ q) = ⟨"x k;puts(\"x=y int\";y k".toList, 2⟩ := by
  intro t p s q
  have hsymbols : ∀ x ∈ t.symbols, isIdentifier x = true := by decide
  have hs : ';' ∉ s := by decide
  obtain ⟨hvars, hkeyword⟩ := rename_around_string (Or.inr ⟨"x int".toList, rfl⟩) hs q
  refine ⟨hsymbols, rfl, hs, (hvars t hsymbols).trans ?_, (hkeyword "int".toList "k".toList rfl).trans ?_⟩
  · decide +kernel
  · decide +kernel

end Cloak
