import Cloak.Proofs.Compaction.Line
import Cloak.Proofs.Renaming.Alias
import Cloak.Proofs.Renaming.Line

/-! Definition lines: how they are cut from a text, collapsed, and changed by a function. A function is renamed before a
    blank even at the end of a word, so it changes a definition if it is found at the end of its first or second word. -/

namespace Cloak

/-! ### Definition lines -/

/-- The word that opens a definition line. -/
def directiveWord : Text := '#' :: defineWord

/-- The alias line of a symbol, without its line break. -/
def definition (symbol name : Text) : Text := directiveWord ++ ' ' :: (name ++ ' ' :: symbol)

theorem aliasLine_eq_definition (symbol name : Text) : aliasLine symbol name = definition symbol name ++ ['\n'] := by
  rw [aliasLine_eq, definition, directiveWord]
  simp

theorem definition_injective {symbol symbol' name name' : Text} (hn : IsWordText name) (hn' : IsWordText name')
    (h : definition symbol name = definition symbol' name') : symbol = symbol' ∧ name = name' := by
  refine aliasLine_injective hn hn' ?_
  rw [aliasLine_eq_definition, aliasLine_eq_definition, h]

theorem isSolid_directiveWord : IsSolid directiveWord := ⟨by decide, forall_of_all (by decide)⟩

section
variable {p : Char → Bool} {symbol name : Text}

theorem not_isLineBreak_of_mem_definition (hs : IsSolid symbol) (hn : IsSolid name) :
    ∀ c ∈ definition symbol name, isLineBreak c = false := by
  have hblank : isLineBreak ' ' = false := rfl
  intro c hc
  simp only [definition, List.mem_append, List.mem_cons] at hc
  rcases hc with hc | rfl | hc | rfl | hc
  · exact isSolid_directiveWord.not_isLineBreak c hc
  · exact hblank
  · exact hn.not_isLineBreak c hc
  · exact hblank
  · exact hs.not_isLineBreak c hc

/-- The lines of a block of aliases are its definitions, the last on top. -/
theorem splitOnP_aliasBlock_append (hp : ∀ c, p c = true → isLineBreak c = true) (hbreak : p '\n' = true)
    {es : List (Text × Text)} (hes : ∀ e ∈ es, IsSolid e.1 ∧ IsSolid e.2) (s : Text) :
    (aliasBlock es ++ s).splitOnP p = es.reverse.map (fun e => definition e.1 e.2) ++ s.splitOnP p := by
  induction es using List.reverseRecOn with
  | nil => rfl
  | append_singleton es e ih =>
    obtain ⟨hs, hn⟩ := hes e (List.mem_append_right es List.mem_cons_self)
    have hrest := ih fun d hd => hes d (List.mem_append_left [e] hd)
    have hline : ∀ c ∈ definition e.1 e.2, p c = false := fun c hc => Bool.eq_false_iff.mpr fun h => by
      have := hp c h
      rw [not_isLineBreak_of_mem_definition hs hn c hc] at this
      cases this
    rw [aliasBlock_concat, aliasLine_eq_definition, List.append_assoc, List.append_assoc, List.singleton_append,
      List.splitOnP_append_cons_of_forall_mem hline '\n' hbreak, hrest, List.reverse_append,
      List.reverse_singleton, List.singleton_append, List.map_cons, List.cons_append]

theorem collapse_blank_append {t : Text} (ht : IsSolid t) (s : Text) :
    Compaction.collapse (' ' :: (t ++ s)) = ' ' :: (t ++ Compaction.collapse s) := by
  have hstart : StartsOutside isBlank (t ++ s) := by
    obtain ⟨c, u, rfl⟩ := List.exists_cons_of_ne_nil ht.ne_nil
    exact startsOutside_cons.mpr (ht.not_blank c List.mem_cons_self)
  have hrun := Compaction.collapse_run_append (r := [' ']) (List.cons_ne_nil ' ' []) (List.forall_mem_singleton.mpr rfl) hstart
  rw [Compaction.collapse_append_of_neg ht.not_blank] at hrun
  exact hrun

theorem collapse_definition (hs : IsSolid symbol) (hn : IsSolid name) :
    Compaction.collapse (definition symbol name) = definition symbol name := by
  have hsymbol := collapse_blank_append hs []
  rw [List.append_nil, Compaction.collapse_nil, List.append_nil] at hsymbol
  rw [definition, Compaction.collapse_append_of_neg isSolid_directiveWord.not_blank, collapse_blank_append hn, hsymbol]

/-- What collapses to a definition is the definition with other white space. -/
theorem exists_of_collapse_eq_definition (hs : IsSolid symbol) (hn : IsSolid name) {line : Text}
    (h : Compaction.collapse line = definition symbol name) :
    ∃ r r' : Text, line = directiveWord ++ (r ++ (name ++ (r' ++ symbol))) ∧ (r ≠ [] ∧ ∀ c ∈ r, isBlank c = true) ∧
      r' ≠ [] ∧ ∀ c ∈ r', isBlank c = true := by
  obtain ⟨u, rfl, hu⟩ := Compaction.eq_append_of_collapse_eq_append isSolid_directiveWord.not_blank h
  obtain ⟨r, t, rfl, hr, hrblank, ht⟩ := Compaction.eq_append_of_collapse_eq_cons (by decide) hu
  obtain ⟨v, rfl, hv⟩ := Compaction.eq_append_of_collapse_eq_append hn.not_blank ht
  obtain ⟨r', w, rfl, hr', hrblank', hw⟩ := Compaction.eq_append_of_collapse_eq_cons (by decide) hv
  rw [← List.append_nil symbol] at hw
  obtain ⟨x, rfl, hx⟩ := Compaction.eq_append_of_collapse_eq_append hs.not_blank hw
  refine ⟨r, r', ?_, ⟨hr, hrblank⟩, hr', hrblank'⟩
  rw [Compaction.eq_nil_of_collapse_eq_nil hx, List.append_nil]

end

/-! ### Functions on a definition -/

/-- The function `f` is found at the end of the first or of the second word of the definition of `name`. -/
def Strikes (f name : Text) : Prop := FoundAtEnd f directiveWord ∨ FoundAtEnd f name

theorem not_strikes_iff {f name : Text} (hf : f ≠ []) :
    ¬ Strikes f name ↔ stem? f directiveWord = none ∧ stem? f name = none := by
  rw [Strikes, ← stem?_ne_none_iff hf, ← stem?_ne_none_iff hf, not_or, not_not, not_not]

section
variable {f newName symbol name : Text}

theorem renameFunction_blank_cons (hf : IsSolid f) (s : Text) :
    renameFunction f newName (' ' :: s) = (renameFunction f newName s).after [' '] 0 :=
  Search.replace_plain_none hf.ne_nil (after?_cons_eq_none hf.ne_nil (hf.not_mem (by decide)) s)

theorem renameFunction_word_append (hf : IsSolid f) {w : Text} (hw : ∀ c ∈ w, c ≠ '(' ∧ c ≠ ' ') (s : Text) :
    (renameFunction f newName (w ++ ' ' :: s)).text =
      ((stem? f w).map (· ++ newName)).getD w ++ ' ' :: (renameFunction f newName s).text := by
  have hhead : ∀ c ∈ (' ' :: s).head?, c ∉ f := fun c hc => Option.some.inj hc ▸ hf.not_mem (by decide)
  rw [renameFunction_append hf.ne_nil hw hhead, renameFunction_blank_cons hf]
  rfl

theorem renameFunction_word (hf : IsSolid f) {w : Text} (hw : ∀ c ∈ w, c ≠ '(' ∧ c ≠ ' ') :
    (renameFunction f newName w).text = w := by
  have h : renameFunction f newName (w ++ []) = _ := renameFunction_append hf.ne_nil hw fun c hc => by cases hc
  rw [List.append_nil] at h
  rw [h, renameFunction, Search.replace_plain_nil hf.ne_nil]
  exact List.append_nil w

/-- A function changes a definition exactly if it strikes it. -/
theorem renameFunction_definition_eq_iff (hf : IsSolid f) (hs : IsWordText symbol) (hn : IsWordText name)
    (habsent : ¬ newName <:+: definition symbol name) :
    (renameFunction f newName (definition symbol name)).text = definition symbol name ↔ ¬ Strikes f name := by
  have hword : ∀ {w : Text}, (∀ c ∈ w, isWord c = true) → ∀ c ∈ w, c ≠ '(' ∧ c ≠ ' ' := fun hw c hc =>
    ne_follower_of_isWord (hw c hc)
  have hdirective : ∀ c ∈ directiveWord, c ≠ '(' ∧ c ≠ ' ' := forall_of_all (by decide)
  have htext : (renameFunction f newName (definition symbol name)).text =
      ((stem? f directiveWord).map (· ++ newName)).getD directiveWord ++
        ' ' :: (((stem? f name).map (· ++ newName)).getD name ++ ' ' :: symbol) := by
    rw [definition, renameFunction_word_append hf hdirective, renameFunction_word_append hf (hword hn.all),
      renameFunction_word hf (hword hs.all)]
  rw [not_strikes_iff hf.ne_nil]
  constructor
  · intro hfix
    rw [htext] at hfix
    constructor
    · cases hstem : stem? f directiveWord with
      | none => rfl
      | some stem =>
        rw [hstem, Option.map_some, Option.getD_some, List.append_assoc] at hfix
        exact absurd (hfix ▸ ⟨stem, _, List.append_assoc stem newName _⟩) habsent
    · cases hstem : stem? f name with
      | none => rfl
      | some stem =>
        rw [hstem, Option.map_some, Option.getD_some] at hfix
        refine absurd (hfix ▸ List.IsInfix.trans ?_ (List.suffix_append _ _).isInfix) habsent
        exact ⟨' ' :: stem, ' ' :: symbol, by simp⟩
  · rintro ⟨hdirective, hname⟩
    rw [htext, hdirective, hname]
    rfl

end

end Cloak
