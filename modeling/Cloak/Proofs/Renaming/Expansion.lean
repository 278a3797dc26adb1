import Cloak.Proofs.Renaming.CalledWord
import Cloak.Proofs.Symbol.Codebook

/-! Expanding the aliases of library functions. The text comes back exactly if every word in call position that an entry touches is
    the symbol of the first entry found at its end, and no later entry is found at the end of the name put for it. -/

namespace Cloak

section
variable {e : Text × Text} {es : List (Text × Text)} {w s : Text}

/-! ### Words that expand back -/

/-- A word in call position that the aliases give back: no entry is found at its end, or it is the symbol of the first that
    is, and no later entry is found at the end of the name put for it. -/
inductive ExpandsBack : List (Text × Text) → Text → Prop
  | untouched {w : Text} : ExpandsBack [] w
  | skip {e : Text × Text} {es : List (Text × Text)} {w : Text} (h : ¬ FoundAtEnd e.1 w) (hes : ExpandsBack es w) :
    ExpandsBack (e :: es) w
  | own {e : Text × Text} {es : List (Text × Text)} (h : ∀ d ∈ es, ¬ FoundAtEnd d.1 e.2) : ExpandsBack (e :: es) e.1

theorem expandsBack_iff :
    ExpandsBack es w ↔ (∀ d ∈ es, ¬ FoundAtEnd d.1 w) ∨ ∃ pre e post, es = pre ++ e :: post ∧ w = e.1 ∧
      (∀ d ∈ pre, ¬ FoundAtEnd d.1 w) ∧ ∀ d ∈ post, ¬ FoundAtEnd d.1 e.2 := by
  constructor
  · intro h
    induction h with
    | untouched => exact Or.inl fun d hd => nomatch hd
    | @skip e es w h _ ih =>
      rcases ih with hnone | ⟨pre, e', post, rfl, rfl, hpre, hpost⟩
      · exact Or.inl (List.forall_mem_cons.mpr ⟨h, hnone⟩)
      · exact Or.inr ⟨e :: pre, e', post, rfl, rfl, List.forall_mem_cons.mpr ⟨h, hpre⟩, hpost⟩
    | @own e es h => exact Or.inr ⟨[], e, es, rfl, rfl, fun d hd => (nomatch hd), h⟩
  · rintro (hnone | ⟨pre, e, post, rfl, rfl, hpre, hpost⟩)
    · induction es with
      | nil => exact .untouched
      | cons d es ih =>
        obtain ⟨hd, hes⟩ := List.forall_mem_cons.mp hnone
        exact .skip hd (ih hes)
    · induction pre with
      | nil => exact .own hpost
      | cons d pre ih =>
        obtain ⟨hd, hpre⟩ := List.forall_mem_cons.mp hpre
        exact .skip hd (ih hpre)

/-! ### Expanding aliases -/

/-- What an alias stands for; another word stands for itself. -/
def expandWord (es : List (Text × Text)) (w : Text) : Text := ((es.find? (·.2 = w)).map Prod.fst).getD w

/-- The text with each word that is an alias expanded. -/
def expandAliases (es : List (Text × Text)) (s : Text) : Text := mapWords (expandWord es) s

theorem expandWord_of_mem (hn : (es.map Prod.snd).Nodup) (he : e ∈ es) : expandWord es e.2 = e.1 := by
  rw [expandWord, find?_of_nodup_map hn he, Option.map_some, Option.getD_some]

theorem isWordText_expandWord (hes : ∀ d ∈ es, IsWordText d.1) (hw : IsWordText w) : IsWordText (expandWord es w) := by
  unfold expandWord
  cases h : es.find? (·.2 = w) with
  | none => exact hw
  | some e => exact hes e (List.mem_of_find?_eq_some h)

theorem expandWord_of_not_mem (h : w ∉ es.map Prod.snd) : expandWord es w = w := by
  rw [expandWord, List.find?_eq_none.mpr, Option.map_none, Option.getD_none]
  intro e he heq
  exact h (of_decide_eq_true heq ▸ List.mem_map_of_mem he)

/-- A table of functions whose names are kept apart from a text: symbols and names are identifiers, names are distinct, and
    no name is a symbol or stands anywhere in the text. -/
structure SymbolTable.Conceals (t : SymbolTable) (s : Text) : Prop where
  symbols : ∀ x ∈ t.symbols, isIdentifier x = true
  names : ∀ n ∈ t.names, isIdentifier n = true
  nodup : t.names.Nodup
  apart : ∀ n ∈ t.names, n ∉ t.symbols
  fresh : ∀ n ∈ t.names, ¬ n <:+: s

variable {t : SymbolTable}

theorem SymbolTable.Conceals.isWordText (h : t.Conceals s) (he : e ∈ t.entries) : IsWordText e.1 ∧ IsWordText e.2 :=
  ⟨isWordText_of_isIdentifier (h.symbols e.1 (List.mem_map_of_mem he)),
    isWordText_of_isIdentifier (h.names e.2 (List.mem_map_of_mem he))⟩

theorem SymbolTable.Conceals.nodup_used (h : t.Conceals s) : ((usedEntries s t.entries).map Prod.snd).Nodup :=
  h.nodup.sublist ((usedEntries_sublist s t.entries).map Prod.snd)

/-- No name stands in a word of the text. -/
theorem SymbolTable.Conceals.not_infix (h : t.Conceals s) (he : e ∈ t.entries) (hw : w ∈ words s) : ¬ e.2 <:+: w := by
  intro hin
  exact h.fresh e.2 (List.mem_map_of_mem he) (hin.trans (infix_of_mem_clusters (List.mem_filter.mp hw).1))

theorem SymbolTable.Conceals.expandWord_eq_self (h : t.Conceals s) (hw : w ∈ words s) :
    expandWord (usedEntries s t.entries) w = w := by
  refine expandWord_of_not_mem fun hmem => ?_
  obtain ⟨e, he, rfl⟩ := List.mem_map.mp hmem
  exact h.not_infix ((usedEntries_sublist s t.entries).subset he) hw List.infix_rfl

theorem expandWord_disguise (h : t.Conceals s) (hw : w ∈ calledWords s) (hback : ExpandsBack t.entries w) :
    expandWord (usedEntries s t.entries) (disguise t.entries w) = w := by
  have hsymbols : ∀ d ∈ t.entries, IsWordText d.1 := fun d hd => (h.isWordText hd).1
  rcases expandsBack_iff.mp hback with hnone | ⟨pre, e, post, hes, rfl, hpre, hpost⟩
  · rw [disguise_of_not_found hsymbols hnone]
    exact h.expandWord_eq_self (isWordText_of_mem_calledWords hw).2
  · have hmem : ∀ d ∈ pre ++ e :: post, d ∈ t.entries := fun d hd => hes ▸ hd
    have he := h.isWordText (hmem e (List.mem_append_right pre List.mem_cons_self))
    have hwords : ∀ d ∈ pre ++ e :: post, IsWordText d.1 := fun d hd => hsymbols d (hmem d hd)
    have hused : e ∈ usedEntries s t.entries := by
      rw [hes]
      refine mem_usedEntries (fun d hd => h.isWordText (hmem d (List.mem_append_left _ hd))) he.1 hw ?_
      rw [disguise_of_not_found (fun d hd => hwords d (List.mem_append_left _ hd)) hpre]
      exact .here
    have hdisguise : disguise t.entries e.1 = e.2 := by
      rw [hes]
      exact disguise_symbol hwords hpre hpost
    rw [hdisguise]
    exact expandWord_of_mem h.nodup_used hused

/-- Where no name is the end of another, only such words are given back: the last name put stays at the end of the word, so
    it is the alias that was expanded, and a name put before it would stand in the word itself. -/
theorem expandsBack_of_expandWord (h : t.Conceals s) (hsuffix : ∀ n ∈ t.names, ∀ n' ∈ t.names, n <:+ n' → n = n')
    (hw : w ∈ calledWords s) (heq : expandWord (usedEntries s t.entries) (disguise t.entries w) = w) :
    ExpandsBack t.entries w := by
  have hsymbols : ∀ d ∈ t.entries, IsWordText d.1 := fun d hd => (h.isWordText hd).1
  have hword := (isWordText_of_mem_calledWords hw).2
  have hname : ∀ {d : Text × Text} {stem}, d ∈ t.entries → w ≠ stem ++ d.2 := fun {d stem} hd hwd =>
    h.not_infix hd hword (hwd ▸ (List.suffix_append stem d.2).isInfix)
  refine expandsBack_iff.mpr ((disguise_cases hsymbols w).imp_right ?_)
  rintro ⟨pre, e, post, stem, hes, hbefore, hafter, hpost⟩
  have he : e ∈ t.entries := hes ▸ List.mem_append_right pre List.mem_cons_self
  -- What was expanded is the alias of an entry, for the word itself ends with no name.
  have halias : disguise t.entries w ∈ (usedEntries s t.entries).map Prod.snd := by
    refine Classical.not_not.mp fun hnot => ?_
    rw [expandWord_of_not_mem hnot] at heq
    exact hname he (heq.symm.trans hafter)
  obtain ⟨d, hd, hdw⟩ := List.mem_map.mp halias
  have hdt := (usedEntries_sublist s t.entries).subset hd
  rw [← hdw, expandWord_of_mem h.nodup_used hd] at heq
  have hend : e.2 <:+ d.2 := by
    rw [hdw, hafter]
    exact List.suffix_append stem e.2
  have hsame : e = d := List.inj_on_of_nodup_map h.nodup he hdt
    (hsuffix e.2 (List.mem_map_of_mem he) d.2 (List.mem_map_of_mem hdt) hend)
  subst hsame
  have hstem : stem = [] := List.append_left_eq_self.mp (hafter.symm.trans hdw.symm)
  rw [hstem, List.nil_append, heq] at hbefore
  refine ⟨pre, e, post, hes, heq.symm, ?_, hdw ▸ hpost⟩
  have hpre : ∀ d ∈ pre, d ∈ t.entries := fun d hd => hes ▸ List.mem_append_left _ hd
  rcases disguise_cases (fun d hd => hsymbols d (hpre d hd)) w with hnone | ⟨pre', e', post', stem', rfl, -, hturn, -⟩
  · exact hnone
  · have he' := hpre e' (List.mem_append_right pre' List.mem_cons_self)
    exact absurd (hbefore.symm.trans hturn) (hname he')

/-- Renaming library functions gives the aliases of the functions used and a body. Expanding the aliases in the body gives
    the text back if every word in call position expands back, and, where no name is the end of another, only then. -/
theorem renameLibraryFunctions_expands (h : t.Conceals s) :
    ∃ body, (renameLibraryFunctions t s).text = aliasBlock (usedEntries s t.entries) ++ body ∧
      ((∀ w ∈ calledWords s, ExpandsBack t.entries w) → expandAliases (usedEntries s t.entries) body = s) ∧
      ((∀ n ∈ t.names, ∀ n' ∈ t.names, n <:+ n' → n = n') → expandAliases (usedEntries s t.entries) body = s →
        ∀ w ∈ calledWords s, ExpandsBack t.entries w) := by
  have hwords : ∀ e ∈ t.entries, IsWordText e.1 ∧ IsWordText e.2 := fun e he => h.isWordText he
  have hiff := mapWords_mapCalled_eq_iff (fun w hw => isWordText_disguise hwords hw)
    (fun w hw => isWordText_expandWord (fun d hd => (hwords d ((usedEntries_sublist s t.entries).subset hd)).1) hw)
    fun w hw => h.expandWord_eq_self hw
  refine ⟨mapCalled (disguise t.entries) s, ?_, ?_, ?_⟩
  · rw [renameLibraryFunctions_eq fun e he => (hwords e he).2, Pass.text_after, Pass.text_overTable, run_renameFunction hwords]
  · intro hback
    exact hiff.mpr fun w hw => expandWord_disguise h hw (hback w hw)
  · intro hsuffix hbody w hw
    exact expandsBack_of_expandWord h hsuffix hw (hiff.mp hbody w hw)

end

/-- Where the longer of two functions comes first, both expand back. -/
theorem renameLibraryFunctions_expands_sprintf :
    let t := SymbolTable.ofList [("sprintf".toList, "a0000001".toList), ("printf".toList, "b0000002".toList)]
    let s := "sprintf(s, printf (f));xprintf".toList
    t.Conceals s ∧ (∀ w ∈ calledWords s, ExpandsBack t.entries w) ∧ usedEntries s t.entries = t.entries ∧
      ∃ body, (renameLibraryFunctions t s).text = aliasBlock t.entries ++ body ∧ expandAliases t.entries body = s := by
  intro t s
  have hconceals : t.Conceals s := ⟨by decide, by decide, by decide, by decide, by decide +kernel⟩
  have hcalled : calledWords s = ["sprintf".toList, "printf".toList] := by decide +kernel
  have hused : usedEntries s t.entries = t.entries := by decide +kernel
  have hall : ∀ w ∈ calledWords s, ExpandsBack t.entries w := by
    have hlong : stem? "sprintf".toList "printf".toList = none := by decide +kernel
    have hname : stem? "printf".toList "a0000001".toList = none := by decide +kernel
    rw [hcalled]
    refine List.forall_mem_cons.mpr ⟨.own ?_, List.forall_mem_singleton.mpr (.skip ?_ (.own fun d hd => nomatch hd))⟩
    · exact List.forall_mem_singleton.mpr fun h => (stem?_ne_none_iff (by decide)).mpr h hname
    · exact fun h => (stem?_ne_none_iff (by decide)).mpr h hlong
  obtain ⟨body, htext, hback, -⟩ := renameLibraryFunctions_expands hconceals
  have hbody := hback hall
  rw [hused] at htext hbody
  exact ⟨hconceals, hall, hused, body, htext, hbody⟩

/-- The end of a word in call position is taken for a function, and the aliases do not give the word back. -/
theorem renameLibraryFunctions_breaks_sprintf :
    let t := SymbolTable.ofList [("printf".toList, "a0000001".toList)]
    let s := "sprintf(s);".toList
    t.Conceals s ∧ ∀ body, (renameLibraryFunctions t s).text = aliasBlock (usedEntries s t.entries) ++ body →
      expandAliases (usedEntries s t.entries) body ≠ s := by
  intro t s
  have hconceals : t.Conceals s := ⟨by decide, by decide, by decide, by decide, by decide +kernel⟩
  have htext : (renameLibraryFunctions t s).text =
      aliasBlock (usedEntries s t.entries) ++ "sa0000001(s);".toList := by decide +kernel
  refine ⟨hconceals, fun body hbody => ?_⟩
  rw [← List.append_cancel_left (htext.symm.trans hbody)]
  decide +kernel

end Cloak
