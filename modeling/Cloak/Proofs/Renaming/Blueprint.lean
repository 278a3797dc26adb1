import Cloak.Proofs.Renaming.Draft

/-! The blueprint of a renaming: what all passes together make of a text, with the names left open. It is drawn from the
    symbols alone, and where names cannot be mistaken for symbols the renamed text is the blueprint spelled out. -/

namespace Cloak

/-! ### Passes over a table -/

namespace Draft

/-- The draft after one more symbol. -/
def advance (step : Text → Skeleton → Draft) (d : Draft) (symbol : Text) : Draft :=
  ⟨(step symbol d.skeleton).skeleton, d.replaced + (step symbol d.skeleton).replaced⟩

/-- Renames symbols of a skeleton one after the other. -/
def overSymbols (step : Text → Skeleton → Draft) (symbols : List Text) (k : Skeleton) : Draft := symbols.foldl (advance step) ⟨k, 0⟩

end Draft

namespace Skeleton

/-- On formed skeletons, the step on texts does what the step on skeletons does, and the skeletons stay formed. -/
def StepSpells (m : Mappings) (t : SymbolTable) (step : Text → Skeleton → Draft)
    (textStep : (symbol name : Text) → Text → Pass) : Prop :=
  ∀ e ∈ t.entries, ∀ k, Formed m.symbols k →
    textStep e.1 e.2 (spell m k) = (step e.1 k).spell m ∧ Formed m.symbols (step e.1 k).skeleton

section
variable {m : Mappings} {t : SymbolTable} {category : Category} {k : Skeleton}

theorem overTable_spell {step : Text → Skeleton → Draft} {textStep : (symbol name : Text) → Text → Pass}
    (h : StepSpells m t step textStep) (hk : Formed m.symbols k) :
    Pass.overTable textStep t (spell m k) = (Draft.overSymbols step t.symbols k).spell m ∧
      Formed m.symbols (Draft.overSymbols step t.symbols k).skeleton := by
  suffices hfold : ∀ (es : List (Text × Text)) (d : Draft), (∀ e ∈ es, e ∈ t.entries) → Formed m.symbols d.skeleton →
      es.foldl (Pass.advance textStep) (d.spell m) = ((es.map Prod.fst).foldl (Draft.advance step) d).spell m ∧
        Formed m.symbols ((es.map Prod.fst).foldl (Draft.advance step) d).skeleton from
    hfold t.entries ⟨k, 0⟩ (fun _ he => he) hk
  intro es
  induction es with
  | nil => exact fun _ _ hd => ⟨rfl, hd⟩
  | cons e es ih =>
    intro d hes hd
    obtain ⟨hspell, hformed⟩ := h e (hes e List.mem_cons_self) d.skeleton hd
    have hnext : Pass.advance textStep (d.spell m) e = (Draft.advance step d e.1).spell m := by
      change Pass.mk (textStep e.1 e.2 (spell m d.skeleton)).text (d.replaced + _) = _
      rw [Draft.spell, hspell]
      rfl
    rw [List.foldl_cons, hnext]
    exact ih _ (fun c hc => hes c (List.mem_cons_of_mem e hc)) hformed

/-- Puts references for whole words that the guard admits. -/
def wordStep (category : Category) (g : Guard) (symbol : Text) (k : Skeleton) : Draft :=
  (wordRule category symbol (wordAdmits symbol g)).draft k

/-- Puts references for a function where it is called. -/
def callStep (category : Category) (f : Text) (k : Skeleton) : Draft := (callRule category f).draft k

theorem stepSpells_word (hm : m.Unmistakable) (category : Category) {g : Guard}
    (hg : ∀ rest, Named m rest → g.admits (spell m rest) = g.admits (blind rest)) :
    StepSpells m (m.table category) (wordStep category g) (fun symbol name => replaceWord symbol name g) := by
  intro e he k hk
  have hs := mem_symbols_of_mem_table he
  have hw := hm.word category e.1 hs
  have hadmits : ∀ rest, Named m rest → wordAdmits e.1 g (spell m rest) = wordAdmits e.1 g (blind rest) :=
    fun rest hrest => by rw [wordAdmits, wordAdmits, hg rest hrest]
  refine ⟨?_, hk.draft (writes_wordRule hw hs _)⟩
  exact (replaceWord_eq_pass hw (spell m k)).trans (pass_spell (spells_wordRule hm he hadmits) (hk.named hm) hk)

theorem stepSpells_call (hm : m.Unmistakable) (hcat : category = .localFunction ∨ category = .libraryFunction) :
    StepSpells m (m.table category) (callStep category) renameFunction := by
  intro e he k hk
  have hs := mem_symbols_of_mem_table he
  have hw := hm.word category e.1 hs
  refine ⟨?_, hk.draft (writes_callRule hw hs)⟩
  exact (renameFunction_eq_pass hw (spell m k)).trans (pass_spell (spells_callRule hm hcat he) (hk.named hm) hk)

end

/-! ### Aliases -/

/-- The alias line of a symbol. -/
def aliasLine (category : Category) (symbol : Text) : Skeleton :=
  ofText ('#' :: (defineWord ++ [' '])) ++ ([.ref category symbol] ++ ofText (' ' :: (symbol ++ ['\n'])))

/-- The alias lines of symbols, that of the last on top. -/
def aliasBlock (category : Category) (symbols : List Text) : Skeleton := symbols.reverse.flatMap (aliasLine category)

section
variable {symbols : Category → List Text} {m : Mappings} {category : Category} {k l : Skeleton}

theorem spell_aliasLine {e : Text × Text} (he : e ∈ (m.table category).entries) :
    spell m (aliasLine category e.1) = Cloak.aliasLine e.1 e.2 := by
  rw [aliasLine, spell_append, spell_append, spell_ofText, spell_ofText, spell_ref (find?_of_mem_table he), aliasLine_eq,
    List.cons_append, List.append_assoc]
  rfl

theorem spell_aliasBlock {es : List (Text × Text)} (hes : ∀ e ∈ es, e ∈ (m.table category).entries) :
    spell m (aliasBlock category (es.map Prod.fst)) = Cloak.aliasBlock es := by
  induction es using List.reverseRecOn with
  | nil => rfl
  | append_singleton es e ih =>
    rw [aliasBlock_concat, ← ih fun d hd => hes d (List.mem_append_left [e] hd),
      ← spell_aliasLine (hes e (List.mem_append_right es List.mem_cons_self)), ← spell_append, aliasBlock, List.map_append,
      List.reverse_append, List.flatMap_append, List.map_singleton, List.reverse_singleton, List.flatMap_singleton]
    rfl

theorem Formed.append (hk : Formed symbols k) (hl : Formed symbols l)
    (h : ∀ x ∈ k.getLast?, ∀ y ∈ l.head?, (x.isWord && y.isWord) = false) : Formed symbols (k ++ l) where
  refs category symbol href := (List.mem_append.mp href).elim (hk.refs category symbol) (hl.refs category symbol)
  tidy c hc := by
    rw [clusters_append h] at hc
    exact (List.mem_append.mp hc).elim (hk.tidy c) (hl.tidy c)

theorem formed_ref {symbol : Text} (hs : symbol ∈ symbols category) : Formed symbols [.ref category symbol] where
  refs category' symbol' h := by
    rw [List.mem_singleton] at h
    cases h
    exact hs
  tidy c hc := by
    rw [clusters_of_all (List.cons_ne_nil _ _) fun t ht => by rw [List.mem_singleton.mp ht]; rfl, List.mem_singleton] at hc
    exact ⟨[], Or.inr ⟨category, symbol, hc⟩⟩

theorem getLast?_append_ofText (l : Skeleton) (s : Text) (a : Char) : (l ++ ofText (s ++ [a])).getLast? = some (.char a) := by
  rw [ofText_append, ← List.append_assoc]
  exact List.getLast?_concat

theorem Formed.aliasLine_append {symbol : Text} (hs : symbol ∈ symbols category) (hk : Formed symbols k) :
    Formed symbols (aliasLine category symbol ++ k) := by
  have hopen := getLast?_append_ofText [] ('#' :: defineWord) ' '
  have hclose := getLast?_append_ofText (ofText ('#' :: (defineWord ++ [' '])) ++ [.ref category symbol]) (' ' :: symbol) '\n'
  rw [List.append_assoc] at hclose
  have href := (formed_ref hs).append (formed_ofText symbols (' ' :: (symbol ++ ['\n']))) fun x _ y hy => by
    cases hy
    exact Bool.and_false _
  refine ((formed_ofText symbols _).append href fun x hx y _ => ?_).append hk fun x hx y _ => ?_
  · rw [Option.some.inj (hx.symm.trans hopen)]
    rfl
  · rw [Option.some.inj (hx.symm.trans hclose)]
    rfl

theorem Formed.aliasBlock_append {xs : List Text} (hxs : ∀ x ∈ xs, x ∈ symbols category) (hk : Formed symbols k) :
    Formed symbols (aliasBlock category xs ++ k) := by
  suffices h : ∀ ys : List Text, (∀ y ∈ ys, y ∈ symbols category) → Formed symbols (ys.flatMap (aliasLine category) ++ k) from
    h xs.reverse fun y hy => hxs y (List.mem_reverse.mp hy)
  intro ys
  induction ys with
  | nil => exact fun _ => hk
  | cons y ys ih =>
    intro hys
    rw [List.flatMap_cons, List.append_assoc]
    exact (ih fun z hz => hys z (List.mem_cons_of_mem y hz)).aliasLine_append (hys y List.mem_cons_self)

end

/-! ### Functions in use -/

/-- The functions that a pass over a skeleton uses. -/
def usedSymbols (category : Category) (k : Skeleton) : List Text → List Text
  | [] => []
  | f :: fs =>
    if 0 < (callStep category f k).replaced then f :: usedSymbols category (callStep category f k).skeleton fs
    else usedSymbols category (callStep category f k).skeleton fs

theorem usedSymbols_subset (category : Category) (k : Skeleton) (fs : List Text) : usedSymbols category k fs ⊆ fs := by
  induction fs generalizing k with
  | nil => exact List.Subset.refl []
  | cons f fs ih =>
    unfold usedSymbols
    split
    · exact List.cons_subset_cons f (ih _)
    · exact List.subset_cons_of_subset f (ih _)

theorem usedEntries_spell {m : Mappings} {category : Category} (h : StepSpells m (m.table category) (callStep category)
    renameFunction) {es : List (Text × Text)} (hes : ∀ e ∈ es, e ∈ (m.table category).entries) {k : Skeleton}
    (hk : Formed m.symbols k) :
    (usedEntries (spell m k) es).map Prod.fst = usedSymbols category k (es.map Prod.fst) := by
  induction es generalizing k with
  | nil => rfl
  | cons e es ih =>
    obtain ⟨hspell, hformed⟩ := h e (hes e List.mem_cons_self) k hk
    have hrest := ih (fun d hd => hes d (List.mem_cons_of_mem e hd)) hformed
    rw [usedEntries, hspell, List.map_cons, usedSymbols, Draft.replaced_spell, Draft.text_spell]
    by_cases hp : 0 < (callStep category e.1 k).replaced
    · rw [if_pos hp, if_pos hp, ← hrest, List.map_cons]
    · rw [if_neg hp, if_neg hp, ← hrest]

end Skeleton

/-! ### All passes -/

/-- What a renaming makes of a text, names apart. -/
structure Blueprint where
  skeleton : Skeleton
  replaced : Category → Nat

open Skeleton in
/-- The blueprint of renaming the symbols of each category. -/
def blueprint (symbols : Category → List Text) (source : Text) : Blueprint :=
  let vars := Draft.overSymbols (wordStep .varName (Guard.unquoted ['"', ')'])) (symbols .varName) (ofText source)
  let macros := Draft.overSymbols (wordStep .macroName Guard.always) (symbols .macroName) vars.skeleton
  let keywords := (Draft.overSymbols (wordStep .keyword (Guard.unquoted ['"'])) (symbols .keyword) macros.skeleton).after
    (Skeleton.aliasBlock .keyword (symbols .keyword))
  let locals := Draft.overSymbols (callStep .localFunction) (symbols .localFunction) keywords.skeleton
  let library := (Draft.overSymbols (callStep .libraryFunction) (symbols .libraryFunction) locals.skeleton).after
    (Skeleton.aliasBlock .libraryFunction (usedSymbols .libraryFunction locals.skeleton (symbols .libraryFunction)))
  { skeleton := library.skeleton
    replaced := fun
      | .varName => vars.replaced
      | .macroName => macros.replaced
      | .keyword => keywords.replaced
      | .localFunction => locals.replaced
      | .libraryFunction => library.replaced }

section
variable {m : Mappings} {k : Skeleton}

theorem Mappings.Unmistakable.aliasable (hm : m.Unmistakable) : m.keywords.Aliasable where
  symbols x hx := ⟨hm.word .keyword x hx, fun h => hm.keyword (h ▸ hx)⟩
  names n hn := by
    obtain ⟨e, he, rfl⟩ := List.mem_map.mp hn
    have hname : e.2 ∈ m.names := Mappings.mem_names.mpr ⟨.keyword, e, he, rfl⟩
    exact ⟨isWordText_of_isOpaqueName (hm.form e.2 hname), fun hx => hm.apart e.2 hname .keyword e.2 hx (List.infix_refl _)⟩

/-- No guard sees a name. -/
theorem admits_unquoted_spell {marker : Text} (hmark : IsMarker marker) (rest : Skeleton) (hn : rest.Named m) :
    (Guard.unquoted marker).admits (rest.spell m) = (Guard.unquoted marker).admits rest.blind := by
  rw [Guard.admits_unquoted, Guard.admits_unquoted, Skeleton.isUnquoted_spell hmark hn]

theorem renameKeywords_spell (hm : m.Unmistakable) (hk : k.Formed m.symbols) :
    let d := (Draft.overSymbols (Skeleton.wordStep .keyword (Guard.unquoted ['"'])) (m.symbols .keyword) k).after
      (Skeleton.aliasBlock .keyword (m.symbols .keyword))
    renameKeywords m.keywords (k.spell m) = d.spell m ∧ d.skeleton.Formed m.symbols := by
  obtain ⟨hspell, hformed⟩ := Skeleton.overTable_spell
    (Skeleton.stepSpells_word hm .keyword (admits_unquoted_spell isMarker_quote)) hk
  have halias : (Skeleton.aliasBlock .keyword (m.symbols .keyword)).spell m = aliasBlock m.keywords.entries :=
    Skeleton.spell_aliasBlock fun e he => he
  refine ⟨?_, hformed.aliasBlock_append fun x hx => hx⟩
  rw [renameKeywords_eq hm.aliasable, Draft.spell_after, halias]
  exact congrArg (Pass.after _ 0) hspell

theorem renameLibraryFunctions_spell (hm : m.Unmistakable) (hk : k.Formed m.symbols) :
    let d := (Draft.overSymbols (Skeleton.callStep .libraryFunction) (m.symbols .libraryFunction) k).after
      (Skeleton.aliasBlock .libraryFunction (Skeleton.usedSymbols .libraryFunction k (m.symbols .libraryFunction)))
    renameLibraryFunctions m.libraryFunctions (k.spell m) = d.spell m ∧ d.skeleton.Formed m.symbols := by
  have hstep := Skeleton.stepSpells_call hm (Or.inr rfl)
  obtain ⟨hspell, hformed⟩ := Skeleton.overTable_spell hstep hk
  have hused : (usedEntries (k.spell m) m.libraryFunctions.entries).map Prod.fst =
      Skeleton.usedSymbols .libraryFunction k (m.symbols .libraryFunction) :=
    Skeleton.usedEntries_spell hstep (fun e he => he) hk
  have halias : (Skeleton.aliasBlock .libraryFunction
        ((usedEntries (k.spell m) m.libraryFunctions.entries).map Prod.fst)).spell m =
      aliasBlock (usedEntries (k.spell m) m.libraryFunctions.entries) :=
    Skeleton.spell_aliasBlock fun e he => (usedEntries_sublist _ _).subset he
  have hform : ∀ e ∈ m.libraryFunctions.entries, IsWordText e.2 := fun e he =>
    isWordText_of_isOpaqueName (hm.form e.2 (Mappings.mem_names.mpr ⟨.libraryFunction, e, he, rfl⟩))
  refine ⟨?_, hformed.aliasBlock_append (Skeleton.usedSymbols_subset _ _ _)⟩
  rw [renameLibraryFunctions_eq hform, Draft.spell_after, ← hused, halias]
  exact congrArg (Pass.after _ 0) hspell

/-- Renaming with names that cannot be mistaken for symbols spells out the blueprint of the symbols. -/
theorem substitute_eq_blueprint (hm : m.Unmistakable) (source : Text) :
    (substitute m source).text = (blueprint m.symbols source).skeleton.spell m ∧
      (substitute m source).replaced = (blueprint m.symbols source).replaced ∧
      (blueprint m.symbols source).skeleton.Formed m.symbols := by
  obtain ⟨hvars, fvars⟩ := Skeleton.overTable_spell
    (Skeleton.stepSpells_word hm .varName (admits_unquoted_spell isMarker_quoteParen))
    (Skeleton.formed_ofText m.symbols source)
  obtain ⟨hmacros, fmacros⟩ := Skeleton.overTable_spell
    (Skeleton.stepSpells_word hm .macroName (g := Guard.always) fun _ _ => rfl) fvars
  obtain ⟨hkeywords, fkeywords⟩ := renameKeywords_spell hm fmacros
  obtain ⟨hlocals, flocals⟩ := Skeleton.overTable_spell (Skeleton.stepSpells_call hm (Or.inl rfl)) fkeywords
  obtain ⟨hlibrary, flibrary⟩ := renameLibraryFunctions_spell hm flocals
  rw [Skeleton.spell_ofText] at hvars
  change renameVariables m.vars source = _ at hvars
  change renameMacros m.macros _ = _ at hmacros
  change renameLocalFunctions m.localFunctions _ = _ at hlocals
  refine ⟨?_, funext fun c => ?_, flibrary⟩
  · simp only [substitute, hvars, hmacros, hkeywords, hlocals, hlibrary, Draft.text_spell]
    rfl
  · cases c <;> simp only [substitute, hvars, hmacros, hkeywords, hlocals, hlibrary, Draft.text_spell, Draft.replaced_spell] <;>
      rfl

end
end Cloak
