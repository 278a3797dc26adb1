import Cloak.Proofs.Renaming.Definition
import Cloak.Proofs.Renaming.Echo
import Cloak.Proofs.Symbol.Provenance

/-! The definitions of keywords in the output of a run. Functions are renamed after keywords, so a definition stands in the
    output if no function strikes it. Where its name does not stand in the source, nothing else writes the same line: the
    definitions of functions have other names, and the source cannot come to spell a name before its own keyword. -/

namespace Cloak

/-! ### Code books -/

/-- The functions in the order in which they are renamed. -/
def Mappings.functions (m : Mappings) : List (Text × Text) := m.localFunctions.entries ++ m.libraryFunctions.entries

section
variable {source : Text} {signatures : List Signature} {m : Mappings} {e d : Text × Text}

theorem Mappings.Regular.name_form (hm : m.Regular source signatures) {c : Category} (he : e ∈ (m.table c).entries) :
    isOpaqueName e.2 = true :=
  hm.form e.2 (Mappings.mem_names.mpr ⟨c, e, he, rfl⟩)

theorem Mappings.Regular.isSymbolOf (hm : m.Regular source signatures) {c : Category}
    (hc : c = .varName ∨ c = .macroName) {x : Text} (hx : x ∈ (m.table c).symbols) : IsSymbolOf source x := by
  cases hm.provenance hx with
  | varName h => exact h
  | macroName h => exact h
  | _ => rcases hc with hc | hc <;> cases hc

theorem Mappings.Regular.mem_defaultKeywords (hm : m.Regular source signatures) {x : Text} (hx : x ∈ m.keywords.symbols) :
    x ∈ defaultKeywords := by
  cases hm.provenance (c := .keyword) hx with
  | keyword h => exact h

theorem Mappings.Regular.isSolid (hm : m.Regular source signatures) {c : Category}
    (hc : c = .localFunction ∨ c = .libraryFunction) {f : Text} (hf : f ∈ (m.table c).symbols) : IsSolid f := by
  cases hm.provenance hf with
  | localFunction hs h => exact isSolid_of_name? h
  | libraryFunction hs h => exact isSolid_of_name? h
  | entryPoint => exact ⟨by decide, forall_of_all (by decide)⟩
  | _ => rcases hc with hc | hc <;> cases hc

theorem Mappings.Regular.aliasable (hm : m.Regular source signatures) : m.keywords.Aliasable where
  symbols x hx := by
    obtain ⟨hword, -, hne⟩ := mem_defaultKeywords_cases (hm.mem_defaultKeywords hx)
    exact ⟨hword, hne⟩
  names n hn := by
    obtain ⟨e, he, rfl⟩ := List.mem_map.mp hn
    have hform : isOpaqueName e.2 = true := hm.name_form (c := .keyword) he
    refine ⟨isWordText_of_isOpaqueName hform, fun hx => ?_⟩
    obtain ⟨-, hlength, -⟩ := mem_defaultKeywords_cases (hm.mem_defaultKeywords hx)
    exact not_infix_of_length_lt hform hlength (List.infix_refl e.2)

/-- A function of the code book has an opaque name, and it is not the name of a keyword. -/
theorem Mappings.Regular.of_mem_functions (hm : m.Regular source signatures) (hd : d ∈ m.functions) :
    IsSolid d.1 ∧ isOpaqueName d.2 = true ∧ ∀ e ∈ m.keywords.entries, d.2 ≠ e.2 := by
  have of_table : ∀ c, c = .localFunction ∨ c = .libraryFunction → d ∈ (m.table c).entries →
      IsSolid d.1 ∧ isOpaqueName d.2 = true ∧ ∀ e ∈ m.keywords.entries, d.2 ≠ e.2 := by
    intro c hc hd
    refine ⟨hm.isSolid hc (SymbolTable.mem_symbols_of_mem_entries hd), hm.name_form hd, fun e he h => ?_⟩
    obtain ⟨rfl, -⟩ := hm.distinct (d := .keyword) hd he h
    rcases hc with hc | hc <;> cases hc
  rcases List.mem_append.mp hd with hd | hd
  · exact of_table .localFunction (Or.inl rfl) hd
  · exact of_table .libraryFunction (Or.inr rfl) hd

theorem Mappings.Regular.isWordText (hm : m.Regular source signatures) (he : e ∈ m.keywords.entries) :
    IsWordText e.1 ∧ IsWordText e.2 :=
  ⟨(hm.aliasable.symbols e.1 (SymbolTable.mem_symbols_of_mem_entries he)).1,
    isWordText_of_isOpaqueName (hm.name_form (c := .keyword) he)⟩

end

/-! ### The lines of a substitution -/

/-- The text after variables, macros and keywords are renamed, without the definitions of keywords. -/
def Mappings.body (m : Mappings) (source : Text) : Text :=
  Pass.run (replaceGuarded ['"']) m.keywords.entries (renameMacros m.macros (renameVariables m.vars source).text).text

section
variable {source : Text} {signatures : List Signature} {m : Mappings} {e : Text × Text} {p : Char → Bool}

theorem text_substitute (hm : m.Regular source signatures) :
    ∃ used ⊆ m.libraryFunctions.entries, (substitute m source).text =
      aliasBlock used ++ Pass.run renameFunction m.functions (aliasBlock m.keywords.entries ++ m.body source) := by
  have hlibrary : ∀ d ∈ m.libraryFunctions.entries, IsWordText d.2 := fun d hd =>
    isWordText_of_isOpaqueName (hm.name_form (c := .libraryFunction) hd)
  have hkeywords : (renameKeywords m.keywords (renameMacros m.macros (renameVariables m.vars source).text).text).text =
      aliasBlock m.keywords.entries ++ m.body source := by
    rw [renameKeywords_eq hm.aliasable, Pass.text_after, Pass.text_overTable]
    rfl
  let locals := Pass.run renameFunction m.localFunctions.entries (aliasBlock m.keywords.entries ++ m.body source)
  refine ⟨usedEntries locals m.libraryFunctions.entries, (usedEntries_sublist _ _).subset, ?_⟩
  rw [substitute, hkeywords, renameLibraryFunctions_eq hlibrary, Pass.text_after, Pass.text_overTable,
    renameLocalFunctions, Pass.text_overTable, Mappings.functions, Pass.run_append]

/-- The definitions of library functions come first, and the functions are renamed in all the other lines. -/
theorem splitOnP_substitute (hm : m.Regular source signatures) (hp : ∀ c, p c = true → isLineBreak c = true)
    (hbreak : p '\n' = true) :
    ∃ used ⊆ m.libraryFunctions.entries, (substitute m source).text.splitOnP p =
      used.reverse.map (fun e => definition e.1 e.2) ++
        (m.keywords.entries.reverse.map (fun e => definition e.1 e.2) ++ (m.body source).splitOnP p).map
          (Pass.run renameFunction m.functions) := by
  obtain ⟨used, hused, htext⟩ := text_substitute hm
  have hfunctions : ∀ d ∈ m.functions, IsSolid d.1 ∧ IsSolid d.2 := fun d hd => by
    obtain ⟨hf, hform, -⟩ := hm.of_mem_functions hd
    exact ⟨hf, (isWordText_of_isOpaqueName hform).isSolid⟩
  have hkeywords : ∀ d ∈ m.keywords.entries, IsSolid d.1 ∧ IsSolid d.2 := fun d hd =>
    (hm.isWordText hd).imp IsWordText.isSolid IsWordText.isSolid
  refine ⟨used, hused, ?_⟩
  rw [htext, splitOnP_aliasBlock_append hp hbreak fun d hd => hfunctions d (List.mem_append_right _ (hused hd)),
    splitOnP_run hp, splitOnP_aliasBlock_append hp hbreak hkeywords]
  intro d hd
  obtain ⟨hf, hn⟩ := hfunctions d hd
  exact ⟨hf, fun c hc => Bool.eq_false_iff.mpr fun h => hn.not_mem (isBlank_of_isLineBreak (hp c h)) hc⟩

/-- A name stands in a definition with other white space only if it is the name defined. -/
theorem not_infix_definition {other name symbol r q : Text} (ho : isOpaqueName other = true) (hn : isOpaqueName name = true)
    (hne : other ≠ name) (hs : symbol.length < 8) (hr : r ≠ [] ∧ ∀ c ∈ r, isBlank c = true)
    (hq : q ≠ [] ∧ ∀ c ∈ q, isBlank c = true) : ¬ other <:+: directiveWord ++ (r ++ (name ++ (q ++ symbol))) := by
  have hsolid := (isWordText_of_isOpaqueName ho).isSolid
  intro h
  rcases infix_of_infix_append_run hsolid.ne_nil hr.1 (fun c hc => hsolid.not_mem (hr.2 c hc)) h with h | h
  · exact not_infix_of_length_lt ho (by decide) h
  · rcases infix_of_infix_append_run hsolid.ne_nil hq.1 (fun c hc => hsolid.not_mem (hq.2 c hc)) h with h | h
    · exact hne (h.eq_of_length ((isOpaqueName_iff.mp ho).1.trans (isOpaqueName_iff.mp hn).1.symm))
    · exact not_infix_of_length_lt ho hs h

/-- No name of a function stands in what collapses to the definition of a keyword. -/
theorem Mappings.Regular.not_infix_of_collapse_eq (hm : m.Regular source signatures) (he : e ∈ m.keywords.entries)
    {line : Text} (h : Compaction.collapse line = definition e.1 e.2) : ∀ d ∈ m.functions, ¬ d.2 <:+: line := by
  obtain ⟨hs, hn⟩ := hm.isWordText he
  obtain ⟨-, hlength, -⟩ := mem_defaultKeywords_cases (hm.mem_defaultKeywords (SymbolTable.mem_symbols_of_mem_entries he))
  obtain ⟨r, r', rfl, hr, hr'⟩ := exists_of_collapse_eq_definition hs.isSolid hn.isSolid h
  intro d hd
  obtain ⟨-, hform, hne⟩ := hm.of_mem_functions hd
  exact not_infix_definition hform (hm.name_form (c := .keyword) he) (hne e he) hlength hr hr'

theorem Mappings.Regular.renameFunction_definition (hm : m.Regular source signatures) (he : e ∈ m.keywords.entries)
    {d : Text × Text} (hd : d ∈ m.functions) :
    (renameFunction d.1 d.2 (definition e.1 e.2)).text = definition e.1 e.2 ↔ ¬ Strikes d.1 e.2 := by
  obtain ⟨hs, hn⟩ := hm.isWordText he
  have habsent := hm.not_infix_of_collapse_eq he (collapse_definition hs.isSolid hn.isSolid) d hd
  exact renameFunction_definition_eq_iff (hm.of_mem_functions hd).1 hs hn habsent

/-! ### Definitions that stand -/

theorem definition_mem_splitOnP (hm : m.Regular source signatures) (hp : ∀ c, p c = true → isLineBreak c = true)
    (hbreak : p '\n' = true) (he : e ∈ m.keywords.entries) (hsafe : ∀ d ∈ m.functions, ¬ Strikes d.1 e.2) :
    definition e.1 e.2 ∈ (substitute m source).text.splitOnP p := by
  obtain ⟨used, -, hlines⟩ := splitOnP_substitute hm hp hbreak
  rw [hlines]
  refine List.mem_append_right _ (List.mem_map.mpr ⟨definition e.1 e.2, List.mem_append_left _ ?_, ?_⟩)
  · exact List.mem_map_of_mem (List.mem_reverse.mpr he)
  · refine run_of_fixed fun d hd => ?_
    exact (hm.renameFunction_definition he hd).mpr (hsafe d hd)

/-! ### Definitions that are lost -/

/-- Renaming variables and macros does not write the name of a keyword. -/
theorem not_mem_clusters_renameMacros (hm : m.Regular source signatures) (he : e ∈ m.keywords.entries)
    (hnew : ¬ e.2 <:+: source) :
    e.2 ∉ clusters isWord (renameMacros m.macros (renameVariables m.vars source).text).text := by
  have hstep : ∀ c, c = .varName ∨ c = .macroName → ∀ d ∈ (m.table c).entries, ∀ (g : Guard) (s : Text),
      e.2 ∉ clusters isWord s → e.2 ∉ clusters isWord (replaceWord d.1 d.2 g s).text := by
    intro c hc d hd g s hs
    have hsymbol := isWordText_of_isIdentifier (hm.isSymbolOf hc (SymbolTable.mem_symbols_of_mem_entries hd)).identifier
    refine not_mem_clusters_replaceWord hsymbol (isWordText_of_isOpaqueName (hm.name_form hd)) (fun h => ?_) hs
    obtain ⟨rfl, -⟩ := hm.distinct (c := .keyword) he hd h
    rcases hc with hc | hc <;> cases hc
  have hsource : e.2 ∉ clusters isWord source := fun h => hnew (infix_of_mem_clusters h)
  have hvars : e.2 ∉ clusters isWord (renameVariables m.vars source).text :=
    Pass.overTable_induction (P := fun s => e.2 ∉ clusters isWord s) hsource fun d hd =>
      hstep .varName (Or.inl rfl) d hd _
  exact Pass.overTable_induction (P := fun s => e.2 ∉ clusters isWord s) hvars fun d hd =>
    hstep .macroName (Or.inr rfl) d hd _

theorem collapse_ne_definition_of_mem_body (hm : m.Regular source signatures) (hp : ∀ c, p c = true → isLineBreak c = true)
    (he : e ∈ m.keywords.entries) (hnew : ¬ e.2 <:+: source) {line : Text} (hline : line ∈ (m.body source).splitOnP p) :
    Compaction.collapse line ≠ definition e.1 e.2 := by
  intro h
  obtain ⟨hs, hn⟩ := hm.isWordText he
  obtain ⟨r, r', rfl, hr, hr'⟩ := exists_of_collapse_eq_definition hs.isSolid hn.isSolid h
  obtain ⟨a, b, hbody, hb, -⟩ := exists_append_of_mem_splitOnP hline
  have hafter : StartsOutside isWord b := fun c hc => not_isWord_of_isBlank (isBlank_of_isLineBreak (hp c (hb c hc)))
  have hdistinct : (m.keywords.entries.map Prod.snd).Nodup := by
    refine (List.nodup_map_iff_inj_on m.keywords.nodup_entries).mpr fun c hc d hd h => ?_
    exact (hm.distinct (c := .keyword) (d := .keyword) hc hd h).2
  -- The line would put the name before its own keyword, which renaming keywords never does.
  have hecho := echoes_clusters_append hs hn hr hr' hafter (a ++ directiveWord)
  refine not_echoes_run (fun d hd => hm.isWordText hd) hdistinct he (fun d hd h => ?_)
    (not_mem_clusters_renameMacros hm he hnew) ?_
  · have hmem := SymbolTable.mem_symbols_of_mem_entries he
    exact (hm.aliasable.names d.2 (List.mem_map_of_mem hd)).2 (h ▸ hmem)
  · simp only [List.append_assoc] at hbody hecho
    rw [← hbody] at hecho
    exact hecho

/-- Where the name is new, a line like the definition is the definition, and no function strikes it. -/
theorem not_strikes_of_mem_splitOnP (hm : m.Regular source signatures) (hp : ∀ c, p c = true → isLineBreak c = true)
    (hbreak : p '\n' = true) (he : e ∈ m.keywords.entries) (hnew : ¬ e.2 <:+: source) {line : Text}
    (hline : line ∈ (substitute m source).text.splitOnP p) (h : Compaction.collapse line = definition e.1 e.2) :
    ∀ d ∈ m.functions, ¬ Strikes d.1 e.2 := by
  obtain ⟨used, hused, hlines⟩ := splitOnP_substitute hm hp hbreak
  have hform := hm.name_form (c := .keyword) he
  rw [hlines] at hline
  rcases List.mem_append.mp hline with hline | hline
  · -- A definition of a library function has another name.
    obtain ⟨d, hd, rfl⟩ := List.mem_map.mp hline
    obtain ⟨hf, hform', hne⟩ := hm.of_mem_functions (List.mem_append_right _ (hused (List.mem_reverse.mp hd)))
    rw [collapse_definition hf (isWordText_of_isOpaqueName hform').isSolid] at h
    have hname := (definition_injective (isWordText_of_isOpaqueName hform') (isWordText_of_isOpaqueName hform) h).2
    exact absurd hname (hne e he)
  · -- In any other line functions are renamed. Their names do not stand in this one, so it is as it was before.
    obtain ⟨l, hl, hrun⟩ := List.mem_map.mp hline
    obtain ⟨rfl, hfix⟩ := eq_of_run (fun d hd => (hm.of_mem_functions hd).1) (hm.not_infix_of_collapse_eq he h) hrun
    rcases List.mem_append.mp hl with hl | hl
    · -- A definition of a keyword collapses to itself, so it is the one asked for.
      obtain ⟨d, hd, rfl⟩ := List.mem_map.mp hl
      obtain ⟨hs', hn'⟩ := hm.isWordText (List.mem_reverse.mp hd)
      rw [collapse_definition hs'.isSolid hn'.isSolid] at h
      rw [h] at hfix
      exact fun f hf => (hm.renameFunction_definition he hf).mp (hfix f hf)
    · exact absurd h (collapse_ne_definition_of_mem_body hm hp he hnew hl)

end

/-! ### The output of a run -/

/-- The line breaks that count in the layout of an engine. -/
def Engine.breaks (e : Engine) (c : Char) : Bool := if e.compactWhitespace then isLineBreak c else c == '\n'

section
variable {e : Engine} {m : Mappings} {source symbol name : Text}

theorem Engine.isLineBreak_of_breaks (c : Char) (h : e.breaks c = true) : isLineBreak c = true := by
  unfold Engine.breaks at h
  split at h
  · exact h
  · rw [beq_iff_eq.mp h]
    rfl

theorem Engine.breaks_newline : e.breaks '\n' = true := by
  unfold Engine.breaks
  split <;> rfl

theorem definition_mem_render (hs : IsWordText symbol) (hn : IsWordText name)
    (h : definition symbol name ∈ (substitute m source).text.splitOnP e.breaks) :
    definition symbol name ∈ (e.render m source).text.splitOn '\n' := by
  unfold Engine.breaks at h
  unfold Engine.render
  cases hc : e.compactWhitespace with
  | false =>
    simp only [hc, Bool.false_eq_true, if_false] at h ⊢
    rwa [List.splitOn_eq_splitOnP]
  | true =>
    simp only [hc, if_true] at h ⊢
    refine (Compaction.mem_splitOn_compact_iff rfl).mpr ⟨definition symbol name, List.mem_filter.mpr ⟨h, rfl⟩, rfl, ?_⟩
    exact (collapse_definition hs.isSolid hn.isSolid).symm

theorem exists_of_definition_mem_render (hs : IsWordText symbol) (hn : IsWordText name)
    (h : definition symbol name ∈ (e.render m source).text.splitOn '\n') :
    ∃ line ∈ (substitute m source).text.splitOnP e.breaks, Compaction.collapse line = definition symbol name := by
  unfold Engine.breaks
  unfold Engine.render at h
  cases hc : e.compactWhitespace with
  | false =>
    simp only [hc, Bool.false_eq_true, if_false] at h ⊢
    rw [List.splitOn_eq_splitOnP] at h
    exact ⟨definition symbol name, h, collapse_definition hs.isSolid hn.isSolid⟩
  | true =>
    simp only [hc, if_true] at h ⊢
    obtain ⟨line, hline, -, heq⟩ := (Compaction.mem_splitOn_compact_iff rfl).mp h
    exact ⟨line, (List.mem_filter.mp hline).1, heq.symm⟩

end

section
variable {σ : Type} [WordSource σ] {source : Text} {signatures : List Signature} {path : Path}

/-- The definition of a keyword stands in the output on a line of its own unless a function strikes it, and where its name
    does not stand in the source, only then. -/
theorem obfuscate_defines_keyword_unless_struck {compactWhitespace : Bool} {g : σ} {o : Obfuscated} {r : Registry σ}
    (h : ({ compactWhitespace } : Engine).obfuscate source signatures path (Registry.ofSource g) = some (o, r))
    {e : Text × Text} (he : e ∈ o.mappings.keywords.entries) :
    ((∀ f ∈ o.mappings.localFunctions.symbols ++ o.mappings.libraryFunctions.symbols, ¬ Strikes f e.2) →
        definition e.1 e.2 ∈ o.text.splitOn '\n') ∧
      (¬ e.2 <:+: source → definition e.1 e.2 ∈ o.text.splitOn '\n' →
        ∀ f ∈ o.mappings.localFunctions.symbols ++ o.mappings.libraryFunctions.symbols, ¬ Strikes f e.2) := by
  obtain ⟨hm, ho⟩ := regular_of_obfuscate rfl h
  obtain ⟨hs, hn⟩ := hm.isWordText he
  have hsymbols : o.mappings.localFunctions.symbols ++ o.mappings.libraryFunctions.symbols =
      o.mappings.functions.map Prod.fst := List.map_append.symm
  rw [hsymbols, ho]
  constructor
  · intro hsafe
    refine definition_mem_render hs hn ?_
    exact definition_mem_splitOnP hm Engine.isLineBreak_of_breaks Engine.breaks_newline he fun d hd =>
      hsafe d.1 (List.mem_map_of_mem hd)
  · intro hnew hmem f hf
    obtain ⟨line, hline, heq⟩ := exists_of_definition_mem_render hs hn hmem
    obtain ⟨d, hd, rfl⟩ := List.mem_map.mp hf
    exact not_strikes_of_mem_splitOnP hm Engine.isLineBreak_of_breaks Engine.breaks_newline he hnew hline heq d hd

/-- Functions that stand inside the directive and twice, overlapping, at the end of the name do not strike it. -/
theorem obfuscate_defines_keyword_unless_struck_overlap :
    ∃ (o : Obfuscated) (r : Registry WordStream),
      ({} : Engine).obfuscate "int x;".toList
        [⟨"extern int fin (int);".toList, ⟨[97]⟩⟩, ⟨"extern int aa (int);".toList, ⟨[108]⟩⟩] ⟨[97]⟩
        (Registry.ofSource ⟨fun n => if n = 1 then 0xaa0a00b0 else 0xa0 + n.toUInt32⟩) = some (o, r) ∧
      ("int".toList, "b0000aaa".toList) ∈ o.mappings.keywords.entries ∧
      "fin".toList ∈ o.mappings.localFunctions.symbols ∧ "aa".toList ∈ o.mappings.libraryFunctions.symbols ∧
      definition "int".toList "b0000aaa".toList ∈ o.text.splitOn '\n' := by
  have hrun : (({} : Engine).obfuscate "int x;".toList
      [⟨"extern int fin (int);".toList, ⟨[97]⟩⟩, ⟨"extern int aa (int);".toList, ⟨[108]⟩⟩] ⟨[97]⟩
      (Registry.ofSource (⟨fun n => if n = 1 then 0xaa0a00b0 else 0xa0 + n.toUInt32⟩ : WordStream))).any
      (fun p => decide (("int".toList, "b0000aaa".toList) ∈ p.1.mappings.keywords.entries ∧
        p.1.mappings.localFunctions.symbols = ["fin".toList] ∧
        p.1.mappings.libraryFunctions.symbols = ["aa".toList, "main".toList])) = true := by decide +kernel
  obtain ⟨⟨o, r⟩, h, hfacts⟩ := (Option.any_eq_true _ _).mp hrun
  obtain ⟨he, hlocal, hlibrary⟩ := of_decide_eq_true hfacts
  have hsafe : ∀ f ∈ ["fin".toList] ++ ["aa".toList, "main".toList], f ≠ [] ∧ stem? f directiveWord = none ∧
      stem? f "b0000aaa".toList = none := by decide +kernel
  refine ⟨o, r, h, he, by rw [hlocal]; decide, by rw [hlibrary]; decide, ?_⟩
  refine (obfuscate_defines_keyword_unless_struck h he).1 fun f hf => ?_
  rw [hlocal, hlibrary] at hf
  obtain ⟨hne, hstems⟩ := hsafe f hf
  exact (not_strikes_iff hne).mpr hstems

/-- A function `e` is found in every definition, and the definition of `int` is lost. -/
theorem obfuscate_loses_keyword_definition :
    ∃ (o : Obfuscated) (r : Registry Keystream),
      ({} : Engine).obfuscate "int x;".toList [⟨"extern int e (int);".toList, ⟨[97]⟩⟩] ⟨[97]⟩
        (Registry.ofSource (Keystream.ofSeed 0)) = some (o, r) ∧
      ("int".toList, "db69278e".toList) ∈ o.mappings.keywords.entries ∧
      definition "int".toList "db69278e".toList ∉ o.text.splitOn '\n' := by
  have hrun : (({} : Engine).obfuscate "int x;".toList [⟨"extern int e (int);".toList, ⟨[97]⟩⟩] ⟨[97]⟩
      (Registry.ofSource (Keystream.ofSeed 0))).any
      (fun p => decide (("int".toList, "db69278e".toList) ∈ p.1.mappings.keywords.entries ∧
        definition "int".toList "db69278e".toList ∉ p.1.text.splitOn '\n')) = true := by decide +kernel
  obtain ⟨⟨o, r⟩, h, hfacts⟩ := (Option.any_eq_true _ _).mp hrun
  obtain ⟨he, hlost⟩ := of_decide_eq_true hfacts
  exact ⟨o, r, h, he, hlost⟩

end
end Cloak
