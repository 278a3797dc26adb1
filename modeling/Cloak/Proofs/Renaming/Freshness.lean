import Cloak.Proofs.Renaming.Survival
import Cloak.Proofs.Renaming.Undoing

/-! Names that are new to the source. Names are drawn without looking at the source, so a name may stand there already, and what is
    renamed to it is one with what stood there. Where all names are new, each word of the output stands for one text of the source:
    every pass can be undone word by word, and leaves the names of the passes to come as new as they were. -/

namespace Cloak

/-- Each word of `t` stands for one text, and putting these texts gives `s`. They are words if `whole`. -/
def ComesBack (whole : Prop) (s t : Text) : Prop :=
  ∃ back : Text → Text, mapWords back t = s ∧ (whole → ∀ w, IsWordText w → IsWordText (back w))

section
variable {whole : Prop} {s t u : Text}

theorem ComesBack.refl (s : Text) : ComesBack whole s s := ⟨id, mapWords_of_fixed fun _ _ => rfl, fun _ _ hw => hw⟩

theorem ComesBack.trans (h : ComesBack whole s t) (h' : ComesBack whole t u) : ComesBack whole s u := by
  obtain ⟨back, rfl, hword⟩ := h
  obtain ⟨back', rfl, hword'⟩ := h'
  refine ⟨fun w => mapWords back (back' w), (mapWords_mapWords back back' u).symm, fun hwhole w hw => ?_⟩
  have hw' := hword' hwhole w hw
  change IsWordText (mapWords back (back' w))
  rw [mapWords_of_isWordText hw']
  exact hword hwhole (back' w) hw'

end

/-- None of the names is a word of the text, and none of the endings ends one. -/
structure Free (names endings : List Text) (t : Text) : Prop where
  word : ∀ n ∈ names, n ∉ words t
  ending : ∀ n ∈ endings, ∀ w ∈ words t, ¬ n <:+ w

/-! ### Passes -/

section
variable {whole : Prop} {symbol name f t : Text} {names endings : List Text} {g : Guard} {es : List (Text × Text)}

theorem not_suffix_of_suffix {n n' w : Text} (hn : isOpaqueName n = true) (hn' : isOpaqueName n' = true) (hne : n ≠ n')
    (h : n <:+ w) : ¬ n' <:+ w := by
  have hlength : n.length = n'.length := (isOpaqueName_iff.mp hn).1.trans (isOpaqueName_iff.mp hn').1.symm
  intro h'
  exact hne ((List.suffix_of_suffix_length_le h h' (Nat.le_of_eq hlength)).eq_of_length hlength)

theorem Free.replaced (hs : IsWordText symbol) (hn : isOpaqueName name = true) (hnames : name ∉ names)
    (hendings : ∀ n ∈ endings, isOpaqueName n = true ∧ n ≠ name) (h : Free (name :: names) endings t) :
    ComesBack whole t (replaceWord symbol name g t).text ∧ Free names endings (replaceWord symbol name g t).text := by
  have hword := isWordText_of_isOpaqueName hn
  have hback := mapWords_unname_replaceWord (g := g) hs hword (h.word name List.mem_cons_self)
  refine ⟨⟨unname symbol name, hback, fun _ w hw => isWordText_unname hs hw⟩, fun n hmem hw => ?_, fun n hmem w hw hsuffix => ?_⟩
  · rcases mem_words_replaceWord hs hword hw with hw | rfl
    · exact h.word n (List.mem_cons_of_mem name hmem) hw
    · exact hnames hmem
  · obtain ⟨hform, hne⟩ := hendings n hmem
    rcases mem_words_replaceWord hs hword hw with hw | rfl
    · exact h.ending n hmem w hw hsuffix
    · exact not_suffix_of_suffix hform hn hne hsuffix (List.suffix_refl w)

theorem Free.renamed (hf : f ≠ []) (hwhole : whole → IsWordText f) (hn : isOpaqueName name = true)
    (hendings : ∀ n ∈ endings, isOpaqueName n = true ∧ n ≠ name) (h : Free [] (name :: endings) t) :
    ComesBack whole t (renameFunction f name t).text ∧ Free [] endings (renameFunction f name t).text := by
  have hword := isWordText_of_isOpaqueName hn
  have hcalls : Calls f name t (renameFunction f name t).text := calls_renameFunction hf t
  have hback := hcalls.mapWords_unend hf hword [] (h.ending name List.mem_cons_self)
  refine ⟨⟨unend f name, hback, fun h w hw => isWordText_unend (hwhole h) hw⟩, fun n hmem => (List.not_mem_nil hmem).elim,
    fun n hmem w hw hsuffix => ?_⟩
  obtain ⟨hform, hne⟩ := hendings n hmem
  rcases hcalls.mem_words hword [] hw with hw | hname
  · exact h.ending n (List.mem_cons_of_mem name hmem) w hw hsuffix
  · exact not_suffix_of_suffix hform hn hne hsuffix hname

-- A name that only ends a word of the text makes two words one just as well.
example : (renameFunction "foo".toList "a0000000".toList "xfoo(xa0000000)".toList).text = "xa0000000(xa0000000)".toList := by
  decide +kernel

theorem Free.run_replaceWord (hes : ∀ e ∈ es, IsWordText e.1 ∧ isOpaqueName e.2 = true)
    (hendings : ∀ n ∈ endings, isOpaqueName n = true) (hnodup : (es.map Prod.snd ++ (names ++ endings)).Nodup)
    (h : Free (es.map Prod.snd ++ names) endings t) :
    ComesBack whole t (Pass.run (fun symbol name => replaceWord symbol name g) es t) ∧
      Free names endings (Pass.run (fun symbol name => replaceWord symbol name g) es t) := by
  induction es generalizing t with
  | nil => exact ⟨.refl t, h⟩
  | cons e es ih =>
    obtain ⟨⟨hs, hn⟩, hes⟩ := List.forall_mem_cons.mp hes
    rw [List.map_cons, List.cons_append, List.nodup_cons] at hnodup
    obtain ⟨hnew, hnodup⟩ := hnodup
    rw [← List.append_assoc, List.mem_append, not_or] at hnew
    obtain ⟨hback, hfree⟩ := h.replaced (g := g) hs hn hnew.1 fun n hmem => ⟨hendings n hmem, fun heq => hnew.2 (heq ▸ hmem)⟩
    obtain ⟨hback', hfree⟩ := ih hes hnodup hfree
    exact ⟨hback.trans hback', hfree⟩

theorem Free.run_renameFunction (hes : ∀ e ∈ es, e.1 ≠ [] ∧ isOpaqueName e.2 = true)
    (hwhole : whole → ∀ e ∈ es, IsWordText e.1) (hnodup : (es.map Prod.snd).Nodup)
    (h : Free [] (es.map Prod.snd) t) : ComesBack whole t (Pass.run renameFunction es t) := by
  induction es generalizing t with
  | nil => exact .refl t
  | cons e es ih =>
    obtain ⟨⟨hf, hn⟩, hes⟩ := List.forall_mem_cons.mp hes
    obtain ⟨hnew, hnodup⟩ := List.nodup_cons.mp hnodup
    have hendings : ∀ n ∈ es.map Prod.snd, isOpaqueName n = true ∧ n ≠ e.2 := by
      intro n hmem
      obtain ⟨d, hd, rfl⟩ := List.mem_map.mp hmem
      exact ⟨(hes d hd).2, fun heq => hnew (heq ▸ hmem)⟩
    obtain ⟨hback, hfree⟩ := h.renamed hf (fun h => hwhole h e List.mem_cons_self) hn hendings
    exact hback.trans (ih hes (fun h d hd => hwhole h d (List.mem_cons_of_mem e hd)) hnodup hfree)

/-- Functions are renamed before and after a line break for themselves. -/
theorem run_renameFunction_append (hes : ∀ e ∈ es, IsSolid e.1) (a b : Text) :
    Pass.run renameFunction es (a ++ '\n' :: b) = Pass.run renameFunction es a ++ '\n' :: Pass.run renameFunction es b := by
  induction es generalizing a b with
  | nil => rfl
  | cons e es ih =>
    obtain ⟨he, hes⟩ := List.forall_mem_cons.mp hes
    have hbreak : isLineBreak '\n' = true := rfl
    have hcut := renameFunction_cut he.ne_nil (he.not_mem (isBlank_of_isLineBreak hbreak)) (ne_follower_of_isLineBreak hbreak)
      e.2 a b
    rw [Pass.run_cons, Pass.run_cons, Pass.run_cons, hcut, Pass.text_after, List.append_assoc, List.singleton_append, ih hes]

theorem run_renameFunction_aliasBlock_append (hes : ∀ e ∈ es, IsSolid e.1) (ds : List (Text × Text)) (s : Text) :
    Pass.run renameFunction es (aliasBlock ds ++ s) =
      Pass.run renameFunction es (aliasBlock ds) ++ Pass.run renameFunction es s := by
  have hempty : Pass.run renameFunction es [] = [] := by
    refine run_of_fixed fun e he => ?_
    rw [renameFunction, Search.replace_plain_nil (hes e he).ne_nil]
  rcases List.eq_nil_or_concat (aliasBlock ds) with hnil | ⟨front, c, hfront⟩
  · rw [hnil, hempty]
    rfl
  · have hlast : c ∈ (aliasBlock ds).getLast? := by simp [hfront]
    obtain rfl := eq_of_mem_getLast?_aliasBlock hlast
    rw [hfront, List.concat_eq_append, List.append_assoc, List.singleton_append, run_renameFunction_append hes,
      run_renameFunction_append hes, hempty, List.append_assoc]
    rfl

end

/-! ### Code books -/

section
variable {source : Text} {signatures : List Signature} {m : Mappings}

/-- No name is a word of the source, and no name of a function ends one: a function is renamed at the end of longer words too. -/
structure Mappings.FreshFor (m : Mappings) (source : Text) : Prop where
  word : ∀ n ∈ m.names, n ∉ words source
  ending : ∀ d ∈ m.functions, ∀ w ∈ words source, ¬ d.2 <:+ w

theorem Mappings.names_eq_append (m : Mappings) :
    m.names = m.vars.names ++ (m.macros.names ++ (m.keywords.names ++ m.functions.map Prod.snd)) := by
  simp [names, Category.all, table, functions, SymbolTable.names]

/-- Where no word of the source ends like an opaque name, all names are new to it. -/
theorem Mappings.Regular.freshFor (hm : m.Regular source signatures)
    (h : ∀ w ∈ words source, ∀ n, n <:+ w → isOpaqueName n = false) : m.FreshFor source := by
  refine ⟨fun n hn hw => ?_, fun d hd w hw hsuffix => ?_⟩
  · have hform := h n hw n (List.suffix_refl n)
    rw [hm.form n hn] at hform
    cases hform
  · have hform := h w hw d.2 hsuffix
    rw [(hm.of_mem_functions hd).2.1] at hform
    cases hform

theorem Mappings.FreshFor.free (h : m.FreshFor source) :
    Free (m.vars.names ++ (m.macros.names ++ (m.keywords.names ++ []))) (m.functions.map Prod.snd) source := by
  refine ⟨fun n hn => h.word n ?_, fun n hn => ?_⟩
  · rw [m.names_eq_append, ← List.append_assoc m.macros.names, ← List.append_assoc]
    rw [List.append_nil] at hn
    exact List.mem_append_left _ hn
  · obtain ⟨d, hd, rfl⟩ := List.mem_map.mp hn
    exact h.ending d hd

/-- Where the names are new, each word of the text without the definitions stands for one text of the source. -/
theorem Mappings.FreshFor.comesBack (hm : m.Regular source signatures) (h : m.FreshFor source) :
    ComesBack (∀ d ∈ m.functions, IsWordText d.1) source (Pass.run renameFunction m.functions (m.body source)) := by
  have hnodup := Mappings.nodup_names hm.distinct
  have hfunctions : ∀ d ∈ m.functions, d.1 ≠ [] ∧ isOpaqueName d.2 = true := fun d hd =>
    ⟨(hm.of_mem_functions hd).1.ne_nil, (hm.of_mem_functions hd).2.1⟩
  have hendings : ∀ n ∈ m.functions.map Prod.snd, isOpaqueName n = true := fun n hn => by
    obtain ⟨d, hd, rfl⟩ := List.mem_map.mp hn
    exact (hfunctions d hd).2
  have hidentifiers : ∀ {c}, c = .varName ∨ c = .macroName → ∀ e ∈ (m.table c).entries,
      IsWordText e.1 ∧ isOpaqueName e.2 = true := fun hc e he =>
    ⟨isWordText_of_isIdentifier (hm.isSymbolOf hc (SymbolTable.mem_symbols_of_mem_entries he)).identifier, hm.name_form he⟩
  have hkeywords : ∀ e ∈ m.keywords.entries, IsWordText e.1 ∧ isOpaqueName e.2 = true := fun e he =>
    ⟨(hm.isWordText he).1, hm.name_form (c := .keyword) he⟩
  rw [m.names_eq_append] at hnodup
  have hmacroNames := hnodup.of_append_right
  have hkeywordNames := hmacroNames.of_append_right
  have hfunctionNames := hkeywordNames.of_append_right
  obtain ⟨hvars, hfree⟩ := h.free.run_replaceWord (g := .unquoted ['"', ')']) (hidentifiers (c := .varName) (Or.inl rfl))
    hendings (by rwa [List.append_assoc, List.append_assoc])
  obtain ⟨hmacros, hfree⟩ := hfree.run_replaceWord (g := .always) (hidentifiers (c := .macroName) (Or.inr rfl)) hendings
    (by rwa [List.append_assoc])
  obtain ⟨hkeys, hfree⟩ := hfree.run_replaceWord (g := .unquoted ['"']) hkeywords hendings hkeywordNames
  have hcalls := hfree.run_renameFunction hfunctions id hfunctionNames
  rw [Mappings.body, renameMacros, renameVariables, Pass.text_overTable, Pass.text_overTable]
  exact ((hvars.trans hmacros).trans hkeys).trans hcalls

end

section
variable {σ : Type} [WordSource σ] {source : Text} {signatures : List Signature} {path : Path}

/-- No name of a run is a word of a source that has no word of that form. Where no name is, and none of a function ends a word of
    the source, nothing becomes one word that was not: behind the definitions each word of the output stands for one text of the
    source, and for one word of it if the functions are words. -/
theorem obfuscate_keeps_words_apart {compactWhitespace : Bool} {g : σ} {o : Obfuscated} {r : Registry σ}
    (h : ({ compactWhitespace } : Engine).obfuscate source signatures path (Registry.ofSource g) = some (o, r)) :
    ((∀ w ∈ words source, isOpaqueName w = false) → ∀ n ∈ o.mappings.names, n ∉ words source) ∧
    ((∀ w ∈ words source, ∀ n, n <:+ w → isOpaqueName n = false) → o.mappings.FreshFor source) ∧
    ∃ header body, ∃ used ⊆ o.mappings.libraryFunctions.entries,
      header = aliasBlock used ++ Pass.run renameFunction o.mappings.functions (aliasBlock o.mappings.keywords.entries) ∧
      body = Pass.run renameFunction o.mappings.functions (o.mappings.body source) ∧
      o.text = (if compactWhitespace then Compaction.compact (header ++ body) else header ++ body) ∧
      (o.mappings.FreshFor source → ∃ back : Text → Text, mapWords back body = source ∧
        ((∀ d ∈ o.mappings.functions, IsWordText d.1) → (words body).map back = words source)) := by
  obtain ⟨hm, ho⟩ := regular_of_obfuscate rfl h
  obtain ⟨used, hused, htext⟩ := text_substitute hm
  rw [run_renameFunction_aliasBlock_append fun d hd => (hm.of_mem_functions hd).1, ← List.append_assoc] at htext
  refine ⟨fun hform n hn hw => ?_, hm.freshFor, _, _, used, hused, rfl, rfl, ?_, fun hfresh => ?_⟩
  · have hopaque := hform n hw
    rw [hm.form n hn] at hopaque
    cases hopaque
  · rw [← htext]
    exact congrArg Obfuscated.text ho
  · obtain ⟨back, hback, hword⟩ := hfresh.comesBack hm
    refine ⟨back, hback, fun hwhole => ?_⟩
    rw [← words_mapWords (hword hwhole), hback]

/-- A function called at the end of a longer word, and a word that ends with the name of a variable. -/
theorem obfuscate_keeps_words_apart_sample :
    ∃ (o : Obfuscated) (r : Registry WordStream),
      ({} : Engine).obfuscate "int x; ya0000000 = xfoo(x);".toList [⟨"extern int foo (int);".toList, ⟨[97]⟩⟩] ⟨[97]⟩
        (Registry.ofSource ⟨fun n => 0xa0 + n.toUInt32⟩) = some (o, r) ∧
      ("x".toList, "a0000000".toList) ∈ o.mappings.vars.entries ∧
      o.mappings.functions.map Prod.fst = ["foo".toList, "main".toList] ∧
      o.mappings.FreshFor "int x; ya0000000 = xfoo(x);".toList ∧
      ∃ back : Text → Text,
        (words (Pass.run renameFunction o.mappings.functions (o.mappings.body "int x; ya0000000 = xfoo(x);".toList))).map back =
          words "int x; ya0000000 = xfoo(x);".toList := by
  have hrun : (({} : Engine).obfuscate "int x; ya0000000 = xfoo(x);".toList [⟨"extern int foo (int);".toList, ⟨[97]⟩⟩] ⟨[97]⟩
      (Registry.ofSource (⟨fun n => 0xa0 + n.toUInt32⟩ : WordStream))).any
      (fun p => decide (("x".toList, "a0000000".toList) ∈ p.1.mappings.vars.entries ∧
        p.1.mappings.functions.map Prod.fst = ["foo".toList, "main".toList] ∧
        (∀ n ∈ p.1.mappings.names, n ∉ words "int x; ya0000000 = xfoo(x);".toList) ∧
        ∀ d ∈ p.1.mappings.functions, ∀ w ∈ words "int x; ya0000000 = xfoo(x);".toList, ¬ d.2 <:+ w)) = true := by
    decide +kernel
  obtain ⟨⟨o, r⟩, h, hfacts⟩ := (Option.any_eq_true _ _).mp hrun
  obtain ⟨hx, hsymbols, hword, hending⟩ := of_decide_eq_true hfacts
  have hfresh : o.mappings.FreshFor "int x; ya0000000 = xfoo(x);".toList := ⟨hword, hending⟩
  have hwhole : ∀ d ∈ o.mappings.functions, IsWordText d.1 := by
    intro d hd
    have hmem := List.mem_map_of_mem (f := Prod.fst) hd
    rw [hsymbols] at hmem
    rcases List.mem_pair.mp hmem with heq | heq
    · exact heq ▸ isWordText_of_isIdentifier (by decide)
    · exact heq ▸ isWordText_of_isIdentifier (by decide)
  obtain ⟨-, -, header, body, used, -, -, rfl, -, hback⟩ := obfuscate_keeps_words_apart h
  obtain ⟨back, -, hwords⟩ := hback hfresh
  exact ⟨o, r, h, hx, hsymbols, hfresh, back, hwords hwhole⟩

/-- The name drawn for a variable stands in the source, and the two become one. -/
theorem obfuscate_merges_words :
    ∃ (o : Obfuscated) (r : Registry Keystream),
      ({} : Engine).obfuscate "int x; x=bf6f2ccd;".toList [] ⟨[97]⟩ (Registry.ofSource (Keystream.ofSeed 0)) = some (o, r) ∧
      ("x".toList, "bf6f2ccd".toList) ∈ o.mappings.vars.entries ∧
      "bf6f2ccd".toList ∈ words "int x; x=bf6f2ccd;".toList ∧
      o.text = "#define db69278e int\ndb69278e bf6f2ccd; bf6f2ccd=bf6f2ccd;".toList := by
  have hrun : (({} : Engine).obfuscate "int x; x=bf6f2ccd;".toList [] ⟨[97]⟩ (Registry.ofSource (Keystream.ofSeed 0))).any
      (fun p => decide (("x".toList, "bf6f2ccd".toList) ∈ p.1.mappings.vars.entries ∧
        "bf6f2ccd".toList ∈ words "int x; x=bf6f2ccd;".toList ∧
        p.1.text = "#define db69278e int\ndb69278e bf6f2ccd; bf6f2ccd=bf6f2ccd;".toList)) = true := by decide +kernel
  obtain ⟨⟨o, r⟩, h, hfacts⟩ := (Option.any_eq_true _ _).mp hrun
  obtain ⟨hx, hword, htext⟩ := of_decide_eq_true hfacts
  exact ⟨o, r, h, hx, hword, htext⟩

end
end Cloak
