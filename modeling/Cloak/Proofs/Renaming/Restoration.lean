import Cloak.Proofs.Renaming.Alias
import Cloak.Proofs.Symbol.Codebook

/-! Renaming whole words can be undone. Every word of the renamed text is the word that stood in its place or a name of it,
    whatever the guards refused and however many tables hold the symbol; where names and words are kept apart, the name tells
    which. -/

namespace Cloak

/-! ### Restoring -/

namespace Mappings

/-- The entries of all categories. -/
def entries (m : Mappings) : List (Text × Text) := Category.all.flatMap fun c => (m.table c).entries

/-- The symbol that goes by a name. -/
def symbolOf? (m : Mappings) (name : Text) : Option Text := (m.entries.find? (·.2 = name)).map Prod.fst

/-- The text with each word that is an opaque name replaced by its symbol. -/
def restore (m : Mappings) (s : Text) : Text := mapWords (fun w => (m.symbolOf? w).getD w) s

theorem names_eq (m : Mappings) : m.names = m.entries.map Prod.snd := by
  rw [entries, List.map_flatMap]
  rfl

theorem mem_entries {m : Mappings} {e : Text × Text} : e ∈ m.entries ↔ ∃ c, e ∈ (m.table c).entries := by
  rw [entries, List.mem_flatMap]
  refine ⟨fun ⟨c, _, h⟩ => ⟨c, h⟩, fun ⟨c, h⟩ => ⟨c, ?_, h⟩⟩
  cases c <;> decide

theorem symbolOf?_of_mem {m : Mappings} (hn : m.names.Nodup) {e : Text × Text} (he : e ∈ m.entries) :
    m.symbolOf? e.2 = some e.1 := by
  rw [names_eq] at hn
  rw [symbolOf?, find?_of_nodup_map hn he, Option.map_some]

theorem symbolOf?_of_not_mem {m : Mappings} {w : Text} (h : w ∉ m.names) : m.symbolOf? w = none := by
  rw [names_eq] at h
  rw [symbolOf?, List.find?_eq_none.mpr, Option.map_none]
  intro e he heq
  exact h (of_decide_eq_true heq ▸ List.mem_map_of_mem he)

end Mappings

/-- Symbols, names and the words of a source that renaming keeps apart: symbols and names are identifiers, no keyword is
    `define`, names are distinct, and no name is a symbol or a word of the source. -/
structure Mappings.Separates (m : Mappings) (source : Text) : Prop where
  symbols : ∀ c, ∀ x ∈ (m.table c).symbols, isIdentifier x = true
  keywords : defineWord ∉ m.keywords.symbols
  names : ∀ n ∈ m.names, isIdentifier n = true
  nodup : m.names.Nodup
  apart : ∀ c, ∀ x ∈ (m.table c).symbols, x ∉ m.names
  fresh : ∀ w ∈ words source, w ∉ m.names

/-! ### Disguised texts -/

/-- `d` stands for `c`: it is `c` itself, or a name of it. -/
def Mappings.Masks (m : Mappings) (c d : Text) : Prop := d = c ∨ (c, d) ∈ m.entries

/-- Cluster by cluster, `t` stands for `s`. -/
def Mappings.Disguises (m : Mappings) (s t : Text) : Prop :=
  List.Forall₂ m.Masks (clusters isWord s) (clusters isWord t)

section
variable {m : Mappings} {source : Text}

theorem Mappings.Disguises.refl (m : Mappings) (s : Text) : m.Disguises s s :=
  List.forall₂_same.mpr fun _ _ => Or.inl rfl

theorem Mappings.Separates.word_symbol (h : m.Separates source) {e : Text × Text} (he : e ∈ m.entries) :
    IsWordText e.1 := by
  obtain ⟨c, hc⟩ := Mappings.mem_entries.mp he
  exact isWordText_of_isIdentifier (h.symbols c e.1 (SymbolTable.mem_symbols_of_mem_entries hc))

theorem Mappings.Separates.word_name (h : m.Separates source) {e : Text × Text} (he : e ∈ m.entries) :
    IsWordText e.2 :=
  isWordText_of_isIdentifier (h.names e.2 (m.names_eq ▸ List.mem_map_of_mem he))

/-- One symbol more: where it stands in the renamed text it stands in the source too, for it is no name. -/
theorem Mappings.Disguises.replaceWord (h : m.Separates source) {e : Text × Text} (he : e ∈ m.entries) (g : Guard)
    {t : Text} (ht : m.Disguises source t) : m.Disguises source (replaceWord e.1 e.2 g t).text := by
  obtain ⟨c, hc⟩ := Mappings.mem_entries.mp he
  have hnot := h.apart c e.1 (SymbolTable.mem_symbols_of_mem_entries hc)
  unfold Mappings.Disguises
  rw [replaceWord_eq_pass (h.word_symbol he), Rule.pass,
    (keeps_wordRule (h.word_symbol he) (h.word_name he) _).clusters_rewrite]
  refine Rule.forall₂_rewrite ht fun a b rest d hab hd => ?_
  unfold wordRule at hd
  split at hd
  · next hb =>
    cases hd
    rcases hab with hab | hab
    · exact Or.inr (hab ▸ hb.1 ▸ he)
    · exact absurd (hb.1 ▸ m.names_eq ▸ List.mem_map_of_mem hab) hnot
  · cases hd

/-- One table more. -/
theorem Mappings.Disguises.overTable (h : m.Separates source) {c : Category} {g : Guard} {t : Text}
    (ht : m.Disguises source t) :
    m.Disguises source (Pass.overTable (fun symbol name => Cloak.replaceWord symbol name g) (m.table c) t).text :=
  Pass.overTable_induction ht fun _ he _ hs => hs.replaceWord h (Mappings.mem_entries.mpr ⟨c, he⟩) g

theorem flatMap_eq_of_forall₂ {R : Text → Text → Prop} {f : Text → Text} {cs ds : List Text} (h : List.Forall₂ R cs ds)
    (hf : ∀ c ∈ cs, ∀ d, R c d → f d = c) : ds.flatMap f = cs.flatten := by
  induction h with
  | nil => rfl
  | @cons c d cs ds hcd _ ih =>
    rw [List.flatMap_cons, List.flatten_cons, hf c List.mem_cons_self d hcd,
      ih fun c' hc' => hf c' (List.mem_cons_of_mem c hc')]

/-- A disguised text is restored: a name gives its symbol back, and all else is no name. -/
theorem Mappings.Disguises.restore_eq (h : m.Separates source) {t : Text} (ht : m.Disguises source t) :
    m.restore t = source := by
  refine (flatMap_eq_of_forall₂ ht fun c hc d hcd => ?_).trans (flatten_clusters isWord source)
  rcases hcd with rfl | hcd
  · -- A part of the source itself: no word of the source is a name.
    split
    · next hall =>
      have hw : d ∈ words source := List.mem_filter.mpr ⟨hc, hall⟩
      have hnone : m.symbolOf? d = none := Mappings.symbolOf?_of_not_mem (h.fresh d hw)
      simp only [hnone, Option.getD_none]
    · rfl
  · have hall : d.all isWord = true := List.all_eq_true.mpr (h.word_name hcd).all
    have hsome : m.symbolOf? d = some c := Mappings.symbolOf?_of_mem h.nodup hcd
    simp only [hall, if_true, hsome, Option.getD_some]

theorem Mappings.Separates.aliasable (h : m.Separates source) : m.keywords.Aliasable where
  symbols x hx := ⟨isWordText_of_isIdentifier (h.symbols .keyword x hx), fun hd => h.keywords (hd ▸ hx)⟩
  names n hn := by
    obtain ⟨e, he, rfl⟩ := List.mem_map.mp hn
    have hmem : e ∈ m.entries := Mappings.mem_entries.mpr ⟨.keyword, he⟩
    exact ⟨h.word_name hmem, fun hx => h.apart .keyword e.2 hx (m.names_eq ▸ List.mem_map_of_mem hmem)⟩

/-- Without functions, renaming gives the aliases of the keywords and a body that restoring turns back into the source. -/
theorem substitute_restorable (hlocal : m.localFunctions = .empty) (hlibrary : m.libraryFunctions = .empty)
    (h : m.Separates source) :
    ∃ body, (substitute m source).text = aliasBlock m.keywords.entries ++ body ∧ m.restore body = source := by
  have htext : (substitute m source).text =
      (renameKeywords m.keywords (renameMacros m.macros (renameVariables m.vars source).text).text).text := by
    simp only [substitute, hlocal, hlibrary]
    rfl
  refine ⟨_, by rw [htext, renameKeywords_eq h.aliasable]; rfl, ?_⟩
  have hvars := (Mappings.Disguises.refl m source).overTable h (c := .varName) (g := Guard.unquoted ['"', ')'])
  have hmacros := hvars.overTable h (c := .macroName) (g := Guard.always)
  exact (hmacros.overTable h (c := .keyword) (g := Guard.unquoted ['"'])).restore_eq h

end

/-- Mappings in which `x` is in three tables. -/
def overlappingMappings : Mappings :=
  ((((({} : Mappings).insert .varName "x".toList "a1".toList).insert .macroName "x".toList "b2".toList).insert
    .macroName "MAX".toList "c3".toList).insert .keyword "int".toList "d4".toList).insert .keyword "x".toList "e5".toList

/-- A symbol in three tables, once where the guards refuse it. -/
theorem substitute_restorable_of_overlap :
    overlappingMappings.localFunctions = .empty ∧ overlappingMappings.libraryFunctions = .empty ∧
      overlappingMappings.Separates "int x = MAX;puts(\"int x\");\n#define MAX x".toList ∧
      ∃ body, (substitute overlappingMappings "int x = MAX;puts(\"int x\");\n#define MAX x".toList).text =
          aliasBlock overlappingMappings.keywords.entries ++ body ∧
        overlappingMappings.restore body = "int x = MAX;puts(\"int x\");\n#define MAX x".toList := by
  have hsep : overlappingMappings.Separates "int x = MAX;puts(\"int x\");\n#define MAX x".toList := by
    refine ⟨fun c => ?_, by decide, by decide, by decide, fun c => ?_, by decide +kernel⟩
    · cases c <;> decide
    · cases c <;> decide
  exact ⟨rfl, rfl, hsep, substitute_restorable rfl rfl hsep⟩

end Cloak
