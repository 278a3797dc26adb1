import Cloak.Proofs.Harvest.Demand
import Mathlib.Data.List.Nodup

/-! What the code book of an obfuscation holds. Its entries are demands with the names that met them, so its names are
    distinct across all categories; its symbols depend on the demands alone and not on the names. -/

namespace Cloak

/-! ### Entries -/

/-- A search by a key that no two elements share finds the element itself. -/
theorem find?_of_nodup_map {α κ : Type} [DecidableEq κ] {l : List α} {key : α → κ} (hn : (l.map key).Nodup) {a : α}
    (ha : a ∈ l) : l.find? (fun b => decide (key b = key a)) = some a := by
  obtain ⟨pre, post, rfl⟩ := List.append_of_mem ha
  rw [List.map_append, List.map_cons, List.nodup_append] at hn
  rw [List.find?_append, List.find?_eq_none.mpr, Option.none_or, List.find?_cons_of_pos (by simp)]
  intro b hb heq
  exact hn.2.2 (key b) (List.mem_map_of_mem hb) (key a) List.mem_cons_self (of_decide_eq_true heq)

namespace SymbolTable

theorem mem_upsert {symbol name : Text} {es : List (Text × Text)} {e : Text × Text} (h : e ∈ upsert symbol name es) :
    e = (symbol, name) ∨ e ∈ es := by
  induction es with
  | nil => exact Or.inl (List.mem_singleton.mp h)
  | cons d es ih =>
    unfold upsert at h
    split at h
    · rcases List.mem_cons.mp h with h | h
      · exact Or.inl h
      · exact Or.inr (List.mem_cons_of_mem d h)
    · rcases List.mem_cons.mp h with rfl | h
      · exact Or.inr List.mem_cons_self
      · exact (ih h).imp_right (List.mem_cons_of_mem d)

theorem mem_symbols_of_mem_entries {t : SymbolTable} {e : Text × Text} (h : e ∈ t.entries) : e.1 ∈ t.symbols :=
  List.mem_map_of_mem h

theorem nodup_entries (t : SymbolTable) : t.entries.Nodup := t.nodup.of_map _

/-- The name of a symbol is that of its entry. -/
theorem find?_of_mem_entries {t : SymbolTable} {e : Text × Text} (h : e ∈ t.entries) : t.find? e.1 = some e.2 := by
  rw [find?, find?_of_nodup_map t.nodup h, Option.map_some]

theorem find?_eq_some_iff {t : SymbolTable} {x name : Text} : t.find? x = some name ↔ (x, name) ∈ t.entries := by
  refine ⟨fun h => ?_, fun h => find?_of_mem_entries h⟩
  obtain ⟨e, he, rfl⟩ := Option.map_eq_some_iff.mp h
  have hkey := List.find?_some he
  obtain rfl : e.1 = x := of_decide_eq_true hkey
  exact List.mem_of_find?_eq_some he

end SymbolTable

namespace Mappings

theorem mem_names {m : Mappings} {name : Text} : name ∈ m.names ↔ ∃ c, ∃ e ∈ (m.table c).entries, e.2 = name := by
  simp only [names, List.mem_flatMap, SymbolTable.names, List.mem_map]
  refine ⟨fun ⟨c, _, h⟩ => ⟨c, h⟩, fun ⟨c, h⟩ => ⟨c, ?_, h⟩⟩
  cases c <;> decide

/-- Where no two entries share a name, no name stands twice. -/
theorem nodup_names {m : Mappings}
    (h : ∀ {c d e f}, e ∈ (m.table c).entries → f ∈ (m.table d).entries → e.2 = f.2 → c = d ∧ e = f) : m.names.Nodup := by
  refine List.nodup_flatMap.mpr ⟨fun c _ => ?_, ?_⟩
  · exact (List.nodup_map_iff_inj_on (SymbolTable.nodup_entries _)).mpr fun e he f hf heq => (h he hf heq).2
  · have hall : Category.all.Nodup := by decide
    refine hall.imp fun {c d} hne => ?_
    intro name hc hd
    obtain ⟨e, he, rfl⟩ := List.mem_map.mp hc
    obtain ⟨f, hf, heq⟩ := List.mem_map.mp hd
    exact hne (h he hf heq.symm).1

theorem mem_entries_meet {m : Mappings} {ds : List (Demand × Text)} {c : Category} {e : Text × Text}
    (h : e ∈ ((m.meet ds).table c).entries) : ((c, e.1), e.2) ∈ ds ∨ e ∈ (m.table c).entries := by
  induction ds generalizing m with
  | nil => exact Or.inr h
  | cons d ds ih =>
    rcases ih h with h | h
    · exact Or.inl (List.mem_cons_of_mem d h)
    · rw [table_insert] at h
      split at h
      · next hc =>
        rcases SymbolTable.mem_upsert h with rfl | h
        · exact Or.inl (hc ▸ List.mem_cons_self)
        · exact Or.inr (hc ▸ h)
      · exact Or.inr h

end Mappings

theorem table_codebook (ds : List Demand) (names : List Text) (c : Category) :
    (codebook ds names).table c =
      if c = .localFunction then ((({} : Mappings).meet (ds.zip names)).table c).erase entryPoint
      else (({} : Mappings).meet (ds.zip names)).table c := by
  cases c <;> rfl

/-- An entry of the code book is a demand and the name that met it. -/
theorem mem_zip_of_mem_codebook {ds : List Demand} {names : List Text} {c : Category} {e : Text × Text}
    (h : e ∈ ((codebook ds names).table c).entries) : ((c, e.1), e.2) ∈ ds.zip names := by
  have hm : e ∈ ((({} : Mappings).meet (ds.zip names)).table c).entries := by
    rw [table_codebook] at h
    split at h
    · exact (List.mem_filter.mp h).1
    · exact h
  rcases Mappings.mem_entries_meet hm with h | h
  · exact h
  · cases c <;> cases h

theorem mem_of_mem_codebook_names {ds : List Demand} {names : List Text} {name : Text}
    (h : name ∈ (codebook ds names).names) : name ∈ names := by
  obtain ⟨c, e, he, rfl⟩ := Mappings.mem_names.mp h
  exact (List.of_mem_zip (mem_zip_of_mem_codebook he)).2

/-! ### Distinct names -/

/-- Each name meets one demand only. -/
theorem eq_of_mem_zip {ds : List Demand} {names : List Text} (hl : names.length = ds.length) (hn : names.Nodup)
    {a b : Demand × Text} (ha : a ∈ ds.zip names) (hb : b ∈ ds.zip names) (h : a.2 = b.2) : a = b := by
  have hz : ((ds.zip names).map Prod.snd).Nodup := by rwa [List.map_snd_zip (Nat.le_of_eq hl)]
  exact List.inj_on_of_nodup_map hz ha hb h

/-- Two entries with one name are one entry of one table. -/
theorem eq_of_mem_codebook {ds : List Demand} {names : List Text} (hl : names.length = ds.length) (hn : names.Nodup)
    {c d : Category} {e f : Text × Text} (he : e ∈ ((codebook ds names).table c).entries)
    (hf : f ∈ ((codebook ds names).table d).entries) (h : e.2 = f.2) : c = d ∧ e = f := by
  have := eq_of_mem_zip hl hn (mem_zip_of_mem_codebook he) (mem_zip_of_mem_codebook hf) h
  simp only [Prod.mk.injEq] at this
  exact ⟨this.1.1, Prod.ext this.1.2 this.2⟩

theorem nodup_codebook_names {ds : List Demand} {names : List Text} (hl : names.length = ds.length)
    (hn : names.Nodup) : (codebook ds names).names.Nodup :=
  Mappings.nodup_names fun hc hd h => eq_of_mem_codebook hl hn hc hd h

/-! ### Symbols -/

/-- The symbols with one more noted at the end, unless it is there. -/
def note (symbols : List Text) (symbol : Text) : List Text :=
  if symbols.contains symbol then symbols else symbols ++ [symbol]

theorem SymbolTable.symbols_insert (t : SymbolTable) (symbol name : Text) :
    (t.insert symbol name).symbols = note t.symbols symbol := by
  simp only [note, List.contains_iff_mem]
  exact map_fst_upsert symbol name t.entries

theorem SymbolTable.symbols_erase (t : SymbolTable) (symbol : Text) :
    (t.erase symbol).symbols = t.symbols.filter (· ≠ symbol) := by
  rw [symbols, symbols, List.filter_map]
  rfl

/-- Notes the symbol of a demand if it is of category `c`. -/
def noteOf (c : Category) (symbols : List Text) (d : Demand) : List Text :=
  if d.1 = c then note symbols d.2 else symbols

/-- The symbols of one category among demands, each at its first place. -/
def symbolsOf (c : Category) (ds : List Demand) : List Text := ds.foldl (noteOf c) []

theorem symbols_insert_table (m : Mappings) (c : Category) (d : Demand) (name : Text) :
    ((m.insert d.1 d.2 name).table c).symbols = noteOf c (m.table c).symbols d := by
  rw [Mappings.table_insert, noteOf]
  by_cases h : c = d.1
  · rw [if_pos h, if_pos h.symm, SymbolTable.symbols_insert, h]
  · rw [if_neg h, if_neg (Ne.symm h)]

theorem symbols_meet (m : Mappings) (c : Category) {ds : List Demand} {names : List Text}
    (hl : names.length = ds.length) :
    ((m.meet (ds.zip names)).table c).symbols = ds.foldl (noteOf c) (m.table c).symbols := by
  induction ds generalizing names m with
  | nil => rfl
  | cons d ds ih =>
    cases names with
    | nil => cases hl
    | cons name names =>
      rw [List.foldl_cons, ← symbols_insert_table m c d name, ← ih _ (Nat.succ.inj hl)]
      rfl

theorem symbols_codebook {ds : List Demand} {names : List Text} (hl : names.length = ds.length) (c : Category) :
    ((codebook ds names).table c).symbols =
      if c = .localFunction then (symbolsOf c ds).filter (· ≠ entryPoint) else symbolsOf c ds := by
  have hm : ((({} : Mappings).meet (ds.zip names)).table c).symbols = symbolsOf c ds := by
    rw [symbols_meet _ c hl]
    cases c <;> rfl
  rw [table_codebook]
  split
  · rw [SymbolTable.symbols_erase, hm]
  · exact hm

theorem mem_note {symbols : List Text} {symbol x : Text} : x ∈ note symbols symbol ↔ x ∈ symbols ∨ x = symbol := by
  unfold note
  split
  · next h => exact ⟨Or.inl, fun hx => hx.elim id fun hx => hx ▸ List.contains_iff_mem.mp h⟩
  · rw [List.mem_append, List.mem_singleton]

theorem mem_foldl_noteOf {c : Category} {ds : List Demand} {symbols : List Text} {x : Text} :
    x ∈ ds.foldl (noteOf c) symbols ↔ x ∈ symbols ∨ (c, x) ∈ ds := by
  induction ds generalizing symbols with
  | nil => simp
  | cons d ds ih =>
    rw [List.foldl_cons, ih, List.mem_cons, noteOf]
    split
    · next h => rw [mem_note, or_assoc, ← h, Prod.ext_iff, eq_self, true_and]
    · next h =>
      have hd : (c, x) ≠ d := fun hd => h (hd ▸ rfl)
      rw [eq_false hd, false_or]

theorem mem_symbolsOf {c : Category} {ds : List Demand} {x : Text} : x ∈ symbolsOf c ds ↔ (c, x) ∈ ds := by
  rw [symbolsOf, mem_foldl_noteOf]
  simp

theorem mem_demands_of_mem_codebook {ds : List Demand} {names : List Text} (hl : names.length = ds.length) {c : Category}
    {x : Text} (h : x ∈ ((codebook ds names).table c).symbols) : (c, x) ∈ ds := by
  rw [symbols_codebook hl] at h
  split at h
  · exact mem_symbolsOf.mp (List.mem_filter.mp h).1
  · exact mem_symbolsOf.mp h

/-! ### The code book of a run -/

section
variable {σ : Type} [WordSource σ] {e : Engine} {source : Text} {signatures : List Signature} {path : Path}

/-- A run that ends has drawn a name for each demand, and renders with the code book of these names. -/
theorem obfuscate_eq_some {r r' : Registry σ} {o : Obfuscated}
    (h : e.obfuscate source signatures path r = some (o, r')) :
    ∃ names, drawNames (demands e.keywords source signatures path).length r = some (names, r') ∧
      o = e.render (codebook (demands e.keywords source signatures path) names) source := by
  rw [obfuscate_eq] at h
  simp only [Functor.map, StateT.map, bind, Option.bind_eq_some_iff, pure, Option.some.injEq, Prod.mk.injEq] at h
  obtain ⟨⟨names, q⟩, hd, rfl, rfl⟩ := h
  exact ⟨names, hd, rfl⟩

/-- Opaque names are distinct across all categories and repeats, that of the entry point included, and each has eight
    hexadecimal digits, the first a letter. -/
theorem obfuscate_names_distinct {g : σ} {o : Obfuscated} {r : Registry σ}
    (h : e.obfuscate source signatures path (Registry.ofSource g) = some (o, r)) :
    o.mappings.names.Nodup ∧ entryPoint ∈ o.mappings.libraryFunctions.symbols ∧
      ∀ name ∈ o.mappings.names, name.length = 8 ∧ (∀ c ∈ name, ('0' ≤ c ∧ c ≤ '9') ∨ ('a' ≤ c ∧ c ≤ 'f')) ∧
        ∃ c ∈ name.head?, 'a' ≤ c ∧ c ≤ 'f' := by
  obtain ⟨names, hd, rfl⟩ := obfuscate_eq_some h
  have hl := length_of_drawNames hd
  have hi := issuesAll_of_drawNames hd
  refine ⟨nodup_codebook_names hl hi.nodup, ?_, fun name hn => ?_⟩
  · change entryPoint ∈ ((codebook _ names).table .libraryFunction).symbols
    rw [symbols_codebook hl, if_neg (by decide), mem_symbolsOf]
    exact List.mem_append_right _ List.mem_cons_self
  · obtain ⟨hlen, hhex, c, hc, hdigit⟩ := isOpaqueName_iff.mp (hi.form name (mem_of_mem_codebook_names hn))
    refine ⟨hlen, fun c hc => isHexDigit_iff.mp (hhex c hc), c, hc, ?_⟩
    exact letter_of_isHexDigit (hhex c (List.mem_of_mem_head? hc)) hdigit

end

/-- One identifier as variable, macro and function, drawn for again where it is repeated; the second word was issued before,
    and the third does not begin with a letter. -/
theorem obfuscate_names_distinct_of_repeats :
    ∃ (o : Obfuscated) (r : Registry WordStream),
      ({} : Engine).obfuscate "int x;int x;\n#define x 1\n".toList [⟨"extern int x (void);".toList, ⟨[97]⟩⟩] ⟨[97]⟩
          (Registry.ofSource ⟨fun n => [0xa0, 0xa0, 0x1b, 0xc0, 0xd0, 0xe0, 0xf0].getD n 0xaa⟩) = some (o, r) ∧
        o.mappings.names.Nodup ∧ entryPoint ∈ o.mappings.libraryFunctions.symbols ∧
          ∀ name ∈ o.mappings.names, name.length = 8 ∧ (∀ c ∈ name, ('0' ≤ c ∧ c ≤ '9') ∨ ('a' ≤ c ∧ c ≤ 'f')) ∧
            ∃ c ∈ name.head?, 'a' ≤ c ∧ c ≤ 'f' := by
  have hrun : (({} : Engine).obfuscate "int x;int x;\n#define x 1\n".toList [⟨"extern int x (void);".toList, ⟨[97]⟩⟩] ⟨[97]⟩
      (Registry.ofSource (⟨fun n => [0xa0, 0xa0, 0x1b, 0xc0, 0xd0, 0xe0, 0xf0].getD n 0xaa⟩ : WordStream))).isSome = true := by
    decide +kernel
  obtain ⟨⟨o, r⟩, h⟩ := Option.isSome_iff_exists.mp hrun
  exact ⟨o, r, h, obfuscate_names_distinct h⟩

end Cloak
