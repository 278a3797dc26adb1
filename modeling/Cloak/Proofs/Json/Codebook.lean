import Cloak.Proofs.Json.Reading
import Cloak.Symbol.Codebook
import Mathlib.Data.List.Forall2

/-! The JSON of a code book is read back as the code book itself: every table is an object whose members stand in the order of
    the entries, and inserting them one by one gives the table again, as no symbol comes twice. -/

namespace Cloak

open Json (Document Value)

/-! ### Tables -/

namespace SymbolTable

theorem upsert_of_not_mem {symbol name : Text} {es : List (Text × Text)} (h : symbol ∉ es.map Prod.fst) :
    upsert symbol name es = es ++ [(symbol, name)] := by
  induction es with
  | nil => rfl
  | cons e es ih =>
    rw [List.map_cons, List.mem_cons, not_or] at h
    rw [upsert, if_neg (Ne.symm h.1), ih h.2, List.cons_append]

theorem entries_foldl_insert {t : SymbolTable} {es : List (Text × Text)} (h : ((t.entries ++ es).map Prod.fst).Nodup) :
    (es.foldl (fun t e => t.insert e.1 e.2) t).entries = t.entries ++ es := by
  induction es generalizing t with
  | nil => rw [List.foldl_nil, List.append_nil]
  | cons e es ih =>
    have hnew : e.1 ∉ t.entries.map Prod.fst := by
      rw [List.map_append, List.map_cons, List.nodup_append] at h
      exact fun hmem => h.2.2 e.1 hmem e.1 List.mem_cons_self rfl
    have hentries : (t.insert e.1 e.2).entries = t.entries ++ [e] := upsert_of_not_mem hnew
    rw [List.foldl_cons, ih (by rwa [hentries, List.append_assoc, List.singleton_append]), hentries, List.append_assoc,
      List.singleton_append]

/-- The entries of a table, inserted in order, make the table. -/
theorem ofList_entries (t : SymbolTable) : ofList t.entries = t :=
  SymbolTable.ext (entries_foldl_insert (t := empty) t.nodup)

/-- The members of a table's object, in the order of the entries. -/
def members (t : SymbolTable) : List (Text × Value) := t.entries.map fun e => (e.1, .string (some e.2))

theorem readsAs_document (t : SymbolTable) : t.document.ReadsAs (.object (Document.keyed t.members)) := by
  refine Document.readsAs_object ?_
  refine List.forall₂_map_left_iff.mpr (List.forall₂_map_right_iff.mpr (List.forall₂_same.mpr fun e _ => ?_))
  exact ⟨rfl, Document.readsAs_text e.2⟩

theorem mapM_map_eq_some {α β : Type} {f : β → Option α} {g : α → β} (h : ∀ a, f (g a) = some a) (l : List α) :
    (l.map g).mapM f = some l := by
  induction l with
  | nil => rfl
  | cons a l ih =>
    rw [List.map_cons, List.mapM_cons, h, ih]
    rfl

theorem ofValue?_keyed (t : SymbolTable) : ofValue? (.object (Document.keyed t.members)) = some t := by
  simp only [ofValue?]
  rw [Document.keyed, members, List.map_map, mapM_map_eq_some, Option.bind_eq_bind, Option.bind_some, ofList_entries]
  · rfl
  · exact fun e => rfl

end SymbolTable

/-! ### Code books -/

namespace Mappings

/-- The members of a code book's object: the five tables under the names of their fields. -/
def members (m : Mappings) : List (Text × Value) :=
  fieldNames.zip ([m.vars, m.macros, m.keywords, m.localFunctions, m.libraryFunctions].map fun t =>
    .object (Document.keyed t.members))

theorem readsAs_document (m : Mappings) : m.document.ReadsAs (.object (Document.keyed m.members)) := by
  refine Document.readsAs_object ?_
  refine .cons ⟨rfl, m.vars.readsAs_document⟩ (.cons ⟨rfl, m.macros.readsAs_document⟩ ?_)
  refine .cons ⟨rfl, m.keywords.readsAs_document⟩ (.cons ⟨rfl, m.localFunctions.readsAs_document⟩ ?_)
  exact .cons ⟨rfl, m.libraryFunctions.readsAs_document⟩ .nil

theorem ofValue?_keyed (m : Mappings) : ofValue? (.object (Document.keyed m.members)) = some m := by
  have hfields : Value.fields? fieldNames (.object (Document.keyed m.members)) =
      some ([m.vars, m.macros, m.keywords, m.localFunctions, m.libraryFunctions].map fun t =>
        some (.object (Document.keyed t.members))) := rfl
  simp only [ofValue?, hfields, List.map_cons, List.map_nil, SymbolTable.ofValue?_keyed]
  rfl

/-- The JSON of a code book is an object of the five tables, each with its entries in order, and reading it gives the code
    book back. -/
theorem toJson_reads_back (m : Mappings) :
    Value.read? m.toJson = some (.object (Document.keyed m.members)) ∧ ofJson? m.toJson = some m := by
  have hread : Value.read? m.toJson = some (.object (Document.keyed m.members)) := m.readsAs_document.read?
  refine ⟨hread, ?_⟩
  rw [ofJson?, hread, Option.bind_eq_bind, Option.bind_some, m.ofValue?_keyed]

end Mappings
end Cloak
