import Cloak.Json.Document
import Cloak.Json.Value
import Cloak.Symbol.Mappings

/-! Mappings as a JSON code book: an object with a member for each category, whose members are the symbols. -/

namespace Cloak

open Json (Document Value)

/-- A table as a document. -/
def SymbolTable.document (t : SymbolTable) : Document := .object (t.entries.map fun e => (e.1, .text e.2))

/-- A table from an object of strings. -/
def SymbolTable.ofValue? : Value → Option SymbolTable
  | .object members => do
    let pairs ← members.mapM fun (key, v) => do return (← key, ← v.text?)
    return .ofList pairs
  | _ => none

namespace Mappings

/-- The names of the fields of a code book. -/
def fieldNames : List Text :=
  ["variables".toList, "macros".toList, "keywords".toList, "local_functions".toList, "library_functions".toList]

/-- Mappings as a document. -/
def document (m : Mappings) : Document :=
  .object (fieldNames.zip [m.vars.document, m.macros.document, m.keywords.document,
    m.localFunctions.document, m.libraryFunctions.document])

/-- Mappings as JSON text. -/
def toJson (m : Mappings) : Text := m.document.compact

/-- Mappings from a value that has all five tables. -/
def ofValue? (v : Value) : Option Mappings :=
  match v.fields? fieldNames with
  | some [some vars, some macros, some keywords, some localFunctions, some libraryFunctions] => do
    return {
      vars := ← SymbolTable.ofValue? vars
      macros := ← SymbolTable.ofValue? macros
      keywords := ← SymbolTable.ofValue? keywords
      localFunctions := ← SymbolTable.ofValue? localFunctions
      libraryFunctions := ← SymbolTable.ofValue? libraryFunctions }
  | _ => none

/-- Mappings from JSON text. -/
def ofJson? (s : Text) : Option Mappings := do ofValue? (← Value.read? s)

end Mappings
end Cloak
