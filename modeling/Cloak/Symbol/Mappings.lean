import Cloak.Symbol.Table

/-! The categories of symbols and a table for each: the code book of one obfuscation. -/

namespace Cloak

/-- What a symbol is in the source. -/
inductive Category where
  | varName
  | macroName
  | keyword
  | localFunction
  | libraryFunction
  deriving DecidableEq, Repr

namespace Category

/-- The categories in the order in which they are renamed. -/
def all : List Category := [.varName, .macroName, .keyword, .localFunction, .libraryFunction]

/-- How a category is called in logs and reports. -/
def label : Category → String
  | .varName => "variable"
  | .macroName => "macro"
  | .keyword => "keyword"
  | .localFunction => "local_function"
  | .libraryFunction => "library_function"

/-- The category of a label. -/
def ofLabel? (label : String) : Option Category := all.find? (·.label = label)

end Category

/-- A symbol table for each category. -/
structure Mappings where
  vars : SymbolTable := .empty
  macros : SymbolTable := .empty
  keywords : SymbolTable := .empty
  localFunctions : SymbolTable := .empty
  libraryFunctions : SymbolTable := .empty
  deriving DecidableEq

namespace Mappings

/-- The table of a category. -/
def table (m : Mappings) : Category → SymbolTable
  | .varName => m.vars
  | .macroName => m.macros
  | .keyword => m.keywords
  | .localFunction => m.localFunctions
  | .libraryFunction => m.libraryFunctions

/-- The mappings with another table for a category. -/
def withTable (m : Mappings) (c : Category) (t : SymbolTable) : Mappings :=
  match c with
  | .varName => { m with vars := t }
  | .macroName => { m with macros := t }
  | .keyword => { m with keywords := t }
  | .localFunction => { m with localFunctions := t }
  | .libraryFunction => { m with libraryFunctions := t }

/-- Maps `symbol` to `name` in a category. -/
def insert (m : Mappings) (c : Category) (symbol name : Text) : Mappings :=
  m.withTable c ((m.table c).insert symbol name)

/-- The name of `symbol` in a category. -/
def find? (m : Mappings) (c : Category) (symbol : Text) : Option Text := (m.table c).find? symbol

/-- The number of entries of all categories. -/
def size (m : Mappings) : Nat := Category.all.foldl (fun n c => n + (m.table c).size) 0

/-- All opaque names, category by category. -/
def names (m : Mappings) : List Text := Category.all.flatMap fun c => (m.table c).names

end Mappings
end Cloak
