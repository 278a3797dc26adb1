import Cloak.Compaction
import Cloak.Harvest.Function
import Cloak.Renaming.Pass

/-! Obfuscation of a text without comments, given the signatures of its functions. -/

namespace Cloak
variable {σ : Type} [WordSource σ]

/-- What is renamed and how the result is laid out. -/
structure Engine where
  keywords : List Text := defaultKeywords
  compactWhitespace : Bool := true
  deriving DecidableEq, Repr

/-- An obfuscated text, the code book, and the occurrences replaced in each category. -/
structure Obfuscated where
  text : Text
  mappings : Mappings
  replaced : Category → Nat

/-- Renames the symbols of a text and lays it out. -/
def Engine.render (e : Engine) (mappings : Mappings) (source : Text) : Obfuscated :=
  let s := substitute mappings source
  { text := if e.compactWhitespace then Compaction.compact s.text else s.text
    mappings
    replaced := s.replaced }

/-- Obfuscates a text. `path` decides which functions are local. -/
def Engine.obfuscate (e : Engine) (source : Text) (signatures : List Signature) (path : Path) :
    Naming σ Obfuscated := do
  let mappings ← harvest e.keywords source
  let functions ← classify signatures path
  return e.render
    { mappings with localFunctions := functions.locals, libraryFunctions := functions.library } source

end Cloak
