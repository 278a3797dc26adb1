import Cloak.Path
import Cloak.Symbol.Codebook

/-! The report of a finished run. -/

namespace Cloak

open Json (Document)

/-- What a run did. -/
structure Report where
  input : Path
  output : Path
  seed : Nat
  replaced : Category → Nat
  mappings : Mappings

namespace Report

/-- The number of symbols of each category. -/
def symbols (r : Report) (c : Category) : Nat := (r.mappings.table c).size

/-- A number for each category. -/
def tally (n : Category → Nat) : Document :=
  .object (Category.all.map fun c => (c.label.toList, .number (n c)))

/-- The report as a document. There is none if a path is not UTF-8. -/
def document? (r : Report) : Option Document := do
  let input ← r.input.text?
  let output ← r.output.text?
  return .object [
    ("input".toList, .text input),
    ("output".toList, .text output),
    ("seed".toList, .number r.seed),
    ("symbols".toList, tally r.symbols),
    ("replaced".toList, tally r.replaced),
    ("mappings".toList, r.mappings.document)]

/-- The report as JSON text with a line for each entry. -/
def toJson? (r : Report) : Option Text := r.document?.map (·.pretty 0)

end Report
end Cloak
