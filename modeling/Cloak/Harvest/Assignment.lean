import Cloak.Name.Registry
import Cloak.Symbol.Mappings
import Cloak.Harvest.Variable
import Cloak.Harvest.Definition
import Cloak.Harvest.Keyword

/-! Fresh names for the symbols harvested from a source text. -/

namespace Cloak
variable {σ : Type} [WordSource σ]

/-- Gives each symbol a fresh name, from the left. A symbol that comes again is given the newer name. -/
def assignNames (symbols : List Text) : Naming σ SymbolTable :=
  symbols.foldlM (fun t s => do return t.insert s (← freshName)) .empty

/-- The mappings of a source text before its functions are known: names are drawn for variables, then for
    keywords, then for macros. -/
def harvest (vocabulary : List Text) (source : Text) : Naming σ Mappings := do
  let vars ← assignNames (variableNames source)
  let keywords ← assignNames (occurringKeywords vocabulary source)
  let macros ← assignNames (definedNames source)
  return { vars, macros, keywords }

end Cloak
