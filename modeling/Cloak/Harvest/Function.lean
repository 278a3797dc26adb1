import Cloak.Harvest.Assignment
import Cloak.Signature

/-! Functions by where they are declared: those of the source itself are local, all others are library
    functions. `main` keeps its name for the linker, so it is always a library function. -/

namespace Cloak
variable {σ : Type} [WordSource σ]

/-- The functions of a listing, each with a fresh name. -/
structure Functions where
  locals : SymbolTable
  library : SymbolTable

/-- The entry point of a program. -/
def entryPoint : Text := "main".toList

/-- Gives the function of a signature a fresh name. -/
def Functions.add (source : Path) (f : Functions) (s : Signature) : Naming σ Functions :=
  match s.name? with
  | none => return f
  | some name => do
    let opaqueName ← freshName
    if s.origin.isDeclaredIn source then return { f with locals := f.locals.insert name opaqueName }
    else return { f with library := f.library.insert name opaqueName }

/-- Sorts the functions of a listing, then takes `main` out of the local ones and puts it with the library. -/
def classify (signatures : List Signature) (source : Path) : Naming σ Functions := do
  let f ← signatures.foldlM (Functions.add source) ⟨.empty, .empty⟩
  let opaqueName ← freshName
  return ⟨f.locals.erase entryPoint, f.library.insert entryPoint opaqueName⟩

end Cloak
