import Cloak.Error
import Cloak.Event
import Cloak.Obfuscation
import Cloak.Report

/-! A run: comments are stripped, the text is obfuscated with the signatures listed, a seed names the output file
    and the text is written there. The first failure ends it, and only the last step writes. -/

namespace Cloak

/-- Those a run works with. -/
structure Collaborators (m : Type → Type) where
  stripComments : Path → ExceptT Error m Text
  listSignatures : Path → ExceptT Error m (List Signature)
  fetchSeed : ExceptT Error m Nat
  write : Path → Bytes → ExceptT Error m Unit
  log : Event → m Unit

section
variable {m : Type → Type} [Monad m] {σ : Type} [WordSource σ]

/-- Issues names; that no fresh one is found is an error of the run. -/
def issue {α : Type} (act : Naming σ α) (r : Registry σ) : ExceptT Error m (α × Registry σ) :=
  match act.run r with
  | some result => return result
  | none => throw .noFreshName

/-- The output file of a run. -/
def outputPath (input : Path) (seed : Nat) : Except Error Path :=
  match input.output? seed with
  | some p => .ok p
  | none => .error (.missingArgument s!"{String.ofList input.display} has no file name")

/-- Reports what a text gave. -/
def logHarvest (log : Event → m Unit) (source : Text) (mappings : Mappings) : m Unit := do
  for piece in (declarators source).filterMap Declarator.irregular? do
    log (.skippedDeclarator piece)
  log (.harvestedVariables mappings.vars.size)
  log (.locatedKeywords mappings.keywords.size)
  log (.harvestedMacros mappings.macros.size)

/-- Runs the obfuscation of the file at `input`. -/
def run (k : Collaborators m) (engine : Engine) (names : Registry σ) (input : Path) : ExceptT Error m Report := do
  k.log (.strippingComments input)
  let source ← k.stripComments input
  let (mappings, names) ← issue (harvest engine.keywords source) names
  logHarvest (m := m) k.log source mappings
  k.log .listingSignatures
  let signatures ← k.listSignatures input
  let (functions, _) ← issue (classify signatures input) names
  k.log (.classifiedFunctions functions.locals.size functions.library.size)
  let obfuscated := engine.render
    { mappings with localFunctions := functions.locals, libraryFunctions := functions.library } source
  for c in Category.all do
    k.log (.substituted c (obfuscated.replaced c))
  let seed ← k.fetchSeed
  let output ← liftExcept (outputPath input seed)
  k.write output (Utf8.encode obfuscated.text)
  k.log (.wroteOutput output obfuscated.mappings.size)
  return { input, output, seed, replaced := obfuscated.replaced, mappings := obfuscated.mappings }
where
  /-- An outcome as a step of a run. -/
  liftExcept {α : Type} : Except Error α → ExceptT Error m α
    | .ok a => return a
    | .error e => throw e

end
end Cloak
