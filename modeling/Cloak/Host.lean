import Cloak.Compiler
import Cloak.Run

/-! The world around the command: files, the compiler, the seed service and chance. -/

namespace Cloak

/-- What the command asks of the world. `scratch` is a directory for files that nobody keeps. -/
structure Host (m : Type → Type) where
  read : Path → m (Except FileFault Bytes)
  write : Path → Bytes → m (Except FileFault Unit)
  compile : Invocation → m (Except FileFault Reply)
  scratch : Path
  exchange : (url : Url) → m Seed.Exchange
  random : m Nat
  entropy : m Key
  log : Event → m Unit

namespace Host
variable {m : Type → Type} [Monad m]

/-- Reports a connection that is about to be made. -/
def announce (h : Host m) (u : Url) : m Unit := do
  h.log (.openingConnection u.service)
  match u.endpoint? with
  | none => return ()
  | some endpoint => h.log (.connecting endpoint)

/-- The seed that the service at an address gives. -/
def requestSeed (h : Host m) (url : Text) (range : SeedRange) : ExceptT Error m Nat := do
  match Seed.address url with
  | .error fault => throw (.seed fault.message)
  | .ok u =>
    h.announce u
    match Seed.ofExchange u range (← h.exchange u) with
    | .error fault => throw (.seed fault.message)
    | .ok seed =>
      h.log (.fetchedSeed seed)
      return seed

/-- The seed of a configuration: from the service or drawn from the range. -/
def fetchSeed (h : Host m) (s : SeedSettings) : ExceptT Error m Nat := do
  match s.source with
  | .service => h.requestSeed s.url s.range
  | .local =>
    match Seed.pick? s.range (← h.random) with
    | none => throw (.seed "the seed range is empty")
    | some seed => return seed

/-- What the compiler finds out in a task, as `read` takes it from the reply. -/
def consult {α : Type} (h : Host m) (t : Toolchain) (task : CompilerTask) (read : Except FileFault Reply → Except CompilerFault α)
    (event : α → Event) : ExceptT Error m α := do
  match read (← h.compile ⟨t, task⟩) with
  | .error fault => throw (t.error fault)
  | .ok found =>
    h.log (event found)
    return found

/-- The text without comments that the compiler makes of a source file. -/
def stripComments (h : Host m) (t : Toolchain) (source : Path) : ExceptT Error m Text :=
  h.consult t (.strip source) Reply.strippedText fun text => .strippedComments (Utf8.size text)

/-- The signatures that the compiler finds in a source file. -/
def listSignatures (h : Host m) (t : Toolchain) (source : Path) : ExceptT Error m (List Signature) :=
  h.consult t (.list source h.scratch) Reply.listedSignatures fun signatures => .listedSignatures signatures.length

/-- Writes a file of a run. -/
def writeFile (h : Host m) (p : Path) (contents : Bytes) : ExceptT Error m Unit := do
  match ← h.write p contents with
  | .error fault => throw (.file fault)
  | .ok () => return ()

/-- The collaborators of a run under a configuration. -/
def collaborators (h : Host m) (c : Config) : Collaborators m where
  stripComments := h.stripComments c.toolchain
  listSignatures := h.listSignatures c.toolchain
  fetchSeed := h.fetchSeed c.seed
  write := h.writeFile
  log := h.log

end Host
end Cloak
