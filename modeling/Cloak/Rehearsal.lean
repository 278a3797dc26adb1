import Cloak.Host
import Cloak.Launch

/-! Runs over values: the files are a tree, everybody else answers as was laid down, and what happened is kept. -/

namespace Cloak

/-- The files, the events logged and the calls of the compiler that was started, the latest first. -/
structure Rehearsal where
  files : FileTree
  events : List Event := []
  calls : List Invocation := []

/-- What the world answers, besides the files. One compiler is installed, and `reply` is what it does. The files are on a
    system with these limits and on this disk. -/
structure Answers where
  compiler : Text
  reply : CompilerTask → Reply
  exchange : (url : Url) → Seed.Exchange
  random : Nat
  entropy : Key
  scratch : Path
  limits : Limits := {}
  disk : Disk := .ample

namespace Rehearsal

/-- Notes an event. -/
def log (e : Event) : StateM Rehearsal Unit := modify fun r => { r with events := e :: r.events }

/-- Reads a file of the tree. -/
def read (l : Limits) (p : Path) : StateM Rehearsal (Except FileFault Bytes) := do return (← get).files.read l p

/-- Writes a file of the tree, as far as that is possible. -/
def write (l : Limits) (d : Disk) (p : Path) (contents : Bytes) : StateM Rehearsal (Except FileFault Unit) :=
  modifyGet fun r =>
    let (outcome, files) := r.files.write l d p contents
    (outcome, { r with files })

/-- Calls the compiler, if that is possible. -/
def compile (a : Answers) (i : Invocation) : StateM Rehearsal (Except FileFault Reply) := do
  match Launch.start [Utf8.encode a.compiler] a.limits (← get).files i.program i.args with
  | .error fault => return .error fault
  | .ok () =>
    modify fun r => { r with calls := i :: r.calls }
    return .ok (a.reply i.task)

/-- The world of a rehearsal. -/
def host (a : Answers) : Host (StateM Rehearsal) where
  read := read a.limits
  write := write a.limits a.disk
  compile := compile a
  scratch := a.scratch
  exchange url := return a.exchange url
  random := return a.random
  entropy := return a.entropy
  log := log

/-- Collaborators that answer as laid down, and write into the tree. -/
def collaborators (source : Except Error Text) (signatures : Except Error (List Signature))
    (seed : Except Error Nat) (l : Limits := {}) (d : Disk := .ample) : Collaborators (StateM Rehearsal) where
  stripComments _ := ExceptT.mk (return source)
  listSignatures _ := ExceptT.mk (return signatures)
  fetchSeed := ExceptT.mk (return seed)
  write p contents := ExceptT.mk do return (← write l d p contents).mapError Error.file
  log := log

end Rehearsal
end Cloak
