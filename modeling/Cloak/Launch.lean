import Cloak.Compiler
import Cloak.FileTree

/-! Starting programs: what the system refuses before a program runs. -/

namespace Cloak.Launch

/-- Looks for a program: a name with a separator is a path, any other is one of the installed programs. No file of a
    tree can be run, and every directory of programs holds `.` and `..`. -/
def find (installed : List Bytes) (l : Limits) (t : FileTree) (program : Bytes) : Except FileFault Unit :=
  if program.contains Path.separator then
    match t.lookUp l ⟨program⟩ with
    | .error fault => .error fault
    | .ok _ => .error .permissionDenied
  else if l.name < program.length then .error .nameTooLong
  else if program = Segment.here ∨ program = Segment.up then .error .permissionDenied
  else if installed.contains program then .ok ()
  else .error .notFound

/-- Starts a program with arguments. -/
def start (installed : List Bytes) (l : Limits) (t : FileTree) (program : Bytes) (args : List Bytes) : Except FileFault Unit := do
  let words := program :: args
  if words.any (·.contains 0) then throw .nulInArgument
  find installed l t program
  let room := words.foldl (fun n word => n + word.length + l.perArgument) 0
  if words.any (l.argument < ·.length) || decide (l.arguments < room) then throw .argumentsTooLong

end Cloak.Launch
