import Cloak.Command.Program

/-! The command on files. It starts no programs itself: the compiler's work is done beforehand, and for a source
    file `prog.c` the text without comments is expected in `prog.c.i` and the listing in `prog.c.X`. -/

namespace Cloak.Main

open Command (execute Outcome)

/-- A fault of the file system. -/
def faultOf : IO.Error → FileFault
  | .noFileOrDirectory .. => .notFound
  | .inappropriateType .. => .isDirectory
  | e => .other (toString e)

/-- An action on files with its outcome. -/
def attempt {α : Type} (act : IO α) : IO (Except FileFault α) := do
  try
    return .ok (← act)
  catch e =>
    return .error (faultOf e)

/-- A path for the file system. -/
def nameOf (p : Path) : String := String.ofList p.display

/-- Reads a file. -/
def readFile (p : Path) : IO (Except FileFault Bytes) :=
  attempt do return (← IO.FS.readBinFile (nameOf p)).toList

/-- The path with something after it. -/
def besides (p : Path) (ending : String) : Path := ⟨p.bytes ++ bytesOf ending⟩

/-- What the compiler left for a task. -/
def replyTo (i : Invocation) : IO (Except FileFault Reply) := do
  match i.task with
  | .strip source => return (← readFile (besides source ".i")).map fun text => ⟨.exited 0, text, [], none⟩
  | .list source _ => return .ok ⟨.exited 0, [], [], (← readFile (besides source ".X")).toOption⟩

/-- A key from the system's entropy. -/
def entropy : IO Key := do
  match Key.ofBytes? (← IO.getRandomBytes 32).toList with
  | some k => return k
  | none => throw (IO.userError "no entropy")

/-- The world of the command. No seed service is reached from here. -/
def host : Host IO where
  read := readFile
  write p contents := attempt (IO.FS.writeBinFile (nameOf p) (ByteArray.mk contents.toArray))
  compile := replyTo
  scratch := ⟨bytesOf "."⟩
  exchange _ := return .unreachable
  random := IO.rand 0 Seed.largest
  entropy := entropy
  log e := IO.println e.line

end Cloak.Main

def main (words : List String) : IO UInt32 := do
  let outcome ← Cloak.Command.execute Cloak.Main.host (words.map Cloak.bytesOf)
  IO.print outcome.stdout
  IO.eprint outcome.stderr
  return UInt32.ofNat outcome.code
