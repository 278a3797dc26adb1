import Cloak.Config
import Cloak.Listing

/-! The compiler as a helper: it strips comments and lists signatures. -/

namespace Cloak

/-- What the compiler is asked to do with a source file. -/
inductive CompilerTask where
  | strip (source : Path)
  | list (source scratch : Path)
  deriving DecidableEq, Repr

/-- A call of the compiler. -/
structure Invocation where
  toolchain : Toolchain
  task : CompilerTask
  deriving DecidableEq, Repr

/-- The bytes of an ASCII text. -/
def bytesOf (s : String) : Bytes := Utf8.encode s.toList

/-- The arguments for a task. -/
def CompilerTask.args : CompilerTask → List Bytes
  | .strip source => [bytesOf "-fpreprocessed", bytesOf "-dD", bytesOf "-E", bytesOf "-P", source.bytes]
  | .list source scratch =>
    [bytesOf "-aux-info", scratch.bytes ++ bytesOf "/functions.txt", bytesOf "-c", source.bytes, bytesOf "-o",
      scratch.bytes ++ bytesOf "/unit.o"]

/-- The arguments of a call. -/
def Invocation.args (i : Invocation) : List Bytes := i.toolchain.extraArgs.map Utf8.encode ++ i.task.args

/-- The program of a call. -/
def Invocation.program (i : Invocation) : Bytes := Utf8.encode i.toolchain.compiler

/-- How a program ended. -/
inductive Status where
  | exited (code : Nat)
  | signaled (number : Nat)
  deriving DecidableEq, Repr

namespace Status

/-- The names of the signals, from the first. -/
def signalNames : List String :=
  ["SIGHUP", "SIGINT", "SIGQUIT", "SIGILL", "SIGTRAP", "SIGABRT", "SIGBUS", "SIGFPE", "SIGKILL", "SIGUSR1",
    "SIGSEGV", "SIGUSR2", "SIGPIPE", "SIGALRM", "SIGTERM", "SIGSTKFLT", "SIGCHLD", "SIGCONT", "SIGSTOP", "SIGTSTP",
    "SIGTTIN", "SIGTTOU", "SIGURG", "SIGXCPU", "SIGXFSZ", "SIGVTALRM", "SIGPROF", "SIGWINCH", "SIGIO", "SIGPWR",
    "SIGSYS"]

/-- The status in words. -/
def message : Status → String
  | .exited code => s!"exit status: {code}"
  | .signaled number =>
    match if number = 0 then none else signalNames[number - 1]? with
    | some name => s!"signal: {number} ({name})"
    | none => s!"signal: {number}"

end Status

/-- What a call of the compiler left: its status, its output and the listing if it wrote one. -/
structure Reply where
  status : Status
  stdout : Bytes
  stderr : Bytes
  listing : Option Bytes
  deriving DecidableEq, Repr

/-- Why the compiler was of no help. -/
inductive CompilerFault where
  | notStarted (fault : FileFault)
  | failed (status : Status) (stderr : Bytes)
  | outputNotUtf8 (fault : Utf8.Fault)
  | noListing (fault : FileFault)
  deriving DecidableEq, Repr

/-- The fault in words. -/
def CompilerFault.message : CompilerFault → String
  | .notStarted fault => s!"failed to spawn: {fault.message}"
  | .failed status stderr =>
    s!"{status.message}: {String.ofList (Text.trim (Utf8.decodeLossy stderr))}"
  | .outputNotUtf8 fault => s!"preprocessor output is not UTF-8: {fault.message}"
  | .noListing fault => s!"no aux-info listing: {fault.message}"

namespace Reply

/-- The reply of a call that was started and succeeded. -/
def succeeded : Except FileFault Reply → Except CompilerFault Reply
  | .error fault => .error (.notStarted fault)
  | .ok r => if r.status = .exited 0 then .ok r else .error (.failed r.status r.stderr)

/-- The text without comments that a call printed. -/
def strippedText (r : Except FileFault Reply) : Except CompilerFault Text :=
  match succeeded r with
  | .error fault => .error fault
  | .ok r =>
    match Utf8.decode r.stdout with
    | .error fault => .error (.outputNotUtf8 fault)
    | .ok s => .ok s

/-- The signatures that a call listed. -/
def listedSignatures (r : Except FileFault Reply) : Except CompilerFault (List Signature) :=
  match succeeded r with
  | .error fault => .error fault
  | .ok r =>
    match r.listing with
    | none => .error (.noListing .notFound)
    | some bytes =>
      match Utf8.decode? bytes with
      | none => .error (.noListing .notUtf8)
      | some s => .ok (Listing.signatures s)

end Reply

/-- A fault of a toolchain's compiler as an error of a run. -/
def Toolchain.error (t : Toolchain) (fault : CompilerFault) : Error :=
  .externalTool (String.ofList t.compiler) fault.message

end Cloak
