import Cloak.Command.Options

/-! The command: it reads its options and configuration, runs the obfuscation, and writes the report if asked. -/

namespace Cloak.Command

/-- The text of the version. -/
def versionText : String := "cob 0.1.0\n"

/-- The text of the help. -/
def helpText : String :=
  "Obfuscate identifiers, macros and keywords in a C source file\n\n" ++
  "Usage: cob [OPTIONS] [INPUT]\n\n" ++
  "Arguments:\n" ++
  "  [INPUT]  C source file to obfuscate\n\n" ++
  "Options:\n" ++
  "      --config <CONFIG>      JSON configuration file\n" ++
  "      --compiler <COMPILER>  Compiler used for comment stripping and signature listing\n" ++
  "      --offline-seed         Draw the file name seed locally instead of from random.org\n" ++
  "      --rng-seed <RNG_SEED>  Seed for reproducible opaque names\n" ++
  "      --no-compact           Keep line breaks and whitespace as substituted\n" ++
  "      --emit-map <PATH>      Write the symbol mappings and run summary as JSON\n" ++
  "  -v, --verbose              Verbose logging\n" ++
  "  -h, --help                 Print help\n" ++
  "  -V, --version              Print version\n"

/-- The text for a command line that is wrong. -/
def usageText : String := "Usage: cob [OPTIONS] [INPUT]\n\nFor more information, try '--help'.\n"

/-- What went wrong, and what lies behind it from the outside in. -/
structure Failure where
  message : String
  causes : List String
  deriving DecidableEq, Repr

namespace Failure

/-- An error that stands for itself. -/
def ofError (e : Error) : Failure := ⟨e.message, e.causes⟩

/-- An error with what was being done. -/
def within (doing : String) (e : Error) : Failure := ⟨doing, e.message :: e.causes⟩

/-- A cause, every line indented; one of several has its number. -/
def indented (number : Option Nat) (cause : String) : String :=
  let (first, further) := match number with
    | none => ("    ", "    ")
    | some n => (String.ofList (List.replicate (5 - (Text.decimal n).length) ' ' ++ Text.decimal n) ++ ": ", "       ")
  first ++ String.ofList ("\n".toList ++ further.toList |>.intercalate (cause.toList.splitOn '\n'))

/-- The causes, each on lines of its own. -/
def causeLines : List String → List String
  | [cause] => [indented none cause]
  | causes => causes.zipIdx.map fun (cause, n) => indented (some n) cause

/-- The failure as it is shown. -/
def render (f : Failure) : String :=
  let causes := if f.causes.isEmpty then "" else "\n\nCaused by:\n" ++ "\n".intercalate (causeLines f.causes)
  s!"Error: {f.message}{causes}\n"

end Failure

/-- How the command ended. -/
inductive Outcome where
  | stopped (s : Stop)
  | failed (f : Failure)
  | done (output : Path)
  deriving DecidableEq, Repr

namespace Outcome

/-- The exit code. -/
def code : Outcome → Nat
  | .stopped .usage => 2
  | .stopped _ => 0
  | .failed _ => 1
  | .done _ => 0

/-- What is printed besides the log. -/
def stdout : Outcome → String
  | .stopped .help => helpText
  | .stopped .version => versionText
  | .done output => String.ofList output.display ++ "\n"
  | _ => ""

/-- What is printed as an error. -/
def stderr : Outcome → String
  | .stopped .usage => usageText
  | .failed f => f.render
  | _ => ""

end Outcome

/-- What is missing when no source file is named. -/
def missingInput : Error :=
  .missingArgument "the C source file must be given on the command line, e.g. `cob example1.c`"

section
variable {m : Type → Type} [Monad m]

/-- The names of a run: reproducible if a seed is given. -/
def registry (h : Host m) (rngSeed : Option Nat) : m (Registry Keystream) := do
  match rngSeed with
  | some seed => return .ofSource (.ofSeed (UInt64.ofNat seed))
  | none => return .ofSource (.ofKey (← h.entropy))

/-- Writes the report of a run. -/
def emitMap (h : Host m) (p : Path) (r : Report) : ExceptT Failure m Unit := do
  match r.toJson? with
  | none => throw ⟨"path contains invalid UTF-8 characters", []⟩
  | some json =>
    match ← h.write p (Utf8.encode json) with
    | .error fault => throw ⟨s!"writing {String.ofList p.display}", [fault.message]⟩
    | .ok () => return ()

/-- The configuration that the options ask for. -/
def configure (h : Host m) (o : Options) : ExceptT Failure m Config := do
  let file ← match o.config with
    | none => pure none
    | some p => some <$> h.read p
  match o.resolve file with
  | .error e => throw (.ofError e)
  | .ok config => return config

/-- Obfuscates the file at `input` under a configuration. -/
def obfuscateFile (h : Host m) (rngSeed : Option Nat) (input : Path) (config : Config) : ExceptT Failure m Report := do
  let names ← (registry h rngSeed : m (Registry Keystream))
  match ← (run (h.collaborators config) config.engine names input).run with
  | .error e => throw (.within s!"obfuscating {String.ofList input.display}" e)
  | .ok report => return report

/-- Writes the report of a finished run if a file is named for it. -/
def conclude (h : Host m) (file : Option Path) (r : Report) : ExceptT Failure m Unit := do
  h.log (.finished r.mappings.size)
  match file with
  | none => return ()
  | some p => emitMap h p r

/-- Does what the options ask for and gives the output file. -/
def perform (h : Host m) (o : Options) : ExceptT Failure m Path := do
  match o.input with
  | none => throw (.ofError missingInput)
  | some input =>
    let config ← configure h o
    let report ← obfuscateFile h o.rngSeed input config
    conclude h o.emitMap report
    return report.output

/-- Runs the command with the words of its command line. -/
def execute (h : Host m) (words : List Bytes) : m Outcome := do
  match Options.parse words with
  | .error s => return .stopped s
  | .ok o =>
    let h := { h with log := fun e => if e.isLogged o.verbose then h.log e else pure () }
    match ← (perform h o).run with
    | .error f => return .failed f
    | .ok output => return .done output

end
end Cloak.Command
