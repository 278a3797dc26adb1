import Cloak.Host

/-! The command line: options, switches and the source file. Words are taken from the left, and the first that is
    wrong or asks for help decides. -/

namespace Cloak.Command

/-- What the command line asks for. -/
structure Options where
  input : Option Path := none
  config : Option Path := none
  compiler : Option Text := none
  rngSeed : Option Nat := none
  emitMap : Option Path := none
  offlineSeed : Bool := false
  noCompact : Bool := false
  verbose : Bool := false
  deriving DecidableEq, Repr

/-- Why the command does not run. -/
inductive Stop where
  | usage
  | help
  | version
  deriving DecidableEq, Repr

/-- An option with a value. -/
inductive Setting where
  | config
  | compiler
  | rngSeed
  | emitMap
  deriving DecidableEq, Repr

/-- A word that takes no value. -/
inductive Switch where
  | offlineSeed
  | noCompact
  | verbose
  | help
  | version
  deriving DecidableEq, Repr

/-- The setting of a long name. -/
def Setting.ofName? (name : Bytes) : Option Setting :=
  if name = bytesOf "config" then some .config
  else if name = bytesOf "compiler" then some .compiler
  else if name = bytesOf "rng-seed" then some .rngSeed
  else if name = bytesOf "emit-map" then some .emitMap
  else none

/-- The switch of a long name. -/
def Switch.ofName? (name : Bytes) : Option Switch :=
  if name = bytesOf "offline-seed" then some .offlineSeed
  else if name = bytesOf "no-compact" then some .noCompact
  else if name = bytesOf "verbose" then some .verbose
  else if name = bytesOf "help" then some .help
  else if name = bytesOf "version" then some .version
  else none

/-- The switch of a letter. -/
def Switch.ofLetter? (letter : UInt8) : Option Switch :=
  if letter = 118 then some .verbose
  else if letter = 104 then some .help
  else if letter = 86 then some .version
  else none

/-- The largest seed for names, a number of 64 bits. -/
def largestRngSeed : Nat := 18446744073709551615

/-- A path, which may not be empty. -/
def pathValue (value : Bytes) : Except Stop Path := if value.isEmpty then .error .usage else .ok ⟨value⟩

/-- A text, which has to be UTF-8. -/
def textValue (value : Bytes) : Except Stop Text :=
  match Utf8.decode? value with
  | some s => .ok s
  | none => .error .usage

/-- A seed for names. -/
def seedValue (value : Bytes) : Except Stop Nat := do
  match Text.readNatural largestRngSeed (← textValue value) with
  | .ok n => return n
  | .error _ => throw .usage

/-- A value for a place that has none yet. -/
def once {α : Type} (old : Option α) (new : Except Stop α) : Except Stop (Option α) :=
  if old.isSome then .error .usage else new.map some

namespace Options

/-- Takes the value of a setting. -/
def set (o : Options) (s : Setting) (value : Bytes) : Except Stop Options := do
  match s with
  | .config => return { o with config := ← once o.config (pathValue value) }
  | .compiler => return { o with compiler := ← once o.compiler (textValue value) }
  | .rngSeed => return { o with rngSeed := ← once o.rngSeed (seedValue value) }
  | .emitMap => return { o with emitMap := ← once o.emitMap (pathValue value) }

/-- Takes the source file. -/
def addInput (o : Options) (value : Bytes) : Except Stop Options := do
  return { o with input := ← once o.input (pathValue value) }

/-- Takes a switch. -/
def turnOn (o : Options) : Switch → Except Stop Options
  | .offlineSeed => if o.offlineSeed then .error .usage else .ok { o with offlineSeed := true }
  | .noCompact => if o.noCompact then .error .usage else .ok { o with noCompact := true }
  | .verbose => if o.verbose then .error .usage else .ok { o with verbose := true }
  | .help => .error .help
  | .version => .error .version

/-- Takes the letters after a single hyphen. -/
def addLetters (o : Options) (letters : Bytes) : Except Stop Options :=
  letters.foldlM
    (fun o letter =>
      match Switch.ofLetter? letter with
      | some s => o.turnOn s
      | none => .error .usage)
    o

/-- The hyphen. -/
def hyphen : UInt8 := 45

/-- The word looks like an option, so that it is no value. -/
def isOptionLike : Bytes → Bool
  | c :: _ :: _ => c == hyphen
  | _ => false

/-- Divides what follows two hyphens at its first `=`. -/
def splitLong (s : Bytes) : Bytes × Option Bytes :=
  let (name, rest) := s.span (· ≠ 61)
  (name, rest.tail?)

end Options

/-- The command line read so far: its options, the setting whose value comes next, and whether `--` has ended the
    options. -/
structure Reader where
  options : Options := {}
  pending : Option Setting := none
  ended : Bool := false
  deriving DecidableEq, Repr

namespace Reader

/-- Takes a word of a long option, without its hyphens. -/
def takeLong (r : Reader) (long : Bytes) : Except Stop Reader := do
  let (name, attached) := Options.splitLong long
  match Setting.ofName? name, Switch.ofName? name, attached with
  | some s, _, some value => return { r with options := ← r.options.set s value }
  | some s, _, none => return { r with pending := some s }
  | none, some s, none => return { r with options := ← r.options.turnOn s }
  | _, _, _ => throw .usage

/-- Takes a word. -/
def take (r : Reader) (w : Bytes) : Except Stop Reader := do
  match r.pending with
  | some s =>
    if Options.isOptionLike w then throw .usage
    else return { r with options := ← r.options.set s w, pending := none }
  | none =>
    if r.ended then return { r with options := ← r.options.addInput w }
    else
      match w with
      | [45, 45] => return { r with ended := true }
      | 45 :: 45 :: long => r.takeLong long
      | 45 :: letter :: letters => return { r with options := ← r.options.addLetters (letter :: letters) }
      | _ => return { r with options := ← r.options.addInput w }

end Reader

namespace Options

/-- Reads the words of a command line. -/
def parse (words : List Bytes) : Except Stop Options := do
  let r ← words.foldlM Reader.take {}
  if r.pending.isSome then throw .usage else return r.options

/-- A configuration with what the command line says on top. -/
def overlay (o : Options) (c : Config) : Config where
  toolchain := { c.toolchain with compiler := o.compiler.getD c.toolchain.compiler }
  seed := { c.seed with source := if o.offlineSeed then .local else c.seed.source }
  engine := { c.engine with compactWhitespace := c.engine.compactWhitespace && !o.noCompact }

/-- The configuration of a command line, checked. `file` is the outcome of reading the configuration file, if one is
    named. -/
def resolve (o : Options) (file : Option (Except FileFault Bytes)) : Except Error Config := do
  let c ← match file with
    | none => .ok {}
    | some (.error fault) => .error (.file fault)
    | some (.ok contents) => Config.ofFile contents
  (o.overlay c).checked

end Options
end Cloak.Command
