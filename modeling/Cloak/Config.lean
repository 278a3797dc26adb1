import Cloak.Error
import Cloak.Json.Value
import Cloak.Obfuscation
import Cloak.Seed

/-! Configuration: which compiler is called, where seeds come from and how texts are renamed and laid out. It is read from
    JSON, where every field may be left out. -/

namespace Cloak

open Json (Value)

/-- The compiler that strips comments and lists signatures. -/
structure Toolchain where
  compiler : Text := "gcc".toList
  extraArgs : List Text := []
  deriving DecidableEq, Repr

/-- Where seeds come from. -/
inductive SeedSource where
  | service
  | local
  deriving DecidableEq, Repr

/-- How a source is called in a configuration. -/
def SeedSource.label : SeedSource → String
  | .service => "random_org"
  | .local => "local"

/-- How a seed is obtained. -/
structure SeedSettings where
  source : SeedSource := .service
  url : Text :=
    "https://www.random.org/integers/?num=1&min=10000&max=99999&col=1&base=10&format=plain&rnd=new".toList
  range : SeedRange := ⟨10000, 99999⟩
  deriving DecidableEq, Repr

/-- A configuration. -/
structure Config where
  toolchain : Toolchain := {}
  seed : SeedSettings := {}
  engine : Engine := {}
  deriving DecidableEq, Repr

namespace Config

/-! ### Validity -/

/-- Why a configuration is refused. -/
inductive Fault where
  | noCompiler
  | notFiveDigits (range : SeedRange)
  | emptyRange (range : SeedRange)
  deriving DecidableEq, Repr

/-- The fault in words. -/
def Fault.message : Fault → String
  | .noCompiler => "toolchain.compiler must not be empty"
  | .notFiveDigits r => s!"seed range [{r.min}, {r.max}] must stay within five digits"
  | .emptyRange r => s!"seed.min ({r.min}) exceeds seed.max ({r.max})"

/-- The seeds of five digits. -/
def fiveDigits : SeedRange := ⟨10000, 99999⟩

/-- Checks a configuration: a compiler is named, and the seeds are a range of five-digit numbers. -/
def validate (c : Config) : Except Fault Unit :=
  if Text.isBlankText c.toolchain.compiler then .error .noCompiler
  else if !(fiveDigits.contains c.seed.range.min && fiveDigits.contains c.seed.range.max) then
    .error (.notFiveDigits c.seed.range)
  else if c.seed.range.max < c.seed.range.min then .error (.emptyRange c.seed.range)
  else .ok ()

/-! ### Reading -/

/-- A field with its value, or the default if it is not given. -/
def orDefault {α : Type} (default : α) (read : Value → Option α) : Option Value → Option α
  | none => some default
  | some v => read v

/-- The compiler settings of a record. -/
def toolchain? (v : Value) : Option Toolchain :=
  match v.fields? ["compiler".toList, "extra_args".toList] with
  | some [compiler, extraArgs] => do
    return {
      compiler := ← orDefault ({} : Toolchain).compiler Value.text? compiler
      extraArgs := ← orDefault ({} : Toolchain).extraArgs Value.texts? extraArgs }
  | _ => none

/-- The source of a label. -/
def sourceOfLabel? (label : Text) : Option SeedSource :=
  [SeedSource.service, SeedSource.local].find? (·.label.toList = label)

/-- A source by its label, alone or as the one member of an object, with nothing in it. -/
def source? : Value → Option SeedSource
  | .string (some label) => sourceOfLabel? label
  | .object [(some label, .null)] => sourceOfLabel? label
  | _ => none

/-- The seed settings of a record. -/
def seed? (v : Value) : Option SeedSettings :=
  match v.fields? ["source".toList, "url".toList, "min".toList, "max".toList] with
  | some [source, url, min, max] => do
    return {
      source := ← orDefault ({} : SeedSettings).source source? source
      url := ← orDefault ({} : SeedSettings).url Value.text? url
      range := {
        min := ← orDefault ({} : SeedSettings).range.min (Value.natural? Seed.largest) min
        max := ← orDefault ({} : SeedSettings).range.max (Value.natural? Seed.largest) max } }
  | _ => none

/-- The renaming settings of a record. -/
def engine? (v : Value) : Option Engine :=
  match v.fields? ["keywords".toList, "compact_whitespace".toList] with
  | some [keywords, compactWhitespace] => do
    return {
      keywords := ← orDefault ({} : Engine).keywords Value.texts? keywords
      compactWhitespace := ← orDefault ({} : Engine).compactWhitespace Value.bool? compactWhitespace }
  | _ => none

/-- The configuration of a record. -/
def ofValue? (v : Value) : Option Config :=
  match v.fields? ["toolchain".toList, "seed".toList, "engine".toList] with
  | some [toolchain, seed, engine] => do
    return {
      toolchain := ← orDefault {} toolchain? toolchain
      seed := ← orDefault {} seed? seed
      engine := ← orDefault {} engine? engine }
  | _ => none

/-- The configuration of a JSON text. -/
def ofJson? (s : Text) : Option Config := do ofValue? (← Value.read? s)

/-- A configuration that is checked. -/
def checked (c : Config) : Except Error Config :=
  match c.validate with
  | .ok () => .ok c
  | .error fault => .error (.config fault.message)

/-- The configuration of a file, checked. -/
def ofFile (contents : Bytes) : Except Error Config :=
  match Utf8.decode? contents with
  | none => .error (.file .notUtf8)
  | some s =>
    match ofJson? s with
    | none => .error .serialization
    | some c => c.checked

end Config
end Cloak
