import Cloak.Json.Token

/-! Values of JSON, built from tokens by a machine with a stack of open arrays and objects, so that nesting has
    no limit. -/

namespace Cloak.Json

/-- A value as it was read. Numbers that are no natural numbers of moderate length and strings without a value are
    kept as `none`. -/
inductive Value where
  | null
  | bool (b : Bool)
  | number (natural : Option Nat)
  | string (text : Option Text)
  | array (items : List Value)
  | object (members : List (Option Text × Value))

/-- An array or object that is still open, with what came before in reverse. -/
inductive Frame where
  | array (before : List Value)
  | object (before : List (Option Text × Value))
  | member (before : List (Option Text × Value)) (key : Option Text)

/-- What the machine expects next, or the value it has just completed. -/
inductive Stage where
  | value
  | firstItem
  | key
  | firstKey
  | colon
  | done (v : Value)

/-- The machine: a stage and the open arrays and objects, the innermost first. -/
structure Machine where
  stage : Stage
  frames : List Frame

namespace Machine

/-- Starts a value. -/
def start (frames : List Frame) : Token → Option Machine
  | .null => some ⟨.done .null, frames⟩
  | .bool b => some ⟨.done (.bool b), frames⟩
  | .number n => some ⟨.done (.number n), frames⟩
  | .string s => some ⟨.done (.string s), frames⟩
  | .openArray => some ⟨.firstItem, .array [] :: frames⟩
  | .openObject => some ⟨.firstKey, .object [] :: frames⟩
  | _ => none

/-- Takes one token. -/
def step : Machine → Token → Option Machine
  | ⟨.value, frames⟩, t => start frames t
  | ⟨.firstItem, .array [] :: frames⟩, .closeArray => some ⟨.done (.array []), frames⟩
  | ⟨.firstItem, frames⟩, t => start frames t
  | ⟨.firstKey, .object [] :: frames⟩, .closeObject => some ⟨.done (.object []), frames⟩
  | ⟨.firstKey, .object before :: frames⟩, .string k => some ⟨.colon, .member before k :: frames⟩
  | ⟨.key, .object before :: frames⟩, .string k => some ⟨.colon, .member before k :: frames⟩
  | ⟨.colon, frames⟩, .colon => some ⟨.value, frames⟩
  | ⟨.done v, .array before :: frames⟩, .comma => some ⟨.value, .array (v :: before) :: frames⟩
  | ⟨.done v, .array before :: frames⟩, .closeArray => some ⟨.done (.array (v :: before).reverse), frames⟩
  | ⟨.done v, .member before k :: frames⟩, .comma => some ⟨.key, .object ((k, v) :: before) :: frames⟩
  | ⟨.done v, .member before k :: frames⟩, .closeObject =>
    some ⟨.done (.object ((k, v) :: before).reverse), frames⟩
  | _, _ => none

/-- The value of a machine that has nothing open. -/
def result? : Machine → Option Value
  | ⟨.done v, []⟩ => some v
  | _ => none

end Machine

namespace Value

/-- The value of tokens. -/
def ofTokens? (tokens : List Token) : Option Value := do
  let machine ← tokens.foldlM Machine.step ⟨.value, []⟩
  machine.result?

/-- The value of a text, white space around it allowed. -/
def read? (s : Text) : Option Value := do ofTokens? (← lex s)

/-! ### Records -/

/-- The values of the fields `names`: of an object by name, no known one twice and other members left out; of
    an array by position, missing ones at the end. -/
def fields? (names : List Text) : Value → Option (List (Option Value))
  | .array items =>
    if items.length ≤ names.length then
      some (items.map some ++ List.replicate (names.length - items.length) none)
    else none
  | .object members => do
    let members ← members.mapM fun (key, v) => key.map (·, v)
    if names.all fun name => members.countP (·.1 == name) ≤ 1 then
      return names.map fun name => (members.find? (·.1 == name)).map Prod.snd
    else none
  | _ => none

/-- The text of a string. -/
def text? : Value → Option Text
  | .string s => s
  | _ => none

/-- A truth value. -/
def bool? : Value → Option Bool
  | .bool b => some b
  | _ => none

/-- A natural number up to `limit`. -/
def natural? (limit : Nat) : Value → Option Nat
  | .number (some n) => if n ≤ limit then some n else none
  | _ => none

/-- The texts of an array of strings. -/
def texts? : Value → Option (List Text)
  | .array items => items.mapM text?
  | _ => none

end Value
end Cloak.Json
