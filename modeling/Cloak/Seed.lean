import Cloak.Text.Numeral
import Cloak.Text.Quoted
import Cloak.Text.Utf8
import Cloak.Url.Basic

/-! The seed that names an output file: read from the answer of a seed service, or drawn locally. -/

namespace Cloak

/-- The seeds from `min` to `max`, both included. -/
structure SeedRange where
  min : Nat
  max : Nat
  deriving DecidableEq, Repr

/-- The seed lies in the range. -/
def SeedRange.contains (r : SeedRange) (seed : Nat) : Bool := decide (r.min ≤ seed ∧ seed ≤ r.max)

namespace Seed

/-- The largest seed, a number of 32 bits. -/
def largest : Nat := 4294967295

/-- Why there is no seed. -/
inductive Fault where
  | unreadable (body : Text) (cause : NumeralFault)
  | outside (seed : Nat) (range : SeedRange)
  | malformedAddress
  | unusableAddress (url : Url)
  | unreachable (url : Url)
  | refused (status : Nat) (reason : String) (url : Url)
  | cutOff

/-- The fault in words. -/
def Fault.message : Fault → String
  | .unreadable body cause => s!"unreadable seed {String.ofList (Text.quoted body)}: {cause.message}"
  | .outside seed range => s!"seed {seed} outside [{range.min}, {range.max}]"
  | .malformedAddress => "request failed: builder error"
  | .unusableAddress url => s!"request failed: builder error for url ({String.ofList url.toText})"
  | .unreachable url => s!"request failed: error sending request for url ({String.ofList url.toText})"
  | .refused status reason url =>
    let side := if status < 500 then "client" else "server"
    s!"request failed: HTTP status {side} error ({status} {reason}) for url ({String.ofList url.toText})"
  | .cutOff => "unreadable response: error decoding response body"

/-- Reads a seed from the body of an answer, white space around it left out. -/
def parse (range : SeedRange) (body : Text) : Except Fault Nat :=
  match Text.readNatural largest (Text.trim body) with
  | .error cause => .error (.unreadable (Text.trim body) cause)
  | .ok seed => if range.contains seed then .ok seed else .error (.outside seed range)

/-- The address that a request goes to: it has a host, and its credentials are sent apart from it. -/
def address (url : Text) : Except Fault Url :=
  match Url.parse? url with
  | none => .error .malformedAddress
  | some u =>
    if !u.hasHost then .error (.unusableAddress u)
    else if !u.withoutCredentials.isFetchable then .error (.unusableAddress u.withoutCredentials)
    else .ok u.withoutCredentials

/-- How a request to a seed service went. A response whose body ended early has none. -/
inductive Exchange where
  | unreachable
  | response (status : Nat) (reason : String) (body : Option Bytes)

/-- The seed that an exchange with the service at `url` gives. A status from 400 to 599 refuses the request. -/
def ofExchange (url : Url) (range : SeedRange) : Exchange → Except Fault Nat
  | .unreachable => .error (.unreachable url)
  | .response status reason body =>
    if 400 ≤ status ∧ status < 600 then .error (.refused status reason url)
    else
      match body with
      | none => .error .cutOff
      | some bytes => parse range (Utf8.decodeLossy bytes)

/-- The seed that a random number picks from a range. An empty range has none. -/
def pick? (range : SeedRange) (random : Nat) : Option Nat :=
  if range.min ≤ range.max then some (range.min + random % (range.max - range.min + 1)) else none

end Seed
end Cloak
