import Cloak.Path
import Cloak.Symbol.Mappings
import Cloak.Text.Quoted

/-! What a run reports while it goes on. -/

namespace Cloak

/-- How important an event is. -/
inductive Level where
  | debug
  | info
  | warn
  deriving DecidableEq, Repr

/-- The level in a log line. -/
def Level.label : Level → String
  | .debug => "DEBUG"
  | .info => "INFO"
  | .warn => "WARN"

/-- An event of a run. -/
inductive Event where
  | strippingComments (input : Path)
  | strippedComments (bytes : Nat)
  | skippedDeclarator (piece : Text)
  | harvestedVariables (count : Nat)
  | locatedKeywords (count : Nat)
  | harvestedMacros (count : Nat)
  | listingSignatures
  | listedSignatures (count : Nat)
  | classifiedFunctions (locals library : Nat)
  | substituted (category : Category) (replaced : Nat)
  | openingConnection (service : Text)
  | connecting (endpoint : Text)
  | fetchedSeed (seed : Nat)
  | wroteOutput (output : Path) (symbols : Nat)
  | finished (symbols : Nat)
  deriving DecidableEq, Repr

namespace Event

/-- The level of an event. -/
def level : Event → Level
  | .strippingComments _ => .info
  | .skippedDeclarator _ => .warn
  | .listingSignatures => .info
  | .wroteOutput _ _ => .info
  | .finished _ => .info
  | _ => .debug

/-- The event in words. -/
def message : Event → String
  | .strippingComments input => s!"stripping comments input={String.ofList input.display}"
  | .strippedComments bytes => s!"stripped comments bytes={bytes}"
  | .skippedDeclarator piece =>
    s!"skipping declarator that is not a plain identifier piece={String.ofList (Text.quoted piece)}"
  | .harvestedVariables count => s!"harvested variables count={count}"
  | .locatedKeywords count => s!"located keywords count={count}"
  | .harvestedMacros count => s!"harvested macros count={count}"
  | .listingSignatures => "listing function signatures"
  | .listedSignatures count => s!"listed signatures count={count}"
  | .classifiedFunctions locals library => s!"classified functions local={locals} library={library}"
  | .substituted category replaced => s!"substituted category=\"{category.label}\" replaced={replaced}"
  | .openingConnection service => s!"starting new connection: {String.ofList service}"
  | .connecting endpoint => s!"connecting to {String.ofList endpoint}"
  | .fetchedSeed seed => s!"fetched seed seed={seed}"
  | .wroteOutput output symbols =>
    s!"wrote obfuscated source output={String.ofList output.display} symbols={symbols}"
  | .finished symbols => s!"done symbols={symbols}"

/-- The log line of an event. -/
def line (e : Event) : String := s!"{e.level.label} {e.message}"

/-- The event is logged: at debug level only if more is asked for. -/
def isLogged (verbose : Bool) (e : Event) : Bool := verbose || e.level != .debug

end Event
end Cloak
