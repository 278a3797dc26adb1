import Cloak.Name.Keystream
import Std.Data.TreeSet

/-! Opaque names: eight lower-case hexadecimal digits, the first a letter, drawn from a source of words. A
    registry never issues a name twice. -/

namespace Cloak

/-- The hexadecimal digits of a byte, the high one first. -/
def hexOfByte (b : UInt8) : Text := [Nat.digitChar (b.toNat / 16), Nat.digitChar (b.toNat % 16)]

/-- The bytes of a word, the lowest first. -/
def bytesOfWord (w : UInt32) : Bytes := [w.toUInt8, (w >>> 8).toUInt8, (w >>> 16).toUInt8, (w >>> 24).toUInt8]

/-- The eight hexadecimal digits of a word, byte by byte from the lowest. -/
def hexOfWord (w : UInt32) : Text := (bytesOfWord w).flatMap hexOfByte

/-- The first hexadecimal digit of a word's lowest byte. -/
def leadDigit (w : UInt32) : Char := Nat.digitChar (w.toUInt8.toNat / 16)

/-- A lower-case hexadecimal digit. -/
def isHexDigit (c : Char) : Bool := c.isDigit || decide ('a' ≤ c ∧ c ≤ 'f')

/-- The form of opaque names: eight lower-case hexadecimal digits, the first a letter. -/
def isOpaqueName (name : Text) : Bool :=
  name.length == 8 && name.all isHexDigit && name.head?.any fun c => !c.isDigit

/-- How many words one search goes through at most before it gives up. -/
def searchLimit : Nat := 1000000000000

section
variable {σ : Type} [WordSource σ]

/-- Draws words until the first digit of one is a letter, at most `limit` words. -/
def drawLetter : (limit : Nat) → σ → Option (Char × σ)
  | 0, _ => none
  | limit + 1, g =>
    let (w, g) := WordSource.next g
    if (leadDigit w).isDigit then drawLetter limit g else some (leadDigit w, g)

/-- Draws a name: the digits of one word, and as first digit that of a later word if it is no letter. -/
def drawCandidate (limit : Nat) (g : σ) : Option (Text × σ) :=
  let (w, g) := WordSource.next g
  if (leadDigit w).isDigit then (drawLetter limit g).map fun (c, g) => (c :: (hexOfWord w).tail, g)
  else some (hexOfWord w, g)

/-- The names issued so far, and the source of the next ones. -/
structure Registry (σ : Type) where
  source : σ
  issued : Std.TreeSet Text compare

namespace Registry

/-- A registry that has issued no name. -/
def ofSource (source : σ) : Registry σ := ⟨source, ∅⟩

/-- `name` was issued. -/
def contains (r : Registry σ) (name : Text) : Bool := r.issued.contains name

/-- The number of names issued. -/
def size (r : Registry σ) : Nat := r.issued.size

/-- Draws candidates, each with at most `limit` words for its first digit, until one is new, at most `tries`, and
    issues it. -/
def generateWithin (limit : Nat) : (tries : Nat) → Registry σ → Option (Text × Registry σ)
  | 0, _ => none
  | tries + 1, r =>
    match drawCandidate limit r.source with
    | none => none
    | some (name, source) =>
      if r.contains name then generateWithin limit tries { r with source }
      else some (name, ⟨source, r.issued.insert name⟩)

/-- Issues a new name. There is none only if the search limit is reached. -/
def generate (r : Registry σ) : Option (Text × Registry σ) := generateWithin searchLimit searchLimit r

end Registry

/-- Computations that issue names. They fail only if a draw does. -/
abbrev Naming (σ : Type) := StateT (Registry σ) Option

/-- Issues a new name. -/
def freshName : Naming σ Text := fun r => r.generate

end
end Cloak
