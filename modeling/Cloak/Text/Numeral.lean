import Cloak.Text.Basic

/-! Decimal numerals: writing natural numbers, and reading them up to a limit. -/

namespace Cloak

/-- Why a text is no numeral within the limit. -/
inductive NumeralFault where
  | empty
  | invalidDigit
  | tooLarge
  deriving DecidableEq, Repr

/-- The fault in words. -/
def NumeralFault.message : NumeralFault → String
  | .empty => "cannot parse integer from empty string"
  | .invalidDigit => "invalid digit found in string"
  | .tooLarge => "number too large to fit in target type"

namespace Text

/-- The decimal digits of `n`, without leading zeros. -/
def decimal (n : Nat) : Text := Nat.toDigits 10 n

/-- Reads digits from the left, `value` being what they gave so far. The first character that is no digit or
    takes the value beyond `limit` decides the fault. -/
def readDigits (limit value : Nat) : Text → Except NumeralFault Nat
  | [] => .ok value
  | c :: s =>
    if c.isDigit then
      let next := 10 * value + (c.toNat - '0'.toNat)
      if next ≤ limit then readDigits limit next s else .error .tooLarge
    else .error .invalidDigit

/-- Reads a natural number of at most `limit`: an optional `+` and one or more ASCII digits. -/
def readNatural (limit : Nat) : Text → Except NumeralFault Nat
  | [] => .error .empty
  | ['+'] => .error .invalidDigit
  | '+' :: digits => readDigits limit 0 digits
  | digits => readDigits limit 0 digits

end Text
end Cloak
