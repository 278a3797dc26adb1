import Cloak.Text.Basic
import Cloak.Text.CharSet

/-! Tables of characters, written as text: stretches of code points in hexadecimal digits, with what is said of them. -/

namespace Cloak

/-- A stretch of code points, every `step`-th from `first` to `last`, and the numbers that a table gives for it. -/
structure Span where
  first : Nat
  last : Nat
  step : Nat
  value : List Nat
  deriving DecidableEq, Repr

namespace Span

/-- The span has `c`. -/
def holds (s : Span) (c : Char) : Bool :=
  decide (s.first ≤ c.toNat) && decide (c.toNat ≤ s.last) && (c.toNat - s.first) % s.step == 0

/-- The number of upper-case hexadecimal digits. -/
def number (s : Text) : Nat := s.foldl (fun n c => 16 * n + (c.toNat - if c.isDigit then 48 else 55)) 0

/-- Reads `first-last/step=number+number`, where only the first part has to be there. -/
def ofText (s : Text) : Span :=
  let (place, value) := s.span (· ≠ '=')
  let (range, step) := place.span (· ≠ '/')
  let (first, last) := range.span (· ≠ '-')
  { first := number first
    last := number (if last.isEmpty then first else last.tail)
    step := if step.isEmpty then 1 else number step.tail
    value := (((value.drop 1).splitOn '+').filter (!·.isEmpty)).map number }

/-- The spans of a table: those of its lines, which blanks separate. -/
def ofLines (lines : List String) : List Span := lines.flatMap fun line => (line.toList.splitOn ' ').map ofText

end Span

/-- The characters of a table. -/
def CharSet.ofLines (lines : List String) : CharSet := ⟨(Span.ofLines lines).map fun s => (s.first, s.last)⟩

end Cloak
