import Cloak.Text.Basic

/-! Compaction: lines are joined, and runs of white space become one blank. A directive keeps a line of its
    own. All of this is laid down for texts over any alphabet that tells its white space. -/

namespace Cloak.Compaction

/-- An alphabet: the letters that are white space and those that end a line, the letter that a directive begins with, and
    the letters that are put for white space and for the end of a line. -/
structure Alphabet (α : Type) where
  isBlank : α → Bool
  isLineBreak : α → Bool
  mark : α
  blank : α
  newline : α

/-- A stretch of a text: one directive line, or the ordinary lines between two directives joined. -/
inductive Stretch (α : Type) where
  | directive (line : List α)
  | code (joined : List α)
  deriving DecidableEq, Repr

namespace Alphabet
variable {α : Type} [BEq α] (A : Alphabet α)

/-- A run of white space as it is written. -/
def squeeze (run : List α) : List α := if 2 ≤ run.length then [A.blank] else run

/-- The text with each run of two or more letters of white space as one blank. -/
def collapse (s : List α) : List α := (s.splitBy fun a b => A.isBlank a && A.isBlank b).flatMap A.squeeze

/-- The line is a preprocessor directive. -/
def isDirective (line : List α) : Bool := line.head? == some A.mark

/-- The stretch of adjacent lines that belong together. -/
def join : List (List α) → Stretch α
  | [line] => if A.isDirective line then .directive line else .code line
  | lines => .code lines.flatten

/-- The lines of a text that are not empty. -/
def lines (s : List α) : List (List α) := (s.splitOnP A.isLineBreak).filter (!·.isEmpty)

/-- The stretches of a text. -/
def stretches (s : List α) : List (Stretch α) :=
  ((A.lines s).splitBy fun a b => !A.isDirective a && !A.isDirective b).map A.join

/-- Writes stretches: each on a line of its own, blank code left out, and code at the end without a line
    break. -/
def render : List (Stretch α) → List α
  | [] => []
  | .directive line :: rest => A.collapse line ++ A.newline :: render rest
  | [.code joined] => if joined.all A.isBlank then [] else A.collapse joined
  | .code joined :: rest => (if joined.all A.isBlank then [] else A.collapse joined ++ [A.newline]) ++ render rest

/-- The compact form of a text. -/
def compact (s : List α) : List α := A.render (A.stretches s)

end Alphabet

/-- The alphabet of characters. -/
def characters : Alphabet Char := ⟨isBlank, isLineBreak, '#', ' ', '\n'⟩

/-- The text with each run of two or more white space characters as one blank. -/
def collapse (s : Text) : Text := characters.collapse s

/-- The line is a preprocessor directive. -/
def isDirective (line : Text) : Bool := characters.isDirective line

/-- The lines of a text that are not empty. -/
def lines (s : Text) : List Text := characters.lines s

/-- The compact form of a text. -/
def compact (s : Text) : Text := characters.compact s

end Cloak.Compaction
