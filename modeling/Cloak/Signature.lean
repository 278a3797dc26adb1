import Cloak.Path

/-! Function signatures as a compiler lists them, and the names in them. -/

namespace Cloak

/-- A declared function: its declaration and the file it stands in. -/
structure Signature where
  declaration : Text
  origin : Path
  deriving DecidableEq, Repr

namespace Signature

/-- The word that opens a heading. -/
def opener : Text := "extern".toList

/-- Looks for a heading on the current line. `read` holds, in reverse, what was read of the heading, or of the text
    before one; a heading ends at white space that `(` follows, and its line ends it otherwise. -/
def headingFrom (inside : Bool) (read : Text) : Text → Option Text
  | [] => none
  | c :: s =>
    if inside && isBlank c && s.head? == some '(' then some read.reverse
    else if isBlank c && (!inside || c == '\n') && opener.reverse.isPrefixOf read then headingFrom true [] s
    else headingFrom (inside && c != '\n') (c :: read) s

/-- The text between the first `extern` that parameters follow on its line, and the parameters. -/
def heading? (s : Text) : Option Text := headingFrom false [] s

/-- The tokens of a text, separated by white space. -/
def tokens (s : Text) : List Text := (s.splitOnP isBlank).filter (!·.isEmpty)

/-- The function a declaration declares: the last token before the parameters, without stars. -/
def functionName? (declaration : Text) : Option Text := do
  let heading ← heading? declaration
  let token ← (tokens heading).getLast?
  let name := token.dropWhile (· = '*')
  if name.isEmpty then none else some name

/-- The function of a signature. -/
def name? (s : Signature) : Option Text := functionName? s.declaration

end Signature
end Cloak
