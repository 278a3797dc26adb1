import Cloak.Text.Basic
import Cloak.Text.Word

/-! Names that `#define` lines introduce. Only a line that follows a line break is looked at. -/

namespace Cloak

/-- The character separates a directive from its name. -/
def isGap (c : Char) : Bool := c == ' ' || c == '\t'

/-- What follows the first `#define` of a line that a gap follows, from its gap on. -/
def afterDefine? : Text → Option Text
  | [] => none
  | c :: s =>
    match after? "#define".toList (c :: s) with
    | some (g :: rest) => if isGap g then some (g :: rest) else afterDefine? s
    | _ => afterDefine? s

/-- The name a line defines. -/
def definedName? (line : Text) : Option Text := do
  let rest ← afterDefine? line
  let name := (rest.dropWhile isGap).takeWhile isIdentChar
  if name.head?.any isIdentStart then some name else none

/-- The names that the lines of a text define, the first line left out, repeats included. -/
def definedNames (s : Text) : List Text := ((s.splitOnP isLineBreak).drop 1).filterMap definedName?

end Cloak
