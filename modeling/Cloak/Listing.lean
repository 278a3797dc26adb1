import Cloak.Signature
import Cloak.Text.Digit

/-! The listing of signatures that a compiler writes: one declaration a line, after a comment with the file, the
    line number and flags. Lines of any other shape are skipped. -/

namespace Cloak.Listing

/-- Reads from the `:` before the line number to the end of the comment, and gives the declaration after it. -/
def declaration? : Text → Option Text
  | ':' :: s =>
    match (s.takeWhile isDecimal).isEmpty, s.dropWhile isDecimal with
    | false, ':' :: flags =>
      match Text.trimStart (flags.dropWhile Char.isUpper) with
      | '*' :: '/' :: rest =>
        let declaration := Text.trim rest
        if declaration.isEmpty then none else some declaration
      | _ => none
    | _, _ => none
  | _ => none

/-- Divides a line after its first character at which a line number and a declaration follow; `origin` was read
    before (in reverse). -/
def divide? (origin : Text) : Text → Option (Text × Text)
  | [] => none
  | c :: s =>
    match declaration? s with
    | some declaration => some ((c :: origin).reverse, declaration)
    | none => divide? (c :: origin) s

/-- Divides what follows the opening of the comment. White space before the origin is skipped, but if nothing
    else can be the origin, its last character is. -/
def entry? (s : Text) : Option (Text × Text) :=
  (divide? [] (Text.trimStart s)).or <|
    (s.takeWhile isBlank).getLast?.bind fun b => divide? [] (b :: Text.trimStart s)

/-- The signature of a trimmed line. -/
def signature? (line : Text) : Option Signature := do
  let s ← after? "/*".toList line
  let (origin, declaration) ← entry? s
  return ⟨declaration, Path.ofText origin⟩

/-- The signatures of a listing, in order. -/
def signatures (s : Text) : List Signature := (s.splitOn '\n').filterMap fun line => signature? (Text.trim line)

end Cloak.Listing
