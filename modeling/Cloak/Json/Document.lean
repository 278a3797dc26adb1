import Cloak.Text.Numeral

/-! Documents that are written as JSON: texts, natural numbers and objects with their members in order. -/

namespace Cloak.Json

/-- A document to write. -/
inductive Document where
  | text (s : Text)
  | number (n : Nat)
  | object (members : List (Text × Document))

namespace Document

/-- One character inside a string. Only what has to be escaped is. -/
def escape (c : Char) : Text :=
  if c = '"' then ['\\', '"']
  else if c = '\\' then ['\\', '\\']
  else if c = '\x08' then ['\\', 'b']
  else if c = '\x0c' then ['\\', 'f']
  else if c = '\n' then ['\\', 'n']
  else if c = '\r' then ['\\', 'r']
  else if c = '\t' then ['\\', 't']
  else if c.toNat < 0x20 then
    ['\\', 'u', '0', '0', Nat.digitChar (c.toNat / 16), Nat.digitChar (c.toNat % 16)]
  else [c]

/-- A string with its quotes. -/
def quote (s : Text) : Text := ['"'] ++ s.flatMap escape ++ ['"']

mutual

/-- The document without white space. -/
def compact : Document → Text
  | .text s => quote s
  | .number n => Text.decimal n
  | .object members => ['\x7b'] ++ compactMembers members ++ ['\x7d']

/-- Members with commas between them. -/
def compactMembers : List (Text × Document) → Text
  | [] => []
  | [(key, d)] => quote key ++ [':'] ++ compact d
  | (key, d) :: rest => quote key ++ [':'] ++ compact d ++ [','] ++ compactMembers rest

end

/-- A new line at some depth, two blanks for each level. -/
def newLine (depth : Nat) : Text := '\n' :: List.replicate (2 * depth) ' '

mutual

/-- The document with a line for each member. -/
def pretty (depth : Nat) : Document → Text
  | .text s => quote s
  | .number n => Text.decimal n
  | .object [] => ['\x7b', '\x7d']
  | .object (m :: members) =>
    ['\x7b'] ++ prettyMembers (depth + 1) (m :: members) ++ newLine depth ++ ['\x7d']

/-- Members, each on a line, with commas after all but the last. -/
def prettyMembers (depth : Nat) : List (Text × Document) → Text
  | [] => []
  | [(key, d)] => newLine depth ++ quote key ++ [':', ' '] ++ pretty depth d
  | (key, d) :: rest => newLine depth ++ quote key ++ [':', ' '] ++ pretty depth d ++ [','] ++ prettyMembers depth rest

end

end Document
end Cloak.Json
