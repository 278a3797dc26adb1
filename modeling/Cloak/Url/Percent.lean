import Cloak.Text.Utf8

/-! Percent encoding. A character that may not stand for itself in a part of an address is written byte by byte, each
    byte as `%` and two hexadecimal digits. -/

namespace Cloak.Percent

/-- A control or a character beyond ASCII: it stands for itself in no part of an address. -/
def isForeign (c : Char) : Bool := decide (c.toNat < 0x20 ∨ 0x7E < c.toNat)

/-- What is encoded in a fragment, besides foreign characters. -/
def inFragment : List Char := [' ', '"', '<', '>', '\x60']

/-- What is encoded in a query. -/
def inQuery : List Char := [' ', '"', '#', '<', '>']

/-- What is encoded in a path. -/
def inPath : List Char := inFragment ++ ['#', '?', '\x7b', '\x7d']

/-- What is encoded in a user name or password. -/
def inCredentials : List Char := inPath ++ ['/', ':', ';', '=', '@', '[', '\\', ']', '^', '|']

/-- An upper-case hexadecimal digit. -/
def digit (n : Nat) : Char := (Nat.digitChar n).toUpper

/-- A byte as `%` and its digits. -/
def encodeByte (b : UInt8) : Text := ['%', digit (b.toNat / 16), digit (b.toNat % 16)]

/-- A character, encoded if it is foreign or one of `reserved`. -/
def encodeChar (reserved : List Char) (c : Char) : Text :=
  if isForeign c || reserved.contains c then (Utf8.encode [c]).flatMap encodeByte else [c]

/-- The text with its foreign and `reserved` characters encoded. -/
def encode (reserved : List Char) (s : Text) : Text := s.flatMap (encodeChar reserved)

/-- The value of a hexadecimal digit. -/
def hexValue? (b : UInt8) : Option Nat :=
  let n := b.toNat
  if 48 ≤ n ∧ n ≤ 57 then some (n - 48)
  else if 65 ≤ n ∧ n ≤ 70 then some (n - 55)
  else if 97 ≤ n ∧ n ≤ 102 then some (n - 87)
  else none

/-- The bytes that an encoded text stands for. A `%` that no two digits follow stands for itself. -/
def decode : Bytes → Bytes
  | [] => []
  | 37 :: a :: b :: rest =>
    match hexValue? a, hexValue? b with
    | some high, some low => UInt8.ofNat (16 * high + low) :: decode rest
    | _, _ => 37 :: decode (a :: b :: rest)
  | b :: rest => b :: decode rest

end Cloak.Percent
