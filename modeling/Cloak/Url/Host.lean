import Cloak.Text.Numeral
import Cloak.Url.Domain
import Cloak.Url.Percent

/-! Hosts of addresses: domain names, and the two kinds of numeric address. -/

namespace Cloak

/-- A host. A numeric address is a number of 32 bits or eight groups of 16 bits. -/
inductive UrlHost where
  | domain (name : Text)
  | ipv4 (address : Nat)
  | ipv6 (groups : List Nat)
  deriving DecidableEq, Repr

namespace UrlHost

/-! ### Addresses of 32 bits -/

/-- The number of a text of digits in a base. -/
def number? (base : Nat) (s : Text) : Option Nat :=
  s.foldlM
    (fun n c =>
      match if c.toNat < 128 then Percent.hexValue? c.toNat.toUInt8 else none with
      | some d => if d < base then some (base * n + d) else none
      | none => none)
    0

/-- Reads one part of an address: hexadecimal after `0x`, octal after `0`, else decimal. Nothing after a mark is
    zero. -/
def part? : Text → Option Nat
  | [] => none
  | '0' :: 'x' :: s => number? 16 s
  | '0' :: 'X' :: s => number? 16 s
  | '0' :: c :: s => number? 8 (c :: s)
  | s => number? 10 s

/-- The parts between dots, one dot at the end left out. -/
def parts (name : Text) : List Text :=
  let parts := name.splitOn '.'
  if 1 < parts.length ∧ parts.getLast? = some [] then parts.dropLast else parts

/-- The last part is a number, so that the name has to be an address. -/
def endsInNumber (name : Text) : Bool :=
  match (parts name).getLast? with
  | none => false
  | some last => !last.isEmpty && (last.all Char.isDigit || (part? last).isSome)

/-- What a byte of an address counts for, by its place. -/
def units : List Nat := [16777216, 65536, 256, 1]

/-- How many numbers fit in what `bytes` bytes leave of an address. -/
def room : (bytes : Nat) → Nat
  | 0 => 4294967296
  | n + 1 => units.getD n 1

/-- Reads an address: each part but the last is a byte, and the last fills what is left. -/
def ipv4? (name : Text) : Option UrlHost := do
  let numbers ← (parts name).mapM part?
  let last ← numbers.getLast?
  let bytes := numbers.dropLast
  if 3 < bytes.length || bytes.any (255 < ·) || room bytes.length ≤ last then none
  else some (.ipv4 ((bytes.zip units).foldl (fun n (b, unit) => n + b * unit) last))

/-- The four bytes of an address with dots between them. -/
def dotted (address : Nat) : Text :=
  ['.'].intercalate (units.map fun unit => Text.decimal (address / unit % 256))

/-! ### Addresses of 128 bits -/

/-- Reads a group of one to four hexadecimal digits. -/
def group? (s : Text) : Option Nat := if s.isEmpty || 4 < s.length then none else number? 16 s

/-- Reads a byte without leading zeros. -/
def byte? (s : Text) : Option Nat :=
  if s.isEmpty || 3 < s.length || (s.head? == some '0' && 1 < s.length) then none
  else (number? 10 s).filter (· ≤ 255)

/-- Reads the groups between colons; the last may be four bytes between dots, which are two groups. -/
def groups? (mixed : Bool) (s : Text) : Option (List Nat) :=
  if s.isEmpty then some []
  else do
    let pieces := s.splitOn ':'
    let front ← pieces.dropLast.mapM group?
    let last ← pieces.getLast?
    match mixed && last.contains '.', (last.splitOn '.').mapM byte? with
    | true, some [a, b, c, d] => some (front ++ [256 * a + b, 256 * c + d])
    | true, _ => none
    | false, _ => (group? last).map (front ++ [·])

/-- Divides a text at the first double colon. -/
def splitGap : (read : Text) → Text → Option (Text × Text)
  | _, [] => none
  | read, ':' :: ':' :: s => some (read.reverse, s)
  | read, c :: s => splitGap (c :: read) s

/-- Reads an address: eight groups, or fewer with one gap of zeros. -/
def ipv6? (s : Text) : Option UrlHost := do
  match splitGap [] s with
  | none =>
    let groups ← groups? true s
    if s.isEmpty || groups.length ≠ 8 then none else some (.ipv6 groups)
  | some (left, right) =>
    let left ← groups? false left
    let right ← groups? true right
    if 7 < left.length + right.length then none
    else some (.ipv6 (left ++ List.replicate (8 - left.length - right.length) 0 ++ right))

/-- The number of zeros that a list begins with. -/
def zeros (groups : List Nat) : Nat := (groups.takeWhile (· = 0)).length

/-- Where the first longest run of zeros starts, counted from `start`, and its length. -/
def longestGap (start : Nat) : List Nat → Nat × Nat
  | [] => (start, 0)
  | g :: rest =>
    let here := zeros (g :: rest)
    let (later, length) := longestGap (start + 1) rest
    if length ≤ here then (start, here) else (later, length)

/-- Groups with colons between them. -/
def colons (groups : List Nat) : Text := [':'].intercalate (groups.map (Nat.toDigits 16))

/-- An address with its first longest run of two or more zeros left out. -/
def compressed (groups : List Nat) : Text :=
  let (start, length) := longestGap 0 groups
  if length < 2 then colons groups
  else colons (groups.take start) ++ "::".toList ++ colons (groups.drop (start + length))

/-! ### Hosts -/

/-- The host in an address. -/
def toText : UrlHost → Text
  | .domain name => name
  | .ipv4 address => dotted address
  | .ipv6 groups => ['['] ++ compressed groups ++ [']']

/-- A numeric address between brackets, or none if there are no brackets. -/
def bracketed? (s : Text) : Option (Option UrlHost) :=
  match s with
  | '[' :: inner => some (if inner.getLast? = some ']' then ipv6? inner.dropLast else none)
  | _ => none

/-- Reads the host of a web address. -/
def parse? (s : Text) : Option UrlHost :=
  match bracketed? s with
  | some host => host
  | none => do
    let name ← Domain.toAscii? (← Utf8.decode? (Percent.decode (Utf8.encode s)))
    if name.isEmpty then none else if endsInNumber name then ipv4? name else some (.domain name)

/-- The characters that no host of another address holds. -/
def refused : List Char :=
  ['\x00', '\t', '\n', '\r', ' ', '#', '/', ':', '<', '>', '?', '@', '[', '\\', ']', '^', '|']

/-- Reads the host of an address that is no web address: it is kept as it is. -/
def parseOpaque? (s : Text) : Option UrlHost :=
  match bracketed? s with
  | some host => host
  | none => if s.any refused.contains then none else some (.domain (Percent.encode [] s))

/-- The numeric address as connections show it. -/
def endpoint? : UrlHost → Option Text
  | .domain _ => none
  | .ipv4 address => some (dotted address)
  | .ipv6 groups =>
    match groups with
    | [0, 0, 0, 0, 0, 65535, high, low] => some ("[::ffff:".toList ++ dotted (65536 * high + low) ++ [']'])
    | _ => some (['['] ++ compressed groups ++ [']'])

end UrlHost
end Cloak
