import Cloak.Url.Host

/-! Addresses of services: a scheme, a host with what goes with it, a path, a query and a fragment. Reading is lenient:
    blanks around an address and line breaks in it are dropped, what may not stand for itself is encoded, and `.` and
    `..` are followed. -/

namespace Cloak

/-- A path: segments, or a text that has none. -/
inductive UrlPath where
  | segments (names : List Text)
  | whole (text : Text)
  deriving DecidableEq, Repr

/-- An address. -/
structure Url where
  scheme : Text
  username : Text := []
  password : Option Text := none
  host : Option UrlHost := none
  portNumber : Option Nat := none
  path : UrlPath
  query : Option Text := none
  fragment : Option Text := none
  deriving DecidableEq, Repr

namespace Url

/-- A tab or line break, which counts for nothing in an address. -/
def isDropped (c : Char) : Bool := c == '\t' || c == '\n' || c == '\r'

/-- The text without tabs and line breaks. -/
def clean (s : Text) : Text := s.filter (!isDropped ·)

/-! ### Schemes -/

/-- The number at which services of a scheme of the web listen, if it is another than `file`. -/
def defaultPortNumber? (scheme : Text) : Option Nat :=
  if scheme = "http".toList ∨ scheme = "ws".toList then some 80
  else if scheme = "https".toList ∨ scheme = "wss".toList then some 443
  else if scheme = "ftp".toList then some 21
  else none

/-- The scheme of files. -/
def fileScheme : Text := "file".toList

/-- A scheme of the web: its addresses have a host and a path, and `\\` counts as `/`. -/
def isSpecial (scheme : Text) : Bool := (defaultPortNumber? scheme).isSome || scheme == fileScheme

/-- `c` can be part of a scheme. -/
def isSchemeChar (c : Char) : Bool := c.isAlphanum || c == '+' || c == '-' || c == '.'

/-- Divides an address after its scheme. -/
def splitScheme? (s : Text) : Option (Text × Text) :=
  match s.head?.any Char.isAlpha, s.dropWhile isSchemeChar with
  | true, ':' :: rest => some ((s.takeWhile isSchemeChar).map Char.toLower, rest)
  | _, _ => none

/-! ### Paths -/

/-- `c` separates segments of a path. -/
def isSlash (special : Bool) (c : Char) : Bool := c == '/' || (special && c == '\\')

/-- A segment with its encoded dots as dots. -/
def plainDots : Text → Text
  | '%' :: '2' :: 'e' :: s => '.' :: plainDots s
  | '%' :: '2' :: 'E' :: s => '.' :: plainDots s
  | c :: s => c :: plainDots s
  | [] => []

/-- The segment is the letter of a drive. -/
def isDrive : Text → Bool
  | [letter, mark] => letter.isAlpha && (mark == ':' || mark == '|')
  | _ => false

/-- The segment with a colon after the letter of a drive. -/
def asDrive (s : Text) : Text := if isDrive s then s.take 1 ++ [':'] else s

/-- Leaves the last directory of those gone into (in reverse). A drive is not left. -/
def leave : List Text → List Text
  | [] => []
  | name :: rest => if isDrive name then name :: rest else rest

/-- The letter of a drive and the name after it, if a dropped character divides them in one segment. -/
def openedDrive? (segment : Text) : Option (Text × Text) :=
  match segment.span (· ≠ ':') with
  | (front, _ :: d :: rest) =>
    match clean front, clean rest with
    | [letter], c :: name => if letter.isAlpha && isDropped d then some ([letter, ':'], c :: name) else none
    | _, _ => none
  | _ => none

/-- A way through directories: those gone into (in reverse), and whether the way began with a drive. -/
structure Way where
  gone : List Text := []
  onDrive : Bool := false

/-- The segment as it is written. -/
def written (segment : Text) : Text := Percent.encode Percent.inPath (clean segment)

/-- Goes on along a segment. Among files (`file`) the first may be a drive. -/
def Way.step (file : Bool) (w : Way) (segment : Text) : Way :=
  let name := written segment
  if plainDots name = ['.', '.'] then { w with gone := leave w.gone }
  else if plainDots name = ['.'] then w
  else if file && w.gone.isEmpty then
    match openedDrive? segment with
    | some (drive, rest) => { w with gone := [written rest, drive] }
    | none => ⟨[asDrive name], isDrive name⟩
  else { w with gone := name :: w.gone }

/-- The segment leads to a directory by dots alone. -/
def isDots (segment : Text) : Bool :=
  let name := plainDots (written segment)
  name == ['.'] || name == ['.', '.']

/-- The way along a path without its first separator. A path that ends with dots ends in a directory. -/
def wayAlong (special file : Bool) (s : Text) : Way :=
  let segments := s.splitOnP (isSlash special)
  let w := segments.foldl (Way.step file) {}
  if segments.getLast?.any isDots then { w with gone := [] :: w.gone } else w

/-- The segments of a path without its first separator. -/
def segmentsOf (special : Bool) (s : Text) : List Text := (wayAlong special false s).gone.reverse

/-- The text without its first character if that is a separator. -/
def dropSlash (special : Bool) : Text → Text
  | [] => []
  | c :: s => if isSlash special c then s else c :: s

/-- Reads a path that follows a host. The web always has one. -/
def pathAfterHost (special : Bool) (s : Text) : UrlPath :=
  .segments (if s.isEmpty && !special then [] else segmentsOf special (dropSlash special s))

/-! ### Authorities -/

/-- Divides a user name from a password, which is none if it is empty. -/
def credentials (s : Text) : Text × Option Text :=
  let encode := Percent.encode Percent.inCredentials
  match s.span (· ≠ ':') with
  | (name, _ :: c :: rest) => (encode name, some (encode (c :: rest)))
  | (name, _) => (encode name, none)

/-- Divides a text at its last `@`. -/
def splitUser (s : Text) : Option Text × Text :=
  match s.reverse.span (· ≠ '@') with
  | (_, []) => (none, s)
  | (host, _ :: user) => (some user.reverse, host.reverse)

/-- Divides a host from the number of its service, which a colon outside brackets begins. -/
def splitPortNumber (inside : Bool) (host : Text) : Text → Text × Option Text
  | [] => (host.reverse, none)
  | c :: s =>
    if c = ':' && !inside then (host.reverse, some s)
    else splitPortNumber (c == '[' || (inside && c != ']')) (c :: host) s

/-- Reads the number of a service. That of the scheme is left out. -/
def portNumber? (scheme : Text) : Option Text → Option (Option Nat)
  | none => some none
  | some [] => some none
  | some digits => do
    let n ← UrlHost.number? 10 digits
    if 65535 < n then none else some (if defaultPortNumber? scheme = some n then none else some n)

/-- Reads an authority that the text `rest` follows, and gives the path that begins after it. The web needs a host, and
    so do credentials, the number of a service and an `@` before more text. After the number, `\\` begins a path. -/
def authority? (scheme s rest : Text) : Option (Url × Text) := do
  let (user, place) := splitUser s
  let (username, password) := (user.map credentials).getD ([], none)
  let (host, number) := splitPortNumber false [] place
  let (digits, path) := (number.map (·.span (· ≠ '\\'))).elim (none, []) fun n => (some n.1, n.2)
  let needsHost := isSpecial scheme || digits.isSome || !username.isEmpty || password.isSome ||
    (user = some [] && !rest.isEmpty)
  if host.isEmpty && needsHost then none
  else
    let host ← if isSpecial scheme then UrlHost.parse? host else UrlHost.parseOpaque? host
    return ({ scheme, username, password, host, portNumber := ← portNumber? scheme digits, path := .segments [] }, path)

/-! ### Whole addresses -/

/-- The text up to the first character that satisfies `p`, and the rest. -/
def upTo (p : Char → Bool) (s : Text) : Text × Text := s.span (!p ·)

/-- Reads query and fragment. -/
def withEnding (u : Url) (s : Text) : Url :=
  let (query, fragment) := upTo (· == '#') s
  let reserved := if isSpecial u.scheme then '\'' :: Percent.inQuery else Percent.inQuery
  { u with
    query := match query with
      | '?' :: q => some (Percent.encode reserved q)
      | _ => none
    fragment := match fragment with
      | '#' :: f => some (Percent.encode Percent.inFragment f)
      | _ => none }

/-- Reads what follows the slashes before a host. -/
def afterSlashes? (scheme s : Text) : Option Url := do
  let special := isSpecial scheme
  let (front, ending) := upTo (fun c => c == '?' || c == '#') s
  let (authority, path) := upTo (isSlash special) front
  let (u, begun) ← authority? scheme authority (path ++ ending)
  return withEnding { u with path := pathAfterHost special (begun ++ path) } ending

/-- The address of a file. Empty segments at the front of a path count for nothing, and a drive has no host. -/
def ofFile (host : Option UrlHost) (path ending : Text) : Url :=
  let w := wayAlong true true (dropSlash true (path.dropWhile isDropped))
  let host := if w.onDrive then none else host
  let named := w.gone.reverse.dropWhile List.isEmpty
  withEnding { scheme := fileScheme, host, path := .segments (if named.isEmpty then [[]] else named) } (clean ending)

/-- Reads the host of a file. The own host is left out. -/
def fileHost? (name : Text) : Option (Option UrlHost) :=
  if name.isEmpty then some none
  else (UrlHost.parse? name).map fun host => if host = .domain "localhost".toList then none else some host

/-- What follows two separators. -/
def afterTwoSlashes? (s : Text) : Option Text :=
  match s.dropWhile isDropped with
  | a :: s =>
    match s.dropWhile isDropped with
    | b :: rest => if isSlash true a && isSlash true b then some rest else none
    | [] => none
  | [] => none

/-- Reads the address of a file. What stands for a host may be a drive. -/
def file? (s : Text) : Option Url := do
  let (front, ending) := upTo (fun c => c == '?' || c == '#') s
  match afterTwoSlashes? front with
  | none => return ofFile none front ending
  | some rest =>
    let (name, path) := upTo (isSlash true) rest
    if isDrive (clean name) then return ofFile none rest ending
    else return ofFile (← fileHost? (clean name)) path ending

/-- Reads what follows a scheme outside the web. -/
def other? (scheme s : Text) : Option Url :=
  match s with
  | '/' :: '/' :: rest => afterSlashes? scheme rest
  | _ =>
    let (front, ending) := upTo (fun c => c == '?' || c == '#') s
    let path := match front with
      | '/' :: rest => .segments (segmentsOf false rest)
      | _ => .whole (Percent.encode [] front)
    some (withEnding { scheme, path } ending)

/-- Reads an address. There is none without a scheme. -/
def parse? (s : Text) : Option Url := do
  let isOuter (c : Char) : Bool := decide (c.toNat ≤ 32)
  let s := dropEndWhile isOuter (s.dropWhile isOuter)
  let (scheme, rest) ← splitScheme? (clean s)
  if scheme = fileScheme then file? (s.dropWhile (· ≠ ':')).tail
  else if isSpecial scheme then afterSlashes? scheme (rest.dropWhile (isSlash true))
  else other? scheme rest

/-! ### Writing -/

/-- The host and the number of its service. -/
def location (u : Url) : Text :=
  (u.host.map UrlHost.toText).getD [] ++ ((u.portNumber.map fun n => ':' :: Text.decimal n).getD [])

/-- User name and password with the `@` after them. -/
def userInfo (u : Url) : Text :=
  if u.username.isEmpty && u.password.isNone then []
  else u.username ++ ((u.password.map (':' :: ·)).getD []) ++ ['@']

/-- The path as it is written. -/
def pathText (u : Url) : Text :=
  match u.path with
  | .segments names => names.flatMap ('/' :: ·)
  | .whole s => s

/-- The address as it is written. Without a host, a path does not begin with two slashes. -/
def toText (u : Url) : Text :=
  let front :=
    if u.host.isSome || u.scheme == fileScheme then "//".toList ++ u.userInfo ++ u.location
    else if "//".toList.isPrefixOf u.pathText then "/.".toList
    else []
  u.scheme ++ [':'] ++ front ++ u.pathText ++ ((u.query.map ('?' :: ·)).getD []) ++
    ((u.fragment.map ('#' :: ·)).getD [])

/-! ### Requests -/

/-- The address names a host. -/
def hasHost (u : Url) : Bool := u.host.any fun host => !host.toText.isEmpty

/-- The text that an encoded one stands for is UTF-8. -/
def isReadable (s : Text) : Bool := (Utf8.decode? (Percent.decode (Utf8.encode s))).isSome

/-- The address without credentials. A user name that cannot be read keeps them, and so does a password if there is
    no user name. -/
def withoutCredentials (u : Url) : Url :=
  if isReadable u.username && (!u.username.isEmpty || u.password.any isReadable) then
    { u with username := [], password := none }
  else u

/-- The longest address of a request, in bytes. -/
def longest : Nat := 65534

/-- Characters that a host may hold but no request. -/
def unsent : List Char := ['"', '\x60', '\x7b', '\x7d']

/-- A request can be sent to the address. -/
def isFetchable (u : Url) : Bool :=
  (u.scheme == "http".toList || u.scheme == "https".toList) && !u.location.any unsent.contains &&
    decide (u.toText.length ≤ longest)

/-- The address of the service itself, without a path. -/
def service (u : Url) : Text := u.scheme ++ "://".toList ++ u.location ++ ['/']

/-- Where a connection goes if the host is numeric. -/
def endpoint? (u : Url) : Option Text := do
  let host ← u.host
  let address ← host.endpoint?
  let n ← u.portNumber.or (defaultPortNumber? u.scheme)
  return address ++ ':' :: Text.decimal n

end Url
end Cloak
