import Cloak.Text.Numeral
import Cloak.Text.Utf8

/-! Paths as bytes. A path is read by its segments between separators; empty segments and `.` count for
    nothing, a leading `.` apart. -/

namespace Cloak

/-- A path as it was written. -/
structure Path where
  bytes : Bytes
  deriving DecidableEq, Repr

/-- A stretch of a path without separators. -/
abbrev Segment := Bytes

namespace Segment

/-- The segment `.`. -/
def here : Segment := [46]

/-- The segment `..`. -/
def up : Segment := [46, 46]

/-- The segment names nothing: it is empty or `.`. -/
def isVoid (s : Segment) : Bool := s.isEmpty || s == here

/-- The segment names a file or directory. -/
def isNormal (s : Segment) : Bool := !s.isVoid && s != up

end Segment

/-- A part of a path that counts. -/
inductive Component where
  | root
  | here
  | up
  | normal (name : Segment)
  deriving DecidableEq, Repr

namespace Path

/-- The byte between segments. -/
def separator : UInt8 := 47

/-- The path of a text. -/
def ofText (s : Text) : Path := ⟨Utf8.encode s⟩

/-- The path for readers, with replacement characters where it is not UTF-8. -/
def display (p : Path) : Text := Utf8.decodeLossy p.bytes

/-- The text of a path that is UTF-8. -/
def text? (p : Path) : Option Text := Utf8.decode? p.bytes

/-- The segments between separators, empty ones included. -/
def segments (p : Path) : List Segment := p.bytes.splitOn separator

/-- The path of segments. -/
def ofSegments (segments : List Segment) : Path := ⟨[separator].intercalate segments⟩

/-- The component of a segment that is not void. -/
def componentOf (s : Segment) : Component := if s = Segment.up then .up else .normal s

/-- What the first segment alone says: a root or a leading `.`. -/
def start (p : Path) : List Component :=
  if p.bytes.head? = some separator then [.root]
  else if p.segments.head? = some Segment.here then [.here]
  else []

/-- The components of a path: its start, then all segments that are not void. -/
def components (p : Path) : List Component :=
  p.start ++ (p.segments.filter (!·.isVoid)).map componentOf

/-- `origin` names the file `source`: one path ends with the components of the other. -/
def isDeclaredIn (origin source : Path) : Bool :=
  !origin.bytes.isEmpty &&
    (source.components.isSuffixOf origin.components || origin.components.isSuffixOf source.components)

/-- The segments without void ones at the end. The first segment stays: it may be a root or a leading `.`. -/
def trimVoid : List Segment → List Segment
  | [] => []
  | first :: rest => first :: dropEndWhile Segment.isVoid rest

/-- The last component, if it is a normal one. -/
def fileName? (p : Path) : Option Segment := (trimVoid p.segments).getLast?.filter Segment.isNormal

/-- The segments of the directory that holds the last component. -/
def parentSegments (p : Path) : List Segment := trimVoid (trimVoid p.segments).dropLast

/-- The path with another last component. -/
def withFileName (p : Path) (name : Segment) : Path := ofSegments (p.parentSegments ++ [name])

/-- Divides a file name at its last `.`. A name whose only `.` comes first has no extension. -/
def splitName (name : Segment) : Segment × Option Segment :=
  let (revExtension, revStem) := name.reverse.span (· ≠ 46)
  match revStem with
  | _ :: stem@(_ :: _) => (stem.reverse, some revExtension.reverse)
  | _ => (name, none)

/-- A file name with the seed between its stem and its extension. There is none if the stem is not UTF-8; an
    extension that is not UTF-8 is left out. -/
def seededName? (name : Segment) (seed : Nat) : Option Segment := do
  let (stem, extension) := splitName name
  let _ ← Utf8.decode? stem
  let seeded := stem ++ Utf8.encode (Text.decimal seed)
  match extension with
  | some e => return if (Utf8.decode? e).isSome then seeded ++ 46 :: e else seeded
  | none => return seeded

/-- Where the text made from the file at `input` goes. -/
def output? (input : Path) (seed : Nat) : Option Path := do
  let name ← input.fileName?
  let seeded ← seededName? name seed
  return input.withFileName seeded

end Path
end Cloak
