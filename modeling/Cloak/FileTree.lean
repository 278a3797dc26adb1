import Cloak.Error
import Cloak.Path

/-! A tree of files as a value, on a system that sets limits to names and a disk that may refuse a write or run out of
    room. A name is a list of segments from the working directory, or from the root if the first segment is empty. A
    directory is there if the tree says so or if it holds something; the working directory and those above it always
    are. -/

namespace Cloak

/-- Files with their contents, and directories without, by the segments of their names. -/
structure FileTree where
  entries : List (List Segment × Option Bytes)
  deriving DecidableEq, Repr

/-- How long names, paths and the arguments of a program may be on a system. In the room for all arguments, each takes
    `perArgument` more than its bytes. -/
structure Limits where
  name : Nat := 255
  path : Nat := 4095
  argument : Nat := 131071
  arguments : Nat := 2097152
  perArgument : Nat := 9
  deriving DecidableEq, Repr

/-- What a disk does with the file that is written under a name, given all the files it holds: whether it opens it, and
    after how many bytes the write of a longer file stops, with what fault. -/
structure Disk where
  opens : FileTree → List Segment → Except FileFault Unit
  room? : FileTree → List Segment → Option (Nat × FileFault)

namespace Disk

/-- A disk that takes everything. -/
def ample : Disk := ⟨fun _ _ => .ok (), fun _ _ => none⟩

/-- Where the write of these contents stops, and the fault. -/
def stop? (d : Disk) (t : FileTree) (name : List Segment) (contents : Bytes) : Option (Nat × FileFault) :=
  (d.room? t name).filter (·.1 < contents.length)

end Disk

/-- A device that is no file: one is empty and keeps nothing, the other has no room left. -/
inductive Device where
  | null
  | full
  deriving DecidableEq, Repr

namespace FileTree

/-- The name of an absolute path. -/
def absolute (path : String) : List Segment := (Path.ofText path.toList).segments

/-- The name of the root. -/
def root : List Segment := [[]]

/-- The devices by their names. -/
def devices : List (List Segment × Device) := [(absolute "/dev/null", .null), (absolute "/dev/full", .full)]

/-- The device of a name. -/
def device? (name : List Segment) : Option Device := devices.lookup name

/-- The contents of a file. -/
def find? (t : FileTree) (name : List Segment) : Option Bytes := (t.entries.find? (·.1 = name)).bind Prod.snd

/-- `name` lies in the directory, or further down. -/
def isInside (directory name : List Segment) : Bool := directory.isPrefixOf name && name != directory

/-- `name` is a directory. -/
def isDirectory (t : FileTree) (name : List Segment) : Bool :=
  name.all (· == Segment.up) || devices.any (isInside name ·.1) ||
    t.entries.any fun e => isInside name e.1 || e.1 == name && e.2.isNone

/-- What stands under a name. -/
inductive Entry where
  | directory
  | device (d : Device)
  | file (contents : Bytes)
  deriving DecidableEq, Repr

/-- What stands under `name`. -/
def entry? (t : FileTree) (name : List Segment) : Option Entry :=
  if t.isDirectory name then some .directory
  else
    match device? name with
    | some d => some (.device d)
    | none => (t.find? name).map .file

/-- The file `name` with new contents: in its old place if it is there, else at the end. -/
def put (t : FileTree) (name : List Segment) (contents : Bytes) : FileTree :=
  if t.entries.any (·.1 == name) then
    ⟨t.entries.map fun e => if e.1 = name then (name, some contents) else e⟩
  else ⟨t.entries ++ [(name, some contents)]⟩

/-- The name that a segment leads to from a directory. Above the root is the root. -/
def enter (directory : List Segment) (s : Segment) : List Segment :=
  if s.isVoid then directory
  else if s = Segment.up then
    if directory = root then root
    else
      match directory.getLast? with
      | some last => if last = Segment.up then directory ++ [s] else directory.dropLast
      | none => [s]
  else directory ++ [s]

/-- Follows segments from `place` to a directory. Every place on the way has to be one. -/
def follow (t : FileTree) (l : Limits) (place : List Segment) (segments : List Segment) : Except FileFault (List Segment) :=
  if !t.isDirectory place then .error (if (t.entry? place).isSome then .notDirectory else .notFound)
  else
    match segments with
    | [] => .ok place
    | s :: rest => if l.name < s.length then .error .nameTooLong else t.follow l (enter place s) rest

/-- Where a path leads: to a directory, and there to the name `last` if the path ends with one. -/
structure Target where
  directory : List Segment
  last : Option Segment
  slash : Bool

/-- The name of a target. -/
def Target.name (g : Target) : List Segment := g.directory ++ g.last.toList

/-- The name that the way along a path starts from. -/
def origin (p : Path) : List Segment := if p.bytes.head? == some Path.separator then root else []

/-- Where a path leads. Separators at its end stand for no segment. -/
def target (t : FileTree) (l : Limits) (p : Path) : Except FileFault Target :=
  if p.bytes.contains 0 then .error .nulInName
  else if l.path < p.bytes.length then .error .nameTooLong
  else if p.bytes.isEmpty then .error .notFound
  else
    let segments := dropEndWhile List.isEmpty p.segments
    let slash := decide (segments.length < p.segments.length)
    match segments.getLast?.filter Segment.isNormal with
    | some last => return ⟨← t.follow l (origin p) segments.dropLast, some last, slash⟩
    | none => return ⟨← t.follow l (origin p) segments, none, slash⟩

/-- What a path leads to. Only a directory may have a separator after its name. -/
def lookUp (t : FileTree) (l : Limits) (p : Path) : Except FileFault Entry := do
  let g ← t.target l p
  if g.last.any (l.name < ·.length) then throw .nameTooLong
  match t.entry? g.name with
  | none => throw .notFound
  | some .directory => return .directory
  | some e => if g.slash then throw .notDirectory else return e

/-- Reads a file. A device that never ends cannot be read. -/
def read (t : FileTree) (l : Limits := {}) (p : Path) : Except FileFault Bytes := do
  match ← t.lookUp l p with
  | .directory => throw .isDirectory
  | .device .null => return []
  | .device .full => throw (.other "out of memory")
  | .file contents => return contents

/-- What a path opens for writing: a device, or a file under a name, there or new. -/
inductive Slot where
  | device (d : Device)
  | file (name : List Segment)

/-- Opens what a path leads to for writing. No separator may follow its name. -/
def openSlot (t : FileTree) (l : Limits) (d : Disk) (p : Path) : Except FileFault Slot := do
  let g ← t.target l p
  if g.last.isNone || g.slash then throw .isDirectory
  if g.last.any (l.name < ·.length) then throw .nameTooLong
  match t.entry? g.name with
  | some .directory => throw .isDirectory
  | some (.device device) => return .device device
  | _ =>
    d.opens t g.name
    return .file g.name

/-- Writes a file, new or old, and gives the tree after it. A file that is opened loses its old contents at once, so a
    write that stops leaves the beginning of the new ones. -/
def write (t : FileTree) (l : Limits) (d : Disk) (p : Path) (contents : Bytes) : Except FileFault Unit × FileTree :=
  match t.openSlot l d p with
  | .error fault => (.error fault, t)
  | .ok (.device .null) => (.ok (), t)
  | .ok (.device .full) => (.error .noSpace, t)
  | .ok (.file name) =>
    match d.stop? t name contents with
    | some (n, fault) => (.error fault, t.put name (contents.take n))
    | none => (.ok (), t.put name contents)

/-- Lays out files by their paths in a tree. -/
def ofFiles (files : List (Path × Bytes)) (t : FileTree := ⟨[]⟩) : FileTree :=
  files.foldl (fun t f => t.put (f.1.segments.foldl enter (origin f.1)) f.2) t

/-- The name lies below the working directory. -/
def isBelow (name : List Segment) : Bool := name.head? != some Segment.up && name.head? != some []

/-- The files of `new` below the working directory that `old` does not have with the same contents, by name. -/
def changes (old new : FileTree) : List (Path × Bytes) :=
  let changed := new.entries.filterMap fun e => do
    let contents ← e.2
    if isBelow e.1 && old.find? e.1 != some contents then some (Path.ofSegments e.1, contents) else none
  changed.mergeSort fun a b => !(b.1.bytes < a.1.bytes)

end FileTree
end Cloak
