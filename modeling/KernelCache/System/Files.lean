import KernelCache.Path
import KernelCache.System.Fault

/-
**A tree of files.**

A place is the list of names that leads from the root to a directory entry. Regular files are known
by a number, so that several entries can share one file and a removed file can be told from a new
one of the same name.

* `Files.locate` finds the place a path leads to, through symbolic links.
* `Files.read`, `Files.write` and `Files.append` are about the octets of a file.
* The module `System.Entries` makes, moves and removes directory entries.
-/

namespace KernelCache

/-- The names that lead from the root to a directory entry. -/
abbrev Place := List Bytes

/-- A device. -/
inductive Device where
  /-- It takes everything and gives nothing. -/
  | null
  /-- It takes everything and gives NULs without end. -/
  | zeros
  /-- It takes nothing and gives NULs without end. -/
  | full
  /-- It gives octets at random without end. -/
  | random
  /-- The terminal, which is not there. -/
  | terminal
  /-- What a descriptor of the running program leads to. -/
  | stream (descriptor : Nat)
  deriving DecidableEq, Repr

/-- A directory entry. -/
inductive Node where
  | directory
  /-- A regular file, by its number. -/
  | file (number : Nat)
  /-- A symbolic link. -/
  | link (target : Bytes)
  | device (device : Device)
  /-- A program that is part of the system. -/
  | program (name : Bytes)
  deriving DecidableEq, Repr

/-- Whether an entry is a symbolic link. -/
def Node.isLink : Node → Bool
  | link _ => true
  | _ => false

/-- What a file or a directory has besides what it holds. -/
structure Attributes where
  /-- Who may do what, as nine bits with three more in front. -/
  mode : Nat
  /-- When it was changed last, in microseconds since the system was started. -/
  modified : Int := 0
  deriving DecidableEq, Repr

/-- The attributes of a new file. -/
def Attributes.plain : Attributes := { mode := 0o644 }

/-- The attributes of a new program. -/
def Attributes.runnable : Attributes := { mode := 0o755 }

/-- Whether somebody may run what has the attributes. -/
def Attributes.isExecutable (attributes : Attributes) : Bool :=
  Nat.land attributes.mode 0o111 != 0

/-- A regular file. -/
structure Content where
  bytes : Bytes
  attributes : Attributes := .plain
  deriving DecidableEq, Repr

/-- A tree of files. -/
structure Files where
  /-- Every entry but the root, in the order in which they were made. -/
  entries : List (Place × Node) := []
  contents : List (Nat × Content) := []
  /-- The attributes of directories that are not as usual. -/
  directories : List (Place × Attributes) := []
  /-- The number of the next file. -/
  next : Nat := 0
  /-- The time. -/
  clock : Int := 0
  deriving DecidableEq, Repr

/-- Where a path leads. -/
inductive Spot where
  /-- To an entry. -/
  | found (place : Place) (node : Node)
  /-- To a free name in a directory; `slashed` when the path ends in a slash. -/
  | free (place : Place) (slashed : Bool)
  deriving DecidableEq, Repr

namespace Files

/-! ### Lookup -/

/-- The entry at a place. -/
def node? (files : Files) (place : Place) : Option Node :=
  if place = [] then some .directory else files.entries.lookup place

/-- The file with a number. -/
def content? (files : Files) (number : Nat) : Option Content :=
  files.contents.lookup number

/-- The longest name of an entry. -/
def nameLimit : Nat := 255

/-- Paths are shorter than this. -/
def pathLimit : Nat := 4096

/-- The most symbolic links on one way. -/
def linkLimit : Nat := 40

/-- Follows names from a directory, with the number of links that may still be followed. -/
def walk (files : Files) (followLast : Bool) (links : Nat) (here : Place) :
    List Bytes → Except Fault Spot
  | [] => .ok (.found here .directory)
  | name :: rest =>
    if name = [] ∨ name = [0x2E] then walk files followLast links here rest
    else if name = [0x2E, 0x2E] then walk files followLast links here.dropLast rest
    else if nameLimit < name.length then .error .nameTooLong
    else
      let place := here ++ [name]
      match files.node? place with
      | none =>
        if rest.all (· = []) then .ok (.free place (!rest.isEmpty)) else .error .notFound
      | some .directory => walk files followLast links place rest
      | some (.link target) =>
        if rest = [] ∧ !followLast then .ok (.found place (.link target))
        else
          match links with
          | 0 => .error .linkLoop
          | links + 1 =>
            let start := if target.head? = some slash then [] else here
            walk files followLast links start (Path.pieces target ++ rest)
      | some node => if rest = [] then .ok (.found place node) else .error .notDirectory
termination_by rest => (links, rest.length)

/-- Refuses what is no path at all. -/
def checkPath (path : Path) : Except Fault Unit :=
  if path.bytes.contains 0 then .error .nulInPath
  else if path.bytes = [] then .error .notFound
  else if pathLimit ≤ path.bytes.length then .error .nameTooLong
  else .ok ()

/-- Where a path leads from a directory. -/
def locate (files : Files) (base : Place) (followLast : Bool) (path : Path) :
    Except Fault Spot := do
  checkPath path
  walk files followLast linkLimit (if path.isAbsolute then [] else base) (Path.pieces path.bytes)

/-- How a path that names an entry ends. -/
inductive Ending where
  | name
  /-- In a slash behind the name. -/
  | slash
  /-- In a dot or two, or at the root, so that no directory holds the entry under that name. -/
  | dots
  deriving DecidableEq, Repr

/-- The entry that a path names for those who make, rename or remove it: a link at the end is not
followed, not even in front of a slash. -/
def entryAt (files : Files) (base : Place) (path : Path) : Except Fault (Spot × Ending) := do
  checkPath path
  let pieces := Path.pieces path.bytes
  let names := (pieces.reverse.dropWhile (· = [])).reverse
  let spot ← walk files false linkLimit (if path.isAbsolute then [] else base) names
  let last := names.getLastD [0x2E]
  let ending :=
    if last = [0x2E] ∨ last = [0x2E, 0x2E] then Ending.dots
    else if names.length < pieces.length then .slash
    else .name
  return (spot, ending)

/-- The entry that a path leads to. -/
def status (files : Files) (base : Place) (path : Path) : Except Fault (Place × Node) := do
  match ← files.locate base true path with
  | .found place node => return (place, node)
  | .free _ _ => throw .notFound

/-- The entry that a path names, which may be a symbolic link. -/
def linkStatus (files : Files) (base : Place) (path : Path) : Except Fault (Place × Node) := do
  match ← files.locate base false path with
  | .found place node => return (place, node)
  | .free _ _ => throw .notFound

/-- Whether a path leads to an entry. -/
def present (files : Files) (base : Place) (path : Path) : Bool :=
  match files.status base path with
  | .ok _ => true
  | .error _ => false

/-- A place as a path from the root. -/
def absolute (place : Place) : Path :=
  ⟨if place = [] then [slash] else place.flatMap (slash :: ·)⟩

/-! ### Contents -/

/-- Sets the file with a number. -/
def setContent (files : Files) (number : Nat) (content : Content) : Files :=
  { files with
    contents := (number, content) :: files.contents.filter fun entry => entry.1 != number }

/-- Sets the octets of the file with a number, which counts as a change. -/
def setBytes (files : Files) (number : Nat) (bytes : Bytes) : Files :=
  let old := (files.content? number).getD { bytes := [] }
  files.setContent number
    { bytes, attributes := { old.attributes with modified := files.clock } }

/-- A new file at a free place. -/
def create (files : Files) (place : Place) (content : Content) : Files :=
  let attributes := { content.attributes with modified := files.clock }
  { files with
    entries := files.entries ++ [(place, .file files.next)]
    contents := (files.next, { content with attributes }) :: files.contents
    next := files.next + 1 }

/-- The octets of the file that an entry stands for; devices have none. -/
def octets (files : Files) : Node → Bytes
  | .file number => ((files.content? number).map (·.bytes)).getD []
  | _ => []

/-- The attributes of an entry. -/
def attributesOf (files : Files) (place : Place) : Node → Attributes
  | .file number => ((files.content? number).map (·.attributes)).getD .plain
  | .directory => (files.directories.lookup place).getD .runnable
  | .link _ => { mode := 0o777 }
  | .device _ => { mode := 0o666 }
  | .program _ => .runnable

/-- Sets the attributes of an entry; links, devices and programs keep theirs. -/
def setAttributes (files : Files) (place : Place) (node : Node) (attributes : Attributes) :
    Files :=
  match node with
  | .file number =>
    match files.content? number with
    | some content => files.setContent number { content with attributes }
    | none => files
  | .directory =>
    { files with
      directories := (place, attributes) :: files.directories.filter fun entry =>
        entry.1 != place }
  | _ => files

/-- Whether an entry can be run as a command. -/
def isExecutable (files : Files) : Node → Bool
  | .file number => (files.content? number).any (·.attributes.isExecutable)
  | .program _ => true
  | _ => false

/-- The octets of the file that a path leads to. -/
def read (files : Files) (base : Place) (path : Path) : Except Fault Bytes := do
  match ← files.status base path with
  | (_, .directory) => throw .isDirectory
  | (_, node) => return files.octets node

/-- Opens a path for writing and applies a change to what it holds; a free name gets a file with the
given attributes. -/
def update (files : Files) (base : Place) (path : Path) (change : Bytes → Bytes)
    (attributes : Attributes := .plain) : Except Fault Files := do
  if (← files.entryAt base path).2 = .slash then throw .isDirectory
  match ← files.locate base true path with
  | .found _ .directory => throw .isDirectory
  | .found _ (.file number) => return files.setBytes number (change (files.octets (.file number)))
  | .found _ (.device .full) => if change [] = [] then return files else throw .noSpace
  | .found _ (.device .terminal) => throw .noDevice
  | .found _ _ => return files
  | .free place slashed =>
    if slashed then throw .isDirectory
    else return files.create place { bytes := change [], attributes }

/-- Writes a file from the start. -/
def write (files : Files) (base : Place) (path : Path) (bytes : Bytes) : Except Fault Files :=
  files.update base path fun _ => bytes

/-- Adds octets at the end of a file. -/
def append (files : Files) (base : Place) (path : Path) (bytes : Bytes) : Except Fault Files :=
  files.update base path (· ++ bytes)

/-- Octets cut or filled up with NULs to a size. -/
def resized (size : Nat) (bytes : Bytes) : Bytes :=
  bytes.take size ++ List.replicate (size - bytes.length) 0

/-- Cuts a file or fills it up with NULs. -/
def truncate (files : Files) (base : Place) (path : Path) (size : Nat) : Except Fault Files := do
  discard (files.status base path)
  files.update base path (resized size)

/-- The size of a directory. -/
def pageSize : Nat := 4096

/-- The size of the file that a path leads to; a directory has the size of a page. -/
def size (files : Files) (base : Place) (path : Path) : Except Fault Nat := do
  match ← files.status base path with
  | (_, .directory) => return pageSize
  | (_, node) => return (files.octets node).length

end Files

end KernelCache
