import KernelCache.System.Files

/-
**Making, moving and removing directory entries.**

Each function is one system call on a `Files`, or a loop of such calls for a whole tree, and fails
with the fault that the call reports.
-/

namespace KernelCache.Files

/-- The entries right under a directory. -/
def children (files : Files) (place : Place) : List (Place × Node) :=
  files.entries.filter fun entry => entry.1 != [] && entry.1.dropLast == place

/-- Counts a change of the entries right under a directory as a change of it. -/
def touchParent (files : Files) (place : Place) : Files :=
  let parent := place.dropLast
  let attributes := files.attributesOf parent .directory
  files.setAttributes parent .directory { attributes with modified := files.clock }

/-- Puts an entry at a free place. -/
def insert (files : Files) (place : Place) (node : Node) : Files :=
  { files with entries := files.entries ++ [(place, node)] }.touchParent place

/-- Takes an entry away. -/
def erase (files : Files) (place : Place) : Files :=
  { files with
    entries := files.entries.filter fun entry => entry.1 != place
    directories := files.directories.filter fun entry => entry.1 != place }.touchParent place

/-- Takes an entry and all that is under it away. -/
def eraseTree (files : Files) (place : Place) : Files :=
  { files with
    entries := files.entries.filter fun entry => !place.isPrefixOf entry.1
    directories := files.directories.filter fun entry => !place.isPrefixOf entry.1
  }.touchParent place

/-- Removes an entry that is no directory. -/
def remove (files : Files) (base : Place) (path : Path) : Except Fault Files := do
  match ← files.entryAt base path with
  | (.found _ .directory, _) | (_, .dots) => throw .isDirectory
  | (.found place _, .name) => return files.erase place
  | (.found _ _, .slash) => throw .notDirectory
  | (.free _ _, _) => throw .notFound

/-- Makes a directory. -/
def makeDirectory (files : Files) (base : Place) (path : Path) (mode : Nat := 0o755) :
    Except Fault Files := do
  match ← files.entryAt base path with
  | (.found _ _, _) => throw .taken
  | (.free place _, _) =>
    return (files.insert place .directory).setAttributes place .directory
      { mode, modified := files.clock }

/-- Whether a path leads to a directory. -/
def isDirectory (files : Files) (base : Place) (path : Path) : Bool :=
  match files.status base path with
  | .ok (_, .directory) => true
  | _ => false

/-- Makes a directory, unless there is one; what was made stays when more cannot be made. -/
def ensureDirectory (files : Files) (base : Place) (path : Path) : Files × Option Fault :=
  match files.makeDirectory base path with
  | .ok files => (files, none)
  | .error fault => (files, if files.isDirectory base path then none else some fault)

/-- Makes a directory, and first the one above when it is missing, up to the given number. -/
def makeUpTo (files : Files) (base : Place) : Nat → Path → Files × Option Fault
  | 0, _ => (files, some .notFound)
  | fuel + 1, path =>
    if path.bytes = [] then (files, none)
    else
      match files.ensureDirectory base path, path.parent? with
      | (files, some (.code 2)), some parent =>
        match makeUpTo files base fuel parent with
        | (files, none) => files.ensureDirectory base path
        | failed => failed
      | result, _ => result

/-- Makes a directory and all that are missing on the way to it. -/
def makeDirectories (files : Files) (base : Place) (path : Path) : Files × Option Fault :=
  files.makeUpTo base (path.components.length + 1) path

/-- Makes every directory that a path goes through, one after the other. -/
def makeWay (files : Files) (base : Place) (path : Path) : Files × Option Fault :=
  let lengths := (List.range path.components.length).map (· + 1)
  lengths.foldl
    (fun result length =>
      match result with
      | (files, none) =>
        files.ensureDirectory base (Path.ofComponents (path.components.take length))
      | failed => failed)
    (files, if path.bytes = [] then some .notFound else none)

/-- Removes an empty directory. -/
def removeDirectory (files : Files) (base : Place) (path : Path) : Except Fault Files := do
  match ← files.entryAt base path with
  | (.found place .directory, ending) =>
    if ending = .dots then throw .invalid
    else if (files.children place).isEmpty then return files.erase place
    else throw .notEmpty
  | (.found _ _, _) => throw .notDirectory
  | (.free _ _, _) => throw .notFound

/-- Makes a symbolic link. -/
def makeLink (files : Files) (base : Place) (path : Path) (target : Bytes) :
    Except Fault Files := do
  if target.contains 0 then throw .nulInPath
  if target = [] then throw .notFound
  match ← files.entryAt base path with
  | (.found _ _, _) => throw .taken
  | (.free place _, .name) => return files.insert place (.link target)
  | (.free _ _, _) => throw .notFound

/-- Gives a file a second name. -/
def shareName (files : Files) (base : Place) (path other : Path) : Except Fault Files := do
  match ← files.linkStatus base path with
  | (_, .directory) => throw (.code 1)
  | (_, node) =>
    match ← files.entryAt base other with
    | (.found _ _, _) => throw .taken
    | (.free place _, .name) => return files.insert place node
    | (.free _ _, _) => throw .notFound

/-- Moves every entry under one place to another place. -/
def moveTree (files : Files) (source target : Place) : Files :=
  let moved (place : Place) : Place :=
    if source.isPrefixOf place then target ++ place.drop source.length else place
  let entries := files.entries.map fun (place, node) => (moved place, node)
  let directories := files.directories.map fun (place, attributes) => (moved place, attributes)
  ({ files with entries, directories }.touchParent source).touchParent target

/-- Renames an entry, which replaces what is at the new name. -/
def rename (files : Files) (base : Place) (path other : Path) : Except Fault Files := do
  let (from?, ending) ← files.entryAt base path
  let (onto, goal) ← files.entryAt base other
  if ending = .dots ∨ goal = .dots then throw .busy
  match from?, onto with
  | .free _ _, _ => throw .notFound
  | .found source node, .free target _ =>
    if node ≠ .directory ∧ (ending = .slash ∨ goal = .slash) then throw .notDirectory
    if source.isPrefixOf target then throw .invalid
    return files.moveTree source target
  | .found source node, .found target existing =>
    if node ≠ .directory ∧ (ending = .slash ∨ goal = .slash) then throw .notDirectory
    if source = target then return files
    if source.isPrefixOf target then throw .invalid
    if target.isPrefixOf source then throw .notEmpty
    match node, existing with
    | .directory, .directory =>
      if (files.children target).isEmpty then return (files.erase target).moveTree source target
      else throw .notEmpty
    | .directory, _ => throw .notDirectory
    | _, .directory => throw .isDirectory
    | _, _ =>
      if node = existing then return files
      return (files.erase target).moveTree source target

/-- Copies the octets of a regular file over another file, with the leave to run it. The other file
is emptied first, so that a file that is copied over itself is empty afterwards. -/
def copy (files : Files) (base : Place) (path other : Path) : Except Fault Files := do
  match ← files.status base path with
  | (_, .file number) =>
    let content := (files.content? number).getD { bytes := [] }
    let files ← files.write base other []
    match files.status base other with
    | .ok (_, .file made) =>
      return if made = number then files
        else
          files.setContent made
            { content with attributes := { content.attributes with modified := files.clock } }
    | _ => return files
  | _ =>
    throw (.text "the source path is neither a regular file nor a symlink to a regular file")

/-- Writes a file anew: an earlier file of that name keeps its octets for those who have it open. -/
def replace (files : Files) (base : Place) (path : Path) (content : Content) :
    Except Fault Files := do
  if (← files.entryAt base path).2 = .slash then throw .isDirectory
  match ← files.locate base true path with
  | .found _ .directory => throw .isDirectory
  | .found place (.file _) => return (files.erase place).create place content
  | .found _ _ => return files
  | .free place slashed => if slashed then throw .isDirectory else return files.create place content

/-- Writes a file for which something may already be there: an entry that leads to a file with
something in it goes, even when it is a link, and otherwise the file keeps its place. -/
def renew (files : Files) (base : Place) (path : Path) (content : Content) :
    Except Fault Files := do
  let files ← match files.size base path, files.linkStatus base path with
    | .ok (_ + 1), .ok (place, .file _) | .ok (_ + 1), .ok (place, .link _) =>
      if files.isDirectory base path then pure files else pure (files.erase place)
    | _, _ => pure files
  let files ← files.write base path content.bytes
  match files.status base path with
  | .ok (_, .file number) =>
    let attributes := { content.attributes with modified := files.clock }
    return files.setContent number { content with attributes }
  | _ => return files

/-- Does to a tree what was done elsewhere, where one tree became another. What was added to a file
there is added to it here. -/
def replay (files before after : Files) : Files :=
  let gone := before.entries.filter fun entry => after.node? entry.1 != some entry.2
  let come := after.entries.filter fun entry => before.node? entry.1 != some entry.2
  let kept := files.entries.filter fun entry =>
    !gone.contains entry && !come.any fun other => other.1 == entry.1
  let changed := after.contents.filter fun entry => before.content? entry.1 != some entry.2
  let files := { files with entries := kept ++ come, next := max files.next after.next }
  changed.foldl (fun files (number, content) =>
    let old := (before.content? number).map (·.bytes)
    let here := files.octets (.file number)
    let bytes := match old with
      | some old =>
        if old.isPrefixOf content.bytes then here ++ content.bytes.drop old.length
        else content.bytes
      | none => content.bytes
    files.setContent number { content with bytes }) files

/-- Every entry under a directory as a path from there, and the entries of a linked directory under
the name of its link. Only so many directories are entered one inside the other. -/
def entriesUnder (files : Files) (base : Place) : Nat → Bytes → List Bytes
  | 0, _ => []
  | fuel + 1, path =>
    match files.status base ⟨if path = [] then [0x2E] else path⟩ with
    | .ok (place, .directory) =>
      (files.children place).flatMap fun entry =>
        let inner := path ++ entry.1.getLastD []
        if files.isDirectory base ⟨inner⟩ then
          (inner ++ [slash]) :: entriesUnder files base fuel (inner ++ [slash])
        else [inner]
    | _ => []

/-- Every entry under a directory as a path from there, directories with a slash at the end, in
the order of their octets. -/
def listing (files : Files) (base : Place) : List Bytes :=
  (files.entriesUnder base pathLimit []).mergeSort fun first second => decide (first ≤ second)

end KernelCache.Files
