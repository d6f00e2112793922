import KernelCache.Text.Utf8

/-
**File paths.**

A path is an octet string. `Path.join` puts one path under another, `Path.components` is what a path
means, `Path.fileName?` is its last name, and `Path.same` compares two paths by their components, so
that repeated slashes and inner dots make no difference.
-/

namespace KernelCache

/-- A path as it is written. -/
structure Path where
  bytes : Bytes
  deriving DecidableEq, Repr, Inhabited

/-- The octet that separates the names of a path. -/
def slash : UInt8 := 0x2F

/-- One step of a path. -/
inductive Component where
  /-- The root directory. -/
  | root
  /-- A leading dot. -/
  | here
  /-- Two dots. -/
  | up
  /-- An ordinary name. -/
  | name (bytes : Bytes)
  deriving DecidableEq, Repr

namespace Path

/-- The path written by a text. -/
def ofString (text : String) : Path :=
  ⟨Bytes.ofString text⟩

/-- The path for people to read, with U+FFFD for what is not UTF-8. -/
def display (path : Path) : String :=
  Utf8.lossy path.bytes

/-- Whether the path starts at the root. -/
def isAbsolute (path : Path) : Bool :=
  path.bytes.head? == some slash

/-- `dir` followed by `rest`: an absolute `rest` replaces `dir`, and a slash comes between unless
`dir` is empty or ends in one. -/
def join (dir rest : Path) : Path :=
  if rest.isAbsolute ∨ dir.bytes = [] then rest
  else if dir.bytes.getLast? = some slash then ⟨dir.bytes ++ rest.bytes⟩
  else ⟨dir.bytes ++ slash :: rest.bytes⟩

/-- The pieces between slashes. -/
def pieces : Bytes → List Bytes
  | [] => [[]]
  | octet :: rest =>
    match pieces rest with
    | [] => [[]]
    | piece :: others =>
      if octet = slash then [] :: piece :: others else (octet :: piece) :: others

/-- The component a piece stands for; empty pieces and inner dots stand for none. -/
def pieceComponent? (piece : Bytes) : Option Component :=
  if piece = [] ∨ piece = [0x2E] then none
  else if piece = [0x2E, 0x2E] then some .up
  else some (.name piece)

/-- The components of a path. A dot counts only as the first piece of a relative path. -/
def components (path : Path) : List Component :=
  let inner := (pieces path.bytes).filterMap pieceComponent?
  if path.isAbsolute then .root :: inner
  else if (pieces path.bytes).head? = some [0x2E] then .here :: inner
  else inner

/-- The path written from components. -/
def ofComponents : List Component → Path
  | [] => ⟨[]⟩
  | .root :: rest => ⟨slash :: (ofComponents rest).bytes⟩
  | component :: rest =>
    let name := match component with
      | .name bytes => bytes
      | .up => [0x2E, 0x2E]
      | _ => [0x2E]
    if rest = [] then ⟨name⟩ else ⟨name ++ slash :: (ofComponents rest).bytes⟩

/-- The path without its last component; the root and the empty path have none to leave out. -/
def parent? (path : Path) : Option Path :=
  match path.components.reverse with
  | [] | .root :: _ => none
  | _ :: rest => some (ofComponents rest.reverse)

/-- Whether two paths have the same components. -/
def same (first second : Path) : Bool :=
  first.components == second.components

/-- The last component, when it is an ordinary name. -/
def fileName? (path : Path) : Option Bytes :=
  match path.components.getLast? with
  | some (.name bytes) => some bytes
  | _ => none

end Path

end KernelCache
