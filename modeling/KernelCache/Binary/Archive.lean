import KernelCache.Text.Numeral
import KernelCache.Text.Utf8

/-
**Archives of object files.**

An archive is a mark, then for every member a header of sixty octets and the member's content,
filled up to an even length. Names of more than fifteen octets stand in a table of their own at the
front.

* `Archive.encode` writes an archive, `Archive.decode?` reads one.
* `Archive.replace` puts a member in the place of the earlier one of its name, or at the end.
-/

namespace KernelCache

/-- A member of an archive. -/
structure ArchiveMember where
  name : Bytes
  content : Bytes
  deriving DecidableEq, Repr

namespace Archive

/-- The mark at the front of an archive. -/
def mark : Bytes := Bytes.ofString "!<arch>\n"

/-- A text filled up with blanks. -/
def padded (width : Nat) (text : Bytes) : Bytes :=
  text ++ List.replicate (width - text.length) 0x20

/-- A number in decimal digits. -/
def decimal (value : Nat) : Bytes := Bytes.ofString (toString value)

/-- The header of a member: its name, no date, no owner, the usual mode, its size. -/
def header (name : Bytes) (size : Nat) : Bytes :=
  padded 16 name ++ padded 12 (decimal 0) ++ padded 6 (decimal 0) ++ padded 6 (decimal 0)
    ++ padded 8 (Bytes.ofString "644") ++ padded 10 (decimal size) ++ Bytes.ofString "`\n"

/-- Content filled up to an even length. -/
def even (content : Bytes) : Bytes :=
  if content.length % 2 = 0 then content else content ++ [0x0A]

/-- The longest name that fits a header. -/
def shortName : Nat := 15

/-- The table of long names, and the names as headers show them. -/
def nameTable (members : List ArchiveMember) : Bytes × List Bytes :=
  members.foldl (fun (table, names) member =>
    if member.name.length ≤ shortName then (table, names ++ [member.name ++ [slashOctet]])
    else
      (table ++ member.name ++ [slashOctet, 0x0A],
        names ++ [slashOctet :: decimal table.length])) ([], [])
where
  /-- The octet that ends a name. -/
  slashOctet : UInt8 := 0x2F

/-- The octets of an archive. -/
def encode (members : List ArchiveMember) : Bytes :=
  let (table, names) := nameTable members
  let front :=
    if table = [] then []
    else
      padded 48 (Bytes.ofString "//") ++ padded 10 (decimal (even table).length)
        ++ Bytes.ofString "`\n" ++ even table
  mark ++ front ++ (names.zip members).flatMap fun (name, member) =>
    header name member.content.length ++ even member.content

/-- A field of a header without its filling. -/
def fieldAt (header : Bytes) (start width : Nat) : Bytes :=
  ((header.drop start).take width).reverse.dropWhile (· = 0x20) |>.reverse

/-- The name that a header shows, with the table of long names. -/
def plainName (table : Bytes) (written : Bytes) : Bytes :=
  match Bytes.toChars written with
  | '/' :: digit :: digits =>
    let start := (Numeral.digits? 10 (twoTo 64) 0 (digit :: digits)).getD 0
    (table.drop start).takeWhile fun byte => byte ≠ 0x2F ∧ byte ≠ 0x0A
  | _ => if written.getLast? = some 0x2F then written.dropLast else written

/-- Reads the members behind the mark. -/
def members? (table : Bytes) : Nat → Bytes → Option (List ArchiveMember)
  | 0, _ => none
  | _ + 1, [] => some []
  | fuel + 1, bytes => do
    let front := bytes.take 60
    if front.length < 60 ∨ fieldAt front 58 2 ≠ Bytes.ofString "`\n" then none
    else
      let size ← Numeral.digits? 10 (twoTo 64) 0 (Bytes.toChars (fieldAt front 48 10))
      let content := (bytes.drop 60).take size
      if content.length < size then none
      else
        let rest := bytes.drop (60 + size + size % 2)
        let written := fieldAt front 0 16
        if written = Bytes.ofString "//" then members? content fuel rest
        else if written = Bytes.ofString "/" then members? table fuel rest
        else return ⟨plainName table written, content⟩ :: (← members? table fuel rest)

/-- The members of an archive. -/
def decode? (bytes : Bytes) : Option (List ArchiveMember) :=
  if mark.isPrefixOf bytes then members? [] bytes.length (bytes.drop mark.length) else none

/-- Puts a member in the place of the earlier one of its name, or at the end. -/
def replace (members : List ArchiveMember) (member : ArchiveMember) : List ArchiveMember :=
  if members.any (·.name = member.name) then
    members.map fun old => if old.name = member.name then member else old
  else members ++ [member]

end Archive

end KernelCache
