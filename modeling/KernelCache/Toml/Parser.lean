import KernelCache.Toml.Lexeme

/-
**Reading TOML documents.**

`Toml.parse` reads a whole text into its root table. Of a text that is no document it tells the
character at which a reader from the left notices: the place of a word that cannot stand there, or
the start of a line that contradicts the lines above. Values may stand inside each other less than
`depthLimit` deep.
-/

/-! ## TOML documents

A document is a table of keys and values. Every value remembers at which character of the text it
starts, when it stands there at all: a table that only its members imply stands nowhere.
-/

namespace KernelCache.Toml

/-- How a table came to be. -/
inductive Origin where
  /-- Between braces. -/
  | inline
  /-- By a header, or as the document itself. -/
  | header
  /-- By the header of a table below it. -/
  | implied
  /-- By a dotted key. -/
  | dotted
  /-- By a dotted key between braces. -/
  | dottedInline
  deriving DecidableEq, Repr

/-- A key and the character at which it starts. -/
structure Key where
  name : String
  position : Nat
  deriving DecidableEq, Repr

/-- A value. -/
inductive Value where
  | string (text : String)
  | integer (number : Int)
  | float (number : Float)
  | boolean (truth : Bool)
  | date
  /-- Values between brackets, each with its position. -/
  | array (items : List (Option Nat × Value))
  /-- Keys and values in the order in which they were written. -/
  | table (origin : Origin) (entries : List (Key × Option Nat × Value))
  /-- Tables that share one doubled header. -/
  | tables (items : List (Option Nat × Value))
  deriving Inhabited

/-- A value and the character at which it starts. -/
abbrev Item := Option Nat × Value

/-- The members of a table. -/
abbrev Entries := List (Key × Item)

namespace Entries

/-- The member with a name. -/
def find? (entries : Entries) (name : String) : Option Item :=
  (List.find? (fun entry => entry.1.name == name) entries).map (·.2)

/-- Replaces the member with a name. -/
def replace (entries : Entries) (name : String) (item : Item) : Entries :=
  entries.map fun entry => if entry.1.name == name then (entry.1, item) else entry

/-- The table without the member of that name. -/
def erase (entries : Entries) (name : String) : Entries :=
  entries.filter fun entry => entry.1.name != name

end Entries

/-- Changes the last item of a list. -/
def updateLast {α : Type} (change : α → Option α) : List α → Option (List α)
  | [] => none
  | [last] => (change last).map ([·])
  | first :: rest => (updateLast change rest).map (first :: ·)

/-- Changes the table that a path of header names leads to, and makes the tables on the way. -/
def underHeader (change : Entries → Option Entries) :
    List Key → Entries → Option Entries
  | [], entries => change entries
  | key :: path, entries =>
    match entries.find? key.name with
    | none =>
      (underHeader change path []).map fun inner =>
        entries ++ [(key, none, .table .implied inner)]
    | some (_, .table .inline _) => none
    | some (position, .table origin inner) =>
      (underHeader change path inner).map fun inner =>
        entries.replace key.name (position, .table origin inner)
    | some (position, .tables items) => do
      let items ← updateLast (fun item =>
        match item with
        | (place, .table origin inner) =>
          (underHeader change path inner).map fun inner => (place, .table origin inner)
        | _ => none) items
      return entries.replace key.name (position, .tables items)
    | some _ => none

/-- Puts a member where a dotted key says. The way there leads through tables that no header and no
braces have closed; the last one has to be made by dotted keys, unless the key has no dots.
`made` is the origin of tables that dotted keys make here, `inside` the origin of this table. -/
def insertDotted (made : Origin) (key : Key) (item : Item) :
    List Key → Option Origin → Entries → Option Entries
  | [], inside, entries =>
    if inside = none ∨ inside = some made then
      if (entries.find? key.name).isSome then none else some (entries ++ [(key, item)])
    else none
  | step :: path, _, entries =>
    match entries.find? step.name with
    | none =>
      (insertDotted made key item path (some made) []).map fun inner =>
        entries ++ [(step, none, .table made inner)]
    | some (position, .table origin inner) =>
      if origin = made ∨ origin = .implied then
        (insertDotted made key item path (some origin) inner).map fun inner =>
          entries.replace step.name (position, .table origin inner)
      else none
    | some (position, .tables items) => do
      let items ← updateLast (fun item =>
        match item with
        | (place, .table origin inner) =>
          (insertDotted made key item path (some origin) inner).map fun inner =>
            (place, .table origin inner)
        | _ => none) items
      return entries.replace step.name (position, .tables items)
    | some _ => none

/-- A line of a document. -/
inductive Statement where
  /-- A header, doubled or not, with the position of its bracket. -/
  | header (doubled : Bool) (path : List Key) (key : Key) (position : Nat)
  /-- A key, its dotted way, and its value. -/
  | member (path : List Key) (key : Key) (item : Item)

/-- The character at which a line starts. -/
def Statement.position : Statement → Nat
  | .header _ _ _ position => position
  | .member path key _ => (path.head?.getD key).position

/-- Opens a table: takes it out of its parent when only its members implied it. -/
def openTable (key : Key) (entries : Entries) : Option (Entries × Entries) :=
  match entries.find? key.name with
  | none => some (entries, [])
  | some (_, .table .implied inner) => some (entries.erase key.name, inner)
  | some _ => none

/-- Puts a member into a table that already has the given members. -/
def insertMember (entries : Entries) (path : List Key) (key : Key) (item : Item) : Option Entries :=
  insertDotted .dotted key item path none entries

/-- Adds a table under a header to its parent. -/
def addTable (key : Key) (position : Nat) (members : Entries → Option Entries)
    (parent : Entries) : Option Entries := do
  let (parent, inner) ← openTable key parent
  let inner ← members inner
  return parent ++ [(key, some position, .table .header inner)]

/-- Adds one more table under a doubled header to its parent. -/
def addTables (key : Key) (position : Nat) (members : Entries → Option Entries)
    (parent : Entries) : Option Entries := do
  let inner ← members []
  let item : Item := (some position, .table .header inner)
  match parent.find? key.name with
  | none => return parent ++ [(key, some position, .tables [item])]
  | some (place, .tables items) => return parent.replace key.name (place, .tables (items ++ [item]))
  | some _ => none

/-- The members that stand before the next header, and what follows them. -/
def takeMembers : List Statement → List (List Key × Key × Item) × List Statement
  | .member path key item :: rest =>
    let (members, others) := takeMembers rest
    ((path, key, item) :: members, others)
  | rest => ([], rest)

theorem length_takeMembers (statements : List Statement) :
    (takeMembers statements).2.length ≤ statements.length := by
  fun_induction takeMembers statements with
  | case1 => simp_all; omega
  | case2 => simp

/-- Puts members into a table one after the other. -/
def insertMembers (members : List (List Key × Key × Item)) (entries : Entries) : Option Entries :=
  members.foldlM (fun entries member => insertMember entries member.1 member.2.1 member.2.2) entries

/-- Adds the sections of a document to its root. -/
def addSections (root : Entries) : List Statement → Option Entries
  | [] => some root
  | .member path key item :: rest => do
    let root ← insertMember root path key item
    addSections root rest
  | .header doubled path key position :: rest => do
    let part := takeMembers rest
    let members := insertMembers part.1
    let add := if doubled then addTables key position members else addTable key position members
    let root ← underHeader add path root
    addSections root part.2
termination_by statements => statements.length
decreasing_by
  · simp
  · have := length_takeMembers rest
    simp only [List.length_cons]
    omega

/-- The root table of a document, unless two of its lines contradict each other. -/
def ofStatements? (statements : List Statement) : Option Entries :=
  addSections [] statements

end KernelCache.Toml

/-! ## Reading TOML documents -/

namespace KernelCache.Toml

/-- Values nest less deeply than this. -/
def depthLimit : Nat := 80

namespace Scan

open KernelCache.Scan

/-- A character of a bare key. -/
def isBare (char : Char) : Bool :=
  ('a' ≤ char && char ≤ 'z') || ('A' ≤ char && char ≤ 'Z') || isDigit char
    || char == '-' || char == '_'

/-- One name of a key. -/
def simpleKey : Scan Key := do
  let start ← position
  let name ← basicString <|> literalString <|> (String.ofList <$> span1 isBare)
  return ⟨name, start⟩

/-- A key: the names before the last dot, and the last name. -/
def dottedKey : Scan (List Key × Key) := do
  let start ← position
  blanks
  let first ← simpleKey
  blanks
  let others ← many (do char '.'; blanks; let key ← simpleKey; blanks; return key)
  let names := first :: others
  if names.length < depthLimit then return (names.dropLast, names.getLastD first)
  else stopAt start false

/-- A key and its value, given the scan of a value and of what closes it. -/
def keyed (value : Scan Item) (close : Scan Unit) : Scan (List Key × Key × Item) := do
  let (path, key) ← dottedKey
  committed do
    char '='
    blanks
    let item ← value
    close
    return (path, key, item)

/-- The members between braces as a table, unless they contradict each other. -/
def inlineTable? (members : List (List Key × Key × Item)) : Option Value :=
  let insert (entries : Entries) (member : List Key × Key × Item) : Option Entries :=
    insertDotted .dottedInline member.2.1 member.2.2 member.1 none entries
  (members.foldlM insert []).map (.table .inline)

/-- A value that holds no other value. -/
def atom : Scan Value :=
  (.string <$> anyString)
    <|> (do text "true".toList; return .boolean true)
    <|> (do text "false".toList; return .boolean false)
    <|> (do date; return .date)
    <|> (.float <$> finiteFloat)
    <|> (.float <$> specialFloat)
    <|> (.integer <$> integer)

/-- The values between brackets, given the scan of a value. -/
def bracketed (value : Scan Item) : Scan Value := do
  let spaced : Scan Item := do
    gap
    let item ← value
    gap
    return item
  char '['
  committed do
    gap
    let first ← optional spaced
    let others ← match first with
      | none => pure []
      | some _ => many (do char ','; spaced)
    if first.isSome then discard (optional (char ','))
    gap
    char ']'
    return .array (first.toList ++ others)

/-- The members between braces, given the scan of a value. -/
def braced (value : Scan Item) : Scan Value := do
  char '\x7b'
  committed do
    let start ← position
    let first ← optional (keyed value blanks)
    let others ← match first with
      | none => pure []
      | some _ => many (do char ','; keyed value blanks)
    blanks
    match inlineTable? (first.toList ++ others) with
    | some table => do
      char '\x7d'
      return table
    | none => stopAt start true

/-- A value, given how many brackets may stand inside each other in it. -/
def value (depth : Nat) : Scan Item := do
  let start ← position
  let found ← match ← peek?, depth with
    | some '[', 0 | some '\x7b', 0 => stopAt start true
    | some '[', depth + 1 => bracketed (value depth)
    | some '\x7b', depth + 1 => braced (value depth)
    | _, _ => atom
  return (some start, found)
termination_by structural depth

/-- A value inside a line. -/
def lineValue : Scan Item := value (depthLimit - 1)

/-- A header between brackets. -/
def header : Scan Statement := do
  let start ← position
  let rest := (← get).rest
  if rest.length < 2 then failure
  let doubled ← looksAt ['[', '[']
  skip (if doubled then 2 else 1)
  let (path, key) ← dottedKey
  text (if doubled then [']', ']'] else [']'])
  lineEnd
  return .header doubled path key start

/-- One line of a document behind its first blanks; empty lines and comments say nothing. -/
def line : Scan (Option Statement) := do
  let start ← position
  match ← peek? with
  | some '[' => some <$> header
  | some '#' => do
    lineEnd
    return none
  | some '\n' | some '\r' => (do newline; return none) <|> stopAt start true
  | _ => do
    let (path, key, item) ← keyed lineValue lineEnd
    return some (.member path key item)

/-- The statements of at most the given number of lines, and where they stop short of the end. -/
def lines : Nat → Cursor → List Statement × Option Nat
  | 0, cursor => ([], some cursor.offset)
  | fuel + 1, cursor =>
    match (do blanks; get : Scan Cursor).run cursor with
    | .error stop => ([], some stop.offset)
    | .ok (cursor, _) =>
      if cursor.rest.isEmpty then ([], none)
      else
        match line.run cursor with
        | .error stop => ([], some stop.offset)
        | .ok (statement?, after) =>
          let (others, fault?) := lines fuel after
          (statement?.toList ++ others, fault?)

/-- The statements of a document behind an optional byte order mark. -/
def document (source : List Char) : List Statement × Option Nat :=
  match source with
  | [] => ([], none)
  | first :: rest =>
    let start : Cursor := if first.toNat = 0xFEFF then ⟨1, rest⟩ else ⟨0, source⟩
    lines (source.length + 1) start

end Scan

/-- The first statement that contradicts the ones before it. -/
def firstContradiction? (statements : List Statement) : Option Statement :=
  ((List.range statements.length).find? fun count =>
    (ofStatements? (statements.take (count + 1))).isNone).bind (statements[·]?)

/-- The root table of a document, or the character at which the text turns out to be none. -/
def parse (source : String) : Except Nat Entries :=
  let (statements, fault?) := Scan.document source.toList
  match ofStatements? statements, fault? with
  | some entries, none => .ok entries
  | some _, some offset => .error offset
  | none, _ => .error (((firstContradiction? statements).map (·.position)).getD 0)

end KernelCache.Toml
