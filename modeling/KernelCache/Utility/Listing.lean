import KernelCache.Utility.FileTools
import KernelCache.Utility.Format
import KernelCache.Utility.Option
import KernelCache.Utility.Sorting

/-
**Programs that list files.**

`Listing.ls` writes the names in directories, `Listing.stat` writes facts about files in a format.
-/

namespace KernelCache.Listing

open Host Program Copying

/-! ### Facts about entries -/

/-- An entry with the name under which it is listed. -/
structure Entry where
  name : List Char
  place : Place
  node : Node
  attributes : Attributes
  /-- The size in octets. -/
  size : Nat
  /-- How many names there are for it. -/
  names : Nat
  /-- The number that it is known by. -/
  number : Nat

/-- The facts about an entry. -/
def entryOf (files : Files) (name : List Char) (place : Place) (node : Node) : Entry :=
  let attributes := files.attributesOf place node
  let size := match node with
    | .directory => Files.pageSize
    | .link target => target.length
    | .file _ => (files.octets node).length
    | _ => 0
  let names := match node with
    | .directory =>
      ((files.children place).filter fun entry => entry.2 == .directory).length + 2
    | .file _ => (files.entries.filter fun entry => entry.2 == node).length
    | _ => 1
  let number := match node with
    | .file number => 1000000 + number
    | _ => 2 + ((files.entries.findIdx? fun entry => entry.1 == place).getD 0)
  { name, place, node, attributes, size, names, number }

/-- The letter of the kind of an entry. -/
def kindLetter (node : Node) : Char :=
  match node with
  | .directory => 'd'
  | .link _ => 'l'
  | .device _ => 'c'
  | _ => '-'

/-- When an entry was changed, in microseconds since the beginning of 1970. -/
def changedAt (entry : Entry) : Int := entry.attributes.modified + Calendar.start * 1000000

/-- The blocks of 512 octets that an entry takes. -/
def blocksOf (entry : Entry) : Nat :=
  match entry.node with
  | .directory => 8
  | .file _ => (entry.size + 4095) / 4096 * 8
  | _ => 0

/-! ### Lists of names -/

/-- How names are listed. -/
structure Setting where
  all : Bool := false
  almost : Bool := false
  directories : Bool := false
  marks : Bool := false
  slashes : Bool := false
  long : Bool := false
  recursive : Bool := false
  reversed : Bool := false
  follows : Bool := false
  sizes : Bool := false
  numbers : Bool := false
  quotes : Bool := false
  human : Bool := false
  withOwner : Bool := true
  withGroup : Bool := true
  /-- Whether all names stand in one line, with commas. -/
  commas : Bool := false
  /-- Whether names stand side by side, and then whether they are in order across. -/
  columns? : Option Bool := none
  /-- Whether a backslash is in front of what is not plain. -/
  escapes : Bool := false
  /-- How times are written; by default this depends on how long ago they are. -/
  timeForm? : Option (List Char) := none
  /-- By what entries are ordered: their name, time, size, version, ending, or nothing. -/
  order : Char := 'n'

/-- The mark behind a name for its kind. -/
def markOf (setting : Setting) (entry : Entry) : List Char :=
  match entry.node with
  | .directory => if setting.marks || setting.slashes then ['/'] else []
  | .link _ => if setting.marks ∧ !setting.long then ['@'] else []
  | _ => if setting.marks ∧ entry.attributes.isExecutable then ['*'] else []

/-- A size in a form for people. -/
def humanSize (size : Nat) : List Char :=
  let rec scaled (fuel : Nat) (unit : Nat) (letters : List Char) : List Char :=
    match fuel, letters with
    | 0, _ | _, [] => decimal size
    | fuel + 1, letter :: rest =>
      if size < 1024 * unit then
        let tenths := (size * 10 + unit - 1) / unit
        if tenths < 100 then decimal (tenths / 10) ++ '.' :: decimal (tenths % 10) ++ [letter]
        else decimal ((size + unit - 1) / unit) ++ [letter]
      else scaled fuel (unit * 1024) rest
  if size < 1024 then decimal size else scaled 6 1024 "KMGTPE".toList

/-- A character of a name with a backslash in front of it where it is not plain. -/
def escapedChar (char : Char) : List Char :=
  match char with
  | ' ' => "\\ ".toList
  | '\\' => "\\\\".toList
  | '\n' => "\\n".toList
  | '\t' => "\\t".toList
  | char =>
    if ' ' < char ∧ char ≤ '~' then [char]
    else
      let digits := Nat.toDigits 8 char.toNat
      '\\' :: List.replicate (3 - digits.length) '0' ++ digits

/-- A name as it is listed. -/
def nameOf (setting : Setting) (entry : Entry) : List Char :=
  let name := if setting.quotes then '"' :: entry.name ++ ['"']
    else if setting.escapes then entry.name.flatMap escapedChar
    else entry.name
  let target := match entry.node with
    | .link target => if setting.long then " -> ".toList ++ Bytes.toChars target else []
    | _ => []
  name ++ markOf setting entry ++ target

/-- Entries in the order of a setting. -/
def ordered (setting : Setting) (entries : List Entry) : List Entry :=
  let byName (first second : Entry) : Ordering := Sorting.compareTexts first.name second.name
  let ending (entry : Entry) : List Char :=
    let reversed := entry.name.reverse
    if reversed.contains '.' then (reversed.takeWhile (· != '.')).reverse else []
  let compared (first second : Entry) : Ordering :=
    match setting.order with
    | 't' =>
      (compare second.attributes.modified first.attributes.modified).then (byName first second)
    | 'S' => (compare second.size first.size).then (byName first second)
    | 'v' =>
      (Sorting.compareVersions (first.name.length + second.name.length + 1) first.name
        second.name).then (byName first second)
    | 'X' => (Sorting.compareTexts (ending first) (ending second)).then (byName first second)
    | 'U' => .lt
    | _ => byName first second
  let sorted := if setting.order = 'U' then entries
    else entries.mergeSort fun first second => compared first second != .gt
  if setting.reversed then sorted.reverse else sorted

/-- So long is half a year, in microseconds. -/
def halfYear : Int := 15778476000000

/-- When an entry was changed, as it is listed at a time. -/
def shownTime (setting : Setting) (now : Int) (entry : Entry) : List Char :=
  let instant := Calendar.Instant.of (changedAt entry)
  match setting.timeForm? with
  | some form => instant.written form
  | none =>
    let isRecent := now - halfYear < changedAt entry ∧ changedAt entry ≤ now
    instant.written (if isRecent then "%b %e %H:%M" else "%b %e  %Y").toList

/-- Blanks from a column up to another one, as far as possible in stops. -/
def gapBetween : Nat → Nat → Nat → List Char
  | 0, _, _ => []
  | fuel + 1, start, stop =>
    if stop ≤ start then []
    else if (start + 1) / 8 < stop / 8 then
      '\t' :: gapBetween fuel (start + 8 - start % 8) stop
    else ' ' :: gapBetween fuel (start + 1) stop

/-- Names in as many columns as a line holds, in order across or down. -/
def inColumns (across : Bool) (names : List (List Char)) : List (List Char) :=
  let count := names.length
  let column (columns rows index : Nat) : Nat := if across then index % columns else index / rows
  let rowsFor (columns : Nat) : Nat := (count + columns - 1) / max columns 1
  let indexed := (List.range count).zip names
  let widths (columns : Nat) : List Nat :=
    (List.range columns).map fun place =>
      let last := place + 1 = columns
      let inside := indexed.filter fun entry => column columns (rowsFor columns) entry.1 == place
      inside.foldl (fun width entry => max width (entry.2.length + if last then 0 else 2)) 0
  let fits (columns : Nat) : Bool := (widths columns).foldl (· + ·) 0 < 80
  let columns := (((List.range (min count 26)).map (· + 1)).reverse.find? fits).getD 1
  let rows := rowsFor columns
  let stops := widths columns
  (List.range rows).map fun row =>
    let cells := indexed.filter fun entry =>
      (if across then entry.1 / columns else entry.1 % rows) == row
    let (text, _, _) := cells.foldl (fun (text, place, start) (index, name) =>
      let gap := gapBetween 100 place start
      let width := (stops[column columns rows index]?).getD 0
      (text ++ gap ++ name, start + name.length, start + width)) (([] : List Char), 0, 0)
    text

/-- The lines that list entries at a time. -/
def lines (setting : Setting) (now : Int) (entries : List Entry) : List (List Char) :=
  let number (entry : Entry) : List Char := decimal entry.number
  let blocks (entry : Entry) : List Char := decimal (blocksOf entry / 2)
  let widest (text : Entry → List Char) : Nat :=
    entries.foldl (fun width entry => max width (text entry).length) 0
  let size (entry : Entry) : List Char :=
    if setting.human then humanSize entry.size else decimal entry.size
  let names (entry : Entry) : List Char := decimal entry.names
  let front (entry : Entry) : List Char :=
    (if setting.numbers then rightward (widest number) (number entry) ++ [' '] else [])
      ++ if setting.sizes then rightward (widest blocks) (blocks entry) ++ [' '] else []
  if setting.long then
    entries.map fun entry =>
      let mode := Mode.rights (kindLetter entry.node) entry.attributes.mode
      let owners := (if setting.withOwner then "root ".toList else [])
        ++ if setting.withGroup then "root ".toList else []
      let time := shownTime setting now entry
      front entry ++ mode ++ ' ' :: rightward (widest names) (names entry) ++ ' ' :: owners
        ++ rightward (widest size) (size entry) ++ ' ' :: time ++ ' ' :: nameOf setting entry
  else if setting.commas then
    if entries.isEmpty then [] else [", ".toList.intercalate (entries.map (nameOf setting))]
  else
    let texts := entries.map fun entry => front entry ++ nameOf setting entry
    match setting.columns? with
    | some across => inColumns across texts
    | none => texts

/-- The entries in a directory that are listed. -/
def inside (files : Files) (setting : Setting) (place : Place) : List Entry :=
  let children := (files.children place).map fun (inner, node) =>
    entryOf files (Bytes.toChars (inner.getLastD [])) inner node
  let children := if setting.all || setting.almost then children
    else children.filter fun entry => entry.name.head? != some '.'
  if setting.all then
    entryOf files ['.'] place .directory :: entryOf files ['.', '.'] place.dropLast .directory
      :: children
  else children

/-- The time, in microseconds since the beginning of 1970. -/
def now : HostM Int := do
  return (← get).files.clock + Calendar.start * 1000000

/-- Writes what is in a directory, and then what is in the directories in it. -/
def listDirectory (setting : Setting) : Nat → Bool → Bool → List Char → Place → HostM Unit
  | 0, _, _, _, _ => return ()
  | fuel + 1, titled, first, path, place => do
    let entries ← ask fun files _ => ordered setting (inside files setting place)
    if titled then
      sayLines ((if first then [] else [[]]) ++ [path ++ [':']])
    if setting.long ∨ setting.sizes then
      let total := entries.foldl (fun total entry => total + blocksOf entry / 2) 0
      sayLine ("total ".toList ++ decimal total)
    sayLines (lines setting (← now) entries)
    if setting.recursive then
      for entry in entries do
        if entry.node = .directory ∧ entry.name ≠ ['.'] ∧ entry.name ≠ ['.', '.'] then
          listDirectory setting fuel true false (under path entry.name) entry.place

/-- The options of the program that lists directories. -/
def grammar : Grammar :=
  .of "1aAbBcCdfFgGhHiIklLmnNopqQrRsStT:uUvw:xXZ" [("all", 'a'), ("almost-all", 'A'),
    ("directory", 'd'), ("classify?", 'F'), ("human-readable", 'h'), ("inode", 'i'),
    ("dereference", 'L'), ("numeric-uid-gid", 'n'), ("reverse", 'r'), ("recursive", 'R'),
    ("size", 's'), ("quote-name", 'Q'), ("literal", 'N'), ("no-group", 'G'), ("color?", 'K'),
    ("sort=", 'O'), ("time-style=", 'Y'), ("full-time", 'y'), ("format=", 'W'),
    ("group-directories-first", 'D'), ("file-type", 'p'), ("indicator-style=", 'J'), ("time=", 'E'),
    ("hide=", 'M'), ("ignore=", 'I'), ("width=", 'w')]

/-- Lists files and what is in directories. -/
def ls : Tool := withOptions grammar 2 fun options => do
  let has := options.has
  let order := match options.last? "tSvXUfO" with
    | some 'f' => 'U'
    | some 'O' =>
      match String.ofList ((options.value? 'O').getD []) with
      | "time" => 't'
      | "size" => 'S'
      | "version" => 'v'
      | "extension" => 'X'
      | "none" => 'U'
      | _ => 'n'
    | some letter => letter
    | none => 'n'
  let setting : Setting := {
    all := has 'a' || has 'f'
    almost := has 'A'
    directories := has 'd'
    marks := has 'F'
    slashes := has 'p'
    long := has 'l' || has 'g' || has 'o' || has 'n' || has 'y'
    recursive := has 'R' && !has 'd'
    reversed := has 'r'
    follows := has 'L'
    sizes := has 's'
    numbers := has 'i'
    quotes := has 'Q'
    human := has 'h'
    withOwner := !has 'g'
    withGroup := !has 'o' && !has 'G'
    commas := has 'm'
    columns? := match options.last? "1lCxm" with
      | some 'C' => some false
      | some 'x' => some true
      | _ => none
    escapes := has 'b'
    timeForm? := if has 'y' then some "%Y-%m-%d %H:%M:%S.%N %z".toList
      else match options.value? 'Y' with
        | some ('+' :: form) => some form
        | some text =>
          match String.ofList text with
          | "long-iso" => some "%Y-%m-%d %H:%M".toList
          | "full-iso" => some "%Y-%m-%d %H:%M:%S.%N %z".toList
          | _ => none
        | none => none
    order }
  let operands := if options.operands.isEmpty then [['.']] else options.operands
  let plainly : Bool := setting.long || setting.directories || setting.marks
  let mut done := true
  let mut singles : List Entry := []
  let mut directories : List Entry := []
  for operand in operands do
    let (found, named) ← ask fun files base =>
      (files.status base (pathOf operand), files.linkStatus base (pathOf operand))
    let chosen := match found, named with
      | .ok (place, .directory), .ok (_, .link _) =>
        if plainly ∧ !setting.follows then named else .ok (place, .directory)
      | .ok _, .ok (_, .link _) => if setting.follows then found else named
      | .error _, .ok _ => named
      | found, _ => found
    match chosen with
    | .error fault => do
      complain ("cannot access ".toList ++ inQuotes operand ++ ": ".toList ++ fault.plain.toList)
      done := false
    | .ok (place, node) => do
      let entry ← ask fun files _ => entryOf files operand place node
      if node = .directory ∧ !setting.directories then directories := directories ++ [entry]
      else singles := singles ++ [entry]
  sayLines (lines setting (← now) (ordered setting singles))
  let titled := 1 < operands.length || setting.recursive
  let mut first := singles.isEmpty
  for entry in ordered setting directories do
    listDirectory setting depth titled first entry.name entry.place
    first := false
  return if done then 0 else 2

/-! ### Facts in a format -/

/-- What kind of file an entry is, in words. -/
def kindText (entry : Entry) : String :=
  match entry.node with
  | .directory => "directory"
  | .link _ => "symbolic link"
  | .device _ => "character special file"
  | _ => if entry.size = 0 then "regular empty file" else "regular file"

/-- The bits of the kind of an entry in its mode. -/
def kindBits (node : Node) : Nat :=
  match node with
  | .directory => 0o040000
  | .link _ => 0o120000
  | .device _ => 0o020000
  | _ => 0o100000

/-- The text that a letter stands for, for a file. -/
def fact (entry : Entry) (letter : Char) : List Char :=
  let time (format : String) : List Char :=
    (Calendar.Instant.of (changedAt entry)).written format.toList
  match letter with
  | 'a' => Nat.toDigits 8 entry.attributes.mode
  | 'A' => Mode.rights (kindLetter entry.node) entry.attributes.mode
  | 'b' => decimal (blocksOf entry)
  | 'B' => "512".toList
  | 'f' => Nat.toDigits 16 (kindBits entry.node + entry.attributes.mode)
  | 'F' => (kindText entry).toList
  | 'g' | 'u' | 't' | 'T' | 'C' => ['0']
  | 'G' | 'U' => "root".toList
  | 'h' => decimal entry.names
  | 'i' => decimal entry.number
  | 'n' => entry.name
  | 'N' =>
    let target := match entry.node with
      | .link target => " -> ".toList ++ inQuotes (Bytes.toChars target)
      | _ => []
    inQuotes entry.name ++ target
  | 'o' => "4096".toList
  | 's' => decimal entry.size
  | 'W' => ['0']
  | 'w' => ['-']
  | 'X' | 'Y' | 'Z' => time "%s"
  | 'x' | 'y' | 'z' => time "%Y-%m-%d %H:%M:%S.%N %z"
  | 'm' => ['/']
  | 'd' | 'D' => "1".toList
  | '%' => ['%']
  | letter => ['?', letter]

/-- A format with the facts about a file in it. -/
def filledIn (entry : Entry) (escapes : Bool) : Nat → List Char → List Char
  | 0, _ => []
  | _ + 1, [] => []
  | fuel + 1, '%' :: rest =>
    let extent := rest.takeWhile fun char => "-+ #0'.".toList.contains char || char.isDigit
    let after := rest.drop extent.length
    match Text.Directive.read? (extent ++ ['s']), after with
    | some (directive, _), letter :: behind =>
      let directive := { directive with letter }
      let layout := directive.layout 0 0
      layout.fill (fact entry directive.letter != [] && directive.letter != 'n') []
          (match layout.precision? with
            | some limit => (fact entry directive.letter).take limit
            | none => fact entry directive.letter)
        ++ filledIn entry escapes fuel behind
    | _, _ => ['%']
  | fuel + 1, '\\' :: rest =>
    if escapes then
      let found := Format.escape .generous .format rest
      found.chars ++ filledIn entry escapes fuel found.rest
    else '\\' :: filledIn entry escapes fuel rest
  | fuel + 1, char :: rest => char :: filledIn entry escapes fuel rest

/-- The usual form of the facts about a file. -/
def usualForm : List Char :=
  ("  File: %N\n  Size: %-10s\tBlocks: %-10b IO Block: %-6o %F\nDevice: 0,1\tInode: %-11i "
    ++ " Links: %h\nAccess: (%04a/%10.10A)  Uid: (%5u/%8U)   Gid: (%5g/%8G)\nAccess: %x\n"
    ++ "Modify: %y\nChange: %z\n Birth: %w").toList

/-- Writes facts about files. -/
def stat : Tool :=
  let grammar : Grammar :=
    .of "c:fLt" [("format=", 'c'), ("printf=", 'p'), ("dereference", 'L'), ("file-system", 'f'),
      ("terse", 't'), ("cached=", 'z')]
  withOptions grammar 1 fun options => do
    if options.operands.isEmpty then return ← lacking 1
    return statusOf <| ← forAll options.operands fun operand => do
      let found ← ask fun files base =>
        if options.has 'L' then files.status base (pathOf operand)
        else files.linkStatus base (pathOf operand)
      match found with
      | .error fault => do
        complain ("cannot statx ".toList ++ inQuotes operand ++ ": ".toList ++ fault.plain.toList)
        return false
      | .ok (place, node) => do
        let entry ← ask fun files _ => entryOf files operand place node
        match options.last? "cp" with
        | some 'p' =>
          let format := (options.value? 'p').getD []
          say (Bytes.ofChars (filledIn entry true (format.length + 1) format))
        | some _ =>
          let format := (options.value? 'c').getD []
          sayLine (filledIn entry false (format.length + 1) format)
        | none => sayLine (filledIn entry false (usualForm.length + 1) usualForm)
        return true

end KernelCache.Listing
