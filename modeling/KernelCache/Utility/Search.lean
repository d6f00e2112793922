import KernelCache.Text.Regex
import KernelCache.Utility.Copying
import KernelCache.Utility.Option

/-
**Searching files for lines.**

`Search.grep` writes the lines that match one of its patterns, or says how many there are and in
which files.
-/

namespace KernelCache.Search

open Host Program
open Text (Regex)

/-- What is searched for, and what is written. -/
structure Query where
  regexes : List Regex
  folded : Bool := false
  inverted : Bool := false
  words : Bool := false
  whole : Bool := false
  /-- Only the number of lines is written. -/
  counts : Bool := false
  quiet : Bool := false
  /-- Only the names of files are written: those in which lines were found, or the others. -/
  names? : Option Bool := none
  numbers : Bool := false
  /-- Whether the place of each line in its file is written. -/
  offsets : Bool := false
  onlyParts : Bool := false
  withNames : Bool := false
  silent : Bool := false
  asText : Bool := false
  limit? : Option Nat := none
  before : Nat := 0
  after : Nat := 0
  grouped : Bool := false
  mark : UInt8 := 0x0A
  /-- What the input is called. -/
  inputName : List Char := "(standard input)".toList
  /-- Whether a NUL ends the names of files. -/
  nulls : Bool := false

/-! ### Matching lines -/

/-- The ends of matches from a position on that are as they have to be, the farthest first. -/
def endsAt (query : Query) (subject : Regex.Subject) (regex : Regex) (position : Nat) : List Nat :=
  let ends := (Regex.steps regex.looksBack subject regex { position }).map (·.position)
  let ends := if query.whole then
      if position = 0 then ends.filter (· == subject.text.size) else []
    else ends
  if query.words then
    if subject.wordBefore position then []
    else ends.filter fun last => !subject.wordBehind last
  else ends

/-- The first match from one of so many positions on: where it starts and where it ends. -/
def findFrom (query : Query) (subject : Regex.Subject) : Nat → Nat → Option (Nat × Nat)
  | 0, _ => none
  | count + 1, position =>
    let ends := query.regexes.filterMap fun regex => (endsAt query subject regex position).head?
    match ends with
    | [] => findFrom query subject count (position + 1)
    | first :: rest => some (position, rest.foldl max first)

/-- Where a line matches, behind a position. -/
def find (query : Query) (subject : Regex.Subject) (position : Nat) : Option (Nat × Nat) :=
  findFrom query subject (subject.text.size + 1 - position) position

/-- The parts of a line that match and are not empty, each with where it starts. -/
def parts (query : Query) (subject : Regex.Subject) : Nat → Nat → List (Nat × List Char)
  | 0, _ => []
  | fuel + 1, position =>
    match find query subject position with
    | none => []
    | some (first, last) =>
      if first = last then parts query subject fuel (last + 1)
      else (first, (subject.text.extract first last).toList) :: parts query subject fuel last

/-- A line to be matched. -/
def subjectOf (query : Query) (line : List Char) : Regex.Subject :=
  { text := line.toArray, folded := query.folded }

/-! ### Files -/

/-- What was found in a file. -/
structure Findings where
  /-- Lines with their numbers, where they start, and whether they were found, or stand around one
  that was. -/
  lines : List (Nat × Nat × List Char × Bool) := []
  count : Nat := 0

/-- What is found in lines, up to the limit. -/
def findings (query : Query) (lines : List (List Char)) : Findings :=
  let selected := lines.map fun line =>
    (find query (subjectOf query line) 0).isSome != query.inverted
  let starts := (lines.foldl (fun (starts, next) line => (next :: starts, next + line.length + 1))
    (([] : List Nat), 0)).1.reverse
  let indexed := (List.range lines.length).zip (starts.zip (lines.zip selected))
  let chosen := indexed.filter fun entry => entry.2.2.2
  let chosen := match query.limit? with
    | some limit => chosen.take limit
    | none => chosen
  let found := chosen.map (·.1)
  let last := match query.limit? with
    | some _ => (found.getLast?.map (· + query.after)).getD 0
    | none => lines.length
  let shown :=
    if query.before = 0 ∧ query.after = 0 then
      chosen.map fun (index, start, line, _) => (index + 1, start, line, true)
    else
      indexed.filterMap fun (index, start, line, _) =>
        if found.contains index then some (index + 1, start, line, true)
        else if index ≤ last ∧ found.any fun place =>
            place ≤ index + query.before && index ≤ place + query.after then
          some (index + 1, start, line, false)
        else none
  { lines := shown, count := found.length }

/-- Writes what was found in a file. -/
def report (query : Query) (name : List Char) (found : Findings) (binary : Bool) :
    HostM Unit := do
  if query.quiet then return ()
  match query.names? with
  | some wanted =>
    if (found.count != 0) = wanted then
      say (Bytes.ofChars (name ++ [if query.nulls then '\x00' else '\n']))
  | none =>
    let front (sign : Char) : List Char :=
      if !query.withNames then [] else name ++ [if query.nulls then '\x00' else sign]
    if query.counts then sayLine (front ':' ++ decimal found.count)
    else if binary ∧ found.count ≠ 0 then
      complain (name ++ ": binary file matches".toList)
    else
      let pieces := found.lines.foldl (fun (pieces, last) (number, place, line, selected) =>
        let sign := if selected then ':' else '-'
        let start := front sign ++ if query.numbers then decimal number ++ [sign] else []
        let gap := if query.grouped ∧ last ≠ 0 ∧ last + 1 < number then ["--\n".toList] else []
        let texts := if !query.onlyParts then [(0, line)]
          else if !selected ∨ query.inverted then []
          else parts query (subjectOf query line) (line.length + 1) 0
        let texts := texts.map fun (inside, text) =>
          let offset := if query.offsets then decimal (place + inside) ++ [sign] else []
          start ++ offset ++ text ++ [Char.ofNat query.mark.toNat]
        (texts.reverse ++ gap ++ pieces, number)) (([] : List (List Char)), 0)
      say (Bytes.ofChars pieces.1.reverse.flatten)

/-- Searches one operand: how many lines were found, or none when it cannot be read. -/
def searchOperand (query : Query) (operand : List Char) : HostM (Option Nat) := do
  let name := if operand = ['-'] then query.inputName else operand
  let outcome ← onOperand operand fun descriptor => do
    let host ← get
    let streamOf (number : Nat) : Option Nat :=
      match host.opening? number with
      | some (_, { stream := .file file, .. }) => some file
      | _ => none
    let isOutput := (streamOf 1).isSome && streamOf 1 == streamOf descriptor
    if isOutput ∧ !query.quiet ∧ query.names?.isNone ∧ query.limit?.all (1 < ·) then
      return none
    else return some (← available descriptor none)
  match outcome with
  | .ok none => do
    complain (name ++ ": input file is also the output".toList)
    return none
  | .error fault | .ok (some (.error fault)) => do
    if !query.silent then complain (operand ++ ": ".toList ++ fault.plain.toList)
    return none
  | .ok (some (.ok (.endless, _))) => throw .endless
  | .ok (some (.ok (.octets bytes, held?))) => do
    let lines := linesOf bytes query.mark
    let binary := !query.asText && query.mark != 0 && bytes.contains 0
    let found := findings query lines
    let enough := (query.quiet || query.names?.isSome) && found.count != 0
      || query.limit?.any (· ≤ found.count)
    if let some pipe := held? then
      if !enough then
        report query name (findings query lines.dropLast) binary
        throw (.starved pipe)
    report query name found binary
    return some found.count

/-- The files under a directory. -/
def filesUnder : Nat → List Char → HostM (List (List Char))
  | 0, _ => return []
  | depth + 1, path => do
    match ← Copying.linkStatusOf? path with
    | .ok (_, .directory) => do
      let mut found : List (List (List Char)) := []
      for name in ← Copying.namesIn path do
        found := (← filesUnder depth (Copying.under path name)) :: found
      return found.reverse.flatten
    | .ok (_, .link _) => return []
    | _ => return [path]

/-- Whether the last name of a path matches one of some patterns with stars. -/
def fitsName (patterns : List (List Char)) (path : List Char) : Bool :=
  patterns.any fun pattern =>
    let source := pattern.flatMap fun char =>
      if char = '*' then ['.', '*'] else if char = '?' then ['.']
      else if ['.', '\\', '$', '^'].contains char then ['\\', char] else [char]
    match Regex.read { extended := false } ('^' :: source ++ ['$']) with
    | .ok regex => (regex.search { text := (Copying.baseName path).toArray }).isSome
    | .error _ => false

/-- How patterns are written. -/
inductive Style where
  | basic
  | extended
  | fixed
  deriving DecidableEq

/-- The expression of one pattern. -/
def regexOf (style : Style) (pattern : List Char) : Except String Regex :=
  match style with
  | .fixed => .ok (pattern.foldr (fun char rest => .both (.literal char) rest) .empty)
  | .basic => Regex.read { extended := false } pattern
  | .extended => Regex.read { extended := true } pattern

/-- The options of a search. -/
def grammar : Grammar :=
  .of "EFGPivycnoqslLrRHhwxe:f:m:A:B:C:abzZUT" [("extended-regexp", 'E'), ("fixed-strings", 'F'),
    ("basic-regexp", 'G'), ("perl-regexp", 'P'), ("ignore-case", 'i'), ("invert-match", 'v'),
    ("count", 'c'), ("line-number", 'n'), ("only-matching", 'o'), ("quiet", 'q'), ("silent", 'q'),
    ("no-messages", 's'), ("files-with-matches", 'l'), ("files-without-match", 'L'),
    ("recursive", 'r'), ("dereference-recursive", 'R'), ("with-filename", 'H'),
    ("no-filename", 'h'), ("word-regexp", 'w'), ("line-regexp", 'x'), ("regexp=", 'e'),
    ("file=", 'f'), ("max-count=", 'm'), ("after-context=", 'A'), ("before-context=", 'B'),
    ("context=", 'C'), ("text", 'a'), ("null-data", 'z'), ("color?", 'K'), ("colour?", 'K'),
    ("include=", 'I'), ("exclude=", 'X'), ("line-buffered", 'u'), ("binary-files=", 'Y'),
    ("byte-offset", 'b'), ("null", 'Z'), ("label=", 'N')]

/-- Writes how the program is used. -/
def usage : HostM Nat := do
  complainLine "Usage: grep [OPTION]... PATTERNS [FILE]...".toList
  hint
  return 2

/-- Searches files, with patterns as they are usually written in a style. -/
def search (usual : Style) : Tool := fun arguments => do
  if let .error text := grammar.read arguments then
    complain text
    return ← usage
  arguments |> withOptions grammar 2 fun options => do
    let style := match options.last? "EFGP" with
      | some 'E' | some 'P' => Style.extended
      | some 'F' => .fixed
      | some _ => .basic
      | none => usual
    let mut patterns := (options.values 'e').flatMap fun text => text.splitOn '\n'
    for file in options.values 'f' do
      match ← contentsOf file with
      | .ok bytes => patterns := patterns ++ linesOf bytes
      | .error fault => do
        complain (file ++ ": ".toList ++ fault.plain.toList)
        return 2
    let given := options.has 'e' || options.has 'f'
    let operands := if given then options.operands else options.operands.drop 1
    if !given then
      match options.operands with
      | [] => return ← usage
      | pattern :: _ => patterns := pattern.splitOn '\n'
    match patterns.mapM (regexOf style) with
    | .error text => do
      complain text.toList
      return 2
    | .ok regexes => do
      let number? (letter : Char) : Option Nat := (options.value? letter).bind count?
      for letter in ['A', 'B', 'C', 'm'] do
        if options.has letter ∧ (number? letter).isNone then
          let what := if letter = 'm' then "invalid max count" else
            String.ofList ((options.value? letter).getD []) ++ ": invalid context length argument"
          complain what.toList
          return 2
      let recursive := options.has 'r' || options.has 'R'
      let around := number? 'C'
      let before := ((number? 'B').or around).getD 0
      let after := ((number? 'A').or around).getD 0
      let names? := (options.last? "lL").map (· == 'l')
      let withNames := match options.last? "Hh" with
        | some letter => letter == 'H'
        | none => recursive || 1 < operands.length
      let query : Query := {
        regexes
        folded := options.has 'i' || options.has 'y'
        inverted := options.has 'v'
        words := options.has 'w'
        whole := options.has 'x'
        counts := options.has 'c'
        quiet := options.has 'q'
        names?
        numbers := options.has 'n'
        onlyParts := options.has 'o'
        offsets := options.has 'b'
        inputName := (options.value? 'N').getD "(standard input)".toList
        nulls := options.has 'Z'
        withNames
        silent := options.has 's'
        asText := options.has 'a'
        limit? := number? 'm'
        before
        after
        grouped := before != 0 || after != 0
        mark := if options.has 'z' then 0 else 0x0A }
      let starts := if recursive ∧ operands.isEmpty then [['.']] else orInput operands
      let mut any := false
      let mut done := true
      for start in starts do
        let paths ← if recursive then filesUnder Copying.depth start else pure [start]
        let paths := if operands.isEmpty ∧ recursive then paths.map (·.drop 2) else paths
        let included := options.values 'I'
        let paths := paths.filter fun path =>
          (included.isEmpty || fitsName included path) && !fitsName (options.values 'X') path
        for path in paths do
          match ← searchOperand query path with
          | some count =>
            if count ≠ 0 then
              any := true
              if query.quiet then return 0
          | none => done := false
      return if !done then 2 else if any then 0 else 1

/-- Searches files for expressions. -/
def grep : Tool := search .basic

/-- Searches files for extended expressions. -/
def egrep : Tool := search .extended

/-- Searches files for plain text. -/
def fgrep : Tool := search .fixed

end KernelCache.Search
