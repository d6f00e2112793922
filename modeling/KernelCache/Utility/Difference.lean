import KernelCache.Text.Calendar
import KernelCache.Utility.Copying
import KernelCache.Utility.Option

/-
**The differences between two files.**

`Difference.diff` writes what has to be changed in one file so that it becomes another one, as
short as it goes.
-/

namespace KernelCache.Difference

open Host Program

/-- A line that is kept, taken away, or put in. -/
inductive Edit where
  | keep (line : List Char)
  | drop (line : List Char)
  | add (line : List Char)
  deriving DecidableEq

/-- One more row of the table of the longest common lists: from the row below, for a line. -/
def row (line : List Char) (others : List (List Char)) (below : List Nat) : List Nat :=
  let pairs := others.zip (below.zip (below.drop 1))
  (pairs.reverse.foldl (fun row (other, here, next) =>
    (if line = other then next + 1 else max here (row.headD 0)) :: row) [0])

/-- The table of the lengths of the longest common lists of what is left of two lists, by rows. -/
def table (others : List (List Char)) : List (List Char) → List (List Nat)
  | [] => [List.replicate (others.length + 1) 0]
  | line :: rest =>
    let rows := table others rest
    row line others (rows.headD []) :: rows

/-- The edits that the table shows to be the fewest. -/
def edits : Nat → List (List Nat) → List (List Char) → List (List Char) → List Edit
  | 0, _, _, _ => []
  | _ + 1, _, [], others => others.map .add
  | _ + 1, _, lines, [] => lines.map .drop
  | fuel + 1, rows, line :: lines, other :: others =>
    let columns (rows : List (List Nat)) : List (List Nat) := rows.map (·.drop 1)
    if line = other then .keep line :: edits fuel (columns (rows.drop 1)) lines others
    else
      let down := ((rows[1]?).getD []).headD 0
      let right := (((rows[0]?).getD [])[1]?).getD 0
      if right ≤ down then .drop line :: edits fuel (rows.drop 1) lines (other :: others)
      else .add other :: edits fuel (columns rows) (line :: lines) others

/-- A group of changes: where it starts in both files, and the lines that go and come. -/
structure Group where
  first : Nat
  second : Nat
  gone : List (List Char)
  come : List (List Char)

/-- The groups of changes. -/
def groups (edits : List Edit) : List Group :=
  let (found, _, _, _) := edits.foldl (fun (found, first, second, inside) edit =>
    let current := match inside, found with
      | true, group :: _ => group
      | _, _ => { first, second, gone := [], come := [] }
    let others := if inside then found.drop 1 else found
    match edit with
    | .keep _ => (found, first + 1, second + 1, false)
    | .drop line => ({ current with gone := current.gone ++ [line] } :: others, first + 1, second, true)
    | .add line => ({ current with come := current.come ++ [line] } :: others, first, second + 1, true))
    (([] : List Group), 0, 0, false)
  found.reverse

/-- A range of lines as it is written. -/
def range (start count : Nat) : List Char :=
  if count = 0 then decimal start
  else if count = 1 then decimal (start + 1)
  else decimal (start + 1) ++ ',' :: decimal (start + count)

/-- The last line of a text that has no end there. -/
def unended (line : List Char) : List Char := line ++ "\n\\ No newline at end of file".toList

/-- The lines of a text for comparison; a missing end of the last one is part of it. -/
def comparable (bytes : Bytes) : List (List Char) :=
  let lines := linesOf bytes
  match bytes.getLast? with
  | some 0x0A | none => lines
  | some _ => lines.dropLast ++ (lines.getLast?.map unended).toList

/-- The groups in the usual form. -/
def normal (groups : List Group) : List (List Char) :=
  groups.flatMap fun group =>
    let letter := if group.gone.isEmpty then 'a' else if group.come.isEmpty then 'd' else 'c'
    (range group.first group.gone.length ++ letter :: range group.second group.come.length)
      :: group.gone.map ("< ".toList ++ ·)
      ++ (if letter = 'c' then ["---".toList] else [])
      ++ group.come.map ("> ".toList ++ ·)

/-- An edit with its number, and how many lines of both files stand in front of it. -/
structure Placed where
  index : Nat
  edit : Edit
  first : Nat
  second : Nat

/-- Whether a line is kept. -/
def Edit.isKept : Edit → Bool
  | .keep _ => true
  | _ => false

/-- Whether a line is in the first file. -/
def Edit.isOld : Edit → Bool
  | .add _ => false
  | _ => true

/-- Whether a line is in the second file. -/
def Edit.isNew : Edit → Bool
  | .drop _ => false
  | _ => true

/-- The line of an edit. -/
def Edit.line : Edit → List Char
  | .keep line | .drop line | .add line => line

/-- The edits in pieces, each with some kept lines around it. -/
def pieces (context : Nat) (edits : List Edit) : List (List Placed) :=
  let indexed := (List.range edits.length).zip edits
  let changed := (indexed.filter fun entry => !entry.2.isKept).map (·.1)
  let isShown (index : Nat) : Bool :=
    changed.any fun place => place ≤ index + context && index ≤ place + context
  let (placed, _, _) := indexed.foldl (fun (found, first, second) (index, edit) =>
    ({ index, edit, first, second } :: found, first + (if edit.isOld then 1 else 0),
      second + if edit.isNew then 1 else 0)) (([] : List Placed), 0, 0)
  let shown := placed.reverse.filter fun entry => isShown entry.index
  shown.splitBy fun first second => first.index + 1 == second.index

/-- The pieces with a sign in front of each line. -/
def unified (context : Nat) (edits : List Edit) : List (List Char) :=
  (pieces context edits).flatMap fun piece =>
    let gone := (piece.filter (·.edit.isOld)).length
    let come := (piece.filter (·.edit.isNew)).length
    let span (start count : Nat) : List Char :=
      if count = 1 then decimal (start + 1)
      else decimal (if count = 0 then start else start + 1) ++ ',' :: decimal count
    let first := (piece.head?.map (·.first)).getD 0
    let second := (piece.head?.map (·.second)).getD 0
    ("@@ -".toList ++ span first gone ++ " +".toList ++ span second come ++ " @@".toList)
      :: piece.map fun entry =>
        match entry.edit with
        | .keep line => ' ' :: line
        | .drop line => '-' :: line
        | .add line => '+' :: line

/-- The pieces as they are in one file and then as they are in the other one. -/
def contextual (context : Nat) (edits : List Edit) : List (List Char) :=
  (pieces context edits).flatMap fun piece =>
    let runs := piece.splitBy fun first second => first.edit.isKept == second.edit.isKept
    let side (counts : Edit → Bool) (sign : Char) : List (List Char) :=
      runs.flatMap fun run =>
        let both := run.any (fun entry => !entry.edit.isOld) && run.any fun entry => !entry.edit.isNew
        let inside := (run.map (·.edit)).filter counts
        inside.map fun edit =>
          if edit.isKept then ' ' :: ' ' :: edit.line
          else (if both then '!' else sign) :: ' ' :: edit.line
    let span (start count : Nat) : List Char :=
      if count ≤ 1 then decimal (start + count)
      else decimal (start + 1) ++ ',' :: decimal (start + count)
    let title (mark : String) (counts : Edit → Bool) (start : Nat) : List Char :=
      mark.toList ++ ' ' :: span start (piece.filter fun entry => counts entry.edit).length
        ++ ' ' :: (mark ++ mark.take 1).toList
    let shown (counts changes : Edit → Bool) (sign : Char) : List (List Char) :=
      if piece.any fun entry => changes entry.edit then side counts sign else []
    let first := (piece.head?.map (·.first)).getD 0
    let second := (piece.head?.map (·.second)).getD 0
    "***************".toList :: title "***" Edit.isOld first
      :: shown Edit.isOld (fun edit => !edit.isNew) '-'
      ++ title "---" Edit.isNew second :: shown Edit.isNew (fun edit => !edit.isOld) '+'

/-- The largest table that is made. -/
def tableLimit : Nat := 4000000

/-- The edits between two texts. -/
def between (first second : List (List Char)) : List Edit :=
  let same := ((first.zip second).takeWhile fun (one, other) => one == other).length
  let left := first.drop same
  let right := second.drop same
  let tail := ((left.reverse.zip right.reverse).takeWhile fun (one, other) => one == other).length
  let left := left.take (left.length - tail)
  let right := right.take (right.length - tail)
  let inner := if tableLimit < left.length * right.length then
      left.map Edit.drop ++ right.map .add
    else edits (left.length + right.length + 1) (table right left) left right
  (first.take same).map .keep ++ inner ++ (first.drop (first.length - tail)).map .keep

/-- How differences are written. -/
inductive Form where
  | normal
  | unified (context : Nat)
  | contextual (context : Nat)

/-- How files are compared. -/
structure Setting where
  form : Form := .normal
  /-- Only whether they differ is said. -/
  brief : Bool := false
  /-- Whether it is said that they are the same. -/
  reports : Bool := false
  folded : Bool := false
  withoutBlanks : Bool := false
  looseBlanks : Bool := false
  recursive : Bool := false
  /-- Whether a missing file counts as an empty one. -/
  newFiles : Bool := false
  labels : List (List Char) := []
  /-- The options as they were given. -/
  words : List (List Char) := []

/-- What counts of a line. -/
def Setting.counted (setting : Setting) (line : List Char) : List Char :=
  let line := if setting.folded then line.map Char.toLower else line
  if setting.withoutBlanks then line.filter fun char => !isSpace char
  else if setting.looseBlanks then
    let words := (line.map fun char => if isSpace char then ' ' else char).splitOn ' '
    [' '].intercalate ((words.take 1) ++ (words.drop 1).filter (· ≠ []))
  else line

/-- When a file was changed, as it stands behind its name. -/
def stampOf (path : List Char) : HostM (List Char) := do
  let host ← get
  let changed : Int := match host.files.status host.base (pathOf path) with
    | .ok (place, node) => (host.files.attributesOf place node).modified
    | .error _ => host.files.clock
  let instant := Calendar.Instant.of (changed + Calendar.start * 1000000)
  return '\t' :: instant.written "%Y-%m-%d %H:%M:%S.%N %z".toList

/-- Reads a file that is compared. -/
def contents? (setting : Setting) (path : List Char) : HostM (Option Bytes) := do
  match ← contentsOf path with
  | .ok bytes => return some bytes
  | .error fault =>
    if setting.newFiles ∧ fault = .notFound then return some []
    complain (path ++ ": ".toList ++ fault.plain.toList)
    return none

/-- Writes that two files are the same, or how they differ. -/
def pairText (front middle behind : String) (one other : List Char) : List Char :=
  front.toList ++ one ++ middle.toList ++ other ++ behind.toList

/-- Compares two files; the code is one when they differ. The options stand in front of what is
written when `titled`. -/
def compareFiles (setting : Setting) (titled : Bool) (one other : List Char) : HostM Nat := do
  let left? ← contents? setting one
  let right? ← contents? setting other
  match left?, right? with
  | some left, some right => do
    let loose := setting.folded || setting.withoutBlanks || setting.looseBlanks
    let lefts := comparable left
    let rights := comparable right
    let counted (lines : List (List Char)) : List (List Char) :=
      if loose then lines.map setting.counted else lines
    let isSame := if loose then counted lefts == counted rights else left == right
    if isSame then
      if setting.reports then sayLine (pairText "Files " " and " " are identical" one other)
      return 0
    else if setting.brief then
      sayLine (pairText "Files " " and " " differ" one other)
      return 1
    else if left.contains 0 ∨ right.contains 0 then
      sayLine (pairText "Binary files " " and " " differ" one other)
      return 2
    else
      if titled then
        sayLine ([' '].intercalate ("diff".toList :: setting.words ++ [one, other]))
      let found := between (counted lefts) (counted rights)
      let title (mark : String) (index : Nat) (path : List Char) : HostM (List Char) := do
        match setting.labels[index]? with
        | some label => return mark.toList ++ label
        | none => return mark.toList ++ path ++ (← stampOf path)
      match setting.form with
      | .normal => sayLines (normal (groups found))
      | .unified context =>
        sayLines ((← title "--- " 0 one) :: (← title "+++ " 1 other) :: unified context found)
      | .contextual context =>
        sayLines ((← title "*** " 0 one) :: (← title "--- " 1 other) :: contextual context found)
      return 1
  | _, _ => return 2

/-- Compares what is in two directories. -/
def compareDirectories (setting : Setting) : Nat → List Char → List Char → HostM Nat
  | 0, _, _ => return 2
  | depth + 1, one, other => do
    let lefts ← Copying.namesIn one
    let rights ← Copying.namesIn other
    let names := (lefts ++ rights.filter fun name => !lefts.contains name).mergeSort
      fun first second => decide (first ≤ second)
    let mut code := 0
    for name in names do
      let left := Copying.under one name
      let right := Copying.under other name
      let both := lefts.contains name && rights.contains name
      let leftIn ← Copying.isDirectory left
      let rightIn ← Copying.isDirectory right
      if !both ∧ !(setting.newFiles && !leftIn && !rightIn) then
        sayLine ("Only in ".toList ++ (if lefts.contains name then one else other) ++ ": ".toList
          ++ name)
        code := max code 1
      else if leftIn ∧ rightIn then
        if setting.recursive then code := max code (← compareDirectories setting depth left right)
        else sayLine (pairText "Common subdirectories: " " and " "" left right)
      else if leftIn ∨ rightIn then
        let kind (inside : Bool) : String := if inside then "a directory" else "a regular file"
        sayLine (("File ".toList ++ left ++ (" is " ++ kind leftIn ++ " while file ").toList)
          ++ right ++ (" is " ++ kind rightIn).toList)
        code := max code 1
      else code := max code (← compareFiles setting true left right)
    return code

/-- Complains about a wrong command line. -/
def refuse (text : List Char) : HostM Nat := do
  complain text
  complain ("Try '".toList ++ (← get).program ++ " --help' for more information.".toList)
  return 2

/-- Writes the differences between two files, or between the files in two directories. -/
def diff : Tool := fun arguments => do
  let grammar : Grammar :=
    .of "qsiwbBuU:cC:rNaytdL:" [("brief", 'q'), ("report-identical-files", 's'),
      ("ignore-case", 'i'), ("ignore-all-space", 'w'), ("ignore-space-change", 'b'),
      ("ignore-blank-lines", 'B'), ("unified?", 'U'), ("context?", 'C'), ("recursive", 'r'),
      ("new-file", 'N'), ("text", 'a'), ("label=", 'L'), ("color?", 'K'),
      ("strip-trailing-cr", 'Z')]
  match grammar.read arguments with
  | .error text => refuse text
  | .ok options => do
    let number (letter : Char) : Nat := ((options.value? letter).bind count?).getD 3
    let setting : Setting := {
      form := match options.last? "uUcC" with
        | some 'u' => .unified 3
        | some 'U' => .unified (number 'U')
        | some 'c' => .contextual 3
        | some _ => .contextual (number 'C')
        | none => .normal
      brief := options.has 'q'
      reports := options.has 's'
      folded := options.has 'i'
      withoutBlanks := options.has 'w'
      looseBlanks := options.has 'b'
      recursive := options.has 'r'
      newFiles := options.has 'N'
      labels := options.values 'L'
      words := arguments.filter fun word => word.head? == some '-' && word != ['-'] }
    match options.operands with
    | [] => refuse ("missing operand after '".toList ++ (← get).program ++ ['\''])
    | [operand] => refuse ("missing operand after ".toList ++ inQuotes operand)
    | _ :: _ :: third :: _ => refuse ("extra operand ".toList ++ inQuotes third)
    | [first, second] => do
      let firstIn ← Copying.isDirectory first
      let secondIn ← Copying.isDirectory second
      if firstIn ∧ secondIn then compareDirectories setting Copying.depth first second
      else
        let one := if firstIn then Copying.under first (Copying.baseName second) else first
        let other := if secondIn then Copying.under second (Copying.baseName first) else second
        compareFiles setting false one other

end KernelCache.Difference
