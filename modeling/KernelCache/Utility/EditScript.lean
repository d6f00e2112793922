import KernelCache.Text.Regex

/-
**Scripts of the line editor.**

A script is a list of instructions, each with the lines it is for. `EditScript.read` reads one, or
says where it is wrong.
-/

namespace KernelCache.EditScript

open Text (Regex)

/-- An expression with its flags; none stands for the one that was used last. -/
structure Searched where
  regex? : Option Regex
  folded : Bool := false
  lines : Bool := false

/-- A line that an instruction is for. -/
inductive Point where
  | line (number : Nat)
  /-- From a line on every so many. -/
  | every (first step : Nat)
  | last
  | matching (searched : Searched)

/-- Where a range of lines ends. -/
inductive Extent where
  | point (point : Point)
  /-- So many lines later. -/
  | further (count : Nat)
  /-- At the next line whose number is a multiple. -/
  | multiple (number : Nat)

/-- The lines that an instruction is for. -/
structure Address where
  first? : Option Point := none
  extent? : Option Extent := none
  negated : Bool := false

/-- How the case of letters is changed from here on, or for the next letter. -/
inductive Recase where
  | upper
  | lower
  | keep
  | nextUpper
  | nextLower
  deriving DecidableEq

/-- A part of what is put in the place of a match. -/
inductive Part where
  | text (chars : List Char)
  | group (number : Nat)
  | recase (change : Recase)

/-- A replacement of what matches. -/
structure Replacement where
  searched : Searched
  parts : List Part
  /-- The first match that is replaced. -/
  number : Nat := 1
  /-- Whether the matches after it are, too. -/
  all : Bool := false
  prints : Bool := false
  target? : Option (List Char) := none

/-- What an instruction does. -/
inductive Action where
  /-- Does what follows, or goes on behind an instruction. -/
  | block (close : Nat)
  | nothing
  | label (name : List Char)
  | replace (replacement : Replacement)
  | translate (pairs : List (Char × Char))
  | append (text : List Char)
  | insert (text : List Char)
  | change (text : List Char)
  | jump (name : List Char)
  /-- Jumps when something was replaced, or when nothing was. -/
  | jumpIf (replaced : Bool) (name : List Char)
  | quit (prints : Bool) (code : Nat)
  | read (path : List Char)
  /-- Reads the next line of a file. -/
  | readLine (path : List Char)
  | write (firstLine : Bool) (path : List Char)
  | list (width? : Option Nat)
  /-- One of the actions that are a letter and nothing else. -/
  | plain (letter : Char)

/-- An instruction. -/
structure Instruction where
  address : Address
  action : Action

/-! ### Reading -/

/-- What is wrong with a script, and how much of it was left then; none when it is the whole. -/
structure Complaint where
  left? : Option Nat
  text : String

/-- A step of reading what is left of a script. -/
abbrev Read (α : Type) := StateT (List Char) (Except Complaint) α

/-- Complains about what was read. -/
def wrong {α : Type} (text : String) : Read α := do
  throw { left? := some (← get).length, text }

/-- Complains about what was read and the next character. -/
def wrongNext {α : Type} (text : String) : Read α := do
  modify (·.drop 1)
  wrong text

/-- Takes an outcome as a step. -/
def orWrong {α : Type} : Except String α → Read α
  | .ok value => return value
  | .error text => wrong text

/-- Whether a character is a blank inside of a line. -/
def isBlank (char : Char) : Bool := char == ' ' || char == '\t' || char == '\r'

/-- Skips blanks. -/
def blanks : Read Unit := modify (·.dropWhile isBlank)

/-- Reads a number. -/
def number? : Read (Option Nat) := do
  let text ← get
  let digits := text.takeWhile Char.isDigit
  set (text.drop digits.length)
  return (String.ofList digits).toNat?

/-- The set of characters at the start of a text that is behind an opening bracket, with the bracket
that closes it. -/
def setLength (text : List Char) : Nat :=
  let start := match text with
    | '^' :: ']' :: _ => 2
    | '^' :: _ => 1
    | ']' :: _ => 1
    | _ => 0
  let rec go : Nat → List Char → Nat → Nat
    | 0, _, _ => 0
    | _ + 1, [], _ => 0
    | _ + 1, ']' :: _, count => count + 1
    | fuel + 1, '[' :: mark :: rest, count =>
      if mark = ':' ∨ mark = '.' ∨ mark = '=' then
        let inside := rest.takeWhile (· != mark)
        match rest.drop inside.length with
        | _ :: ']' :: behind => go fuel behind (count + inside.length + 4)
        | _ => go fuel (mark :: rest) (count + 1)
      else go fuel (mark :: rest) (count + 1)
    | fuel + 1, _ :: rest, count => go fuel rest (count + 1)
  go (text.length + 1) (text.drop start) start

/-- Takes what stands in front of a delimiter. In an expression, a backslash in front of `n` stands
for a line end, and a set of characters may hold the delimiter. -/
def delimitedFrom (delimiter : Char) (isRegex : Bool) :
    Nat → List Char → Option (List Char × List Char)
  | 0, _ => none
  | _ + 1, [] => none
  | fuel + 1, '\\' :: char :: rest =>
    (delimitedFrom delimiter isRegex fuel rest).map fun (inside, behind) =>
      if char = 'n' ∧ isRegex then ('\n' :: inside, behind)
      else if char = '\n' ∨ (char = delimiter ∧ (isRegex ∨ char ≠ '&')) then (char :: inside, behind)
      else ('\\' :: char :: inside, behind)
  | fuel + 1, char :: rest =>
    if char = delimiter then some ([], rest)
    else if char = '\n' ∧ isRegex then none
    else
      let length := if char = '[' ∧ isRegex then setLength rest else 0
      (delimitedFrom delimiter isRegex fuel (rest.drop length)).map fun (inside, behind) =>
        (char :: rest.take length ++ inside, behind)

/-- Takes what stands in front of a delimiter. -/
def delimited (delimiter : Char) (isRegex : Bool) (text : List Char) :
    Option (List Char × List Char) :=
  delimitedFrom delimiter isRegex (text.length + 1) text

/-- The character that a backslash and a letter stand for everywhere. -/
def control? (letter : Char) : Option Char :=
  match letter with
  | 'a' => some '\x07'
  | 'f' => some '\x0c'
  | 'n' => some '\n'
  | 'r' => some '\r'
  | 't' => some '\t'
  | 'v' => some '\x0b'
  | _ => none

/-- The digit that a character is, up to a base. -/
def digit? (base : Nat) (char : Char) : Option Nat :=
  let value := if char.isDigit then some (char.toNat - '0'.toNat)
    else if 'a' ≤ char ∧ char ≤ 'f' then some (char.toNat - 'a'.toNat + 10)
    else if 'A' ≤ char ∧ char ≤ 'F' then some (char.toNat - 'A'.toNat + 10)
    else none
  value.filter (· < base)

/-- The character that digits behind a backslash and a letter stand for, and what follows it. -/
def numbered? : List Char → Option (Char × List Char)
  | letter :: rest =>
    let read (base count : Nat) : Option (Char × List Char) :=
      let digits := ((rest.take count).map (digit? base)).takeWhile Option.isSome
      if digits.isEmpty then none
      else
        let value := digits.foldl (fun value digit => value * base + digit.getD 0) 0
        some (Char.ofNat (value % 256), rest.drop digits.length)
    match letter with
    | 'x' => read 16 2
    | 'o' => read 8 3
    | 'd' => read 10 3
    | 'c' => rest.head?.map fun char =>
      (Char.ofNat (Nat.xor char.toUpper.toNat 64), rest.drop 1)
    | _ => none
  | [] => none

/-- The text of an expression with the characters that backslashes stand for. -/
def plainRegex : Nat → List Char → List Char
  | 0, text => text
  | fuel + 1, '\\' :: char :: rest =>
    match control? char, numbered? (char :: rest) with
    | some control, _ => control :: plainRegex fuel rest
    | none, some (char, behind) =>
      let front := if "*.[]^$\\/+?".toList.contains char then ['\\', char] else [char]
      front ++ plainRegex fuel behind
    | none, none => '\\' :: char :: plainRegex fuel rest
  | fuel + 1, char :: rest => char :: plainRegex fuel rest
  | _ + 1, [] => []

/-- The flags behind an expression in an address. -/
def addressFlags (searched : Searched) : Nat → Read Searched
  | 0 => return searched
  | fuel + 1 => do
    match ← get with
    | 'I' :: rest => do
      set rest
      addressFlags { searched with folded := true } fuel
    | 'M' :: rest => do
      set rest
      addressFlags { searched with lines := true } fuel
    | _ => return searched

/-- The expression with a text. -/
def regexOf (extended : Bool) (text : List Char) : Except String (Option Regex) :=
  if text = [] then .ok none
  else (Regex.read { extended, lenient := false } (plainRegex (text.length + 1) text)).map some

/-- Reads a line that an instruction is for. -/
def point? (extended : Bool) : Read (Option Point) := do
  let matching (delimiter : Char) (rest : List Char) : Read (Option Point) := do
    match delimited delimiter true rest with
    | none => do
      set ([] : List Char)
      wrong "unterminated address regex"
    | some (inside, rest) => do
      set rest
      let searched ← addressFlags { regex? := ← orWrong (regexOf extended inside) } rest.length
      return some (.matching searched)
  match ← get with
  | '$' :: rest => do
    set rest
    return some .last
  | '/' :: rest => matching '/' rest
  | '\\' :: delimiter :: rest => matching delimiter rest
  | ['\\'] => wrongNext "unterminated address regex"
  | '+' :: rest | '~' :: rest => do
    set rest
    discard number?
    wrong "invalid usage of +N or ~N as first address"
  | first :: _ =>
    if !first.isDigit then return none
    let start ← number?
    match ← get with
    | '~' :: rest => do
      set rest
      return some (.every (start.getD 0) ((← number?).getD 0))
    | _ => return some (.line (start.getD 0))
  | [] => return none

/-- Reads the lines that an instruction is for. -/
def address (extended : Bool) : Read Address := do
  let first? ← point? extended
  blanks
  let extent? ← match first?, ← get with
    | some _, ',' :: rest => do
      set rest
      blanks
      match ← get with
      | '+' :: rest => do
        set rest
        pure (some (Extent.further ((← number?).getD 0)))
      | '~' :: rest => do
        set rest
        pure (some (.multiple ((← number?).getD 0)))
      | _ =>
        match ← point? extended with
        | some point => pure (some (.point point))
        | none => wrongNext "unexpected `,'"
    | _, _ => pure none
  match first?, extent? with
  | some (.line 0), some (.point (.matching _)) => pure ()
  | some (.line 0), _ => wrongNext "invalid usage of line address 0"
  | _, _ => pure ()
  blanks
  match ← get with
  | '!' :: rest => do
    set rest
    blanks
    if (← get).head? = some '!' then wrongNext "multiple `!'s"
    return { first?, extent?, negated := true }
  | _ => return { first?, extent? }

/-- Adds text to the parts of a replacement. -/
def addText (char : Char) : List Part → List Part
  | .text chars :: rest => .text (char :: chars) :: rest
  | parts => .text [char] :: parts

/-- The parts of a replacement. -/
def partsOf : Nat → List Char → List Part
  | 0, _ => []
  | _ + 1, [] => []
  | fuel + 1, '&' :: rest => .group 0 :: partsOf fuel rest
  | fuel + 1, '\\' :: char :: rest =>
    match char with
    | 'U' => .recase .upper :: partsOf fuel rest
    | 'L' => .recase .lower :: partsOf fuel rest
    | 'E' => .recase .keep :: partsOf fuel rest
    | 'u' => .recase .nextUpper :: partsOf fuel rest
    | 'l' => .recase .nextLower :: partsOf fuel rest
    | char =>
      if '0' ≤ char ∧ char ≤ '9' then .group (char.toNat - '0'.toNat) :: partsOf fuel rest
      else
        match numbered? (char :: rest) with
        | some (char, behind) => addText char (partsOf fuel behind)
        | none => addText ((control? char).getD char) (partsOf fuel rest)
  | fuel + 1, char :: rest => addText char (partsOf fuel rest)

/-- The largest group that parts ask for. -/
def largestGroup (parts : List Part) : Nat :=
  parts.foldl (fun largest part =>
    match part with
    | .group number => max largest number
    | _ => largest) 0

/-- How many groups an expression has. -/
def groupCount : Regex → Nat
  | .group _ body => groupCount body + 1
  | .times _ _ body => groupCount body
  | .both first second | .either first second => groupCount first + groupCount second
  | _ => 0

/-- Takes the rest of a line, without blanks in front. -/
def restOfLine : Read (List Char) := do
  blanks
  let text ← get
  let line := text.takeWhile (· != '\n')
  set (text.drop line.length)
  return line

/-- Reads the flags of a replacement; `counted` once one of them was a number. -/
def flags (replacement : Replacement) (counted : Bool) : Nat → Read Replacement
  | 0 => return replacement
  | fuel + 1 => do
    match ← get with
    | 'g' :: rest => do
      set rest
      if replacement.all then wrong "multiple `g' options to `s' command"
      flags { replacement with all := true } counted fuel
    | 'p' :: rest => do
      set rest
      if replacement.prints then wrong "multiple `p' options to `s' command"
      flags { replacement with prints := true } counted fuel
    | 'i' :: rest | 'I' :: rest => do
      set rest
      flags { replacement with searched := { replacement.searched with folded := true } } counted fuel
    | 'm' :: rest | 'M' :: rest => do
      set rest
      flags { replacement with searched := { replacement.searched with lines := true } } counted fuel
    | 'w' :: rest => do
      set rest
      return { replacement with target? := some (← restOfLine) }
    | first :: _ =>
      if first.isDigit then
        let number? ← number?
        if counted then wrong "multiple number options to `s' command"
        match number? with
        | some (number + 1) => flags { replacement with number := number + 1 } true fuel
        | _ => wrong "number option to `s' command may not be zero"
      else if first = ';' ∨ first = '\n' ∨ first = '\x7d' ∨ first = '#' ∨ isBlank first then
        return replacement
      else wrongNext "unknown option to `s'"
    | [] => return replacement

/-- Demands the end of an instruction. -/
def finish : Read Unit := do
  blanks
  match ← get with
  | [] => return ()
  | ';' :: rest | '\n' :: rest => set rest
  | '\x7d' :: _ | '#' :: _ => return ()
  | _ => wrongNext "extra characters after command"

/-- Reads a replacement behind its letter. -/
def replacement (extended : Bool) : Read Replacement := do
  match ← get with
  | delimiter :: rest => do
    match delimited delimiter true rest with
    | none => do
      set ([] : List Char)
      wrong "unterminated `s' command"
    | some (pattern, rest) =>
      match delimited delimiter false rest with
      | none => do
      set ([] : List Char)
      wrong "unterminated `s' command"
      | some (text, rest) => do
        set rest
        let parts := partsOf (text.length + 1) text
        let found ← flags { searched := { regex? := none }, parts } false (rest.length + 1)
        finish
        let regex? ← orWrong (regexOf extended pattern)
        let largest := largestGroup parts
        if regex?.any fun regex => groupCount regex < largest then
          wrong ("invalid reference \\" ++ toString largest ++ " on `s' command's RHS")
        return { found with searched := { found.searched with regex? } }
  | [] => wrong "unterminated `s' command"

/-- The characters of a translation. -/
def unescaped : List Char → List Char
  | '\\' :: char :: rest => (control? char).getD char :: unescaped rest
  | char :: rest => char :: unescaped rest
  | [] => []

/-- Reads a translation behind its letter. -/
def translation : Read Action := do
  match ← get with
  | delimiter :: rest =>
    match delimited delimiter false rest with
    | none => do
      set ([] : List Char)
      wrong "unterminated `y' command"
    | some (left, rest) =>
      match delimited delimiter false rest with
      | none => do
      set ([] : List Char)
      wrong "unterminated `y' command"
      | some (right, rest) => do
        set rest
        let left := unescaped left
        let right := unescaped right
        if left.length ≠ right.length then
          wrong "strings for `y' command are different lengths"
        return .translate (left.zip right)
  | [] => wrong "unterminated `y' command"

/-- The lines of text behind an instruction: a backslash in front of a line end keeps it. -/
def textLines : List Char → List Char × List Char
  | [] => ([], [])
  | '\n' :: rest => ([], rest)
  | '\\' :: char :: rest =>
    let (text, behind) := textLines rest
    (char :: text, behind)
  | ['\\'] => ([], [])
  | char :: rest =>
    let (text, behind) := textLines rest
    (char :: text, behind)

/-- Reads the text of an instruction. A backslash in front of it keeps its blanks. -/
def text : Read (List Char) := do
  blanks
  let source ← match ← get with
    | [] => wrong "expected \\ after `a', `c' or `i'"
    | '\\' :: rest =>
      match rest.dropWhile isBlank with
      | '\n' :: behind => pure behind
      | _ => pure rest
    | source => pure source
  if source = [] then
    set ([] : List Char)
    return []
  let (lines, rest) := textLines source
  set rest
  return lines ++ ['\n']

/-- Reads the name of a place to jump to. -/
def labelName : Read (List Char) := do
  blanks
  let text ← get
  let name := text.takeWhile fun char => char != ';' && char != '\n' && !isBlank char
  set (text.drop name.length)
  return name

/-- Reads what an instruction does, behind its letter. -/
def action (extended : Bool) (letter : Char) : Read Action := do
  let path : Read (List Char) := do
    match ← restOfLine with
    | [] => wrong "missing filename in r/R/w/W commands"
    | path => return path
  match letter with
  | ':' => do
    let name ← labelName
    if name = [] then wrong "\":\" lacks a label"
    return .label name
  | 's' => do
    return .replace (← replacement extended)
  | 'y' => do
    let action ← translation
    finish
    return action
  | 'a' => return .append (← text)
  | 'i' => return .insert (← text)
  | 'c' => return .change (← text)
  | 'b' => return .jump (← labelName)
  | 't' => return .jumpIf true (← labelName)
  | 'T' => return .jumpIf false (← labelName)
  | 'q' | 'Q' => do
    blanks
    let code := (← number?).getD 0
    finish
    return .quit (letter == 'q') code
  | 'l' => do
    blanks
    let width? ← number?
    finish
    return .list width?
  | 'r' => return .read (← path)
  | 'R' => return .readLine (← path)
  | 'v' => do
    discard labelName
    return .nothing
  | 'w' => return .write false (← path)
  | 'W' => return .write true (← path)
  | letter =>
    if "dDgGhHnNpPxz=F".toList.contains letter then
      finish
      return .plain letter
    else wrong ("unknown command: `" ++ toString letter ++ "'")

/-- Reads instructions, with the places of the blocks that are open. -/
def instructions (extended : Bool) : Nat → List Nat → List Instruction → Read (List Instruction)
  | 0, _, done => return done
  | fuel + 1, blocks, done => do
    let source ← get
    let skipped := source.dropWhile fun char => char == ';' || char == '\n' || isBlank char
    set skipped
    match skipped with
    | [] =>
      if blocks.isEmpty then return done.reverse
      else throw { left? := none, text := "unmatched `\x7b'" }
    | '#' :: rest => do
      set (rest.dropWhile (· != '\n'))
      instructions extended fuel blocks done
    | _ => do
      let address ← address extended
      match ← get with
      | [] => wrong "missing command"
      | '\x7b' :: rest => do
        set rest
        let here := done.length
        instructions extended fuel (here :: blocks) ({ address, action := .block 0 } :: done)
      | '\x7d' :: rest => do
        set rest
        if address.first?.isSome then wrong "\x7d doesn't want any addresses"
        match blocks with
        | [] => wrong "unexpected `\x7d'"
        | start :: blocks => do
          finish
          let close := done.length
          let place := done.length - 1 - start
          let done := done.modify place fun instruction =>
            { instruction with action := .block close }
          instructions extended fuel blocks ({ address := {}, action := .nothing } :: done)
      | letter :: rest => do
        set rest
        let action ← action extended letter
        instructions extended fuel blocks ({ address, action } :: done)

/-- The place of a label. -/
def placeOf? (script : List Instruction) (name : List Char) : Option Nat :=
  if name = [] then some script.length
  else
    script.findIdx? fun instruction =>
      match instruction.action with
      | .label other => other == name
      | _ => false

/-- The expressions that a script searches for, in order; none stands for the one used last. -/
def expressions (script : List Instruction) : List (Option Regex) :=
  let ofPoint : Point → List (Option Regex)
    | .matching searched => [searched.regex?]
    | _ => []
  script.flatMap fun instruction =>
    let first := (instruction.address.first?.map ofPoint).getD []
    let second := match instruction.address.extent? with
      | some (.point point) => ofPoint point
      | _ => []
    let own := match instruction.action with
      | .replace replacement => [replacement.searched.regex?]
      | _ => []
    first ++ second ++ own

/-- Reads a script, or says what is wrong with it, and the code of that. -/
def read (extended : Bool) (source : List Char) : Except (String × Nat) (List Instruction) :=
  let front (count : Nat) : String := "-e expression #1, char " ++ toString count ++ ": "
  match (instructions extended (source.length + 2) [] []).run source with
  | .error complaint =>
    let count := (complaint.left?.map (source.length - ·)).getD 0
    .error (front count ++ complaint.text, 1)
  | .ok (script, _) =>
    let missing := script.filterMap fun instruction =>
      match instruction.action with
      | .jump name | .jumpIf _ name => if (placeOf? script name).isNone then some name else none
      | _ => none
    let searched := expressions script
    match missing with
    | name :: _ => .error ("can't find label for jump to `" ++ String.ofList name ++ "'", 4)
    | [] =>
      if searched.any Option.isNone ∧ searched.all Option.isNone then
        .error (front 0 ++ "no previous regular expression", 1)
      else .ok script

end KernelCache.EditScript
