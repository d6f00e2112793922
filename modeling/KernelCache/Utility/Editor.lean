import KernelCache.Utility.Copying
import KernelCache.Utility.EditScript
import KernelCache.Utility.Option

/-
**The line editor.**

`Editor.sed` reads lines one after the other into a space, does the instructions of its script with
it, and writes it. A second space holds text from line to line.
-/

namespace KernelCache.Editor

open Host Program EditScript
open Text (Regex)

/-- What is written behind a line. -/
inductive Queued where
  | text (chars : List Char)
  | file (path : List Char)
  /-- A line of a file, with its end. -/
  | line (chars : List Char)

/-- What the editor works on. -/
structure Editing where
  space : List Char := []
  hold : List Char := []
  /-- The number of the line. -/
  line : Nat := 0
  /-- The lines that follow, each with whether it has an end. -/
  rest : List (List Char × Bool)
  /-- The pipe whose writer is held up, when there may be more lines. -/
  held? : Option Nat := none
  /-- Whether the line has an end. -/
  complete : Bool := true
  queue : List Queued := []
  /-- The ranges that have begun, by instruction, with the line they end at when that is known. -/
  ranges : List (Nat × Option Nat) := []
  replaced : Bool := false
  lastRegex? : Option Regex := none
  /-- What was written, the last piece first. -/
  pieces : List (List Char) := []
  /-- Whether the end of the last written line is still missing. -/
  missing : Bool := false
  /-- The lines that are left of files that are read line by line. -/
  sources : List (List Char × List (List Char)) := []
  file : List Char := ['-']

/-- A step of the editor. -/
abbrev EditM (α : Type) := StateT Editing HostM α

/-- How the editor is set. -/
structure Setting where
  script : Array Instruction
  quiet : Bool
  mark : Char := '\n'

/-! ### Output -/

/-- Writes text, behind the end of the line before it. -/
def put (chars : List Char) : EditM Unit :=
  modify fun editing =>
    let pieces := if editing.missing then ['\n'] :: editing.pieces else editing.pieces
    { editing with pieces := chars :: pieces, missing := false }

/-- Writes a line, whose end is left out where the last line that was read has none. -/
def putLine (setting : Setting) (chars : List Char) : EditM Unit := do
  put chars
  modify fun editing =>
    if editing.complete then { editing with pieces := [setting.mark] :: editing.pieces }
    else { editing with missing := true }

/-- Adds a line to a file. -/
def writeLine (setting : Setting) (path chars : List Char) : EditM Unit := do
  if path = "/dev/stdout".toList then putLine setting chars
  else if path = "/dev/stderr".toList then liftM (complainLine chars)
  else
    discard <| liftM <| attempt fun files base =>
      files.append base (pathOf path) (Bytes.ofChars (chars ++ ['\n']))

/-- Passes on what was written. -/
def flush : EditM Unit := do
  let editing ← get
  liftM (say (Bytes.ofChars editing.pieces.reverse.flatten))
  set { editing with pieces := [] }

/-- Waits for the writer of the input. -/
def starve {α : Type} (pipe : Nat) : EditM α := do
  flush
  liftM (m := HostM) (throw (.starved pipe))

/-- Writes what is queued behind the line. -/
def flushQueue : EditM Unit := do
  for item in (← get).queue do
    match item with
    | .text chars | .line chars => put chars
    | .file path => do
      match ← liftM (contentsOf path) with
      | .ok [] => pure ()
      | .ok bytes => put (Bytes.toChars bytes)
      | .error _ => pure ()
  modify fun editing => { editing with queue := [] }

/-- A text in which everything that cannot be seen is written out, in lines of a width. -/
def listed (width : Nat) (chars : List Char) : List Char :=
  let shown (char : Char) : List Char :=
    match char with
    | '\\' => "\\\\".toList
    | '\x07' => "\\a".toList
    | '\x08' => "\\b".toList
    | '\x0c' => "\\f".toList
    | '\n' => "\\n".toList
    | '\r' => "\\r".toList
    | '\t' => "\\t".toList
    | '\x0b' => "\\v".toList
    | char =>
      if ' ' ≤ char ∧ char ≤ '~' then [char]
      else
        let digits := Nat.toDigits 8 char.toNat
        '\\' :: List.replicate (3 - digits.length) '0' ++ digits
  let (text, _) := chars.foldl (fun (text, column) char =>
    let item := shown char
    if 0 < width ∧ column + item.length > width - 1 then
      (item.reverse ++ '\n' :: '\\' :: text, item.length)
    else (item.reverse ++ text, column + item.length)) (([] : List Char), 0)
  text.reverse ++ "$\n".toList

/-! ### Lines -/

/-- Whether the line is the last one. -/
def isLast : EditM Bool := do
  let editing ← get
  match editing.rest, editing.held? with
  | [], some pipe => starve pipe
  | rest, _ => return rest.isEmpty

/-- Takes the next line, if there is one. -/
def nextLine : EditM (Option (List Char)) := do
  let editing ← get
  match editing.rest, editing.held? with
  | (line, complete) :: rest, _ => do
    set { editing with rest, complete, line := editing.line + 1, replaced := editing.replaced }
    return some line
  | [], some pipe => starve pipe
  | [], none => return none

/-- The expression that is meant. -/
def regexOf (searched : Searched) : EditM (Option Regex) := do
  match searched.regex? with
  | some regex => do
    modify fun editing => { editing with lastRegex? := some regex }
    return some regex
  | none => return (← get).lastRegex?

/-- The space as it is searched. -/
def subjectOf (searched : Searched) (space : List Char) : Regex.Subject :=
  { text := space.toArray, folded := searched.folded, lines := searched.lines }

/-- Whether a point is at the line. -/
def isAt (point : Point) : EditM Bool := do
  let editing ← get
  match point with
  | .line number => return editing.line = number
  | .every first step =>
    return if step = 0 then editing.line = first
      else first ≤ editing.line && (editing.line - first) % step == 0
  | .last => isLast
  | .matching searched => do
    match ← regexOf searched with
    | some regex => return (regex.search (subjectOf searched editing.space)).isSome
    | none => return false

/-- Marks a range as begun, or as ended. -/
def setRange (index : Nat) (range? : Option (Option Nat)) : EditM Unit :=
  modify fun editing =>
    let others := editing.ranges.filter fun range => range.1 != index
    match range? with
    | some stop? => { editing with ranges := (index, stop?) :: others }
    | none => { editing with ranges := others }

/-- Whether a range begins at the line. -/
def begins (index : Nat) (first : Point) (extent : Extent) : EditM Bool := do
  if !(← isAt first) then return false
  let line := (← get).line
  let upTo (stop : Nat) : EditM Unit := do
    if line < stop then setRange index (some (some stop))
  match extent with
  | .point (.line stop) => upTo stop
  | .point .last => if !(← isLast) then setRange index (some none)
  | .point _ => setRange index (some none)
  | .further count => upTo (line + count)
  | .multiple number => if number ≠ 0 then upTo ((line + number - 1) / number * number)
  return true

/-- Whether an instruction is for the line. -/
def isFor (index : Nat) (address : Address) : EditM Bool := do
  let found ← match address.first?, address.extent? with
    | none, _ => pure true
    | some first, none => isAt first
    | some first, some extent => do
      let editing ← get
      let fromStart := match first with
        | .line 0 => editing.line = 1 && !editing.ranges.any fun range => range.1 == index + 1000000
        | _ => false
      if fromStart then
        setRange (index + 1000000) (some none)
        setRange index (some none)
      match (← get).ranges.lookup index with
      | none => begins index first extent
      | some (some stop) =>
        if editing.line < stop then pure true
        else do
          setRange index none
          if editing.line = stop then pure true else begins index first extent
      | some none => do
        match extent with
        | .point point => if ← isAt point then setRange index none
        | _ => pure ()
        pure true
  return found != address.negated

/-! ### Replacing -/

/-- Text under a change of case, and the change that goes on. -/
def recased (mode : Recase) (once : Recase) (chars : List Char) : List Char :=
  let all (chars : List Char) : List Char :=
    match mode with
    | .upper => chars.map Char.toUpper
    | .lower => chars.map Char.toLower
    | _ => chars
  match once, all chars with
  | .nextUpper, first :: rest => first.toUpper :: rest
  | .nextLower, first :: rest => first.toLower :: rest
  | _, chars => chars

/-- What is put in the place of a match. -/
def filled (parts : List Part) (subject : Regex.Subject) (found : Regex.Found) : List Char :=
  let (text, _, _) := parts.foldl (fun (text, mode, once) part =>
    let add (chars : List Char) : List (List Char) × Recase × Recase :=
      if chars = [] then (text, mode, once) else (recased mode once chars :: text, mode, .keep)
    match part with
    | .text chars => add chars
    | .group number => add ((found.group? subject number).getD [])
    | .recase .nextUpper => (text, mode, .nextUpper)
    | .recase .nextLower => (text, mode, .nextLower)
    | .recase change => (text, change, .keep))
    (([] : List (List Char)), Recase.keep, Recase.keep)
  text.reverse.flatten

/-- How far the replacing of matches has come. -/
structure Progress where
  position : Nat := 0
  count : Nat := 0
  /-- Where the match before this one ended. -/
  lastEnd? : Option Nat := none
  pieces : List (List Char) := []
  changed : Bool := false

/-- Replaces the matches from a position on. -/
def replaceFrom (replacement : Replacement) (regex : Regex) (subject : Regex.Subject) :
    Nat → Progress → Progress
  | 0, progress => progress
  | fuel + 1, progress =>
    let text (first last : Nat) : List Char := (subject.text.extract first last).toList
    let size := subject.text.size
    let finish (progress : Progress) : Progress :=
      { progress with pieces := text progress.position size :: progress.pieces, position := size + 1 }
    if size < progress.position then progress
    else
      match regex.search subject progress.position with
      | none => finish progress
      | some found =>
        if found.start = found.stop ∧ progress.lastEnd? = some found.start then
          replaceFrom replacement regex subject fuel
            { progress with
              position := found.start + 1
              lastEnd? := none
              pieces := text progress.position (found.start + 1) :: progress.pieces }
        else
          let count := progress.count + 1
          let isMeant := count = replacement.number ∨ (replacement.all ∧ replacement.number < count)
          let new := if isMeant then filled replacement.parts subject found
            else text found.start found.stop
          let next : Progress :=
            { position := found.stop
              count
              lastEnd? := some found.stop
              pieces := new :: text progress.position found.start :: progress.pieces
              changed := progress.changed || isMeant }
          if isMeant ∧ !replacement.all then finish next
          else replaceFrom replacement regex subject fuel next

/-- Replaces what matches in the space. -/
def replace (setting : Setting) (replacement : Replacement) : EditM Unit := do
  match ← regexOf replacement.searched with
  | none => return ()
  | some regex => do
    let editing ← get
    let subject := subjectOf replacement.searched editing.space
    let progress := replaceFrom replacement regex subject (2 * editing.space.length + 3) {}
    if progress.changed then
      let space := progress.pieces.reverse.flatten
      set { (← get) with space, replaced := true }
      if replacement.prints then putLine setting space
      if let some path := replacement.target? then writeLine setting path space

/-! ### Instructions -/

/-- How the editor goes on. -/
inductive Turn where
  | goOn (index : Nat)
  /-- The space is done with, and is perhaps written. -/
  | done (prints : Bool)
  /-- The script starts again with what is left in the space. -/
  | again
  | quit (prints : Bool) (code : Nat)

/-- The first line of the space. -/
def firstLine (space : List Char) : List Char := space.takeWhile (· != '\n')

/-- Does one of the actions that are a letter. -/
def plain (setting : Setting) (index : Nat) (letter : Char) : EditM Turn := do
  let editing ← get
  let next := Turn.goOn (index + 1)
  let space := editing.space
  match letter with
  | 'd' => return .done false
  | 'D' =>
    match space.drop (firstLine space).length with
    | [] => return .done false
    | _ :: rest => do
      set { editing with space := rest }
      return .again
  | 'g' => do
    set { editing with space := editing.hold }
    return next
  | 'G' => do
    set { editing with space := space ++ '\n' :: editing.hold }
    return next
  | 'h' => do
    set { editing with hold := space }
    return next
  | 'H' => do
    set { editing with hold := editing.hold ++ '\n' :: space }
    return next
  | 'x' => do
    set { editing with space := editing.hold, hold := space }
    return next
  | 'n' => do
    if ← isLast then return .quit true 0
    if !setting.quiet then putLine setting space
    flushQueue
    match ← nextLine with
    | some line => do
      modify fun editing => { editing with space := line }
      return next
    | none => return .quit false 0
  | 'N' => do
    if ← isLast then return .quit true 0
    flushQueue
    match ← nextLine with
    | some line => do
      modify fun editing => { editing with space := space ++ '\n' :: line }
      return next
    | none => return .quit true 0
  | 'p' => do
    putLine setting space
    return next
  | 'P' => do
    put (firstLine space ++ ['\n'])
    return next
  | 'z' => do
    set { editing with space := [] }
    return next
  | '=' => do
    put (decimal editing.line ++ ['\n'])
    return next
  | 'F' => do
    put (editing.file ++ ['\n'])
    return next
  | _ => return next

/-- Does what an instruction says. -/
def perform (setting : Setting) (index : Nat) (action : EditScript.Action) : EditM Turn := do
  let next := Turn.goOn (index + 1)
  let script := setting.script.toList
  let queue (item : Queued) : EditM Unit :=
    modify fun editing => { editing with queue := editing.queue ++ [item] }
  match action with
  | .block _ | .nothing | .label _ => return next
  | .replace replacement => do
    replace setting replacement
    return next
  | .translate pairs => do
    modify fun editing =>
      { editing with space := editing.space.map fun char => (pairs.lookup char).getD char }
    return next
  | .append text => do
    queue (.text text)
    return next
  | .insert text => do
    put text
    return next
  | .change text => do
    if ((← get).ranges.lookup index).isNone then put text
    return .done false
  | .jump name => return .goOn ((placeOf? script name).getD script.length)
  | .jumpIf wanted name => do
    let editing ← get
    set { editing with replaced := false }
    if editing.replaced = wanted then
      return .goOn ((placeOf? script name).getD script.length)
    else return next
  | .quit prints code => return .quit prints code
  | .read path => do
    queue (.file path)
    return next
  | .readLine path => do
    let editing ← get
    let lines : List (List Char) ← match editing.sources.lookup path with
      | some lines => pure lines
      | none =>
        match ← liftM (contentsOf path) with
        | .ok bytes => pure (linesOf bytes)
        | .error _ => pure []
    let others := editing.sources.filter fun source => source.1 != path
    set { editing with sources := (path, lines.drop 1) :: others }
    if let some line := lines.head? then queue (.line (line ++ ['\n']))
    return next
  | .write onlyFirst path => do
    let space := (← get).space
    writeLine setting path (if onlyFirst then firstLine space else space)
    return next
  | .list width? => do
    put (listed (width?.getD 70) (← get).space)
    return next
  | .plain letter => plain setting index letter

/-- Ends the work on a space. -/
def finishLine (setting : Setting) (prints : Bool) : EditM Unit := do
  if prints ∧ !setting.quiet then putLine setting (← get).space
  flushQueue

/-- So many instructions are done before the script counts as one without end. -/
def stepLimit : Nat := 4000000

/-- Does the script for every line; the code is that of an instruction to quit. -/
def work (setting : Setting) : EditM (Option Nat) := do
  let size := setting.script.size
  let mut index : Nat := size + 1
  for _ in [0:stepLimit] do
    if size < index then
      match ← nextLine with
      | none => return none
      | some line => do
        modify fun editing => { editing with space := line, replaced := false }
        index := 0
    else
      let turn ← match setting.script[index]? with
        | none => pure (Turn.done true)
        | some instruction => do
          if ← isFor index instruction.address then perform setting index instruction.action
          else
            match instruction.action with
            | .block close => pure (.goOn close)
            | _ => pure (.goOn (index + 1))
      match turn with
      | .goOn next => index := next
      | .done prints => do
        finishLine setting prints
        index := size + 1
      | .again => do
        finishLine setting false
        index := 0
      | .quit prints code => do
        finishLine setting prints
        return some code
  liftM (m := HostM) (throw .endless)

/-! ### The program -/

/-- The lines of a text, each with whether it has an end; one without an end at the end of what a
writer that is held up has written does not count. -/
def linesWithEnds (mark : UInt8) (held : Bool) (bytes : Bytes) : List (List Char × Bool) :=
  let lines := (markedLines mark bytes).map fun line =>
    if line.getLast? = some mark then (Bytes.toChars line.dropLast, true)
    else (Bytes.toChars line, false)
  if held then lines.filter (·.2) else lines

/-- The paths of the files that a script writes. -/
def targets (script : List Instruction) : List (List Char) :=
  script.filterMap fun instruction =>
    match instruction.action with
    | .write _ path => some path
    | .replace { target? := some path, .. } => some path
    | _ => none

/-- Edits files in their places. -/
def inPlace (setting : Setting) (suffix : List Char) (operands : List (List Char)) :
    HostM Nat := do
  let mut status := 0
  for operand in operands do
    let host ← get
    match host.files.status host.base (pathOf operand) with
    | .error fault => do
      complain ("can't read ".toList ++ operand ++ ": ".toList ++ fault.plain.toList)
      status := 2
    | .ok (place, node) =>
      match node with
      | .file _ => do
        let bytes := host.files.octets node
        let mark := UInt8.ofNat setting.mark.toNat
        let (code?, editing) ← (work setting).run
          { rest := linesWithEnds mark false bytes, file := operand }
        let rest := editing.rest.flatMap fun (line, complete) =>
          line ++ if complete then [setting.mark] else []
        let gap := if editing.missing ∧ rest ≠ [] then ['\n'] else []
        let text := editing.pieces.reverse.flatten ++ gap ++ rest
        let attributes := host.files.attributesOf place node
        if suffix ≠ [] then
          let name := Copying.baseName operand
          let kept := if suffix.contains '*' then
              suffix.flatMap fun char => if char = '*' then name else [char]
            else name ++ suffix
          let path := if kept.contains '/' then kept
            else if operand.contains '/' then Copying.under (Copying.directoryName operand) kept
            else kept
          discard <| attempt fun files base => files.rename base (pathOf operand) (pathOf path)
        discard <| attempt fun files base =>
          files.replace base (pathOf operand) { bytes := Bytes.ofChars text, attributes }
        if let some code := code? then
          return code % 256
      | _ => do
        complain ("couldn't edit ".toList ++ operand ++ ": not a regular file".toList)
        status := 4
  return status

/-- Edits what the operands hold on its way to the output. -/
def through (setting : Setting) (operands : List (List Char)) : HostM Nat := do
  let mut rest : List (List Char × Bool) := []
  let mut held? : Option Nat := none
  let mut status := 0
  let mark := UInt8.ofNat setting.mark.toNat
  for operand in orInput operands do
    if held?.isNone then
      match ← onOperand operand fun descriptor => available descriptor none with
      | .error fault => do
        complain ("can't read ".toList ++ operand ++ ": ".toList ++ fault.plain.toList)
        status := 2
      | .ok (.error fault) => do
        complain ("read error on ".toList ++ operand ++ ": ".toList ++ fault.plain.toList)
        return 4
      | .ok (.ok (.endless, _)) => throw .endless
      | .ok (.ok (.octets bytes, found?)) => do
        rest := rest ++ linesWithEnds mark found?.isSome bytes
        held? := found?
  let step : EditM (Option Nat) := do
    let code? ← work setting
    flush
    return code?
  let (code?, _) ← step.run { rest, held?, file := operands.headD ['-'] }
  return ((code?.map (· % 256)).filter (· != 0)).getD status

/-- Edits text line by line. -/
def sed : Tool :=
  let grammar : Grammar :=
    .of "ne:f:Eri::suzl:b" [("quiet", 'n'), ("silent", 'n'), ("expression=", 'e'), ("file=", 'f'),
      ("regexp-extended", 'E'), ("in-place?", 'i'), ("separate", 's'), ("unbuffered", 'u'),
      ("null-data", 'z'), ("posix", 'p'), ("debug", 'd'), ("line-length=", 'l'), ("version", 'V')]
  withOptions grammar 1 fun options => do
    if options.has 'V' then
      sayLine "sed (GNU sed) 4.9".toList
      return 0
    let mut sources : List (List Char) := []
    for (letter, value?) in options.found do
      if letter = 'e' then sources := sources ++ [value?.getD []]
      if letter = 'f' then
        match ← contentsOf (value?.getD []) with
        | .ok bytes => do
          let text := Bytes.toChars bytes
          sources := sources ++ [if text.getLast? = some '\n' then text.dropLast else text]
        | .error fault => do
          complain ("couldn't open file ".toList ++ value?.getD [] ++ ": ".toList
            ++ fault.plain.toList)
          return 1
    let given := !sources.isEmpty
    let operands := if given then options.operands else options.operands.drop 1
    if !given then
      match options.operands with
      | [] => do
        complainLine "Usage: sed [OPTION]... \x7bscript-only-if-no-other-script\x7d [input-file]...".toList
        return 1
      | script :: _ => sources := [script]
    let source := ['\n'].intercalate sources
    let marked := "#n\n".toList.isPrefixOf source || source = "#n".toList
    match EditScript.read (options.has 'E' || options.has 'r') source with
    | .error (text, code) => do
      complain text.toList
      return code
    | .ok script => do
      for path in targets script do
        if !"/dev/std".toList.isPrefixOf path then
          discard <| attempt fun files base => files.write base (pathOf path) []
      let setting : Setting := {
        script := script.toArray
        quiet := options.has 'n' || marked
        mark := if options.has 'z' then '\x00' else '\n' }
      if options.has 'i' then inPlace setting ((options.value? 'i').getD []) operands
      else if options.has 's' then
        let mut status := 0
        for operand in orInput operands do
          status := max status (← through setting [operand])
        return status
      else through setting operands

end KernelCache.Editor
