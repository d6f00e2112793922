import KernelCache.Text.Category
import KernelCache.Utility.Format
import KernelCache.Utility.Option

/-
**Programs for the parts of lines.**

`Fields.cut` takes parts out of lines, `Fields.paste` puts lines side by side, and `Fields.tr`
changes single characters.
-/

namespace KernelCache.Fields

open Host Program

/-! ### Cutting -/

/-- A range of positions, the first of which is one; the last may be open. -/
abbrev Range := Nat × Option Nat

/-- Reads a list of ranges. -/
def ranges? (text : List Char) : Option (List Range) := do
  let separated := text.map fun char => if char = ',' ∨ char = '\t' then ' ' else char
  (separated.splitOn ' ').mapM fun item => do
    match item.splitOn '-' with
    | [single] =>
      let number ← count? single
      if number = 0 then none
      return (number, some number)
    | [low, high] =>
      if low = [] ∧ high = [] then none
      let first ← if low = [] then some 1 else count? low
      let last? ← if high = [] then some none else (count? high).map some
      if first = 0 ∨ last?.any (· < first) then none
      return (first, last?)
    | _ => none

/-- Whether one of the ranges in a list ends in front of its start. -/
def isDecreasing (text : List Char) : Bool :=
  (text.splitOn ',').any fun item =>
    match (item.splitOn '-').map count? with
    | [some low, some high] => decide (high < low)
    | _ => false

/-- Whether a position is in one of some ranges. -/
def isInside (ranges : List Range) (position : Nat) : Bool :=
  ranges.any fun (first, last?) => first ≤ position && last?.all (position ≤ ·)

/-- Takes parts out of lines. -/
def cut : Tool :=
  let grammar : Grammar :=
    .of "b:c:d:f:nsz" [("bytes=", 'b'), ("characters=", 'c'), ("delimiter=", 'd'), ("fields=", 'f'),
      ("complement", 'k'), ("only-delimited", 's'), ("output-delimiter=", 'o'),
      ("zero-terminated", 'z')]
  withOptions grammar 1 fun options => do
    let lists := options.found.filter fun entry => "bcf".toList.contains entry.1
    match lists with
    | [] => misuse 1 "you must specify a list of bytes, characters, or fields".toList
    | _ :: _ :: _ => misuse 1 "only one list may be specified".toList
    | [(kind, value?)] => do
      let text := value?.getD []
      match ranges? text with
      | none => do
        let isZero := (text.splitOn ',').any fun item =>
          item == ['0'] || "0-".toList.isPrefixOf item
        let what := if kind = 'f' then "fields" else "byte/character positions"
        if isZero then misuse 1 (what ++ " are numbered from 1").toList
        else if isDecreasing text then misuse 1 "invalid decreasing range".toList
        else misuse 1 ("invalid " ++ (if kind = 'f' then "field" else "byte or character")
          ++ " range").toList
      | some ranges => do
        let delimiter? := options.value? 'd'
        if delimiter?.any fun delimiter => 1 < delimiter.length then
          return ← misuse 1 "the delimiter must be a single character".toList
        if kind ≠ 'f' ∧ (delimiter?.isSome ∨ options.has 's') then
          let what := if delimiter?.isSome then "an input delimiter may be specified"
            else "suppressing non-delimited lines makes sense"
          return ← misuse 1 (what ++ " only when operating on fields").toList
        let delimiter := (delimiter?.bind List.head?).getD '\t'
        let joint := (options.value? 'o').getD [delimiter]
        let chosen (position : Nat) : Bool := isInside ranges position != options.has 'k'
        let mark : UInt8 := if options.has 'z' then 0 else 0x0A
        let shorten (line : List Char) : Option (List Char) :=
          if kind = 'f' then
            let fields := line.splitOn delimiter
            if fields.length = 1 then (if options.has 's' then none else some line)
            else
              let kept := (List.range fields.length).zip fields |>.filter fun (index, _) =>
                chosen (index + 1)
              some (joint.intercalate (kept.map (·.2)))
          else
            let kept := (List.range line.length).zip line |>.filter fun (index, _) =>
              chosen (index + 1)
            if (options.value? 'o').isSome then
              let groups := kept.splitBy fun first second =>
                first.1 + 1 == second.1 && ranges.all fun range => range.1 != second.1 + 1
              some (joint.intercalate (groups.map (·.map (·.2))))
            else some (kept.map (·.2))
        return statusOf <| ← eachInput options.operands fun bytes =>
          sayLines ((linesOf bytes mark).filterMap shorten) (Char.ofNat mark.toNat)

/-! ### Pasting -/

/-- The delimiters that a list names; some are none at all. -/
def delimitersOf : List Char → List (List Char)
  | '\\' :: char :: rest =>
    (match char with
      | 'n' => ['\n']
      | 't' => ['\t']
      | '0' => []
      | char => [char]) :: delimitersOf rest
  | char :: rest => [char] :: delimitersOf rest
  | [] => []

/-- Items with delimiters between them, taken in turn. -/
def joinedBy (delimiters : List (List Char)) (items : List (List Char)) : List Char :=
  let delimiters := if delimiters = [] then [[]] else delimiters
  ((List.range items.length).zip items).flatMap fun (index, item) =>
    if index = 0 then item else (delimiters[(index - 1) % delimiters.length]?).getD [] ++ item

/-- Puts the lines of files side by side. -/
def paste : Tool :=
  let grammar : Grammar :=
    .of "d:sz" [("delimiters=", 'd'), ("serial", 's'), ("zero-terminated", 'z')]
  withOptions grammar 1 fun options => do
    let delimiters := delimitersOf ((options.value? 'd').getD ['\t'])
    let operands := orInput options.operands
    let dashes := (operands.filter (· = ['-'])).length
    let input ← if dashes = 0 then pure [] else do
      match ← contentsOf ['-'] with
      | .ok bytes => pure (linesOf bytes)
      | .error _ => pure []
    let mut columns : List (List (List Char)) := []
    let mut turn := 0
    for operand in operands do
      if operand = ['-'] then
        let column := if options.has 's' then (if turn = 0 then input else [])
          else ((List.range input.length).zip input).filterMap fun (index, line) =>
            if index % dashes = turn then some line else none
        columns := columns ++ [column]
        turn := turn + 1
      else
        match ← contentsOf operand with
        | .ok bytes => columns := columns ++ [linesOf bytes]
        | .error fault => do
          complainOf operand fault
          if !options.has 's' then return 1
    if options.has 's' then
      for column in columns do sayLine (joinedBy delimiters column)
    else
      let longest := columns.foldl (fun longest column => max longest column.length) 0
      sayLines <| (List.range longest).map fun index =>
        joinedBy delimiters (columns.map fun column => (column[index]?).getD [])
    return 0

/-! ### Single characters -/

/-- An item of a list of characters. -/
inductive Item where
  | chars (chars : List Char)
  | category (category : Text.Category)
  /-- A character as often as is needed, or so many times. -/
  | again (char : Char) (count : Nat)

/-- All characters. -/
def everyChar : List Char := (List.range 256).map Char.ofNat

/-- A character of a list, which may be written with a backslash, and what follows it. -/
def charAt (text : List Char) : Option (Char × Bool × List Char) :=
  match text with
  | [] => none
  | ['\\'] => some ('\\', false, [])
  | '\\' :: rest =>
    let found := Format.escape .narrow .argument rest
    match rest, found.chars with
    | 'c' :: rest, _ => some ('c', true, rest)
    | _, ['\\', char] => some (char, true, rest.drop 1)
    | _, char :: _ => some (char, true, found.rest)
    | first :: more, [] => some (first, true, more)
    | [], [] => none
  | char :: rest => some (char, false, rest)

/-- The items of a list of characters, or what is wrong with it. -/
def items : Nat → List Char → Except (List Char) (List Item)
  | 0, _ => .ok []
  | _ + 1, [] => .ok []
  | fuel + 1, text => do
    let single : Except (List Char) (List Item) := do
      match charAt text with
      | none => return []
      | some (low, _, '-' :: rest) =>
        match charAt rest with
        | none => return .chars [low] :: (← items fuel ('-' :: rest))
        | some (high, _, rest) =>
          if high < low then
            throw ("range-endpoints of '".toList ++ [low, '-', high]
              ++ "' are in reverse collating sequence order".toList)
          let range := (List.range (high.toNat - low.toNat + 1)).map fun index =>
            Char.ofNat (low.toNat + index)
          return .chars range :: (← items fuel rest)
      | some (char, _, rest) => return .chars [char] :: (← items fuel rest)
    match text with
    | '[' :: ':' :: rest =>
      let name := rest.takeWhile (· != ':')
      match rest.drop name.length with
      | ':' :: ']' :: rest =>
        match Text.Category.ofName? (String.ofList name) with
        | some category => return .category category :: (← items fuel rest)
        | none => throw ("invalid character class ".toList ++ inQuotes name)
      | _ => single
    | '[' :: '=' :: char :: '=' :: ']' :: rest => return .chars [char] :: (← items fuel rest)
    | '[' :: rest =>
      match charAt rest with
      | some (char, _, '*' :: rest) =>
        let digits := rest.takeWhile Char.isDigit
        match rest.drop digits.length with
        | ']' :: rest =>
          let count := if digits.head? = some '0' then Format.octal digits
            else ((String.ofList digits).toNat?).getD 0
          return .again char count :: (← items fuel rest)
        | _ => single
      | _ => single
    | _ => single

/-- The characters of items; one that is repeated as needed fills up to a length. -/
def expanded (length : Nat) (items : List Item) : List Char :=
  let fixed := items.foldl (fun size item =>
    match item with
    | .chars chars => size + chars.length
    | .category category => size + (everyChar.filter category.accepts).length
    | .again _ count => size + count) 0
  items.flatMap fun item =>
    match item with
    | .chars chars => chars
    | .category category => everyChar.filter category.accepts
    | .again char 0 => List.replicate (length - fixed) char
    | .again char count => List.replicate count char

/-- A text without characters of a set that repeat the one before. -/
def squeezed (isSqueezed : Char → Bool) (text : List Char) : List Char :=
  (text.foldl (fun kept char =>
    match kept with
    | last :: _ => if last = char ∧ isSqueezed char then kept else char :: kept
    | [] => [char]) []).reverse

/-- Changes, drops and squeezes characters on their way from the input to the output. -/
def tr : Tool :=
  let grammar : Grammar :=
    .of "cCdst" [("complement", 'c'), ("delete", 'd'), ("squeeze-repeats", 's'),
      ("truncate-set1", 't')] true
  withOptions grammar 1 fun options => do
    let complement := options.has 'c' || options.has 'C'
    let deletes := options.has 'd'
    let squeezes := options.has 's'
    let step (change : List Char → List Char) : HostM Nat := do
      match ← reading ['-'] fun bytes => do
          say (Bytes.ofChars (change (Bytes.toChars bytes)))
          return true with
      | .ok () => return 0
      | .error unread => do
        complain ("read error: ".toList ++ unread.fault.plain.toList)
        return 1
    let wanted := if deletes == squeezes then 2 else if deletes then 1 else 0
    match options.operands with
    | [] => lacking 1
    | _ :: _ :: third :: _ => surplus 1 third
    | first :: others => do
      let second? := others.head?
      if second?.isNone ∧ wanted = 2 then
        complain ("missing operand after ".toList ++ inQuotes first)
        complainLine (if deletes then
          "Two strings must be given when both deleting and squeezing repeats.".toList
          else "Two strings must be given when translating.".toList)
        hint
        return 1
      if let some second := second? then
        if wanted = 1 then
          complain ("extra operand ".toList ++ inQuotes second)
          complainLine "Only one string may be given when deleting without squeezing repeats.".toList
          hint
          return 1
      match items (first.length + 1) first, items ((second?.getD []).length + 1) (second?.getD []) with
      | .error text, _ | _, .error text => do
        complain text
        return 1
      | .ok left, .ok right => do
        let plain := expanded 0 left
        let set := if complement then everyChar.filter fun char => !plain.contains char else plain
        let other := expanded set.length right
        let isIn (char : Char) : Bool := plain.contains char != complement
        if deletes then
          let table := (everyChar.map isIn).toArray
          let isGone (char : Char) : Bool := (table[char.toNat]?).getD false
          step fun text =>
            let kept := text.filter fun char => !isGone char
            if squeezes then squeezed other.contains kept else kept
        else
          match second? with
          | none => step (squeezed isIn)
          | some _ => do
            let isPaired := !complement && left.any fun item => match item with
              | .category .lower | .category .upper => true
              | _ => false
            if other = [] ∧ !options.has 't' then
              complain "when not truncating set1, string2 must be non-empty".toList
              return 1
            let set := if options.has 't' then set.take other.length else set
            let last := other.getLastD 'x'
            let pairs := ((List.range set.length).zip set).map fun (index, char) =>
              (char, (other[index]?).getD last)
            discard (pure isPaired)
            let table := (everyChar.map fun char => (pairs.reverse.lookup char).getD char).toArray
            let changed (char : Char) : Char := (table[char.toNat]?).getD char
            step fun text =>
              let text := text.map changed
              if squeezes then squeezed other.contains text else text

/-! ### Widths -/

/-- The column behind a character. -/
def columnAfter (column : Nat) (char : Char) : Nat :=
  if char = '\t' then (column / 8 + 1) * 8
  else if char = '\x08' then column - 1
  else if char = '\r' then 0
  else column + 1

/-- Breaks a line into lines of a width, behind blanks where that is asked for. -/
def folded (width : Nat) (octets atBlanks : Bool) (line : List Char) : List Char :=
  let next (column : Nat) (char : Char) : Nat :=
    if octets then column + 1 else columnAfter column char
  let (done, piece, _) := line.foldl (fun (done, piece, column) char =>
    if width < next column char ∧ piece ≠ [] then
      let behind := piece.takeWhile fun char => !isSpace char
      if atBlanks ∧ behind.length < piece.length then
        let kept := piece.drop behind.length
        let start := behind.reverse.foldl next 0
        ('\n' :: kept ++ done, char :: behind, next start char)
      else ('\n' :: piece ++ done, [char], next 0 char)
    else (done, char :: piece, next column char)) (([] : List Char), ([] : List Char), 0)
  (piece ++ done).reverse

/-- Breaks long lines. -/
def fold : Tool :=
  let grammar : Grammar := .of "bsw:" [("bytes", 'b'), ("spaces", 's'), ("width=", 'w')]
  withOptions grammar 1 fun options => do
    let width := ((options.value? 'w').bind count?).getD 80
    return statusOf <| ← eachInput options.operands fun bytes =>
      say <| (markedLines 0x0A bytes).flatMap fun line =>
        let ended := line.getLast? = some 0x0A
        let text := Bytes.toChars (if ended then line.dropLast else line)
        Bytes.ofChars (folded width (options.has 'b') (options.has 's') text
          ++ if ended then ['\n'] else [])

/-- Writes blanks in the place of tabs. -/
def expand : Tool :=
  let grammar : Grammar := .of "it:" [("initial", 'i'), ("tabs=", 't')]
  withOptions grammar 1 fun options => do
    let size := max (((options.value? 't').bind count?).getD 8) 1
    return statusOf <| ← eachInput options.operands fun bytes =>
      let (text, _) := (Bytes.toChars bytes).foldl (fun (text, column) char =>
        if char = '\t' then
          let count := size - column % size
          (List.replicate count ' ' ++ text, column + count)
        else if char = '\n' then (char :: text, 0)
        else (char :: text, column + 1)) (([] : List Char), 0)
      say (Bytes.ofChars text.reverse)

end KernelCache.Fields
