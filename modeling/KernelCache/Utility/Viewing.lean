import KernelCache.Utility.FileTools
import KernelCache.Utility.Option

/-
**Programs that show files.**

They write what their operands hold, as a whole or in part, or count what is in it.
-/

namespace KernelCache.Viewing

open Host Program

/-! ### Whole files -/

/-- A character in a form that can be seen. -/
def visible (tabs ends : Bool) (byte : UInt8) : List Char :=
  let code := byte.toNat
  let low (code : Nat) : List Char :=
    if code < 32 then ['^', Char.ofNat (code + 64)]
    else if code = 127 then ['^', '?']
    else [Char.ofNat code]
  if code = 10 then (if ends then ['$', '\n'] else ['\n'])
  else if code = 9 ∧ !tabs then ['\t']
  else if 128 ≤ code then 'M' :: '-' :: low (code - 128)
  else low code

/-- The lines with numbers in front; blank ones have none where only the others are counted. -/
def numbered (onlyFull : Bool) (start : Nat) (lines : List Bytes) : List Bytes × Nat :=
  let (found, next) := lines.foldl (fun (found, number) line =>
    if onlyFull ∧ line = [0x0A] then (line :: found, number)
    else
      ((Bytes.ofChars (rightward 6 (decimal number) ++ ['\t']) ++ line) :: found, number + 1))
    (([] : List Bytes), start)
  (found.reverse, next)

/-- The lines without blank ones that follow a blank one. -/
def squeezed : List Bytes → List Bytes
  | first :: second :: rest =>
    if first = [0x0A] ∧ second = [0x0A] then squeezed (second :: rest)
    else first :: squeezed (second :: rest)
  | lines => lines

/-- Copies files to the output. -/
def cat : Tool :=
  let grammar : Grammar :=
    .of "AbeEnstTuv" [("show-all", 'A'), ("number-nonblank", 'b'), ("show-ends", 'E'),
      ("number", 'n'), ("squeeze-blank", 's'), ("show-tabs", 'T'), ("show-nonprinting", 'v')]
  withOptions grammar 1 fun options => do
    let has (letters : String) : Bool := letters.toList.any options.has
    let plain := !has "AbeEnstTv"
    let mut number := 1
    let mut done := true
    for operand in orInput options.operands do
      match ← onOperand operand fun descriptor => available descriptor none with
      | .error fault | .ok (.error fault) => do
        complainOf operand fault
        done := false
      | .ok (.ok (.endless, _)) => sayForever (List.replicate 4096 0)
      | .ok (.ok (.octets bytes, held?)) => do
        if plain then say bytes
        else
          let lines := markedLines 0x0A bytes
          let lines := if has "s" then squeezed lines else lines
          let shown := if has "AeEtTv" then
              lines.map fun line => Bytes.ofChars <| line.flatMap fun byte =>
                if has "Aetv" ∨ byte = 9 ∨ byte = 10 then visible (has "AtT") (has "AeE") byte
                else [Char.ofNat byte.toNat]
            else lines
          let (shown, next) := if has "nb" then numbered (has "b") number shown else (shown, number)
          number := next
          say shown.flatten
        if let some pipe := held? then throw (.starved pipe)
    return statusOf done

/-- Copies files to the output, the last line first. -/
def tac : Tool :=
  withOptions (.of "bs:r" [("before", 'b'), ("separator=", 's')]) 1 fun options => do
    return statusOf <| ← forAll (orInput options.operands) fun operand => do
      match ← contentsOf operand with
      | .ok bytes => do
        say (markedLines 0x0A bytes).reverse.flatten
        return true
      | .error .isDirectory => do
        complain (shown operand ++ ": read error: Is a directory".toList)
        return false
      | .error fault => do
        complain ("failed to open ".toList ++ inQuotes operand ++ " for reading: ".toList
          ++ fault.plain.toList)
        return false

/-- Copies files to the output with each line backwards. -/
def rev : Tool :=
  withOptions (.of "") 1 fun options => do
    return statusOf <| ← eachInput options.operands fun bytes =>
      say <| (markedLines 0x0A bytes).flatMap fun line =>
        if line.getLast? = some 0x0A then line.dropLast.reverse ++ [0x0A] else line.reverse

/-- Copies files to the output with numbers in front of the lines. -/
def nl : Tool :=
  let grammar : Grammar :=
    .of "b:s:w:v:i:n:d:f:h:l:p" [("body-numbering=", 'b'), ("number-separator=", 's'),
      ("number-width=", 'w'), ("starting-line-number=", 'v'), ("line-increment=", 'i'),
      ("number-format=", 'n')]
  withOptions grammar 1 fun options => do
    let number (letter : Char) (usual : Nat) : Nat :=
      ((options.value? letter).bind count?).getD usual
    let width := number 'w' 6
    let separator := (options.value? 's').getD ['\t']
    let style := (options.value? 'b').getD ['t']
    let form := String.ofList ((options.value? 'n').getD "rn".toList)
    let mut next := number 'v' 1
    let mut done := true
    for operand in orInput options.operands do
      match ← contentsOf operand with
      | .error fault => do
        complainOf operand fault
        done := false
      | .ok bytes =>
        for line in linesOf bytes do
          if style = ['a'] ∨ (style = ['t'] ∧ line ≠ []) then
            let digits := decimal next
            let shown := match form with
              | "ln" => leftward width digits
              | "rz" => List.replicate (width - digits.length) '0' ++ digits
              | _ => rightward width digits
            sayLine (shown ++ separator ++ line)
            next := next + number 'i' 1
          else
            sayLine (List.replicate (width + separator.length) ' ' ++ line)
    return statusOf done

/-- Writes the input to files and to the output. -/
def tee : Tool :=
  let grammar : Grammar :=
    .of "aip" [("append", 'a'), ("ignore-interrupts", 'i'), ("output-error?", 'p')]
  withOptions grammar 1 fun options => do
    let access := if options.has 'a' then Access.addition else .output
    let before ← get
    let mut opened : List Nat := []
    let mut done := true
    for operand in options.operands do
      let host ← get
      match host.openPath access (pathOf operand) with
      | .ok (opening, host) => do
        let descriptor := 100 + host.next
        set (host.place descriptor opening)
        opened := opened ++ [descriptor]
      | .error fault => do
        complainOf operand fault
        done := false
    let outcome ← catching <| reading ['-'] fun bytes => do
      say bytes
      for descriptor in opened do discard (writeTo descriptor bytes)
      return true
    for descriptor in opened do modify fun host => host.close descriptor
    modify fun host => host.dropOpenings before.next
    match ← resume outcome with
    | .ok () => return statusOf done
    | .error unread => do
      complain ("read error: ".toList ++ unread.fault.plain.toList)
      return 1

/-! ### Parts of files -/

/-- What part of a file is shown. -/
structure Part where
  /-- Whether octets count, or lines. -/
  octets : Bool
  amount : Nat
  /-- Whether the amount is left out, or shown. -/
  without : Bool
  deriving Repr

/-- The option at the front that is only a number, written with a letter. -/
def withLetter (signs : List Char) (arguments : List (List Char)) : List (List Char) :=
  match arguments with
  | (sign :: digit :: more) :: rest =>
    if signs.contains sign ∧ '0' ≤ digit ∧ digit ≤ '9' then
      let digits := (digit :: more).takeWhile fun char => '0' ≤ char && char ≤ '9'
      let letters := (digit :: more).drop digits.length
      let letter := if letters.contains 'c' then 'c' else 'n'
      let value := if sign = '+' then '+' :: digits else digits
      let others := letters.filter fun letter => letter != 'c' && letter != 'l'
      ['-', letter] :: value :: (if others = [] then rest else ('-' :: others) :: rest)
    else arguments
  | _ => arguments

/-- The part that options ask for. -/
def partOf? (options : Options) (mark : Char) : Except (List Char) Part :=
  match options.found.reverse.find? fun entry => entry.1 == 'c' || entry.1 == 'n' with
  | none => .ok { octets := false, amount := 10, without := false }
  | some (letter, value?) =>
    let text := value?.getD []
    let (without, digits) := match text with
      | first :: rest =>
        if first = mark then (true, rest)
        else if first = '-' ∨ first = '+' then (false, rest)
        else (false, text)
      | [] => (false, text)
    match if digits.head?.any Char.isDigit then FileTools.amount? digits else none with
    | some amount => .ok { octets := letter == 'c', amount, without }
    | none =>
      let what := if letter = 'c' then "bytes" else "lines"
      .error (("invalid number of " ++ what ++ ": ").toList ++ inQuotes text)

/-- Writes a heading for a file, where there are several. -/
def heading (wanted : Bool) (first : Bool) (operand : List Char) : HostM Unit := do
  if wanted then
    let name := if operand = ['-'] then "standard input".toList else operand
    say (Bytes.ofChars ((if first then [] else ['\n']) ++ "==> ".toList ++ name
      ++ " <==\n".toList))

/-- Says that an operand was not read. -/
def unreadable (operand : List Char) (unread : Unread) : HostM Unit :=
  complain <|
    if unread.opened then
      "error reading ".toList ++ inQuotes operand ++ ": ".toList ++ unread.fault.plain.toList
    else
      "cannot open ".toList ++ inQuotes operand ++ " for reading: ".toList
        ++ unread.fault.plain.toList

/-- Shows the part of every operand that a step writes. -/
def showParts (options : Options) (step : Nat → HostM (Option Fault)) : HostM Nat := do
  let operands := orInput options.operands
  let wanted := match options.last? "qv" with
    | some 'q' => false
    | some _ => true
    | none => 1 < operands.length
  let mut done := true
  let mut first := true
  for operand in operands do
    let start := first
    let outcome ← onOperand operand fun descriptor => do
      heading wanted start operand
      step descriptor
    match outcome with
    | .ok none => first := false
    | .ok (some fault) => do
      unreadable operand ⟨fault, true⟩
      first := false
      done := false
    | .error fault => do
      unreadable operand ⟨fault, false⟩
      done := false
  return statusOf done

/-- Writes the start of what can be read from a descriptor. -/
def writeStart (part : Part) (mark : UInt8) (descriptor : Nat) : HostM (Option Fault) := do
  if part.octets ∧ !part.without then
    match ← available descriptor (some part.amount) with
    | .ok (.octets bytes, held?) => do
      say bytes
      if let some pipe := held? then throw (.starved pipe)
      return none
    | .ok (.endless, _) => throw .endless
    | .error fault => return some fault
  else
    match ← available descriptor none with
    | .error fault => return some fault
    | .ok (.endless, _) => throw .endless
    | .ok (.octets bytes, held?) => do
      if part.without then
        if let some pipe := held? then throw (.starved pipe)
        if part.octets then say (bytes.take (bytes.length - part.amount))
        else
          let lines := markedLines mark bytes
          say (lines.take (lines.length - part.amount)).flatten
        return none
      else
        let lines := markedLines mark bytes
        let kept := (lines.take part.amount).flatten
        say kept
        if (← get).isSeekable descriptor then giveBack descriptor (bytes.drop kept.length)
        let isFull := part.amount < lines.length
          || (part.amount = lines.length && (part.amount = 0 || kept.getLast? = some mark))
        match isFull, held? with
        | false, some pipe => throw (.starved pipe)
        | _, _ => return none

/-- Shows the start of files. -/
def head : Tool := fun arguments =>
  let grammar : Grammar :=
    .of "c:n:qvz" [("bytes=", 'c'), ("lines=", 'n'), ("quiet", 'q'), ("silent", 'q'),
      ("verbose", 'v'), ("zero-terminated", 'z')]
  withOptions grammar 1 (fun options => do
    let mark : UInt8 := if options.has 'z' then 0 else 0x0A
    match partOf? options '-' with
    | .error text => do
      complain text
      return 1
    | .ok part => showParts options (writeStart part mark)) (withLetter ['-'] arguments)

/-- Writes the end of what can be read from a descriptor. -/
def writeEnd (part : Part) (mark : UInt8) (descriptor : Nat) : HostM (Option Fault) := do
  match ← available descriptor none with
  | .error fault => return some fault
  | .ok (.endless, _) => throw .endless
  | .ok (.octets bytes, held?) => do
    let cut {α : Type} (items : List α) : List α :=
      if part.without then items.drop (part.amount - 1)
      else items.drop (items.length - part.amount)
    let shown := if part.octets then cut bytes else (cut (markedLines mark bytes)).flatten
    match held? with
    | some pipe => do
      if part.without then say shown
      throw (.starved pipe)
    | none => do
      say shown
      return none

/-- Shows the end of files. -/
def tail : Tool := fun arguments =>
  let grammar : Grammar :=
    .of "c:n:qvzfFs:" [("bytes=", 'c'), ("lines=", 'n'), ("quiet", 'q'), ("silent", 'q'),
      ("verbose", 'v'), ("zero-terminated", 'z'), ("follow?", 'f'), ("retry", 'r'), ("pid=", 'p'),
      ("sleep-interval=", 's')]
  withOptions grammar 1 (fun options => do
    let mark : UInt8 := if options.has 'z' then 0 else 0x0A
    match partOf? options '+' with
    | .error text => do
      complain text
      return 1
    | .ok part => do
      let status ← showParts options (writeEnd part mark)
      let followed := options.has 'f' || options.has 'F'
      let seekable := (← get).isSeekable 0
      if followed ∧ (seekable ∨ (orInput options.operands).any (· ≠ ['-'])) then
        if status = 0 ∨ options.has 'F' then throw .endless
      return status) (withLetter ['-', '+'] arguments)

/-! ### Counting -/

/-- What is counted in a text. -/
structure Counts where
  lines : Nat := 0
  words : Nat := 0
  octets : Nat := 0
  widest : Nat := 0

/-- The counts of two texts together. -/
def Counts.add (first second : Counts) : Counts :=
  { lines := first.lines + second.lines
    words := first.words + second.words
    octets := first.octets + second.octets
    widest := max first.widest second.widest }

/-- How wide a line is when it is shown. -/
def shownWidth (line : List Char) : Nat :=
  line.foldl (fun width char =>
    if char = '\t' then (width / 8 + 1) * 8
    else if ' ' ≤ char ∧ char ≤ '~' then width + 1
    else width) 0

/-- Counts what is in a text. -/
def countsOf (bytes : Bytes) : Counts :=
  let (words, _) := bytes.foldl (fun (words, inside) byte =>
    let blank := isSpace (Char.ofNat byte.toNat)
    (if !blank && !inside then words + 1 else words, !blank)) (0, false)
  { lines := bytes.count 0x0A
    words
    octets := bytes.length
    widest := (linesOf bytes).foldl (fun widest line => max widest (shownWidth line)) 0 }

/-- The size of the file that an operand leads to, when it is a regular one. -/
def regularSize? (operand : List Char) : HostM (Option (Option Nat)) := do
  let host ← get
  let sizeOf (number : Nat) : Nat := (host.files.octets (.file number)).length
  if operand = ['-'] then
    match host.opening? 0 with
    | some (_, { stream := .file number, .. }) => return some (some (sizeOf number))
    | _ => return some none
  else
    match host.files.status host.base (pathOf operand) with
    | .ok (_, .file number) => return some (some (sizeOf number))
    | .ok _ => return some none
    | .error _ => return none

/-- Counts lines, words and octets. -/
def wc : Tool :=
  let grammar : Grammar :=
    .of "clLmw" [("bytes", 'c'), ("chars", 'm'), ("lines", 'l'), ("words", 'w'),
      ("max-line-length", 'L'), ("total=", 't')]
  withOptions grammar 1 fun options => do
    let usual := !"clLmw".toList.any options.has
    let has (letter : Char) : Bool := options.has letter
    let operands := orInput options.operands
    let parts (counts : Counts) : List Nat :=
      (if usual || has 'l' then [counts.lines] else [])
        ++ (if usual || has 'w' then [counts.words] else [])
        ++ (if has 'm' then [counts.octets] else [])
        ++ (if usual || has 'c' then [counts.octets] else [])
        ++ if has 'L' then [counts.widest] else []
    let sizes ← operands.mapM regularSize?
    let single := operands.length = 1 ∧ (parts {}).length = 1
    let total := sizes.foldl (fun total size => total + ((size.bind id).getD 0)) 0
    let least := if sizes.any (· == some none) then 7 else 1
    let width := if single then 1
      else if sizes.head? = some none then 1
      else max least (decimal total).length
    let line (counts : Counts) (name : List Char) : HostM Unit :=
      let numbers := (parts counts).map fun number => rightward width (decimal number)
      sayLine ([' '].intercalate numbers ++ (if name = [] then [] else ' ' :: name))
    let mut sum : Counts := {}
    let mut done := true
    for operand in operands do
      let name := if options.operands.isEmpty then [] else operand
      match ← onOperand operand fun descriptor => readFrom descriptor none with
      | .ok (.ok bytes) => do
        let counts := countsOf bytes
        sum := sum.add counts
        line counts name
      | .ok (.error fault) => do
        complainOf operand fault
        line {} name
        done := false
      | .error fault => do
        complainOf operand fault
        done := false
    if 1 < operands.length then line sum "total".toList
    return statusOf done

/-! ### Comparing -/

/-- The first place at which two texts differ, when they do so before the end of one. -/
def firstDifference : Nat → Bytes → Bytes → Option Nat
  | index, first :: firsts, second :: seconds =>
    if first = second then firstDifference (index + 1) firsts seconds else some index
  | _, _, _ => none

/-- Compares two files. -/
def cmp : Tool :=
  let grammar : Grammar :=
    .of "bi:ln:s" [("print-bytes", 'b'), ("ignore-initial=", 'i'), ("verbose", 'l'),
      ("bytes=", 'n'), ("quiet", 's'), ("silent", 's')]
  withOptions grammar 2 fun options => do
    match options.operands with
    | first :: others => do
      let second := others.headD ['-']
      if 2 < others.length + 1 ∧ 4 < others.length + 1 then return ← surplus 2 (others.getD 3 [])
      let quiet := options.has 's'
      let read (operand : List Char) : HostM (Option Bytes) := do
        match ← contentsOf operand with
        | .ok bytes => do
          let skipped := ((options.value? 'i').bind FileTools.amount?).getD 0
          let bytes := bytes.drop skipped
          return some <| match (options.value? 'n').bind FileTools.amount? with
            | some limit => bytes.take limit
            | none => bytes
        | .error fault => do
          if !quiet then complain (operand ++ ": ".toList ++ fault.plain.toList)
          return none
      let left? ← read first
      let right? ← read second
      match left?, right? with
      | some left, some right => do
        let short := if left.length < right.length then left else right
        let ended (count : Nat) : HostM Unit := do
          let name := if left.length < right.length then first else second
          let lines := short.count 0x0A
          let text := if count = 0 then " which is empty".toList
            else " after byte ".toList ++ decimal count
              ++ (if short.getLast? = some 0x0A then ", line ".toList ++ decimal lines
                else ", in line ".toList ++ decimal (lines + 1))
          if !quiet then complain ("EOF on ".toList ++ name ++ text)
        let octal (byte : UInt8) : List Char := rightward 3 (Nat.toDigits 8 byte.toNat)
        let written (byte : UInt8) : List Char := octal byte ++ ' ' :: visible true true byte
        if options.has 'l' then
          let width := (decimal (max left.length right.length)).length
          let pairs := (List.range short.length).zip (left.zip right)
          for (index, one, other) in pairs do
            if one ≠ other ∧ !quiet then
              let columns := if options.has 'b' then leftward 8 (written one) ++ written other
                else octal one ++ ' ' :: octal other
              sayLine (rightward width (decimal (index + 1)) ++ ' ' :: columns)
          if left.length ≠ right.length then
            if !quiet then
              let name := if left.length < right.length then first else second
              complain ("EOF on ".toList ++ name ++ (if short = [] then " which is empty".toList
                else " after byte ".toList ++ decimal short.length))
          return statusOf (left == right)
        else
          match firstDifference 0 left right with
          | some index => do
            if !quiet then
              let line := (left.take index).count 0x0A + 1
              let place := decimal (index + 1) ++ ", line ".toList ++ decimal line
              let front := first ++ ' ' :: second ++ " differ: ".toList
              if options.has 'b' then
                sayLine (front ++ "byte ".toList ++ place ++ " is ".toList
                  ++ written (left[index]?.getD 0) ++ ' ' :: written (right[index]?.getD 0))
              else sayLine (front ++ "char ".toList ++ place)
            return 1
          | none => do
            if left.length = right.length then return 0
            ended short.length
            return 1
      | _, _ => return 2
    | [] => lacking 2 "missing operand after 'cmp'"

end KernelCache.Viewing
