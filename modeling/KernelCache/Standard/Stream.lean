import KernelCache.Code.Program
import KernelCache.Text.Directive
import KernelCache.Text.Utf8
import KernelCache.Standard.Storage

/-
**Services for output and input.**

A run keeps what it writes; what it reads is there from the start.
-/

/-! ## Output by a format

The arguments of a format are words of 64 bits, of which a directive takes as many as it needs.
`Printing.run?` fills a format; it needs memory for texts, and a directive can write to memory how
much there was in front of it.
-/

namespace KernelCache.Standard

open KernelCache.Code (Memory Value)

/-- The arguments of a format by number. -/
abbrev Supply := Nat → Option Nat

/-- The word that an argument is. -/
def wordOf : Value → Nat
  | .word bits => bits % Code.range 8
  | .real number => number.toBits.toNat

/-- Arguments that are there as values. -/
def Supply.ofValues (values : List Value) : Supply := fun index => (values[index]?).map wordOf

/-- Arguments that lie one behind the other in memory. -/
def Supply.inMemory (memory : Memory) (address : Nat) : Supply := fun index =>
  memory.read? (address + 8 * index) 8

namespace Printing

/-- What has been done of a format. -/
structure Progress where
  memory : Memory
  /-- How many arguments were taken. -/
  taken : Nat := 0
  /-- The pieces of the output, the latest first. -/
  pieces : List (List Char) := []
  /-- The number of characters so far. -/
  count : Nat := 0

namespace Progress

/-- Adds to the output. -/
def add (progress : Progress) (text : List Char) : Progress :=
  { progress with pieces := text :: progress.pieces, count := progress.count + text.length }

/-- Takes an argument. -/
def take (supply : Supply) (progress : Progress) : Nat × Progress :=
  ((supply progress.taken).getD 0, { progress with taken := progress.taken + 1 })

end Progress

/-- The octets of the integer that a directive takes. -/
def width (size : List Char) : Nat :=
  match String.ofList size with
  | "hh" => 1
  | "h" => 2
  | "" => 4
  | _ => 8

/-- A width or a precision, which may be an argument. -/
def extent (supply : Supply) (extent : Text.Extent) (progress : Progress) : Int × Progress :=
  match extent with
  | .argument =>
    let (word, progress) := progress.take supply
    (Value.ofBits 4 true (word % Code.range 4), progress)
  | .absent | .given _ => (0, progress)

/-- The octets of a text in memory, no more than a limit. -/
def textAt? (memory : Memory) (address : Nat) (limit : Option Nat) : Option (List Char) :=
  if address = 0 then
    some (if limit.all (6 ≤ ·) then "(null)".toList else [])
  else
    match limit with
    | none => (memory.text? address).map Bytes.toChars
    | some limit =>
      let rec go : Nat → Nat → List Char → Option (List Char)
        | 0, _, taken => some taken.reverse
        | left + 1, address, taken => do
          let octet ← memory.read? address 1
          if octet = 0 then some taken.reverse
          else go left (address + 1) (Char.ofNat octet :: taken)
      go limit address []

/-- The characters of a text of wide characters in memory, no more than a limit. -/
def wideTextAt? (memory : Memory) (limit : Option Nat) : Nat → Nat → List Char → Option (List Char)
  | 0, _, taken => some taken.reverse
  | fuel + 1, address, taken => do
    if limit.any (· ≤ taken.length) then return taken.reverse
    else
      let unit ← memory.read? address 4
      if unit = 0 then return taken.reverse
      else wideTextAt? memory limit fuel (address + 4) (Char.ofNat unit :: taken)

/-- The longest text of wide characters that is printed. -/
def longestText : Nat := 1000000

/-- Fills one directive. -/
def fill? (supply : Supply) (directive : Text.Directive) (progress : Progress) :
    Option Progress := do
  let (given, progress) := extent supply directive.width progress
  let (precise, progress) := extent supply directive.precision progress
  let layout := directive.layout given precise
  let size := width directive.size
  match directive.letter with
  | '%' => return progress.add ['%']
  | 'd' | 'i' =>
    let (word, progress) := progress.take supply
    return progress.add (layout.ofInteger (Value.ofBits size true (word % Code.range size)))
  | 'u' | 'o' | 'x' | 'X' =>
    let (word, progress) := progress.take supply
    return progress.add (layout.ofNatural directive.letter (word % Code.range size))
  | 'c' =>
    let (word, progress) := progress.take supply
    return progress.add ({ layout with precision? := none }.ofText [Char.ofNat (word % 256)])
  | 's' =>
    let (word, progress) := progress.take supply
    let isWide : Bool := directive.size == ['l'] && word != 0
    let text ← if isWide then wideTextAt? progress.memory layout.precision? longestText word []
      else textAt? progress.memory word layout.precision?
    return progress.add ({ layout with precision? := none }.ofText text)
  | 'p' =>
    let (word, progress) := progress.take supply
    if word = 0 then return progress.add ({ layout with precision? := none }.ofText "(nil)".toList)
    else return progress.add ({ layout with marked := true }.ofNatural 'x' word)
  | 'n' =>
    let (word, progress) := progress.take supply
    let memory ← progress.memory.write? word size (progress.count % Code.range size)
    return { progress with memory }
  | letter =>
    if "fFeEgGaA".toList.contains letter then
      let (word, progress) := progress.take supply
      let number := Float.ofBits (UInt64.ofNat word)
      return progress.add (layout.ofQuantity letter (.ofFloat number))
    else return progress

/-- Fills what is left of a format. -/
def fillFrom? (supply : Supply) : Nat → List Char → Progress → Option Progress
  | 0, _, progress => some progress
  | _ + 1, [], progress => some progress
  | fuel + 1, '%' :: rest, progress =>
    match Text.Directive.read? rest with
    | some (directive, rest) => do fillFrom? supply fuel rest (← fill? supply directive progress)
    | none => some progress
  | fuel + 1, text, progress =>
    let plain := text.takeWhile (· != '%')
    fillFrom? supply fuel (text.drop plain.length) (progress.add plain)

/-- Fills a format: the output, and memory behind it. -/
def run? (memory : Memory) (format : List Char) (supply : Supply) : Option (List Char × Memory) := do
  let progress ← fillFrom? supply (format.length + 1) format { memory }
  return (progress.pieces.reverse.flatten, progress.memory)

end Printing

end KernelCache.Standard

/-! ## Input by a format

`Scanning.run?` reads a text by a format and writes what it reads to the addresses that the
arguments are.
-/

namespace KernelCache.Standard.Scanning

open KernelCache.Code (Memory Value)

/-- What has been read. -/
structure Progress where
  memory : Memory
  text : List Char
  /-- How many arguments were taken. -/
  taken : Nat := 0
  /-- How many values were written. -/
  found : Nat := 0
  /-- The number of characters that were read. -/
  count : Nat := 0
  /-- Whether the text does not go on as the format says. -/
  isOver : Bool := false
  /-- Whether the text ended in front of a directive. -/
  isEmpty : Bool := false

/-- Whether a character is white space. -/
def isBlank (char : Char) : Bool := char == ' ' || ('\t' ≤ char && char ≤ '\r')

namespace Progress

/-- Goes on behind so many characters. -/
def past (progress : Progress) (count : Nat) : Progress :=
  { progress with text := progress.text.drop count, count := progress.count + count }

/-- Leaves out white space. -/
def skipped (progress : Progress) : Progress :=
  progress.past (progress.text.takeWhile isBlank).length

end Progress

/-- A directive of a format for input. -/
structure Directive where
  /-- Whether what is read is not kept. -/
  isSilent : Bool
  limit : Option Nat
  size : List Char
  letter : Char
  /-- The characters of a set, and whether all others are meant. -/
  set : List Char := []
  isOthers : Bool := false

/-- The characters that a set in brackets names. -/
def expandSet : List Char → List Char
  | first :: '-' :: last :: rest =>
    (List.range (last.toNat + 1 - first.toNat)).map (fun more => Char.ofNat (first.toNat + more))
      ++ expandSet rest
  | first :: rest => first :: expandSet rest
  | [] => []

/-- Reads a directive behind its percent sign. -/
def directive? (text : List Char) : Option (Directive × List Char) :=
  let (isSilent, text) := match text with
    | '*' :: rest => (true, rest)
    | text => (false, text)
  let (limit, text) := match text with
    | first :: _ =>
      if '0' ≤ first ∧ first ≤ '9' then
        let (value, rest) := Text.Directive.numberAt text
        (some value, rest)
      else (none, text)
    | [] => (none, text)
  let (size, text) := text.span fun char => "hlLqjzt".toList.contains char
  match text with
  | '[' :: rest =>
    let (isOthers, rest) := match rest with
      | '^' :: rest => (true, rest)
      | rest => (false, rest)
    let (front, rest) := match rest with
      | ']' :: rest => ([']'], rest)
      | rest => ([], rest)
    let inner := rest.takeWhile (· != ']')
    some ({ isSilent, limit, size, letter := '[', set := front ++ expandSet inner, isOthers },
      rest.drop (inner.length + 1))
  | letter :: rest => some ({ isSilent, limit, size, letter }, rest)
  | [] => none

/-- Keeps what was read at the address that is the next argument. -/
def keep? (supply : Supply) (directive : Directive) (progress : Progress)
    (write : Nat → Memory → Option Memory) : Option Progress :=
  if directive.isSilent then some progress
  else do
    let address := (supply progress.taken).getD 0
    let memory ← write address progress.memory
    return { progress with memory, taken := progress.taken + 1, found := progress.found + 1 }

/-- Writes characters with a NUL behind them. -/
def writeText (chars : List Char) (ends : Bool) (address : Nat) (memory : Memory) :
    Option Memory :=
  let octets := chars.map (fun char => UInt8.ofNat char.toNat) ++ (if ends then [0] else [])
  memory.overwrite? address ⟨octets.toArray⟩

/-- The base of the integers that a letter reads, and the characters of a number at the front. -/
def integerText (letter : Char) (text : List Char) : Nat × List Char :=
  let sign := text.take (if text.head? == some '-' || text.head? == some '+' then 1 else 0)
  let rest := text.drop sign.length
  let isHex := match rest with
    | '0' :: x :: digit :: _ => (x == 'x' || x == 'X') && (Numeral.digit? 16 digit).isSome
    | _ => false
  let base := match letter with
    | 'x' | 'X' | 'p' => 16
    | 'o' => 8
    | 'i' => if isHex then 16 else if rest.head? == some '0' then 8 else 10
    | _ => 10
  let front := if base = 16 && isHex then rest.take 2 else []
  let digits := (rest.drop front.length).takeWhile fun char => (Numeral.digit? base char).isSome
  (base, if digits.isEmpty then [] else sign ++ front ++ digits)

/-- The integer that characters are in a base. -/
def integerOf (base : Nat) (text : List Char) : Int :=
  let isNegative := text.head? == some '-'
  let digits := text.filter fun char => char != '-' && char != '+' && char != 'x' && char != 'X'
  let value : Int := digits.foldl (fun value digit =>
    value * base + ((Numeral.digit? base digit).getD 0 : Nat)) 0
  if isNegative then -value else value

/-- Reads what one directive asks for. -/
def obey? (supply : Supply) (directive : Directive) (progress : Progress) : Option Progress :=
  let blankMatters := ['c', '[', 'n'].contains directive.letter
  let progress := if blankMatters then progress else progress.skipped
  let limited (chars : List Char) : List Char := match directive.limit with
    | some limit => chars.take limit
    | none => chars
  let stopped := { progress with isOver := true, isEmpty := progress.text.isEmpty }
  let size := Printing.width directive.size
  match directive.letter with
  | '%' => if progress.text.head? == some '%' then some (progress.past 1) else some stopped
  | 'n' =>
    if directive.isSilent then some progress
    else do
      let address := (supply progress.taken).getD 0
      let memory ← progress.memory.write? address size progress.count
      return { progress with memory, taken := progress.taken + 1 }
  | 'd' | 'i' | 'u' | 'x' | 'X' | 'o' | 'p' =>
    let (base, text) := integerText directive.letter (limited progress.text)
    if text.isEmpty then some stopped
    else
      let size := if directive.letter = 'p' then 8 else size
      keep? supply directive (progress.past text.length) fun address memory =>
        memory.write? address size (Value.bitsOf size (integerOf base text))
  | 'c' =>
    let count := directive.limit.getD 1
    let chars := progress.text.take count
    if chars.length < count then some stopped
    else keep? supply directive (progress.past count) (writeText chars false)
  | 's' =>
    let chars := limited (progress.text.takeWhile fun char => !isBlank char)
    if chars.isEmpty then some stopped
    else keep? supply directive (progress.past chars.length) (writeText chars true)
  | '[' =>
    let chars := limited (progress.text.takeWhile fun char =>
      directive.set.contains char != directive.isOthers)
    if chars.isEmpty then some stopped
    else keep? supply directive (progress.past chars.length) (writeText chars true)
  | letter =>
    if "fFeEgGaA".toList.contains letter then
      match Decimal.Quantity.read? (limited progress.text) with
      | none => some stopped
      | some (quantity, rest) =>
        let count := (limited progress.text).length - rest.length
        let number := quantity.toFloat
        keep? supply directive (progress.past count) fun address memory =>
          if directive.size.isEmpty then
            memory.write? address 4 number.toFloat32.toBits.toNat
          else memory.write? address 8 number.toBits.toNat
    else some stopped

/-- Reads by what is left of a format. -/
def readFrom? (supply : Supply) : Nat → List Char → Progress → Option Progress
  | 0, _, progress => some progress
  | _ + 1, [], progress => some progress
  | fuel + 1, char :: rest, progress =>
    if progress.isOver then some progress
    else if isBlank char then readFrom? supply fuel rest progress.skipped
    else if char = '%' then
      match directive? rest with
      | some (directive, rest) => do
        readFrom? supply fuel rest (← obey? supply directive progress)
      | none => some progress
    else if progress.text.head? == some char then readFrom? supply fuel rest (progress.past 1)
    else some { progress with isOver := true, isEmpty := progress.text.isEmpty }

/-- Reads a text by a format: the answer, what is left of the text, and memory. -/
def run? (memory : Memory) (format text : List Char) (supply : Supply) :
    Option (Int × List Char × Memory) := do
  let progress ← readFrom? supply (format.length + 1) format { memory, text }
  let answer : Int := if progress.isEmpty && progress.found = 0 then -1 else progress.found
  return (answer, progress.text, progress.memory)

end KernelCache.Standard.Scanning

/-! ## Services for output and input -/

namespace KernelCache.Standard.Stream

open KernelCache.Code (Memory Outcome Service State Value)

/-- The place of what is written to the output later. -/
def buffered : Nat := 257

/-- Notes what is written to a descriptor. -/
def write (descriptor : Nat) (octets : ByteArray) (state : State) : State :=
  { state with written := (descriptor, octets) :: state.written }

/-- The octets of characters. -/
def octetsOf (text : List Char) : ByteArray :=
  ⟨(text.map fun char => UInt8.ofNat char.toNat).toArray⟩

/-- Fills a format that is at an address. -/
def formatted (format : Nat) (supply : Memory → Supply) (state : State) :
    Outcome (List Char × State) :=
  match state.memory.text? format with
  | none => .error (Code.memoryFault, state)
  | some text =>
    match Printing.run? state.memory (Bytes.toChars text) (supply state.memory) with
    | some (output, memory) => .ok (output, { state with memory })
    | none => .error (Code.memoryFault, state)

/-- Writes a filled format to a descriptor. -/
def print (descriptor format : Nat) (supply : Memory → Supply) (state : State) :
    Outcome (Value × State) := do
  let (output, state) ← formatted format supply state
  return (Value.ofInt 4 output.length, write descriptor (octetsOf output) state)

/-- Writes a filled format to an address, no more than so many octets. -/
def printTo (target : Nat) (limit : Option Nat) (format : Nat) (supply : Memory → Supply)
    (state : State) : Outcome (Value × State) := do
  let (output, state) ← formatted format supply state
  let kept := match limit with
    | some limit => output.take (limit - 1)
    | none => output
  let length := Value.ofInt 4 output.length
  if limit = some 0 then return (length, state)
  else state.serve fun memory =>
    (memory.overwrite? target ((octetsOf kept).push 0)).map fun memory => (length, memory)

/-- Reads a text by a format. -/
def scan (text : List Char) (format : Nat) (supply : Memory → Supply) (state : State) :
    Outcome (Value × List Char × State) :=
  let found : Option (Int × List Char × Memory) := do
    let octets ← state.memory.text? format
    Scanning.run? state.memory (Bytes.toChars octets) text (supply state.memory)
  match found with
  | some (answer, rest, memory) => .ok (Value.ofInt 4 answer, rest, { state with memory })
  | none => .error (Code.memoryFault, state)

/-- Reads a text at an address by a format. -/
def scanAt (source format : Nat) (supply : Memory → Supply) (state : State) :
    Outcome (Value × State) := do
  match state.memory.text? source with
  | none => .error (Code.memoryFault, state)
  | some octets =>
    let (answer, _, state) ← scan (Bytes.toChars octets) format supply state
    return (answer, state)

/-- Reads the input by a format. -/
def scanInput (format : Nat) (supply : Memory → Supply) (state : State) :
    Outcome (Value × State) := do
  let (answer, rest, state) ← scan (Bytes.toChars state.input) format supply state
  return (answer, { state with input := rest.map fun char => UInt8.ofNat char.toNat })

/-- Arguments behind so many others. -/
def behind (count : Nat) (given : List Value) : Memory → Supply := fun _ =>
  .ofValues (given.drop count)

/-- Arguments in a list that is an argument. -/
def listed (index : Nat) (given : List Value) : Memory → Supply := fun memory =>
  .inMemory memory (word given index)

/-- The number of octets that a limit allows. -/
def limitOf (given : List Value) (index : Nat) : Option Nat := some (word given index)

/-- Reads the next octet of the input. -/
def readOctet (state : State) : Value × State :=
  match state.input with
  | first :: rest => (.word first.toNat, { state with input := rest })
  | [] => (Value.ofInt 4 (-1), state)

/-- Octets that wait for the output at most. -/
def bufferSize : Nat := 4096

/-- What a run wrote, in the order in which it arrives: its descriptors, and the octets. What waits
at the end gets lost when the run does not end in order. -/
def arrived (inOrder : Bool) (written : List (Nat × ByteArray)) : List (Nat × ByteArray) :=
  let step (entry : ByteArray × List (Nat × ByteArray)) (item : Nat × ByteArray) :
      ByteArray × List (Nat × ByteArray) :=
    let (waiting, done) := entry
    if item.1 = buffered then
      let waiting := waiting ++ item.2
      if waiting.size < bufferSize then (waiting, done)
      else
        let whole := waiting.size / bufferSize * bufferSize
        (waiting.extract whole waiting.size, (1, waiting.extract 0 whole) :: done)
    else if item.1 = buffered + 1 then (.empty, (1, waiting) :: done)
    else (waiting, item :: done)
  let (waiting, done) := written.reverse.foldl step (ByteArray.empty, [])
  (if inOrder then (1, waiting) :: done else done).reverse

/-- Services for output and input. -/
def services : List (String × Service) :=
  [("printf", fun given state => print buffered (word given 0) (behind 1 given) state),
    ("vprintf", fun given state => print buffered (word given 0) (listed 1 given) state),
    ("dprintf", fun given state => print (word given 0) (word given 1) (behind 2 given) state),
    ("vdprintf", fun given state => print (word given 0) (word given 1) (listed 2 given) state),
    ("sprintf", fun given state => printTo (word given 0) none (word given 1) (behind 2 given) state),
    ("vsprintf", fun given state =>
      printTo (word given 0) none (word given 1) (listed 2 given) state),
    ("snprintf", fun given state =>
      printTo (word given 0) (limitOf given 1) (word given 2) (behind 3 given) state),
    ("vsnprintf", fun given state =>
      printTo (word given 0) (limitOf given 1) (word given 2) (listed 3 given) state),
    ("sscanf", fun given state => scanAt (word given 0) (word given 1) (behind 2 given) state),
    ("vsscanf", fun given state => scanAt (word given 0) (word given 1) (listed 2 given) state),
    ("scanf", fun given state => scanInput (word given 0) (behind 1 given) state),
    ("vscanf", fun given state => scanInput (word given 0) (listed 1 given) state),
    ("__isoc99_sscanf", fun given state =>
      scanAt (word given 0) (word given 1) (behind 2 given) state),
    ("__isoc99_scanf", fun given state => scanInput (word given 0) (behind 1 given) state),
    ("write", fun given state =>
      match state.memory.slice? (word given 1) (word given 2) with
      | some octets => .ok (.word (word given 2), write (word given 0) octets state)
      | none => if word given 2 = 0 then .ok (.word 0, state)
        else .ok (Value.ofInt 8 (-1), state)),
    ("read", fun given state =>
      let octets := if word given 0 = 0 then state.input.take (word given 2) else []
      { state with input := state.input.drop octets.length }.serve fun memory =>
        (memory.overwrite? (word given 1) ⟨octets.toArray⟩).map fun memory =>
          (.word octets.length, memory)),
    ("getchar", fun _ state => .ok (readOctet state)),
    ("__next_octet", fun _ state => .ok (.word ((state.input.head?).elim (Code.range 4 - 1) (·.toNat)),
      state))]

end KernelCache.Standard.Stream
