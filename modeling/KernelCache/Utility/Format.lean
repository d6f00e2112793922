import KernelCache.Text.Directive

/-
**Formatted output of commands.**

`Format.echo` joins words and obeys backslashes; `Format.printf` fills a format with arguments, and
starts the format again as long as arguments are left. There are two customs, a narrow one and a
generous one with more escapes and more directives.
-/

namespace KernelCache.Format

open Text (Directive Layout)
open Decimal (Quantity)

/-- What a format may hold. -/
inductive Custom where
  | narrow
  | generous
  /-- As generous, with other words about what is wrong. -/
  | explicit
  deriving DecidableEq, Repr

/-! ### Backslashes -/

/-- Where a backslash stands. -/
inductive Place where
  /-- In a format. -/
  | format
  /-- In an argument, where a zero may stand in front of octal digits. -/
  | argument
  /-- In words that are only written, where that zero has to be there. -/
  | words
  deriving DecidableEq, Repr

/-- What a backslash with what follows it stands for. -/
structure Escape where
  chars : List Char
  rest : List Char
  /-- Whether output ends here. -/
  ends : Bool := false

/-- The UTF-8 form of a character, as octets. -/
def encoded (value : Nat) : List Char :=
  if value < 0x80 then [Char.ofNat value]
  else if value < 0x800 then [Char.ofNat (0xC0 + value / 64), Char.ofNat (0x80 + value % 64)]
  else if value < 0x10000 then
    [Char.ofNat (0xE0 + value / 4096), Char.ofNat (0x80 + value / 64 % 64),
      Char.ofNat (0x80 + value % 64)]
  else
    [Char.ofNat (0xF0 + value / 262144 % 8), Char.ofNat (0x80 + value / 4096 % 64),
      Char.ofNat (0x80 + value / 64 % 64), Char.ofNat (0x80 + value % 64)]

/-- An octal digit. -/
def isOctal (char : Char) : Bool := '0' ≤ char && char ≤ '7'

/-- The value of octal digits. -/
def octal (digits : List Char) : Nat :=
  digits.foldl (fun value digit => value * 8 + (digit.toNat - 48)) 0

/-- A backslash with what follows it. -/
def escape (custom : Custom) (place : Place) (text : List Char) : Escape :=
  let one (char : Char) (rest : List Char) : Escape := { chars := [char], rest }
  let digits (count : Nat) (text : List Char) : Escape :=
    let digits := (text.take count).takeWhile isOctal
    one (Char.ofNat (octal digits % 256)) (text.drop digits.length)
  let hex (count : Nat) (rest : List Char) (write : Nat → List Char) : Escape :=
    let digits := (rest.take count).takeWhile fun char => (Numeral.digit? 16 char).isSome
    if digits = [] then { chars := '\\' :: text.take 1, rest }
    else { chars := write (Quantity.valueOf 16 digits), rest := rest.drop digits.length }
  match text with
  | [] => { chars := ['\\'], rest := [] }
  | letter :: rest =>
    match letter with
    | 'a' => one '\x07' rest
    | 'b' => one '\x08' rest
    | 'e' => one '\x1b' rest
    | 'f' => one '\x0c' rest
    | 'n' => one '\n' rest
    | 'r' => one '\r' rest
    | 't' => one '\t' rest
    | 'v' => one '\x0b' rest
    | '\\' => one '\\' rest
    | 'c' =>
      if place = .format ∧ custom = .narrow then { chars := ['\\', 'c'], rest }
      else { chars := [], rest, ends := true }
    | '0' => if place = .format then digits 3 text else digits 3 rest
    | _ =>
      if isOctal letter ∧ (place ≠ .words ∨ custom = .narrow) then digits 3 text
      else if custom ≠ .narrow then
        match letter with
        | 'E' => one '\x1b' rest
        | '"' => if place = .words then { chars := ['\\', letter], rest } else one letter rest
        | '\'' => if place = .argument then one letter rest else { chars := ['\\', letter], rest }
        | '?' => if place = .words then { chars := ['\\', letter], rest } else one letter rest
        | 'x' => hex 2 rest fun value => [Char.ofNat (value % 256)]
        | 'u' => hex 4 rest encoded
        | 'U' => hex 8 rest encoded
        | _ => { chars := ['\\', letter], rest }
      else { chars := ['\\', letter], rest }

/-- A text with its backslashes obeyed, and whether output ends in it. -/
def unescape (custom : Custom) (place : Place) : Nat → List Char → List Char × Bool
  | 0, text => (text, false)
  | _ + 1, [] => ([], false)
  | fuel + 1, '\\' :: rest =>
    let found := escape custom place rest
    if found.ends then (found.chars, true)
    else
      let (more, ends) := unescape custom place fuel found.rest
      (found.chars ++ more, ends)
  | fuel + 1, char :: rest =>
    let (more, ends) := unescape custom place fuel rest
    (char :: more, ends)

/-- The output of words with blanks between them. -/
def echo (words : List (List Char)) : List Char :=
  let (newline, words) := match words with
    | ['-', 'n'] :: rest => (false, rest)
    | _ => (true, words)
  let text := [' '].intercalate words
  let (chars, ends) := unescape .narrow .words text.length text
  if newline && !ends then chars ++ ['\n'] else chars

/-- The same with letters in front that say whether a line ends and whether backslashes count. -/
def generousEcho (words : List (List Char)) : List Char :=
  let isFlag (word : List Char) : Bool :=
    match word with
    | '-' :: letter :: more => (letter :: more).all fun letter => "neE".toList.contains letter
    | _ => false
  let letters := (words.takeWhile isFlag).flatMap (·.drop 1)
  let text := [' '].intercalate (words.dropWhile isFlag)
  let obeys := (letters.filter (· != 'n')).getLast? = some 'e'
  let (chars, ends) :=
    if obeys then unescape .generous .words text.length text else (text, false)
  if letters.contains 'n' || ends then chars else chars ++ ['\n']

/-! ### Formats -/

/-- What is left while a format is filled. -/
structure Filling where
  arguments : List (List Char)
  /-- The pieces of the output, the last first. -/
  pieces : List (List Char) := []
  complaints : List (List Char) := []
  /-- The status so far. -/
  status : Nat := 0
  ended : Bool := false

namespace Filling

/-- Takes the next argument. -/
def take (filling : Filling) : Option (List Char) × Filling :=
  (filling.arguments.head?, { filling with arguments := filling.arguments.drop 1 })

/-- Adds output. -/
def add (filling : Filling) (chars : List Char) : Filling :=
  { filling with pieces := chars :: filling.pieces }

/-- Complains, and goes on. -/
def warn (filling : Filling) (text : List Char) : Filling :=
  { filling with complaints := filling.complaints ++ [text], status := max filling.status 1 }

/-- Complains, and stops. -/
def stop (custom : Custom) (filling : Filling) (text : List Char) : Filling :=
  { filling.warn text with status := if custom = .narrow then 2 else 1, ended := true }

/-- The output. -/
def output (filling : Filling) : List Char := filling.pieces.reverse.flatten

end Filling

/-- Whether a blank may stand in front of a number. -/
def isBlank (char : Char) : Bool := char == ' ' || ('\t' ≤ char && char ≤ '\r')

/-- The integer at the front of a text with its base told from its first digits, and what follows
it. -/
def integerAt (text : List Char) : Option (Int × List Char) :=
  let body := text.dropWhile isBlank
  let (negative, body) := match body with
    | '-' :: rest => (true, rest)
    | '+' :: rest => (false, rest)
    | rest => (false, rest)
  let (base, digits) := match body with
    | '0' :: letter :: rest =>
      if (letter = 'x' ∨ letter = 'X') ∧ rest.head?.any fun char => (Numeral.digit? 16 char).isSome
      then (16, rest) else (8, body)
    | _ => (10, body)
  let base := if base = 10 ∧ digits.head? = some '0' then 8 else base
  let (run, rest) := Quantity.digitsAt base digits
  if run = [] then none
  else
    let value : Int := Quantity.valueOf base run
    some (if negative then -value else value, rest)

/-- What is wrong with an argument that should be a number and has something left behind it. -/
def misfit (custom : Custom) (argument : List Char) (started : Bool) : List Char :=
  match custom with
  | .narrow =>
    if started then argument ++ ": not completely converted".toList
    else argument ++ ": expected numeric value".toList
  | .generous => argument ++ ": invalid number".toList
  | .explicit =>
    '\'' :: argument ++ (if started then "': value not completely converted"
      else "': expected a numeric value").toList

/-- The integer that an argument means, between two bounds. -/
def integerOf (custom : Custom) (low high : Int) (filling : Filling) : Int × Filling :=
  match filling.take with
  | (none, filling) => (0, filling)
  | (some argument, filling) =>
    match argument with
    | '\'' :: rest | '"' :: rest => ((rest.headD '\x00').toNat, filling)
    | _ =>
      match integerAt argument with
      | none => (0, if argument = [] then filling else filling.warn (misfit custom argument false))
      | some (value, rest) =>
        let filling := if rest ≠ [] then filling.warn (misfit custom argument true)
          else if value < low ∨ high < value then
            filling.warn (argument ++ ": Numerical result out of range".toList)
          else filling
        (max low (min high value), filling)

/-- The number that an argument means. -/
def quantityOf (custom : Custom) (filling : Filling) : Quantity × Filling :=
  let precision := match custom with
    | .narrow => Quantity.Precision.usual
    | .generous | .explicit => Quantity.Precision.wide
  match filling.take with
  | (none, filling) => (.ofNat 0, filling)
  | (some argument, filling) =>
    match argument with
    | '\'' :: rest | '"' :: rest => (.ofNat (rest.headD '\x00').toNat, filling)
    | _ =>
      match Quantity.read? argument with
      | none =>
        (.ofNat 0, if argument = [] then filling else filling.warn (misfit custom argument false))
      | some (exact, rest) =>
        let found := exact.rounded precision
        let lost := match exact, found with
          | .finite _ _, .infinite _ => true
          | .finite _ size, .finite _ near =>
            size.numerator != 0 && (near.numerator == 0 || near.binaryExponent < -1021)
          | _, _ => false
        let filling := if rest ≠ [] then filling.warn (misfit custom argument true)
          else if lost then filling.warn (argument ++ ": Numerical result out of range".toList)
          else filling
        (found, filling)

/-- The width or the precision that comes from the arguments. -/
def extentOf (custom : Custom) (extent : Text.Extent) (filling : Filling) : Int × Filling :=
  match extent with
  | .argument => integerOf custom (-2147483648) 2147483647 filling
  | _ => (0, filling)

/-- How a word is written so that a shell reads it again. -/
abbrev Quote := List Char → List Char

/-- Fills one directive. -/
def fillOne (custom : Custom) (quote : Quote) (directive : Directive) (filling : Filling) :
    Filling :=
  let (width, filling) := extentOf custom directive.width filling
  let (precision, filling) := extentOf custom directive.precision filling
  let layout := directive.layout width precision
  let limit : Int := twoTo 63
  match directive.letter with
  | 's' =>
    let (argument, filling) := filling.take
    filling.add (layout.ofText (argument.getD []))
  | 'q' =>
    let (argument, filling) := filling.take
    filling.add (layout.ofText (quote (argument.getD [])))
  | 'b' =>
    let (argument, filling) := filling.take
    let argument := argument.getD []
    let (text, ends) := unescape custom .argument argument.length argument
    let filling := filling.add (layout.ofText text)
    { filling with ended := ends }
  | 'c' =>
    let (argument, filling) := filling.take
    let chars := [((argument.getD []).head?).getD '\x00']
    filling.add ({ layout with precision? := none }.ofText chars)
  | 'd' | 'i' =>
    let (value, filling) := integerOf custom (-limit) (limit - 1) filling
    filling.add (layout.ofInteger value)
  | 'u' | 'o' | 'x' | 'X' =>
    let (value, filling) := integerOf custom (-limit) (2 * limit - 1) filling
    filling.add (layout.ofNatural directive.letter (value % (2 * limit)).toNat)
  | letter =>
    let (quantity, filling) := quantityOf custom filling
    filling.add (layout.ofQuantity letter quantity)

/-- Fills a format once. -/
def fill (custom : Custom) (quote : Quote) : Nat → List Char → Filling → Filling
  | 0, _, filling => filling
  | _ + 1, [], filling => filling
  | fuel + 1, '\\' :: rest, filling =>
    let found := escape custom .format rest
    let filling := { filling.add found.chars with ended := found.ends }
    if found.ends then filling else fill custom quote fuel found.rest filling
  | fuel + 1, '%' :: '%' :: rest, filling => fill custom quote fuel rest (filling.add ['%'])
  | fuel + 1, '%' :: rest, filling =>
    match Directive.read? rest with
    | none =>
      filling.stop custom (if custom = .narrow then "missing format character".toList
        else Char.ofNat 0x60 :: "%': missing format character".toList)
    | some (directive, behind) =>
      let known := "sbcdiuoxXeEfFgGaA".toList.contains directive.letter
        || (custom != .narrow && directive.letter == 'q')
      if !known ∨ (custom = .narrow ∧ directive.size ≠ []) then
        let length := rest.length - behind.length
        let length := if directive.size ≠ [] ∧ custom = .narrow then
          length - directive.size.length else length
        filling.stop custom (match custom with
          | .narrow => '%' :: rest.take length ++ ": invalid directive".toList
          | .generous => [Char.ofNat 0x60, directive.letter] ++ "': invalid format character".toList
          | .explicit => '%' :: rest.take length ++ ": invalid conversion specification".toList)
      else
        let filling := fillOne custom quote directive filling
        if filling.ended then filling else fill custom quote fuel behind filling
  | fuel + 1, char :: rest, filling =>
    let run := (char :: rest).takeWhile fun char => char != '%' && char != '\\'
    fill custom quote fuel ((char :: rest).drop run.length) (filling.add run)

/-- Fills a format until no arguments are left or none is used. -/
def fillAll (custom : Custom) (quote : Quote) (format : List Char) : Nat → Filling → Filling
  | 0, filling => filling
  | fuel + 1, filling =>
    let next := fill custom quote (format.length + 1) format filling
    if next.ended || next.arguments.isEmpty
        || next.arguments.length = filling.arguments.length then next
    else fillAll custom quote format fuel next

/-- A format filled with arguments. -/
def printf (custom : Custom) (quote : Quote) (format : List Char)
    (arguments : List (List Char)) : Filling :=
  fillAll custom quote format (arguments.length + 1) { arguments }

end KernelCache.Format
