import KernelCache.Decimal.Shortest
import KernelCache.Text.Numeral

/-
**The words of a TOML document.**

Blanks, line ends and comments; strings in their four forms; numbers; dates. Each scan reads one
word and stops where the format does not allow it. What has begun like one kind of word and can be
no other kind is committed.
-/

/-! ## Reading a text from the left

A cursor is the rest of a text and the number of characters before it. A `Scan` reads some
characters and yields a value, or stops and says where. What stops may be tried in another way,
unless it is committed.

* `Scan.committed` rules out other ways: the place of a fault is then where the scan stopped, and
  not where the last of all other ways did.
* `Scan.many` repeats a scan; it ends because every round has to consume something.
-/

namespace KernelCache

/-- A place in a text. -/
structure Cursor where
  offset : Nat
  rest : List Char

/-- How a scan stopped. -/
structure Stop where
  /-- The number of characters before the place where it stopped. -/
  offset : Nat
  /-- Whether nothing else is tried in its place. -/
  final : Bool
  deriving DecidableEq, Repr

/-- Reads characters and yields a value, or stops. -/
def Scan (α : Type) : Type := StateT Cursor (Except Stop) α

namespace Scan

instance : Monad Scan := inferInstanceAs (Monad (StateT Cursor (Except Stop)))

instance : LawfulMonad Scan := inferInstanceAs (LawfulMonad (StateT Cursor (Except Stop)))

instance : MonadStateOf Cursor Scan :=
  inferInstanceAs (MonadStateOf Cursor (StateT Cursor (Except Stop)))

/-- Reads from a cursor on. -/
def run {α : Type} (scan : Scan α) (cursor : Cursor) : Except Stop (α × Cursor) :=
  StateT.run scan cursor

/-- Stops where the text has the given number of characters before it. -/
def stopAt {α : Type} (offset : Nat) (final : Bool) : Scan α :=
  fun _ => .error ⟨offset, final⟩

/-- Stops, so that something else may be tried. -/
protected def failure {α : Type} : Scan α :=
  fun cursor => .error ⟨cursor.offset, false⟩

/-- Tries a second scan from the same place when the first stops. -/
protected def orElse {α : Type} (first : Scan α) (second : Unit → Scan α) : Scan α :=
  fun cursor =>
    match first.run cursor with
    | .error ⟨_, false⟩ => second () cursor
    | outcome => outcome

instance : Alternative Scan where
  failure := Scan.failure
  orElse := Scan.orElse

/-- A scan in whose place nothing else is tried when it stops. -/
def committed {α : Type} (scan : Scan α) : Scan α :=
  fun cursor =>
    match scan.run cursor with
    | .error stop => .error { stop with final := true }
    | outcome => outcome

/-- The next character, which stays. -/
def peek? : Scan (Option Char) := do
  return (← get).rest.head?

/-- Whether the text goes on with the given characters. -/
def looksAt (text : List Char) : Scan Bool := do
  return text.isPrefixOf (← get).rest

/-- The number of characters read so far. -/
def position : Scan Nat := do
  return (← get).offset

/-- Leaves out characters. -/
def skip (count : Nat) : Scan Unit :=
  modify fun cursor => ⟨cursor.offset + count, cursor.rest.drop count⟩

/-- Reads one character of a class. -/
def satisfy (accepts : Char → Bool) : Scan Char := do
  match ← peek? with
  | some char => if accepts char then do skip 1; return char else failure
  | none => failure

/-- Reads exactly the given characters. -/
def text (chars : List Char) : Scan Unit := do
  if ← looksAt chars then skip chars.length else failure

/-- Reads one given character. -/
def char (expected : Char) : Scan Unit := do
  discard (satisfy (· == expected))

/-- Reads the longest run of characters of a class. -/
def span (accepts : Char → Bool) : Scan (List Char) := do
  let run := (← get).rest.takeWhile accepts
  skip run.length
  return run

/-- Reads a run of at least one character of a class. -/
def span1 (accepts : Char → Bool) : Scan (List Char) := do
  let run ← span accepts
  if run.isEmpty then failure else return run

/-- Succeeds at the end of the text. -/
def finish : Scan Unit := do
  if (← get).rest.isEmpty then return () else failure

/-- Repeats a scan at most the given number of times, until it stops or consumes nothing. -/
def manyUpTo {α : Type} (scan : Scan α) : Nat → Scan (List α)
  | 0 => return []
  | fuel + 1 => do
    let before ← position
    match ← optional scan with
    | none => return []
    | some item =>
      if (← position) = before then return [item]
      else return item :: (← manyUpTo scan fuel)

/-- Repeats a scan until it stops or consumes nothing. -/
def many {α : Type} (scan : Scan α) : Scan (List α) := do
  manyUpTo scan ((← get).rest.length + 1)

/-- Runs a scan over a whole text. -/
def run? {α : Type} (scan : Scan α) (source : List Char) : Option α :=
  match (scan <* finish).run ⟨0, source⟩ with
  | .ok (value, _) => some value
  | .error _ => none

end Scan

end KernelCache

/-! ## The words of a TOML document -/

namespace KernelCache.Toml.Scan

open KernelCache.Scan

/-! ### Blanks -/

/-- A tab or a space. -/
def isBlank (char : Char) : Bool := char == '\t' || char == ' '

/-- Characters that may stand in comments and in strings that have no escapes. -/
def isPrintable (char : Char) : Bool :=
  char == '\t' || (0x20 ≤ char.toNat && char.toNat != 0x7F)

/-- Blanks of any number. -/
def blanks : Scan Unit := discard (span isBlank)

/-- One line end, with or without a carriage return; it stops behind a character that is none. -/
def newline : Scan Unit := do
  match ← satisfy fun _ => true with
  | '\n' => return
  | '\r' => char '\n'
  | _ => failure

/-- A comment up to its line end. -/
def comment : Scan Unit := do
  char '#'
  discard (span isPrintable)

/-- Blanks and a comment at the end of a line. -/
def lineEnd : Scan Unit := do
  blanks
  discard (optional comment)
  newline <|> finish

/-- Blanks, comments and line ends, of which at most the given number are read. -/
def gapUpTo : Nat → Scan Unit
  | 0 => return
  | fuel + 1 => do
    match ← peek? with
    | some '#' => do
      comment
      newline
      gapUpTo fuel
    | some '\n' | some '\r' => do
      newline
      gapUpTo fuel
    | some char =>
      if isBlank char then do
        blanks
        gapUpTo fuel
      else return
    | none => return

/-- Blanks, comments and line ends between the values of an array; each comment ends its line. -/
def gap : Scan Unit := do
  gapUpTo (← get).rest.length

/-! ### Strings -/

/-- A character by its number in hexadecimal digits. -/
def scalar (width : Nat) : Scan Char := do
  let digits := (← get).rest.take width
  match Numeral.digits? 16 (twoTo 32) 0 digits with
  | some value =>
    if digits.length = width ∧ value.isValidChar then do
      skip width
      return Char.ofNat value
    else failure
  | none => failure

/-- What follows a backslash. A stop at a character that means nothing is behind it when it is one
octet long, and in front of it otherwise. -/
def escape : Scan Char := do
  let start ← position
  match ← satisfy fun _ => true with
  | 'b' => return '\x08'
  | 't' => return '\t'
  | 'n' => return '\n'
  | 'f' => return '\x0c'
  | 'r' => return '\r'
  | '"' => return '"'
  | '\\' => return '\\'
  | 'u' => committed (scalar 4)
  | 'U' => committed (scalar 8)
  | other => stopAt (if other.utf8Size = 1 then start + 1 else start) true

/-- A character of a string between double quotes that stands for itself. -/
def isBasic (char : Char) : Bool :=
  isPrintable char && char != '"' && char != '\\'

/-- A character of a string between single quotes. -/
def isLiteral (char : Char) : Bool :=
  isPrintable char && char != '\''

/-- A string of one line between double quotes. -/
def basicString : Scan String := do
  char '"'
  let chars ← many (satisfy isBasic <|> (do char '\\'; escape))
  committed (char '"')
  return String.ofList chars

/-- A string of one line between single quotes. -/
def literalString : Scan String := do
  char '\''
  let chars ← span isLiteral
  committed (char '\'')
  return String.ofList chars

/-- A backslash at the end of a line takes away all white space that follows. -/
def lineContinuation : Scan Unit := do
  char '\\'
  blanks
  newline
  discard (many ((discard (span1 isBlank)) <|> newline))

/-- Up to two quotes that do not end a string of several lines, or that stand before its end. -/
def innerQuotes (quote : Char) (ending : Bool) : Scan (List Char) := do
  let rest := (← get).rest
  let run := rest.takeWhile (· == quote)
  if ending then
    let extra := min (run.length - 3) 2
    skip extra
    return run.take extra
  else if (run.length = 1 ∨ run.length = 2) ∧ run.length < rest.length then do
    skip run.length
    return run
  else failure

/-- The characters of a string of several lines, given the scan of one piece and the scan of quotes
between pieces. -/
def severalLines (quote : Char) (piece inner : Scan (List Char)) : Scan String := do
  let fence := [quote, quote, quote]
  text fence
  discard (optional newline)
  let pieces ← many (piece <|> inner)
  let last ← innerQuotes quote true
  committed (text fence)
  return String.ofList (pieces.flatten ++ last)

/-- A piece of a string of several lines between double quotes. -/
def basicPiece : Scan (List Char) :=
  span1 isBasic <|> (do newline; return ['\n']) <|> (do lineContinuation; return [])
    <|> (do char '\\'; return [← escape])

/-- A string of several lines between double quotes. -/
def basicLines : Scan String :=
  severalLines '"' basicPiece (innerQuotes '"' false)

/-- A piece of a string of several lines between single quotes. -/
def literalPiece : Scan (List Char) :=
  span1 isLiteral <|> (do newline; return ['\n'])

/-- A string of several lines between single quotes; a piece follows quotes inside. -/
def literalLines : Scan String :=
  severalLines '\'' literalPiece do
    let quotes ← innerQuotes '\'' false
    return quotes ++ (← literalPiece)

/-- A string in any of the four forms. -/
def anyString : Scan String :=
  basicLines <|> basicString <|> literalLines <|> literalString

/-! ### Numbers -/

/-- Digits of a class with single underscores between them. -/
def underscored (accepts : Char → Bool) : Scan (List Char) := do
  let first ← satisfy accepts
  let others ← many (satisfy accepts <|> (do char '_'; committed (satisfy accepts)))
  return first :: others

/-- A decimal digit. -/
def isDigit (char : Char) : Bool := '0' ≤ char && char ≤ '9'

/-- A sign. -/
def sign : Scan Bool :=
  (do char '-'; return true) <|> (do char '+'; return false) <|> return false

/-- The digits of a decimal number without leading zeros. -/
def decimalDigits : Scan (List Char) := do
  if (← peek?) = some '0' then return [← satisfy isDigit] else underscored isDigit

/-- The value of digits in a base. -/
def digitsValue (base : Nat) (digits : List Char) : Nat :=
  digits.foldl (fun value digit => value * base + (Numeral.digitValue? digit).getD 0) 0

/-- The digits of an exponent. -/
def exponent : Scan Int := do
  discard (satisfy fun char => char == 'e' || char == 'E')
  let negative ← sign
  let digits ← committed (underscored isDigit)
  let value : Int := digitsValue 10 digits
  return if negative then -value else value

/-- The digits behind a decimal point. -/
def fraction : Scan (List Char) := do
  char '.'
  committed (underscored isDigit)

/-- A number with a fraction or an exponent; a positive one that is too large is refused. -/
def finiteFloat : Scan Float := do
  let start ← position
  let negative ← sign
  let whole ← decimalDigits
  let (places, power) ←
    (do let power ← exponent; return ([], power))
      <|> (do let places ← fraction; let power ← optional exponent; return (places, power.getD 0))
  let digits := digitsValue 10 (whole ++ places)
  let count := if digits = 0 then 0 else (toString digits).length
  let value := Decimal.read negative digits count (power - places.length)
  if value.isInf && !negative then stopAt start true else return value

/-- A float that is no number, or is infinite. -/
def specialFloat : Scan Float := do
  let negative ← sign
  (do
    text ['i', 'n', 'f']
    return if negative then -1 / 0 else 1 / 0)
    <|> (do text ['n', 'a', 'n']; return 0 / 0)

/-- An integer of 64 bits; another one stops at its start. -/
def integer64 (start : Nat) (value : Int) : Scan Int :=
  if -(twoTo 63) ≤ value ∧ value < twoTo 63 then return value else stopAt start true

/-- Digits of a base behind its mark. -/
def marked (mark : Char) (base : Nat) : Scan Int := do
  let start ← position
  text ['0', mark]
  let digits ← committed (underscored fun char => (Numeral.digit? base char).isSome)
  integer64 start (digitsValue base digits)

/-- A decimal integer. -/
def decimalInteger : Scan Int := do
  let start ← position
  let negative ← sign
  let digits ← decimalDigits
  let value : Int := digitsValue 10 digits
  integer64 start (if negative then -value else value)

/-- An integer in any of the four bases. -/
def integer : Scan Int :=
  marked 'x' 16 <|> marked 'o' 8 <|> marked 'b' 2 <|> decimalInteger

/-! ### Dates -/

/-- A fixed number of digits with a value in a range. -/
def digitsWithin (width low high : Nat) : Scan Nat := do
  let digits := (← get).rest.take width
  let value := digitsValue 10 digits
  if digits.length = width ∧ digits.all isDigit ∧ low ≤ value ∧ value ≤ high then do
    skip width
    return value
  else failure

/-- The days of a month. -/
def daysIn (year month : Nat) : Nat :=
  if month = 2 then
    if year % 4 = 0 ∧ (year % 100 ≠ 0 ∨ year % 400 = 0) then 29 else 28
  else if month = 4 ∨ month = 6 ∨ month = 9 ∨ month = 11 then 30
  else 31

/-- A day of a year. -/
def day : Scan Unit := do
  let year ← digitsWithin 4 0 9999
  char '-'
  committed do
    let month ← digitsWithin 2 1 12
    char '-'
    discard (digitsWithin 2 1 (daysIn year month))

/-- A time of day. -/
def time : Scan Unit := do
  discard (digitsWithin 2 0 23)
  char ':'
  committed do
    discard (digitsWithin 2 0 59)
    char ':'
    discard (digitsWithin 2 0 60)
    discard (optional (do char '.'; discard (span1 isDigit)))

/-- The offset of a time zone. -/
def zone : Scan Unit :=
  discard (satisfy fun char => char == 'Z' || char == 'z') <|> do
    discard (satisfy fun char => char == '+' || char == '-')
    committed do
      discard (digitsWithin 2 0 23)
      char ':'
      discard (digitsWithin 2 0 59)

/-- A day, a time, or both. -/
def date : Scan Unit :=
  (do
    day
    discard (optional do
      discard (satisfy fun char => char == 'T' || char == 't' || char == ' ')
      time
      discard (optional zone)))
    <|> time

end KernelCache.Toml.Scan
