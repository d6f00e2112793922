import KernelCache.Decimal.Shortest
import KernelCache.Text.Numeral
import KernelCache.Text.Utf8

/-
**The tokens of C.**

Source text is a list of octets, each written as the character of that number. `Lexeme.lines?` reads
a text line by line, without comments; a line that ends in a backslash goes on in the next one.
-/

namespace KernelCache.C

/-- A token, as it is written. -/
inductive Token where
  | name (text : String)
  | number (text : String)
  | character (text : String)
  | text (text : String)
  /-- An operator or a separator. -/
  | mark (text : String)
  /-- A character that starts no token. -/
  | stray (char : Char)
  deriving DecidableEq, Repr, Inhabited

/-- A token, and whether white space stands in front of it. -/
structure Lexeme where
  token : Token
  spaced : Bool := false
  /-- The number of its line. -/
  line : Nat := 0
  /-- The number of characters in front of it in its line. -/
  column : Nat := 0
  /-- The number of the file that it stands in. -/
  file : Nat := 0
  /-- The macros that the token came from; it stands for none of them. -/
  hidden : List String := []
  deriving Repr

/-- The languages a source can be in. -/
inductive Dialect where
  /-- Names stay as they are. -/
  | c
  /-- Functions are named by their parameters, too. -/
  | cpp
  | assembly
  deriving DecidableEq, Repr

namespace Token

/-- The token as it is written. -/
def spelling : Token → String
  | .name written | .number written | .character written | .text written | .mark written => written
  | .stray char => char.toString

/-- A character that can start a name. -/
def isNameStart (char : Char) : Bool :=
  ('a' ≤ char && char ≤ 'z') || ('A' ≤ char && char ≤ 'Z') || char == '_' || char == '$'
    || 0x80 ≤ char.toNat

/-- A decimal digit. -/
def isDigit (char : Char) : Bool := '0' ≤ char && char ≤ '9'

/-- A character inside a name. -/
def isNamePart (char : Char) : Bool := isNameStart char || isDigit char

/-- White space within a line. -/
def isBlank (char : Char) : Bool :=
  char == ' ' || char == '\t' || char == '\x0b' || char == '\x0c' || char == '\r' || char == '\x00'

/-- Operators and separators of three characters and more, and what they stand for. -/
def longMarks : List (String × String) :=
  [("%:%:", "##"), ("<<=", "<<="), (">>=", ">>="), ("...", "..."), ("->*", "->*"), ("<=>", "<=>")]

/-- Operators and separators of two characters, and what they stand for. -/
def middleMarks : List (String × String) :=
  [("++", "++"), ("--", "--"), ("->", "->"), ("<<", "<<"), (">>", ">>"), ("<=", "<="),
    (">=", ">="), ("==", "=="), ("!=", "!="), ("&&", "&&"), ("||", "||"), ("+=", "+="),
    ("-=", "-="), ("*=", "*="), ("/=", "/="), ("%=", "%="), ("&=", "&="), ("|=", "|="),
    ("^=", "^="), ("::", "::"), (".*", ".*"), ("##", "##"), ("<:", "["), (":>", "]"),
    ("<%", "\x7b"), ("%>", "\x7d"), ("%:", "#")]

/-- Operators and separators of one character. -/
def shortMarks : List Char := "+-*/%&|^~!<>=?:;,.()[]\x7b\x7d#".toList

/-- Whether a mark is one of C++ only. -/
def isForeign (text : String) : Bool :=
  text == "->*" || text == ".*" || text == "<=>" || text == "::"

/-- The mark at the front of a text, and what follows it. -/
def mark? (plusPlus : Bool) (chars : List Char) : Option (Token × List Char) :=
  let fits (entry : String × String) : Bool :=
    entry.1.toList.isPrefixOf chars && (plusPlus || !isForeign entry.2)
  let split : Bool := plusPlus && "<::".toList.isPrefixOf chars
    && !("<:::".toList.isPrefixOf chars || "<::>".toList.isPrefixOf chars)
  match longMarks.find? fits with
  | some (spelled, meant) => some (mark meant, chars.drop spelled.length)
  | none =>
    match if split then none else middleMarks.find? fits with
    | some (spelled, meant) => some (mark meant, chars.drop spelled.length)
    | none =>
      match chars with
      | char :: rest =>
        if shortMarks.contains char then some (mark char.toString, rest) else none
      | [] => none

/-- The rest of a number that is not yet read. -/
def numberTail : List Char → List Char → List Char × List Char
  | taken, letter :: sign :: rest =>
    if (letter == 'e' || letter == 'E' || letter == 'p' || letter == 'P')
        && (sign == '+' || sign == '-') then
      numberTail (sign :: letter :: taken) rest
    else if letter == '\'' && isNamePart sign then
      numberTail (sign :: letter :: taken) rest
    else if isNamePart letter || letter == '.' then
      numberTail (letter :: taken) (sign :: rest)
    else (taken, letter :: sign :: rest)
  | taken, [letter] =>
    if isNamePart letter || letter == '.' then (letter :: taken, []) else (taken, [letter])
  | taken, [] => (taken, [])

/-- What is read up to a closing quote, the last character first, and what follows it; `none` in an
open constant. -/
def quoted? (quote : Char) : List Char → List Char → Option (List Char × List Char)
  | taken, '\\' :: char :: rest => quoted? quote (char :: '\\' :: taken) rest
  | taken, char :: rest =>
    if char = quote then some (char :: taken, rest)
    else if char = '\n' then none
    else quoted? quote (char :: taken) rest
  | _, [] => none

/-- What is read up to the end of a text without escapes, the last character first. -/
def rawUpTo? (closing : List Char) : List Char → List Char → Option (List Char × List Char)
  | _, [] => none
  | taken, char :: rest =>
    if closing.isPrefixOf (char :: rest) then
      some (closing.reverse ++ taken, (char :: rest).drop closing.length)
    else rawUpTo? closing (char :: taken) rest

/-- The words in front of a quote. -/
def encodings : List String := ["L", "u8", "u", "U"]

/-- Words in front of a text without escapes. -/
def rawWords : List String := ["R", "LR", "u8R", "uR", "UR"]

/-- The first token of a text that does not start with white space, and what follows it. -/
def first? (plusPlus : Bool) (chars : List Char) : Option (Token × List Char) :=
  match chars with
  | [] => none
  | char :: rest =>
    if isNameStart char then
      let word := chars.takeWhile isNamePart
      let behind := chars.drop word.length
      let spelled := String.ofList word
      match behind with
      | '"' :: inner =>
        if plusPlus && rawWords.contains spelled then
          let fence := inner.takeWhile (· != '(')
          match rawUpTo? (')' :: fence ++ ['"']) [] inner with
          | some (taken, rest) => some (text (spelled ++ "\"" ++ String.ofList taken.reverse), rest)
          | none => some (name spelled, behind)
        else if encodings.contains spelled then
          match quoted? '"' [] inner with
          | some (taken, rest) => some (text (spelled ++ "\"" ++ String.ofList taken.reverse), rest)
          | none => some (name spelled, behind)
        else some (name spelled, behind)
      | '\'' :: inner =>
        if encodings.contains spelled then
          match quoted? '\'' [] inner with
          | some (taken, rest) =>
            some (character (spelled ++ "'" ++ String.ofList taken.reverse), rest)
          | none => some (name spelled, behind)
        else some (name spelled, behind)
      | _ => some (name spelled, behind)
    else if isDigit char || (char == '.' && rest.head?.any isDigit) then
      let (taken, rest) := numberTail [char] rest
      some (number (String.ofList taken.reverse), rest)
    else if char = '"' then
      match quoted? '"' [char] rest with
      | some (taken, rest) => some (text (String.ofList taken.reverse), rest)
      | none => some (stray char, rest)
    else if char = '\'' then
      match quoted? '\'' [char] rest with
      | some (taken, rest) => some (character (String.ofList taken.reverse), rest)
      | none => some (stray char, rest)
    else (mark? plusPlus chars).or (some (stray char, rest))

/-! ### Constants -/

/-- What follows a backslash in a constant, as a number; `wide` says whether it stands for a
character rather than for octets. -/
def escape (chars : List Char) : Nat × Bool × List Char :=
  let numeral (base : Nat) (digits : List Char) : Nat :=
    digits.foldl (fun value digit => value * base + (Numeral.digit? base digit).getD 0) 0
  match chars with
  | 'n' :: rest => (10, false, rest)
  | 't' :: rest => (9, false, rest)
  | 'r' :: rest => (13, false, rest)
  | 'a' :: rest => (7, false, rest)
  | 'b' :: rest => (8, false, rest)
  | 'f' :: rest => (12, false, rest)
  | 'v' :: rest => (11, false, rest)
  | 'e' :: rest | 'E' :: rest => (27, false, rest)
  | 'x' :: rest =>
    let digits := rest.takeWhile fun char => (Numeral.digit? 16 char).isSome
    (numeral 16 digits, false, rest.drop digits.length)
  | 'u' :: rest => (numeral 16 (rest.take 4), true, rest.drop 4)
  | 'U' :: rest => (numeral 16 (rest.take 8), true, rest.drop 8)
  | char :: rest =>
    if (Numeral.digit? 8 char).isSome then
      let digits := ((char :: rest).take 3).takeWhile fun char => (Numeral.digit? 8 char).isSome
      (numeral 8 digits, false, (char :: rest).drop digits.length)
    else (char.toNat, false, rest)
  | [] => (0x5C, false, [])

/-- The UTF-8 octets of a character. -/
def octetsOf (point : Nat) : List Nat :=
  (String.utf8EncodeChar (Char.ofNat point)).map UInt8.toNat

/-- The numbers of a constant that stands for octets. -/
def narrow : Nat → List Char → List Nat
  | 0, _ => []
  | _ + 1, [] => []
  | fuel + 1, '\\' :: rest =>
    let (value, wide, rest) := escape rest
    (if wide then octetsOf value else [value % 256]) ++ narrow fuel rest
  | fuel + 1, char :: rest => char.toNat :: narrow fuel rest

/-- The numbers of a constant that stands for characters. -/
def broad : Nat → List Char → List Nat
  | 0, _ => []
  | _ + 1, [] => []
  | fuel + 1, '\\' :: rest =>
    let (value, _, rest) := escape rest
    value :: broad fuel rest
  | fuel + 1, char :: rest =>
    let ahead := Utf8.continuation (UInt8.ofNat char.toNat)
    let count := (ahead.map List.length).getD 0
    let more := (rest.take count).map fun char => UInt8.ofNat char.toNat
    (Utf8.assemble (UInt8.ofNat char.toNat) more).toNat :: broad fuel (rest.drop count)

/-- Characters beyond sixteen bits as two numbers. -/
def paired (points : List Nat) : List Nat :=
  points.flatMap fun point =>
    if point < 0x10000 then [point]
    else [0xD800 + (point - 0x10000) / 0x400, 0xDC00 + (point - 0x10000) % 0x400]

/-- The word in front of the quote of a constant, and what is between the quotes. -/
def inside (quote : Char) (spelled : String) : String × List Char :=
  let chars := spelled.toList
  let front := chars.takeWhile (· != quote)
  (String.ofList front, (chars.drop (front.length + 1)).dropLast)

/-- The numbers that a constant consists of, behind the word in front of it. -/
def unitsOf (quote : Char) (spelled : String) : String × List Nat :=
  let (front, chars) := inside quote spelled
  let isRaw := front.toList.getLast? == some 'R'
  let front := if isRaw then String.ofList front.toList.dropLast else front
  let chars :=
    if isRaw then
      let fence := chars.takeWhile (· != '(')
      let body := chars.drop (fence.length + 1)
      (body.take (body.length - fence.length - 1)).flatMap fun char =>
        if char = '\\' then ['\\', '\\'] else [char]
    else chars
  if front = "" ∨ front = "u8" then (front, narrow (chars.length + 1) chars)
  else
    let points := broad (chars.length + 1) chars
    (front, if front = "u" then paired points else points)

end Token

/-! ### Lines -/

namespace Lexeme

/-- Joins lines that end in a backslash; their ends come behind the joined line. The characters that
were read are there with the last one first. -/
def splice : Nat → List Char → List Char → List Char
  | pending, taken, '\\' :: '\n' :: rest => splice (pending + 1) taken rest
  | pending, taken, '\\' :: '\r' :: '\n' :: rest => splice (pending + 1) taken rest
  | pending, taken, '\n' :: rest => splice 0 (List.replicate (pending + 1) '\n' ++ taken) rest
  | pending, taken, char :: rest => splice pending (char :: taken) rest
  | pending, taken, [] => (List.replicate pending '\n' ++ taken).reverse

/-- What follows a comment, how many lines end in it, and the characters in front of its end in the
line; `none` in an open one. -/
def behindComment? : Nat → Nat → List Char → Option (Nat × Nat × List Char)
  | lines, column, '*' :: '/' :: rest => some (lines, column + 2, rest)
  | lines, _, '\n' :: rest => behindComment? (lines + 1) 0 rest
  | lines, column, _ :: rest => behindComment? lines (column + 1) rest
  | _, _, [] => none

/-- A line of lexemes with its number. -/
structure Line where
  number : Nat
  lexemes : List Lexeme

/-- What has been read of a text. -/
structure Progress where
  /-- The lines, the last first. -/
  lines : List Line := []
  /-- The number of the line that is being read. -/
  start : Nat := 1
  /-- The number of the next line. -/
  number : Nat := 1
  /-- The characters in front of what comes next in the line. -/
  column : Nat := 0
  spaced : Bool := false
  /-- The lexemes of the line, the last first. -/
  taken : List Lexeme := []

/-- Ends a line. -/
def Progress.ended (progress : Progress) : Progress :=
  { lines := ⟨progress.start, progress.taken.reverse⟩ :: progress.lines
    start := progress.number + 1
    number := progress.number + 1 }

/-- Reads lines; `slashes` says whether two slashes start a comment. -/
def linesFrom? (plusPlus slashes : Bool) : Nat → Progress → List Char → Option (List Line)
  | 0, _, _ => none
  | _ + 1, progress, [] => some progress.ended.lines.reverse
  | fuel + 1, progress, char :: rest =>
    if char = '\n' then linesFrom? plusPlus slashes fuel progress.ended rest
    else if Token.isBlank char then
      linesFrom? plusPlus slashes fuel
        { progress with spaced := true, column := progress.column + 1 } rest
    else if char = '/' ∧ rest.head? = some '*' then
      match behindComment? 0 (progress.column + 2) (rest.drop 1) with
      | some (lines, column, rest) =>
        linesFrom? plusPlus slashes fuel
          { progress with number := progress.number + lines, spaced := true, column } rest
      | none => none
    else if slashes ∧ char = '/' ∧ rest.head? = some '/' then
      linesFrom? plusPlus slashes fuel progress (rest.dropWhile (· != '\n'))
    else
      match Token.first? plusPlus (char :: rest) with
      | none => none
      | some (token, rest) =>
        let column := progress.column
        let lexeme : Lexeme := { token, spaced := progress.spaced, line := progress.start, column }
        linesFrom? plusPlus slashes fuel
          { progress with
            spaced := false, column := column + token.spelling.length
            taken := lexeme :: progress.taken } rest

/-- The lines of a text; there are none in an open comment. -/
def lines? (plusPlus slashes : Bool) (chars : List Char) : Option (List Line) :=
  let text := splice 0 [] chars
  linesFrom? plusPlus slashes (text.length + 1) {} text

end Lexeme

/-- The tokens of a text. -/
def Token.list? (plusPlus : Bool) (chars : List Char) : Option (List Token) := do
  let lines ← Lexeme.lines? plusPlus true chars
  return lines.flatMap fun line => line.lexemes.map (·.token)

end KernelCache.C
