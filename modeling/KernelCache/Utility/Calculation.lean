import KernelCache.Text.Directive
import KernelCache.Text.Regex
import KernelCache.Utility.Option

/-
**Programs that calculate.**

`Calculation.expr` finds the value of an expression whose parts are its arguments, and
`Calculation.seq` counts.
-/

namespace KernelCache.Calculation

open Host Program
open Text (Regex)

/-! ### Expressions -/

/-- Why an expression has no value. -/
inductive Trouble where
  | missing (before : List Char)
  | unexpected (word : List Char)
  | unclosed (before : List Char)
  | noInteger
  | zeroDivision
  | badRegex (text : String)

/-- The text of a trouble. -/
def Trouble.message : Trouble → List Char
  | missing before => "syntax error: missing argument after ".toList ++ inQuotes before
  | unexpected word => "syntax error: unexpected argument ".toList ++ inQuotes word
  | unclosed before => "syntax error: expecting ')' after ".toList ++ inQuotes before
  | noInteger => "non-integer argument".toList
  | zeroDivision => "division by zero".toList
  | badRegex text => text.toList

/-- The words that are left, and the last one that was taken. -/
structure Words where
  rest : List (List Char)
  last : List Char := []

/-- A step of reading an expression. -/
abbrev Step (α : Type) := StateT Words (Except Trouble) α

/-- The integer that a text is. -/
def integer? (text : List Char) : Option Int :=
  let digits := if text.head? = some '-' then text.drop 1 else text
  if digits ≠ [] ∧ digits.all fun char => '0' ≤ char && char ≤ '9' then
    let value : Int := ((String.ofList digits).toNat?).getD 0
    some (if text.head? = some '-' then -value else value)
  else none

/-- Whether a value counts as nothing. -/
def isNull (value : List Char) : Bool :=
  value == [] || integer? value == some 0

/-- The next word, if it is one of some. -/
def accept? (words : List String) : Step (Option String) := do
  match (← get).rest with
  | word :: rest =>
    match words.find? fun candidate => candidate.toList == word with
    | some found => do
      set { rest, last := word : Words }
      return some found
    | none => return none
  | [] => return none

/-- The next word. -/
def take : Step (List Char) := do
  match ← get with
  | ⟨[], last⟩ => throw (.missing last)
  | ⟨word :: rest, _⟩ => do
    set { rest, last := word : Words }
    return word

/-- The text of an integer. -/
def shownInt (value : Int) : List Char := (toString value).toList

/-- What a text matches of an expression at its start: the first group, or how long it is. -/
def matched (text pattern : List Char) : Step (List Char) := do
  match Regex.read { extended := false } pattern with
  | .error message => throw (.badRegex message)
  | .ok regex =>
    let subject : Regex.Subject := { text := text.toArray }
    let grouped := pattern.zip (pattern.drop 1) |>.contains ('\\', '(')
    match regex.matchAt? subject 0 with
    | some found =>
      return if grouped then (found.group? subject 1).getD []
        else shownInt (found.stop - found.start : Nat)
    | none => return if grouped then [] else ['0']

/-- The value of an operator between two integers. -/
def combine (operator : String) (left right : List Char) : Step (List Char) := do
  match integer? left, integer? right with
  | some first, some second =>
    match operator with
    | "+" => return shownInt (first + second)
    | "-" => return shownInt (first - second)
    | "*" => return shownInt (first * second)
    | _ =>
      if second = 0 then throw .zeroDivision
      else if operator = "/" then return shownInt (Int.tdiv first second)
      else return shownInt (Int.tmod first second)
  | _, _ => throw .noInteger

/-- Whether a comparison holds. -/
def compares (operator : String) (left right : List Char) : Bool :=
  let order := match integer? left, integer? right with
    | some first, some second => compare first second
    | _, _ => if left = right then .eq else if left < right then .lt else .gt
  match operator with
  | "<" => order == .lt
  | "<=" => order != .gt
  | "=" | "==" => order == .eq
  | "!=" => order != .eq
  | ">=" => order != .lt
  | _ => order == .gt

mutual

/-- The value of an expression. -/
def disjunction : Nat → Step (List Char)
  | 0 => throw (.missing [])
  | fuel + 1 => do
    let first ← conjunction fuel
    disjunctionFrom fuel first

/-- Goes on with alternatives behind a value. -/
def disjunctionFrom : Nat → List Char → Step (List Char)
  | 0, value => return value
  | fuel + 1, value => do
    match ← accept? ["|"] with
    | none => return value
    | some _ => do
      let before ← get
      match (conjunction fuel).run before with
      | .ok (other, words) => do
        set words
        let chosen := if !isNull value then value else if isNull other then ['0'] else other
        disjunctionFrom fuel chosen
      | .error trouble => throw trouble

/-- The value of parts that all count. -/
def conjunction : Nat → Step (List Char)
  | 0 => throw (.missing [])
  | fuel + 1 => do
    let first ← comparison fuel
    conjunctionFrom fuel first

/-- Goes on with parts that count as well. -/
def conjunctionFrom : Nat → List Char → Step (List Char)
  | 0, value => return value
  | fuel + 1, value => do
    match ← accept? ["&"] with
    | none => return value
    | some _ => do
      let other ← comparison fuel
      conjunctionFrom fuel (if isNull value || isNull other then ['0'] else value)

/-- The value of comparisons. -/
def comparison : Nat → Step (List Char)
  | 0 => throw (.missing [])
  | fuel + 1 => do
    let first ← sum fuel
    comparisonFrom fuel first

/-- Goes on with comparisons. -/
def comparisonFrom : Nat → List Char → Step (List Char)
  | 0, value => return value
  | fuel + 1, value => do
    match ← accept? ["<=", "<", "==", "=", "!=", ">=", ">"] with
    | none => return value
    | some operator => do
      let other ← sum fuel
      comparisonFrom fuel (if compares operator value other then ['1'] else ['0'])

/-- The value of a sum. -/
def sum : Nat → Step (List Char)
  | 0 => throw (.missing [])
  | fuel + 1 => do
    let first ← product fuel
    sumFrom fuel first

/-- Goes on with a sum. -/
def sumFrom : Nat → List Char → Step (List Char)
  | 0, value => return value
  | fuel + 1, value => do
    match ← accept? ["+", "-"] with
    | none => return value
    | some operator => do
      let other ← product fuel
      sumFrom fuel (← combine operator value other)

/-- The value of a product. -/
def product : Nat → Step (List Char)
  | 0 => throw (.missing [])
  | fuel + 1 => do
    let first ← matching fuel
    productFrom fuel first

/-- Goes on with a product. -/
def productFrom : Nat → List Char → Step (List Char)
  | 0, value => return value
  | fuel + 1, value => do
    match ← accept? ["*", "/", "%"] with
    | none => return value
    | some operator => do
      let other ← matching fuel
      productFrom fuel (← combine operator value other)

/-- The value of matches. -/
def matching : Nat → Step (List Char)
  | 0 => throw (.missing [])
  | fuel + 1 => do
    let first ← primary fuel
    matchingFrom fuel first

/-- Goes on with matches. -/
def matchingFrom : Nat → List Char → Step (List Char)
  | 0, value => return value
  | fuel + 1, value => do
    match ← accept? [":"] with
    | none => return value
    | some _ => do
      let pattern ← primary fuel
      matchingFrom fuel (← matched value pattern)

/-- The value of a word, of a function, or of what stands in parentheses. -/
def primary : Nat → Step (List Char)
  | 0 => throw (.missing [])
  | fuel + 1 => do
    let words ← get
    let isLone := words.rest.length = 1
    let function? ← if isLone then pure none
      else accept? ["+", "length", "match", "index", "substr", "("]
    match function? with
    | none =>
      if words.rest.head? = some [')'] then throw (.unexpected [')'])
      take
    | some "+" => take
    | some "length" => do return shownInt (← primary fuel).length
    | some "match" => do
      let text ← primary fuel
      let pattern ← primary fuel
      matched text pattern
    | some "index" => do
      let text ← primary fuel
      let chars ← primary fuel
      return shownInt (((text.findIdx? chars.contains).map (· + 1)).getD 0 : Nat)
    | some "substr" => do
      let text ← primary fuel
      let start ← primary fuel
      let length ← primary fuel
      match integer? start, integer? length with
      | some start, some length =>
        return if start ≤ 0 ∨ length ≤ 0 then []
          else (text.drop (start.toNat - 1)).take length.toNat
      | _, _ => return []
    | some _ => do
      let value ← disjunction fuel
      let words ← get
      match words.rest with
      | [')'] :: rest => do
        set { rest, last := [')'] : Words }
        return value
      | [] => throw (.unclosed words.last)
      | word :: _ => throw (.unexpected word)

end

/-- Writes the value of an expression. -/
def expr : Tool := fun arguments => do
  let arguments := if arguments.head? = some ['-', '-'] then arguments.drop 1 else arguments
  if arguments.isEmpty then return ← lacking 2
  match (disjunction (12 * arguments.length + 20)).run { rest := arguments } with
  | .error trouble => do
    complain trouble.message
    return 2
  | .ok (value, words) =>
    match words.rest with
    | word :: _ => do
      complain (Trouble.unexpected word).message
      return 2
    | [] => do
      sayLine value
      return statusOf (!isNull value)

/-! ### Counting -/

/-- A decimal number: its digits as an integer, how many of them are places, and how wide it is
written. -/
structure Written where
  value : Int
  places : Nat
  width : Nat

/-- Reads a decimal number. -/
def written? (text : List Char) : Option Written := do
  let (negative, body) := match text with
    | '-' :: rest => (true, rest)
    | '+' :: rest => (false, rest)
    | _ => (false, text)
  let whole := body.takeWhile Char.isDigit
  let (places, rest) := match body.drop whole.length with
    | '.' :: rest => (rest.takeWhile Char.isDigit, rest.dropWhile Char.isDigit)
    | rest => ([], rest)
  if whole = [] ∧ places = [] then none
  let exponent ← match rest with
    | [] => some 0
    | 'e' :: digits | 'E' :: digits =>
      integer? (if digits.head? = some '+' then digits.drop 1 else digits)
    | _ => none
  let value : Int := ((String.ofList (whole ++ places)).toNat?).getD 0
  let value := if negative then -value else value
  let shift := places.length - exponent
  let width := max whole.length 1 + (if negative then 1 else 0)
    + if places = [] then 0 else places.length + 1
  if 0 ≤ shift then return { value, places := shift.toNat, width }
  else return { value := value * Nat.pow 10 (-shift).toNat, places := 0, width }

/-- A number with so many places. -/
def Written.scaled (number : Written) (places : Nat) : Int :=
  number.value * Nat.pow 10 (places - number.places)

/-- A number with places as it is written. -/
def placed (places : Nat) (value : Int) : List Char :=
  let digits := (toString value.natAbs).toList
  let digits := List.replicate (places + 1 - digits.length) '0' ++ digits
  let whole := digits.take (digits.length - places)
  (if value < 0 then ['-'] else []) ++ whole
    ++ if places = 0 then [] else '.' :: digits.drop (digits.length - places)

/-- The words with a mark in front of a number that is the first operand. -/
def withMark : List (List Char) → List (List Char)
  | [] => []
  | ['-', '-'] :: rest => ['-', '-'] :: rest
  | ['-', letter] :: value :: rest =>
    if letter = 'f' ∨ letter = 's' then ['-', letter] :: value :: withMark rest
    else if letter.isDigit then ['-', '-'] :: ['-', letter] :: value :: rest
    else ['-', letter] :: withMark (value :: rest)
  | word :: rest =>
    match word with
    | '-' :: digit :: _ =>
      if digit.isDigit ∨ digit = '.' then ['-', '-'] :: word :: rest else word :: withMark rest
    | _ => word :: rest

/-- More numbers than this are not written. -/
def countLimit : Nat := 4000000

/-- Writes numbers in order. -/
def seq : Tool := fun arguments =>
  let grammar : Grammar :=
    .of "f:s:w" [("format=", 'f'), ("separator=", 's'), ("equal-width", 'w')] true
  withOptions grammar 1 (fun options => do
    let operands := options.operands
    if operands.isEmpty then return ← lacking 1
    if 3 < operands.length then return ← surplus 1 (operands.getD 3 [])
    match operands.find? fun word => (written? word).isNone ∧ word ≠ "inf".toList with
    | some word => misuse 1 ("invalid floating point argument: ".toList ++ inQuotes word)
    | none => do
      if let some format := options.value? 'f' then
        if !format.contains '%' then
          complain ("format ".toList ++ inQuotes format ++ " has no % directive".toList)
          return 1
      let one : Written := { value := 1, places := 0, width := 1 }
      let number (word : List Char) : Written := (written? word).getD one
      let (first, step, lastWord) := match operands with
        | [last] => (one, one, last)
        | [first, last] => (number first, one, last)
        | [first, step, last] => (number first, number step, last)
        | _ => (one, one, [])
      let last := number lastWord
      if step.value = 0 then
        return ← misuse 1 ("invalid Zero increment value: ".toList
          ++ inQuotes ((operands[1]?).getD []))
      let places := max first.places step.places
      let scale := max places last.places
      let start := first.scaled scale
      let pace := step.scaled scale
      let stop := last.scaled scale
      let separator := (options.value? 's').getD ['\n']
      let width :=
        let grown (number : Written) : Nat :=
          number.width + places - number.places
            + (if number.places = 0 ∧ places ≠ 0 then 1 else 0)
            - if number.places ≠ 0 ∧ places = 0 then 1 else 0
        max (grown first) (grown last)
      let write (value : Int) : List Char :=
        match options.value? 'f' with
        | some format =>
          let front := format.takeWhile (· != '%')
          match Text.Directive.read? (format.drop (front.length + 1)) with
          | some (directive, rest) =>
            let size : Decimal.Quantity := .finite (value < 0) ⟨value.natAbs, Nat.pow 10 scale⟩
            front ++ (directive.layout 0 0).ofQuantity directive.letter size ++ rest
          | none => format
        | none =>
          let text := placed places (Int.tdiv value (Nat.pow 10 (scale - places)))
          if options.has 'w' then
            let sign := if text.head? = some '-' then ['-'] else []
            let digits := text.drop sign.length
            sign ++ List.replicate (width - text.length) '0' ++ digits
          else text
      if lastWord = "inf".toList then
        let _ ← sayForever (Bytes.ofChars (write start ++ separator))
        return 0
      let count := if 0 < pace then (if stop < start then 0 else (stop - start) / pace + 1)
        else if start < stop then 0 else (start - stop) / (-pace) + 1
      if countLimit < count then throw .endless
      let numbers := (List.range count.toNat).map fun (index : Nat) =>
        write (start + pace * (index : Int))
      if numbers.isEmpty then return 0
      say (Bytes.ofChars (separator.intercalate numbers ++ ['\n']))
      return 0) (withMark arguments)

/-- Writes a line without end. -/
def yes : Tool := fun arguments => do
  let arguments := if arguments.head? = some ['-', '-'] then arguments.drop 1 else arguments
  let words := if arguments.isEmpty then [['y']] else arguments
  sayForever (Bytes.ofChars ([' '].intercalate words ++ ['\n']))
  return 1

/-- The smallest factor of a number from a candidate on. -/
def leastFactor (number : Nat) : Nat → Nat → Nat
  | 0, _ => number
  | fuel + 1, candidate =>
    if number < candidate * candidate then number
    else if number % candidate = 0 then candidate
    else leastFactor number fuel (candidate + 1)

/-- The factors of a number in order. -/
def factorsOf : Nat → Nat → List Nat
  | 0, _ => []
  | fuel + 1, number =>
    if number < 2 then []
    else
      let factor := leastFactor number 200000 2
      factor :: factorsOf fuel (number / factor)

/-- Writes the factors of numbers. -/
def factor : Tool := withOptions (.of "h") 1 fun options => do
  let words : List (List Char) ← if options.operands.isEmpty then do
      match ← readFrom 0 none with
      | .ok bytes =>
        let text := (Bytes.toChars bytes).map fun char => if isSpace char then ' ' else char
        pure ((text.splitOn ' ').filter (· ≠ []))
      | .error _ => pure []
    else pure options.operands
  return statusOf <| ← forAll words fun word => do
    match count? word with
    | none => do
      complain (inQuotes word ++ " is not a valid positive integer".toList)
      return false
    | some number => do
      let factors := (factorsOf 64 number).flatMap fun factor => ' ' :: decimal factor
      sayLine (decimal number ++ ':' :: factors)
      return true

end KernelCache.Calculation
