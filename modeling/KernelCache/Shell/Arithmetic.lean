import KernelCache.Power
import KernelCache.Shell.State
import KernelCache.Text.Numeral

/-
**Arithmetic of the shell.**

Expressions are calculated over 64-bit integers while they are read; names stand for variables, and
an unset variable for zero. Parts that do not count, such as the branch of a conditional that is not
taken, are read without being calculated.

* `Arithmetic.evaluate` is the value of a written expression.
-/

namespace KernelCache.Shell.Arithmetic

/-! ### Integers -/

/-- The 64-bit integer that is congruent to the given one. -/
def wrap (value : Int) : Int :=
  let range : Int := twoTo 64
  let low := value % range
  if range ≤ 2 * low then low - range else low

/-- The bits of an integer. -/
def bits (value : Int) : Nat := (value % (twoTo 64 : Int)).toNat

/-- One or zero. -/
def truth (condition : Bool) : Int := if condition then 1 else 0

/-- The greatest and the least integer. -/
def greatest : Int := twoTo 63 - 1
def least : Int := -(twoTo 63)

/-- An operator between two integers. -/
inductive Operator where
  | add | sub | mul | div | rem | shiftLeft | shiftRight
  | less | greater | lessEqual | greaterEqual | equal | notEqual
  | bitAnd | bitXor | bitOr | power | both | either
  deriving DecidableEq, Repr

/-- Combines two integers where that has a result. -/
def combine (operator : Operator) (left right : Int) : Int :=
  match operator with
  | .add => wrap (left + right)
  | .sub => wrap (left - right)
  | .mul => wrap (left * right)
  | .div => wrap (left.tdiv right)
  | .rem => wrap (left.tmod right)
  | .shiftLeft => wrap (left * twoTo (bits right % 64))
  | .shiftRight => wrap (left / twoTo (bits right % 64))
  | .less => truth (left < right)
  | .greater => truth (left > right)
  | .lessEqual => truth (left ≤ right)
  | .greaterEqual => truth (left ≥ right)
  | .equal => truth (left == right)
  | .notEqual => truth (left != right)
  | .bitAnd => wrap (Nat.land (bits left) (bits right))
  | .bitXor => wrap (Nat.xor (bits left) (bits right))
  | .bitOr => wrap (Nat.lor (bits left) (bits right))
  | .power => (List.range (min right.toNat 64)).foldl (fun value _ => wrap (value * left)) 1
  | .both => truth (left != 0 && right != 0)
  | .either => truth (left != 0 || right != 0)

/-! ### Tokens -/

/-- A piece of an expression. -/
inductive Token where
  | number (value : Int)
  /-- A variable, perhaps with the index of one of its elements. -/
  | name (chars : List Char) (index : Option (List Char))
  | symbol (spelling : String)
  /-- A character that means nothing. -/
  | unknown
  deriving DecidableEq, Repr

/-- A character that can start a name. -/
def isNameStart (char : Char) : Bool :=
  ('a' ≤ char && char ≤ 'z') || ('A' ≤ char && char ≤ 'Z') || char == '_'

/-- A decimal digit. -/
def isDigit (char : Char) : Bool := '0' ≤ char && char ≤ '9'

/-- A blank between tokens. -/
def isBlank (char : Char) : Bool :=
  char == ' ' || ('\t' ≤ char && char ≤ '\r')

/-- The value of a digit in bases up to 36. -/
def digitValue (char : Char) : Nat :=
  if isDigit char then char.toNat - 48
  else if 'a' ≤ char ∧ char ≤ 'z' then char.toNat - 87
  else if 'A' ≤ char ∧ char ≤ 'Z' then char.toNat - 55
  else 99

/-- The digits of a base at the front of a text, as a number, and what follows them. -/
def digits (base : Nat) (text : List Char) : Nat × List Char :=
  let run := text.takeWhile fun char => digitValue char < base
  (run.foldl (fun value digit => value * base + digitValue digit) 0, text.drop run.length)

/-- A number at the front of a text whose first character is a digit, and what follows it. The
base is told from the first digits. -/
def literal (text : List Char) : Nat × List Char :=
  match text with
  | '0' :: letter :: rest =>
    if (letter = 'x' ∨ letter = 'X') ∧ rest.head?.any fun char => digitValue char < 16 then
      digits 16 rest
    else digits 8 text
  | _ => digits 10 text

/-- A text in the brackets behind a name, and what follows them. -/
def bracketed : Nat → List Char → List Char × List Char
  | _, [] => ([], [])
  | 0, ']' :: rest => ([], rest)
  | depth + 1, ']' :: rest => let (inner, behind) := bracketed depth rest; (']' :: inner, behind)
  | depth, '[' :: rest => let (inner, behind) := bracketed (depth + 1) rest; ('[' :: inner, behind)
  | depth, char :: rest => let (inner, behind) := bracketed depth rest; (char :: inner, behind)

/-- The symbols, longer ones first. -/
def symbols (extended : Bool) : List String :=
  let common := ["<<=", ">>=", "<<", ">>", "<=", ">=", "==", "!=", "&&", "||", "+=", "-=", "*=",
    "/=", "%=", "&=", "^=", "|=", "<", ">", "=", "!", "~", "&", "|", "^", "+", "-", "*", "/", "%",
    "(", ")", "?", ":"]
  if extended then ["**", "++", "--", ","] ++ common else common

/-- The tokens of an expression. -/
def tokens (extended : Bool) : Nat → List Char → List Token
  | 0, _ => []
  | _ + 1, [] => []
  | fuel + 1, char :: rest =>
    let text := char :: rest
    if isBlank char then tokens extended fuel rest
    else if isDigit char then
      let (value, behind) := literal text
      match behind with
      | '#' :: digitsBehind =>
        if extended then
          let (value, behind) := digits value digitsBehind
          .number (wrap value) :: tokens extended fuel behind
        else .number (min value greatest) :: tokens extended fuel behind
      | _ =>
        let value : Int := if extended then wrap value else min value greatest
        .number value :: tokens extended fuel behind
    else if isNameStart char then
      let name := text.takeWhile fun char => isNameStart char || isDigit char
      match text.drop name.length with
      | '[' :: behind =>
        if extended then
          let (index, behind) := bracketed 0 behind
          .name name (some index) :: tokens extended fuel behind
        else .name name none :: tokens extended fuel ('[' :: behind)
      | behind => .name name none :: tokens extended fuel behind
    else
      match (symbols extended).find? fun symbol => symbol.toList.isPrefixOf text with
      | some symbol => .symbol symbol :: tokens extended fuel (text.drop symbol.length)
      | none => .unknown :: tokens extended fuel rest

/-! ### Calculation -/

/-- A step of a calculation on the tokens that are left. -/
abbrev Calculation (α : Type) := StateT (List Token) ShellM α

/-- What a calculation needs: the text for complaints, and the value of an expression inside. -/
structure Setting where
  text : List Char
  extended : Bool
  inner : List Char → ShellM Int

namespace Setting

/-- Complains about the expression. -/
def complain {α : Type} (setting : Setting) (text : String) : ShellM α :=
  if setting.extended then fail (setting.text ++ ": ".toList ++ text.toList)
  else
    fail ("arithmetic expression: ".toList ++ text.toList ++ ": \"".toList ++ setting.text
      ++ ['"'])

/-- The next token. -/
def peek? : Calculation (Option Token) := do return (← get).head?

/-- Leaves out the next token. -/
def advance : Calculation Unit := modify (·.drop 1)

/-- Reads a symbol if it stands next. -/
def accept (symbol : String) : Calculation Bool := do
  if (← peek?) = some (.symbol symbol) then
    advance
    return true
  else return false

/-- A text as an integer: digits that fill it up, with a sign and blanks around. -/
def integer? (text : List Char) : Option Int :=
  let text := text.dropWhile isBlank
  let (negative, text) := match text with
    | '-' :: rest => (true, rest)
    | '+' :: rest => (false, rest)
    | rest => (false, rest)
  match text with
  | [] => if negative then none else some 0
  | first :: _ =>
    if !isDigit first then none
    else
      let (value, behind) := literal text
      let value : Int := if negative then -(value : Int) else value
      if behind.all isBlank ∧ least ≤ value ∧ value ≤ greatest then some value else none

/-- The text of a variable or of one of its elements. -/
def textOf (setting : Setting) (name : List Char) : Option (List Char) → ShellM (List Char)
  | none => do return ((← get).parameter? name).getD []
  | some index => do
    match ((← get).binding? name).bind (·.value?) with
    | some (.table elements) => return (elements.lookup index).getD []
    | some (.row elements) => return (elements.lookup (← setting.inner index).toNat).getD []
    | some (.text chars) => return if (← setting.inner index) = 0 then chars else []
    | none => return []

/-- The value of a variable. -/
def valueOf (setting : Setting) (name : List Char) (index : Option (List Char)) : ShellM Int := do
  let text ← setting.textOf name index
  match integer? text with
  | some value => return value
  | none =>
    if setting.extended then setting.inner text
    else fail ("Illegal number: ".toList ++ text)

/-- Gives a variable or one of its elements a value. -/
def assign (setting : Setting) (name : List Char) (index : Option (List Char)) (value : Int) :
    ShellM Unit := do
  let text := (toString value).toList
  match index with
  | none => Shell.assign name (.text text)
  | some index =>
    match ((← get).binding? name).bind (·.value?) with
    | some (.table elements) =>
      Shell.assign name (.table (elements.filter (·.1 != index) ++ [(index, text)]))
    | old => do
      let number := (← setting.inner index).toNat
      let elements := match old with
        | some (.row elements) => elements
        | some (.text chars) => [(0, chars)]
        | _ => []
      let low := elements.filter (·.1 < number)
      let high := elements.filter (number < ·.1)
      Shell.assign name (.row (low ++ (number, text) :: high))

/-- Combines two integers, or complains. -/
def combined (setting : Setting) (operator : Operator) (left right : Int) : ShellM Int := do
  let divides := operator = .div ∨ operator = .rem
  if divides ∧ right = 0 then
    setting.complain (if setting.extended then "division by 0" else "division by zero")
  else if divides ∧ right = -1 ∧ left = least ∧ !setting.extended then
    throw (.signaled (← get).process 8)
  else return combine operator left right

/-- The operators of a level, the loosest first. -/
def level : Nat → List (String × Operator)
  | 0 => [("||", .either)]
  | 1 => [("&&", .both)]
  | 2 => [("|", .bitOr)]
  | 3 => [("^", .bitXor)]
  | 4 => [("&", .bitAnd)]
  | 5 => [("==", .equal), ("!=", .notEqual)]
  | 6 => [("<=", .lessEqual), (">=", .greaterEqual), ("<", .less), (">", .greater)]
  | 7 => [("<<", .shiftLeft), (">>", .shiftRight)]
  | 8 => [("+", .add), ("-", .sub)]
  | 9 => [("*", .mul), ("/", .div), ("%", .rem)]
  | _ => []

/-- The operators that assign. -/
def assigning : List (String × Option Operator) := [
  ("=", none), ("+=", some .add), ("-=", some .sub), ("*=", some .mul), ("/=", some .div),
  ("%=", some .rem), ("<<=", some .shiftLeft), (">>=", some .shiftRight), ("&=", some .bitAnd),
  ("^=", some .bitXor), ("|=", some .bitOr)]

mutual

/-- Expressions with commas between them; a part that is not `live` has no effect. -/
def sequence (setting : Setting) : Nat → Bool → Calculation Int
  | 0, _ => setting.complain "expression recursion level exceeded"
  | fuel + 1, live => do
    let value ← assignment setting fuel live
    if ← if setting.extended then accept "," else pure false then sequence setting fuel live
    else return value

/-- An assignment, or an expression without one. -/
def assignment (setting : Setting) : Nat → Bool → Calculation Int
  | 0, _ => setting.complain "expression recursion level exceeded"
  | fuel + 1, live => do
    match ← get with
    | .name name index :: .symbol symbol :: rest =>
      match assigning.lookup symbol with
      | some operator? => do
        set rest
        let value ← assignment setting fuel live
        if !live then return value
        let value ← match operator? with
          | none => pure value
          | some operator => do
            let old ← setting.valueOf name index
            setting.combined operator old value
        setting.assign name index value
        return value
      | none => conditional setting fuel live
    | _ => conditional setting fuel live

/-- An expression with a choice. -/
def conditional (setting : Setting) : Nat → Bool → Calculation Int
  | 0, _ => setting.complain "expression recursion level exceeded"
  | fuel + 1, live => do
    let condition ← binary setting fuel 0 live
    if ← accept "?" then
      let yes ← sequence setting fuel (live && condition != 0)
      if !(← accept ":") then
        setting.complain
          (if setting.extended then "`:' expected for conditional expression" else "expecting ':'")
      let no ← conditional setting fuel (live && condition == 0)
      return if condition ≠ 0 then yes else no
    else return condition

/-- Operands with the operators of a level between them. -/
def binary (setting : Setting) : Nat → Nat → Bool → Calculation Int
  | 0, _, _ => setting.complain "expression recursion level exceeded"
  | fuel + 1, loosest, live => do
    if loosest = 10 then power setting fuel live
    else
      let left ← binary setting fuel (loosest + 1) live
      binaryFrom setting fuel loosest live left

/-- The operators of a level behind an operand. -/
def binaryFrom (setting : Setting) : Nat → Nat → Bool → Int → Calculation Int
  | 0, _, _, _ => setting.complain "expression recursion level exceeded"
  | fuel + 1, loosest, live, left => do
    match ← peek? with
    | some (.symbol symbol) =>
      match (level loosest).lookup symbol with
      | none => return left
      | some operator => do
        advance
        let counts := match operator with
          | .both => left != 0
          | .either => left == 0
          | _ => true
        let right ← binary setting fuel (loosest + 1) (live && counts)
        let value ← if live then setting.combined operator left right else pure right
        binaryFrom setting fuel loosest live value
    | _ => return left

/-- Operands with powers between them. -/
def power (setting : Setting) : Nat → Bool → Calculation Int
  | 0, _ => setting.complain "expression recursion level exceeded"
  | fuel + 1, live => do
    let base ← primary setting fuel live
    if ← if setting.extended then accept "**" else pure false then
      let exponent ← power setting fuel live
      if live ∧ exponent < 0 then setting.complain "exponent less than 0"
      return combine .power base exponent
    else return base

/-- An operand. -/
def primary (setting : Setting) : Nat → Bool → Calculation Int
  | 0, _ => setting.complain "expression recursion level exceeded"
  | fuel + 1, live => do
    let missing := if setting.extended then "syntax error: operand expected" else
      "expecting primary"
    let stepped (name : List Char) (index : Option (List Char)) (before : Bool)
        (operator : Operator) : Calculation Int := do
      if !live then return 0
      let old ← setting.valueOf name index
      let new := combine operator old 1
      setting.assign name index new
      return if before then new else old
    match ← get with
    | .symbol "(" :: rest => do
      set rest
      let value ← sequence setting fuel live
      if !(← accept ")") then
        setting.complain (if setting.extended then "missing `)'" else "expecting ')'")
      return value
    | .symbol "++" :: .name name index :: rest => do
      set rest
      stepped name index true .add
    | .symbol "--" :: .name name index :: rest => do
      set rest
      stepped name index true .sub
    | .symbol symbol :: rest =>
      match symbol with
      | "+" | "++" | "--" => do
        set rest
        primary setting fuel live
      | "-" => do
        set rest
        return wrap (-(← primary setting fuel live))
      | "!" => do
        set rest
        return truth ((← primary setting fuel live) == 0)
      | "~" => do
        set rest
        return -(← primary setting fuel live) - 1
      | _ => setting.complain missing
    | .number value :: rest => do
      set rest
      return value
    | .name name index :: .symbol "++" :: rest => do
      set rest
      stepped name index false .add
    | .name name index :: .symbol "--" :: rest => do
      set rest
      stepped name index false .sub
    | .name name index :: rest => do
      set rest
      if live then setting.valueOf name index else return 0
    | _ => setting.complain missing

end

end Setting

/-- The value of a written expression; so many variables may refer to others. -/
def evaluateUpTo : Nat → List Char → ShellM Int
  | 0, text => fail (text ++ ": expression recursion level exceeded".toList)
  | depth + 1, text => do
    let extended := (← get).isExtended
    let setting : Setting := { text, extended, inner := evaluateUpTo depth }
    let tokens := tokens extended (text.length + 1) text
    if tokens.isEmpty ∧ extended then return 0
    let (value, rest) ← (setting.sequence (32 * tokens.length + 64) true).run tokens
    if rest ≠ [] then
      setting.complain (if extended then "syntax error in expression" else "expecting EOF")
    return value

/-- The value of a written expression. -/
def evaluate (text : List Char) : ShellM Int := evaluateUpTo 64 text

end KernelCache.Shell.Arithmetic
