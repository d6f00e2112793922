import KernelCache.Code.Term
import KernelCache.Text.Numeral

/-
**Numbers and addresses in texts for the assembler.**

* `Sum.add?` and `Sum.join?` combine what is known of two numbers.
* `Known.sum?` reads an expression at the front of a text, and yields what follows it.
* `Known.operand?` reads an operand.
-/

/-! ## What commands of the assembler work on

Registers of words come in four sizes that share their octets; wide registers hold numbers in
floating point. A routine keeps all of them among its variables, in one block:

* `Register.find?` is the register of a name.
* `Block` says where each of them is in the block.
-/

namespace KernelCache.Assembly

open KernelCache.Code (Kind Term)

/-- A number, which may contain the address of a symbol and lack the address of another one. -/
structure Sum where
  number : Int := 0
  plus : Option String := none
  minus : Option String := none
  deriving DecidableEq, Repr, Inhabited

/-- A register of words, or a part of it. -/
structure Register where
  number : Nat
  /-- The octets of the part. -/
  size : Nat
  /-- Whether the part starts at the second octet. -/
  isHigh : Bool := false
  deriving DecidableEq, Repr

/-- A place in memory. -/
structure Reference where
  start : Sum := {}
  base : Option Register := none
  index : Option Register := none
  scale : Nat := 1
  /-- Whether the place is told by its distance. -/
  isNear : Bool := false
  /-- Whether the place holds the address of the symbol rather than its value. -/
  isTable : Bool := false
  /-- The octets that are meant, when the text says so. -/
  size : Option Nat := none
  deriving DecidableEq, Repr

/-- What a command works on. -/
inductive Operand where
  | number (sum : Sum)
  | register (register : Register)
  /-- A wide register. -/
  | wide (number : Nat)
  | place (reference : Reference)
  /-- The place whose address an operand has. -/
  | through (operand : Operand)
  deriving DecidableEq, Repr

namespace Register

/-- The names of the first eight registers, without what tells their size. -/
def stems : List String := ["ax", "cx", "dx", "bx", "sp", "bp", "si", "di"]

/-- The names of the lowest octets of the first eight registers. -/
def lowNames : List String := ["al", "cl", "dl", "bl", "spl", "bpl", "sil", "dil"]

/-- The names of second octets. -/
def highNames : List String := ["ah", "ch", "dh", "bh"]

/-- Numbers of the registers that have no names of their own. -/
def laterNumbers : List Nat := [8, 9, 10, 11, 12, 13, 14, 15]

/-- The registers by name. -/
def table : List (String × Register) :=
  let named (number : Nat) (stem : String) : List (String × Register) :=
    [("r" ++ stem, ⟨number, 8, false⟩), ("e" ++ stem, ⟨number, 4, false⟩),
      (stem, ⟨number, 2, false⟩)]
  let later (number : Nat) : List (String × Register) :=
    let front := "r" ++ toString number
    [(front, ⟨number, 8, false⟩), (front ++ "d", ⟨number, 4, false⟩),
      (front ++ "w", ⟨number, 2, false⟩), (front ++ "b", ⟨number, 1, false⟩)]
  (stems.zipIdx.flatMap fun (stem, number) => named number stem)
    ++ (lowNames.zipIdx.map fun (name, number) => (name, ⟨number, 1, false⟩))
    ++ (highNames.zipIdx.map fun (name, number) => (name, ⟨number, 1, true⟩))
    ++ laterNumbers.flatMap later

/-- The register of a name. -/
def find? (name : String) : Option Register := table.lookup name

/-- The number of a wide register. -/
def wide? (name : String) : Option Nat :=
  ((List.range 16).find? fun number => name == "xmm" ++ toString number)

/-- The same register with so many octets. -/
def resized (register : Register) (size : Nat) : Register := { number := register.number, size }

end Register

/-- The register that results are in. -/
def accumulator : Nat := 0

/-- The register that counts. -/
def counter : Nat := 1

/-- The register that holds the upper part of products. -/
def extension : Nat := 2

/-- The register that holds the end of the stack. -/
def stackEnd : Nat := 4

/-- The register that holds the end of what is below a routine on the stack. -/
def frameEnd : Nat := 5

/-- The register that tells where to read from. -/
def sourceIndex : Nat := 6

/-- The register that tells where to write to. -/
def targetIndex : Nat := 7

/-- The registers of the first words that a routine is called with. -/
def parameterRegisters : List Nat := [7, 6, 2, 1, 8, 9]

/-- What the processor notes about a result. -/
inductive Flag where
  | carry
  | parity
  | zero
  | sign
  | overflow
  deriving DecidableEq, Repr

/-- Every flag. -/
def Flag.all : List Flag := [.carry, .parity, .zero, .sign, .overflow]

/-- The registers of a routine, from one of its variables on. -/
structure Block where
  start : Nat
  deriving Repr

namespace Block

/-- The octets of a block. -/
def size : Nat := 512

/-- The address of a register. -/
def addressOf (block : Block) (register : Register) : Term :=
  .place (block.start + 8 * register.number + (if register.isHigh then 1 else 0))

/-- The place of a flag. -/
def placeOf : Flag → Nat
  | .carry => 128
  | .parity => 129
  | .zero => 130
  | .sign => 131
  | .overflow => 132

/-- The address of a flag. -/
def flagAt (block : Block) (flag : Flag) : Term := .place (block.start + placeOf flag)

/-- Whether a flag is set. -/
def flag (block : Block) (flag : Flag) : Term := .load (.word 1 false) (block.flagAt flag)

/-- The address of a place for what is worked out on the way. -/
def spare (block : Block) (number : Nat) : Term := .place (block.start + 136 + 16 * number)

/-- The address of a wide register. -/
def wideAt (block : Block) (number : Nat) : Term := .place (block.start + 256 + 16 * number)

/-- What a register holds. -/
def register (block : Block) (register : Register) : Term :=
  .load (.word register.size false) (block.addressOf register)

/-- What a whole register holds. -/
def whole (block : Block) (number : Nat) : Term := block.register ⟨number, 8, false⟩

/-- Writes a register. Its other octets stay, but for those above the lower half. -/
def setRegister (block : Block) (register : Register) (value : Term) : Term :=
  let size := if register.size = 4 then 8 else register.size
  .store (.word size false) (block.addressOf register) value

/-- Writes a whole register. -/
def setWhole (block : Block) (number : Nat) (value : Term) : Term :=
  block.setRegister ⟨number, 8, false⟩ value

/-- Notes a flag. -/
def setFlag (block : Block) (flag : Flag) (value : Term) : Term :=
  .store (.word 1 false) (block.flagAt flag) value

end Block

end KernelCache.Assembly

/-! ## Numbers and addresses in texts for the assembler -/

namespace KernelCache.Assembly

namespace Sum

/-- The value of a sum without symbols. -/
def value? (sum : Sum) : Option Int :=
  if sum.plus.isNone && sum.minus.isNone then some sum.number else none

/-- The one symbol of a list, when it has no more than one. -/
def single? : List String → Option (Option String)
  | [] => some none
  | [name] => some (some name)
  | _ => none

/-- The sum with the given symbols; a symbol that is added and taken away is gone. -/
def joined? (number : Int) (plus minus : List String) : Option Sum := do
  let left := plus.filter fun name => !minus.contains name
  let right := minus.filter fun name => !plus.contains name
  return { number, plus := ← single? left, minus := ← single? right }

/-- Adds two sums. -/
def add? (left right : Sum) : Option Sum :=
  joined? (left.number + right.number) (left.plus.toList ++ right.plus.toList)
    (left.minus.toList ++ right.minus.toList)

/-- The same sum with the other sign. -/
def negated (sum : Sum) : Sum := { number := -sum.number, plus := sum.minus, minus := sum.plus }

/-- Combines two numbers by an operator. -/
def join? (operator : Char) (left right : Sum) : Option Sum :=
  match operator with
  | '+' => add? left right
  | '-' => add? left right.negated
  | other => do
    let a ← left.value?
    let b ← right.value?
    let bits (number : Int) : Nat := Code.Value.bitsOf 8 number
    match other with
    | '*' => return { number := a * b }
    | '/' => if b = 0 then none else return { number := a.tdiv b }
    | '%' => if b = 0 then none else return { number := a.tmod b }
    | '<' => if 0 ≤ b ∧ b < 64 then return { number := a * twoTo b.toNat } else none
    | '>' => if 0 ≤ b ∧ b < 64 then return { number := a / (twoTo b.toNat : Int) } else none
    | '&' => return { number := Nat.land (bits a) (bits b) }
    | '|' => return { number := Nat.lor (bits a) (bits b) }
    | '^' => return { number := Nat.xor (bits a) (bits b) }
    | _ => none

end Sum

/-- What is known of names where a text is being read. -/
structure Known where
  /-- How often each label of digits has come. -/
  counts : List (String × Nat) := []
  /-- Names for numbers. -/
  values : List (String × Sum) := []
  /-- Whether the target stands in front of the sources. -/
  targetFirst : Bool := false
  /-- Whether registers are named without a mark. -/
  isBare : Bool := false
  /-- Areas, the current one first. -/
  areas : List String := []
  deriving Inhabited

/-- A character that can start a name. -/
def isNameStart (char : Char) : Bool :=
  ('a' ≤ char && char ≤ 'z') || ('A' ≤ char && char ≤ 'Z') || char == '_' || char == '.'
    || 0x80 ≤ char.toNat

/-- A character inside a name. -/
def isNamePart (char : Char) : Bool :=
  isNameStart char || ('0' ≤ char && char ≤ '9') || char == '$'

/-- A character that only separates. -/
def isBlank (char : Char) : Bool := char == ' ' || char == '\t' || char == '\r' || char == '\x0c'

/-- A text without what only separates in front. -/
def trimmed (chars : List Char) : List Char := chars.dropWhile isBlank

/-- A text without what only separates on both sides. -/
def stripped (chars : List Char) : List Char := ((trimmed chars).reverse.dropWhile isBlank).reverse

/-- The name at the front of a text, and what follows it. -/
def nameIn? (chars : List Char) : Option (String × List Char) :=
  match chars with
  | first :: _ =>
    if isNameStart first then
      let word := chars.takeWhile isNamePart
      some (String.ofList word, chars.drop word.length)
    else none
  | [] => none

/-- The number at the front of a text. -/
def numberIn? (chars : List Char) : Option (Nat × List Char) :=
  let digits := chars.takeWhile fun char => isNamePart char
  let rest := chars.drop digits.length
  let numeral (base : Nat) (digits : List Char) : Option (Nat × List Char) :=
    if digits.isEmpty then none
    else (Numeral.digits? base (twoTo 128) 0 digits).map fun number => (number, rest)
  match digits with
  | '0' :: 'x' :: inner | '0' :: 'X' :: inner => numeral 16 inner
  | '0' :: 'b' :: inner | '0' :: 'B' :: inner => numeral 2 inner
  | '0' :: inner => if inner.isEmpty then some (0, rest) else numeral 8 inner
  | other => numeral 10 other

/-- What a character stands for behind a backslash. -/
def escaped (char : Char) : Nat :=
  match char with
  | 'n' => 10
  | 't' => 9
  | 'r' => 13
  | 'b' => 8
  | 'f' => 12
  | '0' => 0
  | other => other.toNat

namespace Known

/-- The name of a label of digits that came so often. -/
def digitLabel (digits : String) (count : Nat) : String := digits ++ ":" ++ toString count

/-- How often a label of digits has come. -/
def count (known : Known) (digits : String) : Nat := (known.counts.lookup digits).getD 0

/-- The label of digits at the front of a text, as it is used elsewhere. -/
def digitLabelIn? (known : Known) (chars : List Char) : Option (String × List Char) :=
  let digits := chars.takeWhile fun char => '0' ≤ char && char ≤ '9'
  let name := String.ofList digits
  if digits.isEmpty then none
  else
    match chars.drop digits.length with
    | letter :: rest =>
      if rest.head?.any isNamePart then none
      else if letter == 'f' then some (digitLabel name (known.count name + 1), rest)
      else if letter == 'b' then
        if known.count name = 0 then none else some (digitLabel name (known.count name), rest)
      else none
    | [] => none

mutual

/-- Reads the smallest part of an expression. -/
def atom? (known : Known) : Nat → List Char → Option (Sum × List Char)
  | 0, _ => none
  | fuel + 1, chars =>
    match trimmed chars with
    | '(' :: rest => do
      let (sum, rest) ← sum? known fuel rest
      match trimmed rest with
      | ')' :: rest => return (sum, rest)
      | _ => none
    | '-' :: rest => do
      let (sum, rest) ← atom? known fuel rest
      return (sum.negated, rest)
    | '+' :: rest => atom? known fuel rest
    | '~' :: rest => do
      let (sum, rest) ← atom? known fuel rest
      return ({ number := -(← sum.value?) - 1 }, rest)
    | '\'' :: '\\' :: char :: rest =>
      some ({ number := escaped char }, if rest.head? = some '\'' then rest.drop 1 else rest)
    | '\'' :: char :: rest =>
      some ({ number := char.toNat }, if rest.head? = some '\'' then rest.drop 1 else rest)
    | chars =>
      match digitLabelIn? known chars with
      | some (name, rest) => some ({ plus := some name }, rest)
      | none =>
        match nameIn? chars with
        | some (name, rest) =>
          some ((known.values.lookup name).getD { plus := some name }, rest)
        | none => do
          let (number, rest) ← numberIn? chars
          return ({ number }, rest)

/-- Reads factors. -/
def factors? (known : Known) : Nat → Sum → List Char → Option (Sum × List Char)
  | 0, _, _ => none
  | fuel + 1, sum, chars =>
    let go (operator : Char) (rest : List Char) : Option (Sum × List Char) := do
      let (right, rest) ← atom? known fuel rest
      factors? known fuel (← sum.join? operator right) rest
    match trimmed chars with
    | '*' :: rest => go '*' rest
    | '/' :: rest => go '/' rest
    | '%' :: rest => if rest.head?.any isNameStart then some (sum, '%' :: rest) else go '%' rest
    | '<' :: '<' :: rest => go '<' rest
    | '>' :: '>' :: rest => go '>' rest
    | rest => some (sum, rest)

/-- Reads a product and what is combined with it bit by bit. -/
def bits? (known : Known) : Nat → List Char → Option (Sum × List Char)
  | 0, _ => none
  | fuel + 1, chars => do
    let (first, rest) ← atom? known fuel chars
    let (sum, rest) ← factors? known fuel first rest
    match trimmed rest with
    | operator :: rest =>
      if operator == '&' || operator == '|' || operator == '^' then
        let (right, rest) ← bits? known fuel rest
        return (← sum.join? operator right, rest)
      else return (sum, operator :: rest)
    | [] => return (sum, [])

/-- Reads the summands that follow. -/
def summands? (known : Known) : Nat → Sum → List Char → Option (Sum × List Char)
  | 0, _, _ => none
  | fuel + 1, sum, chars =>
    match trimmed chars with
    | '+' :: rest => do
      let (right, rest) ← bits? known fuel rest
      summands? known fuel (← sum.join? '+' right) rest
    | '-' :: rest => do
      let (right, rest) ← bits? known fuel rest
      summands? known fuel (← sum.join? '-' right) rest
    | rest => some (sum, rest)

/-- Reads an expression. -/
def sum? (known : Known) : Nat → List Char → Option (Sum × List Char)
  | 0, _ => none
  | fuel + 1, chars => do
    let (first, rest) ← bits? known fuel chars
    summands? known fuel first rest

end

/-- The expression that a whole text is. -/
def wholeSum? (known : Known) (chars : List Char) : Option Sum := do
  let (sum, rest) ← sum? known (4 * chars.length + 8) chars
  if (trimmed rest).isEmpty then return sum else none

/-! ### Operands -/

/-- The parts of a text between commas that are in no brackets and quotes. -/
def parts : Nat → Bool → List Char → List Char → List (List Char)
  | depth, quoted, taken, ',' :: rest =>
    if depth = 0 ∧ !quoted then taken.reverse :: parts 0 false [] rest
    else parts depth quoted (',' :: taken) rest
  | depth, true, taken, '\\' :: char :: rest => parts depth true (char :: '\\' :: taken) rest
  | depth, quoted, taken, '"' :: rest => parts depth (!quoted) ('"' :: taken) rest
  | depth, quoted, taken, char :: rest =>
    let depth :=
      if quoted then depth
      else if char == '(' || char == '[' then depth + 1
      else if char == ')' || char == ']' then depth - 1
      else depth
    parts depth quoted (char :: taken) rest
  | _, _, taken, [] => [taken.reverse]

/-- The parts of a text, when there are any. -/
def partsOf (chars : List Char) : List (List Char) :=
  if (trimmed chars).isEmpty then [] else (parts 0 false [] chars).map stripped

/-- The register of words that a text names. -/
def register? (chars : List Char) : Option Register :=
  match stripped chars with
  | '%' :: rest => Register.find? (String.ofList (stripped rest))
  | _ => none

/-- A text without the words behind the names of symbols, and whether they mean a table. -/
def withoutWords? (chars : List Char) : Option (List Char × Bool) :=
  let front := chars.takeWhile (· != '@')
  let behind := (chars.drop front.length).drop 1
  let word := behind.takeWhile isNamePart
  let rest := behind.drop word.length
  if front.length = chars.length then some (chars, false)
  else
    match String.ofList word with
    | "PLT" | "plt" => some (front ++ rest, false)
    | "GOTPCREL" | "gotpcrel" => some (front ++ rest, true)
    | _ => none

/-- Reads what stands in the brackets of a place. -/
def bracketed? (known : Known) (start : Sum) (isTable : Bool) (chars : List Char) :
    Option Operand := do
  match partsOf chars with
  | [base] =>
    if stripped base = "%rip".toList then
      return .place { start, isTable, isNear := true }
    else return .place { start, isTable, base := some (← register? base) }
  | base :: index :: more =>
    let scale ← match more with
      | [] => some 1
      | [scale] => do
        let number ← (← known.wholeSum? scale).value?
        if number = 1 ∨ number = 2 ∨ number = 4 ∨ number = 8 then some number.toNat else none
      | _ => none
    let base ← if (trimmed base).isEmpty then some none else (register? base).map some
    return .place { start, isTable, base, index := some (← register? index), scale }
  | [] => none

/-- Reads an operand that stands in front of its target. -/
def plainOperand? (known : Known) (chars : List Char) : Option Operand :=
  match chars with
  | '$' :: rest => (known.wholeSum? rest).map .number
  | '%' :: rest =>
    let name := String.ofList (stripped rest)
    ((Register.find? name).map Operand.register).or ((Register.wide? name).map Operand.wide)
  | chars => do
    let (chars, isTable) ← withoutWords? chars
    let isBracket (rest : List Char) : Bool :=
      (trimmed rest).head? = some '%' || (trimmed rest).head? = some ','
    let closed (start : Sum) (rest : List Char) : Option Operand := do
      match (stripped rest).reverse with
      | ')' :: inner => bracketed? known start isTable inner.reverse
      | _ => none
    match chars with
    | '(' :: rest =>
      if isBracket rest then closed {} rest
      else
        let (start, rest) ← known.sum? (4 * chars.length + 8) chars
        behind closed start isTable rest
    | chars =>
      let (start, rest) ← known.sum? (4 * chars.length + 8) chars
      behind closed start isTable rest
where
  /-- What follows the number of a place. -/
  behind (closed : Sum → List Char → Option Operand) (start : Sum) (isTable : Bool)
      (rest : List Char) : Option Operand :=
    match trimmed rest with
    | [] => some (.place { start, isTable })
    | '(' :: rest => closed start rest
    | _ => none

/-- The octets that a word in front of a place means. -/
def sizeWord? (word : String) : Option Nat :=
  match word.toLower with
  | "byte" => some 1
  | "word" => some 2
  | "dword" => some 4
  | "qword" => some 8
  | "xmmword" => some 16
  | _ => none

/-- The summands of a place in brackets, each with its sign. -/
def signed : Bool → List Char → List Char → List (Bool × List Char)
  | sign, taken, '+' :: rest => (sign, stripped taken.reverse) :: signed true [] rest
  | sign, taken, '-' :: rest => (sign, stripped taken.reverse) :: signed false [] rest
  | sign, taken, char :: rest => signed sign (char :: taken) rest
  | sign, taken, [] => [(sign, stripped taken.reverse)]

/-- The register of a name that has a mark or none. -/
def bareRegister? (chars : List Char) : Option Register :=
  let chars := stripped chars
  Register.find? (String.ofList (if chars.head? = some '%' then chars.drop 1 else chars)).toLower

/-- A place with another summand. -/
def extended? (known : Known) (place : Reference) (positive : Bool) (chars : List Char) :
    Option Reference := do
  let scaled? : Option (Register × Nat) := do
    let front := chars.takeWhile (· != '*')
    let behind := chars.drop (front.length + 1)
    match bareRegister? front, bareRegister? behind with
    | some register, _ => return (register, (← (← known.wholeSum? behind).value?).toNat)
    | none, some register => return (register, (← (← known.wholeSum? front).value?).toNat)
    | none, none => none
  if chars.isEmpty then return place
  else if String.ofList chars = "rip" then return { place with isNear := true }
  else if chars.contains '*' && positive && scaled?.isSome then
    let (register, scale) ← scaled?
    return { place with index := some register, scale }
  else
    match bareRegister? chars with
    | some register =>
      if !positive then none
      else if place.base.isNone then return { place with base := some register }
      else if place.index.isNone then return { place with index := some register }
      else none
    | none =>
      let sum ← known.wholeSum? chars
      return { place with start := ← place.start.join? (if positive then '+' else '-') sum }

/-- Reads an operand whose target stands in front of it. -/
def targetFirstOperand? (known : Known) : Nat → Option Nat → List Char → Option Operand
  | 0, _, _ => none
  | fuel + 1, size, chars => do
    let (chars, isTable) ← withoutWords? chars
    let inner := chars.takeWhile (· != '[')
    let name := nameIn? chars
    let ahead : Option (Nat × List Char) := do
      let (word, rest) ← name
      let octets ← sizeWord? word
      let (second, rest) ← nameIn? (trimmed rest)
      if second.toLower = "ptr" then return (octets, trimmed rest) else none
    match ahead with
    | some (octets, rest) => targetFirstOperand? known fuel (some octets) rest
    | none =>
      let spelled := String.ofList (if chars.head? = some '%' then chars.drop 1 else chars)
      match Register.find? spelled.toLower, Register.wide? spelled.toLower with
      | some register, _ => return .register register
      | none, some number => return .wide number
      | none, none =>
        if inner.length < chars.length then
          let start ← if (trimmed inner).isEmpty then some {} else known.wholeSum? inner
          let behind := (chars.drop (inner.length + 1)).takeWhile (· != ']')
          let place ← (signed true [] behind).foldlM (fun place (positive, part) =>
            extended? known place positive part) ({ start, isTable, size } : Reference)
          return .through (.place place)
        else if (name.map fun entry => entry.1.toLower) = some "offset" then
          let (_, rest) ← name
          return .number (← known.wholeSum? rest)
        else
          let sum ← known.wholeSum? chars
          if sum.value?.isSome && size.isNone then return .number sum
          else return .place { start := sum, size, isTable }

/-- Reads an operand. -/
def operand? (known : Known) (isJump : Bool) (chars : List Char) : Option Operand :=
  if known.targetFirst then
    match targetFirstOperand? known 4 none chars with
    | some (.through place) => some (if isJump then .through place else place)
    | some (.register register) =>
      some (if isJump then .through (.register register) else .register register)
    | other => other
  else
    match chars with
    | '*' :: rest => (plainOperand? known (trimmed rest)).map .through
    | chars => plainOperand? known chars

end Known

end KernelCache.Assembly
