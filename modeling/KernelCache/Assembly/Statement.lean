import KernelCache.Assembly.Expression
import KernelCache.C.Token
import KernelCache.Decimal.Quantity

/-
**Statements of the assembler.**

`Statement.list?` reads a text: lines and what semicolons separate, without comments. A label of
digits can come more than once; each time it stands for another place.
-/

namespace KernelCache.Assembly

open KernelCache.Code (Linkage)

/-- A statement. -/
inductive Statement where
  | label (name : String)
  /-- Another name for a number or an address. -/
  | assign (name : String) (sum : Sum)
  /-- A command with the words in front of it. -/
  | command (fronts : List String) (name : String) (operands : List Operand)
  /-- Numbers of a width in octets. -/
  | data (width : Nat) (sums : List Sum)
  | octets (octets : List UInt8)
  /-- A number of a width, so many times. -/
  | fill (count : Sum) (width : Nat) (value : Int)
  | align (boundary : Nat)
  /-- Goes on in another area. -/
  | area (name : String)
  /-- Who can use symbols. -/
  | linkage (names : List String) (linkage : Linkage)
  | hidden (names : List String)
  /-- Room for a variable that pieces can have together. -/
  | common (name : String) (size boundary : Nat) (isInner : Bool)
  deriving Repr

namespace Statement

/-! ### Lines -/

/-- What follows a comment; `none` in an open one. -/
def behindComment? : List Char → Option (List Char)
  | '*' :: '/' :: rest => some rest
  | _ :: rest => behindComment? rest
  | [] => none

/-- Takes comments out of a text and cuts it into statements; what was read of the current one is
there with the last character first. -/
def cut? : Nat → Bool → List Char → List Char → Option (List (List Char))
  | 0, _, _, _ => none
  | _ + 1, quoted, taken, [] => if quoted then none else some [taken.reverse]
  | fuel + 1, true, taken, '\\' :: char :: rest => cut? fuel true (char :: '\\' :: taken) rest
  | fuel + 1, quoted, taken, '"' :: rest => cut? fuel (!quoted) ('"' :: taken) rest
  | fuel + 1, true, taken, char :: rest => cut? fuel true (char :: taken) rest
  | fuel + 1, false, taken, '/' :: '*' :: rest => do
    cut? fuel false (' ' :: taken) (← behindComment? rest)
  | fuel + 1, false, taken, '\'' :: '\\' :: char :: rest =>
    cut? fuel false (char :: '\\' :: '\'' :: taken) rest
  | fuel + 1, false, taken, '\'' :: char :: rest =>
    if char = '\n' then none else cut? fuel false (char :: '\'' :: taken) rest
  | fuel + 1, false, taken, char :: rest =>
    if char = '#' ∨ (char = '/' ∧ taken.all isBlank) then
      cut? fuel false taken (rest.dropWhile (· != '\n'))
    else if char = '\n' ∨ char = ';' then do
      return taken.reverse :: (← cut? fuel false [] rest)
    else cut? fuel false (char :: taken) rest

/-! ### Directives -/

/-- The octets of a text in quotes. -/
def quoted? (chars : List Char) : Option (List UInt8) :=
  match chars, chars.reverse with
  | '"' :: inner, '"' :: _ :: _ =>
    let body := inner.dropLast
    some ((C.Token.narrow (body.length + 1) body).map UInt8.ofNat)
  | _, _ => none

/-- The width of the numbers of a directive. -/
def width? (name : String) : Option Nat :=
  if [".byte", ".dc.b"].contains name then some 1
  else if [".short", ".value", ".word", ".hword", ".2byte", ".dc.w"].contains name then some 2
  else if [".long", ".int", ".4byte", ".dc.l"].contains name then some 4
  else if [".quad", ".8byte", ".dc.q", ".dc.a"].contains name then some 8
  else if name = ".octa" then some 16
  else none

/-- The octets of a number in floating point. -/
def realOctets? (width : Nat) (chars : List Char) : Option (List UInt8) := do
  let (quantity, rest) ← Decimal.Quantity.read? chars
  let value := Code.Value.real quantity.toFloat
  if rest.isEmpty then return Code.octets width (value.stored (.real width)) else none

/-- The area of a directive that names none. -/
def standardArea? (name : String) : Option String :=
  if [".text", ".data", ".bss"].contains name then some name else none

/-- Directives that say nothing about what a program does. -/
def idle : List String :=
  [".file", ".loc", ".ident", ".type", ".size", ".version", ".addrsig", ".addrsig_sym",
    ".line", ".ln", ".p2alignl", ".code64", ".att_mnemonic", ".arch", ".warning", ".print",
    ".symver", ".stabs", ".stabn", ".desc", ".title", ".sbttl", ".psize", ".eject", ".list",
    ".nolist", ".end"]

/-- Whether a directive says nothing about what a program does. -/
def isIdle (name : String) : Bool :=
  idle.contains name || ".cfi_".toList.isPrefixOf name.toList

/-- The number that an argument is. -/
def numberOf? (known : Known) (chars : List Char) : Option Int := do (← known.wholeSum? chars).value?

/-- The boundary of a number: the number itself, or a power of two. -/
def boundary? (isPower : Bool) (number : Int) : Option Nat :=
  if number < 0 then none
  else if isPower then if number ≤ 15 then some (twoTo number.toNat) else none
  else
    let boundary := number.toNat
    if boundary = 0 then some 1
    else if (List.range 16).any fun power => twoTo power == boundary then some boundary
    else none

/-- The names in the parts of a text. -/
def names? (parts : List (List Char)) : Option (List String) :=
  parts.mapM fun part => do
    let (name, rest) ← nameIn? part
    if (trimmed rest).isEmpty then return name else none

/-- The current area, after a directive about areas. -/
def areas? (known : Known) (name : String) (parts : List (List Char)) : Option (List String) :=
  let area : Option String := do
    let first ← parts.head?
    let spelled := if first.head? = some '"' then (first.drop 1).takeWhile (· != '"') else first
    return String.ofList (spelled.takeWhile fun char => !isBlank char)
  match standardArea? name with
  | some area => some (area :: known.areas.drop 1)
  | none =>
    match name with
    | ".section" => do return (← area) :: known.areas.drop 1
    | ".pushsection" => do return (← area) :: known.areas
    | ".popsection" => if known.areas.length < 2 then none else some (known.areas.drop 1)
    | _ => none

/-- What a directive about numbers means. -/
def dataOf? (known : Known) (name : String) (parts : List (List Char)) : Option (List Statement) :=
  match width? name with
  | some width => do return [.data width (← parts.mapM known.wholeSum?)]
  | none =>
    match name with
    | ".ascii" => do return [.octets (← parts.mapM quoted?).flatten]
    | ".asciz" | ".string" => do
      return [.octets ((← parts.mapM quoted?).flatMap fun octets => octets ++ [0])]
    | ".float" | ".single" | ".dc.s" => do return [.octets (← parts.mapM (realOctets? 4)).flatten]
    | ".double" | ".dc.d" => do return [.octets (← parts.mapM (realOctets? 8)).flatten]
    | ".zero" | ".skip" | ".space" =>
      match parts with
      | [count] => do return [.fill (← known.wholeSum? count) 1 0]
      | [count, value] => do return [.fill (← known.wholeSum? count) 1 (← numberOf? known value)]
      | _ => none
    | ".fill" =>
      match parts with
      | [count] => do return [.fill (← known.wholeSum? count) 1 0]
      | [count, width] => do
        return [.fill (← known.wholeSum? count) (← numberOf? known width).toNat 0]
      | [count, width, value] => do
        return [.fill (← known.wholeSum? count) (← numberOf? known width).toNat
          (← numberOf? known value)]
      | _ => none
    | _ => none

/-- What a directive about symbols and places means. -/
def placing? (known : Known) (name : String) (parts : List (List Char)) : Option (List Statement) :=
  match name with
  | ".globl" | ".global" => do return [.linkage (← names? parts) .outer]
  | ".weak" => do return [.linkage (← names? parts) .weak]
  | ".local" => do return [.linkage (← names? parts) .inner]
  | ".hidden" | ".internal" => do return [.hidden (← names? parts)]
  | ".protected" => do
    let _ ← names? parts
    return []
  | ".align" | ".balign" => do
    return [.align (← boundary? false (← numberOf? known (← parts.head?)))]
  | ".p2align" => do return [.align (← boundary? true (← numberOf? known (← parts.head?)))]
  | ".comm" | ".lcomm" =>
    match parts with
    | target :: size :: more => do
      let (symbol, _) ← nameIn? target
      let boundary ← match more.head? with
        | some boundary => boundary? false (← numberOf? known boundary)
        | none => some 1
      return [.common symbol (← numberOf? known size).toNat boundary (name == ".lcomm")]
    | _ => none
  | _ => none

/-- Reads a directive. -/
def directive? (known : Known) (name : String) (rest : List Char) :
    Option (List Statement × Known) := do
  let parts := Known.partsOf rest
  if isIdle name then return ([], known)
  else if name = ".intel_syntax" then
    return ([], { known with targetFirst := true, isBare := rest == "noprefix".toList })
  else if name = ".att_syntax" then
    return ([], { known with targetFirst := false, isBare := false })
  else if name = ".set" ∨ name = ".equ" then
    match parts with
    | [target, value] =>
      let (symbol, _) ← nameIn? target
      let sum ← known.wholeSum? value
      let known := if sum.value?.isSome
        then { known with values := (symbol, sum) :: known.values } else known
      return ([.assign symbol sum], known)
    | _ => none
  else
    match areas? known name parts with
    | some areas => return ([.area (areas.headD ".text")], { known with areas })
    | none =>
      return (← (dataOf? known name parts).or (placing? known name parts), known)

/-! ### Whole statements -/

/-- Words that stand in front of a command. -/
def fronts : List String :=
  ["rep", "repe", "repz", "repne", "repnz", "lock", "notrack", "data16", "bnd", "ds", "es", "cs"]

/-- Reads a command. -/
def command? (known : Known) : Nat → List String → List Char → Option Statement
  | 0, _, _ => none
  | fuel + 1, words, chars => do
    let (name, rest) ← nameIn? chars
    let name := name.toLower
    let rest := trimmed rest
    if fronts.contains name then
      if rest.isEmpty then return .command words name []
      else command? known fuel (words ++ [name]) rest
    else
      let isJump := name.toList.head? = some 'j' || name = "call" || name = "callq"
      let operands ← (Known.partsOf rest).mapM (known.operand? isJump)
      let isPlain := !known.targetFirst || operands.length < 2
      return .command words name (if isPlain then operands else operands.reverse)

/-- Reads what stands between two separators. -/
def read? : Nat → Known → List Char → Option (List Statement × Known)
  | 0, _, _ => none
  | fuel + 1, known, chars => do
    let chars := stripped chars
    let digits := chars.takeWhile fun char => '0' ≤ char && char ≤ '9'
    if chars.isEmpty then return ([], known)
    else if !digits.isEmpty then
      match trimmed (chars.drop digits.length) with
      | ':' :: rest =>
        let name := String.ofList digits
        let count := known.count name + 1
        let known := { known with counts := (name, count) :: known.counts }
        let (more, known) ← read? fuel known rest
        return (.label (Known.digitLabel name count) :: more, known)
      | _ => none
    else
      let (name, rest) ← nameIn? chars
      match trimmed rest with
      | ':' :: rest =>
        let (more, known) ← read? fuel known rest
        return (.label name :: more, known)
      | '=' :: rest =>
        let sum ← known.wholeSum? rest
        let known := if sum.value?.isSome
          then { known with values := (name, sum) :: known.values } else known
        return ([.assign name sum], known)
      | rest =>
        if name.toList.head? = some '.' then directive? known name rest
        else return ([← command? known 8 [] chars], known)

/-- Reads statements one after the other. -/
def all? (known : Known) : List (List Char) → Option (List Statement)
  | [] => some []
  | first :: rest => do
    let (statements, known) ← read? (first.length + 1) known first
    return statements ++ (← all? known rest)

/-- Reads a text. -/
def list? (known : Known) (chars : List Char) : Option (List Statement) := do
  all? known (← cut? (2 * chars.length + 2) false [] chars)

end Statement

end KernelCache.Assembly
