import KernelCache.Assembly.Expression

/-
**What commands do.**

An `Effect` is a run of instructions with what the flags are afterwards; flags that nobody looks at
are never worked out.

* `Context.value?` and `Context.assign?` read and write operands.
* `Context.condition?` is the term of a condition by its name.
-/

namespace KernelCache.Assembly

open KernelCache.Code (Instruction Kind Term)

/-- Where a command goes on. -/
inductive Flow where
  | next
  | jump (label : String)
  /-- At a label or at the next command. -/
  | branch (label : String)
  /-- Somewhere else. -/
  | leaves
  deriving DecidableEq, Repr

/-- What a command does. -/
structure Effect where
  steps : List Instruction := []
  /-- Flags that change, and what they become. -/
  flags : List (Flag × Term) := []
  /-- Flags that it looks at. -/
  reads : List Flag := []
  /-- Whether all flags are lost. -/
  forgets : Bool := false
  flow : Flow := .next

/-- What a command stands in. -/
structure Context where
  block : Block
  /-- The address of a symbol. -/
  addressOf : String → Term
  /-- The number of a label of the same code. -/
  label? : String → Option Nat
  /-- The first of the labels that the command has for itself. -/
  own : Nat

/-! ### Terms -/

/-- Words of eight octets. -/
def wordKind : Kind := .word 8 false

/-- Words of sixteen octets. -/
def broadKind : Kind := .word 16 false

/-- A term that works out nothing else than a number. -/
def literal (number : Nat) : Term := .word number

/-- The sum of two words. -/
def added (left right : Term) : Term := .binary .add wordKind left right

/-- Some bits of a word. -/
def masked (value mask : Term) : Term := .binary .bitAnd broadKind value mask

/-- A word moved to the left among sixteen octets. -/
def movedUp (value amount : Term) : Term := .binary .shiftLeft broadKind value amount

/-- A word moved to the right among sixteen octets. -/
def movedDown (value amount : Term) : Term := .binary .shiftRight broadKind value amount

/-- The lowest octets of a word. -/
def lowest (size : Nat) (value : Term) : Term := .convert broadKind (.word size false) value

/-- A word of a size as one of sixteen octets with the same sign. -/
def spread (size : Nat) (value : Term) : Term := .convert (.word size true) (.word 16 true) value

/-- Whether a word of a size has a sign. -/
def negative (size : Nat) (value : Term) : Term := .binary .less (.word size true) value (.word 0)

/-- Whether a word is zero. -/
def isZero (value : Term) : Term := .binary .equal broadKind value (.word 0)

/-- The truth of what is not so. -/
def isNot (value : Term) : Term := .binary .bitXor (.word 1 false) value (.word 1)

/-- Whether two truths differ. -/
def differ (left right : Term) : Term := .binary .bitXor (.word 1 false) left right

/-- Whether one of two truths holds. -/
def oneOf (left right : Term) : Term := .binary .bitOr (.word 1 false) left right

/-- The instructions of terms for what they do. -/
def effects (terms : List Term) : List Instruction := terms.flatMap Term.effect

/-- A run that ends as an access to memory that is not there. -/
def broken : List Instruction := [.word 0, .load (.word 1 false), .drop]

namespace Context

/-! ### Operands -/

/-- The address that a sum stands for. -/
def sumTerm? (context : Context) (sum : Sum) : Option Term := do
  let bits := Code.Value.bitsOf 8 sum.number
  match sum.plus, sum.minus with
  | none, none => return .word bits
  | some symbol, none =>
    let start := context.addressOf symbol
    return if bits = 0 then start else added start (.word bits)
  | _, some _ => none

/-- What a register of an address holds. -/
def part? (context : Context) (register : Register) : Option Term :=
  if register.size < 4 then none else some (context.block.register register)

/-- The address of a place. -/
def address? (context : Context) (place : Reference) : Option Term := do
  if place.isTable then none
  else
    let start ← context.sumTerm? place.start
    let withBase ← match place.base with
      | none => some start
      | some register => (context.part? register).map fun base =>
        match start with
        | .word 0 => base
        | start => added base start
    match place.index with
    | none => return withBase
    | some register => do
      if register.number = stackEnd then none
      else
        let index ← context.part? register
        let scaled := if place.scale = 1 then index
          else .binary .mul wordKind index (.word place.scale)
        return added withBase scaled

/-- Whether a number fits into the part of a command that has room for it. -/
def fits (size : Nat) (number : Int) : Bool :=
  let limit : Int := twoTo (8 * min size 4)
  if size = 8 then -(limit / 2) ≤ number && number < limit / 2
  else -limit < number && number < limit

/-- What an operand holds, in so many octets. -/
def value? (context : Context) (size : Nat) (operand : Operand) : Option Term :=
  match operand with
  | .number sum =>
    match sum.value? with
    | some number =>
      if fits size number then some (.word (Code.Value.bitsOf size number)) else none
    | none => (context.sumTerm? sum).map (lowest size)
  | .register register =>
    if register.size = size then some (context.block.register register) else none
  | .place place =>
    if place.isTable then if size = 8 then context.sumTerm? place.start else none
    else if place.size.any (· != size) then none
    else (context.address? place).map (.load (.word size false))
  | .wide _ | .through _ => none

/-- Writes so many octets to an operand. -/
def assign? (context : Context) (size : Nat) (operand : Operand) (value : Term) : Option Term :=
  match operand with
  | .register register =>
    if register.size = size then some (context.block.setRegister register value) else none
  | .place place =>
    if place.size.any (· != size) then none
    else (context.address? place).map fun address => .store (.word size false) address value
  | _ => none

/-- The octets that operands tell. -/
def told : List Operand → List Nat
  | [] => []
  | .register register :: rest => register.size :: told rest
  | .place place :: rest => place.size.toList ++ told rest
  | _ :: rest => told rest

/-- The octets that a command works on: what its name says, or what its operands say. -/
def size? (suffix : Option Nat) (operands : List Operand) : Option Nat :=
  match suffix.toList ++ told operands with
  | [] => none
  | first :: rest => if rest.all (· == first) then some first else none

/-! ### Places for what is worked out on the way -/

/-- What such a place holds. -/
def kept (context : Context) (number : Nat) : Term := .load wordKind (context.block.spare number)

/-- Writes such a place. -/
def keep (context : Context) (number : Nat) (value : Term) : Term :=
  .store wordKind (context.block.spare number) value

/-- What such a place holds in sixteen octets. -/
def keptBroad (context : Context) (number : Nat) : Term :=
  .load broadKind (context.block.spare number)

/-- Writes such a place with sixteen octets. -/
def keepBroad (context : Context) (number : Nat) (value : Term) : Term :=
  .store broadKind (context.block.spare number) value

/-! ### Flags -/

/-- Whether the number of bits in the lowest octet is even. -/
def even (value : Term) : Term :=
  let folded (value : Term) (amount : Nat) : Term :=
    .binary .bitXor broadKind value (movedDown value (.word amount))
  isNot (masked (folded (folded (folded (masked value (.word 255)) 4) 2) 1) (.word 1))

/-- The flags that tell about a result alone. -/
def resultFlags (size : Nat) (result : Term) : List (Flag × Term) :=
  [(.zero, isZero result), (.sign, negative size result), (.parity, even result)]

/-- Flags that are not set. -/
def cleared (flags : List Flag) : List (Flag × Term) := flags.map fun flag => (flag, .word 0)

/-- Flags as they were, unless a number is not zero. -/
def unlessZero (context : Context) (number : Term) (flags : List (Flag × Term)) :
    List (Flag × Term) :=
  match number.constant? with
  | some value => if value.isTrue then flags else []
  | none => flags.map fun (flag, value) =>
    (flag, .conditional number value (context.block.flag flag))

/-- The flags that a condition looks at, and its term; `none` for a name that is no condition. -/
def plainCondition? (context : Context) (name : String) : Option (List Flag × Term) :=
  let flag := context.block.flag
  let less := differ (flag .sign) (flag .overflow)
  match name with
  | "o" => some ([.overflow], flag .overflow)
  | "b" | "c" | "nae" => some ([.carry], flag .carry)
  | "e" | "z" => some ([.zero], flag .zero)
  | "be" | "na" => some ([.carry, .zero], oneOf (flag .carry) (flag .zero))
  | "s" => some ([.sign], flag .sign)
  | "p" | "pe" => some ([.parity], flag .parity)
  | "l" | "nge" => some ([.sign, .overflow], less)
  | "le" | "ng" => some ([.sign, .overflow, .zero], oneOf less (flag .zero))
  | _ => none

/-- The name of the opposite of a condition. -/
def opposite? (name : String) : Option String :=
  match name with
  | "no" => some "o"
  | "ae" | "nb" | "nc" => some "b"
  | "ne" | "nz" => some "e"
  | "a" | "nbe" => some "be"
  | "ns" => some "s"
  | "np" | "po" => some "p"
  | "ge" | "nl" => some "l"
  | "g" | "nle" => some "le"
  | _ => none

/-- A condition by its name. -/
def condition? (context : Context) (name : String) : Option (List Flag × Term) :=
  match context.plainCondition? name with
  | some found => some found
  | none => do
    let (reads, term) ← context.plainCondition? (← opposite? name)
    return (reads, isNot term)

end Context

end KernelCache.Assembly
