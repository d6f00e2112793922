import KernelCache.Power

/-
**Numbers as a processor has them.**

A word is kept as the number that its bits make when none of them is a sign; its kind says how many
bits there are and whether the first one is a sign.

* `Value.convert` moves a value from one kind to another.
* `Value.combine?` and `Value.apply` are the operators; division of words by zero has no result.
* `octets` and `ofOctets` write a number into memory and read it from there.
-/

namespace KernelCache.Code

/-- How a number is kept. -/
inductive Kind where
  | word (size : Nat) (signed : Bool)
  /-- A word that is zero or one. -/
  | truth
  /-- A number in floating point of a size in octets. -/
  | real (size : Nat)
  deriving DecidableEq, Repr

/-- The octets that a number of a kind takes. -/
def Kind.size : Kind → Nat
  | .word size _ => size
  | .truth => 1
  | .real size => size

/-- The kind of addresses. -/
def Kind.address : Kind := .word 8 false

/-- The kind of ordinary integers. -/
def Kind.int : Kind := .word 4 true

/-- A number. -/
inductive Value where
  | word (bits : Nat)
  | real (number : Float)
  deriving Repr

/-- An operator with one operand. -/
inductive Unary where
  | minus
  | complement
  | negation
  | squareRoot
  deriving DecidableEq, Repr

/-- An operator with two operands that are both evaluated. -/
inductive Binary where
  | add
  | sub
  | mul
  | div
  | rem
  | shiftLeft
  | shiftRight
  | less
  | greater
  | lessEqual
  | greaterEqual
  | equal
  | notEqual
  | bitAnd
  | bitXor
  | bitOr
  deriving DecidableEq, Repr

/-- Whether an operator compares. -/
def Binary.compares : Binary → Bool
  | less | greater | lessEqual | greaterEqual | equal | notEqual => true
  | _ => false

/-- The number of words of a size in octets. -/
def range : Nat → Nat
  | 1 => 0x100
  | 2 => 0x10000
  | 4 => 0x100000000
  | 8 => 0x10000000000000000
  | size => twoTo (8 * size)

namespace Value

/-! ### Words -/

/-- The integer that bits stand for. -/
def ofBits (size : Nat) (signed : Bool) (bits : Nat) : Int :=
  if signed && range size ≤ 2 * bits then (bits : Int) - range size else bits

/-- The bits that stand for the integer that is congruent to the given one. -/
def bitsOf (size : Nat) (number : Int) : Nat := (number % (range size : Int)).toNat

/-- The word of a size that is congruent to the given number. -/
def ofInt (size : Nat) (number : Int) : Value := .word (bitsOf size number)

/-- A truth value. -/
def ofBool (truth : Bool) : Value := .word (if truth then 1 else 0)

/-- Whether a value counts as true. -/
def isTrue : Value → Bool
  | word bits => bits != 0
  | real number => number != 0

/-- The bits of a word. -/
def bits : Value → Nat
  | word bits => bits
  | real _ => 0

/-- The number in floating point. -/
def number : Value → Float
  | real number => number
  | word bits => Float.ofNat bits

/-! ### Numbers in floating point -/

/-- The number of a size in octets that is nearest. -/
def nearest (size : Nat) (number : Float) : Value :=
  .real (if size = 4 then number.toFloat32.toFloat else number)

/-- The integer that is left without a fraction, unless it needs more than 64 bits with a sign. -/
def truncated? (number : Float) : Option Int :=
  let limit : Float := Float.ofScientific (twoTo 63) false 0
  if -limit ≤ number && number < limit then some number.toInt64.toInt else none

/-- The bits of the integer that is left without a fraction. What does not fit becomes the least
integer. -/
def bitsOfReal (size : Nat) (signed : Bool) (number : Float) : Nat :=
  let least := range (max 4 size) / 2
  match truncated? number with
  | some whole =>
    let narrow : Bool := size < 4 || (size == 4 && signed)
    if narrow && (whole < -(twoTo 31 : Int) || (twoTo 31 : Int) ≤ whole) then least % range size
    else bitsOf size whole
  | none =>
    let limit : Float := Float.ofScientific (twoTo 64) false 0
    if !signed && 8 ≤ size && 0 ≤ number && number < limit then number.toUInt64.toNat
    else if 16 ≤ size then bitsOf size (if number < 0 then -(twoTo 127 : Int) else twoTo 127 - 1)
    else if size == 4 && !signed then 0
    else least % range size

/-- The number of a size in floating point that is nearest to an integer. -/
def realOf (size : Nat) (number : Int) : Value :=
  if size = 4 then .real (Float32.ofInt number).toFloat else .real (Float.ofInt number)

/-! ### Conversions -/

/-- A value of one kind in another kind. -/
def convert (source target : Kind) (value : Value) : Value :=
  match source, target, value with
  | _, .truth, value => ofBool value.isTrue
  | .word old signed, .word new _, .word bits =>
    if new ≤ old then .word (bits % range new)
    else if signed && range old ≤ 2 * bits then .word (bits + (range new - range old))
    else .word bits
  | _, .word size signed, .real number => .word (bitsOfReal size signed number)
  | .word size signed, .real target, .word bits => realOf target (ofBits size signed bits)
  | _, .real target, .word bits => realOf target bits
  | _, .real target, .real number => nearest target number
  | _, _, value => value

/-! ### Operators -/

/-- Compares by an order and an equality. -/
def compare? {α : Type} [BEq α] (less : α → α → Bool) (operator : Binary) (a b : α) :
    Option Bool :=
  match operator with
  | .less => some (less a b)
  | .greater => some (less b a)
  | .lessEqual => some (less a b || a == b)
  | .greaterEqual => some (less b a || a == b)
  | .equal => some (a == b)
  | .notEqual => some (a != b)
  | _ => none

/-- Divides without a fraction, when there is a result that fits. -/
def divide? (operator : Binary) (size : Nat) (signed : Bool) (a b : Nat) : Option Value :=
  if b = 0 then none
  else if !signed then some (.word (if operator = .div then a / b else a % b))
  else
    let left := ofBits size true a
    let right := ofBits size true b
    if right = -1 ∧ a = range size / 2 then none
    else some (ofInt size (if operator = .div then left.tdiv right else left.tmod right))

/-- Combines two words. -/
def combineWords? (operator : Binary) (size : Nat) (signed : Bool) (a b : Nat) : Option Value :=
  match operator with
  | .add => some (.word ((a + b) % range size))
  | .sub => some (.word ((a + (range size - b)) % range size))
  | .mul => some (.word (a * b % range size))
  | .div => divide? .div size signed a b
  | .rem => divide? .rem size signed a b
  | .shiftLeft => some (.word (a * twoTo (b % (8 * size)) % range size))
  | .shiftRight =>
    if signed && range size ≤ 2 * a then
      some (ofInt size (ofBits size true a / (twoTo (b % (8 * size)) : Int)))
    else some (.word (a / twoTo (b % (8 * size))))
  | .bitAnd => some (.word (Nat.land a b))
  | .bitXor => some (.word (Nat.xor a b))
  | .bitOr => some (.word (Nat.lor a b))
  | .equal => some (ofBool (a == b))
  | .notEqual => some (ofBool (a != b))
  | other =>
    if signed then
      let half := range size / 2
      let moved (bits : Nat) : Nat := if bits < half then bits + half else bits - half
      (compare? (fun a b : Nat => a < b) other (moved a) (moved b)).map ofBool
    else (compare? (fun a b : Nat => a < b) other a b).map ofBool

/-- Combines two numbers in floating point. -/
def combineReals? (operator : Binary) (size : Nat) (a b : Float) : Option Value :=
  match operator with
  | .add => some (nearest size (a + b))
  | .sub => some (nearest size (a - b))
  | .mul => some (nearest size (a * b))
  | .div => some (nearest size (a / b))
  | other => (compare? (fun a b : Float => a < b) other a b).map ofBool

/-- Combines two values of one kind. The amount of a shift has a kind of its own. -/
def combine? (operator : Binary) (kind : Kind) (left right : Value) : Option Value :=
  match kind, left, right with
  | .word size signed, .word a, .word b => combineWords? operator size signed a b
  | .truth, .word a, .word b => combineWords? operator 1 false a b
  | .real size, .real a, .real b => combineReals? operator size a b
  | _, _, _ => none

/-- Applies an operator to a value. -/
def apply (operator : Unary) (kind : Kind) (value : Value) : Value :=
  match operator, value with
  | .negation, value => ofBool (!value.isTrue)
  | .minus, .real number => .real (-number)
  | .minus, .word bits => .word ((range kind.size - bits) % range kind.size)
  | .complement, .word bits => .word (range kind.size - 1 - bits)
  | .complement, value => value
  | .squareRoot, .real number => nearest kind.size number.sqrt
  | .squareRoot, value => value

end Value

/-! ### Octets -/

/-- The octets of a number, the lowest first. -/
def octets : Nat → Nat → List UInt8
  | 0, _ => []
  | width + 1, number => UInt8.ofNat (number % 256) :: octets width (number / 256)

/-- The number of octets, the lowest first. -/
def ofOctets : List UInt8 → Nat
  | [] => 0
  | first :: rest => first.toNat + 256 * ofOctets rest

/-- A number takes as many octets as it is given. -/
theorem length_octets (width number : Nat) : (octets width number).length = width := by
  induction width generalizing number with
  | zero => rfl
  | succ width hyp => simp [octets, hyp]

/-- The number that a value has in memory. -/
def Value.stored (kind : Kind) : Value → Nat
  | .word bits => bits
  | .real number => if kind.size = 4 then number.toFloat32.toBits.toNat else number.toBits.toNat

/-- The value of a kind that a number in memory stands for. -/
def Value.ofStored (kind : Kind) (stored : Nat) : Value :=
  match kind with
  | .word _ _ => .word stored
  | .truth => .word (if stored = 0 then 0 else 1)
  | .real 4 => .real (Float32.ofBits (UInt32.ofNat stored)).toFloat
  | .real _ => .real (Float.ofBits (UInt64.ofNat stored))

end KernelCache.Code
