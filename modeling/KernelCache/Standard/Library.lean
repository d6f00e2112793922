import KernelCache.C.Builtin
import KernelCache.Standard.Storage
import KernelCache.Decimal.Quantity
import KernelCache.Standard.Routine
import KernelCache.Standard.Stream

/-
**What programs find without bringing it along.**
-/

/-! ## Services that end a run or go on elsewhere, and services on bits -/

namespace KernelCache.Standard.Control

open KernelCache.Code (Ending Frame Outcome Service State Value)

/-- Ends a run. -/
def ends (ending : Ending) : Service := fun _ state => .error (ending, state)

/-- Notes where a run can go back to: the place is a number in memory. -/
def mark (target : Nat) (state : State) : Outcome (Value × State) :=
  let frame : Frame :=
    { code := state.code, position := state.position, base := state.base, top := state.top
      operands := state.operands, closures := state.closures.size }
  let number := state.returns.size
  { state with returns := state.returns.push (frame, state.frames) }.serve fun memory =>
    (memory.write? target 8 (number + 1)).map fun memory => (.word 0, memory)

/-- Goes back to a place. -/
def goBack (source answer : Nat) (state : State) : Outcome (Value × State) :=
  match (state.memory.read? source 8).bind fun number => state.returns[number - 1]? with
  | none => .error (Code.memoryFault, state)
  | some (frame, frames) =>
    let answer := answer % Code.range 4
    .ok (.word (if answer = 0 then 1 else answer),
      { state with
        code := frame.code, position := frame.position, base := frame.base, top := frame.top
        operands := frame.operands, frames })

/-- The signal of a number ends a run, unless it is one that does nothing. -/
def raise (signal : Nat) : Service := fun _ state =>
  if [17, 18, 23, 28].contains signal then .ok (.word 0, state)
  else .error (.fault signal, state)

/-- Services on the bits of numbers. -/
def bitServices : List (String × Service) :=
  C.Parse.bitFunctions.map fun (name, argument, _) =>
    ("__builtin_" ++ name, fun given state =>
      .ok (.word (C.Parse.bitResult name argument.kind.size (word given 0)), state))

/-- Services that end a run or go on elsewhere. -/
def services : List (String × Service) :=
  let leaving : Service := fun given state =>
    .error (.left (word given 0 % 256) true, state)
  let immediate : Service := fun given state =>
    .error (.left (word given 0 % 256) false, state)
  [("exit", leaving), ("_exit", immediate), ("_Exit", immediate), ("quick_exit", immediate),
    ("abort", ends Code.abortFault), ("__cxa_pure_virtual", ends Code.abortFault),
    ("_ZSt9terminatev", ends Code.abortFault), ("__builtin_trap", ends (.fault 4)),
    ("__bad_cast", ends Code.abortFault),
    ("__raise", fun given state => raise (word given 0) given state),
    ("atexit", fun given state =>
      .ok (.word 0, { state with atEnd := word given 0 :: state.atEnd })),
    ("setjmp", fun given state => mark (word given 0) state),
    ("_setjmp", fun given state => mark (word given 0) state),
    ("__sigsetjmp", fun given state => mark (word given 0) state),
    ("longjmp", fun given state => goBack (word given 0) (word given 1) state),
    ("_longjmp", fun given state => goBack (word given 0) (word given 1) state),
    ("siglongjmp", fun given state => goBack (word given 0) (word given 1) state),
    ("getpagesize", fun _ state => .ok (.word 4096, state)),
    ("__builtin_signbit", fun given state =>
      .ok (.word (if twoTo 63 ≤ (number given 0).toBits.toNat then 1 else 0), state))]
  ++ bitServices

end KernelCache.Standard.Control

/-! ## Services that calculate

Functions on numbers in floating point, and on the bits of numbers. A function has a form for each
width of its numbers, which a letter at the end of its symbol tells.
-/

namespace KernelCache.Standard.Mathematics

open KernelCache.Code (Memory Outcome Service State Value)

/-! ### Rounding -/

/-- The integer that is left without a fraction, as a number in floating point. -/
def truncated (number : Float) : Float := if number < 0 then number.ceil else number.floor

/-- The nearest integer; a tie goes to the even one. -/
def nearestEven (number : Float) : Float :=
  let floor := number.floor
  let distance := number - floor
  let isEven := (floor / 2).floor * 2 == floor
  let found := if distance < 0.5 then floor
    else if 0.5 < distance then floor + 1
    else if isEven then floor else floor + 1
  if number != number || number.isInf then number
  else if found == 0 && twoTo 63 ≤ number.toBits.toNat then -0.0 else found

/-- Whether the sign of a number is set. -/
def signBit (number : Float) : Bool := twoTo 63 ≤ number.toBits.toNat

/-- A number with the sign of another one. -/
def withSign (number sign : Float) : Float :=
  if signBit number == signBit sign then number else -number

/-- What is left of a number behind as many others as it holds. -/
def remainder (left right : Float) : Float :=
  if left.isNaN || right.isNaN || left.isInf || right == 0 then 0.0 / 0.0
  else if right.isInf || left == 0 then left
  else
    let a := Decimal.Binary.ofFloat left.abs
    let b := Decimal.Binary.ofFloat right.abs
    let least := min a.exponent b.exponent
    let scaled (binary : Decimal.Binary) : Nat :=
      binary.significand * twoTo (binary.exponent - least).toNat
    let size := (Float.ofNat (scaled a % scaled b)).scaleB least
    withSign size left

/-- The same with the nearest multiple; a tie goes to the even one. -/
def nearestRemainder (left right : Float) : Float :=
  let size := right.abs
  let rest := remainder left.abs (2 * size)
  let rest := if size < 2 * rest then rest - size else rest
  let rest := if rest * 2 ≥ size && rest > 0 then rest - size else rest
  if signBit left then -rest else rest

/-- The fraction of a number and the power of two in front of it. -/
def fraction (number : Float) : Float × Int :=
  if number == 0 || number.isNaN || number.isInf then (number, 0)
  else
    let binary := Decimal.Binary.ofFloat number.abs
    let size := Nat.log2 binary.significand + 1
    let power := binary.exponent + size
    (withSign ((Float.ofNat binary.significand).scaleB (-(size : Int))) number, power)

/-- The product of two numbers and a third one in one step. -/
def fused (a b c : Float) : Float :=
  let quantity (number : Float) : Int × Nat :=
    let binary := Decimal.Binary.ofFloat number.abs
    let size : Int := binary.significand * twoTo (binary.exponent + 1074).toNat
    (if signBit number then -size else size, 1074)
  if a.isFinite && b.isFinite && c.isFinite && (a * b).isFinite then
    let (x, _) := quantity a
    let (y, _) := quantity b
    let (z, _) := quantity c
    let total := x * y + z * (twoTo 1074 : Int)
    if total = 0 then a * b + c
    else
      (Decimal.Quantity.finite (total < 0) ⟨total.natAbs, twoTo 2148⟩).toFloat
  else a * b + c

/-- The logarithm of a number that is greater by one. -/
def logarithmBehindOne (number : Float) : Float :=
  let sum := 1 + number
  if sum == 1 || sum.isInf then number else sum.log * number / (sum - 1)

/-- The power of e less one. -/
def powerLessOne (number : Float) : Float :=
  let power := number.exp
  if power == 1 then number
  else if power.isInf || power - 1 == -1 then power - 1
  else (power - 1) * number / power.log

/-! ### Functions by name -/

/-- Functions of one number. -/
def unary : List (String × (Float → Float)) :=
  [("sqrt", Float.sqrt), ("sin", Float.sin), ("cos", Float.cos), ("tan", Float.tan),
    ("asin", Float.asin), ("acos", Float.acos), ("atan", Float.atan), ("sinh", Float.sinh),
    ("cosh", Float.cosh), ("tanh", Float.tanh), ("asinh", Float.asinh), ("acosh", Float.acosh),
    ("atanh", Float.atanh), ("exp", Float.exp), ("exp2", Float.exp2), ("log", Float.log),
    ("log2", Float.log2), ("log10", Float.log10), ("cbrt", Float.cbrt), ("ceil", Float.ceil),
    ("floor", Float.floor), ("round", Float.round), ("trunc", truncated), ("rint", nearestEven),
    ("nearbyint", nearestEven), ("roundeven", nearestEven), ("fabs", Float.abs),
    ("log1p", logarithmBehindOne), ("expm1", powerLessOne),
    ("exp10", fun number => Float.pow 10 number),
    ("logb", fun number => if number == 0 then -1.0 / 0.0 else if number.isFinite then
      Float.ofInt ((fraction number).2 - 1) else number.abs)]

/-- Functions of two numbers. -/
def binary : List (String × (Float → Float → Float)) :=
  [("pow", Float.pow), ("atan2", Float.atan2), ("fmod", remainder),
    ("remainder", nearestRemainder), ("copysign", withSign),
    ("hypot", fun a b => if a.isInf || b.isInf then 1.0 / 0.0 else (a * a + b * b).sqrt),
    ("fmin", fun a b => if a.isNaN then b else if b.isNaN || a < b then a else b),
    ("fmax", fun a b => if a.isNaN then b else if b.isNaN || b < a then a else b),
    ("fdim", fun a b => if a > b then a - b else if a.isNaN || b.isNaN then a + b else 0)]

/-- The letters behind the symbol of a function, with the width of its numbers. -/
def widths : List (String × Nat) := [("", 8), ("f", 4), ("l", 16)]

/-- The integer that a number in floating point becomes. -/
def integer (number : Float) : Value := .word (Value.bitsOfReal 8 true number)

/-- Functions that yield integers. -/
def toIntegers : List (String × (Float → Value)) :=
  [("lround", fun number => integer number.round), ("llround", fun number => integer number.round),
    ("lrint", fun number => integer (nearestEven number)),
    ("llrint", fun number => integer (nearestEven number)),
    ("ilogb", fun number => Value.ofInt 4 (if number == 0 then -2147483648
      else (fraction number).2 - 1))]

/-- The signed integer that an argument is. -/
def signed (given : List Value) (index : Nat) : Int :=
  Value.ofBits 4 true (word given index % Code.range 4)

/-- Services on numbers in floating point. -/
def services : List (String × Service) :=
  widths.flatMap fun (letter, width) =>
    let rounded (number : Float) : Value := Value.nearest width number
    let ones := unary.map fun (name, function) =>
      (name ++ letter, fun (given : List Value) (state : State) =>
        (.ok (rounded (function (number given 0)), state) : Outcome (Value × State)))
    let twos := binary.map fun (name, function) =>
      (name ++ letter, fun (given : List Value) (state : State) =>
        (.ok (rounded (function (number given 0) (number given 1)), state) :
          Outcome (Value × State)))
    let integers := toIntegers.map fun (name, function) =>
      (name ++ letter, fun (given : List Value) (state : State) =>
        (.ok (function (number given 0), state) : Outcome (Value × State)))
    let others : List (String × Service) :=
      [("ldexp", fun given state =>
          .ok (rounded ((number given 0).scaleB (signed given 1)), state)),
        ("scalbn", fun given state =>
          .ok (rounded ((number given 0).scaleB (signed given 1)), state)),
        ("fma", fun given state =>
          .ok (rounded (fused (number given 0) (number given 1) (number given 2)), state)),
        ("frexp", fun given state => state.serve fun memory => do
          let (size, power) := fraction (number given 0)
          let memory ← memory.write? (word given 1) 4 (Value.bitsOf 4 power)
          return (rounded size, memory)),
        ("modf", fun given state => state.serve fun memory => do
          let whole := truncated (number given 0)
          let rest := if whole.isInf then withSign 0 whole
            else withSign (number given 0 - whole) (number given 0)
          let memory ← memory.write? (word given 1) width ((rounded whole).stored (.real width))
          return (rounded rest, memory))]
    ones ++ twos ++ integers ++ others.map fun (name, service) => (name ++ letter, service)

end KernelCache.Standard.Mathematics

/-! ## What programs find without bringing it along -/

namespace KernelCache.Standard

open KernelCache.Code (Service)

/-- Reads a number in floating point at an address, and notes where it ends. -/
def readReal : Service := fun given state =>
  let start := word given 0
  match state.memory.text? start with
  | none => .error (Code.memoryFault, state)
  | some octets =>
    let chars := Bytes.toChars octets
    let (number, count) := match Decimal.Quantity.read? chars with
      | some (quantity, rest) => (quantity.toFloat, chars.length - rest.length)
      | none => (0, 0)
    state.serve fun memory => do
      let memory ← if word given 1 = 0 then some memory
        else memory.write? (word given 1) 8 (start + count)
      return (.real number, memory)

/-- Services by their symbols. -/
def services : Std.HashMap String Service :=
  Std.HashMap.ofList (("__read_real", readReal) :: Storage.services ++ Stream.services
    ++ Mathematics.services ++ Control.services)

/-- The libraries of the system that a program is linked with, besides the one that is always
there. -/
structure Libraries where
  /-- Whether the one that is always there was asked for. -/
  basic : Bool := false
  mathematics : Bool := false
  plus : Bool := false
  deriving DecidableEq, Repr

/-- Where a symbol of the system is. -/
inductive Home where
  | basic
  | mathematics
  | plus
  deriving DecidableEq, Repr

/-- Functions on numbers that are always there. -/
def basicMathematics : List String :=
  ["copysign", "frexp", "ldexp", "modf", "scalbn"].flatMap fun name =>
    [name, name ++ "f", name ++ "l"]

/-- Functions on numbers. -/
def mathematics : Std.HashSet String :=
  Std.HashSet.ofList (Complex.mathematics ++ (Mathematics.services.map (·.1)).filter fun name =>
    !basicMathematics.contains name)

/-- Where a symbol of the system is found. -/
def home (symbol : String) : Home :=
  if mathematics.contains symbol then .mathematics
  else if "_Z".toList.isPrefixOf symbol.toList || symbol = "__cxa_pure_virtual" then .plus
  else .basic

/-- Whether a symbol is in the libraries. -/
def Libraries.have (libraries : Libraries) (symbol : String) : Bool :=
  match home symbol with
  | .basic => true
  | .mathematics => libraries.mathematics || libraries.plus
  | .plus => libraries.plus

/-- Every library. -/
def library : Code.Library where
  service? symbol := services[symbol]?
  piece? := Routine.piece?

/-- The libraries that a program is linked with. -/
def Libraries.toLibrary (libraries : Libraries) : Code.Library where
  service? symbol := if libraries.have symbol then services[symbol]? else none
  piece? := Routine.piece?

/-- Whether a symbol is there for all, not only for the library itself. -/
def isOffered (symbol : String) : Bool :=
  !("__".toList.isPrefixOf symbol.toList) && !(symbol.toList.head? == some '.')

/-- The symbols that programs can look up in the libraries that they were linked with. -/
def Libraries.offered (libraries : Libraries) : List String :=
  let isThere (symbol : String) : Bool :=
    match home symbol with
    | .basic => libraries.basic || libraries.mathematics || libraries.plus
    | _ => libraries.have symbol
  ((services.toList.map (·.1)) ++ Routine.symbols).filter fun symbol =>
    isOffered symbol && isThere symbol

/-- Whether the system has a symbol at all. -/
def isKnown (symbol : String) : Bool := services.contains symbol || Routine.symbols.contains symbol

end KernelCache.Standard
