import KernelCache.Assembly.Effect

/-
**Commands on words.**

`Context.onWords?` is the effect of a command whose name tells no size, or of one without the letter
that tells it; `none` means that there is no such command for such operands.
-/

namespace KernelCache.Assembly

open KernelCache.Code (Instruction Kind Term)

namespace Context

/-! ### Sums and differences -/

/-- Combines two words, with what the flags are afterwards. -/
inductive Arithmetic where
  | add
  | addWithCarry
  | subtract
  | subtractWithCarry
  | both
  | either
  | differing
  deriving DecidableEq

/-- The arithmetic of a command, and whether its result is kept. -/
def arithmetic? (name : String) : Option (Arithmetic × Bool) :=
  match name with
  | "add" => some (.add, true)
  | "adc" => some (.addWithCarry, true)
  | "sub" => some (.subtract, true)
  | "sbb" => some (.subtractWithCarry, true)
  | "cmp" => some (.subtract, false)
  | "and" => some (.both, true)
  | "test" => some (.both, false)
  | "or" => some (.either, true)
  | "xor" => some (.differing, true)
  | _ => none

/-- Whether the arithmetic takes the carry flag into account. -/
def Arithmetic.usesCarry : Arithmetic → Bool
  | .addWithCarry | .subtractWithCarry => true
  | _ => false

/-- The result of two words, and what the carry and the overflow are; the result is at the third
place, the words at the first two ones. -/
def combined (context : Context) (size : Nat) (arithmetic : Arithmetic) :
    Term × List (Flag × Term) :=
  let a := context.kept 0
  let b := context.kept 1
  let r := context.kept 2
  let kind : Kind := .word size false
  let carry := context.block.flag .carry
  let top (value : Term) : Term := negative size value
  let xor (left right : Term) : Term := .binary .bitXor wordKind left right
  let bound : Term := .word (Code.range size - 1)
  let noCarry := cleared [.carry, .overflow]
  match arithmetic with
  | .add =>
    (.binary .add kind a b,
      [(.carry, .binary .less kind r a), (.overflow, top (masked (xor a r) (xor b r)))])
  | .addWithCarry =>
    let sum := Term.binary .add broadKind (.binary .add broadKind a b) (context.kept 3)
    (lowest size (.binary .add broadKind (.binary .add broadKind a b) carry),
      [(.carry, .binary .less broadKind bound sum), (.overflow, top (masked (xor a r) (xor b r)))])
  | .subtract =>
    (.binary .sub kind a b,
      [(.carry, .binary .less kind a b), (.overflow, top (masked (xor a b) (xor a r)))])
  | .subtractWithCarry =>
    let taken := Term.binary .add broadKind b (context.kept 3)
    (lowest size (.binary .sub broadKind a (.binary .add broadKind b carry)),
      [(.carry, .binary .less broadKind a taken), (.overflow, top (masked (xor a b) (xor a r)))])
  | .both => (.binary .bitAnd kind a b, noCarry)
  | .either => (.binary .bitOr kind a b, noCarry)
  | .differing => (.binary .bitXor kind a b, noCarry)

/-- The effect of arithmetic on a source and a target. -/
def arithmeticEffect? (context : Context) (size : Nat) (arithmetic : Arithmetic) (isKept : Bool)
    (source target : Operand) : Option Effect := do
  let old ← context.value? size target
  let other ← context.value? size source
  let (result, flags) := context.combined size arithmetic
  let carry := if arithmetic.usesCarry then [context.keep 3 (context.block.flag .carry)] else []
  let last ← if isKept then (context.assign? size target (context.kept 2)).map fun term => [term]
    else some []
  return {
    steps := effects ([context.keep 0 old, context.keep 1 other] ++ carry
      ++ [context.keep 2 result] ++ last)
    flags := flags ++ resultFlags size (context.kept 2)
    reads := if arithmetic.usesCarry then [.carry] else [] }

/-! ### One operand -/

/-- The effect of a command that changes its only operand. -/
def changing? (context : Context) (name : String) (size : Nat) (target : Operand) :
    Option Effect := do
  let old ← context.value? size target
  let a := context.kept 0
  let r := context.kept 2
  let kind : Kind := .word size false
  let half : Term := .word (Code.range size / 2)
  let least : Term := .word (Code.range size / 2 - 1)
  let is (left right : Term) : Term := .binary .equal wordKind left right
  let result := resultFlags size r
  let (value, flags) ← match name with
    | "inc" => some (Term.binary .add kind a (.word 1), (.overflow, is r half) :: result)
    | "dec" => some (.binary .sub kind a (.word 1), (.overflow, is r least) :: result)
    | "neg" => some (.unary .minus kind a,
        (.carry, isNot (isZero a)) :: (.overflow, is a half) :: result)
    | "not" => some (.unary .complement kind a, [])
    | _ => none
  return {
    steps := effects [context.keep 0 old, context.keep 2 value,
      ← context.assign? size target r]
    flags }

/-! ### Shifts -/

/-- A word that is there twice. -/
def doubled (size : Nat) (value : Term) : Term :=
  .binary .mul broadKind value (.word (Code.range size + 1))

/-- The result and the flags of a shift by an amount. -/
def shifted? (name : String) (size : Nat) (a n r : Term) : Option (Term × List (Flag × Term)) :=
  let width := 8 * size
  let sign := negative size r
  let bit (value : Term) : Term := masked value (.word 1)
  let upper := bit (movedDown (movedUp a n) (.word width))
  let lower := bit (movedDown (movedUp a (.word 1)) n)
  let wide := spread size a
  let signedDown (value amount : Term) : Term := .binary .shiftRight (.word 16 true) value amount
  match name with
  | "shl" | "sal" => some (lowest size (movedUp a n),
      (.carry, upper) :: (.overflow, differ sign upper) :: resultFlags size r)
  | "shr" => some (lowest size (movedDown a n),
      (.carry, lower) :: (.overflow, negative size a) :: resultFlags size r)
  | "sar" => some (lowest size (signedDown wide n),
      (.carry, bit (signedDown (movedUp wide (.word 1)) n)) :: (.overflow, .word 0)
        :: resultFlags size r)
  | "rol" =>
    let turned := movedDown (movedUp (doubled size a) (.binary .rem wordKind n (.word width)))
      (.word width)
    some (lowest size turned, [(.carry, bit r), (.overflow, differ sign (bit r))])
  | "ror" =>
    let turned := movedDown (doubled size a) (.binary .rem wordKind n (.word width))
    some (lowest size turned, [(.carry, sign),
      (.overflow, differ sign (negative size (.binary .shiftLeft (.word size false) r (.word 1))))])
  | _ => none

/-- The amount of a shift: what an operand holds, as far as it counts. -/
def amount? (context : Context) (size : Nat) (operand : Operand) : Option Term := do
  let limit := if size = 8 then 63 else 31
  match operand with
  | .number sum =>
    let number ← sum.value?
    return .word (Nat.land (Code.Value.bitsOf 1 number) limit)
  | .register register =>
    if register = ⟨counter, 1, false⟩ then
      return masked (context.block.register register) (.word limit)
    else none
  | _ => none

/-- The effect of a shift. -/
def shiftEffect? (context : Context) (name : String) (size : Nat) (amount target : Operand) :
    Option Effect := do
  let old ← context.value? size target
  let given ← context.amount? size amount
  let fixed := given.constant?
  let n := if fixed.isSome then given else context.kept 1
  let (value, flags) ← shifted? name size (context.kept 0) n (context.kept 2)
  return {
    steps := effects [context.keep 0 old, context.keep 1 given, context.keep 2 value,
      ← context.assign? size target (context.kept 2)]
    flags := context.unlessZero n flags
    reads := if fixed.isSome then [] else Flag.all }

/-- The effect of a shift that fills up from a second word. -/
def doubleShift? (context : Context) (isUp : Bool) (size : Nat) (amount source target : Operand) :
    Option Effect := do
  let old ← context.value? size target
  let more ← context.value? size source
  let given ← context.amount? size amount
  let fixed := given.constant?
  let n := if fixed.isSome then given else context.kept 1
  let a := context.kept 0
  let r := context.kept 2
  let width := 8 * size
  let pair (high low : Term) : Term :=
    .binary .bitOr broadKind (movedUp high (.word width)) low
  let bit (value : Term) : Term := masked value (.word 1)
  let value := if isUp then movedDown (movedUp (pair a (context.kept 3)) n) (.word width)
    else movedDown (pair (context.kept 3) a) n
  let carry := if isUp then bit (movedDown (movedUp a n) (.word width))
    else bit (movedDown (movedUp a (.word 1)) n)
  return {
    steps := effects [context.keep 0 old, context.keep 1 given, context.keep 3 more,
      context.keep 2 (lowest size value), ← context.assign? size target r]
    flags := context.unlessZero n ((.carry, carry)
      :: (.overflow, differ (negative size a) (negative size r)) :: resultFlags size r)
    reads := if fixed.isSome then [] else Flag.all }

/-! ### Products and quotients -/

/-- The registers of the lower and the upper part of a product. -/
def halves (size : Nat) : Register × Register :=
  if size = 1 then (⟨accumulator, 1, false⟩, ⟨accumulator, 1, true⟩)
  else (⟨accumulator, size, false⟩, ⟨extension, size, false⟩)

/-- The effect of a product of two operands that goes to a register. -/
def product? (context : Context) (size : Nat) (first second : Operand) (target : Register) :
    Option Effect := do
  if size = 1 ∨ target.size ≠ size then none
  else
    let left ← context.value? size first
    let right ← context.value? size second
    let whole := Term.binary .mul broadKind (spread size left) (spread size right)
    let r := lowest size (context.keptBroad 0)
    let lost := isNot (.binary .equal broadKind (spread size r) (context.keptBroad 0))
    return {
      steps := effects [context.keepBroad 0 whole, context.block.setRegister target r]
      flags := (.carry, lost) :: (.overflow, lost) :: resultFlags size r }

/-- The effect of a product that has twice the size. -/
def fullProduct? (context : Context) (isSigned : Bool) (size : Nat) (source : Operand) :
    Option Effect := do
  let (low, high) := halves size
  let left := context.block.register low
  let right ← context.value? size source
  let widened (value : Term) : Term := if isSigned then spread size value else value
  let whole := Term.binary .mul broadKind (widened left) (widened right)
  let product := context.keptBroad 0
  let r := lowest size product
  let upper := lowest size (movedDown product (.word (8 * size)))
  let lost := if isSigned then
      isNot (.binary .equal broadKind (spread size r) product)
    else isNot (isZero upper)
  return {
    steps := effects [context.keepBroad 0 whole, context.block.setRegister low r,
      context.block.setRegister high upper]
    flags := (.carry, lost) :: (.overflow, lost) :: resultFlags size r }

/-- The effect of a quotient. A quotient that does not fit is like a division by zero. -/
def quotient? (context : Context) (isSigned : Bool) (size : Nat) (source : Operand) :
    Option Effect := do
  let (low, high) := halves size
  let divisor ← context.value? size source
  let kind : Kind := .word 16 isSigned
  let whole := Term.binary .bitOr broadKind
    (movedUp (context.block.register high) (.word (8 * size))) (context.block.register low)
  let widened := if isSigned then Term.convert (.word (2 * size) true) (.word 16 true) whole
    else whole
  let other := if isSigned then spread size divisor else divisor
  let quotient := context.keptBroad 2
  let r := lowest size quotient
  let shown := if isSigned then spread size r else r
  let isWhole := Term.binary .equal broadKind shown quotient
  return {
    steps := effects [context.keepBroad 0 widened, context.keepBroad 1 other,
        context.keepBroad 2 (.binary .div kind (context.keptBroad 0) (context.keptBroad 1)),
        .binary .div wordKind (.word 1) isWhole,
        context.keepBroad 0 (.binary .rem kind (context.keptBroad 0) (context.keptBroad 1)),
        context.block.setRegister low r,
        context.block.setRegister high (lowest size (context.keptBroad 0))]
    forgets := true }

/-! ### Bits -/

/-- The number of bits of a word of eight octets that are set. -/
def ones (value : Term) : Term :=
  let mask (number : Nat) (value : Term) : Term := .binary .bitAnd wordKind value (.word number)
  let down (amount : Nat) (value : Term) : Term :=
    .binary .shiftRight wordKind value (.word amount)
  let pairs := Term.binary .sub wordKind value (mask 0x5555555555555555 (down 1 value))
  let fours := added (mask 0x3333333333333333 pairs) (mask 0x3333333333333333 (down 2 pairs))
  let eights := mask 0x0F0F0F0F0F0F0F0F (added fours (down 4 fours))
  down 56 (.binary .mul wordKind eights (.word 0x0101010101010101))

/-- The terms that set all bits below the highest one at the first place, in the same place. -/
def smear (context : Context) : List Term :=
  [1, 2, 4, 8, 16, 32].map fun amount =>
    context.keep 0 (.binary .bitOr wordKind (context.kept 0)
      (.binary .shiftRight wordKind (context.kept 0) (.word amount)))

/-- The effect of a command that counts bits. -/
def counting? (context : Context) (name : String) (size : Nat) (source target : Operand) :
    Option Effect := do
  let value ← context.value? size source
  let a := context.kept 0
  let width := 8 * size
  let marked := if size = 8 then a else Term.binary .bitOr wordKind a (.word (Code.range size))
  let below := Term.binary .sub wordKind
    (.binary .bitAnd wordKind marked (.unary .minus wordKind marked)) (.word 1)
  let old ← context.value? size target
  let r := context.kept 2
  let isEmpty := isZero (context.kept 1)
  let write ← context.assign? size target r
  let front := [context.keep 0 value, context.keep 1 value]
  match name with
  | "popcnt" => return {
      steps := effects (front ++ [context.keep 2 (ones a), write])
      flags := (.zero, isEmpty) :: cleared [.carry, .overflow, .sign, .parity] }
  | "tzcnt" => return {
      steps := effects (front ++ [context.keep 2 (ones below), write])
      flags := (.zero, isZero r) :: (.carry, isEmpty) :: cleared [.overflow, .sign, .parity] }
  | "lzcnt" => return {
      steps := effects (front ++ context.smear
        ++ [context.keep 2 (.binary .sub wordKind (.word width) (ones a)), write])
      flags := (.zero, isZero r) :: (.carry, isEmpty) :: cleared [.overflow, .sign, .parity] }
  | "bsf" => return {
      steps := effects (front
        ++ [context.keep 2 (.conditional (context.kept 1) (ones below) old), write])
      flags := (.zero, isEmpty) :: cleared [.carry, .overflow, .sign, .parity] }
  | "bsr" => return {
      steps := effects (front ++ context.smear
        ++ [context.keep 2 (.conditional (context.kept 1)
          (.binary .sub wordKind (ones a) (.word 1)) old), write])
      flags := (.zero, isEmpty) :: cleared [.carry, .overflow, .sign, .parity] }
  | _ => none

/-- The effect of a command about one bit. In memory, a bit can be far from its place. -/
def oneBit? (context : Context) (name : String) (size : Nat) (source target : Operand) :
    Option Effect := do
  let width := 8 * size
  let number ← match source with
    | .number sum => (sum.value?).map fun number => Term.word (number.toNat % width)
    | other => context.value? size other
  let n := context.kept 1
  let near := Term.binary .rem wordKind n (.word width)
  let mask := lowest size (movedUp (.word 1) near)
  let (read, write) ← match source, target with
    | .register _, .place place => do
      let start ← context.address? place
      let far := Term.binary .shiftRight (.word 8 true) (.convert (.word size true) (.word 8 true) n)
        (.word (if size = 8 then 6 else if size = 4 then 5 else 4))
      let address := added start (.binary .mul wordKind far (.word size))
      let kind : Kind := .word size false
      some (Term.load kind address, fun value => some (Term.store kind address value))
    | _, target => do
      some (← context.value? size target, fun value => context.assign? size target value)
  let a := context.kept 0
  let changed ← match name with
    | "bt" => some none
    | "bts" => some (some (Term.binary .bitOr wordKind a mask))
    | "btr" => some (some (.binary .bitAnd wordKind a (.unary .complement wordKind mask)))
    | "btc" => some (some (.binary .bitXor wordKind a mask))
    | _ => none
  let last ← match changed with
    | none => some []
    | some value => (write value).map fun term => [term]
  return {
    steps := effects ([context.keep 1 number, context.keep 0 read] ++ last)
    flags := [(.carry, masked (movedDown a near) (.word 1))] }

/-- A word with its octets in the opposite order. -/
def turnedAround (size : Nat) (value : Term) : Term :=
  (List.range size).foldl (fun result place =>
    .binary .bitOr broadKind result
      (movedUp (masked (movedDown value (.word (8 * place))) (.word 255))
        (.word (8 * (size - 1 - place))))) (.word 0)

/-! ### Exchanges -/

/-- The effect of a command that exchanges. -/
def exchanging? (context : Context) (name : String) (size : Nat) (source target : Operand) :
    Option Effect := do
  let old ← context.value? size target
  let other ← context.value? size source
  let a := context.kept 0
  let b := context.kept 1
  let front := [context.keep 0 old, context.keep 1 other]
  match name with
  | "xchg" => return {
      steps := effects (front
        ++ [← context.assign? size source a, ← context.assign? size target b]) }
  | "xadd" =>
    let (result, flags) := context.combined size .add
    return {
      steps := effects (front ++ [context.keep 2 result, ← context.assign? size source a,
        ← context.assign? size target (context.kept 2)])
      flags := flags ++ resultFlags size (context.kept 2) }
  | "cmpxchg" =>
    let own : Operand := .register ⟨accumulator, size, false⟩
    let (result, flags) := context.combined size .subtract
    let same := isZero (context.kept 2)
    return {
      steps := effects [context.keep 0 (← context.value? size own), context.keep 1 old,
        context.keep 2 result, context.keep 3 other,
        ← context.assign? size target (.conditional same (context.kept 3) b),
        .conditional same (.word 0) (← context.assign? size own b)]
      flags := flags ++ resultFlags size (context.kept 2) }
  | _ => none

/-! ### Moves -/

/-- The number that a move brings as a whole. -/
def wholeNumber? (context : Context) (size : Nat) (source : Operand) : Option Term :=
  match source with
  | .number sum =>
    match sum.value? with
    | some number =>
      let limit : Int := twoTo (8 * size)
      if -limit < number ∧ number < limit then some (.word (Code.Value.bitsOf size number)) else none
    | none => if size < 4 then none else (context.sumTerm? sum).map (lowest size)
  | _ => none

/-- The effect of a move. -/
def move? (context : Context) (size : Nat) (source target : Operand) : Option Effect := do
  let isMemory : Operand → Bool := fun operand => operand matches .place _
  if isMemory source && isMemory target then none
  else
    let brought ← match target with
      | .register _ => (context.wholeNumber? size source).or (context.value? size source)
      | _ => context.value? size source
    return { steps := effects [← context.assign? size target brought] }

/-- The effect of a move to a larger word. -/
def extending? (context : Context) (isSigned : Bool) (old new : Nat) (source target : Operand) :
    Option Effect := do
  if new ≤ old then none
  else
    match source, target with
    | .number _, _ => none
    | source, .register register => do
      let value ← context.value? old source
      let widened := if isSigned then Term.convert (.word old true) (.word new true) value else value
      return { steps := effects [← context.assign? new (.register register) widened] }
    | _, _ => none

/-- The effect of a push. -/
def push? (context : Context) (size : Nat) (source : Operand) : Option Effect := do
  if size ≠ 8 ∧ size ≠ 2 then none
  else
    let value ← context.value? size source
    let stack := context.block.whole stackEnd
    return { steps := effects [context.keep 0 value,
      context.block.setWhole stackEnd (.binary .sub wordKind stack (.word size)),
      .store (.word size false) stack (context.kept 0)] }

/-- The effect of a pop. -/
def pop? (context : Context) (size : Nat) (target : Operand) : Option Effect := do
  if size ≠ 8 ∧ size ≠ 2 then none
  else
    let stack := context.block.whole stackEnd
    return { steps := effects [context.keep 0 (.load (.word size false) stack),
      context.block.setWhole stackEnd (added stack (.word size)),
      ← context.assign? size target (context.kept 0)] }

/-- All flags in one word. -/
def flagWord (context : Context) : Term :=
  let flag (flag : Flag) (place : Nat) : Term :=
    movedUp (context.block.flag flag) (.word place)
  [flag .carry 0, flag .parity 2, flag .zero 6, flag .sign 7, flag .overflow 11].foldl
    (fun word bit => .binary .bitOr broadKind word bit) (.word 0x202)

/-- The flags of a word. -/
def flagsOf (word : Term) (flags : List Flag) : List (Flag × Term) :=
  let place : Flag → Nat
    | .carry => 0
    | .parity => 2
    | .zero => 6
    | .sign => 7
    | .overflow => 11
  flags.map fun flag => (flag, masked (movedDown word (.word (place flag))) (.word 1))

/-! ### Commands without operands -/

/-- Commands that change nothing. -/
def idleCommands : List String :=
  ["endbr64", "pause", "cld", "mfence", "lfence", "sfence", "fnop", "cli", "sti", "wait", "emms"]

/-- The effect of a command that works on registers of its own. -/
def alone? (context : Context) (name : String) : Option Effect :=
  let register (number size : Nat) : Register := ⟨number, size, false⟩
  let block := context.block
  let widen (old new : Nat) : Effect :=
    { steps := effects [block.setRegister (register accumulator new)
        (.convert (.word old true) (.word new true) (block.register (register accumulator old)))] }
  let signs (size : Nat) : Effect :=
    { steps := effects [block.setRegister (register extension size)
        (.conditional (negative size (block.register (register accumulator size)))
          (.word (Code.range size - 1)) (.word 0))] }
  if idleCommands.contains name then some {}
  else
    match name with
    | "cbtw" | "cbw" => some (widen 1 2)
    | "cwtl" | "cwde" => some (widen 2 4)
    | "cltq" | "cdqe" => some (widen 4 8)
    | "cwtd" | "cwd" => some (signs 2)
    | "cltd" | "cdq" => some (signs 4)
    | "cqto" | "cqo" => some (signs 8)
    | "clc" => some { flags := [(.carry, .word 0)] }
    | "stc" => some { flags := [(.carry, .word 1)] }
    | "cmc" => some { flags := [(.carry, isNot (block.flag .carry))], reads := [.carry] }
    | "leave" | "leaveq" =>
      let stack := block.whole stackEnd
      some { steps := effects [block.setWhole stackEnd (block.whole frameEnd),
        block.setWhole frameEnd (.load wordKind stack),
        block.setWhole stackEnd (added stack (.word 8))] }
    | "pushf" | "pushfq" =>
      let stack := block.whole stackEnd
      some {
        steps := effects [block.setWhole stackEnd (.binary .sub wordKind stack (.word 8)),
          .store wordKind stack context.flagWord]
        reads := Flag.all }
    | "popf" | "popfq" =>
      let stack := block.whole stackEnd
      some {
        steps := effects [context.keep 0 (.load wordKind stack),
          block.setWhole stackEnd (added stack (.word 8))]
        flags := flagsOf (context.kept 0) Flag.all }
    | "lahf" => some {
        steps := effects [block.setRegister ⟨accumulator, 1, true⟩ (lowest 1 context.flagWord)]
        reads := Flag.all }
    | "sahf" =>
      let word := block.register ⟨accumulator, 1, true⟩
      some { flags := flagsOf word [.carry, .parity, .zero, .sign] }
    | "ud2" | "hlt" | "int3" => some { steps := broken, flow := .leaves }
    | _ => none

/-! ### All commands on words -/

/-- The octets that a letter at the end of a name means. -/
def letterSize? (letter : Char) : Option Nat :=
  match letter with
  | 'b' => some 1
  | 'w' => some 2
  | 'l' => some 4
  | 'q' => some 8
  | _ => none

/-- The effect of a move to a larger word whose name tells sizes by letters. -/
def extendingByName? (context : Context) (letters : List Char) (source : Operand)
    (target : Operand) : Option Effect := do
  let new ← size? none [target]
  match letters with
  | ['z', 'x'] | ['s', 'x'] | ['s', 'x', 'd'] =>
    let old ← match source with
      | .register register => some register.size
      | .place place => place.size
      | _ => none
    context.extending? (letters.head? = some 's') old new source target
  | [kind, old] => do
    if kind = 'z' ∨ kind = 's' then
      context.extending? (kind = 's') (← letterSize? old) new source target
    else none
  | [kind, old, told] => do
    let told ← letterSize? told
    if (kind = 'z' ∨ kind = 's') ∧ told = new then
      context.extending? (kind = 's') (← letterSize? old) new source target
    else none
  | _ => none

/-- The effect of a command with a target that is written under a condition. -/
def conditional? (context : Context) (name : String) (suffix : Option Nat)
    (operands : List Operand) : Option Effect := do
  let chars := name.toList
  if "cmov".toList.isPrefixOf chars then
    let (reads, condition) ← context.condition? (String.ofList (chars.drop 4))
    match operands with
    | [source, target] =>
      let size ← size? suffix operands
      let value := Term.conditional condition (← context.value? size source)
        (← context.value? size target)
      return { steps := effects [← context.assign? size target value], reads }
    | _ => none
  else if "set".toList.isPrefixOf chars then
    let (reads, condition) ← context.condition? (String.ofList (chars.drop 3))
    match operands with
    | [target] => return { steps := effects [← context.assign? 1 target condition], reads }
    | _ => none
  else none

/-- The octets that a command works on when nothing tells how many. -/
def usualSize : Nat := 4

/-- The effect of a command on words; `suffix` is the size that the name tells. -/
def onWords? (context : Context) (name : String) (suffix : Option Nat) (operands : List Operand) :
    Option Effect := do
  let sized (given : List Operand) : Option Nat :=
    if suffix.isNone && (told given).isEmpty then some usualSize else size? suffix given
  let none? : Option Effect := none
  match name, operands with
  | "nop", _ => return {}
  | "mov", [source, target] => context.move? (← sized operands) source target
  | "movabs", [source, target] => context.move? (← sized operands) source target
  | "lea", [.place place, target] =>
    let size ← sized [target]
    if size = 1 ∨ place.isTable then none?
    else
      let value := lowest size (← context.address? { place with size := none })
      return { steps := effects [← context.assign? size target value] }
  | "push", [source] => context.push? ((size? suffix operands).getD 8) source
  | "pop", [target] => context.pop? ((size? suffix operands).getD 8) target
  | "imul", [source] => context.fullProduct? true (← sized operands) source
  | "imul", [source, .register target] =>
    context.product? (← sized operands) source (.register target) target
  | "imul", [.number sum, source, .register target] =>
    context.product? (← sized operands) (.number sum) source target
  | "mul", [source] => context.fullProduct? false (← sized operands) source
  | "div", [source] => context.quotient? false (← sized operands) source
  | "idiv", [source] => context.quotient? true (← sized operands) source
  | "bswap", [target] =>
    let size ← sized operands
    if size < 4 then none?
    else
      let value := turnedAround size (context.kept 0)
      return { steps := effects [context.keep 0 (← context.value? size target),
        ← context.assign? size target value] }
  | "shld", [amount, source, target] =>
    context.doubleShift? true (← sized [source, target]) amount source target
  | "shrd", [amount, source, target] =>
    context.doubleShift? false (← sized [source, target]) amount source target
  | "movslq", [source, target] => context.extending? true 4 8 source target
  | name, [] => if suffix.isNone then context.alone? name else none?
  | name, [target] =>
    (do context.changing? name (← sized operands) target).or
      ((do context.shiftEffect? name (← sized operands) (.number { number := 1 }) target).or
        (context.conditional? name suffix operands))
  | name, [source, target] =>
    match arithmetic? name with
    | some (arithmetic, isKept) =>
      if (source matches .place _) && (target matches .place _) then none?
      else context.arithmeticEffect? (← sized operands) arithmetic isKept source target
    | none =>
      if "mov".toList.isPrefixOf name.toList && suffix.isNone then
        context.extendingByName? (name.toList.drop 3) source target
      else
        (do context.shiftEffect? name (← sized [target]) source target).or
          ((do context.counting? name (← sized operands) source target).or
            ((do context.exchanging? name (← sized operands) source target).or
              ((do context.oneBit? name (← sized operands) source target).or
                (context.conditional? name suffix operands))))
  | _, _ => none?

end Context

end KernelCache.Assembly
