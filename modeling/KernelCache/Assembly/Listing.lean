import KernelCache.Assembly.Effect
import KernelCache.Assembly.Command
import KernelCache.Assembly.Statement
import KernelCache.Code.Processor
import Std.Data.HashMap

/-
**Listings: the code of a text for the assembler.**

The stack of the processor is a part of the variables of the routine that runs the code. A return
takes a label from there, so that calls inside of a listing need no routine of their own.

* `Context.effect?` is the effect of any command.
* `Listing.instructions?` turns labels and commands into instructions; only those flags are worked
  out that a later command may look at.
-/

/-! ## Commands on wide registers

A wide register has sixteen octets. `Context.onWide?` is the effect of a command that works on one
number in floating point in the lowest octets, or on all octets bit by bit.
-/

namespace KernelCache.Assembly

open KernelCache.Code (Instruction Kind Term)

namespace Context

/-- The address of an operand that is wide or in memory. -/
def wideAddress? (context : Context) (operand : Operand) : Option Term :=
  match operand with
  | .wide number => some (context.block.wideAt number)
  | .place place => context.address? place
  | _ => none

/-- The number in floating point that an operand holds. -/
def real? (context : Context) (size : Nat) (operand : Operand) : Option Term := do
  return .load (.real size) (← context.wideAddress? operand)

/-- Writes a number in floating point. -/
def setReal? (context : Context) (size : Nat) (operand : Operand) (value : Term) : Option Term := do
  return .store (.real size) (← context.wideAddress? operand) value

/-- The operator of a command on two numbers in floating point. -/
def realOperator? (name : String) : Option Code.Binary :=
  match name with
  | "add" => some .add
  | "sub" => some .sub
  | "mul" => some .mul
  | "div" => some .div
  | _ => none

/-- The effect of a command on two numbers in floating point. -/
def realEffect? (context : Context) (name : String) (size : Nat) (source target : Operand) :
    Option Effect := do
  let kind : Kind := .real size
  let other ← context.real? size source
  let own ← context.real? size target
  let chosen (operator : Code.Binary) : Term :=
    .conditional (.binary operator kind own other) own other
  let value ← match name with
    | "min" => some (chosen .less)
    | "max" => some (chosen .greater)
    | "sqrt" => some (.unary .squareRoot kind other)
    | name => (realOperator? name).map fun operator => .binary operator kind own other
  match target with
  | .wide _ => return { steps := effects [← context.setReal? size target value] }
  | _ => none

/-- The effect of a comparison of numbers in floating point. -/
def realComparison? (context : Context) (size : Nat) (source target : Operand) : Option Effect := do
  let kind : Kind := .real size
  let other ← context.real? size source
  let own ← context.real? size target
  let same (value : Term) : Term := .binary .equal kind value value
  let unordered := isNot (.binary .bitAnd (.word 1 false) (same own) (same other))
  return {
    flags := [(.zero, oneOf unordered (.binary .equal kind own other)), (.parity, unordered),
      (.carry, oneOf unordered (.binary .less kind own other)), (.overflow, .word 0),
      (.sign, .word 0)] }

/-- The operator of a command on all bits. -/
def bitOperator? (name : String) : Option Code.Binary :=
  if ["pxor", "xorps", "xorpd"].contains name then some .bitXor
  else if ["por", "orps", "orpd"].contains name then some .bitOr
  else if ["pand", "andps", "andpd"].contains name then some .bitAnd
  else none

/-- The effect of a move of so many octets of wide registers; a load clears the others. -/
def wideMove? (context : Context) (size : Nat) (clears : Bool) (source target : Operand) :
    Option Effect := do
  let kind : Kind := .word size false
  let value := Term.load kind (← context.wideAddress? source)
  match target with
  | .wide number =>
    let address := context.block.wideAt number
    if clears then return { steps := effects [.store broadKind address value] }
    else return { steps := effects [.store kind address value] }
  | .place place => do
    match source with
    | .wide _ => return { steps := effects [.store kind (← context.address? place) value] }
    | _ => none
  | _ => none

/-- The effect of a move between a wide register and words. -/
def mixedMove? (context : Context) (size : Nat) (source target : Operand) : Option Effect := do
  match source, target with
  | .register _, .wide number =>
    return { steps := effects [.store broadKind (context.block.wideAt number)
      (← context.value? size source)] }
  | .wide number, .register _ =>
    let value := Term.load (.word size false) (context.block.wideAt number)
    return { steps := effects [← context.assign? size target value] }
  | _, _ => context.wideMove? size true source target

/-- The effect of a conversion of a whole number. -/
def fromWhole? (context : Context) (new : Nat) (suffix : Option Nat) (source target : Operand) :
    Option Effect := do
  let size := (size? suffix [source]).getD 4
  let value ← context.value? size source
  match target with
  | .wide _ =>
    return { steps := effects [← context.setReal? new target
      (.convert (.word size true) (.real new) value)] }
  | _ => none

/-- The effect of a conversion to a whole number, without the fraction. -/
def toWhole? (context : Context) (old : Nat) (suffix : Option Nat) (source target : Operand) :
    Option Effect := do
  let size ← size? suffix [target]
  let value := Term.convert (.real old) (.word size true) (← context.real? old source)
  return { steps := effects [← context.assign? size target value] }

/-- The effect of a conversion between the sizes of numbers in floating point. -/
def resize? (context : Context) (old new : Nat) (source target : Operand) : Option Effect := do
  let value := Term.convert (.real old) (.real new) (← context.real? old source)
  match target with
  | .wide _ => return { steps := effects [← context.setReal? new target value] }
  | _ => none

/-- A name without what tells the size of numbers in floating point. -/
def realName? (name : String) : Option (String × Nat) :=
  match name.toList.reverse with
  | 's' :: 's' :: front => some (String.ofList front.reverse, 4)
  | 'd' :: 's' :: front => some (String.ofList front.reverse, 8)
  | _ => none

/-- The effect of a command on wide registers; `suffix` is the size that the name tells. -/
def onWide? (context : Context) (name : String) (suffix : Option Nat) (operands : List Operand) :
    Option Effect := do
  let isWide : Operand → Bool := fun operand => operand matches .wide _
  match operands with
  | [source, target] =>
    if !(isWide source || isWide target) then none
    else
      let clears := !isWide source
      match name with
      | "movss" => context.wideMove? 4 clears source target
      | "movsd" => context.wideMove? 8 clears source target
      | "movaps" | "movapd" | "movups" | "movupd" | "movdqa" | "movdqu" =>
        context.wideMove? 16 false source target
      | "movd" => context.mixedMove? 4 source target
      | "movq" => context.mixedMove? 8 source target
      | "cvtsi2sd" => context.fromWhole? 8 suffix source target
      | "cvtsi2ss" => context.fromWhole? 4 suffix source target
      | "cvttsd2si" => context.toWhole? 8 suffix source target
      | "cvttss2si" => context.toWhole? 4 suffix source target
      | "cvtss2sd" => context.resize? 4 8 source target
      | "cvtsd2ss" => context.resize? 8 4 source target
      | "ucomisd" | "comisd" => context.realComparison? 8 source target
      | "ucomiss" | "comiss" => context.realComparison? 4 source target
      | name =>
        match bitOperator? name with
        | some operator =>
          let value := Term.binary operator broadKind
            (.load broadKind (← context.wideAddress? target))
            (.load broadKind (← context.wideAddress? source))
          return { steps := effects [.store broadKind (← context.wideAddress? target) value] }
        | none =>
          let (stem, size) ← realName? name
          context.realEffect? stem size source target
  | _ => none

end Context

end KernelCache.Assembly

/-! ## Listings: the code of a text for the assembler -/

namespace KernelCache.Assembly

open KernelCache.Code (Instruction Kind Term)

namespace Context

/-! ### Calls -/

/-- So many words of the stack are handed on in a call. -/
def stackWords : Nat := 6

/-- Calls a routine with all words that it can have. -/
def callRoutine (context : Context) (routine : Term) : List Instruction :=
  let block := context.block
  let stack := block.whole stackEnd
  let words := parameterRegisters.map block.whole
    ++ (List.range stackWords).map fun number =>
      .load wordKind (added stack (.word (8 * number)))
  effects [block.setWhole accumulator (.call routine words),
    .store wordKind (block.wideAt 0) (block.whole accumulator)]

/-- Puts the address of a label on the stack. -/
def pushLabel (context : Context) (label : Nat) : List Instruction :=
  let block := context.block
  let stack := block.whole stackEnd
  effects [block.setWhole stackEnd (.binary .sub wordKind stack (.word 8)),
    .store wordKind stack (.labelAddress label)]

/-- Whether the first place holds the address of a label. -/
def holdsLabel (context : Context) : List Instruction :=
  (Term.binary .greaterEqual wordKind (context.kept 0) (.word Code.labelStart)).instructions

/-- Goes on at the label on top of the stack, and takes so many octets more from there. -/
def goBack (context : Context) (more : Nat) : List Instruction :=
  let block := context.block
  let stack := block.whole stackEnd
  effects [context.keep 0 (.load wordKind stack),
      block.setWhole stackEnd (added stack (.word (8 + more)))]
    ++ context.holdsLabel ++ [.skipIf true broken.length] ++ broken
    ++ (context.kept 0).instructions ++ [.gotoAddress]

/-- What an operand of a jump or a call leads to. -/
def destination? (context : Context) (operand : Operand) : Option (String ⊕ Term) :=
  match operand with
  | .place place =>
    if place.base.isSome || place.index.isSome || place.start.number ≠ 0 then none
    else place.start.plus.map .inl
  | .through operand => (context.value? 8 operand).map .inr
  | _ => none

/-- The effect of a call. -/
def call? (context : Context) (operand : Operand) : Option Effect := do
  match ← context.destination? operand with
  | .inl name =>
    match context.label? name with
    | some label => return {
        steps := context.pushLabel context.own ++ [.goto label, .label context.own]
        forgets := true }
    | none => return {
        steps := context.callRoutine (context.addressOf name)
        forgets := true }
  | .inr target => return {
      steps := (context.keep 0 target).effect ++ context.holdsLabel
        ++ [.skipIf false 1, .goto (context.own + 1)] ++ context.callRoutine (context.kept 0)
        ++ [.goto context.own, .label (context.own + 1)] ++ context.pushLabel context.own
        ++ (context.kept 0).instructions ++ [.gotoAddress, .label context.own]
      forgets := true }

/-- The effect of a jump. -/
def jump? (context : Context) (operand : Operand) : Option Effect := do
  match ← context.destination? operand with
  | .inl name =>
    match context.label? name with
    | some label => return { steps := [.goto label], flow := .jump name }
    | none => return {
        steps := context.callRoutine (context.addressOf name) ++ context.goBack 0
        flow := .leaves }
  | .inr target => return {
      steps := (context.keep 0 target).effect ++ context.holdsLabel
        ++ [.skipIf false 1, .goto context.own] ++ context.callRoutine (context.kept 0)
        ++ context.goBack 0 ++ .label context.own :: (context.kept 0).instructions
        ++ [.gotoAddress]
      flow := .leaves }

/-- The effect of a jump under a condition. -/
def branch? (context : Context) (front : List Instruction) (condition : Term) (reads : List Flag)
    (operand : Operand) : Option Effect := do
  match ← context.destination? operand with
  | .inl name =>
    return {
      steps := front ++ condition.instructions ++ [.skipIf false 1, .goto (← context.label? name)]
      reads
      flow := .branch name }
  | .inr _ => none

/-- The effect of a command that counts down and jumps. -/
def loop? (context : Context) (name : String) (operand : Operand) : Option Effect :=
  let block := context.block
  let count := block.whole counter
  let step := (block.setWhole counter (.binary .sub wordKind count (.word 1))).effect
  let zero := block.flag .zero
  match name with
  | "loop" => context.branch? step count [] operand
  | "loope" | "loopz" => context.branch? step (.both count zero) [.zero] operand
  | "loopne" | "loopnz" => context.branch? step (.both count (isNot zero)) [.zero] operand
  | "jrcxz" => context.branch? [] (isZero count) [] operand
  | "jecxz" => context.branch? [] (isZero (block.register ⟨counter, 4, false⟩)) [] operand
  | _ => none

/-- The effect of a request to the system. -/
def request (context : Context) : Effect :=
  let block := context.block
  let number := block.whole accumulator
  let is (other : Nat) : Term := .binary .equal wordKind number (.word other)
  let given := [targetIndex, sourceIndex, extension].map block.whole
  let call (symbol : String) : Term := .call (.address symbol) given
  let refused : Term := .word (Code.Value.bitsOf 8 (-38))
  { steps := (block.setWhole accumulator (.conditional (is 1) (call "write")
      (.conditional (.either (is 60) (is 231)) (call "_exit") refused))).effect }

/-! ### Runs of memory -/

/-- A command on memory at the registers for it: what it does, and its flags. -/
def stringStep? (context : Context) (stem : String) (size : Nat) :
    Option (List Term × List (Flag × Term)) :=
  let block := context.block
  let kind : Kind := .word size false
  let source := block.whole sourceIndex
  let target := block.whole targetIndex
  let own : Register := ⟨accumulator, size, false⟩
  let onwards (number : Nat) : Term :=
    block.setWhole number (added (block.whole number) (.word size))
  let (result, flags) := context.combined size .subtract
  let compared := flags ++ resultFlags size (context.kept 2)
  match stem with
  | "movs" => some ([.store kind target (.load kind source), onwards sourceIndex,
      onwards targetIndex], [])
  | "stos" => some ([.store kind target (block.register own), onwards targetIndex], [])
  | "lods" => some ([block.setRegister own (.load kind source), onwards sourceIndex], [])
  | "scas" => some ([context.keep 0 (block.register own), context.keep 1 (.load kind target),
      context.keep 2 result, onwards targetIndex], compared)
  | "cmps" => some ([context.keep 0 (.load kind source), context.keep 1 (.load kind target),
      context.keep 2 result, onwards sourceIndex, onwards targetIndex], compared)
  | _ => none

/-- The octets that the last letter of a command on memory tells. -/
def stringSize? (letter : Char) : Option Nat :=
  if letter = 'd' then some 4 else letterSize? letter

/-- The effect of a command on memory, which words in front of it may repeat. -/
def string? (context : Context) (fronts : List String) (name : String) : Option Effect := do
  let chars := name.toList
  let size ← stringSize? (← chars.getLast?)
  let (step, flags) ← context.stringStep? (String.ofList chars.dropLast) size
  let same := fronts.any fun word => ["rep", "repe", "repz"].contains word
  let other := fronts.any fun word => ["repne", "repnz"].contains word
  if !(same || other) then return { steps := effects step, flags }
  else
    let block := context.block
    let count := block.whole counter
    let hit := isZero (context.kept 2)
    let test : List Instruction :=
      if flags.isEmpty then []
      else (if same then hit else isNot hit).instructions
        ++ [.skipIf true 1, .goto (context.own + 1)]
    return {
      steps := (context.keep 4 count).effect ++ .label context.own :: count.instructions
        ++ [.skipIf true 1, .goto (context.own + 1)] ++ effects step
        ++ (block.setWhole counter (.binary .sub wordKind count (.word 1))).effect ++ test
        ++ [.goto context.own, .label (context.own + 1)]
      flags := context.unlessZero (context.kept 4) flags
      reads := if flags.isEmpty then [] else Flag.all }

/-! ### All commands -/

/-- The effect of a command that goes on elsewhere. -/
def flow? (context : Context) (name : String) (operands : List Operand) : Option Effect :=
  match name, operands with
  | "jmp", [operand] | "jmpq", [operand] => context.jump? operand
  | "call", [operand] | "callq", [operand] => context.call? operand
  | "ret", [] | "retq", [] => some { steps := context.goBack 0, flow := .leaves }
  | "ret", [.number sum] | "retq", [.number sum] => do
    return { steps := context.goBack (← sum.value?).toNat, flow := .leaves }
  | "syscall", [] => some context.request
  | name, [operand] =>
    (context.loop? name operand).or (do
      match name.toList with
      | 'j' :: rest =>
        let (reads, condition) ← context.condition? (String.ofList rest)
        context.branch? [] condition reads operand
      | _ => none)
  | _, _ => none

/-- The effect of a command. -/
def effect? (context : Context) (fronts : List String) (name : String) (operands : List Operand) :
    Option Effect :=
  let plain (stem : String) (suffix : Option Nat) : Option Effect :=
    (context.onWide? stem suffix operands).or (context.onWords? stem suffix operands)
  let chars := name.toList
  (context.flow? name operands).or
    ((if operands.isEmpty then context.string? fronts name else none).or
      ((plain name none).or (do
        let size ← letterSize? (← chars.getLast?)
        plain (String.ofList chars.dropLast) (some size))))

end Context

namespace Listing

/-- A part of a listing. -/
inductive Item where
  | label (name : String)
  | effect (effect : Effect)

/-- So many parts are looked through for commands that look at flags. -/
def foresight : Nat := 14

/-- Those of the given flags that a command from a part on may look at; `last` are those that are
looked at behind the end. -/
def wanted (items : Array Item) (places : Std.HashMap String Nat) (last : List Flag) :
    Nat → Nat → List Flag → List Flag
  | 0, _, flags => flags
  | fuel + 1, place, flags =>
    if flags.isEmpty then []
    else
      match items[place]? with
      | none => flags.filter last.contains
      | some (.label _) => wanted items places last fuel (place + 1) flags
      | some (.effect effect) =>
        let read := flags.filter effect.reads.contains
        let left := if effect.forgets then []
          else flags.filter fun flag =>
            !(effect.reads.contains flag || (effect.flags.lookup flag).isSome)
        let behind := wanted items places last fuel (place + 1)
        let there (name : String) (flags : List Flag) : List Flag :=
          match places[name]? with
          | some place => wanted items places last fuel place flags
          | none => flags
        read ++ match effect.flow with
          | .next => behind left
          | .jump name => there name left
          | .branch name =>
            let first := behind left
            first ++ there name (left.filter fun flag => !first.contains flag)
          | .leaves => []

/-- The instructions of a part. -/
def stepsOf (block : Block) (label? : String → Option Nat) (items : Array Item)
    (places : Std.HashMap String Nat) (last : List Flag) (item : Item) (place : Nat) :
    List Instruction :=
  match item with
  | .label name => ((label? name).map Instruction.label).toList
  | .effect effect =>
    let changed := effect.flags.map (·.1)
    let looked := wanted items places last foresight (place + 1) changed
    effect.steps ++ effects (effect.flags.filterMap fun (flag, value) =>
      if looked.contains flag then some (block.setFlag flag value) else none)

/-- The labels that every command has for itself. -/
def ownLabels : Nat := 2

/-- The instructions of labels and commands. The labels that commands need for themselves have
numbers from the given one on. -/
def instructions? (block : Block) (addressOf : String → Term) (label? : String → Option Nat)
    (firstOwn : Nat) (last : List Flag) (statements : List Statement) :
    Option (List Instruction) := do
  let items ← statements.zipIdx.mapM fun (statement, number) =>
    match statement with
    | .label name => some (Item.label name)
    | .command fronts name operands => do
      let context : Context := { block, addressOf, label?, own := firstOwn + ownLabels * number }
      return Item.effect (← context.effect? fronts name operands)
    | _ => none
  let items := items.toArray
  let places := items.toList.zipIdx.foldl (fun (places : Std.HashMap String Nat) (item, place) =>
    match item with
    | .label name => places.insert name place
    | .effect _ => places) {}
  return items.toList.zipIdx.flatMap fun (item, place) =>
    stepsOf block label? items places last item place

/-- Words in front of commands, with the commands. -/
def joined : List Statement → List Statement
  | .command fronts name [] :: rest =>
    if Statement.fronts.contains name then
      match rest with
      | .command more second operands :: rest =>
        .command (fronts ++ name :: more) second operands :: joined rest
      | rest => joined rest
    else .command fronts name [] :: joined rest
  | first :: rest => first :: joined rest
  | [] => []

end Listing

end KernelCache.Assembly
