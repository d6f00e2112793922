import KernelCache.Code.Term
import KernelCache.Code.Memory

/-
**Running instructions.**

* `State.step` obeys one instruction.
* `State.run` goes on until the outermost routine ends, or something else ends the run.

Services are routines that are not made of instructions.
-/

namespace KernelCache.Code

/-- A routine in the form in which it runs. -/
structure Loaded where
  instructions : Array Instruction
  room : Nat
  parameters : List (Kind × Nat)
  furtherAt : Option Nat
  outsideAt : Option Nat
  /-- Positions whose exceptions go on at another position. -/
  regions : List (Nat × Nat × Nat)
  answerKind : Option Kind
  deriving Inhabited

/-- What a call of the running routine goes back to. -/
structure Frame where
  code : Loaded
  position : Nat
  base : Nat
  top : Nat
  operands : List Value
  /-- How many closures there were. -/
  closures : Nat

/-- How a run ends. -/
inductive Ending where
  | finished (value : Value)
  /-- The program ends itself; what it has not written yet may get lost, and nothing else may run. -/
  | left (code : Nat) (inOrder : Bool)
  /-- A signal. -/
  | fault (signal : Nat)
  | endless
  deriving Repr

/-- The state of a run. -/
structure State where
  memory : Memory
  operands : List Value := []
  code : Loaded := default
  position : Nat := 0
  base : Nat := 0
  top : Nat := 0
  frames : List Frame := []
  /-- Routines that use the variables of another one, and where those are. -/
  closures : Array (Nat × Nat) := #[]
  /-- What was written, the latest first, each with its descriptor. -/
  written : List (Nat × ByteArray) := []
  /-- What can be read. -/
  input : List UInt8 := []
  /-- The object and the type of the exception that was caught last. -/
  exception : Nat × Nat := (0, 0)
  /-- Places to which a run can go back, and the closures there. -/
  returns : Array (Frame × List Frame) := #[]
  /-- Routines that are called when the program ends, the latest first. -/
  atEnd : List Nat := []

/-- What a step comes to: a result, or the end of the run. -/
abbrev Outcome (α : Type) := Except (Ending × State) α

/-- A routine that is not made of instructions. -/
abbrev Service := List Value → State → Outcome (Value × State)

/-- What can be called. -/
inductive Callable where
  | routine (code : Loaded)
  | service (run : Service)
  deriving Inhabited

/-- What can be called, by number. -/
abbrev Callables := Array Callable

/-- Routines have addresses from here on. -/
def codeStart : Nat := 0x550000000000

/-- Closures have addresses from here on. -/
def closureStart : Nat := 0x560000000000

/-- Labels have addresses from here on. -/
def labelStart : Nat := 0x570000000000

/-- The address of what can be called by a number. -/
def codeAddress (number : Nat) : Nat := codeStart + 16 * (number + 1)

/-- The signal of an access to memory that is not there. -/
def memoryFault : Ending := .fault 11

/-- The signal of a division that has no result. -/
def divisionFault : Ending := .fault 8

/-- The signal by which a program ends itself. -/
def abortFault : Ending := .fault 6

namespace State

/-- Goes on at the next instruction, with other values. -/
def next (state : State) (operands : List Value) : State :=
  { state with operands, position := state.position + 1 }

/-- Changes memory, and goes on with other values. -/
def remember (state : State) (operands : List Value) (change : Memory → Option Memory) :
    Outcome State :=
  match state with
  | { memory, operands := _, code, position, base, top, frames, closures, written, input,
      exception, returns, atEnd } =>
    match change memory with
    | some memory =>
      .ok { memory, operands, code, position := position + 1, base, top, frames, closures, written,
            input, exception, returns, atEnd }
    | none =>
      .error (memoryFault, { memory := {}, operands, code, position, base, top, frames, closures
                             written, input, exception, returns, atEnd })

/-- Changes memory in the place of a routine, and yields its answer. -/
def serve (state : State) (change : Memory → Option (Value × Memory)) : Outcome (Value × State) :=
  match state with
  | { memory, operands, code, position, base, top, frames, closures, written, input, exception,
      returns, atEnd } =>
    match change memory with
    | some (value, memory) =>
      .ok (value, { memory, operands, code, position, base, top, frames, closures, written, input
                    exception, returns, atEnd })
    | none =>
      .error (memoryFault, { memory := {}, operands, code, position, base, top, frames, closures
                             written, input, exception, returns, atEnd })

/-! ### Calls -/

/-- Octets that a further argument takes. -/
def argumentSize : Nat := 8

/-- Writes arguments to their places. -/
def place? (base : Nat) : List (Kind × Nat) → List Value → Memory → Option Memory
  | [], _, memory => some memory
  | (kind, offset) :: rest, [], memory => do
    place? base rest [] (← memory.write? (base + offset) kind.size 0)
  | (kind, offset) :: rest, value :: values, memory => do
    place? base rest values (← memory.write? (base + offset) kind.size (value.stored kind))

/-- Writes further arguments one behind the other. -/
def placeFurther? : Nat → List Value → Memory → Option Memory
  | _, [], memory => some memory
  | address, .word bits :: rest, memory => do
    placeFurther? (address + argumentSize) rest
      (← memory.write? address 8 (bits % range 8))
  | address, .real number :: rest, memory => do
    placeFurther? (address + argumentSize) rest
      (← memory.write? address 8 number.toBits.toNat)

/-- Starts a routine with arguments; `outside` is where the variables around it are. -/
def enter (code : Loaded) (arguments : List Value) (outside : Nat) (below : List Value)
    (state : State) : Outcome State :=
  match state with
  | { memory, operands := _, code := old, position, base := oldBase, top := oldTop, frames, closures,
      written, input, exception, returns, atEnd } =>
    let base := roundUp oldTop 16
    let further := arguments.drop code.parameters.length
    let room := code.room + (if code.furtherAt.isSome then argumentSize * further.length else 0)
    let changed := do
      let memory ← memory.reach? (base + room)
      let memory ← place? base code.parameters arguments memory
      let memory ← match code.outsideAt with
        | some offset => memory.write? (base + offset) 8 outside
        | none => some memory
      match code.furtherAt with
      | some offset => do
        let memory ← memory.write? (base + offset) 8 (base + code.room)
        placeFurther? (base + code.room) further memory
      | none => some memory
    match changed with
    | none =>
      .error (memoryFault, { memory := {}, operands := below, code := old, position, base := oldBase
                             top := oldTop, frames, closures, written, input, exception, returns, atEnd })
    | some memory =>
      let frame : Frame :=
        { code := old, position, base := oldBase, top := oldTop, operands := below
          closures := closures.size }
      .ok { memory, operands := [], code, position := 0, base, top := base + room
            frames := frame :: frames, closures, written, input, exception, returns, atEnd }

/-- Calls what is at an address. -/
def call (callables : Callables) (target : Nat) (arguments below : List Value) (state : State) :
    Outcome State :=
  let (target, outside) :=
    if closureStart < target then
      let (number, outside) := state.closures.getD ((target - closureStart) / 16 - 1) (0, 0)
      (codeAddress number, outside)
    else (target, 0)
  if target ≤ codeStart ∨ target % 16 ≠ 0 then .error (memoryFault, state)
  else
    match callables[(target - codeStart) / 16 - 1]? with
    | none => .error (memoryFault, state)
    | some (.routine code) => state.enter code arguments outside below
    | some (.service run) =>
      match run arguments { state with operands := below } with
      | .ok (value, state) => .ok (state.next (value :: state.operands))
      | .error stopped => .error stopped

/-- Ends the running routine with an answer. -/
def answer (value : Value) (state : State) : Outcome State :=
  match state.frames with
  | [] => .error (.finished value, state)
  | frame :: frames =>
    .ok { state with
      operands := value :: frame.operands
      code := frame.code
      position := frame.position + 1
      base := frame.base
      top := frame.top
      closures := if frame.closures < state.closures.size
        then state.closures.extract 0 frame.closures else state.closures
      frames }

/-! ### Exceptions -/

/-- Where an exception at a position goes on. -/
def handler? (code : Loaded) (position : Nat) : Option Nat :=
  (code.regions.find? fun (first, last, _) => first ≤ position && position < last).map (·.2.2)

/-- Goes out of routines until one of them handles an exception. -/
def unwind (state : State) : List Frame → Outcome State
  | [] => .error (abortFault, state)
  | frame :: frames =>
    match handler? frame.code frame.position with
    | some position =>
      .ok { state with
        operands := []
        code := frame.code
        position
        base := frame.base
        top := frame.top
        frames }
    | none => unwind state frames

/-- Throws an object of a type. -/
def raise (object type : Nat) (state : State) : Outcome State :=
  let state := { state with exception := (object, type) }
  match handler? state.code state.position with
  | some position => .ok { state with operands := [], position }
  | none => state.unwind state.frames

/-! ### Steps -/

/-- The place of an instruction so far from the next one. -/
def target (position : Nat) (distance : Int) : Nat := ((position : Int) + 1 + distance).toNat

/-- The bits of a word from a place on. -/
def someBits (kind : Kind) (first width stored : Nat) : Nat :=
  let bits := stored / twoTo first % twoTo width
  match kind with
  | .word size true =>
    if twoTo width ≤ 2 * bits then bits + (range size - twoTo width) else bits
  | _ => bits

/-- A word with other bits from a place on. -/
def withBits (first width stored bits : Nat) : Nat :=
  let low := stored % twoTo first
  let high := stored / twoTo (first + width) * twoTo (first + width)
  high + bits % twoTo width * twoTo first + low

/-- Obeys one instruction. -/
def step (callables : Callables) (state : State) : Outcome State :=
  match state.code.instructions[state.position]?, state.operands with
  | none, _ => state.answer (.word 0)
  | some (.word bits), operands => .ok (state.next (.word bits :: operands))
  | some (.real number), operands => .ok (state.next (.real number :: operands))
  | some (.place offset), operands => .ok (state.next (.word (state.base + offset) :: operands))
  | some (.fetch offset kind), operands =>
    match state.memory.read? (state.base + offset) kind.size with
    | some stored => .ok (state.next (.ofStored kind stored :: operands))
    | none => .error (memoryFault, state)
  | some (.load kind), .word address :: operands =>
    match state.memory.read? address kind.size with
    | some stored => .ok (state.next (.ofStored kind stored :: operands))
    | none => .error (memoryFault, state)
  | some (.store kind), value :: .word address :: operands =>
    state.remember (value :: operands) (·.write? address kind.size (value.stored kind))
  | some (.loadBits kind first width), .word address :: operands =>
    match state.memory.read? address kind.size with
    | some stored => .ok (state.next (.word (someBits kind first width stored) :: operands))
    | none => .error (memoryFault, state)
  | some (.storeBits kind first width), value :: .word address :: operands =>
    let kept := someBits kind 0 width (value.bits % twoTo width)
    state.remember (.word kept :: operands) fun memory => do
      let stored ← memory.read? address kind.size
      memory.write? address kind.size (withBits first width stored value.bits)
  | some (.copy size), .word source :: .word target :: operands =>
    state.remember (.word target :: operands) (·.move? target source size)
  | some .move, .word size :: .word source :: .word target :: operands =>
    state.remember (.word target :: operands) (·.move? target source size)
  | some (.clear size), .word target :: operands =>
    state.remember (.word target :: operands) (·.clear? target size)
  | some (.convert source target), value :: operands =>
    .ok (state.next (value.convert source target :: operands))
  | some (.unary operator kind), value :: operands =>
    .ok (state.next (value.apply operator kind :: operands))
  | some (.binary operator kind), right :: left :: operands =>
    match Value.combine? operator kind left right with
    | some value => .ok (state.next (value :: operands))
    | none => .error (divisionFault, state)
  | some .drop, _ :: operands => .ok (state.next operands)
  | some .twice, value :: operands => .ok (state.next (value :: value :: operands))
  | some .exchange, first :: second :: operands =>
    .ok (state.next (second :: first :: operands))
  | some (.skip distance), operands =>
    .ok { state with operands, position := target state.position distance }
  | some (.skipIf truth distance), value :: operands =>
    if value.isTrue == truth then
      .ok { state with operands, position := target state.position distance }
    else .ok (state.next operands)
  | some (.label _), operands => .ok (state.next operands)
  | some (.goto position), operands => .ok { state with operands, position }
  | some (.labelAddress position), operands =>
    .ok (state.next (.word (labelStart + position) :: operands))
  | some .gotoAddress, .word address :: operands =>
    .ok { state with operands, position := address - labelStart }
  | some (.call count), operands =>
    match operands.drop count with
    | .word target :: below => state.call callables target (operands.take count) below
    | _ => .error (memoryFault, state)
  | some .answer, value :: _ => state.answer value
  | some .reserve, .word size :: operands =>
    let address := roundUp state.top 16
    match { state with top := address + size }.remember operands (·.reach? (address + size)) with
    | .ok state => .ok { state with operands := .word address :: state.operands }
    | .error stopped => .error stopped
  | some .close, .word frame :: .word target :: operands =>
    let number := (target - codeStart) / 16 - 1
    let known := state.closures.findIdx? fun entry => entry == (number, frame)
    match known with
    | some index => .ok (state.next (.word (closureStart + 16 * (index + 1)) :: operands))
    | none =>
      let state := { state with closures := state.closures.push (number, frame) }
      .ok (state.next (.word (closureStart + 16 * state.closures.size) :: operands))
  | some .throw, .word type :: .word object :: _ => state.raise object type
  | some .caught, operands => .ok (state.next (.word state.exception.1 :: operands))
  | some .caughtType, operands => .ok (state.next (.word state.exception.2 :: operands))
  | some _, _ => .error (memoryFault, state)

/-- So many instructions may run. -/
def patience : Nat := 2000000000

/-- Obeys instructions until the run ends. -/
def run (callables : Callables) : Nat → State → Ending × State
  | 0, state => (.endless, state)
  | fuel + 1, state =>
    match state.step callables with
    | .ok state => run callables fuel state
    | .error stopped => stopped

end State

end KernelCache.Code
