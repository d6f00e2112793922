import KernelCache.Code.Processor
import Std.Data.HashMap

/-
**Programs.**

Pieces become a program: every symbol that is used gets an address.

* `Program.link` lays a program out; pieces of the library are added where a symbol needs them.
* `Program.load` gives variables their first values and runs what is to run at the start.
* `Program.invoke` calls a routine.
* `Program.start` runs the main routine with words for it.
-/

namespace KernelCache.Code

/-- What programs find without bringing it along. -/
structure Library where
  service? : String → Option Service
  piece? : String → Option Piece

/-- Addresses of symbols. -/
abbrev Addresses := Std.HashMap String Nat

/-- A program in memory. -/
structure Program where
  callables : Callables
  /-- Symbols that all pieces share. -/
  addresses : Addresses
  /-- Symbols that others see at run time. -/
  exports : List String
  /-- Symbols that are needed at the start and are not there. -/
  missing : List String
  /-- Symbols that are only called and are not there. -/
  unresolved : List String
  presets : List Nat
  starters : List Nat
  finishers : List Nat
  memory : Memory

namespace Piece

/-- The symbols that a piece defines for all, with their linkage. -/
def shared (piece : Piece) : List (String × Linkage) :=
  let routines := piece.routines.map fun routine => (routine.symbol, routine.linkage)
  let objects := piece.objects.map fun object => (object.symbol, object.linkage)
  let aliases := piece.aliases.map fun (symbol, _, linkage) => (symbol, linkage)
  (routines ++ objects ++ aliases).filter fun entry => entry.2 != .inner

/-- The symbols that others see at run time. -/
def exports (piece : Piece) : List String :=
  let routines := piece.routines.filter fun routine => routine.visible && routine.linkage != .inner
  let objects := piece.objects.filter fun object => object.visible && object.linkage != .inner
  let aliases := piece.aliases.filter fun (_, _, linkage) => linkage != .inner
  routines.map (·.symbol) ++ objects.map (·.symbol) ++ aliases.map (·.1)

/-- The symbols that a piece defines, for itself or for all. -/
def defined (piece : Piece) : List String :=
  piece.routines.map (·.symbol) ++ piece.objects.map (·.symbol) ++ piece.texts.map (·.1)
    ++ piece.aliases.map (·.1)

/-- The symbols that instructions take the addresses of: those that are called at once, and the
others. -/
def symbolsOf : List Instruction → List (String × Bool)
  | .callee symbol :: rest => (symbol, true) :: symbolsOf rest
  | .address symbol :: rest => (symbol, false) :: symbolsOf rest
  | _ :: rest => symbolsOf rest
  | [] => []

/-- The symbols that a piece uses. -/
def used (piece : Piece) : List (String × Bool) :=
  piece.routines.flatMap (fun routine => symbolsOf routine.instructions)
    ++ piece.aliases.map (fun (_, target, _) => (target, false))
    ++ (piece.presets ++ piece.finishers ++ piece.starters.map (·.2)).map fun symbol =>
      (symbol, false)

/-- The symbols that a piece uses and does not define. -/
def imports (piece : Piece) : List (String × Bool) :=
  let own : Std.HashSet String := Std.HashSet.ofList piece.defined
  piece.used.filter fun entry => !own.contains entry.1

/-- Whether a piece needs what handles exceptions and tells types when it is loaded. -/
def needsRuntime (piece : Piece) : Bool :=
  piece.routines.any fun routine =>
    !routine.regions.isEmpty || routine.instructions.any (· matches .throw)

end Piece

namespace Program

/-- Pieces of the library that define what is missing, until nothing changes. -/
def complete (library : Library) : Nat → Std.HashSet String → List Piece → List Piece → List Piece
  | 0, _, _, done => done
  | _ + 1, _, [], done => done
  | fuel + 1, known, piece :: rest, done =>
    let known := piece.defined.foldl (fun known symbol => known.insert symbol) known
    let wanted := piece.imports.filter fun entry =>
      !known.contains entry.1 && (library.service? entry.1).isNone
    let (known, added) := wanted.foldl (fun (known, added) (symbol, _) =>
      if known.contains symbol then (known, added)
      else
        match library.piece? symbol with
        | some piece =>
          (piece.defined.foldl (fun known symbol => known.insert symbol) known, added ++ [piece])
        | none => (known, added)) ((known, []) : Std.HashSet String × List Piece)
    complete library fuel known (rest ++ added) (done ++ [piece])

/-- The piece that defines every shared symbol, with how it does. -/
def owners (pieces : List Piece) : Std.HashMap String (Nat × Linkage) :=
  pieces.zipIdx.foldl (fun owners (piece, number) =>
    piece.shared.foldl (fun owners (symbol, linkage) =>
      match owners[symbol]?, linkage with
      | none, _ => owners.insert symbol (number, linkage)
      | some (_, .weak), .outer | some (_, .shared), .outer | some (_, .weak), .shared =>
        owners.insert symbol (number, linkage)
      | some _, _ => owners) owners) {}

/-- Where the routines and variables of all pieces are. -/
structure Layout where
  memory : Memory := {}
  shared : Addresses := {}
  /-- The symbols of every piece that others do not see. -/
  inner : Array Addresses := #[]
  /-- The routines by number, with the pieces they are in. -/
  routines : Array (Nat × Routine) := #[]
  services : Array Service := #[]

namespace Layout

/-- Notes the address of a symbol of a piece. -/
def note (layout : Layout) (piece : Nat) (isInner : Bool) (symbol : String) (address : Nat) :
    Layout :=
  if isInner then
    { layout with inner := layout.inner.modify piece (·.insert symbol address) }
  else { layout with shared := layout.shared.insert symbol address }

/-- Lays out a variable or a constant. -/
def addObject (layout : Layout) (piece : Nat) (size : Nat) (object : Object) : Layout :=
  let (address, memory) :=
    if object.isConstant then layout.memory.addConstant size object.alignment
    else layout.memory.addVariable size object.alignment
  { layout with memory }.note piece (object.linkage == Linkage.inner) object.symbol address

/-- Lays out what a piece defines, unless another piece owns it. -/
def addPiece (owners : Std.HashMap String (Nat × Linkage)) (largest : Std.HashMap String Nat)
    (layout : Layout) (piece : Piece) (number : Nat) : Layout :=
  let isOwn (symbol : String) (linkage : Linkage) : Bool :=
    linkage == .inner || (owners[symbol]?).any fun owner => owner.1 == number
  let layout := { layout with inner := layout.inner.push {} }
  let layout := piece.texts.foldl (fun layout (symbol, alignment, octets) =>
    let memory := layout.memory
    let start := roundUp memory.constants.limit alignment
    let constants := (memory.constants.extendTo start).append octets
    { layout with memory := { memory with constants } }.note number true symbol start) layout
  let layout := piece.objects.foldl (fun layout object =>
    if isOwn object.symbol object.linkage then
      layout.addObject number (max object.size (largest.getD object.symbol 0)) object
    else layout) layout
  piece.routines.foldl (fun layout routine =>
    if isOwn routine.symbol routine.linkage then
      let address := codeAddress layout.routines.size
      { layout with routines := layout.routines.push (number, routine) }.note number
        (routine.linkage == Linkage.inner) routine.symbol address
    else layout) layout

/-- The address that a symbol has in a piece. -/
def address? (layout : Layout) (piece : Nat) (symbol : String) : Option Nat :=
  ((layout.inner[piece]?).bind (·[symbol]?)).or layout.shared[symbol]?

/-- Notes second symbols. -/
def addAliases (owners : Std.HashMap String (Nat × Linkage)) (layout : Layout) (piece : Piece)
    (number : Nat) : Layout :=
  piece.aliases.foldl (fun layout (symbol, target, linkage) =>
    let isOwn := linkage == .inner || (owners[symbol]?).any fun owner => owner.1 == number
    match layout.address? number target with
    | some address =>
      if isOwn then layout.note number (linkage == Linkage.inner) symbol address else layout
    | none => layout) layout

/-- Makes services known under symbols that no piece defines. -/
def addServices (library : Library) (layout : Layout) (symbols : List String) : Layout :=
  symbols.foldl (fun layout symbol =>
    if layout.shared.contains symbol then layout
    else
      match library.service? symbol with
      | some service =>
        let address := codeAddress (layout.routines.size + layout.services.size)
        { layout with services := layout.services.push service }.note 0 false symbol address
      | none => layout) layout

end Layout

/-- The positions of the labels of a piece, each in its routine; no two labels of a piece have one
number. -/
def labelsOf (piece : Piece) : Std.HashMap Nat Nat :=
  piece.routines.foldl (fun labels routine =>
    routine.instructions.zipIdx.foldl (fun labels (instruction, position) =>
      match instruction with
      | .label number => labels.insert number position
      | _ => labels) labels) {}

/-- A routine in the form in which it runs. -/
def prepare (address? : String → Option Nat) (labels : Std.HashMap Nat Nat) (routine : Routine) :
    Loaded :=
  let position (label : Nat) : Nat := labels.getD label 0
  let instructions := routine.instructions.map fun instruction =>
    match instruction with
    | .address symbol | .callee symbol => .word ((address? symbol).getD 0)
    | .goto label => .goto (position label)
    | .labelAddress label => .labelAddress (position label)
    | other => other
  { instructions := instructions.toArray
    room := routine.room
    parameters := routine.parameters
    furtherAt := routine.furtherAt
    outsideAt := routine.outsideAt
    regions := routine.regions.map fun region =>
      (position region.first, position region.last, position region.handler)
    answerKind := routine.answerKind }

/-- More steps than the library has pieces. -/
def libraryDepth : Nat := 100000

/-- Lays a program out. -/
def link (library : Library) (pieces : List Piece) : Program :=
  let pieces := complete library libraryDepth {} pieces []
  let owners := owners pieces
  let largest : Std.HashMap String Nat := pieces.foldl (fun largest piece =>
    piece.objects.foldl (fun largest object =>
      if object.linkage == .shared then
        largest.insert object.symbol (max object.size (largest.getD object.symbol 0))
      else largest) largest) {}
  let numbered := pieces.zipIdx
  let layout := numbered.foldl (fun layout (piece, number) =>
    layout.addPiece owners largest piece number) ({} : Layout)
  let layout := numbered.foldl (fun layout (piece, number) =>
    layout.addAliases owners piece number) layout
  let layout := pieces.foldl (fun layout piece =>
    layout.addServices library (piece.imports.map (·.1))) layout
  let labels := (pieces.map labelsOf).toArray
  let routines := layout.routines.map fun (number, routine) =>
    Callable.routine (prepare (layout.address? number) (labels.getD number {}) routine)
  let absent := numbered.flatMap fun (piece, number) =>
    (piece.imports.filter fun entry => !piece.optional.contains entry.1
      && (layout.address? number entry.1).isNone)
  let addressesOf (select : Piece → List String) : List Nat :=
    numbered.flatMap fun (piece, number) => (select piece).filterMap (layout.address? number)
  let starters := (numbered.flatMap fun (piece, number) =>
    piece.starters.filterMap fun (order, symbol) =>
      (layout.address? number symbol).map fun address => (order, address))
  { callables := routines ++ layout.services.map Callable.service
    addresses := layout.shared
    exports := (pieces.flatMap Piece.exports).eraseDups
    missing := (absent.filter fun entry => !entry.2).map (·.1)
    unresolved := (absent.filter fun entry => entry.2).map (·.1)
    presets := addressesOf (·.presets)
    starters := (starters.mergeSort fun a b => a.1 ≤ b.1).map (·.2)
    finishers := addressesOf (·.finishers)
    memory := layout.memory }

/-! ### Running -/

/-- A state in which nothing runs. -/
def idle (memory : Memory) : State :=
  { memory, base := memory.stack.base, top := memory.stack.base }

/-- Calls the routine at an address. -/
def callAt (program : Program) (address : Nat) (arguments : List Value) (state : State) :
    Ending × State :=
  let pushed := arguments.map fun value =>
    match value with
    | .word bits => Instruction.word bits
    | .real number => .real number
  let instructions := Instruction.word address :: pushed.reverse
    ++ [.call arguments.length, .answer]
  let code : Loaded := { (default : Loaded) with instructions := instructions.toArray }
  State.run program.callables State.patience
    { state with
      operands := [], code, position := 0, base := state.memory.stack.base
      top := state.memory.stack.base, frames := [] }

/-- Calls routines one after the other, until one of them does not come back. -/
def callEach (program : Program) : List Nat → State → Except (Ending × State) State
  | [], state => .ok state
  | first :: rest, state =>
    match program.callAt first [] state with
    | (.finished _, state) => callEach program rest state
    | stopped => .error stopped

/-- The state of a program at its start; what is to be read is known. -/
def load (program : Program) (input : List UInt8) : Except (Ending × State) State := do
  let state ← program.callEach program.presets { idle program.memory with input }
  let state := { state with memory := { state.memory with isSealed := true } }
  program.callEach program.starters state

/-- Calls a routine by its symbol. -/
def invoke (program : Program) (symbol : String) (arguments : List Value) (state : State) :
    Ending × State :=
  match program.addresses[symbol]? with
  | some address => program.callAt address arguments state
  | none => (memoryFault, state)

/-- How the answer of the routine at an address is kept. -/
def answerKind? (program : Program) (address : Nat) : Option Kind :=
  match program.callables[(address - codeStart) / 16 - 1]? with
  | some (.routine code) => code.answerKind
  | _ => none

/-- The ordinary integer that a routine answers without arguments. -/
def integerFrom (program : Program) (symbol : String) (state : State) : Ending × State :=
  match program.invoke symbol [] state with
  | (.finished value, state) =>
    let kind := ((program.addresses[symbol]?).bind program.answerKind?).getD .int
    (.finished (value.convert kind .int), state)
  | stopped => stopped

/-! ### Programs that start -/

/-- Puts texts into memory, and yields their addresses. -/
def placeTexts? : List (List UInt8) → Memory → Option (List Nat × Memory)
  | [], memory => some ([], memory)
  | text :: rest, memory => do
    let (address, memory) ← memory.take (text.length + 1)
    let memory ← memory.overwrite? address ⟨(text ++ [0]).toArray⟩
    let (addresses, memory) ← placeTexts? rest memory
    return (address :: addresses, memory)

/-- Writes addresses one behind the other, with a zero at the end. -/
def placeAddresses? (start : Nat) : List Nat → Memory → Option Memory
  | [], memory => memory.write? start 8 0
  | first :: rest, memory => do
    placeAddresses? (start + 8) rest (← memory.write? start 8 first)

/-- Puts a table of texts into memory, and yields its address. -/
def placeTable? (texts : List (List UInt8)) (memory : Memory) : Option (Nat × Memory) := do
  let (addresses, memory) ← placeTexts? texts memory
  let (table, memory) ← memory.take (8 * (texts.length + 1))
  return (table, ← placeAddresses? table addresses memory)

/-- What is left to do when a program ends in order. So many routines may still be added. -/
def finish (program : Program) : Nat → Nat → State → Ending × State
  | 0, code, state => (.left code true, state)
  | fuel + 1, code, state =>
    let ended (outcome : Ending × State) : Ending × State :=
      match outcome with
      | (.finished _, state) => finish program fuel code state
      | (.left code true, state) => finish program fuel code state
      | other => other
    match state.atEnd with
    | first :: rest => ended (program.callAt first [] { state with atEnd := rest })
    | [] =>
      match program.callEach program.finishers state with
      | .ok state => (.left code true, state)
      | .error outcome => outcome

/-- So many routines may be called when a program ends. -/
def endDepth : Nat := 100000

/-- The symbol of the variables of a process. -/
def environmentSymbol : String := "environ"

/-- Runs the main routine with words for it, the variables of the process, and what can be read. -/
def start (program : Program) (words settings : List (List UInt8)) (input : List UInt8) :
    Ending × State :=
  let begin? (memory : Memory) : Option (Nat × Nat × Memory) := do
    let (table, memory) ← placeTable? words memory
    let (others, memory) ← placeTable? settings memory
    let memory ← match program.addresses[environmentSymbol]? with
      | some address => memory.write? address 8 others
      | none => some memory
    return (table, others, memory)
  let outcome : Ending × State :=
    match begin? program.memory with
    | none => (memoryFault, idle program.memory)
    | some (table, others, memory) =>
      match load { program with memory } input with
      | .error outcome => outcome
      | .ok state =>
        match program.invoke "main" [.word words.length, .word table, .word others] state with
        | (.finished value, state) => (.left ((value.bits) % 256) true, state)
        | outcome => outcome
  match outcome with
  | (.left code true, state) => finish program endDepth code state
  | other => other

end Program

end KernelCache.Code
