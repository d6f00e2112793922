import KernelCache.Code.Program

/-
**Services on memory.**

They hand out blocks of memory and take them back, and they move, compare and measure octets.
-/

namespace KernelCache.Standard

open KernelCache.Code (Memory Outcome Service State Value)

/-- The word that an argument is. -/
def word (arguments : List Value) (index : Nat) : Nat :=
  ((arguments[index]?).getD (.word 0)).bits % Code.range 8

/-- The number in floating point that an argument is. -/
def number (arguments : List Value) (index : Nat) : Float :=
  ((arguments[index]?).getD (.real 0)).number

namespace Storage

/-- The null pointer. -/
def null : Value := .word 0

/-- Hands out a block; `clears` when it is zero. -/
def allocate (size : Nat) (clears : Bool) (state : State) : Outcome (Value × State) :=
  if Memory.largestBlock < size then .ok (null, state)
  else
    state.serve fun memory => do
      let (address, memory) ← memory.take size
      let memory ← if clears then memory.clear? address size else some memory
      return (.word address, memory)

/-- Takes a block back; a run ends at a block that is not in use. -/
def release (address : Nat) (state : State) : Outcome (Value × State) :=
  if address = 0 then .ok (null, state)
  else
    match state.memory.room? address with
    | some room =>
      state.serve fun memory => (memory.giveBack? address room).map fun memory => (null, memory)
    | none => .error (Code.abortFault, state)

/-- Moves a block to one of another size. -/
def reallocate (address size : Nat) (state : State) : Outcome (Value × State) :=
  if address = 0 then allocate size false state
  else
    match state.memory.room? address with
    | none => .error (Code.abortFault, state)
    | some room =>
      if Memory.largestBlock < size then .ok (null, state)
      else if Memory.roomFor size = room then .ok (.word address, state)
      else
        state.serve fun memory => do
          let (target, memory) ← memory.take size
          let memory ← memory.move? target address (min room size)
          let memory ← memory.giveBack? address room
          return (.word target, memory)

/-- Hands out a block at a multiple of an alignment. -/
def allocateAt (alignment size : Nat) (state : State) : Outcome (Value × State) :=
  if alignment ≤ 16 then allocate size false state
  else
    state.serve fun memory => do
      let room := Memory.roomFor size
      let (address, memory) ← memory.take (size + alignment + Memory.header)
      let start := Code.roundUp (address + Memory.header) alignment
      let memory ← memory.write? (start - 16) 8 room
      let memory ← memory.write? (start - 8) 8 Memory.usedMark
      return (.word start, memory)

/-- How two runs of octets compare: the difference of the first octets that differ. -/
def difference : List UInt8 → List UInt8 → Int
  | a :: as, b :: bs => if a = b then difference as bs else (a.toNat : Int) - b.toNat
  | _, _ => 0

/-- Services on memory. -/
def services : List (String × Service) :=
  let allocating (symbols : List String) (service : Service) : List (String × Service) :=
    symbols.map fun symbol => (symbol, service)
  [("malloc", fun given state => allocate (word given 0) false state),
    ("calloc", fun given state => allocate (word given 0 * word given 1) true state),
    ("realloc", fun given state => reallocate (word given 0) (word given 1) state),
    ("reallocarray", fun given state =>
      reallocate (word given 0) (word given 1 * word given 2) state),
    ("aligned_alloc", fun given state => allocateAt (word given 0) (word given 1) state),
    ("memalign", fun given state => allocateAt (word given 0) (word given 1) state),
    ("malloc_usable_size", fun given state =>
      .ok (.word ((state.memory.room? (word given 0)).getD 0), state)),
    ("memcpy", fun given state => state.serve fun memory =>
      (memory.move? (word given 0) (word given 1) (word given 2)).map fun memory =>
        (.word (word given 0), memory)),
    ("memmove", fun given state => state.serve fun memory =>
      (memory.move? (word given 0) (word given 1) (word given 2)).map fun memory =>
        (.word (word given 0), memory)),
    ("memset", fun given state => state.serve fun memory =>
      (memory.fill? (word given 0) (word given 1 % 256) (word given 2)).map fun memory =>
        (.word (word given 0), memory)),
    ("memcmp", fun given state => state.serve fun memory => do
      let count := word given 2
      if count = 0 then return (.word 0, memory)
      else
        let left ← memory.slice? (word given 0) count
        let right ← memory.slice? (word given 1) count
        return (Value.ofInt 4 (difference left.toList right.toList), memory)),
    ("strlen", fun given state => state.serve fun memory =>
      (memory.lengthAt? (word given 0)).map fun length => (.word length, memory))]
  ++ allocating ["_Znwm", "_Znam"] (fun given state => allocate (word given 0) false state)
  ++ allocating ["_ZnwmSt11align_val_t", "_ZnamSt11align_val_t"] (fun given state =>
      allocateAt (word given 1) (word given 0) state)
  ++ allocating ["free", "cfree", "_ZdlPv", "_ZdaPv", "_ZdlPvm", "_ZdaPvm", "_ZdlPvSt11align_val_t",
      "_ZdlPvmSt11align_val_t", "_ZdaPvSt11align_val_t"]
    (fun given state => release (word given 0) state)

end Storage

end KernelCache.Standard
