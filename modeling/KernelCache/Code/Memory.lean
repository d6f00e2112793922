import KernelCache.Code.Value

/-
**Memory.**

Four areas, each a run of octets from an address of its own on: variables, constants, what is
taken while the program runs, and the stack. An access has to stay inside one area. Constants are
written until memory is sealed.

* `Memory.read?` and `Memory.write?` are the accesses.
* `Memory.take` and `Memory.giveBack?` hand out blocks and take them back.
-/

namespace KernelCache.Code

/-- Octets from an address on. -/
structure Area where
  base : Nat
  octets : ByteArray := .empty

/-- Memory. -/
structure Memory where
  statics : Area := { base := 0x10000 }
  constants : Area := { base := 0x8000000 }
  heap : Area := { base := 0x10000000 }
  stack : Area := { base := 0x7F0000000000 }
  /-- Whether constants can no longer be written. -/
  isSealed : Bool := false
  /-- Blocks that were given back: their sizes and addresses, the latest first. -/
  free : List (Nat × Nat) := []

namespace Area

/-- The first address behind an area. -/
def limit (area : Area) : Nat := area.base + area.octets.size

/-- Whether so many octets from an address on lie in an area. -/
def holds (area : Area) (address count : Nat) : Bool :=
  area.base ≤ address && address + count ≤ area.limit

/-- The number in the octets from a place on, the lowest octet first. -/
def numberFrom (octets : ByteArray) (place : Nat) : Nat → Nat
  | 0 => 0
  | width + 1 => (octets.get! place).toNat + 256 * numberFrom octets (place + 1) width

/-- Puts the octets of a number at a place, the lowest first. -/
def put (place : Nat) : Nat → Nat → ByteArray → ByteArray
  | 0, _, octets => octets
  | width + 1, number, octets =>
    put (place + 1) width (number / 256) (octets.set! place (UInt8.ofNat (number % 256)))

/-- The number of a width at an address. -/
def read (area : Area) (address width : Nat) : Nat :=
  let place := address - area.base
  match width with
  | 1 => (area.octets.get! place).toNat
  | 4 =>
    (area.octets.get! place).toNat + 0x100 * (area.octets.get! (place + 1)).toNat
      + 0x10000 * (area.octets.get! (place + 2)).toNat
      + 0x1000000 * (area.octets.get! (place + 3)).toNat
  | width => numberFrom area.octets place width

/-- Writes a number of a width at an address. -/
def write (address width number : Nat) : Area → Area
  | ⟨base, octets⟩ => ⟨base, put (address - base) width number octets⟩

/-- Writes octets from an address on. -/
def overwrite (address : Nat) (written : ByteArray) : Area → Area
  | ⟨base, octets⟩ => ⟨base, written.copySlice 0 octets (address - base) written.size⟩

/-- Adds octets behind an area. -/
def append (octets : List UInt8) : Area → Area
  | ⟨base, old⟩ => ⟨base, octets.foldl ByteArray.push old⟩

/-- Adds so many zeros to some octets. -/
def pushZeros : Nat → ByteArray → ByteArray
  | 0, octets => octets
  | count + 1, octets => pushZeros count (octets.push 0)

/-- Adds zeros behind an area up to an address. -/
def extendTo (address : Nat) : Area → Area
  | ⟨base, octets⟩ => ⟨base, pushZeros (address - base - octets.size) octets⟩

/-- Leaves out what is behind an address. -/
def cutAt (address : Nat) : Area → Area
  | ⟨base, octets⟩ => ⟨base, octets.extract 0 (address - base)⟩

end Area

/-- The least multiple that is not below a number. -/
def roundUp (number multiple : Nat) : Nat :=
  (number + multiple - 1) / multiple * multiple

namespace Memory

/-- The number of a width at an address. -/
def read? (memory : Memory) (address width : Nat) : Option Nat :=
  if memory.stack.holds address width then some (memory.stack.read address width)
  else if memory.statics.holds address width then some (memory.statics.read address width)
  else if memory.heap.holds address width then some (memory.heap.read address width)
  else if memory.constants.holds address width then some (memory.constants.read address width)
  else none

/-- Writes a number of a width at an address. -/
def write? (address width number : Nat) : Memory → Option Memory
  | ⟨statics, constants, heap, stack, isSealed, free⟩ =>
    if stack.holds address width then
      some ⟨statics, constants, heap, stack.write address width number, isSealed, free⟩
    else if statics.holds address width then
      some ⟨statics.write address width number, constants, heap, stack, isSealed, free⟩
    else if heap.holds address width then
      some ⟨statics, constants, heap.write address width number, stack, isSealed, free⟩
    else if !isSealed && constants.holds address width then
      some ⟨statics, constants.write address width number, heap, stack, isSealed, free⟩
    else none

/-- The area that holds so many octets from an address on. -/
def area? (memory : Memory) (address count : Nat) : Option Area :=
  if memory.stack.holds address count then some memory.stack
  else if memory.statics.holds address count then some memory.statics
  else if memory.heap.holds address count then some memory.heap
  else if memory.constants.holds address count then some memory.constants
  else none

/-- So many octets from an address on. -/
def slice? (memory : Memory) (address count : Nat) : Option ByteArray := do
  let area ← memory.area? address count
  let place := address - area.base
  return area.octets.extract place (place + count)

/-- Writes octets from an address on. -/
def overwrite? (address : Nat) (written : ByteArray) : Memory → Option Memory
  | ⟨statics, constants, heap, stack, isSealed, free⟩ =>
    if stack.holds address written.size then
      some ⟨statics, constants, heap, stack.overwrite address written, isSealed, free⟩
    else if statics.holds address written.size then
      some ⟨statics.overwrite address written, constants, heap, stack, isSealed, free⟩
    else if heap.holds address written.size then
      some ⟨statics, constants, heap.overwrite address written, stack, isSealed, free⟩
    else if !isSealed && constants.holds address written.size then
      some ⟨statics, constants.overwrite address written, heap, stack, isSealed, free⟩
    else none

/-- The distance to the next NUL, when there is one within so many octets. -/
def distanceToNul? (octets : ByteArray) : Nat → Nat → Nat → Option Nat
  | 0, _, _ => none
  | fuel + 1, place, distance =>
    if octets.get! place = 0 then some distance
    else distanceToNul? octets fuel (place + 1) (distance + 1)

/-- The number of octets from an address up to a NUL. -/
def lengthAt? (memory : Memory) (address : Nat) : Option Nat := do
  let area ← memory.area? address 1
  let place := address - area.base
  distanceToNul? area.octets (area.octets.size - place) place 0

/-- The octets from an address up to a NUL. -/
def text? (memory : Memory) (address : Nat) : Option (List UInt8) := do
  let count ← memory.lengthAt? address
  return (← memory.slice? address count).toList

/-- Whether there are so many octets from an address on. -/
def holds (memory : Memory) (address count : Nat) : Bool :=
  memory.stack.holds address count || memory.statics.holds address count
    || memory.heap.holds address count || memory.constants.holds address count

/-- Sets so many octets to one value. -/
def fill? (address value count : Nat) (memory : Memory) : Option Memory :=
  if count = 0 then some memory
  else if memory.holds address count then
    memory.overwrite? address ⟨Array.replicate count value.toUInt8⟩
  else none

/-- Sets so many octets to zero. -/
def clear? (address count : Nat) (memory : Memory) : Option Memory :=
  if count = 0 then some memory
  else if count ≤ 8 then memory.write? address count 0
  else memory.fill? address 0 count

/-- Moves so many octets from one place to another. -/
def move? (target source count : Nat) (memory : Memory) : Option Memory :=
  if count = 0 then some memory
  else if count ≤ 8 then do memory.write? target count (← memory.read? source count)
  else do memory.overwrite? target (← memory.slice? source count)

/-- Adds a variable, and yields its address. -/
def addVariable (size alignment : Nat) (memory : Memory) : Nat × Memory :=
  let start := roundUp memory.statics.limit (max 1 alignment)
  (start, { memory with statics := memory.statics.extendTo (start + size) })

/-- Adds a constant, and yields its address. -/
def addConstant (size alignment : Nat) (memory : Memory) : Nat × Memory :=
  let start := roundUp memory.constants.limit (max 1 alignment)
  (start, { memory with constants := memory.constants.extendTo (start + size) })

/-- Adds a text with a NUL behind it, and yields its address. -/
def addText (octets : List UInt8) (memory : Memory) : Nat × Memory :=
  let start := roundUp memory.constants.limit 4
  let constants := (memory.constants.extendTo start).append (octets ++ [0])
  (start, { memory with constants })

/-! ### Blocks -/

/-- The octets in front of a block, which tell its size and whether it is in use. -/
def header : Nat := 16

/-- The word in front of a block that is in use. -/
def usedMark : Nat := 0xA110C

/-- The word in front of a block that was given back. -/
def freeMark : Nat := 0xF4EE

/-- No block is larger. -/
def largestBlock : Nat := 0x8000000

/-- The room that a block of a size takes. -/
def roomFor (size : Nat) : Nat := max 24 (roundUp (size + 8) 16 - 8)

/-- Hands out a block, which is not too large. -/
def take (size : Nat) : Memory → Option (Nat × Memory)
  | ⟨statics, constants, heap, stack, isSealed, free⟩ =>
    let room := roomFor size
    match free.find? fun entry => entry.1 == room with
    | some (_, address) =>
      let left := free.filter fun entry => entry.2 != address
      (write? (address - 8) 8 usedMark ⟨statics, constants, heap, stack, isSealed, left⟩).map
        fun memory => (address, memory)
    | none =>
      let start := roundUp heap.limit 16 + header
      let heap := heap.extendTo (start + room)
      do
        let memory ← write? (start - 16) 8 room ⟨statics, constants, heap, stack, isSealed, free⟩
        let memory ← memory.write? (start - 8) 8 usedMark
        return (start, memory)

/-- The room of a block that is in use. -/
def room? (memory : Memory) (address : Nat) : Option Nat := do
  if !memory.heap.holds (address - header) header || address % 16 != 0 then none
  else if (← memory.read? (address - 8) 8) = usedMark then memory.read? (address - 16) 8
  else none

/-- Takes a block of a room back, which is in use. -/
def giveBack? (address room : Nat) (memory : Memory) : Option Memory :=
  match write? (address - 8) 8 freeMark memory with
  | some ⟨statics, constants, heap, stack, isSealed, free⟩ =>
    some ⟨statics, constants, heap, stack, isSealed, (room, address) :: free⟩
  | none => none

/-- The stack has so many octets. -/
def stackSize : Nat := 0x7F0000

/-- Makes the stack reach to an address, unless it gets too large. -/
def reach? (address : Nat) (memory : Memory) : Option Memory :=
  if address ≤ memory.stack.limit then some memory
  else if memory.stack.base + stackSize < address then none
  else
    match memory with
    | ⟨statics, constants, heap, stack, isSealed, free⟩ =>
      some ⟨statics, constants, heap, stack.extendTo (address + 0x400), isSealed, free⟩

end Memory

end KernelCache.Code
