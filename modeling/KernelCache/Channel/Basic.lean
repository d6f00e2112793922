import KernelCache.System.Fault
import KernelCache.Text.Numeral
import KernelCache.Power
import KernelCache.Text.Utf8

/-
**The channel between a requester and a responder.**

A channel is a status word and a command buffer. The requester publishes one request at a time and
waits until the word says ready; the responder polls the word, serves the request and acknowledges.

* `Channel.allocate` maps an empty channel.
* `Channel.check` says whether a command fits, and changes nothing.
* `Channel.send` publishes a request; a busy channel is reported before any other fault.
* `Channel.poll` is the pending request, `Channel.acknowledge` marks it done.
-/

/-! ## Faults of a channel

What can go wrong when a channel is mapped, when a request is sent over it and when it is released.
-/

namespace KernelCache

/-- Why a channel could not be had or used. -/
inductive ChannelFault where
  /-- The memory could not be mapped. -/
  | map (size : Nat) (fault : Fault)
  /-- The memory could not be given back. -/
  | unmap (fault : Fault)
  /-- A channel without room for the terminator of a command. -/
  | zeroCapacity
  /-- The command and its terminator exceed the buffer. -/
  | commandTooLong (length capacity : Nat)
  /-- The command has a NUL at the offset. -/
  | interiorNul (offset : Nat)
  /-- The last request is not done. -/
  | busy (word : UInt32)
  /-- The identity word has a meaning of its own. -/
  | reservedWord (word : UInt32)
  deriving DecidableEq, Repr

namespace ChannelFault

/-- The text of a channel fault. -/
def message : ChannelFault → String
  | map size fault => s!"failed to map {size} bytes of shared memory: {fault.message}"
  | unmap fault => s!"failed to unmap shared memory: {fault.message}"
  | zeroCapacity => "channel capacity must be non-zero"
  | commandTooLong length capacity =>
    s!"command of {length} bytes does not fit a {capacity}-byte channel"
  | interiorNul offset => s!"command contains an interior NUL byte at offset {offset}"
  | busy word => s!"channel busy: status word is {Numeral.hex32 word}"
  | reservedWord word => s!"word {Numeral.hex32 word} is reserved by the handshake protocol"

/-- Whether the fault is about memory and not about the use of the channel. -/
def isResource : ChannelFault → Bool
  | map _ _ | unmap _ | zeroCapacity => true
  | _ => false

end ChannelFault

end KernelCache

/-! ## The status word of a channel

One 32-bit word says whose turn it is. Three values are reserved: the responder is idle, a command
waits in the buffer, or the responder has to leave. Every other value is an identity word.

* `State.ofWord` and `State.word` convert between the word and its meaning.
* `State.word_ofWord`: no word is lost.
-/

namespace KernelCache.Channel

/-- What the status word says. -/
inductive State where
  /-- The last request is done. -/
  | ready
  /-- A command waits in the buffer. -/
  | call
  /-- The responder has to leave. -/
  | exit
  /-- An identity word. -/
  | identity (value : UInt32)
  deriving DecidableEq, Repr

/-- The word that means `State.ready`. -/
def readyWord : UInt32 := 0xFFFFFFFF

/-- The word that means `State.call`. -/
def callWord : UInt32 := 0x3243F6A8

/-- The word that means `State.exit`. -/
def exitWord : UInt32 := 0x9E3779B9

namespace State

/-- The meaning of a status word. -/
def ofWord (word : UInt32) : State :=
  if word = readyWord then .ready
  else if word = callWord then .call
  else if word = exitWord then .exit
  else .identity word

/-- The status word with the given meaning. -/
def word : State → UInt32
  | ready => readyWord
  | call => callWord
  | exit => exitWord
  | identity value => value

theorem word_ofWord (value : UInt32) : (ofWord value).word = value := by
  unfold ofWord
  split
  · simp_all [word]
  · split
    · simp_all [word]
    · split <;> simp_all [word]

end State

/-- Whether the handshake uses the word for itself. -/
def reserved (word : UInt32) : Bool :=
  word == readyWord || word == callWord || word == exitWord

end KernelCache.Channel

/-! ## The channel between a requester and a responder -/

namespace KernelCache

/-- A status word and a command buffer. `written` is the part of the buffer that was ever written;
the octets behind it, up to the capacity, are zero. -/
structure Channel where
  capacity : Nat
  word : UInt32
  written : Bytes
  deriving DecidableEq, Repr

/-- What a requester asks for and a responder serves. -/
inductive Request where
  /-- Run a command. -/
  | call (command : Bytes)
  /-- Leave. -/
  | exit
  /-- Take note of an identity word. -/
  | identity (word : UInt32)
  deriving DecidableEq, Repr

namespace Channel

/-- The most octets one mapping can have: the address space of a process less one page. -/
def mappable : Nat := twoTo 47 - 4096

/-- The capacity of a channel that spans one page of memory. -/
def pageCapacity : Nat := 4096

/-- Maps a channel with the given capacity and status word. -/
def allocate (capacity : Nat) (initial : UInt32) : Except ChannelFault Channel :=
  if capacity = 0 then .error .zeroCapacity
  else if mappable < capacity then .error (.map capacity .noMemory)
  else .ok { capacity, word := initial, written := [] }

/-- The meaning of the status word. -/
def state (channel : Channel) : State :=
  State.ofWord channel.word

/-- Whether the last request is done. -/
def isReady (channel : Channel) : Bool :=
  channel.state == .ready

/-- Stores a status word. -/
def store (channel : Channel) (word : UInt32) : Channel :=
  { channel with word }

/-- Says whether a command and its terminator fit a buffer; a NUL is reported first. -/
def fits (capacity : Nat) (command : Bytes) : Except ChannelFault Unit :=
  match command.findIdx? (· == 0) with
  | some offset => .error (.interiorNul offset)
  | none =>
    if capacity < command.length + 1 then .error (.commandTooLong command.length capacity)
    else .ok ()

/-- Says whether a command fits the buffer of the channel. -/
def check (channel : Channel) (command : Bytes) : Except ChannelFault Unit :=
  fits channel.capacity command

/-- The buffer with a command and its terminator at the front. -/
def putCommand (channel : Channel) (command : Bytes) : Channel :=
  { channel with written := command ++ 0 :: channel.written.drop (command.length + 1) }

/-- The command at the front of the buffer. -/
def command (channel : Channel) : Bytes :=
  channel.written.takeWhile (· ≠ 0)

/-- What a request puts into a channel with the given capacity and status word: a command, if it has
one, and the new status word. A busy channel is reported before any other fault. -/
def accept (capacity : Nat) (word : UInt32) (request : Request) :
    Except ChannelFault (Option Bytes × UInt32) :=
  if word ≠ readyWord then .error (.busy word)
  else
    match request with
    | .call command => do
      fits capacity command
      return (some command, callWord)
    | .exit => .ok (none, exitWord)
    | .identity value =>
      if reserved value then .error (.reservedWord value) else .ok (none, value)

/-- Publishes a request; the status word has to be ready. -/
def send (channel : Channel) (request : Request) : Except ChannelFault Channel := do
  let (command?, word) ← accept channel.capacity channel.word request
  match command? with
  | some command => return (channel.putCommand command).store word
  | none => return channel.store word

/-- The pending request. -/
def poll (channel : Channel) : Option Request :=
  match channel.state with
  | .ready => none
  | .call => some (.call channel.command)
  | .exit => some .exit
  | .identity word => some (.identity word)

/-- Marks the pending request as done. -/
def acknowledge (channel : Channel) : Channel :=
  channel.store readyWord

/-- The channel for people to read. -/
def describe (channel : Channel) : String :=
  s!"SharedChannel \x7b capacity: {channel.capacity}, status: {Numeral.hex32 channel.word} \x7d"

end Channel

end KernelCache
