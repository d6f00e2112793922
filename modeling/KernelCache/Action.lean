import KernelCache.Failure
import KernelCache.Channel.Basic

/-
**What a member of a group does.**

An `Action` is a tree of questions to the surroundings: exchanges with the group, the link to the
worker, and files. What the surroundings answer is not part of it, so that one and the same action
can be run against a machine or studied under all answers.

* `Effect` lists the questions, `Effect.Reply` their answers.
* `Action.run` answers every question in a monad.
-/

namespace KernelCache

/-- A function in a loaded image. -/
structure Entry where
  /-- The mapping of the image in memory. -/
  mapping : Nat
  /-- The name under which the function was defined. -/
  name : String
  deriving DecidableEq, Repr

/-- An image that was opened. Every opening has a serial number of its own. -/
structure Image where
  serial : Nat
  exports : List (String × Entry)
  deriving DecidableEq, Repr

/-- The end of a wait for the worker. -/
inductive Verdict where
  /-- The worker acknowledged. -/
  | acknowledged
  /-- The worker left with an exit code. -/
  | left (code : ExitCode)
  /-- The attempts are used up. -/
  | exhausted (exhausted : Exhausted)
  deriving DecidableEq, Repr

/-- A question to the surroundings. -/
inductive Effect where
  /-- Combine a failure flag over the group. -/
  | combine (flag : Bool)
  /-- Map a channel and start a worker that appends its commands to a log. -/
  | hire (commandLog : Option Path)
  /-- Read the status word. -/
  | look
  /-- Put a command into the buffer. -/
  | fill (command : Bytes)
  /-- Store a status word. -/
  | post (word : UInt32)
  /-- Wait until the worker acknowledges or leaves. -/
  | await (policy : PollPolicy)
  /-- The exit code of the worker, if it has left. -/
  | reap
  /-- Wait until the worker has left. -/
  | join
  /-- Kill the worker and all that it started. -/
  | kill
  /-- Give the channel back. -/
  | release
  /-- Whether a path leads somewhere. -/
  | present (path : Path)
  /-- Load an image. -/
  | openImage (path : Path)
  /-- Write a source file. -/
  | writeSource (path : Path) (text : Bytes)
  /-- Remove a file, if it is there. -/
  | remove (path : Path)
  deriving DecidableEq, Repr

/-- The type of the answers to a question. -/
def Effect.Reply : Effect → Type
  | combine _ => Bool
  | hire _ => Except Failure Unit
  | look => UInt32
  | fill _ => Unit
  | post _ => Unit
  | await _ => Verdict
  | reap => Except Fault (Option ExitCode)
  | join => Except Fault ExitCode
  | kill => Unit
  | release => Except ChannelFault Unit
  | present _ => Bool
  | openImage _ => Except (Path × LoadFault) Image
  | writeSource _ _ => Except Fault Unit
  | remove _ => Unit

/-- A tree of questions with a value at every leaf. -/
inductive Action (α : Type) : Type where
  | done (value : α)
  | ask (effect : Effect) (next : effect.Reply → Action α)

namespace Action

/-- Goes on with the value of an action. -/
def bind {α β : Type} : Action α → (α → Action β) → Action β
  | done value, next => next value
  | ask effect rest, next => ask effect fun reply => (rest reply).bind next

instance : Monad Action where
  pure := done
  bind := bind

/-- A single question. -/
def perform (effect : Effect) : Action effect.Reply :=
  ask effect done

/-! ### The questions one by one -/

@[inherit_doc Effect.combine]
def combine (flag : Bool) : Action Bool := perform (.combine flag)

@[inherit_doc Effect.hire]
def hire (commandLog : Option Path) : Action (Except Failure Unit) := perform (.hire commandLog)

@[inherit_doc Effect.look]
def look : Action UInt32 := perform .look

@[inherit_doc Effect.fill]
def fill (command : Bytes) : Action Unit := perform (.fill command)

@[inherit_doc Effect.post]
def post (word : UInt32) : Action Unit := perform (.post word)

@[inherit_doc Effect.await]
def await (policy : PollPolicy) : Action Verdict := perform (.await policy)

@[inherit_doc Effect.reap]
def reap : Action (Except Fault (Option ExitCode)) := perform .reap

@[inherit_doc Effect.join]
def join : Action (Except Fault ExitCode) := perform .join

@[inherit_doc Effect.kill]
def kill : Action Unit := perform .kill

@[inherit_doc Effect.release]
def release : Action (Except ChannelFault Unit) := perform .release

@[inherit_doc Effect.present]
def present (path : Path) : Action Bool := perform (.present path)

@[inherit_doc Effect.openImage]
def openImage (path : Path) : Action (Except (Path × LoadFault) Image) := perform (.openImage path)

@[inherit_doc Effect.writeSource]
def writeSource (path : Path) (text : Bytes) : Action (Except Fault Unit) :=
  perform (.writeSource path text)

@[inherit_doc Effect.remove]
def remove (path : Path) : Action Unit := perform (.remove path)

/-! ### Running -/

/-- Runs an action; `handle` answers its questions. -/
def run {m : Type → Type} [Monad m] {α : Type} (handle : (effect : Effect) → m effect.Reply) :
    Action α → m α
  | done value => pure value
  | ask effect next => do (next (← handle effect)).run handle

/-- Runs an action up to its next exchange with the group; all other questions go to `handle`. -/
def advance {m : Type → Type} [Monad m] {α : Type} (handle : (effect : Effect) → m effect.Reply) :
    Action α → m (α ⊕ (Bool × (Bool → Action α)))
  | done value => pure (.inl value)
  | ask (.combine flag) next => pure (.inr (flag, next))
  | ask effect next => do (next (← handle effect)).advance handle

end Action

end KernelCache
