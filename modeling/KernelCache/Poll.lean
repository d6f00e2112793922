import KernelCache.Power

/-
**Bounded polling.**

A wait probes a condition, pauses, and probes again, until the condition holds or the attempts are
used up. `PollPolicy.waitFor` is that loop in any monad; the number of probes a caller is willing to
follow is its last argument, and `none` means that those were not enough to decide.
-/

namespace KernelCache

/-- How often and how many times a wait probes. -/
structure PollPolicy where
  /-- The pause between two probes in microseconds. -/
  interval : Nat
  /-- The wait gives up after this many probes. -/
  maxAttempts : Option UInt32
  deriving DecidableEq, Repr

/-- A wait that gave up. -/
structure Exhausted where
  attempts : Nat
  deriving DecidableEq, Repr

namespace Exhausted

/-- The text of a wait that gave up. -/
def message (exhausted : Exhausted) : String :=
  s!"condition not reached after {exhausted.attempts} polls"

end Exhausted

namespace PollPolicy

/-- The pause of a policy that names none: a fifth of a second. -/
def defaultInterval : Nat := 200000

/-- A policy without a limit. -/
def every (interval : Nat) : PollPolicy :=
  { interval, maxAttempts := none }

/-- The largest count of attempts; the counter stays there. -/
def attemptLimit : Nat := twoTo 32 - 1

/-- Whether the attempts are used up. -/
def spent (policy : PollPolicy) (attempts : Nat) : Bool :=
  match policy.maxAttempts with
  | some limit => limit.toNat ≤ attempts
  | none => false

/-- The loop of a wait after `attempts` probes. -/
def waitFrom {m : Type → Type} [Monad m] {α : Type} (policy : PollPolicy)
    (probe : m (Option α)) (pause : Nat → m Unit) : Nat → Nat → m (Option (Except Exhausted α))
  | 0, _ => pure none
  | fuel + 1, attempts => do
    match ← probe with
    | some value => pure (some (.ok value))
    | none =>
      let attempts := min (attempts + 1) attemptLimit
      if policy.spent attempts then pure (some (.error ⟨attempts⟩))
      else do
        pause policy.interval
        waitFrom policy probe pause fuel attempts

/-- Probes until the condition holds or the attempts are used up. -/
def waitFor {m : Type → Type} [Monad m] {α : Type} (policy : PollPolicy)
    (probe : m (Option α)) (pause : Nat → m Unit) (fuel : Nat) :
    m (Option (Except Exhausted α)) :=
  waitFrom policy probe pause fuel 0

end PollPolicy

end KernelCache
