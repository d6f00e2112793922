import KernelCache.Group.Basic

/-
**Exchanges between threads.**

The members of a group in one process meet in rounds. A member that arrives adds its flag; the last
one to arrive completes the round, publishes the combined flag and opens the next round; the others
wait until the generation has moved on and then read the published flag.

* `Round.arrive` is the step of a member that has taken the lock.
* `Round.leave?` is the step of a member that was woken; it goes on waiting when this says `none`.
* `Round.meet` lets all members arrive in turn.
-/

namespace KernelCache

/-- The state that the members of a group share. -/
structure Round where
  /-- Counts completed rounds and wraps around. -/
  generation : UInt64 := 0
  /-- The members that have arrived in the current round. -/
  arrived : UInt32 := 0
  /-- Whether one of them raised its flag. -/
  failed : Bool := false
  /-- The combined flag of the last completed round. -/
  outcome : Bool := false
  deriving DecidableEq, Repr

namespace Round

/-- The size of a group: a group always has a root. -/
def groupSize (size : UInt32) : UInt32 := max size 1

/-- The members of a new group in the order of their ranks. -/
def members (size : UInt32) : List Member :=
  (List.range (groupSize size).toNat).map fun rank =>
    Member.ofRank (UInt32.ofNat rank) (groupSize size)

/-- A member arrives with its flag; the combined flag comes back when this completes the round. -/
def arrive (size : UInt32) (round : Round) (flag : Bool) : Option Bool × Round :=
  let failed := round.failed || flag
  let arrived := round.arrived + 1
  if arrived = size then
    (some failed, { generation := round.generation + 1, outcome := failed })
  else (none, { round with failed, arrived })

/-- The combined flag for a member that arrived in the given generation, once its round is over. -/
def leave? (round : Round) (generation : UInt64) : Option Bool :=
  if round.generation = generation then none else some round.outcome

/-- All members arrive in turn. -/
def meet (size : UInt32) (round : Round) (flags : List Bool) : Round :=
  flags.foldl (fun round flag => (round.arrive size flag).2) round

end Round

end KernelCache
