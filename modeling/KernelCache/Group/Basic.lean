import KernelCache.Failure

/-
**Groups of members that share one cache.**

Every member takes part in the same exchanges in the same order. An exchange combines the failure
flags of all members by disjunction.

* `Member` is one member as it sees itself.
* `Member.settle` turns an own outcome and the combined flag into the outcome of an exchange: an own
  failure stays as it is, and an own success next to a failure elsewhere becomes `Failure.sync`.
* `Script` is a group whose other members follow a list of flags.
-/

namespace KernelCache

/-- A member of a group. The root alone builds. -/
structure Member where
  rank : UInt32
  size : UInt32
  isRoot : Bool
  deriving DecidableEq, Repr

namespace Member

/-- The member with a rank; the first one is the root. -/
def ofRank (rank size : UInt32) : Member where
  rank
  size
  isRoot := rank == 0

/-- The only member of a group. -/
def alone : Member := ofRank 0 1

/-- The member as it appears through a reference, where its rank alone makes it the root. -/
def byReference (member : Member) : Member :=
  ofRank member.rank member.size

/-- The outcome of an exchange, from the own outcome and the combined flag. -/
def settle {α : Type} (member : Member) (outcome : Except Failure α) (anyFailed : Bool) :
    Except Failure α :=
  match outcome with
  | .ok value => if anyFailed then .error (.sync member.rank) else .ok value
  | .error failure => .error failure

end Member

/-- Whether an outcome is a failure. -/
def failed {α : Type} : Except Failure α → Bool
  | .ok _ => false
  | .error _ => true

/-- What a member brings to an exchange. -/
inductive Contribution where
  /-- A flag on its own. -/
  | flag (failed : Bool)
  /-- An outcome that has to be agreed on. -/
  | outcome (outcome : Except Failure UInt64)

/-- What a member takes out of an exchange. -/
inductive Answer where
  | flag (anyFailed : Bool)
  | outcome (outcome : Except Failure UInt64)

namespace Contribution

/-- The flag a contribution raises. -/
def raises : Contribution → Bool
  | flag value => value
  | outcome result => failed result

/-- The answer to a contribution under the combined flag. -/
def answer (member : Member) (anyFailed : Bool) : Contribution → Answer
  | flag _ => .flag anyFailed
  | outcome result => .outcome (member.settle result anyFailed)

end Contribution

/-- A group whose other members raise the listed flags, and none after the list's end. -/
structure Script where
  remote : List Bool := []
  /-- The flags raised by the one real member so far. -/
  raised : List Bool := []

namespace Script

/-- The combined flag of the next exchange. -/
def combine (script : Script) (flag : Bool) : Bool × Script :=
  let other := (script.remote[script.raised.length]?).getD false
  (flag || other, { script with raised := script.raised ++ [flag] })

end Script

end KernelCache
