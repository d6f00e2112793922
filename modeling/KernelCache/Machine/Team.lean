import KernelCache.Group.Round
import KernelCache.Machine.Basic
import KernelCache.Session.Lookup

/-
**Sessions of all members of a group on one machine.**

All members go on up to their next exchange, meet in it, and go on from there, until all of them are
done.

* `Machine.together` runs one action of each member in this way.
* `Team.lookup` lets all members look the same kernel up.
-/

namespace KernelCache

/-- Where a member stands. -/
inductive Standing (α : Type) where
  | done (value : α)
  /-- It brings a flag to an exchange and goes on with what it takes out of it. -/
  | waiting (flag : Bool) (next : Bool → Action α)

namespace Machine

/-- Runs the action of an owner up to its next exchange. -/
def proceed {α : Type} (owner : Nat) (action : Action α) : MachineM (Standing α) := do
  match ← action.advance (answer owner) with
  | .inl value => return .done value
  | .inr (flag, next) => return .waiting flag next

/-- The values of members that are all done. -/
def allDone? {α : Type} (standings : List (Nat × Standing α)) : Option (List α) :=
  standings.mapM fun entry =>
    match entry.2 with
    | .done value => some value
    | .waiting _ _ => none

/-- The flags of members that all wait. -/
def allWaiting? {α : Type} (standings : List (Nat × Standing α)) : Option (List Bool) :=
  standings.mapM fun entry =>
    match entry.2 with
    | .done _ => none
    | .waiting flag _ => some flag

/-- Lets members meet in exchanges until all are done. There is no result when some are done while
others wait. -/
def meetings {α : Type} (size : UInt32) : Nat → Round → List (Nat × Standing α) →
    MachineM (Option (List α × Round))
  | 0, _, _ => return none
  | fuel + 1, round, standings =>
    match allDone? standings, allWaiting? standings with
    | some values, _ => return some (values, round)
    | none, none => return none
    | none, some flags => do
      let round := round.meet size flags
      let next ← standings.mapM fun (owner, standing) => do
        match standing with
        | .done value => return (owner, .done value)
        | .waiting _ next => return (owner, ← proceed owner (next round.outcome))
      meetings size fuel round next

/-- The most exchanges of one action. -/
def exchangeLimit : Nat := 64

/-- Runs one action of each owner, with exchanges between them. -/
def together {α : Type} (size : UInt32) (round : Round) (actions : List (Nat × Action α)) :
    MachineM (Option (List α × Round)) := do
  let standings ← actions.mapM fun (owner, action) => do return (owner, ← proceed owner action)
  meetings size exchangeLimit round standings

end Machine

/-- The sessions of all members of a group, by their owners. -/
structure Team where
  size : UInt32
  round : Round := {}
  sessions : List (Nat × Session)

namespace Team

/-- All members look a kernel up. -/
def lookup (team : Team) (kernel : Kernel) :
    MachineM (Option (List (Except Failure KernelSymbol) × Team)) := do
  let actions := team.sessions.map fun (owner, session) =>
    (owner, (Session.lookup kernel).run.run session)
  match ← Machine.together team.size team.round actions with
  | none => return none
  | some (results, round) =>
    let owners := team.sessions.map (·.1)
    return some (results.map (·.1),
      { team with round, sessions := owners.zip (results.map (·.2)) })

end Team

end KernelCache
