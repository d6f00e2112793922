import KernelCache.Machine.Basic
import KernelCache.Session.Lookup

/-
**An actor with a session.**

An actor is a process that uses kernels. It has at most one session and one worker hired ahead of
its session, and keeps the symbols that were returned to it. Images stay open as long as their
session, or a symbol that was returned from them. A step that needs a session or a worker has no
result when there is none.
-/

namespace KernelCache

/-- An actor. -/
structure Actor where
  machine : Machine
  /-- The number of the next owner of a link. -/
  owners : Nat := 0
  session : Option (Nat × Session) := none
  prefork : Option (Nat × Prefork) := none
  /-- The returned symbols in order. -/
  symbols : List KernelSymbol := []

/-- A step of an actor. -/
abbrev ActorM (α : Type) := StateM Actor α

namespace Actor

/-- A step of the machine. -/
def onMachine {α : Type} (step : MachineM α) : ActorM α := do
  let actor ← get
  let (result, machine) := step.run actor.machine
  set { actor with machine }
  return result

/-- The number of a new owner. -/
def newOwner : ActorM Nat := do
  let actor ← get
  set { actor with owners := actor.owners + 1 }
  return actor.owners

/-- Lets the images of a session go that no returned symbol holds. -/
def releaseImages (session : Session) : ActorM Unit := do
  let kept := (← get).symbols.map (·.image)
  let serials := session.cache.images.map (·.serial)
  onMachine (Machine.release (serials.filter fun serial => !kept.contains serial))

/-- Ends the session, whatever comes of it; says whether there was one. -/
def abandon : ActorM Bool := do
  match (← get).session with
  | none => return false
  | some (owner, session) =>
    onMachine (Machine.run owner session.abandon)
    modify fun actor => { actor with session := none }
    releaseImages session
    return true

/-- Puts a session in the place of an earlier one. -/
def adopt (owner : Nat) (session : Session) : ActorM Unit := do
  discard abandon
  modify fun actor => { actor with session := some (owner, session) }

/-- Starts a session of a member of a group. An earlier session stays when this fails. -/
def start (config : Config) (member : Member) (script : Script) :
    ActorM (Except Failure Session) := do
  let owner ← newOwner
  modify fun actor => { actor with machine := actor.machine.setScript owner script }
  match ← onMachine (Machine.run owner (Session.start config member).run) with
  | .ok session =>
    adopt owner session
    return .ok session
  | .error failure => return .error failure

/-- Hires a worker ahead of a session. -/
def hireAhead (config : Config) : ActorM (Except Failure Unit) := do
  let owner ← newOwner
  match ← onMachine (Machine.run owner (Session.prefork config).run) with
  | .ok prefork =>
    match (← get).prefork with
    | some (other, earlier) => onMachine (Machine.run other earlier.abandon)
    | none => pure ()
    modify fun actor => { actor with prefork := some (owner, prefork) }
    return .ok ()
  | .error failure => return .error failure

/-- Starts the session of a member with the worker that was hired ahead. -/
def attach (member : Member) (script : Script) : ActorM (Option (Except Failure Session)) := do
  match (← get).prefork with
  | none => return none
  | some (owner, prefork) =>
    modify fun actor =>
      { actor with prefork := none, machine := actor.machine.setScript owner script }
    match ← onMachine (Machine.run owner (prefork.attach member).run) with
    | .ok session =>
      adopt owner session
      return some (.ok session)
    | .error failure => return some (.error failure)

/-- Looks a kernel up and keeps the returned symbol; the index of the symbol comes with it. -/
def lookup (kernel : Kernel) : ActorM (Option (Except Failure (Nat × KernelSymbol))) := do
  match (← get).session with
  | none => return none
  | some (owner, session) =>
    let action := (Session.lookup kernel).run.run session
    let (outcome, session) ← onMachine (Machine.run owner action)
    modify fun actor => { actor with session := some (owner, session) }
    match outcome with
    | .ok symbol =>
      let index := (← get).symbols.length
      modify fun actor => { actor with symbols := actor.symbols ++ [symbol] }
      return some (.ok (index, symbol))
    | .error failure => return some (.error failure)

/-- Ends the session and says how its worker ended. -/
def finish : ActorM (Option (Except Failure Unit)) := do
  match (← get).session with
  | none => return none
  | some (owner, session) =>
    let outcome ← onMachine (Machine.run owner session.finish.run)
    modify fun actor => { actor with session := none }
    releaseImages session
    return some outcome

/-- Calls the function of a symbol. -/
def call (symbol : KernelSymbol) : ActorM (Option Int) :=
  onMachine (Machine.invoke symbol.entry)

/-- The number of commands of the session. -/
def sent (actor : Actor) : Option Nat :=
  actor.session.map fun (_, session) => session.sent

/-- The flags that the session has raised so far. -/
def raised (actor : Actor) : List Bool :=
  match actor.session with
  | some (owner, _) => (actor.machine.script owner).raised
  | none => []

end Actor

end KernelCache
