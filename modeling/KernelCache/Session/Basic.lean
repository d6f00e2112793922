import KernelCache.Cache
import KernelCache.Coordinator
import KernelCache.Group.Basic

/-
**A run of one member.**

A session joins the settings, the membership, the coordinator of a member that has one, and the
cache. There are two ways to start one: `Session.start` hires a worker for the root alone, and
`Session.prefork` hires one for every process, before it is known which of them is the root;
`Prefork.attach` then lets the workers of the others leave.

* `Session.finish` ends a session and reports how its worker ended; `Session.abandon` does not.
-/

namespace KernelCache

/-- A run of one member. -/
structure Session where
  config : Config
  member : Member
  coordinator : Option Coordinator
  cache : Cache
  deriving DecidableEq, Repr

/-- A worker hired before the group exists. -/
structure Prefork where
  config : Config
  coordinator : Coordinator
  deriving DecidableEq, Repr

/-- An action of a session, which may fail. -/
abbrev SessionM (α : Type) := ExceptT Failure (StateT Session Action) α

namespace Session

/-! ### Start and end -/

/-- A session with an empty cache. -/
def assemble (config : Config) (member : Member) (coordinator : Option Coordinator) : Session where
  config
  member
  coordinator
  cache := { layout := config.layout }

/-- The settings, once validated. -/
def validated (config : Config) : ExceptT Failure Action Unit :=
  ExceptT.mk (.done config.validate)

/-- Tells a fresh worker its rank and lets it go when that fails. -/
def introduce (coordinator : Coordinator) (rank : UInt32) :
    ExceptT Failure Action (Bool × Coordinator) :=
  ExceptT.mk do
    let (outcome, coordinator) ← (Coordinator.handshake rank).run.run coordinator
    match outcome with
    | .ok stays => return .ok (stays, coordinator)
    | .error failure =>
      coordinator.abandon
      return .error failure

/-- Starts a session; the root hires a worker. -/
def start (config : Config) (member : Member) : ExceptT Failure Action Session := do
  validated config
  if member.isRoot then
    let coordinator ← Coordinator.hire config
    let (_, coordinator) ← introduce coordinator member.rank
    return assemble config member (some coordinator)
  else return assemble config member none

/-- Hires a worker ahead of the group. -/
def prefork (config : Config) : ExceptT Failure Action Prefork := do
  validated config
  return { config, coordinator := ← Coordinator.hire config }

/-- The commands handed to the worker. -/
def sent (session : Session) : Nat :=
  (session.coordinator.map (·.sent)).getD 0

/-- Ends a session and its worker. -/
def finish (session : Session) : ExceptT Failure Action Unit :=
  match session.coordinator with
  | some coordinator => coordinator.shutdown
  | none => pure ()

/-- Ends a session and its worker, whatever comes of it. -/
def abandon (session : Session) : Action Unit :=
  match session.coordinator with
  | some coordinator => coordinator.abandon
  | none => pure ()

/-! ### Steps of a session -/

/-- A step on the cache. -/
def onCache {α : Type} (step : CacheM α) : SessionM α :=
  ExceptT.mk fun session => do
    let (outcome, cache) ← step.run.run session.cache
    return (outcome, { session with cache })

/-- A step on the coordinator; a member without one cannot take it. -/
def onCoordinator {α : Type} (step : CoordinatorM α) : SessionM α :=
  ExceptT.mk fun session => do
    match session.coordinator with
    | some coordinator =>
      let (outcome, coordinator) ← step.run.run coordinator
      return (outcome, { session with coordinator := some coordinator })
    | none =>
      let failure : Failure :=
        if session.member.isRoot then .workerGone else .notCoordinator session.member.rank
      return (.error failure, session)

/-- The outcome of a step as a value. -/
def observing {α : Type} (step : SessionM α) : SessionM (Except Failure α) :=
  ExceptT.lift step.run

/-- The value of an outcome, or its failure. -/
def resolved {α : Type} (outcome : Except Failure α) : SessionM α :=
  ExceptT.mk (pure outcome)

/-- Agrees with the group on an outcome. -/
def agree {α : Type} (outcome : Except Failure α) : SessionM α := do
  let anyFailed ← Action.combine (failed outcome)
  resolved ((← get).member.settle outcome anyFailed)

end Session

namespace Prefork

/-- Starts the session of a member; only the worker of rank zero stays. -/
def attach (prefork : Prefork) (member : Member) : ExceptT Failure Action Session := do
  let (stays, coordinator) ← Session.introduce prefork.coordinator member.rank
  if stays then return Session.assemble prefork.config member (some coordinator)
  else
    coordinator.shutdown
    return Session.assemble prefork.config member none

/-- Lets the worker go. -/
def abandon (prefork : Prefork) : Action Unit :=
  prefork.coordinator.abandon

end Prefork

end KernelCache
