import KernelCache.Action
import KernelCache.Config.Basic

/-
**The coordinator of a worker.**

A coordinator owns a channel and a worker and hands it one request after the other. Once the worker
has left, or has kept a request longer than the attempts allow, the coordinator is dead and refuses
every further command; it never starts a second worker.

* `Coordinator.hire` maps the channel and starts the worker.
* `Coordinator.handshake` tells the worker its rank; only the worker of rank zero stays.
* `Coordinator.check` and `Coordinator.call` try and run a command.
* `Coordinator.teardown` stops the worker: it asks an idle one to leave and kills a busy one.
-/

namespace KernelCache

/-- The state of a coordinator. -/
structure Coordinator where
  policy : PollPolicy
  /-- The capacity of the channel's buffer. -/
  capacity : Nat := Channel.pageCapacity
  /-- Whether the channel is still mapped. -/
  attached : Bool := true
  /-- Whether a wait ended without an acknowledgement. -/
  dead : Bool := false
  /-- The number of commands handed to the worker. -/
  sent : Nat := 0
  deriving DecidableEq, Repr

/-- An action of a coordinator, which may fail. -/
abbrev CoordinatorM (α : Type) := ExceptT Failure (StateT Coordinator Action) α

namespace Coordinator

/-- A step that may fail with a fault of the channel. -/
def channelStep {α : Type} : Except ChannelFault α → CoordinatorM α
  | .ok value => return value
  | .error fault => throw (.channel fault)

/-- A step that may fail because the worker cannot be observed. -/
def waitStep {α : Type} : Except Fault α → CoordinatorM α
  | .ok value => return value
  | .error fault => throw (.wait fault)

/-- Maps a channel and starts a worker. -/
def hire (config : Config) : ExceptT Failure Action Coordinator := do
  ExceptT.mk (Action.hire config.commandLog)
  return { policy := config.poll.policy }

/-- Demands the channel. -/
def requireChannel : CoordinatorM Unit := do
  if !(← get).attached then throw .workerGone

/-- Whether the worker has acknowledged the last request. -/
def isReady : CoordinatorM Bool := do
  let word ← Action.look
  return word == Channel.readyWord

/-- Publishes a request. -/
def send (request : Request) : CoordinatorM Unit := do
  let word ← Action.look
  let (command?, posted) ← channelStep (Channel.accept (← get).capacity word request)
  match command? with
  | some command => Action.fill command
  | none => pure ()
  Action.post posted

/-- Waits for an acknowledgement; `onLeft` is the failure when the worker leaves instead. -/
def awaitReady (onLeft : ExitCode → Failure) : CoordinatorM Unit := do
  match ← Action.await (← get).policy with
  | .acknowledged => return ()
  | .left code =>
    modify fun coordinator => { coordinator with dead := true }
    throw (onLeft code)
  | .exhausted exhausted =>
    modify fun coordinator => { coordinator with dead := true }
    throw (.poll exhausted)

/-- Asks an idle worker to leave, kills a busy one, and waits for its end. -/
def stopWorker : CoordinatorM ExitCode := do
  match ← waitStep (← Action.reap) with
  | some code => return code
  | none =>
    if ← isReady then send .exit else Action.kill
    waitStep (← Action.join)

/-- Stops the worker and gives the channel back; a second time there is nothing to do. -/
def teardown : CoordinatorM Unit := do
  if (← get).attached then
    modify fun coordinator => { coordinator with attached := false }
    let stopped ← observing stopWorker
    channelStep (← Action.release)
    match stopped with
    | .ok (some 0) => return ()
    | .ok code => throw (.workerExit code "shutdown")
    | .error failure => throw failure
where
  /-- The outcome of a step as a value. -/
  observing {α : Type} (step : CoordinatorM α) : CoordinatorM (Except Failure α) :=
    ExceptT.lift step.run

/-- Tells the worker its rank, and says whether the worker stays. -/
def handshake (rank : UInt32) : CoordinatorM Bool := do
  requireChannel
  send (.identity rank)
  awaitReady fun code => .workerExit code "rank handshake"
  if rank = 0 then return true
  teardown
  return false

/-- Says whether a command fits the channel; nothing is changed. -/
def check (command : Bytes) : CoordinatorM Unit := do
  requireChannel
  channelStep (Channel.fits (← get).capacity command)

/-- Runs a command in the worker and waits for its end. -/
def call (step : Step) (command : Bytes) : CoordinatorM Unit := do
  if (← get).dead then throw .workerGone
  check command
  send (.call command)
  modify fun coordinator => { coordinator with sent := coordinator.sent + 1 }
  awaitReady fun code => .build step command code

/-- Stops the worker for good. -/
def shutdown (coordinator : Coordinator) : ExceptT Failure Action Unit :=
  ExceptT.mk ((teardown.run.run coordinator).bind fun outcome => .done outcome.1)

/-- Stops the worker for good, whatever comes of it. -/
def abandon (coordinator : Coordinator) : Action Unit := do
  discard (shutdown coordinator).run

end Coordinator

end KernelCache
