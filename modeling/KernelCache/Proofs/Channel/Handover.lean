import KernelCache.Group.Basic
import KernelCache.Proofs.Channel.Buffer
import KernelCache.Proofs.Coordinator.Steps
import KernelCache.Proofs.Poll.Attempts
import KernelCache.Worker
import Mathlib.Logic.Relation

/-
**A coordinator and a worker at the two ends of one channel.**

Two processes share a status word and a buffer that nothing protects. The coordinator makes one call
after the other; the worker serves. Each of them goes on at any time, by one access to the word, one
octet of the buffer, one command that is run, or one look at the other process.

* `Handover` is the state of both, with a record of what was sent, taken, run and returned.
* `Handover.CallerStep` is a step of the coordinator, which goes through the questions of
  `Coordinator.call`. It copies a command octet by octet, and its wait is the loop of
  `PollPolicy.waitFrom` (`PollPolicy.waitFrom_succ`).
* `Handover.ServerStep` is a step of the worker. It polls in two steps, one for the word and one for
  the buffer (`Handover.polls`), and serves a request by `Worker.react` and `Worker.settle`.
* `Handover.Run` is any order of their steps.
-/

namespace KernelCache

namespace Worker

/-- A log and a shell that behave as given. The commands are recorded as they are run. -/
def recorded (logged : Bool) (ended : ShellEnd) :
    Surroundings (StateM (List (Bytes × ShellEnd))) where
  append _ _ := pure logged
  run command := do
    modify (· ++ [(command, ended)])
    return ended

end Worker

/-- The state of a call that was begun. -/
inductive Doing where
  /-- It has yet to ask these questions. -/
  | asking (rest : Action (Except Failure Unit × Coordinator))
  /-- It copies octets to an offset of the buffer. -/
  | copying (octets : Bytes) (offset : Nat) (rest : Action (Except Failure Unit × Coordinator))
  /-- It waits, and is about to read the word. -/
  | probing (policy : PollPolicy) (attempts : Nat)
      (next : Verdict → Action (Except Failure Unit × Coordinator))
  /-- It waits, has found that the word is not ready, and is about to look at the worker. -/
  | watching (policy : PollPolicy) (attempts : Nat)
      (next : Verdict → Action (Except Failure Unit × Coordinator))

/-- Where a coordinator stands. -/
inductive Caller where
  | idle
  | busy (step : Step) (command : Bytes) (doing : Doing)

/-- Where a worker stands. -/
inductive Server where
  /-- It is about to read the word. -/
  | polling
  /-- It has found that a command waits, and is about to copy it. -/
  | fetching
  | serving (request : Request)
  | settling (reaction : Reaction)
  | gone (code : Nat)

/-- A call that returned. -/
structure Returned where
  step : Step
  command : Bytes
  outcome : Except Failure Unit

/-- A coordinator and a worker at the two ends of one channel. -/
structure Handover where
  channel : Channel
  coordinator : Coordinator
  caller : Caller := .idle
  server : Server := .polling
  /-- The commands that were posted. -/
  sent : List Bytes := []
  /-- The commands that the worker copied out of the buffer. -/
  taken : List Bytes := []
  /-- The commands that the worker ran, and how their shells ended. -/
  ran : List (Bytes × ShellEnd) := []
  returned : List Returned := []

namespace Handover

/-- Before the first call the channel is ready. Its buffer may hold anything. -/
def start (coordinator : Coordinator) (written : Bytes) : Handover where
  channel := { capacity := coordinator.capacity, word := Channel.readyWord, written }
  coordinator

/-- The commands of the calls that succeeded. -/
def succeeded (handover : Handover) : List Bytes :=
  (handover.returned.filter fun call => !failed call.outcome).map (·.command)

/-! ### Steps -/

section Steps

variable (before : Handover)

/-- A step of the coordinator, from where it stands. -/
inductive CallerStep : Caller → Handover → Prop where
  /-- It begins a call. -/
  | begin (step : KernelCache.Step) (command : Bytes) :
      CallerStep .idle { before with
        caller := .busy step command
          (.asking ((Coordinator.call step command).run.run before.coordinator)) }
  /-- It reads the word. -/
  | look (step : KernelCache.Step) (command : Bytes) (next : UInt32 → _) :
      CallerStep (.busy step command (.asking (.ask .look next))) { before with
        caller := .busy step command (.asking (next before.channel.word)) }
  /-- It starts to copy a command with its terminator. -/
  | fill (step : KernelCache.Step) (command octets : Bytes) (next : Unit → _) :
      CallerStep (.busy step command (.asking (.ask (.fill octets) next))) { before with
        caller := .busy step command (.copying (octets ++ [0]) 0 (next ())) }
  /-- It copies one octet. -/
  | copy (step : KernelCache.Step) (command : Bytes) (octet : UInt8) (octets : Bytes) (offset : Nat)
      (rest : _) :
      CallerStep (.busy step command (.copying (octet :: octets) offset rest)) { before with
        channel := before.channel.putOctet offset octet
        caller := .busy step command (.copying octets (offset + 1) rest) }
  /-- All octets are copied. -/
  | copied (step : KernelCache.Step) (command : Bytes) (offset : Nat) (rest : _) :
      CallerStep (.busy step command (.copying [] offset rest)) { before with
        caller := .busy step command (.asking rest) }
  /-- It stores a word. From here on the command counts as sent. -/
  | post (step : KernelCache.Step) (command : Bytes) (word : UInt32) (next : Unit → _) :
      CallerStep (.busy step command (.asking (.ask (.post word) next))) { before with
        channel := before.channel.store word
        sent := before.sent ++ [command]
        caller := .busy step command (.asking (next ())) }
  /-- It starts to wait. -/
  | await (step : KernelCache.Step) (command : Bytes) (policy : PollPolicy) (next : Verdict → _) :
      CallerStep (.busy step command (.asking (.ask (.await policy) next))) { before with
        caller := .busy step command (.probing policy 0 next) }
  /-- The word is ready, and the wait is over. -/
  | acknowledged (step : KernelCache.Step) (command : Bytes) (policy : PollPolicy) (attempts : Nat)
      (next : _) (ready : before.channel.isReady = true) :
      CallerStep (.busy step command (.probing policy attempts next)) { before with
        caller := .busy step command (.asking (next .acknowledged)) }
  /-- The word is not ready. -/
  | unready (step : KernelCache.Step) (command : Bytes) (policy : PollPolicy) (attempts : Nat)
      (next : _) (unready : before.channel.isReady = false) :
      CallerStep (.busy step command (.probing policy attempts next)) { before with
        caller := .busy step command (.watching policy attempts next) }
  /-- The worker has left, and the wait is over. -/
  | left (step : KernelCache.Step) (command : Bytes) (policy : PollPolicy) (attempts : Nat)
      (next : _) (code : Nat) (gone : before.server = .gone code) :
      CallerStep (.busy step command (.watching policy attempts next)) { before with
        caller := .busy step command (.asking (next (.left (some code)))) }
  /-- The worker was not seen to leave, and there are attempts left. It may have left since. -/
  | again (step : KernelCache.Step) (command : Bytes) (policy : PollPolicy) (attempts later : Nat)
      (next : _) (missed : policy.missed attempts = .ok later) :
      CallerStep (.busy step command (.watching policy attempts next)) { before with
        caller := .busy step command (.probing policy later next) }
  /-- The worker was not seen to leave, and the attempts are used up. -/
  | exhausted (step : KernelCache.Step) (command : Bytes) (policy : PollPolicy) (attempts : Nat)
      (next : _) (exhausted : Exhausted) (missed : policy.missed attempts = .error exhausted) :
      CallerStep (.busy step command (.watching policy attempts next)) { before with
        caller := .busy step command (.asking (next (.exhausted exhausted))) }
  /-- The call returns. -/
  | finish (step : KernelCache.Step) (command : Bytes) (outcome : Except Failure Unit)
      (coordinator : Coordinator) :
      CallerStep (.busy step command (.asking (.done (outcome, coordinator)))) { before with
        coordinator
        caller := .idle
        returned := before.returned ++ [⟨step, command, outcome⟩] }

/-- A step of the worker, from where it stands. -/
inductive ServerStep (commandLog : Option Path) : Server → Handover → Prop where
  /-- It reads that a command waits. -/
  | call (word : before.channel.state = .call) :
      ServerStep commandLog .polling { before with server := .fetching }
  /-- It reads that it has to leave. -/
  | exit (word : before.channel.state = .exit) :
      ServerStep commandLog .polling { before with server := .serving .exit }
  /-- It reads an identity word. -/
  | identity (value : UInt32) (word : before.channel.state = .identity value) :
      ServerStep commandLog .polling { before with server := .serving (.identity value) }
  /-- It copies the command. -/
  | fetch :
      ServerStep commandLog .fetching { before with
        server := .serving (.call before.channel.command)
        taken := before.taken ++ [before.channel.command] }
  /-- It serves a request, whatever comes of the log and of the shell. -/
  | serve (request : Request) (logged : Bool) (ended : ShellEnd) (reaction : Reaction)
      (ran : List (Bytes × ShellEnd))
      (reacted : (Worker.react (Worker.recorded logged ended) commandLog request).run before.ran =
        (reaction, ran)) :
      ServerStep commandLog (.serving request) { before with server := .settling reaction, ran }
  /-- It acknowledges, or leaves. -/
  | settle (reaction : Reaction) :
      ServerStep commandLog (.settling reaction) { before with
        channel := Worker.settle before.channel reaction
        server := match reaction.code? with
          | none => .polling
          | some code => .gone code }

end Steps

/-- A step of either process. -/
inductive Step (commandLog : Option Path) (before : Handover) : Handover → Prop where
  | caller {after : Handover} (step : CallerStep before before.caller after) :
      Step commandLog before after
  | server {after : Handover} (step : ServerStep before commandLog before.server after) :
      Step commandLog before after

/-- Several steps of the two processes. -/
abbrev Run (commandLog : Option Path) : Handover → Handover → Prop :=
  Relation.ReflTransGen (Step commandLog)

/-! ### Polling in two steps -/

/-- **The worker's steps are a poll**, when the coordinator does not come in between. -/
theorem polls {before : Handover} (commandLog : Option Path) (free : before.server = .polling)
    {request : Request} (pending : before.channel.poll = some request) :
    ∃ after, Run commandLog before after ∧ after.server = .serving request ∧
      after.channel = before.channel := by
  have reads {after : Handover} (step : ServerStep before commandLog .polling after) :
      Run commandLog before after := by
    rw [← free] at step
    exact .single (.server step)
  unfold Channel.poll at pending
  cases state : before.channel.state with
  | ready => rw [state] at pending; cases pending
  | call =>
    rw [state] at pending
    cases pending
    exact ⟨_, (reads (.call state)).tail (.server .fetch), rfl, rfl⟩
  | exit =>
    rw [state] at pending
    cases pending
    exact ⟨_, reads (.exit state), rfl, rfl⟩
  | identity value =>
    rw [state] at pending
    cases pending
    exact ⟨_, reads (.identity value state), rfl, rfl⟩

end Handover

end KernelCache
