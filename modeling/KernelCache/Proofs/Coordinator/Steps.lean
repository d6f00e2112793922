import KernelCache.Coordinator
import KernelCache.Proofs.Action.Basic

/-
**The steps of a coordinator as trees of questions.**

* `Coordinator.run_check`: a check asks nothing and changes nothing.
* `Coordinator.run_call`: a call that is not refused reads the status word, and while it says ready
  fills the buffer, publishes the request and waits; the end of the wait decides its outcome.
* `Coordinator.run_stopWorker`: a worker that has not left is asked to leave when it is idle, and
  killed when it is not.
* `Coordinator.run_teardown`: the worker is stopped once, and the channel is given back after it.
* `Coordinator.run_handshake`: a rank that is no word of the channel is posted while the word says
  ready, and the worker of any other rank than zero is stopped after it has acknowledged.
-/

namespace KernelCache

open KernelCache.Action

namespace Coordinator

/-- Why a command cannot be handed to the worker, if it cannot. -/
def unfit? (coordinator : Coordinator) (command : Bytes) : Option Failure :=
  if coordinator.attached then
    match Channel.fits coordinator.capacity command with
    | .ok () => none
    | .error fault => some (.channel fault)
  else some .workerGone

/-- Why a call is refused before anything is asked, if it is. -/
def refusal? (coordinator : Coordinator) (command : Bytes) : Option Failure :=
  if coordinator.dead then some .workerGone else coordinator.unfit? command

/-- A call is refused when there is nobody to take its command, or it does not fit the channel. -/
theorem failure_of_refusal? {coordinator : Coordinator} {command : Bytes} {failure : Failure}
    (refused : coordinator.refusal? command = some failure) :
    failure = .workerGone ∨
      ∃ fault, Channel.fits coordinator.capacity command = .error fault ∧
        failure = .channel fault := by
  unfold refusal? unfit? at refused
  split at refused
  · exact .inl (Option.some.inj refused).symm
  · split at refused
    · cases fits : Channel.fits coordinator.capacity command with
      | ok value => rw [fits] at refused; cases refused
      | error fault => rw [fits] at refused; exact .inr ⟨fault, rfl, (Option.some.inj refused).symm⟩
    · exact .inl (Option.some.inj refused).symm

/-- The outcome of a wait, from its end; `onLeft` is the failure when the worker leaves instead. -/
def outcomeOf (onLeft : ExitCode → Failure) : Verdict → Except Failure Unit
  | .acknowledged => .ok ()
  | .left code => .error (onLeft code)
  | .exhausted exhausted => .error (.poll exhausted)

/-- The coordinator after a wait. -/
def afterWait (coordinator : Coordinator) (verdict : Verdict) : Coordinator :=
  { coordinator with dead := coordinator.dead || verdict != .acknowledged }

/-- The coordinator after it has handed one more command to the worker. -/
def afterSend (coordinator : Coordinator) : Coordinator :=
  { coordinator with sent := coordinator.sent + 1 }

theorem run_check (command : Bytes) (coordinator : Coordinator) :
    (check command).run.run coordinator =
      .done (match coordinator.unfit? command with
        | some failure => .error failure
        | none => .ok (), coordinator) := by
  rcases coordinator with ⟨policy, capacity, attached, dead, sent⟩
  cases attached with
  | false => rfl
  | true =>
    show (channelStep (Channel.fits capacity command)).run.run
      ⟨policy, capacity, true, dead, sent⟩ = _
    unfold unfit?
    cases Channel.fits capacity command with
    | error fault => rfl
    | ok value => rfl

/-- What is left of sending a request when the status word is known. -/
def publishing (coordinator : Coordinator) (request : Request) (word : UInt32) :
    Action (Except Failure Unit × Coordinator) :=
  match Channel.accept coordinator.capacity word request with
  | .error fault => .done (.error (.channel fault), coordinator)
  | .ok (some command, posted) =>
    .ask (.fill command) fun _ => .ask (.post posted) fun _ => .done (.ok (), coordinator)
  | .ok (none, posted) => .ask (.post posted) fun _ => .done (.ok (), coordinator)

theorem run_send (request : Request) (coordinator : Coordinator) :
    (send request).run.run coordinator = .ask .look (coordinator.publishing request) := by
  unfold send
  rw [run_bind]
  refine congrArg (Action.ask Effect.look) (funext fun word => ?_)
  unfold publishing
  show ((channelStep (Channel.accept coordinator.capacity word request)) >>= _).run.run coordinator
    = _
  cases Channel.accept coordinator.capacity word request with
  | error fault => rfl
  | ok accepted =>
    rcases accepted with ⟨_ | command, posted⟩
    · rfl
    · rfl

theorem run_awaitReady (onLeft : ExitCode → Failure) (coordinator : Coordinator) :
    (awaitReady onLeft).run.run coordinator =
      .ask (.await coordinator.policy) fun verdict =>
        .done (outcomeOf onLeft verdict, coordinator.afterWait verdict) := by
  refine congrArg (Action.ask (Effect.await coordinator.policy)) (funext fun verdict => ?_)
  rcases coordinator with ⟨policy, capacity, attached, dead, sent⟩
  cases verdict with
  | acknowledged => cases dead <;> rfl
  | left code => cases dead <;> rfl
  | exhausted exhausted => cases dead <;> rfl

/-- The end of a call that has waited. -/
def concluding (coordinator : Coordinator) (step : Step) (command : Bytes) (verdict : Verdict) :
    Action (Except Failure Unit × Coordinator) :=
  .done (outcomeOf (.build step command) verdict, coordinator.afterSend.afterWait verdict)

/-- What is left of a call when the request is posted. -/
def awaiting (coordinator : Coordinator) (step : Step) (command : Bytes) :
    Action (Except Failure Unit × Coordinator) :=
  .ask (.await coordinator.policy) (coordinator.concluding step command)

/-- What is left of a call when the command is in the buffer. -/
def posting (coordinator : Coordinator) (step : Step) (command : Bytes) :
    Action (Except Failure Unit × Coordinator) :=
  .ask (.post Channel.callWord) fun _ => coordinator.awaiting step command

/-- What is left of a call when the status word said ready. -/
def filling (coordinator : Coordinator) (step : Step) (command : Bytes) :
    Action (Except Failure Unit × Coordinator) :=
  .ask (.fill command) fun _ => coordinator.posting step command

/-- What is left of a call when it was not refused. -/
def looking (coordinator : Coordinator) (step : Step) (command : Bytes) :
    Action (Except Failure Unit × Coordinator) :=
  .ask .look fun (word : UInt32) =>
    if word = Channel.readyWord then coordinator.filling step command
    else .done (.error (.channel (.busy word)), coordinator)

/-- **A call**: refused, or one request and the wait for its end. -/
theorem run_call (step : Step) (command : Bytes) (coordinator : Coordinator) :
    (call step command).run.run coordinator =
      match coordinator.refusal? command with
      | some failure => .done (.error failure, coordinator)
      | none => coordinator.looking step command := by
  rcases coordinator with ⟨policy, capacity, attached, dead, sent⟩
  cases dead with
  | true => rfl
  | false =>
    show ((check command >>= fun _ => send (.call command) >>= fun _ =>
      modify afterSend >>= fun _ => awaitReady (.build step command)).run.run
        ⟨policy, capacity, attached, false, sent⟩) = _
    rw [run_bind, run_check]
    unfold refusal? unfit?
    cases attached with
    | false => rfl
    | true =>
      cases fit : Channel.fits capacity command with
      | error fault => rfl
      | ok value =>
        show ((send (.call command) >>= fun _ => modify afterSend >>= fun _ =>
          awaitReady (.build step command)).run.run ⟨policy, capacity, true, false, sent⟩) = _
        rw [run_bind, run_send]
        refine congrArg (Action.ask Effect.look) (funext fun (word : UInt32) => ?_)
        unfold publishing
        by_cases ready : word = Channel.readyWord
        · have accepted : Channel.accept capacity word (.call command) =
              .ok (some command, Channel.callWord) := by
            rw [Channel.accept, if_neg (not_not.mpr ready), fit]
            rfl
          simp only [accepted, if_pos ready, ask_bind, done_bind]
          refine congrArg (Action.ask (Effect.fill command)) (funext fun _ => ?_)
          refine congrArg (Action.ask (Effect.post Channel.callWord)) (funext fun _ => ?_)
          exact run_awaitReady (.build step command)
            (afterSend ⟨policy, capacity, true, false, sent⟩)
        · have busy : Channel.accept capacity word (.call command) = .error (.busy word) := by
            rw [Channel.accept, if_pos ready]
          simp only [busy, if_neg ready, done_bind]

/-! ### The end of a worker -/

/-- The outcome of a step that observes the worker. -/
def observed {α : Type} : Except Fault α → Except Failure α
  | .ok value => .ok value
  | .error fault => .error (.wait fault)

/-- What is left of stopping a worker that was asked to leave, or killed. -/
def joining (coordinator : Coordinator) : Action (Except Failure ExitCode × Coordinator) :=
  .ask .join fun left => .done (observed left, coordinator)

/-- What is left of stopping a worker that was seen to be idle. -/
def dismissing (coordinator : Coordinator) : Action (Except Failure ExitCode × Coordinator) :=
  .ask .look fun (word : UInt32) =>
    if word = Channel.readyWord then .ask (.post Channel.exitWord) fun _ => coordinator.joining
    else .done (.error (.channel (.busy word)), coordinator)

/-- What is left of stopping a worker that has not left. -/
def stopping (coordinator : Coordinator) : Action (Except Failure ExitCode × Coordinator) :=
  .ask .look fun (word : UInt32) =>
    if word = Channel.readyWord then coordinator.dismissing
    else .ask .kill fun _ => coordinator.joining

theorem run_join (coordinator : Coordinator) :
    (liftM Action.join >>= waitStep : CoordinatorM ExitCode).run.run coordinator
      = coordinator.joining := by
  refine congrArg (Action.ask Effect.join) (funext fun left => ?_)
  cases left <;> rfl

theorem run_stopWorker (coordinator : Coordinator) :
    stopWorker.run.run coordinator = .ask .reap fun found =>
      match found with
      | .error fault => .done (.error (.wait fault), coordinator)
      | .ok (some code) => .done (.ok code, coordinator)
      | .ok none => coordinator.stopping := by
  refine congrArg (Action.ask Effect.reap) (funext fun found => ?_)
  rcases found with fault | _ | code
  · rfl
  · refine congrArg (Action.ask Effect.look) (funext fun (word : UInt32) => ?_)
    show (if (word == Channel.readyWord) = true
      then send .exit >>= fun _ => liftM Action.join >>= waitStep
      else liftM Action.kill >>= fun _ => liftM Action.join >>= waitStep :
        CoordinatorM ExitCode).run.run coordinator = _
    by_cases ready : word = Channel.readyWord
    · rw [if_pos (beq_iff_eq.mpr ready), if_pos ready, run_bind, run_send]
      refine congrArg (Action.ask Effect.look) (funext fun (word : UInt32) => ?_)
      unfold publishing
      by_cases still : word = Channel.readyWord
      · rw [Channel.accept, if_neg (not_not.mpr still), if_pos still]
        exact congrArg (Action.ask (Effect.post Channel.exitWord))
          (funext fun _ => run_join coordinator)
      · rw [Channel.accept, if_pos still, if_neg still]
        rfl
    · rw [if_neg fun yes => ready (beq_iff_eq.mp yes), if_neg ready]
      exact congrArg (Action.ask Effect.kill) (funext fun _ => run_join coordinator)
  · rfl

/-- The outcome of a teardown, from the end of the worker. -/
def farewell : Except Failure ExitCode → Except Failure Unit
  | .ok (some 0) => .ok ()
  | .ok code => .error (.workerExit code "shutdown")
  | .error failure => .error failure

/-- The coordinator without its channel. -/
def detached (coordinator : Coordinator) : Coordinator := { coordinator with attached := false }

/-- What is left of a teardown when the worker was stopped. -/
def releasing (result : Except Failure ExitCode × Coordinator) :
    Action (Except Failure Unit × Coordinator) :=
  .ask .release fun released =>
    match released with
    | .ok () => .done (farewell result.1, result.2)
    | .error fault => .done (.error (.channel fault), result.2)

theorem run_teardown (coordinator : Coordinator) :
    teardown.run.run coordinator =
      if coordinator.attached then (stopWorker.run.run coordinator.detached).bind releasing
      else .done (.ok (), coordinator) := by
  rcases coordinator with ⟨policy, capacity, attached, dead, sent⟩
  cases attached with
  | false => rfl
  | true =>
    rw [if_pos rfl]
    show ((stopWorker.run.run ⟨policy, capacity, false, dead, sent⟩).bind _).bind _ = _
    rw [bind_bind]
    refine congrArg (Action.bind _) (funext fun result => ?_)
    obtain ⟨stopped, after⟩ := result
    refine congrArg (Action.ask Effect.release) (funext fun released => ?_)
    cases released with
    | error fault => rfl
    | ok value =>
      rcases stopped with failure | _ | (_ | _) | _ <;> rfl

/-! ### A handshake -/

/-- The end of a handshake that has waited. -/
def greeting (coordinator : Coordinator) (rank : UInt32) :
    Verdict → Action (Except Failure Bool × Coordinator)
  | .acknowledged =>
    if rank = 0 then .done (.ok true, coordinator)
    else (teardown.run.run coordinator).bind fun result =>
      .done (result.1.map fun _ => false, result.2)
  | .left code =>
    .done (.error (.workerExit code "rank handshake"), coordinator.afterWait (.left code))
  | .exhausted exhausted =>
    .done (.error (.poll exhausted), coordinator.afterWait (.exhausted exhausted))

/-- What is left of a handshake when the channel is there. -/
def telling (coordinator : Coordinator) (rank : UInt32) :
    Action (Except Failure Bool × Coordinator) :=
  .ask .look fun (word : UInt32) =>
    if word = Channel.readyWord then
      if Channel.reserved rank then .done (.error (.channel (.reservedWord rank)), coordinator)
      else .ask (.post rank) fun _ => .ask (.await coordinator.policy) (coordinator.greeting rank)
    else .done (.error (.channel (.busy word)), coordinator)

theorem afterWait_acknowledged (coordinator : Coordinator) :
    coordinator.afterWait .acknowledged = coordinator := by
  rcases coordinator with ⟨policy, capacity, attached, dead, sent⟩
  cases dead <;> rfl

/-- **A handshake**: the rank is told, and only the worker of rank zero stays. -/
theorem run_handshake (rank : UInt32) (coordinator : Coordinator) :
    (handshake rank).run.run coordinator =
      if coordinator.attached then coordinator.telling rank
      else .done (.error .workerGone, coordinator) := by
  obtain ⟨policy, capacity, attached, dead, sent⟩ := coordinator
  cases attached with
  | false => rfl
  | true =>
    rw [if_pos rfl]
    show (send (.identity rank) >>= fun _ => awaitReady _ >>= fun _ => _).run.run
      ⟨policy, capacity, true, dead, sent⟩ = _
    rw [run_bind, run_send]
    refine congrArg (Action.ask Effect.look) (funext fun (word : UInt32) => ?_)
    unfold publishing Channel.accept
    by_cases ready : word = Channel.readyWord
    · rw [if_neg (not_not.mpr ready), if_pos ready]
      by_cases taken : Channel.reserved rank = true
      · simp only [if_pos taken]
        rfl
      · simp only [if_neg taken]
        refine congrArg (Action.ask (Effect.post rank)) (funext fun _ => ?_)
        show (awaitReady _ >>= fun _ => _).run.run ⟨policy, capacity, true, dead, sent⟩ = _
        rw [run_bind, run_awaitReady]
        refine congrArg (Action.ask (Effect.await policy)) (funext fun verdict => ?_)
        cases verdict with
        | left code => rfl
        | exhausted exhausted => rfl
        | acknowledged =>
          show (if rank = 0 then pure true else teardown >>= fun _ => pure false :
            CoordinatorM Bool).run.run (afterWait _ .acknowledged) = _
          rw [afterWait_acknowledged, greeting]
          by_cases zero : rank = 0
          · rw [if_pos zero, if_pos zero]
            rfl
          · rw [if_neg zero, if_neg zero, run_bind]
            refine congrArg (Action.bind _) (funext fun result => ?_)
            obtain ⟨failure | value, after⟩ := result <;> rfl
    · rw [if_pos ready, if_neg ready]
      rfl

/-! ### What the steps leave alone -/

theorem keeps_check {κ : Type} {part : Coordinator → κ} (command : Bytes) :
    Keeps part (check command) := by
  intro coordinator
  rw [run_check]
  exact rfl

theorem keeps_call (step : Step) (command : Bytes) :
    Keeps (fun coordinator => (coordinator.policy, coordinator.capacity, coordinator.attached))
      (call step command) := by
  intro coordinator
  rw [run_call]
  cases coordinator.refusal? command with
  | some failure => exact rfl
  | none =>
    refine ⟨rfl, fun (word : UInt32) => ?_⟩
    show Alone _ (if word = Channel.readyWord then _ else _)
    by_cases ready : word = Channel.readyWord
    · rw [if_pos ready]
      exact ⟨rfl, fun _ => ⟨rfl, fun _ => ⟨rfl, fun _ => rfl⟩⟩⟩
    · rw [if_neg ready]
      exact rfl

end Coordinator

end KernelCache
