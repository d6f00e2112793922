import KernelCache.Proofs.Channel.Handover

/-
**Commands are handed over exactly once.**

The word says who owns the buffer: while it says ready the worker does not read it, and while it
says that a command waits the coordinator does not write it.

* `Handover.Quiet` and `Handover.Pending` are the two states of the channel, `Handover.Stage` is how
  far the worker is with a pending command. `Handover.Pending.server` leads through them.
* `Handover.Settled` and `Handover.Outstanding` relate what was sent to what the calls returned: at
  most one command is without a call that succeeded, and then the coordinator waits for it, or gave
  up.
* `Handover.Phase` is what holds in addition at every place of a call.
* `Handover.inv_step` keeps all of it along every step, also after the coordinator gave up on a
  worker that goes on.
* **`Handover.calls_exact`**: in every state that is reached, the commands were taken and run as
  they were sent, once and in order.
-/

namespace KernelCache

namespace Worker

/-- **A call runs its command at most once**, and is acknowledged when that was a success. -/
theorem react_call (commandLog : Option Path) (logged : Bool) (ended : ShellEnd) (command : Bytes)
    (ran : List (Bytes × ShellEnd)) :
    let reacted := (react (recorded logged ended) commandLog (.call command)).run ran
    (reacted = (.acknowledge, ran ++ [(command, ended)]) ∧ exitCode ended = 0) ∨
      ∃ code later, reacted = (.leave false code, ran ++ later) ∧
        (later = [] ∨ later = [(command, ended)]) := by
  have run (reacted : Reaction × List (Bytes × ShellEnd))
      (same : reacted = (if exitCode ended = 0 then .acknowledge else .leave false (exitCode ended),
        ran ++ [(command, ended)])) :
      (reacted = (.acknowledge, ran ++ [(command, ended)]) ∧ exitCode ended = 0) ∨
        ∃ code later, reacted = (.leave false code, ran ++ later) ∧
          (later = [] ∨ later = [(command, ended)]) := by
    by_cases success : exitCode ended = 0
    · rw [if_pos success] at same
      exact .inl ⟨same, success⟩
    · rw [if_neg success] at same
      exact .inr ⟨exitCode ended, _, same, .inr rfl⟩
  cases commandLog with
  | none => exact run _ rfl
  | some path =>
    cases logged with
    | true => exact run _ rfl
    | false => exact .inr ⟨logFailed, [], by rw [List.append_nil]; rfl, .inl rfl⟩

end Worker

namespace Handover

/-! ### Who owns the buffer -/

/-- These commands were run, in this order, and all to success. -/
structure Clean (commands : List Bytes) (ran : List (Bytes × ShellEnd)) : Prop where
  commands : ran.map Prod.fst = commands
  success : ∀ run ∈ ran, Worker.exitCode run.2 = 0

/-- The word is ready: all that was sent is done, the worker keeps reading the word, and the buffer
is the coordinator's. -/
structure Quiet (handover : Handover) : Prop where
  word : handover.channel.word = Channel.readyWord
  server : handover.server = .polling
  taken : handover.taken = handover.sent
  ran : Clean handover.sent handover.ran

/-- How far the worker is with a command that was sent after earlier ones: where it stands, what it
has taken and what it has run. -/
inductive Stage (earlier : List Bytes) (command : Bytes) (channel : Channel) :
    Server → List Bytes → List (Bytes × ShellEnd) → Prop where
  | polling {ran : List (Bytes × ShellEnd)} (whole : channel.command = command)
      (clean : Clean earlier ran) : Stage earlier command channel .polling earlier ran
  | fetching {ran : List (Bytes × ShellEnd)} (whole : channel.command = command)
      (clean : Clean earlier ran) : Stage earlier command channel .fetching earlier ran
  | serving {ran : List (Bytes × ShellEnd)} (clean : Clean earlier ran) :
      Stage earlier command channel (.serving (.call command)) (earlier ++ [command]) ran
  | succeeded {ran : List (Bytes × ShellEnd)} (clean : Clean (earlier ++ [command]) ran) :
      Stage earlier command channel (.settling .acknowledge) (earlier ++ [command]) ran
  | leaving {runs later : List (Bytes × ShellEnd)} (code : Nat) (clean : Clean earlier runs)
      (last : later = [] ∨ ∃ ended, later = [(command, ended)]) :
      Stage earlier command channel (.settling (.leave false code)) (earlier ++ [command])
        (runs ++ later)
  | gone {runs later : List (Bytes × ShellEnd)} (code : Nat) (clean : Clean earlier runs)
      (last : later = [] ∨ ∃ ended, later = [(command, ended)]) :
      Stage earlier command channel (.gone code) (earlier ++ [command]) (runs ++ later)

/-- A command waits, or is served, or was the worker's last one; the buffer is the worker's. -/
structure Pending (earlier : List Bytes) (command : Bytes) (handover : Handover) : Prop where
  word : handover.channel.word = Channel.callWord
  stage : Stage earlier command handover.channel handover.server handover.taken handover.ran

/-- Every command that was sent is one of a call that succeeded. -/
structure Settled (handover : Handover) : Prop where
  sent : handover.sent = handover.succeeded
  quiet : Quiet handover

/-- The last command that was sent is the only one without a call that succeeded. -/
structure Outstanding (command : Bytes) (handover : Handover) : Prop where
  sent : handover.sent = handover.succeeded ++ [command]
  either : Quiet handover ∨ Pending handover.succeeded command handover

/-- What holds between two calls: all is settled, or the coordinator is dead. -/
def Between (handover : Handover) : Prop :=
  Settled handover ∨ handover.coordinator.dead = true ∧ ∃ command, Outstanding command handover

/-- What holds at the end of a wait. -/
def Ended (command : Bytes) (handover : Handover) : Verdict → Prop
  | .acknowledged => handover.sent = handover.succeeded ++ [command] ∧ Quiet handover
  | .left _ => Outstanding command handover ∧ ∃ code, handover.server = .gone code
  | .exhausted _ => Outstanding command handover

/-- What holds at every place of the coordinator. -/
inductive Phase (handover : Handover) : Caller → Prop where
  | idle (between : Between handover) : Phase handover .idle
  /-- The call was refused before anything was asked. -/
  | refused (step : KernelCache.Step) (command : Bytes) (failure : Failure)
      (unbuilt : ∀ step command code, failure ≠ .build step command code)
      (between : Between handover) :
      Phase handover (.busy step command (.asking (.done (.error failure, handover.coordinator))))
  | looking (step : KernelCache.Step) (command : Bytes) (clean : 0 ∉ command)
      (settled : Settled handover) :
      Phase handover (.busy step command (.asking (handover.coordinator.looking step command)))
  | filling (step : KernelCache.Step) (command : Bytes) (clean : 0 ∉ command)
      (settled : Settled handover) :
      Phase handover (.busy step command (.asking (handover.coordinator.filling step command)))
  /-- The octets copied so far lie over what the buffer held before. -/
  | copying (step : KernelCache.Step) (command : Bytes) (clean : 0 ∉ command)
      (settled : Settled handover) (base : Channel) (front octets : Bytes)
      (split : front ++ octets = command ++ [0]) (partly : handover.channel = base.copied front) :
      Phase handover (.busy step command
        (.copying octets front.length (handover.coordinator.posting step command)))
  /-- The buffer holds the command, and the word does not say so yet. -/
  | posting (step : KernelCache.Step) (command : Bytes) (settled : Settled handover)
      (whole : handover.channel.command = command) :
      Phase handover (.busy step command (.asking (handover.coordinator.posting step command)))
  | awaiting (step : KernelCache.Step) (command : Bytes)
      (outstanding : Outstanding command handover) :
      Phase handover (.busy step command (.asking (handover.coordinator.awaiting step command)))
  | probing (step : KernelCache.Step) (command : Bytes) (attempts : Nat)
      (outstanding : Outstanding command handover) :
      Phase handover (.busy step command (.probing handover.coordinator.policy attempts
        (handover.coordinator.concluding step command)))
  | watching (step : KernelCache.Step) (command : Bytes) (attempts : Nat)
      (outstanding : Outstanding command handover) :
      Phase handover (.busy step command (.watching handover.coordinator.policy attempts
        (handover.coordinator.concluding step command)))
  /-- The wait is over, and the call is about to return. -/
  | concluding (step : KernelCache.Step) (command : Bytes) (verdict : Verdict)
      (ended : Ended command handover verdict) :
      Phase handover (.busy step command
        (.asking (handover.coordinator.concluding step command verdict)))

/-- A call that failed with its own build step: the worker took its command last, and has left. -/
structure Built (handover : Handover) (call : Returned) (step : KernelCache.Step)
    (command : Bytes) : Prop where
  step : step = call.step
  command : command = call.command
  last : handover.taken.getLast? = some call.command
  gone : ∃ code, handover.server = .gone code

/-- The invariant of the two processes. -/
structure Inv (handover : Handover) : Prop where
  phase : Phase handover handover.caller
  built : ∀ call ∈ handover.returned, ∀ step command code,
    call.outcome = .error (.build step command code) → Built handover call step command

theorem inv_start (coordinator : Coordinator) (written : Bytes) :
    Inv (start coordinator written) where
  phase := .idle (.inl ⟨rfl, ⟨rfl, rfl, rfl, ⟨rfl, fun _ none => by cases none⟩⟩⟩)
  built _ none := by cases none

/-! ### Steps of the worker -/

/-- While the word is ready the worker only reads it. -/
theorem Quiet.no_server {handover after : Handover} (quiet : Quiet handover)
    {commandLog : Option Path} (step : ServerStep handover commandLog handover.server after) :
    False := by
  rw [quiet.server] at step
  have ready : handover.channel.state = .ready := by
    rw [Channel.state, quiet.word]
    rfl
  cases step with
  | call word => rw [ready] at word; cases word
  | exit word => rw [ready] at word; cases word
  | identity value word => rw [ready] at word; cases word

/-- What the worker leaves alone. -/
structure Framed (before after : Handover) : Prop where
  coordinator : after.coordinator = before.coordinator
  caller : after.caller = before.caller
  sent : after.sent = before.sent
  returned : after.returned = before.returned

theorem ServerStep.framed {before after : Handover} {commandLog : Option Path} {server : Server}
    (step : ServerStep before commandLog server after) : Framed before after := by
  cases step <;> exact ⟨rfl, rfl, rfl, rfl⟩

/-- **The worker takes a command as it was sent, runs it, and gives the buffer back.** -/
theorem Pending.server {before after : Handover} {earlier : List Bytes} {command : Bytes}
    (pending : Pending earlier command before) (sent : before.sent = earlier ++ [command])
    {commandLog : Option Path} (step : ServerStep before commandLog before.server after) :
    Quiet after ∨ Pending earlier command after := by
  obtain ⟨word, stage⟩ := pending
  have waits : before.channel.state = .call := by
    rw [Channel.state, word]
    decide
  rcases before with ⟨channel, coordinator, caller, server, commands, taken, ran, returned⟩
  dsimp only at word stage sent step waits
  cases stage with
  | polling whole clean =>
    cases step with
    | call => exact .inr ⟨word, .fetching whole clean⟩
    | exit other => cases waits.symm.trans other
    | identity value other => cases waits.symm.trans other
  | fetching whole clean =>
    cases step
    refine .inr ⟨word, ?_⟩
    dsimp only
    rw [whole]
    exact .serving clean
  | serving clean =>
    cases step with
    | serve _ logged ended reaction after reacted =>
      have reactions := Worker.react_call commandLog logged ended command ran
      dsimp only at reactions reacted
      rw [reacted] at reactions
      rcases reactions with ⟨same, success⟩ | ⟨code, later, same, last⟩
      · cases same
        refine .inr ⟨word, .succeeded ⟨?_, fun run inside => ?_⟩⟩
        · rw [List.map_append, clean.commands]
          rfl
        · rcases List.mem_append.mp inside with inside | inside
          · exact clean.success run inside
          · rw [List.mem_singleton.mp inside]
            exact success
      · cases same
        exact .inr ⟨word, .leaving code clean (last.imp_right fun last => ⟨ended, last⟩)⟩
  | succeeded clean =>
    cases step
    exact .inl ⟨rfl, rfl, sent.symm, sent ▸ clean⟩
  | leaving code clean last =>
    cases step
    exact .inr ⟨word, .gone code clean last⟩
  | gone code clean last => cases step

theorem Outstanding.server {before after : Handover} {command : Bytes}
    (outstanding : Outstanding command before) {commandLog : Option Path}
    (step : ServerStep before commandLog before.server after) : Outstanding command after := by
  have framed := step.framed
  have same : after.succeeded = before.succeeded := by
    rw [succeeded, framed.returned]
    rfl
  refine ⟨?_, ?_⟩
  · rw [framed.sent, same]
    exact outstanding.sent
  · rw [same]
    rcases outstanding.either with quiet | pending
    · exact (quiet.no_server step).elim
    · exact pending.server outstanding.sent step

theorem Phase.server {before after : Handover} (phase : Phase before before.caller)
    {commandLog : Option Path} (step : ServerStep before commandLog before.server after) :
    Phase after before.caller := by
  have framed := step.framed
  generalize before.caller = caller at phase
  have nothing {P : Prop} (settled : Settled before) : P := (settled.quiet.no_server step).elim
  have between (between : Between before) : Between after := by
    rcases between with settled | ⟨dead, command, outstanding⟩
    · exact nothing settled
    · exact .inr ⟨framed.coordinator ▸ dead, command, outstanding.server step⟩
  cases phase with
  | idle held => exact .idle (between held)
  | refused call command failure unbuilt held =>
    rw [← framed.coordinator]
    exact .refused call command failure unbuilt (between held)
  | looking call command clean settled => exact nothing settled
  | filling call command clean settled => exact nothing settled
  | copying call command clean settled => exact nothing settled
  | posting call command settled => exact nothing settled
  | awaiting call command outstanding =>
    rw [← framed.coordinator]
    exact .awaiting call command (outstanding.server step)
  | probing call command attempts outstanding =>
    rw [← framed.coordinator]
    exact .probing call command attempts (outstanding.server step)
  | watching call command attempts outstanding =>
    rw [← framed.coordinator]
    exact .watching call command attempts (outstanding.server step)
  | concluding call command verdict ended =>
    rw [← framed.coordinator]
    refine .concluding call command verdict ?_
    cases verdict with
    | acknowledged => exact (ended.2.no_server step).elim
    | left code =>
      obtain ⟨_, code, gone⟩ := ended
      rw [gone] at step
      cases step
    | exhausted exhausted => exact Outstanding.server ended step

theorem inv_server {before after : Handover} (inv : Inv before) {commandLog : Option Path}
    (step : ServerStep before commandLog before.server after) : Inv after := by
  have framed := step.framed
  refine ⟨?_, fun call inside build command code fails => ?_⟩
  · rw [framed.caller]
    exact inv.phase.server step
  · rw [framed.returned] at inside
    obtain ⟨code, gone⟩ := (inv.built call inside build command code fails).gone
    rw [gone] at step
    cases step

/-! ### Steps of the coordinator -/

/-- A call is never refused with a build failure. -/
theorem refusal?_ne_build {coordinator : Coordinator} {command : Bytes} {failure : Failure}
    (refused : coordinator.refusal? command = some failure) (step : KernelCache.Step)
    (asked : Bytes) (code : ExitCode) : failure ≠ .build step asked code := by
  rintro rfl
  obtain same | ⟨_, -, same⟩ := Coordinator.failure_of_refusal? refused
  · cases same
  · cases same

/-- A call that is not refused is by a coordinator that lives, and its command has no NUL. -/
theorem refusal?_eq_none {coordinator : Coordinator} {command : Bytes}
    (accepted : coordinator.refusal? command = none) :
    coordinator.dead = false ∧ 0 ∉ command := by
  unfold Coordinator.refusal? Coordinator.unfit? at accepted
  split at accepted
  · cases accepted
  · rename_i lives
    split at accepted
    · split at accepted
      · rename_i fits
        exact ⟨Bool.eq_false_iff.mpr lives, ((Channel.fits_eq_ok_iff _ _).mp fits).1⟩
      · cases accepted
    · cases accepted

variable {before : Handover} {command : Bytes}

/-- The state of the channel does not depend on where the coordinator stands. -/
theorem Quiet.aside (quiet : Quiet before) (coordinator : Coordinator) (caller : Caller)
    (returned : List Returned) : Quiet { before with coordinator, caller, returned } :=
  ⟨quiet.word, quiet.server, quiet.taken, quiet.ran⟩

theorem Pending.aside {earlier : List Bytes} (pending : Pending earlier command before)
    (coordinator : Coordinator) (caller : Caller) (returned : List Returned) :
    Pending earlier command { before with coordinator, caller, returned } :=
  ⟨pending.word, pending.stage⟩

theorem Settled.moved (settled : Settled before) (caller : Caller) :
    Settled { before with caller } :=
  ⟨settled.sent, settled.quiet.aside _ caller _⟩

/-- While all is settled the coordinator may write. -/
theorem Settled.written (settled : Settled before) (caller : Caller) {channel : Channel}
    (word : channel.word = before.channel.word) : Settled { before with channel, caller } :=
  ⟨settled.sent, word.trans settled.quiet.word, settled.quiet.server, settled.quiet.taken,
    settled.quiet.ran⟩

theorem Outstanding.moved (outstanding : Outstanding command before) (caller : Caller) :
    Outstanding command { before with caller } :=
  ⟨outstanding.sent, outstanding.either.imp (·.aside _ caller _) (·.aside _ caller _)⟩

theorem Between.moved (between : Between before) (caller : Caller) :
    Between { before with caller } :=
  between.imp (·.moved caller) fun ⟨dead, command, outstanding⟩ =>
    ⟨dead, command, outstanding.moved caller⟩

/-- **The store of the word hands the buffer over.** -/
theorem Settled.posted (settled : Settled before) (whole : before.channel.command = command)
    (caller : Caller) :
    Outstanding command { before with
      channel := before.channel.store Channel.callWord
      sent := before.sent ++ [command]
      caller } := by
  have quiet := settled.quiet
  refine ⟨congrArg (· ++ [command]) settled.sent, .inr ⟨rfl, ?_⟩⟩
  show Stage before.succeeded command (before.channel.store Channel.callWord) before.server
    before.taken before.ran
  rw [quiet.server, quiet.taken, settled.sent]
  exact .polling whole (settled.sent ▸ quiet.ran)

/-- A wait that sees the word ready sees the command done. -/
theorem Outstanding.quiet_of_isReady (outstanding : Outstanding command before)
    (ready : before.channel.isReady = true) : Quiet before := by
  rcases outstanding.either with quiet | pending
  · exact quiet
  · rw [Channel.isReady, Channel.state, pending.word] at ready
    exact absurd ready (by decide)

/-- The handover after a call has returned. -/
def finished (before : Handover) (call : Returned) (coordinator : Coordinator) : Handover :=
  { before with coordinator, caller := .idle, returned := before.returned ++ [call] }

theorem succeeded_finished (call : Returned) (coordinator : Coordinator) :
    (before.finished call coordinator).succeeded =
      if failed call.outcome then before.succeeded else before.succeeded ++ [call.command] := by
  show ((before.returned ++ [call]).filter _).map _ = _
  rw [List.filter_append, List.map_append]
  cases fails : failed call.outcome with
  | true => simp [fails, succeeded]
  | false => simp [fails, succeeded]

theorem Settled.failed (settled : Settled before) {call : Returned}
    (fails : failed call.outcome = true) (coordinator : Coordinator) :
    Settled (before.finished call coordinator) := by
  refine ⟨?_, settled.quiet.aside _ _ _⟩
  rw [succeeded_finished, if_pos fails]
  exact settled.sent

theorem Outstanding.failed (outstanding : Outstanding command before) {call : Returned}
    (fails : failed call.outcome = true) (coordinator : Coordinator) :
    Outstanding command (before.finished call coordinator) := by
  refine ⟨?_, ?_⟩
  · rw [succeeded_finished, if_pos fails]
    exact outstanding.sent
  · rw [succeeded_finished, if_pos fails]
    exact outstanding.either.imp (·.aside _ _ _) (·.aside _ _ _)

/-- **A wait that is acknowledged settles the call**; any other end of it is the end of the
coordinator, who has one command outstanding. -/
theorem between_concluded {step : KernelCache.Step} {verdict : Verdict}
    (ended : Ended command before verdict) :
    Between (before.finished
      ⟨step, command, Coordinator.outcomeOf (.build step command) verdict⟩
      (before.coordinator.afterSend.afterWait verdict)) := by
  cases verdict with
  | acknowledged =>
    obtain ⟨sent, quiet⟩ := ended
    refine .inl ⟨?_, quiet.aside _ _ _⟩
    rw [succeeded_finished]
    exact sent
  | left code => exact .inr ⟨Bool.or_true _, command, ended.1.failed rfl _⟩
  | exhausted exhausted => exact .inr ⟨Bool.or_true _, command, Outstanding.failed ended rfl _⟩

theorem Phase.caller {after : Handover} {caller : Caller} (phase : Phase before caller)
    (step : CallerStep before caller after) : Phase after after.caller := by
  cases phase with
  | idle between =>
    cases step with
    | begin call command =>
      show Phase _ (.busy call command (.asking _))
      rw [Coordinator.run_call]
      cases refused : before.coordinator.refusal? command with
      | some failure =>
        exact .refused call command failure (refusal?_ne_build refused) (between.moved _)
      | none =>
        obtain ⟨lives, clean⟩ := refusal?_eq_none refused
        rcases between with settled | ⟨dead, _⟩
        · exact .looking call command clean (settled.moved _)
        · rw [lives] at dead
          cases dead
  | refused call command failure unbuilt between =>
    cases step
    exact .idle (between.imp (fun settled => settled.failed rfl _) fun ⟨dead, last, outstanding⟩ =>
      ⟨dead, last, outstanding.failed rfl _⟩)
  | looking call command clean settled =>
    unfold Coordinator.looking at step
    cases step
    dsimp only
    rw [if_pos settled.quiet.word]
    exact .filling call command clean (settled.moved _)
  | filling call command clean settled =>
    unfold Coordinator.filling at step
    cases step
    have untouched := (Channel.copied_nil before.channel).symm
    exact .copying call command clean (settled.moved _) before.channel [] _ rfl untouched
  | copying call command clean settled base front octets split partly =>
    cases step with
    | copy _ _ octet octets =>
      have length : front.length + 1 = (front ++ [octet]).length := by simp
      have wrote : before.channel.putOctet front.length octet = base.copied (front ++ [octet]) := by
        rw [partly, Channel.putOctet_copied]
      have kept : (before.channel.putOctet front.length octet).word = before.channel.word := rfl
      dsimp only
      rw [length]
      refine .copying call command clean (settled.written _ kept) base (front ++ [octet]) octets ?_
        wrote
      rw [← split, List.append_assoc]
      rfl
    | copied =>
      rw [List.append_nil] at split
      refine .posting call command (settled.moved _) ?_
      show before.channel.command = command
      rw [partly, split, Channel.copied_terminated, Channel.command_putCommand base clean]
  | posting call command settled whole =>
    unfold Coordinator.posting at step
    cases step
    exact .awaiting call command (settled.posted whole _)
  | awaiting call command outstanding =>
    unfold Coordinator.awaiting at step
    cases step
    exact .probing call command 0 (outstanding.moved _)
  | probing call command attempts outstanding =>
    cases step with
    | acknowledged _ _ _ _ _ ready =>
      have quiet := outstanding.quiet_of_isReady ready
      exact .concluding call command .acknowledged ⟨outstanding.sent, quiet.aside _ _ _⟩
    | unready => exact .watching call command attempts (outstanding.moved _)
  | watching call command attempts outstanding =>
    cases step with
    | left _ _ _ _ _ code gone =>
      exact .concluding call command (.left (some code)) ⟨outstanding.moved _, code, gone⟩
    | again _ _ _ _ later => exact .probing call command later (outstanding.moved _)
    | exhausted _ _ _ _ _ exhausted =>
      exact .concluding call command (.exhausted exhausted) (outstanding.moved _)
  | concluding call command verdict ended =>
    unfold Coordinator.concluding at step
    cases step
    exact .idle (between_concluded ended)

/-- The coordinator's steps leave the worker and what it took alone. -/
theorem CallerStep.framed {after : Handover} {caller : Caller}
    (step : CallerStep before caller after) :
    after.server = before.server ∧ after.taken = before.taken := by
  cases step <;> exact ⟨rfl, rfl⟩

/-- A worker that has left took the outstanding command last. -/
theorem Outstanding.last (outstanding : Outstanding command before) {code : Nat}
    (gone : before.server = .gone code) : before.taken.getLast? = some command := by
  rcases outstanding.either with quiet | pending
  · cases quiet.server.symm.trans gone
  · have stage := pending.stage
    rw [gone] at stage
    generalize before.taken = taken at stage ⊢
    generalize before.ran = ran at stage
    cases stage
    exact List.getLast?_concat

/-- A call returns a build failure only when the worker has left, with its command as the last one.
-/
theorem Phase.built {call : Returned} {coordinator : Coordinator}
    (phase : Phase before
      (.busy call.step call.command (.asking (.done (call.outcome, coordinator)))))
    {step : KernelCache.Step} {asked : Bytes} {code : ExitCode}
    (fails : call.outcome = .error (.build step asked code)) :
    Built before call step asked := by
  rcases call with ⟨own, command, outcome⟩
  generalize here : Caller.busy own command (.asking (.done (outcome, coordinator))) = caller
    at phase
  cases phase with
  | idle => cases here
  | refused _ _ failure unbuilt =>
    cases here
    cases fails
    exact absurd rfl (unbuilt step asked code)
  | looking => unfold Coordinator.looking at here; cases here
  | filling => unfold Coordinator.filling at here; cases here
  | copying => cases here
  | posting => unfold Coordinator.posting at here; cases here
  | awaiting => unfold Coordinator.awaiting at here; cases here
  | probing => cases here
  | watching => cases here
  | concluding _ _ verdict ended =>
    unfold Coordinator.concluding at here
    cases here
    cases verdict with
    | acknowledged => cases fails
    | left code =>
      cases fails
      obtain ⟨outstanding, code, gone⟩ := ended
      exact ⟨rfl, rfl, outstanding.last gone, code, gone⟩
    | exhausted exhausted => cases fails

theorem CallerStep.returned {after : Handover} {caller : Caller}
    (step : CallerStep before caller after) :
    after.returned = before.returned ∨
      ∃ (call : Returned) (coordinator : Coordinator),
        caller = .busy call.step call.command (.asking (.done (call.outcome, coordinator))) ∧
        after.returned = before.returned ++ [call] := by
  cases step with
  | finish step command outcome coordinator =>
    exact .inr ⟨⟨step, command, outcome⟩, coordinator, rfl, rfl⟩
  | _ => exact .inl rfl

theorem inv_caller {after : Handover} (inv : Inv before)
    (step : CallerStep before before.caller after) : Inv after := by
  obtain ⟨server, taken⟩ := step.framed
  refine ⟨inv.phase.caller step, fun call inside build command code fails => ?_⟩
  have built : Built before call build command := by
    rcases step.returned with same | ⟨returned, coordinator, here, more⟩
    · rw [same] at inside
      exact inv.built call inside build command code fails
    · rw [more] at inside
      rcases List.mem_append.mp inside with inside | inside
      · exact inv.built call inside build command code fails
      · obtain rfl := List.mem_singleton.mp inside
        have phase := inv.phase
        rw [here] at phase
        exact phase.built fails
  exact ⟨built.step, built.command, taken ▸ built.last, server ▸ built.gone⟩

/-- **Every step keeps the invariant.** -/
theorem inv_step {commandLog : Option Path} {after : Handover} (inv : Inv before)
    (step : Step commandLog before after) : Inv after := by
  cases step with
  | caller step => exact inv_caller inv step
  | server step => exact inv_server inv step

theorem inv_run {commandLog : Option Path} {coordinator : Coordinator} {written : Bytes}
    {reached : Handover} (run : Run commandLog (start coordinator written) reached) :
    Inv reached := by
  induction run with
  | refl => exact inv_start coordinator written
  | tail _ last ih => exact inv_step ih last

/-! ### What the invariant says -/

/-- Commands are handed over exactly once, in order, and as they were sent. -/
structure Exact (handover : Handover) : Prop where
  /-- The worker took what was sent, in order, and misses at most the last command. -/
  taken : handover.taken <+: handover.sent
  behind : handover.sent.length ≤ handover.taken.length + 1
  /-- It ran what it took, in order. -/
  ran : handover.ran.map Prod.fst <+: handover.taken
  /-- The calls that succeeded are the first ones that were sent, all but the last one at most. -/
  sent : handover.succeeded <+: handover.sent
  unanswered : handover.sent.length ≤ handover.succeeded.length + 1
  /-- Each of them had its command run to success, and at most one more command was run. -/
  succeeded : ∃ runs later, handover.ran = runs ++ later ∧ later.length ≤ 1 ∧
    runs.map Prod.fst = handover.succeeded ∧ ∀ run ∈ runs, Worker.exitCode run.2 = 0
  /-- A call that returned a build failure returned its own, and its command was the last one taken.
  -/
  build : ∀ call ∈ handover.returned, ∀ step command code,
    call.outcome = .error (.build step command code) →
      step = call.step ∧ command = call.command ∧ handover.taken.getLast? = some call.command

/-- What a worker took and ran of the commands that were sent, when it ran earlier ones to success.
-/
structure Progress (earlier sent taken : List Bytes) (ran : List (Bytes × ShellEnd)) : Prop where
  order : taken <+: sent
  behind : sent.length ≤ taken.length + 1
  runs : ran.map Prod.fst <+: taken
  first : ∃ runs later, ran = runs ++ later ∧ later.length ≤ 1 ∧
    runs.map Prod.fst = earlier ∧ ∀ run ∈ runs, Worker.exitCode run.2 = 0

theorem Clean.progress {commands : List Bytes} {ran : List (Bytes × ShellEnd)}
    (clean : Clean commands ran) : Progress commands commands commands ran where
  order := List.prefix_rfl
  behind := Nat.le_succ _
  runs := clean.commands ▸ List.prefix_rfl
  first := ⟨ran, [], (List.append_nil ran).symm, Nat.zero_le 1, clean.commands, clean.success⟩

/-- One more command was run to success. -/
theorem Clean.progress_last {earlier : List Bytes} {ran : List (Bytes × ShellEnd)}
    (clean : Clean (earlier ++ [command]) ran) :
    Progress earlier (earlier ++ [command]) (earlier ++ [command]) ran := by
  refine { clean.progress with first := ?_ }
  obtain ⟨runs, later, rfl, first, second⟩ := List.map_eq_append_iff.mp clean.commands
  have single : later.length = 1 := by
    have length := congrArg List.length second
    rwa [List.length_map] at length
  exact ⟨runs, later, rfl, single.le, first,
    fun run inside => clean.success run (List.mem_append_left later inside)⟩

/-- One more command was taken, and perhaps run. -/
theorem Clean.progress_left {earlier : List Bytes} {runs later : List (Bytes × ShellEnd)}
    (clean : Clean earlier runs) (last : later = [] ∨ ∃ ended, later = [(command, ended)]) :
    Progress earlier (earlier ++ [command]) (earlier ++ [command]) (runs ++ later) where
  order := List.prefix_rfl
  behind := Nat.le_succ _
  runs := by
    rw [List.map_append, clean.commands]
    rcases last with rfl | ⟨ended, rfl⟩
    · exact List.prefix_append_right_inj earlier |>.mpr List.nil_prefix
    · exact List.prefix_rfl
  first := by
    refine ⟨runs, later, rfl, ?_, clean.commands, clean.success⟩
    rcases last with rfl | ⟨ended, rfl⟩
    · exact Nat.zero_le 1
    · exact le_rfl

theorem Stage.progress {earlier taken : List Bytes} {channel : Channel} {server : Server}
    {ran : List (Bytes × ShellEnd)} (stage : Stage earlier command channel server taken ran) :
    Progress earlier (earlier ++ [command]) taken ran := by
  have waiting {ran : List (Bytes × ShellEnd)} (clean : Clean earlier ran) :
      Progress earlier (earlier ++ [command]) earlier ran :=
    { clean.progress with order := List.prefix_append _ _, behind := by simp }
  cases stage with
  | polling whole clean => exact waiting clean
  | fetching whole clean => exact waiting clean
  | serving clean =>
    have left : Progress earlier (earlier ++ [command]) (earlier ++ [command]) (ran ++ []) :=
      clean.progress_left (.inl rfl)
    rwa [List.append_nil] at left
  | succeeded clean => exact clean.progress_last
  | leaving code clean last => exact clean.progress_left last
  | gone code clean last => exact clean.progress_left last

theorem Settled.progress (settled : Settled before) :
    Progress before.succeeded before.sent before.taken before.ran := by
  rw [settled.quiet.taken, settled.sent]
  exact (settled.sent ▸ settled.quiet.ran : Clean before.succeeded before.ran).progress

theorem Outstanding.progress (outstanding : Outstanding command before) :
    Progress before.succeeded before.sent before.taken before.ran := by
  rcases outstanding.either with quiet | pending
  · rw [quiet.taken, outstanding.sent]
    exact (outstanding.sent ▸ quiet.ran : Clean (before.succeeded ++ [command]) _).progress_last
  · rw [outstanding.sent]
    exact pending.stage.progress

/-- At every place all is settled, or one command is outstanding. -/
theorem Phase.either {caller : Caller} (phase : Phase before caller) :
    Settled before ∨ ∃ command, Outstanding command before := by
  cases phase with
  | idle between => exact between.imp_right And.right
  | refused _ _ _ _ between => exact between.imp_right And.right
  | looking _ _ _ settled => exact .inl settled
  | filling _ _ _ settled => exact .inl settled
  | copying _ _ _ settled => exact .inl settled
  | posting _ _ settled => exact .inl settled
  | awaiting _ command outstanding => exact .inr ⟨command, outstanding⟩
  | probing _ command _ outstanding => exact .inr ⟨command, outstanding⟩
  | watching _ command _ outstanding => exact .inr ⟨command, outstanding⟩
  | concluding _ command verdict ended =>
    refine .inr ⟨command, ?_⟩
    cases verdict with
    | acknowledged => exact ⟨ended.1, .inl ended.2⟩
    | left code => exact ended.1
    | exhausted exhausted => exact ended

theorem Inv.exact (inv : Inv before) : Exact before := by
  have build : ∀ call ∈ before.returned, ∀ step command code,
      call.outcome = .error (.build step command code) →
        step = call.step ∧ command = call.command ∧ before.taken.getLast? = some call.command := by
    intro call inside step command code fails
    have built := inv.built call inside step command code fails
    exact ⟨built.step, built.command, built.last⟩
  rcases inv.phase.either with settled | ⟨command, outstanding⟩
  · have progress := settled.progress
    refine ⟨progress.order, progress.behind, progress.runs, ?_, ?_, progress.first, build⟩
    · exact settled.sent ▸ List.prefix_rfl
    · exact settled.sent ▸ Nat.le_succ _
  · have progress := outstanding.progress
    refine ⟨progress.order, progress.behind, progress.runs, ?_, ?_, progress.first, build⟩
    · rw [outstanding.sent]
      exact List.prefix_append _ _
    · rw [outstanding.sent, List.length_append]
      exact le_rfl

/-- **Calls are exact.** A coordinator makes any calls over a channel that is ready, whatever its
buffer holds, and a worker serves them, in whatever order the two go on: in every state that they
reach, the commands were taken and run as they were sent, once and in order. -/
theorem calls_exact (commandLog : Option Path) (coordinator : Coordinator) (written : Bytes)
    (reached : Handover) (run : Run commandLog (start coordinator written) reached) :
    Exact reached :=
  (inv_run run).exact

/-- One call from its beginning to its return, with the worker in between. -/
theorem calls_exact_single :
    let coordinator : Coordinator := { policy := .every 0, capacity := 2 }
    ∃ reached : Handover, Run none (start coordinator [0x62, 0x63]) reached ∧
      reached.sent = [[0x61]] ∧ reached.succeeded = [[0x61]] ∧ Exact reached := by
  intro coordinator
  have begun : Run none (start coordinator [0x62, 0x63]) _ :=
    .single (.caller (.begin .compile [0x61]))
  have looked := begun.tail (.caller (.look .compile [0x61] _))
  have filled := looked.tail (.caller (.fill .compile [0x61] [0x61] _))
  have first := filled.tail (.caller (.copy .compile [0x61] 0x61 [0] 0 _))
  have second := first.tail (.caller (.copy .compile [0x61] 0 [] 1 _))
  have copied := second.tail (.caller (.copied .compile [0x61] 2 _))
  have posted := copied.tail (.caller (.post .compile [0x61] Channel.callWord _))
  have awaited := posted.tail (.caller (.await .compile [0x61] (.every 0) _))
  have found := awaited.tail (.server (.call rfl))
  have fetched := found.tail (.server .fetch)
  have served := fetched.tail (.server (.serve (.call [0x61]) true (.left 0) .acknowledge
    [([0x61], .left 0)] rfl))
  have settled := served.tail (.server (.settle .acknowledge))
  have seen := settled.tail (.caller (.acknowledged .compile [0x61] (.every 0) 0 _ rfl))
  have run := seen.tail (.caller (.finish .compile [0x61] (.ok ()) _))
  exact ⟨_, run, rfl, rfl, calls_exact none coordinator [0x62, 0x63] _ run⟩

end Handover

end KernelCache
