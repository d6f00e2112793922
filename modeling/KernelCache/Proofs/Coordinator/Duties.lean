import KernelCache.Proofs.Channel.Ownership
import KernelCache.Proofs.Coordinator.Handshake
import KernelCache.Proofs.Session.Line

/-
**A coordinator from duty to duty.**

A coordinator is told ranks, and asked to check and to run commands, in any order, while its worker
goes on at any time. What links its state to the channel holds between two duties.

* `Duty` is what a coordinator can be told, `Desk` the coordinator with its company and a record of
  all that was asked and answered.
* `Desk.Performed`: what one duty leads to. `Desk.Performs.performed`: nothing else does it.
* `Desk.Attends`: the duties of one coordinator. `Desk.Attends.sound`: what holds between them.
* **`Desk.Attends.state_machine`**: a coordinator that lives finds its worker idle; one that has
  waited in vain, or has let its worker go, refuses everything; commands that are refused change
  nothing; and the commands are counted.
-/

namespace KernelCache

open KernelCache.Action

/-! ### What is asked -/

namespace Event

/-- A command is published. -/
def publishes (event : Event) : Bool :=
  event.effect = .post Channel.callWord

/-- A wait has ended without an acknowledgement. -/
def lost : Event → Bool
  | ⟨.await _, .left _⟩ | ⟨.await _, .exhausted _⟩ => true
  | _ => false

end Event

/-- The question neither publishes a command nor waits. -/
def Effect.IsQuiet : Effect → Prop
  | .post word => word ≠ Channel.callWord
  | .await _ => False
  | _ => True

namespace Event

variable {event : Event}

theorem publishes_of_isQuiet (quiet : event.effect.IsQuiet) : event.publishes = false := by
  refine decide_eq_false fun same => ?_
  rw [same] at quiet
  exact quiet rfl

theorem lost_of_isQuiet (quiet : event.effect.IsQuiet) : event.lost = false := by
  obtain ⟨effect, reply⟩ := event
  cases effect with
  | await policy => exact quiet.elim
  | _ => rfl

/-- At most one command was published. -/
theorem countP_publishes {asked : List Event} (most : asked.countP publishes ≤ 1) :
    asked.countP publishes = if asked.any publishes then 1 else 0 := by
  by_cases any : asked.any publishes = true
  · obtain ⟨event, inside, published⟩ := List.any_eq_true.mp any
    have least := List.countP_pos_iff.mpr ⟨event, inside, published⟩
    rw [if_pos any]
    exact le_antisymm most least
  · rw [if_neg any]
    exact List.countP_eq_zero.mpr (List.any_eq_false.mp (Bool.eq_false_iff.mpr any))

end Event

namespace Company

/-- The answers of a company, with a record of all that was asked. Any question may be asked. -/
def recorded : Contract (Company × List Event) where
  asks _ _ := True
  answers before effect reply after :=
    Answers before.1 effect reply after.1 ∧ after.2 = before.2 ++ [⟨effect, reply⟩]

/-- A question to a company is put on record. -/
theorem fulfils_recorded {α : Type} {effect : Effect} {next : effect.Reply → Action α}
    {post : α → Company × List Event → Prop} {company : Company} {asked : List Event}
    (rest : ∀ reply later, Answers company effect reply later →
      (next reply).Fulfils recorded post (later, asked ++ [⟨effect, reply⟩])) :
    (Action.ask effect next).Fulfils recorded post (company, asked) := by
  refine ⟨trivial, ?_⟩
  rintro reply ⟨later, log⟩ ⟨answered, same⟩
  obtain rfl : log = _ := same
  exact rest reply later answered

end Company

namespace Coordinator

open Company

variable {coordinator after : Coordinator} {asked : List Event} {company : Company}

/-- What was asked is counted, and a wait that was in vain is the end. -/
structure Booked (coordinator after : Coordinator) (fresh : List Event) : Prop where
  sent : after.sent = coordinator.sent + fresh.countP Event.publishes
  dead : after.dead = (coordinator.dead || fresh.any Event.lost)

theorem booked_nil (coordinator : Coordinator) : Booked coordinator coordinator [] :=
  ⟨rfl, (Bool.or_false _).symm⟩

theorem Booked.append {between : Coordinator} {front back : List Event}
    (first : Booked coordinator between front) (second : Booked between after back) :
    Booked coordinator after (front ++ back) where
  sent := by rw [second.sent, first.sent, List.countP_append, Nat.add_assoc]
  dead := by rw [second.dead, first.dead, List.any_append, Bool.or_assoc]

theorem unpublished_of_quiet {fresh : List Event} (quiet : ∀ event ∈ fresh, event.effect.IsQuiet) :
    fresh.countP Event.publishes = 0 :=
  List.countP_eq_zero.mpr fun event inside =>
    Bool.eq_false_iff.mp (Event.publishes_of_isQuiet (quiet event inside))

/-- Quiet questions change neither. -/
theorem booked_of_quiet {fresh : List Event} (quiet : ∀ event ∈ fresh, event.effect.IsQuiet)
    (sent : after.sent = coordinator.sent) (dead : after.dead = coordinator.dead) :
    Booked coordinator after fresh := by
  have none := unpublished_of_quiet quiet
  have any : fresh.any Event.lost = false := List.any_eq_false.mpr fun event inside =>
    Bool.eq_false_iff.mp (Event.lost_of_isQuiet (quiet event inside))
  exact ⟨by rw [sent, none]; rfl, by rw [dead, any, Bool.or_false]⟩

/-- A coordinator that lives has waited for an acknowledgement. -/
theorem acknowledged_of_alive {verdict : Verdict}
    (alive : (coordinator.afterWait verdict).dead = false) : verdict = .acknowledged :=
  bne_eq_false_iff_eq.mp (Bool.or_eq_false_iff.mp alive).2

theorem booked_wait (coordinator : Coordinator) (policy : PollPolicy) (verdict : Verdict) :
    Booked coordinator (coordinator.afterWait verdict) [⟨.await policy, verdict⟩] := by
  cases verdict with
  | acknowledged => exact ⟨rfl, rfl⟩
  | left code => exact ⟨rfl, rfl⟩
  | exhausted exhausted => exact ⟨rfl, rfl⟩

theorem booked_publish (coordinator : Coordinator) (reply : Unit) :
    Booked coordinator coordinator.afterSend [⟨.post Channel.callWord, reply⟩] :=
  ⟨by simp [afterSend, Event.publishes], by simp [afterSend, Event.lost]⟩

/-- A teardown asks quiet questions, and leaves the coordinator without its channel. -/
theorem quiet_teardown (attached : coordinator.attached = true) :
    (teardown.run.run coordinator).Fulfils (.only Effect.IsQuiet)
      (fun result _ => result.2 = coordinator.detached) () := by
  have other : Channel.exitWord ≠ Channel.callWord := by decide
  have joins : coordinator.detached.joining.Fulfils (.only Effect.IsQuiet)
      (fun result _ => result.2 = coordinator.detached) () :=
    ⟨trivial, fun _ _ _ => rfl⟩
  have stops : (stopWorker.run.run coordinator.detached).Fulfils (.only Effect.IsQuiet)
      (fun result _ => result.2 = coordinator.detached) () := by
    rw [run_stopWorker]
    refine ⟨trivial, fun found _ _ => ?_⟩
    rcases found with fault | _ | code
    · exact rfl
    · refine ⟨trivial, fun (word : UInt32) _ _ => ?_⟩
      beta_reduce
      split
      · refine ⟨trivial, fun (word : UInt32) _ _ => ?_⟩
        beta_reduce
        split
        · exact ⟨other, fun _ _ _ => joins⟩
        · exact rfl
      · exact ⟨trivial, fun _ _ _ => joins⟩
    · exact rfl
  rw [run_teardown, if_pos attached]
  refine stops.bind fun result _ same => ⟨trivial, fun released _ _ => ?_⟩
  cases released with
  | ok value => exact same
  | error fault => exact same

end Coordinator

/-- What quiet questions lead to, with a record of them. -/
theorem Action.Fulfils.quietly {α : Type} {post : α → Prop} {action : Action α}
    (quiet : action.Fulfils (.only Effect.IsQuiet) (fun value _ => post value) ())
    (start : Company × List Event) :
    action.Fulfils Company.recorded (fun value last => post value ∧ ∃ fresh,
      last.2 = start.2 ++ fresh ∧ ∀ event ∈ fresh, event.effect.IsQuiet) start := by
  induction action generalizing start with
  | done value => exact ⟨quiet, [], (List.append_nil _).symm, nofun⟩
  | ask effect next ih =>
    refine ⟨trivial, fun reply later answered => ?_⟩
    refine (ih reply (quiet.2 reply () trivial) later).mono ?_
    rintro value last ⟨holds, fresh, asked, rest⟩
    refine ⟨holds, ⟨effect, reply⟩ :: fresh, ?_, List.forall_mem_cons.mpr ⟨quiet.1, rest⟩⟩
    rw [asked, answered.2, List.append_assoc]
    rfl

namespace Company

variable {company before after : Company}

/-- Where a worker stands that has a command to run. -/
inductive Working : Hand → Prop where
  | polling : Working .polling
  | serving (command : Bytes) : Working (.serving (.call command))
  | acknowledging : Working (.settling .acknowledge)
  | failing (code : Nat) : Working (.settling (.leave false code))
  | leaving (code : ExitCode) : Working (.leaving code)
  | gone (code : ExitCode) : Working (.gone code)

/-- How far the worker is with a command: it is done with it, or has not acknowledged it. -/
inductive Occupied (company : Company) : Prop where
  | done (idle : company.Idle)
  | busy {hand : Hand} (word : company.channel.word = Channel.callWord)
      (worker : company.worker = some hand) (working : Working hand)

/-- **The worker acknowledges a command and waits, or does not acknowledge it and leaves.** -/
theorem Occupied.step (occupied : before.Occupied) (step : Step before after) : after.Occupied := by
  cases occupied with
  | done idle => exact (idle.no_step step).elim
  | @busy hand word worker working =>
    cases step with
    | @read request free pending =>
      have call : before.channel.state = .call := by rw [Channel.state, word]; decide
      rw [Channel.poll, call] at pending
      cases pending
      exact .busy word rfl (.serving _)
    | @serve request logged ended reaction ran serving reacted =>
      rw [worker] at serving
      cases serving
      cases working with
      | serving command =>
        have reacts := Worker.react_call before.commandLog logged ended command []
        simp only [reacted] at reacts
        rcases reacts with ⟨same, -⟩ | ⟨code, later, same, -⟩
        · cases same
          exact .busy word rfl .acknowledging
        · cases same
          exact .busy word rfl (.failing code)
    | @settle reaction served =>
      rw [worker] at served
      cases served
      cases working with
      | acknowledging => exact .done ⟨rfl, rfl⟩
      | failing code => exact .busy word rfl (.leaving _)
    | @leave code about => exact .busy word rfl (.gone code)

/-- A worker that has acknowledged its command waits. -/
theorem Occupied.idle (occupied : company.Occupied) (ready : company.channel.isReady = true) :
    company.Idle := by
  cases occupied with
  | done idle => exact idle
  | busy word =>
    rw [isReady_iff, word] at ready
    exact absurd ready (by decide)

/-- A worker that has acknowledged that its rank is zero waits. -/
theorem Greeted.idle {rank : UInt32} (greeted : company.Greeted rank) (zero : rank = 0)
    (ready : company.channel.isReady = true) : company.Idle := by
  cases greeted.met ready with
  | stays _ idle => exact idle
  | leaves other => exact absurd zero other

/-- What an idle worker keeps to until the end of a wait. -/
theorem Waits.idle {policy : PollPolicy} {holds : Company → Prop}
    (step : ∀ {before after}, holds before → Step before after → holds after)
    (idle : ∀ {company : Company}, holds company → company.channel.isReady = true → company.Idle)
    {attempts : Nat} (waits : Waits policy attempts before .acknowledged after)
    (start : holds before) : after.Idle := by
  cases waits.ends holds step start with
  | acknowledged kept ready => exact idle kept ready

end Company

/-! ### One duty -/

/-- What a coordinator can be told to do. -/
inductive Duty where
  | handshake (rank : UInt32)
  | check (command : Bytes)
  | call (step : Step) (command : Bytes)
  deriving DecidableEq

/-- Carries out a duty; a handshake says whether the worker stays. -/
def Duty.perform : Duty → CoordinatorM Bool
  | handshake rank => Coordinator.handshake rank
  | check command => do Coordinator.check command; return true
  | call step command => do Coordinator.call step command; return true

/-- A coordinator, the company of its worker, and a record of all that was asked and answered. -/
structure Desk where
  coordinator : Coordinator
  company : Company
  asked : List Event := []

namespace Desk

open Company Coordinator

/-- The channel is there and no wait was in vain, so the worker is idle. -/
def Ready (desk : Desk) : Prop :=
  desk.coordinator.attached = true → desk.coordinator.dead = false → desk.company.Idle

/-- A command was rejected for its text. -/
inductive Rejected : Except Failure Bool → Prop where
  | interiorNul (offset : Nat) : Rejected (.error (.channel (.interiorNul offset)))
  | commandTooLong (length capacity : Nat) :
    Rejected (.error (.channel (.commandTooLong length capacity)))

/-- What a duty leads to. -/
structure Performed (duty : Duty) (before : Desk) (outcome : Except Failure Bool) (after : Desk)
    (fresh : List Event) : Prop where
  asked : after.asked = before.asked ++ fresh
  booked : Booked before.coordinator after.coordinator fresh
  published : fresh.countP Event.publishes ≤ 1
  /-- Only a call publishes a command. -/
  only : (∀ step command, duty ≠ .call step command) → fresh.countP Event.publishes = 0
  ready : before.Ready → after.Ready
  dismissed : ∀ rank value, duty = .handshake rank → rank ≠ 0 → outcome = .ok value →
    after.coordinator.attached = false
  detached : before.coordinator.attached = false → after.coordinator.attached = false
  rejected : (∀ rank, duty ≠ .handshake rank) → Rejected outcome → after = before
  polite : before.Ready → ∀ step command word, duty = .call step command →
    outcome ≠ .error (.channel (.busy word))

variable {duty : Duty} {before : Desk} {outcome : Except Failure Bool} {rank : UInt32}
  {step : KernelCache.Step} {command : Bytes}

theorem Performed.handshake {after : Desk} {fresh : List Event}
    (asked : after.asked = before.asked ++ fresh)
    (booked : Booked before.coordinator after.coordinator fresh)
    (unpublished : fresh.countP Event.publishes = 0) (ready : before.Ready → after.Ready)
    (dismissed : ∀ value, rank ≠ 0 → outcome = .ok value → after.coordinator.attached = false)
    (detached : before.coordinator.attached = false → after.coordinator.attached = false) :
    Performed (.handshake rank) before outcome after fresh where
  asked := asked
  booked := booked
  published := unpublished.le.trans (Nat.zero_le 1)
  only _ := unpublished
  ready := ready
  dismissed := by
    rintro _ value ⟨⟩ other answers
    exact dismissed value other answers
  detached := detached
  rejected others := absurd rfl (others rank)
  polite _ _ _ _ same := nomatch same

theorem Performed.call {after : Desk} {fresh : List Event}
    (asked : after.asked = before.asked ++ fresh)
    (booked : Booked before.coordinator after.coordinator fresh)
    (published : fresh.countP Event.publishes ≤ 1) (ready : before.Ready → after.Ready)
    (detached : before.coordinator.attached = false → after.coordinator.attached = false)
    (taken : ¬ Rejected outcome)
    (polite : before.Ready → ∀ word, outcome ≠ .error (.channel (.busy word))) :
    Performed (.call step command) before outcome after fresh where
  asked := asked
  booked := booked
  published := published
  only others := absurd rfl (others step command)
  ready := ready
  dismissed _ _ same := nomatch same
  detached := detached
  rejected _ rejected := absurd rejected taken
  polite ready _ _ word _ := polite ready word

/-- What the outcome of a duty may be, with what it has asked. -/
def Leads (duty : Duty) (before : Desk) (result : Except Failure Bool × Coordinator)
    (last : Company × List Event) : Prop :=
  ∃ fresh, Performed duty before result.1 ⟨result.2, last.1, last.2⟩ fresh

/-- A duty that asks nothing. -/
theorem leads_still (refused : ∀ rank, duty = .handshake rank → failed outcome = true)
    (free : ∀ word, outcome ≠ .error (.channel (.busy word))) :
    Leads duty before (outcome, before.coordinator) (before.company, before.asked) := by
  refine ⟨[], (List.append_nil _).symm, booked_nil _, Nat.zero_le _, fun _ => rfl, id, ?_, id,
    fun _ _ => rfl, fun _ _ _ word _ => free word⟩
  rintro rank value rfl - rfl
  cases refused rank rfl

/-- Why a command is refused has nothing to do with the status word. -/
theorem ne_busy_of_refusal? {coordinator : Coordinator} {failure : Failure}
    (refused : coordinator.refusal? command = some failure) (word : UInt32) :
    failure ≠ .channel (.busy word) := by
  rintro rfl
  obtain same | ⟨fault, unfit, same⟩ := failure_of_refusal? refused
  · cases same
  · cases same
    unfold Channel.fits at unfit
    split at unfit
    · cases unfit
    · split at unfit
      · cases unfit
      · cases unfit

/-- A call that is not refused is made by a coordinator that lives. -/
theorem alive_of_refusal? {coordinator : Coordinator}
    (taken : coordinator.refusal? command = none) :
    coordinator.attached = true ∧ coordinator.dead = false := by
  unfold refusal? unfit? at taken
  split at taken
  · cases taken
  · rename_i alive
    split at taken
    · rename_i attached
      exact ⟨attached, Bool.eq_false_iff.mpr alive⟩
    · cases taken

/-- The wait of a call, behind quiet questions and the post of the request. -/
theorem fulfils_awaiting {handed : Company} {front : List Event} {posted : Unit}
    (quiet : ∀ event ∈ front, event.effect.IsQuiet) (occupied : before.Ready → Occupied handed) :
    (before.coordinator.awaiting step command).Fulfils recorded (fun result =>
      Leads (.call step command) before (result.1.map fun _ => true, result.2))
      (handed, before.asked ++ front ++ [⟨.post Channel.callWord, posted⟩]) := by
  refine fulfils_recorded ?_
  rintro verdict last waits
  have booked := (booked_of_quiet quiet rfl rfl).append
    ((booked_publish before.coordinator posted).append
      (booked_wait before.coordinator.afterSend before.coordinator.policy verdict))
  refine ⟨_, .call ?_ booked ?_ ?_ id ?_ ?_⟩
  · simp
  · rw [List.countP_append, unpublished_of_quiet quiet]
    rfl
  · intro ready _ living
    obtain rfl : verdict = .acknowledged := acknowledged_of_alive living
    exact Waits.idle Occupied.step Occupied.idle waits (occupied ready)
  · intro rejected
    cases verdict <;> cases rejected
  · intro _ word
    cases verdict <;> exact nofun

theorem fulfils_call (before : Desk) :
    ((Coordinator.call step command).run.run before.coordinator).Fulfils recorded (fun result =>
      Leads (.call step command) before (result.1.map fun _ => true, result.2))
      (before.company, before.asked) := by
  rw [Coordinator.run_call]
  cases refused : before.coordinator.refusal? command with
  | some failure =>
    refine leads_still nofun fun word same => ?_
    exact ne_busy_of_refusal? refused word (Except.error.inj same)
  | none =>
    obtain ⟨attached, alive⟩ := alive_of_refusal? refused
    refine fulfils_recorded ?_
    rintro _ seen ⟨run, rfl⟩
    have idle (ready : before.Ready) : seen.Idle := by
      have idle := ready attached alive
      exact idle.eq_of_run run ▸ idle
    split
    case isFalse busy =>
      have quiet : ∀ event ∈ [Event.mk .look seen.channel.word], event.effect.IsQuiet :=
        List.forall_mem_singleton.mpr trivial
      exact ⟨_, .call rfl (booked_of_quiet quiet rfl rfl)
        ((unpublished_of_quiet quiet).le.trans (Nat.zero_le 1))
        (fun ready => absurd (idle ready).word busy) id nofun
        fun ready => absurd (idle ready).word busy⟩
    refine fulfils_recorded ?_
    rintro filled _ ⟨between, run', rfl⟩
    refine fulfils_recorded ?_
    rintro posted _ ⟨between', run'', rfl⟩
    rw [List.append_assoc before.asked]
    refine fulfils_awaiting (List.forall_mem_cons.mpr ⟨trivial,
      List.forall_mem_singleton.mpr trivial⟩) fun ready => ?_
    -- What the idle worker was handed occupies it.
    have filled : Idle { between with channel := between.channel.putCommand command } := by
      have idle := (idle ready).eq_of_run run' ▸ idle ready
      exact ⟨idle.word, idle.worker⟩
    have handed := filled.eq_of_run run'' ▸ filled
    exact .busy rfl handed.worker .polling

/-- The wait of a handshake, behind quiet questions. -/
theorem fulfils_greeting {told : Company} {front : List Event}
    (attached : before.coordinator.attached = true)
    (quiet : ∀ event ∈ front, event.effect.IsQuiet)
    (greeted : before.Ready → before.coordinator.dead = false → Greeted rank told) :
    (Action.ask (.await before.coordinator.policy) (before.coordinator.greeting rank)).Fulfils
      recorded (Leads (.handshake rank) before) (told, before.asked ++ front) := by
  refine fulfils_recorded ?_
  rintro verdict last waits
  have booked := (booked_of_quiet quiet rfl rfl).append
    (booked_wait before.coordinator before.coordinator.policy verdict)
  have unpublished : (front ++ [Event.mk (.await before.coordinator.policy) verdict]).countP
      Event.publishes = 0 := by
    rw [List.countP_append, unpublished_of_quiet quiet]
    rfl
  rw [List.append_assoc]
  -- A wait in vain is the end of the coordinator.
  have fails (failure : Failure) (vain : verdict ≠ .acknowledged) : Leads (.handshake rank) before
      (.error failure, before.coordinator.afterWait verdict) (last, before.asked ++ _) :=
    ⟨_, .handshake rfl booked unpublished
      (fun _ _ living => absurd (acknowledged_of_alive living) vain) nofun id⟩
  cases verdict with
  | left code => exact fails _ nofun
  | exhausted exhausted => exact fails _ nofun
  | acknowledged =>
    rw [afterWait_acknowledged] at booked
    show Fulfils _ _ (if rank = 0 then _ else _) _
    by_cases zero : rank = 0
    · rw [if_pos zero]
      refine ⟨_, .handshake rfl booked unpublished (fun ready _ alive => ?_)
        (fun _ other => absurd zero other) id⟩
      exact Waits.idle Greeted.step (fun greeted ready => greeted.idle zero ready) waits
        (greeted ready alive)
    · rw [if_neg zero]
      refine Fulfils.bind ((quiet_teardown attached).quietly _) ?_
      rintro ⟨outcome, after⟩ ⟨gone, record⟩ ⟨same, fresh, asked, silent⟩
      obtain rfl : after = _ := same
      obtain rfl : record = _ := asked
      have rest : Booked before.coordinator before.coordinator.detached fresh :=
        booked_of_quiet silent rfl rfl
      have none := List.countP_append.trans
        (congrArg₂ (· + ·) unpublished (unpublished_of_quiet silent))
      exact ⟨_, .handshake (List.append_assoc _ _ _) (booked.append rest) none
        (fun _ attached => nomatch attached) (fun _ _ _ => rfl) fun _ => rfl⟩

theorem fulfils_handshake (before : Desk) :
    ((Coordinator.handshake rank).run.run before.coordinator).Fulfils recorded
      (Leads (.handshake rank) before) (before.company, before.asked) := by
  rw [Coordinator.run_handshake]
  split
  case isFalse => exact leads_still (fun _ _ => rfl) nofun
  rename_i attached
  refine fulfils_recorded ?_
  rintro _ seen ⟨run, rfl⟩
  have idle (ready : before.Ready) (alive : before.coordinator.dead = false) : seen.Idle := by
    have idle := ready attached alive
    exact idle.eq_of_run run ▸ idle
  have looked : ∀ event ∈ [Event.mk .look seen.channel.word], event.effect.IsQuiet :=
    List.forall_mem_singleton.mpr trivial
  -- What is refused after a look leaves the coordinator, and the worker where it is.
  have refuses (fault : ChannelFault) : Leads (.handshake rank) before
      (.error (.channel fault), before.coordinator) (seen, before.asked ++ [⟨.look, _⟩]) :=
    ⟨_, .handshake rfl (booked_of_quiet looked rfl rfl) (unpublished_of_quiet looked)
      (fun ready _ => idle ready) nofun id⟩
  split
  case isFalse busy => exact refuses _
  split
  case isTrue => exact refuses _
  rename_i plain
  have plain : Channel.reserved rank = false := Bool.eq_false_iff.mpr plain
  have other : rank ≠ Channel.callWord := by
    rintro rfl
    exact absurd plain (by decide)
  refine fulfils_recorded ?_
  rintro posted _ ⟨between, run', rfl⟩
  rw [List.append_assoc]
  refine fulfils_greeting attached (List.forall_mem_cons.mpr ⟨trivial,
    List.forall_mem_singleton.mpr other⟩) fun ready alive => ?_
  have idle := (idle ready alive).eq_of_run run' ▸ idle ready alive
  exact idle.greeted plain

/-- **What a duty leads to**, whatever the worker does. -/
theorem fulfils_perform (duty : Duty) (before : Desk) :
    (duty.perform.run.run before.coordinator).Fulfils recorded (Leads duty before)
      (before.company, before.asked) := by
  cases duty with
  | handshake rank => exact fulfils_handshake before
  | check command =>
    rw [Duty.perform, run_bind, run_check]
    cases refused : before.coordinator.unfit? command with
    | none => exact leads_still nofun nofun
    | some failure =>
      refine leads_still nofun fun word same => ?_
      have refused : { before.coordinator with dead := false }.refusal? command = some failure :=
        refused
      exact ne_busy_of_refusal? refused word (Except.error.inj same)
  | call step command =>
    rw [Duty.perform, run_bind]
    refine Fulfils.bind (fulfils_call before) ?_
    rintro ⟨failure | value, after⟩ last leads
    · exact leads
    · exact leads

/-- The duty leads from one desk to another, with an outcome. -/
def Performs (before : Desk) (duty : Duty) (outcome : Except Failure Bool) (after : Desk) :
    Prop :=
  (duty.perform.run.run before.coordinator).Yields recorded (before.company, before.asked)
    (outcome, after.coordinator) (after.company, after.asked)

theorem Performs.performed {after : Desk} (performs : before.Performs duty outcome after) :
    ∃ fresh, Performed duty before outcome after fresh :=
  (fulfils_perform duty before).yields performs

/-! ### Many duties -/

/-- A coordinator that was hired has carried out duties, with these outcomes. Its worker goes on
between them too. -/
inductive Attends (config : Config) : List (Duty × Except Failure Bool) → Desk → Prop where
  | hired {vacant : Company} {desk : Desk}
      (hires : (hire config).run.Yields recorded (vacant, []) (.ok desk.coordinator)
        (desk.company, desk.asked)) : Attends config [] desk
  | work {duties : List (Duty × Except Failure Bool)} {desk : Desk} {company : Company}
      (attends : Attends config duties desk) (run : Run desk.company company) :
      Attends config duties { desk with company }
  | duty {duties : List (Duty × Except Failure Bool)} {desk after : Desk} {duty : Duty}
      {outcome : Except Failure Bool} (attends : Attends config duties desk)
      (performs : desk.Performs duty outcome after) :
      Attends config (duties ++ [(duty, outcome)]) after

/-- A worker was told another rank than zero, and was let go. -/
def LetGo (duties : List (Duty × Except Failure Bool)) : Prop :=
  ∃ rank value, rank ≠ 0 ∧ (Duty.handshake rank, Except.ok value) ∈ duties

/-- What holds between two duties. -/
structure Sound (duties : List (Duty × Except Failure Bool)) (desk : Desk) : Prop where
  ready : desk.Ready
  sent : desk.coordinator.sent = desk.asked.countP Event.publishes
  dead : desk.coordinator.dead = desk.asked.any Event.lost
  letGo : LetGo duties → desk.coordinator.attached = false

/-- **One duty after the others.** -/
theorem Sound.carried {duties : List (Duty × Except Failure Bool)} {after : Desk}
    {fresh : List Event} (sound : Sound duties before)
    (performed : Performed duty before outcome after fresh) :
    Sound (duties ++ [(duty, outcome)]) after where
  ready := performed.ready sound.ready
  sent := by rw [performed.booked.sent, sound.sent, performed.asked, List.countP_append]
  dead := by rw [performed.booked.dead, sound.dead, performed.asked, List.any_append]
  letGo := by
    rintro ⟨rank, value, other, inside⟩
    rcases List.mem_append.mp inside with earlier | here
    · exact performed.detached (sound.letGo ⟨rank, value, other, earlier⟩)
    · obtain ⟨rfl, rfl⟩ := Prod.mk.inj (List.mem_singleton.mp here)
      exact performed.dismissed rank value rfl other rfl

/-- **Between two duties**, after any number of them. -/
theorem Attends.sound {config : Config} {duties : List (Duty × Except Failure Bool)} {desk : Desk}
    (attends : Attends config duties desk) : Sound duties desk := by
  induction attends with
  | @hired vacant desk hires =>
    have hired : (hire config).run.Fulfils recorded (fun outcome last => ∀ coordinator,
        outcome = .ok coordinator → Sound [] ⟨coordinator, last.1, last.2⟩) (vacant, []) := by
      refine fulfils_recorded ?_
      rintro hired company answered
      cases hired with
      | error failure => exact nofun
      | ok value =>
        rintro _ ⟨⟩
        obtain ⟨-, rfl⟩ | ⟨failure, no, -⟩ := answered
        · refine ⟨fun _ _ => idle_fresh _, rfl, rfl, ?_⟩
          rintro ⟨rank, value, -, inside⟩
          cases inside
        · cases no
    exact hired.yields hires desk.coordinator rfl
  | @work duties desk company attends run ih =>
    refine ⟨fun attached alive => ?_, ih.sent, ih.dead, ih.letGo⟩
    have idle := ih.ready attached alive
    exact idle.eq_of_run run ▸ idle
  | duty attends performs ih =>
    obtain ⟨fresh, performed⟩ := performs.performed
    exact ih.carried performed

/-! ### What every duty finds -/

/-- A coordinator without its channel can do nothing. -/
theorem run_perform_detached {coordinator : Coordinator} (detached : coordinator.attached = false)
    (duty : Duty) :
    duty.perform.run.run coordinator = .done (.error .workerGone, coordinator) := by
  have apart : ¬ coordinator.attached = true := Bool.eq_false_iff.mp detached
  have unfit (command : Bytes) : coordinator.unfit? command = some .workerGone := if_neg apart
  cases duty with
  | handshake rank =>
    rw [Duty.perform, run_handshake, if_neg apart]
  | check command =>
    rw [Duty.perform, run_bind, run_check, unfit]
    rfl
  | call step command =>
    have refused : coordinator.refusal? command = some .workerGone := by
      rw [refusal?, unfit, ite_self]
    rw [Duty.perform, run_bind, run_call, refused]
    rfl

/-- A dead coordinator refuses every command. -/
theorem run_call_dead {coordinator : Coordinator} (dead : coordinator.dead = true)
    (step : KernelCache.Step) (command : Bytes) :
    (Coordinator.call step command).run.run coordinator =
      .done (.error .workerGone, coordinator) := by
  have refused : coordinator.refusal? command = some .workerGone := if_pos dead
  rw [run_call, refused]

/-- **The states of a coordinator.** After any duties, and whatever its worker does: a coordinator
that has its channel and is not dead finds the word ready, so no command meets a busy worker; after
a wait that was in vain every command is refused, and after a handshake that let the worker go every
duty is, and nothing is asked. A check changes nothing, nor does a command that is rejected. The
commands are counted that are published, one with each call. -/
theorem Attends.state_machine {config : Config} {duties : List (Duty × Except Failure Bool)}
    {desk : Desk} (attends : Attends config duties desk) :
    (desk.coordinator.attached = true → desk.coordinator.dead = false →
      desk.company.channel.word = Channel.readyWord) ∧
    (desk.asked.any Event.lost = true → ∀ step command,
      (Coordinator.call step command).run.run desk.coordinator =
        .done (.error .workerGone, desk.coordinator)) ∧
    (LetGo duties → ∀ duty : Duty,
      duty.perform.run.run desk.coordinator = .done (.error .workerGone, desk.coordinator)) ∧
    (∀ command, ∃ outcome,
      (Coordinator.check command).run.run desk.coordinator = .done (outcome, desk.coordinator)) ∧
    ∀ duty outcome after, desk.Performs duty outcome after →
      (∀ step command word, duty = .call step command →
        outcome ≠ .error (.channel (.busy word))) ∧
      ((∀ rank, duty ≠ .handshake rank) → Rejected outcome → after = desk) ∧
      ∃ fresh, after.asked = desk.asked ++ fresh ∧
        after.coordinator.sent =
          desk.coordinator.sent + (if fresh.any Event.publishes then 1 else 0) ∧
        ((∀ step command, duty ≠ .call step command) →
          after.coordinator.sent = desk.coordinator.sent) := by
  have sound := attends.sound
  refine ⟨fun attached alive => (sound.ready attached alive).word, fun lost step command => ?_,
    fun letGo duty => ?_, fun command => ⟨_, run_check command desk.coordinator⟩, ?_⟩
  · exact run_call_dead (sound.dead.trans lost) step command
  · exact run_perform_detached (sound.letGo letGo) duty
  intro duty outcome after performs
  obtain ⟨fresh, performed⟩ := performs.performed
  refine ⟨performed.polite sound.ready, performed.rejected, fresh, performed.asked, ?_, ?_⟩
  · rw [performed.booked.sent, Event.countP_publishes performed.published]
  · intro others
    rw [performed.booked.sent, performed.only others, Nat.add_zero]

/-- A worker is handed a command and acknowledges it, and the next command finds it ready. -/
theorem Attends.state_machine_called :
    ∃ desk, Attends {} [(.call .compile [0x74], .ok true)] desk ∧
      desk.coordinator = { policy := (Config.poll {}).policy, sent := 1 } ∧
      desk.company.channel.word = Channel.readyWord := by
  let config : Config := {}
  let hired : Coordinator := { policy := config.poll.policy }
  let told : Company := { fresh none with
    channel := ((fresh none).channel.putCommand [0x74]).store Channel.callWord }
  let answered : Company := { told with channel := told.channel.acknowledge }
  have read : Company.Step told (told.put (.serving (.call [0x74]))) := .read rfl (by decide)
  have serve : Company.Step (told.put (.serving (.call [0x74])))
      (told.put (.settling .acknowledge)) := .serve true (.left 0) rfl rfl
  have settle : Company.Step (told.put (.settling .acknowledge)) answered :=
    Company.Step.settle (told.put_worker (.settling .acknowledge))
  have run : Run told answered := .tail (.tail (.single read) serve) settle
  let asked : List Event := [⟨.hire none, .ok ()⟩, ⟨.look, Channel.readyWord⟩, ⟨.fill [0x74], ()⟩,
    ⟨.post Channel.callWord, ()⟩, ⟨.await config.poll.policy, .acknowledged⟩]
  have hires : (hire config).run.Yields recorded (fresh none, []) (.ok hired)
      (fresh none, asked.take 1) :=
    @Yields.ask _ _ _ (.hire none) _ (.ok ()) _ _ _ _ ⟨.inl ⟨rfl, rfl⟩, rfl⟩ (.done _ _)
  have performs : Performs ⟨hired, fresh none, asked.take 1⟩ (.call .compile [0x74]) (.ok true)
      ⟨hired.afterSend, answered, asked⟩ := by
    have free : hired.refusal? [0x74] = none := rfl
    rw [Performs, Duty.perform, run_bind, run_call, free]
    refine @Yields.ask _ _ _ .look _ Channel.readyWord _ (_, asked.take 2) _ _
      ⟨⟨.refl, rfl⟩, rfl⟩ ?_
    refine @Yields.ask _ _ _ (.fill [0x74]) _ () _ (_, asked.take 3) _ _ ⟨⟨_, .refl, rfl⟩, rfl⟩ ?_
    refine @Yields.ask _ _ _ (.post Channel.callWord) _ () _ (told, asked.take 4) _ _
      ⟨⟨_, .refl, rfl⟩, rfl⟩ ?_
    exact @Yields.ask _ _ _ (.await config.poll.policy) _ Verdict.acknowledged _ (answered, asked)
      _ _ ⟨.acknowledged run (by decide), rfl⟩ (.done _ _)
  have attends := Attends.duty (.hired hires) performs
  exact ⟨_, attends, rfl, attends.state_machine.1 rfl rfl⟩

end Desk

end KernelCache
