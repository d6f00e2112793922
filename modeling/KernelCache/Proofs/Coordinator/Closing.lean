import KernelCache.Proofs.Coordinator.Mortality
import KernelCache.Session.Basic

/-
**The end of a coordinator.**

A coordinator stops its worker once: it asks an idle one to leave, kills a busy one, waits for its end
and gives the channel back. That can happen at any time, in the middle of a handshake too.

* `Company.Stops` lists what stopping a worker comes to.
* `Desk.Closed`: what a teardown leads to that has something to do.
* `Desk.Tended`: a coordinator to which anything has happened, with a worker that may end at any time.
* `Desk.Accounted` holds at every time, and `Coordinator.Spent` of a coordinator without its channel.
* **`Desk.Tended.closes`**: a teardown is never stuck, asks an idle worker to leave or kills a busy one,
  and reports its status; behind it nothing is left to do.
-/

namespace KernelCache

open KernelCache.Action

namespace Company

variable {company : Company} {coordinator : Coordinator} {asked : List Event}

/-! ### Stopping a worker -/

/-- What stopping a worker comes to: its status, what was asked, and the company afterwards. -/
inductive Stops (company : Company) : ExitCode → List Event → Company → Prop where
  /-- The worker had left. -/
  | left {found : Company} {code : ExitCode} (turns : Turns company found)
      (left : found.code? = some code) :
      Stops company code [⟨.reap, .ok (some code)⟩] found.reap
  /-- It was there while the word was ready, and was asked to leave. -/
  | dismissed {found seen last : Company} {code : ExitCode} (turns : Turns company found)
      (there : found.code? = none) (further : Turns found seen)
      (ready : seen.channel.word = Channel.readyWord)
      (reaped : last.worker = some (.reaped code)) :
      Stops company code [⟨.reap, .ok none⟩, ⟨.look, Channel.readyWord⟩,
        ⟨.look, Channel.readyWord⟩, ⟨.post Channel.exitWord, ()⟩, ⟨.join, .ok code⟩] last
  /-- It was there while the word was not ready, and was killed. -/
  | killed {found seen last : Company} {code : ExitCode} (turns : Turns company found)
      (there : found.code? = none) (further : Turns found seen)
      (busy : seen.channel.word ≠ Channel.readyWord)
      (reaped : last.worker = some (.reaped code)) :
      Stops company code [⟨.reap, .ok none⟩, ⟨.look, seen.channel.word⟩, ⟨.kill, ()⟩,
        ⟨.join, .ok code⟩] last

theorem Stops.reaped {last : Company} {code : ExitCode} {fresh : List Event}
    (stops : company.Stops code fresh last) : last.worker = some (.reaped code) := by
  cases stops with
  | left _ left => exact worker_reap left
  | dismissed _ _ _ _ reaped => exact reaped
  | killed _ _ _ _ reaped => exact reaped

/-- A worker that had left before is found as it was. -/
theorem Stops.status {last : Company} {code status : ExitCode} {fresh : List Event}
    (stops : company.Stops code fresh last) (before : company.code? = some status) :
    code = status := by
  have stays {found : Company} (turns : Turns company found) : found.code? = some status :=
    turns.eq_of_code? before ▸ before
  cases stops with
  | left turns left => exact Option.some.inj (left.symm.trans (stays turns))
  | dismissed turns there => exact nomatch there.symm.trans (stays turns)
  | killed turns there => exact nomatch there.symm.trans (stays turns)

/-- Waiting for the end of a worker that comes to it. -/
theorem fulfils_ended (ending : company.Ending) :
    coordinator.joining.Fulfils attended (fun result last => result.2 = coordinator ∧
      ∃ code, result.1 = .ok code ∧ last.1.worker = some (.reaped code) ∧
        last.2 = asked ++ [⟨.join, .ok code⟩]) (company, asked) := by
  obtain ⟨later, code, run, left⟩ := ending.leaves
  refine fulfils_attended ⟨.ok code, _, later, code, run.turns, left, rfl, rfl⟩
    (fun _ => ending) ?_
  rintro _ _ ⟨between, code, turns, left, rfl, rfl⟩
  exact ⟨rfl, code, rfl, worker_reap left, rfl⟩

/-- A worker that is not at work is asked to leave. -/
theorem fulfils_dismissed (coherent : company.Coherent)
    (ready : company.channel.word = Channel.readyWord) :
    coordinator.dismissing.Fulfils attended (fun result last => result.2 = coordinator ∧
      ∃ code, result.1 = .ok code ∧ last.1.worker = some (.reaped code) ∧
        last.2 = asked ++ [⟨.look, Channel.readyWord⟩, ⟨.post Channel.exitWord, ()⟩,
          ⟨.join, .ok code⟩]) (company, asked) := by
  refine fulfils_attended ⟨_, company, .refl, rfl⟩ nofun ?_
  rintro _ seen ⟨turns, rfl⟩
  have kept := coherent.turns turns
  have still := coherent.ready_turns ready turns
  show Fulfils _ _ (if seen.channel.word = Channel.readyWord then _ else _) _
  rw [if_pos still, still]
  refine fulfils_attended ⟨(), _, seen, .refl, rfl⟩ nofun ?_
  rintro _ _ ⟨found, further, rfl⟩
  have ending := (kept.turns further).ending (kept.ready_turns still further)
  refine (fulfils_ended ending).mono ?_
  rintro ⟨_, _⟩ last ⟨rfl, code, rfl, reaped, record⟩
  refine ⟨rfl, code, rfl, reaped, ?_⟩
  rw [record, List.append_assoc, List.append_assoc]
  rfl

/-- **Stopping a worker is never stuck.** -/
theorem fulfils_stops (coherent : company.Coherent) :
    (Coordinator.stopWorker.run.run coordinator).Fulfils attended (fun result last =>
      result.2 = coordinator ∧ ∃ code fresh, result.1 = .ok code ∧
        company.Stops code fresh last.1 ∧ last.2 = asked ++ fresh) (company, asked) := by
  rw [Coordinator.run_stopWorker]
  refine fulfils_attended ⟨_, _, company, .refl, rfl, rfl⟩ nofun ?_
  rintro _ _ ⟨found, turns, rfl, rfl⟩
  have kept := coherent.turns turns
  cases left : found.code? with
  | some code => exact ⟨rfl, code, _, rfl, .left turns left, rfl⟩
  | none =>
    rw [reap_of_code? left]
    refine fulfils_attended ⟨_, found, .refl, rfl⟩ nofun ?_
    rintro _ seen ⟨further, rfl⟩
    have kept := kept.turns further
    show Fulfils _ _ (if seen.channel.word = Channel.readyWord then _ else _) _
    by_cases ready : seen.channel.word = Channel.readyWord
    · rw [if_pos ready, ready]
      refine (fulfils_dismissed kept ready).mono ?_
      rintro ⟨_, _⟩ last ⟨rfl, code, rfl, reaped, record⟩
      refine ⟨rfl, code, _, rfl, .dismissed turns left further ready reaped, ?_⟩
      rw [record, List.append_assoc, List.append_assoc]
      rfl
    · rw [if_neg ready]
      refine fulfils_attended ⟨(), _, seen, .refl, rfl⟩ nofun ?_
      rintro _ _ ⟨last, later, rfl⟩
      refine (fulfils_ended (kept.turns later).ending_kill).mono ?_
      rintro ⟨_, _⟩ last ⟨rfl, code, rfl, reaped, record⟩
      refine ⟨rfl, code, _, rfl, .killed turns left further ready reaped, ?_⟩
      rw [record, List.append_assoc, List.append_assoc, List.append_assoc]
      rfl

end Company

/-! ### Steps of a coordinator -/

namespace Coordinator

variable {coordinator : Coordinator}

/-- Tells the worker its rank, and waits until it has taken note. -/
def greet (rank : UInt32) : CoordinatorM Unit := do
  requireChannel
  send (.identity rank)
  awaitReady fun code => .workerExit code "rank handshake"

/-- **A handshake** is a greeting, and a teardown unless the rank is zero. -/
theorem handshake_eq (rank : UInt32) :
    handshake rank = (do
      greet rank
      if rank = 0 then return true
      else do
        teardown
        return false) := by
  simp only [handshake, greet, bind_assoc]

/-- No request says that the last one is done. -/
theorem ne_readyWord_of_accept {capacity : Nat} {word posted : UInt32} {request : Request}
    {command? : Option Bytes}
    (accepted : Channel.accept capacity word request = .ok (command?, posted)) :
    posted ≠ Channel.readyWord := by
  unfold Channel.accept at accepted
  split at accepted
  · cases accepted
  · cases request with
    | call command =>
      have accepted : ((Channel.fits capacity command).bind fun _ =>
          .ok (some command, Channel.callWord)) = .ok (command?, posted) := accepted
      cases fits : Channel.fits capacity command with
      | error fault => rw [fits] at accepted; cases accepted
      | ok value =>
        rw [fits] at accepted
        cases accepted
        decide
    | exit =>
      cases accepted
      decide
    | identity value =>
      by_cases taken : Channel.reserved value = true
      · simp only [if_pos taken] at accepted
        cases accepted
      · simp only [if_neg taken] at accepted
        cases accepted
        rintro rfl
        exact taken rfl

theorem fair_send (request : Request) (coordinator : Coordinator) :
    Secures (.only Effect.IsFair) (send request) (fun _ after _ => after = coordinator)
      coordinator () := by
  unfold Secures
  rw [run_send]
  refine ⟨trivial, fun (word : UInt32) _ _ => ?_⟩
  unfold publishing
  cases accepted : Channel.accept coordinator.capacity word request with
  | error fault => exact rfl
  | ok published =>
    obtain ⟨command?, posted⟩ := published
    have fair := ne_readyWord_of_accept accepted
    cases command? with
    | none => exact ⟨fair, fun _ _ _ => rfl⟩
    | some command => exact ⟨trivial, fun _ _ _ => ⟨fair, fun _ _ _ => rfl⟩⟩

theorem fair_awaitReady (onLeft : ExitCode → Failure) (coordinator : Coordinator) :
    Secures (.only Effect.IsFair) (awaitReady onLeft)
      (fun _ after _ => after.attached = coordinator.attached) coordinator () := by
  unfold Secures
  rw [run_awaitReady]
  exact ⟨trivial, fun _ _ _ => rfl⟩

theorem fair_greet (rank : UInt32) (coordinator : Coordinator) :
    Secures (.only Effect.IsFair) (greet rank)
      (fun _ after _ => after.attached = coordinator.attached) coordinator () := by
  have requires : Secures (.only Effect.IsFair) requireChannel
      (fun _ after _ => after = coordinator) coordinator () := by
    refine Secures.get ?_
    split
    · exact Secures.throw rfl
    · exact Secures.pure rfl
  refine Secures.bind _ requires ?_ fun _ _ _ same => congrArg attached same
  rintro _ _ _ rfl
  refine Secures.bind _ (fair_send _ _) ?_ fun _ _ _ same => congrArg attached same
  rintro _ _ _ rfl
  exact fair_awaitReady _ _

theorem fair_call (step : Step) (command : Bytes) (coordinator : Coordinator) :
    Secures (.only Effect.IsFair) (call step command)
      (fun _ after _ => after.attached = coordinator.attached) coordinator () := by
  refine (asks_call step command coordinator).of_only fun effect called => ?_
  cases effect with
  | post word =>
    obtain rfl : word = Channel.callWord := called
    exact (by decide : Channel.callWord ≠ Channel.readyWord)
  | hire commandLog => exact called
  | _ => trivial

theorem run_greet_detached (detached : coordinator.attached = false) (rank : UInt32) :
    (greet rank).run.run coordinator = .done (.error .workerGone, coordinator) := by
  obtain ⟨policy, capacity, attached, dead, sent⟩ := coordinator
  subst detached
  rfl

/-- Nothing is left to do at the end of a coordinator. -/
structure Spent (coordinator : Coordinator) : Prop where
  teardown : Coordinator.teardown.run.run coordinator = .done (.ok (), coordinator)
  shutdown : coordinator.shutdown.run = .done (.ok ())
  abandon : coordinator.abandon = .done ()
  session : ∀ session : Session, session.coordinator = some coordinator →
    session.finish.run = .done (.ok ()) ∧ session.abandon = .done ()

theorem spent_of_detached (detached : coordinator.attached = false) : coordinator.Spent := by
  have torn : Coordinator.teardown.run.run coordinator = .done (.ok (), coordinator) := by
    rw [run_teardown, if_neg (Bool.eq_false_iff.mp detached)]
  have shut : coordinator.shutdown.run = .done (.ok ()) := by
    show (Coordinator.teardown.run.run coordinator).bind _ = _
    rw [torn]
    rfl
  have abandoned : coordinator.abandon = .done () := by
    show (coordinator.shutdown.run).bind _ = _
    rw [shut]
    rfl
  refine ⟨torn, shut, abandoned, fun session held => ?_⟩
  unfold Session.finish Session.abandon
  rw [held]
  exact ⟨shut, abandoned⟩

end Coordinator

/-! ### Desks -/

namespace Desk

open Company Coordinator

variable {α : Type} {config : Config} {desk after : Desk} {rank : UInt32}

/-- The step leads from one desk to another, with an outcome. -/
def Takes (before : Desk) (step : CoordinatorM α) (outcome : Except Failure α) (after : Desk) :
    Prop :=
  (step.run.run before.coordinator).Yields attended (before.company, before.asked)
    (outcome, after.coordinator) (after.company, after.asked)

/-- What a teardown leads to that has something to do. It finds the worker in one company, and if that
is still there, sees the word in another one. -/
structure Closed (before : Desk) (outcome : Except Failure Unit) (after : Desk)
    (found seen : Company) (code : ExitCode) (fresh : List Event) : Prop where
  asked : after.asked = before.asked ++ fresh
  turns : Turns before.company found
  reaps : ⟨.reap, .ok found.code?⟩ ∈ fresh
  looks : found.code? = none → Turns found seen ∧ ⟨.look, seen.channel.word⟩ ∈ fresh
  /-- The worker is asked to leave when it is there and idle. -/
  exits : .post Channel.exitWord ∈ fresh.map Event.effect ↔
    found.code? = none ∧ seen.channel.word = Channel.readyWord
  /-- It is killed when it is there and busy. -/
  kills : .kill ∈ fresh.map Event.effect ↔
    found.code? = none ∧ seen.channel.word ≠ Channel.readyWord
  reaped : after.company.worker = some (.reaped code)
  /-- A worker that had left before has its own status. -/
  status : ∀ status, before.company.code? = some status → code = status
  released : fresh.getLast? = some ⟨.release, .ok ()⟩
  detached : after.coordinator = before.coordinator.detached
  reports : outcome = if code = some 0 then .ok () else .error (.workerExit code "shutdown")

theorem farewell_ok (code : ExitCode) :
    farewell (.ok code) = if code = some 0 then .ok () else .error (.workerExit code "shutdown") := by
  rcases code with _ | (_ | _) | _ <;> rfl

theorem closed_of_stops {last : Company} {code : ExitCode} {fresh : List Event}
    (stops : desk.company.Stops code fresh last) :
    ∃ found seen, desk.Closed (farewell (.ok code))
      ⟨desk.coordinator.detached, last, desk.asked ++ (fresh ++ [⟨.release, .ok ()⟩])⟩
      found seen code (fresh ++ [⟨.release, .ok ()⟩]) := by
  have reaped := stops.reaped
  have status : ∀ status, desk.company.code? = some status → code = status :=
    fun _ => stops.status
  cases stops with
  | @left found _ turns left =>
    have gone : found.code? ≠ none := by simp [left]
    refine ⟨found, found, ?_⟩
    exact {
      asked := rfl
      turns
      reaps := by simp [left]
      looks := fun there => absurd there gone
      exits := by simp [gone]
      kills := by simp [gone]
      reaped
      status
      released := by simp
      detached := rfl
      reports := farewell_ok code }
  | @dismissed found seen _ _ turns there further ready =>
    refine ⟨found, seen, ?_⟩
    exact {
      asked := rfl
      turns
      reaps := by simp [there]
      looks := fun _ => ⟨further, by simp [ready]⟩
      exits := by simp [there, ready]
      kills := by simp [ready]
      reaped
      status
      released := by simp
      detached := rfl
      reports := farewell_ok code }
  | @killed found seen _ _ turns there further busy =>
    refine ⟨found, seen, ?_⟩
    exact {
      asked := rfl
      turns
      reaps := by simp [there]
      looks := fun _ => ⟨further, by simp⟩
      exits := by simp [busy]
      kills := by simp [there, busy]
      reaped
      status
      released := by simp
      detached := rfl
      reports := farewell_ok code }

/-- **A teardown is never stuck.** -/
theorem fulfils_closed (attached : desk.coordinator.attached = true)
    (coherent : desk.company.Coherent) :
    (Coordinator.teardown.run.run desk.coordinator).Fulfils attended
      (fun result last => ∃ found seen code fresh,
        desk.Closed result.1 ⟨result.2, last.1, last.2⟩ found seen code fresh)
      (desk.company, desk.asked) := by
  rw [run_teardown, if_pos attached]
  refine Fulfils.bind (fulfils_stops coherent) ?_
  rintro ⟨_, _⟩ ⟨stopped, record⟩ ⟨rfl, code, fresh, rfl, stops, same⟩
  obtain rfl : record = desk.asked ++ fresh := same
  refine fulfils_attended ⟨.ok (), stopped, rfl, rfl⟩ nofun ?_
  rintro _ _ ⟨rfl, rfl⟩
  obtain ⟨found, seen, closed⟩ := closed_of_stops stops
  rw [List.append_assoc]
  exact ⟨found, seen, code, _, closed⟩

/-! ### All that happens to a coordinator -/

/-- A coordinator was hired, and anything has happened to it since: its worker goes on or ends, it
carries out duties, it has told a rank in the middle of a handshake, and it is torn down. -/
inductive Tended (config : Config) : Desk → Prop where
  | hired {vacant : Company} {desk : Desk}
      (hires : (hire config).run.Yields attended (vacant, []) (.ok desk.coordinator)
        (desk.company, desk.asked)) : Tended config desk
  | turns {desk : Desk} {company : Company} (tended : Tended config desk)
      (turns : Turns desk.company company) : Tended config { desk with company }
  | duty {desk after : Desk} {duty : Duty} {outcome : Except Failure Bool}
      (tended : Tended config desk) (takes : desk.Takes duty.perform outcome after) :
      Tended config after
  | greets {desk after : Desk} {rank : UInt32} {outcome : Except Failure Unit}
      (tended : Tended config desk) (takes : desk.Takes (greet rank) outcome after) :
      Tended config after
  | closes {desk after : Desk} {outcome : Except Failure Unit} (tended : Tended config desk)
      (takes : desk.Takes Coordinator.teardown outcome after) : Tended config after

/-- What a coordinator comes to whose worker does not end before its time is among this. -/
theorem Attends.tended {duties : List (Duty × Except Failure Bool)}
    (attends : Attends config duties desk) : Tended config desk := by
  have replies (state : Company × List Event) (effect : Effect) (reply : effect.Reply)
      (later : Company × List Event) (answered : recorded.answers state effect reply later) :
      attended.answers state effect reply later :=
    ⟨.of_answers answered.1, answered.2⟩
  induction attends with
  | hired hires => exact .hired (hires.widen replies)
  | work _ run ih => exact ih.turns run.turns
  | duty _ performs ih => exact ih.duty (performs.widen replies)

/-- **At every time** the worker is not at work while the word is ready, and behind a teardown it is
reaped and the channel given back. -/
structure Accounted (desk : Desk) : Prop where
  coherent : desk.company.Coherent
  gone : desk.coordinator.attached = false →
    (∃ code, desk.company.worker = some (.reaped code)) ∧ ⟨.release, .ok ()⟩ ∈ desk.asked

/-- A step that lets the channel be. -/
theorem Accounted.aside {step : CoordinatorM α} {outcome : Except Failure α}
    (accounted : desk.Accounted)
    (fair : Secures (.only Effect.IsFair) step
      (fun _ after _ => after.attached = desk.coordinator.attached) desk.coordinator ())
    (refused : desk.coordinator.attached = false →
      ∃ outcome, step.run.run desk.coordinator = .done (outcome, desk.coordinator))
    (takes : desk.Takes step outcome after) : after.Accounted := by
  obtain ⟨coordinator, company, asked⟩ := after
  obtain ⟨same, coherent⟩ := Fulfils.keeps fair takes (fun state => state.1.Coherent)
    (fun fair coherent answered => coherent.replies fair answered.1) accounted.coherent
  refine ⟨coherent, fun detached => ?_⟩
  rw [same] at detached
  obtain ⟨outcome', run⟩ := refused detached
  rw [Takes, run] at takes
  cases takes
  exact accounted.gone detached

/-- A teardown that has nothing to do. -/
theorem Takes.eq_of_detached {outcome : Except Failure Unit}
    (takes : desk.Takes Coordinator.teardown outcome after)
    (detached : desk.coordinator.attached = false) : outcome = .ok () ∧ after = desk := by
  obtain ⟨coordinator, company, asked⟩ := after
  rw [Takes, (spent_of_detached detached).teardown] at takes
  cases takes
  exact ⟨rfl, rfl⟩

/-- **Behind a teardown** the coordinator has no channel. -/
theorem Accounted.detached {outcome : Except Failure Unit} (accounted : desk.Accounted)
    (takes : desk.Takes Coordinator.teardown outcome after) :
    after.coordinator.attached = false := by
  by_cases attached : desk.coordinator.attached = true
  · obtain ⟨found, seen, code, fresh, closed⟩ :=
      (fulfils_closed attached accounted.coherent).yields takes
    rw [closed.detached]
    rfl
  · have detached := Bool.eq_false_iff.mpr attached
    rw [(takes.eq_of_detached detached).2, detached]

theorem Accounted.closes {outcome : Except Failure Unit} (accounted : desk.Accounted)
    (takes : desk.Takes Coordinator.teardown outcome after) : after.Accounted := by
  by_cases attached : desk.coordinator.attached = true
  · obtain ⟨found, seen, code, fresh, closed⟩ :=
      (fulfils_closed attached accounted.coherent).yields takes
    refine ⟨coherent_of_free _ closed.reaped id, fun _ => ⟨⟨code, closed.reaped⟩, ?_⟩⟩
    have released := List.mem_of_getLast? closed.released
    rw [closed.asked]
    exact List.mem_append_right _ released
  · rw [(takes.eq_of_detached (Bool.eq_false_iff.mpr attached)).2]
    exact accounted

theorem Accounted.greets {outcome : Except Failure Unit} (accounted : desk.Accounted)
    (takes : desk.Takes (greet rank) outcome after) : after.Accounted :=
  accounted.aside (fair_greet rank _) (fun detached => ⟨_, run_greet_detached detached rank⟩) takes

/-- A handshake ends with its greeting, or with a teardown. -/
theorem Takes.of_handshake {outcome : Except Failure Bool}
    (takes : desk.Takes (Coordinator.handshake rank) outcome after) :
    (∃ greeted, desk.Takes (greet rank) greeted after ∧
      (rank ≠ 0 → ∀ value, outcome ≠ .ok value)) ∨
    ∃ greeted between closed, desk.Takes (greet rank) greeted between ∧
      between.Takes Coordinator.teardown closed after := by
  obtain ⟨coordinator, company, asked⟩ := after
  rw [Takes, Coordinator.handshake_eq, run_bind] at takes
  obtain ⟨⟨greeted, between⟩, last, greets, rest⟩ := takes.of_bind
  cases greeted with
  | error failure =>
    cases rest
    exact .inl ⟨_, greets, fun _ value => nofun⟩
  | ok value =>
    by_cases zero : rank = 0
    · simp only [if_pos zero] at rest
      cases rest
      exact .inl ⟨_, greets, fun other => absurd zero other⟩
    · simp only [if_neg zero] at rest
      rw [run_bind] at rest
      obtain ⟨⟨closed, behind⟩, final, closes, rest⟩ := rest.of_bind
      refine .inr ⟨_, ⟨between, last.1, last.2⟩, closed, greets, ?_⟩
      cases closed <;> cases rest <;> exact closes

theorem Accounted.performs {duty : Duty} {outcome : Except Failure Bool}
    (accounted : desk.Accounted) (takes : desk.Takes duty.perform outcome after) :
    after.Accounted := by
  have refused (detached : desk.coordinator.attached = false) :
      ∃ outcome, duty.perform.run.run desk.coordinator = .done (outcome, desk.coordinator) :=
    ⟨_, run_perform_detached detached duty⟩
  cases duty with
  | handshake rank =>
    obtain ⟨greeted, greets, -⟩ | ⟨greeted, between, closed, greets, closes⟩ := takes.of_handshake
    · exact accounted.greets greets
    · exact (accounted.greets greets).closes closes
  | check command =>
    refine accounted.aside ?_ refused takes
    unfold Secures
    rw [Duty.perform, run_bind, run_check]
    cases desk.coordinator.unfit? command <;> exact rfl
  | call step command =>
    refine accounted.aside ?_ refused takes
    exact Secures.bind _ (fair_call step command _) (fun _ _ _ same => same) fun _ _ _ same => same

/-- **What holds at every time.** -/
theorem Tended.accounted (tended : Tended config desk) : desk.Accounted := by
  induction tended with
  | @hired vacant desk hires =>
    have answerable : ∃ reply later, Replies vacant (.hire config.commandLog) reply later :=
      ⟨.ok (), _, .inl ⟨rfl, rfl⟩⟩
    have hired : (hire config).run.Fulfils attended (fun outcome last => ∀ coordinator,
        outcome = .ok coordinator → Accounted ⟨coordinator, last.1, last.2⟩) (vacant, []) := by
      refine fulfils_attended answerable nofun ?_
      rintro hired company answered
      cases hired with
      | error failure => exact nofun
      | ok value =>
        rintro _ ⟨⟩
        obtain ⟨-, rfl⟩ | ⟨failure, no, -⟩ := answered
        · exact ⟨coherent_of_free _ (idle_fresh _).worker id, nofun⟩
        · cases no
    exact hired.yields hires desk.coordinator rfl
  | turns _ turns ih =>
    refine ⟨ih.coherent.turns turns, fun detached => ?_⟩
    obtain ⟨⟨code, reaped⟩, released⟩ := ih.gone detached
    refine ⟨⟨code, ?_⟩, released⟩
    rw [turns.eq_of_code? (code?_eq_some_iff.mpr (.inr reaped)), reaped]
  | duty _ takes ih => exact ih.performs takes
  | greets _ takes ih => exact ih.greets takes
  | closes _ takes ih => exact ih.closes takes

/-- **A coordinator is torn down once.** Whatever has happened to it, also in the middle of a handshake: a
teardown is never stuck and never waits for the end of a worker that may stay. It tells the worker to
leave just when that is there and the word is ready, kills it just when that is there and the word is not
ready, and in the end the worker is reaped and the channel given back; its outcome is the status of the
worker. A coordinator that was torn down, or has let the worker of another rank than zero go, has
nothing left to do, and its worker is reaped. -/
theorem Tended.torn_down_once (tended : Tended config desk) :
    (desk.coordinator.attached = true →
      (Coordinator.teardown.run.run desk.coordinator).Fulfils attended
        (fun result last => ∃ found seen code fresh,
          desk.Closed result.1 ⟨result.2, last.1, last.2⟩ found seen code fresh ∧
          ¬ (.post Channel.exitWord ∈ fresh.map Event.effect ∧ .kill ∈ fresh.map Event.effect))
        (desk.company, desk.asked) ∧
      ∃ outcome after, desk.Takes Coordinator.teardown outcome after) ∧
    (desk.coordinator.attached = false → desk.coordinator.Spent ∧
      (∃ code, desk.company.worker = some (.reaped code)) ∧ ⟨.release, .ok ()⟩ ∈ desk.asked) ∧
    (∀ outcome after, desk.Takes Coordinator.teardown outcome after → after.coordinator.Spent) ∧
    ∀ rank value after, rank ≠ 0 → desk.Takes (Coordinator.handshake rank) (.ok value) after →
      after.coordinator.attached = false ∧ after.coordinator.Spent := by
  have accounted := tended.accounted
  refine ⟨fun attached => ?_, fun detached => ⟨spent_of_detached detached, accounted.gone detached⟩,
    fun outcome after takes => spent_of_detached (accounted.detached takes), ?_⟩
  · have fulfils := fulfils_closed attached accounted.coherent
    refine ⟨fulfils.mono ?_, ?_⟩
    · rintro result last ⟨found, seen, code, fresh, closed⟩
      refine ⟨found, seen, code, fresh, closed, ?_⟩
      rintro ⟨exits, kills⟩
      exact (closed.kills.mp kills).2 (closed.exits.mp exits).2
    · obtain ⟨⟨outcome, coordinator⟩, ⟨company, asked⟩, comes, -⟩ :=
        fulfils.arrives fun _ _ => exists_answers
      exact ⟨outcome, ⟨coordinator, company, asked⟩, comes⟩
  · intro rank value after other takes
    have detached : after.coordinator.attached = false := by
      obtain ⟨_, -, refused⟩ | ⟨_, between, closed, greets, closes⟩ := takes.of_handshake
      · exact absurd rfl (refused other value)
      · exact (accounted.greets greets).detached closes
    exact ⟨detached, spent_of_detached detached⟩

/-- A worker is still busy with its command when the attempts are used up, and is killed. -/
theorem Tended.torn_down_once_busy :
    ∃ desk after found seen code fresh,
      Tended { poll := { maxAttempts := some 1 } } desk ∧
      desk.coordinator.attached = true ∧ desk.coordinator.dead = true ∧
      desk.Takes Coordinator.teardown (.error (.workerExit none "shutdown")) after ∧
      desk.Closed (.error (.workerExit none "shutdown")) after found seen code fresh ∧
      .kill ∈ fresh.map Event.effect ∧ after.coordinator.Spent := by
  let config : Config := { poll := { maxAttempts := some 1 } }
  let hired : Coordinator := { policy := config.poll.policy }
  let told : Company := { fresh none with
    channel := ((fresh none).channel.putCommand [0x74]).store Channel.callWord }
  let busy : Company := told.put (.serving (.call [0x74]))
  let front : List Event := [⟨.hire none, .ok ()⟩, ⟨.look, Channel.readyWord⟩, ⟨.fill [0x74], ()⟩,
    ⟨.post Channel.callWord, ()⟩, ⟨.await config.poll.policy, .exhausted ⟨1⟩⟩]
  let back : List Event := [⟨.reap, .ok none⟩, ⟨.look, Channel.callWord⟩, ⟨.kill, ()⟩,
    ⟨.join, .ok none⟩, ⟨.release, .ok ()⟩]
  let given : Desk := ⟨hired.afterSend.afterWait (.exhausted ⟨1⟩), busy, front⟩
  have hires : (hire config).run.Yields attended (fresh none, []) (.ok hired)
      (fresh none, front.take 1) :=
    @Yields.ask _ _ _ (.hire none) _ (.ok ()) _ _ _ _ ⟨.inl ⟨rfl, rfl⟩, rfl⟩ (.done _ _)
  have read : Turn told busy := .step (.read rfl (by decide))
  have calls : Takes ⟨hired, fresh none, front.take 1⟩ (Duty.call .compile [0x74]).perform
      (.error (.poll ⟨1⟩)) given := by
    have free : hired.refusal? [0x74] = none := rfl
    rw [Takes, Duty.perform, run_bind, run_call, free]
    refine @Yields.ask _ _ _ .look _ Channel.readyWord _ (_, front.take 2) _ _
      ⟨⟨.refl, rfl⟩, rfl⟩ ?_
    refine @Yields.ask _ _ _ (.fill [0x74]) _ () _ (_, front.take 3) _ _ ⟨⟨_, .refl, rfl⟩, rfl⟩ ?_
    refine @Yields.ask _ _ _ (.post Channel.callWord) _ () _ (told, front.take 4) _ _
      ⟨⟨_, .refl, rfl⟩, rfl⟩ ?_
    exact @Yields.ask _ _ _ (.await config.poll.policy) _ (Verdict.exhausted ⟨1⟩) _ (busy, front)
      _ _ ⟨.exhausted (.single read) (by decide), rfl⟩ (.done _ _)
  have tended : Tended config given := .duty (.hired hires) calls
  have attached : given.coordinator.attached = true := rfl
  have closes : given.Takes Coordinator.teardown (.error (.workerExit none "shutdown"))
      ⟨given.coordinator.detached, busy.kill.reap, front ++ back⟩ := by
    rw [Takes, run_teardown, if_pos attached, run_stopWorker]
    refine @Yields.ask _ _ _ .reap _ (.ok none) _ (busy, front ++ back.take 1) _ _
      ⟨⟨busy, .refl, rfl, rfl⟩, rfl⟩ ?_
    refine @Yields.ask _ _ _ .look _ Channel.callWord _ (busy, front ++ back.take 2) _ _
      ⟨⟨.refl, rfl⟩, rfl⟩ ?_
    refine @Yields.ask _ _ _ .kill _ () _ (busy.kill, front ++ back.take 3) _ _
      ⟨⟨busy, .refl, rfl⟩, rfl⟩ ?_
    refine @Yields.ask _ _ _ .join _ (.ok none) _ (busy.kill.reap, front ++ back.take 4) _ _
      ⟨⟨busy.kill, none, .refl, rfl, rfl, rfl⟩, rfl⟩ ?_
    exact @Yields.ask _ _ _ .release _ (.ok ()) _ (busy.kill.reap, front ++ back) _ _
      ⟨⟨rfl, rfl⟩, rfl⟩ (.done _ _)
  obtain ⟨torn, -, behind, -⟩ := tended.torn_down_once
  obtain ⟨found, seen, code, fresh, closed, -⟩ := (torn attached).1.yields closes
  have same : fresh = back := (List.append_cancel_left closed.asked).symm
  refine ⟨given, _, found, seen, code, fresh, tended, attached, rfl, closes, closed, ?_,
    behind _ _ closes⟩
  rw [same]
  decide

end Desk

end KernelCache
