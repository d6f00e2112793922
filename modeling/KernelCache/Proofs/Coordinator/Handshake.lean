import KernelCache.Proofs.Coordinator.Company

/-
**Telling a worker its rank.**

The worker of rank zero acknowledges and stays; every other worker acknowledges and leaves. Between
its acknowledgement and its end, and before, the coordinator may look at any time.

* `Company.Greeted`: how far a worker is with the rank it was told.
* `Company.fulfils_stopWorker`: stopping a worker is never stuck, and the worker is reaped.
* `Company.secures_handshake`: what a handshake comes to.
* **`Company.handshake_unless_overtaken`**: a worker that leaves after its acknowledgement is let
  go, unless it does both between the load of the word and the look at the worker in one probe.
-/

namespace KernelCache

open KernelCache.Action

namespace Company

variable {company before after : Company} {rank : UInt32} {coordinator : Coordinator}

/-! ### What the worker does with a rank -/

/-- The worker waits for a request. -/
structure Idle (company : Company) : Prop where
  word : company.channel.word = Channel.readyWord
  worker : company.worker = some .polling

/-- The worker is on its way out, or left, with success. -/
def Departing (company : Company) : Prop :=
  company.worker = some (.leaving (some 0)) ∨ company.worker = some (.gone (some 0))

/-- The worker has acknowledged and leaves. -/
structure Released (company : Company) : Prop where
  word : company.channel.word = Channel.readyWord
  departing : company.Departing

/-- How far the worker is with the rank it was told. -/
inductive Greeted (rank : UInt32) (company : Company) : Prop where
  /-- It has not acknowledged yet. -/
  | told (hand : Hand) (state : company.channel.state = .identity rank)
      (worker : company.worker = some hand)
      (stage : hand = .polling ∨ hand = .serving (.identity rank) ∨
        hand = .settling (if rank = 0 then .acknowledge else .leave true 0))
  | stays (zero : rank = 0) (idle : company.Idle)
  | leaves (other : rank ≠ 0) (released : company.Released)

theorem Idle.no_step (idle : before.Idle) (step : Step before after) : False := by
  cases step with
  | read _ pending =>
    rw [Channel.poll, Channel.state, idle.word] at pending
    cases pending
  | serve _ _ busy => rw [idle.worker] at busy; cases busy
  | settle served => rw [idle.worker] at served; cases served
  | leave about => rw [idle.worker] at about; cases about

theorem Departing.step (departing : before.Departing) (step : Step before after) :
    after.Departing ∧ after.channel = before.channel := by
  rcases departing with worker | worker
  · cases step with
    | read free => rw [worker] at free; cases free
    | serve _ _ busy => rw [worker] at busy; cases busy
    | settle served => rw [worker] at served; cases served
    | leave about =>
      rw [worker] at about
      cases about
      exact ⟨.inr rfl, rfl⟩
  · have left : before.code? = some (some 0) := by
      rw [code?, worker]
      rfl
    rw [step.code?_eq_none] at left
    cases left

theorem Released.step (released : before.Released) (step : Step before after) : after.Released := by
  obtain ⟨departing, same⟩ := released.departing.step step
  exact ⟨same ▸ released.word, departing⟩

/-- **The worker takes note of its rank, acknowledges, and stays or leaves.** -/
theorem Greeted.step (greeted : before.Greeted rank) (step : Step before after) :
    after.Greeted rank := by
  cases greeted with
  | stays _ idle => exact (idle.no_step step).elim
  | leaves other released => exact .leaves other (released.step step)
  | told hand state worker stage =>
    cases step with
    | @read request free pending =>
      rw [Channel.poll, state] at pending
      obtain rfl : Request.identity rank = request := Option.some.inj pending
      exact .told _ state rfl (.inr (.inl rfl))
    | @serve request logged ended reaction ran busy reacted =>
      rw [worker] at busy
      obtain rfl : hand = .serving request := Option.some.inj busy
      obtain same | same | same := stage
      · cases same
      · obtain rfl : request = .identity rank := Hand.serving.inj same
        obtain rfl : (if rank = 0 then Reaction.acknowledge else .leave true 0) = reaction :=
          congrArg Prod.fst reacted
        exact .told _ state rfl (.inr (.inr rfl))
      · cases same
    | @settle reaction served =>
      rw [worker] at served
      obtain rfl : hand = .settling reaction := Option.some.inj served
      obtain same | same | same := stage
      · cases same
      · cases same
      · obtain rfl := Hand.settling.inj same
        by_cases zero : rank = 0
        · simp only [if_pos zero]
          exact .stays zero ⟨rfl, rfl⟩
        · simp only [if_neg zero]
          exact .leaves zero ⟨rfl, .inl rfl⟩
    | leave about =>
      rw [worker] at about
      obtain rfl := Option.some.inj about
      obtain same | same | same := stage <;> cases same

theorem Step.overtaken (step : Step before after) : after.overtaken = before.overtaken := by
  cases step <;> rfl

theorem Run.overtaken (run : Run before after) : after.overtaken = before.overtaken :=
  run.keeps (fun company => company.overtaken = before.overtaken)
    (fun same step => step.overtaken.trans same) rfl

/-! ### Stopping a worker -/

/-- There is a worker, and while the word is ready it is not at work. -/
structure Coherent (company : Company) : Prop where
  hired : ∃ hand, company.worker = some hand
  free : company.channel.word = Channel.readyWord → ∀ hand, company.worker = some hand →
    ¬ hand.AtWork

theorem coherent_of_free (hand : Hand) (worker : company.worker = some hand)
    (free : ¬ hand.AtWork) : company.Coherent := by
  refine ⟨⟨hand, worker⟩, fun _ other same => ?_⟩
  rw [worker] at same
  cases same
  exact free

theorem coherent_of_word (hand : Hand) (worker : company.worker = some hand)
    (word : company.channel.word ≠ Channel.readyWord) : company.Coherent :=
  ⟨⟨hand, worker⟩, fun ready => absurd ready word⟩

theorem Idle.coherent (idle : company.Idle) : company.Coherent :=
  coherent_of_free _ idle.worker id

theorem Released.coherent (released : company.Released) : company.Coherent := by
  rcases released.departing with worker | worker <;> exact coherent_of_free _ worker id

theorem Greeted.coherent (greeted : company.Greeted rank) : company.Coherent := by
  cases greeted with
  | stays _ idle => exact idle.coherent
  | leaves _ released => exact released.coherent
  | told hand state worker =>
    refine coherent_of_word hand worker fun ready => ?_
    have waiting : company.channel.state = .ready := by rw [Channel.state, ready]; rfl
    rw [waiting] at state
    cases state

theorem Coherent.step (coherent : before.Coherent) (step : Step before after) : after.Coherent := by
  have busy {hand : Hand} (worker : before.worker = some hand) (work : hand.AtWork) :
      before.channel.word ≠ Channel.readyWord :=
    fun ready => coherent.free ready hand worker work
  cases step with
  | @read request _ pending =>
    refine coherent_of_word (.serving request) rfl fun ready => ?_
    rw [put_channel] at ready
    rw [Channel.poll, Channel.state, ready] at pending
    cases pending
  | @serve request _ _ reaction _ worker _ =>
    exact coherent_of_word (.settling reaction) rfl (busy worker trivial)
  | @settle reaction worker =>
    cases reaction with
    | acknowledge => exact coherent_of_free (.polling) rfl id
    | leave acknowledged code => exact coherent_of_free (.leaving (some code)) rfl id
  | @leave code _ => exact coherent_of_free (.gone code) rfl id

/-- While the word is ready, the worker does not change it. -/
theorem Coherent.ready (coherent : before.Coherent)
    (ready : before.channel.word = Channel.readyWord) (step : Step before after) :
    after.channel = before.channel := by
  cases step with
  | read => rfl
  | serve => rfl
  | @settle reaction worker => exact (coherent.free ready _ worker trivial).elim
  | leave => rfl

theorem code?_eq_some_iff {code : ExitCode} :
    company.code? = some code ↔
      company.worker = some (.gone code) ∨ company.worker = some (.reaped code) := by
  unfold code?
  rcases company.worker with _ | _ | _ | _ | _ | _ | _ <;> simp [Hand.code?]

theorem worker_reap {code : ExitCode} (left : company.code? = some code) :
    company.reap.worker = some (.reaped code) := by
  rcases code?_eq_some_iff.mp left with worker | worker <;> rw [reap, worker] <;> rfl

theorem reap_of_code? (there : company.code? = none) : company.reap = company := by
  rcases company with ⟨channel, commandLog, worker, overtaken⟩
  rcases worker with _ | _ | _ | _ | _ | code | code
  case some.gone => exact absurd there (by simp [code?, Hand.code?])
  all_goals rfl

/-- The worker was stopped and looked after; one that had acknowledged left with success. -/
structure Stopped (company last : Company) (code : ExitCode) : Prop where
  worker : last.worker = some (.reaped code)
  overtaken : last.overtaken = company.overtaken
  success : company.Released → code = some 0

/-- The worker will have left at some time, if it is let go on. -/
def Joinable (company : Company) : Prop :=
  ∃ between code, Run company between ∧ between.code? = some code

theorem joinable_of_leaving {code : ExitCode} (worker : company.worker = some (.leaving code)) :
    company.Joinable :=
  ⟨_, code, .single (.leave worker), rfl⟩

theorem joinable_of_exit (worker : company.worker = some .polling)
    (state : company.channel.state = .exit) : company.Joinable := by
  have pending : company.channel.poll = some .exit := by rw [Channel.poll, state]
  have read := Step.read worker pending
  have serve : Step (company.put (.serving .exit)) (company.put (.settling (.leave false 0))) :=
    .serve true .missing rfl rfl
  have settle := Step.settle (company.put_worker (.settling (.leave false 0)))
  exact ⟨_, some 0, .tail (.tail (.tail (.single read) serve) settle) (.leave rfl), rfl⟩

/-- A worker that is asked to leave while it is not at work leaves. -/
theorem Coherent.joinable (coherent : company.Coherent)
    (ready : company.channel.word = Channel.readyWord) :
    Joinable { company with channel := company.channel.store Channel.exitWord } := by
  obtain ⟨hand, worker⟩ := coherent.hired
  cases hand with
  | polling => exact joinable_of_exit worker rfl
  | serving => exact (coherent.free ready _ worker trivial).elim
  | settling => exact (coherent.free ready _ worker trivial).elim
  | leaving code => exact joinable_of_leaving worker
  | gone code => exact ⟨_, code, .refl, code?_eq_some_iff.mpr (.inl worker)⟩
  | reaped code => exact ⟨_, code, .refl, code?_eq_some_iff.mpr (.inr worker)⟩

theorem Coherent.joinable_kill (coherent : company.Coherent) : company.kill.Joinable := by
  obtain ⟨hand, worker⟩ := coherent.hired
  have killed : company.kill.worker = some hand.kill := by rw [kill, worker]; rfl
  cases hand with
  | gone code => exact ⟨_, code, .refl, code?_eq_some_iff.mpr (.inl killed)⟩
  | reaped code => exact ⟨_, code, .refl, code?_eq_some_iff.mpr (.inr killed)⟩
  | _ => exact ⟨_, none, .refl, code?_eq_some_iff.mpr (.inl killed)⟩

theorem Departing.run (departing : before.Departing) (run : Run before after) : after.Departing :=
  run.keeps _ (fun departing step => (Departing.step departing step).1) departing

theorem Departing.code (departing : company.Departing) {code : ExitCode}
    (left : company.code? = some code) : code = some 0 := by
  rcases departing with worker | worker
  · rw [code?, worker] at left
    cases left
  · rw [code?, worker] at left
    exact (Option.some.inj left).symm

/-- Waiting for the end of a worker that will leave. -/
theorem fulfils_joining {start : Company} (coordinator : Coordinator) (joinable : company.Joinable)
    (overtaken : company.overtaken = start.overtaken)
    (departing : start.Released → company.Departing) :
    coordinator.joining.Fulfils contract (fun result last => result.2 = coordinator ∧
      ∃ code, result.1 = .ok code ∧ Stopped start last code) company := by
  obtain ⟨between, code, run, left⟩ := joinable
  refine ⟨⟨.ok code, between.reap, between, code, run, left, rfl, rfl⟩, ?_⟩
  rintro _ _ ⟨between, code, run, left, rfl, rfl⟩
  refine ⟨rfl, code, rfl, worker_reap left, ?_, fun released => ?_⟩
  · exact run.overtaken.trans overtaken
  · exact ((departing released).run run).code left

/-- While the word is ready, a worker that is not at work leaves the channel alone. -/
theorem Coherent.run (coherent : before.Coherent)
    (ready : before.channel.word = Channel.readyWord) (run : Run before after) :
    after.Coherent ∧ after.channel.word = Channel.readyWord := by
  refine run.keeps (fun company => company.Coherent ∧
    company.channel.word = Channel.readyWord) ?_ ⟨coherent, ready⟩
  rintro before after ⟨coherent, ready⟩ step
  exact ⟨coherent.step step, coherent.ready ready step ▸ ready⟩

/-- A worker that was seen not to be at work is asked to leave. -/
theorem fulfils_dismissing {start : Company} (coordinator : Coordinator)
    (coherent : company.Coherent) (ready : company.channel.word = Channel.readyWord)
    (overtaken : company.overtaken = start.overtaken)
    (departing : start.Released → company.Departing) :
    coordinator.dismissing.Fulfils contract (fun result last => result.2 = coordinator ∧
      ∃ code, result.1 = .ok code ∧ Stopped start last code) company := by
  refine ⟨⟨_, company, .refl, rfl⟩, ?_⟩
  rintro _ seen ⟨run, rfl⟩
  obtain ⟨kept, still⟩ := coherent.run ready run
  show Fulfils _ _ (if seen.channel.word = Channel.readyWord then _ else _) _
  rw [if_pos still]
  refine ⟨⟨(), _, seen, .refl, rfl⟩, ?_⟩
  rintro _ _ ⟨found, further, rfl⟩
  obtain ⟨kept, still⟩ := kept.run still further
  refine fulfils_joining coordinator (kept.joinable still) ?_ fun released => ?_
  · exact (further.overtaken.trans run.overtaken).trans overtaken
  · exact (((departing released).run run).run further : found.Departing)

/-- **Stopping a worker is never stuck**, and in the end the worker is reaped. -/
theorem fulfils_stopWorker (coordinator : Coordinator) (coherent : company.Coherent) :
    (Coordinator.stopWorker.run.run coordinator).Fulfils contract (fun result last =>
      result.2 = coordinator ∧ ∃ code, result.1 = .ok code ∧ Stopped company last code)
      company := by
  rw [Coordinator.run_stopWorker]
  refine ⟨⟨_, _, company, .refl, rfl, rfl⟩, ?_⟩
  rintro _ _ ⟨found, run, rfl, rfl⟩
  have kept : found.Coherent := run.keeps _ Coherent.step coherent
  have released (start : company.Released) : found.Released := run.keeps _ Released.step start
  cases left : found.code? with
  | some code =>
    refine ⟨rfl, code, rfl, worker_reap left, run.overtaken, fun start => ?_⟩
    exact (released start).departing.code left
  | none =>
    rw [reap_of_code? left]
    refine ⟨⟨_, found, .refl, rfl⟩, ?_⟩
    rintro _ seen ⟨further, rfl⟩
    have kept : seen.Coherent := further.keeps _ Coherent.step kept
    have released (start : company.Released) : seen.Released :=
      further.keeps _ Released.step (released start)
    have same := further.overtaken.trans run.overtaken
    show Fulfils _ _ (if seen.channel.word = Channel.readyWord then _ else _) _
    split
    case isTrue ready =>
      exact fulfils_dismissing coordinator kept ready same fun start => (released start).departing
    case isFalse busy =>
      refine ⟨⟨(), _, seen, .refl, rfl⟩, ?_⟩
      rintro _ _ ⟨killed, further, rfl⟩
      have kept : killed.Coherent := further.keeps _ Coherent.step kept
      refine fulfils_joining coordinator kept.joinable_kill (further.overtaken.trans same) ?_
      exact fun start => absurd (released start).word busy

/-- The worker is stopped and reaped, unless the coordinator has let go of it before. -/
theorem secures_teardown (coordinator : Coordinator) (coherent : company.Coherent) :
    Secures contract Coordinator.teardown (fun outcome after last =>
      after = coordinator.detached ∧ last.overtaken = company.overtaken ∧
        (coordinator.attached = true → (∃ code, last.worker = some (.reaped code)) ∧
          (company.Released → outcome = .ok () ∧ last.worker = some (.reaped (some 0)))) ∧
        (coordinator.attached = false → outcome = .ok () ∧ last = company)) coordinator company := by
  unfold Secures
  rw [Coordinator.run_teardown]
  cases attached : coordinator.attached with
  | false =>
    have same : coordinator = coordinator.detached := by
      obtain ⟨policy, capacity, attached, dead, sent⟩ := coordinator
      subst attached
      rfl
    exact ⟨same, rfl, (nomatch ·), fun _ => ⟨rfl, rfl⟩⟩
  | true =>
    rw [if_pos rfl]
    refine Fulfils.bind (fulfils_stopWorker coordinator.detached coherent) ?_
    rintro ⟨_, _⟩ last ⟨rfl, code, rfl, stopped⟩
    refine ⟨⟨.ok (), last, rfl, rfl⟩, ?_⟩
    rintro _ _ ⟨rfl, rfl⟩
    refine ⟨rfl, stopped.overtaken, fun _ => ⟨⟨code, stopped.worker⟩, fun released => ?_⟩,
      (nomatch ·)⟩
    obtain rfl := stopped.success released
    exact ⟨rfl, stopped.worker⟩

/-! ### A handshake -/

theorem state_of_plain (plain : Channel.reserved rank = false) :
    Channel.State.ofWord rank = .identity rank := by
  simp only [Channel.reserved, Bool.or_eq_false_iff, beq_eq_false_iff_ne] at plain
  obtain ⟨⟨ready, call⟩, exit⟩ := plain
  rw [Channel.State.ofWord, if_neg ready, if_neg call, if_neg exit]

/-- An idle worker stays as it is. -/
theorem Idle.eq_of_run (idle : before.Idle) (run : Run before after) : after = before :=
  run.keeps (· = before) (fun same step => (idle.no_step (same ▸ step)).elim) rfl

/-- An idle worker is told a rank. -/
theorem Idle.greeted (idle : company.Idle) (plain : Channel.reserved rank = false) :
    Greeted rank { company with channel := company.channel.store rank } :=
  .told .polling (state_of_plain plain) idle.worker (.inl rfl)

/-- What a handshake comes to, from the end of its wait. -/
inductive Told (coordinator : Coordinator) (rank : UInt32) :
    Except Failure Bool → Coordinator → Company → Prop where
  | stays {last : Company} (zero : rank = 0) (idle : last.Idle) (prompt : last.overtaken = false) :
      Told coordinator rank (.ok true) coordinator last
  | leaves {last : Company} (other : rank ≠ 0) (worker : last.worker = some (.reaped (some 0)))
      (prompt : last.overtaken = false) :
      Told coordinator rank (.ok false) coordinator.detached last
  | overtaken {last : Company} {after : Coordinator} (other : rank ≠ 0)
      (worker : last.worker = some (.reaped (some 0))) (late : last.overtaken = true)
      (attached : after.attached = true) :
      Told coordinator rank (.error (.workerExit (some 0) "rank handshake")) after last
  | exhausted {last : Company} {after : Coordinator} {exhausted : Exhausted}
      (greeted : last.Greeted rank) (spent : coordinator.policy.spent exhausted.attempts = true)
      (prompt : last.overtaken = false) (attached : after.attached = true) :
      Told coordinator rank (.error (.poll exhausted)) after last

theorem isReady_iff : company.channel.isReady = true ↔ company.channel.word = Channel.readyWord := by
  rw [Channel.isReady, Channel.state, beq_iff_eq]
  refine ⟨fun ready => ?_, fun word => by rw [word]; rfl⟩
  have back := Channel.State.word_ofWord company.channel.word
  rw [ready] at back
  exact back.symm

/-- The worker acknowledges its rank at some time, if it is let go on. -/
theorem Greeted.acknowledges (greeted : company.Greeted rank) :
    ∃ later, Run company later ∧ later.channel.isReady = true := by
  cases greeted with
  | stays _ idle => exact ⟨company, .refl, isReady_iff.mpr idle.word⟩
  | leaves _ released => exact ⟨company, .refl, isReady_iff.mpr released.word⟩
  | told hand state worker stage =>
    let reaction : Reaction := if rank = 0 then .acknowledge else .leave true 0
    have settled {company : Company} (worker : company.worker = some (.settling reaction)) :
        ∃ later, Run company later ∧ later.channel.isReady = true := by
      refine ⟨_, .single (.settle worker), isReady_iff.mpr ?_⟩
      have stored : reaction.acknowledges = true := by
        by_cases zero : rank = 0
        · simp only [reaction, if_pos zero]; rfl
        · simp only [reaction, if_neg zero]; rfl
      show (Worker.settle company.channel reaction).word = _
      rw [Worker.settle, if_pos stored]
      rfl
    have served {company : Company} (worker : company.worker = some (.serving (.identity rank))) :
        ∃ later, Run company later ∧ later.channel.isReady = true := by
      have step : Step company (company.put (.settling reaction)) :=
        .serve true .missing worker rfl
      obtain ⟨later, run, ready⟩ := settled (company.put_worker (.settling reaction))
      exact ⟨later, .head step run, ready⟩
    obtain rfl | rfl | rfl := stage
    · have pending : company.channel.poll = some (.identity rank) := by rw [Channel.poll, state]
      obtain ⟨later, run, ready⟩ := served (company.put_worker (.serving (.identity rank)))
      exact ⟨later, .head (.read worker pending) run, ready⟩
    · exact served worker
    · exact settled worker

/-- The worker has acknowledged: it stays, or leaves. -/
inductive Met (rank : UInt32) (company : Company) : Prop where
  | stays (zero : rank = 0) (idle : company.Idle)
  | leaves (other : rank ≠ 0) (released : company.Released)

theorem Greeted.met (greeted : company.Greeted rank)
    (ready : company.channel.isReady = true) : company.Met rank := by
  cases greeted with
  | stays zero idle => exact .stays zero idle
  | leaves other released => exact .leaves other released
  | told hand state =>
    rw [Channel.isReady, state] at ready
    cases ready

/-- Only a worker that has acknowledged and is of no use can be seen to have left. -/
theorem Greeted.left (greeted : company.Greeted rank) {code : ExitCode}
    (left : company.code? = some code) : rank ≠ 0 ∧ code = some 0 ∧ company.Released := by
  cases greeted with
  | stays _ idle => rw [code?, idle.worker] at left; cases left
  | leaves other released => exact ⟨other, released.departing.code left, released⟩
  | told hand _ worker stage =>
    rw [code?, worker] at left
    obtain rfl | rfl | rfl := stage <;> cases left

/-- What a handshake comes to, when its wait has come to an end. -/
theorem fulfils_greeting (greeted : company.Greeted rank) (prompt : company.overtaken = false)
    (attached : coordinator.attached = true) {verdict : Verdict} {last : Company}
    (waits : Waits coordinator.policy 0 company verdict last) :
    (coordinator.greeting rank verdict).Fulfils contract
      (fun result => Told coordinator rank result.1 result.2) last := by
  have ends := waits.ends (fun company => company.Greeted rank ∧ company.overtaken = false)
    (fun ⟨greeted, prompt⟩ step => ⟨greeted.step step, step.overtaken.trans prompt⟩)
    ⟨greeted, prompt⟩
  cases ends with
  | left kept left =>
    obtain ⟨other, rfl, released⟩ := kept.1.left left
    exact .overtaken other (worker_reap left) (isReady_iff.mpr released.word) attached
  | exhausted kept spent => exact .exhausted kept.1 spent kept.2 attached
  | acknowledged kept ready =>
    rw [Coordinator.greeting]
    cases kept.1.met ready with
    | stays zero idle =>
      rw [if_pos zero]
      exact .stays zero idle kept.2
    | leaves other released =>
      rw [if_neg other]
      refine Fulfils.bind (secures_teardown coordinator released.coherent) ?_
      rintro ⟨_, _⟩ last ⟨rfl, same, stopped, -⟩
      obtain ⟨rfl, worker⟩ := (stopped attached).2 released
      exact .leaves other worker (same.trans kept.2)

/-- A handshake with a reserved word fails before anything is told. -/
theorem secures_handshake_reserved (attached : coordinator.attached = true)
    (taken : Channel.reserved rank = true) (idle : company.Idle) :
    Secures contract (Coordinator.handshake rank) (fun outcome after last =>
      outcome = .error (.channel (.reservedWord rank)) ∧ after = coordinator ∧ last = company)
      coordinator company := by
  unfold Secures
  rw [Coordinator.run_handshake, if_pos attached]
  refine ⟨⟨_, company, .refl, rfl⟩, ?_⟩
  rintro _ _ ⟨run, rfl⟩
  obtain rfl := idle.eq_of_run run
  beta_reduce
  rw [if_pos idle.word, if_pos taken]
  exact ⟨rfl, rfl, rfl⟩

/-- **What a handshake comes to**, in the company of an idle worker. -/
theorem secures_handshake (attached : coordinator.attached = true)
    (plain : Channel.reserved rank = false) (idle : company.Idle)
    (prompt : company.overtaken = false) :
    Secures contract (Coordinator.handshake rank) (Told coordinator rank) coordinator company := by
  unfold Secures
  rw [Coordinator.run_handshake, if_pos attached]
  refine ⟨⟨_, company, .refl, rfl⟩, ?_⟩
  rintro _ _ ⟨run, rfl⟩
  obtain rfl := idle.eq_of_run run
  beta_reduce
  rw [if_pos idle.word, if_neg (Bool.eq_false_iff.mp plain)]
  refine ⟨⟨(), _, _, .refl, rfl⟩, ?_⟩
  rintro _ _ ⟨_, run, rfl⟩
  obtain rfl := idle.eq_of_run run
  have greeted := idle.greeted plain
  obtain ⟨later, run, ready⟩ := greeted.acknowledges
  refine ⟨⟨_, later, .acknowledged run ready⟩, ?_⟩
  exact fun verdict last waits => fulfils_greeting greeted prompt attached waits

/-- **A worker that is of no use is let go**, in every order of its steps and the coordinator's,
unless the attempts are used up or it acknowledges and leaves between the load of the word and the
look at the worker in one probe: then its end is taken for a failure. -/
theorem handshake_unless_overtaken (attached : coordinator.attached = true)
    (plain : Channel.reserved rank = false) (other : rank ≠ 0) (idle : company.Idle)
    (prompt : company.overtaken = false) :
    (∃ result last, ((Coordinator.handshake rank).run.run coordinator).Yields contract company
      result last) ∧
    ∀ result last,
      ((Coordinator.handshake rank).run.run coordinator).Yields contract company result last →
      (last.overtaken = false →
        (result.1 = .ok false ∧ result.2.attached = false ∧
          last.worker = some (.reaped (some 0))) ∨
        ∃ exhausted, result.1 = .error (.poll exhausted) ∧
          coordinator.policy.spent exhausted.attempts = true) ∧
      (last.overtaken = true → result.1 = .error (.workerExit (some 0) "rank handshake")) := by
  have secures := secures_handshake attached plain idle prompt
  refine ⟨?_, ?_⟩
  · obtain ⟨result, last, comes, -⟩ := secures.comes
    exact ⟨result, last, comes⟩
  · rintro ⟨outcome, after⟩ last comes
    have told : Told coordinator rank outcome after last := secures.yields comes
    cases told with
    | stays zero => exact absurd zero other
    | leaves _ worker prompt =>
      exact ⟨fun _ => .inl ⟨rfl, rfl, worker⟩, fun late => absurd (prompt.symm.trans late) nofun⟩
    | overtaken _ _ late =>
      exact ⟨fun prompt => absurd (prompt.symm.trans late) nofun, fun _ => rfl⟩
    | exhausted _ spent prompt =>
      exact ⟨fun _ => .inr ⟨_, rfl, spent⟩, fun late => absurd (prompt.symm.trans late) nofun⟩

theorem idle_fresh (commandLog : Option Path) : (fresh commandLog).Idle := ⟨rfl, rfl⟩

/-- The worker of rank five. -/
theorem handshake_unless_overtaken_five :
    let coordinator : Coordinator := { policy := .every 1000 }
    coordinator.attached = true ∧ Channel.reserved 5 = false ∧ (5 : UInt32) ≠ 0 ∧
    (fresh none).Idle ∧ (fresh none).overtaken = false ∧
    ∃ result last,
      ((Coordinator.handshake 5).run.run coordinator).Yields contract (fresh none) result last ∧
      (last.overtaken = false → result.1 = .ok false) := by
  intro coordinator
  have attached : coordinator.attached = true := rfl
  have plain : Channel.reserved 5 = false := by decide
  have other : (5 : UInt32) ≠ 0 := by decide
  obtain ⟨⟨result, last, comes⟩, all⟩ :=
    handshake_unless_overtaken attached plain other (idle_fresh none) rfl
  refine ⟨attached, plain, other, idle_fresh none, rfl, result, last, comes, fun prompt => ?_⟩
  rcases (all result last comes).1 prompt with ⟨same, -⟩ | ⟨exhausted, -, spent⟩
  · exact same
  · cases spent

/-- The worker of rank five acknowledges and leaves between two accesses of the coordinator. -/
theorem handshake_overtaken_five :
    ∃ last, ((Coordinator.handshake 5).run.run { policy := .every 1000 }).Yields contract
      (fresh none)
      (.error (.workerExit (some 0) "rank handshake"), { policy := .every 1000, dead := true })
      last := by
  let told : Company := { fresh none with channel := (fresh none).channel.store 5 }
  let leaving : Company :=
    { told with channel := told.channel.acknowledge, worker := some (.leaving (some 0)) }
  let gone : Company := leaving.put (.gone (some 0))
  have read : Step told (told.put (.serving (.identity 5))) := .read rfl rfl
  have serve : Step (told.put (.serving (.identity 5))) (told.put (.settling (.leave true 0))) :=
    .serve true .missing rfl rfl
  have settle : Step (told.put (.settling (.leave true 0))) leaving :=
    Step.settle (told.put_worker (.settling (.leave true 0)))
  have leave : Step leaving gone := .leave rfl
  have run : Run told gone := .tail (.tail (.tail (.single read) serve) settle) leave
  have looks : Answers (fresh none) .look Channel.readyWord (fresh none) := ⟨.refl, rfl⟩
  have posts : Answers (fresh none) (.post 5) () told := ⟨_, .refl, rfl⟩
  have waits : Waits (.every 1000) 0 told (.left (some 0)) { gone.reap with overtaken := true } :=
    .left .refl rfl run rfl
  -- A post says nothing about its answer, so that is named here.
  exact ⟨_, .ask looks (@Yields.ask _ _ _ (.post 5) _ () _ told _ _ posts
    (.ask waits (.done _ _)))⟩

end Company

end KernelCache
