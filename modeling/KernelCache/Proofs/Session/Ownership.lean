import KernelCache.Proofs.Coordinator.Handshake
import KernelCache.Proofs.Session.Creation

/-
**Who has a worker.**

A session may have a coordinator, and its worker may be running. What decides is the rank, which the
worker is told, and whether the member calls itself the root, which decides who hires one.

* `Session.Served`: the session has a coordinator whose worker waits for a command.
* `Company.Deserted`: no process of a worker is left.
* `Session.Served.hands_over` and `Session.Served.builds`: such a session can run commands.
* **`Session.worker_owned`**: a new session is served exactly when the member has rank zero, and was
  the root or had a worker ahead; otherwise no worker is left.
-/

namespace KernelCache

open KernelCache.Action

namespace Company

variable {company : Company}

/-- There is no worker and no channel. -/
def vacant : Company where
  channel := { capacity := 0, word := Channel.readyWord, written := [] }

/-- No process of a worker is left. -/
def Deserted (company : Company) : Prop :=
  company.worker = none ∨ ∃ code, company.worker = some (.reaped code)

theorem Idle.not_deserted (idle : company.Idle) : ¬ company.Deserted := by
  rintro (none | ⟨code, reaped⟩)
  · rw [idle.worker] at none
    cases none
  · rw [idle.worker] at reaped
    cases reaped

/-! ### Letting a worker go -/

theorem fulfils_shutdown {coordinator : Coordinator} (attached : coordinator.attached = true)
    (coherent : company.Coherent) :
    coordinator.shutdown.run.Fulfils contract (fun _ last => last.Deserted) company :=
  Fulfils.bind (secures_teardown coordinator coherent) fun _ _ ⟨_, _, stopped, _⟩ =>
    .inr (stopped attached).1

theorem fulfils_abandon {coordinator : Coordinator} (attached : coordinator.attached = true)
    (coherent : company.Coherent) :
    coordinator.abandon.Fulfils contract (fun _ last => last.Deserted) company :=
  Fulfils.bind (fulfils_shutdown attached coherent) fun _ _ deserted => deserted

end Company

namespace Session

open Company

variable {company : Company} {config : Config} {member : Member}

/-- What telling a worker its rank comes to: it stays, it has left, or the creation failed. -/
inductive Introduced (coordinator : Coordinator) (rank : UInt32) (last : Company) :
    Except Failure (Bool × Coordinator) → Prop where
  | stays (zero : rank = 0) (idle : last.Idle) :
      Introduced coordinator rank last (.ok (true, coordinator))
  | leaves (other : rank ≠ 0) (deserted : last.Deserted) :
      Introduced coordinator rank last (.ok (false, coordinator.detached))
  | failed (failure : Failure) (deserted : last.Deserted) :
      Introduced coordinator rank last (.error failure)

/-- A worker is told its rank; when that fails it is let go. -/
theorem introduced {coordinator : Coordinator} (attached : coordinator.attached = true)
    (rank : UInt32) (idle : company.Idle) (prompt : company.overtaken = false) :
    (introduce coordinator rank).run.Fulfils contract
      (fun outcome last => Introduced coordinator rank last outcome) company := by
  have fails {failure : Failure} {after : Coordinator} {last : Company}
      (held : after.attached = true) (coherent : last.Coherent) :
      ((after.abandon).bind fun _ => .done (.error failure)).Fulfils contract
        (fun outcome last => Introduced coordinator rank last outcome) last :=
    Fulfils.bind (Company.fulfils_abandon held coherent) fun _ _ deserted => .failed failure deserted
  cases plain : Channel.reserved rank with
  | false =>
    refine Fulfils.bind (secures_handshake attached plain idle prompt) ?_
    rintro ⟨outcome, after⟩ last told
    cases told with
    | stays zero idle => exact .stays zero idle
    | leaves other worker => exact .leaves other (.inr ⟨_, worker⟩)
    | overtaken _ worker _ held => exact fails held (coherent_of_free _ worker id)
    | exhausted greeted _ _ held => exact fails held greeted.coherent
  | true =>
    refine Fulfils.bind (secures_handshake_reserved attached plain idle) ?_
    rintro ⟨_, _⟩ _ ⟨rfl, rfl, rfl⟩
    exact fails attached idle.coherent

/-- **A worker can be told every rank** that is no word of the channel. -/
theorem introduces {coordinator : Coordinator} (attached : coordinator.attached = true)
    {rank : UInt32} (plain : Channel.reserved rank = false) (idle : company.Idle) :
    ∃ result last, (introduce coordinator rank).run.Yields contract company (.ok result) last := by
  have greeted := idle.greeted plain
  obtain ⟨ready, run, acknowledged⟩ := greeted.acknowledges
  have greets : ∃ stays after last, (coordinator.greeting rank .acknowledged).Yields contract ready
      (.ok stays, after) last := by
    rw [Coordinator.greeting]
    cases (run.keeps _ Greeted.step greeted).met acknowledged with
    | stays zero =>
      rw [if_pos zero]
      exact ⟨true, coordinator, ready, .done _ _⟩
    | leaves other released =>
      rw [if_neg other]
      obtain ⟨⟨outcome, after⟩, last, torn, -, -, done, -⟩ :=
        (secures_teardown coordinator released.coherent).comes
      obtain rfl : outcome = .ok () := ((done attached).2 released).1
      exact ⟨false, after, last, torn.bind (.done _ _)⟩
  obtain ⟨stays, after, last, greets⟩ := greets
  have looks : Answers company .look Channel.readyWord company := ⟨.refl, idle.word.symm⟩
  have posts : Answers company (.post rank) ()
      { company with channel := company.channel.store rank } := ⟨_, .refl, rfl⟩
  have shakes : ((Coordinator.handshake rank).run.run coordinator).Yields contract company
      (.ok stays, after) last := by
    rw [Coordinator.run_handshake, if_pos attached]
    refine .ask looks ?_
    rw [if_pos rfl, if_neg (Bool.eq_false_iff.mp plain)]
    exact @Yields.ask _ _ _ (.post rank) _ () _ _ _ _ posts
      (.ask (.acknowledged run acknowledged) greets)
  exact ⟨(stays, after), last, shakes.bind (.done _ _)⟩

/-! ### New sessions -/

/-- The session has a coordinator whose worker waits for a command. -/
structure Served (session : Session) (company : Company) : Prop where
  owned : ∃ coordinator, session.coordinator = some coordinator ∧ coordinator.attached = true ∧
    coordinator.dead = false ∧ coordinator.capacity = Channel.pageCapacity
  idle : company.Idle

/-- The session has no coordinator, or one without a channel, and no worker is left. -/
structure Unserved (session : Session) (company : Company) : Prop where
  apart : ∀ coordinator, session.coordinator = some coordinator →
    coordinator.attached = false ∧ coordinator.dead = false
  deserted : company.Deserted

/-- What a creation leads to, for a member that is to have a worker or not. -/
inductive Creates (config : Config) (member : Member) (owner : Prop) (last : Company) :
    Except Failure Session → Prop where
  | served {coordinator : Coordinator} (owns : owner)
      (served : (assemble config member (some coordinator)).Served last) :
      Creates config member owner last (.ok (assemble config member (some coordinator)))
  | unserved {coordinator : Option Coordinator} (not : ¬ owner)
      (unserved : (assemble config member coordinator).Unserved last) :
      Creates config member owner last (.ok (assemble config member coordinator))
  | failed (failure : Failure) (deserted : last.Deserted) :
      Creates config member owner last (.error failure)

theorem served_assemble {coordinator : Coordinator} (attached : coordinator.attached = true)
    (alive : coordinator.dead = false) (capacity : coordinator.capacity = Channel.pageCapacity)
    (idle : company.Idle) : (assemble config member (some coordinator)).Served company :=
  ⟨⟨coordinator, rfl, attached, alive, capacity⟩, idle⟩

theorem unserved_assemble (deserted : company.Deserted) :
    (assemble config member none).Unserved company :=
  ⟨nofun, deserted⟩

/-- A worker is hired, or there is still none. -/
theorem hires (config : Config) :
    (Coordinator.hire config).run.Fulfils contract (fun outcome last => match outcome with
      | .ok coordinator => coordinator = { policy := config.poll.policy } ∧
          last = .fresh config.commandLog
      | .error _ => last = .vacant) .vacant := by
  show Fulfils _ _ ((Action.hire config.commandLog).bind _) _
  refine ⟨⟨.ok (), _, .inl ⟨rfl, rfl⟩⟩, ?_⟩
  rintro hired last (⟨rfl, rfl⟩ | ⟨failure, rfl, rfl⟩)
  · exact ⟨rfl, rfl⟩
  · exact rfl

theorem creates_start (config : Config) (member : Member) :
    (start config member).run.Fulfils contract (fun outcome last =>
      Creates config member (member.rank = 0 ∧ member.isRoot = true) last outcome) .vacant := by
  unfold start
  rw [run_exceptBind, run_validated, done_bind]
  cases config.validate with
  | error failure => exact .failed failure (.inl rfl)
  | ok value =>
    show Fulfils _ _ (ExceptT.run (if member.isRoot = true then _ else _)) _
    split
    case isFalse other =>
      exact .unserved (fun owner => other owner.2) (unserved_assemble (.inl rfl))
    case isTrue root =>
      rw [run_exceptBind]
      refine Fulfils.bind (hires config) ?_
      rintro (failure | coordinator) line hired
      · obtain rfl : line = .vacant := hired
        exact .failed failure (.inl rfl)
      · obtain ⟨rfl, rfl⟩ : coordinator = _ ∧ line = _ := hired
        dsimp only
        rw [run_exceptBind]
        refine Fulfils.bind (introduced rfl member.rank (idle_fresh _) rfl) ?_
        rintro outcome last told
        cases told with
        | stays zero idle => exact .served ⟨zero, root⟩ (served_assemble rfl rfl rfl idle)
        | leaves other deserted =>
          refine .unserved (fun owner => other owner.1) ⟨?_, deserted⟩
          rintro _ ⟨⟩
          exact ⟨rfl, rfl⟩
        | failed failure deserted => exact .failed failure deserted

theorem creates_attach (config : Config) (member : Member) :
    (Prefork.attach { config, coordinator := { policy := config.poll.policy } } member).run.Fulfils
      contract (fun outcome last => Creates config member (member.rank = 0) last outcome)
      (.fresh config.commandLog) := by
  unfold Prefork.attach
  rw [run_exceptBind]
  refine Fulfils.bind (introduced rfl member.rank (idle_fresh _) rfl) ?_
  rintro outcome last told
  cases told with
  | stays zero idle => exact .served zero (served_assemble rfl rfl rfl idle)
  | leaves other deserted => exact .unserved other (unserved_assemble deserted)
  | failed failure deserted => exact .failed failure deserted

/-- **Who has a worker after a creation.** -/
theorem creates (ahead : Bool) (config : Config) (member : Member) :
    (create ahead config member).run.Fulfils contract (fun outcome last =>
      Creates config member (member.rank = 0 ∧ (ahead = true ∨ member.isRoot = true)) last outcome)
      .vacant := by
  cases ahead with
  | false =>
    refine (creates_start config member).mono fun outcome last created => ?_
    simpa using created
  | true =>
    show Fulfils _ _ (ExceptT.run (prefork config >>= fun ahead => _)) _
    rw [run_exceptBind]
    unfold prefork
    rw [run_exceptBind, run_validated, done_bind]
    cases config.validate with
    | error failure => exact .failed failure (.inl rfl)
    | ok value =>
      dsimp only
      rw [run_exceptBind, bind_bind]
      refine Fulfils.bind (hires config) ?_
      rintro (failure | coordinator) line hired
      · obtain rfl : line = .vacant := hired
        exact .failed failure (.inl rfl)
      · obtain ⟨rfl, rfl⟩ : coordinator = _ ∧ line = _ := hired
        refine (creates_attach config member).mono fun outcome last created => ?_
        simpa using created

/-- A worker can be hired. -/
theorem yields_hire (config : Config) :
    (Coordinator.hire config).run.Yields contract .vacant (.ok { policy := config.poll.policy })
      (.fresh config.commandLog) := by
  have hired : Answers .vacant (.hire config.commandLog) (.ok ()) (.fresh config.commandLog) :=
    .inl ⟨rfl, rfl⟩
  exact .ask hired (.done _ _)

/-- **A session can be created** for every rank that is no word of the channel. -/
theorem exists_created (ahead : Bool) (accepted : config.validate = .ok ())
    (plain : Channel.reserved member.rank = false) :
    ∃ session last, (create ahead config member).run.Yields contract .vacant (.ok session) last := by
  have valid : (validated config).run = .done (.ok ()) := by rw [run_validated, accepted]
  obtain ⟨⟨stays, after⟩, last, told⟩ : ∃ result last,
      (introduce { policy := config.poll.policy } member.rank).run.Yields contract
        (.fresh config.commandLog) (.ok result) last :=
    introduces rfl plain (idle_fresh _)
  cases ahead with
  | false =>
    show ∃ session last, (start config member).run.Yields _ _ _ _
    unfold start
    rw [run_exceptBind, valid, done_bind]
    dsimp only
    split
    case isFalse => exact ⟨_, _, .done _ _⟩
    case isTrue =>
      refine ⟨assemble config member (some after), last, ?_⟩
      rw [run_exceptBind]
      refine (yields_hire config).bind ?_
      dsimp only
      rw [run_exceptBind]
      exact told.bind (.done _ _)
  | true =>
    have preforked : (prefork config).run.Yields contract .vacant
        (.ok { config, coordinator := { policy := config.poll.policy } })
        (.fresh config.commandLog) := by
      unfold prefork
      rw [run_exceptBind, valid, done_bind]
      dsimp only
      rw [run_exceptBind]
      exact (yields_hire config).bind (.done _ _)
    have attached : ∃ session, (Prefork.attach { config, coordinator := {
        policy := config.poll.policy } } member).run.Yields contract (.fresh config.commandLog)
        (.ok session) last := by
      unfold Prefork.attach
      simp only [run_exceptBind]
      have introduced := (introduced rfl member.rank (idle_fresh _) rfl).yields told
      cases introduced with
      | stays => exact ⟨_, told.bind (.done _ _)⟩
      | leaves => exact ⟨_, told.bind (.done _ _)⟩
    obtain ⟨session, attached⟩ := attached
    refine ⟨session, last, ?_⟩
    show Yields _ (ExceptT.run (prefork config >>= fun ahead => _)) _ _ _
    rw [run_exceptBind]
    exact preforked.bind attached

/-! ### What such a session can do -/

end Session

namespace Company

variable {company : Company}

/-- The worker runs the command that waits, and acknowledges. -/
theorem exists_idle_of_call (worker : company.worker = some .polling)
    (state : company.channel.state = .call) : ∃ later, Run company later ∧ later.Idle := by
  have pending : company.channel.poll = some (.call company.channel.command) := by
    rw [Channel.poll, state]
  have reacts : (Worker.react (Worker.recorded true (.left 0)) company.commandLog
      (.call company.channel.command)).run [] =
      (.acknowledge, [(company.channel.command, .left 0)]) := by
    cases company.commandLog <;> rfl
  have read := Step.read worker pending
  have serve : Step (company.put (.serving (.call company.channel.command)))
      (company.put (.settling .acknowledge)) := .serve true (.left 0) rfl reacts
  have settle := Step.settle (company.put_worker (.settling .acknowledge))
  exact ⟨_, .tail (.tail (.single read) serve) settle, rfl, rfl⟩

/-- What a call posts to an idle worker. -/
def handed (company : Company) (command : Bytes) : Company :=
  { company with channel := (company.channel.putCommand command).store Channel.callWord }

theorem Idle.exists_idle_of_handed (idle : company.Idle) (command : Bytes) :
    ∃ later, Run (company.handed command) later ∧ later.Idle :=
  exists_idle_of_call idle.worker rfl

/-- **A command that fits is handed to an idle worker**, and may succeed. -/
theorem Idle.call (idle : company.Idle) {coordinator : Coordinator} (step : KernelCache.Step)
    {command : Bytes} (accepted : coordinator.refusal? command = none) :
    Secures contract (Coordinator.call step command)
        (fun _ after _ => after.sent = coordinator.sent + 1) coordinator company ∧
      ∃ last, ((Coordinator.call step command).run.run coordinator).Yields contract company
        (.ok (), coordinator.afterSend) last ∧ last.Idle := by
  obtain ⟨later, run, again⟩ := idle.exists_idle_of_handed command
  have waits : Waits coordinator.policy 0 (company.handed command) .acknowledged later :=
    .acknowledged run (isReady_iff.mpr again.word)
  let filled : Company := { company with channel := company.channel.putCommand command }
  have still : filled.Idle := ⟨idle.word, idle.worker⟩
  unfold Secures
  rw [Coordinator.run_call, accepted]
  refine ⟨?_, later, ?_, again⟩
  · refine ⟨⟨_, company, .refl, rfl⟩, ?_⟩
    rintro _ _ ⟨run, rfl⟩
    obtain rfl := idle.eq_of_run run
    show Fulfils _ _ (if _ = Channel.readyWord then _ else _) _
    rw [if_pos idle.word]
    refine ⟨⟨(), filled, _, .refl, rfl⟩, ?_⟩
    rintro _ _ ⟨_, run, rfl⟩
    obtain rfl := idle.eq_of_run run
    refine ⟨⟨(), _, filled, .refl, rfl⟩, ?_⟩
    rintro _ _ ⟨_, run, rfl⟩
    obtain rfl := still.eq_of_run run
    exact ⟨⟨_, later, waits⟩, fun _ _ _ => rfl⟩
  · have looks : Answers company .look Channel.readyWord company := ⟨.refl, idle.word.symm⟩
    have fills : Answers company (.fill command) () filled := ⟨company, .refl, rfl⟩
    have posts : Answers filled (.post Channel.callWord) () (company.handed command) :=
      ⟨filled, .refl, rfl⟩
    have concluded : coordinator.concluding step command .acknowledged =
        .done (.ok (), coordinator.afterSend) := by
      unfold Coordinator.concluding Coordinator.afterWait Coordinator.afterSend
      cases coordinator.dead <;> rfl
    refine .ask looks ?_
    show Yields _ (if Channel.readyWord = Channel.readyWord then _ else _) _ _ _
    rw [if_pos rfl]
    refine @Yields.ask _ _ _ (.fill command) _ () _ filled _ _ fills ?_
    refine @Yields.ask _ _ _ (.post Channel.callWord) _ () _ (company.handed command) _ _ posts ?_
    refine .ask waits ?_
    rw [concluded]
    exact .done _ _

end Company

namespace Session

open Company

variable {session : Session} {company : Company}

theorem Served.refusal? {coordinator : Coordinator} {command : Bytes}
    (attached : coordinator.attached = true) (alive : coordinator.dead = false)
    (fits : Channel.fits coordinator.capacity command = .ok ()) :
    coordinator.refusal? command = none := by
  rw [Coordinator.refusal?, alive, Coordinator.unfit?, attached, fits]
  rfl

/-- **A session that is served hands every command that fits to its worker.** -/
theorem Served.hands_over (served : session.Served company) (step : KernelCache.Step)
    {command : Bytes} (fits : Channel.fits Channel.pageCapacity command = .ok ()) :
    Secures contract (onCoordinator (Coordinator.call step command))
      (fun _ after _ => after.sent = session.sent + 1) session company := by
  obtain ⟨coordinator, owned, attached, alive, capacity⟩ := served.owned
  have accepted := Served.refusal? attached alive (capacity ▸ fits)
  refine secures_onCoordinator owned (served.idle.call step accepted).1 fun _ after _ sent => ?_
  show after.sent = _
  rw [sent, Session.sent, owned]
  rfl

/-- The session after it has handed some commands to its worker. -/
structure Follows (after session : Session) (commands : Nat) : Prop where
  besides : after.besides = session.besides
  sent : after.sent = session.sent + commands

theorem Served.calls (served : session.Served company) (step : KernelCache.Step) {command : Bytes}
    (fits : Channel.fits Channel.pageCapacity command = .ok ()) :
    ∃ after last, ((onCoordinator (Coordinator.call step command)).run.run session).Yields contract
      company (.ok (), after) last ∧ after.Follows session 1 ∧ after.Served last := by
  obtain ⟨coordinator, owned, attached, alive, capacity⟩ := served.owned
  have accepted := Served.refusal? attached alive (capacity ▸ fits)
  obtain ⟨last, comes, idle⟩ := (served.idle.call step accepted).2
  obtain ⟨config, member, _, cache⟩ := session
  subst owned
  exact ⟨_, last, comes.bind (.done _ _), ⟨rfl, rfl⟩,
    ⟨_, rfl, attached, alive, capacity⟩, idle⟩

/-- Commands that fit can be run one after the other. -/
theorem Served.callAll {steps : List (KernelCache.Step × Bytes)} (served : session.Served company)
    (fits : ∀ step ∈ steps, Channel.fits Channel.pageCapacity step.2 = .ok ()) :
    ∃ after last, ((Session.callAll steps).run.run session).Yields contract company
      (.ok (), after) last ∧ after.Follows session steps.length ∧ after.Served last := by
  induction steps generalizing session company with
  | nil => exact ⟨session, company, .done _ _, ⟨rfl, rfl⟩, served⟩
  | cons step rest ih =>
    obtain ⟨here, there⟩ := List.forall_mem_cons.mp fits
    obtain ⟨between, middle, first, one, served⟩ := served.calls step.1 here
    obtain ⟨after, last, second, more, served⟩ := ih served there
    refine ⟨after, last, first.step second, ⟨more.besides.trans one.besides, ?_⟩, served⟩
    rw [more.sent, one.sent, List.length_cons]
    omega

/-- Commands that fit are taken. -/
theorem Served.takes {steps : List (KernelCache.Step × Bytes)} (served : session.Served company)
    (fits : ∀ step ∈ steps, Channel.fits Channel.pageCapacity step.2 = .ok ()) :
    session.Takes steps := by
  obtain ⟨coordinator, owned, attached, alive, capacity⟩ := served.owned
  intro step inside
  refine ⟨coordinator, owned, ?_⟩
  rw [Coordinator.unfit?, attached, capacity, fits step inside]
  rfl

/-- **A session that is served can build**: every command runs, when its directory can be written
and all tools succeed. -/
theorem Served.builds (served : session.Served company) {kernel : Kernel}
    {steps : List (KernelCache.Step × Bytes)}
    (written : session.config.buildSteps kernel = .ok steps)
    (fits : ∀ step ∈ steps, Channel.fits Channel.pageCapacity step.2 = .ok ()) :
    ∃ after last, ((build kernel).run.run session).Yields contract company (.ok (), after) last ∧
      after.Follows session steps.length ∧ after.Served last := by
  obtain ⟨after, last, called, follows, still⟩ := served.callAll fits
  have checked : ((checkAll steps).run.run session).Yields contract company (.ok (), session)
      company := by
    rw [run_checkAll_taken (served.takes fits)]
    exact .done _ _
  have resolves : ((resolved (session.config.buildSteps kernel)).run.run session).Yields contract
      company (.ok steps, session) company := written ▸ yields_resolved
  have wrote (path : Path) (text : Bytes) :
      contract.answers company (.writeSource path text) (.ok ()) company := rfl
  have removed (path : Path) : contract.answers last (.remove path) () last := rfl
  refine ⟨after, last, ?_, follows, still⟩
  refine .get (resolves.step (checked.step (.put (wrote _ _) ?_)))
  refine (yields_observing called).step ?_
  refine @Yields.put _ _ _ _ _ (.remove _) _ () _ _ _ _ (removed _) ?_
  refine @Yields.put _ _ _ _ _ (.remove _) _ () _ _ _ _ (removed _) ?_
  exact yields_resolved

/-- All members agree on a success. -/
theorem yields_agree_ok {α : Type} (value : α) (session : Session) (company : Company) :
    ((agree (.ok value)).run.run session).Yields contract company (.ok value, session) company :=
  @yields_agree _ _ contract session company (.ok value) false company ⟨id, rfl⟩

/-- The flags of the members are those of this one. -/
theorem yields_combine {α : Type} (flag : Bool) {next : Bool → SessionM α}
    {result : Except Failure α × Session} {last : Company}
    (rest : ((next flag).run.run session).Yields contract company result last) :
    ((liftM (Action.combine flag) >>= next).run.run session).Yields contract company result last :=
  @Yields.put _ _ _ _ _ (.combine flag) _ flag _ _ _ _ ⟨id, rfl⟩ rest

/-- The library is absent, and so is the archive. -/
theorem yields_probeLibrary (session : Session) (company : Company) :
    (probeLibrary.run.run session).Yields contract company
      (.ok (), { session with cache := session.cache.afterProbe }) company := by
  have absent (path : Path) : contract.answers company (.present path) false company := rfl
  have probed : ((onCache Cache.probe).run.run session).Yields contract company
      (.ok false, { session with cache := session.cache.afterProbe }) company := by
    show Yields _ ((Cache.probe.run.run session.cache).bind _) _ _ _
    rw [Cache.run_probe]
    exact @Yields.ask _ _ _ (.present _) _ false _ _ _ _ (absent _) (.done _ _)
  have restored (session : Session) : ((do
      if (← get).member.isRoot then relink else return false : SessionM Bool).run.run
        session).Yields contract company (.ok false, session) company := by
    refine .get ?_
    split
    · refine .get ?_
      exact (@Yields.put _ _ _ _ _ (.present _) _ false _ _ _ _ (absent _) (.done _ _))
    · exact .done _ _
  refine probed.step (yields_combine true ?_)
  refine (yields_observing (restored _)).step ((yields_agree_ok false _ _).step ?_)
  exact yields_combine false (.done _ _)

/-- A fresh image can be loaded. -/
theorem yields_loadFresh {α : Type} {path : Path} {use : Image → Except Failure α} {value : α}
    {image : Image} (used : use image = .ok value) (session : Session) (company : Company) :
    ((loadFresh path use).run.run session).Yields contract company
      (.ok value, { session with cache := session.cache.retain image }) company := by
  have opened : contract.answers company (.openImage path) (.ok image) company := rfl
  have removed : contract.answers company (.remove path) () company := rfl
  have loads : ((onCache (Cache.load path)).run.run session).Yields contract company
      (.ok image, { session with cache := session.cache.retain image }) company := by
    rw [run_load]
    exact .ask opened (.done _ _)
  have loaded : ((do resolved (use (← onCache (Cache.load path))) : SessionM α).run.run
      session).Yields contract company
      (.ok value, { session with cache := session.cache.retain image }) company :=
    loads.step (used ▸ yields_resolved)
  refine (yields_observing loaded).step ?_
  refine (yields_observing (yields_agree_ok value _ _)).step (.get ?_)
  split
  · exact @Yields.put _ _ _ _ _ (.remove _) _ () _ _ _ _ removed (.done _ _)
  · exact .done _ _

/-- **The root that is served can build what it misses**: a lookup of a new session hands the
commands of its kernel to the worker, and returns a symbol. -/
theorem Served.looks_up (served : session.Served company) (root : session.member.isRoot = true)
    (new : session.cache = { layout := session.config.layout }) {kernel : Kernel}
    {steps : List (KernelCache.Step × Bytes)}
    (written : session.config.buildSteps kernel = .ok steps)
    (fits : ∀ step ∈ steps, Channel.fits Channel.pageCapacity step.2 = .ok ()) :
    ∃ symbol after last, ((lookup kernel).run.run session).Yields contract company
      (.ok symbol, after) last ∧ after.sent = session.sent + steps.length := by
  let looked : Session := { session with cache := session.cache.afterProbe }
  let symbol : KernelSymbol := { entry := { mapping := 0, name := kernel.symbol }, image := 0 }
  let image : Image := { serial := 0, exports := [(Image.plainName kernel.symbol, symbol.entry)] }
  have found : image.find? kernel.symbol = some symbol := by
    rw [Image.find?, List.lookup_cons, beq_self_eq_true]
    rfl
  have still : looked.Served company := ⟨served.owned, served.idle⟩
  obtain ⟨after, last, builds, follows, -⟩ := still.builds written fits
  have built : ((do if (← get).member.isRoot then build kernel else return () :
      SessionM Unit).run.run looked).Yields contract company (.ok (), after) last := by
    refine .get ?_
    rw [if_pos root]
    exact builds
  have missed : looked.cache.resolve? kernel.symbol = none := by
    show session.cache.resolve? _ = none
    rw [new]
    rfl
  let retained : Session := { after with cache := after.cache.retain image }
  have fresh : ((buildAndLoad kernel).run.run looked).Yields contract company
      (.ok symbol, retained) last := by
    refine (yields_observing built).step ((yields_agree_ok () _ _).step (.get ?_))
    refine @yields_loadFresh _ _ _ symbol image ?_ after last
    rw [found]
  let kept : Session :=
    { retained with cache := retained.cache.remember kernel.hash symbol }
  have finds : ((find kernel).run.run looked).Yields contract company (.ok symbol, kept) last := by
    refine .get (yields_combine _ ?_)
    rw [missed]
    exact fresh.step (.done _ _)
  refine ⟨symbol, kept, last, .get ?_, follows.sent⟩
  have unknown : session.cache.remembered? kernel.hash = none := by
    rw [new]
    rfl
  have unprobed : session.cache.probed = false := by rw [new]
  rw [unknown]
  refine .get ?_
  rw [unprobed]
  exact (yields_probeLibrary session company).step finds

/-! ### Who has a worker -/

/-- The session owns a worker that runs, takes every command that fits, and builds what the first
lookup of a root misses. -/
structure Employs (session : Session) (company : Company) : Prop where
  running : company.Idle
  accepts : ∀ (step : KernelCache.Step) (command : Bytes),
    Channel.fits Channel.pageCapacity command = .ok () →
      Secures contract (onCoordinator (Coordinator.call step command))
        (fun _ after _ => after.sent = session.sent + 1) session company
  builds : session.member.isRoot = true → ∀ (kernel : Kernel) (steps : List (KernelCache.Step × Bytes)),
    session.config.buildSteps kernel = .ok steps →
    (∀ step ∈ steps, Channel.fits Channel.pageCapacity step.2 = .ok ()) →
    ∃ symbol after last, ((lookup kernel).run.run session).Yields contract company
      (.ok symbol, after) last ∧ after.sent = session.sent + steps.length

/-- No worker is left, and every command is refused. -/
structure Lacks (session : Session) (company : Company) : Prop where
  deserted : company.Deserted
  refuses : ∀ (step : KernelCache.Step) (command : Bytes), ∃ failure,
    (onCoordinator (Coordinator.call step command)).run.run session = .done (.error failure, session)

theorem Employs.not_lacks (employs : session.Employs company) : ¬ session.Lacks company :=
  fun lacks => employs.running.not_deserted lacks.deserted

theorem Served.employs (served : session.Served company)
    (new : session.cache = { layout := session.config.layout }) : session.Employs company where
  running := served.idle
  accepts step _ fits := served.hands_over step fits
  builds root _ _ written fits := served.looks_up root new written fits

theorem Unserved.lacks (unserved : session.Unserved company) : session.Lacks company := by
  refine ⟨unserved.deserted, fun step command => ?_⟩
  obtain ⟨config, member, coordinator, cache⟩ := session
  cases coordinator with
  | none => exact ⟨_, rfl⟩
  | some coordinator =>
    obtain ⟨detached, alive⟩ := unserved.apart coordinator rfl
    have refused : coordinator.refusal? command = some .workerGone := by
      rw [Coordinator.refusal?, alive, Coordinator.unfit?, detached]
      rfl
    refine ⟨.workerGone, ?_⟩
    show ((Coordinator.call step command).run.run coordinator).bind _ = _
    rw [Coordinator.run_call, refused]
    rfl

end Session

/-- The member that a session is created with, when its group is passed by reference or as it is. -/
def Member.passed (group : Member) (byReference : Bool) : Member :=
  if byReference then group.byReference else group

namespace Session

open Company

/-- **Who has a worker.** A created session owns a worker that runs, or there is none at all. It owns
one when its member has rank zero, and was the root or had a worker ahead; for a group whose root is
the member of rank zero that is the root, however the group is passed and the session created. -/
theorem worker_owned (ahead byReference : Bool) (config : Config) (group : Member) :
    (config.validate = .ok () → Channel.reserved group.rank = false → ∃ session last,
      (create ahead config (group.passed byReference)).run.Yields contract .vacant (.ok session)
        last) ∧
    (create ahead config (group.passed byReference)).run.Fulfils contract (fun outcome last =>
      match outcome with
      | .ok session =>
        session.member = group.passed byReference ∧
        (session.Employs last ∨ session.Lacks last) ∧ ¬ (session.Employs last ∧ session.Lacks last) ∧
        (session.Employs last ↔
          group.rank = 0 ∧ (ahead = true ∨ session.member.isRoot = true)) ∧
        (group.isRoot = (group.rank == 0) → session.member.isRoot = group.isRoot ∧
          (session.Employs last ↔ group.isRoot = true))
      | .error _ => last.Deserted) .vacant := by
  have rank : (group.passed byReference).rank = group.rank := by
    cases byReference <;> rfl
  refine ⟨fun accepted plain => exists_created ahead accepted (rank.symm ▸ plain), ?_⟩
  refine (creates ahead config (group.passed byReference)).mono fun outcome last created => ?_
  rw [rank] at created
  have agreed (designated : group.isRoot = (group.rank == 0)) :
      (group.passed byReference).isRoot = group.isRoot := by
    cases byReference
    · rfl
    · exact designated.symm
  have owner (designated : group.isRoot = (group.rank == 0)) :
      (group.rank = 0 ∧ (ahead = true ∨ (group.passed byReference).isRoot = true)) ↔
        group.isRoot = true := by
    rw [agreed designated, designated, beq_iff_eq]
    exact ⟨And.left, fun zero => ⟨zero, .inr zero⟩⟩
  cases created with
  | served owns served =>
    have employs := served.employs rfl
    refine ⟨rfl, .inl employs, fun both => both.1.not_lacks both.2, ⟨fun _ => owns, fun _ => employs⟩,
      fun designated => ⟨agreed designated, ?_⟩⟩
    exact ⟨fun _ => (owner designated).mp owns, fun _ => employs⟩
  | unserved not unserved =>
    have lacks := unserved.lacks
    have idle {owns : Prop} (employs : Employs _ last) : owns := absurd lacks employs.not_lacks
    refine ⟨rfl, .inr lacks, fun both => both.1.not_lacks both.2, ⟨idle, fun owns => absurd owns not⟩,
      fun designated => ⟨agreed designated, ?_⟩⟩
    exact ⟨idle, fun root => absurd ((owner designated).mpr root) not⟩
  | failed failure deserted => exact deserted

/-- The member of a group of its own, passed by reference, owns a worker. -/
theorem worker_owned_alone :
    ∃ session last, (create false {} (Member.alone.passed true)).run.Yields contract .vacant
      (.ok session) last ∧ session.Employs last := by
  obtain ⟨creates, owned⟩ := worker_owned false true {} .alone
  obtain ⟨session, last, comes⟩ := creates (by decide) (by decide)
  obtain ⟨same, -, -, owner, -⟩ := owned.yields comes
  have root : session.member.isRoot = true := by
    rw [same]
    rfl
  exact ⟨session, last, comes, owner.mpr ⟨rfl, .inr root⟩⟩

/-- The root of a group has rank one, and its session has no worker. -/
theorem root_of_rank_one_lacks_worker :
    ∃ session last, (create false {} { rank := 1, size := 2, isRoot := true }).run.Yields contract
      .vacant (.ok session) last ∧ session.member.isRoot = true ∧ session.Lacks last := by
  let root : Member := { rank := 1, size := 2, isRoot := true }
  have accepted : ({} : Config).validate = .ok () := by decide
  have plain : Channel.reserved root.rank = false := by decide
  obtain ⟨session, last, comes⟩ := exists_created false accepted plain
  refine ⟨session, last, comes, ?_⟩
  have created := (creates false {} root).yields comes
  cases created with
  | served owns => exact absurd owns.1 (by decide)
  | unserved _ unserved => exact ⟨rfl, unserved.lacks⟩

end Session

end KernelCache
