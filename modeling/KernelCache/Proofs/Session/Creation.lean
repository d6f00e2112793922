import KernelCache.Proofs.Session.Line

/-
**New sessions.**

A session is created by hiring a worker for the root, or ahead of the group for every process. Until
it exists, its worker is told a rank, and may be told to leave; it is given no command.

* `Line.Hushed step`: the step hands no command to the worker and opens no image, under all answers.
* `Line.secures_handshake`: only the worker of rank zero stays, and it is ready (`Line.Told`).
* **`Session.fulfils_create`**: a new session is poised, and only rank zero has a worker.
-/

namespace KernelCache

open KernelCache.Action

namespace Session

/-- A new session of a member, whose worker is hired ahead of the group or not. -/
def create (ahead : Bool) (config : Config) (member : Member) : ExceptT Failure Action Session :=
  if ahead then do (← prefork config).attach member else start config member

end Session

namespace Line

variable {α β : Type} {line : Line}

/-! ### Steps without a command -/

/-- From one line to a later one with no command in between. -/
structure Mute (line later : Line) : Prop where
  goes : line.Goes later
  handed : later.handed = line.handed

theorem Mute.refl (line : Line) : Mute line line := ⟨.refl line, rfl⟩

theorem Mute.trans {between later : Line} (first : Mute line between)
    (second : Mute between later) : Mute line later :=
  ⟨first.goes.trans second.goes, second.handed.trans first.handed⟩

/-- One question that opens nothing and is no wait. -/
theorem mute_of_asked {later : Line} {event : Event} (asked : later.asked = line.asked ++ [event])
    (shut : event.opened? = none) (handed : later.handed = line.handed) : Mute line later :=
  ⟨.of_asked asked shut, handed⟩

/-- The step hands no command to the worker, and opens no image. -/
def Hushed (step : CoordinatorM α) : Prop :=
  ∀ coordinator line, Secures dialogue step (fun _ _ last => Mute line last) coordinator line

namespace Hushed

theorem pure (value : α) : Hushed (Pure.pure value) := fun _ line => .refl line

theorem throw (failure : Failure) : Hushed (MonadExcept.throw failure : CoordinatorM α) :=
  fun _ line => .refl line

theorem bind {step : CoordinatorM α} {next : α → CoordinatorM β} (first : Hushed step)
    (rest : ∀ value, Hushed (next value)) : Hushed (step >>= next) := by
  intro coordinator line
  refine Secures.bind _ (first coordinator line) ?_ fun _ _ _ mute => mute
  exact fun value after later mute => (rest value after later).mono fun _ _ _ => mute.trans

theorem get {next : Coordinator → CoordinatorM α}
    (rest : ∀ coordinator, Hushed (next coordinator)) :
    Hushed (MonadState.get >>= next) :=
  fun coordinator line => rest coordinator coordinator line

theorem modify (change : Coordinator → Coordinator) :
    Hushed (modify change : CoordinatorM PUnit) := fun _ line => .refl line

theorem perform {effect : Effect}
    (quiet : ∀ line reply later, Answers line effect reply later → Mute line later) :
    Hushed (liftM (Action.perform effect)) := by
  intro coordinator line
  unfold Secures
  rw [run_lift]
  exact ⟨trivial, fun reply later answered => quiet line reply later answered⟩

end Hushed

theorem hushed_channelStep (outcome : Except ChannelFault α) :
    Hushed (Coordinator.channelStep outcome) := by
  cases outcome with
  | ok value => exact .pure value
  | error fault => exact .throw _

theorem hushed_waitStep (outcome : Except Fault α) : Hushed (Coordinator.waitStep outcome) := by
  cases outcome with
  | ok value => exact .pure value
  | error fault => exact .throw _

theorem hushed_look : Hushed (liftM Action.look) := by
  refine .perform ?_
  rintro line _ _ ⟨rfl, rfl⟩
  exact mute_of_asked rfl rfl rfl

theorem hushed_send (request : Request) : Hushed (Coordinator.send request) := by
  refine .bind hushed_look fun word => .get fun coordinator => ?_
  refine .bind (hushed_channelStep _) fun ⟨command?, posted⟩ => ?_
  have posts : Hushed (liftM (Action.post posted)) := by
    refine .perform ?_
    rintro line _ _ rfl
    exact mute_of_asked rfl rfl rfl
  cases command? with
  | none => exact posts
  | some command =>
    refine .bind (.perform ?_) fun _ => posts
    rintro line _ _ rfl
    exact mute_of_asked rfl rfl rfl

theorem hushed_stopWorker : Hushed Coordinator.stopWorker := by
  have plain : ∀ {effect : Effect}, (∀ line reply later, Answers line effect reply later →
      later = line.note ⟨effect, reply⟩) → (∀ reply, effect.opened? reply = none) →
      Hushed (liftM (Action.perform effect)) := by
    intro effect quiet shut
    refine .perform fun line reply later answered => ?_
    rw [quiet line reply later answered]
    exact mute_of_asked rfl (shut reply) rfl
  refine .bind (plain (fun _ _ _ => id) fun _ => rfl) fun left => ?_
  refine .bind (hushed_waitStep left) fun code? => ?_
  cases code? with
  | some code => exact .pure code
  | none =>
    have joins : Hushed (liftM Action.join >>= Coordinator.waitStep) :=
      .bind (plain (fun _ _ _ => id) fun _ => rfl) fun _ => hushed_waitStep _
    refine .bind (.bind hushed_look fun _ => .pure _) fun ready => ?_
    split
    · exact .bind (hushed_send _) fun _ => joins
    · exact .bind (plain (fun _ _ _ => id) fun _ => rfl) fun _ => joins

theorem hushed_teardown : Hushed Coordinator.teardown := by
  refine .get fun coordinator => ?_
  split
  · refine .bind (.modify _) fun _ => ?_
    have stops : Hushed (Coordinator.teardown.observing Coordinator.stopWorker) := fun _ _ =>
      Fulfils.bind (hushed_stopWorker _ _) fun _ _ mute => mute
    refine .bind stops fun stopped => ?_
    have releases : Hushed (liftM Action.release) := by
      refine .perform ?_
      rintro line _ _ rfl
      exact mute_of_asked rfl rfl rfl
    refine .bind releases fun released => .bind (hushed_channelStep released) fun _ => ?_
    split
    · exact .pure _
    · exact .throw _
    · exact .throw _
  · exact .pure _

/-- What a handshake comes to: no command is handed over, and a worker that stays is that of rank
zero, and is ready. -/
structure Told (coordinator : Coordinator) (rank : UInt32) (line : Line)
    (outcome : Except Failure Bool) (after : Coordinator) (last : Line) : Prop where
  mute : Mute line last
  stays : ∀ stays, outcome = .ok stays → stays = (rank == 0) ∧
    (rank = 0 → after = coordinator ∧ last.word = Channel.readyWord)

theorem Told.failed {coordinator after : Coordinator} {rank : UInt32} {last : Line}
    {failure : Failure} (mute : Mute line last) :
    Told coordinator rank line (.error failure) after last :=
  ⟨mute, fun _ same => nomatch same⟩

/-- Behind its wait, a handshake has only to dismiss a worker that is of no use. -/
theorem fulfils_greeting (coordinator : Coordinator) (rank : UInt32) {verdict : Verdict}
    {last : Line} (mute : Mute line last)
    (acknowledged : verdict = .acknowledged → last.word = Channel.readyWord) :
    (coordinator.greeting rank verdict).Fulfils dialogue
      (fun result => Told coordinator rank line result.1 result.2) last := by
  cases verdict with
  | left code => exact .failed mute
  | exhausted exhausted => exact .failed mute
  | acknowledged =>
    rw [Coordinator.greeting]
    split
    case isTrue zero =>
      refine ⟨mute, ?_⟩
      rintro _ ⟨⟩
      exact ⟨(beq_iff_eq.mpr zero).symm, fun _ => ⟨rfl, acknowledged rfl⟩⟩
    case isFalse other =>
      refine Fulfils.bind (hushed_teardown coordinator last) ?_
      rintro ⟨failure | value, after⟩ past mute'
      · exact .failed (mute.trans mute')
      · refine ⟨mute.trans mute', ?_⟩
        rintro _ ⟨⟩
        exact ⟨(beq_eq_false_iff_ne.mpr other).symm, fun zero => absurd zero other⟩

/-- **The handshake**: the worker of rank zero stays, and it is ready. -/
theorem secures_handshake (coordinator : Coordinator) (ready : line.word = Channel.readyWord)
    (rank : UInt32) :
    Secures dialogue (Coordinator.handshake rank) (Told coordinator rank line) coordinator line := by
  unfold Secures
  rw [Coordinator.run_handshake]
  split
  case isFalse => exact .failed (.refl line)
  refine ⟨trivial, ?_⟩
  rintro _ _ ⟨rfl, rfl⟩
  beta_reduce
  rw [if_pos ready]
  have looked : Mute line (line.note ⟨.look, line.word⟩) := mute_of_asked rfl rfl rfl
  split
  case isTrue => exact .failed looked
  case isFalse plain =>
    refine ⟨trivial, ?_⟩
    rintro _ told (posted : told = _)
    have quiet : Mute line told := looked.trans (by rw [posted]; exact mute_of_asked rfl rfl rfl)
    -- What is posted is no call, so the worker has no command to end.
    have uncalled : told.word ≠ Channel.callWord := by
      rw [posted]
      rintro rfl
      exact plain rfl
    refine ⟨trivial, ?_⟩
    rintro verdict _ ⟨word, acknowledged, rfl⟩
    have still : (told.waited word verdict).handed = told.handed := if_neg uncalled
    exact fulfils_greeting coordinator rank (quiet.trans (mute_of_asked rfl rfl still)) acknowledged

end Line

namespace Session

/-! ### A session from its parts -/

variable {config : Config} {member : Member}

/-- One part of a creation after the other. -/
theorem run_exceptBind {α β : Type} (step : ExceptT Failure Action α)
    (next : α → ExceptT Failure Action β) :
    (step >>= next).run = step.run.bind fun outcome =>
      match outcome with
      | .ok value => (next value).run
      | .error failure => .done (.error failure) := by
  show step.run.bind _ = _
  congr 1
  funext outcome
  cases outcome <;> rfl

/-- The line as it is for a worker that has just been hired. -/
structure Fresh (line : Line) : Prop where
  word : line.word = Channel.readyWord
  handed : line.handed = []
  opened : line.opened = []

theorem Fresh.mute {line later : Line} (fresh : Fresh line) (mute : Line.Mute line later) :
    later.handed = [] ∧ later.opened = [] :=
  ⟨mute.handed.trans fresh.handed, mute.goes.opened.trans fresh.opened⟩

theorem fulfils_shutdown (coordinator : Coordinator) (line : Line) :
    (coordinator.shutdown).run.Fulfils Line.dialogue (fun _ last => Line.Mute line last) line :=
  Fulfils.bind (Line.hushed_teardown coordinator line) fun _ _ mute => mute

theorem fulfils_abandon (coordinator : Coordinator) (line : Line) :
    coordinator.abandon.Fulfils Line.dialogue (fun _ last => Line.Mute line last) line :=
  Fulfils.bind (fulfils_shutdown coordinator line) fun _ _ mute => mute

/-- A worker is told its rank; when that fails it is let go. -/
theorem fulfils_introduce {line : Line} (fresh : Fresh line) (coordinator : Coordinator)
    (rank : UInt32) :
    (introduce coordinator rank).run.Fulfils Line.dialogue
      (fun outcome last => last.handed = [] ∧ last.opened = [] ∧
        ∀ stays after, outcome = .ok (stays, after) → stays = (rank == 0) ∧
          (rank = 0 → after = coordinator ∧ last.word = Channel.readyWord)) line := by
  refine Fulfils.bind (Line.secures_handshake coordinator fresh.word rank) ?_
  rintro ⟨outcome, after⟩ last ⟨mute, told⟩
  cases outcome with
  | ok stays =>
    refine ⟨(fresh.mute mute).1, (fresh.mute mute).2, ?_⟩
    rintro _ _ ⟨⟩
    exact told stays rfl
  | error failure =>
    refine Fulfils.bind (fulfils_abandon after last) ?_
    intro _ final mute'
    have mute := mute.trans mute'
    exact ⟨(fresh.mute mute).1, (fresh.mute mute).2, fun _ _ same => nomatch same⟩

/-- A channel is mapped, and a worker hired. -/
theorem fulfils_hire (config : Config) :
    (Coordinator.hire config).run.Fulfils Line.dialogue (fun outcome last => Fresh last ∧
      ∀ coordinator, outcome = .ok coordinator → coordinator = { policy := config.poll.policy })
      {} := by
  show Fulfils _ _ ((Action.hire config.commandLog).bind _) _
  refine ⟨trivial, ?_⟩
  rintro hired _ rfl
  have fresh : Fresh { ({} : Line).note ⟨.hire config.commandLog, hired⟩ with
      word := Channel.readyWord } := ⟨rfl, rfl, rfl⟩
  cases hired with
  | error failure => exact ⟨fresh, fun _ same => nomatch same⟩
  | ok value => exact ⟨fresh, fun _ same => (Except.ok.inj same).symm⟩

/-- What a creation leads to. -/
def Created (config : Config) (member : Member) (outcome : Except Failure Session) (last : Line) :
    Prop :=
  ∀ session, outcome = .ok session → Poised (member.rank == 0) session last ∧ last.handed = [] ∧
    session.config = config ∧ session.cache.probed = false

/-- A new session of a member with a worker that is ready, or of one without. -/
theorem created_assemble {line : Line} {coordinator : Option Coordinator}
    (handed : line.handed = []) (opened : line.opened = [])
    (owned : coordinator.isSome = (member.rank == 0))
    (ready : ∀ owner, coordinator = some owner →
      owner = { policy := config.poll.policy } ∧ line.word = Channel.readyWord) :
    Created config member (.ok (assemble config member coordinator)) line := by
  rintro _ ⟨⟩
  refine ⟨⟨owned, ?_, ?_, ?_, rfl, opened.symm⟩, handed, rfl, rfl⟩
  · rw [handed]
    cases coordinator with
    | none => rfl
    | some owner =>
      obtain ⟨rfl, -⟩ := ready owner rfl
      rfl
  · intro owner owns _
    rw [handed]
    exact ⟨(ready owner owns).2, fun _ inside => (List.not_mem_nil inside).elim⟩
  · intro owner owns dies
    obtain ⟨rfl, -⟩ := ready owner owns
    exact (nomatch dies)

theorem run_validated (config : Config) : (validated config).run = .done config.validate := rfl

theorem fulfils_start (config : Config) (rank size : UInt32) :
    (start config (.ofRank rank size)).run.Fulfils Line.dialogue
      (Created config (.ofRank rank size)) {} := by
  unfold start
  rw [run_exceptBind, run_validated, done_bind]
  cases config.validate with
  | error failure => exact fun _ same => nomatch same
  | ok value =>
    show Fulfils _ _ (ExceptT.run (if (rank == 0) = true then _ else _)) _
    split
    case isTrue root =>
      rw [run_exceptBind]
      refine Fulfils.bind (fulfils_hire config) ?_
      rintro (failure | coordinator) line ⟨fresh, hired⟩
      · exact fun _ same => nomatch same
      · obtain rfl := hired coordinator rfl
        dsimp only
        rw [run_exceptBind]
        refine Fulfils.bind (fulfils_introduce fresh _ rank) ?_
        rintro (failure | ⟨stays, after⟩) last ⟨handed, opened, told⟩
        · exact fun _ same => nomatch same
        · obtain ⟨rfl, ready⟩ := (told stays after rfl).2 (beq_iff_eq.mp root)
          refine created_assemble handed opened root.symm ?_
          rintro _ ⟨⟩
          exact ⟨rfl, ready⟩
    case isFalse other =>
      exact created_assemble rfl rfl (Bool.eq_false_iff.mpr other).symm fun _ same => nomatch same

theorem fulfils_prefork (config : Config) :
    (prefork config).run.Fulfils Line.dialogue (fun outcome last => ∀ ahead, outcome = .ok ahead →
      Fresh last ∧ ahead = { config, coordinator := { policy := config.poll.policy } }) {} := by
  unfold prefork
  rw [run_exceptBind, run_validated, done_bind]
  cases config.validate with
  | error failure => exact fun _ same => nomatch same
  | ok value =>
    dsimp only
    rw [run_exceptBind]
    refine Fulfils.bind (fulfils_hire config) ?_
    rintro (failure | coordinator) line ⟨fresh, hired⟩
    · exact fun _ same => nomatch same
    · obtain rfl := hired coordinator rfl
      rintro _ ⟨⟩
      exact ⟨fresh, rfl⟩

theorem fulfils_attach {line : Line} (fresh : Fresh line) (config : Config) (rank size : UInt32) :
    (Prefork.attach { config, coordinator := { policy := config.poll.policy } }
        (.ofRank rank size)).run.Fulfils Line.dialogue (Created config (.ofRank rank size)) line := by
  unfold Prefork.attach
  rw [run_exceptBind]
  refine Fulfils.bind (fulfils_introduce fresh _ rank) ?_
  rintro (failure | ⟨stays, after⟩) last ⟨handed, opened, told⟩
  · exact fun _ same => nomatch same
  · obtain ⟨rfl, kept⟩ := told stays after rfl
    dsimp only
    split
    case isTrue root =>
      obtain ⟨rfl, ready⟩ := kept (beq_iff_eq.mp root)
      refine created_assemble handed opened root.symm ?_
      rintro _ ⟨⟩
      exact ⟨rfl, ready⟩
    case isFalse other =>
      rw [run_exceptBind]
      refine Fulfils.bind (fulfils_shutdown after last) ?_
      rintro (failure | value) final mute
      · exact fun _ same => nomatch same
      · exact created_assemble (mute.handed.trans handed) (mute.goes.opened.trans opened)
          (Bool.eq_false_iff.mpr other).symm fun _ same => nomatch same

/-- **A new session is poised**, and only rank zero has a worker. -/
theorem fulfils_create (ahead : Bool) (config : Config) (rank size : UInt32) :
    (create ahead config (.ofRank rank size)).run.Fulfils Line.dialogue
      (Created config (.ofRank rank size)) {} := by
  cases ahead with
  | false => exact fulfils_start config rank size
  | true =>
    show Fulfils _ _ (ExceptT.run (prefork config >>= fun ahead => _)) _
    rw [run_exceptBind]
    refine Fulfils.bind (fulfils_prefork config) ?_
    rintro (failure | ahead) line hired
    · exact fun _ same => nomatch same
    · obtain ⟨fresh, rfl⟩ := hired ahead rfl
      exact fulfils_attach fresh config rank size

end Session

end KernelCache
