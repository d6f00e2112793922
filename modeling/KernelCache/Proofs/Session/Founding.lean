import KernelCache.Proofs.Session.Creation

/-
**Sessions are founded in silence.**

A command is sent when the word that asks for a call is posted. Whatever a new session tells its
worker, it never posts that word: a rank is never one of the reserved words, and a worker that is let
go is told so by a word of its own.

* `Line.Silent line`: no command was ever sent on the line.
* `Action.Wordless action`: the action sends none, under all answers.
* `Session.fulfils_assembled_create`: a new session has its settings and an empty cache.
* **`Session.founds_create`**: the creation of a session sends no command, and leads to a session that
  is poised and remembers nothing. `Session.Founds.answer` keeps to that question by question.
-/

namespace KernelCache

open KernelCache.Action

namespace Action

variable {α β : Type}

/-- The action sends no command. -/
def Wordless (action : Action α) : Prop :=
  action.Fulfils (.only (· ≠ .post Channel.callWord)) (fun _ _ => True) ()

namespace Wordless

theorem done (value : α) : (Action.done value).Wordless := trivial

theorem ask {effect : Effect} {next : effect.Reply → Action α}
    (here : effect ≠ .post Channel.callWord) (rest : ∀ reply, (next reply).Wordless) :
    (Action.ask effect next).Wordless :=
  ⟨here, fun reply _ _ => rest reply⟩

theorem bind {action : Action α} {next : α → Action β} (first : action.Wordless)
    (rest : ∀ value, (next value).Wordless) : (action.bind next).Wordless :=
  Fulfils.bind first fun value _ _ => rest value

end Wordless

end Action

namespace Line

variable {line : Line}

/-- No command was ever sent on the line. -/
def Silent (line : Line) : Prop :=
  ∀ event ∈ line.asked, event.effect ≠ .post Channel.callWord

theorem Silent.note {event : Event} (silent : line.Silent)
    (here : event.effect ≠ .post Channel.callWord) : (line.note event).Silent := by
  intro other inside
  rcases List.mem_append.mp inside with before | last
  · exact silent other before
  · rw [List.mem_singleton.mp last]
    exact here

theorem Silent.answer {effect : Effect} {reply : effect.Reply} {later : Line} (silent : line.Silent)
    (here : effect ≠ .post Channel.callWord) (answered : line.Answers effect reply later) :
    later.Silent := by
  have noted : (line.note ⟨effect, reply⟩).Silent := silent.note here
  rw [Silent, asked_of_answers answered]
  exact noted

end Line

/-! ### The steps of a coordinator -/

namespace Coordinator

theorem wordless_stopWorker (coordinator : Coordinator) :
    (stopWorker.run.run coordinator).Wordless := by
  have joins : coordinator.joining.Wordless := .ask nofun fun _ => .done _
  rw [run_stopWorker]
  refine .ask nofun fun found => ?_
  rcases found with fault | _ | code
  · exact .done _
  · refine .ask nofun fun (word : UInt32) => ?_
    split
    · refine .ask nofun fun (word : UInt32) => ?_
      split
      · exact .ask (by decide) fun _ => joins
      · exact .done _
    · exact .ask nofun fun _ => joins
  · exact .done _

theorem wordless_teardown (coordinator : Coordinator) :
    (teardown.run.run coordinator).Wordless := by
  rw [run_teardown]
  split
  · refine (wordless_stopWorker _).bind fun result => .ask nofun fun released => ?_
    cases released with
    | error fault => exact .done _
    | ok value => exact .done _
  · exact .done _

theorem wordless_handshake (rank : UInt32) (coordinator : Coordinator) :
    ((handshake rank).run.run coordinator).Wordless := by
  rw [run_handshake]
  split
  case isFalse => exact .done _
  refine .ask nofun fun word => ?_
  split
  case isFalse => exact .done _
  split
  case isTrue => exact .done _
  case isFalse plain =>
    have uncalled : Effect.post rank ≠ .post Channel.callWord := by
      rintro ⟨⟩
      exact plain rfl
    refine .ask uncalled fun _ => .ask nofun fun verdict => ?_
    cases verdict with
    | left code => exact .done _
    | exhausted exhausted => exact .done _
    | acknowledged =>
      rw [greeting]
      split
      · exact .done _
      · exact (wordless_teardown coordinator).bind fun _ => .done _

theorem wordless_shutdown (coordinator : Coordinator) : coordinator.shutdown.run.Wordless :=
  (wordless_teardown coordinator).bind fun _ => .done _

end Coordinator

/-! ### New sessions -/

namespace Session

open Coordinator

/-- One part of a creation, and then another. -/
theorem wordless_then {α β : Type} {step : ExceptT Failure Action α}
    {next : α → ExceptT Failure Action β} (first : step.run.Wordless)
    (rest : ∀ value, (next value).run.Wordless) : (step >>= next).run.Wordless := by
  rw [run_exceptBind]
  refine first.bind fun outcome => ?_
  cases outcome with
  | error failure => exact .done _
  | ok value => exact rest value

theorem wordless_introduce (coordinator : Coordinator) (rank : UInt32) :
    (introduce coordinator rank).run.Wordless := by
  refine (wordless_handshake rank coordinator).bind fun ⟨outcome, after⟩ => ?_
  cases outcome with
  | ok stays => exact .done _
  | error failure =>
    exact Wordless.bind ((wordless_shutdown after).bind fun _ => .done _) fun _ => .done _

theorem wordless_hire (config : Config) : (hire config).run.Wordless := by
  refine .ask nofun fun hired => ?_
  cases hired with
  | error failure => exact .done _
  | ok value => exact .done _

theorem wordless_create (ahead : Bool) (config : Config) (member : Member) :
    (create ahead config member).run.Wordless := by
  cases ahead with
  | false =>
    refine wordless_then (.done _) fun _ => ?_
    split
    · refine wordless_then (wordless_hire config) fun coordinator => ?_
      exact wordless_then (wordless_introduce coordinator _) fun _ => .done _
    · exact .done _
  | true =>
    refine wordless_then ?_ fun ahead => ?_
    · refine wordless_then (.done _) fun _ => ?_
      exact wordless_then (wordless_hire config) fun _ => .done _
    · refine wordless_then (wordless_introduce ahead.coordinator _) fun ⟨stays, coordinator⟩ => ?_
      cases stays with
      | true => exact .done _
      | false => exact wordless_then (wordless_shutdown coordinator) fun _ => .done _

/-- A session of a member that was put together from settings. -/
def Assembled (config : Config) (member : Member) (outcome : Except Failure Session) : Prop :=
  ∀ session, outcome = .ok session → ∃ coordinator, session = assemble config member coordinator

/-- What ends with a session that is put together may begin with anything. -/
theorem fulfils_assembled_bind {α : Type} {step : ExceptT Failure Action α}
    {next : α → ExceptT Failure Action Session} {config : Config} {member : Member}
    (rest : ∀ value line, (next value).run.Fulfils Line.dialogue
      (fun outcome _ => Assembled config member outcome) line) (line : Line) :
    (step >>= next).run.Fulfils Line.dialogue (fun outcome _ => Assembled config member outcome)
      line := by
  rw [run_exceptBind]
  refine Fulfils.bind (Fulfils.of_open (fun _ _ => trivial) _) ?_
  rintro (failure | value) last -
  · have assembled : Assembled config member (.error failure) := fun _ same => nomatch same
    exact assembled
  · exact rest value last

theorem fulfils_assembled (config : Config) (member : Member) (coordinator : Option Coordinator)
    (line : Line) :
    (pure (assemble config member coordinator) : ExceptT Failure Action Session).run.Fulfils
      Line.dialogue (fun outcome _ => Assembled config member outcome) line := by
  rintro _ ⟨⟩
  exact ⟨coordinator, rfl⟩

/-- **A new session is put together from its settings**, and has no more. -/
theorem fulfils_assembled_create (ahead : Bool) (config : Config) (member : Member) (line : Line) :
    (create ahead config member).run.Fulfils Line.dialogue
      (fun outcome _ => Assembled config member outcome) line := by
  cases ahead with
  | false =>
    refine fulfils_assembled_bind (fun _ line => ?_) line
    split
    · refine fulfils_assembled_bind (fun coordinator line => ?_) line
      refine fulfils_assembled_bind (fun ⟨_, coordinator⟩ line => ?_) line
      exact fulfils_assembled config member (some coordinator) line
    · exact fulfils_assembled config member none line
  | true =>
    have hires : create true config member = (do
        validated config
        let coordinator ← hire config
        Prefork.attach ⟨config, coordinator⟩ member) := by
      simp [create, prefork]
    rw [hires]
    refine fulfils_assembled_bind (fun _ line => ?_) line
    refine fulfils_assembled_bind (fun coordinator line => ?_) line
    refine fulfils_assembled_bind (fun ⟨stays, coordinator⟩ line => ?_) line
    cases stays with
    | true => exact fulfils_assembled config member (some coordinator) line
    | false => exact fulfils_assembled_bind (fun _ => fulfils_assembled config member none) line

/-- A session of a member that remembers nothing and has opened nothing. -/
def Blank (member : Member) (outcome : Except Failure Session) : Prop :=
  ∀ session, outcome = .ok session → session.member = member ∧ session.cache.memo = [] ∧
    session.cache.images = []

theorem Assembled.blank {config : Config} {member : Member} {outcome : Except Failure Session}
    (assembled : Assembled config member outcome) : Blank member outcome := by
  intro session same
  obtain ⟨coordinator, rfl⟩ := assembled session same
  exact ⟨rfl, rfl, rfl⟩

theorem fulfils_blank_create (ahead : Bool) (config : Config) (member : Member) (line : Line) :
    (create ahead config member).run.Fulfils Line.dialogue (fun outcome _ => Blank member outcome)
      line :=
  (fulfils_assembled_create ahead config member line).mono fun _ _ => Assembled.blank

/-- What is left of the creation of a session, on the line of its member. -/
structure Founds (config : Config) (member : Member) (creation : Action (Except Failure Session))
    (line : Line) : Prop where
  created : creation.Fulfils Line.dialogue (Created config member) line
  blank : creation.Fulfils Line.dialogue (fun outcome _ => Blank member outcome) line
  wordless : creation.Wordless
  silent : line.Silent

/-- **A session is founded in silence.** -/
theorem founds_create (ahead : Bool) (config : Config) (rank size : UInt32) :
    Founds config (.ofRank rank size) (create ahead config (.ofRank rank size)).run {} where
  created := fulfils_create ahead config rank size
  blank := fulfils_blank_create ahead config _ _
  wordless := wordless_create ahead config _
  silent _ inside := (List.not_mem_nil inside).elim

theorem Founds.answer {config : Config} {member : Member} {effect : Effect}
    {next : effect.Reply → Action (Except Failure Session)} {reply : effect.Reply} {line later : Line}
    (founds : Founds config member (.ask effect next) line)
    (answered : line.Answers effect reply later) : Founds config member (next reply) later where
  created := founds.created.2 reply later answered
  blank := founds.blank.2 reply later answered
  wordless := founds.wordless.2 reply () trivial
  silent := founds.silent.answer founds.wordless.1 answered

end Session

end KernelCache
