import KernelCache.Proofs.Action.Contract
import KernelCache.Proofs.Cache.Steps
import KernelCache.Proofs.Coordinator.Steps
import KernelCache.Session.Lookup

/-
**The steps of a session under a contract.**

* `Session.secures_onCoordinator`: a step on the coordinator of a member that has one.
* `Session.secures_observing`: a step whose outcome is taken as a value.
* `Session.find?_of_taken`: what is taken from an image was found in it.
* `Session.secures_agree`: an outcome that the members agree on.
* `Session.secures_fresh`: an image is opened and put to use, the members agree on what came of it, and
  the root removes its file.
* `Session.secures_prepared`: what is known of commands that were written and checked.
* `Session.run_checkAll` and `Session.run_callAll_gone`: commands that do not fit are refused before
  anything is asked, and so is every command when the coordinator is dead; `Session.secures_passed`
  is about those that do fit.
* `Session.run_lookup_remembered`: a kernel that is remembered is returned at once.
-/

namespace KernelCache

open KernelCache.Action

namespace Session

variable {α σ : Type} {contract : Contract σ} {session : Session} {state : σ}

theorem secures_resolved {outcome : Except Failure α} {post : Except Failure α → Session → σ → Prop}
    (holds : post outcome session state) :
    Secures contract (resolved outcome) post session state := holds

/-- The outcome of a step as a value, whatever it is. -/
theorem secures_observing {β : Type} {step : SessionM α} {next : Except Failure α → SessionM β}
    {after : Except Failure β → Session → σ → Prop} (post : Except Failure α → Session → σ → Prop)
    (secures : Secures contract step post session state)
    (rest : ∀ outcome later last, post outcome later last →
      Secures contract (next outcome) after later last) :
    Secures contract (observing step >>= next) after session state := by
  unfold Secures
  rw [run_bind]
  have observed : ((observing step).run.run session) =
      (step.run.run session).bind fun result => .done (.ok result.1, result.2) := rfl
  rw [observed, bind_bind]
  exact Fulfils.bind secures fun result later holds => rest result.1 result.2 later holds

/-- A step on the coordinator of a member that has one. -/
theorem secures_onCoordinator {step : CoordinatorM α} {coordinator : Coordinator}
    {post : Except Failure α → Coordinator → σ → Prop}
    {after : Except Failure α → Session → σ → Prop}
    (owned : session.coordinator = some coordinator)
    (secures : Secures contract step post coordinator state)
    (implied : ∀ outcome coordinator later, post outcome coordinator later →
      after outcome { session with coordinator := some coordinator } later) :
    Secures contract (onCoordinator step) after session state := by
  obtain ⟨config, member, _, cache⟩ := session
  subst owned
  exact Fulfils.bind secures fun result later holds => implied result.1 result.2 later holds

/-- A member without a coordinator fails where one is needed. -/
theorem secures_onCoordinator_none {step : CoordinatorM α}
    {post : Except Failure α → Session → σ → Prop} (missing : session.coordinator = none)
    (holds : post (.error (if session.member.isRoot then .workerGone
      else .notCoordinator session.member.rank)) session state) :
    Secures contract (onCoordinator step) post session state := by
  obtain ⟨config, member, _, cache⟩ := session
  subst missing
  exact holds

/-- An outcome is a success of the group only if it is an own success. -/
theorem eq_ok_of_settle {member : Member} {outcome : Except Failure α} {anyFailed : Bool} {value : α}
    (settled : member.settle outcome anyFailed = .ok value) :
    outcome = .ok value ∧ anyFailed = false := by
  cases outcome with
  | error failure => exact (nomatch settled)
  | ok own =>
    cases anyFailed with
    | true => exact (nomatch settled)
    | false => exact ⟨settled, rfl⟩

/-- The group fails exactly if a flag was raised, where the own failures raise one. -/
theorem failed_settle (member : Member) {outcome : Except Failure α} {anyFailed : Bool}
    (raised : failed outcome = true → anyFailed = true) :
    failed (member.settle outcome anyFailed) = anyFailed := by
  cases outcome with
  | error failure => exact (raised rfl).symm
  | ok value => cases anyFailed <;> rfl

/-- What is taken from an image, or is missing there, was found in it if it was taken. -/
theorem find?_of_taken {image : Image} {kernel : Kernel} {symbol : KernelSymbol}
    (taken : (match image.find? kernel.symbol with
      | some symbol => .ok symbol
      | none => .error (.symbolMissing kernel.symbol) : Except Failure KernelSymbol) = .ok symbol) :
    image.find? kernel.symbol = some symbol := by
  cases found : image.find? kernel.symbol with
  | none => rw [found] at taken; exact (nomatch taken)
  | some own => rw [found] at taken; exact congrArg some (Except.ok.inj taken)

/-- An exchange about an outcome. -/
theorem secures_agree {outcome : Except Failure α} {post : Except Failure α → Session → σ → Prop}
    (allowed : contract.asks state (.combine (failed outcome)))
    (holds : ∀ (anyFailed : Bool) later,
      contract.answers state (.combine (failed outcome)) anyFailed later →
        post (session.member.settle outcome anyFailed) session later) :
    Secures contract (agree outcome) post session state :=
  Secures.ask allowed fun anyFailed later answered =>
    Secures.get (secures_resolved (holds anyFailed later answered))

/-! ### Fresh images -/

/-- An image is opened, and the session keeps it. -/
theorem run_load (path : Path) (session : Session) :
    (onCache (Cache.load path)).run.run session =
      .ask (.openImage path) fun (opened : Except (Path × LoadFault) Image) =>
        match opened with
        | .ok image => .done (.ok image, { session with cache := session.cache.retain image })
        | .error (place, fault) => .done (.error (.load place fault), session) := by
  show ((Cache.load path).run.run session.cache).bind _ = _
  rw [Cache.run_load]
  refine congrArg (Action.ask (Effect.openImage path)) (funext fun opened => ?_)
  cases opened with
  | ok image => rfl
  | error fault => rfl

/-- **A fresh image**: `loaded` is what holds when it was opened and put to use, or could not be
opened. -/
theorem secures_fresh {path : Path} {use : Image → Except Failure α}
    {post : Except Failure α → Session → σ → Prop} (loaded : Except Failure α → Session → σ → Prop)
    (allowed : contract.asks state (.openImage path))
    (good : ∀ image last, contract.answers state (.openImage path) (.ok image) last →
      loaded (use image) { session with cache := session.cache.retain image } last)
    (bad : ∀ place fault last, contract.answers state (.openImage path) (.error (place, fault)) last →
      loaded (.error (.load place fault)) session last)
    (rest : ∀ outcome later last, loaded outcome later last →
      contract.asks last (.combine (failed outcome)) ∧
      ∀ anyFailed further, contract.answers last (.combine (failed outcome)) anyFailed further →
        Secures contract (do
          if later.member.isRoot then Action.remove path
          resolved (later.member.settle outcome anyFailed)) post later further) :
    Secures contract (loadFresh path use) post session state := by
  have loads : Secures contract (do
      let image ← onCache (Cache.load path)
      resolved (use image)) loaded session state := by
    unfold Secures
    rw [run_bind, run_load]
    refine ⟨allowed, ?_⟩
    rintro (⟨place, fault⟩ | image) last answered
    · exact bad place fault last answered
    · exact good image last answered
  refine secures_observing loaded loads fun outcome later last holds => ?_
  obtain ⟨allowed, ends⟩ := rest outcome later last holds
  refine secures_observing (fun agreed final further => Secures contract (do
      if final.member.isRoot then Action.remove path
      resolved agreed) post final further) (secures_agree allowed ends) ?_
  exact fun _ _ _ removes => Secures.get removes

/-! ### Commands that are checked -/

/-- The session has a coordinator to which every command can be handed. -/
def Takes (session : Session) (steps : List (Step × Bytes)) : Prop :=
  ∀ step ∈ steps, ∃ coordinator, session.coordinator = some coordinator ∧
    coordinator.unfit? step.2 = none

/-- Why a command is refused before anything is asked, if it is: it does not fit the channel, or the
session has no coordinator. -/
def unfit? (session : Session) (command : Bytes) : Option Failure :=
  match session.coordinator with
  | some coordinator => coordinator.unfit? command
  | none =>
    some (if session.member.isRoot then .workerGone else .notCoordinator session.member.rank)

theorem takes_iff {steps : List (Step × Bytes)} :
    session.Takes steps ↔ ∀ step ∈ steps, session.unfit? step.2 = none := by
  refine forall_congr' fun step => imp_congr_right fun _ => ?_
  unfold unfit?
  cases session.coordinator with
  | none => exact iff_of_false (fun ⟨_, owned, _⟩ => nomatch owned) nofun
  | some coordinator =>
    exact ⟨fun ⟨_, owned, fits⟩ => Option.some.inj owned ▸ fits, fun fits => ⟨_, rfl, fits⟩⟩

theorem run_check (command : Bytes) (session : Session) :
    (onCoordinator (Coordinator.check command)).run.run session =
      .done (match session.unfit? command with
        | some failure => .error failure
        | none => .ok (), session) := by
  obtain ⟨config, member, _ | coordinator, cache⟩ := session
  · rfl
  · show ((Coordinator.check command).run.run coordinator).bind _ = _
    rw [Coordinator.run_check]
    rfl

/-- **Commands are checked in order**, and the first that is refused decides. -/
theorem run_checkAll (steps : List (Step × Bytes)) (session : Session) :
    (checkAll steps).run.run session =
      .done (match steps.findSome? fun step => session.unfit? step.2 with
        | some failure => .error failure
        | none => .ok (), session) := by
  induction steps with
  | nil => rfl
  | cons step rest ih =>
    show (onCoordinator (Coordinator.check step.2) >>= fun _ => checkAll rest).run.run session = _
    rw [run_bind, run_check, List.findSome?_cons]
    cases session.unfit? step.2 with
    | some failure => rfl
    | none => exact ih

theorem run_checkAll_taken {steps : List (Step × Bytes)} (takes : session.Takes steps) :
    (checkAll steps).run.run session = .done (.ok (), session) := by
  rw [run_checkAll, List.findSome?_eq_none_iff.mpr (takes_iff.mp takes)]

/-- Commands are written and checked before anything is asked. -/
theorem secures_prepared {written : Except Failure (List (Step × Bytes))}
    {next : List (Step × Bytes) → SessionM α} {post : Except Failure α → Session → σ → Prop}
    (good : ∀ steps, written = .ok steps → session.Takes steps →
      Secures contract (next steps) post session state)
    (bad : ∀ failure, post (.error failure) session state) :
    Secures contract (do let steps ← resolved written; checkAll steps; next steps) post session
      state := by
  cases written with
  | error failure => exact bad failure
  | ok steps =>
    show Secures contract (checkAll steps >>= fun _ => next steps) post session state
    unfold Secures
    rw [run_bind, run_checkAll]
    cases refused : steps.findSome? fun step => session.unfit? step.2 with
    | some failure => exact bad failure
    | none => exact good steps rfl (takes_iff.mpr (List.findSome?_eq_none_iff.mp refused))

/-- Commands that can be written and handed over pass the checks, and then the rest follows. -/
theorem secures_passed {written : Except Failure (List (Step × Bytes))}
    {next : List (Step × Bytes) → SessionM α} {post : Except Failure α → Session → σ → Prop}
    {steps : List (Step × Bytes)} (listed : written = .ok steps) (takes : session.Takes steps)
    (rest : Secures contract (next steps) post session state) :
    Secures contract (do let steps ← resolved written; checkAll steps; next steps) post session
      state := by
  subst listed
  show Secures contract (checkAll steps >>= fun _ => next steps) post session state
  unfold Secures
  rw [run_bind, run_checkAll_taken takes]
  exact rest

/-- A coordinator that is dead takes no command. -/
theorem run_callAll_gone {coordinator : Coordinator} {steps : List (Step × Bytes)}
    (owned : session.coordinator = some coordinator) (gone : coordinator.dead = true)
    (some : steps ≠ []) :
    (callAll steps).run.run session = .done (.error .workerGone, session) := by
  obtain ⟨config, member, _, cache⟩ := session
  obtain rfl : _ = Option.some coordinator := owned
  cases steps with
  | nil => exact absurd rfl some
  | cons step rest =>
    have refused : coordinator.refusal? step.2 = Option.some .workerGone := if_pos gone
    show (onCoordinator (Coordinator.call step.1 step.2) >>= fun _ => callAll rest).run.run _ = _
    rw [run_bind]
    show (((Coordinator.call step.1 step.2).run.run coordinator).bind _).bind _ = _
    rw [Coordinator.run_call, refused]
    rfl

/-! ### Runs of steps -/

/-- A step whose outcome is taken as a value. -/
theorem yields_observing {step : SessionM α} {outcome : Except Failure α} {later : Session}
    {last : σ} (yields : (step.run.run session).Yields contract state (outcome, later) last) :
    ((observing step).run.run session).Yields contract state (.ok outcome, later) last :=
  yields.bind (.done _ _)

theorem yields_resolved {outcome : Except Failure α} :
    ((resolved outcome).run.run session).Yields contract state (outcome, session) state :=
  .done _ _

/-- An exchange about an outcome. -/
theorem yields_agree {outcome : Except Failure α} {anyFailed : Bool} {last : σ}
    (answered : contract.answers state (.combine (failed outcome)) anyFailed last) :
    ((agree outcome).run.run session).Yields contract state
      (session.member.settle outcome anyFailed, session) last :=
  @Yields.put _ _ _ _ _ (.combine (failed outcome)) _ anyFailed _ _ _ _ answered
    (.get yields_resolved)

/-- **What is remembered** is returned at once. -/
theorem run_lookup_remembered {kernel : Kernel} {symbol : KernelSymbol}
    (remembered : session.cache.remembered? kernel.hash = some symbol) :
    (lookup kernel).run.run session = .done (.ok symbol, session) := by
  unfold lookup
  rw [run_get, remembered]
  rfl

end Session

end KernelCache
