import KernelCache.Proofs.Cache.Steps
import KernelCache.Proofs.Coordinator.Steps
import KernelCache.Proofs.Group.Joint
import KernelCache.Session.Lookup

/-
**Lookups in lockstep.**

Every member of a group looks kernels up in a session of its own. What it is answered, by the
loader, by the files or by the worker of the root, is its own affair; only the exchanges with the
group are common. This module shows that nobody waits at an exchange that somebody else does not
come to.

* `Session.Aligned` is what keeps the members together: they agree on whether they have looked at
  the library, and on the hashes they remember. No step but a lookup's own changes either
  (`Session.keeps_relink`, `Session.keeps_build`, `Session.keeps_load`).
* `Session.Meets steps sessions post`: the members meet in every exchange of their steps, and either
  all succeed, and `post` holds, or all fail. `Session.Meets.bind` composes it, and
  `Session.Meets.agree` turns outcomes that differ into outcomes that do not.
* `Session.meets_lookup` — a lookup by aligned members, from `Session.meets_probeLibrary`,
  `Session.meets_find` and `Session.meets_buildAndLoad`.
* **`Session.lookups_lockstep`** — every sequence of lookups, under every order of the steps.
-/

namespace KernelCache

open KernelCache.Action

namespace Session

variable {α β κ : Type}

/-! ### What the root does alone -/

/-- What a session has besides its coordinator. -/
def besides (session : Session) : Config × Member × Cache :=
  (session.config, session.member, session.cache)

theorem keeps_onCoordinator {part : Coordinator → κ} {step : CoordinatorM α}
    (keeps : Keeps part step) : Keeps besides (onCoordinator step) := by
  intro session
  rcases session with ⟨config, member, _ | coordinator, cache⟩
  · exact rfl
  · exact (keeps coordinator).bind fun ⟨_, _⟩ _ => rfl

theorem keeps_resolved {part : Session → κ} (outcome : Except Failure α) :
    Keeps part (resolved outcome) := fun _ => rfl

theorem keeps_observing {part : Session → κ} {step : SessionM α} (keeps : Keeps part step) :
    Keeps part (observing step) := by
  intro session
  exact (keeps session).bind fun _ same => same

theorem keeps_checkAll (steps : List (Step × Bytes)) : Keeps besides (checkAll steps) := by
  induction steps with
  | nil => exact Keeps.pure _
  | cons step rest ih =>
    have checks : Keeps (fun _ => ()) (Coordinator.check step.2) := Coordinator.keeps_check step.2
    exact Keeps.bind (keeps_onCoordinator checks) fun _ => ih

theorem keeps_callAll (steps : List (Step × Bytes)) : Keeps besides (callAll steps) := by
  induction steps with
  | nil => exact Keeps.pure _
  | cons step rest ih =>
    exact Keeps.bind (keeps_onCoordinator (Coordinator.keeps_call step.1 step.2)) fun _ => ih

theorem keeps_relink : Keeps besides relink := by
  refine Keeps.get fun session => ?_
  refine Keeps.bind (Keeps.perform rfl) fun present => ?_
  split
  · refine Keeps.bind (keeps_resolved _) fun steps => ?_
    refine Keeps.bind (keeps_checkAll steps) fun _ => ?_
    refine Keeps.bind (keeps_observing (keeps_callAll steps)) fun outcome => ?_
    have rest : Keeps besides (resolved outcome >>= fun _ => pure true) :=
      Keeps.bind (keeps_resolved _) fun _ => Keeps.pure _
    split
    · exact Keeps.bind (Keeps.perform rfl) fun _ => rest
    · exact rest
  · exact Keeps.pure _

theorem keeps_build (kernel : Kernel) : Keeps besides (build kernel) := by
  refine Keeps.get fun session => ?_
  refine Keeps.bind (keeps_resolved _) fun steps => ?_
  refine Keeps.bind (keeps_checkAll steps) fun _ => ?_
  refine Keeps.bind (Keeps.perform rfl) fun written => ?_
  cases written with
  | error fault => exact Keeps.throw _
  | ok value =>
    refine Keeps.bind (keeps_observing (keeps_callAll steps)) fun outcome => ?_
    refine Keeps.bind (Keeps.perform rfl) fun _ => Keeps.bind (Keeps.perform rfl) fun _ => ?_
    split
    · exact Keeps.bind (Keeps.perform rfl) fun _ => keeps_resolved _
    · exact keeps_resolved _

/-! ### Members in step with each other -/

variable {size : Nat}

/-- What the members of a group have to have in common: the parts of a cache that decide which
exchanges a lookup takes part in. -/
def decisive (session : Session) : Bool × List (UInt64 × KernelSymbol) :=
  (session.cache.probed, session.cache.memo)

/-- The members agree on whether they have looked at the library, and remember the same hashes. -/
def Aligned (sessions : Fin size → Session) : Prop :=
  ∀ member other, (sessions member).cache.probed = (sessions other).cache.probed ∧
    ∀ hash, ((sessions member).cache.remembered? hash).isSome =
      ((sessions other).cache.remembered? hash).isSome

theorem Aligned.of_memo {before after : Fin size → Session} (aligned : Aligned before)
    (memo : ∀ member, (after member).cache.memo = (before member).cache.memo)
    (probed : ∀ member other, (after member).cache.probed = (after other).cache.probed) :
    Aligned after := by
  intro member other
  refine ⟨probed member other, fun hash => ?_⟩
  unfold Cache.remembered?
  rw [memo member, memo other]
  exact (aligned member other).2 hash

theorem Aligned.of_decisive {before after : Fin size → Session} (aligned : Aligned before)
    (same : ∀ member, (after member).decisive = (before member).decisive) : Aligned after := by
  have probed : ∀ member, (after member).cache.probed = (before member).cache.probed :=
    fun member => congrArg Prod.fst (same member)
  refine aligned.of_memo (fun member => congrArg Prod.snd (same member)) fun member other => ?_
  rw [probed member, probed other]
  exact (aligned member other).1

/-- Either all results are values, or all are failures. -/
def Unanimous (post : (Fin size → α) → (Fin size → Session) → Prop)
    (results : Fin size → Except Failure α × Session) : Prop :=
  (∃ values, (∀ member, (results member).1 = .ok (values member)) ∧
      post values fun member => (results member).2) ∨
    ((∀ member, failed (results member).1 = true) ∧ Aligned fun member => (results member).2)

/-- Members that take a step each meet in every exchange, and end unanimously. -/
def Meets (steps : Fin size → SessionM α) (sessions : Fin size → Session)
    (post : (Fin size → α) → (Fin size → Session) → Prop) : Prop :=
  Joint.Together (Unanimous post) fun member => (steps member).run.run (sessions member)

namespace Meets

variable {sessions : Fin size → Session} {steps : Fin size → SessionM α}
  {post : (Fin size → α) → (Fin size → Session) → Prop}

theorem pure {values : Fin size → α} (holds : post values sessions) :
    Meets (fun member => Pure.pure (values member)) sessions post :=
  .done _ (fun member => (.ok (values member), sessions member)) (fun _ => rfl)
    (.inl ⟨values, fun _ => rfl, holds⟩)

theorem get {next : Fin size → Session → SessionM α}
    (rest : Meets (fun member => next member (sessions member)) sessions post) :
    Meets (fun member => MonadState.get >>= next member) sessions post := rest

theorem bind {next : Fin size → α → SessionM β}
    {after : (Fin size → β) → (Fin size → Session) → Prop} (first : Meets steps sessions post)
    (rest : ∀ values later, post values later →
      Meets (fun member => next member (values member)) later after) :
    Meets (fun member => steps member >>= next member) sessions after := by
  unfold Meets
  simp only [run_bind]
  refine Joint.Together.bind first fun results unanimous => ?_
  rcases unanimous with ⟨values, succeeded, holds⟩ | ⟨failures, aligned⟩
  · have following := rest values _ holds
    unfold Meets at following
    simpa only [succeeded] using following
  · have each : ∀ member, ∃ failure, (results member).1 = .error failure := by
      intro member
      have fails := failures member
      cases outcome : (results member).1 with
      | ok value => rw [outcome] at fails; cases fails
      | error failure => exact ⟨failure, rfl⟩
    choose failure fails using each
    refine .done _ (fun member => (.error (failure member), (results member).2))
      (fun member => ?_) (.inr ⟨fun _ => rfl, aligned⟩)
    simp only [fails]

/-- Steps without an exchange, when their outcomes are known to be unanimous. -/
theorem ofAlone {post' : Fin size → Except Failure α × Session → Prop}
    (alone : ∀ member, ((steps member).run.run (sessions member)).Alone (post' member))
    (unanimous : ∀ results, (∀ member, post' member (results member)) → Unanimous post results) :
    Meets steps sessions post :=
  (Joint.Together.ofAlone alone).mono unanimous

/-- The outcomes of steps without an exchange, as values. -/
theorem outcomes (keeps : ∀ member, Keeps decisive (steps member)) :
    Meets (fun member => observing (steps member)) sessions fun _ later =>
      ∀ member, (later member).decisive = (sessions member).decisive := by
  have alone : ∀ member, ((Session.observing (steps member)).run.run (sessions member)).Alone
      fun result => (∃ outcome, result.1 = .ok outcome) ∧
        result.2.decisive = (sessions member).decisive := by
    intro member
    exact (keeps member (sessions member)).bind fun result same => ⟨⟨result.1, rfl⟩, same⟩
  refine ofAlone alone fun results each => ?_
  choose values succeeded using fun member => (each member).1
  exact .inl ⟨values, succeeded, fun member => (each member).2⟩

/-- An exchange of flags. -/
theorem exchange (flags : Fin size → Bool) :
    Meets (fun member => liftM (Action.combine (flags member))) sessions fun answers later =>
      later = sessions ∧ ∀ member, answers member = Joint.anyOf flags := by
  refine Joint.Together.exchange _ flags
    (fun member anyFailed => .done (.ok anyFailed, sessions member)) (fun _ => rfl) ?_
  exact .done _ _ (fun _ => rfl)
    (.inl ⟨fun _ => Joint.anyOf flags, fun _ => rfl, rfl, fun _ => rfl⟩)

/-- Unanimous outcomes stay so when they are looked at as values. -/
theorem observing (inner : Meets steps sessions post) :
    Meets (fun member => Session.observing (steps member)) sessions fun outcomes later =>
      Unanimous post fun member => (outcomes member, later member) := by
  refine Joint.Together.bind inner fun results unanimous => ?_
  exact .done _ (fun member => (.ok (results member).1, (results member).2)) (fun _ => rfl)
    (.inl ⟨fun member => (results member).1, fun _ => rfl, unanimous⟩)

/-- **Agreement**: all have succeeded, or all fail. -/
theorem agree (aligned : Aligned sessions) (outcomes : Fin size → Except Failure α) :
    Meets (fun member => Session.agree (outcomes member)) sessions fun values later =>
      later = sessions ∧ ∀ member, outcomes member = .ok (values member) := by
  refine bind (exchange fun member => failed (outcomes member)) fun answers later met => ?_
  obtain ⟨rfl, combined⟩ := met
  refine get ?_
  refine .done _ (fun member => ((later member).member.settle (outcomes member) (answers member),
    later member)) (fun _ => rfl) ?_
  cases flag : Joint.anyOf fun member => failed (outcomes member) with
  | false =>
    have each : ∀ member, ∃ value, outcomes member = .ok value := by
      intro member
      have succeeded := (Joint.anyOf_eq_false_iff _).mp flag member
      cases outcome : outcomes member with
      | ok value => exact ⟨value, rfl⟩
      | error failure => rw [outcome] at succeeded; cases succeeded
    choose values succeeded using each
    refine .inl ⟨values, fun member => ?_, rfl, succeeded⟩
    show (later member).member.settle (outcomes member) (answers member) = _
    rw [combined, flag, succeeded]
    rfl
  | true =>
    refine .inr ⟨fun member => ?_, aligned⟩
    show failed ((later member).member.settle (outcomes member) (answers member)) = true
    rw [combined, flag]
    cases outcomes member <;> rfl

end Meets

/-! ### A lookup, part by part -/

theorem decisive_of_besides {first second : Session} (same : first.besides = second.besides) :
    first.decisive = second.decisive := by
  have caches : first.cache = second.cache := congrArg (fun parts => parts.2.2) same
  unfold decisive
  rw [caches]

theorem keeps_load (path : Path) : Keeps decisive (onCache (Cache.load path)) := by
  intro session
  show Alone _ (((Cache.load path).run.run session.cache).bind _)
  rw [Cache.run_load]
  refine ⟨rfl, fun opened => ?_⟩
  cases opened with
  | ok image => exact rfl
  | error fault => exact rfl

/-- A probe yields whether the library was opened, and never fails. -/
theorem alone_probe (session : Session) :
    ((onCache Cache.probe).run.run session).Alone fun result =>
      (∃ loaded, result.1 = .ok loaded) ∧ result.2.cache.memo = session.cache.memo ∧
        result.2.cache.probed = true := by
  show Alone _ ((Cache.probe.run.run session.cache).bind _)
  rw [Cache.run_probe]
  refine ⟨rfl, fun (there : Bool) => ?_⟩
  cases there with
  | false => exact ⟨⟨false, rfl⟩, rfl, rfl⟩
  | true =>
    refine ⟨rfl, fun opened => ?_⟩
    cases opened with
    | ok image => exact ⟨⟨true, rfl⟩, rfl, rfl⟩
    | error fault => exact ⟨⟨false, rfl⟩, rfl, rfl⟩

/-- The members open a fresh image: all have it, or all fail. -/
theorem meets_loadFresh {sessions : Fin size → Session} (aligned : Aligned sessions)
    (path : Fin size → Path) (use : Fin size → Image → Except Failure α) :
    Meets (fun member => loadFresh (path member) (use member)) sessions fun _ later =>
      Aligned later := by
  have opens : ∀ member, Keeps decisive (do
      let image ← onCache (Cache.load (path member))
      resolved (use member image) : SessionM α) :=
    fun member => Keeps.bind (keeps_load (path member)) fun _ => keeps_resolved _
  refine Meets.bind (Meets.outcomes opens) fun loaded later same => ?_
  have aligned := aligned.of_decisive same
  refine Meets.bind (Meets.observing (Meets.agree aligned loaded)) fun agreed last unanimous => ?_
  have tidies : ∀ member, ((do
      if (last member).member.isRoot then Action.remove (path member)
      resolved (agreed member) : SessionM α).run.run (last member)).Alone
        (· = (agreed member, last member)) := by
    intro member
    show Alone _ ((if (last member).member.isRoot = true then _ else _ : SessionM α).run.run _)
    split
    · exact ⟨rfl, fun _ => rfl⟩
    · exact rfl
  refine Meets.get (Meets.ofAlone tidies fun results each => ?_)
  obtain rfl : results = fun member => (agreed member, last member) := funext each
  rcases unanimous with ⟨values, succeeded, same, _⟩ | failures
  · exact .inl ⟨values, succeeded, same ▸ aligned⟩
  · exact .inr failures

/-- The members look at the library: all go on, or all fail. -/
theorem meets_probeLibrary {sessions : Fin size → Session} (aligned : Aligned sessions) :
    Meets (fun _ => probeLibrary) sessions fun _ later => Aligned later := by
  have looked : Meets (fun _ => onCache Cache.probe) sessions fun _ later => Aligned later := by
    refine Meets.ofAlone (fun member => alone_probe (sessions member)) fun results each => ?_
    choose loaded succeeded using fun member => (each member).1
    refine .inl ⟨loaded, succeeded, aligned.of_memo (fun member => (each member).2.1)
      fun member other => ?_⟩
    exact (each member).2.2.trans (each other).2.2.symm
  refine Meets.bind looked fun loaded later aligned => ?_
  refine Meets.bind (Meets.exchange fun member => !loaded member) fun answers _ met => ?_
  obtain ⟨rfl, combined⟩ := met
  simp only [combined]
  cases Joint.anyOf fun member => !loaded member with
  | false => exact Meets.pure aligned
  | true =>
    simp only [reduceIte]
    refine Meets.get (Meets.bind (Meets.outcomes fun member => ?_) fun outcomes later same => ?_)
    · split
      · exact keeps_relink.weaken decisive_of_besides
      · exact Keeps.pure _
    refine Meets.bind (Meets.agree (aligned.of_decisive same) outcomes) fun relinked _ agreed => ?_
    obtain ⟨rfl, -⟩ := agreed
    have aligned := aligned.of_decisive same
    -- The root's answer, and no other, decides for all of them.
    refine Meets.bind (Meets.exchange relinked) fun answers _ met => ?_
    obtain ⟨rfl, combined⟩ := met
    simp only [combined]
    cases Joint.anyOf relinked with
    | false => exact Meets.pure aligned
    | true =>
      simp only [reduceIte]
      exact Meets.get (meets_loadFresh aligned _ _)

/-- The members have the kernel built and load it: all have its symbol, or all fail. -/
theorem meets_buildAndLoad {sessions : Fin size → Session} (aligned : Aligned sessions)
    (kernel : Kernel) :
    Meets (fun _ => buildAndLoad kernel) sessions fun _ later => Aligned later := by
  refine Meets.get (Meets.bind (Meets.outcomes fun member => ?_) fun outcomes later same => ?_)
  · split
    · exact (keeps_build kernel).weaken decisive_of_besides
    · exact Keeps.pure _
  refine Meets.bind (Meets.agree (aligned.of_decisive same) outcomes) fun built _ agreed => ?_
  obtain ⟨rfl, -⟩ := agreed
  exact Meets.get (meets_loadFresh (aligned.of_decisive same) _ _)

/-- The members remember a symbol each, under the same hash. -/
theorem meets_remember {sessions : Fin size → Session} (aligned : Aligned sessions) (hash : UInt64)
    (symbols : Fin size → KernelSymbol) :
    Meets (fun member => do
        modify fun session =>
          { session with cache := session.cache.remember hash (symbols member) }
        return symbols member)
      sessions fun _ later => Aligned later := by
  refine .done _ (fun member => (.ok (symbols member), { sessions member with
    cache := (sessions member).cache.remember hash (symbols member) })) (fun _ => rfl)
    (.inl ⟨symbols, fun _ => rfl, fun member other => ⟨(aligned member other).1, fun asked => ?_⟩⟩)
  have before := (aligned member other).2 asked
  unfold Cache.remembered? at before
  show (List.lookup asked (_ :: _)).isSome = (List.lookup asked (_ :: _)).isSome
  rw [List.lookup_cons, List.lookup_cons]
  cases asked == hash with
  | true => rfl
  | false => exact before

/-- The members search their images, and have the kernel built when one of them misses it. -/
theorem meets_find {sessions : Fin size → Session} (aligned : Aligned sessions) (kernel : Kernel) :
    Meets (fun _ => find kernel) sessions fun _ later => Aligned later := by
  refine Meets.get (Meets.bind (Meets.exchange _) fun answers later met => ?_)
  obtain ⟨rfl, combined⟩ := met
  simp only [combined]
  cases missed : Joint.anyOf fun member => ((later member).cache.resolve? kernel.symbol).isNone with
  | false =>
    have each : ∀ member, ∃ symbol, (later member).cache.resolve? kernel.symbol = some symbol :=
      fun member => Option.isNone_eq_false_iff.mp ((Joint.anyOf_eq_false_iff _).mp missed member)
        |> Option.isSome_iff_exists.mp
    choose symbols found using each
    simp only [found]
    exact meets_remember aligned kernel.hash symbols
  | true =>
    have built : Meets (fun _ => do
        let symbol ← buildAndLoad kernel
        modify fun session => { session with cache := session.cache.remember kernel.hash symbol }
        return symbol) later fun _ last => Aligned last :=
      Meets.bind (meets_buildAndLoad aligned kernel) fun symbols _ aligned =>
        meets_remember aligned kernel.hash symbols
    unfold Meets at built ⊢
    refine cast (congrArg _ (funext fun member => ?_)) built
    beta_reduce
    cases (later member).cache.resolve? kernel.symbol <;> rfl

/-- **A lookup**: the members meet in every exchange of it, all have the symbol or all fail, and
they are aligned again. -/
theorem meets_lookup {sessions : Fin size → Session} (aligned : Aligned sessions)
    (kernel : Kernel) : Meets (fun _ => lookup kernel) sessions fun _ later => Aligned later := by
  refine Meets.get ?_
  by_cases known : ∀ member, ((sessions member).cache.remembered? kernel.hash).isSome = true
  · choose symbols remembered using fun member => Option.isSome_iff_exists.mp (known member)
    simp only [remembered]
    exact Meets.pure aligned
  · have unknown : ∀ member, (sessions member).cache.remembered? kernel.hash = none := by
      obtain ⟨other, missing⟩ := not_forall.mp known
      intro member
      rw [← (aligned member other).2 kernel.hash] at missing
      simpa using missing
    simp only [unknown]
    refine Meets.get ?_
    by_cases looked : ∀ member, (sessions member).cache.probed = true
    · simp only [looked]
      exact meets_find aligned kernel
    · have fresh : ∀ member, (sessions member).cache.probed = false := by
        obtain ⟨other, missing⟩ := not_forall.mp looked
        intro member
        rw [← (aligned member other).1] at missing
        simpa using missing
      simp only [fresh]
      exact Meets.bind (meets_probeLibrary aligned) fun _ _ aligned => meets_find aligned kernel

/-! ### A run of lookups -/

/-- What a member took out of a lookup. -/
structure Attempt where
  /-- The exchanges it took part in. -/
  exchanges : Nat
  outcome : Except Failure KernelSymbol
  /-- Its session after the lookup. -/
  session : Session

/-- A member looks kernels up in order, whatever comes of each. -/
def lookups : List Kernel → Session → Action (List Attempt)
  | [], _ => .done []
  | kernel :: rest, session => do
    let ((outcome, session), exchanges) ← ((lookup kernel).run.run session).counted 0
    let later ← lookups rest session
    return { exchanges, outcome, session } :: later

/-- Two members came through a lookup alike. -/
structure Attempt.Alike (first second : Attempt) : Prop where
  exchanges : first.exchanges = second.exchanges
  outcome : failed first.outcome = failed second.outcome
  remembered : ∀ hash, (first.session.cache.remembered? hash).isSome =
    (second.session.cache.remembered? hash).isSome
  probed : first.session.cache.probed = second.session.cache.probed

theorem together_lookups (kernels : List Kernel) {sessions : Fin size → Session}
    (aligned : Aligned sessions) :
    Joint.Together (fun attempts => (∀ member, (attempts member).length = kernels.length) ∧
        ∀ member other, List.Forall₂ Attempt.Alike (attempts member) (attempts other))
      fun member => lookups kernels (sessions member) := by
  induction kernels generalizing sessions with
  | nil => exact .done _ (fun _ => []) (fun _ => rfl) ⟨fun _ => rfl, fun _ _ => .nil⟩
  | cons kernel rest ih =>
    refine Joint.Together.bind ((meets_lookup aligned kernel).counted 0) fun results met => ?_
    obtain ⟨unanimous, equal⟩ := met
    have aligned : Aligned fun member => (results member).1.2 :=
      unanimous.elim (fun ⟨_, _, aligned⟩ => aligned) fun ⟨_, aligned⟩ => aligned
    have outcomes : ∀ member other,
        failed (results member).1.1 = failed (results other).1.1 := by
      intro member other
      rcases unanimous with ⟨values, succeeded, _⟩ | ⟨failures, _⟩
      · rw [succeeded member, succeeded other]
        rfl
      · rw [failures member, failures other]
    refine Joint.Together.bind (ih aligned) fun later alike => ?_
    refine .done _ (fun member => ⟨(results member).2, (results member).1.1, (results member).1.2⟩
      :: later member) (fun _ => rfl) ⟨fun member => congrArg (· + 1) (alike.1 member),
        fun member other => .cons ⟨equal member other, outcomes member other,
          (aligned member other).2, (aligned member other).1⟩ (alike.2 member other)⟩

/-- **Lookups in lockstep.** The members of a group start with sessions of their own and look up the
same kernels in the same order. Whatever each of them is answered, and in whatever order they go on:
the group comes to an end; it is never stuck before; and at the end every member has come through
every lookup like every other one. -/
theorem lookups_lockstep (kernels : List Kernel) (config : Fin size → Config)
    (member : Fin size → Member) (coordinator : Fin size → Option Coordinator) :
    let start := fun rank =>
      lookups kernels (assemble (config rank) (member rank) (coordinator rank))
    Acc (fun later earlier => Joint.Step earlier later) start ∧
      ∀ reached, Joint.Run start reached →
        (∃ next, Joint.Step reached next) ∨
          ∃ attempts : Fin size → List Attempt,
            (∀ rank, reached rank = .done (attempts rank)) ∧
            (∀ rank, (attempts rank).length = kernels.length) ∧
            ∀ rank other, List.Forall₂ Attempt.Alike (attempts rank) (attempts other) := by
  intro start
  have aligned : Aligned fun rank => assemble (config rank) (member rank) (coordinator rank) :=
    fun _ _ => ⟨rfl, fun _ => rfl⟩
  refine ⟨Joint.step_wellFounded.apply start, fun reached run => ?_⟩
  rcases ((together_lookups kernels aligned).run run).progress with step | ⟨attempts, done, alike⟩
  · exact .inl step
  · exact .inr ⟨attempts, done, alike.1, alike.2⟩

/-- Two members look the same kernel up. The first one is told that there is no library; the second
one is still to look. -/
theorem lookups_lockstep_pair :
    let kernels : List Kernel := [⟨1, "k1", "int k1;"⟩]
    let start := fun rank : Fin 2 =>
      lookups kernels (assemble {} (Member.ofRank (.ofNat rank) 2) none)
    ∃ reached, Joint.Run start reached ∧ reached ≠ start ∧
      ((∃ next, Joint.Step reached next) ∨
        ∃ attempts : Fin 2 → List Attempt,
          (∀ rank, reached rank = .done (attempts rank)) ∧
          (∀ rank, (attempts rank).length = kernels.length) ∧
          ∀ rank other, List.Forall₂ Attempt.Alike (attempts rank) (attempts other)) := by
  intro kernels start
  have looks : Joint.Step start (Function.update start 0 _) :=
    .answer start 0 (.present ({} : Config).layout.library) _ rfl rfl false
  refine ⟨_, .single looks, fun same => ?_, (lookups_lockstep kernels (fun _ => {})
    (fun rank => .ofRank (.ofNat rank) 2) fun _ => none).2 _ (.single looks)⟩
  have changed := congrFun same 0
  rw [Function.update_self] at changed
  cases changed

end Session

end KernelCache
