import KernelCache.Proofs.Cache.Retention
import KernelCache.Proofs.Layout.Places
import KernelCache.Proofs.Session.Founding
import KernelCache.Proofs.Session.Freshness
import KernelCache.Proofs.Session.March

/-
**What lookups do to a cache.**

Whatever a member is answered, a lookup does nothing to its cache but a series of operations, and it
hands to the loader what these operations load.

* `Line.fulfils_confined`: an action that asks only some questions notes only such questions.
* `Session.Acts kernels session line operations later last`: from one session and line to a later one
  by a series of operations. `Session.Gathers` is one that remembers nothing.
* **`Session.acts_lookup`**: a lookup is such a series, and remembers what it answers.
* `Session.Chronicle`: the operations of a whole run. **`Session.Run.retains`**: images are retained
  and symbols are remembered for the rest of the run, every name is resolved to its newest definition,
  and the library is opened at most once, when no kernel has it as its image.
* `Session.Doubling.opens_library_twice`: a kernel that has.
-/

namespace KernelCache

open KernelCache.Action

namespace Event

/-- The path that was handed to the loader, and the loader's answer. -/
def attempt? : Event → Option (Path × Loading)
  | ⟨.openImage path, loading⟩ => some (path, loading)
  | _ => none

end Event

/-- A question that does not go to the loader. -/
def Effect.Idle : Effect → Prop
  | openImage _ => False
  | _ => True

theorem Event.attempt?_eq_none {event : Event} (idle : event.effect.Idle) :
    event.attempt? = none := by
  obtain ⟨effect, reply⟩ := event
  cases effect with
  | openImage path => exact idle.elim
  | _ => rfl

namespace Line

variable {α : Type} {line line' last last' : Line} {action : Action α}

/-! ### What is noted on a line -/

/-- What is noted stays noted. -/
theorem asked_prefix {value : α} (comes : action.Yields dialogue line value last) :
    line.asked <+: last.asked := by
  induction comes with
  | done value line => exact List.prefix_rfl
  | ask answered _ ih =>
    rw [asked_of_answers answered] at ih
    exact (List.prefix_append _ _).trans ih

/-- **What was asked and answered decides the value** that an action comes to. -/
theorem value_unique {value value' : α} (comes : action.Yields dialogue line value last)
    (comes' : action.Yields dialogue line' value' last') (same : line.asked = line'.asked)
    (same' : last.asked = last'.asked) : value = value' := by
  induction comes generalizing line' with
  | done value line =>
    cases comes'
    rfl
  | @ask effect next reply line between last value answered rest ih =>
    cases comes' with
    | @ask _ _ reply' _ between' _ _ answered' rest' =>
      have noted := asked_of_answers answered
      have noted' := asked_of_answers answered'
      have shown := asked_prefix rest
      rw [noted, same, same'] at shown
      have shown' := asked_prefix rest'
      rw [noted'] at shown'
      have equal := (List.prefix_of_prefix_length_le shown shown' (by simp)).eq_of_length (by simp)
      obtain rfl : reply = reply' := by
        simpa using List.append_cancel_left equal
      exact ih rest' (by rw [noted, noted', same]) same'

/-- An action that asks only some questions notes only such questions. -/
theorem fulfils_confined {allowed : Effect → Prop}
    (confined : action.Fulfils (.only allowed) (fun _ _ => True) ()) (line : Line) :
    action.Fulfils dialogue (fun _ last => ∃ events, last.asked = line.asked ++ events ∧
      ∀ event ∈ events, allowed event.effect) line := by
  induction action generalizing line with
  | done value =>
    exact ⟨[], (List.append_nil _).symm, fun _ inside => (List.not_mem_nil inside).elim⟩
  | ask effect next ih =>
    refine ⟨trivial, fun reply later answered => ?_⟩
    refine (ih reply (confined.2 reply () trivial) later).mono ?_
    rintro _ last ⟨events, asked, confines⟩
    refine ⟨⟨effect, reply⟩ :: events, ?_, List.forall_mem_cons.mpr ⟨confined.1, confines⟩⟩
    rw [asked, asked_of_answers answered, List.append_assoc, List.singleton_append]

end Line

namespace Session

variable {α : Type} {kernels : Kernel → Prop} {kernel : Kernel} {path : Path}
  {session between later final : Session} {line middle last further : Line}
  {operations others : List Cache.Operation}

/-! ### What the root does alone -/

/-- Commands are no affair of the loader. -/
theorem secures_callAll_idle (steps : List (Step × Bytes)) (session : Session) :
    Secures (.only Effect.Idle) (callAll steps) (fun _ _ _ => True) session () := by
  refine (secures_callAll_channel steps session).of_only fun effect channel => ?_
  cases effect <;> first | exact channel.elim | trivial

theorem secures_relink_idle (session : Session) :
    Secures (.only Effect.Idle) relink (fun _ _ _ => True) session () := by
  refine Secures.get (Secures.ask trivial fun present _ _ => ?_)
  split
  · refine secures_prepared (fun steps _ _ => ?_) fun _ => trivial
    refine secures_observing _ (secures_callAll_idle steps session) fun outcome later _ _ => ?_
    have ends (later : Session) : Secures (.only Effect.Idle)
        (resolved outcome >>= fun _ => pure true) (fun _ _ _ => True) later () :=
      Secures.bind (fun _ _ _ => True) (secures_resolved trivial)
        (fun _ _ _ _ => Secures.pure trivial) fun _ _ _ _ => trivial
    split
    · exact Secures.ask trivial fun _ _ _ => ends later
    · exact ends later
  · exact Secures.pure trivial

theorem secures_build_idle (kernel : Kernel) (session : Session) :
    Secures (.only Effect.Idle) (build kernel) (fun _ _ _ => True) session () := by
  refine Secures.get (secures_prepared (fun steps _ _ => ?_) fun _ => trivial)
  refine Secures.ask trivial fun stored _ _ => ?_
  cases stored with
  | error fault => exact Secures.throw trivial
  | ok value =>
    refine secures_observing _ (secures_callAll_idle steps session) fun outcome later _ _ => ?_
    refine Secures.ask trivial fun _ _ _ => Secures.ask trivial fun _ _ _ => ?_
    split
    · exact Secures.ask trivial fun _ _ _ => secures_resolved trivial
    · exact secures_resolved trivial

/-! ### Series of operations on the cache of a session -/

/-- From one session and line to a later one, by a series of operations on the cache. -/
structure Acts (kernels : Kernel → Prop) (session : Session) (line : Line)
    (operations : List Cache.Operation) (later : Session) (last : Line) : Prop where
  undergoes : session.cache.Undergoes kernels operations later.cache
  /-- The loader is given what the operations load. -/
  attempts : ∃ events, last.asked = line.asked ++ events ∧ events.filterMap Event.attempt? =
    operations.filterMap (Cache.Operation.attempt? session.cache.layout.library)

namespace Acts

theorem refl (session : Session) (line : Line) : Acts kernels session line [] session line :=
  ⟨.refl, [], (List.append_nil _).symm, rfl⟩

theorem trans (acts : Acts kernels session line operations between middle)
    (behind : Acts kernels between middle others later last) :
    Acts kernels session line (operations ++ others) later last where
  undergoes := acts.undergoes.trans behind.undergoes
  attempts := by
    obtain ⟨events, asked, same⟩ := acts.attempts
    obtain ⟨events', asked', same'⟩ := behind.attempts
    refine ⟨events ++ events', by rw [asked', asked, List.append_assoc], ?_⟩
    rw [List.filterMap_append, List.filterMap_append, same, same', acts.undergoes.lasts.layout]

/-- An operation about which the loader is not asked. -/
theorem single {operation : Cache.Operation} (admits : session.cache.Admits kernels operation)
    (idle : operation.attempt? session.cache.layout.library = none) :
    Acts kernels session line [operation]
      { session with cache := session.cache.after operation } line :=
  ⟨.single admits, [], (List.append_nil _).symm, by rw [List.filterMap_cons_none idle]; rfl⟩

end Acts

/-- From one session and line to a later one, by operations that remember nothing. -/
structure Gathers (kernels : Kernel → Prop) (session : Session) (line : Line) (later : Session)
    (last : Line) : Prop where
  acts : ∃ operations, Acts kernels session line operations later last
  memo : later.cache.memo = session.cache.memo

namespace Gathers

theorem refl (session : Session) (line : Line) : Gathers kernels session line session line :=
  ⟨⟨[], .refl session line⟩, rfl⟩

theorem trans (gathers : Gathers kernels session line between middle)
    (behind : Gathers kernels between middle later last) :
    Gathers kernels session line later last where
  acts := by
    obtain ⟨operations, acts⟩ := gathers.acts
    obtain ⟨others, acts'⟩ := behind.acts
    exact ⟨operations ++ others, acts.trans acts'⟩
  memo := behind.memo.trans gathers.memo

/-- Questions that do not go to the loader, and no operation. -/
theorem idle {events : List Event} (cache : later.cache = session.cache)
    (asked : last.asked = line.asked ++ events) (idle : ∀ event ∈ events, event.effect.Idle) :
    Gathers kernels session line later last where
  acts := by
    refine ⟨[], cache ▸ .refl, events, asked, List.filterMap_eq_nil_iff.mpr fun event inside => ?_⟩
    exact Event.attempt?_eq_none (idle event inside)
  memo := congrArg Cache.memo cache

/-- Afterwards there may be another question. -/
theorem note {effect : Effect} {reply : effect.Reply}
    (gathers : Gathers kernels session line later middle)
    (answered : Line.dialogue.answers middle effect reply last) (idle : effect.Idle) :
    Gathers kernels session line later last :=
  gathers.trans (.idle rfl (Line.asked_of_answers answered) (List.forall_mem_singleton.mpr idle))

/-- One operation that remembers nothing. -/
theorem single {operation : Cache.Operation} {events : List Event}
    (admits : session.cache.Admits kernels operation) (unremembered : operation.entry? = none)
    (asked : last.asked = line.asked ++ events)
    (attempts : events.filterMap Event.attempt? =
      [operation].filterMap (Cache.Operation.attempt? session.cache.layout.library)) :
    Gathers kernels session line { session with cache := session.cache.after operation } last where
  acts := ⟨[operation], .single admits, events, asked, attempts⟩
  memo := by
    rw [Cache.after, unremembered]
    rfl

end Gathers

/-! ### A lookup, part by part -/

/-- What leaves the cache as it is and asks the loader nothing. -/
theorem gathers_idle {step : SessionM α} (keeps : Keeps besides step)
    (idle : ∀ session, Secures (.only Effect.Idle) step (fun _ _ _ => True) session ())
    (session : Session) (line : Line) :
    Secures Line.dialogue step (fun _ later last => Gathers kernels session line later last)
      session line := by
  have stays := Leaves.of_keeps keeps session
  have noted := Line.fulfils_confined (idle session) line
  refine Fulfils.mono ?_ (Fulfils.and_always stays noted)
  rintro ⟨outcome, later⟩ last ⟨besides, events, asked, idle⟩
  exact .idle (congrArg (·.2.2) besides) asked idle

/-- The members agree, and nothing else happens. -/
theorem gathers_agree {outcome : Except Failure α} (gathers : Gathers kernels session line later last) :
    Secures Line.dialogue (agree outcome) (fun settled final further => final = later ∧
      Gathers kernels session line final further ∧ ∀ value, settled = .ok value →
        outcome = .ok value) later last := by
  refine secures_agree trivial ?_
  rintro anyFailed further answered
  exact ⟨rfl, gathers.note answered trivial,
    fun value settled => (eq_ok_of_settle settled).1⟩

/-- What is taken from a fresh image is taken from the newest one. -/
theorem gathers_loadFresh (session : Session) (line : Line) {use : Image → Except Failure α}
    (generated : session.cache.layout.Generates kernels path) :
    Secures Line.dialogue (loadFresh path use) (fun outcome later last =>
      Gathers kernels session line later last ∧ ∀ value, outcome = .ok value →
        ∃ image, later.cache.images.head? = some image ∧ use image = .ok value) session line := by
  refine secures_fresh (fun outcome later last =>
    Gathers kernels session line later last ∧ ∀ value, outcome = .ok value →
      ∃ image, later.cache.images.head? = some image ∧ use image = .ok value) trivial ?_ ?_ ?_
  · rintro image _ rfl
    have admits : session.cache.Admits kernels (.load path (.ok image)) := generated
    exact ⟨.single admits rfl rfl rfl, fun value used => ⟨image, rfl, used⟩⟩
  · rintro place fault _ rfl
    have admits : session.cache.Admits kernels (.load path (.error (place, fault))) := generated
    exact ⟨.single admits rfl rfl rfl, fun _ same => nomatch same⟩
  · rintro outcome later last ⟨gathers, taken⟩
    refine ⟨trivial, fun anyFailed further answered => ?_⟩
    have gathers := gathers.note answered trivial
    have taken : ∀ value, later.member.settle outcome anyFailed = .ok value →
        ∃ image, later.cache.images.head? = some image ∧ use image = .ok value :=
      fun value settled => taken value (eq_ok_of_settle settled).1
    split
    · exact Secures.ask trivial fun _ _ answered =>
        secures_resolved ⟨gathers.note answered trivial, taken⟩
    · exact secures_resolved ⟨gathers, taken⟩

/-- The library is looked at. -/
theorem gathers_probe (session : Session) (line : Line) (unprobed : session.cache.probed = false) :
    Secures Line.dialogue (onCache Cache.probe) (fun _ later last =>
      Gathers kernels session line later last) session line := by
  show Fulfils _ _ ((Cache.probe.run.run session.cache).bind _) line
  rw [Cache.run_probe_after]
  refine ⟨trivial, ?_⟩
  rintro there _ rfl
  cases there with
  | false =>
    have admits : session.cache.Admits kernels (.probe none) := unprobed
    exact .single admits rfl rfl rfl
  | true =>
    refine ⟨trivial, ?_⟩
    rintro loading _ rfl
    have admits : session.cache.Admits kernels (.probe (some loading)) := unprobed
    exact .single admits rfl (List.append_assoc _ _ _) rfl

theorem gathers_probeLibrary (session : Session) (line : Line)
    (unprobed : session.cache.probed = false) :
    Secures Line.dialogue probeLibrary (fun _ later last =>
      Gathers kernels session line later last) session line := by
  refine Secures.bind _ (gathers_probe session line unprobed) (fun loaded later last gathers => ?_)
    fun _ _ _ gathers => gathers
  refine Secures.ask trivial fun (anyFailed : Bool) last answered => ?_
  have gathers := gathers.note answered trivial
  cases anyFailed with
  | false => exact Secures.pure gathers
  | true =>
    have restores : Secures Line.dialogue (do if (← get).member.isRoot then relink else return false)
        (fun _ final further => Gathers kernels session line final further) later last := by
      refine Secures.get ?_
      split
      · exact (gathers_idle keeps_relink secures_relink_idle later last).mono fun _ _ _ => gathers.trans
      · exact Secures.pure gathers
    refine secures_observing _ restores fun outcome later last gathers => ?_
    refine Secures.bind _ (gathers_agree gathers) ?_ fun _ _ _ agreed => agreed.2.1
    rintro relinked later last ⟨-, gathers, -⟩
    refine Secures.ask trivial fun (anyRelinked : Bool) last answered => ?_
    have gathers := gathers.note answered trivial
    cases anyRelinked with
    | false => exact Secures.pure gathers
    | true =>
      have generated : later.cache.layout.Generates kernels later.cache.layout.relinked := .inl rfl
      refine Secures.get ((gathers_loadFresh later last generated).mono ?_)
      exact fun _ _ _ loaded => gathers.trans loaded.1

/-- **A kernel that is built** is found in the newest image. -/
theorem gathers_buildAndLoad (session : Session) (line : Line) (listed : kernels kernel) :
    Secures Line.dialogue (buildAndLoad kernel) (fun outcome later last =>
      Gathers kernels session line later last ∧ ∀ symbol, outcome = .ok symbol →
        later.cache.resolve? kernel.symbol = some symbol) session line := by
  have builds : Secures Line.dialogue (do if (← get).member.isRoot then build kernel else return ())
      (fun _ later last => Gathers kernels session line later last) session line := by
    refine Secures.get ?_
    split
    · exact gathers_idle (keeps_build kernel) (secures_build_idle kernel) session line
    · exact Secures.pure (.refl session line)
  refine secures_observing _ builds fun built later last gathers => ?_
  refine Secures.bind _ (gathers_agree gathers) ?_ ?_
  · rintro _ later last ⟨-, gathers, -⟩
    refine Secures.get ((gathers_loadFresh later last (.inr ⟨kernel, listed, rfl⟩)).mono ?_)
    rintro outcome final further ⟨loads, taken⟩
    refine ⟨gathers.trans loads, fun symbol same => ?_⟩
    obtain ⟨image, newest, used⟩ := taken symbol same
    exact Cache.resolve?_of_newest newest (find?_of_taken used)
  · rintro failure later last ⟨-, gathers, -⟩
    exact ⟨gathers, fun _ same => nomatch same⟩

/-- What a lookup leads to. -/
structure Concludes (kernels : Kernel → Prop) (kernel : Kernel) (session : Session) (line : Line)
    (outcome : Except Failure KernelSymbol) (later : Session) (last : Line) : Prop where
  acts : ∃ operations, Acts kernels session line operations later last
  remembers : ∀ symbol, outcome = .ok symbol → later.cache.remembered? kernel.hash = some symbol

theorem Gathers.fails {failure : Failure} (gathers : Gathers kernels session line later last) :
    Concludes kernels kernel session line (.error failure) later last where
  acts := gathers.acts
  remembers := by rintro _ ⟨⟩

/-- What a lookup does that has to search: it resolves the symbol, and remembers what it answers. -/
theorem acts_find (session : Session) (line : Line) (listed : kernels kernel)
    (unknown : session.Unknown kernel.hash) :
    Secures Line.dialogue (find kernel) (Concludes kernels kernel session line) session line := by
  have sought : session.cache.Admits kernels
      (.resolve kernel.symbol (session.cache.resolve? kernel.symbol)) := rfl
  have resolves : Gathers kernels session line session line :=
    .single sought rfl (List.append_nil _).symm rfl
  -- A symbol that was found is remembered.
  have remembers {later : Session} {last : Line} {symbol : KernelSymbol}
      (gathers : Gathers kernels session line later last)
      (newest : later.cache.resolve? kernel.symbol = some symbol) :
      Secures Line.dialogue (do
          modify fun session => { session with cache := session.cache.remember kernel.hash symbol }
          return symbol)
        (Concludes kernels kernel session line) later last := by
    obtain ⟨operations, acts⟩ := gathers.acts
    have fresh : later.cache.remembered? kernel.hash = none := by
      rw [Cache.remembered?, gathers.memo]
      exact unknown
    have admits : later.cache.Admits kernels (.remember kernel.hash symbol) :=
      ⟨fresh, kernel, listed, rfl, newest⟩
    refine Secures.modify (Secures.pure ⟨⟨_, acts.trans (.single admits rfl)⟩, ?_⟩)
    rintro _ ⟨⟩
    exact Cache.remembered?_remember_same
  have builds {between : Line} (gathers : Gathers kernels session line session between) :
      Secures Line.dialogue (do
          let symbol ← buildAndLoad kernel
          modify fun session => { session with cache := session.cache.remember kernel.hash symbol }
          return symbol)
        (Concludes kernels kernel session line) session between := by
    refine Secures.bind _ (gathers_buildAndLoad session between listed) ?_ ?_
    · rintro symbol later last ⟨loads, newest⟩
      exact remembers (gathers.trans loads) (newest symbol rfl)
    · rintro failure later last ⟨loads, -⟩
      exact (gathers.trans loads).fails
  refine Secures.get (Secures.ask trivial fun (anyoneMissed : Bool) between answered => ?_)
  have gathers := resolves.note answered trivial
  cases found : session.cache.resolve? kernel.symbol with
  | none => exact builds gathers
  | some symbol =>
    cases anyoneMissed with
    | true => exact builds gathers
    | false => exact remembers gathers found

/-- **A lookup is a series of operations** on the cache, and what it answers is remembered. -/
theorem acts_lookup (session : Session) (line : Line) (listed : kernels kernel) :
    Secures Line.dialogue (lookup kernel) (Concludes kernels kernel session line) session line := by
  refine Secures.get ?_
  cases known : session.cache.remembered? kernel.hash with
  | some symbol =>
    refine Secures.pure ⟨⟨[], .refl session line⟩, ?_⟩
    rintro _ ⟨⟩
    exact known
  | none =>
    refine Secures.get ?_
    cases unprobed : session.cache.probed with
    | true => exact acts_find session line listed known
    | false =>
      refine Secures.bind (fun _ later last => Gathers kernels session line later last)
        (gathers_probeLibrary session line unprobed) ?_ ?_
      · rintro value between middle gathers
        obtain ⟨operations, acts⟩ := gathers.acts
        have unknown : between.Unknown kernel.hash := by
          rw [Unknown, Cache.remembered?, gathers.memo]
          exact known
        refine (acts_find between middle listed unknown).mono ?_
        rintro outcome later last ⟨⟨others, acts'⟩, answers⟩
        exact ⟨⟨_, acts.trans acts'⟩, answers⟩
      · exact fun failure later last gathers => gathers.fails

/-! ### A whole run -/

/-- The attempts to open an image in a lookup, with what came of them. -/
def Visit.attempts (visit : Visit) : List (Path × Loading) :=
  (visit.last.asked.drop visit.line.asked.length).filterMap Event.attempt?

theorem Visit.attempts_of_asked {visit : Visit} {events : List Event}
    (asked : visit.last.asked = visit.line.asked ++ events) :
    visit.attempts = events.filterMap Event.attempt? := by
  rw [attempts, asked, List.drop_left]

/-- A kernel that was looked up. -/
def LookedUp (visits : List Visit) (kernel : Kernel) : Prop :=
  ∃ visit ∈ visits, visit.kernel = kernel

/-- The operations of a run on its cache, which was empty. -/
structure Chronicle (config : Config) (visits : List Visit) (session : Session)
    (operations : List Cache.Operation) : Prop where
  undergoes : Cache.Undergoes (LookedUp visits) { layout := config.layout } operations session.cache
  /-- The lookups hand to the loader what the operations load, in this order. -/
  attempts : visits.flatMap Visit.attempts =
    operations.filterMap (Cache.Operation.attempt? config.layout.library)
  /-- Every lookup begins after some of them. -/
  visited : ∀ visit ∈ visits, ∃ front back, operations = front ++ back ∧
    Cache.Undergoes (LookedUp visits) { layout := config.layout } front visit.session.cache
  /-- What was answered is remembered. -/
  answered : ∀ visit ∈ visits, ∀ symbol, visit.Answers symbol →
    session.cache.remembered? visit.kernel.hash = some symbol

/-- What the operations of a run come to. -/
structure Retention (config : Config) (visits : List Visit) (session : Session)
    (operations : List Cache.Operation) : Prop where
  /-- After any number of them the cache has one image for every success, the newest first, holds what
  it remembers, and resolves every name to its newest definition; later it has more images, and
  remembers the same. -/
  throughout : ∀ front back, operations = front ++ back → ∃ cache : Cache,
    Cache.Undergoes (LookedUp visits) { layout := config.layout } front cache ∧
      cache.Accounted front ∧
      (∀ name, Cache.Resolved (front.filterMap Cache.Operation.opened?) name (cache.resolve? name)) ∧
      cache.Lasts session.cache
  /-- What is remembered is then the newest definition of its kernel's symbol. -/
  remembered : ∀ front hash symbol back, operations = front ++ .remember hash symbol :: back →
    ∃ kernel, LookedUp visits kernel ∧ kernel.hash = hash ∧
      Cache.Resolved (front.filterMap Cache.Operation.opened?) kernel.symbol (some symbol)
  held : ∀ visit ∈ visits, ∀ symbol, visit.Answers symbol → session.cache.Holds symbol
  /-- The library is opened at most once, unless a kernel has it as its image. -/
  once : (∀ kernel, LookedUp visits kernel →
      (config.layout.image kernel).same config.layout.library = false) →
    (visits.flatMap Visit.attempts).countP (fun attempt => attempt.1.same config.layout.library) ≤ 1

namespace Run

variable {ahead : Bool} {config : Config} {member : Member} {visits : List Visit}

/-- **The operations of a run.** -/
theorem chronicle (run : Run ahead config member visits session line) :
    ∃ operations, Chronicle config visits session operations := by
  induction run with
  | created creates =>
    obtain ⟨coordinator, rfl⟩ :=
      (fulfils_assembled_create ahead config member {}).yields creates _ rfl
    exact ⟨[], .refl, rfl, fun _ inside => (List.not_mem_nil inside).elim,
      fun _ inside => (List.not_mem_nil inside).elim⟩
  | @lookup visits session later line last outcome run kernel looks ih =>
    obtain ⟨operations, chronicle⟩ := ih
    let visit : Visit := ⟨kernel, session, line, last⟩
    have wider : ∀ other, LookedUp visits other → LookedUp (visits ++ [visit]) other :=
      fun other ⟨earlier, inside, same⟩ => ⟨earlier, List.mem_append_left _ inside, same⟩
    have listed : LookedUp (visits ++ [visit]) kernel :=
      ⟨visit, List.mem_append_right _ (List.mem_singleton_self _), rfl⟩
    have before := chronicle.undergoes.mono wider
    obtain ⟨⟨others, acts⟩, answers⟩ := (acts_lookup session line listed).yields looks
    obtain ⟨events, asked, attempts⟩ := acts.attempts
    refine ⟨operations ++ others, before.trans acts.undergoes, ?_, fun here inside => ?_,
      fun here inside symbol answered => ?_⟩
    · rw [List.flatMap_append, List.flatMap_singleton, chronicle.attempts,
        Visit.attempts_of_asked asked, attempts, before.lasts.layout, List.filterMap_append]
    · rcases List.mem_append.mp inside with earlier | last
      · obtain ⟨front, back, rfl, reached⟩ := chronicle.visited here earlier
        exact ⟨front, back ++ others, List.append_assoc _ _ _, reached.mono wider⟩
      · rw [List.mem_singleton.mp last]
        exact ⟨operations, others, rfl, before⟩
    · rcases List.mem_append.mp inside with earlier | last
      · exact acts.undergoes.lasts.remembered _ _ (chronicle.answered here earlier symbol answered)
      · obtain rfl := List.mem_singleton.mp last
        obtain ⟨other, comes⟩ := answered
        have same : (outcome, later) = (.ok symbol, other) :=
          Line.value_unique looks comes rfl rfl
        exact answers symbol (congrArg Prod.fst same)

/-- **Images are retained, and the newest definition wins.** However the loader answers, and whatever
is looked up, a run adds one image to its cache for every opening that succeeds and none for one that
fails; every symbol that it remembers or answers belongs to an image that it retains, and is neither
replaced nor removed; a name is resolved to its definition in the last opened image that exports it,
and to nothing only if none does. The library is opened at most once, when it is not the image of a
kernel that is looked up. -/
theorem retains (run : Run ahead config member visits session line) :
    ∃ operations, Chronicle config visits session operations ∧
      Retention config visits session operations := by
  obtain ⟨operations, chronicle⟩ := run.chronicle
  have undergoes := chronicle.undergoes
  refine ⟨operations, chronicle, ?_, ?_, fun visit inside symbol answers => ?_, fun images => ?_⟩
  · rintro front back rfl
    obtain ⟨cache, before, behind⟩ := undergoes.split
    exact ⟨cache, before, before.accounted, before.resolved, behind.lasts⟩
  · rintro front hash symbol back rfl
    exact undergoes.remembers
  · have remembered := chronicle.answered visit inside symbol answers
    obtain ⟨newer, older, memo, -⟩ := List.lookup_eq_some_iff.mp remembered
    refine undergoes.accounted.held (visit.kernel.hash, symbol) ?_
    exact memo ▸ List.mem_append_right _ List.mem_cons_self
  · rw [chronicle.attempts]
    refine (undergoes.attempts_library (Layout.relinked_same_library _) images).trans ?_
    rw [undergoes.accounted.probed]
    exact Bool.toNat_le _

/-- One more lookup, with its result as a pair. -/
theorem extend (run : Run ahead config member visits session line)
    {result : Except Failure KernelSymbol × Session}
    (looks : ((Session.lookup kernel).run.run session).Yields Line.dialogue line result last) :
    Run ahead config member (visits ++ [⟨kernel, session, line, last⟩]) result.2 last :=
  .lookup run kernel looks

end Run

/-! ### A library that is the image of a kernel -/

namespace Doubling

/-- Obliging surroundings where every file is there, with a loader that keeps what is open: what it
opens first has `g`, and what it opens second has `f`. -/
def provide : (effect : Effect) → StateM Line effect.Reply
  | .present path => fun line => (true, line.note ⟨.present path, true⟩)
  | effect => Reopening.keep held effect
where
  /-- What the files hold at each opening. -/
  held : Nat → Image
    | 0 => ⟨0, [("g", ⟨0, "g"⟩)]⟩
    | serial => ⟨serial, [("f", ⟨serial, "f"⟩)]⟩

theorem answers_provide (line : Line) (effect : Effect) :
    Line.dialogue.answers line effect ((provide effect).run line).1
      ((provide effect).run line).2 := by
  cases effect with
  | present path => exact rfl
  | _ => exact Reopening.answers_keep provide.held line _

/-- A kernel that the library has, and one that is built. -/
def kept : Kernel := ⟨2, "g", "int g(void){return 2;}"⟩

def built : Kernel := ⟨3, "f", "int f(void){return 1;}"⟩

/-- Settings under which the library is the image of the second kernel. -/
def colliding : Config := { libraryName := "k0000000000000003.so" }

variable (config : Config)

/-- A new session of a member that is not the root. -/
def begun : Session := assemble config (.ofRank 1 2) none

/-- The first kernel is looked up, and then the second. -/
def first : (Except Failure KernelSymbol × Session) × Line :=
  (((lookup kept).run.run (begun config)).run provide).run {}

def second : (Except Failure KernelSymbol × Session) × Line :=
  (((lookup built).run.run (first config).1.2).run provide).run (first config).2

def visits : List Visit :=
  [⟨kept, begun config, {}, (first config).2⟩,
    ⟨built, (first config).1.2, (first config).2, (second config).2⟩]

theorem run {config : Config} (accepted : config.validate = .ok ()) :
    Run false config (.ofRank 1 2) (visits config) (second config).1.2 (second config).2 := by
  have creates : (create false config (.ofRank 1 2)).run.Yields Line.dialogue {}
      (.ok (begun config)) {} := by
    show (validated config >>= fun _ => pure (begun config)).run.Yields Line.dialogue {} _ {}
    rw [run_exceptBind, run_validated, accepted]
    exact .done _ _
  have looks : ((lookup kept).run.run (begun config)).Yields Line.dialogue {} (first config).1
      (first config).2 :=
    yields_run answers_provide ((lookup kept).run.run (begun config)) {}
  have looks' : ((lookup built).run.run (first config).1.2).Yields Line.dialogue (first config).2
      (second config).1 (second config).2 :=
    yields_run answers_provide ((lookup built).run.run (first config).1.2) (first config).2
  exact ((Run.created creates).extend looks).extend looks'

/-- Under the default settings both kernels are answered, and the library is opened once. -/
theorem retains_default :
    let visits := visits {}
    let ended := (second {}).1
    Run false {} (.ofRank 1 2) visits ended.2 (second {}).2 ∧
      (∃ operations, Chronicle {} visits ended.2 operations ∧ Retention {} visits ended.2 operations) ∧
      (first {}).1.1 = .ok ⟨⟨0, "g"⟩, 0⟩ ∧ ended.1 = .ok ⟨⟨1, "f"⟩, 1⟩ ∧
      (visits.flatMap Visit.attempts).countP
        (fun attempt => attempt.1.same ({} : Config).layout.library) = 1 := by
  intro visits ended
  have reached : Run false {} (.ofRank 1 2) visits ended.2 (second {}).2 := run (by decide)
  exact ⟨reached, reached.retains, by decide +kernel⟩

/-- **The library is opened twice** when it is the image of a kernel, which accepted settings allow:
the loader hands out the library again, and the kernel is not found in what it built. -/
theorem opens_library_twice :
    let visits := visits colliding
    let ended := (second colliding).1
    colliding.validate = .ok () ∧
      Run false colliding (.ofRank 1 2) visits ended.2 (second colliding).2 ∧
      Sticky provide.held (second colliding).2.openings ∧
      (visits.flatMap Visit.attempts).countP
        (fun attempt => attempt.1.same colliding.layout.library) = 2 ∧
      (provide.held 1).find? built.symbol ≠ none ∧ ended.1 = .error (.symbolMissing "f") := by
  have accepted : colliding.validate = .ok () := by decide
  refine ⟨accepted, run accepted, ?_⟩
  decide +kernel

end Doubling

end Session

end KernelCache
