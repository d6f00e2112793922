import KernelCache.Proofs.Session.Legs

/-
**A lookup, leg by leg.**

Every part of a lookup fulfils the contract of its legs. The proof goes through the parts in order,
and carries along what the parts behind it need: that the coordinator lives only while all commands
were acknowledged, and which files were removed.

* `Errand.fulfils_channel`: a part that only uses the channel stays on its leg.
* `Errand.secures_relink` and `Errand.secures_build`: a success of the root means that it has made
  what it was to make.
* `Errand.secures_loadFresh`: an image is opened before the exchange, and removed behind it.
* **`Errand.secures_lookup`**: a lookup fulfils the contract and ends when no leg is left; the symbol
  is remembered exactly if the flags say that it was found.
-/

namespace KernelCache

open KernelCache.Action

/-- A question to the channel or to the worker at its other end. -/
def Effect.OnChannel : Effect → Prop
  | look | fill _ | post _ | await _ => True
  | _ => False

/-- Questions to the channel alone, however they are answered. -/
def channelOnly : Contract Unit := .only Effect.OnChannel

/-- A call only uses the channel. -/
theorem Session.secures_callAll_channel (steps : List (Step × Bytes)) (session : Session) :
    Secures channelOnly (callAll steps) (fun _ _ _ => True) session () := by
  refine ((asks_callAll steps session).of_only ?_).mono fun _ _ _ _ => trivial
  rintro effect ⟨step, -, called⟩
  cases effect <;> trivial

namespace Errand

open Session

variable {α β : Type} {errand : Errand} {owner : Bool} {session : Session} {line : Line} {leg : Leg}
  {tidied : List Path}

/-! ### Single questions -/

/-- **What only uses the channel** does on a leg where the root works what it does on its own. -/
theorem fulfils_channel {post : α → Line → Prop} {action : Action α}
    (works : errand.root = true ∧ leg.Works)
    (confined : action.Fulfils channelOnly (fun _ _ => True) ())
    (fulfils : action.Fulfils Line.dialogue post line) :
    action.Fulfils errand.march (fun value last => last.leg = leg ∧ post value last.line ∧
      ∃ events, last.line.asked = line.asked ++ events ∧
        ∀ event ∈ events, ∀ path, event.effect ≠ .remove path) ⟨leg, line⟩ := by
  induction action generalizing line with
  | done value =>
    exact ⟨rfl, fulfils, [], (List.append_nil _).symm, fun _ inside =>
      (List.not_mem_nil inside).elim⟩
  | ask effect next ih =>
    have channel : effect.OnChannel := confined.1
    have own : effect.isExchange = false := by cases effect <;> first | rfl | exact channel.elim
    have keeps (path : Path) : effect ≠ .remove path := by
      rintro rfl
      exact channel
    refine ⟨?_, fun reply later answered => ?_⟩
    · cases effect <;> first | exact works | exact channel.elim
    · obtain ⟨leg', line'⟩ := later
      obtain ⟨answered, rfl⟩ := (answers_own_iff own).mp answered
      refine (ih reply (confined.2 reply () trivial) (fulfils.2 reply _ answered)).mono ?_
      rintro value last ⟨same, holds, events, asked, removes⟩
      refine ⟨same, holds, ⟨effect, reply⟩ :: events, ?_, List.forall_mem_cons.mpr ⟨keeps, removes⟩⟩
      rw [asked, Line.asked_of_answers answered, List.append_assoc, List.singleton_append]

/-- A question that is only noted. -/
theorem secures_noted {effect : Effect} {next : effect.Reply → SessionM α}
    {post : Except Failure α → Session → Stand → Prop} (own : effect.isExchange = false)
    (allowed : errand.Asks ⟨leg, line⟩ effect)
    (noted : ∀ reply later, line.Answers effect reply later → later = line.note ⟨effect, reply⟩)
    (rest : ∀ reply,
      Secures errand.march (next reply) post session ⟨leg, line.note ⟨effect, reply⟩⟩) :
    Secures errand.march (liftM (perform effect) >>= next) post session ⟨leg, line⟩ := by
  refine Secures.ask allowed fun reply later answered => ?_
  obtain ⟨leg', line'⟩ := later
  obtain ⟨answered, rfl⟩ := (answers_own_iff own).mp answered
  exact noted reply line' answered ▸ rest reply

/-- On most legs the flag of an exchange may be anything. -/
theorem asks_combine {flag : Bool} (running : leg.isOver = false) (told : leg ≠ .restored)
    (idle : leg ≠ .building) : errand.Asks ⟨leg, line⟩ (.combine flag) :=
  ⟨running, fun same => absurd same told, fun same => absurd same idle⟩

/-- An exchange leads to the next leg. -/
theorem secures_exchange {flag : Bool} {next : Bool → SessionM α}
    {post : Except Failure α → Session → Stand → Prop}
    (allowed : errand.Asks ⟨leg, line⟩ (.combine flag))
    (rest : ∀ anyFailed : Bool, (flag = true → anyFailed = true) →
      Secures errand.march (next anyFailed) post session ⟨leg.next anyFailed, line⟩) :
    Secures errand.march (liftM (Action.combine flag) >>= next) post session ⟨leg, line⟩ := by
  refine Secures.ask allowed ?_
  rintro anyFailed _ ⟨raised, -, rfl⟩
  exact rest anyFailed raised

/-- An agreement on an outcome leads to the next leg: all have succeeded, or all fail. -/
theorem secures_agree {outcome : Except Failure α}
    {post : Except Failure α → Session → Stand → Prop}
    (allowed : errand.Asks ⟨leg, line⟩ (.combine (failed outcome)))
    (good : ∀ value, outcome = .ok value → post (.ok value) session ⟨leg.next false, line⟩)
    (bad : ∀ failure, post (.error failure) session ⟨leg.next true, line⟩) :
    Secures errand.march (agree outcome) post session ⟨leg, line⟩ := by
  refine Session.secures_agree allowed ?_
  rintro anyFailed _ ⟨raised, -, rfl⟩
  cases outcome with
  | error failure =>
    obtain rfl : anyFailed = true := raised rfl
    exact bad failure
  | ok value =>
    cases anyFailed with
    | true => exact bad _
    | false => exact good value rfl

/-- An agreement on an outcome, and what follows where all have succeeded. -/
theorem secures_agreed {outcome : Except Failure α} {next : α → SessionM β}
    {post : Except Failure β → Session → Stand → Prop}
    (allowed : errand.Asks ⟨leg, line⟩ (.combine (failed outcome)))
    (good : ∀ value, outcome = .ok value →
      Secures errand.march (next value) post session ⟨leg.next false, line⟩)
    (bad : ∀ failure, post (.error failure) session ⟨leg.next true, line⟩) :
    Secures errand.march (agree outcome >>= next) post session ⟨leg, line⟩ := by
  refine Secures.bind (fun settled later stand => later = session ∧
    ((∃ value, settled = .ok value ∧ outcome = .ok value ∧ stand = ⟨leg.next false, line⟩) ∨
      ∃ failure, settled = .error failure ∧ stand = ⟨leg.next true, line⟩))
    (secures_agree allowed ?_ ?_) ?_ ?_
  · exact fun value same => ⟨rfl, .inl ⟨value, rfl, same, rfl⟩⟩
  · exact fun failure => ⟨rfl, .inr ⟨failure, rfl, rfl⟩⟩
  · rintro value _ _ ⟨rfl, ⟨_, ⟨⟩, same, rfl⟩ | ⟨_, ⟨⟩, _⟩⟩
    exact good value same
  · rintro failure _ _ ⟨rfl, ⟨_, ⟨⟩, _⟩ | ⟨_, ⟨⟩, rfl⟩⟩
    exact bad failure

/-! ### What the parts of a lookup carry along -/

/-- The session of a member within a lookup. -/
structure Abides (errand : Errand) (owner : Bool) (session : Session) (line : Line) : Prop where
  poised : Poised owner session line
  settings : session.config = errand.config
  root : session.member.isRoot = errand.root

namespace Abides

theorem layout (abides : errand.Abides owner session line) :
    session.cache.layout = errand.config.layout := by
  rw [abides.poised.layout, abides.settings]

/-- A question that opens nothing. -/
theorem note (abides : errand.Abides owner session line) {event : Event}
    (shut : event.opened? = none) : errand.Abides owner session (line.note event) :=
  ⟨abides.poised.go (Line.goes_note shut) rfl rfl, abides.settings, abides.root⟩

theorem of_besides {later : Session} {last : Line} (abides : errand.Abides owner session line)
    (poised : Poised owner later last) (same : later.besides = session.besides) :
    errand.Abides owner later last where
  poised := poised
  settings := (congrArg Prod.fst same).trans abides.settings
  root := (congrArg (fun parts => parts.2.1.isRoot) same).trans abides.root

end Abides

/-- The coordinator lives after a series of commands of which the last was acknowledged. -/
theorem calm_of_acknowledged {front : List (Bytes × Verdict)} {entry : Bytes × Verdict}
    (poised : Poised owner session line) (owns : session.coordinator.isSome = true)
    (handed : line.handed = front ++ [entry]) (good : entry.2 = .acknowledged) : line.Calm := by
  obtain ⟨coordinator, owns⟩ := Option.isSome_iff_exists.mp owns
  cases dead : coordinator.dead with
  | false =>
    obtain ⟨word, acknowledged⟩ := poised.alive coordinator owns dead
    exact ⟨word, acknowledged⟩
  | true =>
    obtain ⟨front', last, handed', -, bad⟩ := poised.dead coordinator owns dead
    obtain ⟨-, same⟩ := List.append_inj' (handed.symm.trans handed') rfl
    exact absurd ((List.cons.inj same).1 ▸ good) bad

/-- A series of commands on a leg where the root works. -/
theorem secures_callAll {steps : List (Step × Bytes)} (works : errand.root = true ∧ leg.Works)
    (abides : errand.Abides owner session line) (takes : session.Takes steps)
    (some : steps ≠ []) (since : errand.before.Since tidied line) :
    Secures errand.march (callAll steps) (fun outcome later last => last.leg = leg ∧
        errand.Abides owner later last.line ∧ later.besides = session.besides ∧
        errand.before.Since tidied last.line ∧
        (outcome = .ok () → Line.Made errand.before (.ok steps) tidied last.line))
      session ⟨leg, line⟩ := by
  refine Fulfils.mono ?_ (fulfils_channel works (secures_callAll_channel steps session)
    (Line.secures_callAll abides.poised takes))
  rintro ⟨outcome, later⟩ last ⟨same, ⟨poised, besides, -, part, handed, pursued⟩, events, asked,
    removes⟩
  have grown : line.handed <+: last.line.handed := handed ▸ List.prefix_append _ _
  obtain ⟨earlier, before⟩ := since.handed
  have since := since.append grown asked fun event inside path remove =>
    absurd remove (removes event inside path)
  refine ⟨same, abides.of_besides poised besides, besides, since, ?_⟩
  rintro rfl
  obtain rfl : part = _ := pursued
  have handed' : last.line.handed =
      errand.before.handed ++ earlier ++ steps.map fun step => (step.2, .acknowledged) := by
    rw [handed, before]
  refine ⟨?_, ⟨steps, earlier, rfl, handed'⟩, since⟩
  obtain ⟨front, step, rfl⟩ := List.eq_nil_or_concat steps |>.resolve_left some
  obtain ⟨coordinator, owns, -⟩ := takes step (by simp)
  have owns : later.coordinator.isSome = true := by
    rw [poised.owned, ← abides.poised.owned, owns]
    rfl
  rw [List.concat_eq_append, List.map_append, ← List.append_assoc] at handed'
  exact calm_of_acknowledged poised owns handed' rfl

/-- A written series of tasks has a command for each of them. -/
theorem written_ne_nil {config : Config} {task : Task} {rest : List Task}
    {steps : List (Step × Bytes)} (written : config.written (task :: rest) = .ok steps) :
    steps ≠ [] := by
  rintro rfl
  cases Config.written_eq_ok_iff.mp written

/-! ### What the root does -/

/-- What the part of the root leads to, on its leg. -/
structure Does (errand : Errand) (owner : Bool) (session : Session) (leg : Leg) (later : Session)
    (last : Stand) : Prop where
  leg : last.leg = leg
  abides : errand.Abides owner later last.line
  besides : later.besides = session.besides

/-- **The root restores the library.** -/
theorem secures_relink (root : errand.root = true) (abides : errand.Abides owner session line)
    (since : errand.before.Since [] line) :
    Secures errand.march relink (fun outcome later last =>
        errand.Does owner session .restoring later last ∧
        (failed outcome = false → errand.before.Since [] last.line) ∧
        (outcome = .ok true → errand.Restored last.line))
      session ⟨.restoring, line⟩ := by
  have works : errand.root = true ∧ Leg.Works .restoring := ⟨root, .inl rfl⟩
  refine Secures.get (secures_noted rfl trivial (fun _ _ => id) fun (present : Bool) => ?_)
  have abides : errand.Abides owner session
    (line.note ⟨.present session.config.layout.archive, present⟩) := abides.note rfl
  have since : errand.before.Since []
    (line.note ⟨.present session.config.layout.archive, present⟩) := since.note nofun
  cases present with
  | false => exact Secures.pure ⟨⟨rfl, abides, rfl⟩, fun _ => since, nofun⟩
  | true =>
    refine secures_prepared (fun listed written takes => ?_)
      fun _ => ⟨⟨rfl, abides, rfl⟩, nofun, nofun⟩
    have written : errand.config.relinkSteps = .ok listed := abides.settings ▸ written
    have some := written_ne_nil (errand.config.relinkSteps_eq ▸ written)
    refine secures_observing _ (secures_callAll works abides takes some since) ?_
    rintro outcome later ⟨_, last⟩ ⟨rfl, abides, besides, since, made⟩
    cases outcome with
    | error failure =>
      have allowed : errand.Asks ⟨.restoring, last⟩ (.remove session.config.layout.relinked) :=
        ⟨root, rfl⟩
      refine secures_noted rfl allowed (fun _ _ => id) fun _ => ?_
      exact secures_resolved ⟨⟨rfl, abides.note rfl, besides⟩, nofun, nofun⟩
    | ok value =>
      refine Secures.pure ⟨⟨rfl, abides, besides⟩, fun _ => since, fun _ => ?_⟩
      rw [Restored, written]
      exact made rfl

/-- **The root builds the kernel.** -/
theorem secures_build (root : errand.root = true) (abides : errand.Abides owner session line)
    (since : errand.before.Since [errand.config.layout.relinked] line) :
    Secures errand.march (build errand.kernel) (fun outcome later last =>
        errand.Does owner session .building later last ∧
        (outcome = .ok () → errand.Built last.line))
      session ⟨.building, line⟩ := by
  have works : errand.root = true ∧ Leg.Works .building := ⟨root, .inr rfl⟩
  have settings := abides.settings
  refine Secures.get (secures_prepared (fun listed written takes => ?_)
    fun _ => ⟨⟨rfl, abides, rfl⟩, nofun⟩)
  have written : errand.config.buildSteps errand.kernel = .ok listed := abides.settings ▸ written
  have some := written_ne_nil (errand.config.buildSteps_eq errand.kernel ▸ written)
  refine secures_noted rfl works (fun _ _ => id) fun stored => ?_
  cases stored with
  | error fault => exact Secures.throw ⟨⟨rfl, abides.note rfl, rfl⟩, nofun⟩
  | ok value =>
    refine secures_observing _
      (secures_callAll works (abides.note rfl) takes some (since.note nofun)) ?_
    rintro outcome later ⟨_, last⟩ ⟨rfl, abides, besides, since, made⟩
    have allowed (path : Path) (line : Line) : errand.Asks ⟨.building, line⟩ (.remove path) :=
      ⟨root, rfl⟩
    refine secures_noted rfl (allowed _ _) (fun _ _ => id) fun _ => ?_
    refine secures_noted rfl (allowed _ _) (fun _ _ => id) fun _ => ?_
    cases outcome with
    | error failure =>
      refine secures_noted rfl (allowed _ _) (fun _ _ => id) fun _ => secures_resolved ?_
      exact ⟨⟨rfl, ((abides.note rfl).note rfl).note rfl, besides⟩, nofun⟩
    | ok value =>
      refine secures_resolved ⟨⟨rfl, (abides.note rfl).note rfl, besides⟩, fun _ => ?_⟩
      have built : errand.Built last := by
        rw [Built, written]
        exact (made rfl).mono (List.cons_subset_cons _ (List.nil_subset _))
      have source : errand.config.sourceFile errand.kernel ∈ errand.tidied :=
        List.mem_cons_of_mem _ List.mem_cons_self
      have object : errand.config.layout.object errand.kernel ∈ errand.tidied :=
        List.mem_cons_of_mem _ (List.mem_cons_of_mem _ List.mem_cons_self)
      rw [← settings] at source object
      have removes {path : Path} (inside : path ∈ errand.tidied) (other : Path)
          (same : Effect.remove path = .remove other) : other ∈ errand.tidied :=
        Effect.remove.inj same ▸ inside
      exact (built.note (removes source)).note (removes object)

/-! ### What all members do -/

/-- What a part leads to that may open images. -/
structure Loads (errand : Errand) (owner : Bool) (session : Session) (tidied : List Path)
    (later : Session) (last : Line) : Prop where
  abides : errand.Abides owner later last
  decisive : later.decisive = session.decisive
  since : errand.before.Since tidied last

theorem Loads.note {later : Session} {last : Line} {event : Event}
    (loads : errand.Loads owner session tidied later last) (shut : event.opened? = none)
    (removes : ∀ path, event.effect = .remove path → path ∈ tidied) :
    errand.Loads owner session tidied later (last.note event) :=
  ⟨loads.abides.note shut, loads.decisive, loads.since.note removes⟩

/-- **An image is opened before the exchange about it, and removed behind it.** -/
theorem secures_loadFresh {path : Path} {use : Image → Except Failure α}
    (abides : errand.Abides owner session line) (since : errand.before.Since tidied line)
    (fresh : leg = .reloading ∨ leg = .loading)
    (opens : leg.opens? errand.config errand.kernel = some path) :
    Secures errand.march (loadFresh path use) (fun outcome later last =>
      last.leg = leg.next (failed outcome) ∧
        errand.Loads owner session (path :: tidied) later last.line) session ⟨leg, line⟩ := by
  refine secures_fresh (fun _ later last => last.leg = leg ∧
    errand.Loads owner session tidied later last.line) opens ?_ ?_ ?_
  · rintro image ⟨leg', line'⟩ answered
    obtain ⟨rfl, rfl⟩ : line' = line.note ⟨.openImage path, .ok image⟩ ∧ leg' = leg := answered
    refine ⟨rfl, ⟨abides.poised.retain path image, abides.settings, abides.root⟩, rfl, ?_⟩
    exact since.note nofun
  · rintro place fault ⟨leg', line'⟩ answered
    obtain ⟨rfl, rfl⟩ : line' = line.note ⟨.openImage path, .error (place, fault)⟩ ∧ leg' = leg :=
      answered
    exact ⟨rfl, abides.note rfl, rfl, since.note nofun⟩
  · rintro outcome later ⟨leg, last⟩ ⟨rfl, loads⟩
    have raises : errand.Asks ⟨leg, last⟩ (.combine (failed outcome)) := by
      rcases fresh with rfl | rfl
      · exact asks_combine rfl (by decide) (by decide)
      · exact asks_combine rfl (by decide) (by decide)
    refine ⟨raises, ?_⟩
    rintro anyFailed _ ⟨raised, -, rfl⟩
    have leads := congrArg leg.next (failed_settle later.member raised).symm
    have loads : errand.Loads owner session (path :: tidied) later last :=
      ⟨loads.abides, loads.decisive, loads.since.mono (List.subset_cons_self _ _)⟩
    split
    case isTrue root =>
      have allowed : errand.Asks ⟨leg.next anyFailed, last⟩ (.remove path) := by
        refine ⟨loads.abides.root.symm.trans root, ?_⟩
        rcases fresh with rfl | rfl <;> cases anyFailed <;> rfl
      refine secures_noted rfl allowed (fun _ _ => id) fun _ => secures_resolved ⟨leads, ?_⟩
      exact loads.note rfl fun other same => Effect.remove.inj same ▸ List.mem_cons_self
    case isFalse => exact secures_resolved ⟨leads, loads⟩

/-- The library is opened, or not. -/
theorem secures_probe (abides : errand.Abides owner session line)
    (since : errand.before.Since tidied line) :
    Secures errand.march (onCache Cache.probe) (fun outcome later last =>
      last.leg = .looking ∧ (∃ loaded, outcome = .ok loaded) ∧
        errand.Abides owner later last.line ∧
        later.decisive = (true, session.cache.memo) ∧ errand.before.Since tidied last.line)
      session ⟨.looking, line⟩ := by
  have probed : ∀ {line}, errand.Abides owner session line →
      errand.Abides owner { session with cache := session.cache.afterProbe } line :=
    fun abides => ⟨abides.poised.of_images rfl rfl, abides.settings, abides.root⟩
  show Fulfils _ _ ((Cache.probe.run.run session.cache).bind _) _
  rw [Cache.run_probe, abides.layout]
  refine ⟨trivial, fun (there : Bool) last answered => ?_⟩
  obtain ⟨leg, line'⟩ := last
  obtain ⟨rfl, rfl⟩ : line' = line.note ⟨.present errand.config.layout.library, there⟩ ∧
    leg = .looking := answered
  have abides : errand.Abides owner session
    (line.note ⟨.present errand.config.layout.library, there⟩) := abides.note rfl
  have since : errand.before.Since tidied
    (line.note ⟨.present errand.config.layout.library, there⟩) := since.note nofun
  cases there with
  | false => exact ⟨rfl, ⟨false, rfl⟩, probed abides, rfl, since⟩
  | true =>
    refine ⟨rfl, fun opened last answered => ?_⟩
    obtain ⟨leg, line'⟩ := last
    obtain ⟨rfl, rfl⟩ : line' = Line.note _ ⟨.openImage errand.config.layout.library, opened⟩ ∧
      leg = .looking := answered
    cases opened with
    | error fault => exact ⟨rfl, ⟨false, rfl⟩, (probed abides).note rfl, rfl, since.note nofun⟩
    | ok image =>
      have poised := (probed abides).poised.retain errand.config.layout.library image
      exact ⟨rfl, ⟨true, rfl⟩, ⟨poised, abides.settings, abides.root⟩, rfl, since.note nofun⟩

/-- What the look at the library leads to. -/
structure Probes (errand : Errand) (owner : Bool) (session : Session) (failing : Bool)
    (later : Session) (last : Stand) : Prop where
  leg : last.leg = if failing then .ended false else .searching
  abides : errand.Abides owner later last.line
  decisive : later.decisive = (true, session.cache.memo)
  since : failing = false → errand.before.Since [errand.config.layout.relinked] last.line

theorem secures_probeLibrary (abides : errand.Abides owner session line)
    (since : errand.before.Since [] line) :
    Secures errand.march probeLibrary (fun outcome later last =>
      errand.Probes owner session (failed outcome) later last) session ⟨.looking, line⟩ := by
  refine Secures.bind _ (secures_probe abides since) ?_ ?_
  rotate_left
  · rintro failure later last ⟨-, ⟨_, ⟨⟩⟩, -⟩
  rintro loaded later ⟨_, last⟩ ⟨rfl, -, abides, decisive, since⟩
  have goes {last : Line} (abides : errand.Abides owner later last)
      (since : errand.before.Since [] last) :
      errand.Probes owner session false later ⟨.searching, last⟩ :=
    ⟨rfl, abides, decisive, fun _ => since.mono (List.nil_subset _)⟩
  refine secures_exchange (asks_combine rfl (by decide) (by decide)) fun anyFailed _ => ?_
  cases anyFailed with
  | false => exact Secures.pure (goes abides since)
  | true =>
    have restores : Secures errand.march
        (do if (← get).member.isRoot then relink else return false) (fun outcome final stand =>
          errand.Does owner later .restoring final stand ∧
          (failed outcome = false → errand.before.Since [] stand.line) ∧
          (outcome = .ok true → errand.root = true ∧ errand.Restored stand.line))
        later ⟨.restoring, last⟩ := by
      refine Secures.get ?_
      split
      case isTrue root =>
        have root : errand.root = true := abides.root.symm.trans root
        refine (secures_relink root abides since).mono ?_
        rintro outcome final stand ⟨does, since, restored⟩
        exact ⟨does, since, fun same => ⟨root, restored same⟩⟩
      case isFalse => exact Secures.pure ⟨⟨rfl, abides, rfl⟩, fun _ => since, nofun⟩
    refine secures_observing _ restores ?_
    rintro outcome final ⟨_, last⟩ ⟨⟨rfl, abides, besides⟩, since, restored⟩
    have decisive : final.decisive = (true, session.cache.memo) :=
      (decisive_of_besides besides).trans decisive
    refine secures_agreed (asks_combine rfl (by decide) (by decide)) ?_ fun _ =>
      ⟨rfl, abides, decisive, nofun⟩
    rintro relinked rfl
    refine secures_exchange ⟨rfl, fun _ raised => restored (raised ▸ rfl), nofun⟩
      fun anyRelinked _ => ?_
    cases anyRelinked with
    | false =>
      exact Secures.pure ⟨rfl, abides, decisive, fun _ => (since rfl).mono (List.nil_subset _)⟩
    | true =>
      have opens : Leg.opens? errand.config errand.kernel .reloading =
          some final.cache.layout.relinked := by
        rw [abides.layout]
        rfl
      refine Secures.get ((secures_loadFresh abides (since rfl) (.inl rfl) opens).mono ?_)
      rintro loaded further stand ⟨same, loads⟩
      refine ⟨same, loads.abides, loads.decisive.trans decisive, fun _ => ?_⟩
      exact abides.layout ▸ loads.since

/-- What a search leads to. -/
structure Finds (errand : Errand) (owner : Bool) (session : Session) (found : Bool)
    (later : Session) (last : Stand) : Prop where
  leg : last.leg = .ended found
  abides : errand.Abides owner later last.line
  probed : later.cache.probed = session.cache.probed
  remembered : ∀ hash, (later.cache.remembered? hash).isSome =
    ((session.cache.remembered? hash).isSome || (found && hash == errand.kernel.hash))

/-- The kernel is built, and its image opened. -/
theorem secures_buildAndLoad (abides : errand.Abides owner session line)
    (since : errand.before.Since [errand.config.layout.relinked] line) :
    Secures errand.march (buildAndLoad errand.kernel) (fun outcome later last =>
      last.leg = .ended (!failed outcome) ∧ errand.Abides owner later last.line ∧
        later.decisive = session.decisive) session ⟨.building, line⟩ := by
  have builds : Secures errand.march
      (do if (← get).member.isRoot then build errand.kernel else return ()) (fun outcome final stand =>
        errand.Does owner session .building final stand ∧ (outcome = .ok () →
          errand.before.Since errand.tidied stand.line ∧
          (errand.root = true → errand.Built stand.line))) session ⟨.building, line⟩ := by
    refine Secures.get ?_
    split
    case isTrue root =>
      have root : errand.root = true := abides.root.symm.trans root
      refine (secures_build root abides since).mono ?_
      rintro outcome final stand ⟨does, built⟩
      exact ⟨does, fun same => ⟨(built same).since, fun _ => built same⟩⟩
    case isFalse other =>
      refine Secures.pure ⟨⟨rfl, abides, rfl⟩, fun _ => ⟨since.mono ?_, fun root => ?_⟩⟩
      · exact List.cons_subset_cons _ (List.nil_subset _)
      · exact absurd (abides.root.trans root) other
  refine secures_observing _ builds ?_
  rintro built later ⟨_, last⟩ ⟨⟨rfl, abides, besides⟩, made⟩
  have decisive : later.decisive = session.decisive := decisive_of_besides besides
  have raises : errand.Asks ⟨.building, last⟩ (.combine (failed built)) := by
    refine ⟨rfl, nofun, fun _ root good => ?_⟩
    cases built with
    | error failure => cases good
    | ok value => exact (made rfl).2 root
  refine secures_agreed raises ?_ fun _ => ⟨rfl, abides, decisive⟩
  rintro _ rfl
  have opens : Leg.opens? errand.config errand.kernel .loading =
      some (later.cache.layout.image errand.kernel) := by
    rw [abides.layout]
    rfl
  refine Secures.get ((secures_loadFresh abides (made rfl).1 (.inr rfl) opens).mono ?_)
  rintro loaded further stand ⟨same, loads⟩
  exact ⟨same, loads.abides, loads.decisive.trans decisive⟩

/-- The members search, and the root builds the kernel when one of them misses it. -/
theorem secures_find (abides : errand.Abides owner session line)
    (since : errand.before.Since [errand.config.layout.relinked] line) :
    Secures errand.march (find errand.kernel) (fun outcome later last =>
      errand.Finds owner session (!failed outcome) later last) session ⟨.searching, line⟩ := by
  -- A symbol that was found is remembered.
  have remembers {later : Session} {last : Line} (symbol : KernelSymbol)
      (abides : errand.Abides owner later last) (decisive : later.decisive = session.decisive) :
      Secures errand.march (do
          modify fun session =>
            { session with cache := session.cache.remember errand.kernel.hash symbol }
          return symbol)
        (fun outcome later last => errand.Finds owner session (!failed outcome) later last)
        later ⟨.ended true, last⟩ := by
    have poised : Poised owner { later with
        cache := later.cache.remember errand.kernel.hash symbol } last :=
      abides.poised.of_images rfl rfl
    refine Secures.modify (Secures.pure ⟨rfl, ⟨poised, abides.settings, abides.root⟩,
      congrArg Prod.fst decisive, fun hash => ?_⟩)
    have memo : later.cache.memo = session.cache.memo := congrArg Prod.snd decisive
    by_cases same : hash = errand.kernel.hash
    · subst same
      rw [Cache.remembered?_remember_same, beq_self_eq_true]
      simp [failed]
    · rw [Cache.remembered?_remember_of_ne same, beq_eq_false_iff_ne.mpr same, Cache.remembered?,
        memo]
      simp [Cache.remembered?]
  have builds : Secures errand.march (do
        let symbol ← buildAndLoad errand.kernel
        modify fun session =>
          { session with cache := session.cache.remember errand.kernel.hash symbol }
        return symbol)
      (fun outcome later last => errand.Finds owner session (!failed outcome) later last)
      session ⟨.building, line⟩ := by
    refine Secures.bind _ (secures_buildAndLoad abides since) ?_ ?_
    · rintro symbol later ⟨_, last⟩ ⟨rfl, abides, decisive⟩
      exact remembers symbol abides decisive
    · rintro failure later last ⟨leg, abides, decisive⟩
      refine ⟨leg, abides, congrArg Prod.fst decisive, fun hash => ?_⟩
      have memo : later.cache.memo = session.cache.memo := congrArg Prod.snd decisive
      simp [failed, Cache.remembered?, memo]
  have searches {flag : Bool} : errand.Asks ⟨.searching, line⟩ (.combine flag) :=
    asks_combine rfl (by decide) (by decide)
  refine Secures.get (secures_exchange searches fun anyoneMissed raised => ?_)
  cases found : session.cache.resolve? errand.kernel.symbol with
  | none =>
    obtain rfl : anyoneMissed = true := raised (by rw [found]; rfl)
    exact builds
  | some symbol =>
    cases anyoneMissed with
    | true => exact builds
    | false => exact remembers symbol abides rfl

/-! ### The whole of a lookup -/

/-- The leg on which a session begins a lookup that has to search. -/
def outset (session : Session) : Leg :=
  if session.cache.probed then .searching else .looking

/-- What a lookup leads to that has to search. -/
def Concludes (errand : Errand) (owner : Bool) (session later : Session) (last : Stand) : Prop :=
  ∃ found, last.leg = .ended found ∧ errand.Abides owner later last.line ∧
    later.cache.probed = true ∧
    ∀ hash, (later.cache.remembered? hash).isSome =
      ((session.cache.remembered? hash).isSome || (found && hash == errand.kernel.hash))

/-- **A lookup fulfils the contract of its legs.** -/
theorem secures_lookup (abides : errand.Abides owner session errand.before)
    (unknown : session.cache.remembered? errand.kernel.hash = none) :
    Secures errand.march (lookup errand.kernel) (fun _ => errand.Concludes owner session) session
      ⟨outset session, errand.before⟩ := by
  refine Secures.get ?_
  rw [unknown]
  refine Secures.get ?_
  cases probed : session.cache.probed with
  | true =>
    have leg : outset session = .searching := by rw [outset, if_pos probed]
    rw [leg]
    refine (secures_find abides ((Line.Since.refl _).mono (List.nil_subset _))).mono ?_
    exact fun outcome later last finds =>
      ⟨_, finds.leg, finds.abides, finds.probed.trans probed, finds.remembered⟩
  | false =>
    have leg : outset session = .looking := by rw [outset, if_neg (Bool.eq_false_iff.mp probed)]
    rw [leg]
    refine Secures.bind _ (secures_probeLibrary abides (Line.Since.refl _)) ?_ ?_
    · rintro value later ⟨_, last⟩ ⟨rfl, abides, decisive, since⟩
      have probed : later.cache.probed = true := congrArg Prod.fst decisive
      have memo : later.cache.memo = session.cache.memo := congrArg Prod.snd decisive
      refine (secures_find abides (since rfl)).mono ?_
      intro outcome final last finds
      refine ⟨_, finds.leg, finds.abides, finds.probed.trans probed, fun hash => ?_⟩
      rw [finds.remembered, Cache.remembered?, memo]
      rfl
    · rintro failure later last probes
      have memo : later.cache.memo = session.cache.memo := congrArg Prod.snd probes.decisive
      refine ⟨false, probes.leg, probes.abides, congrArg Prod.fst probes.decisive, fun hash => ?_⟩
      simp [Cache.remembered?, memo]

end Errand

end KernelCache
