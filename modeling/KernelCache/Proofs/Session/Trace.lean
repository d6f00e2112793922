import KernelCache.Proofs.Session.Line

/-
**The commands of a lookup, part by part.**

The root may restore the library from the archive, and then may build the kernel. Either series of
commands ends with the first one that is not acknowledged, and none begins after that.

* `Session.Pursued steps part`: none of the steps, all of them, or those up to the first that fails;
  `Session.Unbroken steps part`: none or all.
* `Line.secures_relink` and `Line.secures_build`: the two series.
* `Line.Restores config line last`: why the root came to restore the library. In
  `Line.secures_probeLibrary` it does so only for that reason.
* `Line.Loading`, `Line.Probed` and `Line.Built`: what a part leads to, and the images that it may
  have opened.
* `Line.misses line kernel`: the exchange in which a member misses the symbol. In
  `Line.secures_find` a kernel is built only behind it.
-/

namespace KernelCache

open KernelCache.Action

namespace Session

/-- The commands are none, all, or those up to the first that was not acknowledged. -/
def Pursued (steps : Except Failure (List (Step × Bytes))) (part : List (Bytes × Verdict)) : Prop :=
  part = [] ∨ ∃ listed, steps = .ok listed ∧ (Completed listed part ∨ Interrupted listed part)

/-- The commands are none or all, and every one was acknowledged. -/
def Unbroken (steps : Except Failure (List (Step × Bytes))) (part : List (Bytes × Verdict)) : Prop :=
  part = [] ∨ ∃ listed, steps = .ok listed ∧ Completed listed part

end Session

namespace Line

open Session

variable {α : Type} {owner : Bool} {session : Session} {line : Line}

/-! ### A lookup, part by part -/

theorem goes_note {event : Event} (shut : event.opened? = none) : line.Goes (line.note event) :=
  .of_asked rfl shut

/-- A question that is neither about the channel nor an opening. -/
theorem secures_quiet {effect : Effect} {next : effect.Reply → SessionM α}
    {post : Except Failure α → Session → Line → Prop}
    (quiet : ∀ reply later, line.Answers effect reply later → later = line.note ⟨effect, reply⟩)
    (rest : ∀ reply, Secures dialogue (next reply) post session (line.note ⟨effect, reply⟩)) :
    Secures dialogue (liftM (perform effect) >>= next) post session line :=
  Secures.ask trivial fun reply later answered => quiet reply later answered ▸ rest reply

/-- What a series of commands leads to, from a session and its line. -/
structure Handing (owner : Bool) (session : Session) (line : Line)
    (steps : Except Failure (List (Step × Bytes))) (failing : Bool) (later : Session)
    (last : Line) : Prop where
  poised : Poised owner later last
  besides : later.besides = session.besides
  goes : line.Goes last
  commands : ∃ part, last.handed = line.handed ++ part ∧ Pursued steps part ∧
    (failing = false → Unbroken steps part)

namespace Handing

variable {steps : Except Failure (List (Step × Bytes))} {failing : Bool} {later : Session}
  {last : Line}

/-- No command at all. -/
theorem none (poised : Poised owner session line) (goes : line.Goes last)
    (handed : last.handed = line.handed) (word : last.word = line.word) :
    Handing owner session line steps failing session last where
  poised := poised.go goes handed word
  besides := rfl
  goes := goes
  commands := ⟨[], by rw [handed, List.append_nil], .inl rfl, fun _ => .inl rfl⟩

/-- Afterwards there may be further questions that are not about commands. -/
theorem note (handing : Handing owner session line steps failing later last) {event : Event}
    (shut : event.opened? = Option.none) :
    Handing owner session line steps failing later (last.note event) where
  poised := handing.poised.go (goes_note shut) rfl rfl
  besides := handing.besides
  goes := handing.goes.trans (goes_note shut)
  commands := handing.commands

/-- Before, there may have been such questions too. -/
theorem behind {between : Line} (goes : line.Goes between) (handed : between.handed = line.handed)
    (handing : Handing owner session between steps failing later last) :
    Handing owner session line steps failing later last where
  poised := handing.poised
  besides := handing.besides
  goes := goes.trans handing.goes
  commands := handed ▸ handing.commands

end Handing

/-- The commands of a written series. -/
theorem handing_callAll {listed : List (Step × Bytes)} (poised : Poised owner session line)
    (takes : session.Takes listed) :
    Secures dialogue (callAll listed) (fun outcome later last =>
      Handing owner session line (.ok listed) (failed outcome) later last) session line := by
  refine (secures_callAll poised takes).mono ?_
  rintro (failure | value) later last ⟨poised, besides, goes, part, handed, pursued⟩
  · refine ⟨poised, besides, goes, part, handed, ?_, fun good => nomatch good⟩
    exact pursued.imp_right fun interrupted => ⟨listed, rfl, .inr interrupted⟩
  · exact ⟨poised, besides, goes, part, handed, .inr ⟨listed, rfl, .inl pursued⟩,
      fun _ => .inr ⟨listed, rfl, pursued⟩⟩

theorem secures_relink (poised : Poised owner session line) :
    Secures dialogue relink (fun outcome later last =>
        Handing owner session line session.config.relinkSteps (failed outcome) later last ∧
          (last.handed ≠ line.handed →
            line.asked ++ [⟨.present session.config.layout.archive, true⟩] <+: last.asked))
      session line := by
  refine Secures.get (secures_quiet (fun _ _ => id) fun (present : Bool) => ?_)
  have noted : line.Goes (line.note ⟨.present session.config.layout.archive, present⟩) :=
    goes_note rfl
  cases present with
  | false => exact Secures.pure ⟨.none poised noted rfl rfl, fun differ => absurd rfl differ⟩
  | true =>
    have stays : ∀ {failing}, Handing owner session line session.config.relinkSteps failing session
        (line.note ⟨.present session.config.layout.archive, true⟩) := .none poised noted rfl rfl
    refine secures_prepared (fun listed written takes => ?_)
      fun _ => ⟨stays, fun differ => absurd rfl differ⟩
    refine secures_observing _ (handing_callAll (poised.go noted rfl rfl) takes)
      fun outcome later last handing => ?_
    have shown : line.asked ++ [⟨.present session.config.layout.archive, true⟩] <+: last.asked :=
      handing.goes.asked
    have handing := Handing.behind noted rfl (written ▸ handing)
    have ends : ∀ {final}, Handing owner session line session.config.relinkSteps (failed outcome)
        later final → last.asked <+: final.asked →
        Secures dialogue (resolved outcome >>= fun _ => pure true) (fun outcome later last =>
          Handing owner session line session.config.relinkSteps (failed outcome) later last ∧
            (last.handed ≠ line.handed →
              line.asked ++ [⟨.present session.config.layout.archive, true⟩] <+: last.asked))
        later final := by
      intro final handing asked
      cases outcome with
      | ok value => exact Secures.pure ⟨handing, fun _ => shown.trans asked⟩
      | error failure => exact ⟨handing, fun _ => shown.trans asked⟩
    split
    · refine secures_quiet (fun _ _ => id) fun _ => ends (handing.note rfl) ?_
      exact List.prefix_append _ _
    · exact ends handing List.prefix_rfl

theorem secures_build (poised : Poised owner session line) (kernel : Kernel) :
    Secures dialogue (build kernel) (fun outcome later last =>
      Handing owner session line (session.config.buildSteps kernel) (failed outcome) later last)
      session line := by
  refine Secures.get (secures_prepared (fun listed written takes => ?_) fun _ =>
    .none poised (.refl line) rfl rfl)
  refine secures_quiet (fun _ _ => id) fun stored => ?_
  have noted : line.Goes (line.note ⟨.writeSource (session.config.sourceFile kernel)
    (Bytes.ofString kernel.source), stored⟩) := goes_note rfl
  cases stored with
  | error fault => exact Secures.throw (.none poised noted rfl rfl)
  | ok value =>
    refine secures_observing _ (handing_callAll (poised.go noted rfl rfl) takes)
      fun outcome later last handing => ?_
    have handing := Handing.behind noted rfl (written ▸ handing)
    refine secures_quiet (fun _ _ => id) fun _ => secures_quiet (fun _ _ => id) fun _ => ?_
    split
    · refine secures_quiet (fun _ _ => id) fun _ => secures_resolved ?_
      exact ((handing.note rfl).note rfl).note rfl
    · exact secures_resolved ((handing.note rfl).note rfl)

/-- What a part without commands leads to: the session may have opened images, in this order. -/
structure Loading (owner : Bool) (session : Session) (line : Line) (paths : List Path)
    (later : Session) (last : Line) : Prop where
  poised : Poised owner later last
  config : later.config = session.config
  decisive : later.decisive = session.decisive
  asked : line.asked <+: last.asked
  handed : last.handed = line.handed
  opens : line.Opens paths last

theorem Loading.refl (poised : Poised owner session line) :
    Loading owner session line [] session line :=
  ⟨poised, rfl, rfl, List.prefix_rfl, rfl, (Goes.refl line).opens⟩

theorem Loading.note {paths : List Path} {later : Session} {last : Line}
    (loading : Loading owner session line paths later last) {event : Event}
    (shut : event.opened? = none) : Loading owner session line paths later (last.note event) where
  poised := loading.poised.go (goes_note shut) rfl rfl
  config := loading.config
  decisive := loading.decisive
  asked := loading.asked.trans (List.prefix_append _ _)
  handed := loading.handed
  opens := loading.opens.go (goes_note shut)

/-- What was opened under a path leads to this outcome, if it is a success. -/
def Resolves (last : Line) (path : Path) (use : Image → Except Failure α)
    (outcome : Except Failure α) : Prop :=
  ∀ value, outcome = .ok value → ∃ image, (path, image) ∈ last.openings ∧ use image = .ok value

theorem Resolves.mono {path : Path} {use : Image → Except Failure α} {outcome : Except Failure α}
    {last further : Line} (resolves : last.Resolves path use outcome)
    (stays : last.openings ⊆ further.openings) : further.Resolves path use outcome := by
  intro value same
  obtain ⟨image, opened, used⟩ := resolves value same
  exact ⟨image, stays opened, used⟩

theorem secures_loadFresh {use : Image → Except Failure α} (poised : Poised owner session line)
    (path : Path) :
    Secures dialogue (loadFresh path use)
      (fun outcome later last => Loading owner session line [path] later last ∧
        last.Resolves path use outcome) session line := by
  refine secures_fresh (fun outcome later last =>
    Loading owner session line [path] later last ∧ last.Resolves path use outcome) trivial ?_ ?_ ?_
  · rintro image _ rfl
    have opened : (line.note ⟨.openImage path, .ok image⟩).openings =
        line.openings ++ [(path, image)] := List.filterMap_append
    refine ⟨⟨poised.retain path image, rfl, rfl, List.prefix_append _ _, rfl, .single path image⟩, ?_⟩
    exact fun value used => ⟨image, opened ▸ List.mem_append_right _ (List.mem_singleton_self _), used⟩
  · rintro place fault _ rfl
    have failing : line.Goes (line.note ⟨.openImage path, .error (place, fault)⟩) := goes_note rfl
    exact ⟨⟨poised.go failing rfl rfl, rfl, rfl, failing.asked, rfl,
      failing.opens.mono (List.nil_sublist _)⟩, fun _ same => nomatch same⟩
  · rintro outcome later last ⟨loading, resolves⟩
    refine ⟨trivial, ?_⟩
    rintro anyFailed _ ⟨-, rfl⟩
    have loading : Loading owner session line [path] later
        (last.note ⟨.combine (failed outcome), anyFailed⟩) := loading.note rfl
    have resolves : (last.note ⟨.combine (failed outcome), anyFailed⟩).Resolves path use
        (later.member.settle outcome anyFailed) := fun value settled =>
      resolves.mono (goes_note rfl).opens.subset value (eq_ok_of_settle settled).1
    split
    · exact secures_quiet (fun _ _ => id) fun _ =>
        secures_resolved ⟨loading.note rfl, resolves.mono (goes_note rfl).opens.subset⟩
    · exact secures_resolved ⟨loading, resolves⟩

/-- The root came to restore the library: a member could not load it, and there is an archive. -/
def Restores (config : Config) (line last : Line) : Prop :=
  ∃ probing, (∀ event ∈ probing, event.effect = .present config.layout.library ∨
      event.effect = .openImage config.layout.library) ∧
    line.asked ++ (probing ++ [⟨.combine (probing.filterMap Event.opened?).isEmpty, true⟩,
      ⟨.present config.layout.archive, true⟩]) <+: last.asked

theorem Restores.trans {config : Config} {last further : Line}
    (restores : Restores config line last) (asked : last.asked <+: further.asked) :
    Restores config line further := by
  obtain ⟨probing, library, shown⟩ := restores
  exact ⟨probing, library, shown.trans asked⟩

/-- What the look at the library leads to. -/
structure Probed (owner : Bool) (session : Session) (line : Line) (failing : Bool)
    (paths : List Path) (later : Session) (last : Line) : Prop where
  poised : Poised owner later last
  config : later.config = session.config
  decisive : later.decisive = (true, session.cache.memo)
  asked : line.asked <+: last.asked
  opens : line.Opens paths last
  commands : ∃ part, last.handed = line.handed ++ part ∧ Pursued session.config.relinkSteps part ∧
    (failing = false → Unbroken session.config.relinkSteps part) ∧
    (part ≠ [] → Restores session.config line last)

/-- Afterwards there may be openings. -/
theorem Probed.load {failing : Bool} {paths others : List Path} {later final : Session}
    {last further : Line} (probed : Probed owner session line failing paths later last)
    (loading : Loading owner later last others final further) :
    Probed owner session line failing (paths ++ others) final further where
  poised := loading.poised
  config := loading.config.trans probed.config
  decisive := loading.decisive.trans probed.decisive
  asked := probed.asked.trans loading.asked
  opens := probed.opens.trans loading.opens
  commands := by
    obtain ⟨part, handed, pursued, unbroken, restores⟩ := probed.commands
    exact ⟨part, loading.handed.trans handed, pursued, unbroken,
      fun some => (restores some).trans loading.asked⟩

theorem Probed.note {failing : Bool} {paths : List Path} {later : Session} {last : Line}
    (probed : Probed owner session line failing paths later last) {event : Event}
    (shut : event.opened? = none) :
    Probed owner session line failing paths later (last.note event) := by
  have loaded := probed.load ((Loading.refl probed.poised).note shut)
  rwa [List.append_nil] at loaded

theorem Probed.mono {failing : Bool} {paths others : List Path} {later : Session} {last : Line}
    (probed : Probed owner session line failing paths later last) (known : paths.Sublist others) :
    Probed owner session line failing others later last :=
  { probed with opens := probed.opens.mono known }

/-- An agreement fails at least when the own outcome does. -/
theorem Probed.settle {β : Type} {outcome : Except Failure α} {settled : Except Failure β}
    {paths : List Path} {later : Session} {last : Line}
    (probed : Probed owner session line (failed outcome) paths later last)
    (implied : failed settled = false → failed outcome = false) :
    Probed owner session line (failed settled) paths later last where
  poised := probed.poised
  config := probed.config
  decisive := probed.decisive
  asked := probed.asked
  opens := probed.opens
  commands := by
    obtain ⟨part, handed, pursued, unbroken, restores⟩ := probed.commands
    exact ⟨part, handed, pursued, fun good => unbroken (implied good), restores⟩

/-- One opening, or none, of the library. -/
theorem secures_probe (poised : Poised owner session line) :
    Secures dialogue (onCache Cache.probe) (fun outcome later last => ∃ loaded probing,
        outcome = .ok loaded ∧ Poised owner later last ∧ later.config = session.config ∧
        later.decisive = (true, session.cache.memo) ∧ last.asked = line.asked ++ probing ∧
        (∀ event ∈ probing, event.effect = .present session.config.layout.library ∨
          event.effect = .openImage session.config.layout.library) ∧
        (probing.filterMap Event.opened?).isEmpty = !loaded ∧ last.handed = line.handed ∧
        line.Opens [session.config.layout.library] last)
      session line := by
  have library : session.cache.layout.library = session.config.layout.library :=
    congrArg Layout.library poised.layout
  have probed : ∀ {line}, Poised owner session line →
      Poised owner { session with cache := session.cache.afterProbe } line :=
    fun poised => poised.of_images rfl rfl
  show Fulfils _ _ ((Cache.probe.run.run session.cache).bind _) line
  rw [Cache.run_probe, library]
  refine ⟨trivial, ?_⟩
  rintro (_ | _) _ rfl
  · have missing : line.Goes (line.note ⟨.present session.config.layout.library, false⟩) :=
      goes_note rfl
    exact ⟨false, [_], rfl, probed (poised.go missing rfl rfl), rfl, rfl, rfl, by simp, rfl, rfl,
      missing.opens.mono (List.nil_sublist _)⟩
  · have noted : line.Goes (line.note ⟨.present session.config.layout.library, true⟩) :=
      goes_note rfl
    have poised := probed (poised.go noted rfl rfl)
    refine ⟨trivial, ?_⟩
    rintro (⟨place, fault⟩ | image) _ rfl
    · have failing : line.Goes ((line.note ⟨.present session.config.layout.library, true⟩).note
          ⟨.openImage session.config.layout.library, .error (place, fault)⟩) :=
        noted.trans (goes_note rfl)
      exact ⟨false, [_, _], rfl, poised.go (goes_note rfl) rfl rfl, rfl, rfl,
        List.append_assoc _ _ _, by simp, rfl, rfl, failing.opens.mono (List.nil_sublist _)⟩
    · exact ⟨true, [_, _], rfl, poised.retain _ image, rfl, rfl,
        List.append_assoc _ _ _, by simp, rfl, rfl, .behind noted (.single _ image)⟩

/-- The root restores the library; the others have nothing to do. -/
theorem secures_restore (poised : Poised owner session line) :
    Secures dialogue (do if (← get).member.isRoot then relink else return false)
      (fun outcome later last =>
        Handing owner session line session.config.relinkSteps (failed outcome) later last ∧
          (last.handed ≠ line.handed →
            line.asked ++ [⟨.present session.config.layout.archive, true⟩] <+: last.asked))
      session line := by
  refine Secures.get ?_
  split
  · exact secures_relink poised
  · exact Secures.pure ⟨.none poised (.refl _) rfl rfl, fun differ => absurd rfl differ⟩

/-- Without a restored library, one opening is all. -/
theorem Probed.unloaded {failing : Bool} {later : Session} {last : Line}
    (probed : Probed owner session line failing [session.config.layout.library] later last) :
    Probed owner session line failing
      [session.config.layout.library, session.config.layout.relinked] later last :=
  probed.mono ((List.nil_sublist _).cons_cons _)

/-- The members agree on what came of it, and open the restored image. -/
theorem secures_restored {outcome : Except Failure Bool} {later : Session} {last : Line}
    (probed : Probed owner session line (failed outcome) [session.config.layout.library] later last) :
    Secures dialogue (do
        let relinked ← agree outcome
        if ← Action.combine relinked then
          loadFresh (← get).cache.layout.relinked fun _ => .ok ())
      (fun settled final further => Probed owner session line (failed settled)
        [session.config.layout.library, session.config.layout.relinked] final further)
      later last := by
  have succeeds : ∀ {anyFailed : Bool}, failed (later.member.settle outcome anyFailed) = false →
      failed outcome = false := by
    intro anyFailed good
    cases outcome with
    | error failure => exact (nomatch good)
    | ok value => rfl
  refine Secures.bind (fun settled final further => Probed owner session line (failed settled)
      [session.config.layout.library] final further) (secures_agree trivial ?_) ?_
    fun _ _ _ probed => probed.unloaded
  · rintro anyFailed _ ⟨-, rfl⟩
    exact (probed.note rfl).settle succeeds
  · intro relinked final further probed
    refine Secures.ask trivial ?_
    rintro anyRelinked _ ⟨-, rfl⟩
    have shut : (⟨.combine relinked, anyRelinked⟩ : Event).opened? = none := rfl
    have probed := probed.note shut
    have unbroken : ∀ {outcome : Except Failure Unit}, failed outcome = false →
        failed (Except.ok relinked : Except Failure Bool) = false := fun _ => rfl
    cases anyRelinked with
    | false => exact Secures.pure probed.unloaded
    | true =>
      refine Secures.get ?_
      rw [probed.poised.layout, probed.config]
      refine (secures_loadFresh probed.poised _).mono ?_
      exact fun outcome _ _ ⟨loading, _⟩ => (probed.load loading).settle unbroken

theorem secures_probeLibrary (poised : Poised owner session line) :
    Secures dialogue probeLibrary (fun outcome later last => Probed owner session line
        (failed outcome) [session.config.layout.library, session.config.layout.relinked] later last)
      session line := by
  refine Secures.bind _ (secures_probe poised) ?_ (fun _ _ _ ⟨_, _, ok, _⟩ => nomatch ok)
  rintro loaded later last
    ⟨_, probing, ⟨⟩, poised, config, decisive, asked, library, shut, handed, opens⟩
  refine Secures.ask trivial ?_
  rintro anyFailed _ ⟨counts, rfl⟩
  have noted : last.Goes (last.note ⟨.combine (!loaded), anyFailed⟩) := goes_note rfl
  have ahead : line.asked <+: (last.note ⟨.combine (!loaded), anyFailed⟩).asked := by
    rw [note_asked, asked]
    exact (List.prefix_append _ _).trans (List.prefix_append _ _)
  have unsent : ∀ {failing}, Probed owner session line failing [session.config.layout.library] later
      (last.note ⟨.combine (!loaded), anyFailed⟩) :=
    ⟨poised.go noted rfl rfl, config, decisive, ahead, opens.go noted, [], by simp [handed], .inl rfl,
      fun _ => .inl rfl, fun some => absurd rfl some⟩
  cases anyFailed with
  | false => exact Secures.pure unsent.unloaded
  | true =>
    refine secures_observing _ (secures_restore (poised.go noted rfl rfl))
      fun outcome final further ⟨handing, shown⟩ => secures_restored ?_
    refine ⟨handing.poised, (congrArg Prod.fst handing.besides).trans config,
      (decisive_of_besides handing.besides).trans decisive, ahead.trans handing.goes.asked,
      (opens.go noted).go handing.goes, ?_⟩
    obtain ⟨part, handed', pursued, unbroken⟩ := handing.commands
    rw [note_handed, handed] at handed'
    rw [config] at pursued unbroken
    refine ⟨part, handed', pursued, unbroken, fun some => ⟨probing, library, ?_⟩⟩
    have differ : further.handed ≠ last.handed := by
      rw [handed', handed]
      exact fun same =>
        some (List.append_cancel_left_eq _ _ _ ▸ same.trans (List.append_nil _).symm)
    have shown := shown differ
    rw [note_asked, asked, config] at shown
    rw [shut]
    simpa using shown

/-- What building a kernel leads to. -/
structure Built (owner : Bool) (session : Session) (line : Line) (kernel : Kernel)
    (paths : List Path) (later : Session) (last : Line) : Prop where
  poised : Poised owner later last
  config : later.config = session.config
  probed : later.cache.probed = session.cache.probed
  memo : session.cache.memo <:+ later.cache.memo
  asked : line.asked <+: last.asked
  opens : line.Opens paths last
  commands : ∃ part, last.handed = line.handed ++ part ∧
    Pursued (session.config.buildSteps kernel) part

theorem Built.load {kernel : Kernel} {paths others : List Path} {later final : Session}
    {last further : Line} (built : Built owner session line kernel paths later last)
    (loading : Loading owner later last others final further) :
    Built owner session line kernel (paths ++ others) final further where
  poised := loading.poised
  config := loading.config.trans built.config
  probed := (congrArg Prod.fst loading.decisive).trans built.probed
  memo := by
    have memo : final.cache.memo = later.cache.memo := congrArg Prod.snd loading.decisive
    rw [memo]
    exact built.memo
  asked := built.asked.trans loading.asked
  opens := built.opens.trans loading.opens
  commands := by
    obtain ⟨part, handed, pursued⟩ := built.commands
    exact ⟨part, loading.handed.trans handed, pursued⟩

/-- A symbol that is answered is exported by the image of its kernel, which is open. -/
def Exports (last : Line) (kernel : Kernel) (session : Session)
    (outcome : Except Failure KernelSymbol) : Prop :=
  ∀ symbol, outcome = .ok symbol → ∃ image,
    (session.config.layout.image kernel, image) ∈ last.openings ∧
      image.find? kernel.symbol = some symbol

theorem secures_buildAndLoad (poised : Poised owner session line) (kernel : Kernel) :
    Secures dialogue (buildAndLoad kernel) (fun outcome later last =>
      Built owner session line kernel [session.config.layout.image kernel] later last ∧
        last.Exports kernel session outcome) session line := by
  have builds : Secures dialogue (do if (← get).member.isRoot then build kernel else return ())
      (fun outcome later last => Handing owner session line (session.config.buildSteps kernel)
        (failed outcome) later last) session line := by
    refine Secures.get ?_
    split
    · exact secures_build poised kernel
    · exact Secures.pure (.none poised (.refl line) rfl rfl)
  refine secures_observing _ builds fun built later last handing => ?_
  have done : Built owner session line kernel [] later last := by
    obtain ⟨part, handed, pursued, -⟩ := handing.commands
    have decisive := decisive_of_besides handing.besides
    have memo : later.cache.memo = session.cache.memo := congrArg Prod.snd decisive
    exact ⟨handing.poised, congrArg Prod.fst handing.besides, congrArg Prod.fst decisive,
      memo ▸ List.suffix_rfl, handing.goes.asked, handing.goes.opens, part, handed, pursued⟩
  refine Secures.bind (fun _ later last => Built owner session line kernel [] later last)
    (secures_agree trivial ?_) ?_
    fun _ _ _ built => ⟨{ built with opens := built.opens.mono (List.nil_sublist _) },
      fun _ same => nomatch same⟩
  · rintro anyFailed _ ⟨-, rfl⟩
    exact done.load ((Loading.refl done.poised).note rfl)
  · intro _ later last built
    refine Secures.get ?_
    rw [built.poised.layout, built.config]
    refine (secures_loadFresh built.poised _).mono fun outcome _ _ ⟨loading, resolves⟩ => ?_
    refine ⟨built.load loading, fun symbol same => ?_⟩
    obtain ⟨image, opened, used⟩ := resolves symbol same
    exact ⟨image, opened, find?_of_taken used⟩

/-- The exchange about a symbol, when a member misses it. -/
def misses (line : Line) (kernel : Kernel) : Event :=
  ⟨.combine (line.opened.findSome? fun image => image.find? kernel.symbol).isNone, true⟩

/-- What a search leads to: a kernel is built only behind a miss, what is found is remembered, and
where an image was opened, it is found there. -/
structure Searched (owner : Bool) (session : Session) (line : Line) (kernel : Kernel)
    (outcome : Except Failure KernelSymbol) (later : Session) (last : Line) : Prop where
  built : Built owner session line kernel [session.config.layout.image kernel] later last
  missed : last.handed ≠ line.handed → line.asked ++ [line.misses kernel] <+: last.asked
  remembered : ∀ symbol, outcome = .ok symbol → later.cache.remembered? kernel.hash = some symbol
  fresh : line.Opens [] last ∨ last.Exports kernel session outcome

theorem secures_find (poised : Poised owner session line) (kernel : Kernel) :
    Secures dialogue (find kernel) (Searched owner session line kernel) session line := by
  have remembers : ∀ {later : Session} {last : Line} (symbol : KernelSymbol),
      Built owner session line kernel [session.config.layout.image kernel] later last →
      (last.handed ≠ line.handed → line.asked ++ [line.misses kernel] <+: last.asked) →
      line.Opens [] last ∨ last.Exports kernel session (.ok symbol) →
      Secures dialogue (do
          modify fun session => { session with cache := session.cache.remember kernel.hash symbol }
          return symbol) (Searched owner session line kernel) later last := by
    intro later last symbol built missed fresh
    refine Secures.modify (Secures.pure ⟨⟨built.poised.of_images rfl rfl, built.config, built.probed,
      built.memo.trans (List.suffix_cons _ _), built.asked, built.opens, built.commands⟩, missed, ?_,
      fresh⟩)
    rintro _ ⟨⟩
    exact Cache.remembered?_remember_same
  have resolves : session.cache.resolve? kernel.symbol =
      line.opened.findSome? fun image => image.find? kernel.symbol :=
    congrArg (List.findSome? _) poised.images
  refine Secures.get (Secures.ask trivial ?_)
  rintro anyoneMissed _ ⟨counts, rfl⟩
  rw [resolves] at counts ⊢
  have noted : line.Goes (line.note ⟨.combine (line.opened.findSome? fun image =>
    image.find? kernel.symbol).isNone, anyoneMissed⟩) := goes_note rfl
  have poised := poised.go noted rfl rfl
  have builds : anyoneMissed = true → Secures dialogue (do
        let symbol ← buildAndLoad kernel
        modify fun session => { session with cache := session.cache.remember kernel.hash symbol }
        return symbol) (Searched owner session line kernel)
      session (line.note ⟨.combine (line.opened.findSome? fun image =>
        image.find? kernel.symbol).isNone, anyoneMissed⟩) := by
    rintro rfl
    have behind : ∀ {paths later last},
        Built owner session (line.note (line.misses kernel)) kernel paths later last →
          Built owner session line kernel paths later last := fun built =>
      ⟨built.poised, built.config, built.probed, built.memo, noted.asked.trans built.asked,
        .behind noted built.opens, built.commands⟩
    refine Secures.bind _ (secures_buildAndLoad poised kernel) ?_ ?_
    · exact fun symbol _ _ ⟨built, exports⟩ =>
        remembers symbol (behind built) (fun _ => built.asked) (.inr exports)
    · exact fun _ _ _ ⟨built, _⟩ => ⟨behind built, fun _ => built.asked,
        fun _ same => (nomatch same), .inr fun _ same => nomatch same⟩
  cases found : line.opened.findSome? fun image => image.find? kernel.symbol with
  | none =>
    rw [found] at builds counts
    exact builds (counts rfl)
  | some symbol =>
    rw [found] at builds noted poised
    cases anyoneMissed with
    | true => exact builds rfl
    | false =>
      refine remembers symbol ⟨poised, rfl, rfl, List.suffix_rfl, noted.asked,
        noted.opens.mono (List.nil_sublist _), [], ?_, .inl rfl⟩ (fun differ => absurd rfl differ)
        (.inl noted.opens)
      exact (List.append_nil _).symm

end Line

end KernelCache
