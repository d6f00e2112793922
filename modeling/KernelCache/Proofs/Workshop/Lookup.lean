import KernelCache.Proofs.Cache.Steps
import KernelCache.Proofs.Workshop.Commands

/-
**A lookup at the bench.**

Every image of a session has only what the library has. So what a lookup has found once, the library
has from then on, and a session that opens the library finds it there.

* `Bench.Sound`: what holds between the lookups of a run. `Bench.Advances`: what every part of a
  lookup does to it.
* **`Bench.secures_lookup`**: a lookup keeps it, whatever comes of it; what is answered is
  remembered, and the library has it.
* **`Bench.secures_hit`**: what the library has had since the run began is found without a command.
-/

namespace KernelCache

open KernelCache.Action

namespace Bench

open Session

variable {tools : Tools} {config : Config} {kernels : Kernel → Prop} {bench last : Bench}
  {kernel : Kernel} {session later : Session}

/-! ### Between lookups -/

/-- What holds between the lookups of a run. -/
structure Sound (tools : Tools) (config : Config) (kernels : Kernel → Prop) (session : Session)
    (bench : Bench) : Prop where
  kept : Kept tools config kernels bench
  settings : session.config = config
  layout : session.cache.layout = config.layout
  root : session.member.isRoot = true
  /-- The library has all that the images of the session have. -/
  images : ∀ image ∈ session.cache.images, ∀ name, image.Exports name →
    bench.shelf.Offers config.layout.library name
  memo : ∀ hash symbol, (hash, symbol) ∈ session.cache.memo → ∀ other, kernels other →
    other.hash = hash → bench.shelf.Offers config.layout.library (Image.plainName other.symbol)

namespace Sound

variable (sound : Sound tools config kernels session bench)
include sound

theorem stays (stays : Stays tools config kernels bench last) :
    Sound tools config kernels session last where
  kept := stays.kept
  settings := sound.settings
  layout := sound.layout
  root := sound.root
  images image inside name exports := stays.grows name (sound.images image inside name exports)
  memo hash symbol inside other listed same :=
    stays.grows _ (sound.memo hash symbol inside other listed same)

theorem of_besides (same : later.besides = session.besides) :
    Sound tools config kernels later bench := by
  obtain ⟨settings, member, coordinator, cache⟩ := session
  obtain ⟨settings', member', coordinator', cache'⟩ := later
  obtain ⟨rfl, rfl, rfl⟩ : settings' = settings ∧ member' = member ∧ cache' = cache := by
    simpa [besides] using same
  exact ⟨sound.kept, sound.settings, sound.layout, sound.root, sound.images, sound.memo⟩

theorem retain {image : Image}
    (exports : ∀ name, image.Exports name → bench.shelf.Offers config.layout.library name) :
    Sound tools config kernels { session with cache := session.cache.retain image } bench where
  kept := sound.kept
  settings := sound.settings
  layout := sound.layout
  root := sound.root
  images := List.forall_mem_cons.mpr ⟨exports, sound.images⟩
  memo := sound.memo

theorem remember {symbol : KernelSymbol} (keyed : Kernel.Keyed kernels) (listed : kernels kernel)
    (offered : bench.shelf.Offers config.layout.library (Image.plainName kernel.symbol)) :
    Sound tools config kernels
      { session with cache := session.cache.remember kernel.hash symbol } bench where
  kept := sound.kept
  settings := sound.settings
  layout := sound.layout
  root := sound.root
  images := sound.images
  memo hash symbol inside other listed' same := by
    rcases List.mem_cons.mp inside with here | inside
    · rw [(keyed other kernel listed' listed (same.trans (Prod.mk.inj here).1)).2]
      exact offered
    · exact sound.memo hash symbol inside other listed' same

end Sound

/-- What every part of a lookup does, from a session and its bench. -/
structure Advances (tools : Tools) (config : Config) (kernels : Kernel → Prop) (session : Session)
    (bench : Bench) (later : Session) (last : Bench) : Prop where
  sound : Sound tools config kernels later last
  grows : Grows config bench last
  images : session.cache.images ⊆ later.cache.images
  decisive : later.decisive = session.decisive

namespace Advances

theorem of_stays (sound : Sound tools config kernels session bench)
    (stays : Stays tools config kernels bench last) (same : later.besides = session.besides) :
    Advances tools config kernels session bench later last where
  sound := (sound.stays stays).of_besides same
  grows := stays.grows
  images := by
    have cache : later.cache = session.cache := congrArg (·.2.2) same
    rw [cache]
    exact List.Subset.refl _
  decisive := decisive_of_besides same

theorem trans {final : Session} {past : Bench}
    (first : Advances tools config kernels session bench later last)
    (second : Advances tools config kernels later last final past) :
    Advances tools config kernels session bench final past where
  sound := second.sound
  grows name offered := second.grows name (first.grows name offered)
  images := List.Subset.trans first.images second.images
  decisive := second.decisive.trans first.decisive

theorem probed (advances : Advances tools config kernels session bench later last) :
    later.cache.probed = session.cache.probed :=
  congrArg Prod.fst advances.decisive

theorem remembered? (advances : Advances tools config kernels session bench later last)
    (hash : UInt64) : later.cache.remembered? hash = session.cache.remembered? hash :=
  congrArg (fun parts => parts.2.lookup hash) advances.decisive

end Advances

/-! ### Opening -/

section

variable (suits : tools.Suits config kernels)
include suits

/-- An image that is opened has only what the library has, if that holds of its file. -/
theorem Kept.opens {path : Path} {image : Image} (kept : Kept tools config kernels bench)
    (stocked : ∀ definitions, bench.shelf.find? path = some (.image definitions) →
      ∀ definition ∈ definitions, bench.shelf.Offers config.layout.library definition.name)
    (opens : Opens tools true bench path (.ok image) last) :
    Stays tools config kernels bench last ∧
      ∀ name, image.Exports name → last.shelf.Offers config.layout.library name := by
  obtain ⟨definitions, shows, -, ⟨held, rfl⟩ | ⟨-, found, rfl⟩⟩ := opens
  · obtain ⟨newer, older, listed, -⟩ := List.lookup_eq_some_iff.mp held
    have inside : (path.components, definitions) ∈
        newer ++ (path.components, definitions) :: older :=
      List.mem_append_right _ List.mem_cons_self
    rw [← listed] at inside
    refine ⟨kept.stays, fun name exports => ?_⟩
    obtain ⟨definition, here, rfl⟩ := (suits.exports definitions image shows name).mp exports
    exact kept.opened _ definitions inside definition here
  · refine ⟨⟨⟨kept.archive, kept.library, kept.covered, ?_, kept.object, kept.source, kept.working⟩,
      fun _ offered => offered⟩, fun name exports => ?_⟩
    · rintro place others inside
      rcases List.mem_cons.mp inside with same | inside
      · obtain ⟨rfl, rfl⟩ := Prod.mk.inj same
        exact stocked _ found
      · exact kept.opened place others inside
    · obtain ⟨definition, here, rfl⟩ := (suits.exports definitions image shows name).mp exports
      exact stocked definitions found definition here

/-- An exchange about an outcome, of a member that is alone. -/
theorem secures_agreed {α : Type} {outcome : Except Failure α}
    (sound : Sound tools config kernels session bench) :
    Secures (workplace tools true) (agree outcome) (fun agreed later last =>
        session = later ∧ Advances tools config kernels session bench later last ∧
          (∀ value, agreed = .ok value → outcome = .ok value) ∧
          ∀ before, Settled config bench before → Settled config last before)
      session bench := by
  refine secures_combine suits sound.kept fun last stays settled => Secures.get ?_
  exact secures_resolved ⟨rfl, .of_stays sound stays rfl, fun _ same => (eq_ok_of_settle same).1,
    settled⟩

/-- What is taken from a fresh image comes from an image of the session. -/
theorem secures_loadFresh {α : Type} {path : Path} {use : Image → Except Failure α}
    (listed : kernels kernel) (place : path ∈ config.removable kernel)
    (sound : Sound tools config kernels session bench)
    (settled : Settled config bench (some (.install path config.layout.library))) :
    Secures (workplace tools true) (loadFresh path use) (fun outcome later last =>
        Advances tools config kernels session bench later last ∧
          ∀ value, outcome = .ok value → ∃ image ∈ later.cache.images, use image = .ok value)
      session bench := by
  refine secures_fresh (fun outcome later last =>
    Advances tools config kernels session bench later last ∧
      ∀ value, outcome = .ok value → ∃ image ∈ later.cache.images, use image = .ok value) trivial
    ?_ ?_ ?_
  · rintro image last ⟨_, late, opens⟩
    obtain rfl := late.eq_of_idle settled.1
    obtain ⟨stays, exports⟩ := sound.kept.opens suits settled.2 opens
    refine ⟨⟨(sound.stays stays).retain exports, stays.grows, List.subset_cons_self _ _, rfl⟩, ?_⟩
    exact fun value used => ⟨image, List.mem_cons_self, used⟩
  · rintro place fault last ⟨_, late, opens⟩
    obtain rfl := late.eq_of_idle settled.1
    obtain ⟨rfl, -⟩ := opens
    exact ⟨.of_stays sound sound.kept.stays rfl, fun _ same => nomatch same⟩
  · rintro outcome later last ⟨advances, taken⟩
    refine ⟨trivial, ?_⟩
    rintro anyFailed further ⟨_, late, -, rfl⟩
    have advances' := Advances.of_stays advances.sound
      (advances.sound.kept.late suits.distinct suits.keyed late) rfl
    have taken' : ∀ value, later.member.settle outcome anyFailed = .ok value →
        ∃ image ∈ later.cache.images, use image = .ok value :=
      fun value settled => taken value (eq_ok_of_settle settled).1
    split
    · refine secures_remove suits listed advances'.sound.kept place fun final stays _ => ?_
      exact secures_resolved ⟨(advances.trans advances').trans
        (.of_stays advances'.sound stays rfl), taken'⟩
    · exact secures_resolved ⟨advances.trans advances', taken'⟩

/-! ### The library -/

/-- The images of the session have all that the library had, unless an older image of it was
opened. -/
def Shown (config : Config) (bench : Bench) (session : Session) : Prop :=
  bench.opened.lookup config.layout.library.components = none → ∀ name,
    bench.shelf.Offers config.layout.library name →
      ∃ image ∈ session.cache.images, image.Exports name

/-- What a look at the library leads to. -/
structure Probed (tools : Tools) (config : Config) (kernels : Kernel → Prop) (session : Session)
    (bench : Bench) (outcome : Except Failure Bool) (later : Session) (last : Bench) : Prop where
  advances : Advances tools config kernels session bench later last
  handed : last.handed = bench.handed
  shown : Shown config bench later
  loads : bench.opened.lookup config.layout.library.components = none →
    (∃ name, bench.shelf.Offers config.layout.library name) → outcome = .ok true

omit suits in
/-- A library that is not opened, as it is no image, has offered nothing. -/
theorem Probed.unloaded (sound : Sound tools config kernels session bench)
    (stays : Stays tools config kernels bench last) (handed : last.handed = bench.handed)
    (incomplete : ∀ definitions,
      last.shelf.find? config.layout.library ≠ some (.image definitions)) :
    Probed tools config kernels session bench (.ok false) session last := by
  have bare : ∀ name, ¬ bench.shelf.Offers config.layout.library name := by
    intro name offered
    obtain ⟨content, found, -⟩ := stays.grows name offered
    obtain ⟨definitions, rfl⟩ := stays.kept.library content found
    exact incomplete definitions found
  exact ⟨.of_stays sound stays rfl, handed, fun _ name offered => (bare name offered).elim,
    fun _ ⟨name, offered⟩ => (bare name offered).elim⟩

/-- A library that is opened has all that it has offered, if it was not open before. -/
theorem Probed.loaded {between : Bench} {image : Image}
    (sound : Sound tools config kernels session bench)
    (stays : Stays tools config kernels bench between) (handed : between.handed = bench.handed)
    (opened : between.opened = bench.opened)
    (opens : Opens tools true between config.layout.library (.ok image) last) :
    Probed tools config kernels session bench (.ok true)
      { session with cache := session.cache.retain image } last := by
  obtain ⟨stays', exports⟩ := stays.kept.opens suits
    (fun definitions found definition here => ⟨_, found, definition, here, rfl⟩) opens
  have same : last.handed = between.handed := by
    obtain ⟨-, -, -, ⟨-, rfl⟩ | ⟨-, -, rfl⟩⟩ := opens
    · rfl
    · rfl
  refine ⟨⟨(sound.stays (stays.trans stays')).retain exports, (stays.trans stays').grows,
    List.subset_cons_self _ _, rfl⟩, same.trans handed, fun unheld name offered => ?_, fun _ _ => rfl⟩
  refine ⟨image, List.mem_cons_self, ?_⟩
  obtain ⟨definitions, shows, -, ⟨held, -⟩ | ⟨-, found, -⟩⟩ := opens
  · rw [opened, unheld] at held
    exact (nomatch held)
  · obtain ⟨content, found', inside⟩ := stays.grows name offered
    obtain rfl := Option.some.inj (found.symm.trans found')
    exact (suits.exports definitions image shows name).mpr inside

/-- The library is opened, if it is there. -/
theorem secures_probe (sound : Sound tools config kernels session bench) :
    Secures (workplace tools true) (onCache Cache.probe)
      (Probed tools config kernels { session with cache := session.cache.afterProbe } bench)
      session bench := by
  have sound : Sound tools config kernels { session with cache := session.cache.afterProbe } bench :=
    ⟨sound.kept, sound.settings, sound.layout, sound.root, sound.images, sound.memo⟩
  have library : session.cache.layout.library = config.layout.library :=
    congrArg Layout.library sound.layout
  show Fulfils _ _ ((Cache.probe.run.run session.cache).bind _) bench
  rw [Cache.run_probe, library]
  refine ⟨trivial, ?_⟩
  rintro there between ⟨_, late, same, rfl⟩
  have stays := sound.kept.late suits.distinct suits.keyed late
  cases there with
  | false =>
    refine .unloaded sound stays late.handed fun definitions found => ?_
    have missing : between.shelf.find? config.layout.library = none :=
      Option.isNone_iff_eq_none.mp (Option.isSome_eq_false_iff.mp same.symm)
    exact (nomatch missing.symm.trans found)
  | true =>
    refine ⟨trivial, ?_⟩
    rintro opened last ⟨between', late', opens⟩
    have stays := stays.trans (stays.kept.late suits.distinct suits.keyed late')
    have handed := late'.handed.trans late.handed
    cases opened with
    | error fault =>
      obtain ⟨rfl, unopened⟩ := opens
      refine .unloaded sound stays handed fun definitions found => ?_
      rcases unopened rfl with missing | ⟨-, incomplete⟩
      · exact (nomatch missing.symm.trans found)
      · exact incomplete definitions found
    | ok image =>
      exact .loaded suits sound stays handed (late'.opened.trans late.opened) opens

/-- The library is opened, and restored when that fails. -/
theorem secures_probeLibrary (listed : kernels kernel)
    (sound : Sound tools config kernels session bench) :
    Secures (workplace tools true) probeLibrary (fun _ later last =>
        Advances tools config kernels { session with cache := session.cache.afterProbe } bench
          later last ∧ Shown config bench later) session bench := by
  refine Secures.bind _ (secures_probe suits sound) ?_
    fun _ _ _ ⟨advances, _, shown, _⟩ => ⟨advances, shown⟩
  rintro loaded later last ⟨advances, -, shown, -⟩
  -- Whatever is loaded from here on, the images that are there stay.
  have ends : ∀ {final past}, Advances tools config kernels later last final past →
      Advances tools config kernels { session with cache := session.cache.afterProbe } bench final
        past ∧ Shown config bench final := by
    intro final past advances'
    refine ⟨advances.trans advances', fun unheld name offered => ?_⟩
    obtain ⟨image, inside, exports⟩ := shown unheld name offered
    exact ⟨image, advances'.images inside, exports⟩
  refine secures_combine suits advances.sound.kept fun last' stays _ => ?_
  have first : Advances tools config kernels later last later last' :=
    .of_stays advances.sound stays rfl
  split
  · have restores : Secures (workplace tools true)
        (do if (← get).member.isRoot then relink else return false)
        (fun outcome => Restocked tools config kernels later last' config.layout.relinked
          (outcome = .ok true)) later last' := by
      refine Secures.get ?_
      rw [if_pos first.sound.root]
      exact secures_relink suits listed first.sound.settings first.sound.kept
    refine secures_observing _ restores ?_
    rintro outcome later' last'' ⟨besides, stays', stocked⟩
    have second : Advances tools config kernels later last later' last'' :=
      first.trans (.of_stays first.sound stays' besides)
    refine Secures.bind _ (secures_agreed suits second.sound) ?_ ?_
    · rintro relinked _ past ⟨rfl, advances', same, settled⟩
      have third := second.trans advances'
      refine secures_combine suits third.sound.kept fun past' stays'' settled' => ?_
      have fourth := third.trans (.of_stays third.sound stays'' rfl)
      cases relinked with
      | false => exact Secures.pure (ends fourth)
      | true =>
        have settled := settled' _ (settled _ (stocked (same true rfl)))
        refine Secures.get ?_
        rw [fourth.sound.layout]
        refine (secures_loadFresh suits listed Config.relinked_mem fourth.sound settled).mono ?_
        exact fun _ _ _ ⟨loaded, _⟩ => ends (fourth.trans loaded)
    · rintro failure _ past ⟨rfl, advances', -, -⟩
      exact ends (second.trans advances')
  · exact Secures.pure (ends first)

/-! ### The kernel -/

/-- A kernel that is built is found in an image of the session. -/
theorem secures_buildAndLoad (listed : kernels kernel)
    (sound : Sound tools config kernels session bench) :
    Secures (workplace tools true) (buildAndLoad kernel) (fun outcome later last =>
        Advances tools config kernels session bench later last ∧ ∀ symbol, outcome = .ok symbol →
          ∃ image ∈ later.cache.images, image.find? kernel.symbol = some symbol) session bench := by
  have builds : Secures (workplace tools true)
      (do if (← get).member.isRoot then build kernel else return ())
      (fun outcome => Restocked tools config kernels session bench (config.layout.image kernel)
        (outcome = .ok ())) session bench := by
    refine Secures.get ?_
    rw [if_pos sound.root]
    exact secures_build suits listed sound.settings sound.kept
  refine secures_observing _ builds ?_
  rintro built later last ⟨besides, stays, stocked⟩
  have first : Advances tools config kernels session bench later last :=
    .of_stays sound stays besides
  refine Secures.bind _ (secures_agreed suits first.sound) ?_ ?_
  · rintro _ _ last' ⟨rfl, advances, same, settled⟩
    have second := first.trans advances
    refine Secures.get ?_
    rw [second.sound.layout]
    refine (secures_loadFresh suits listed Config.image_mem second.sound
      (settled _ (stocked (same () rfl)))).mono ?_
    rintro outcome final past ⟨advances', taken⟩
    refine ⟨second.trans advances', fun symbol same => ?_⟩
    obtain ⟨image, inside, used⟩ := taken symbol same
    exact ⟨image, inside, find?_of_taken used⟩
  · rintro failure _ last' ⟨rfl, advances, -, -⟩
    exact ⟨first.trans advances, fun _ same => nomatch same⟩

/-! ### The whole of a lookup -/

/-- What a lookup has done, whatever came of it. -/
structure Looked (tools : Tools) (config : Config) (kernels : Kernel → Prop) (kernel : Kernel)
    (session : Session) (bench : Bench) (outcome : Except Failure KernelSymbol) (later : Session)
    (last : Bench) : Prop where
  sound : Sound tools config kernels later last
  grows : Grows config bench last
  images : session.cache.images ⊆ later.cache.images
  probed : session.cache.probed = true → later.cache.probed = true
  memo : ∀ hash symbol, session.cache.remembered? hash = some symbol →
    later.cache.remembered? hash = some symbol
  /-- What is answered is remembered, and the library has it. -/
  answer : ∀ symbol, outcome = .ok symbol → later.cache.remembered? kernel.hash = some symbol ∧
    last.shelf.Offers config.layout.library (Image.plainName kernel.symbol)

omit suits in
/-- A part of a lookup that fails. -/
theorem Looked.of_failure {failure : Failure}
    (advances : Advances tools config kernels session bench later last) :
    Looked tools config kernels kernel session bench (.error failure) later last where
  sound := advances.sound
  grows := advances.grows
  images := advances.images
  probed probed := advances.probed.trans probed
  memo hash _ known := (advances.remembered? hash).trans known
  answer _ same := nomatch same

omit suits in
/-- A symbol that was found is remembered. -/
theorem Looked.of_found {symbol : KernelSymbol} (keyed : Kernel.Keyed kernels)
    (listed : kernels kernel) (unknown : session.cache.remembered? kernel.hash = none)
    (advances : Advances tools config kernels session bench later last)
    {image : Image} (inside : image ∈ later.cache.images)
    (found : image.find? kernel.symbol = some symbol) :
    Looked tools config kernels kernel session bench (.ok symbol)
      { later with cache := later.cache.remember kernel.hash symbol } last := by
  have offered := advances.sound.images image inside _ (Image.exports_of_find? found)
  refine ⟨advances.sound.remember keyed listed offered, advances.grows, advances.images,
    fun probed => advances.probed.trans probed, fun hash other known => ?_, ?_⟩
  · have differ : hash ≠ kernel.hash := by
      rintro rfl
      exact (nomatch unknown.symm.trans known)
    exact (Cache.remembered?_remember_of_ne differ).trans ((advances.remembered? hash).trans known)
  · rintro _ ⟨⟩
    exact ⟨Cache.remembered?_remember_same, offered⟩

/-- The images are searched, and the kernel is built when it is not there. -/
theorem secures_find (listed : kernels kernel)
    (unknown : session.cache.remembered? kernel.hash = none)
    (sound : Sound tools config kernels session bench) :
    Secures (workplace tools true) (find kernel)
      (Looked tools config kernels kernel session bench) session bench := by
  have remembers : ∀ {later last symbol image},
      Advances tools config kernels session bench later last → image ∈ later.cache.images →
      image.find? kernel.symbol = some symbol → Secures (workplace tools true) (do
          modify fun session => { session with cache := session.cache.remember kernel.hash symbol }
          return symbol) (Looked tools config kernels kernel session bench) later last :=
    fun advances inside found => Secures.modify (Secures.pure
      (Looked.of_found suits.keyed listed unknown advances inside found))
  have builds : ∀ {last}, Stays tools config kernels bench last →
      Secures (workplace tools true) (do
          let symbol ← buildAndLoad kernel
          modify fun session => { session with cache := session.cache.remember kernel.hash symbol }
          return symbol) (Looked tools config kernels kernel session bench) session last := by
    intro last stays
    have first : Advances tools config kernels session bench session last :=
      .of_stays sound stays rfl
    refine Secures.bind _ (secures_buildAndLoad suits listed first.sound) ?_ ?_
    · rintro symbol later past ⟨advances, found⟩
      obtain ⟨image, inside, found⟩ := found symbol rfl
      exact remembers (first.trans advances) inside found
    · exact fun failure later past ⟨advances, _⟩ => Looked.of_failure (first.trans advances)
  refine Secures.get (secures_combine suits sound.kept fun last stays _ => ?_)
  cases here : session.cache.resolve? kernel.symbol with
  | none => exact builds stays
  | some symbol =>
    obtain ⟨image, inside, found⟩ := List.exists_of_findSome?_eq_some here
    exact remembers (.of_stays sound stays rfl) inside found

/-- **A lookup**, whatever comes of it, keeps the run sound: what the session remembers stays, what
is answered is remembered, and the library has it; and the first search opens the library. -/
theorem secures_lookup (listed : kernels kernel)
    (sound : Sound tools config kernels session bench) :
    Secures (workplace tools true) (lookup kernel) (fun outcome later last =>
        Looked tools config kernels kernel session bench outcome later last ∧
          (later = session ∧ last = bench ∨ later.cache.probed = true) ∧
          (session.cache.probed = false → later.cache.probed = true → Shown config bench later))
      session bench := by
  refine Secures.get ?_
  cases remembered : session.cache.remembered? kernel.hash with
  | some symbol =>
    obtain ⟨newer, older, memo, -⟩ := List.lookup_eq_some_iff.mp remembered
    have inside : (kernel.hash, symbol) ∈ session.cache.memo :=
      memo ▸ List.mem_append_right _ List.mem_cons_self
    have offered := sound.memo _ _ inside kernel listed rfl
    refine Secures.pure ⟨⟨sound, fun _ offered => offered, List.Subset.refl _, id,
      fun _ _ known => known, ?_⟩, .inl ⟨rfl, rfl⟩, fun fresh probed => ?_⟩
    · rintro _ ⟨⟩
      exact ⟨remembered, offered⟩
    · exact (nomatch fresh.symm.trans probed)
  | none =>
    refine Secures.get ?_
    cases probed : session.cache.probed with
    | true =>
      refine (secures_find suits listed remembered sound).mono fun outcome later last looked => ?_
      exact ⟨looked, .inr (looked.probed probed), fun fresh => nomatch fresh⟩
    | false =>
      refine Secures.bind _ (secures_probeLibrary suits listed sound) ?_ ?_
      · rintro _ between middle ⟨advances, shown⟩
        have unknown := (advances.remembered? kernel.hash).trans remembered
        refine (secures_find suits listed unknown advances.sound).mono ?_
        intro outcome later last looked
        have probed' := looked.probed advances.probed
        refine ⟨⟨looked.sound, fun name offered => looked.grows name (advances.grows name offered),
          List.Subset.trans advances.images looked.images, fun _ => probed', ?_, looked.answer⟩,
          .inr probed', fun _ _ unheld name offered => ?_⟩
        · exact fun hash symbol known => looked.memo hash symbol
            ((advances.remembered? hash).trans known)
        · obtain ⟨image, inside, exports⟩ := shown unheld name offered
          exact ⟨image, looked.images inside, exports⟩
      · rintro failure later last ⟨advances, shown⟩
        have failed : Looked tools config kernels kernel
            { session with cache := session.cache.afterProbe } bench (.error failure) later last :=
          .of_failure advances
        exact ⟨⟨failed.sound, failed.grows, failed.images, fun _ => advances.probed, failed.memo,
          failed.answer⟩, .inr advances.probed, fun _ _ => shown⟩

/-! ### A lookup without a command -/

omit suits in
theorem exists_resolve? {image : Image} (inside : image ∈ session.cache.images)
    (exports : image.Exports (Image.plainName kernel.symbol)) :
    ∃ symbol, session.cache.resolve? kernel.symbol = some symbol :=
  Option.isSome_iff_exists.mp
    (List.findSome?_isSome_iff.mpr ⟨image, inside, Image.isSome_find? exports⟩)

omit suits in
/-- A kernel that is in an image is not built. -/
theorem secures_find_hit {image : Image} (inside : image ∈ session.cache.images)
    (exports : image.Exports (Image.plainName kernel.symbol)) :
    Secures (workplace tools true) (find kernel) (fun outcome _ last =>
        (∃ symbol, outcome = .ok symbol) ∧ last.handed = bench.handed) session bench := by
  obtain ⟨symbol, found⟩ := exists_resolve? inside exports
  refine Secures.get (Secures.ask trivial ?_)
  rintro anyoneMissed last ⟨_, late, same, rfl⟩
  have same : anyoneMissed = (session.cache.resolve? kernel.symbol).isNone := same rfl
  rw [same, found]
  show (∃ found, Except.ok symbol = .ok found) ∧ last.handed = bench.handed
  exact ⟨⟨symbol, rfl⟩, late.handed⟩

/-- **What the library had when the run began** is found without a command, unless an older image
of it was opened. -/
theorem secures_hit (sound : Sound tools config kernels session bench)
    (offered : bench.shelf.Offers config.layout.library (Image.plainName kernel.symbol))
    (unheld : session.cache.probed = false →
      bench.opened.lookup config.layout.library.components = none)
    (shown : session.cache.probed = true →
      ∃ image ∈ session.cache.images, image.Exports (Image.plainName kernel.symbol)) :
    Secures (workplace tools true) (lookup kernel) (fun outcome _ last =>
        (∃ symbol, outcome = .ok symbol) ∧ last.handed = bench.handed) session bench := by
  refine Secures.get ?_
  cases session.cache.remembered? kernel.hash with
  | some symbol => exact Secures.pure ⟨⟨symbol, rfl⟩, rfl⟩
  | none =>
    refine Secures.get ?_
    cases probed : session.cache.probed with
    | true =>
      obtain ⟨image, inside, exports⟩ := shown probed
      exact secures_find_hit inside exports
    | false =>
      have probes : Secures (workplace tools true) probeLibrary (fun outcome later last =>
          outcome = .ok () ∧ last.handed = bench.handed ∧ ∃ image ∈ later.cache.images,
            image.Exports (Image.plainName kernel.symbol)) session bench := by
        refine Secures.bind _ (secures_probe suits sound) ?_ ?_
        · rintro loaded later last ⟨-, handed, shown, loads⟩
          obtain rfl := Except.ok.inj (loads (unheld probed) ⟨_, offered⟩)
          refine Secures.ask trivial ?_
          rintro anyFailed _ ⟨_, late, same, rfl⟩
          have same : anyFailed = false := same rfl
          rw [same]
          exact Secures.pure ⟨rfl, late.handed.trans handed, shown (unheld probed) _ offered⟩
        · rintro failure later last ⟨-, -, -, loads⟩
          exact (nomatch loads (unheld probed) ⟨_, offered⟩)
      refine Secures.bind _ probes ?_ ?_
      · rintro _ later last ⟨-, handed, image, inside, exports⟩
        refine (secures_find_hit inside exports).mono fun outcome _ past ⟨found, same⟩ => ?_
        exact ⟨found, same.trans handed⟩
      · exact fun failure _ _ ⟨same, _⟩ => nomatch same

end

end Bench

end KernelCache
