import KernelCache.Proofs.Session.Founding
import KernelCache.Proofs.Session.Run
import KernelCache.Proofs.Workshop.Shelf

/-
**Lookups after the worker is gone.**

Once a wait has ended without an acknowledgement, the coordinator of a run is dead, and it takes no
further command. What is remembered is still returned; a lookup that comes to a build fails.

* `Shelf.Becomes shelf events later`: what a member's own questions make of the files.
* `Session.Futile session kernel failure events`: what is asked in a build by a coordinator that is
  dead. The source is written and removed again, and so are the object and the image; when the
  commands can be prepared and the source can be written, the failure is that the worker is gone.
* **`Session.Run.inert`**: every lookup of such a run that misses fails, hands nothing over, changes
  nothing of the session, and asks nothing but that.
-/

namespace KernelCache

open KernelCache.Action

/-! ### What questions make of the files -/

/-- What a question does to the files; a source that could not be written may leave anything. -/
def Event.Changes (shelf : Shelf) : Event → Shelf → Prop
  | ⟨.writeSource path text, .ok _⟩, later => later = shelf.put path (some (.text text))
  | ⟨.writeSource path _, .error _⟩, later => ∃ content, later = shelf.put path content
  | ⟨.remove path, _⟩, later => later = shelf.put path none
  | _, later => later = shelf

namespace Shelf

variable {shelf between later : Shelf} {path : Path}

/-- What questions make of the files, one after the other. -/
def Becomes : Shelf → List Event → Shelf → Prop
  | shelf, [], later => later = shelf
  | shelf, event :: events, later => ∃ between, event.Changes shelf between ∧
      between.Becomes events later

theorem becomes_append {events others : List Event} :
    shelf.Becomes (events ++ others) later ↔
      ∃ between, shelf.Becomes events between ∧ between.Becomes others later := by
  induction events generalizing shelf with
  | nil => exact ⟨fun rest => ⟨shelf, rfl, rest⟩, fun ⟨_, same, rest⟩ => same ▸ rest⟩
  | cons event events ih =>
    constructor
    · rintro ⟨first, changes, rest⟩
      obtain ⟨between, here, behind⟩ := ih.mp rest
      exact ⟨between, ⟨first, changes, here⟩, behind⟩
    · rintro ⟨between, ⟨first, changes, here⟩, behind⟩
      exact ⟨first, changes, ih.mpr ⟨between, here, behind⟩⟩

theorem put_none_of_absent (absent : shelf.find? path = none) : shelf.put path none = shelf := by
  rw [put, ← absent]
  exact Function.update_eq_self _ _

/-- A file that was put where there was none is removed again. -/
theorem put_put_none {content : Option Artifact} (absent : shelf.find? path = none) :
    (shelf.put path content).put path none = shelf := by
  have again : (shelf.put path content).put path none = shelf.put path none :=
    Function.update_idem _ _ _
  rw [again, put_none_of_absent absent]

end Shelf

namespace Session

/-- The files that live only while a kernel is built. -/
def passing (config : Config) (kernel : Kernel) : List Path :=
  [config.sourceFile kernel, config.layout.object kernel, config.layout.image kernel]

/-- The commands of a kernel can be written, and the session can hand them over. -/
def Prepared (session : Session) (kernel : Kernel) : Prop :=
  ∃ steps, session.config.buildSteps kernel = .ok steps ∧ session.Takes steps

/-- What is asked for nothing: an exchange, or a file that lives only while the kernel is built. -/
def Vain (config : Config) (kernel : Kernel) : Effect → Prop
  | .combine _ => True
  | .writeSource path text => path = config.sourceFile kernel ∧ text = Bytes.ofString kernel.source
  | .remove path => path ∈ passing config kernel
  | _ => False

/-- What is asked in a build by a coordinator that is dead. -/
structure Futile (session : Session) (kernel : Kernel) (failure : Failure) (events : List Event) :
    Prop where
  asks : ∀ event ∈ events, Vain session.config kernel event.effect
  /-- All other files stay. -/
  elsewhere : ∀ shelf later : Shelf, shelf.Becomes events later → ∀ path : Path,
    (∀ place ∈ passing session.config kernel, path.components ≠ place.components) →
      later.find? path = shelf.find? path
  /-- When the commands can be prepared and the source can be written, the failure is that the
  worker is gone; and where there were no such files, there are none now. -/
  gone : session.Prepared kernel →
    (∀ event ∈ events, ∀ path text fault, event ≠ ⟨.writeSource path text, .error fault⟩) →
      failure = .workerGone ∧ ∀ shelf later : Shelf,
        (∀ place ∈ passing session.config kernel, shelf.find? place = none) →
          shelf.Becomes events later → later = shelf

variable {session : Session} {kernel : Kernel} {failure : Failure} {events : List Event}

/-- A change of a file that lives only while the kernel is built. -/
theorem find?_of_changes {config : Config} {event : Event} {shelf later : Shelf}
    (vain : Vain config kernel event.effect) (changes : event.Changes shelf later) {path : Path}
    (apart : ∀ place ∈ passing config kernel, path.components ≠ place.components) :
    later.find? path = shelf.find? path := by
  obtain ⟨effect, reply⟩ := event
  cases effect with
  | combine flag => exact congrArg (Shelf.find? · path) changes
  | writeSource place text =>
    have differ : path.components ≠ place.components := vain.1 ▸ apart _ List.mem_cons_self
    cases reply with
    | ok value =>
      obtain rfl := changes
      exact Shelf.find?_put_of_ne differ
    | error fault =>
      obtain ⟨content, rfl⟩ := changes
      exact Shelf.find?_put_of_ne differ
  | remove place =>
    obtain rfl := changes
    exact Shelf.find?_put_of_ne (apart place vain)
  | _ => exact vain.elim

theorem find?_of_becomes {config : Config} {shelf later : Shelf}
    (vain : ∀ event ∈ events, Vain config kernel event.effect) (becomes : shelf.Becomes events later)
    {path : Path} (apart : ∀ place ∈ passing config kernel, path.components ≠ place.components) :
    later.find? path = shelf.find? path := by
  induction events generalizing shelf with
  | nil => exact congrArg (Shelf.find? · path) becomes
  | cons event events ih =>
    obtain ⟨between, changes, rest⟩ := becomes
    obtain ⟨here, behind⟩ := List.forall_mem_cons.mp vain
    exact (ih behind rest).trans (find?_of_changes here changes apart)

namespace Futile

/-- Nothing is asked, as the commands cannot be prepared. -/
theorem unprepared (unprepared : ¬ session.Prepared kernel) : Futile session kernel failure [] where
  asks _ inside := (List.not_mem_nil inside).elim
  elsewhere _ _ becomes path _ := congrArg (Shelf.find? · path) becomes
  gone prepared := absurd prepared unprepared

/-- Before and after there may be exchanges. -/
theorem between (futile : Futile session kernel failure events) (flag answer flag' answer' : Bool) :
    Futile session kernel failure
      (⟨.combine flag, answer⟩ :: events ++ [⟨.combine flag', answer'⟩]) := by
  have inner : ∀ {shelf later : Shelf},
      shelf.Becomes (⟨.combine flag, answer⟩ :: events ++ [⟨.combine flag', answer'⟩]) later →
        shelf.Becomes events later := by
    intro shelf later becomes
    obtain ⟨last, ⟨_, rfl, becomes⟩, _, rfl, rfl⟩ := Shelf.becomes_append.mp becomes
    exact becomes
  refine ⟨?_, fun shelf later becomes => futile.elsewhere shelf later (inner becomes), ?_⟩
  · intro event inside
    rcases List.mem_append.mp inside with inside | inside
    · rcases List.mem_cons.mp inside with rfl | inside
      · exact trivial
      · exact futile.asks event inside
    · rw [List.mem_singleton.mp inside]
      exact trivial
  · intro prepared stored
    have stored' : ∀ event ∈ events, ∀ path text fault,
        event ≠ ⟨.writeSource path text, .error fault⟩ := fun event inside =>
      stored event (List.mem_append_left _ (List.mem_cons_of_mem _ inside))
    obtain ⟨gone, files⟩ := futile.gone prepared stored'
    exact ⟨gone, fun shelf later clear becomes => files shelf later clear (inner becomes)⟩

/-- The source could not be written. -/
theorem unwritten (fault : Fault) :
    Futile session kernel failure [⟨.writeSource (session.config.sourceFile kernel)
      (Bytes.ofString kernel.source), .error fault⟩] := by
  have vain : ∀ event ∈ [(⟨.writeSource (session.config.sourceFile kernel)
      (Bytes.ofString kernel.source), .error fault⟩ : Event)],
      Vain session.config kernel event.effect :=
    List.forall_mem_singleton.mpr ⟨rfl, rfl⟩
  refine ⟨vain, fun _ _ becomes _ => find?_of_becomes vain becomes, fun _ stored => ?_⟩
  exact absurd rfl (stored _ List.mem_cons_self _ _ fault)

/-- The source is written and removed, and the object and the image with it. -/
theorem tidied :
    Futile session kernel .workerGone
      (⟨.writeSource (session.config.sourceFile kernel) (Bytes.ofString kernel.source), .ok ()⟩ ::
        (passing session.config kernel).map fun path => ⟨.remove path, ()⟩) := by
  have vain : ∀ event ∈ (⟨.writeSource (session.config.sourceFile kernel)
      (Bytes.ofString kernel.source), .ok ()⟩ :: (passing session.config kernel).map fun path =>
        ⟨.remove path, ()⟩ : List Event), Vain session.config kernel event.effect := by
    refine List.forall_mem_cons.mpr ⟨⟨rfl, rfl⟩, fun event inside => ?_⟩
    obtain ⟨path, here, rfl⟩ := List.mem_map.mp inside
    exact here
  refine ⟨vain, fun _ _ becomes _ => find?_of_becomes vain becomes, fun _ _ => ⟨rfl, ?_⟩⟩
  rintro shelf _ clear ⟨_, rfl, _, rfl, _, rfl, _, rfl, rfl⟩
  obtain ⟨source, object, image, -⟩ := by
    simpa only [passing, List.forall_mem_cons] using clear
  rw [Shelf.put_put_none source, Shelf.put_none_of_absent object, Shelf.put_none_of_absent image]

end Futile

/-- What a lookup leads to that misses when the worker is gone. -/
structure Inert (session : Session) (kernel : Kernel) (line : Line) (failure : Failure)
    (later : Session) (last : Line) : Prop where
  stays : later = session
  handed : last.handed = line.handed
  futile : ∃ events, last.asked = line.asked ++ events ∧ Futile session kernel failure events

end Session

namespace Line

open Session

variable {owner : Bool} {session : Session} {line : Line} {coordinator : Coordinator}

theorem buildSteps_ne_nil {config : Config} {kernel : Kernel} {steps : List (Step × Bytes)}
    (written : config.buildSteps kernel = .ok steps) : steps ≠ [] := by
  rintro rfl
  have each := Config.written_eq_ok_iff.mp ((Config.buildSteps_eq config kernel).symm.trans written)
  cases each

/-- **A build by a coordinator that is dead** fails, and hands nothing over. -/
theorem secures_build_gone (owned : session.coordinator = some coordinator)
    (gone : coordinator.dead = true) (kernel : Kernel) :
    Secures dialogue (build kernel) (fun outcome later last => ∃ failure,
      outcome = .error failure ∧ Inert session kernel line failure later last) session line := by
  refine Secures.get ?_
  by_cases prepared : session.Prepared kernel
  · obtain ⟨steps, written, takes⟩ := prepared
    refine secures_passed written takes (secures_quiet (fun _ _ => id) fun stored => ?_)
    cases stored with
    | error fault => exact Secures.throw ⟨_, rfl, rfl, rfl, _, rfl, .unwritten fault⟩
    | ok value =>
      have calls : ∀ line, Secures dialogue (callAll steps) (fun outcome later last =>
          outcome = .error .workerGone ∧ later = session ∧ last = line) session line := by
        intro line
        unfold Secures
        rw [run_callAll_gone owned gone (buildSteps_ne_nil written)]
        exact ⟨rfl, rfl, rfl⟩
      refine secures_observing _ (calls _) ?_
      rintro _ _ _ ⟨rfl, rfl, rfl⟩
      refine secures_quiet (fun _ _ => id) fun _ => secures_quiet (fun _ _ => id) fun _ => ?_
      refine secures_quiet (fun _ _ => id) fun _ => secures_resolved ?_
      refine ⟨_, rfl, rfl, rfl, _, ?_, .tidied⟩
      simp only [note_asked, List.append_assoc]
      rfl
  · refine secures_prepared (fun steps written takes => ?_) fun failure => ?_
    · exact absurd ⟨steps, written, takes⟩ prepared
    · exact ⟨failure, rfl, rfl, rfl, [], (List.append_nil _).symm, .unprepared prepared⟩

/-- With the exchanges before and after it, it is what a miss leads to. -/
theorem secures_buildAndLoad_gone (root : session.member.isRoot = true)
    (owned : session.coordinator = some coordinator) (gone : coordinator.dead = true)
    (kernel : Kernel) :
    Secures dialogue (buildAndLoad kernel) (fun outcome later last => ∃ failure,
        outcome = .error failure ∧ Inert session kernel line failure later last)
      session (line.note (line.misses kernel)) := by
  have begins : Secures dialogue (do if (← get).member.isRoot then build kernel else return ())
      (fun outcome later last => ∃ failure, outcome = .error failure ∧
        Inert session kernel (line.note (line.misses kernel)) failure later last)
      session (line.note (line.misses kernel)) := by
    refine Secures.get ?_
    rw [if_pos root]
    exact secures_build_gone owned gone kernel
  refine secures_observing _ begins ?_
  rintro _ later last ⟨failure, rfl, built⟩
  refine Secures.bind (fun outcome final further => outcome = .error failure ∧ final = later ∧
    ∃ answer, further = last.note ⟨.combine true, answer⟩) (secures_agree trivial ?_)
    (fun _ _ _ ⟨ok, _⟩ => nomatch ok) ?_
  · rintro anyFailed _ ⟨-, rfl⟩
    exact ⟨rfl, rfl, anyFailed, rfl⟩
  · rintro _ _ _ ⟨⟨⟩, rfl, answer, rfl⟩
    obtain ⟨events, asked, futile⟩ := built.futile
    refine ⟨failure, rfl, built.stays, built.handed,
      line.misses kernel :: events ++ [⟨.combine true, answer⟩], ?_, futile.between _ _ _ _⟩
    rw [note_asked, asked, note_asked, List.append_assoc, List.append_assoc]
    rfl

/-- When all have the symbol, the exchange about it says so. -/
theorem misses_absent {symbol : KernelSymbol} {kernel : Kernel}
    (found : (line.opened.findSome? fun image => image.find? kernel.symbol) = some symbol) :
    ¬ line.asked ++ [line.misses kernel] <+:
      (line.note ⟨.combine (some symbol).isNone, false⟩).asked := by
  intro missed
  have last := (List.prefix_append_right_inj line.asked).mp missed
  rw [misses, found] at last
  cases (List.cons_prefix_cons.mp last).1

/-- **A lookup that misses**, by a root whose coordinator is dead, fails. -/
theorem secures_find_gone (poised : Poised owner session line) (root : session.member.isRoot = true)
    (owned : session.coordinator = some coordinator) (gone : coordinator.dead = true)
    (kernel : Kernel) :
    Secures dialogue (find kernel) (fun outcome later last =>
      line.asked ++ [line.misses kernel] <+: last.asked → ∃ failure, outcome = .error failure ∧
        Inert session kernel line failure later last) session line := by
  have resolves : session.cache.resolve? kernel.symbol =
      line.opened.findSome? fun image => image.find? kernel.symbol :=
    congrArg (List.findSome? _) poised.images
  refine Secures.get (Secures.ask trivial ?_)
  rintro anyoneMissed _ ⟨counts, rfl⟩
  rw [resolves] at counts ⊢
  have builds : anyoneMissed = true → Secures dialogue (do
        let symbol ← buildAndLoad kernel
        modify fun session => { session with cache := session.cache.remember kernel.hash symbol }
        return symbol)
      (fun outcome later last => line.asked ++ [line.misses kernel] <+: last.asked →
        ∃ failure, outcome = .error failure ∧ Inert session kernel line failure later last)
      session (line.note ⟨.combine (line.opened.findSome? fun image =>
        image.find? kernel.symbol).isNone, anyoneMissed⟩) := by
    rintro rfl
    refine Secures.bind _ (secures_buildAndLoad_gone root owned gone kernel)
      (fun _ _ _ ⟨_, ok, _⟩ => nomatch ok) ?_
    rintro _ _ _ ⟨_, ⟨⟩, built⟩ -
    exact ⟨_, rfl, built⟩
  cases found : line.opened.findSome? fun image => image.find? kernel.symbol with
  | none =>
    rw [found] at builds counts
    exact builds (counts rfl)
  | some symbol =>
    rw [found] at builds
    cases anyoneMissed with
    | true => exact builds rfl
    | false =>
      have remembers : Secures dialogue (do
          modify fun session => { session with cache := session.cache.remember kernel.hash symbol }
          return symbol)
          (fun outcome later last => line.asked ++ [line.misses kernel] <+: last.asked →
            ∃ failure, outcome = .error failure ∧ Inert session kernel line failure later last)
          session (line.note ⟨.combine (some symbol).isNone, false⟩) :=
        Secures.modify (Secures.pure fun missed => absurd missed (misses_absent found))
      exact remembers

end Line

namespace Session.Run

variable {ahead : Bool} {config : Config} {rank size : UInt32} {visits : List Visit}
  {session later : Session} {line last : Line} {kernel : Kernel}
  {outcome : Except Failure KernelSymbol}

/-- A run keeps its settings and its membership. -/
theorem origin {member : Member} (run : Run ahead config member visits session line) :
    session.member = member := by
  induction run with
  | created creates => exact ((fulfils_blank_create ahead config member _).yields creates _ rfl).1
  | lookup run kernel looks ih =>
    exact (congrArg Prod.snd ((leaves_lookup kernel).yields looks)).trans ih

/-- Before the library was looked at, nothing was handed over. -/
theorem handed_of_unprobed (run : Run ahead config (.ofRank rank size) visits session line)
    (unprobed : session.cache.probed = false) : line.handed = [] := by
  induction run with
  | created creates => exact ((fulfils_create ahead config rank size).yields creates _ rfl).2.1
  | lookup run kernel looks ih =>
    obtain ⟨poised, -, -⟩ := run.of_unprobed
    obtain ⟨-, -, -, unprobed'⟩ := (Line.secures_lookup poised kernel).yields looks
    obtain ⟨fresh, known⟩ := unprobed' unprobed
    obtain ⟨symbol, remembered⟩ := Option.ne_none_iff_exists'.mp known
    rw [run_lookup_remembered remembered] at looks
    cases looks
    exact ih fresh

/-- A command that was not acknowledged was the end of the coordinator, which belongs to rank zero. -/
theorem gone_of_broken (run : Run ahead config (.ofRank rank size) visits session line)
    (broken : ∃ entry ∈ line.handed, entry.2 ≠ .acknowledged) :
    session.member.isRoot = true ∧
      ∃ coordinator, session.coordinator = some coordinator ∧ coordinator.dead = true := by
  obtain ⟨entry, inside, fails⟩ := broken
  obtain ⟨poised, -, -⟩ := run.of_unprobed
  cases owned : session.coordinator with
  | none =>
    rw [handed_nil_of_none poised owned] at inside
    exact (List.not_mem_nil inside).elim
  | some coordinator =>
    have first : (rank == 0) = true := by
      rw [← poised.owned, owned]
      rfl
    refine ⟨run.origin ▸ first, coordinator, rfl, Bool.eq_false_imp_eq_true.mp fun alive => ?_⟩
    exact absurd ((poised.alive coordinator owned alive).2 entry inside) fails

end Session.Run

end KernelCache
