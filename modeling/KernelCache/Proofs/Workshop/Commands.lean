import KernelCache.Proofs.Session.Lockstep
import KernelCache.Proofs.Session.Steps
import KernelCache.Proofs.Workshop.Keeping

/-
**The root at work.**

The root hands commands over in order until one fails. Whichever fails, and however, the files keep
what they have to; when all succeed, the library has all that the new image has.

* `Tools.Suits`: settings, kernels and tools that fit one another.
* `Bench.Orderly`: every image that is installed was linked just before. `Bench.secures_callAll`
  carries from one task to the next what is known of an idle worker (`Bench.Settled`).
* **`Bench.secures_relink`** and **`Bench.secures_build`** are the two series of commands.
-/

namespace KernelCache

open KernelCache.Action

/-- Settings, kernels and tools that fit one another. -/
structure Tools.Suits (tools : Tools) (config : Config) (kernels : Kernel → Prop) : Prop where
  distinct : config.Distinct kernels
  keyed : Kernel.Keyed kernels
  reads : tools.Reads config kernels
  /-- An image that is opened exports what its file defines. -/
  exports : ∀ definitions image, tools.shows definitions image → ∀ name,
    (image.exports.lookup name).isSome ↔ ∃ definition ∈ definitions, definition.name = name

/-- Tools from tables fit, when no two tasks have one command. -/
theorem Tools.suits_tabled {config : Config} {kernels : Kernel → Prop}
    {sources : List (Bytes × List String)} {tasks : List Task} (distinct : config.Distinct kernels)
    (keyed : Kernel.Keyed kernels) (reads : (tabled config sources tasks).Reads config kernels) :
    (tabled config sources tasks).Suits config kernels where
  distinct := distinct
  keyed := keyed
  reads := reads
  exports definitions image shows name := by
    have shows : image.exports = exported sources definitions := shows
    rw [shows]
    exact isSome_lookup_exported

namespace Bench

open Session

variable {tools : Tools} {config : Config} {kernels : Kernel → Prop} {bench later : Bench}
  {kernel : Kernel}

/-! ### One task after the other -/

/-- The worker is idle, and the task was the last one that it has done. -/
def Settled (config : Config) (bench : Bench) : Option Task → Prop
  | none => True
  | some task => bench.working = none ∧ Finished config bench.shelf task

/-- The task installs nothing but the image that was linked before. -/
def Follows (before : Option Task) (task : Task) : Prop :=
  ∀ image library, task = .install image library → ∃ whole,
    before = some (.linkArchive whole image) ∨ before = some (.linkImage whole image)

/-- Every image that is installed was linked just before. -/
def Orderly : Option Task → List Task → Prop
  | _, [] => True
  | before, task :: rest => Follows before task ∧ Orderly (some task) rest

theorem orderly_relinkTasks (config : Config) : Orderly none config.relinkTasks := by
  refine ⟨fun _ _ same => (nomatch same), fun image library same => ?_, trivial⟩
  exact ⟨_, .inl (by rw [(Task.install.inj same).1])⟩

theorem orderly_buildTasks (config : Config) (kernel : Kernel) :
    Orderly none (config.buildTasks kernel) := by
  refine ⟨fun _ _ same => (nomatch same), fun _ _ same => (nomatch same),
    fun _ _ same => (nomatch same), fun image library same => ?_, trivial⟩
  exact ⟨_, .inr (by rw [(Task.install.inj same).1])⟩

/-- A task that follows what was done before does no harm, even when a command ends late. -/
theorem Settled.safe {before : Option Task} {task : Task} (settled : Settled config bench before)
    (follows : Follows before task) (late : Late tools bench later) :
    Safe config later.shelf task := by
  intro image library install
  obtain ⟨whole, linked⟩ := follows image library install
  rcases linked with rfl | rfl
  · obtain ⟨idle, fills⟩ := settled
    exact late.eq_of_idle idle ▸ fills
  · obtain ⟨idle, fills⟩ := settled
    exact late.eq_of_idle idle ▸ fills

theorem settled_none : Settled config bench none := trivial

theorem Settled.late {before : Option Task} (settled : Settled config bench before)
    (late : Late tools bench later) : Settled config later before := by
  cases before with
  | none => trivial
  | some task => exact late.eq_of_idle settled.1 ▸ settled

/-- A file besides the image and the library comes or goes. -/
theorem Settled.lay {image path : Path} {content : Option Artifact}
    (settled : Settled config bench (some (.install image config.layout.library)))
    (apart : image.components ≠ path.components)
    (library : config.layout.library.components ≠ path.components) :
    Settled config (bench.lay path content) (some (.install image config.layout.library)) := by
  obtain ⟨idle, installed⟩ := settled
  refine ⟨idle, fun definitions found definition inside => (offers_lay_of_ne library).mpr ?_⟩
  exact installed definitions ((find?_lay_of_ne apart).symm.trans found) definition inside

section

variable (suits : tools.Suits config kernels)
include suits

/-- An exchange of a member that is alone. -/
theorem secures_combine {α : Type} {flag : Bool} {next : Bool → SessionM α} {session : Session}
    {post : Except Failure α → Session → Bench → Prop} (kept : Kept tools config kernels bench)
    (rest : ∀ last, Stays tools config kernels bench last →
      (∀ before, Settled config bench before → Settled config last before) →
        Secures (workplace tools true) (next flag) post session last) :
    Secures (workplace tools true) (liftM (Action.combine flag) >>= next) post session bench := by
  refine Secures.ask trivial ?_
  rintro anyFailed last ⟨_, late, same, rfl⟩
  have same : anyFailed = flag := same rfl
  rw [same]
  exact rest _ (kept.late suits.distinct suits.keyed late) fun _ settled => settled.late late

variable (listed : kernels kernel)
include listed

/-- A command of a task is handed over, if the worker is idle. -/
theorem secures_call {before : Option Task} {task : Task} {command : Bytes} (step : Step)
    (inside : task ∈ config.tasks kernel) (written : task.command config = .ok command)
    (kept : Kept tools config kernels bench) (settled : Settled config bench before)
    (follows : Follows before task) (coordinator : Coordinator) :
    Secures (workplace tools true) (Coordinator.call step command)
      (fun outcome _ last => Stays tools config kernels bench last ∧
        (outcome = .ok () → Settled config last (some task))) coordinator bench := by
  unfold Secures
  rw [Coordinator.run_call]
  cases coordinator.refusal? command with
  | some failure => exact ⟨kept.stays, fun same => nomatch same⟩
  | none =>
    refine ⟨trivial, ?_⟩
    rintro _ between ⟨_, late, rfl, rfl⟩
    have stays := kept.late suits.distinct suits.keyed late
    beta_reduce
    by_cases ready : between.word = Channel.readyWord
    · rw [if_pos ready]
      have idle := stays.kept.idle_of_ready ready
      refine ⟨trivial, ?_⟩
      rintro _ _ ⟨_, late', rfl⟩
      obtain rfl := late'.eq_of_idle idle
      refine ⟨trivial, ?_⟩
      rintro _ _ ⟨_, late', rfl⟩
      obtain rfl := late'.eq_of_idle idle
      refine ⟨trivial, ?_⟩
      rintro verdict last ⟨_, late', serves⟩
      obtain rfl := late'.eq_of_idle idle
      have safe : Safe config between.shelf task := settled.safe follows late
      have posted : Kept tools config kernels
          { between with buffer := command, word := Channel.callWord } :=
        stays.kept.congr rfl (List.Subset.refl _) (.inl idle)
      obtain ⟨stays', done⟩ := posted.served suits.distinct suits.keyed listed idle rfl inside
        (suits.reads kernel listed task inside command written) safe (serves_of_replies rfl serves)
      refine ⟨stays.trans ⟨stays'.kept, stays'.grows⟩, fun same => done ?_⟩
      cases verdict with
      | acknowledged => rfl
      | left code => exact (nomatch same)
      | exhausted exhausted => exact (nomatch same)
    · rw [if_neg ready]
      exact ⟨stays, fun same => nomatch same⟩

/-- **Tasks in order**, until one fails. -/
theorem secures_callAll {before : Option Task} {tasks : List Task} {steps : List (Step × Bytes)}
    (known : tasks ⊆ config.tasks kernel) (written : config.written tasks = .ok steps)
    (kept : Kept tools config kernels bench) (settled : Settled config bench before)
    (orderly : Orderly before tasks) (session : Session) :
    Secures (workplace tools true) (callAll steps) (fun outcome later last =>
        later.besides = session.besides ∧ Stays tools config kernels bench last ∧
          (outcome = .ok () → Settled config last (tasks.getLast?.or before)))
      session bench := by
  have each := Config.written_eq_ok_iff.mp written
  clear written
  induction each generalizing before session bench with
  | nil => exact Secures.pure ⟨rfl, kept.stays, fun _ => settled⟩
  | @cons task step rest steps here _ ih =>
    obtain ⟨follows, orderly⟩ := orderly
    obtain ⟨inside, known⟩ := List.cons_subset.mp known
    refine Secures.bind (fun outcome later last => later.besides = session.besides ∧
      Stays tools config kernels bench last ∧
        (outcome = .ok () → Settled config last (some task))) ?_ ?_ ?_
    · cases owned : session.coordinator with
      | none =>
        exact secures_onCoordinator_none owned ⟨rfl, kept.stays, fun same => nomatch same⟩
      | some coordinator =>
        have calls := secures_call suits listed step.1 inside here.2 kept settled follows coordinator
        exact secures_onCoordinator owned calls fun _ _ _ called => ⟨rfl, called⟩
    · rintro _ later last ⟨besides, stays, done⟩
      refine (ih known stays.kept (done rfl) orderly later).mono ?_
      rintro outcome final past ⟨besides', stays', done'⟩
      refine ⟨besides'.trans besides, stays.trans stays', fun same => ?_⟩
      have settled := done' same
      rw [List.getLast?_cons]
      cases last : rest.getLast? with
      | none => rw [last] at settled; exact settled
      | some final => rw [last] at settled; exact settled
    · exact fun _ _ _ ⟨besides, stays, _⟩ => ⟨besides, stays, fun same => nomatch same⟩

/-! ### The two series of commands -/

/-- A file in between is removed, or stays. -/
theorem secures_remove {α : Type} {path : Path} {next : Unit → SessionM α} {session : Session}
    {post : Except Failure α → Session → Bench → Prop} (kept : Kept tools config kernels bench)
    (place : path ∈ config.removable kernel)
    (rest : ∀ last, Stays tools config kernels bench last →
      (∀ image, image.components ≠ path.components →
        Settled config bench (some (.install image config.layout.library)) →
          Settled config last (some (.install image config.layout.library))) →
        Secures (workplace tools true) (next ()) post session last) :
    Secures (workplace tools true) (liftM (Action.remove path) >>= next) post session bench := by
  refine Secures.ask trivial ?_
  rintro _ last ⟨between, late, removed⟩
  have stays := kept.late suits.distinct suits.keyed late
  rcases removed with rfl | rfl
  · exact rest _ stays fun _ _ settled => settled.late late
  · have cleared := stays.kept.cleared suits.distinct listed place (.inl rfl)
    exact rest _ (stays.trans cleared) fun _ apart settled =>
      (settled.late late).lay apart (suits.distinct.library_ne listed place)

/-- What a series of commands leads to; when all succeed, the library has all that the image has. -/
def Restocked (tools : Tools) (config : Config) (kernels : Kernel → Prop) (session : Session)
    (bench : Bench) (image : Path) (succeeded : Prop) (later : Session) (last : Bench) : Prop :=
  later.besides = session.besides ∧ Stays tools config kernels bench last ∧
    (succeeded → Settled config last (some (.install image config.layout.library)))

/-- **The library is restored** from the archive, if there is one. -/
theorem secures_relink {session : Session} (settings : session.config = config)
    (kept : Kept tools config kernels bench) :
    Secures (workplace tools true) relink (fun outcome => Restocked tools config kernels session
      bench config.layout.relinked (outcome = .ok true)) session bench := by
  subst settings
  refine Secures.get (Secures.ask trivial ?_)
  rintro present _ ⟨_, late, -, rfl⟩
  have stays := kept.late suits.distinct suits.keyed late
  split
  · refine secures_prepared (fun steps written _ => ?_)
      fun _ => ⟨rfl, stays, fun same => nomatch same⟩
    have calls := secures_callAll suits listed (List.subset_append_left _ _)
      ((Config.relinkSteps_eq _).symm.trans written) stays.kept settled_none (orderly_relinkTasks _)
      session
    refine secures_observing _ calls ?_
    rintro outcome later last ⟨besides, stays', done⟩
    cases outcome with
    | ok value => exact ⟨besides, stays.trans stays', fun _ => done rfl⟩
    | error failure =>
      refine secures_remove suits listed stays'.kept Config.relinked_mem fun final stays'' _ => ?_
      exact ⟨besides, stays.trans (stays'.trans stays''), fun same => nomatch same⟩
  · exact Secures.pure ⟨rfl, stays, fun same => nomatch Except.ok.inj same⟩

/-- **A kernel is built**, up to its image in the place of the library. -/
theorem secures_build {session : Session} (settings : session.config = config)
    (kept : Kept tools config kernels bench) :
    Secures (workplace tools true) (build kernel) (fun outcome => Restocked tools config kernels
      session bench (config.layout.image kernel) (outcome = .ok ())) session bench := by
  subst settings
  refine Secures.get (secures_prepared (fun steps written _ => ?_)
    fun _ => ⟨rfl, kept.stays, fun same => nomatch same⟩)
  refine Secures.ask trivial ?_
  rintro (fault | value) last ⟨between, late, wrote⟩
  · have stays := kept.late suits.distinct suits.keyed late
    refine Secures.throw ⟨rfl, ?_, fun same => nomatch same⟩
    rcases wrote with rfl | rfl | rfl
    · exact stays
    · exact stays.trans (stays.kept.cleared suits.distinct listed Config.source_mem (.inl rfl))
    · exact stays.trans (stays.kept.cleared suits.distinct listed Config.source_mem (.inr rfl))
  · obtain rfl := wrote
    have stays := kept.late suits.distinct suits.keyed late
    have stays := stays.trans (stays.kept.written suits.distinct suits.keyed listed)
    have calls := secures_callAll suits listed (List.subset_append_right _ _)
      ((Config.buildSteps_eq _ _).symm.trans written) stays.kept settled_none
      (orderly_buildTasks _ _)
      session
    refine secures_observing _ calls ?_
    rintro outcome later last ⟨besides, stays', done⟩
    refine secures_remove suits listed stays'.kept Config.source_mem fun last' first keeps => ?_
    refine secures_remove suits listed first.kept Config.object_mem fun last'' second keeps' => ?_
    have stays := stays.trans (stays'.trans (first.trans second))
    cases outcome with
    | ok value =>
      refine ⟨besides, stays, fun _ => keeps' _ ?_ (keeps _ ?_ (done rfl))⟩
      · exact (session.config.object_ne_image kernel kernel).symm
      · exact (suits.distinct.source_ne_image listed kernel).symm
    | error failure =>
      refine secures_remove suits listed second.kept Config.image_mem fun final third _ => ?_
      exact ⟨besides, stays.trans third, fun same => nomatch same⟩

end

end Bench

end KernelCache
