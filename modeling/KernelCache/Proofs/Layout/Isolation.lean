import KernelCache.Proofs.Layout.Places
import KernelCache.Proofs.Session.Questions

/-
**The archive and the library are left alone.**

Settings whose places are apart keep the two files that persist: no step of a lookup writes or
removes one of them by itself, and of the commands only the archiver has the archive as its target,
and only the installer the library.

* `Config.Spares`: the questions that leave the archive and the library alone.
* **`Config.lookups_spare`**: whatever a member looks up, under separated settings it asks nothing
  else.
* **`Config.files_isolated`**: so it is exactly when the settings are separated.
* `Config.accepted_places_collide`: accepted settings under which the source of a kernel is its image.
-/

namespace KernelCache

open KernelCache.Action

namespace Config

/-- A path that leads neither to the archive nor to the library. -/
def Aside (config : Config) (path : Path) : Prop :=
  path.same config.layout.archive = false ∧ path.same config.layout.library = false

/-- The questions that leave the archive and the library to the archiver and the installer. -/
def Spares (config : Config) : Effect → Prop
  | .writeSource path _ => config.Aside path
  | .remove path => config.Aside path
  | .fill command => ∃ task : Task, task.command config = .ok command ∧
      (task.target.same config.layout.archive = true → task.step = .archive) ∧
      (task.target.same config.layout.library = true → task.step = .install)
  | _ => True

/-- All questions leave the archive and the library alone, however they are answered. -/
def sparing (config : Config) : Contract Unit where
  asks _ effect := config.Spares effect
  answers _ _ _ _ := True

variable {config : Config} {kernel : Kernel}

/-- The files of a kernel's build keep apart. -/
def Apart (config : Config) (kernel : Kernel) : Prop :=
  (config.places kernel).Pairwise fun first second => first.same second = false

theorem same_comm (first second : Path) : first.same second = second.same first :=
  BEq.comm

/-- The files that come and go are not the archive and not the library. -/
theorem aside_of_apart (apart : config.Apart kernel)
    {path : Path} (transient : path ∈ [config.layout.relinked, config.sourceFile kernel,
      config.layout.object kernel, config.layout.image kernel]) : config.Aside path := by
  obtain ⟨archive, others⟩ := List.pairwise_cons.mp apart
  obtain ⟨library, -⟩ := List.pairwise_cons.mp others
  rw [Aside, same_comm path, same_comm path]
  exact ⟨archive path (List.mem_cons_of_mem _ transient), library path transient⟩

/-- Among the tasks of a lookup, only one that updates the archive has it as its target, and only
one that installs has the library. -/
theorem target_of_mem_tasks (apart : config.Apart kernel)
    {task : Task} (listed : task ∈ config.tasks kernel) :
    (task.target.same config.layout.archive = true → task.step = .archive) ∧
      (task.target.same config.layout.library = true → task.step = .install) := by
  have distinct : config.layout.archive.same config.layout.library = false :=
    (List.pairwise_cons.mp apart).1 _ List.mem_cons_self
  have aside : ∀ {target : Path} {step : Step}, config.Aside target →
      (target.same config.layout.archive = true → step = .archive) ∧
        (target.same config.layout.library = true → step = .install) := by
    intro target step ⟨archive, library⟩
    rw [archive, library]
    exact ⟨fun same => (nomatch same), fun same => (nomatch same)⟩
  have installed : (config.layout.library.same config.layout.archive = true →
      Step.install = .archive) ∧
        (config.layout.library.same config.layout.library = true → Step.install = .install) := by
    rw [same_comm, distinct]
    exact ⟨fun same => (nomatch same), fun _ => rfl⟩
  simp only [tasks, relinkTasks, buildTasks, List.cons_append, List.nil_append, List.mem_cons,
    List.not_mem_nil, or_false] at listed
  rcases listed with rfl | rfl | rfl | rfl | rfl | rfl
  · exact aside (aside_of_apart apart (by simp [Task.target]))
  · exact installed
  · exact aside (aside_of_apart apart (by simp [Task.target]))
  · exact ⟨fun _ => rfl, fun same => (nomatch distinct.symm.trans same)⟩
  · exact aside (aside_of_apart apart (by simp [Task.target]))
  · exact installed

/-- What a lookup asks leaves the archive and the library alone. -/
theorem spares_of_asks (apart : config.Apart kernel)
    {effect : Effect} (asked : Session.Asks config kernel effect) : config.Spares effect := by
  cases effect with
  | fill command =>
    obtain ⟨task, listed, written⟩ := asked
    exact ⟨task, written, target_of_mem_tasks apart listed⟩
  | writeSource path text =>
    have same : path = config.sourceFile kernel := asked.1
    rw [same]
    exact aside_of_apart apart (List.mem_cons_of_mem _ List.mem_cons_self)
  | remove path => exact aside_of_apart apart asked
  | _ => trivial

/-- Every symbol was found in some image. -/
theorem vouched_of_layout {session : Session}
    (layout : session.cache.layout = session.config.layout) :
    Session.Vouched (fun _ => True) (fun _ => True) session where
  layout := layout
  images _ _ := trivial
  memo hash symbol _ := by
    let image : Image := ⟨symbol.image, [(Image.plainName "", symbol.entry)]⟩
    have shows : image.find? "" = some symbol := by
      show ((List.lookup _ [_]).map _) = _
      rw [List.lookup_cons, beq_self_eq_true]
      rfl
    exact ⟨⟨hash, "", ""⟩, trivial, rfl, image, trivial, shows⟩

theorem lookup_spares {session : Session} (apart : config.Apart kernel)
    (settings : session.config = config) (layout : session.cache.layout = config.layout) :
    ((Session.lookup kernel).run.run session).Fulfils config.sparing
      (fun result _ => result.2.config = config ∧ result.2.cache.layout = config.layout) () := by
  subst settings
  have asks : Secures (Session.questions session.config kernel fun _ => True)
      (Session.lookup kernel) _ session () :=
    Session.secures_lookup trivial (vouched_of_layout layout)
  refine Fulfils.mono ?_
    (asks.weaken (fun _ _ => spares_of_asks apart) fun _ _ _ _ _ _ _ => trivial)
  rintro result _ ⟨⟨config, vouched⟩, -⟩
  exact ⟨config, config ▸ vouched.layout⟩

theorem lookups_spare (kernels : List Kernel) {session : Session}
    (apart : ∀ kernel ∈ kernels, config.Apart kernel)
    (settings : session.config = config) (layout : session.cache.layout = config.layout) :
    (Session.lookups kernels session).Fulfils config.sparing (fun _ _ => True) () := by
  induction kernels generalizing session with
  | nil => trivial
  | cons kernel rest ih =>
    obtain ⟨here, behind⟩ := List.forall_mem_cons.mp apart
    refine Fulfils.bind ((lookup_spares here settings layout).counted 0) fun result _ kept => ?_
    exact Fulfils.bind (ih behind kept.1 kept.2) fun _ _ _ => trivial

/-- **The files of a cache are isolated.** Accepted settings, whose extension has no slash, keep the
places of a kernel apart, each directly under the cache directory, exactly if they are separated;
and whatever a member then looks up in a run, only the archiver has the archive as its target, and
only the installer the library. -/
theorem files_isolated (accepted : config.validate = .ok ())
    (extension : '/' ∉ config.toolchain.sourceExtension.toList) :
    (∀ kernel, config.Apart kernel ∧
        (∀ path ∈ config.places kernel, Path.IsChild config.cacheDir path) ↔
      config.Separated kernel) ∧
    ∀ kernels member coordinator, (∀ kernel ∈ kernels, config.Separated kernel) →
      (Session.lookups kernels (Session.assemble config member coordinator)).Fulfils config.sparing
        (fun _ _ => True) () := by
  refine ⟨fun kernel => places_apart_iff accepted extension,
    fun kernels member coordinator each => ?_⟩
  refine lookups_spare kernels (fun kernel listed => ?_) rfl rfl
  exact ((places_apart_iff accepted extension).mpr (each kernel listed)).1

/-- The default settings, for a kernel with the hash one. -/
theorem files_isolated_default :
    let config : Config := {}
    let kernel : Kernel := ⟨1, "f", "int f(void){return 1;}"⟩
    (config.Apart kernel ∧ ∀ path ∈ config.places kernel, Path.IsChild config.cacheDir path) ∧
      (Session.lookups [kernel]
        (Session.assemble config .alone (some { policy := config.poll.policy }))).Fulfils
        config.sparing (fun _ _ => True) () := by
  intro config kernel
  have separated : config.Separated kernel := by decide
  obtain ⟨places, spares⟩ := @files_isolated config (by decide) (by decide)
  exact ⟨(places kernel).mpr separated,
    spares [kernel] _ _ (List.forall_mem_singleton.mpr separated)⟩

/-- Accepted settings under which the source of every kernel is its image, and others under which
the image of a kernel is the library. -/
theorem accepted_places_collide :
    (∃ config : Config, config.validate = .ok () ∧
      ∀ kernel, (config.sourceFile kernel).same (config.layout.image kernel) = true) ∧
    ∃ config : Config, config.validate = .ok () ∧
      (config.layout.image ⟨1, "f", ""⟩).same config.layout.library = true := by
  refine ⟨⟨{ toolchain := { sourceExtension := "so" } }, by decide, fun kernel => ?_⟩,
    ⟨{ libraryName := "k0000000000000001.so" }, by decide, by decide⟩⟩
  exact beq_self_eq_true _

end Config

end KernelCache
