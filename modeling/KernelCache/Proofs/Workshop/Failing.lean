import KernelCache.Proofs.Session.Questions
import KernelCache.Proofs.Workshop.History

/-
**A build that fails.**

A build hands its commands over in order, and each changes one file when it succeeds. Where a command
that fails leaves its target as it was, a build that fails has changed neither the library nor any
member of the archive but the kernel's own.

* `Bench.careful` is the contract of such a worker, `Bench.Performed` says that some tasks succeeded,
  one after the other, and `Bench.Performed.find?_of_ne` that nothing else has changed.
* `Bench.Careful.secures_callAll`: of the tasks that are handed over, those before the first that
  fails were performed.
* `Session.approach` is a lookup up to the build (`Session.lookup_eq`); it may restore the library
  (`Bench.Mended`).
* **`Bench.failed_build_spares`**: what is left of the files when a build fails, and
  **`Bench.Balking.leaves_member`**: the kernel's own member may be left in the archive.
-/

namespace KernelCache

open KernelCache.Action

/-- The step that has failed, where the failure tells it. -/
def Failure.step? : Failure → Option Step
  | .build step _ _ | .io step _ => some step
  | _ => none

/-- A refusal tells no step. -/
theorem Coordinator.step?_of_refusal? {coordinator : Coordinator} {command : Bytes}
    {failure : Failure} (refused : coordinator.refusal? command = some failure) :
    failure.step? = none := by
  unfold refusal? unfit? at refused
  split at refused
  · exact Option.some.inj refused ▸ rfl
  · split at refused
    · split at refused
      · exact (nomatch refused)
      · exact Option.some.inj refused ▸ rfl
    · exact Option.some.inj refused ▸ rfl

/-! ### A lookup up to the build -/

namespace Session

/-- The images are searched; what all members find is remembered. -/
def search (kernel : Kernel) : SessionM (Option KernelSymbol) := do
  let found := (← get).cache.resolve? kernel.symbol
  let anyoneMissed ← Action.combine found.isNone
  match found, anyoneMissed with
  | some symbol, false =>
    modify fun session => { session with cache := session.cache.remember kernel.hash symbol }
    return some symbol
  | _, _ => return none

/-- A lookup up to the build: what is remembered, or found by all members. -/
def approach (kernel : Kernel) : SessionM (Option KernelSymbol) := do
  match (← get).cache.remembered? kernel.hash with
  | some symbol => return some symbol
  | none =>
    if !(← get).cache.probed then probeLibrary
    search kernel

/-- The rest of a lookup: the kernel is built and remembered, if it is still needed. -/
def construct (kernel : Kernel) : Option KernelSymbol → SessionM KernelSymbol
  | some symbol => return symbol
  | none => do
    let symbol ← buildAndLoad kernel
    modify fun session => { session with cache := session.cache.remember kernel.hash symbol }
    return symbol

theorem find_eq (kernel : Kernel) : find kernel = search kernel >>= construct kernel := by
  unfold find search
  simp only [bind_assoc]
  refine congrArg _ (funext fun session => congrArg _ (funext fun (anyoneMissed : Bool) => ?_))
  cases session.cache.resolve? kernel.symbol with
  | none => rfl
  | some symbol =>
    cases anyoneMissed with
    | true => rfl
    | false => simp [construct]

/-- **A lookup builds the kernel** when it was neither remembered nor found. -/
theorem lookup_eq (kernel : Kernel) : lookup kernel = approach kernel >>= construct kernel := by
  unfold lookup approach
  rw [bind_assoc]
  refine congrArg _ (funext fun session => ?_)
  cases session.cache.remembered? kernel.hash with
  | some symbol => rfl
  | none =>
    simp only [bind_assoc]
    refine congrArg _ (funext fun session => ?_)
    cases session.cache.probed with
    | true => exact find_eq kernel
    | false => simp [find_eq]

/-- Up to the build, a lookup leaves the settings and the membership as they are. -/
theorem leaves_approach (kernel : Kernel) : Leaves origin (approach kernel) := by
  have searches : Leaves origin (search kernel) := by
    refine .get fun session => .bind (.perform _) fun (anyoneMissed : Bool) => ?_
    cases session.cache.resolve? kernel.symbol with
    | none => exact .pure _
    | some symbol =>
      cases anyoneMissed with
      | true => exact .pure _
      | false => exact .bind (.modify fun _ => rfl) fun _ => .pure _
  refine .get fun session => ?_
  cases session.cache.remembered? kernel.hash with
  | some symbol => exact .pure _
  | none =>
    refine .get fun session => ?_
    cases session.cache.probed with
    | true => exact searches
    | false => exact .bind leaves_probeLibrary fun _ => searches

end Session

/-! ### What is left of the files -/

namespace Artifact

/-- The members of an archive besides the one under a name; without an archive there are none. -/
def others? (name : Bytes) : Option Artifact → Option (List (Bytes × List Definition))
  | none => some []
  | some (.archive members) => some (members.filter fun member => member.1 ≠ name)
  | some _ => none

/-- All members of an archive besides the one under a name are as before, and no other has come
in. -/
def Spared (name : Bytes) (before after : Option Artifact) : Prop :=
  after = before ∨ (∃ members, after = some (.archive members)) ∧ others? name after = others? name before

theorem Spared.trans {name : Bytes} {before between after : Option Artifact}
    (first : Spared name before between) (second : Spared name between after) :
    Spared name before after := by
  rcases second with rfl | ⟨archive, same⟩
  · exact first
  · rcases first with rfl | ⟨-, same'⟩
    · exact .inr ⟨archive, same⟩
    · exact .inr ⟨archive, same.trans same'⟩

/-- An object that enters the archive spares the others. -/
theorem spared_archived {name : Bytes} {object whole : Option Artifact} {content : Artifact}
    (made : archived? name object whole = some content) : Spared name whole (some content) := by
  obtain ⟨definitions, members, -, before, rfl⟩ := archived?_eq_some made
  have rest : others? name (some (.archive (enter members name definitions))) =
      some (members.filter fun member => member.1 ≠ name) := by
    simp [others?, enter]
  refine .inr ⟨⟨_, rfl⟩, rest.trans ?_⟩
  rcases before with ⟨rfl, rfl⟩ | rfl
  · rfl
  · rfl

end Artifact

/-- Before the library is installed, a build makes files in between, and changes the archive. -/
theorem Config.target_of_uninstalled {config : Config} {kernel : Kernel} {task : Task}
    (inside : task ∈ (config.buildTasks kernel).dropLast) :
    task.target ∈ config.removable kernel ∨
      task = .archive config.layout.archive (config.layout.object kernel) := by
  have listed : task = .compile (config.sourceFile kernel) (config.layout.object kernel) ∨
      task = .archive config.layout.archive (config.layout.object kernel) ∨
      task = .linkImage config.layout.archive (config.layout.image kernel) := by
    simpa [buildTasks] using inside
  rcases listed with rfl | same | rfl
  · left
    rw [Task.target]
    exact object_mem
  · exact .inr same
  · left
    rw [Task.target]
    exact image_mem

/-- Before the image is linked, a build has put at most the object in its place. -/
theorem Config.target_of_early {config : Config} {kernel : Kernel} {front rest : List Task}
    {task : Task} (split : config.buildTasks kernel = front ++ task :: rest)
    (unlinked : task.step ≠ .linkImage) (uninstalled : task.step ≠ .install) :
    ∀ done ∈ front, done.target ∈ config.removable kernel := by
  rcases front with - | ⟨first, - | ⟨second, front⟩⟩
  · exact nofun
  · obtain ⟨rfl, -⟩ := List.cons.inj split
    intro done inside
    rw [List.mem_singleton.mp inside, Task.target]
    exact object_mem
  · have late : task ∈ [.linkImage config.layout.archive (config.layout.image kernel),
        .install (config.layout.image kernel) config.layout.library] := by
      rw [(List.cons.inj (List.cons.inj split).2).2]
      exact List.mem_append_right _ List.mem_cons_self
    rcases List.mem_cons.mp late with rfl | last
    · exact absurd rfl unlinked
    · rw [List.mem_singleton.mp last] at uninstalled
      exact absurd rfl uninstalled

namespace Bench

open Session

variable {tools : Tools} {config : Config} {kernels : Kernel → Prop} {bench : Bench}
  {shelf later last : Shelf} {kernel : Kernel} {session : Session}

/-- Some tasks have succeeded, one after the other. -/
inductive Performed (tools : Tools) : Shelf → List Task → Shelf → Prop where
  | none (shelf : Shelf) : Performed tools shelf [] shelf
  | next {shelf last : Shelf} {task : Task} {rest : List Task} {content : Artifact}
      (made : task.made? tools shelf = some content)
      (others : Performed tools (shelf.put task.target (some content)) rest last) :
      Performed tools shelf (task :: rest) last

namespace Performed

variable {tasks : List Task}

/-- **Only the targets of the tasks change.** -/
theorem find?_of_ne {path : Path} (performed : Performed tools shelf tasks last)
    (apart : ∀ task ∈ tasks, path.components ≠ task.target.components) :
    last.find? path = shelf.find? path := by
  induction performed with
  | none => rfl
  | next made others ih =>
    obtain ⟨here, behind⟩ := List.forall_mem_cons.mp apart
    exact (ih behind).trans (Shelf.find?_put_of_ne here)

/-- The archive, when one task after the other spares its members. -/
theorem spared {path : Path} {name : Bytes} (performed : Performed tools shelf tasks last)
    (spares : ∀ task ∈ tasks, path.components ≠ task.target.components ∨
      ∃ object, task = .archive path object ∧ object.fileName?.getD [] = name) :
    Artifact.Spared name (shelf.find? path) (last.find? path) := by
  induction performed with
  | none => exact .inl rfl
  | @next shelf last task rest content made others ih =>
    obtain ⟨here, behind⟩ := List.forall_mem_cons.mp spares
    refine .trans ?_ (ih behind)
    rcases here with apart | ⟨object, rfl, rfl⟩
    · exact .inl (Shelf.find?_put_of_ne apart)
    · have filed : (shelf.put path (some content)).find? path = some content :=
        Shelf.find?_put_same rfl
      exact filed.symm ▸ Artifact.spared_archived made

/-- The library is restored from the archive. -/
theorem restored {archive image library : Path}
    (performed : Performed tools shelf [.linkArchive archive image, .install image library] last) :
    ∃ content, Artifact.linked? (shelf.find? archive) = some content ∧
      last.find? library = some content := by
  cases performed with
  | @next _ _ _ _ content linked others =>
    cases others with
    | @next _ _ _ _ content' copied others =>
      cases others
      obtain ⟨members, whole, rfl⟩ := Artifact.linked?_eq_some linked
      have there : (shelf.put image (some (.image (members.flatMap (·.2))))).find? image =
          some (.image (members.flatMap (·.2))) := Shelf.find?_put_same rfl
      have same := (congrArg Artifact.installed? there).symm.trans copied
      exact ⟨_, linked, (Shelf.find?_put_same rfl).trans same.symm⟩

end Performed

/-- At most files in between have come or gone. -/
def Alike (config : Config) (kernel : Kernel) (before after : Shelf) : Prop :=
  ∀ path : Path, (∀ place ∈ config.removable kernel, path.components ≠ place.components) →
    after.find? path = before.find? path

namespace Alike

theorem of_same {place : Path} (between : place ∈ config.removable kernel)
    (same : ∀ path : Path, path.components ≠ place.components →
      later.find? path = shelf.find? path) : Alike config kernel shelf later :=
  fun path apart => same path (apart place between)

theorem trans (first : Alike config kernel shelf later) (second : Alike config kernel later last) :
    Alike config kernel shelf last :=
  fun path apart => (second path apart).trans (first path apart)

variable (distinct : config.Distinct kernels) (listed : kernels kernel)
  (alike : Alike config kernel shelf later)
include distinct listed alike

theorem archive : later.find? config.layout.archive = shelf.find? config.layout.archive :=
  alike _ fun _ => distinct.archive_ne listed

theorem library : later.find? config.layout.library = shelf.find? config.layout.library :=
  alike _ fun _ => distinct.library_ne listed

end Alike

/-- The archive is as before, and so is the library, unless it was restored from the archive. -/
structure Mended (config : Config) (mayRestore : Prop) (before after : Shelf) : Prop where
  archive : after.find? config.layout.archive = before.find? config.layout.archive
  library : after.find? config.layout.library = before.find? config.layout.library ∨
    mayRestore ∧ ∃ content,
      Artifact.linked? (before.find? config.layout.archive) = some content ∧
      after.find? config.layout.library = some content

namespace Mended

variable {first second : Prop}

theorem refl (shelf : Shelf) : Mended config first shelf shelf := ⟨rfl, .inl rfl⟩

theorem mono (implied : first → second) (mended : Mended config first shelf later) :
    Mended config second shelf later :=
  ⟨mended.archive, mended.library.imp_right fun restored => ⟨implied restored.1, restored.2⟩⟩

theorem trans (before : Mended config first shelf later) (after : Mended config first later last) :
    Mended config first shelf last where
  archive := after.archive.trans before.archive
  library := by
    rcases after.library with same | ⟨may, content, linked, restored⟩
    · rw [same]
      exact before.library
    · rw [before.archive] at linked
      exact .inr ⟨may, content, linked, restored⟩

theorem of_alike (distinct : config.Distinct kernels) (listed : kernels kernel)
    (alike : Alike config kernel shelf later) : Mended config first shelf later :=
  ⟨alike.archive distinct listed, .inl (alike.library distinct listed)⟩

end Mended

/-- What a build leaves that fails: the library, the members of other kernels in the archive, and
the whole archive unless the image could not be linked or installed. -/
structure Spares (config : Config) (kernel : Kernel) (failure : Failure) (before after : Shelf) :
    Prop where
  library : after.find? config.layout.library = before.find? config.layout.library
  archive : Artifact.Spared ((config.layout.object kernel).fileName?.getD [])
    (before.find? config.layout.archive) (after.find? config.layout.archive)
  early : ∀ step ∈ failure.step?, step ≠ .linkImage → step ≠ .install →
    after.find? config.layout.archive = before.find? config.layout.archive

theorem Spares.of_alike {failure : Failure} (distinct : config.Distinct kernels)
    (listed : kernels kernel) (alike : Alike config kernel shelf later) :
    Spares config kernel failure shelf later :=
  ⟨alike.library distinct listed, .inl (alike.archive distinct listed),
    fun _ _ _ _ => alike.archive distinct listed⟩

/-- Files in between may come and go before and after. -/
theorem Spares.between {failure : Failure} {first final : Shelf} (distinct : config.Distinct kernels)
    (listed : kernels kernel) (before : Alike config kernel first shelf)
    (spares : Spares config kernel failure shelf later) (after : Alike config kernel later final) :
    Spares config kernel failure first final := by
  have archive := before.archive distinct listed
  have archive' := after.archive distinct listed
  constructor
  case library =>
    rw [after.library distinct listed, spares.library, before.library distinct listed]
  case archive =>
    rw [archive', ← archive]
    exact spares.archive
  case early =>
    rw [archive', ← archive]
    exact spares.early

/-! ### A worker that fails cleanly -/

/-- What a question may be answered, where a command that is not acknowledged has changed no file. -/
def Steady (tools : Tools) (bench : Bench) :
    (effect : Effect) → effect.Reply → Bench → Prop
  | .await policy, verdict, later => Replies tools false bench (.await policy) verdict later ∧
      (verdict ≠ .acknowledged → later.shelf = bench.shelf)
  | effect, reply, later => Replies tools false bench effect reply later

/-- Any question may be asked. The loader may fail, and so may a command; one that nobody waits for
any longer has failed. -/
def careful (tools : Tools) : Contract Bench where
  asks _ _ := True
  answers := Steady tools

namespace Careful

/-- What the call of a task comes to. -/
def Called (tools : Tools) (task : Task) (shelf : Shelf) : Except Failure Unit → Shelf → Prop
  | .ok _, last => ∃ content, task.made? tools shelf = some content ∧
      last = shelf.put task.target (some content)
  | .error failure, last => last = shelf ∧ ∀ step ∈ failure.step?, step = task.step

theorem secures_call {task : Task} {step : Step} {command : Bytes} (fits : step = task.step)
    (reads : tools.reads command = some task) (coordinator : Coordinator) :
    Secures (careful tools) (Coordinator.call step command)
      (fun outcome _ last => Called tools task bench.shelf outcome last.shelf) coordinator bench := by
  subst fits
  unfold Secures
  rw [Coordinator.run_call]
  cases refused : coordinator.refusal? command with
  | some failure => exact ⟨rfl, fun step told => nomatch (Coordinator.step?_of_refusal? refused) ▸ told⟩
  | none =>
    refine ⟨trivial, ?_⟩
    rintro _ idle ⟨rfl, rfl⟩
    beta_reduce
    by_cases ready : idle.word = Channel.readyWord
    · rw [if_pos ready]
      refine ⟨trivial, ?_⟩
      rintro _ _ rfl
      refine ⟨trivial, ?_⟩
      rintro _ _ rfl
      refine ⟨trivial, ?_⟩
      rintro verdict last ⟨replies, clean⟩
      cases verdict with
      | acknowledged =>
        obtain ⟨task', content, reads', made, rfl⟩ := serves_of_replies rfl replies
        obtain rfl := Option.some.inj (reads.symm.trans reads')
        exact ⟨content, made, rfl⟩
      | left code =>
        exact ⟨clean nofun, fun step told => (Option.mem_some.mp told).symm⟩
      | exhausted exhausted => exact ⟨clean nofun, fun _ told => nomatch told⟩
    · rw [if_neg ready]
      exact ⟨rfl, fun _ told => nomatch told⟩

/-- What tasks in order come to: when one fails, those before it have succeeded. -/
def Begun (tools : Tools) (tasks : List Task) (shelf : Shelf) : Except Failure Unit → Shelf → Prop
  | .ok _, last => Performed tools shelf tasks last
  | .error failure, last => ∃ front task rest, tasks = front ++ task :: rest ∧
      Performed tools shelf front last ∧ ∀ step ∈ failure.step?, step = task.step

/-- **Tasks in order**, until one fails. -/
theorem secures_callAll {tasks : List Task} {steps : List (Step × Bytes)}
    (reads : ∀ task ∈ tasks, ∀ command, task.command config = .ok command →
      tools.reads command = some task)
    (written : config.written tasks = .ok steps) (session : Session) :
    Secures (careful tools) (callAll steps) (fun outcome later last =>
        later.besides = session.besides ∧ Begun tools tasks bench.shelf outcome last.shelf)
      session bench := by
  have each := Config.written_eq_ok_iff.mp written
  clear written
  induction each generalizing session bench with
  | nil => exact Secures.pure ⟨rfl, .none _⟩
  | @cons task step rest steps here _ ih =>
    obtain ⟨read, reads⟩ := List.forall_mem_cons.mp reads
    refine Secures.bind (fun outcome later last => later.besides = session.besides ∧
        Called tools task bench.shelf outcome last.shelf) ?_ ?_ ?_
    · cases owned : session.coordinator with
      | none =>
        refine secures_onCoordinator_none owned ⟨rfl, rfl, fun step told => ?_⟩
        split at told
        · exact (nomatch told)
        · exact (nomatch told)
      | some coordinator =>
        exact secures_onCoordinator owned (secures_call here.1 (read _ here.2) coordinator)
          fun _ _ _ called => ⟨rfl, called⟩
    · rintro _ later last ⟨besides, content, made, same⟩
      refine (ih reads later).mono ?_
      rintro outcome _ past ⟨besides', begun⟩
      refine ⟨besides'.trans besides, ?_⟩
      rw [same] at begun
      cases outcome with
      | ok value => exact .next made begun
      | error failure =>
        obtain ⟨front, failed, behind, rfl, performed, told⟩ := begun
        exact ⟨task :: front, failed, behind, rfl, .next made performed, told⟩
    · rintro failure _ last ⟨besides, same, told⟩
      exact ⟨besides, [], task, rest, rfl, same ▸ .none _, told⟩

/-- The last task has not succeeded when one has failed. -/
theorem subset_dropLast {tasks front rest : List Task} {task : Task}
    (split : tasks = front ++ task :: rest) : front ⊆ tasks.dropLast := by
  rw [split, List.dropLast_append_of_ne_nil (List.cons_ne_nil _ _)]
  exact List.subset_append_left _ _

/-- Of a build that fails, the commands before have spared the files. -/
theorem spares_of_begun {failure : Failure} (distinct : config.Distinct kernels)
    (listed : kernels kernel)
    (begun : Begun tools (config.buildTasks kernel) shelf (.error failure) last) :
    Spares config kernel failure shelf last := by
  obtain ⟨front, task, rest, split, performed, told⟩ := begun
  have inside := subset_dropLast split
  constructor
  case library =>
    refine performed.find?_of_ne fun task here => ?_
    rcases Config.target_of_uninstalled (inside here) with between | rfl
    · exact distinct.library_ne listed between
    · exact (distinct.archive_ne_library listed).symm
  case archive =>
    refine performed.spared fun task here => ?_
    rcases Config.target_of_uninstalled (inside here) with between | rfl
    · exact .inl (distinct.archive_ne listed between)
    · exact .inr ⟨_, rfl, rfl⟩
  case early =>
    intro step known unlinked uninstalled
    obtain rfl := told step known
    refine performed.find?_of_ne fun done here => distinct.archive_ne listed ?_
    exact Config.target_of_early split unlinked uninstalled done here

/-- A file in between is removed, or stays. -/
theorem secures_remove {α : Type} {path : Path} {next : Unit → SessionM α}
    {post : Except Failure α → Session → Bench → Prop} (between : path ∈ config.removable kernel)
    (rest : ∀ last, Alike config kernel bench.shelf last.shelf →
      Secures (careful tools) (next ()) post session last) :
    Secures (careful tools) (liftM (Action.remove path) >>= next) post session bench := by
  refine Secures.ask trivial ?_
  rintro _ last (rfl | rfl)
  · exact rest _ fun _ _ => rfl
  · exact rest _ (.of_same between fun _ apart => find?_lay_of_ne apart)

/-! ### The two series of commands -/

section

variable (distinct : config.Distinct kernels) (listed : kernels kernel)
  (reads : tools.Reads config kernels)
include distinct listed reads

/-- **The library is restored** from the archive, or all is as it was. -/
theorem secures_relink (settings : session.config = config) :
    Secures (careful tools) relink (fun outcome later last =>
        later.besides = session.besides ∧ Mended config (outcome = .ok true) bench.shelf last.shelf)
      session bench := by
  subst settings
  refine Secures.get (Secures.ask trivial ?_)
  rintro (present : Bool) _ ⟨-, rfl⟩
  split
  · refine secures_prepared (fun steps written _ => ?_) fun _ => ⟨rfl, .refl _⟩
    have listing := (Config.relinkSteps_eq session.config).symm.trans written
    refine secures_observing _ (secures_callAll (fun task inside => reads kernel listed task
      (List.mem_append_left _ inside)) listing session) ?_
    rintro (failure | value) later last ⟨besides, begun⟩
    · obtain ⟨front, task, rest, split, performed, -⟩ := begun
      refine secures_remove Config.relinked_mem fun final alike => ⟨besides, .of_alike distinct
        listed (.trans (.of_same Config.relinked_mem fun path apart => ?_) alike)⟩
      refine performed.find?_of_ne fun task here => ?_
      rw [List.mem_singleton.mp (subset_dropLast split here)]
      exact apart
    · refine ⟨besides, begun.find?_of_ne ?_, .inr ⟨rfl, begun.restored⟩⟩
      refine List.forall_mem_cons.mpr ⟨distinct.archive_ne listed Config.relinked_mem, ?_⟩
      exact List.forall_mem_singleton.mpr (distinct.archive_ne_library listed)
  · exact Secures.pure ⟨rfl, .refl _⟩

/-- **A build that fails** leaves the library, and the members of other kernels. -/
theorem secures_build (settings : session.config = config) :
    Secures (careful tools) (build kernel) (fun outcome _ last => ∀ failure,
        outcome = .error failure → Spares config kernel failure bench.shelf last.shelf)
      session bench := by
  subst settings
  refine Secures.get (secures_prepared (fun steps written _ => ?_) ?_)
  · have listing := (Config.buildSteps_eq session.config kernel).symm.trans written
    refine Secures.ask trivial ?_
    rintro (fault | value) idle wrote
    · refine Secures.throw fun _ _ => .of_alike distinct listed
        (.of_same Config.source_mem fun path apart => ?_)
      rcases wrote with rfl | rfl | rfl
      · rfl
      · exact find?_lay_of_ne apart
      · exact find?_lay_of_ne apart
    · obtain rfl := wrote
      have filed : Alike session.config kernel bench.shelf (bench.lay
          (session.config.sourceFile kernel) (some (.text (Bytes.ofString kernel.source)))).shelf :=
        .of_same Config.source_mem fun path apart => find?_lay_of_ne apart
      refine secures_observing _ (secures_callAll (fun task inside => reads kernel listed task
        (List.mem_append_right _ inside)) listing session) ?_
      rintro outcome later last ⟨-, begun⟩
      refine secures_remove Config.source_mem fun last' first => ?_
      refine secures_remove Config.object_mem fun last'' second => ?_
      cases outcome with
      | ok value => exact fun _ same => nomatch same
      | error failure =>
        refine secures_remove Config.image_mem fun final third => secures_resolved ?_
        rintro _ ⟨⟩
        exact (spares_of_begun distinct listed begun).between distinct listed filed
          (first.trans (second.trans third))
  · exact fun _ _ _ => .of_alike distinct listed fun _ _ => rfl

end

/-! ### Up to the build -/

/-- An exchange changes nothing here. -/
theorem secures_combine {α : Type} {flag : Bool} {next : Bool → SessionM α}
    {post : Except Failure α → Session → Bench → Prop}
    (rest : ∀ anyFailed, Secures (careful tools) (next anyFailed) post session bench) :
    Secures (careful tools) (liftM (Action.combine flag) >>= next) post session bench := by
  refine Secures.ask trivial ?_
  rintro (anyFailed : Bool) _ ⟨-, rfl⟩
  exact rest anyFailed

theorem secures_agree {α : Type} (outcome : Except Failure α) :
    Secures (careful tools) (agree outcome) (fun _ later last => session = later ∧ bench = last)
      session bench :=
  secures_combine fun _ => Secures.get (secures_resolved ⟨rfl, rfl⟩)

theorem secures_probe :
    Secures (careful tools) (onCache Cache.probe) (fun _ later last =>
        later.config = session.config ∧ later.cache.layout = session.cache.layout ∧
          last.shelf = bench.shelf) session bench := by
  show Fulfils _ _ ((Cache.probe.run.run session.cache).bind _) bench
  rw [Cache.run_probe]
  refine ⟨trivial, ?_⟩
  rintro (there : Bool) _ ⟨-, rfl⟩
  cases there with
  | false => exact ⟨rfl, rfl, rfl⟩
  | true =>
    refine ⟨trivial, ?_⟩
    rintro opened last opens
    have same := shelf_of_opens opens
    rcases opened with fault | image
    · exact ⟨rfl, rfl, same⟩
    · exact ⟨rfl, rfl, same⟩

/-- A fresh image is opened, and its file removed. -/
theorem secures_loadFresh {α : Type} {path : Path} (between : path ∈ config.removable kernel)
    (use : Image → Except Failure α) :
    Secures (careful tools) (loadFresh path use)
      (fun _ _ last => Alike config kernel bench.shelf last.shelf) session bench := by
  have unchanged {opened : Except (Path × LoadFault) Image} {last : Bench}
      (opens : (careful tools).answers bench (.openImage path) opened last) :
      last.shelf = bench.shelf := shelf_of_opens opens
  refine secures_fresh (fun _ _ last => last.shelf = bench.shelf) trivial
    (fun _ _ => unchanged) (fun _ _ _ => unchanged) ?_
  rintro outcome later last same
  refine ⟨trivial, ?_⟩
  rintro anyFailed _ ⟨-, rfl⟩
  rw [← same]
  split
  · exact secures_remove between fun final alike => secures_resolved alike
  · exact secures_resolved fun _ _ => rfl

section

variable (distinct : config.Distinct kernels) (listed : kernels kernel)
  (reads : tools.Reads config kernels)
include distinct listed reads

/-- The library is opened, and may be restored. -/
theorem secures_probeLibrary (settings : session.config = config)
    (layout : session.cache.layout = config.layout) :
    Secures (careful tools) probeLibrary
      (fun _ _ last => Mended config True bench.shelf last.shelf) session bench := by
  refine Secures.bind _ secures_probe ?_ fun _ _ _ ⟨_, _, same⟩ => same ▸ .refl _
  rintro loaded later last ⟨settings', layout', same⟩
  rw [← same]
  refine secures_combine fun anyFailed => ?_
  split
  · have restores : Secures (careful tools)
        (do if (← get).member.isRoot then relink else return false) (fun outcome after past =>
          after.besides = later.besides ∧
            Mended config (outcome = .ok true) last.shelf past.shelf) later last := by
      refine Secures.get ?_
      split
      · exact secures_relink distinct listed reads (settings'.trans settings)
      · exact Secures.pure ⟨rfl, .refl _⟩
    refine secures_observing _ restores ?_
    rintro outcome after past ⟨besides, mended⟩
    have mended := mended.mono fun _ => trivial
    refine Secures.bind _ (secures_agree outcome) ?_ ?_
    · rintro relinked _ _ ⟨rfl, rfl⟩
      refine secures_combine fun anyRelinked => ?_
      split
      · have cache : after.cache = later.cache := congrArg (·.2.2) besides
        refine Secures.get ?_
        rw [cache, layout', layout]
        have between : config.layout.relinked ∈ config.removable kernel := Config.relinked_mem
        refine (secures_loadFresh between _).mono fun _ _ final alike => ?_
        exact mended.trans (.of_alike distinct listed alike)
      · exact Secures.pure mended
    · rintro failure _ _ ⟨rfl, rfl⟩
      exact mended
  · exact Secures.pure (.refl _)

/-- **Up to the build**, only the library may change, and only where it was not searched before. -/
theorem secures_approach (settings : session.config = config)
    (layout : session.cache.layout = config.layout) :
    Secures (careful tools) (approach kernel) (fun _ _ last =>
        Mended config (session.cache.probed = false) bench.shelf last.shelf) session bench := by
  have searches : ∀ {later last}, Secures (careful tools) (search kernel)
      (fun _ _ past => last = past) later last := by
    intro later last
    refine Secures.get (secures_combine fun anyoneMissed => ?_)
    cases later.cache.resolve? kernel.symbol with
    | none => exact Secures.pure rfl
    | some symbol =>
      cases anyoneMissed with
      | true => exact Secures.pure rfl
      | false => exact Secures.modify (Secures.pure rfl)
  refine Secures.get ?_
  cases session.cache.remembered? kernel.hash with
  | some symbol => exact Secures.pure (.refl _)
  | none =>
    refine Secures.get ?_
    cases probed : session.cache.probed with
    | true => exact searches.mono fun _ _ _ same => same ▸ .refl _
    | false =>
      refine Secures.bind _ (secures_probeLibrary distinct listed reads settings layout) ?_
        fun _ _ _ mended => mended.mono fun _ => rfl
      intro _ later last mended
      exact searches.mono fun _ _ _ same => same ▸ mended.mono fun _ => rfl

end

end Careful

/-- **A build that fails has spared the files.** The library is as before the lookup, or as the
lookup has restored it from the archive; and besides the kernel's own, the archive has the members
that it had. -/
theorem failed_build_spares (distinct : config.Distinct kernels) (listed : kernels kernel)
    (reads : tools.Reads config kernels) (settings : session.config = config)
    (layout : session.cache.layout = config.layout) {between later : Session} {middle last : Bench}
    {failure : Failure}
    (misses : ((approach kernel).run.run session).Yields (careful tools) bench
      (.ok none, between) middle)
    (fails : ((build kernel).run.run between).Yields (careful tools) middle
      (.error failure, later) last) :
    (last.shelf.find? config.layout.library = bench.shelf.find? config.layout.library ∨
        session.cache.probed = false ∧ ∃ content,
          Artifact.linked? (bench.shelf.find? config.layout.archive) = some content ∧
          last.shelf.find? config.layout.library = some content) ∧
      Artifact.Spared ((config.layout.object kernel).fileName?.getD [])
        (bench.shelf.find? config.layout.archive) (last.shelf.find? config.layout.archive) ∧
      ∀ step ∈ failure.step?, step ≠ .linkImage → step ≠ .install →
        last.shelf.find? config.layout.archive = bench.shelf.find? config.layout.archive := by
  have same : between.origin = session.origin := (leaves_approach kernel).yields misses
  have mended := (Careful.secures_approach distinct listed reads settings layout).yields misses
  have settings' : between.config = config := (congrArg Prod.fst same).trans settings
  obtain ⟨library, archive, early⟩ :=
    (Careful.secures_build distinct listed reads settings').yields fails failure rfl
  rw [mended.archive] at archive early
  rw [library]
  exact ⟨mended.library, archive, early⟩

/-! ### A step that always fails -/

end Bench

namespace Bench.Balking

open Session Sample

/-- Obliging answers, but the commands of one step fail. -/
def balk (refused : Step) : (effect : Effect) → StateM Bench effect.Reply
  | .await policy => fun bench =>
    if bench.word = Channel.callWord ∧ (tools.reads bench.buffer).any (·.step = refused) then
      (.left (some 1), bench.take)
    else (oblige tools (Tools.display sources) (.await policy)).run bench
  | effect => oblige tools (Tools.display sources) effect

/-- A command that fails changes no file. -/
theorem answers_balk (refused : Step) (bench : Bench) (effect : Effect) :
    (careful tools).answers bench effect ((balk refused effect).run bench).1
      ((balk refused effect).run bench).2 := by
  have obliges := replies_oblige loads false bench effect
  cases effect with
  | await policy =>
    by_cases balks : bench.word = Channel.callWord ∧
        (tools.reads bench.buffer).any (·.step = refused)
    · have balked : (balk refused (.await policy)).run bench = (.left (some 1), bench.take) :=
        if_pos balks
      rw [balked]
      exact ⟨(if_pos balks.1).mpr (.inl rfl), fun _ => rfl⟩
    · have obliged : (balk refused (.await policy)).run bench =
          (oblige tools (Tools.display sources) (.await policy)).run bench := if_neg balks
      rw [obliged]
      exact ⟨obliges, clean_oblige bench policy⟩
  | _ => exact obliges

/-- The archive has the first kernel, and the library is missing. -/
def stocked : Bench :=
  { shelf := begun.2.shelf.put ({} : Config).layout.library none }

/-- The second kernel is looked up, up to its build. -/
def met (refused : Step) : (Except Failure (Option KernelSymbol) × Session) × Bench :=
  (((approach second).run.run session).run (balk refused)).run stocked

/-- The second kernel is built. -/
def built (refused : Step) : (Except Failure Unit × Session) × Bench :=
  (((build second).run.run (met refused).1.2).run (balk refused)).run (met refused).2

/-- The step that an outcome blames. -/
def blamed? : Except Failure Unit → Option Step
  | .ok _ => none
  | .error failure => failure.step?

/-- A build whose step has failed is a run of a lookup. -/
theorem runs {refused : Step} (misses : (met refused).1.1 = .ok none)
    (blames : blamed? (built refused).1.1 = some refused) :
    ∃ failure, failure.step? = some refused ∧
      ((approach second).run.run session).Yields (careful tools) stocked
        (.ok none, (met refused).1.2) (met refused).2 ∧
      ((build second).run.run (met refused).1.2).Yields (careful tools) (met refused).2
        (.error failure, (built refused).1.2) (built refused).2 := by
  have approaches : ((approach second).run.run session).Yields (careful tools) stocked
      (met refused).1 (met refused).2 := yields_of_run (answers_balk refused) rfl
  have builds : ((build second).run.run (met refused).1.2).Yields (careful tools) (met refused).2
      (built refused).1 (built refused).2 := yields_of_run (answers_balk refused) rfl
  rw [← Prod.eta (met refused).1, misses] at approaches
  rw [← Prod.eta (built refused).1] at builds
  cases outcome : (built refused).1.1 with
  | ok value => exact (nomatch (congrArg blamed? outcome).symm.trans blames)
  | error failure =>
    rw [outcome] at builds blames
    exact ⟨failure, blames, approaches, builds⟩

/-- The compiler fails, when the library has just been restored: the archive is as it was. -/
theorem failed_compile_spares :
    (built .compile).2.shelf.find? ({} : Config).layout.archive =
        stocked.shelf.find? ({} : Config).layout.archive ∧
      ∃ content, Artifact.linked? (stocked.shelf.find? ({} : Config).layout.archive) = some content ∧
        (built .compile).2.shelf.find? ({} : Config).layout.library = some content := by
  -- One evaluation of the lookup serves all that is read off it.
  have seen : (met .compile).1.1 = .ok none ∧ blamed? (built .compile).1.1 = some .compile ∧
      (built .compile).2.shelf.find? ({} : Config).layout.library ≠
        stocked.shelf.find? ({} : Config).layout.library := by decide +kernel
  obtain ⟨failure, blames, misses, fails⟩ := runs seen.1 seen.2.1
  obtain ⟨library, -, early⟩ := failed_build_spares suits.distinct
    (List.mem_cons_of_mem _ List.mem_cons_self) suits.reads rfl rfl misses fails
  refine ⟨early _ blames (by decide) (by decide), ?_⟩
  exact (library.resolve_left seen.2.2).2

/-- **The kernel's own member may be left in the archive**, when its image cannot be linked; and a
library that was missing is there. -/
theorem leaves_member : ∃ failure between later middle last,
    ((approach second).run.run session).Yields (careful tools) stocked (.ok none, between) middle ∧
    ((build second).run.run between).Yields (careful tools) middle (.error failure, later) last ∧
    last.shelf.find? ({} : Config).layout.archive ≠
      stocked.shelf.find? ({} : Config).layout.archive ∧
    last.shelf.find? ({} : Config).layout.library ≠
      stocked.shelf.find? ({} : Config).layout.library := by
  have seen : (met .linkImage).1.1 = .ok none ∧ blamed? (built .linkImage).1.1 = some .linkImage ∧
      (built .linkImage).2.shelf.find? ({} : Config).layout.archive ≠
        stocked.shelf.find? ({} : Config).layout.archive ∧
      (built .linkImage).2.shelf.find? ({} : Config).layout.library ≠
        stocked.shelf.find? ({} : Config).layout.library := by decide +kernel
  obtain ⟨failure, -, misses, fails⟩ := runs seen.1 seen.2.1
  exact ⟨failure, _, _, _, _, misses, fails, seen.2.2⟩

end Bench.Balking

end KernelCache
