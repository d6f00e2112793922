import KernelCache.Session.Lookup
import Mathlib.Data.List.Forall2

/-
**What the commands of a build are for.**

A command is written for a task, which has a target and reads other files. The root runs the tasks
of a restored library, or those of a kernel, in order.

* `Task.command` writes a task, `Task.target` is the file that it makes.
* `Config.relinkSteps_eq` and `Config.buildSteps_eq`: the steps of a session are the written tasks,
  and `Config.written_eq_ok_iff` takes them apart.
-/

namespace KernelCache

/-- What a command is for. -/
inductive Task where
  /-- Makes an object from a source. -/
  | compile (source object : Path)
  /-- Puts an object into the archive. -/
  | archive (archive object : Path)
  /-- Links the archive into the image that restores the library. -/
  | linkArchive (archive image : Path)
  /-- Links the archive into the image of a kernel. -/
  | linkImage (archive image : Path)
  /-- Puts an image in the place of the library. -/
  | install (image library : Path)
  deriving DecidableEq, Repr

namespace Task

/-- The step that a task belongs to. -/
def step : Task → Step
  | compile _ _ => .compile
  | archive _ _ => .archive
  | linkArchive _ _ => .linkArchive
  | linkImage _ _ => .linkImage
  | install _ _ => .install

/-- The file that a task makes. -/
def target : Task → Path
  | compile _ object => object
  | archive whole _ => whole
  | linkArchive _ image => image
  | linkImage _ image => image
  | install _ library => library

/-- The command that is written for a task. -/
def command (config : Config) : Task → Except Failure Bytes
  | compile source object => Command.compile config.toolchain config.verbose source object
  | archive whole object => Command.archive config.toolchain whole object
  | linkArchive whole image => Command.linkArchive config.toolchain whole image
  | linkImage whole image => Command.linkImage config.toolchain whole image
  | install image library => Command.install config.toolchain image library

end Task

namespace Config

variable {config : Config}

/-- The tasks that restore the library from the archive. -/
def relinkTasks (config : Config) : List Task :=
  [.linkArchive config.layout.archive config.layout.relinked,
    .install config.layout.relinked config.layout.library]

/-- The tasks that build a kernel. -/
def buildTasks (config : Config) (kernel : Kernel) : List Task :=
  [.compile (config.sourceFile kernel) (config.layout.object kernel),
    .archive config.layout.archive (config.layout.object kernel),
    .linkImage config.layout.archive (config.layout.image kernel),
    .install (config.layout.image kernel) config.layout.library]

/-- All tasks that a lookup may have done. -/
def tasks (config : Config) (kernel : Kernel) : List Task :=
  config.relinkTasks ++ config.buildTasks kernel

/-- The written form of tasks; none, if one of them has none. -/
def written (config : Config) : List Task → Except Failure (List (Step × Bytes))
  | [] => pure []
  | task :: rest => do
    let command ← task.command config
    let later ← config.written rest
    return (task.step, command) :: later

theorem relinkSteps_eq (config : Config) :
    config.relinkSteps = config.written config.relinkTasks := by
  simp only [relinkSteps, relinkTasks, written, Task.command, Task.step, bind_assoc, pure_bind]

theorem buildSteps_eq (config : Config) (kernel : Kernel) :
    config.buildSteps kernel = config.written (config.buildTasks kernel) := by
  simp only [buildSteps, buildTasks, written, Task.command, Task.step, bind_assoc, pure_bind]

/-- **The written form of tasks, one by one.** -/
theorem written_eq_ok_iff {tasks : List Task} {steps : List (Step × Bytes)} :
    config.written tasks = .ok steps ↔
      List.Forall₂ (fun task step => step.1 = task.step ∧ task.command config = .ok step.2) tasks
        steps := by
  induction tasks generalizing steps with
  | nil =>
    rw [written, List.forall₂_nil_left_iff]
    exact ⟨fun same => (Except.ok.inj same).symm, fun same => congrArg Except.ok same.symm⟩
  | cons task rest ih =>
    rw [written, List.forall₂_cons_left_iff]
    cases here : task.command config with
    | error failure =>
      constructor
      · exact fun same => (nomatch same)
      · rintro ⟨step, later, ⟨-, same⟩, -, -⟩
        exact (nomatch same)
    | ok command =>
      cases behind : config.written rest with
      | error failure =>
        constructor
        · exact fun same => (nomatch same)
        · rintro ⟨step, later, -, each, -⟩
          exact (nomatch behind.symm.trans (ih.mpr each))
      | ok later =>
        constructor
        · intro same
          exact ⟨(task.step, command), later, ⟨rfl, rfl⟩, ih.mp behind,
            (Except.ok.inj same).symm⟩
        · rintro ⟨⟨step, command'⟩, later', ⟨rfl, same⟩, each, rfl⟩
          obtain rfl : command = command' := Except.ok.inj same
          obtain rfl : later = later' := Except.ok.inj (behind.symm.trans (ih.mpr each))
          rfl

/-- A written step belongs to one of the tasks. -/
theorem exists_task_of_mem {tasks : List Task} {steps : List (Step × Bytes)}
    (written : config.written tasks = .ok steps) {step : Step × Bytes} (inside : step ∈ steps) :
    ∃ task ∈ tasks, step.1 = task.step ∧ task.command config = .ok step.2 := by
  have each := written_eq_ok_iff.mp written
  clear written
  induction each with
  | nil => exact (List.not_mem_nil inside).elim
  | cons here _ ih =>
    rcases List.mem_cons.mp inside with rfl | behind
    · exact ⟨_, List.mem_cons_self, here⟩
    · obtain ⟨task, listed, found⟩ := ih behind
      exact ⟨task, List.mem_cons_of_mem _ listed, found⟩

end Config

end KernelCache
