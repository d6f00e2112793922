import KernelCache.Proofs.Command.Synthesis
import KernelCache.Proofs.Session.Steps

/-
**What is checked before a series of commands begins.**

The root writes all commands of a series and tries each of them on the channel before it begins. Up
to then it asks nothing, but whether there is an archive.

* `Task.barrier? config capacity tasks`: why the tasks are not begun, if they are not. Of those
  without a command the first decides, and when each has one, the first whose command does not fit.
* `Failure.AboutText`: a failure of this kind; `Task.aboutText_of_barrier?` says that there are no
  others.
* `Session.run_prepared_barred`: a series that is barred ends before it asks anything.
* **`Session.prechecked`**: the two series of the root are barred in full or not at all. What is
  handed over was checked, and no call fails for its text.
-/

namespace KernelCache

open KernelCache.Action

/-- The failure is about the text of a command: it cannot be written or does not fit the channel. -/
def Failure.AboutText : Failure → Prop
  | .config _ | .channel (.interiorNul _) | .channel (.commandTooLong _ _) => True
  | _ => False

/-- What is reported of a command that does not fit is about its text. -/
theorem Channel.aboutText_of_fits {capacity : Nat} {command : Bytes} {fault : ChannelFault}
    (unfit : fits capacity command = .error fault) : (Failure.channel fault).AboutText := by
  unfold fits at unfit
  split at unfit
  · cases unfit
    trivial
  · split at unfit
    · cases unfit
      trivial
    · cases unfit

namespace Task

variable {config : Config} {capacity : Nat} {tasks : List Task}

/-- Why a task has no command, if it has none. -/
def unwritten? (config : Config) (task : Task) : Option Failure :=
  match task.command config with
  | .ok _ => none
  | .error failure => some failure

/-- Why the command of a task does not fit a channel, if it does not. -/
def unfit? (config : Config) (capacity : Nat) (task : Task) : Option Failure :=
  match task.command config with
  | .ok command =>
    match Channel.fits capacity command with
    | .ok () => none
    | .error fault => some (.channel fault)
  | .error _ => none

/-- Why the tasks are not begun, if they are not: a task without a command comes before one whose
command does not fit, and otherwise the first one decides. -/
def barrier? (config : Config) (capacity : Nat) (tasks : List Task) : Option Failure :=
  (tasks.findSome? (unwritten? config)).or (tasks.findSome? (unfit? config capacity))

/-- The command of a task is written, and fits the channel. -/
def Passes (config : Config) (capacity : Nat) (task : Task) (command : Bytes) : Prop :=
  task.command config = .ok command ∧ Channel.fits capacity command = .ok ()

/-- Every task has a command that passes. -/
def Cleared (config : Config) (capacity : Nat) (tasks : List Task) : Prop :=
  ∀ task ∈ tasks, ∃ command, task.Passes config capacity command

/-- **Nothing is in the way** when every command is written and fits. -/
theorem barrier?_eq_none_iff : barrier? config capacity tasks = none ↔
    Cleared config capacity tasks := by
  rw [Cleared, barrier?, Option.or_eq_none_iff, List.findSome?_eq_none_iff,
    List.findSome?_eq_none_iff, ← forall₂_and]
  refine forall₂_congr fun task _ => ?_
  unfold unwritten? unfit? Passes
  cases task.command config with
  | error failure => simp
  | ok command => cases fit : Channel.fits capacity command <;> simp [fit]

/-- A task has a command when all of its paths can be written; else the settings are to blame. -/
theorem builds_quotable (config : Config) (task : Task) :
    Command.Builds (task.command config) (∀ path ∈ task.paths config.toolchain, path.Quotable)
      fun _ => True := by
  have writes (path : Path) : Command.Builds (Command.path path) path.Quotable fun _ => True :=
    (Command.builds_path path).mono Iff.rfl fun _ _ => trivial
  have written (command : Bytes) : Command.Builds (.ok command) True fun _ => True := .pure trivial
  have pair {first second : Path} (next : Bytes → Bytes → Bytes) :
      Command.Builds (do let front ← Command.path first; let back ← Command.path second
                         return next front back)
        (∀ path ∈ [first, second], path.Quotable) fun _ => True :=
    .mono (.bind (writes first) fun _ _ => .bind (writes second) fun _ _ => written _)
      (by simp) fun _ _ => trivial
  cases task with
  | compile source object =>
    refine .mono (.bind (Command.builds_includes config.toolchain.includeDirs) fun _ _ =>
      .bind (writes object) fun _ _ => .bind (writes source) fun _ _ => written _) ?_
      fun _ _ => trivial
    simp [paths, or_imp, forall_and]
  | archive whole object => exact pair _
  | linkArchive whole image => exact pair _
  | linkImage whole image => exact pair _
  | install image library => exact pair _

/-- What bars a series is about the text of one of its commands. -/
theorem aboutText_of_barrier? {failure : Failure}
    (barred : barrier? config capacity tasks = some failure) : failure.AboutText := by
  rw [barrier?, Option.or_eq_some_iff] at barred
  rcases barred with unwritten | ⟨-, unfit⟩
  · obtain ⟨task, -, bad⟩ := List.exists_of_findSome?_eq_some unwritten
    unfold unwritten? at bad
    split at bad
    · cases bad
    · rename_i failure' same
      cases bad
      obtain ⟨builds, refuses⟩ := builds_quotable config task
      by_cases quotable : ∀ path ∈ task.paths config.toolchain, path.Quotable
      · obtain ⟨command, written, -⟩ := builds quotable
        exact (nomatch written.symm.trans same)
      · obtain ⟨message, refused⟩ := refuses quotable
        cases refused.symm.trans same
        trivial
  · obtain ⟨task, -, bad⟩ := List.exists_of_findSome?_eq_some unfit
    unfold unfit? at bad
    split at bad
    · split at bad
      · cases bad
      · rename_i fault same
        cases bad
        exact Channel.aboutText_of_fits same
    · cases bad

/-- Tasks are written in order, and the first that cannot be written decides. -/
theorem written_of_unwritten? {failure : Failure}
    (unwritten : tasks.findSome? (unwritten? config) = some failure) :
    config.written tasks = .error failure := by
  induction tasks with
  | nil => cases unwritten
  | cons task rest ih =>
    rw [List.findSome?_cons] at unwritten
    unfold Config.written
    unfold unwritten? at unwritten
    cases here : task.command config with
    | error failure' =>
      rw [here] at unwritten
      cases unwritten
      rfl
    | ok command =>
      rw [here] at unwritten
      rw [ih unwritten]
      rfl

theorem exists_written (none : tasks.findSome? (unwritten? config) = none) :
    ∃ steps, config.written tasks = .ok steps := by
  induction tasks with
  | nil => exact ⟨[], rfl⟩
  | cons task rest ih =>
    rw [List.findSome?_cons] at none
    unfold Config.written
    unfold unwritten? at none
    cases here : task.command config with
    | error failure => rw [here] at none; cases none
    | ok command =>
      rw [here] at none
      obtain ⟨steps, written⟩ := ih none
      exact ⟨(task.step, command) :: steps, by rw [written]; rfl⟩

end Task

namespace Session

variable {α : Type} {session : Session} {coordinator : Coordinator} {tasks : List Task}
  {steps : List (Step × Bytes)} {kernel : Kernel}

section

variable (owned : session.coordinator = some coordinator) (attached : coordinator.attached = true)
include owned attached

/-- A coordinator with its channel refuses exactly what does not fit. -/
theorem unfit?_eq (command : Bytes) :
    session.unfit? command =
      match Channel.fits coordinator.capacity command with
      | .ok () => none
      | .error fault => some (.channel fault) := by
  rw [unfit?, owned]
  exact if_pos attached

/-- The checks of the written commands find what is in the way of the tasks. -/
theorem findSome?_unfit? (written : session.config.written tasks = .ok steps) :
    (steps.findSome? fun step => session.unfit? step.2) =
      tasks.findSome? (Task.unfit? session.config coordinator.capacity) := by
  have each := Config.written_eq_ok_iff.mp written
  clear written
  induction each with
  | nil => rfl
  | cons here _ ih =>
    rw [List.findSome?_cons, List.findSome?_cons, ih, unfit?_eq owned attached, Task.unfit?, here.2]

/-- **A series that is barred asks nothing**, and leaves the session as it was. -/
theorem run_prepared_barred {failure : Failure} {series : Except Failure (List (Step × Bytes))}
    (listed : series = session.config.written tasks) (next : List (Step × Bytes) → SessionM α)
    (barred : Task.barrier? session.config coordinator.capacity tasks = some failure) :
    (do let steps ← resolved series; checkAll steps; next steps : SessionM α).run.run session =
      .done (.error failure, session) := by
  subst listed
  rw [Task.barrier?, Option.or_eq_some_iff] at barred
  rcases barred with unwritten | ⟨none, unfit⟩
  · rw [Task.written_of_unwritten? unwritten]
    rfl
  · obtain ⟨steps, written⟩ := Task.exists_written none
    rw [written]
    show (checkAll steps >>= fun _ => next steps).run.run session = _
    rw [run_bind, run_checkAll, findSome?_unfit? owned attached written, unfit]
    rfl

theorem run_build_barred {failure : Failure}
    (barred : Task.barrier? session.config coordinator.capacity
      (session.config.buildTasks kernel) = some failure) :
    (build kernel).run.run session = .done (.error failure, session) := by
  unfold build
  rw [run_get]
  exact run_prepared_barred owned attached (Config.buildSteps_eq _ _) _ barred

theorem run_relink_barred {failure : Failure}
    (barred : Task.barrier? session.config coordinator.capacity session.config.relinkTasks =
      some failure) :
    relink.run.run session = .ask (.present session.config.layout.archive) fun (there : Bool) =>
      if there = true then .done (.error failure, session) else .done (.ok false, session) := by
  unfold relink
  rw [run_get]
  refine congrArg (Action.ask (Effect.present session.config.layout.archive))
    (funext fun (there : Bool) => ?_)
  cases there with
  | false => rfl
  | true => exact run_prepared_barred owned attached (Config.relinkSteps_eq _) _ barred

/-- Commands that pass the check can be handed over. -/
theorem takes_of_barrier? (free : Task.barrier? session.config coordinator.capacity tasks = none)
    (written : session.config.written tasks = .ok steps) : session.Takes steps := by
  rw [Task.barrier?, Option.or_eq_none_iff] at free
  refine takes_iff.mpr (List.findSome?_eq_none_iff.mp ?_)
  rw [findSome?_unfit? owned attached written]
  exact free.2

end

/-! ### Commands that passed the check -/

/-- No failure for the text of a command. -/
def Legible (outcome : Except Failure α) : Prop :=
  ∀ failure, outcome = .error failure → ¬ failure.AboutText

theorem legible_ok (value : α) : Legible (.ok value) := nofun

/-- A question that puts nothing into the buffer but a checked command of one of the tasks. -/
def Checked (config : Config) (capacity : Nat) (tasks : List Task) (effect : Effect) : Prop :=
  ∀ command, effect = .fill command → ∃ task ∈ tasks, task.Passes config capacity command

/-- A command that fits is not refused for its text. -/
theorem secures_call_fitting {allowed : Effect → Prop} (step : Step) {command : Bytes}
    (others : ∀ effect, (∀ text, effect ≠ .fill text) → allowed effect)
    (fill : allowed (.fill command)) (fits : coordinator.unfit? command = none) :
    Secures (.only allowed) (Coordinator.call step command) (fun outcome after _ =>
        after.attached = coordinator.attached ∧ after.capacity = coordinator.capacity ∧
          Legible outcome) coordinator () := by
  unfold Secures
  rw [Coordinator.run_call, Coordinator.refusal?]
  cases dead : coordinator.dead with
  | true => exact ⟨rfl, rfl, fun _ same => Except.error.inj same ▸ id⟩
  | false =>
    simp only [Bool.false_eq_true, if_false, fits]
    refine ⟨others _ nofun, fun (word : UInt32) _ _ => ?_⟩
    beta_reduce
    split
    · refine ⟨fill, fun _ _ _ => ⟨others _ nofun, fun _ _ _ => ⟨others _ nofun, ?_⟩⟩⟩
      rintro (_ | code | exhausted) _ -
      · exact ⟨rfl, rfl, legible_ok ()⟩
      · exact ⟨rfl, rfl, fun _ same => Except.error.inj same ▸ id⟩
      · exact ⟨rfl, rfl, fun _ same => Except.error.inj same ▸ id⟩
    · exact ⟨rfl, rfl, fun _ same => Except.error.inj same ▸ id⟩

/-- **What was checked is what is handed over**, and no call of the series fails for its text. -/
theorem secures_callAll_fitting {allowed : Effect → Prop}
    (others : ∀ effect, (∀ text, effect ≠ .fill text) → allowed effect)
    (fills : ∀ step ∈ steps, allowed (.fill step.2)) (takes : session.Takes steps) :
    Secures (.only allowed) (callAll steps) (fun outcome _ _ => Legible outcome) session () := by
  induction steps generalizing session with
  | nil => exact Secures.pure (legible_ok ())
  | cons step rest ih =>
    obtain ⟨fill, fills⟩ := List.forall_mem_cons.mp fills
    obtain ⟨⟨coordinator, owned, fits⟩, takes⟩ := List.forall_mem_cons.mp takes
    refine Secures.bind (fun outcome later _ => later.Takes rest ∧ Legible outcome) ?_
      (fun _ _ _ ⟨takes, _⟩ => ih fills takes) fun _ _ _ ⟨_, legible⟩ => legible
    refine secures_onCoordinator owned (secures_call_fitting step.1 others fill fits) ?_
    rintro outcome after - ⟨attached, capacity, legible⟩
    refine ⟨fun other inside => ⟨after, rfl, ?_⟩, legible⟩
    obtain ⟨same, owned', fits⟩ := takes other inside
    obtain rfl := Option.some.inj (owned.symm.trans owned')
    unfold Coordinator.unfit? at fits ⊢
    rwa [attached, capacity]

section

variable (owned : session.coordinator = some coordinator) (attached : coordinator.attached = true)
include owned attached

/-- A series that is not barred is written and passes the checks; then its commands are handed
over, and `rest` takes their outcome. -/
theorem secures_unbarred {series : Except Failure (List (Step × Bytes))}
    {next : List (Step × Bytes) → SessionM α} {post : Except Failure α → Session → Unit → Prop}
    (listed : series = session.config.written tasks)
    (free : Task.barrier? session.config coordinator.capacity tasks = none)
    (rest : ∀ steps, Secures (.only (Checked session.config coordinator.capacity tasks))
        (callAll steps) (fun outcome _ _ => Legible outcome) session () →
      Secures (.only (Checked session.config coordinator.capacity tasks)) (next steps) post
        session ()) :
    Secures (.only (Checked session.config coordinator.capacity tasks))
      (do let steps ← resolved series; checkAll steps; next steps) post session () := by
  have none := (Option.or_eq_none_iff.mp free).1
  obtain ⟨steps, written⟩ := Task.exists_written none
  have takes := takes_of_barrier? owned attached free written
  refine secures_passed (listed.trans written) takes
    (rest steps (secures_callAll_fitting ?_ ?_ takes))
  · exact fun effect other command same => absurd same (other command)
  · rintro step inside _ ⟨⟩
    obtain ⟨task, listed, -, wrote⟩ := Config.exists_task_of_mem written inside
    obtain ⟨command, wrote', fits⟩ := Task.barrier?_eq_none_iff.mp free task listed
    obtain rfl := Except.ok.inj (wrote.symm.trans wrote')
    exact ⟨task, listed, wrote, fits⟩

theorem secures_build_unbarred
    (free : Task.barrier? session.config coordinator.capacity
      (session.config.buildTasks kernel) = none) :
    Secures (.only (Checked session.config coordinator.capacity (session.config.buildTasks kernel)))
      (build kernel) (fun outcome _ _ => Legible outcome) session () := by
  refine Secures.get (secures_unbarred owned attached (Config.buildSteps_eq _ _) free
    fun steps calls => ?_)
  refine Secures.ask (fun _ same => nomatch same) ?_
  rintro (fault | value) - -
  · exact Secures.throw fun _ same => Except.error.inj same ▸ id
  · refine secures_observing _ calls fun outcome later _ legible => ?_
    refine Secures.ask (fun _ same => nomatch same) fun _ _ _ => ?_
    refine Secures.ask (fun _ same => nomatch same) fun _ _ _ => ?_
    split
    · exact Secures.ask (fun _ same => nomatch same) fun _ _ _ => secures_resolved legible
    · exact secures_resolved legible

theorem secures_relink_unbarred
    (free : Task.barrier? session.config coordinator.capacity session.config.relinkTasks = none) :
    Secures (.only (Checked session.config coordinator.capacity session.config.relinkTasks)) relink
      (fun outcome _ _ => Legible outcome) session () := by
  refine Secures.get (Secures.ask (fun _ same => nomatch same) fun (there : Bool) _ _ => ?_)
  split
  · refine secures_unbarred owned attached (Config.relinkSteps_eq _) free fun steps calls => ?_
    refine secures_observing _ calls fun outcome later _ legible => ?_
    cases outcome with
    | ok value => exact legible_ok true
    | error failure =>
      refine Secures.ask (fun _ same => nomatch same) fun _ _ _ => ?_
      exact fun _ same => Except.error.inj same ▸ legible failure rfl
  · exact Secures.pure (legible_ok false)

/-- **Commands are checked before anything happens.** When one command of a series cannot be written
or does not fit the channel, be it the last one, the series fails with that: nothing is asked but
whether there is an archive, and the session is as it was. When all can be written and fit, then,
whatever is answered, nothing but checked commands is put into the buffer, and the series does not
fail for the text of one. -/
theorem prechecked (kernel : Kernel) :
    (¬ Task.Cleared session.config coordinator.capacity (session.config.buildTasks kernel) →
      ∃ failure, failure.AboutText ∧
        Task.barrier? session.config coordinator.capacity (session.config.buildTasks kernel) =
          some failure ∧
        (build kernel).run.run session = .done (.error failure, session)) ∧
    (¬ Task.Cleared session.config coordinator.capacity session.config.relinkTasks →
      ∃ failure, failure.AboutText ∧
        Task.barrier? session.config coordinator.capacity session.config.relinkTasks =
          some failure ∧
        relink.run.run session =
          .ask (.present session.config.layout.archive) fun (there : Bool) =>
            if there = true then .done (.error failure, session)
            else .done (.ok false, session)) ∧
    (Task.Cleared session.config coordinator.capacity (session.config.buildTasks kernel) →
      Secures (.only (Checked session.config coordinator.capacity (session.config.buildTasks kernel)))
        (build kernel) (fun outcome _ _ => Legible outcome) session ()) ∧
    (Task.Cleared session.config coordinator.capacity session.config.relinkTasks →
      Secures (.only (Checked session.config coordinator.capacity session.config.relinkTasks))
        relink (fun outcome _ _ => Legible outcome) session ()) := by
  have barred {tasks : List Task}
      (uncleared : ¬ Task.Cleared session.config coordinator.capacity tasks) :
      ∃ failure, Task.barrier? session.config coordinator.capacity tasks = some failure :=
    Option.ne_none_iff_exists'.mp (mt Task.barrier?_eq_none_iff.mp uncleared)
  refine ⟨fun uncleared => ?_, fun uncleared => ?_, fun cleared => ?_, fun cleared => ?_⟩
  · obtain ⟨failure, found⟩ := barred uncleared
    exact ⟨failure, Task.aboutText_of_barrier? found, found, run_build_barred owned attached found⟩
  · obtain ⟨failure, found⟩ := barred uncleared
    exact ⟨failure, Task.aboutText_of_barrier? found, found, run_relink_barred owned attached found⟩
  · exact secures_build_unbarred owned attached (Task.barrier?_eq_none_iff.mpr cleared)
  · exact secures_relink_unbarred owned attached (Task.barrier?_eq_none_iff.mpr cleared)

end

/-- Under a long library name the last command of a build is the only one that does not fit. -/
theorem prechecked_last_command :
    let config : Config := { libraryName := String.ofList (List.replicate 60 'l') ++ ".so" }
    let kernel : Kernel := ⟨1, "f", "int f(void){return 1;}"⟩
    let coordinator : Coordinator := { policy := .every 1000, capacity := 100 }
    let session := assemble config (.ofRank 0 1) (some coordinator)
    session.coordinator = some coordinator ∧ coordinator.attached = true ∧
      Task.barrier? config 100 (config.buildTasks kernel).dropLast = none ∧
      (build kernel).run.run session =
        .done (.error (.channel (.commandTooLong 110 100)), session) := by
  intro config kernel coordinator session
  -- One evaluation of the commands serves both facts about them.
  have seen : Task.barrier? config 100 (config.buildTasks kernel).dropLast = none ∧
      Task.barrier? config 100 (config.buildTasks kernel) =
        some (.channel (.commandTooLong 110 100)) := by decide +kernel
  have uncleared : ¬ Task.Cleared config 100 (config.buildTasks kernel) := fun cleared =>
    nomatch seen.2.symm.trans (Task.barrier?_eq_none_iff.mpr cleared)
  have owned : session.coordinator = some coordinator := rfl
  obtain ⟨failure, -, found, run⟩ := (prechecked owned rfl kernel).1 uncleared
  obtain rfl := Option.some.inj (seen.2.symm.trans found)
  exact ⟨owned, rfl, seen.1, run⟩

end Session

end KernelCache
