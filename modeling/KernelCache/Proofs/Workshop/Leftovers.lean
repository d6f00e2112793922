import KernelCache.Proofs.Session.Line
import KernelCache.Proofs.Workshop.Failing

/-
**What a lookup leaves behind.**

The root writes the source of a kernel, and its worker puts an object and images beside it; all of
them are removed again, some by the part that made them and some by a later one. In between the
members agree on what has come of a part, and one of the others may have failed.

* `Floor` is what the root sees of the files, with the commands that nobody waits for any longer.
  `Floor.loose`: whatever comes of a command, it may leave anything in its target, and so may a
  write that fails; a file that is removed is gone.
* `Floor.Swept`: all files in between are as they were, or gone, besides some.
* `Floor.Excused`: what may be left. A source is left that could not be written, and an image when
  it was made and then another member has failed.
* `Floor.Delivered` and `Floor.Closed`: what a part of the root leads to, before and after the
  members agree on it (`Floor.Delivered.settled`).
* **`Floor.lookup_sweeps`**: a lookup of the root leaves nothing else.
* **`Floor.Sample.leaves_image`**: an image is left, though every command was done.
-/

namespace KernelCache

open KernelCache.Action

/-- The files that the root sees, and the channel to its worker. -/
structure Floor where
  shelf : Shelf := Shelf.empty
  /-- The command in the channel. -/
  buffer : Bytes := []
  /-- The commands that nobody waits for any longer. -/
  abandoned : List Bytes := []
  asked : List Event := []

/-- The files that a build makes. -/
theorem Config.targets_build (config : Config) (kernel : Kernel) :
    (config.buildTasks kernel).map Task.target = [config.layout.object kernel,
      config.layout.archive, config.layout.image kernel, config.layout.library] := by
  simp only [buildTasks, List.map_cons, List.map_nil, Task.target]

namespace Floor

open Session

variable {α : Type} {tools : Tools} {config : Config} {kernels : Kernel → Prop} {kernel : Kernel}
  {shelf : Shelf} {floor later : Floor} {besides others : List Path} {place : Path}
  {session : Session} {effect : Effect} {reply : effect.Reply}

/-! ### What is answered -/

/-- A command that nobody waits for any longer may change the file. -/
def Busy (tools : Tools) (floor : Floor) (path : Path) : Prop :=
  ∃ command ∈ floor.abandoned, ∃ task, tools.reads command = some task ∧
    path.components = task.target.components

/-- The file that the command in the channel makes. -/
def target? (tools : Tools) (floor : Floor) : Option Path :=
  (tools.reads floor.buffer).map Task.target

/-- The floor with other files. -/
def lay (floor : Floor) (path : Path) (content : Option Artifact) : Floor :=
  { floor with shelf := floor.shelf.put path content }

/-- The floor when a wait has ended; a command that was given up may go on. -/
def giveUp (floor : Floor) : Verdict → Floor
  | .exhausted _ => { floor with abandoned := floor.buffer :: floor.abandoned }
  | _ => floor

/-- The floor after an answer. The file that comes with it, if there is one, has this content. -/
def after (tools : Tools) (floor : Floor) (content : Option Artifact) :
    (effect : Effect) → effect.Reply → Floor
  | .fill command, _ => { floor with buffer := command }
  | .await _, verdict =>
    match floor.target? tools with
    | some path => (floor.lay path content).giveUp verdict
    | none => floor.giveUp verdict
  | .writeSource path _, _ => floor.lay path content
  | .remove path, _ => floor.lay path none
  | _, _ => floor

/-- In an exchange with the group the own flag counts. -/
def Admits : (effect : Effect) → effect.Reply → Prop
  | .combine flag, anyFailed => flag = true → anyFailed = true
  | _, _ => True

/-- What a question may be answered, and the floor afterwards. -/
def Answers (tools : Tools) (floor : Floor) (effect : Effect) (reply : effect.Reply)
    (later : Floor) : Prop :=
  Admits effect reply ∧ ∃ shelf content,
    (∀ path, shelf.find? path = floor.shelf.find? path ∨ floor.Busy tools path) ∧
    later = { ({ floor with shelf }).after tools content effect reply with
      asked := floor.asked ++ [⟨effect, reply⟩] }

/-- Any question may be asked. -/
def loose (tools : Tools) : Contract Floor where
  asks _ _ := True
  answers := Answers tools

/-- The files that an answer may change. -/
def touches (tools : Tools) (floor : Floor) : Effect → List Path
  | .await _ => (floor.target? tools).toList
  | .writeSource path _ | .remove path => [path]
  | _ => []

theorem shelf_giveUp (floor : Floor) (verdict : Verdict) :
    (floor.giveUp verdict).shelf = floor.shelf := by
  cases verdict <;> rfl

theorem abandoned_giveUp (floor : Floor) (verdict : Verdict) :
    floor.abandoned ⊆ (floor.giveUp verdict).abandoned := by
  cases verdict with
  | exhausted exhausted => exact List.subset_cons_self _ _
  | _ => exact List.Subset.refl _

theorem find?_after {content : Option Artifact}
    (untouched : ∀ path ∈ floor.touches tools effect, place.components ≠ path.components) :
    (floor.after tools content effect reply).shelf.find? place = floor.shelf.find? place := by
  cases effect with
  | await policy =>
    unfold after
    cases target : floor.target? tools with
    | none => exact congrArg (·.find? place) (shelf_giveUp floor reply)
    | some path =>
      have apart : place.components ≠ path.components :=
        untouched path (Option.mem_toList.mpr target)
      refine (congrArg (·.find? place) (shelf_giveUp (floor.lay path content) reply)).trans ?_
      exact Shelf.find?_put_of_ne apart
  | writeSource path text => exact Shelf.find?_put_of_ne (untouched path List.mem_cons_self)
  | remove path => exact Shelf.find?_put_of_ne (untouched path List.mem_cons_self)
  | _ => rfl

theorem abandoned_after (content : Option Artifact) :
    floor.abandoned ⊆ (floor.after tools content effect reply).abandoned := by
  cases effect with
  | await policy =>
    unfold after
    cases floor.target? tools with
    | none => exact abandoned_giveUp floor reply
    | some path => exact abandoned_giveUp (floor.lay path content) reply
  | _ => exact List.Subset.refl _

/-- Every question is noted. -/
theorem asked_of_answers (answered : Answers tools floor effect reply later) :
    later.asked = floor.asked ++ [⟨effect, reply⟩] := by
  obtain ⟨-, _, _, -, rfl⟩ := answered
  rfl

/-- A command that nobody waits for is never waited for again. -/
theorem Busy.answered (answered : Answers tools floor effect reply later)
    (busy : floor.Busy tools place) : later.Busy tools place := by
  obtain ⟨-, shelf, content, -, rfl⟩ := answered
  obtain ⟨command, inside, made⟩ := busy
  exact ⟨command, abandoned_after content inside, made⟩

/-! ### Files in between -/

/-- The file is as it was, or gone, unless a command that nobody waits for may change it. -/
def Tidy (tools : Tools) (shelf : Shelf) (floor : Floor) (place : Path) : Prop :=
  floor.shelf.find? place = shelf.find? place ∨ floor.shelf.find? place = none ∨
    floor.Busy tools place

theorem Tidy.answered (answered : Answers tools floor effect reply later)
    (untouched : ∀ path ∈ floor.touches tools effect, place.components ≠ path.components)
    (tidy : floor.Tidy tools shelf place) : later.Tidy tools shelf place := by
  have busy : floor.Busy tools place → later.Busy tools place := Busy.answered answered
  obtain ⟨-, drifted, content, drifts, rfl⟩ := answered
  have same : (({ floor with shelf := drifted }).after tools content effect reply).shelf.find?
      place = drifted.find? place := find?_after untouched
  rcases drifts place with still | moves
  · rcases tidy with before | gone | works
    · exact .inl (same.trans (still.trans before))
    · exact .inr (.inl (same.trans (still.trans gone)))
    · exact .inr (.inr (busy works))
  · exact .inr (.inr (busy moves))

/-- **What is removed is gone.** -/
theorem tidy_removed {path : Path} {reply : Unit}
    (answered : Answers tools floor (.remove path) reply later)
    (same : place.components = path.components) : later.Tidy tools shelf place := by
  obtain ⟨-, drifted, content, -, rfl⟩ := answered
  exact .inr (.inl (Shelf.find?_put_same same))

/-- All files in between are tidy, besides some. -/
def Swept (tools : Tools) (config : Config) (kernel : Kernel) (shelf : Shelf) (besides : List Path)
    (floor : Floor) : Prop :=
  ∀ place ∈ config.removable kernel, (∀ path ∈ besides, place.components ≠ path.components) →
    floor.Tidy tools shelf place

namespace Swept

variable (swept : Swept tools config kernel shelf besides floor)
include swept

theorem mono (more : besides ⊆ others) : Swept tools config kernel shelf others floor :=
  fun place between apart => swept place between fun path inside => apart path (more inside)

/-- Files that are not in between need no mention. -/
theorem prune (more : ∀ path ∈ besides, path ∈ others ∨
    ∀ place ∈ config.removable kernel, path.components ≠ place.components) :
    Swept tools config kernel shelf others floor := by
  refine fun place between apart => swept place between fun path inside => ?_
  rcases more path inside with kept | foreign
  · exact apart path kept
  · exact (foreign place between).symm

theorem answered (answered : Answers tools floor effect reply later) :
    Swept tools config kernel shelf (floor.touches tools effect ++ besides) later :=
  fun place between apart =>
    (swept place between fun path inside => apart path (List.mem_append_right _ inside)).answered
      answered fun path inside => apart path (List.mem_append_left _ inside)

end Swept

theorem Swept.removed {path : Path} {reply : Unit}
    (swept : Swept tools config kernel shelf (path :: besides) floor)
    (answered : Answers tools floor (.remove path) reply later) :
    Swept tools config kernel shelf besides later := by
  intro place between apart
  by_cases here : place.components = path.components
  · exact tidy_removed answered here
  · refine (swept place between (List.forall_mem_cons.mpr ⟨here, apart⟩)).answered answered ?_
    exact List.forall_mem_singleton.mpr here

/-- Nothing was changed yet. -/
theorem swept_start (floor : Floor) : Swept tools config kernel floor.shelf [] floor :=
  fun _ _ _ => .inl rfl

/-! ### The commands -/

/-- The last question was a wait for a command that is done. -/
def Acknowledged (floor : Floor) : Prop :=
  ∃ policy, [⟨.await policy, Verdict.acknowledged⟩] <:+ floor.asked

theorem suffix_answered (answered : Answers tools floor effect reply later) :
    [⟨effect, reply⟩] <:+ later.asked := by
  rw [asked_of_answers answered]
  exact List.suffix_append _ _

/-- A command may change its target. -/
theorem secures_call {task : Task} {step : Step} {command : Bytes}
    (reads : tools.reads command = some task) (coordinator : Coordinator)
    (swept : Swept tools config kernel shelf besides floor) :
    Secures (loose tools) (Coordinator.call step command) (fun outcome _ last =>
        Swept tools config kernel shelf (task.target :: besides) last ∧
          (outcome = .ok () → last.Acknowledged)) coordinator floor := by
  unfold Secures
  rw [Coordinator.run_call]
  cases coordinator.refusal? command with
  | some failure => exact ⟨swept.mono (List.subset_cons_self _ _), nofun⟩
  | none =>
    refine ⟨trivial, ?_⟩
    rintro (word : UInt32) seen looked
    have swept := swept.answered looked
    beta_reduce
    split
    · refine ⟨trivial, fun _ filled fills => ⟨trivial, fun _ posted posts => ⟨trivial, ?_⟩⟩⟩
      rintro verdict last waits
      have target : posted.target? tools = some task.target := by
        obtain ⟨-, _, _, -, rfl⟩ := posts
        obtain ⟨-, _, _, -, rfl⟩ := fills
        exact congrArg (Option.map Task.target) reads
      have swept := ((swept.answered fills).answered posts).answered waits
      rw [touches, target] at swept
      refine ⟨swept, fun done => ⟨coordinator.policy, ?_⟩⟩
      cases verdict with
      | acknowledged => exact suffix_answered waits
      | left code => cases done
      | exhausted exhausted => cases done
    · exact ⟨swept.mono (List.subset_cons_self _ _), nofun⟩

/-- **Commands in order** may change their targets. -/
theorem secures_callAll {tasks : List Task} {steps : List (Step × Bytes)}
    (reads : ∀ task ∈ tasks, ∀ command, task.command config = .ok command →
      tools.reads command = some task)
    (written : config.written tasks = .ok steps) (session : Session)
    (swept : Swept tools config kernel shelf besides floor) :
    Secures (loose tools) (callAll steps) (fun outcome later last =>
        later.besides = session.besides ∧
          Swept tools config kernel shelf (tasks.map Task.target ++ besides) last ∧
          (outcome = .ok () → tasks ≠ [] ∨ floor.Acknowledged → last.Acknowledged))
      session floor := by
  have each := Config.written_eq_ok_iff.mp written
  clear written
  induction each generalizing session floor besides with
  | nil => exact Secures.pure ⟨rfl, swept, fun _ done => done.resolve_left (absurd rfl)⟩
  | @cons task step rest steps here _ ih =>
    obtain ⟨read, reads⟩ := List.forall_mem_cons.mp reads
    refine Secures.bind (fun outcome later last => later.besides = session.besides ∧
        Swept tools config kernel shelf (task.target :: besides) last ∧
          (outcome = .ok () → last.Acknowledged)) ?_ ?_ ?_
    · cases owned : session.coordinator with
      | none =>
        exact secures_onCoordinator_none owned
          ⟨rfl, swept.mono (List.subset_cons_self _ _), nofun⟩
      | some coordinator =>
        exact secures_onCoordinator owned (secures_call (read _ here.2) coordinator swept)
          fun _ _ _ called => ⟨rfl, called⟩
    · rintro _ later last ⟨same, swept, acknowledged⟩
      refine (ih reads later swept).mono ?_
      rintro outcome _ past ⟨same', swept, ends⟩
      exact ⟨same'.trans same, swept.mono List.perm_middle.subset,
        fun done _ => ends done (.inr (acknowledged rfl))⟩
    · rintro failure _ last ⟨same, swept, -⟩
      refine ⟨same, swept.mono ?_, nofun⟩
      exact List.cons_subset_cons _ (List.subset_append_right _ _)

/-- A file is removed. -/
theorem secures_remove {path : Path} {next : Unit → SessionM α}
    {post : Except Failure α → Session → Floor → Prop}
    (swept : Swept tools config kernel shelf (path :: besides) floor)
    (rest : ∀ last, Swept tools config kernel shelf besides last →
      [⟨.remove path, ()⟩] <:+ last.asked → Secures (loose tools) (next ()) post session last) :
    Secures (loose tools) (liftM (Action.remove path) >>= next) post session floor := by
  refine Secures.ask trivial ?_
  rintro _ last removes
  exact rest last (swept.removed removes) (suffix_answered removes)

/-! ### What may be left -/

/-- What may be left when a lookup fails: a source that could not be written, or an image that was
made, when another member has failed in between. -/
inductive Excused (config : Config) (kernel : Kernel) (asked : List Event) : Failure → Path → Prop
  | unwritten (fault : Fault) : Excused config kernel asked (.io .writeSource fault)
      (config.sourceFile kernel)
  | unrestored {policy : PollPolicy} (rank : UInt32)
      (denied : [⟨.await policy, Verdict.acknowledged⟩, ⟨.combine false, true⟩] <:+ asked) :
      Excused config kernel asked (.sync rank) config.layout.relinked
  | unbuilt (rank : UInt32)
      (denied : [⟨.remove (config.layout.object kernel), ()⟩, ⟨.combine false, true⟩] <:+ asked) :
      Excused config kernel asked (.sync rank) (config.layout.image kernel)

/-- After a failure elsewhere, the last question was an exchange in which the own flag was down. -/
theorem Excused.getLast?_eq {asked : List Event} {rank : UInt32} {path : Path}
    (excused : Excused config kernel asked (.sync rank) path) :
    asked.getLast? = some ⟨.combine false, true⟩ := by
  cases excused with
  | unrestored _ denied =>
    obtain ⟨front, rfl⟩ := denied
    exact List.getLast?_append_of_ne_nil _ (List.cons_ne_nil _ _)
  | unbuilt _ denied =>
    obtain ⟨front, rfl⟩ := denied
    exact List.getLast?_append_of_ne_nil _ (List.cons_ne_nil _ _)

/-- All files in between are tidy, besides those that a success keeps, or a failure may leave. -/
def Closed (tools : Tools) (config : Config) (kernel : Kernel) (shelf : Shelf)
    (kept : α → List Path) : Except Failure α → Floor → Prop
  | .ok value, floor => Swept tools config kernel shelf (kept value) floor
  | .error failure, floor => ∃ besides, Swept tools config kernel shelf besides floor ∧
      ∀ path ∈ besides, Excused config kernel floor.asked failure path

/-- What a part of the root leads to, before the others are asked. An image that it keeps may be
left when one of them has failed. -/
structure Delivered (tools : Tools) (config : Config) (kernel : Kernel) (shelf : Shelf)
    (kept : α → List Path) (outcome : Except Failure α) (floor : Floor) : Prop where
  good : ∀ value, outcome = .ok value → Swept tools config kernel shelf (kept value) floor ∧
    ∀ rank, ∀ path ∈ kept value,
      Excused config kernel (floor.asked ++ [⟨.combine false, true⟩]) (.sync rank) path
  bad : ∀ failure, outcome = .error failure →
    ∃ besides, Swept tools config kernel shelf besides floor ∧
      ∀ asked, ∀ path ∈ besides, Excused config kernel asked failure path

section

variable {kept : α → List Path} {outcome : Except Failure α}

theorem Swept.closed (swept : Swept tools config kernel shelf [] floor)
    (outcome : Except Failure α) : Closed tools config kernel shelf kept outcome floor := by
  cases outcome with
  | ok value => exact swept.mono (List.nil_subset _)
  | error failure => exact ⟨[], swept, nofun⟩

theorem Swept.delivered (swept : Swept tools config kernel shelf [] floor)
    (nothing : ∀ value, outcome = .ok value → kept value = []) :
    Delivered tools config kernel shelf kept outcome floor := by
  refine ⟨fun value same => ?_, fun failure _ => ⟨[], swept, nofun⟩⟩
  rw [nothing value same]
  exact ⟨swept, nofun⟩

/-- **An outcome that the members agree on.** -/
theorem Delivered.settled {anyFailed : Bool}
    (delivered : Delivered tools config kernel shelf kept outcome floor)
    (answered : Answers tools floor (.combine (failed outcome)) anyFailed later)
    (member : Member) :
    Closed tools config kernel shelf kept (member.settle outcome anyFailed) later := by
  cases outcome with
  | error failure =>
    obtain ⟨besides, swept, excused⟩ := delivered.bad failure rfl
    exact ⟨besides, swept.answered answered, excused _⟩
  | ok value =>
    obtain ⟨swept, excused⟩ := delivered.good value rfl
    cases anyFailed with
    | true =>
      refine ⟨kept value, swept.answered answered, ?_⟩
      rw [asked_of_answers answered]
      exact excused member.rank
    | false => exact swept.answered answered

end

/-! ### The two series of commands -/

/-- The temporary image is kept when the library was restored. -/
def keptRelinked (config : Config) (restored : Bool) : List Path :=
  if restored then [config.layout.relinked] else []

section

variable (distinct : config.Distinct kernels) (listed : kernels kernel)
  (reads : tools.Reads config kernels)
include distinct listed reads

theorem secures_relink (settings : session.config = config)
    (swept : Swept tools config kernel shelf [] floor) :
    Secures (loose tools) relink (fun outcome later last => later.besides = session.besides ∧
        Delivered tools config kernel shelf (keptRelinked config) outcome last)
      session floor := by
  subst settings
  refine Secures.get (Secures.ask trivial ?_)
  rintro (present : Bool) seen looked
  have swept := swept.answered looked
  split
  · refine secures_prepared (fun steps written _ => ?_) fun _ => ⟨rfl, swept.delivered nofun⟩
    have listing := (Config.relinkSteps_eq session.config).symm.trans written
    refine secures_observing _ (secures_callAll (fun task inside => reads kernel listed task
      (List.mem_append_left _ inside)) listing session swept) ?_
    rintro outcome later last ⟨same, swept, ends⟩
    have swept : Swept tools session.config kernel shelf [session.config.layout.relinked] last := by
      refine swept.prune (List.forall_mem_cons.mpr ⟨.inl List.mem_cons_self, ?_⟩)
      exact List.forall_mem_singleton.mpr (.inr fun _ => distinct.library_ne listed)
    cases outcome with
    | error failure =>
      exact secures_remove swept fun final swept _ => ⟨same, swept.delivered nofun⟩
    | ok value =>
      obtain ⟨policy, acknowledged⟩ := ends rfl (.inl nofun)
      refine ⟨same, fun restored done => ?_, nofun⟩
      obtain rfl := Except.ok.inj done
      have denied : [⟨.await policy, Verdict.acknowledged⟩, ⟨.combine false, true⟩] <:+
          last.asked ++ [⟨.combine false, true⟩] := List.suffix_append_self_iff.mpr acknowledged
      exact ⟨swept, fun rank => List.forall_mem_singleton.mpr (.unrestored rank denied)⟩
  · refine Secures.pure ⟨rfl, swept.delivered fun restored same => ?_⟩
    rw [← Except.ok.inj same]
    rfl

/-- The image is kept when a kernel was built, and the source is left when it could not be
written. -/
theorem secures_build (settings : session.config = config)
    (swept : Swept tools config kernel shelf [] floor) :
    Secures (loose tools) (build kernel) (fun outcome later last =>
        later.besides = session.besides ∧
        Delivered tools config kernel shelf (fun _ => [config.layout.image kernel]) outcome last)
      session floor := by
  subst settings
  refine Secures.get (secures_prepared (fun steps written _ => ?_)
    fun _ => ⟨rfl, swept.delivered nofun⟩)
  have listing := (Config.buildSteps_eq session.config kernel).symm.trans written
  refine Secures.ask trivial ?_
  rintro (fault | value) idle writes
  · refine Secures.throw ⟨rfl, nofun, fun failure same => ?_⟩
    obtain rfl := Except.error.inj same
    exact ⟨_, swept.answered writes, fun _ => List.forall_mem_singleton.mpr (.unwritten fault)⟩
  · refine secures_observing _ (secures_callAll (fun task inside => reads kernel listed task
      (List.mem_append_right _ inside)) listing session (swept.answered writes)) ?_
    rintro outcome later last ⟨same, swept, -⟩
    have swept : Swept tools session.config kernel shelf [session.config.sourceFile kernel,
        session.config.layout.object kernel, session.config.layout.image kernel] last := by
      rw [Config.targets_build] at swept
      refine swept.prune fun path inside => ?_
      have made : path ∈ [session.config.layout.object kernel, session.config.layout.archive,
        session.config.layout.image kernel, session.config.layout.library,
        session.config.sourceFile kernel] := inside
      simp only [List.mem_cons, List.not_mem_nil, or_false] at made ⊢
      obtain object | archive | image | library | source := made
      · exact .inl (.inr (.inl object))
      · exact .inr fun _ between => archive ▸ distinct.archive_ne listed between
      · exact .inl (.inr (.inr image))
      · exact .inr fun _ between => library ▸ distinct.library_ne listed between
      · exact .inl (.inl source)
    refine secures_remove swept fun last' swept _ => ?_
    refine secures_remove swept fun last'' swept removed => ?_
    cases outcome with
    | ok value =>
      have denied : [⟨.remove (session.config.layout.object kernel), ()⟩,
          ⟨.combine false, true⟩] <:+ last''.asked ++ [⟨.combine false, true⟩] :=
        List.suffix_append_self_iff.mpr removed
      refine secures_resolved ⟨same, fun _ _ => ⟨swept, fun rank => ?_⟩, nofun⟩
      exact List.forall_mem_singleton.mpr (.unbuilt rank denied)
    | error failure =>
      exact secures_remove swept fun final swept _ =>
        secures_resolved ⟨same, swept.delivered nofun⟩

end

/-- The session is that of the root. -/
structure Leads (config : Config) (session : Session) : Prop where
  settings : session.config = config
  root : session.member.isRoot = true
  layout : session.cache.layout = config.layout

theorem Leads.of_besides {last : Session} (leads : Leads config session)
    (same : last.besides = session.besides) : Leads config last where
  settings := (congrArg Prod.fst same).trans leads.settings
  root := (congrArg (·.2.1.isRoot) same).trans leads.root
  layout := (congrArg (·.2.2.layout) same).trans leads.layout

/-! ### A lookup, part by part -/

theorem secures_probe (leads : Leads config session)
    (swept : Swept tools config kernel shelf [] floor) :
    Secures (loose tools) (onCache Cache.probe) (fun _ later last =>
        Leads config later ∧ Swept tools config kernel shelf [] last) session floor := by
  have leads' (cache : Cache) (layout : cache.layout = session.cache.layout) :
      Leads config { session with cache } := ⟨leads.settings, leads.root, layout.trans leads.layout⟩
  show Fulfils _ _ ((Cache.probe.run.run session.cache).bind _) floor
  rw [Cache.run_probe]
  refine ⟨trivial, ?_⟩
  rintro (there : Bool) seen looked
  have swept := swept.answered looked
  cases there with
  | false => exact ⟨leads' _ rfl, swept⟩
  | true =>
    refine ⟨trivial, ?_⟩
    rintro opened last opens
    have swept := swept.answered opens
    rcases opened with fault | image
    · exact ⟨leads' _ rfl, swept⟩
    · exact ⟨leads' _ rfl, swept⟩

/-- **A fresh image is removed** by the root, whatever came of it. -/
theorem secures_loadFresh {path : Path} (use : Image → Except Failure α)
    (leads : Leads config session) (swept : Swept tools config kernel shelf [path] floor) :
    Secures (loose tools) (loadFresh path use) (fun _ later last =>
        Leads config later ∧ Swept tools config kernel shelf [] last) session floor := by
  refine secures_fresh (fun _ later last =>
    Leads config later ∧ Swept tools config kernel shelf [path] last) trivial ?_ ?_ ?_
  · exact fun _ _ opens => ⟨⟨leads.settings, leads.root, leads.layout⟩, swept.answered opens⟩
  · exact fun _ _ _ opens => ⟨leads, swept.answered opens⟩
  · rintro outcome later last ⟨leads, swept⟩
    refine ⟨trivial, fun anyFailed further answered => ?_⟩
    rw [if_pos leads.root]
    exact secures_remove (swept.answered answered) fun final swept _ =>
      secures_resolved ⟨leads, swept⟩

section

variable (distinct : config.Distinct kernels) (listed : kernels kernel)
  (reads : tools.Reads config kernels)
include distinct listed reads

/-- The library is opened, and may be restored. -/
theorem secures_probeLibrary (leads : Leads config session)
    (swept : Swept tools config kernel shelf [] floor) :
    Secures (loose tools) probeLibrary (fun outcome later last => Leads config later ∧
        Closed tools config kernel shelf (fun _ => []) outcome last) session floor := by
  refine Secures.bind _ (secures_probe leads swept) ?_
    fun _ _ _ ⟨leads, swept⟩ => ⟨leads, swept.closed _⟩
  rintro loaded later seen ⟨leads, swept⟩
  refine Secures.ask trivial ?_
  rintro (anyFailed : Bool) heard answered
  have swept := swept.answered answered
  split
  · have restores : Secures (loose tools)
        (do if (← get).member.isRoot then relink else return false) (fun outcome last past =>
          last.besides = later.besides ∧
          Delivered tools config kernel shelf (keptRelinked config) outcome past) later heard := by
      refine Secures.get ?_
      rw [if_pos leads.root]
      exact secures_relink distinct listed reads leads.settings swept
    refine secures_observing _ restores ?_
    rintro outcome after middle ⟨same, delivered⟩
    have leads := leads.of_besides same
    refine Secures.bind (fun relinked last past => Leads config last ∧
        Closed tools config kernel shelf (keptRelinked config) relinked past) ?_ ?_
      fun _ _ _ closed => closed
    · exact secures_agree trivial fun anyFailed past answered =>
        ⟨leads, delivered.settled answered _⟩
    · rintro restored last past ⟨leads, swept⟩
      refine Secures.ask trivial ?_
      rintro (anyRelinked : Bool) final answered
      have counts : restored = true → anyRelinked = true := answered.1
      have swept := Swept.answered swept answered
      split
      · refine Secures.get ?_
        rw [leads.layout]
        refine (secures_loadFresh _ leads (swept.mono ?_)).mono
          fun _ _ _ ⟨leads, swept⟩ => ⟨leads, swept.closed _⟩
        cases restored with
        | true => exact List.Subset.refl _
        | false => exact List.nil_subset _
      · rename_i unrestored
        obtain rfl : restored = false := Bool.eq_false_iff.mpr (unrestored ∘ counts)
        exact Secures.pure ⟨leads, swept⟩
  · exact Secures.pure ⟨leads, swept⟩

/-- Up to the build, at most the temporary image is left. -/
theorem secures_approach (leads : Leads config session)
    (swept : Swept tools config kernel shelf [] floor) :
    Secures (loose tools) (approach kernel) (fun outcome later last => Leads config later ∧
        Closed tools config kernel shelf (fun _ => []) outcome last) session floor := by
  have searches {later : Session} {last : Floor} (leads : Leads config later)
      (swept : Swept tools config kernel shelf [] last) :
      Secures (loose tools) (search kernel) (fun outcome later last => Leads config later ∧
        Closed tools config kernel shelf (fun _ => []) outcome last) later last := by
    refine Secures.get (Secures.ask trivial ?_)
    rintro (anyoneMissed : Bool) past answered
    have swept := swept.answered answered
    cases later.cache.resolve? kernel.symbol with
    | none => exact Secures.pure ⟨leads, swept⟩
    | some symbol =>
      cases anyoneMissed with
      | true => exact Secures.pure ⟨leads, swept⟩
      | false =>
        exact Secures.modify (Secures.pure ⟨⟨leads.settings, leads.root, leads.layout⟩, swept⟩)
  refine Secures.get ?_
  cases session.cache.remembered? kernel.hash with
  | some symbol => exact Secures.pure ⟨leads, swept⟩
  | none =>
    refine Secures.get ?_
    cases session.cache.probed with
    | true => exact searches leads swept
    | false =>
      refine Secures.bind _ (secures_probeLibrary distinct listed reads leads swept) ?_
        fun _ _ _ closed => closed
      exact fun _ _ _ ⟨leads, swept⟩ => searches leads swept

/-- The kernel is built and loaded. -/
theorem secures_buildAndLoad (leads : Leads config session)
    (swept : Swept tools config kernel shelf [] floor) :
    Secures (loose tools) (buildAndLoad kernel) (fun outcome _ last =>
        Closed tools config kernel shelf (fun _ => []) outcome last) session floor := by
  have builds : Secures (loose tools)
      (do if (← get).member.isRoot then build kernel else return ()) (fun outcome later last =>
        later.besides = session.besides ∧
        Delivered tools config kernel shelf (fun _ => [config.layout.image kernel]) outcome last)
      session floor := by
    refine Secures.get ?_
    rw [if_pos leads.root]
    exact secures_build distinct listed reads leads.settings swept
  refine secures_observing _ builds ?_
  rintro built later middle ⟨same, delivered⟩
  have leads := leads.of_besides same
  refine Secures.bind (fun agreed last past => Leads config last ∧
      Closed tools config kernel shelf (fun _ => [config.layout.image kernel]) agreed past) ?_ ?_
    fun _ _ _ ⟨_, closed⟩ => closed
  · exact secures_agree trivial fun anyFailed past answered => ⟨leads, delivered.settled answered _⟩
  · rintro value last past ⟨leads, swept⟩
    refine Secures.get ?_
    rw [leads.layout]
    exact (secures_loadFresh _ leads swept).mono fun _ _ _ ⟨_, swept⟩ => swept.closed _

/-- **A lookup of the root**, whatever comes of its commands. -/
theorem secures_lookup (leads : Leads config session)
    (swept : Swept tools config kernel shelf [] floor) :
    Secures (loose tools) (lookup kernel) (fun outcome _ last =>
        Closed tools config kernel shelf (fun _ => []) outcome last) session floor := by
  rw [lookup_eq]
  refine Secures.bind _ (secures_approach distinct listed reads leads swept) ?_
    fun _ _ _ ⟨_, closed⟩ => closed
  rintro (_ | symbol) later last ⟨leads, swept⟩
  · refine Secures.bind _ (secures_buildAndLoad distinct listed reads leads swept) ?_
      fun _ _ _ closed => closed
    exact fun _ _ _ swept => Secures.modify (Secures.pure swept)
  · exact Secures.pure swept

end

/-- **A lookup tidies up after itself.** Whatever comes of its commands, of the loader and of the
other members, each file in between is as the lookup of the root has found it, or gone, unless

* a command that nobody waits for any longer may still make it, or
* it is the source, and could not be written, or
* it is an image that was made, and the last question was an exchange in which only another member
  had failed. -/
theorem lookup_sweeps (distinct : config.Distinct kernels) (listed : kernels kernel)
    (reads : tools.Reads config kernels) (settings : session.config = config)
    (root : session.member.isRoot = true) (layout : session.cache.layout = config.layout)
    {outcome : Except Failure KernelSymbol} {after : Session} {last : Floor}
    (looks : ((lookup kernel).run.run session).Yields (loose tools) floor (outcome, after) last) :
    ∀ place ∈ config.removable kernel,
      last.shelf.find? place = floor.shelf.find? place ∨ last.shelf.find? place = none ∨
      last.Busy tools place ∨
      ∃ failure, outcome = .error failure ∧
        ∃ path, Excused config kernel last.asked failure path ∧
          place.components = path.components := by
  have closed := (secures_lookup distinct listed reads ⟨settings, root, layout⟩
    (swept_start floor)).yields looks
  intro place between
  cases outcome with
  | ok symbol =>
    exact (closed place between nofun).imp_right fun gone => gone.imp_right fun busy => .inl busy
  | error failure =>
    obtain ⟨besides, swept, excused⟩ := closed
    by_cases left : ∃ path ∈ besides, place.components = path.components
    · obtain ⟨path, inside, same⟩ := left
      exact .inr (.inr (.inr ⟨failure, rfl, path, excused path inside, same⟩))
    · have tidy := swept place between fun path inside same => left ⟨path, inside, same⟩
      exact tidy.imp_right fun gone => gone.imp_right fun busy => .inl busy

end Floor

/-! ### Two members -/

namespace Floor.Sample

open Session Bench.Sample

/-- The session of the root, next to another member. -/
def session : Session :=
  assemble {} (.ofRank 0 2) (some { policy := ({} : Config).poll.policy })

/-- The exchanges with the group so far. -/
def exchanges (asked : List Event) : Nat :=
  asked.countP fun event => match event.effect with
    | .combine _ => true
    | _ => false

/-- Every command is done and every image can be loaded; the other member fails before the exchange
with this number. -/
def respond (failing : Nat) (floor : Floor) : (effect : Effect) → effect.Reply
  | .combine flag => flag || exchanges floor.asked == failing
  | .look => Channel.readyWord
  | .await _ => Verdict.acknowledged
  | .present path => (floor.shelf.find? path).isSome
  | .openImage path =>
    match floor.shelf.find? path with
    | some (.image definitions) => Except.ok (Tools.display sources definitions)
    | _ => Except.error (path, .image "the file is no complete image")
  | .hire _ | .writeSource _ _ | .release => Except.ok ()
  | .reap | .join => Except.ok none
  | .fill _ | .post _ | .kill | .remove _ => ()

/-- What the file holds that comes with an answer. -/
def content (floor : Floor) : Effect → Option Artifact
  | .await _ => (tools.reads floor.buffer).bind (Task.made? tools floor.shelf)
  | .writeSource _ text => some (.text text)
  | _ => none

def oblige (failing : Nat) (effect : Effect) : StateM Floor effect.Reply := fun floor =>
  (respond failing floor effect,
    { floor.after tools (content floor effect) effect (respond failing floor effect) with
      asked := floor.asked ++ [⟨effect, respond failing floor effect⟩] })

theorem answers_oblige (failing : Nat) (floor : Floor) (effect : Effect) :
    (loose tools).answers floor effect ((oblige failing effect).run floor).1
      ((oblige failing effect).run floor).2 := by
  refine ⟨?_, floor.shelf, content floor effect, fun _ => .inl rfl, rfl⟩
  cases effect with
  | combine flag => exact Bool.or_eq_true_iff.mpr ∘ .inl
  | _ => trivial

/-- The first kernel is looked up, over no files at all. -/
def ended (failing : Nat) : (Except Failure KernelSymbol × Session) × Floor :=
  (((lookup first).run.run session).run (oblige failing)).run {}

theorem looks (failing : Nat) : ((lookup first).run.run session).Yields (loose tools) {}
    (ended failing).1 (ended failing).2 :=
  yields_of_run (answers_oblige failing) rfl

/-- The other member cannot load the image: the lookup fails, and all files in between are gone. -/
theorem lookup_sweeps_unloaded :
    (ended 5).1.1 = .error (.sync 0) ∧
      ∀ place ∈ ({} : Config).removable first, (ended 5).2.shelf.find? place = none := by
  have seen : (ended 5).1.1 = .error (.sync 0) ∧ (ended 5).2.abandoned = [] ∧
      (ended 5).2.asked.getLast? = some ⟨.remove (({} : Config).layout.image first), ()⟩ := by
    decide +kernel
  obtain ⟨failed, idle, last⟩ := seen
  have sweeps := lookup_sweeps suits.distinct List.mem_cons_self suits.reads rfl rfl rfl (looks 5)
  refine ⟨failed, fun place between => ?_⟩
  rcases sweeps place between with same | gone | ⟨command, inside, -⟩ | ⟨failure, fails, left⟩
  · exact same
  · exact gone
  · rw [idle] at inside
    exact (List.not_mem_nil inside).elim
  · obtain rfl := Except.error.inj (failed.symm.trans fails)
    obtain ⟨path, excused, -⟩ := left
    cases last.symm.trans excused.getLast?_eq

/-- **An image is left.** Every command was done, but the other member fails before the exchange
about the build; nobody removes the image. -/
theorem leaves_image : ∃ after last,
    ((lookup first).run.run session).Yields (loose tools) {} (.error (.sync 0), after) last ∧
      last.abandoned = [] ∧
      last.shelf.find? (({} : Config).sourceFile first) = none ∧
      last.shelf.find? (({} : Config).layout.object first) = none ∧
      last.shelf.find? (({} : Config).layout.image first) ≠ none := by
  have seen : (ended 4).1.1 = .error (.sync 0) ∧ (ended 4).2.abandoned = [] ∧
      (ended 4).2.shelf.find? (({} : Config).sourceFile first) = none ∧
      (ended 4).2.shelf.find? (({} : Config).layout.object first) = none ∧
      (ended 4).2.shelf.find? (({} : Config).layout.image first) ≠ none := by decide +kernel
  refine ⟨(ended 4).1.2, (ended 4).2, ?_, seen.2⟩
  rw [← seen.1]
  exact looks 4

end Floor.Sample

end KernelCache
