import KernelCache.Proofs.Action.Contract
import KernelCache.Proofs.Workshop.Shelf

/-
**A member at work.**

A member sees the files, the images that its process has opened, and the channel to its worker. The
worker runs the command in the buffer when a call is posted; one that is not waited for any longer
may still come to its end later.

* `Bench.Late`: the command of a worker that is still at work comes to its end.
* `Bench.Answers tools strict`: how questions are answered. An opening finds the image that was
  opened under the same path, as long as the path leads somewhere. `strict` surroundings are those
  of a single process where a command that fails leaves its target as it was, and every complete
  image can be loaded; otherwise a command that fails may leave a part of what it was to make.
* `Bench.workplace` is the contract, `Bench.exists_answer` says that every question has an answer.
* `Bench.oblige` answers where every command succeeds that can.
-/

namespace KernelCache

open KernelCache.Action

/-- The files, and what one member has besides: the images that its process has opened, and the
channel to its worker. -/
structure Bench where
  shelf : Shelf := Shelf.empty
  /-- The definitions in the opened images, by their paths, as long as an opening is held. -/
  opened : List (List Component × List Definition) := []
  word : UInt32 := Channel.readyWord
  buffer : Bytes := []
  /-- The commands that were handed to the worker. -/
  handed : List Bytes := []
  /-- A command that the worker is still at, though nobody waits for it. -/
  working : Option Bytes := none

namespace Bench

/-- The bench with other files. -/
def lay (bench : Bench) (path : Path) (content : Option Artifact) : Bench :=
  { bench with shelf := bench.shelf.put path content }

/-- The bench after the worker has taken the command in the buffer. -/
def take (bench : Bench) : Bench :=
  { bench with handed := bench.handed ++ [bench.buffer] }

section
variable {bench : Bench} {path other : Path} {content : Option Artifact}

theorem find?_lay_same (same : other.components = path.components) :
    (bench.lay path content).shelf.find? other = content :=
  Shelf.find?_put_same same

theorem find?_lay_of_ne (differ : other.components ≠ path.components) :
    (bench.lay path content).shelf.find? other = bench.shelf.find? other :=
  Shelf.find?_put_of_ne differ

theorem offers_lay_of_ne (differ : other.components ≠ path.components) {name : String} :
    (bench.lay path content).shelf.Offers other name ↔ bench.shelf.Offers other name := by
  rw [Shelf.Offers, Shelf.Offers, find?_lay_of_ne differ]

end

/-- A worker that is still at a command may come to its end. -/
inductive Late (tools : Tools) : Bench → Bench → Prop where
  | still (bench : Bench) : Late tools bench bench
  | ends {bench : Bench} {command : Bytes} {task : Task} {content : Artifact}
      (working : bench.working = some command) (reads : tools.reads command = some task)
      (made : task.made? tools bench.shelf = some content) :
      Late tools bench { bench.lay task.target (some content) with
        working := none, word := Channel.readyWord }

/-- What a command that failed may leave in its target. -/
def Spoilt (tools : Tools) (bench : Bench) (task : Task) (content : Option Artifact) : Prop :=
  content = bench.shelf.find? task.target ∨ content = none ∨
    ∃ rest, content = some rest ∧ (∀ bytes, rest ≠ .text bytes) ∧
      ∀ definition ∈ rest.definitions, definition ∈ task.material tools bench.shelf

/-- The worker serves the command in the buffer. -/
def Serves (tools : Tools) (strict : Bool) (bench : Bench) : Verdict → Bench → Prop
  | .acknowledged, later => ∃ task content, tools.reads bench.buffer = some task ∧
      task.made? tools bench.shelf = some content ∧
      later = { bench.take.lay task.target (some content) with word := Channel.readyWord }
  | .left _, later => later = bench.take ∨ strict = false ∧ ∃ task content,
      tools.reads bench.buffer = some task ∧ Spoilt tools bench task content ∧
      later = bench.take.lay task.target content
  | .exhausted _, later => later = { bench.take with working := some bench.buffer }

/-- An image is opened. -/
def Opens (tools : Tools) (strict : Bool) (bench : Bench) (path : Path) :
    Except (Path × LoadFault) Image → Bench → Prop
  | .ok image, later => ∃ definitions, tools.shows definitions image ∧
      bench.shelf.find? path ≠ none ∧
      (bench.opened.lookup path.components = some definitions ∧ later = bench ∨
        bench.opened.lookup path.components = none ∧
          bench.shelf.find? path = some (.image definitions) ∧
          later = { bench with opened := (path.components, definitions) :: bench.opened })
  | .error _, later => later = bench ∧ (strict = true → bench.shelf.find? path = none ∨
      bench.opened.lookup path.components = none ∧
        ∀ definitions, bench.shelf.find? path ≠ some (.image definitions))

/-- No file changes when an image is opened. -/
theorem shelf_of_opens {tools : Tools} {strict : Bool} {bench later : Bench} {path : Path}
    {opened : Except (Path × LoadFault) Image} (opens : Opens tools strict bench path opened later) :
    later.shelf = bench.shelf := by
  cases opened with
  | error fault => rw [opens.1]
  | ok image =>
    obtain ⟨-, -, -, ⟨-, rfl⟩ | ⟨-, -, rfl⟩⟩ := opens
    · rfl
    · rfl

/-- What a question may be answered, and the bench afterwards. -/
def Replies (tools : Tools) (strict : Bool) (bench : Bench) :
    (effect : Effect) → effect.Reply → Bench → Prop
  | .combine flag, anyFailed, later => (strict = true → anyFailed = flag) ∧ later = bench
  | .hire _, _, later => later = { bench with word := Channel.readyWord }
  | .look, word, later => word = bench.word ∧ later = bench
  | .fill command, _, later => later = { bench with buffer := command }
  | .post word, _, later => later = { bench with word }
  | .await _, verdict, later =>
    if bench.word = Channel.callWord then Serves tools strict bench verdict later
    else ∃ word, (verdict = .acknowledged → word = Channel.readyWord) ∧ later = { bench with word }
  | .present path, there, later => there = (bench.shelf.find? path).isSome ∧ later = bench
  | .openImage path, opened, later => Opens tools strict bench path opened later
  | .writeSource path text, .ok _, later => later = bench.lay path (some (.text text))
  | .writeSource path _, .error _, later =>
    later = bench ∨ later = bench.lay path none ∨ later = bench.lay path (some .scrap)
  | .remove path, _, later => later = bench ∨ later = bench.lay path none
  | .reap, _, later | .join, _, later | .kill, _, later | .release, _, later => later = bench

theorem serves_of_replies {tools : Tools} {strict : Bool} {bench later : Bench}
    {policy : PollPolicy} {verdict : Verdict} (called : bench.word = Channel.callWord)
    (replies : Replies tools strict bench (.await policy) verdict later) :
    Serves tools strict bench verdict later :=
  (if_pos called).mp replies

/-- What a question may be answered, when the worker may still be at an earlier command. -/
def Answers (tools : Tools) (strict : Bool) (bench : Bench) (effect : Effect)
    (reply : effect.Reply) (later : Bench) : Prop :=
  ∃ between, Late tools bench between ∧ Replies tools strict between effect reply later

/-- Any question may be asked. -/
def workplace (tools : Tools) (strict : Bool) : Contract Bench where
  asks _ _ := True
  answers := Answers tools strict

/-! ### Every question has an answer -/

/-- What the worker makes of the command in the buffer, if it can. -/
def product? (tools : Tools) (bench : Bench) : Option (Task × Artifact) :=
  (tools.reads bench.buffer).bind fun task =>
    (task.made? tools bench.shelf).map fun content => (task, content)

/-- The worker serves the command in the buffer, and fails when it cannot. -/
def serve (tools : Tools) (bench : Bench) : Verdict × Bench :=
  match product? tools bench with
  | some (task, content) => (.acknowledged,
      { bench.take.lay task.target (some content) with word := Channel.readyWord })
  | none => (.left (some 1), bench.take)

/-- An image is opened when that can be done; `load` makes it. -/
def bring (load : List Definition → Image) (bench : Bench) (path : Path) :
    Except (Path × LoadFault) Image × Bench :=
  match bench.shelf.find? path, bench.opened.lookup path.components with
  | some _, some definitions => (.ok (load definitions), bench)
  | some (.image definitions), none => (.ok (load definitions),
      { bench with opened := (path.components, definitions) :: bench.opened })
  | _, _ => (.error (path, .image "the file is no complete image"), bench)

/-- Answers where every command succeeds that can; `load` makes the images. -/
def oblige (tools : Tools) (load : List Definition → Image) :
    (effect : Effect) → StateM Bench effect.Reply
  | .combine flag => fun bench => (flag, bench)
  | .hire _ => fun bench => (.ok (), { bench with word := Channel.readyWord })
  | .look => fun bench => (bench.word, bench)
  | .fill command => fun bench => ((), { bench with buffer := command })
  | .post word => fun bench => ((), { bench with word })
  | .await _ => fun bench =>
    if bench.word = Channel.callWord then serve tools bench
    else (.acknowledged, { bench with word := Channel.readyWord })
  | .present path => fun bench => ((bench.shelf.find? path).isSome, bench)
  | .openImage path => fun bench => bring load bench path
  | .writeSource path text => fun bench => (.ok (), bench.lay path (some (.text text)))
  | .remove path => fun bench => ((), bench.lay path none)
  | .reap => fun bench => (.ok none, bench)
  | .join => fun bench => (.ok none, bench)
  | .kill => fun bench => ((), bench)
  | .release => fun bench => (.ok (), bench)

variable {tools : Tools} {load : List Definition → Image}

theorem opens_bring (loads : ∀ definitions, tools.shows definitions (load definitions))
    (strict : Bool) (bench : Bench) (path : Path) :
    Opens tools strict bench path (bring load bench path).1 (bring load bench path).2 := by
  unfold bring
  split
  · rename_i content definitions found held
    exact ⟨definitions, loads definitions, found ▸ Option.some_ne_none content, .inl ⟨held, rfl⟩⟩
  · rename_i definitions found held
    exact ⟨definitions, loads definitions, found ▸ Option.some_ne_none _, .inr ⟨held, found, rfl⟩⟩
  · rename_i neither other
    refine ⟨rfl, fun _ => ?_⟩
    cases found : bench.shelf.find? path with
    | none => exact .inl rfl
    | some content =>
      cases held : bench.opened.lookup path.components with
      | some definitions => exact absurd held (neither content definitions found)
      | none => exact .inr ⟨rfl, fun definitions same => other definitions (found.trans same) held⟩

theorem serves_serve (strict : Bool) (bench : Bench) :
    Serves tools strict bench (serve tools bench).1 (serve tools bench).2 := by
  unfold serve
  split
  · rename_i task content product
    obtain ⟨task', read, mapped⟩ := Option.bind_eq_some_iff.mp product
    obtain ⟨content', made, same⟩ := Option.map_eq_some_iff.mp mapped
    obtain ⟨rfl, rfl⟩ := Prod.mk.inj same
    exact ⟨task', content', read, made, rfl⟩
  · exact .inl rfl

theorem oblige_called {bench : Bench} (called : bench.word = Channel.callWord)
    (policy : PollPolicy) :
    (oblige tools load (.await policy)).run bench = serve tools bench :=
  if_pos called

theorem oblige_idle {bench : Bench} (idle : bench.word ≠ Channel.callWord) (policy : PollPolicy) :
    (oblige tools load (.await policy)).run bench =
      (.acknowledged, { bench with word := Channel.readyWord }) :=
  if_neg idle

theorem replies_oblige (loads : ∀ definitions, tools.shows definitions (load definitions))
    (strict : Bool) (bench : Bench) (effect : Effect) :
    Replies tools strict bench effect ((oblige tools load effect).run bench).1
      ((oblige tools load effect).run bench).2 := by
  cases effect with
  | combine flag => exact ⟨fun _ => rfl, rfl⟩
  | look => exact ⟨rfl, rfl⟩
  | present path => exact ⟨rfl, rfl⟩
  | remove path => exact .inr rfl
  | openImage path => exact opens_bring loads strict bench path
  | await policy =>
    by_cases called : bench.word = Channel.callWord
    · rw [oblige_called called]
      exact (if_pos called).mpr (serves_serve strict bench)
    · rw [oblige_idle called]
      exact (if_neg called).mpr ⟨_, fun _ => rfl, rfl⟩
  | _ => exact rfl

/-- Obliging surroundings keep to the contract. -/
theorem answers_oblige (loads : ∀ definitions, tools.shows definitions (load definitions))
    (strict : Bool) (bench : Bench) (effect : Effect) :
    (workplace tools strict).answers bench effect ((oblige tools load effect).run bench).1
      ((oblige tools load effect).run bench).2 :=
  ⟨bench, .still bench, replies_oblige loads strict bench effect⟩

/-- A command that fails changes no file here. -/
theorem clean_oblige (bench : Bench) (policy : PollPolicy)
    (fails : ((oblige tools load (.await policy)).run bench).1 ≠ .acknowledged) :
    ((oblige tools load (.await policy)).run bench).2.shelf = bench.shelf := by
  have served : (serve tools bench).1 ≠ .acknowledged →
      (serve tools bench).2.shelf = bench.shelf := by
    unfold serve
    split
    · exact fun failed => absurd rfl failed
    · exact fun _ => rfl
  by_cases called : bench.word = Channel.callWord
  · rw [oblige_called called] at fails ⊢
    exact served fails
  · rw [oblige_idle called]

/-- **Every question has an answer.** -/
theorem exists_answer (loads : ∀ definitions, ∃ image, tools.shows definitions image)
    (strict : Bool) (bench : Bench) (effect : Effect) :
    ∃ reply later, (workplace tools strict).answers bench effect reply later := by
  choose load shows using loads
  exact ⟨_, _, answers_oblige shows strict bench effect⟩

/-- What comes of a lookup where all goes well. -/
def obliged (tools : Tools) (load : List Definition → Image) (kernel : Kernel) (session : Session)
    (bench : Bench) : (Except Failure KernelSymbol × Session) × Bench :=
  (((Session.lookup kernel).run.run session).run (oblige tools load)).run bench

theorem yields_obliged (loads : ∀ definitions, tools.shows definitions (load definitions))
    (strict : Bool) (kernel : Kernel) (session : Session) (bench : Bench) :
    ((Session.lookup kernel).run.run session).Yields (workplace tools strict) bench
      (obliged tools load kernel session bench).1 (obliged tools load kernel session bench).2 :=
  yields_of_run (answers_oblige loads strict) rfl

end Bench

/-! ### Tools from tables -/

namespace Tools

/-- The exports of an image with these definitions; an entry tells the number of its source. -/
def exported (sources : List (Bytes × List String)) (definitions : List Definition) :
    List (String × Entry) :=
  definitions.map fun definition => (definition.name,
    { mapping := sources.findIdx (·.1 == definition.source), name := definition.name })

/-- Tools that know the listed sources, and the commands of the listed tasks. -/
def tabled (config : Config) (sources : List (Bytes × List String)) (tasks : List Task) : Tools where
  defines source := sources.lookup source
  reads command := tasks.find? fun task => task.command config = .ok command
  shows definitions image := image.exports = exported sources definitions

/-- The image of these definitions. -/
def display (sources : List (Bytes × List String)) (definitions : List Definition) : Image where
  serial := 0
  exports := exported sources definitions

variable {config : Config} {sources : List (Bytes × List String)} {tasks : List Task}

theorem isSome_lookup_exported {definitions : List Definition} {name : String} :
    ((exported sources definitions).lookup name).isSome ↔
      ∃ definition ∈ definitions, definition.name = name := by
  induction definitions with
  | nil => simp [exported]
  | cons definition rest ih =>
    rw [exported, List.map_cons, List.lookup_cons, List.exists_mem_cons_iff]
    by_cases same : name = definition.name
    · simp [same]
    · rw [beq_eq_false_iff_ne.mpr same]
      exact ih.trans ⟨.inr, fun found => found.resolve_left (Ne.symm same)⟩

/-- The tools read what the table says, when no two tasks have one command. -/
theorem reads_tabled {kernels : Kernel → Prop}
    (told : ∀ kernel, kernels kernel → ∀ task ∈ config.tasks kernel,
      ∀ command ∈ (task.command config).toOption,
        (tabled config sources tasks).reads command = some task) :
    (tabled config sources tasks).Reads config kernels := by
  intro kernel listed task inside command written
  refine told kernel listed task inside command ?_
  rw [written]
  exact Option.mem_some_self command

end Tools

end KernelCache
