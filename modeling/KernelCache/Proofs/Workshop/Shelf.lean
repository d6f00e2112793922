import KernelCache.Proofs.Session.Tasks
import Mathlib.Logic.Function.Basic

/-
**What the files of a cache hold, and what a command makes of them.**

The compiler, the archiver, the linker and the installer are known by what they make: an object has
the definitions of its source, an archive keeps one member under each name, an image exports what
the members of the archive define, and the installer copies an image.

* `Kernel.Keyed` is about kernels that are told apart by their hashes.
* `Artifact` is what a file holds, `Artifact.definitions` the functions in it.
* `Shelf` is the state of all files; a path leads to its components.
* `Tools` says what a source defines, and as which task a command is read.
* `Task.made? tools shelf task` is what a task that succeeds puts into its target.
-/

namespace KernelCache

/-- Kernels that are told apart by their hashes. -/
def Kernel.Keyed (kernels : Kernel → Prop) : Prop :=
  ∀ first second, kernels first → kernels second → first.hash = second.hash →
    first.source = second.source ∧ first.symbol = second.symbol

theorem Kernel.Keyed.eq {kernels : Kernel → Prop} (keyed : Keyed kernels) {first second : Kernel}
    (listed : kernels first) (listed' : kernels second) (same : first.hash = second.hash) :
    first = second := by
  obtain ⟨source, symbol⟩ := keyed first second listed listed' same
  cases first
  cases second
  simp_all

/-- A function, as a source defines it. -/
structure Definition where
  name : String
  source : Bytes
  deriving DecidableEq, Repr

/-- What a file holds. -/
inductive Artifact where
  | text (bytes : Bytes)
  | object (definitions : List Definition)
  /-- The members by name, with the definitions of each. -/
  | archive (members : List (Bytes × List Definition))
  | image (definitions : List Definition)
  /-- A file that was not written to its end. -/
  | scrap
  deriving DecidableEq, Repr

namespace Artifact

/-- The functions in a file. -/
def definitions : Artifact → List Definition
  | object definitions => definitions
  | archive members => members.flatMap (·.2)
  | image definitions => definitions
  | text _ | scrap => []

end Artifact

/-- The files by the components of their paths. -/
abbrev Shelf : Type := List Component → Option Artifact

namespace Shelf

/-- No file at all. -/
def empty : Shelf := fun _ => none

/-- What lies at a path. -/
def find? (shelf : Shelf) (path : Path) : Option Artifact :=
  shelf path.components

/-- The files with a new content at a path, or with none there. -/
def put (shelf : Shelf) (path : Path) (content : Option Artifact) : Shelf :=
  Function.update shelf path.components content

/-- The file at a path has a function with the name. -/
def Offers (shelf : Shelf) (path : Path) (name : String) : Prop :=
  ∃ content, shelf.find? path = some content ∧ ∃ definition ∈ content.definitions,
    definition.name = name

variable {shelf : Shelf} {path other : Path} {content : Option Artifact}

theorem find?_put_same (same : other.components = path.components) :
    (shelf.put path content).find? other = content := by
  rw [find?, put, same, Function.update_self]

theorem find?_put_of_ne (differ : other.components ≠ path.components) :
    (shelf.put path content).find? other = shelf.find? other :=
  Function.update_of_ne differ _ _

end Shelf

/-- The tools of a worker, and the loader. -/
structure Tools where
  /-- The functions that a source defines, if it compiles. -/
  defines : Bytes → Option (List String)
  /-- The task as which a command is read. -/
  reads : Bytes → Option Task
  /-- Whether an image in memory is one of a file with these definitions. -/
  shows : List Definition → Image → Prop

namespace Tools

/-- The definitions of a source, if it compiles. -/
def compile? (tools : Tools) (source : Bytes) : Option (List Definition) :=
  (tools.defines source).map fun names => names.map fun name => { name, source }

/-- The tools read every command of these settings as the task that it was written for. -/
def Reads (tools : Tools) (config : Config) (kernels : Kernel → Prop) : Prop :=
  ∀ kernel, kernels kernel → ∀ task ∈ config.tasks kernel, ∀ command,
    task.command config = .ok command → tools.reads command = some task

end Tools

namespace Artifact

/-- The object of a source. -/
def compiled? (tools : Tools) : Option Artifact → Option Artifact
  | some (.text bytes) => (tools.compile? bytes).map .object
  | _ => none

/-- Members with one more, in the place of one with its name. -/
def enter (members : List (Bytes × List Definition)) (name : Bytes)
    (definitions : List Definition) : List (Bytes × List Definition) :=
  members.filter (fun member => member.1 ≠ name) ++ [(name, definitions)]

/-- The archive with an object in it; there may be none before. -/
def archived? (name : Bytes) : Option Artifact → Option Artifact → Option Artifact
  | some (.object definitions), none => some (.archive (enter [] name definitions))
  | some (.object definitions), some (.archive members) =>
    some (.archive (enter members name definitions))
  | _, _ => none

/-- The image of a whole archive. -/
def linked? : Option Artifact → Option Artifact
  | some (.archive members) => some (.image (members.flatMap (·.2)))
  | _ => none

/-- The copy of an image. -/
def installed? : Option Artifact → Option Artifact
  | some (.image definitions) => some (.image definitions)
  | _ => none

variable {tools : Tools} {content : Artifact} {name : Bytes}

theorem compiled?_eq_some {input : Option Artifact} (made : compiled? tools input = some content) :
    ∃ bytes definitions, input = some (.text bytes) ∧ tools.compile? bytes = some definitions ∧
      content = .object definitions := by
  unfold compiled? at made
  split at made
  · obtain ⟨definitions, compiled, same⟩ := Option.map_eq_some_iff.mp made
    exact ⟨_, definitions, rfl, compiled, same.symm⟩
  · exact (nomatch made)

theorem archived?_eq_some {object whole : Option Artifact}
    (made : archived? name object whole = some content) :
    ∃ definitions members, object = some (.object definitions) ∧
      (whole = none ∧ members = [] ∨ whole = some (.archive members)) ∧
      content = .archive (enter members name definitions) := by
  unfold archived? at made
  split at made
  · exact ⟨_, [], rfl, .inl ⟨rfl, rfl⟩, (Option.some.inj made).symm⟩
  · exact ⟨_, _, rfl, .inr rfl, (Option.some.inj made).symm⟩
  · exact (nomatch made)

/-- The members of an archive that an object has entered. -/
theorem mem_enter_iff {members : List (Bytes × List Definition)} {definitions : List Definition}
    {member : Bytes × List Definition} :
    member ∈ enter members name definitions ↔
      member ∈ members ∧ member.1 ≠ name ∨ member = (name, definitions) := by
  rw [enter, List.mem_append, List.mem_filter, decide_eq_true_iff, List.mem_singleton]

/-- An object that enters an archive brings nothing but itself. -/
theorem definitions_enter {members : List (Bytes × List Definition)}
    {definitions : List Definition} {definition : Definition}
    (inside : definition ∈ (archive (enter members name definitions)).definitions) :
    definition ∈ (archive members).definitions ∨ definition ∈ definitions := by
  obtain ⟨member, listed, here⟩ := List.mem_flatMap.mp inside
  rcases mem_enter_iff.mp listed with ⟨old, -⟩ | rfl
  · exact .inl (List.mem_flatMap.mpr ⟨member, old, here⟩)
  · exact .inr here

/-- What was in an archive stays in it, if an object takes the place of its like alone. -/
theorem mem_definitions_enter {members : List (Bytes × List Definition)}
    {definitions : List Definition} {definition : Definition}
    (like : ∀ member ∈ members, member.1 = name → member.2 = definitions)
    (inside : definition ∈ (archive members).definitions) :
    definition ∈ (archive (enter members name definitions)).definitions := by
  obtain ⟨member, listed, here⟩ := List.mem_flatMap.mp inside
  refine List.mem_flatMap.mpr ?_
  by_cases same : member.1 = name
  · exact ⟨_, mem_enter_iff.mpr (.inr rfl), like member listed same ▸ here⟩
  · exact ⟨member, mem_enter_iff.mpr (.inl ⟨listed, same⟩), here⟩

theorem linked?_eq_some {whole : Option Artifact} (made : linked? whole = some content) :
    ∃ members, whole = some (.archive members) ∧ content = .image (members.flatMap (·.2)) := by
  unfold linked? at made
  split at made
  · exact ⟨_, rfl, (Option.some.inj made).symm⟩
  · exact (nomatch made)

theorem installed?_eq_some {image : Option Artifact} (made : installed? image = some content) :
    ∃ definitions, image = some (.image definitions) ∧ content = .image definitions := by
  unfold installed? at made
  split at made
  · exact ⟨_, rfl, (Option.some.inj made).symm⟩
  · exact (nomatch made)

end Artifact

namespace Task

/-- What a task puts into its target when it succeeds; the order of the members of an archive is of
no account. -/
def made? (tools : Tools) (shelf : Shelf) : Task → Option Artifact
  | compile source _ => Artifact.compiled? tools (shelf.find? source)
  | archive whole object =>
    Artifact.archived? (object.fileName?.getD []) (shelf.find? object) (shelf.find? whole)
  | linkArchive whole _ => Artifact.linked? (shelf.find? whole)
  | linkImage whole _ => Artifact.linked? (shelf.find? whole)
  | install image _ => Artifact.installed? (shelf.find? image)

/-- The definitions in what a task reads. -/
def material (tools : Tools) (shelf : Shelf) : Task → List Definition
  | compile source _ =>
    match shelf.find? source with
    | some (.text bytes) => (tools.compile? bytes).getD []
    | _ => []
  | archive _ object => ((shelf.find? object).map Artifact.definitions).getD []
  | linkArchive whole _ => ((shelf.find? whole).map Artifact.definitions).getD []
  | linkImage whole _ => ((shelf.find? whole).map Artifact.definitions).getD []
  | install image _ => ((shelf.find? image).map Artifact.definitions).getD []

end Task

end KernelCache
