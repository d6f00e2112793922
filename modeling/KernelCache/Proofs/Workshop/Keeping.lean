import KernelCache.Proofs.Layout.Isolation
import KernelCache.Proofs.Workshop.Bench

/-
**What the files keep.**

Under settings that keep all files apart, whatever a lookup has done leaves the archive made of the
objects of kernels, and the library a complete image of what the archive has held before.

* `Config.Distinct`: the generated names of all kernels are distinct.
* `Bench.Kept`: what holds of the files, of the opened images, and of a command that the worker is
  still at.
* `Bench.Kept.lay` and `Bench.Kept.done`: the writing and the removal of a file keep it, and so does
  a task that succeeds, if it is safe; the names that the library offers stay.
* `Bench.Kept.late`: a command that ends late keeps it too.
-/

namespace KernelCache

namespace Config

/-- The generated names of all kernels are distinct. -/
structure Distinct (config : Config) (kernels : Kernel → Prop) : Prop where
  accepted : config.validate = .ok ()
  extension : '/' ∉ config.toolchain.sourceExtension.toList
  separated : ∀ kernel, kernels kernel → config.Separated kernel

variable {config : Config} {kernels : Kernel → Prop} {kernel other : Kernel}

theorem sourceFile_eq (config : Config) (kernel : Kernel) :
    config.sourceFile kernel =
      config.layout.kernelFile kernel config.toolchain.sourceExtension := rfl

theorem object_eq (config : Config) (kernel : Kernel) :
    config.layout.object kernel = config.layout.kernelFile kernel "co" := rfl

theorem image_eq (config : Config) (kernel : Kernel) :
    config.layout.image kernel = config.layout.kernelFile kernel "so" := rfl

theorem slash_notMem_co : '/' ∉ "co".toList := by decide

theorem slash_notMem_so : '/' ∉ "so".toList := by decide

/-- The name of a kernel's file tells its hash and its extension. -/
theorem kernelFile_inj {extension extension' : String} (slashless : '/' ∉ extension.toList)
    (slashless' : '/' ∉ extension'.toList)
    (same : (config.layout.kernelFile kernel extension).components =
      (config.layout.kernelFile other extension').components) :
    kernel.hash = other.hash ∧ extension = extension' := by
  have names : kernel.stem ++ "." ++ extension = other.stem ++ "." ++ extension' := by
    refine Bytes.ofString_injective ((Path.same_join_iff config.cacheDir
      (kernel.isFileName_stem slashless) (other.isFileName_stem slashless')).mp ?_)
    exact beq_iff_eq.mpr same
  have texts := congrArg String.toList names
  simp only [String.toList_append, Kernel.toList_stem, List.append_assoc, List.cons_append] at texts
  obtain ⟨digits, rest⟩ := List.append_inj (List.cons.inj texts).2 (by
    rw [Numeral.length_hex, Numeral.length_hex])
  have hashes : kernel.hash.toNat = other.hash.toNat :=
    Numeral.hex_injective kernel.hash.toNat_lt other.hash.toNat_lt digits
  exact ⟨UInt64.toNat_inj.mp hashes, String.toList_injective (List.append_cancel_left rest)⟩

theorem object_inj
    (same : (config.layout.object kernel).components = (config.layout.object other).components) :
    kernel.hash = other.hash := by
  rw [object_eq, object_eq] at same
  exact (kernelFile_inj slash_notMem_co slash_notMem_co same).1

/-- The files that a lookup removes. -/
def removable (config : Config) (kernel : Kernel) : List Path :=
  [config.layout.relinked, config.sourceFile kernel, config.layout.object kernel,
    config.layout.image kernel]

theorem relinked_mem : config.layout.relinked ∈ config.removable kernel := List.mem_cons_self

theorem source_mem : config.sourceFile kernel ∈ config.removable kernel :=
  List.mem_cons_of_mem _ List.mem_cons_self

theorem object_mem : config.layout.object kernel ∈ config.removable kernel :=
  List.mem_cons_of_mem _ (List.mem_cons_of_mem _ List.mem_cons_self)

theorem image_mem : config.layout.image kernel ∈ config.removable kernel :=
  List.mem_cons_of_mem _ (List.mem_cons_of_mem _ (List.mem_cons_of_mem _ List.mem_cons_self))

namespace Distinct

variable (distinct : config.Distinct kernels)
include distinct

theorem apart (listed : kernels kernel) : config.Apart kernel :=
  ((places_apart_iff distinct.accepted distinct.extension).mpr (distinct.separated kernel listed)).1

theorem archive_ne_library (listed : kernels kernel) :
    config.layout.archive.components ≠ config.layout.library.components :=
  beq_eq_false_iff_ne.mp ((List.pairwise_cons.mp (distinct.apart listed)).1 _ List.mem_cons_self)

theorem archive_ne (listed : kernels kernel) {path : Path} (place : path ∈ config.removable kernel) :
    config.layout.archive.components ≠ path.components :=
  beq_eq_false_iff_ne.mp ((List.pairwise_cons.mp (distinct.apart listed)).1 path
    (List.mem_cons_of_mem _ place))

theorem library_ne (listed : kernels kernel) {path : Path} (place : path ∈ config.removable kernel) :
    config.layout.library.components ≠ path.components :=
  beq_eq_false_iff_ne.mp ((List.pairwise_cons.mp
    (List.pairwise_cons.mp (distinct.apart listed)).2).1 path place)

theorem source_inj
    (same : (config.sourceFile kernel).components = (config.sourceFile other).components) :
    kernel.hash = other.hash := by
  rw [sourceFile_eq, sourceFile_eq] at same
  exact (kernelFile_inj distinct.extension distinct.extension same).1

theorem source_ne_image (listed : kernels kernel) (other : Kernel) :
    (config.sourceFile kernel).components ≠ (config.layout.image other).components := by
  rw [sourceFile_eq, image_eq]
  intro same
  have extension := (kernelFile_inj distinct.extension slash_notMem_so same).2
  have nodup := (distinct.separated kernel listed).nodup
  simp [fileNames, extension] at nodup

end Distinct

theorem object_ne_image (config : Config) (kernel other : Kernel) :
    (config.layout.object kernel).components ≠ (config.layout.image other).components := by
  rw [object_eq, image_eq]
  intro same
  exact absurd (kernelFile_inj slash_notMem_co slash_notMem_so same).2 (by decide)

/-- The name of a kernel's object in the archive. -/
theorem fileName?_object (config : Config) (kernel : Kernel) :
    (config.layout.object kernel).fileName? =
      some (Bytes.ofString (kernel.stem ++ "." ++ "co")) := by
  have place : config.layout.object kernel =
      config.cacheDir.join ⟨Bytes.ofString (kernel.stem ++ "." ++ "co")⟩ := rfl
  rw [place]
  exact Path.fileName?_join config.cacheDir (kernel.isFileName_stem slash_notMem_co)

end Config

namespace Bench

/-- A member of the archive is the object of a kernel. -/
def Genuine (tools : Tools) (config : Config) (kernels : Kernel → Prop)
    (member : Bytes × List Definition) : Prop :=
  ∃ kernel, kernels kernel ∧ (config.layout.object kernel).fileName? = some member.1 ∧
    tools.compile? (Bytes.ofString kernel.source) = some member.2

/-- The member under the name of a kernel's object is what the kernel compiles to. -/
theorem Genuine.compiles {tools : Tools} {config : Config} {kernels : Kernel → Prop}
    {member : Bytes × List Definition} (genuine : Genuine tools config kernels member)
    (keyed : Kernel.Keyed kernels) {kernel : Kernel} (listed : kernels kernel)
    (named : (config.layout.object kernel).fileName? = some member.1) :
    tools.compile? (Bytes.ofString kernel.source) = some member.2 := by
  obtain ⟨other, known, named', compiled⟩ := genuine
  rw [config.fileName?_object] at named named'
  have stems := Bytes.ofString_injective (Option.some.inj (named'.trans named.symm))
  rw [String.append_left_inj, String.append_left_inj] at stems
  obtain rfl := keyed.eq known listed (Kernel.stem_injective stems)
  exact compiled

/-- An image that is put in the place of the library has all that the library has, and nothing that
the archive has not. -/
def Fills (config : Config) (shelf : Shelf) (image : Path) : Prop :=
  ∀ definitions, shelf.find? image = some (.image definitions) →
    (∀ name, shelf.Offers config.layout.library name →
      ∃ definition ∈ definitions, definition.name = name) ∧
    ∀ definition ∈ definitions, shelf.Offers config.layout.archive definition.name

/-- What is known when a task has succeeded: a linked image may take the place of the library, and
the library has all that an installed image has. -/
def Finished (config : Config) (shelf : Shelf) : Task → Prop
  | .linkArchive _ image | .linkImage _ image => Fills config shelf image
  | .install image _ => ∀ definitions, shelf.find? image = some (.image definitions) →
      ∀ definition ∈ definitions, shelf.Offers config.layout.library definition.name
  | .compile _ _ | .archive _ _ => True

/-- A task that does no harm when it succeeds. -/
def Safe (config : Config) (shelf : Shelf) (task : Task) : Prop :=
  ∀ image library, task = .install image library → Fills config shelf image

/-- What the files keep. -/
structure Kept (tools : Tools) (config : Config) (kernels : Kernel → Prop) (bench : Bench) :
    Prop where
  archive : ∀ content, bench.shelf.find? config.layout.archive = some content →
    ∃ members, content = .archive members ∧ ∀ member ∈ members, Genuine tools config kernels member
  library : ∀ content, bench.shelf.find? config.layout.library = some content →
    ∃ definitions, content = .image definitions
  /-- The archive has all that the library offers. -/
  covered : ∀ name, bench.shelf.Offers config.layout.library name →
    bench.shelf.Offers config.layout.archive name
  /-- The library offers all that the opened images have. -/
  opened : ∀ place definitions, (place, definitions) ∈ bench.opened →
    ∀ definition ∈ definitions, bench.shelf.Offers config.layout.library definition.name
  object : ∀ kernel, kernels kernel → ∀ definitions,
    bench.shelf.find? (config.layout.object kernel) = some (.object definitions) →
      tools.compile? (Bytes.ofString kernel.source) = some definitions
  source : ∀ kernel, kernels kernel → ∀ bytes,
    bench.shelf.find? (config.sourceFile kernel) = some (.text bytes) →
      bytes = Bytes.ofString kernel.source
  /-- A command that the worker is still at is one of a lookup, and does no harm. -/
  working : ∀ command, bench.working = some command → bench.word = Channel.callWord ∧
    ∃ kernel task, kernels kernel ∧ task ∈ config.tasks kernel ∧
      tools.reads command = some task ∧ Safe config bench.shelf task

variable {tools : Tools} {config : Config} {kernels : Kernel → Prop} {bench later : Bench}
  {kernel : Kernel}

/-- The library offers at least what it did. -/
def Grows (config : Config) (bench later : Bench) : Prop :=
  ∀ name, bench.shelf.Offers config.layout.library name →
    later.shelf.Offers config.layout.library name

/-- The files keep what they have to, and the library offers at least what it did. -/
structure Stays (tools : Tools) (config : Config) (kernels : Kernel → Prop) (bench later : Bench) :
    Prop where
  kept : Kept tools config kernels later
  grows : Grows config bench later

theorem Kept.stays (kept : Kept tools config kernels bench) :
    Stays tools config kernels bench bench :=
  ⟨kept, fun _ offered => offered⟩

theorem Stays.trans {last : Bench} (first : Stays tools config kernels bench later)
    (second : Stays tools config kernels later last) : Stays tools config kernels bench last :=
  ⟨second.kept, fun name offered => second.grows name (first.grows name offered)⟩

namespace Kept

variable (kept : Kept tools config kernels bench)
include kept

/-- Only the files, the opened images and the worker count. -/
theorem congr (shelf : later.shelf = bench.shelf) (opened : later.opened ⊆ bench.opened)
    (working : later.working = none ∨ later.working = bench.working ∧ later.word = bench.word) :
    Kept tools config kernels later where
  archive := by rw [shelf]; exact kept.archive
  library := by rw [shelf]; exact kept.library
  covered := by rw [shelf]; exact kept.covered
  opened := by
    rw [shelf]
    exact fun place definitions inside => kept.opened place definitions (opened inside)
  object := by rw [shelf]; exact kept.object
  source := by rw [shelf]; exact kept.source
  working := by
    intro command still
    rcases working with none | ⟨same, word⟩
    · exact (nomatch none.symm.trans still)
    · rw [shelf, word]
      exact kept.working command (same.symm.trans still)

/-- The objects are kept when another file comes or goes. -/
theorem object_lay {path : Path} {content : Option Artifact}
    (object : ∀ kernel, kernels kernel →
      (config.layout.object kernel).components = path.components → ∀ definitions,
        content = some (.object definitions) →
          tools.compile? (Bytes.ofString kernel.source) = some definitions) :
    ∀ kernel, kernels kernel → ∀ definitions,
      (bench.lay path content).shelf.find? (config.layout.object kernel) =
          some (.object definitions) →
        tools.compile? (Bytes.ofString kernel.source) = some definitions := by
  intro kernel listed definitions found
  by_cases here : (config.layout.object kernel).components = path.components
  · exact object kernel listed here definitions ((find?_lay_same here).symm.trans found)
  · exact kept.object kernel listed definitions ((find?_lay_of_ne here).symm.trans found)

/-- So are the sources. -/
theorem source_lay {path : Path} {content : Option Artifact}
    (source : ∀ kernel, kernels kernel → (config.sourceFile kernel).components = path.components →
      ∀ bytes, content = some (.text bytes) → bytes = Bytes.ofString kernel.source) :
    ∀ kernel, kernels kernel → ∀ bytes,
      (bench.lay path content).shelf.find? (config.sourceFile kernel) = some (.text bytes) →
        bytes = Bytes.ofString kernel.source := by
  intro kernel listed bytes found
  by_cases here : (config.sourceFile kernel).components = path.components
  · exact source kernel listed here bytes ((find?_lay_same here).symm.trans found)
  · exact kept.source kernel listed bytes ((find?_lay_of_ne here).symm.trans found)

/-- A file that comes or goes, besides the archive and the library. -/
theorem lay {path : Path} {content : Option Artifact}
    (archive : config.layout.archive.components ≠ path.components)
    (library : config.layout.library.components ≠ path.components)
    (object : ∀ kernel, kernels kernel →
      (config.layout.object kernel).components = path.components → ∀ definitions,
        content = some (.object definitions) →
          tools.compile? (Bytes.ofString kernel.source) = some definitions)
    (source : ∀ kernel, kernels kernel → (config.sourceFile kernel).components = path.components →
      ∀ bytes, content = some (.text bytes) → bytes = Bytes.ofString kernel.source)
    (plain : bench.working = none ∨ ∀ definitions, content ≠ some (.image definitions)) :
    Kept tools config kernels (bench.lay path content) := by
  have offers : ∀ name, (bench.lay path content).shelf.Offers config.layout.library name ↔
      bench.shelf.Offers config.layout.library name := fun _ => offers_lay_of_ne library
  have offers' : ∀ name, (bench.lay path content).shelf.Offers config.layout.archive name ↔
      bench.shelf.Offers config.layout.archive name := fun _ => offers_lay_of_ne archive
  constructor
  case archive =>
    exact fun content found => kept.archive content ((find?_lay_of_ne archive).symm.trans found)
  case library =>
    exact fun content found => kept.library content ((find?_lay_of_ne library).symm.trans found)
  case covered =>
    exact fun name offered => (offers' name).mpr (kept.covered name ((offers name).mp offered))
  case opened =>
    exact fun place definitions inside definition here =>
      (offers _).mpr (kept.opened place definitions inside definition here)
  case object => exact kept.object_lay object
  case source => exact kept.source_lay source
  case working =>
    intro command still
    obtain ⟨word, kernel, task, listed, inside, read, safe⟩ := kept.working command still
    refine ⟨word, kernel, task, listed, inside, read, ?_⟩
    intro copied target install definitions found
    have plain := plain.resolve_left fun idle => nomatch idle.symm.trans still
    have apart : copied.components ≠ path.components := fun here =>
      plain definitions ((find?_lay_same here).symm.trans found)
    obtain ⟨covers, covered⟩ := safe copied target install definitions
      ((find?_lay_of_ne apart).symm.trans found)
    exact ⟨fun name offered => covers name ((offers name).mp offered),
      fun definition here => (offers' _).mpr (covered definition here)⟩

omit kept in
/-- Besides the library, nothing changes what it offers. -/
theorem grows_of_ne {path : Path} {content : Option Artifact}
    (library : config.layout.library.components ≠ path.components) :
    Grows config bench (bench.lay path content) :=
  fun _ => (offers_lay_of_ne library).mpr

end Kept

/-! ### Tasks that succeed -/

namespace Kept

variable (kept : Kept tools config kernels bench) (distinct : config.Distinct kernels)
  (keyed : Kernel.Keyed kernels) (listed : kernels kernel)
include kept distinct listed

/-- An image is linked. -/
theorem link {image : Path} {content : Artifact} (idle : bench.working = none)
    (place : image ∈ config.removable kernel)
    (made : Artifact.linked? (bench.shelf.find? config.layout.archive) = some content) :
    Stays tools config kernels bench (bench.lay image (some content)) := by
  obtain ⟨members, -, rfl⟩ := Artifact.linked?_eq_some made
  have library := distinct.library_ne listed place
  refine ⟨kept.lay (distinct.archive_ne listed place) library ?_ ?_
    (.inl idle), grows_of_ne library⟩
  · exact fun _ _ _ _ same => nomatch same
  · exact fun _ _ _ _ same => nomatch same

include keyed in
/-- A kernel is compiled. -/
theorem compile {content : Artifact}
    (made : Artifact.compiled? tools (bench.shelf.find? (config.sourceFile kernel)) = some content) :
    Stays tools config kernels bench (bench.lay (config.layout.object kernel) (some content)) := by
  obtain ⟨bytes, definitions, found, compiled, rfl⟩ := Artifact.compiled?_eq_some made
  have library : config.layout.library.components ≠ (config.layout.object kernel).components :=
    distinct.library_ne listed Config.object_mem
  refine ⟨kept.lay (distinct.archive_ne listed Config.object_mem) library ?_ ?_ ?_,
    grows_of_ne library⟩
  · rintro other listed' same _ ⟨⟩
    obtain rfl := keyed.eq listed' listed (Config.object_inj same)
    rw [← kept.source other listed bytes found]
    exact compiled
  · exact fun _ _ _ _ same => nomatch same
  · exact .inr fun _ same => nomatch same

include keyed in
/-- An object enters the archive; what was there stays. -/
theorem archived {content : Artifact} (idle : bench.working = none)
    (made : Artifact.archived? ((config.layout.object kernel).fileName?.getD [])
      (bench.shelf.find? (config.layout.object kernel))
      (bench.shelf.find? config.layout.archive) = some content) :
    Stays tools config kernels bench (bench.lay config.layout.archive (some content)) := by
  obtain ⟨name, named⟩ : ∃ name, (config.layout.object kernel).fileName? = some name :=
    ⟨_, config.fileName?_object kernel⟩
  rw [named, Option.getD_some] at made
  obtain ⟨definitions, members, object, before, rfl⟩ := Artifact.archived?_eq_some made
  have compiled := kept.object kernel listed definitions object
  have genuine : ∀ member ∈ members, Genuine tools config kernels member := by
    rcases before with ⟨-, rfl⟩ | there
    · exact fun _ inside => (List.not_mem_nil inside).elim
    · obtain ⟨members', same, genuine⟩ := kept.archive _ there
      obtain rfl := Artifact.archive.inj same
      exact genuine
  -- The member that is replaced is an earlier object of the same kernel.
  have like : ∀ member ∈ members, member.1 = name → member.2 = definitions := by
    rintro member inside rfl
    have earlier := (genuine member inside).compiles keyed listed named
    exact Option.some.inj (earlier.symm.trans compiled)
  have library : config.layout.library.components ≠ config.layout.archive.components :=
    (distinct.archive_ne_library listed).symm
  have grows : Grows config bench (bench.lay config.layout.archive
      (some (.archive (Artifact.enter members name definitions)))) := grows_of_ne library
  refine ⟨?_, grows⟩
  constructor
  case archive =>
    intro content found
    obtain rfl := Option.some.inj ((find?_lay_same rfl).symm.trans found)
    refine ⟨_, rfl, fun member inside => ?_⟩
    rcases Artifact.mem_enter_iff.mp inside with ⟨old, -⟩ | rfl
    · exact genuine member old
    · exact ⟨kernel, listed, named, compiled⟩
  case library =>
    exact fun content found => kept.library content ((find?_lay_of_ne library).symm.trans found)
  case covered =>
    intro name offered
    obtain ⟨content, found, definition, inside, rfl⟩ :=
      kept.covered name ((offers_lay_of_ne library).mp offered)
    refine ⟨_, find?_lay_same rfl, definition, ?_, rfl⟩
    rcases before with ⟨missing, -⟩ | there
    · exact (nomatch missing.symm.trans found)
    · obtain rfl := Option.some.inj (there.symm.trans found)
      exact Artifact.mem_definitions_enter like inside
  case opened =>
    exact fun place definitions inside definition here =>
      grows _ (kept.opened place definitions inside definition here)
  case object => exact kept.object_lay fun _ _ _ _ same => nomatch same
  case source => exact kept.source_lay fun _ _ _ _ same => nomatch same
  case working => exact fun command still => nomatch idle.symm.trans still

/-- An image takes the place of the library. -/
theorem install {image : Path} {content : Artifact} (idle : bench.working = none)
    (fills : Fills config bench.shelf image)
    (made : Artifact.installed? (bench.shelf.find? image) = some content) :
    Stays tools config kernels bench (bench.lay config.layout.library (some content)) := by
  obtain ⟨definitions, found, rfl⟩ := Artifact.installed?_eq_some made
  obtain ⟨covers, covered⟩ := fills definitions found
  have archive : config.layout.archive.components ≠ config.layout.library.components :=
    distinct.archive_ne_library listed
  have grows : Grows config bench (bench.lay config.layout.library (some (.image definitions))) :=
    fun name offered => ⟨_, find?_lay_same rfl, covers name offered⟩
  refine ⟨?_, grows⟩
  constructor
  case archive =>
    exact fun content found => kept.archive content ((find?_lay_of_ne archive).symm.trans found)
  case library =>
    intro content found
    exact ⟨definitions, (Option.some.inj ((find?_lay_same rfl).symm.trans found)).symm⟩
  case covered =>
    rintro name ⟨content, found, definition, inside, rfl⟩
    obtain rfl := Option.some.inj ((find?_lay_same rfl).symm.trans found)
    exact (offers_lay_of_ne archive).mpr (covered definition inside)
  case opened =>
    exact fun place definitions inside definition here =>
      grows _ (kept.opened place definitions inside definition here)
  case object => exact kept.object_lay fun _ _ _ _ same => nomatch same
  case source => exact kept.source_lay fun _ _ _ _ same => nomatch same
  case working => exact fun command still => nomatch idle.symm.trans still

include keyed in
/-- **A task that succeeds** keeps the files, if it is safe. -/
theorem done {task : Task} {content : Artifact} (idle : bench.working = none)
    (inside : task ∈ config.tasks kernel) (safe : Safe config bench.shelf task)
    (made : task.made? tools bench.shelf = some content) :
    Stays tools config kernels bench (bench.lay task.target (some content)) := by
  simp only [Config.tasks, Config.relinkTasks, Config.buildTasks, List.cons_append,
    List.nil_append, List.mem_cons, List.not_mem_nil, or_false] at inside
  rcases inside with rfl | rfl | rfl | rfl | rfl | rfl
  all_goals simp only [Task.made?, Task.target] at made ⊢
  · exact kept.link distinct listed idle Config.relinked_mem made
  · exact kept.install distinct listed idle (safe _ _ rfl) made
  · exact kept.compile distinct keyed listed made
  · exact kept.archived distinct keyed listed idle made
  · exact kept.link distinct listed idle Config.image_mem made
  · exact kept.install distinct listed idle (safe _ _ rfl) made

/-- A linked image has all that the archive has. -/
theorem fills_link {image : Path} {content : Artifact}
    (place : image ∈ config.removable kernel)
    (made : Artifact.linked? (bench.shelf.find? config.layout.archive) = some content) :
    Fills config (bench.lay image (some content)).shelf image := by
  obtain ⟨members, whole, rfl⟩ := Artifact.linked?_eq_some made
  have archive : config.layout.archive.components ≠ image.components :=
    distinct.archive_ne listed place
  have library : config.layout.library.components ≠ image.components :=
    distinct.library_ne listed place
  intro definitions found
  obtain rfl := Artifact.image.inj (Option.some.inj ((find?_lay_same rfl).symm.trans found))
  constructor
  · intro name offered
    obtain ⟨content, found, inside⟩ := kept.covered name ((offers_lay_of_ne library).mp offered)
    obtain rfl := Option.some.inj (whole.symm.trans found)
    exact inside
  · intro definition inside
    exact (offers_lay_of_ne archive).mpr ⟨_, whole, definition, inside, rfl⟩

omit kept in
/-- The library has all that an installed image has. -/
theorem fills_install {image : Path} {content : Artifact} (place : image ∈ config.removable kernel)
    (made : Artifact.installed? (bench.shelf.find? image) = some content) :
    Finished config (bench.lay config.layout.library (some content)).shelf
      (.install image config.layout.library) := by
  obtain ⟨definitions, here, rfl⟩ := Artifact.installed?_eq_some made
  intro found there definition inside
  have apart : image.components ≠ config.layout.library.components :=
    (distinct.library_ne listed place).symm
  have same := here.symm.trans ((find?_lay_of_ne apart).symm.trans there)
  obtain rfl := Artifact.image.inj (Option.some.inj same)
  exact ⟨_, find?_lay_same rfl, definition, inside, rfl⟩

theorem finished {task : Task} {content : Artifact} (inside : task ∈ config.tasks kernel)
    (made : task.made? tools bench.shelf = some content) :
    Finished config (bench.lay task.target (some content)).shelf task := by
  simp only [Config.tasks, Config.relinkTasks, Config.buildTasks, List.cons_append,
    List.nil_append, List.mem_cons, List.not_mem_nil, or_false] at inside
  rcases inside with rfl | rfl | rfl | rfl | rfl | rfl
  all_goals simp only [Task.made?, Task.target] at made ⊢
  · exact kept.fills_link distinct listed Config.relinked_mem made
  · exact fills_install distinct listed Config.relinked_mem made
  · trivial
  · trivial
  · exact kept.fills_link distinct listed Config.image_mem made
  · exact fills_install distinct listed Config.image_mem made

end Kept

/-! ### The worker and the root at work -/

theorem Late.eq_of_idle {between : Bench} (late : Late tools bench between)
    (idle : bench.working = none) : bench = between := by
  cases late with
  | still => rfl
  | ends working => exact (nomatch idle.symm.trans working)

theorem Late.opened {between : Bench} (late : Late tools bench between) :
    between.opened = bench.opened := by
  cases late with
  | still => rfl
  | ends => rfl

theorem Late.handed {between : Bench} (late : Late tools bench between) :
    between.handed = bench.handed := by
  cases late with
  | still => rfl
  | ends => rfl

namespace Kept

variable (kept : Kept tools config kernels bench) (distinct : config.Distinct kernels)
  (keyed : Kernel.Keyed kernels)
include kept

/-- A worker that is not at work has said so. -/
theorem idle_of_ready (ready : bench.word = Channel.readyWord) : bench.working = none := by
  cases working : bench.working with
  | none => rfl
  | some command =>
    have called := (kept.working command working).1
    exact absurd (ready.symm.trans called) (by decide)

include distinct keyed

/-- A command that ends late. -/
theorem late {between : Bench} (late : Late tools bench between) :
    Stays tools config kernels bench between := by
  cases late with
  | still => exact kept.stays
  | @ends command task content working reads made =>
    obtain ⟨-, kernel, task', listed, inside, reads', safe⟩ := kept.working command working
    obtain rfl := Option.some.inj (reads.symm.trans reads')
    have idle : Kept tools config kernels
        { bench with working := none, word := Channel.readyWord } :=
      kept.congr rfl (List.Subset.refl _) (.inl rfl)
    obtain ⟨kept', grows⟩ := idle.done distinct keyed listed rfl inside safe made
    exact ⟨kept', grows⟩

/-- **The worker serves a command**: whatever comes of it, the files keep what they have to. -/
theorem served {kernel : Kernel} {task : Task} {verdict : Verdict} (listed : kernels kernel)
    (idle : bench.working = none) (called : bench.word = Channel.callWord)
    (inside : task ∈ config.tasks kernel) (reads : tools.reads bench.buffer = some task)
    (safe : Safe config bench.shelf task) (serves : Serves tools true bench verdict later) :
    Stays tools config kernels bench later ∧ (verdict = .acknowledged →
      later.working = none ∧ Finished config later.shelf task) := by
  have taken : Kept tools config kernels bench.take :=
    kept.congr rfl (List.Subset.refl _) (.inl idle)
  cases verdict with
  | acknowledged =>
    obtain ⟨task', content, reads', made, rfl⟩ := serves
    obtain rfl := Option.some.inj (reads.symm.trans reads')
    obtain ⟨kept', grows⟩ := taken.done distinct keyed listed idle inside safe made
    exact ⟨⟨kept'.congr rfl (List.Subset.refl _) (.inl idle), grows⟩, fun _ =>
      ⟨idle, kept.finished distinct listed inside made⟩⟩
  | left code =>
    rcases serves with rfl | ⟨strict, -⟩
    · exact ⟨⟨taken, fun _ offered => offered⟩, fun same => nomatch same⟩
    · exact (nomatch strict)
  | exhausted exhausted =>
    obtain rfl := serves
    refine ⟨⟨⟨kept.archive, kept.library, kept.covered, kept.opened, kept.object, kept.source, ?_⟩,
      fun _ offered => offered⟩, fun same => nomatch same⟩
    rintro _ ⟨⟩
    exact ⟨called, kernel, task, listed, inside, reads, safe⟩

omit keyed in
/-- A file in between is removed, or is not written to its end. -/
theorem cleared {kernel : Kernel} {path : Path} {content : Option Artifact} (listed : kernels kernel)
    (place : path ∈ config.removable kernel) (cleared : content = none ∨ content = some .scrap) :
    Stays tools config kernels bench (bench.lay path content) := by
  have library := distinct.library_ne listed place
  refine ⟨kept.lay (distinct.archive_ne listed place) library ?_ ?_ (.inr ?_), grows_of_ne library⟩
  · rintro _ - - _ rfl
    simp at cleared
  · rintro _ - - _ rfl
    simp at cleared
  · rintro _ rfl
    simp at cleared

/-- The source of a kernel is written. -/
theorem written {kernel : Kernel} (listed : kernels kernel) :
    Stays tools config kernels bench
      (bench.lay (config.sourceFile kernel) (some (.text (Bytes.ofString kernel.source)))) := by
  have library : config.layout.library.components ≠ (config.sourceFile kernel).components :=
    distinct.library_ne listed Config.source_mem
  refine ⟨kept.lay (distinct.archive_ne listed Config.source_mem) library ?_ ?_ (.inr ?_),
    grows_of_ne library⟩
  · exact fun _ _ _ _ same => nomatch same
  · intro other listed' same bytes text
    obtain rfl := keyed.eq listed' listed (distinct.source_inj same)
    exact (Artifact.text.inj (Option.some.inj text)).symm
  · exact fun _ same => nomatch same

end Kept

end Bench

end KernelCache
