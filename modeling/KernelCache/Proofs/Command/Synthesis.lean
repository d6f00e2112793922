import KernelCache.Proofs.Command.Quoting
import KernelCache.Proofs.Session.Tasks

/-
**The commands of a build survive the shell.**

The command of every task is a text whose words are exactly the arguments that are meant: the words
of the toolchain's own strings, the options, and every path as one word with its own octets.

* `Task.paths` and `Task.arguments`: the paths of a task's command, and the words it is meant to be.
* `Builds`: what a step that writes paths comes to.
* **`Task.survives`**: the words of a command are its arguments, and a task without a command has a
  path that cannot be written.
-/

namespace KernelCache

/-- A path that has a written form. -/
def Path.Quotable (path : Path) : Prop :=
  Utf8.valid path.bytes ∧ 0 ∉ path.bytes

instance (path : Path) : Decidable path.Quotable :=
  inferInstanceAs (Decidable (_ ∧ _))

/-- The programs and flags of a toolchain are ordinary octets and blanks. -/
structure Toolchain.IsPlain (toolchain : Toolchain) : Prop where
  compiler : Splitting.IsPlain (Command.raw toolchain.compiler)
  archiver : Splitting.IsPlain (Command.raw toolchain.archiver)
  flags : Splitting.IsPlain (Command.raw toolchain.flags)

namespace Command

/-- The word of an option; an empty one is none. -/
def option (text : String) : List Bytes := [raw text].filter (· ≠ [])

end Command

namespace Task

open Splitting Command

/-- The paths in the command of a task. -/
def paths (toolchain : Toolchain) : Task → List Path
  | compile source object => toolchain.includeDirs ++ [object, source]
  | archive whole object => [whole, object]
  | linkArchive whole image => [image, whole]
  | linkImage whole image => [image, whole]
  | install image library => [image, library]

/-- The arguments that are meant by the command of a task, the program in front. -/
def arguments (toolchain : Toolchain) (verbose : Bool) : Task → List Bytes
  | compile source object =>
    plainWords (raw toolchain.compiler) ++ plainWords (raw toolchain.flags)
      ++ toolchain.includeDirs.map (fun directory => raw "-I" ++ directory.bytes)
      ++ option toolchain.device ++ option toolchain.positionIndependent ++ option toolchain.pipe
      ++ [raw "-c", raw "-o", object.bytes, source.bytes] ++ option (if verbose then "-v" else "")
  | archive whole object =>
    plainWords (raw toolchain.archiver) ++ [raw "-rv", whole.bytes, object.bytes]
  | linkArchive whole image =>
    plainWords (raw toolchain.compiler) ++ [raw "-shared", raw "-o", image.bytes]
      ++ option toolchain.archivePrefix ++ [whole.bytes] ++ option toolchain.archiveSuffix
      ++ option (toolchain.linkerPrefix ++ "-rpath,.")
  | linkImage whole image =>
    plainWords (raw toolchain.compiler) ++ [raw "-shared", raw "-o", image.bytes]
      ++ option toolchain.archivePrefix ++ [whole.bytes] ++ option toolchain.archiveSuffix
  | install image library =>
    [raw "install"] ++ option toolchain.backup ++ [image.bytes, library.bytes]

end Task

end KernelCache

namespace KernelCache.Command

open Splitting

/-! ### Words that are no paths -/

theorem reads_word {text : String} (ordinary : ∀ byte ∈ raw text, isOrdinary byte)
    (filled : raw text ≠ []) : Reads (raw text) [raw text] :=
  (forms_ordinary ordinary filled).reads

/-- The strings a toolchain has for its two conventions. -/
def conventions (toolchain : Toolchain) : List String :=
  [toolchain.archivePrefix, toolchain.archiveSuffix, toolchain.linkerPrefix ++ "-rpath,.",
    toolchain.device, toolchain.positionIndependent, toolchain.pipe, toolchain.backup]

/-- Every option that depends on a convention is one word or none. -/
theorem reads_option (toolchain : Toolchain) :
    ∀ text ∈ conventions toolchain, Reads (raw text) (option text) := by
  have ordinary : ∀ text ∈ conventions toolchain, ∀ byte ∈ raw text, isOrdinary byte := by
    unfold conventions Toolchain.archivePrefix Toolchain.archiveSuffix Toolchain.linkerPrefix
      Toolchain.device Toolchain.positionIndependent Toolchain.pipe Toolchain.compilerPrefix
      Toolchain.backup
    cases toolchain.linkStyle <;> cases toolchain.backend <;> decide +kernel
  exact fun text member => reads_run (ordinary text member)

/-! ### Paths -/

/-- A step succeeds with a good result where its paths can be written, and refuses the configuration
where they cannot. -/
def Builds {α : Type} (step : Except Failure α) (quotable : Prop) (good : α → Prop) : Prop :=
  (quotable → ∃ value, step = .ok value ∧ good value) ∧
    (¬ quotable → ∃ message, step = .error (.config message))

namespace Builds

variable {α β : Type} {step : Except Failure α} {quotable others : Prop} {good : α → Prop}

theorem pure {value : α} (here : good value) : Builds (.ok value) True good :=
  ⟨fun _ => ⟨value, rfl, here⟩, fun never => absurd trivial never⟩

theorem bind {next : α → Except Failure β} {better : β → Prop} (first : Builds step quotable good)
    (second : ∀ value, good value → Builds (next value) others better) :
    Builds (step >>= next) (quotable ∧ others) better := by
  refine ⟨fun ⟨here, there⟩ => ?_, fun not => ?_⟩
  · obtain ⟨value, same, fine⟩ := first.1 here
    rw [same]
    exact (second value fine).1 there
  · by_cases here : quotable
    · obtain ⟨value, same, fine⟩ := first.1 here
      rw [same]
      exact (second value fine).2 fun there => not ⟨here, there⟩
    · obtain ⟨message, same⟩ := first.2 here
      exact ⟨message, by rw [same]; rfl⟩

theorem mono {better : α → Prop} {same : Prop} (builds : Builds step quotable good)
    (iff : same ↔ quotable) (finer : ∀ value, good value → better value) :
    Builds step same better := by
  refine ⟨fun here => ?_, fun not => builds.2 fun here => not (iff.mpr here)⟩
  obtain ⟨value, same, fine⟩ := builds.1 (iff.mp here)
  exact ⟨value, same, finer value fine⟩

end Builds

/-- **A path behind an opening is one word with its own octets.** -/
theorem builds_prefixedPath (opening : String) (noNul : 0 ∉ raw opening) (path : Path) :
    Builds (prefixedPath opening path) path.Quotable
      fun written => Reads written [raw opening ++ path.bytes] := by
  refine ⟨fun ⟨valid, clean⟩ => ?_, fun not => ?_⟩
  · have whole : (0 : UInt8) ∉ raw opening ++ path.bytes := by
      rw [List.mem_append, not_or]
      exact ⟨noNul, clean⟩
    obtain ⟨written, quoted, forms⟩ := Quoting.quote?_forms whole
    refine ⟨written, ?_, forms.reads⟩
    rw [prefixedPath, if_pos valid]
    rw [raw] at quoted
    simp only [quoted]
  · by_cases valid : Utf8.valid path.bytes
    · have nul : 0 ∈ Bytes.ofString opening ++ path.bytes :=
        List.mem_append_right _ (Decidable.not_not.mp fun clean => not ⟨valid, clean⟩)
      rw [prefixedPath, if_pos valid]
      simp only [Quoting.quote?_eq_none nul]
      exact ⟨_, rfl⟩
    · rw [prefixedPath, if_neg valid]
      exact ⟨_, rfl⟩

theorem builds_path (path : Path) :
    Builds (Command.path path) path.Quotable fun written => Reads written [path.bytes] :=
  builds_prefixedPath "" (by decide) path

theorem builds_includes (directories : List Path) :
    Builds (directories.mapM (prefixedPath "-I")) (∀ path ∈ directories, path.Quotable)
      fun written => List.Forall₂ Reads written
        (directories.map fun directory => [raw "-I" ++ directory.bytes]) := by
  induction directories with
  | nil => exact (Builds.pure .nil).mono (by simp) fun _ fine => fine
  | cons directory rest ih =>
    rw [List.mapM_cons]
    refine Builds.mono (.bind (builds_prefixedPath "-I" (by decide) directory) fun written here =>
      .bind ih fun others there => .pure ?_) (by simp) fun _ fine => fine
    exact .cons here there

/-! ### Commands -/

theorem builds_render {written : List Bytes} {words : List (List Bytes)} {arguments : List Bytes}
    (each : List.Forall₂ Reads written words) (whole : words.flatten = arguments) :
    Builds (.ok (render written)) True fun text => words? text = some arguments :=
  .pure (whole ▸ words?_render each)

section

variable {toolchain : Toolchain} (plain : toolchain.IsPlain) (verbose : Bool)
include plain

theorem builds_linkArchive (archive library : Path) :
    Builds (linkArchive toolchain archive library) (library.Quotable ∧ archive.Quotable)
      fun text => words? text = some ((Task.linkArchive archive library).arguments toolchain verbose) := by
  have compiler := reads_plain _ plain.compiler
  have shared : Reads (raw "-shared") _ := reads_word (by decide +kernel) (by decide)
  have output : Reads (raw "-o") _ := reads_word (by decide +kernel) (by decide)
  have options := reads_option toolchain
  simp only [conventions, List.forall_mem_cons] at options
  obtain ⟨front, back, runPath, -⟩ := options
  refine Builds.mono (.bind (builds_path library) fun target here =>
    .bind (builds_path archive) fun source there => builds_render
      (.cons compiler <| .cons shared <| .cons output <| .cons here <| .cons front <|
        .cons there <| .cons back <| .cons runPath .nil) rfl) (by simp) fun text fine => ?_
  simpa [Task.arguments] using fine

theorem builds_compile (source object : Path) :
    Builds (compile toolchain verbose source object)
      ((∀ path ∈ toolchain.includeDirs, path.Quotable) ∧ object.Quotable ∧ source.Quotable)
      fun text => words? text =
        some ((Task.compile source object).arguments toolchain verbose) := by
  have compiler := reads_plain _ plain.compiler
  have flags := reads_plain _ plain.flags
  have only : Reads (raw "-c") _ := reads_word (by decide +kernel) (by decide)
  have output : Reads (raw "-o") _ := reads_word (by decide +kernel) (by decide)
  have verbosely : Reads (raw (if verbose then "-v" else "")) (option _) :=
    reads_run (by cases verbose <;> decide +kernel)
  have options := reads_option toolchain
  simp only [conventions, List.forall_mem_cons] at options
  obtain ⟨-, -, -, device, independent, pipe, -⟩ := options
  refine Builds.mono (.bind (builds_includes toolchain.includeDirs) fun includes fit =>
    .bind (builds_path object) fun target here => .bind (builds_path source) fun input there =>
      builds_render (List.rel_append (List.rel_append (.cons compiler <| .cons flags .nil) fit)
        (.cons device <| .cons independent <| .cons pipe <| .cons only <| .cons output <|
          .cons here <| .cons there <| .cons verbosely .nil)) rfl) (by simp) fun text fine => ?_
  have single : (toolchain.includeDirs.map fun directory => [raw "-I" ++ directory.bytes]).flatten
      = toolchain.includeDirs.map fun directory => raw "-I" ++ directory.bytes := by
    rw [← List.flatMap_def, ← List.map_eq_flatMap]
  simpa [Task.arguments, single] using fine

theorem builds_archive (archive object : Path) :
    Builds (Command.archive toolchain archive object) (archive.Quotable ∧ object.Quotable)
      fun text => words? text = some ((Task.archive archive object).arguments toolchain verbose) := by
  have archiver := reads_plain _ plain.archiver
  have replace : Reads (raw "-rv") _ := reads_word (by decide +kernel) (by decide)
  refine Builds.mono (.bind (builds_path archive) fun target here =>
    .bind (builds_path object) fun member there => builds_render
      (.cons archiver <| .cons replace <| .cons here <| .cons there .nil) rfl)
    (by simp) fun text fine => ?_
  simpa [Task.arguments] using fine

theorem builds_linkImage (archive image : Path) :
    Builds (linkImage toolchain archive image) (image.Quotable ∧ archive.Quotable)
      fun text => words? text = some ((Task.linkImage archive image).arguments toolchain verbose) := by
  have compiler := reads_plain _ plain.compiler
  have shared : Reads (raw "-shared") _ := reads_word (by decide +kernel) (by decide)
  have output : Reads (raw "-o") _ := reads_word (by decide +kernel) (by decide)
  have options := reads_option toolchain
  simp only [conventions, List.forall_mem_cons] at options
  obtain ⟨front, back, -⟩ := options
  refine Builds.mono (.bind (builds_path image) fun target here =>
    .bind (builds_path archive) fun source there => builds_render
      (.cons compiler <| .cons shared <| .cons output <| .cons here <| .cons front <|
        .cons there <| .cons back .nil) rfl) (by simp) fun text fine => ?_
  simpa [Task.arguments] using fine

end

theorem builds_install (toolchain : Toolchain) (verbose : Bool) (image library : Path) :
    Builds (install toolchain image library) (image.Quotable ∧ library.Quotable)
      fun text => words? text = some ((Task.install image library).arguments toolchain verbose) := by
  have program : Reads (raw "install") _ := reads_word (by decide +kernel) (by decide)
  have backup : Reads (raw toolchain.backup) _ := reads_option toolchain _ (by simp [conventions])
  refine Builds.mono (.bind (builds_path image) fun source here =>
    .bind (builds_path library) fun target there => builds_render
      (.cons program <| .cons backup <| .cons here <| .cons there .nil) rfl)
    (by simp) fun text fine => ?_
  simpa [Task.arguments] using fine

end KernelCache.Command

namespace KernelCache.Task

open Command Splitting

variable {config : Config}

theorem builds_command (plain : config.toolchain.IsPlain) (task : Task) :
    Builds (task.command config) (∀ path ∈ task.paths config.toolchain, path.Quotable)
      fun text => words? text = some (task.arguments config.toolchain config.verbose) := by
  cases task with
  | compile source object =>
    refine (builds_compile plain config.verbose source object).mono ?_ fun _ fine => fine
    simp [paths, or_imp, forall_and]
  | archive whole object =>
    exact (builds_archive plain _ whole object).mono (by simp [paths]) fun _ fine => fine
  | linkArchive whole image =>
    exact (builds_linkArchive plain _ whole image).mono (by simp [paths]) fun _ fine => fine
  | linkImage whole image =>
    exact (builds_linkImage plain _ whole image).mono (by simp [paths]) fun _ fine => fine
  | install image library =>
    exact (builds_install _ _ image library).mono (by simp [paths]) fun _ fine => fine

/-- **The words of a command are exactly its arguments, every path one word with its own octets.** A
task has no command exactly when one of its paths is no UTF-8 or holds a NUL, and the configuration
is to blame then. -/
theorem survives (plain : config.toolchain.IsPlain) (task : Task) :
    ((∀ path ∈ task.paths config.toolchain, path.Quotable) →
      ∃ text, task.command config = .ok text ∧
        words? text = some (task.arguments config.toolchain config.verbose)) ∧
    ((∃ path ∈ task.paths config.toolchain, ¬ path.Quotable) →
      ∃ message, task.command config = .error (.config message)) := by
  obtain ⟨writable, refused⟩ := builds_command plain task
  exact ⟨writable, fun ⟨path, member, unfit⟩ => refused fun all => unfit (all path member)⟩

/-- Paths with blanks, quotes, line ends and expansions, an empty one, and no flags. -/
theorem survives_odd_paths :
    let config : Config := { verbose := true, toolchain :=
      { compiler := "ccache\thipcc ", flags := " ", backend := .hip
        includeDirs := [.ofString "in clude\n'$HOME'", .ofString "^!`ls`~*\\\""] } }
    let task : Task := .compile (.ofString "") (.ofString "größe;k.o")
    config.toolchain.IsPlain ∧ (∀ path ∈ task.paths config.toolchain, path.Quotable) ∧
      ∃ text, task.command config = .ok text ∧
        words? text = some (["ccache", "hipcc", "-Iin clude\n'$HOME'", "-I^!`ls`~*\\\"",
          "-fgpu-rdc", "-fPIC", "-Xcompiler=-pipe", "-c", "-o", "größe;k.o", "", "-v"].map raw) := by
  intro config task
  have plain : config.toolchain.IsPlain := ⟨by decide +kernel, by decide +kernel, by decide +kernel⟩
  have quotable : ∀ path ∈ task.paths config.toolchain, path.Quotable := by decide +kernel
  obtain ⟨text, made, words⟩ := (survives plain task).1 quotable
  refine ⟨plain, quotable, text, made, words.trans ?_⟩
  decide +kernel

end KernelCache.Task
