import KernelCache.Proofs.Path.Components
import KernelCache.Proofs.Text.Numeral
import KernelCache.Session.Lookup

/-
**The six places of a build.**

Besides the archive and the library there are the image that is linked from the archive alone, and
the source, the object and the image of a kernel. All are named under the cache directory.

* `Config.places` lists them, `Config.fileNames` their names.
* `Config.validate_eq_ok_iff` says which settings are accepted. Of the names, the archive is compared
  with the library and the source with the object, and neither may hold a slash or be empty.
* `Config.Separated` is what the places need: no name of dots, and six different names.
* `Config.places_apart_iff`: accepted settings whose extension has no slash keep the places apart,
  each directly under the cache directory, exactly if they are separated.
-/

namespace KernelCache

/-! ### File names as texts -/

namespace Path

/-- The texts that name an ordinary file. -/
theorem isFileName_ofString_iff (text : String) :
    IsFileName (Bytes.ofString text) ↔
      '/' ∉ text.toList ∧ text ≠ "" ∧ text ≠ "." ∧ text ≠ ".." := by
  have slashes : slash ∈ Bytes.ofString text ↔ '/' ∈ text.toList :=
    Bytes.mem_ofString_iff (by decide) text
  have differs : ∀ other : String, Bytes.ofString text ≠ Bytes.ofString other ↔ text ≠ other :=
    fun other => not_congr ⟨Bytes.ofString_injective, congrArg Bytes.ofString⟩
  constructor
  · intro plain
    exact ⟨mt slashes.mpr plain.slashless, (differs "").mp plain.nonempty,
      (differs ".").mp plain.ne_here, (differs "..").mp plain.ne_up⟩
  · rintro ⟨slashless, nonempty, here, up⟩
    exact ⟨mt slashes.mp slashless, (differs "").mpr nonempty, (differs ".").mpr here,
      (differs "..").mpr up⟩

/-- File names under one directory keep apart exactly if they are different. -/
theorem pairwise_join_iff (dir : Path) {names : List String}
    (plain : ∀ name ∈ names, IsFileName (Bytes.ofString name)) :
    (names.map fun name => dir.join (ofString name)).Pairwise
      (fun first second => first.same second = false) ↔ names.Nodup := by
  rw [List.pairwise_map]
  have each : ∀ first ∈ names, ∀ second ∈ names,
      (dir.join (ofString first)).same (dir.join (ofString second)) = false ↔ first ≠ second := by
    intro first inside second inside'
    rw [← Bool.not_eq_true]
    exact not_congr ((same_join_iff dir (plain first inside) (plain second inside')).trans
      ⟨Bytes.ofString_injective, congrArg Bytes.ofString⟩)
  constructor
  · exact List.Pairwise.imp_of_mem fun inside inside' => (each _ inside _ inside').mp
  · exact List.Pairwise.imp_of_mem fun inside inside' => (each _ inside _ inside').mpr

end Path

namespace Kernel

theorem slash_notMem_hex (width value : Nat) : '/' ∉ Numeral.hex width value := by
  induction width generalizing value with
  | zero => exact List.not_mem_nil
  | succ width ih =>
    have digits : ∀ digit : Fin 16, '/' ≠ Numeral.hexDigit digit := by decide
    rw [Numeral.hex, List.mem_append, List.mem_singleton, not_or]
    exact ⟨ih _, digits ⟨value % 16, Nat.mod_lt _ (by decide)⟩⟩

theorem toList_stem (kernel : Kernel) :
    kernel.stem.toList = 'k' :: Numeral.hex 16 kernel.hash.toNat := by
  rw [stem, symbolFor, Numeral.hex64, String.toList_append, String.toList_ofList,
    String.toList_ofList, List.singleton_append]

/-- What is named after a kernel is an ordinary file, if its extension has no slash. -/
theorem isFileName_stem (kernel : Kernel) {extension : String}
    (slashless : '/' ∉ extension.toList) :
    Path.IsFileName (Bytes.ofString (kernel.stem ++ "." ++ extension)) := by
  have written : (kernel.stem ++ "." ++ extension).toList =
      'k' :: (Numeral.hex 16 kernel.hash.toNat ++ '.' :: extension.toList) := by
    rw [String.toList_append, String.toList_append, toList_stem, List.append_assoc]
    rfl
  have differs : ∀ text : String, text.toList.head? ≠ some 'k' →
      kernel.stem ++ "." ++ extension ≠ text := by
    rintro text head rfl
    rw [written] at head
    exact head rfl
  refine (Path.isFileName_ofString_iff _).mpr ⟨?_, differs _ (by decide), differs _ (by decide),
    differs _ (by decide)⟩
  rw [written]
  simp [slash_notMem_hex, slashless]

end Kernel

namespace Layout

/-- The image that is linked from the archive alone is never the library. -/
theorem relinked_same_library (layout : Layout) :
    layout.relinked.same layout.library = false := by
  let base := layout.library.fileName?.getD []
  have slashless : slash ∉ base := by
    unfold base
    cases last : layout.library.fileName? with
    | none => exact List.not_mem_nil
    | some name => exact Path.slash_notMem_of_fileName? last
  have long (text : Bytes) (short : text.length < 7) : base ++ Bytes.ofString ".relink" ≠ text := by
    rintro rfl
    rw [List.length_append] at short
    exact absurd short (Nat.not_lt.mpr (Nat.le_add_left _ _))
  have plain : Path.IsFileName (base ++ Bytes.ofString ".relink") :=
    ⟨fun inside => (List.mem_append.mp inside).elim slashless (by decide), long _ (by decide),
      long _ (by decide), long _ (by decide)⟩
  refine beq_eq_false_iff_ne.mpr fun same => ?_
  have last : layout.library.fileName? = some (base ++ Bytes.ofString ".relink") := by
    rw [← Path.fileName?_join layout.dir plain, Path.fileName?, Path.fileName?, ← same]
    rfl
  have again : base = base ++ Bytes.ofString ".relink" := congrArg (Option.getD · []) last
  exact absurd (List.self_eq_append_right.mp again) (by decide)

end Layout

/-! ### The names and places of a build -/

namespace Config

/-- The names of the files of a build. -/
def fileNames (config : Config) (kernel : Kernel) : List String :=
  [config.archiveName, config.libraryName, config.libraryName ++ ".relink",
    kernel.stem ++ "." ++ config.toolchain.sourceExtension, kernel.stem ++ "." ++ "co",
    kernel.stem ++ "." ++ "so"]

/-- The files of a build. -/
def places (config : Config) (kernel : Kernel) : List Path :=
  [config.layout.archive, config.layout.library, config.layout.relinked, config.sourceFile kernel,
    config.layout.object kernel, config.layout.image kernel]

/-- What keeps the files of a build apart. -/
structure Separated (config : Config) (kernel : Kernel) : Prop where
  archive_ne_dots : config.archiveName ≠ "." ∧ config.archiveName ≠ ".."
  library_ne_dots : config.libraryName ≠ "." ∧ config.libraryName ≠ ".."
  nodup : (config.fileNames kernel).Nodup

instance (config : Config) (kernel : Kernel) : Decidable (config.Separated kernel) :=
  decidable_of_iff ((config.archiveName ≠ "." ∧ config.archiveName ≠ "..") ∧
      (config.libraryName ≠ "." ∧ config.libraryName ≠ "..") ∧ (config.fileNames kernel).Nodup)
    ⟨fun ⟨archive, library, nodup⟩ => ⟨archive, library, nodup⟩,
      fun separated => ⟨separated.archive_ne_dots, separated.library_ne_dots, separated.nodup⟩⟩

theorem validateName_eq_ok_iff (field name : String) :
    validateName field name = .ok () ↔ name ≠ "" ∧ '/' ∉ name.toList := by
  unfold validateName isPlainName
  by_cases empty : name = ""
  · simp [empty]
  · by_cases slashed : '/' ∈ name.toList <;> simp [empty, slashed]

/-- One demand after the other. -/
theorem bind_eq_ok_iff {first : Except Failure Unit} {next : Unit → Except Failure Unit} :
    (first >>= next) = .ok () ↔ first = .ok () ∧ next () = .ok () := by
  cases first with
  | error failure =>
    exact ⟨fun accepted => (nomatch accepted), fun ⟨accepted, _⟩ => (nomatch accepted)⟩
  | ok value => exact ⟨fun accepted => ⟨rfl, accepted⟩, fun ⟨_, accepted⟩ => accepted⟩

/-- A demand in the midst of others. -/
theorem refused_eq_ok_iff {refused : Prop} [Decidable refused] {failure : Failure}
    {next : Unit → Except Failure Unit} :
    (if refused then throw failure >>= next else next ()) = .ok () ↔
      ¬ refused ∧ next () = .ok () := by
  by_cases here : refused
  · rw [if_pos here]
    exact ⟨fun accepted => (nomatch accepted), fun ⟨absent, _⟩ => absurd here absent⟩
  · rw [if_neg here]
    exact (and_iff_right here).symm

/-- **The settings that are accepted.** -/
theorem validate_eq_ok_iff (config : Config) :
    config.validate = .ok () ↔
      (config.archiveName ≠ "" ∧ '/' ∉ config.archiveName.toList) ∧
      (config.libraryName ≠ "" ∧ '/' ∉ config.libraryName.toList) ∧
      config.archiveName ≠ config.libraryName ∧
      Text.trim config.toolchain.compiler.toList ≠ [] ∧
      config.toolchain.sourceExtension ≠ "" ∧ config.toolchain.sourceExtension ≠ "co" := by
  have extension : (if config.toolchain.sourceExtension = "" ∨
        config.toolchain.sourceExtension = "co" then
        throw (Failure.config "toolchain.source_extension must differ from `co`")
      else pure () : Except Failure Unit) = .ok () ↔
      config.toolchain.sourceExtension ≠ "" ∧ config.toolchain.sourceExtension ≠ "co" := by
    rw [← not_or]
    by_cases refused : config.toolchain.sourceExtension = "" ∨
        config.toolchain.sourceExtension = "co"
    · rw [if_pos refused]
      exact ⟨fun accepted => (nomatch accepted), fun absent => absurd refused absent⟩
    · rw [if_neg refused]
      exact ⟨fun _ => refused, fun _ => rfl⟩
  unfold validate
  rw [bind_eq_ok_iff, bind_eq_ok_iff, validateName_eq_ok_iff, validateName_eq_ok_iff,
    refused_eq_ok_iff, refused_eq_ok_iff, extension]

/-! ### Apart from each other -/

variable {config : Config} {kernel : Kernel}

theorem relinked_eq (library : Path.IsFileName (Bytes.ofString config.libraryName)) :
    config.layout.relinked =
      config.cacheDir.join (Path.ofString (config.libraryName ++ ".relink")) := by
  have last : config.layout.library.fileName? = some (Bytes.ofString config.libraryName) :=
    Path.fileName?_join config.cacheDir library
  rw [Layout.relinked, last, Path.ofString, Bytes.ofString_append]
  rfl

/-- The places are the names under the cache directory. -/
theorem places_eq (library : Path.IsFileName (Bytes.ofString config.libraryName)) :
    config.places kernel =
      (config.fileNames kernel).map fun name => config.cacheDir.join (Path.ofString name) := by
  rw [places, relinked_eq library]
  rfl

/-- The names are ordinary ones, if those that can be chosen are. -/
theorem isFileName_of_mem (archive : Path.IsFileName (Bytes.ofString config.archiveName))
    (library : Path.IsFileName (Bytes.ofString config.libraryName))
    (extension : '/' ∉ config.toolchain.sourceExtension.toList) {name : String}
    (inside : name ∈ config.fileNames kernel) : Path.IsFileName (Bytes.ofString name) := by
  have relinked : Path.IsFileName (Bytes.ofString (config.libraryName ++ ".relink")) := by
    obtain ⟨slashless, -, -, -⟩ := (Path.isFileName_ofString_iff _).mp library
    have long : ∀ text : String, text.toList.length < 7 →
        config.libraryName ++ ".relink" ≠ text := by
      rintro text short rfl
      rw [String.toList_append, List.length_append] at short
      exact absurd short (Nat.not_lt.mpr (Nat.le_add_left _ _))
    refine (Path.isFileName_ofString_iff _).mpr ⟨?_, long _ (by decide), long _ (by decide),
      long _ (by decide)⟩
    rw [String.toList_append, List.mem_append, not_or]
    exact ⟨slashless, by decide⟩
  simp only [fileNames, List.mem_cons, List.not_mem_nil, or_false] at inside
  rcases inside with rfl | rfl | rfl | rfl | rfl | rfl
  · exact archive
  · exact library
  · exact relinked
  · exact kernel.isFileName_stem extension
  · exact kernel.isFileName_stem (by decide)
  · exact kernel.isFileName_stem (by decide)

/-- **Accepted settings keep the places apart** exactly if they are separated. -/
theorem places_apart_iff (accepted : config.validate = .ok ())
    (extension : '/' ∉ config.toolchain.sourceExtension.toList) :
    ((config.places kernel).Pairwise (fun first second => first.same second = false) ∧
        ∀ path ∈ config.places kernel, Path.IsChild config.cacheDir path) ↔
      config.Separated kernel := by
  obtain ⟨archive, library, -⟩ := config.validate_eq_ok_iff.mp accepted
  have plain : ∀ {name : String}, name ≠ "" ∧ '/' ∉ name.toList →
      (Path.IsFileName (Bytes.ofString name) ↔ name ≠ "." ∧ name ≠ "..") := by
    rintro name ⟨nonempty, slashless⟩
    rw [Path.isFileName_ofString_iff]
    exact ⟨fun ⟨_, _, dots⟩ => dots, fun dots => ⟨slashless, nonempty, dots⟩⟩
  have child : ∀ {name : String}, '/' ∉ name.toList →
      (Path.IsChild config.cacheDir (config.cacheDir.join (Path.ofString name)) ↔
        Path.IsFileName (Bytes.ofString name)) := fun slashless =>
    Path.isChild_join_iff config.cacheDir
      (mt (Bytes.mem_ofString_iff (by decide) _).mp slashless)
  constructor
  · rintro ⟨apart, children⟩
    have archiveFile := (child archive.2).mp
      (children config.layout.archive List.mem_cons_self)
    have libraryFile := (child library.2).mp
      (children config.layout.library (List.mem_cons_of_mem _ List.mem_cons_self))
    refine ⟨(plain archive).mp archiveFile, (plain library).mp libraryFile, ?_⟩
    rw [places_eq libraryFile] at apart
    exact (Path.pairwise_join_iff config.cacheDir fun name inside =>
      isFileName_of_mem archiveFile libraryFile extension inside).mp apart
  · rintro ⟨archiveDots, libraryDots, nodup⟩
    have archiveFile := (plain archive).mpr archiveDots
    have libraryFile := (plain library).mpr libraryDots
    have files := fun name (inside : name ∈ config.fileNames kernel) =>
      isFileName_of_mem archiveFile libraryFile extension inside
    rw [places_eq libraryFile]
    refine ⟨(Path.pairwise_join_iff config.cacheDir files).mpr nodup, fun path inside => ?_⟩
    obtain ⟨name, named, rfl⟩ := List.mem_map.mp inside
    exact ⟨_, Path.components_join config.cacheDir (files name named)⟩

end Config

end KernelCache
