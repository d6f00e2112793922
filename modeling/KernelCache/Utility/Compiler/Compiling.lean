import KernelCache.C.Reading
import KernelCache.Binary.Module
import KernelCache.Standard.Header
import KernelCache.System.Host
import KernelCache.Utility.Compiler.Order

/-
**Sources that become units.**

`Compiler.compile?` takes directives and macros out of a source, reads it, and yields what an object
carries, unless the source is at fault or a doubt counts as a fault.
-/

/-! ## Warnings of the compiler

Every doubt about a source has a kind. `Warning.isError` tells by the words of a command line
whether a kind of doubt keeps a source from being compiled.
-/

namespace KernelCache.Compiler

/-- A kind of doubt. -/
structure Warning where
  /-- The word that turns it on, unless there is none. -/
  word : String
  /-- Words that turn it on with others. -/
  groups : List String := []
  /-- Whether it is there without being asked for. -/
  isOn : Bool := true
  /-- Whether the standard asks for it. -/
  isFault : Bool := false

namespace Warning

/-- Kinds of doubt that have the name of their word and are always there. -/
def plain : List String :=
  ["cpp", "div-by-zero", "int-to-pointer-cast", "pointer-to-int-cast", "multichar", "overflow",
    "shift-count-negative", "shift-count-overflow"]

/-- Kinds of doubt that have the name of their word and break the standard. -/
def faults : List String :=
  ["discarded-qualifiers", "incompatible-pointer-types", "int-conversion"]

/-- Other kinds of doubt, by the year of the standard. -/
def others (plus : Bool) (year : Nat) : List (String × Warning) :=
  let isLater := 1999 ≤ year
  [("", { word := "", isFault := true }),
    ("macro-redefined", { word := "", isFault := true }),
    ("compare-distinct-pointer-types", { word := "", isFault := true }),
    ("implicit-function-declaration",
      { word := "implicit-function-declaration", groups := ["all", "implicit"], isOn := isLater
        isFault := isLater }),
    ("implicit-int",
      { word := "implicit-int", groups := ["all", "implicit"], isOn := isLater
        isFault := isLater }),
    ("return-type",
      { word := "return-type", groups := ["all"], isOn := isLater || plus, isFault := isLater }),
    ("missing-return", { word := "return-type", groups := ["all"], isOn := plus }),
    ("pointer-sign",
      { word := "pointer-sign", groups := ["all", "pedantic"], isOn := false, isFault := true }),
    ("pedantic", { word := "pedantic", isOn := false, isFault := true }),
    ("unknown-pragmas", { word := "unknown-pragmas", groups := ["all"], isOn := false }),
    ("dangling-else",
      { word := "dangling-else", groups := ["all", "parentheses"], isOn := false }),
    ("empty-body", { word := "empty-body", groups := ["extra"], isOn := false })]

/-- A kind of doubt by its name. -/
def find (plus : Bool) (year : Nat) (kind : String) : Warning :=
  if plain.contains kind then { word := kind }
  else if faults.contains kind then { word := kind, isFault := true }
  else ((others plus year).lookup kind).getD { word := kind }

/-- The last word that is one of two, and whether it is the first of them. -/
def last? (words : List String) (yes no : List String) : Option Bool :=
  (words.reverse.find? fun word => yes.contains word || no.contains word).map yes.contains

/-- Whether a doubt is heard. -/
def isHeard (warning : Warning) (words : List String) : Bool :=
  let ofStandard := words.contains "-pedantic-errors" || words.contains "pedantic"
  let own := last? words [warning.word, "error=" ++ warning.word] ["no-" ++ warning.word]
  match own with
  | some isOn => isOn
  | none =>
    let ofGroups := warning.groups.filterMap fun name =>
      if name = "pedantic" then if ofStandard then some true else none
      else last? words [name, "error=" ++ name] ["no-" ++ name]
    if ofGroups.isEmpty then
      warning.isOn || (warning.word == "pedantic" && ofStandard)
        || (warning.groups.contains "extra" && words.contains "")
    else ofGroups.any id

/-- Whether a kind of doubt keeps a source from being compiled. -/
def isError (words : List String) (plus : Bool) (year : Nat) (kind : String) : Bool :=
  let warning := find plus year kind
  if words.contains "-w" || !(warning.word == "" || warning.isHeard words) then false
  else
    let names := warning.word :: warning.groups
    let chosen := if warning.word = "" then none
      else last? words (names.map ("error=" ++ ·)) (names.map ("no-error=" ++ ·))
    match chosen with
    | some isError => isError
    | none =>
      (last? words ["error"] ["no-error"]).getD false
        || (warning.isFault && words.contains "-pedantic-errors")

end Warning

end KernelCache.Compiler

/-! ## Sources that become units -/

namespace KernelCache.Compiler

open C.Preprocess (Found Progress)

/-- The part of a path behind the last slash. -/
def nameOf (path : List Char) : List Char := (path.reverse.takeWhile (· != '/')).reverse

/-- The part of a name behind its last dot, when it has one. -/
def extension? (name : List Char) : Option (List Char) :=
  let extension := (name.reverse.takeWhile (· != '.')).reverse
  if extension.length = name.length then none else some extension

/-- What a source is. -/
structure Nature where
  dialect : C.Dialect
  /-- Whether directives and macros count. -/
  hasMacros : Bool := true
  /-- Whether it is a header, which becomes a compiled header instead of an object. -/
  isHeader : Bool := false

/-- What an input is, when it is a source. -/
def nature? (input : Input) (plusPlus : Bool) : Option Nature :=
  let ofC : C.Dialect := if plusPlus then .cpp else .c
  if input.isLibrary then none
  else
    match input.language with
    | some "c" => some { dialect := .c }
    | some "c-header" => some { dialect := .c, isHeader := true }
    | some "c++" => some { dialect := .cpp }
    | some "c++-header" => some { dialect := .cpp, isHeader := true }
    | some "cpp-output" => some { dialect := .c, hasMacros := false }
    | some "c++-cpp-output" => some { dialect := .cpp, hasMacros := false }
    | some "assembler" => some { dialect := .assembly, hasMacros := false }
    | some "assembler-with-cpp" => some { dialect := .assembly }
    | _ => do
      match String.ofList (← extension? (nameOf input.path)) with
      | "c" => return { dialect := ofC }
      | "i" => return { dialect := ofC, hasMacros := false }
      | "h" => return { dialect := ofC, isHeader := true }
      | "cc" | "cp" | "cxx" | "cpp" | "CPP" | "c++" | "C" => return { dialect := .cpp }
      | "ii" => return { dialect := .cpp, hasMacros := false }
      | "hh" | "H" | "hp" | "hxx" | "hpp" | "HPP" | "h++" | "tcc" =>
        return { dialect := .cpp, isHeader := true }
      | "s" => return { dialect := .assembly, hasMacros := false }
      | "S" | "sx" => return { dialect := .assembly }
      | _ => none

/-- The extensions of sources in languages that the driver knows and that cannot be compiled here. -/
def foreignExtensions : List String :=
  ["m", "mi", "mm", "M", "mii", "f", "F", "f90", "F90", "f95", "F95", "f03", "F03", "f08", "F08", "for",
    "fpp", "FOR", "FPP", "ftn", "FTN", "go", "d", "dd", "di", "ads", "adb", "mod", "m2i", "r"]

/-- Whether an input is a source in a language that cannot be compiled here. -/
def isForeign (input : Input) : Bool :=
  !input.isLibrary && input.language.isNone &&
    (extension? (nameOf input.path)).any fun extension =>
      foreignExtensions.contains (String.ofList extension)

/-- The directory part of a path. -/
def directoryOf (path : Bytes) : Bytes :=
  (path.reverse.dropWhile (· ≠ slash)).reverse

/-! ### Standards -/

/-- The years of the standards of C by name. -/
def standardsOfC : List (String × Nat) :=
  [("89", 1990), ("90", 1990), ("99", 1999), ("9x", 1999), ("11", 2011), ("1x", 2011), ("17", 2017),
    ("18", 2017), ("2x", 2023)]

/-- The years of the standards of C++ by name. -/
def standardsOfPlus : List (String × Nat) :=
  [("98", 1998), ("03", 1998), ("0x", 2011), ("11", 2011), ("1y", 2014), ("14", 2014), ("1z", 2017),
    ("17", 2017), ("2a", 2020), ("20", 2020), ("2b", 2023), ("23", 2023)]

/-- The year of a standard of a language, and whether only what it has is meant. -/
def standard? (plus : Bool) (name : String) : Option (Nat × Bool) :=
  let word := name.toList
  if name = "ansi" then some (if plus then 1998 else 1990, true)
  else if plus then
    match CompilerOption.behind? "c++" word, CompilerOption.behind? "gnu++" word with
    | some year, _ => (standardsOfPlus.lookup year).map (·, true)
    | none, some year => (standardsOfPlus.lookup year).map (·, false)
    | none, none => none
  else
    match CompilerOption.behind? "iso9899:" word, CompilerOption.behind? "c" word,
        CompilerOption.behind? "gnu" word with
    | some year, _, _ =>
      ([("1990", 1990), ("199409", 1995), ("1999", 1999), ("199x", 1999), ("2011", 2011),
        ("2017", 2017), ("2018", 2017)].lookup year).map (·, true)
    | none, some year, _ => (standardsOfC.lookup year).map (·, true)
    | none, none, some year => (standardsOfC.lookup year).map (·, false)
    | none, none, none => none

/-- How sources of a dialect are read. -/
def Order.optionsFor (order : Order) (dialect : C.Dialect) : C.Options :=
  let (year, isStrict) := (order.standard.bind (standard? (dialect == .cpp))).getD (2017, false)
  { order.options with dialect, year, isStrict }

/-! ### Files -/

/-- The directory of the headers of the system. -/
def systemPath : Bytes := Bytes.ofString "/usr/include/"

/-- The files that sources include. -/
def library (order : Order) (isPlus : Bool) (files : Files) (base : Place) : C.Preprocess.Library :=
  fun directory quoted name =>
    let places (dirs : List (List Char)) : List Bytes :=
      dirs.map fun dir => Bytes.ofChars dir ++ [slash]
    let front := if quoted then directory :: places order.quoteDirs else []
    let dirs := front ++ places (order.includeDirs ++ order.systemDirs ++ order.laterDirs)
    let paths := if name.head? = some '/' then [Bytes.ofChars name]
      else dirs.map fun dir => dir ++ Bytes.ofChars name
    let own := paths.findSome? fun path =>
      match files.read base ⟨path⟩ with
      | .ok bytes => some ({ path, directory := directoryOf path, text := Bytes.toChars bytes } : Found)
      | .error _ => none
    match own with
    | some found => some found
    | none =>
      if order.hasHeaders then
        (Standard.Header.text? isPlus (String.ofList name)).map fun text =>
          { path := systemPath ++ Bytes.ofChars name, directory := systemPath, text := text.toList }
      else none

/-- Reads a file that must be there. -/
def file? (files : Files) (base : Place) (path : List Char) : Option Found :=
  match files.read base (Host.pathOf path) with
  | .ok bytes =>
    let octets := Bytes.ofChars path
    some { path := octets, directory := directoryOf octets, text := Bytes.toChars bytes }
  | .error _ => none

/-- The files in front of a source, of which the first ones leave their macros only. -/
def fronts? (order : Order) (files : Files) (base : Place) (options : C.Options) (hasMacros : Bool) :
    Option (List Found × List Found) := do
  let predefined := if order.hasMacros then Predefined.text options order.target else []
  let written : Found :=
    { path := [], directory := []
      text := if hasMacros then predefined ++ order.directives else predefined }
  let find (name : List Char) : Option Found :=
    (file? files base name).or (library order (options.dialect == .cpp) files base [] true name)
  if hasMacros then
    return (written :: (← order.macroFiles.mapM find), ← order.headers.mapM find)
  else return ([written], [])

/-! ### Compiling -/

/-- Takes directives and macros out of the text of a source. -/
def preprocess? (order : Order) (files : Files) (base : Place) (nature : Nature) (source : Found) :
    Option Progress := do
  let options := order.optionsFor nature.dialect
  let (silent, front) ← fronts? order files base options nature.hasMacros
  let plusPlus := options.isPlus
  let style : C.Preprocess.Style :=
    { plusPlus, slashes := plusPlus || !options.isStrict || 1999 ≤ options.year
      isAssembly := nature.dialect == .assembly }
  C.Preprocess.run? style (library order (options.dialect == .cpp) files base) {} silent (front ++ [source])

/-- Compiles the text of a source. -/
def compile? (order : Order) (files : Files) (base : Place) (nature : Nature) (source : Found) :
    Option (UnitText × List Bytes) := do
  let options := order.optionsFor nature.dialect
  if let some unit := AssemblyFile.decode? (Bytes.ofChars source.text) then
    if nature.dialect = .assembly then return (unit, []) else none
  else if nature.dialect = .assembly && !nature.hasMacros then
    let unit : UnitText := ⟨options, Bytes.ofChars source.text⟩
    let _ ← unit.piece?
    return (unit, [])
  else
    let progress ← preprocess? order files base nature source
    let text := if nature.dialect = .assembly
      then C.Preprocess.printed false false progress.files progress.output
      else C.Preprocess.textOf progress.output
    let unit : UnitText := ⟨options, Bytes.ofChars text⟩
    let kinds ← if nature.dialect = .assembly then (unit.piece?).map fun _ => []
      else (unit.source?).map (·.warnings)
    let isFault := Warning.isError order.warnings options.isPlus options.year
    if (progress.warnings ++ kinds).any isFault then none else return (unit, progress.included)

end KernelCache.Compiler
