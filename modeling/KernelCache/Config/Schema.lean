import KernelCache.Config.Basic
import KernelCache.Text.Quoted
import KernelCache.Toml.Parser

/-
**Settings written as a TOML document.**

A document is compared with the settings member by member, in the order of the text, and the first
member that does not fit is reported with its place. Settings may also be written as an array, in
the order of the fields; what is missing keeps its default.

* `Schema.Decode` reads a value of one shape.
* `Config.ofToml` reads a whole document and validates the settings.
-/

namespace KernelCache

/-- Why a document does not fit the settings, and at which character. -/
structure Mismatch where
  detail : String
  position : Option Nat
  deriving DecidableEq, Repr

namespace Mismatch

/-- The mismatch with a place, unless it has one. -/
def orAt (mismatch : Mismatch) (position : Option Nat) : Mismatch :=
  { mismatch with position := mismatch.position.orElse fun _ => position }

end Mismatch

namespace Schema

open Toml

/-! ### Single values -/

/-- What a value is, in a report about its type. -/
def shape : Value → String
  | .string text => "string " ++ Text.quoted text
  | .integer number => s!"integer `{number}`"
  | .float number => s!"floating point `{Decimal.plainText number}`"
  | .boolean truth => s!"boolean `{truth}`"
  | .date => "map"
  | .array _ => "sequence"
  | .table _ _ => "map"
  | .tables _ => "sequence"

/-- A value of the wrong type. -/
def wrongType {α : Type} (expected : String) (item : Item) : Except Mismatch α :=
  .error ⟨s!"invalid type: {shape item.2}, expected {expected}", item.1⟩

/-- Reads one value. -/
abbrev Decode (α : Type) := Item → Except Mismatch α

/-- Reads a text. -/
def text : Decode String
  | (_, .string text) => .ok text
  | item => wrongType "a string" item

/-- Reads a path. -/
def path : Decode Path
  | (_, .string text) => .ok (Path.ofString text)
  | item => wrongType "path string" item

/-- Reads a truth value. -/
def truth : Decode Bool
  | (_, .boolean truth) => .ok truth
  | item => wrongType "a boolean" item

/-- Reads a number of the given width in bits. -/
def unsigned (bits : Nat) : Decode Nat
  | (position, .integer number) =>
    if 0 ≤ number ∧ number < twoTo bits then .ok number.toNat
    else .error ⟨s!"invalid value: integer `{number}`, expected u{bits}", position⟩
  | item => wrongType s!"u{bits}" item

/-- Reads values of one shape. -/
def listOf {α : Type} (decode : Decode α) : Decode (List α)
  | (_, .array items) => items.mapM decode
  | (_, .tables items) => items.mapM decode
  | item => wrongType "a sequence" item

/-! ### Names out of a list -/

/-- Names between grave accents as a choice. -/
def choice : List String → String
  | [] => "there are no fields"
  | [one] => s!"expected `{one}`"
  | [one, other] => s!"expected `{one}` or `{other}`"
  | names => "expected one of " ++ ", ".intercalate (names.map fun name => s!"`{name}`")

/-- The name of a value's type, in a report about a variant. -/
def typeName : Value → String
  | .string _ => "string"
  | .integer _ => "integer"
  | .float _ => "float"
  | .boolean _ => "boolean"
  | .date => "datetime"
  | .array _ => "array"
  | .table .inline _ => "inline table"
  | .table .dottedInline _ => "inline table"
  | .table _ _ => "table"
  | .tables _ => "array of tables"

/-- Looks a variant up by its name. -/
def variant {α : Type} (variants : List (String × α)) (name : String) (position : Option Nat) :
    Except Mismatch α :=
  match variants.lookup name with
  | some value => .ok value
  | none => .error ⟨s!"unknown variant `{name}`, {choice (variants.map (·.1))}", position⟩

/-- Demands that a variant carries nothing. -/
def nothing : Decode Unit
  | (_, .array []) | (_, .table _ []) | (_, .tables []) => .ok ()
  | (position, .tables _) => .error ⟨"expected empty array", position⟩
  | (position, .array _) | (position, .table _ _) => .error ⟨"expected empty table", position⟩
  | (position, value) => .error ⟨s!"expected table, found {typeName value}", position⟩

/-- Reads a variant: its name, or a table with its name as the only member. -/
def oneOf {α : Type} (variants : List (String × α)) : Decode α
  | (position, .string name) => variant variants name position
  | (position, .table _ []) =>
    .error ⟨"wanted exactly 1 element, found 0 elements", position⟩
  | (position, .table _ [(key, item)]) => do
    let found ← variant variants key.name (some key.position)
    match nothing item with
    | .ok () => return found
    | .error mismatch => throw (mismatch.orAt position)
  | (position, .table _ _) =>
    .error ⟨"wanted exactly 1 element, more than 1 element", position⟩
  | (position, _) => .error ⟨"wanted string or table", position⟩

/-! ### Records -/

/-- A field: its name, and how its value changes the record. -/
structure Field (σ : Type) where
  name : String
  assign : Item → σ → Except Mismatch σ

/-- A field that is read by a decoder. -/
def field {σ α : Type} (name : String) (decode : Decode α) (assign : α → σ → σ) : Field σ where
  name
  assign item record := (decode item).map (assign · record)

/-- Reads one member into the field of its name. -/
def member {σ : Type} (fields : List (Field σ)) (record : σ) (entry : Key × Item) :
    Except Mismatch σ :=
  match fields.find? fun field => field.name == entry.1.name with
  | some field =>
    match field.assign entry.2 record with
    | .ok record => .ok record
    | .error mismatch =>
      .error (mismatch.orAt (entry.2.1.orElse fun _ => some entry.1.position))
  | none =>
    .error ⟨s!"unknown field `{entry.1.name}`, {choice (fields.map (·.name))}",
      some entry.1.position⟩

/-- Reads a record from a table, or from an array in the order of its fields. -/
def record {σ : Type} (name : String) (fields : List (Field σ)) (start : σ) : Decode σ
  | (_, .table _ entries) => entries.foldlM (member fields) start
  | (_, .array items) =>
    (fields.zip items).foldlM (fun current pair => pair.1.assign pair.2 current) start
  | (_, .tables items) =>
    (fields.zip items).foldlM (fun current pair => pair.1.assign pair.2 current) start
  | (position, .date) =>
    .error ⟨s!"unknown field `$__toml_private_datetime`, {choice (fields.map (·.name))}", position⟩
  | item => wrongType s!"struct {name}" item

/-! ### The settings -/

/-- The fields of the toolchain. -/
def toolchainFields : List (Field Toolchain) := [
  field "cxx" text fun compiler toolchain => { toolchain with compiler },
  field "ar" text fun archiver toolchain => { toolchain with archiver },
  field "flags" text fun flags toolchain => { toolchain with flags },
  field "include_dirs" (listOf path) fun includeDirs toolchain => { toolchain with includeDirs },
  field "source_extension" text
    fun sourceExtension toolchain => { toolchain with sourceExtension },
  field "backend" (oneOf [("host", .host), ("cuda", .cuda), ("hip", .hip)])
    fun backend toolchain => { toolchain with backend },
  field "link_style" (oneOf [("gnu", .gnu), ("apple", .apple)])
    fun linkStyle toolchain => { toolchain with linkStyle }]

/-- The fields of the polling. -/
def pollFields : List (Field PollSettings) := [
  field "interval_ms" (unsigned 64)
    fun interval settings => { settings with intervalMs := UInt64.ofNat interval },
  field "max_attempts" (unsigned 32)
    fun attempts settings => { settings with maxAttempts := some (UInt32.ofNat attempts) }]

/-- The fields of the settings. -/
def configFields : List (Field Config) := [
  field "cache_dir" path fun cacheDir config => { config with cacheDir },
  field "archive_name" text fun archiveName config => { config with archiveName },
  field "library_name" text fun libraryName config => { config with libraryName },
  field "toolchain" (record "ToolchainConfig" toolchainFields {})
    fun toolchain config => { config with toolchain },
  field "poll" (record "PollSettings" pollFields {}) fun poll config => { config with poll },
  field "verbose" truth fun verbose config => { config with verbose },
  field "command_log" path fun commandLog config => { config with commandLog := some commandLog }]

end Schema

/-- Why a document gives no settings. -/
inductive DocumentFault where
  /-- The text is no document, as is seen at one of its characters. -/
  | malformed (position : Nat)
  /-- The document does not fit the settings. -/
  | mismatch (mismatch : Mismatch)
  /-- No build can succeed with the settings. -/
  | invalid (failure : Failure)
  deriving DecidableEq, Repr

namespace Config

/-- The settings of a document, before they are validated. -/
def decode (source : String) : Except DocumentFault Config :=
  match Toml.parse source with
  | .error position => .error (.malformed position)
  | .ok entries =>
    match entries.foldlM (Schema.member Schema.configFields) {} with
    | .ok config => .ok config
    | .error mismatch => .error (.mismatch mismatch)

/-- The settings of a document. -/
def ofToml (source : String) : Except DocumentFault Config := do
  let config ← decode source
  match config.validate with
  | .ok () => return config
  | .error failure => throw (.invalid failure)

end Config

/-- The line and the column of a character, both counted from one. The end of the text is the column
behind its last character, even where that ends a line. A column counts characters; in front of a
character that is longer than one octet it counts octets. -/
def lineAndColumn (source : List Char) (position : Nat) : Nat × Nat :=
  let place := min position (source.length - 1)
  let before := source.take place
  let inLine := before.reverse.takeWhile (· ≠ '\n')
  let wide := place = position && (source[place]?.any fun char => 1 < char.utf8Size)
  let width := if wide then inLine.foldl (fun sum char => sum + char.utf8Size) 0 else inLine.length
  (before.count '\n' + 1, width + (position - place) + 1)

end KernelCache
