import KernelCache.Config.Schema
import Mathlib.Data.List.Induction

/-
**Which member of a document sets a field.**

A record is read member by member, each into the field of its name, so the last member of a name
decides. Where a document has none, the field keeps the value with which the reading starts.

* `Schema.given?` is the item that the members of a table give to a name, `Schema.part?` the one that a
  value gives to a field of a record, also by its place in an array.
* `Schema.Sets`: the members of one name, and no others, set a part of the record.
* `Schema.Sets.of_entries` and `Schema.Sets.of_record`: what such a part is after the reading.
* `Schema.Follows.part`: the same for a part of a part.
* `Schema.config_sets`, `Schema.toolchain_sets`, `Schema.poll_sets`: the parts of the settings.
-/

namespace KernelCache

namespace Schema

open Toml

variable {σ α β : Type}

/-- The item that members give to a name; the last of them counts. -/
def given? (name : String) (entries : Entries) : Option Item :=
  (entries.reverse.find? fun entry => entry.1.name == name).map (·.2)

/-- The item that a value gives to a field of a record. -/
def part? (fields : List (Field σ)) (name : String) : Item → Option Item
  | (_, .table _ entries) => given? name entries
  | (_, .array items) | (_, .tables items) =>
    ((fields.zip items).reverse.find? fun pair => pair.1.name == name).map (·.2)
  | _ => none

/-- The value that a decoder reads, if it reads one. -/
def value? (decode : Decode α) (item : Item) : Option α := (decode item).toOption

/-- A part of a record behind some members: what is read from the item, if there is one. -/
def Follows (read : Item → Option β) (found : Option Item) (before after : β) : Prop :=
  match found with
  | none => after = before
  | some item => read item = some after

theorem Follows.eq {read : Item → Option β} {found : Option Item} {before after : β}
    (follows : Follows read found before after) : after = (found.bind read).getD before := by
  cases found with
  | none => exact follows
  | some item =>
    have read : read item = some after := follows
    rw [Option.bind_some, read, Option.getD_some]

/-- The same for a part that is there or not. -/
theorem Follows.eq_or {read : Item → Option (Option β)} {given : Item → Option β}
    {found : Option Item} {before after : Option β} (follows : Follows read found before after)
    (same : ∀ item, read item = (given item).map some) :
    after = (found.bind given).or before := by
  rw [follows.eq]
  cases found with
  | none => rfl
  | some item =>
    rw [Option.bind_some, Option.bind_some, same]
    cases given item <;> rfl

/-! ### One field -/

/-- What the field assigns is read from the item into a part of the record. -/
def Field.Gives (field : Field σ) (read : Item → Option β) (get : σ → β) : Prop :=
  ∀ item record later, field.assign item record = .ok later → read item = some (get later)

/-- What the field assigns leaves a part of the record as it is. -/
def Field.Keeps (field : Field σ) (get : σ → β) : Prop :=
  ∀ item record later, field.assign item record = .ok later → get later = get record

theorem assign_eq_ok {name : String} {decode : Decode α} {assign : α → σ → σ} {item : Item}
    {record later : σ} (assigned : (field name decode assign).assign item record = .ok later) :
    ∃ value, decode item = .ok value ∧ assign value record = later := by
  have assigned : (decode item).map (assign · record) = .ok later := assigned
  cases decoded : decode item with
  | error mismatch =>
    rw [decoded] at assigned
    cases assigned
  | ok value =>
    rw [decoded] at assigned
    exact ⟨value, rfl, Except.ok.inj assigned⟩

theorem gives_field {name : String} {decode : Decode α} {assign : α → σ → σ} {get : σ → α}
    (same : ∀ value record, get (assign value record) = value) :
    (field name decode assign).Gives (value? decode) get := by
  intro item record later assigned
  obtain ⟨value, decoded, rfl⟩ := assign_eq_ok assigned
  show (decode item).toOption = _
  rw [decoded, same]
  rfl

/-- The same for a field whose value is converted before it is assigned. -/
theorem gives_field_map {name : String} {decode : Decode α} {assign : α → σ → σ} {get : σ → β}
    {convert : α → β} (same : ∀ value record, get (assign value record) = convert value) :
    (field name decode assign).Gives (fun item => (value? decode item).map convert) get := by
  intro item record later assigned
  obtain ⟨value, decoded, rfl⟩ := assign_eq_ok assigned
  show ((decode item).toOption).map convert = _
  rw [decoded, same]
  rfl

theorem keeps_field {name : String} {decode : Decode α} {assign : α → σ → σ} {get : σ → β}
    (same : ∀ value record, get (assign value record) = get record) :
    (field name decode assign).Keeps get := by
  intro item record later assigned
  obtain ⟨value, -, rfl⟩ := assign_eq_ok assigned
  exact same value record

/-! ### Many fields -/

/-- The members of a name set a part of the record, and no others change it. -/
structure Sets (fields : List (Field σ)) (name : String) (read : Item → Option β) (get : σ → β) :
    Prop where
  own : ∀ field ∈ fields, field.name = name → field.Gives read get
  others : ∀ field ∈ fields, field.name ≠ name → field.Keeps get

namespace Sets

variable {fields : List (Field σ)} {name : String} {read : Item → Option β} {get : σ → β}

theorem nil : Sets ([] : List (Field σ)) name read get := ⟨nofun, nofun⟩

theorem cons_own {first : Field σ} (named : first.name = name) (gives : first.Gives read get)
    (rest : Sets fields name read get) : Sets (first :: fields) name read get where
  own := List.forall_mem_cons.mpr ⟨fun _ => gives, rest.own⟩
  others := List.forall_mem_cons.mpr ⟨fun other => absurd named other, rest.others⟩

theorem cons_other {first : Field σ} (other : first.name ≠ name) (keeps : first.Keeps get)
    (rest : Sets fields name read get) : Sets (first :: fields) name read get where
  own := List.forall_mem_cons.mpr ⟨fun named => absurd named other, rest.own⟩
  others := List.forall_mem_cons.mpr ⟨fun _ => keeps, rest.others⟩

/-- One assignment after the other: the last one under the name decides. -/
theorem of_foldlM {γ : Type} (label : γ → String) (item : γ → Item)
    {step : σ → γ → Except Mismatch σ} {given : List γ} {start result : σ}
    (own : ∀ one ∈ given, label one = name → ∀ record later, step record one = .ok later →
      read (item one) = some (get later))
    (others : ∀ one ∈ given, label one ≠ name → ∀ record later, step record one = .ok later →
      get later = get record)
    (ran : given.foldlM step start = .ok result) :
    Follows read ((given.reverse.find? fun one => label one == name).map item) (get start)
      (get result) := by
  induction given using List.reverseRecOn generalizing result with
  | nil => exact congrArg get (Except.ok.inj ran).symm
  | append_singleton front last ih =>
    rw [List.foldlM_append] at ran
    cases before : front.foldlM step start with
    | error mismatch => rw [before] at ran; cases ran
    | ok record =>
      rw [before] at ran
      have ran : (step record last >>= pure) = .ok result := ran
      rw [bind_pure] at ran
      have inside : last ∈ front ++ [last] := List.mem_append_right _ List.mem_cons_self
      rw [List.reverse_concat, List.find?_cons]
      by_cases named : label last = name
      · rw [beq_iff_eq.mpr named]
        exact own last inside named record result ran
      · rw [beq_eq_false_iff_ne.mpr named]
        rw [others last inside named record result ran]
        exact ih (fun one mem => own one (List.mem_append_left _ mem))
          (fun one mem => others one (List.mem_append_left _ mem)) before

/-- A member of a table is read into the field of its name. -/
theorem assign_of_member {record later : σ} {entry : Key × Item}
    (read : member fields record entry = .ok later) :
    ∃ field ∈ fields, field.name = entry.1.name ∧ field.assign entry.2 record = .ok later := by
  unfold member at read
  split at read
  · rename_i field found
    have matched := List.find?_some found
    refine ⟨field, List.mem_of_find?_eq_some found, beq_iff_eq.mp matched, ?_⟩
    split at read
    · rename_i assigned
      cases read
      exact assigned
    · cases read
  · cases read

/-- **The members of a table**: the last one of the name decides. -/
theorem of_entries (sets : Sets fields name read get) {entries : Entries} {start result : σ}
    (ran : entries.foldlM (member fields) start = .ok result) :
    Follows read (given? name entries) (get start) (get result) := by
  refine of_foldlM (fun entry => entry.1.name) Prod.snd ?_ ?_ ran
  · rintro entry - named record later step
    obtain ⟨field, inside, same, assigned⟩ := assign_of_member step
    exact sets.own field inside (same.trans named) _ _ _ assigned
  · rintro entry - other record later step
    obtain ⟨field, inside, same, assigned⟩ := assign_of_member step
    exact sets.others field inside (same.symm ▸ other) _ _ _ assigned

/-- The items of an array, in the order of the fields. -/
theorem of_items (sets : Sets fields name read get) {items : List Item} {start result : σ}
    (ran : (fields.zip items).foldlM (fun current pair => pair.1.assign pair.2 current) start =
      .ok result) :
    Follows read (((fields.zip items).reverse.find? fun pair => pair.1.name == name).map (·.2))
      (get start) (get result) := by
  refine of_foldlM (fun pair => pair.1.name) Prod.snd ?_ ?_ ran
  · intro pair inside named record later assigned
    exact sets.own _ (List.of_mem_zip inside).1 named _ _ _ assigned
  · intro pair inside other record later assigned
    exact sets.others _ (List.of_mem_zip inside).1 other _ _ _ assigned

/-- **The parts of a record**, from a table or from an array. -/
theorem of_record (sets : Sets fields name read get) {type : String} {start result : σ}
    {item : Item} (ran : record type fields start item = .ok result) :
    Follows read (part? fields name item) (get start) (get result) := by
  obtain ⟨position, value⟩ := item
  cases value with
  | table origin entries => exact sets.of_entries ran
  | array items => exact sets.of_items ran
  | tables items => exact sets.of_items ran
  | string text => cases ran
  | integer number => cases ran
  | float number => cases ran
  | boolean truth => cases ran
  | date => cases ran

end Sets

/-- **The parts of a record** that is itself a part. -/
theorem Follows.part {fields : List (Field σ)} {name type : String} {read : Item → Option β}
    {get : σ → β} {start after : σ} {found : Option Item}
    (follows : Follows (value? (record type fields start)) found start after)
    (sets : Sets fields name read get) :
    Follows read (found.bind (part? fields name)) (get start) (get after) := by
  cases found with
  | none => exact congrArg get follows
  | some item =>
    have decoded : (record type fields start item).toOption = some after := follows
    cases ran : record type fields start item with
    | error mismatch => rw [ran] at decoded; cases decoded
    | ok result =>
      rw [ran] at decoded
      cases decoded
      exact sets.of_record ran

/-! ### The settings -/

/-- The names of the backends. -/
abbrev backendNames : List (String × Backend) := [("host", .host), ("cuda", .cuda), ("hip", .hip)]

/-- The names of the link styles. -/
abbrev linkStyleNames : List (String × LinkStyle) := [("gnu", .gnu), ("apple", .apple)]

/-- Every part of a toolchain is set by the members of its name. -/
theorem toolchain_sets :
    Sets toolchainFields "cxx" (value? text) Toolchain.compiler ∧
    Sets toolchainFields "ar" (value? text) Toolchain.archiver ∧
    Sets toolchainFields "flags" (value? text) Toolchain.flags ∧
    Sets toolchainFields "include_dirs" (value? (listOf path)) Toolchain.includeDirs ∧
    Sets toolchainFields "source_extension" (value? text) Toolchain.sourceExtension ∧
    Sets toolchainFields "backend" (value? (oneOf backendNames)) Toolchain.backend ∧
    Sets toolchainFields "link_style" (value? (oneOf linkStyleNames)) Toolchain.linkStyle := by
  refine ⟨?_, ?_, ?_, ?_, ?_, ?_, ?_⟩ <;> repeat
    first
    | exact .nil
    | refine .cons_own rfl (gives_field fun _ _ => rfl) ?_
    | refine .cons_other (by decide) (keeps_field fun _ _ => rfl) ?_

/-- Every part of the polling is set by the members of its name. -/
theorem poll_sets :
    Sets pollFields "interval_ms" (fun item => (value? (unsigned 64) item).map UInt64.ofNat)
      PollSettings.intervalMs ∧
    Sets pollFields "max_attempts"
      (fun item => (value? (unsigned 32) item).map (some ∘ UInt32.ofNat))
      PollSettings.maxAttempts := by
  refine ⟨?_, ?_⟩ <;> repeat
    first
    | exact .nil
    | refine .cons_own rfl (gives_field_map fun _ _ => rfl) ?_
    | refine .cons_other (by decide) (keeps_field fun _ _ => rfl) ?_

/-- Every part of the settings is set by the members of its name. -/
theorem config_sets :
    Sets configFields "cache_dir" (value? path) Config.cacheDir ∧
    Sets configFields "archive_name" (value? text) Config.archiveName ∧
    Sets configFields "library_name" (value? text) Config.libraryName ∧
    Sets configFields "toolchain" (value? (record "ToolchainConfig" toolchainFields {}))
      Config.toolchain ∧
    Sets configFields "poll" (value? (record "PollSettings" pollFields {})) Config.poll ∧
    Sets configFields "verbose" (value? truth) Config.verbose ∧
    Sets configFields "command_log" (fun item => (value? path item).map some)
      Config.commandLog := by
  refine ⟨?_, ?_, ?_, ?_, ?_, ?_, ?_⟩ <;> repeat
    first
    | exact .nil
    | refine .cons_own rfl (gives_field fun _ _ => rfl) ?_
    | refine .cons_own rfl (gives_field_map fun _ _ => rfl) ?_
    | refine .cons_other (by decide) (keeps_field fun _ _ => rfl) ?_

end Schema

end KernelCache
