import KernelCache.Proofs.Config.Layers

/-
**The settings of a command line.**

The settings come out of four layers: the directory on the command line, the environment, the settings
file and the defaults. Every one has the value of the highest layer that names it.

* `Layer.ofEntries` is what the members of a document name, `Layer.ofFile` what a file names;
  `Layer.ofEntries_onto` and `Layer.ofFile_onto`: reading lays just that over the defaults.
* `CommandLine.settings_resolved`: the settings of a command line are those of its layers.
* **`Config.layers_compose`**: overlays compose, each variable has a setting of its own, and a command
  line has its settings from its layers.
-/

namespace KernelCache

namespace Layer

open Toml Schema

/-- The item that a document gives to a part of the toolchain. -/
def toolchainPart? (name : String) (entries : Entries) : Option Item :=
  (given? "toolchain" entries).bind (part? toolchainFields name)

/-- The item that a document gives to a part of the polling. -/
def pollPart? (name : String) (entries : Entries) : Option Item :=
  (given? "poll" entries).bind (part? pollFields name)

/-- The settings that the members of a document name. -/
def ofEntries (entries : Entries) : Layer where
  cacheDir := (given? "cache_dir" entries).bind (value? path)
  archiveName := (given? "archive_name" entries).bind (value? text)
  libraryName := (given? "library_name" entries).bind (value? text)
  compiler := (toolchainPart? "cxx" entries).bind (value? text)
  archiver := (toolchainPart? "ar" entries).bind (value? text)
  flags := (toolchainPart? "flags" entries).bind (value? text)
  includeDirs := (toolchainPart? "include_dirs" entries).bind (value? (listOf path))
  sourceExtension := (toolchainPart? "source_extension" entries).bind (value? text)
  backend := (toolchainPart? "backend" entries).bind (value? (oneOf backendNames))
  linkStyle := (toolchainPart? "link_style" entries).bind (value? (oneOf linkStyleNames))
  intervalMs := (pollPart? "interval_ms" entries).bind fun item =>
    (value? (unsigned 64) item).map UInt64.ofNat
  maxAttempts := (pollPart? "max_attempts" entries).bind fun item =>
    (value? (unsigned 32) item).map UInt32.ofNat
  verbose := (given? "verbose" entries).bind (value? truth)
  commandLog := (given? "command_log" entries).bind (value? path)

/-- **Reading a document** lays what it names over the defaults. -/
theorem ofEntries_onto {entries : Entries} {config : Config}
    (ran : entries.foldlM (member configFields) {} = .ok config) :
    config = (ofEntries entries).onto {} := by
  obtain ⟨cacheDir, archiveName, libraryName, toolchain, poll, verbose, commandLog⟩ := config_sets
  obtain ⟨compiler, archiver, flags, includeDirs, sourceExtension, backend, linkStyle⟩ :=
    toolchain_sets
  obtain ⟨intervalMs, maxAttempts⟩ := poll_sets
  have tools := toolchain.of_entries ran
  have polling := poll.of_entries ran
  have toolchainEq : config.toolchain = ((ofEntries entries).onto {}).toolchain := by
    calc config.toolchain
      _ = ⟨_, _, _, _, _, _, _⟩ := rfl
      _ = _ := by
        rw [(tools.part compiler).eq, (tools.part archiver).eq, (tools.part flags).eq,
          (tools.part includeDirs).eq, (tools.part sourceExtension).eq, (tools.part backend).eq,
          (tools.part linkStyle).eq]
        rfl
  have pollEq : config.poll = ((ofEntries entries).onto {}).poll := by
    calc config.poll
      _ = ⟨_, _⟩ := rfl
      _ = _ := by
        rw [(polling.part intervalMs).eq,
          (polling.part maxAttempts).eq_or fun _ => (Option.map_map ..).symm]
        rfl
  calc config
    _ = ⟨_, _, _, _, _, _, _⟩ := rfl
    _ = _ := by
      rw [(cacheDir.of_entries ran).eq, (archiveName.of_entries ran).eq,
        (libraryName.of_entries ran).eq, toolchainEq, pollEq, (verbose.of_entries ran).eq,
        (commandLog.of_entries ran).eq_or fun _ => rfl]
      rfl

/-- The settings that a file names. -/
def ofFile (files : Files) (base : Place) : Option Path → Layer
  | none => {}
  | some path =>
    match Config.readText files base path with
    | .error _ => {}
    | .ok source =>
      match Toml.parse source with
      | .error _ => {}
      | .ok entries => ofEntries entries

/-- The settings that a command line names. -/
def ofInvocation (invocation : Invocation) : Layer where
  cacheDir := invocation.cacheDir

/-- **Reading a file** lays what it names over the defaults. -/
theorem ofFile_onto {files : Files} {base : Place} {path : Path} {config : Config}
    (read : Config.ofFile files base path = .ok config) :
    config = (ofFile files base (some path)).onto {} := by
  unfold Config.ofFile at read
  unfold ofFile
  cases found : Config.readText files base path with
  | error fault => rw [found] at read; cases read
  | ok source =>
    rw [found] at read
    cases parsed : Toml.parse source with
    | error position =>
      simp only [Config.ofToml, Config.decode, parsed] at read
      cases read
    | ok entries =>
      cases ran : entries.foldlM (member configFields) {} with
      | error mismatch =>
        simp only [Config.ofToml, Config.decode, parsed, ran] at read
        cases read
      | ok settings =>
        have same : config = settings := by
          simp only [Config.ofToml, Config.decode, parsed, ran] at read
          cases valid : settings.validate with
          | error failure => simp only [valid, bind, Except.bind] at read; cases read
          | ok value => simp only [valid, bind, Except.bind] at read; cases read; rfl
        simp only [same, found, parsed]
        exact ofEntries_onto ran

end Layer

/-! ### Command lines -/

namespace CommandLine

variable {α β : Type} {machine later : Machine}

/-- A run that succeeds succeeds in its parts. -/
theorem run_bind_ok {first : RunM α} {next : α → RunM β} {result : β}
    (ran : (first >>= next).run.run machine = (.ok result, later)) :
    ∃ value between, first.run.run machine = (.ok value, between) ∧
      (next value).run.run between = (.ok result, later) := by
  rw [ExceptT.run_bind, StateT.run_bind] at ran
  rcases ended : first.run.run machine with ⟨trouble | value, between⟩
  · rw [ended] at ran
    cases ran
  · rw [ended] at ran
    exact ⟨value, between, rfl, ran⟩

theorem run_orFail (outcome : Except Failure α) (machine : Machine) :
    (orFail outcome).run.run machine = (outcome.mapError .failure, machine) := by
  cases outcome <;> rfl

/-- Reading a settings file takes a moment. -/
theorem run_readSettings (path : Path) (machine : Machine) :
    (readSettings path).run.run machine =
      ((Config.ofFile machine.files machine.base path).mapError fun fault =>
          .document fault.1 fault.2,
        { machine with now := machine.now + Link.delay }) := by
  have asked : (onMachine (Machine.ask fun files base => Config.ofFile files base path)).run.run
      machine = (.ok (Config.ofFile machine.files machine.base path),
        { machine with now := machine.now + Link.delay }) := rfl
  unfold readSettings
  rw [ExceptT.run_bind, StateT.run_bind, asked]
  cases Config.ofFile machine.files machine.base path <;> rfl

theorem eq_ok_of_mapError {ε ε' : Type} {convert : ε → ε'} {outcome : Except ε α} {value : α}
    (ran : outcome.mapError convert = .ok value) : outcome = .ok value := by
  cases outcome with
  | error fault => cases ran
  | ok found => cases ran; rfl

/-- The settings below the environment. -/
def fileSettings (invocation : Invocation) : RunM Config :=
  match invocation.config with
  | some path => readSettings path
  | none => pure {}

theorem settings_eq (environment : Environment) (invocation : Invocation) :
    settings environment invocation = (do
      let base ← fileSettings invocation
      let overlaid ← orFail (base.overlay environment)
      let config := { overlaid with cacheDir := invocation.cacheDir.getD overlaid.cacheDir }
      orFail config.validate
      return config) := by
  unfold settings fileSettings
  cases invocation.config <;> rfl

theorem run_fileSettings_ok {invocation : Invocation} {config : Config}
    (ran : (fileSettings invocation).run.run machine = (.ok config, later)) :
    config = (Layer.ofFile machine.files machine.base invocation.config).onto {} := by
  unfold fileSettings at ran
  cases named : invocation.config with
  | none => rw [named] at ran; cases ran; rfl
  | some path =>
    simp only [named] at ran
    rw [run_readSettings] at ran
    exact Layer.ofFile_onto (eq_ok_of_mapError (congrArg Prod.fst ran))

/-- **The settings of a command line** are those of its layers, and valid. -/
theorem settings_resolved {environment : Environment} {invocation : Invocation} {config : Config}
    (ran : (settings environment invocation).run.run machine = (.ok config, later)) :
    ∃ named, Layer.ofEnvironment environment = .ok named ∧
      config = Layer.resolve [.ofInvocation invocation, named,
        .ofFile machine.files machine.base invocation.config] ∧
      config.validate = .ok () := by
  rw [settings_eq] at ran
  obtain ⟨base, between, based, ran⟩ := run_bind_ok ran
  obtain ⟨overlaid, _, overlaying, ran⟩ := run_bind_ok ran
  obtain ⟨_, _, validating, ran⟩ := run_bind_ok ran
  rw [run_orFail] at overlaying validating
  obtain ⟨named, read, overlaidEq, -⟩ :=
    Config.overlay_eq_ok (eq_ok_of_mapError (congrArg Prod.fst overlaying))
  have valid := eq_ok_of_mapError (congrArg Prod.fst validating)
  cases ran
  refine ⟨named, read, ?_, valid⟩
  rw [Layer.resolve_cons, Layer.resolve_cons, Layer.resolve_cons]
  have defaults : Layer.resolve [] = {} := rfl
  rw [defaults, ← run_fileSettings_ok based, ← overlaidEq]
  rfl

end CommandLine

/-! ### All layers -/

/-- **The layers compose.** An overlay on an overlay is one overlay with the joined environment, in its
failures, too, and the same overlay again changes nothing. It depends on the variables alone, each of
which has a setting of its own, and its result is valid. The settings of a command line, where there
are any, are valid, and each is what the highest layer says that names it. -/
theorem Config.layers_compose (config : Config) (environment : Environment) :
    (∀ lower between, config.overlay lower = .ok between →
      between.overlay environment = config.overlay (environment.onto lower)) ∧
    (config.overlay environment >>= (·.overlay environment)) = config.overlay environment ∧
    (∀ other : Environment, (∀ one : Variable, environment one.name = other one.name) →
      config.overlay environment = config.overlay other) ∧
    (∀ (one : Variable) (other : Environment) (result result' : Config),
      (∀ another, another ≠ one → environment another.name = other another.name) →
      config.overlay environment = .ok result → config.overlay other = .ok result' →
      one.forget result = one.forget result') ∧
    (∀ (one : Variable) (result : Config),
      (∀ another, another ≠ one → environment another.name = none) →
      config.overlay environment = .ok result → one.forget result = one.forget config) ∧
    (∀ result, config.overlay environment = .ok result → result.validate = .ok ()) ∧
    ∀ (invocation : Invocation) (machine later : Machine) (settled : Config),
      (CommandLine.settings environment invocation).run.run machine = (.ok settled, later) →
      ∃ named, Layer.ofEnvironment environment = .ok named ∧
        settled = Layer.resolve [.ofInvocation invocation, named,
          .ofFile machine.files machine.base invocation.config] ∧
        settled.validate = .ok () := by
  refine ⟨fun _ _ => overlay_overlay, overlay_twice config environment, fun _ => overlay_congr config,
    fun _ _ _ _ => Variable.forget_overlay, fun _ _ => Variable.forget_overlay_alone, ?_,
    fun _ _ _ _ => CommandLine.settings_resolved⟩
  intro result overlaid
  obtain ⟨-, -, -, valid⟩ := overlay_eq_ok overlaid
  exact valid

namespace Layer.Sample

/-- An environment with a pause of its own. -/
def paused : Environment := fun name => if name = Config.pollVariable then some " 9 " else none

/-- Another one, with a backend. -/
def remote : Environment := fun name =>
  if name = Config.pollVariable then some "7"
  else if name = Config.backendVariable then some "HIP" else none

/-- The first one with a variable that does not count. -/
def strayed : Environment := fun name => if name = "HOME" then some "/root" else paused name

/-- An environment that differs in the pause. -/
def hurried : Environment := fun name => if name = Config.pollVariable then some "0" else none

/-- A settings file. -/
def document : String := "cache_dir = \"/a\"\n[poll]\ninterval_ms = 5\nmax_attempts = 3\n"

/-- A machine with that file. -/
def machine : Machine where
  files :=
    { entries := [([Bytes.ofString "s"], .file 0)]
      contents := [(0, { bytes := Bytes.ofString document })] }
  base := []
  environment := []

/-- A command line with the file and a directory. -/
def invocation : Invocation where
  config := some (Path.ofString "/s")
  cacheDir := some (Path.ofString "/b")
  order := .status

/-- What the file says, over the defaults. -/
def filed : Config where
  cacheDir := Path.ofString "/a"
  poll := { intervalMs := 5, maxAttempts := some 3 }

/-- The settings of the command line. -/
def settled : Config where
  cacheDir := Path.ofString "/b"
  poll := { intervalMs := 9, maxAttempts := some 3 }

theorem read_document :
    machine.files.read machine.base (Path.ofString "/s") = .ok (Bytes.ofString document) := by
  have pieces : Path.pieces (Path.ofString "/s").bytes = [[], Bytes.ofString "s"] := by decide
  have located : machine.files.locate machine.base true (Path.ofString "/s") =
      .ok (.found [Bytes.ofString "s"] (.file 0)) := by
    unfold Files.locate
    rw [pieces]
    show machine.files.walk true Files.linkLimit [] _ = _
    rw [Files.walk, if_pos (.inl rfl), Files.walk, if_neg (by decide), if_neg (by decide),
      if_neg (by decide)]
    rfl
  unfold Files.read Files.status
  rw [located]
  rfl

theorem ofFile_document :
    Config.ofFile machine.files machine.base (Path.ofString "/s") = .ok filed := by
  unfold Config.ofFile Config.readText
  rw [read_document]
  decide +kernel

theorem settings_settled :
    (CommandLine.settings paused invocation).run.run machine =
      (.ok settled, { machine with now := Link.delay }) := by
  have overlaid : filed.overlay paused = .ok { settled with cacheDir := filed.cacheDir } := by
    decide +kernel
  have valid : settled.validate = .ok () := by decide +kernel
  have based : (CommandLine.fileSettings invocation).run.run machine =
      (.ok filed, { machine with now := Link.delay }) := by
    show (CommandLine.readSettings (Path.ofString "/s")).run.run machine = _
    rw [CommandLine.run_readSettings, ofFile_document]
    rfl
  rw [CommandLine.settings_eq, ExceptT.run_bind, StateT.run_bind, based]
  show (CommandLine.orFail (filed.overlay paused) >>= _).run.run _ = _
  rw [ExceptT.run_bind, StateT.run_bind, overlaid, CommandLine.run_orFail]
  show (CommandLine.orFail settled.validate >>= _).run.run _ = _
  rw [ExceptT.run_bind, StateT.run_bind, valid, CommandLine.run_orFail]
  rfl

/-- The defaults with a pause. -/
def pausing (intervalMs : UInt64) : Config where
  poll := { intervalMs }

/-- The settings of the remote environment. -/
def distant : Config where
  toolchain := { backend := .hip }
  poll := { intervalMs := 7 }

/-- All layers name something, and two of them the directory and the pause. -/
theorem layers_compose_settled :
    (Config.overlay {} remote = .ok distant ∧
      distant.overlay paused = Config.overlay {} (paused.onto remote)) ∧
    (Config.overlay {} paused >>= (·.overlay paused)) = Config.overlay {} paused ∧
    ((∀ one : Variable, paused one.name = strayed one.name) ∧
      Config.overlay {} paused = Config.overlay {} strayed) ∧
    ((∀ another, another ≠ Variable.interval → paused another.name = hurried another.name) ∧
      Config.overlay {} paused = .ok (pausing 9) ∧ Config.overlay {} hurried = .ok (pausing 0) ∧
      Variable.interval.forget (pausing 9) = Variable.interval.forget (pausing 0)) ∧
    ((∀ another, another ≠ Variable.interval → paused another.name = none) ∧
      Variable.interval.forget (pausing 9) = Variable.interval.forget {}) ∧
    (pausing 9).validate = .ok () ∧
    (CommandLine.settings paused invocation).run.run machine =
      (.ok settled, { machine with now := Link.delay }) ∧
    ∃ named, Layer.ofEnvironment paused = .ok named ∧
      settled = Layer.resolve [.ofInvocation invocation, named,
        .ofFile machine.files machine.base invocation.config] ∧
      settled.validate = .ok () := by
  obtain ⟨compose, twice, congruent, apart, alone, valid, resolved⟩ :=
    Config.layers_compose {} paused
  have distantly : Config.overlay {} remote = .ok distant := by decide +kernel
  have strays (one : Variable) : paused one.name = strayed one.name := by
    cases one <;> decide
  have differs (another : Variable) (other : another ≠ .interval) :
      paused another.name = hurried another.name := by
    cases another <;> first | decide | exact absurd rfl other
  have none_else (another : Variable) (other : another ≠ .interval) :
      paused another.name = none := by
    cases another <;> first | decide | exact absurd rfl other
  have pauses : Config.overlay {} paused = .ok (pausing 9) := by decide +kernel
  have hurries : Config.overlay {} hurried = .ok (pausing 0) := by decide +kernel
  exact ⟨⟨distantly, compose remote distant distantly⟩, twice,
    ⟨strays, congruent strayed strays⟩,
    ⟨differs, pauses, hurries, apart .interval hurried _ _ differs pauses hurries⟩,
    ⟨none_else, alone .interval _ none_else pauses⟩, valid _ pauses, settings_settled,
    resolved invocation machine _ settled settings_settled⟩

end Layer.Sample

end KernelCache
