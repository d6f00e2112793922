import KernelCache.CommandLine.Run
import KernelCache.Proofs.Config.Fields

/-
**Settings in layers.**

The defaults, a settings file, the environment and the command line each name some of the settings. A
setting has the value of the highest layer that names it.

* `Layer` is what one layer names; `Layer.onto` lays it over settings, `Layer.resolve` lays many of
  them over the defaults.
* `Layer.ofEnvironment` reads the variables of an environment, and `Config.overlay_eq` says that this
  is all an overlay takes from it.
* `Config.overlay_overlay`: two overlays are one, with one environment over the other.
* `Variable` are the variables, `Variable.forget` leaves the setting of one of them out, and
  `Variable.forget_overlay`: nothing else depends on that variable.
-/

namespace KernelCache

/-- The settings that a layer names. -/
structure Layer where
  cacheDir : Option Path := none
  archiveName : Option String := none
  libraryName : Option String := none
  compiler : Option String := none
  archiver : Option String := none
  flags : Option String := none
  includeDirs : Option (List Path) := none
  sourceExtension : Option String := none
  backend : Option Backend := none
  linkStyle : Option LinkStyle := none
  intervalMs : Option UInt64 := none
  maxAttempts : Option UInt32 := none
  verbose : Option Bool := none
  commandLog : Option Path := none

namespace Layer

/-- The settings of a layer over others. -/
def onto (layer : Layer) (config : Config) : Config where
  cacheDir := layer.cacheDir.getD config.cacheDir
  archiveName := layer.archiveName.getD config.archiveName
  libraryName := layer.libraryName.getD config.libraryName
  toolchain :=
    { compiler := layer.compiler.getD config.toolchain.compiler
      archiver := layer.archiver.getD config.toolchain.archiver
      flags := layer.flags.getD config.toolchain.flags
      includeDirs := layer.includeDirs.getD config.toolchain.includeDirs
      sourceExtension := layer.sourceExtension.getD config.toolchain.sourceExtension
      backend := layer.backend.getD config.toolchain.backend
      linkStyle := layer.linkStyle.getD config.toolchain.linkStyle }
  poll :=
    { intervalMs := layer.intervalMs.getD config.poll.intervalMs
      maxAttempts := layer.maxAttempts.or config.poll.maxAttempts }
  verbose := layer.verbose.getD config.verbose
  commandLog := layer.commandLog.or config.commandLog

/-- The settings that one layer or another one below it names. -/
def above (upper lower : Layer) : Layer where
  cacheDir := upper.cacheDir.or lower.cacheDir
  archiveName := upper.archiveName.or lower.archiveName
  libraryName := upper.libraryName.or lower.libraryName
  compiler := upper.compiler.or lower.compiler
  archiver := upper.archiver.or lower.archiver
  flags := upper.flags.or lower.flags
  includeDirs := upper.includeDirs.or lower.includeDirs
  sourceExtension := upper.sourceExtension.or lower.sourceExtension
  backend := upper.backend.or lower.backend
  linkStyle := upper.linkStyle.or lower.linkStyle
  intervalMs := upper.intervalMs.or lower.intervalMs
  maxAttempts := upper.maxAttempts.or lower.maxAttempts
  verbose := upper.verbose.or lower.verbose
  commandLog := upper.commandLog.or lower.commandLog

/-- Every setting has the value of the first layer that names it, or its default. -/
def resolve (layers : List Layer) : Config :=
  let defaults : Config := {}
  { cacheDir := (layers.findSome? cacheDir).getD defaults.cacheDir
    archiveName := (layers.findSome? archiveName).getD defaults.archiveName
    libraryName := (layers.findSome? libraryName).getD defaults.libraryName
    toolchain :=
      { compiler := (layers.findSome? compiler).getD defaults.toolchain.compiler
        archiver := (layers.findSome? archiver).getD defaults.toolchain.archiver
        flags := (layers.findSome? flags).getD defaults.toolchain.flags
        includeDirs := (layers.findSome? includeDirs).getD defaults.toolchain.includeDirs
        sourceExtension :=
          (layers.findSome? sourceExtension).getD defaults.toolchain.sourceExtension
        backend := (layers.findSome? backend).getD defaults.toolchain.backend
        linkStyle := (layers.findSome? linkStyle).getD defaults.toolchain.linkStyle }
    poll :=
      { intervalMs := (layers.findSome? intervalMs).getD defaults.poll.intervalMs
        maxAttempts := (layers.findSome? maxAttempts).or defaults.poll.maxAttempts }
    verbose := (layers.findSome? verbose).getD defaults.verbose
    commandLog := (layers.findSome? commandLog).or defaults.commandLog }

theorem onto_above (upper lower : Layer) (config : Config) :
    (upper.above lower).onto config = upper.onto (lower.onto config) := by
  simp only [onto, above, Option.getD_or, Option.or_assoc]

theorem empty_onto (config : Config) : ({} : Layer).onto config = config := rfl

/-- **One layer more** on top of others. -/
theorem resolve_cons (layer : Layer) (layers : List Layer) :
    resolve (layer :: layers) = layer.onto (resolve layers) := by
  have first {α : Type} (names : Layer → Option α) :
      (layer :: layers).findSome? names = (names layer).or (layers.findSome? names) := by
    rw [List.findSome?_cons]
    cases names layer <;> rfl
  simp only [resolve, onto, first, Option.getD_or, Option.or_assoc]

end Layer

/-! ### Environments -/

/-- An environment over another one. -/
def Environment.onto (upper lower : Environment) : Environment :=
  fun name => (upper name).or (lower name)

/-- The variables of an environment that count. -/
inductive Variable where
  | compiler
  | archiver
  | flags
  | backend
  | cacheDir
  | interval
  | commandLog
  | verbose
  deriving DecidableEq

/-- The name of a variable. -/
def Variable.name : Variable → String
  | compiler => Config.compilerVariable
  | archiver => Config.archiverVariable
  | flags => Config.flagsVariable
  | backend => Config.backendVariable
  | cacheDir => Config.cacheDirVariable
  | interval => Config.pollVariable
  | commandLog => Config.commandLogVariable
  | verbose => Config.verboseVariable

namespace Layer

/-- What is read from a text, if there is one. -/
def readOptional {α : Type} (read : String → Except Failure α) :
    Option String → Except Failure (Option α)
  | none => .ok none
  | some text => (read text).map some

/-- The backend that a text names. -/
def readBackend (text : String) : Except Failure Backend :=
  match Backend.parse? text with
  | some backend => .ok backend
  | none => .error (.config s!"{Config.backendVariable}: unknown backend `{text}`")

/-- The interval that a text names. -/
def readInterval (text : String) : Except Failure UInt64 :=
  match Numeral.parse? 10 (twoTo 64) (Text.trim text.toList) with
  | some value => .ok (UInt64.ofNat value)
  | none => .error (.config s!"{Config.pollVariable}: `{text}` is not a number")

/-- The settings that the texts of the variables name. -/
def ofTexts (texts : Variable → Option String) : Except Failure Layer := do
  let backend ← readOptional readBackend (texts .backend)
  let intervalMs ← readOptional readInterval (texts .interval)
  return {
    cacheDir := (texts .cacheDir).map Path.ofString
    compiler := texts .compiler
    archiver := texts .archiver
    flags := texts .flags
    backend
    intervalMs
    verbose := (texts .verbose).map fun _ => true
    commandLog := (texts .commandLog).map Path.ofString }

/-- The settings that an environment names. -/
def ofEnvironment (environment : Environment) : Except Failure Layer :=
  ofTexts fun one => environment one.name

variable {texts upper lower : Variable → Option String} {named : Layer}

theorem ofTexts_eq_ok (read : ofTexts texts = .ok named) :
    readOptional readBackend (texts .backend) = .ok named.backend ∧
      readOptional readInterval (texts .interval) = .ok named.intervalMs ∧
      named =
        { cacheDir := (texts .cacheDir).map Path.ofString
          compiler := texts .compiler
          archiver := texts .archiver
          flags := texts .flags
          backend := named.backend
          intervalMs := named.intervalMs
          verbose := (texts .verbose).map fun _ => true
          commandLog := (texts .commandLog).map Path.ofString } := by
  unfold ofTexts at read
  cases backend : readOptional readBackend (texts .backend) with
  | error failure => rw [backend] at read; cases read
  | ok backend' =>
    cases interval : readOptional readInterval (texts .interval) with
    | error failure => rw [backend, interval] at read; cases read
    | ok interval' =>
      rw [backend, interval] at read
      cases read
      exact ⟨rfl, rfl, rfl⟩

theorem readOptional_or {α : Type} {read : String → Except Failure α} {below : Option α}
    {upper lower : Option String} (found : readOptional read lower = .ok below) :
    readOptional read (upper.or lower) = (readOptional read upper).map (·.or below) := by
  cases upper with
  | none => exact found
  | some text =>
    show (read text).map some = ((read text).map some).map (·.or below)
    cases read text <;> rfl

/-- **Texts over others** name what either name, and are refused for what the upper ones say. -/
theorem ofTexts_or {below : Layer} (read : ofTexts lower = .ok below) :
    (ofTexts fun one => (upper one).or (lower one)) = (ofTexts upper).map (·.above below) := by
  obtain ⟨backend, interval, form⟩ := ofTexts_eq_ok read
  unfold ofTexts
  rw [readOptional_or backend, readOptional_or interval, form]
  cases readOptional readBackend (upper .backend) with
  | error failure => rfl
  | ok backend =>
    cases readOptional readInterval (upper .interval) with
    | error failure => rfl
    | ok interval =>
      simp only [Option.map_or]
      rfl

end Layer

namespace Config

open Layer

variable {config result : Config} {environment upper lower : Environment}

theorem overlayBackend_eq (environment : Environment) (backend : Backend) :
    overlayBackend environment backend =
      (readOptional readBackend (environment backendVariable)).map (·.getD backend) := by
  unfold overlayBackend
  cases environment backendVariable with
  | none => rfl
  | some name =>
    unfold readOptional readBackend
    cases found : Backend.parse? name <;> simp only [found] <;> rfl

theorem overlayInterval_eq (environment : Environment) (interval : UInt64) :
    overlayInterval environment interval =
      (readOptional readInterval (environment pollVariable)).map (·.getD interval) := by
  unfold overlayInterval
  cases environment pollVariable with
  | none => rfl
  | some text =>
    unfold readOptional readInterval
    cases found : Numeral.parse? 10 (twoTo 64) (Text.trim text.toList) <;> simp only [found] <;> rfl

/-- **An overlay** lays what the environment names over the settings, and validates them. -/
theorem overlay_eq (config : Config) (environment : Environment) :
    config.overlay environment = (do
      let named ← ofEnvironment environment
      (named.onto config).validate
      return named.onto config) := by
  unfold overlay ofEnvironment ofTexts
  rw [overlayBackend_eq, overlayInterval_eq]
  dsimp only [Variable.name]
  cases readOptional readBackend (environment backendVariable) with
  | error failure => rfl
  | ok backend =>
    cases readOptional readInterval (environment pollVariable) with
    | error failure => rfl
    | ok interval =>
      have verbose : (config.verbose || (environment verboseVariable).isSome) =
          ((environment verboseVariable).map fun _ => true).getD config.verbose := by
        cases environment verboseVariable with
        | none => exact Bool.or_false _
        | some value => exact Bool.or_true _
      have commandLog : ((environment commandLogVariable).map Path.ofString).orElse
          (fun _ => config.commandLog) =
          ((environment commandLogVariable).map Path.ofString).or config.commandLog := by
        cases environment commandLogVariable <;> rfl
      simp only [verbose, commandLog]
      rfl

theorem overlay_eq_ok (overlaid : config.overlay environment = .ok result) :
    ∃ named, ofEnvironment environment = .ok named ∧ result = named.onto config ∧
      result.validate = .ok () := by
  rw [overlay_eq] at overlaid
  cases read : ofEnvironment environment with
  | error failure => rw [read] at overlaid; cases overlaid
  | ok named =>
    have overlaid : ((named.onto config).validate >>= fun _ => .ok (named.onto config)) =
        .ok result := by rw [read] at overlaid; exact overlaid
    cases valid : (named.onto config).validate with
    | error failure => rw [valid] at overlaid; cases overlaid
    | ok value =>
      rw [valid] at overlaid
      cases overlaid
      exact ⟨named, rfl, rfl, valid⟩

/-- **Two overlays** are one, with the upper environment over the lower one. -/
theorem overlay_overlay {between : Config} (overlaid : config.overlay lower = .ok between) :
    between.overlay upper = config.overlay (upper.onto lower) := by
  obtain ⟨named, read, rfl, -⟩ := overlay_eq_ok overlaid
  have both : ofEnvironment (upper.onto lower) = (ofEnvironment upper).map (·.above named) :=
    ofTexts_or read
  rw [overlay_eq, overlay_eq, both]
  cases ofEnvironment upper with
  | error failure => rfl
  | ok above =>
    show _ = (do
      ((above.above named).onto config).validate
      return (above.above named).onto config)
    rw [onto_above]
    rfl

/-- **The same overlay again** changes nothing, nor what is reported. -/
theorem overlay_twice (config : Config) (environment : Environment) :
    (config.overlay environment >>= (·.overlay environment)) = config.overlay environment := by
  cases overlaid : config.overlay environment with
  | error failure => rfl
  | ok between =>
    have same : environment.onto environment = environment := by
      funext name
      exact Option.or_self
    show between.overlay environment = _
    rw [overlay_overlay overlaid, same, overlaid]

/-- **Only the variables count.** -/
theorem overlay_congr (config : Config)
    (same : ∀ one : Variable, upper one.name = lower one.name) :
    config.overlay upper = config.overlay lower := by
  have read : ofEnvironment upper = ofEnvironment lower := congrArg ofTexts (funext same)
  rw [overlay_eq, overlay_eq, read]

end Config

/-! ### Variables -/

namespace Variable

open Layer

/-- The settings without the one that the variable replaces, which has a fixed value instead. -/
def forget : Variable → Config → Config
  | compiler, config => { config with toolchain := { config.toolchain with compiler := "" } }
  | archiver, config => { config with toolchain := { config.toolchain with archiver := "" } }
  | flags, config => { config with toolchain := { config.toolchain with flags := "" } }
  | backend, config => { config with toolchain := { config.toolchain with backend := .host } }
  | cacheDir, config => { config with cacheDir := ⟨[]⟩ }
  | interval, config => { config with poll := { config.poll with intervalMs := 0 } }
  | commandLog, config => { config with commandLog := none }
  | verbose, config => { config with verbose := false }

/-- The layer without what the variable names. -/
def drop : Variable → Layer → Layer
  | compiler, layer => { layer with compiler := none }
  | archiver, layer => { layer with archiver := none }
  | flags, layer => { layer with flags := none }
  | backend, layer => { layer with backend := none }
  | cacheDir, layer => { layer with cacheDir := none }
  | interval, layer => { layer with intervalMs := none }
  | commandLog, layer => { layer with commandLog := none }
  | verbose, layer => { layer with verbose := none }

theorem forget_onto (one : Variable) (layer : Layer) (config : Config) :
    one.forget (layer.onto config) = one.forget ((one.drop layer).onto config) := by
  cases one <;> rfl

/-- Texts that differ for one variable name the same otherwise. -/
theorem drop_ofTexts {one : Variable} {texts texts' : Variable → Option String}
    {named named' : Layer} (same : ∀ other, other ≠ one → texts other = texts' other)
    (read : ofTexts texts = .ok named) (read' : ofTexts texts' = .ok named') :
    one.drop named = one.drop named' := by
  obtain ⟨backend, interval, form⟩ := ofTexts_eq_ok read
  obtain ⟨backend', interval', form'⟩ := ofTexts_eq_ok read'
  have backends (other : one ≠ .backend) : named.backend = named'.backend := by
    rw [same .backend other.symm, backend'] at backend
    exact (Except.ok.inj backend).symm
  have intervals (other : one ≠ .interval) : named.intervalMs = named'.intervalMs := by
    rw [same .interval other.symm, interval'] at interval
    exact (Except.ok.inj interval).symm
  rw [form, form']
  cases one <;> simp [drop, same, backends, intervals]

variable {one : Variable} {environment environment' : Environment} {config result result' : Config}

/-- **A variable has a setting of its own**: nothing else depends on it. -/
theorem forget_overlay
    (same : ∀ other, other ≠ one → environment other.name = environment' other.name)
    (overlaid : config.overlay environment = .ok result)
    (overlaid' : config.overlay environment' = .ok result') :
    one.forget result = one.forget result' := by
  obtain ⟨named, read, rfl, -⟩ := Config.overlay_eq_ok overlaid
  obtain ⟨named', read', rfl, -⟩ := Config.overlay_eq_ok overlaid'
  rw [forget_onto, forget_onto one named', drop_ofTexts same read read']

/-- The same for a variable that is the only one. -/
theorem forget_overlay_alone (alone : ∀ other, other ≠ one → environment other.name = none)
    (overlaid : config.overlay environment = .ok result) :
    one.forget result = one.forget config := by
  obtain ⟨named, read, rfl, -⟩ := Config.overlay_eq_ok overlaid
  have nothing : ofTexts (fun _ => none) = .ok {} := rfl
  rw [forget_onto, drop_ofTexts alone read nothing, ← forget_onto, empty_onto]

end Variable

end KernelCache
