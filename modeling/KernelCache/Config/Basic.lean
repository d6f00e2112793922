import KernelCache.Failure
import KernelCache.Toolchain

/-
**Settings of a run.**

* `Config` holds every setting; its field values are the defaults.
* `Config.validate` accepts the settings a build can succeed with and names the first that it
  cannot.
* `Config.overlay` lets environment variables replace settings and validates the result.
-/

namespace KernelCache

/-- How the worker is polled. -/
structure PollSettings where
  /-- The pause between two probes in milliseconds. -/
  intervalMs : UInt64 := 200
  /-- The wait gives up after this many probes. -/
  maxAttempts : Option UInt32 := none
  deriving DecidableEq, Repr

namespace PollSettings

/-- The settings as a policy. -/
def policy (settings : PollSettings) : PollPolicy :=
  { interval := settings.intervalMs.toNat * 1000, maxAttempts := settings.maxAttempts }

end PollSettings

/-- Every setting of a run. -/
structure Config where
  /-- The directory of the archive, the library and the files of a build. -/
  cacheDir : Path := Path.ofString "."
  archiveName : String := "libnxjit.a"
  libraryName : String := "libnxjit.so"
  toolchain : Toolchain := {}
  poll : PollSettings := {}
  /-- Whether the compiler reports what it does. -/
  verbose : Bool := false
  /-- The file to which the worker appends every command. -/
  commandLog : Option Path := none
  deriving DecidableEq, Repr

/-- The values of environment variables. -/
abbrev Environment := String → Option String

namespace Config

/-! ### Validation -/

/-- Whether a name is empty or leads into another directory. -/
def isPlainName (name : String) : Bool :=
  name != "" && !name.toList.contains '/'

/-- Demands a plain file name. -/
def validateName (field name : String) : Except Failure Unit :=
  if isPlainName name then .ok ()
  else .error (.config s!"{field} must be a plain file name, got `{name}`")

/-- Accepts the settings a build can succeed with. -/
def validate (config : Config) : Except Failure Unit := do
  validateName "archive_name" config.archiveName
  validateName "library_name" config.libraryName
  if config.archiveName = config.libraryName then
    throw (.config "archive and library must have distinct names")
  if Text.trim config.toolchain.compiler.toList = [] then
    throw (.config "toolchain.cxx must not be empty")
  if config.toolchain.sourceExtension = "" ∨ config.toolchain.sourceExtension = "co" then
    throw (.config "toolchain.source_extension must differ from `co`")

/-! ### Environment variables -/

/-- Replaces the compiler. -/
def compilerVariable : String := "NEXUS_JIT_CXX"
/-- Replaces the archiver. -/
def archiverVariable : String := "NEXUS_JIT_AR"
/-- Replaces the flags. -/
def flagsVariable : String := "NEXUS_JIT_FLAGS"
/-- Replaces the backend. -/
def backendVariable : String := "NEXUS_JIT_BACKEND"
/-- Replaces the cache directory. -/
def cacheDirVariable : String := "NEXUS_JIT_CACHE_DIR"
/-- Replaces the polling interval. -/
def pollVariable : String := "NEXUS_JIT_POLL_MS"
/-- Replaces the command log. -/
def commandLogVariable : String := "NEXUS_JIT_COMMAND_LOG"
/-- Turns verbose compilation on, whatever its value. -/
def verboseVariable : String := "NEXUS_JIT_VERBOSE"

/-- The backend an environment names, or the given one. -/
def overlayBackend (environment : Environment) (backend : Backend) : Except Failure Backend :=
  match environment backendVariable with
  | none => .ok backend
  | some name =>
    match Backend.parse? name with
    | some backend => .ok backend
    | none => .error (.config s!"{backendVariable}: unknown backend `{name}`")

/-- The polling interval an environment names, or the given one. -/
def overlayInterval (environment : Environment) (interval : UInt64) : Except Failure UInt64 :=
  match environment pollVariable with
  | none => .ok interval
  | some text =>
    match Numeral.parse? 10 (twoTo 64) (Text.trim text.toList) with
    | some value => .ok (UInt64.ofNat value)
    | none => .error (.config s!"{pollVariable}: `{text}` is not a number")

/-- The settings with those that the environment names replaced; the result is validated. -/
def overlay (config : Config) (environment : Environment) : Except Failure Config := do
  let backend ← overlayBackend environment config.toolchain.backend
  let interval ← overlayInterval environment config.poll.intervalMs
  let toolchain := { config.toolchain with
    compiler := (environment compilerVariable).getD config.toolchain.compiler
    archiver := (environment archiverVariable).getD config.toolchain.archiver
    flags := (environment flagsVariable).getD config.toolchain.flags
    backend }
  let result := { config with
    toolchain
    cacheDir := ((environment cacheDirVariable).map Path.ofString).getD config.cacheDir
    poll := { config.poll with intervalMs := interval }
    commandLog := ((environment commandLogVariable).map Path.ofString).orElse
      fun _ => config.commandLog
    verbose := config.verbose || (environment verboseVariable).isSome }
  result.validate
  return result

end Config

end KernelCache
