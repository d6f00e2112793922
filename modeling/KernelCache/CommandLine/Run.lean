import KernelCache.Kernel
import KernelCache.Path
import KernelCache.Text.Numeral
import KernelCache.Config.File
import KernelCache.Machine.Basic
import KernelCache.Session.Lookup
import KernelCache.Upkeep

/-
**Obeying a command line.**

The settings come in layers: the defaults, a settings file, the environment, and the directory on
the command line, each over the one before. A run either does what it was asked for or ends with one
failure.

* `CommandLine.settings` joins the layers.
* `CommandLine.identity` is the kernel a request means.
* `CommandLine.obey` does it all, and `CommandLine.perform` turns its end into an exit code and a
  line for people.
-/

/-! ## The arguments of the command line

Four orders build or run a kernel and show or remove the files of the cache. Options may stand
anywhere behind the point from which they are known: those of the whole command line in front of the
order, too. An option is given once at most; its value is the rest of its word behind an equals
sign, or the next word, which then does not start with a dash.

* `Arguments.parse` reads a command line.
* `parseHash?` reads a hash.
-/

namespace KernelCache

/-- Takes a piece away from the front of a text as often as it stands there. -/
def dropRepeated (piece : List Char) (text : List Char) : List Char :=
  if piece ≠ [] ∧ piece.isPrefixOf text then dropRepeated piece (text.drop piece.length) else text
termination_by text.length
decreasing_by
  rename_i found
  have shorter := List.IsPrefix.length_le (List.isPrefixOf_iff_prefix.mp found.2)
  have positive := List.length_pos_iff.mpr found.1
  simp only [List.length_drop]
  omega

/-- Reads a hash in hexadecimal digits, with marks of that base in front or not. -/
def parseHash? (text : String) : Option UInt64 :=
  let digits := dropRepeated ['0', 'X'] (dropRepeated ['0', 'x'] text.toList)
  (Numeral.parse? 16 (twoTo 64) digits).map UInt64.ofNat

/-- The kernel that an order is about. -/
structure KernelRequest where
  source : Path
  symbol : Option String := none
  hash : Option UInt64 := none
  deriving DecidableEq, Repr

/-- What is to be done. -/
inductive Order where
  | build (request : KernelRequest)
  | run (request : KernelRequest)
  | status
  | clean
  deriving DecidableEq, Repr

/-- A command line that was understood. -/
structure Invocation where
  config : Option Path := none
  cacheDir : Option Path := none
  order : Order
  deriving DecidableEq, Repr

/-- What a command line asks for. -/
inductive Asked where
  | invocation (invocation : Invocation)
  | help
  | version
  /-- It was not understood. -/
  | refused
  deriving DecidableEq, Repr

namespace Arguments

/-- An option of the command line. -/
inductive Flag where
  | config
  | cacheDir
  | symbol
  | hash
  deriving DecidableEq, Repr

/-- The names of the options. -/
def Flag.name : Flag → String
  | config => "--config"
  | cacheDir => "--cache-dir"
  | symbol => "--symbol"
  | hash => "--hash"

/-- The options of the whole command line. -/
def globalFlags : List Flag := [.config, .cacheDir]

/-- The options of an order about a kernel. -/
def kernelFlags : List Flag := [.config, .cacheDir, .symbol, .hash]

/-- The value of an option. -/
inductive Setting where
  | config (path : Path)
  | cacheDir (path : Path)
  | symbol (name : String)
  | hash (value : UInt64)
  deriving DecidableEq, Repr

/-- The option of a setting. -/
def Setting.flag : Setting → Flag
  | config _ => .config
  | cacheDir _ => .cacheDir
  | symbol _ => .symbol
  | hash _ => .hash

/-- The text of octets that are UTF-8. -/
def text? (bytes : Bytes) : Option String :=
  (Utf8.decode? bytes).map String.ofList

/-- A path is not empty. -/
def path? (bytes : Bytes) : Option Path :=
  if bytes = [] then none else some ⟨bytes⟩

/-- Reads the value of an option. -/
def Setting.read? (flag : Flag) (bytes : Bytes) : Option Setting :=
  match flag with
  | .config => (path? bytes).map .config
  | .cacheDir => (path? bytes).map .cacheDir
  | .symbol => (text? bytes).map .symbol
  | .hash => ((text? bytes).bind parseHash?).map .hash

/-- The equals sign behind the name of an option. -/
def equalsSign : UInt8 := 0x3D

/-- A dash. -/
def dash : UInt8 := 0x2D

/-- The option that a word names, and the value in the word, if it has one. -/
def named? (known : List Flag) (word : Bytes) : Option (Flag × Option Bytes) :=
  let name := word.takeWhile (· != equalsSign)
  let value := (word.drop name.length).tail?
  (known.find? fun flag => Bytes.ofString flag.name == name).map (·, value)

/-- Whether a word is an option and no value. -/
def isOption (word : Bytes) : Bool :=
  word.head? == some dash && word != [dash]

/-- Whether a word asks for a text that is printed at once: by its long name, or by its short one,
behind which the word may go on. -/
def asksFor (long short : String) (word : Bytes) : Bool :=
  word == Bytes.ofString long || (Bytes.ofString short).isPrefixOf word

/-- What stands behind the options of a level. -/
structure Level where
  settings : List Setting := []
  operands : List Bytes := []
  deriving DecidableEq, Repr

/-- How the words of a level end. -/
inductive LevelEnd where
  | finished (level : Level)
  /-- An operand where an order is expected, and what follows it. -/
  | operand (level : Level) (word : Bytes) (rest : List Bytes)
  | help
  | version
  | refused
  deriving DecidableEq, Repr

/-- Adds a setting unless there is one of its option. -/
def Level.add? (level : Level) (setting : Setting) : Option Level :=
  if level.settings.any fun other => other.flag == setting.flag then none
  else some { level with settings := level.settings ++ [setting] }

/-- Reads the words of a level; on the `top` one the first operand is an order. -/
def scan (known : List Flag) (top : Bool) (level : Level) : List Bytes → LevelEnd
  | [] => .finished level
  | word :: rest =>
    if word = [dash, dash] then
      .finished { level with operands := level.operands ++ rest }
    else if isOption word then
      if asksFor "--help" "-h" word then .help
      else if top ∧ asksFor "--version" "-V" word then .version
      else
        match named? known word with
        | none => .refused
        | some (flag, some value) =>
          match (Setting.read? flag value).bind level.add? with
          | some level => scan known top level rest
          | none => .refused
        | some (flag, none) =>
          match rest with
          | [] => .refused
          | value :: rest =>
            if isOption value then .refused
            else
              match (Setting.read? flag value).bind level.add? with
              | some level => scan known top level rest
              | none => .refused
    else if top then .operand level word rest
    else scan known top { level with operands := level.operands ++ [word] } rest

/-- The last setting of an option among those of all levels. -/
def last? {α : Type} (settings : List Setting) (value? : Setting → Option α) : Option α :=
  settings.reverse.findSome? value?

/-- The path of the settings file. -/
def Setting.config? : Setting → Option Path
  | config path => some path
  | _ => none

/-- The directory of the cache. -/
def Setting.cacheDir? : Setting → Option Path
  | cacheDir path => some path
  | _ => none

/-- The symbol of a kernel. -/
def Setting.symbol? : Setting → Option String
  | symbol name => some name
  | _ => none

/-- The hash of a kernel. -/
def Setting.hash? : Setting → Option UInt64
  | hash value => some value
  | _ => none

/-- The command line with an order, from the settings of both levels. -/
def invoke (settings : List Setting) (order : Order) : Asked :=
  .invocation
    { config := last? settings Setting.config?
      cacheDir := last? settings Setting.cacheDir?
      order }

/-- Reads what follows an order about a kernel. -/
def kernelOrder (outer : List Setting) (order : KernelRequest → Order) (rest : List Bytes) :
    Asked :=
  match scan kernelFlags false {} rest with
  | .finished { settings, operands := [source] } =>
    match path? source with
    | some source =>
      invoke (outer ++ settings)
        (order
          { source
            symbol := last? settings Setting.symbol?
            hash := last? settings Setting.hash? })
    | none => .refused
  | .help => .help
  | _ => .refused

/-- Reads what follows an order without operands. -/
def plainOrder (outer : List Setting) (order : Order) (rest : List Bytes) : Asked :=
  match scan globalFlags false {} rest with
  | .finished { settings, operands := [] } => invoke (outer ++ settings) order
  | .help => .help
  | _ => .refused

/-- The names of the orders. -/
def orderNames : List String := ["build", "run", "status", "clean", "help"]

/-- Reads what follows a call for help, which may be about one order. -/
def helpOrder : List Bytes → Asked
  | [] => .help
  | [name] => if (text? name).any orderNames.contains then .help else .refused
  | _ => .refused

/-- Reads a command line. -/
def parse (arguments : List Bytes) : Asked :=
  match scan globalFlags true {} arguments with
  | .operand level word rest =>
    match text? word with
    | some "build" => kernelOrder level.settings .build rest
    | some "run" => kernelOrder level.settings .run rest
    | some "status" => plainOrder level.settings .status rest
    | some "clean" => plainOrder level.settings .clean rest
    | some "help" => helpOrder rest
    | _ => .refused
  | .help => .help
  | .version => .version
  | .finished _ | .refused => .refused

end Arguments

end KernelCache

/-! ## Obeying a command line -/

namespace KernelCache.CommandLine

/-- Why a run ended before its time. -/
inductive Trouble where
  | failure (failure : Failure)
  /-- The settings file is at fault; its text comes with the fault. -/
  | document (source : String) (fault : DocumentFault)
  deriving Repr

/-- A run on a machine, which may end in trouble. -/
abbrev RunM (α : Type) := ExceptT Trouble MachineM α

/-- A step of the machine. -/
def onMachine {α : Type} (step : MachineM α) : RunM α := ExceptT.lift step

/-! ### Settings -/

/-- The settings in a file. -/
def readSettings (path : Path) : RunM Config := do
  match ← onMachine (Machine.ask fun files base => Config.ofFile files base path) with
  | .ok config => return config
  | .error (source, fault) => throw (.document source fault)

/-- A value, or the end of the run. -/
def orFail {α : Type} : Except Failure α → RunM α
  | .ok value => return value
  | .error failure => throw (.failure failure)

/-- The settings of all layers. -/
def settings (environment : Environment) (invocation : Invocation) : RunM Config := do
  let base ← match invocation.config with
    | some path => readSettings path
    | none => pure {}
  let overlaid ← orFail (base.overlay environment)
  let config := { overlaid with cacheDir := invocation.cacheDir.getD overlaid.cacheDir }
  orFail config.validate
  return config

/-! ### Kernels -/

/-- The kernel that a request means: what it leaves open follows from the rest. -/
def identity (source : String) (symbol : Option String) (hash : Option UInt64) : Kernel :=
  match symbol, hash with
  | some symbol, some hash => { hash, symbol, source }
  | some symbol, none => { hash := Kernel.hashOf source [symbol], symbol, source }
  | none, some hash => { hash, symbol := Kernel.symbolFor hash, source }
  | none, none => Kernel.derive source []

/-- The text of a source file. -/
def readSource (path : Path) : RunM String := do
  match ← onMachine (Machine.ask fun files base => Config.readText files base path) with
  | .ok source => return source
  | .error fault => throw (.failure (.config s!"{path.display}: {fault.message}"))

/-- The owner of the only session. -/
def owner : Nat := 0

/-- Does an action of the only member. -/
def act {α : Type} (action : ExceptT Failure Action α) : RunM α := do
  orFail (← onMachine (Machine.run owner action.run))

/-- Looks a kernel up and lets its worker go when that fails. -/
def lookup (session : Session) (kernel : Kernel) : RunM (KernelSymbol × Session) := do
  let action := (Session.lookup kernel).run.run session
  let (outcome, session) ← onMachine (Machine.run owner action)
  match outcome with
  | .ok symbol => return (symbol, session)
  | .error failure =>
    onMachine (Machine.run owner session.abandon)
    throw (.failure failure)

/-- The line about a kernel that was found. -/
def foundLine (address : Entry → String) (kernel : Kernel) (symbol : KernelSymbol) : String :=
  s!"{kernel.symbol} ({Numeral.hex64 kernel.hash}) at {address symbol.entry}"

/-- Resolves a kernel, and calls it when asked to. -/
def resolve (address : Entry → String) (config : Config) (request : KernelRequest) (called : Bool) :
    RunM Unit := do
  let source ← readSource request.source
  let kernel := identity source request.symbol request.hash
  let session ← act (Session.start config Member.alone)
  let (symbol, session) ← lookup session kernel
  Machine.sayLine (foundLine address kernel symbol)
  if called then
    match ← Machine.invoke symbol.entry with
    | some value => Machine.sayLine (toString value)
    | none => pure ()
  act session.finish

/-! ### The files of the cache -/

/-- The line about a file and its size. -/
def sizeLine (path : Path) : Option Nat → String
  | some size => s!"{path.display}: {size} bytes"
  | none => s!"{path.display}: absent"

/-- A value, or the end of the run with the text of a fault. -/
def orFault {α : Type} : Except Fault α → RunM α
  | .ok value => return value
  | .error fault => throw (.failure (.config fault.message))

/-- Shows the files of the cache. -/
def showStatus (config : Config) : RunM Unit := do
  let layout := config.layout
  let status ← orFault (← onMachine (Machine.ask layout.status))
  Machine.sayLine (sizeLine layout.archive status.archive)
  Machine.sayLine (sizeLine layout.library status.library)

/-- Removes the files of the cache. -/
def clean (config : Config) : RunM Unit := do
  let machine ← getThe Machine
  let (outcome, files) := config.layout.clean machine.files machine.base
  set { machine with files }
  let removed ← orFault outcome
  Machine.sayLine s!"removed {removed} file(s)"

/-! ### The whole run -/

/-- Does what a command line asks for. -/
def obey (address : Entry → String) (environment : Environment) (invocation : Invocation) :
    RunM Unit := do
  let config ← settings environment invocation
  match invocation.order with
  | .build request => resolve address config request false
  | .run request => resolve address config request true
  | .status => showStatus config
  | .clean => clean config

/-- The text about a place in a document. -/
def placeText (source : String) (position : Nat) : String :=
  let (line, column) := lineAndColumn source.toList position
  s!"TOML parse error at line {line}, column {column}\n"

/-- The text about a document that is no settings document. -/
def documentText (source : String) : DocumentFault → String
  | .malformed position => placeText source position
  | .mismatch mismatch =>
    ((mismatch.position.map (placeText source)).getD "") ++ mismatch.detail ++ "\n"
  | .invalid failure => failure.message

namespace Trouble

/-- The failure that trouble stands for. -/
def asFailure : Trouble → Failure
  | .failure cause => cause
  | .document _ (.invalid cause) => cause
  | .document source fault => .config (documentText source fault)

/-- The line for people. -/
def line (trouble : Trouble) : String :=
  s!"jitctl: {trouble.asFailure.message} [{trouble.asFailure.kind.label}]"

end Trouble

/-- The end of a run. -/
structure Ended where
  code : Nat
  /-- What is written about a failure. -/
  complaint : Option String := none
  deriving DecidableEq, Repr

/-- The code of a run that failed. -/
def failed : Nat := 1

/-- The code of a command line that was not understood. -/
def misused : Nat := 2

/-- The name and the version of the program. -/
def versionLine : String := "jitctl 0.1.0"

/-- How the program is used. -/
def usage : String :=
  "Usage: jitctl [--config <CONFIG>] [--cache-dir <CACHE_DIR>] <build|run|status|clean>"

/-- Obeys the arguments of a command line. -/
def perform (address : Entry → String) (environment : Environment) (arguments : List Bytes) :
    MachineM Ended := do
  match Arguments.parse arguments with
  | .help => do
    Machine.sayLine usage
    return { code := 0 }
  | .version => do
    Machine.sayLine versionLine
    return { code := 0 }
  | .refused => return { code := misused, complaint := some usage }
  | .invocation invocation =>
    match ← (obey address environment invocation).run with
    | .ok () => return { code := 0 }
    | .error trouble => return { code := failed, complaint := some trouble.line }

end KernelCache.CommandLine
