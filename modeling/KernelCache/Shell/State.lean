import KernelCache.Shell.Syntax
import KernelCache.System.Host

/-
**The state of a shell.**

A shell has variables, functions, arguments and the host it works on. A `ShellM` step may jump: out
of loops, out of functions, or out of a whole process.

* `attend` and `onHost` do a step of a program inside of the shell.
* `inSubshell` does a step in a process of its own, of which only the files and what was written
  remain.
-/

namespace KernelCache.Shell

/-! ### Variables -/

/-- The value of a variable. -/
inductive Value where
  | text (chars : List Char)
  /-- Elements by number, in order. -/
  | row (elements : List (Nat × List Char))
  /-- Elements by key. -/
  | table (elements : List (List Char × List Char))
  deriving DecidableEq, Repr

/-- A variable. -/
structure Variable where
  /-- None as long as the variable is only marked. -/
  value? : Option Value := none
  exported : Bool := false
  /-- Whether the value must not change. -/
  fixed : Bool := false
  /-- Whether what is assigned is calculated. -/
  numeric : Bool := false
  deriving DecidableEq, Repr

/-! ### Jumps -/

/-- Why a command does not go on with the next one. -/
inductive Jump where
  /-- The shell leaves with a code. -/
  | leave (code : Nat)
  /-- A fault ends the shell, or the command of the shell in which it is found. -/
  | failed
  /-- A signal ends the process of that number. -/
  | signaled (process signal : Nat)
  | breakLoop (levels : Nat)
  | continueLoop (levels : Nat)
  | giveBack
  /-- What a program does that does not come to its end. -/
  | halted (halt : Halt)
  deriving DecidableEq, Repr

/-- A function: its commands, and the line in which it is defined. -/
structure Function where
  line : Nat
  body : Command

/-- A process in the background. -/
structure Job where
  process : Nat
  /-- When it ends; one that goes on without end never does. -/
  due? : Option Nat
  status : Nat
  deriving DecidableEq, Repr

/-- The state of a shell. -/
structure State where
  host : Host
  dialect : Dialect := .plain
  bindings : List (List Char × Variable) := []
  functions : List (List Char × Function) := []
  /-- Names that stand for other text. -/
  aliases : List (List Char × List Char) := []
  /-- The name of the script. -/
  name : List Char := "sh".toList
  arguments : List (List Char) := []
  /-- Whether the script stands among the arguments of the shell. -/
  asText : Bool := false
  status : Nat := 0
  /-- The status of the last command in a word. -/
  wordStatus : Nat := 0
  /-- The letters of the options that are on. -/
  options : List Char := []
  /-- What to do on a signal, by its number; zero stands for the end of the shell. -/
  traps : List (Nat × List Char) := []
  /-- The loops around the command, up to the function it is in. -/
  loops : Nat := 0
  /-- How many functions and scripts that were read in are around the command. -/
  calls : Nat := 0
  /-- Whether the status of the command decides how to go on, so that it may fail. -/
  tested : Bool := false
  /-- What the variables were that belong to the function, the last first. -/
  shadowed : Option (List (List Char × Option Variable)) := none
  /-- The line of the command. -/
  line : Nat := 1
  /-- The line before the first one of the function. -/
  offset : Nat := 0
  /-- The command of the shell that is at work. -/
  command? : Option (List Char) := none
  /-- The working directory as it was gone to. -/
  directory : List Char := ['/']
  /-- The number of the argument in which the next option is looked for, and how many of its
  letters were taken. -/
  place : Nat := 1
  letter : Nat := 0
  /-- The commands that were found among the programs. -/
  hashed : List (List Char) := []
  /-- The number of this process, of its parent, and of the next process. -/
  process : Nat
  parent : Nat
  nextProcess : Nat
  /-- The process in which the shell was started. -/
  shell : Nat
  /-- The process that was started first. -/
  leader : Nat
  /-- The processes in the background, the last first. -/
  jobs : List Job := []
  /-- The process that was started in the background last. -/
  lastJob? : Option Nat := none
  /-- How many commands were run. -/
  steps : Nat := 0

/-- A step of a shell. -/
abbrev ShellM (α : Type) := ExceptT Jump (StateM State) α

/-! ### Looking at a shell -/

namespace State

/-- Whether an option is on. -/
def has (state : State) (letter : Char) : Bool := state.options.contains letter

/-- Whether the shell speaks the extended dialect. -/
def isExtended (state : State) : Bool := state.dialect == .extended

/-- A variable. -/
def binding? (state : State) (name : List Char) : Option Variable :=
  state.bindings.lookup name

/-- The value of a variable that is no array, or the first one of an array. -/
def value? (state : State) (name : List Char) : Option (List Char) :=
  match (state.binding? name).bind (·.value?) with
  | some (.text chars) => some chars
  | some (.row elements) => elements.lookup 0
  | some (.table elements) => elements.lookup ['0']
  | none => none

/-- The state with a variable as given. -/
def setVariable (state : State) (name : List Char) (binding : Variable) : State :=
  { state with
    bindings := (name, binding) :: state.bindings.filter fun entry => entry.1 != name }

/-- The state with the value of a variable as given. -/
def set (state : State) (name : List Char) (value : Value) : State :=
  let old := (state.binding? name).getD {}
  state.setVariable name
    { old with value? := some value, exported := old.exported || state.has 'a' }

/-- The state with the text of a variable as given; an array keeps its other elements. -/
def setText (state : State) (name chars : List Char) : State :=
  match (state.binding? name).bind (·.value?) with
  | some (.row elements) =>
    state.set name (.row ((0, chars) :: elements.filter fun entry => entry.1 != 0))
  | _ => state.set name (.text chars)

/-- The state without a variable. -/
def remove (state : State) (name : List Char) : State :=
  { state with bindings := state.bindings.filter fun entry => entry.1 != name }

/-- The separators of fields. -/
def separators (state : State) : List Char :=
  (state.value? "IFS".toList).getD [' ', '\t', '\n']

/-- The order in which the letters of options are written. -/
def optionLetters : List Char := "ubaCEVvxsnmiIfe".toList

/-- The value of a parameter: a variable, an argument, or a fact about the shell. -/
def parameter? (state : State) (name : List Char) : Option (List Char) :=
  let number (value : Nat) : Option (List Char) := some (toString value).toList
  match name with
  | ['?'] => number state.status
  | ['#'] => number state.arguments.length
  | ['$'] => number state.shell
  | ['!'] => state.lastJob?.bind number
  | ['-'] =>
    let letters := optionLetters.filter state.has
    some (if state.isExtended then letters ++ "hBc".toList else letters)
  | ['0'] => some state.name
  | ['@'] | ['*'] =>
    if state.arguments.isEmpty then none else some ([' '].intercalate state.arguments)
  | first :: _ =>
    if '0' ≤ first ∧ first ≤ '9' then
      state.arguments[((String.ofList name).toNat?.getD 0) - 1]?
    else if name = "LINENO".toList ∧ state.isExtended then number state.line
    else state.value? name
  | [] => none
/-- The variables that programs see. -/
def environment (state : State) : List (List Char × List Char) :=
  state.bindings.reverse.filterMap fun (name, binding) =>
    match binding.value? with
    | some (.text chars) => if binding.exported then some (name, chars) else none
    | _ => none

end State

/-! ### Steps -/

/-- Sets the status of the last command. -/
def setStatus (status : Nat) : ShellM Unit :=
  modify fun state => { state with status }

/-- The outcome of a step as a value. -/
def catching {α : Type} (step : ShellM α) : ShellM (Except Jump α) :=
  ExceptT.lift step.run

/-- Goes on with an outcome. -/
def resume {α : Type} (outcome : Except Jump α) : ShellM α :=
  ExceptT.mk (pure outcome)

/-- Does a step on the host and yields how it ended. -/
def attend {α : Type} (step : HostM α) : ShellM (Except Halt α) := do
  let state ← get
  let (outcome, host) := step.run.run state.host
  set { state with host }
  return outcome

/-- Does a step on the host as a part of the shell. -/
def onHost {α : Type} (step : HostM α) : ShellM α := do
  match ← attend step with
  | .ok result => return result
  | .error halt => throw (.halted halt)

/-- Does something with the host at once. -/
def modifyHost (change : Host → Host) : ShellM Unit :=
  modify fun state => { state with host := change state.host }

/-- Writes octets to a descriptor. -/
def emit (descriptor : Nat) (chars : List Char) : ShellM Unit :=
  onHost (discard (Host.writeTo descriptor (Bytes.ofChars chars)))

/-- Writes what is wrong, with the name of the shell and the line in front. -/
def complain (text : List Char) : ShellM Unit := do
  let state ← get
  let command := match state.command? with
    | some name => name ++ ": ".toList
    | none => []
  let line := (toString (state.line - state.offset)).toList
  let front := if state.isExtended then state.name ++ ": line ".toList ++ line ++ ": ".toList
    else state.name ++ ": ".toList ++ line ++ ": ".toList
  emit 2 (front ++ command ++ text ++ ['\n'])

/-- Ends the shell, or the command of the shell that is at work, with a complaint. -/
def fail {α : Type} (text : List Char) : ShellM α := do
  complain text
  setStatus (if (← get).isExtended then 1 else 2)
  throw .failed

/-- Does a step whose status decides how to go on. -/
def testing {α : Type} (step : ShellM α) : ShellM α := do
  let before := (← get).tested
  modify fun state => { state with tested := true }
  let outcome ← catching step
  modify fun state => { state with tested := before }
  resume outcome

/-- Does a step as a command of the shell with a name. -/
def asCommand {α : Type} (name : List Char) (step : ShellM α) : ShellM α := do
  let before := (← get).command?
  modify fun state => { state with command? := some name }
  let outcome ← catching step
  modify fun state => { state with command? := before }
  resume outcome

/-- Gives a variable a value, unless it must not change. -/
def assign (name : List Char) (value : Value) : ShellM Unit := do
  let state ← get
  if (state.binding? name).any (·.fixed) then
    if state.isExtended then fail (name ++ ": readonly variable".toList)
    else fail (name ++ ": is read only".toList)
  else
    match value with
    | .text chars => modify fun state => state.setText name chars
    | value => modify fun state => state.set name value
    if name = "OPTIND".toList then
      let number := ((← get).value? name).bind fun text => (String.ofList text).toNat?
      modify fun state => { state with place := number.getD 1, letter := 0 }
    if name = "PATH".toList then modify fun state => { state with hashed := [] }

/-! ### Processes -/

/-- What stands behind the numbers of signals in a status. -/
def signalBase : Nat := 128

/-- The signal for a write to a pipe that nobody reads. -/
def brokenPipe : Nat := 13

/-- The end of a step as the end of a process with its own number: its status, or what ends the
process around it, too. -/
def ended (own : Nat) (outcome : Except Jump Unit) (status : Nat) : Except Jump Nat :=
  match outcome with
  | .ok () => .ok status
  | .error (.leave code) => .ok code
  | .error .failed => .ok status
  | .error (.signaled process signal) =>
    if process = own then .ok (signalBase + signal) else .error (.signaled process signal)
  | .error (.halted (.held _)) => .ok (signalBase + brokenPipe)
  | .error (.halted (.signaled signal)) => .ok (signalBase + signal)
  | .error (.halted halt) => .error (.halted halt)
  | .error _ => .ok status

/-- The signal that ends a process with its own number. -/
def signalOf? (own : Nat) (outcome : Except Jump Unit) : Option Nat :=
  match outcome with
  | .error (.signaled process signal) => if process = own then some signal else none
  | .error (.halted (.signaled signal)) => some signal
  | _ => none

/-- The names under which the ends of processes are announced. -/
def signalTexts : List (Nat × String) := [
  (1, "Hangup"), (3, "Quit"), (4, "Illegal instruction"), (5, "Trace/breakpoint trap"),
  (6, "Aborted"), (7, "Bus error"), (8, "Floating point exception"), (9, "Killed"),
  (10, "User defined signal 1"), (11, "Segmentation fault"), (12, "User defined signal 2"),
  (14, "Alarm clock"), (15, "Terminated"), (16, "Stack fault"), (24, "CPU time limit exceeded"),
  (25, "File size limit exceeded"), (26, "Virtual timer expired"),
  (27, "Profiling timer expired"), (29, "I/O possible"), (30, "Power failure"),
  (31, "Bad system call")]

/-- Announces that a signal has ended a process. -/
def announce (signal? : Option Nat) : ShellM Unit := do
  if !(← get).isExtended then
    if let some text := signal?.bind fun signal => signalTexts.lookup signal then emit 2 (text ++ "\n").toList

/-- The host of a process when another process, which was started with the host of this one, has
ended. -/
def returned (before after : Host) : Host :=
  { after with
    base := before.base
    descriptors := before.descriptors
    mask := before.mask
    environment := before.environment
    program := before.program
    fault? := before.fault? }.dropOpenings before.next

/-- Does a step in a process of its own, in which the shell goes on: only files, time and what was
written remain. -/
def inSubshell (step : ShellM Unit) : ShellM Unit := do
  let before ← get
  let own := before.nextProcess
  let traps := before.traps.filter fun trap => trap.2 = []
  set { before with
    process := own
    parent := before.process
    nextProcess := own + 1
    traps
    jobs := []
    loops := 0 }
  let outcome ← catching step
  let after ← get
  set { before with
    host := returned before.host after.host
    nextProcess := after.nextProcess
    steps := after.steps }
  announce (signalOf? own outcome)
  match ended own outcome after.status with
  | .ok status => setStatus status
  | .error jump => throw jump

end KernelCache.Shell
