import KernelCache.Shell.Parser
import KernelCache.Shell.State
import KernelCache.Shell.Find
import KernelCache.Utility.Executable

/-
**Starting programs.**

A program is one of the system, an image, a script that names its interpreter, or another script,
which a shell runs. Each one is a process of its own.

* `launch` starts a program by its name.
* `shell` runs a shell with the arguments of its command line.
-/

/-! ## Reading a script and running what is read

A script is read and run line by line, so that a fault in a later line does not hold up the lines
before it.

* `runText` runs a text as a part of the shell.
* `finishing` does a step and then what is to be done at the end of the shell.
-/

namespace KernelCache.Shell

/-- Says what makes no sense in a script of the extended dialect. -/
def refuseExtended (text : List Char) (complaint : Complaint) : ShellM Unit := do
  let state ← get
  let source := match state.command? with
    | some command => command ++ ": ".toList
    | none => if state.asText then "-c: ".toList else []
  let front := state.name ++ ": ".toList ++ source ++ "line ".toList
    ++ (toString complaint.line).toList ++ ": ".toList
  let quote := Char.ofNat 0x60
  match complaint.token? with
  | some token => do
    emit 2 (front ++ "syntax error near unexpected token ".toList ++ quote :: token ++ "'\n".toList)
    let line := ((text.splitOn '\n')[complaint.line - 1]?).getD []
    emit 2 (front ++ quote :: line ++ "'\n".toList)
  | none => emit 2 (front ++ "syntax error: unexpected end of file\n".toList)

/-- Says what makes no sense in a script, and ends the shell or the command that reads it. -/
def refuseText (text : List Char) (complaint : Complaint) : ShellM Unit := do
  if (← get).isExtended then refuseExtended text complaint
  else
    modify fun state => { state with line := complaint.line + state.offset }
    complain complaint.text
  setStatus 2
  throw .failed

/-- Runs the lines of a script one after the other. -/
def runText (run : Command → ShellM Unit) (text : List Char) : ShellM Unit := do
  let mut reader : Reader := { rest := text, dialect := (← get).dialect }
  let mut isEmpty := true
  for _ in [0:text.length + 2] do
    let state ← get
    match Script.next { reader with aliases := if state.isExtended then [] else state.aliases } with
    | .error complaint => refuseText text complaint
    | .ok none => break
    | .ok (some (command, rest)) =>
      run command
      isEmpty := false
      reader := rest
  if isEmpty then setStatus 0

/-- Does a step, and then what is to be done at the end of the shell. -/
def finishing (run : Command → ShellM Unit) (step : ShellM Unit) : ShellM Unit := do
  let outcome ← catching step
  let isEnd := match outcome with
    | .error (.signaled _ _) | .error (.halted _) => false
    | _ => true
  let action := ((← get).traps.lookup 0).getD []
  if action = [] ∨ !isEnd then resume outcome
  else
    if let .error (.leave code) := outcome then setStatus code
    let code := (← get).status
    modify fun state => { state with traps := state.traps.filter fun trap => trap.1 != 0 }
    match ← catching (runText run action) with
    | .ok () => throw (.leave code)
    | outcome => resume outcome

/-- Runs commands in a process of their own, and then what is to be done at its end. -/
def apart (run : Command → ShellM Unit) (command : Command) : ShellM Unit :=
  finishing run (run command)

end KernelCache.Shell

/-! ## Starting programs -/

namespace KernelCache.Shell

/-! ### A shell as a program -/

/-- The arguments of a shell behind its options. -/
structure Invocation where
  /-- Whether the script is the first of the words. -/
  asText : Bool := false
  /-- Whether the script is the input, and the words are its arguments. -/
  fromInput : Bool := false
  words : List (List Char) := []

/-- Options of the extended dialect that are written out and change nothing here. -/
def longOptions : List String :=
  ["--norc", "--noprofile", "--posix", "--login", "--noediting", "--restricted", "--verbose"]

/-- Sets the options among letters behind a sign; the words behind them hold written ones. -/
def setLetters (on : Bool) (sign : Char) : List Char → Invocation → List (List Char) →
    ShellM (Invocation × List (List Char))
  | [], invocation, rest => return (invocation, rest)
  | letter :: letters, invocation, rest => do
    if letter = 'c' then setLetters on sign letters { invocation with asText := true } rest
    else if letter = 's' then setLetters on sign letters { invocation with fromInput := true } rest
    else if letter = 'l' ∨ (letter = 'O' ∧ (← get).isExtended) then
      setLetters on sign letters invocation (if letter = 'O' then rest.drop 1 else rest)
    else
      let words := match letter, rest with
        | 'o', name :: _ => [[sign, 'o'], name]
        | letter, _ => [[sign, letter]]
      discard (Builtin.setOptions 3 words)
      setLetters on sign letters invocation (if letter = 'o' then rest.drop 1 else rest)

/-- Sets the options in front of the arguments of a shell. -/
def invocation : Nat → Invocation → List (List Char) → ShellM Invocation
  | 0, found, arguments => return { found with words := arguments }
  | fuel + 1, found, arguments => do
    match arguments with
    | ['-'] :: rest | ['-', '-'] :: rest => return { found with words := rest }
    | (sign :: letters) :: rest =>
      if (sign ≠ '-' ∧ sign ≠ '+') then return { found with words := arguments }
      else if (← get).isExtended ∧ longOptions.contains (String.ofList (sign :: letters)) then
        invocation fuel found rest
      else
        let (found, rest) ← setLetters (sign == '-') sign letters found rest
        invocation fuel found rest
    | arguments => return { found with words := arguments }

/-- The variables that a shell has from the start. -/
def equip : ShellM Unit := do
  let state ← get
  let given (name : String) : Option (List Char) := state.value? name.toList
  let directory := (given "PWD").filter fun path =>
    path.head? = some '/' && (match state.host.files.status state.host.base (Host.pathOf path) with
      | .ok (place, _) => place == state.host.base
      | .error _ => false)
  let directory := directory.getD (Builtin.written state.host.base)
  let usual (name value : String) (state : State) : State :=
    if (state.value? name.toList).isSome then state
    else state.setVariable name.toList { value? := some (.text value.toList) }
  let place (name : String) (value : List Char) (state : State) : State :=
    let old := (state.binding? name.toList).getD {}
    state.setVariable name.toList { old with value? := some (.text value) }
  let level := ((given "SHLVL").bind fun text => (String.ofList text).toNat?).getD 0
  modify fun state =>
    let state := { state with directory }
      |> place "IFS" [' ', '\t', '\n'] |> usual "PS4" "+ "
      |> usual "PATH" "/usr/local/sbin:/usr/local/bin:/usr/sbin:/usr/bin:/sbin:/bin"
      |> place "PPID" (toString state.parent).toList |> place "PWD" directory
    if state.isExtended then
      let state := state |> usual "BASH_VERSION" "5.2.21(1)-release" |> usual "UID" "0"
        |> usual "EUID" "0" |> place "SHLVL" (toString (level + 1)).toList
      { state with
        bindings := state.bindings.map fun (name, binding) =>
          (name, if name = "SHLVL".toList then { binding with exported := true } else binding) }
    else state |> place "OPTIND" ['1'] |> usual "PS1" "# " |> usual "PS2" "> "

/-- Runs the script in a file as the whole script of a shell. -/
def runFile (run : Runner) (path : List Char) : ShellM Unit := do
  let state ← get
  let refuse (text : List Char) (code : Nat) : ShellM Unit := do
    if state.isExtended then emit 2 (state.name ++ ": ".toList ++ path ++ ": ".toList ++ text ++ ['\n'])
    else complain ("cannot open ".toList ++ path ++ ": ".toList ++ text)
    throw (.leave code)
  match state.host.openPath .input (Host.pathOf path) with
  | .error (.code 2) =>
    if state.isExtended then refuse "No such file or directory".toList missing
    else refuse "No such file".toList 2
  | .error fault => refuse fault.plain.toList (if state.isExtended then unusable else 2)
  | .ok (opening, host) => do
    let isDirectory := opening.stream = .directory
    set { state with host }
    match ← onHost (Host.withDescriptor opening fun descriptor => Host.readFrom descriptor none) with
    | .ok bytes => do
      modify fun state => { state with name := path, line := 1 }
      runText run (Bytes.toChars bytes)
    | .error _ =>
      if state.isExtended ∧ isDirectory then refuse "Is a directory".toList unusable
      else setStatus 0

/-- Runs a shell with the arguments of its command line. -/
def shell (run : Runner) (dialect : Dialect) (name : List Char) (arguments : List (List Char)) :
    ShellM Unit := do
  modify fun state => { state with dialect, name, line := 0 }
  equip
  let found ← invocation (arguments.length + 1) {} arguments
  let script : ShellM Unit := do
    match found.asText, found.words with
    | true, [] => do
      if dialect = .extended then
        emit 2 (name ++ ": -c: option requires an argument\n".toList)
      else complain "-c requires an argument".toList
      throw (.leave 2)
    | true, text :: more => do
      modify fun state =>
        { state with name := more.headD name, arguments := more.drop 1, asText := true, line := 1 }
      runText run text
    | false, path :: more =>
      if found.fromInput then
        modify fun state => { state with arguments := path :: more, line := 1 }
        match ← onHost (Host.readFrom 0 none) with
        | .ok bytes => runText run (Bytes.toChars bytes)
        | .error _ => setStatus 0
      else
        modify fun state => { state with arguments := more }
        runFile run path
    | false, [] => do
      modify fun state => { state with line := 1 }
      match ← onHost (Host.readFrom 0 none) with
      | .ok bytes => runText run (Bytes.toChars bytes)
      | .error _ => setStatus 0
  finishing run script

/-! ### Signals -/

/-- Sends a signal to a process, and says whether there is one. -/
def sendTo (run : Runner) (signal process : Nat) : ShellM Bool := do
  let state ← get
  if process = state.process then
    match if signal = 9 then none else state.traps.lookup signal with
    | some [] => return true
    | some action => do
      let status := state.status
      runText run action
      setStatus status
      return true
    | none => do
      Builtin.deliver process signal
      return true
  else if process = state.parent ∨ process = state.shell ∨ process = state.leader then
    Builtin.deliver process signal
    return true
  else endJob process signal

/-- Writes the names of signals. -/
def nameSignals (arguments : List (List Char)) : ShellM Unit := do
  setStatus 0
  match arguments with
  | [] =>
    Builtin.putLine ['0']
    for number in (List.range 64).map (· + 1) do Builtin.putLine (Builtin.signalName number)
  | first :: _ =>
    match Builtin.signal? first, first.all Arithmetic.isDigit with
    | some number, false => Builtin.putLine (toString number).toList
    | _, _ => do
      let number ← Builtin.number first
      let number := if signalBase < number then number - signalBase else number
      if 0 < number ∧ number < 65 then Builtin.putLine (Builtin.signalName number)
      else fail ("invalid signal number or exit status: ".toList ++ first)

/-- What is said about a wrong command line of `kill`. -/
def killUsage : List Char :=
  ("Usage: kill [-s sigspec | -signum | -sigspec] [pid | job]... or\n" ++
    "kill -l [exitstatus]").toList

/-- The signal in front of the targets, and the targets. -/
def killTargets (arguments : List (List Char)) : ShellM (Nat × List (List Char)) := do
  let named (text : List Char) : ShellM Nat := do
    let upper := text.map Char.toUpper
    let bare := if (← get).isExtended ∧ "SIG".toList.isPrefixOf upper then upper.drop 3 else upper
    match Builtin.signal? bare with
    | some signal => return signal
    | none => fail ("invalid signal number or name: ".toList ++ text)
  match arguments with
  | ['-', '-'] :: rest => return (15, rest)
  | ['-', 's'] :: text :: rest | ['-', 'n'] :: text :: rest => return (← named text, rest)
  | ('-' :: 's' :: first :: more) :: rest =>
    match Builtin.signal? ('s' :: first :: more) with
    | some signal => return (signal, rest)
    | none => return (← named (first :: more), rest)
  | ('-' :: first :: text) :: rest =>
    match Builtin.signal? (first :: text) with
    | some signal => return (signal, rest)
    | none =>
      if (← get).isExtended then return (← named (first :: text), rest)
      else fail ("Illegal option -".toList ++ [first])
  | targets => return (15, targets)

/-- Sends a signal to processes. -/
def kill (run : Runner) (arguments : List (List Char)) : ShellM Unit := do
  match arguments with
  | ['-', 'l'] :: rest | ['-', 'L'] :: rest => nameSignals rest
  | arguments => do
    let (signal, targets) ← killTargets arguments
    if targets.isEmpty then fail killUsage
    setStatus 0
    for target in targets do
      let state ← get
      let group := match target with
        | '-' :: digits => Builtin.processOf? state digits
        | _ => none
      match group.or (Builtin.processOf? state target) with
      | none => do
        if state.isExtended then
          complain (target ++ ": arguments must be process or job IDs".toList)
          setStatus 1
        else if target.head? = some '%' then fail ("No such job: ".toList ++ target)
        else fail ("Illegal number: ".toList ++ target)
      | some process => do
        let process := if process = 0 then state.leader else process
        if !(← sendTo run signal process) then
          if state.isExtended then
            complain ('(' :: target ++ ") - No such process".toList)
          else complain "No such process\n".toList
          setStatus 1

/-! ### Programs -/

/-- Splits the first line of a script that names its interpreter. -/
def interpreter? (bytes : Bytes) : Option (List (List Char)) :=
  match Bytes.toChars (bytes.take 256) with
  | '#' :: '!' :: rest =>
    let line := rest.takeWhile (· != '\n')
    let isBlank (char : Char) : Bool := char == ' ' || char == '\t'
    let line := (line.dropWhile isBlank).reverse.dropWhile isBlank |>.reverse
    let name := line.takeWhile fun char => !isBlank char
    let argument := (line.drop name.length).dropWhile isBlank
    some (if argument = [] then [name] else [name, argument])
  | _ => none

/-- A program of the system that starts others. -/
def starter? (run : Runner) (launch : Starter.Launcher) (name tool : List Char) :
    Option (List (List Char) → ShellM Unit) :=
  match String.ofList tool with
  | "sh" | "dash" => some (shell run .plain name)
  | "bash" => some (shell run .extended name)
  | "env" => some (Starter.env launch)
  | "nohup" => some (Starter.nohup launch)
  | "nice" => some (Starter.nice launch)
  | "setsid" => some (Starter.setsid launch)
  | "stdbuf" => some (Starter.stdbuf launch)
  | "timeout" => some (Starter.timeout launch)
  | "xargs" => some (Starter.xargs launch)
  | "find" => some (Find.run launch)
  | "which" => some Starter.which
  | "kill" => some fun arguments => asCommand "kill".toList (kill run arguments)
  | _ => none

/-- So many programs may start each other before one of them runs. -/
def launchDepth : Nat := 200

/-- Starts a program by its name, or says what is in the way. -/
def launchUpTo (run : Runner) : Nat → Starter.Launcher
  | 0, _, _, _ => return some .linkLoop
  | depth + 1, inPlace, name, arguments => do
    let state ← get
    match findCommand state name with
    | .error fault => return some fault
    | .ok (_, .directory) => return some .denied
    | .ok (_, .program tool) => do
      if !name.contains '/' then
        modify fun state => { state with hashed := name :: state.hashed.filter (· != name) }
      let tool := Bytes.toChars tool
      match starter? run (launchUpTo run depth) name tool with
      | some step => inProcess inPlace (step arguments)
      | none =>
        match Program.find? (String.ofList tool) with
        | some tool => runTool name tool arguments
        | none => setStatus missing
      return none
    | .ok (path, node) => do
      let bytes := state.host.files.octets node
      match ImageFile.decode? bytes, interpreter? bytes with
      | some image, _ => do
        runTool name (Executable.run image name) arguments
        return none
      | none, some words =>
        launchUpTo run depth inPlace (words.headD []) (words.drop 1 ++ path :: arguments)
      | none, none => do
        inProcess inPlace (shell run .plain "sh".toList (path :: arguments))
        return none

/-- Starts a program by its name, or says what is in the way. -/
def launch (run : Runner) : Starter.Launcher := launchUpTo run launchDepth

end KernelCache.Shell
