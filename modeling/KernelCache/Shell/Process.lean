import KernelCache.Shell.Builtin
import KernelCache.Shell.Reader
import KernelCache.Utility.Program

/-
**Processes of a shell.**

This module finds commands among the programs, runs commands side by side, in the background, in
words and up to a time, when it is told how a command is run.

* `sideBySide` connects commands by pipes.
* `inBackground` starts a command and goes on without it.
* `outputOf` is what a command writes.
-/

namespace KernelCache.Shell

/-- The code of a command that is not there. -/
def missing : Nat := 127

/-- The code of a command that cannot be run. -/
def unusable : Nat := 126

/-- Runs a command. -/
abbrev Runner := Command → ShellM Unit

/-! ### Finding commands -/

/-- The entry that a path stands for as a command, or what is in the way. -/
def commandAt (state : State) (path : List Char) : Except Fault Node := do
  let (_, node) ← state.host.files.status state.host.base (Host.pathOf path)
  if state.host.files.isExecutable node then return node else throw .denied

/-- Splits a list of directories. -/
def directories (text : List Char) : List (List Char) :=
  (text.splitOn ':').map fun directory => if directory = [] then ['.'] else directory

/-- Searches directories for a command. -/
def search (state : State) (name : List Char) :
    List (List Char) → Fault → Except Fault (List Char × Node)
  | [], fault => .error fault
  | directory :: rest, fault =>
    let path := if directory.getLast? = some '/' then directory ++ name
      else directory ++ '/' :: name
    match commandAt state path with
    | .ok node =>
      if node = .directory then search state name rest fault else .ok (path, node)
    | .error found => search state name rest (if found = .denied then .denied else fault)

/-- The path and the entry of a command. -/
def findCommand (state : State) (name : List Char) : Except Fault (List Char × Node) :=
  if name.contains '/' then (commandAt state name).map (name, ·)
  else if name = [] then .error .notFound
  else
    let path := (state.value? "PATH".toList).getD "/usr/sbin:/usr/bin:/sbin:/bin".toList
    search state name (directories path) .notFound

/-- What is said about a command that cannot be found. -/
def findFault (fault : Fault) : List Char :=
  match fault with
  | .code 2 | .code 20 => "not found".toList
  | fault => fault.plain.toList

/-- The code that stands for what is in the way of a command. -/
def findCode (fault : Fault) : Nat :=
  match fault with
  | .code 2 | .code 20 => missing
  | _ => unusable

/-! ### What a name stands for -/

/-- What a name stands for as a command. -/
inductive Meaning where
  | keyword
  | alias (text : List Char)
  | function
  | special
  | builtin
  | program (path : List Char) (hashed : Bool)
  | nothing

/-- Commands of the extended dialect. -/
def extendedBuiltins : List String :=
  ["declare", "typeset", "let", "source", "builtin", "shopt", "mapfile", "readarray", "enable",
    "pushd", "popd", "dirs", "disown", "suspend", "logout", "help", "history", "caller"]

/-- Whether a name is a special command of the shell. -/
def isSpecial (name : String) : Bool :=
  (Builtin.special.lookup name).isSome || Builtin.specialStarters.contains name

/-- Whether a name is another command of the shell. -/
def isOrdinary (state : State) (name : String) : Bool :=
  (Builtin.ordinary.lookup name).isSome || Builtin.starters.contains name
    || (state.isExtended && extendedBuiltins.contains name)

/-- What a name stands for. -/
def meaningOf (state : State) (name : List Char) : Meaning :=
  let spelling := String.ofList name
  if Reader.isReserved state.dialect spelling then .keyword
  else
    match state.aliases.lookup name with
    | some text => .alias text
    | none =>
      if (state.functions.lookup name).isSome then .function
      else if isSpecial spelling then .special
      else if isOrdinary state spelling then .builtin
      else
        match findCommand state name with
        | .ok (path, _) => .program path (state.hashed.contains name)
        | .error _ => .nothing

/-- Says what names stand for: nothing else than that when `brief`. -/
def describe (brief : Bool) (names : List (List Char)) : ShellM Unit := do
  setStatus 0
  for name in names do
    let state ← get
    let say (text : String) : ShellM Unit :=
      Builtin.putLine (if brief then name else name ++ ' ' :: text.toList)
    match meaningOf state name with
    | .keyword => say "is a shell keyword"
    | .alias text =>
      if brief then Builtin.putLine ("alias ".toList ++ name ++ '=' :: Quoting.single text)
      else if state.isExtended then
        Builtin.putLine (name ++ " is aliased to ".toList ++ Char.ofNat 0x60 :: text ++ ['\''])
      else Builtin.putLine (name ++ " is an alias for ".toList ++ text)
    | .function => say (if state.isExtended then "is a function" else "is a shell function")
    | .special =>
      say (if state.isExtended then "is a shell builtin" else "is a special shell builtin")
    | .builtin => say "is a shell builtin"
    | .program path hashed =>
      if brief then Builtin.putLine path
      else if hashed ∧ !name.contains '/' then
        if state.isExtended then Builtin.putLine (name ++ " is hashed (".toList ++ path ++ [')'])
        else Builtin.putLine (name ++ " is a tracked alias for ".toList ++ path)
      else Builtin.putLine (name ++ " is ".toList ++ path)
    | .nothing =>
      setStatus (if state.isExtended then 1 else missing)
      if !brief then
        if state.isExtended then complain ("type: ".toList ++ name ++ ": not found".toList)
        else Builtin.putLine (name ++ ": not found".toList)

/-! ### Commands in words -/

/-- What a command writes. -/
def outputOf (run : Runner) (body : Command) : ShellM (List Char) := do
  let before ← get
  let (pipe, host) := before.host.addPipe {}
  set { before with host }
  let outcome ← catching do
    inSubshell do
      modifyHost (·.place 1 { stream := .pipe pipe, reads := false, writes := true })
      modify fun state => { state with tested := false }
      run body
  let bytes := (((← get).host.pipes.lookup pipe).getD {}).pending
  modifyHost fun host => { host with pipes := host.pipes.filter (·.1 != pipe) }
  resume outcome
  modify fun state => { state with wordStatus := state.status, status := before.status }
  return (Bytes.toChars bytes).filter (· != '\x00')

/-- The path of a descriptor that gives the output of a command. -/
def channelTo (run : Runner) (reads : Bool) (body : Command) : ShellM (List Char) := do
  if !reads then return "/dev/null".toList
  let (pipe, host) := (← get).host.addPipe {}
  modifyHost fun _ => host
  let status := (← get).status
  inSubshell do
    modifyHost (·.place 1 { stream := .pipe pipe, reads := false, writes := true })
    run body
  setStatus status
  let descriptors := (← get).host.descriptors
  let used (number : Nat) : Bool := (descriptors.lookup number).isSome
  let descriptor := ((List.range 40).map (63 - ·)).find? fun number => !used number
  let descriptor := descriptor.getD 63
  modifyHost (·.place descriptor { stream := .pipe pipe, reads := true, writes := false })
  return "/dev/fd/".toList ++ (toString descriptor).toList

/-- What the expansion of words needs. -/
def expandingWith (run : Runner) : Expanding :=
  { substitute := outputOf run, channel := channelTo run }

/-! ### Commands side by side -/

/-- The limits of pipes, each tried when the one before it was too narrow. -/
def pipeLimits : List (Option Nat) := [some 4096, some 65536, some 1048576, some 8388608, none]

/-- Marks a pipe as one behind which more would come. -/
def markHeld (pipe root : Nat) : ShellM Unit :=
  modifyHost fun host =>
    match host.pipes.lookup pipe with
    | some entry => host.setPipe pipe { entry with held? := some root }
    | none => host

/-- Runs commands, each with the output of the one before it as its input, through pipes with a
limit, and yields their statuses, the last one first. -/
def stages (run : Runner) (limit : Option Nat) (input? : Option Nat) :
    List Nat → List Command → ShellM (List Nat)
  | statuses, [] => return statuses
  | statuses, command :: rest => do
    let (pipe, host) := (← get).host.addPipe { limit }
    modifyHost fun _ => host
    let isLast := rest.isEmpty
    let outcome ← catching do
      inSubshell do
        if let some input := input? then
          modifyHost (·.place 0 { stream := .pipe input, reads := true, writes := false })
        if !isLast then
          modifyHost (·.place 1 { stream := .pipe pipe, reads := false, writes := true })
        run command
    match outcome with
    | .ok () => stages run limit (some pipe) ((← get).status :: statuses) rest
    | .error (.halted (.starved root)) =>
      if isLast then throw (.halted (.starved root))
      else
        markHeld pipe root
        stages run limit (some pipe) (0 :: statuses) rest
    | .error jump => throw jump

/-- Runs commands side by side with the first limit that is wide enough. -/
def sideBySide (run : Runner) (commands : List Command) : List (Option Nat) → ShellM Unit
  | [] => throw (.halted .endless)
  | limit :: others => do
    let before ← get
    let outcome ← catching (stages run limit none [] commands)
    match outcome with
    | .error (.halted (.starved root)) =>
      if before.host.next ≤ root then
        set before
        sideBySide run commands others
      else throw (.halted (.starved root))
    | .error jump => throw jump
    | .ok statuses => do
      modifyHost fun host =>
        { host with pipes := host.pipes.filter fun entry => entry.1 < before.host.next }
      let state ← get
      let last := statuses.headD 0
      let failed := (statuses.find? (· != 0)).getD 0
      setStatus (if state.has 'P' then failed else last)
      if state.isExtended then
        let values := statuses.reverse.map fun status => (toString status).toList
        modify fun state =>
          state.set "PIPESTATUS".toList (.row ((List.range values.length).zip values))

/-! ### Commands in the background -/

/-- What happens to the tree from each moment on. -/
def changesOf (process : Nat) (last : Files) : List Moment → List Change
  | [] => []
  | [moment] => [{ time := moment.time, process, before := moment.files, after := last }]
  | moment :: next :: rest =>
    { time := moment.time, process, before := moment.files, after := next.files }
      :: changesOf process last (next :: rest)

/-- Starts a command in the background. What it does up to its first pause is done at once, and the
rest when its time has come. -/
def inBackground (run : Runner) (body : Command) : ShellM Unit := do
  let before ← get
  let own := before.nextProcess
  let silent : Opening := { stream := .device .null, reads := true, writes := true }
  set { before with
    host := { before.host with trail := [], later := [] }
    process := own
    parent := before.process
    nextProcess := own + 1
    traps := before.traps.filter fun trap => trap.2 = []
    jobs := []
    loops := 0 }
  modifyHost (·.place 0 silent)
  let outcome ← catching (run body)
  let after ← get
  let moments := after.host.trail.reverse
  let first := (moments.head?.map (·.files)).getD after.host.files
  let changes := changesOf own after.host.files moments ++ after.host.later
  let later := (before.host.later ++ changes).mergeSort fun first second =>
    first.time ≤ second.time
  let host := returned before.host
    { after.host with
      files := { first with next := after.host.files.next, clock := before.host.files.clock }
      elapsed := before.host.elapsed
      trail := before.host.trail
      later }
  let isEndless := match outcome with
    | .error (.halted .endless) => true
    | _ => false
  let status ← match ended own outcome after.status with
    | .ok status => pure status
    | .error (.halted .endless) => pure 0
    | .error jump => throw jump
  let due? := if isEndless then none else some after.host.elapsed
  let job : Job := { process := own, due?, status }
  set { before with
    host := host
    nextProcess := after.nextProcess
    steps := if isEndless then before.steps else after.steps
    jobs := job :: before.jobs
    lastJob? := some own
    status := 0 }

/-- Ends a process in the background by a signal, and says whether there is one. -/
def endJob (process signal : Nat) : ShellM Bool := do
  let state ← get
  match state.jobs.find? fun job => job.process == process with
  | none => return false
  | some job =>
    let elapsed := state.host.elapsed
    if signal ≠ 0 ∧ !job.due?.any (· ≤ elapsed) then
      let ended : Job := { job with due? := some elapsed, status := signalBase + signal }
      set { state with
        jobs := state.jobs.map fun (other : Job) =>
          if other.process == process then ended else other
        host := { state.host with
          later := state.host.later.filter fun change => change.process != process } }
    return true

/-! ### Programs -/

/-- The state of a shell that is started from another one; `inPlace` when it takes its place. -/
def child (state : State) (inPlace : Bool) : State :=
  let process := if inPlace then state.process else state.nextProcess
  { host := state.host
    bindings := state.bindings.filter fun entry =>
      entry.2.exported && entry.2.value?.isSome
    traps := state.traps.filter fun trap => trap.2 = []
    process
    shell := process
    parent := if inPlace then state.parent else state.process
    leader := state.leader
    directory := state.directory
    line := 0
    steps := state.steps
    nextProcess := if inPlace then state.nextProcess else state.nextProcess + 1 }

/-- Runs a step in a process that is started from this one. -/
def inProcess (inPlace : Bool) (step : ShellM Unit) : ShellM Unit := do
  let before ← get
  let inner := child before inPlace
  set inner
  let outcome ← catching step
  let after ← get
  set { before with
    host := returned before.host after.host
    steps := after.steps
    nextProcess := after.nextProcess }
  if !inPlace then announce (signalOf? inner.process outcome)
  match ended inner.process outcome after.status with
  | .ok status =>
    match inPlace, outcome with
    | true, .error (.signaled process signal) => throw (.signaled process signal)
    | _, _ => setStatus status
  | .error jump => throw jump

/-- What a program that cannot write its output says in the end. -/
def lastWords (name : List Char) (fault : Fault) : List Char :=
  let text := fault.plain.toList
  if fault = .badDescriptor ∧ name = "cat".toList then
    name ++ ": standard output: ".toList ++ text
  else name ++ ": write error: ".toList ++ text

/-- Runs a program of the system that starts no others. -/
def runTool (name : List Char) (tool : Program.Tool) (arguments : List (List Char)) :
    ShellM Unit := do
  let state ← get
  let before := state.host
  modifyHost fun host =>
    { host with environment := state.environment, program := name, fault? := none }
  let outcome ← attend (tool arguments)
  let fault? := (← get).host.fault?
  let own := state.nextProcess
  modify fun state =>
    { state with host := returned before state.host, nextProcess := own + 1 }
  match outcome with
  | .ok status =>
    match fault? with
    | some fault => do
      emit 2 (lastWords name fault ++ ['\n'])
      setStatus (max status 1)
    | none => setStatus status
  | .error (.held _) => setStatus (signalBase + brokenPipe)
  | .error (.signaled signal) => do
    announce (some signal)
    setStatus (signalBase + signal)
  | .error halt => throw (.halted halt)

/-- Runs a step and cuts it off after some time, and says whether that happened. -/
def upToTime (length : Nat) (step : ShellM Unit) : ShellM Bool := do
  let before ← get
  let stop := before.host.elapsed + length
  let cut (host : Host) : Host :=
    { host with files := host.treeAt stop, elapsed := stop }
  let outcome ← catching step
  let after ← get
  match outcome with
  | .error (.halted .endless) => do
    let reached := if after.host.elapsed < stop then
        returned before.host (after.host.advance stop)
      else returned before.host (cut after.host)
    set { before with host := reached, nextProcess := after.nextProcess }
    return true
  | .ok () => do
    if stop < after.host.elapsed then
      modifyHost cut
      return true
    else return false
  | .error jump => throw jump

end KernelCache.Shell
