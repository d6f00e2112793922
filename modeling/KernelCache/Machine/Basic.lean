import KernelCache.Action
import KernelCache.Binary.Module
import KernelCache.System.Files
import KernelCache.Shell.Run
import KernelCache.Worker
import KernelCache.Group.Basic

/-
**A machine that answers the questions of members.**

A machine has a file tree, a clock, a loader and the links of all members to their workers. The
clock moves while somebody waits, and a little with every step on the file tree. `Machine.answer`
answers the questions of one member.
-/

/-! ## Images in memory

A file is mapped once, however often it is opened, as long as one of its openings is held: a second
opening finds the first mapping by its path, or by the file behind another path. The variables of a
mapping keep their values as long as it lives.

* `Loader.load` opens an image.
* `Loader.release` lets openings go.
* `Loader.invoke` calls a function.
-/

namespace KernelCache

/-- An image in memory. -/
structure Mapping where
  number : Nat
  /-- The places under which it was opened. -/
  places : List Place
  /-- The number of its file. -/
  file : Nat
  program : Code.Program
  state : Code.State
  /-- The libraries of the system that came along. -/
  libraries : Standard.Libraries

namespace Mapping

/-- The routines and variables of a mapping, and those of the libraries that came along. -/
def exports (mapping : Mapping) : List (String × Entry) :=
  (mapping.program.exports ++ mapping.libraries.offered).map fun symbol =>
    let name := Utf8.lossy (Bytes.ofChars symbol.toList)
    (name, { mapping := mapping.number, name })

end Mapping

/-- The mappings of a process, and the openings that hold them. -/
structure Loader where
  mappings : List Mapping := []
  /-- The mapping of every opening that is held. -/
  openings : List (Nat × Nat) := []
  /-- The number of the next mapping, and of the next opening. -/
  next : Nat := 0

namespace Loader

/-- The program of an image that can be mapped, its state at the start, and its libraries. -/
def start? (bytes : Bytes) : Option (Code.Program × Code.State × Standard.Libraries) := do
  let image ← ImageFile.decode? bytes
  let program ← image.program?
  match program.load [] with
  | .ok state => return (program, state, image.libraries)
  | .error _ => none

/-- Adds an opening of a mapping. -/
def hold (loader : Loader) (mapping : Mapping) : Image × Loader :=
  let others := loader.mappings.filter fun other => other.number != mapping.number
  ({ serial := loader.next, exports := mapping.exports },
    { mappings := mapping :: others
      openings := (loader.next, mapping.number) :: loader.openings
      next := loader.next + 1 })

/-- Opens the file at a place. -/
def openFile (loader : Loader) (files : Files) (place : Place) (file : Nat) :
    Option (Image × Loader) :=
  match loader.mappings.find? fun mapping => mapping.places.contains place with
  | some mapping => some (loader.hold mapping)
  | none =>
    match loader.mappings.find? fun mapping => mapping.file == file with
    | some mapping => some (loader.hold { mapping with places := place :: mapping.places })
    | none =>
      (start? (files.octets (.file file))).map fun (program, state, libraries) =>
        loader.hold { number := loader.next, places := [place], file, program, state, libraries }

/-- Opens the image that a path leads to. A path that leads nowhere is reported as it was given, and
a file that is no image under its place. -/
def load (loader : Loader) (files : Files) (base : Place) (path : Path) :
    Except (Path × LoadFault) (Image × Loader) :=
  match files.status base path with
  | .error fault => .error (path, .path fault)
  | .ok (place, .file number) =>
    match loader.openFile files place number with
    | some opened => .ok opened
    | none => .error (Files.absolute place, .image "the file is no complete image")
  | .ok (place, _) => .error (Files.absolute place, .image "the path leads to no file")

/-- Lets openings go; a mapping that is no longer held goes with the last of them. -/
def release (loader : Loader) (serials : List Nat) : Loader :=
  let openings := loader.openings.filter fun opening => !serials.contains opening.1
  let held := openings.map (·.2)
  { loader with
    mappings := loader.mappings.filter fun mapping => held.contains mapping.number
    openings }

/-- Calls a routine without arguments; there is no answer when it does not come back. A routine of
a library works on a memory of its own. -/
def invoke (loader : Loader) (entry : Entry) : Option (Int × Loader) := do
  let mapping ← loader.mappings.find? fun mapping => mapping.number == entry.mapping
  let answer (value : Code.Value) : Int := Code.Value.ofBits 4 true value.bits
  let symbol := String.ofList (Bytes.toChars (Bytes.ofString entry.name))
  if mapping.program.addresses.contains symbol then
    match mapping.program.integerFrom symbol mapping.state with
    | (.finished value, state) =>
      let others := loader.mappings.filter fun other => other.number != mapping.number
      return (answer value, { loader with mappings := { mapping with state } :: others })
    | _ => none
  else
    let piece : Code.Piece := { presets := [symbol] }
    let program := Code.Program.link mapping.libraries.toLibrary [piece]
    match program.integerFrom symbol (Code.Program.idle program.memory) with
    | (.finished value, _) => return (answer value, loader)
    | _ => none

end Loader

end KernelCache

/-! ## A channel and the worker at its other end

What a worker will do with a request is worked out at once and takes effect when its time has come.
Until then the file tree changes as the command goes along, and a worker that is killed never gets
to the rest.
-/

namespace KernelCache

/-- What a worker is going to do. -/
structure Plan where
  /-- Whether it runs a command; an identity word and a farewell leave the file tree alone. -/
  runsCommand : Bool
  /-- When it begins. -/
  start : Nat
  /-- When it is done; a command that goes on without end never is. -/
  due : Option Nat
  /-- What the worker does then; a worker that its own command kills does nothing. -/
  reaction : Option Reaction
  /-- The host with the end of the plan. -/
  host : Host

/-- A channel and a worker. -/
structure Link where
  channel : Channel
  commandLog : Option Path
  /-- The number of the worker's process. -/
  process : Nat
  /-- The exit code of a worker that has left. -/
  status : Option ExitCode := none
  plan : Option Plan := none

namespace Link

/-- A worker reacts this much later than it is asked, in microseconds. -/
def delay : Nat := 1

/-- A step of a worker, which ends early when its command does not end in an ordinary way. -/
abbrev WorkerM (α : Type) := ExceptT Shell.Ending (StateM Host) α

/-- Appends a line to the log. -/
def append (path : Path) (line : Bytes) : WorkerM Bool := do
  let host ← get
  match host.files.append host.base path line with
  | .ok files =>
    set { host with files }
    return true
  | .error _ => return false

/-- Runs a command in a shell. -/
def runCommand (environment : List (List Char × List Char)) (process : Nat) (command : Bytes) :
    WorkerM ShellEnd := do
  let host ← get
  let (ending, host) := Shell.perform environment process (Bytes.toChars command) host
  set host
  match ending with
  | .left code => return .left code
  | .signaled => return .signaled
  | ending => throw ending

/-- The surroundings of a worker on a host. -/
def surroundings (environment : List (List Char × List Char)) (process : Nat) :
    Worker.Surroundings WorkerM where
  append
  run := runCommand environment process

/-- What a worker is going to do with a request from a time on. -/
def planFor (link : Link) (environment : List (List Char × List Char)) (files : Files)
    (base : Place) (now : Nat) (request : Request) : Plan :=
  let step := Worker.react (surroundings environment link.process) link.commandLog request
  let (outcome, host) := step.run.run { files, base }
  let runsCommand := request matches .call _
  let due := some (now + delay + host.elapsed)
  match outcome with
  | .ok reaction => { runsCommand, start := now, due, reaction := some reaction, host }
  | .error .endless => { runsCommand, start := now, due := none, reaction := none, host }
  | .error _ => { runsCommand, start := now, due, reaction := none, host }

/-- Stores a status word, and lets a worker that is there see to it. -/
def post (link : Link) (environment : List (List Char × List Char)) (files : Files) (base : Place)
    (now : Nat) (word : UInt32) : Link :=
  let link := { link with channel := link.channel.store word }
  match link.status, link.channel.poll with
  | none, some request =>
    { link with plan := some (link.planFor environment files base now request) }
  | _, _ => link

/-- The plan, if it is done by a time. -/
def finished? (link : Link) (now : Nat) : Option Plan :=
  link.plan.filter fun plan => plan.due.any (· ≤ now)

/-- The link after its plan was carried out. -/
def finish (link : Link) (plan : Plan) : Link :=
  match plan.reaction with
  | none => { link with status := some none, plan := none }
  | some reaction =>
    { link with
      channel := Worker.settle link.channel reaction
      status := reaction.code?.map fun code => some (code : Int)
      plan := none }

/-- The end of a wait, if there is one. -/
def verdict? (link : Link) : Option Verdict :=
  if link.channel.isReady then some .acknowledged
  else link.status.map Verdict.left

/-- The link of a worker that was killed. -/
def kill (link : Link) : Link :=
  match link.status with
  | some _ => link
  | none => { link with status := some none, plan := none }

end Link

end KernelCache

/-! ## A machine that answers the questions of members -/

namespace KernelCache

/-- A machine. -/
structure Machine where
  files : Files
  /-- The working directory of everybody. -/
  base : Place
  /-- What commands see of their surroundings. -/
  environment : List (List Char × List Char)
  /-- The time in microseconds. -/
  now : Nat := 0
  loader : Loader := {}
  /-- What everybody has written. -/
  output : Bytes := []
  /-- The links by their owners. -/
  links : List (Nat × Link) := []
  /-- The groups of the members, by their owners. -/
  scripts : List (Nat × Script) := []

/-- A step of a machine. -/
abbrev MachineM (α : Type) := StateM Machine α

namespace Machine

/-- The numbers of the first processes. -/
def firstProcess : Nat := 1000

/-- What every command sees. -/
def baseEnvironment : List (List Char × List Char) := [
  ("PATH".toList, "/usr/local/sbin:/usr/local/bin:/usr/sbin:/usr/bin:/sbin:/bin".toList),
  ("HOME".toList, "/root".toList)]

/-! ### Files -/

/-- Lets the clock move on. -/
def elapse (length : Nat) : MachineM Unit :=
  modify fun machine => { machine with now := machine.now + max length Link.delay }

/-- Changes the file tree. -/
def change (step : Files → Place → Except Fault Files) : MachineM (Except Fault Unit) := do
  elapse Link.delay
  let machine ← get
  match step machine.files machine.base with
  | .ok files =>
    set { machine with files }
    return .ok ()
  | .error fault => return .error fault

/-- Changes the file tree as far as that is possible. -/
def changeSome (step : Files → Place → Files × Option Fault) : MachineM (Except Fault Unit) := do
  elapse Link.delay
  let machine ← get
  let (files, fault?) := step machine.files machine.base
  set { machine with files }
  return match fault? with
    | some fault => .error fault
    | none => .ok ()

/-- Looks at the file tree. -/
def ask {α : Type} (question : Files → Place → α) : MachineM α := do
  elapse Link.delay
  let machine ← get
  return question machine.files machine.base

/-! ### Links -/

/-- The link of an owner. -/
def link? (owner : Nat) : MachineM (Option Link) := do
  return (← get).links.lookup owner

/-- Puts a link in the place of an owner's link. -/
def setLink (owner : Nat) (link : Link) : MachineM Unit :=
  modify fun machine =>
    { machine with links := (owner, link) :: machine.links.filter fun entry => entry.1 != owner }

/-- Takes away the link of an owner. -/
def dropLink (owner : Nat) : MachineM Unit :=
  modify fun machine =>
    { machine with links := machine.links.filter fun entry => entry.1 != owner }

/-- Carries out what the worker of an owner has done by now. -/
def catchUp (owner : Nat) : MachineM Unit := do
  match ← link? owner with
  | none => return ()
  | some link =>
    match link.finished? (← get).now with
    | none => return ()
    | some plan =>
      modify fun machine =>
        { machine with
          files := if plan.runsCommand then plan.host.files else machine.files
          output := machine.output ++ plan.host.output }
      setLink owner (link.finish plan)

/-- Changes the tree to what a command that goes on has made of it by now, and keeps the command
from ever being done. -/
def leaveBehind (owner : Nat) : MachineM Unit := do
  match ← link? owner with
  | none => return ()
  | some link =>
    match link.plan.filter (·.runsCommand) with
    | none => return ()
    | some plan =>
      modify fun machine =>
        { machine with files := plan.host.treeAt (machine.now - plan.start) }
      setLink owner { link with plan := some { plan with due := none } }

/-- So many probes are enough to see the end of a wait. -/
def probesFor (policy : PollPolicy) (machine : Machine) (link : Link) : Nat :=
  match link.plan.bind (·.due) with
  | some due => (due - machine.now) / max policy.interval Link.delay + 3
  | none => (policy.maxAttempts.map (·.toNat)).getD 0 + 3

/-- Waits for the worker of an owner. -/
def await (owner : Nat) (policy : PollPolicy) : MachineM Verdict := do
  match ← link? owner with
  | none => return .left none
  | some link =>
    let probe : MachineM (Option Verdict) := do
      catchUp owner
      return (← link? owner).bind Link.verdict?
    let fuel := probesFor policy (← get) link
    match ← policy.waitFor probe elapse fuel with
    | some (.ok verdict) => return verdict
    | some (.error exhausted) =>
      leaveBehind owner
      return .exhausted exhausted
    | none =>
      leaveBehind owner
      return .exhausted ⟨PollPolicy.attemptLimit⟩

/-- Waits until the worker of an owner has left. -/
def join (owner : Nat) : MachineM ExitCode := do
  match (← link? owner).bind (·.plan) with
  | some plan =>
    modify fun machine => { machine with now := max machine.now (plan.due.getD 0) }
    catchUp owner
  | none => pure ()
  return ((← link? owner).bind (·.status)).getD none

/-! ### Answers -/

/-- Changes the link of an owner. -/
def onLink (owner : Nat) (step : Machine → Link → Link) : MachineM Unit := do
  match ← link? owner with
  | some link => setLink owner (step (← get) link)
  | none => return ()

/-- Starts a worker for an owner. -/
def hire (owner : Nat) (commandLog : Option Path) : MachineM (Except Failure Unit) := do
  match Channel.allocate Channel.pageCapacity Channel.readyWord with
  | .error fault => return .error (.channel fault)
  | .ok channel =>
    setLink owner { channel, commandLog, process := firstProcess * (owner + 1) }
    return .ok ()

/-- Opens an image. -/
def openImage (path : Path) : MachineM (Except (Path × LoadFault) Image) := do
  let machine ← get
  match machine.loader.load machine.files machine.base path with
  | .ok (image, loader) =>
    set { machine with loader }
    return .ok image
  | .error fault => return .error fault

/-- The group of an owner. -/
def script (machine : Machine) (owner : Nat) : Script := (machine.scripts.lookup owner).getD {}

/-- Puts an owner into a group. -/
def setScript (machine : Machine) (owner : Nat) (script : Script) : Machine :=
  { machine with
    scripts := (owner, script) :: machine.scripts.filter fun entry => entry.1 != owner }

/-- Combines a flag with those of the other members of a group. -/
def combine (owner : Nat) (flag : Bool) : MachineM Bool := do
  let machine ← get
  let (anyFailed, script) := (machine.script owner).combine flag
  set (machine.setScript owner script)
  return anyFailed

/-- Answers a question of an owner. -/
def answer (owner : Nat) : (effect : Effect) → MachineM effect.Reply
  | .combine flag => combine owner flag
  | .hire commandLog => hire owner commandLog
  | .look => do
    catchUp owner
    return ((← link? owner).map (·.channel.word)).getD Channel.readyWord
  | .fill command =>
    onLink owner fun _ link => { link with channel := link.channel.putCommand command }
  | .post word =>
    onLink owner fun machine link =>
      link.post machine.environment machine.files machine.base machine.now word
  | .await policy => await owner policy
  | .reap => do
    catchUp owner
    return .ok ((← link? owner).bind (·.status))
  | .join => do return .ok (← join owner)
  | .kill => onLink owner fun _ link => link.kill
  | .release => do
    dropLink owner
    return .ok ()
  | .present path => ask fun files base => files.present base path
  | .openImage path => openImage path
  | .writeSource path text => change fun files base => files.write base path text
  | .remove path => do discard (change fun files base => files.remove base path)

/-- Runs an action of an owner. -/
def run {α : Type} (owner : Nat) (action : Action α) : MachineM α :=
  action.run (answer owner)

/-- Writes a line. -/
def sayLine (line : String) : MachineM Unit :=
  modify fun machine => { machine with output := machine.output ++ Bytes.ofString line ++ [0x0A] }

/-- Calls a function. -/
def invoke (entry : Entry) : MachineM (Option Int) := do
  let machine ← get
  match machine.loader.invoke entry with
  | some (value, loader) =>
    set { machine with loader }
    return some value
  | none => return none

/-- Lets openings go. -/
def release (serials : List Nat) : MachineM Unit :=
  modify fun machine => { machine with loader := machine.loader.release serials }

end Machine

end KernelCache
