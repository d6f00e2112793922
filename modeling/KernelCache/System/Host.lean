import KernelCache.System.Entries
import KernelCache.Text.Utf8

/-
**What a running program can reach.**

A `Host` is the file tree, the working directory, the open descriptors and the surroundings of a
program, and the time that has passed since the start of the command it belongs to. A descriptor
leads to an opening, which several descriptors and processes may share together with the offset up
to which it was read or written.

A pipe may have a limit. A program that writes beyond it is held up, and one that reads on behind
what a program wrote that was held up starves; who connects the two then gives the pipe a larger
limit and starts them again.

Whenever time passes, the tree of that moment is kept, so that a command that is killed can be cut
off where it was.
-/

namespace KernelCache

/-- What an opening leads to. -/
inductive Stream where
  | file (number : Nat)
  | directory
  | device (device : Device)
  | pipe (number : Nat)
  deriving DecidableEq, Repr

/-- An opened file, device or pipe. -/
structure Opening where
  stream : Stream
  reads : Bool
  writes : Bool
  /-- Whether every octet goes to the end of the file. -/
  appends : Bool := false
  offset : Nat := 0
  deriving DecidableEq, Repr

/-- A pipe. -/
structure Pipe where
  /-- What is read next. -/
  ready : Bytes := []
  /-- What was written behind that, the last piece first. -/
  fresh : List Bytes := []
  /-- How many octets were written. -/
  written : Nat := 0
  /-- So many octets are let through. -/
  limit : Option Nat := none
  /-- The pipe whose limit holds a writer up. -/
  held? : Option Nat := none
  deriving DecidableEq, Repr

namespace Pipe

/-- All that was written and not yet read. -/
def pending (pipe : Pipe) : Bytes := pipe.ready ++ pipe.fresh.reverse.flatten

/-- The pipe with octets added at its end. -/
def add (pipe : Pipe) (bytes : Bytes) : Pipe :=
  { pipe with fresh := bytes :: pipe.fresh, written := pipe.written + bytes.length }

/-- The pipe with only the given octets left to read. -/
def keep (pipe : Pipe) (bytes : Bytes) : Pipe :=
  { pipe with ready := bytes, fresh := [] }

end Pipe

/-- The files and the pipes at a time. -/
structure Moment where
  time : Nat
  files : Files
  pipes : List (Nat × Pipe)

/-- A change of the tree that a process in the background makes at a time. -/
structure Change where
  time : Nat
  process : Nat
  before : Files
  after : Files

/-- What a running program can reach. -/
structure Host where
  files : Files
  /-- The working directory. -/
  base : Place
  openings : List (Nat × Opening) := []
  pipes : List (Nat × Pipe) := []
  /-- The number of the next opening or pipe. -/
  next : Nat := 0
  /-- The openings to which the descriptors of the program lead. -/
  descriptors : List (Nat × Nat) := []
  /-- The bits that new files do not get. -/
  mask : Nat := 0o022
  /-- The variables that the program sees. -/
  environment : List (List Char × List Char) := []
  /-- The name under which the program was started. -/
  program : List Char := []
  /-- The first fault of a write to the output. -/
  fault? : Option Fault := none
  /-- What was written and not yet passed on. -/
  output : Bytes := []
  /-- The time since the start in microseconds. -/
  elapsed : Nat := 0
  /-- What was there up to a time, the last first. -/
  trail : List Moment := []
  /-- What processes in the background do to the tree later, the first first. -/
  later : List Change := []

/-- Why a program does not come to its end. -/
inductive Halt where
  /-- It goes on without end. -/
  | endless
  /-- It is held up by the limit of a pipe. -/
  | held (pipe : Nat)
  /-- It waits for a program that is held up by the limit of a pipe. -/
  | starved (pipe : Nat)
  /-- A signal ends it. -/
  | signaled (signal : Nat)
  deriving DecidableEq, Repr

/-- A step of a running program. -/
abbrev HostM (α : Type) := ExceptT Halt (StateM Host) α

namespace Host

/-- A path that is written in octets. -/
def pathOf (chars : List Char) : Path := ⟨Bytes.ofChars chars⟩

/-! ### Time -/

/-- The host at a later time, when nothing else happens. -/
def reach (host : Host) (time : Nat) : Host :=
  { host with
    elapsed := time
    files := { host.files with clock := host.files.clock + (time - host.elapsed : Nat) }
    trail := ⟨time, host.files, host.pipes⟩ :: host.trail }

/-- The host at a later time, with all that happens until then. -/
def advance (host : Host) (time : Nat) : Host :=
  let (due, later) := host.later.span (·.time ≤ time)
  let reached := due.foldl (fun host change =>
    let host := host.reach change.time
    { host with files := host.files.replay change.before change.after }) { host with later }
  reached.reach time

/-- Lets time pass. -/
def pass (microseconds : Nat) : HostM Unit :=
  modify fun host => host.advance (host.elapsed + microseconds)

/-- The tree as it was at a time. -/
def treeAt (host : Host) (time : Nat) : Files :=
  ((host.trail.reverse.find? fun moment => time ≤ moment.time).map (·.files)).getD host.files

/-! ### The file tree -/

/-- Changes the file tree, or says what is in the way. -/
def attempt (step : Files → Place → Except Fault Files) : HostM (Option Fault) := do
  let host ← get
  match step host.files host.base with
  | .ok files =>
    set { host with files }
    return none
  | .error fault => return some fault

/-- Changes the file tree, and says whether that was possible. -/
def change (step : Files → Place → Except Fault Files) : HostM Bool := do
  return (← attempt step).isNone

/-- Changes the file tree as far as that is possible, and says what is in the way of the rest. -/
def attemptSome (step : Files → Place → Files × Option Fault) : HostM (Option Fault) := do
  let host ← get
  let (files, fault?) := step host.files host.base
  set { host with files }
  return fault?

/-- Looks at the file tree. -/
def ask {α : Type} (question : Files → Place → α) : HostM α := do
  let host ← get
  return question host.files host.base

/-- The attributes of what is made with a mode. -/
def fresh (host : Host) (mode : Nat) : Attributes :=
  { mode := mode - Nat.land mode host.mask, modified := host.files.clock }

/-! ### Openings -/

/-- The opening of a descriptor. -/
def opening? (host : Host) (descriptor : Nat) : Option (Nat × Opening) := do
  let number ← host.descriptors.lookup descriptor
  return (number, ← host.openings.lookup number)

/-- Sets an opening. -/
def setOpening (host : Host) (number : Nat) (opening : Opening) : Host :=
  { host with
    openings := (number, opening) :: host.openings.filter fun entry => entry.1 != number }

/-- Sets a pipe. -/
def setPipe (host : Host) (number : Nat) (pipe : Pipe) : Host :=
  { host with pipes := (number, pipe) :: host.pipes.filter fun entry => entry.1 != number }

/-- Closes a descriptor. -/
def close (host : Host) (descriptor : Nat) : Host :=
  { host with descriptors := host.descriptors.filter fun entry => entry.1 != descriptor }

/-- Leads a descriptor to an opening. -/
def connect (host : Host) (descriptor number : Nat) : Host :=
  { host with
    descriptors := (descriptor, number) :: host.descriptors.filter fun entry =>
      entry.1 != descriptor }

/-- Leads a descriptor to a new opening. -/
def place (host : Host) (descriptor : Nat) (opening : Opening) : Host :=
  let number := host.next
  { host.connect descriptor number with
    openings := (number, opening) :: host.openings
    next := number + 1 }

/-- A new pipe. -/
def addPipe (host : Host) (pipe : Pipe) : Nat × Host :=
  (host.next, { host with pipes := (host.next, pipe) :: host.pipes, next := host.next + 1 })

/-- Drops the openings from a number on to which no descriptor leads. -/
def dropOpenings (host : Host) (start : Nat) : Host :=
  { host with
    openings := host.openings.filter fun entry =>
      entry.1 < start || host.descriptors.any fun descriptor => descriptor.2 == entry.1 }

/-- How a file is opened. -/
structure Access where
  reads : Bool := false
  writes : Bool := false
  /-- Whether a missing file is made. -/
  creates : Bool := false
  /-- Whether the file has to be missing. -/
  exclusive : Bool := false
  /-- Whether the file is emptied. -/
  empties : Bool := false
  appends : Bool := false

/-- To read a file. -/
def Access.input : Access := { reads := true }

/-- To write a file from the start. -/
def Access.output : Access := { writes := true, creates := true, empties := true }

/-- To add to a file at its end. -/
def Access.addition : Access := { writes := true, creates := true, appends := true }

/-- The opening of an entry, and the host in which it is open. -/
def openNode (host : Host) (access : Access) (number? : Option Nat) (node : Node) :
    Except Fault (Opening × Host) :=
  let opening (stream : Stream) : Opening :=
    { stream, reads := access.reads, writes := access.writes, appends := access.appends }
  match node, number? with
  | .directory, _ => if access.writes then .error .isDirectory else .ok (opening .directory, host)
  | .device .terminal, _ => .error .noDevice
  | .device (.stream descriptor), _ =>
    match host.opening? descriptor with
    | none => .error .notFound
    | some (_, other) =>
      let offset := match other.stream with
        | .file _ => 0
        | _ => other.offset
      .ok ({ opening other.stream with offset }, host)
  | .device device, _ => .ok (opening (.device device), host)
  | .program _, _ => if access.writes then .error .textBusy else .ok (opening .directory, host)
  | _, some number =>
    let host := if access.empties then { host with files := host.files.setBytes number [] } else host
    .ok (opening (.file number), host)
  | _, none => .error .notFound

/-- Opens a path. -/
def openPath (host : Host) (access : Access) (path : Path) : Except Fault (Opening × Host) := do
  let files := host.files
  if access.creates ∧ (← files.entryAt host.base path).2 = .slash then throw .isDirectory
  match ← files.locate host.base true path with
  | .found _ node =>
    if access.exclusive then throw .taken
    match node with
    | .file number => host.openNode access (some number) node
    | node => host.openNode access none node
  | .free place slashed =>
    if !access.creates then throw .notFound
    if slashed then throw .isDirectory
    let attributes := host.fresh 0o666
    let files := files.create place { bytes := [], attributes }
    let opening : Opening :=
      { stream := .file (files.next - 1)
        reads := access.reads
        writes := access.writes
        appends := access.appends }
    return (opening, { host with files })

/-! ### Output -/

/-- Octets with others put over them from an offset on. -/
def overlay (bytes : Bytes) (offset : Nat) (piece : Bytes) : Bytes :=
  if bytes.length ≤ offset then bytes ++ List.replicate (offset - bytes.length) 0 ++ piece
  else bytes.take offset ++ piece ++ bytes.drop (offset + piece.length)

/-- Writes octets to a descriptor, or says what is in the way. -/
def writeTo (descriptor : Nat) (bytes : Bytes) : HostM (Option Fault) := do
  let host ← get
  match host.opening? descriptor with
  | none => return some .badDescriptor
  | some (number, opening) =>
    if !opening.writes then return some .badDescriptor
    match opening.stream with
    | .directory => return some .badDescriptor
    | .device .full => return if bytes = [] then none else some .noSpace
    | .device _ => return none
    | .file file =>
      let old := host.files.octets (.file file)
      let offset := if opening.appends then old.length else opening.offset
      let files := host.files.setBytes file (overlay old offset bytes)
      let opening := { opening with offset := offset + bytes.length }
      set ({ host with files }.setOpening number opening)
      return none
    | .pipe pipeNumber =>
      let pipe := (host.pipes.lookup pipeNumber).getD {}
      match pipe.limit with
      | none => do
        set (host.setPipe pipeNumber (pipe.add bytes))
        return none
      | some limit => do
        let room := limit - pipe.written
        if bytes.length ≤ room then
          set (host.setPipe pipeNumber (pipe.add bytes))
          return none
        else
          set (host.setPipe pipeNumber { pipe.add (bytes.take room) with held? := some pipeNumber })
          throw (.held pipeNumber)

/-- Writes to the output. A fault is kept until the program ends. -/
def say (bytes : Bytes) : HostM Unit := do
  if bytes ≠ [] then
    if let some fault ← writeTo 1 bytes then
      modify fun host => { host with fault? := host.fault?.or (some fault) }

/-- Writes a line to the output. -/
def sayLine (chars : List Char) : HostM Unit :=
  say (Bytes.ofChars (chars ++ ['\n']))

/-- Writes to the output without end. -/
def sayForever (bytes : Bytes) : HostM Unit := do
  let host ← get
  match host.opening? 1 with
  | some (_, { stream := .pipe number, .. }) =>
    match (host.pipes.lookup number).bind (·.limit) with
    | some limit =>
      let count := limit / max bytes.length 1 + 2
      say (List.replicate count bytes).flatten
    | none => pure ()
  | some (_, { stream := .device .full, .. }) => say bytes
  | none => say bytes
  | _ => pure ()
  if (← get).fault?.isNone then throw .endless

/-- Writes a line about what went wrong. -/
def complainLine (chars : List Char) : HostM Unit := do
  discard (writeTo 2 (Bytes.ofChars (chars ++ ['\n'])))

/-- Writes a line about what went wrong, with the name of the program in front. -/
def complain (text : List Char) : HostM Unit := do
  complainLine ((← get).program ++ ": ".toList ++ text)

/-! ### Input -/

/-- What a read yields. -/
inductive Portion where
  | octets (bytes : Bytes)
  /-- NULs without end. -/
  | endless
  deriving DecidableEq, Repr

/-- What can be read from a descriptor, at most so many octets, without waiting. The second part is
the pipe whose writer is held up, when there may be more. -/
def available (descriptor : Nat) (limit : Option Nat) :
    HostM (Except Fault (Portion × Option Nat)) := do
  let host ← get
  let cut (bytes : Bytes) : Bytes := match limit with
    | none => bytes
    | some limit => bytes.take limit
  match host.opening? descriptor with
  | none => return .error .badDescriptor
  | some (number, opening) =>
    if !opening.reads then return .error .badDescriptor
    match opening.stream with
    | .directory => return .error .isDirectory
    | .device .null => return .ok (.octets [], none)
    | .device _ =>
      return match limit with
        | some limit => .ok (.octets (List.replicate limit 0), none)
        | none => .ok (.endless, none)
    | .file file =>
      let bytes := cut ((host.files.octets (.file file)).drop opening.offset)
      set (host.setOpening number { opening with offset := opening.offset + bytes.length })
      return .ok (.octets bytes, none)
    | .pipe pipeNumber =>
      let pipe := (host.pipes.lookup pipeNumber).getD {}
      let pending := pipe.pending
      let bytes := cut pending
      set (host.setPipe pipeNumber (pipe.keep (pending.drop bytes.length)))
      let full := limit.any fun limit => bytes.length = limit
      return .ok (.octets bytes, if full then none else pipe.held?)

/-- Puts octets that were read back in front of what is read next. -/
def giveBack (descriptor : Nat) (bytes : Bytes) : HostM Unit := do
  let host ← get
  match host.opening? descriptor with
  | some (number, opening) =>
    match opening.stream with
    | .file _ =>
      set (host.setOpening number { opening with offset := opening.offset - bytes.length })
    | .pipe pipeNumber =>
      let pipe := (host.pipes.lookup pipeNumber).getD {}
      set (host.setPipe pipeNumber { pipe with ready := bytes ++ pipe.ready })
    | _ => return ()
  | none => return ()

/-- Whether the offset of a descriptor can be moved. -/
def isSeekable (host : Host) (descriptor : Nat) : Bool :=
  match host.opening? descriptor with
  | some (_, { stream := .file _, .. }) => true
  | _ => false

/-- Reads a descriptor up to its end, or so many octets. -/
def readFrom (descriptor : Nat) (limit : Option Nat) : HostM (Except Fault Bytes) := do
  match ← available descriptor limit with
  | .error fault => return .error fault
  | .ok (_, some pipe) => throw (.starved pipe)
  | .ok (.endless, none) => throw .endless
  | .ok (.octets bytes, none) => return .ok bytes

/-- The octets up to a mark and with it, what follows them, and whether there is one. -/
def upTo (mark : UInt8) (bytes : Bytes) : Bytes × Bytes × Bool :=
  let before := bytes.takeWhile (· != mark)
  match bytes.drop before.length with
  | [] => (before, [], false)
  | _ :: rest => (before ++ [mark], rest, true)

/-- Reads a descriptor up to a mark and with it, or up to its end. -/
def readUpTo (descriptor : Nat) (mark : UInt8) : HostM (Except Fault (Bytes × Bool)) := do
  let host ← get
  match host.opening? descriptor with
  | some (_, { stream := .pipe number, reads := true, .. }) =>
    let pipe := (host.pipes.lookup number).getD {}
    let pending := if pipe.fresh.isEmpty then pipe.ready else pipe.pending
    let (bytes, rest, ended) := upTo mark pending
    match ended, pipe.held? with
    | false, some root => throw (.starved root)
    | _, _ => do
      set (host.setPipe number (pipe.keep rest))
      return .ok (bytes, ended)
  | some (number, opening) =>
    match opening.stream, opening.reads with
    | .file file, true => do
      let pending := (host.files.octets (.file file)).drop opening.offset
      let (bytes, _, ended) := upTo mark pending
      set (host.setOpening number { opening with offset := opening.offset + bytes.length })
      return .ok (bytes, ended)
    | _, _ => return (← readFrom descriptor none).map (·, false)
  | none => return .error .badDescriptor

/-- Does a step with a descriptor that no other one has. -/
def withDescriptor {α : Type} (opening : Opening) (step : Nat → HostM α) : HostM α := do
  let before ← get
  let descriptor := 100 + before.next
  modify fun host => host.place descriptor opening
  let result ← step descriptor
  modify fun host => (host.close descriptor).dropOpenings before.next
  return result

/-- Does a step with the descriptor of an operand; a dash is the input. -/
def onOperand {α : Type} (operand : List Char) (step : Nat → HostM α) : HostM (Except Fault α) := do
  if operand = ['-'] then return .ok (← step 0)
  else
    let host ← get
    match host.openPath .input (pathOf operand) with
    | .error fault => return .error fault
    | .ok (opening, host) => do
      set host
      return .ok (← withDescriptor opening step)

/-- Reads an operand up to its end, or so many octets. -/
def contentsOf (operand : List Char) (limit : Option Nat := none) :
    HostM (Except Fault Bytes) := do
  return (← onOperand operand fun descriptor => readFrom descriptor limit).bind id

/-! ### Many items -/

/-- The status of a program that did or did not do all it should. -/
def statusOf (done : Bool) : Nat := if done then 0 else 1

/-- Does a step for every item, and says whether all were done. -/
def forAll {α : Type} (items : List α) (step : α → HostM Bool) : HostM Bool :=
  items.foldlM (fun done item => do return (← step item) && done) true

/-- The outcome of a step as a value. -/
def catching {α : Type} (step : HostM α) : HostM (Except Halt α) :=
  ExceptT.lift step.run

/-- Goes on with an outcome. -/
def resume {α : Type} (outcome : Except Halt α) : HostM α :=
  ExceptT.mk (pure outcome)

end Host

end KernelCache
