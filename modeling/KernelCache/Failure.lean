import KernelCache.Channel.Basic
import KernelCache.Path
import KernelCache.Poll

/-
**What can go wrong in a run.**

A `Failure` is the cause that ends a run. `Failure.message` is its text, `Failure.kind` its class,
and `Failure.cause?` the text of the fault behind it where there is one.
-/

namespace KernelCache

/-- A step in the life of a kernel's files. -/
inductive Step where
  /-- The library is linked from the archive alone. -/
  | linkArchive
  /-- The source file is written. -/
  | writeSource
  /-- The source becomes an object. -/
  | compile
  /-- The object enters the archive. -/
  | archive
  /-- The archive is linked into a fresh image. -/
  | linkImage
  /-- The image replaces the library. -/
  | install
  deriving DecidableEq, Repr

namespace Step

/-- The name of a step in messages. -/
def label : Step → String
  | linkArchive => "archive link"
  | writeSource => "source write"
  | compile => "compile"
  | archive => "archive update"
  | linkImage => "image link"
  | install => "install"

end Step

/-- Why an image could not be opened. -/
inductive LoadFault where
  /-- The path leads nowhere. -/
  | path (fault : Fault)
  /-- The file is no image. -/
  | image (reason : String)
  deriving DecidableEq, Repr

namespace LoadFault

/-- The text of a load fault. -/
def message : LoadFault → String
  | path fault => fault.message
  | image reason => reason

end LoadFault

/-- The exit code of a process; a process that a signal ended has none. -/
abbrev ExitCode := Option Int

/-- An exit code as messages show it. -/
def ExitCode.text : ExitCode → String
  | some code => s!"Some({code})"
  | none => "None"

/-- The cause that ends a run. -/
inductive Failure where
  /-- The channel could not be had or used. -/
  | channel (fault : ChannelFault)
  /-- The worker could not be started. -/
  | spawn (fault : Fault)
  /-- The end of the worker could not be observed. -/
  | wait (fault : Fault)
  /-- The worker did not acknowledge in time. -/
  | poll (exhausted : Exhausted)
  /-- The worker left unexpectedly. -/
  | workerExit (code : ExitCode) (context : String)
  /-- A command failed, and the worker left with it. -/
  | build (step : Step) (command : Bytes) (code : ExitCode)
  /-- A file could not be handled. -/
  | io (step : Step) (fault : Fault)
  /-- The worker left earlier in the run. -/
  | workerGone
  /-- An image could not be opened. -/
  | load (path : Path) (fault : LoadFault)
  /-- The fresh image does not export the symbol. -/
  | symbolMissing (symbol : String)
  /-- Another member of the group failed. -/
  | sync (rank : UInt32)
  /-- A member that owns no worker was asked to build. -/
  | notCoordinator (rank : UInt32)
  /-- The settings cannot be used. -/
  | config (reason : String)
  deriving DecidableEq, Repr

namespace Failure

/-- The class of a failure. -/
inductive Kind where
  | resource
  | protocol
  | build
  | consistency
  | config
  deriving DecidableEq, Repr

/-- The name of a class. -/
def Kind.label : Kind → String
  | resource => "Resource"
  | protocol => "Protocol"
  | build => "Build"
  | consistency => "Consistency"
  | config => "Config"

/-- The class a failure belongs to. -/
def kind : Failure → Kind
  | channel fault => if fault.isResource then .resource else .protocol
  | spawn _ | wait _ => .resource
  | poll _ | workerExit _ _ | notCoordinator _ => .protocol
  | build _ _ _ | io _ _ | workerGone => .build
  | load _ _ | symbolMissing _ | sync _ => .consistency
  | config _ => .config

/-- The text of a failure. -/
def message : Failure → String
  | channel fault => s!"shared channel: {fault.message}"
  | spawn fault => s!"failed to spawn compiler worker: {fault.message}"
  | wait fault => s!"failed to reap compiler worker: {fault.message}"
  | poll exhausted => s!"worker did not acknowledge: {exhausted.message}"
  | workerExit code context => s!"compiler worker exited with {code.text} during {context}"
  | build step command code =>
    s!"{step.label} failed: `{Utf8.lossy command}` (worker exit {code.text})"
  | io step fault => s!"{step.label}: {fault.message}"
  | workerGone => "compiler worker is gone; no further kernels can be built in this run"
  | load path fault => s!"cannot load {path.display}: {fault.message}"
  | symbolMissing symbol => s!"symbol `{symbol}` missing after rebuild"
  | sync rank => s!"rank {rank}: synchronization error, a cooperating process failed"
  | notCoordinator rank => s!"rank {rank} is not the coordinator"
  | config reason => s!"invalid configuration: {reason}"

/-- The text of the fault behind a failure. -/
def cause? : Failure → Option String
  | channel fault => some fault.message
  | poll exhausted => some exhausted.message
  | io _ fault => some fault.message
  | _ => none

end Failure

end KernelCache
