import KernelCache.Channel.Basic
import KernelCache.Path

/-
**The worker.**

A worker serves the requests of one requester, one after the other. It runs commands in a shell and
leaves with the first one that fails; what it acknowledges is done.

* `Worker.react` is what a worker does with one request.
* `Worker.serve` is what it does with many, up to the one with which it leaves.

The log and the shell are given as steps of any monad.
-/

namespace KernelCache

/-- How a shell ended. -/
inductive ShellEnd where
  | left (code : Nat)
  | signaled
  /-- There was no shell. -/
  | missing
  deriving DecidableEq, Repr

/-- What a worker does after a request. -/
inductive Reaction where
  /-- It acknowledges and stays. -/
  | acknowledge
  /-- It leaves with a code, and may acknowledge before. -/
  | leave (acknowledged : Bool) (code : Nat)
  deriving DecidableEq, Repr

namespace Reaction

/-- Whether the request is acknowledged. -/
def acknowledges : Reaction → Bool
  | acknowledge => true
  | leave acknowledged _ => acknowledged

/-- The code with which the worker leaves. -/
def code? : Reaction → Option Nat
  | acknowledge => none
  | leave _ code => some code

end Reaction

namespace Worker

/-- The worker leaves with this code when there is no shell. -/
def spawnFailed : Nat := 127

/-- The worker leaves with this code when a signal ended the shell. -/
def signaled : Nat := 125

/-- The worker leaves with this code when its requester is gone. -/
def orphaned : Nat := 124

/-- The worker leaves with this code when the log cannot be written. -/
def logFailed : Nat := 123

/-- The worker leaves with this code after a fault of its own. -/
def panicked : Nat := 101

/-- The code that stands for the end of a shell; zero stands for success. -/
def exitCode : ShellEnd → Nat
  | .left code => code
  | .signaled => signaled
  | .missing => spawnFailed

/-- What a worker needs: a log that takes a line and says whether it could, and a shell. -/
structure Surroundings (m : Type → Type) where
  append : Path → Bytes → m Bool
  run : Bytes → m ShellEnd

/-- The line of the log for a command. -/
def logLine (command : Bytes) : Bytes := command ++ [0x0A]

/-- Runs a command after it was logged. -/
def call {m : Type → Type} [Monad m] (surroundings : Surroundings m) (commandLog : Option Path)
    (command : Bytes) : m Reaction := do
  let logged ← match commandLog with
    | none => pure true
    | some path => surroundings.append path (logLine command)
  if logged then
    let code := exitCode (← surroundings.run command)
    return if code = 0 then .acknowledge else .leave false code
  else return .leave false logFailed

/-- Serves one request. Only the worker of rank zero stays. -/
def react {m : Type → Type} [Monad m] (surroundings : Surroundings m) (commandLog : Option Path) :
    Request → m Reaction
  | .call command => call surroundings commandLog command
  | .exit => pure (.leave false 0)
  | .identity rank => pure (if rank = 0 then .acknowledge else .leave true 0)

/-- Serves requests up to the one with which the worker leaves, and yields the reactions. -/
def serve {m : Type → Type} [Monad m] (surroundings : Surroundings m) (commandLog : Option Path) :
    List Request → m (List Reaction)
  | [] => pure []
  | request :: rest => do
    let reaction ← react surroundings commandLog request
    match reaction with
    | .acknowledge => return reaction :: (← serve surroundings commandLog rest)
    | .leave _ _ => return [reaction]

/-- The status word and the buffer after a reaction. -/
def settle (channel : Channel) (reaction : Reaction) : Channel :=
  if reaction.acknowledges then channel.acknowledge else channel

end Worker

end KernelCache
