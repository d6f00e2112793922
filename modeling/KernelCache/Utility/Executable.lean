import KernelCache.Binary.Module
import KernelCache.System.Host

/-
**Images as programs.**

`Executable.run` runs the main routine of an image.
-/

namespace KernelCache.Executable

open Host

/-- Services that read the input. -/
def readers : List String :=
  ["read", "getchar", "__next_octet", "scanf", "vscanf", "__isoc99_scanf"]

/-- What is there to be read by a program that reads, and whether more may follow. -/
def input (program : Code.Program) : HostM (Bytes × Option Nat) := do
  if readers.any program.addresses.contains then
    match ← available 0 none with
    | .ok (.octets bytes, held?) => return (bytes, held?)
    | .ok (.endless, _) => throw .endless
    | .error _ => return ([], none)
  else return ([], none)

/-- The status of a program that needs what is not there. -/
def incomplete : Nat := 127

/-- Runs an image by a name, with arguments. -/
def run (image : ImageText) (name : List Char) (arguments : List (List Char)) : HostM Nat := do
  match image.program? with
  | none => return incomplete
  | some program => do
    let settings := (← get).environment.map fun (key, value) =>
      Bytes.ofChars (key ++ '=' :: value)
    let (bytes, held?) ← input program
    let (ending, state) :=
      program.start ((name :: arguments).map Bytes.ofChars) settings bytes
    let inOrder : Bool := match ending with
      | .left _ inOrder => inOrder
      | _ => false
    for (descriptor, octets) in Standard.Stream.arrived inOrder state.written do
      if 0 < octets.size then discard (writeTo descriptor octets.toList)
    if !state.input.isEmpty then giveBack 0 state.input
    else if let some pipe := held? then throw (.starved pipe)
    match ending with
    | .left code _ => return code
    | .finished _ => return 0
    | .fault signal => throw (.signaled signal)
    | .endless => throw .endless

end KernelCache.Executable
