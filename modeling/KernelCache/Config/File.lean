import KernelCache.Config.Schema
import KernelCache.System.Files

/-
**Settings in a file.**

A file that cannot be read is reported with its path; the rest is as for a document.
-/

namespace KernelCache.Config

/-- The text of a file. -/
def readText (files : Files) (base : Place) (path : Path) : Except Fault String := do
  match Utf8.decode? (← files.read base path) with
  | some chars => return String.ofList chars
  | none => throw .notText

/-- The settings in a file. The text of the file comes with them, and with a fault in it. -/
def ofFile (files : Files) (base : Place) (path : Path) : Except (String × DocumentFault) Config :=
  match readText files base path with
  | .error fault =>
    .error ("", .invalid (.config s!"{path.display}: {fault.message}"))
  | .ok source =>
    match ofToml source with
    | .ok config => .ok config
    | .error fault => .error (source, fault)

end KernelCache.Config
