import KernelCache.Layout
import KernelCache.System.Entries

/-
**Looking after the files of a cache.**

* `Layout.status` says how large the archive and the library are.
* `Layout.clean` removes both.

A file that is not there counts as such and is no fault.
-/

namespace KernelCache

/-- The sizes of the files of a cache. -/
structure CacheStatus where
  archive : Option Nat
  library : Option Nat
  deriving DecidableEq, Repr

namespace Layout

/-- The size of a file, if it is there. -/
def sizeOf? (files : Files) (base : Place) (path : Path) : Except Fault (Option Nat) :=
  match files.size base path with
  | .ok size => .ok (some size)
  | .error fault => if fault = .notFound then .ok none else .error fault

/-- The sizes of the archive and the library. -/
def status (layout : Layout) (files : Files) (base : Place) : Except Fault CacheStatus := do
  let archive ← sizeOf? files base layout.archive
  let library ← sizeOf? files base layout.library
  return { archive, library }

/-- Removes files that are there, up to the first that cannot be removed, and counts them. -/
def removeAll (base : Place) (files : Files) : List Path → Except Fault Nat × Files
  | [] => (.ok 0, files)
  | path :: rest =>
    match files.remove base path with
    | .ok files =>
      let (removed, files) := removeAll base files rest
      (removed.map (· + 1), files)
    | .error fault =>
      if fault = .notFound then removeAll base files rest else (.error fault, files)

/-- Removes the archive and the library. -/
def clean (layout : Layout) (files : Files) (base : Place) : Except Fault Nat × Files :=
  removeAll base files [layout.archive, layout.library]

end Layout

end KernelCache
