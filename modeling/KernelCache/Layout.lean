import KernelCache.Config.Basic
import KernelCache.Kernel

/-
**Where the files of a cache are.**

The archive and the library keep every kernel; source, object and image belong to one kernel and
live only during its build; the relinked image lives only while the library is restored. All are
named from the cache directory.
-/

namespace KernelCache

/-- The places of one cache. -/
structure Layout where
  dir : Path
  archive : Path
  library : Path
  deriving DecidableEq, Repr

namespace Layout

/-- The layout with the given names under a directory. -/
def ofNames (dir : Path) (archiveName libraryName : String) : Layout where
  dir
  archive := dir.join (Path.ofString archiveName)
  library := dir.join (Path.ofString libraryName)

/-- A file of a kernel. -/
def kernelFile (layout : Layout) (kernel : Kernel) (extension : String) : Path :=
  layout.dir.join (Path.ofString (kernel.stem ++ "." ++ extension))

/-- The source of a kernel. -/
def source (layout : Layout) (kernel : Kernel) (extension : String) : Path :=
  layout.kernelFile kernel extension

/-- The object of a kernel. -/
def object (layout : Layout) (kernel : Kernel) : Path :=
  layout.kernelFile kernel "co"

/-- The fresh image of a kernel. -/
def image (layout : Layout) (kernel : Kernel) : Path :=
  layout.kernelFile kernel "so"

/-- The image linked from the archive alone. -/
def relinked (layout : Layout) : Path :=
  layout.dir.join ⟨(layout.library.fileName?.getD []) ++ Bytes.ofString ".relink"⟩

/-- Whether two layouts name the same places. -/
def same (first second : Layout) : Bool :=
  first.dir.same second.dir && first.archive.same second.archive
    && first.library.same second.library

end Layout

namespace Config

/-- The places these settings name. -/
def layout (config : Config) : Layout :=
  Layout.ofNames config.cacheDir config.archiveName config.libraryName

end Config

end KernelCache
