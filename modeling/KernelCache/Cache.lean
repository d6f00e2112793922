import KernelCache.Action
import KernelCache.Layout

/-
**The images and symbols of one run.**

A cache keeps every image it has opened, and remembers under which hash a symbol was returned. The
library itself is opened at most once, since a second opening would only show the first mapping.

* `Cache.load` opens an image and keeps it.
* `Cache.probe` opens the library, and treats one that cannot be loaded as absent.
* `Cache.resolve?` searches the kept images, the newest first.
-/

namespace KernelCache

/-- A function that was found in an image. -/
structure KernelSymbol where
  entry : Entry
  /-- The serial number of the image. -/
  image : Nat
  deriving DecidableEq, Repr

namespace KernelSymbol

/-- Whether two symbols come from one opening of an image. -/
def sameImage (first second : KernelSymbol) : Bool :=
  first.image == second.image

end KernelSymbol

namespace Image

/-- A symbol's name without its terminator, which is one NUL at the end. -/
def plainName (symbol : String) : String :=
  if symbol.toList.getLast? = some '\x00' then String.ofList symbol.toList.dropLast else symbol

/-- The function that an image exports under a name. -/
def find? (image : Image) (symbol : String) : Option KernelSymbol :=
  (image.exports.lookup (plainName symbol)).map fun entry => { entry, image := image.serial }

end Image

/-- The images and symbols of one run. -/
structure Cache where
  layout : Layout
  /-- Whether the library has been looked at. -/
  probed : Bool := false
  /-- The opened images, the newest first. -/
  images : List Image := []
  /-- The returned symbols by hash, the newest first. -/
  memo : List (UInt64 × KernelSymbol) := []
  deriving DecidableEq, Repr

/-- An action on a cache, which may fail. -/
abbrev CacheM (α : Type) := ExceptT Failure (StateT Cache Action) α

namespace Cache

/-- The symbol that was returned for a hash. -/
def remembered? (cache : Cache) (hash : UInt64) : Option KernelSymbol :=
  cache.memo.lookup hash

/-- Remembers a symbol under a hash. -/
def remember (cache : Cache) (hash : UInt64) (symbol : KernelSymbol) : Cache :=
  { cache with memo := (hash, symbol) :: cache.memo }

/-- The function under a name in the newest image that exports it. -/
def resolve? (cache : Cache) (symbol : String) : Option KernelSymbol :=
  cache.images.findSome? fun image => image.find? symbol

/-- Keeps an image. -/
def retain (cache : Cache) (image : Image) : Cache :=
  { cache with images := image :: cache.images }

/-- Opens an image and keeps it. -/
def load (path : Path) : CacheM Image := do
  match ← Action.openImage path with
  | .ok image =>
    modify fun cache => cache.retain image
    return image
  | .error (place, fault) => throw (.load place fault)

/-- Opens the library, when it exists and can be loaded. -/
def probe : CacheM Bool := do
  modify fun cache => { cache with probed := true }
  let library := (← get).layout.library
  if ← Action.present library then
    tryCatch (do discard (load library); return true) fun _ => return false
  else return false

end Cache

end KernelCache
