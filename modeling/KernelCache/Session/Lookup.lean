import KernelCache.Command.Basic
import KernelCache.Session.Basic

/-
**Looking a kernel up.**

All members look up the same kernels in the same order. What is remembered is returned at once.
Otherwise the members look at the library, once in a run, and restore it from the archive when one
of them cannot load it; then they search their images; and when one of them misses the symbol, the
root builds the kernel and all load the fresh image.

* `Session.relink` and `Session.build` are the root's part: first every command is written and
  checked, then the commands run in order until one fails, and the files in between are removed.
* `Session.lookup` is the whole of it.
-/

namespace KernelCache

namespace Config

/-- The commands that restore the library from the archive. -/
def relinkSteps (config : Config) : Except Failure (List (Step × Bytes)) := do
  let layout := config.layout
  let link ← Command.linkArchive config.toolchain layout.archive layout.relinked
  let install ← Command.install config.toolchain layout.relinked layout.library
  return [(.linkArchive, link), (.install, install)]

/-- The source file of a kernel. -/
def sourceFile (config : Config) (kernel : Kernel) : Path :=
  config.layout.source kernel config.toolchain.sourceExtension

/-- The commands that build a kernel. -/
def buildSteps (config : Config) (kernel : Kernel) : Except Failure (List (Step × Bytes)) := do
  let layout := config.layout
  let object := layout.object kernel
  let image := layout.image kernel
  let compile ← Command.compile config.toolchain config.verbose (config.sourceFile kernel) object
  let archive ← Command.archive config.toolchain layout.archive object
  let link ← Command.linkImage config.toolchain layout.archive image
  let install ← Command.install config.toolchain image layout.library
  return [(.compile, compile), (.archive, archive), (.linkImage, link), (.install, install)]

end Config

namespace Session

/-- Checks that every command fits the channel. -/
def checkAll (steps : List (Step × Bytes)) : SessionM Unit :=
  steps.forM fun step => onCoordinator (Coordinator.check step.2)

/-- Runs commands until one fails. -/
def callAll (steps : List (Step × Bytes)) : SessionM Unit :=
  steps.forM fun step => onCoordinator (Coordinator.call step.1 step.2)

/-- Links the archive into a temporary image and installs it, if there is an archive. -/
def relink : SessionM Bool := do
  let config := (← get).config
  if ← Action.present config.layout.archive then
    let steps ← resolved config.relinkSteps
    checkAll steps
    let outcome ← observing (callAll steps)
    if failed outcome then Action.remove config.layout.relinked
    resolved outcome
    return true
  else return false

/-- Compiles, archives, links and installs a kernel. -/
def build (kernel : Kernel) : SessionM Unit := do
  let config := (← get).config
  let steps ← resolved (config.buildSteps kernel)
  checkAll steps
  match ← Action.writeSource (config.sourceFile kernel) (Bytes.ofString kernel.source) with
  | .ok () =>
    let outcome ← observing (callAll steps)
    Action.remove (config.sourceFile kernel)
    Action.remove (config.layout.object kernel)
    if failed outcome then Action.remove (config.layout.image kernel)
    resolved outcome
  | .error fault => throw (.io .writeSource fault)

/-- Opens a fresh image on every member; the root removes its file. -/
def loadFresh {α : Type} (path : Path) (use : Image → Except Failure α) : SessionM α := do
  let loaded ← observing do
    let image ← onCache (Cache.load path)
    resolved (use image)
  let agreed ← observing (agree loaded)
  if (← get).member.isRoot then Action.remove path
  resolved agreed

/-- Opens the library on every member, and restores it when one of them could not. -/
def probeLibrary : SessionM Unit := do
  let loaded ← onCache Cache.probe
  if ← Action.combine (!loaded) then
    let outcome ← observing (if (← get).member.isRoot then relink else return false)
    let relinked ← agree outcome
    if ← Action.combine relinked then
      loadFresh (← get).cache.layout.relinked fun _ => .ok ()

/-- Builds a kernel and loads it on every member. -/
def buildAndLoad (kernel : Kernel) : SessionM KernelSymbol := do
  let built ← observing (if (← get).member.isRoot then build kernel else return ())
  agree built
  let image := (← get).cache.layout.image kernel
  loadFresh image fun image =>
    match image.find? kernel.symbol with
    | some symbol => .ok symbol
    | none => .error (.symbolMissing kernel.symbol)

/-- Searches the images, and builds the kernel when a member misses its symbol. -/
def find (kernel : Kernel) : SessionM KernelSymbol := do
  let found := (← get).cache.resolve? kernel.symbol
  let anyoneMissed ← Action.combine found.isNone
  let symbol ← match found, anyoneMissed with
    | some symbol, false => pure symbol
    | _, _ => buildAndLoad kernel
  modify fun session => { session with cache := session.cache.remember kernel.hash symbol }
  return symbol

/-- Looks a kernel up. -/
def lookup (kernel : Kernel) : SessionM KernelSymbol := do
  match (← get).cache.remembered? kernel.hash with
  | some symbol => return symbol
  | none =>
    if !(← get).cache.probed then probeLibrary
    find kernel

end Session

end KernelCache
