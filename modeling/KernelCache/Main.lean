import KernelCache.CommandLine.Run
import KernelCache.System.Base

/-
**The program.**

`main` obeys its command line on a machine that holds the files which the command line and the
settings name. What the run changes in the tree of that machine is then done on disk, too.
-/

namespace KernelCache.Main

/-- The variables that replace settings. -/
def settingVariables : List String := [
  Config.compilerVariable, Config.archiverVariable, Config.flagsVariable, Config.backendVariable,
  Config.cacheDirVariable, Config.pollVariable, Config.commandLogVariable, Config.verboseVariable]

/-- The variables that are set, with their values. -/
def settingValues : IO (List (String × String)) :=
  settingVariables.filterMapM fun name => do return (← IO.getEnv name).map (name, ·)

/-- The place of the working directory. -/
def workingPlace : IO Place := do
  let directory := (← IO.currentDir).toString
  return (Path.pieces (Bytes.ofString directory)).filter (· ≠ [])

/-- A tree with the directories of a path. -/
def withDirectories (files : Files) (base : Place) (path : Path) : Files :=
  (files.makeDirectories base path).1

/-- Puts what some paths lead to on disk into a tree. -/
def fetch (files : Files) (base : Place) (paths : List Path) : IO Files :=
  paths.foldlM (fun files path => do
    if ← ((← IO.currentDir) / path.display).isDir then return withDirectories files base path
    match ← (IO.FS.readBinFile path.display).toBaseIO with
    | .ok octets =>
      let files := withDirectories files base ⟨Compiler.directoryOf path.bytes⟩
      return (files.write base path octets.toList).toOption.getD files
    | .error _ => return files) files

/-- Does on disk what made one tree of another. -/
def store (before after : Files) : IO Unit := do
  for (place, node) in after.entries do
    let path := (Files.absolute place).display
    let earlier := before.node? place
    match node with
    | .directory => if earlier.isNone then IO.FS.createDirAll path
    | .file _ =>
      if earlier.map before.octets ≠ some (after.octets node) then
        IO.FS.writeBinFile path ⟨(after.octets node).toArray⟩
    | _ => pure ()
  for (place, _) in before.entries do
    if (after.node? place).isNone then IO.FS.removeFile (Files.absolute place).display

/-- The paths that a command line names by itself. -/
def namedPaths : Asked → List Path
  | .invocation invocation =>
    let source := match invocation.order with
      | .build request | .run request => [request.source]
      | .status | .clean => []
    invocation.config.toList ++ source
  | _ => []

/-- The paths that the settings of a command line name. -/
def cachePaths (environment : Environment) (machine : Machine) : Asked → List Path
  | .invocation invocation =>
    match ((CommandLine.settings environment invocation).run.run machine).1 with
    | .ok config =>
      let layout := config.layout
      [layout.dir, layout.archive, layout.library] ++ config.commandLog.toList
    | .error _ => []
  | _ => []

/-- Where an entry is said to be. -/
def address (entry : Entry) : String :=
  "0x" ++ Numeral.hexShort (twoTo 46 + entry.mapping * 4096)

/-- Obeys the command line of the program. -/
def run (arguments : List String) : IO UInt32 := do
  let base ← workingPlace
  let found ← settingValues
  let environment : Environment := fun name => found.lookup name
  let words := arguments.map Bytes.ofString
  let asked := Arguments.parse words
  let files ← fetch (Files.system base) base (namedPaths asked)
  let seen := found.map fun (name, value) => (name.toList, Bytes.toChars (Bytes.ofString value))
  let machine : Machine := { files, base, environment := seen ++ Machine.baseEnvironment }
  let files ← fetch files base (cachePaths environment machine asked)
  let (ended, after) := (CommandLine.perform address environment words).run { machine with files }
  store files after.files
  (← IO.getStdout).write ⟨after.output.toArray⟩
  ended.complaint.forM fun line => IO.eprintln line
  return ended.code.toUInt32

end KernelCache.Main

/-- Obeys the command line. -/
def main (arguments : List String) : IO UInt32 :=
  KernelCache.Main.run arguments
