import KernelCache.Utility.Mode
import KernelCache.Utility.Option

/-
**Programs that copy, move and link files.**

`Copying.cp`, `Copying.mv`, `Copying.ln` and `Copying.install` bring what their operands name to the
last operand, or into it when that is a directory. What stands there may be kept under another name.
-/

namespace KernelCache.Copying

open Host Program

/-! ### Paths -/

/-- The last name of a path, without slashes behind it. -/
def baseName (path : List Char) : List Char :=
  let trimmed := path.reverse.dropWhile (· = '/')
  (trimmed.takeWhile (· ≠ '/')).reverse

/-- A path without its last name. -/
def directoryName (path : List Char) : List Char :=
  let trimmed := path.reverse.dropWhile (· = '/')
  let rest := trimmed.dropWhile (· ≠ '/')
  if rest = [] then (if path.head? = some '/' then ['/'] else ['.'])
  else
    let shorter := rest.dropWhile (· = '/')
    if shorter = [] then ['/'] else shorter.reverse

/-- A path under a directory. -/
def under (directory name : List Char) : List Char :=
  if directory.getLast? = some '/' then directory ++ name else directory ++ '/' :: name

/-- Whether a path leads to a directory. -/
def isDirectory (path : List Char) : HostM Bool :=
  ask fun files base => files.isDirectory base (pathOf path)

/-- The entry that a path leads to. -/
def statusOf? (path : List Char) : HostM (Except Fault (Place × Node)) :=
  ask fun files base => files.status base (pathOf path)

/-- The entry that a path names. -/
def linkStatusOf? (path : List Char) : HostM (Except Fault (Place × Node)) :=
  ask fun files base => files.linkStatus base (pathOf path)

/-- The names in a directory. -/
def namesIn (path : List Char) : HostM (List (List Char)) :=
  ask fun files base =>
    match files.status base (pathOf path) with
    | .ok (place, .directory) =>
      (files.children place).map fun entry => Bytes.toChars (entry.1.getLastD [])
    | _ => []

/-- Complains about one thing that was tried. -/
def refuse (text : String) (path : List Char) (fault : Fault) : HostM Bool := do
  complain (text.toList ++ ' ' :: inQuotes path ++ ": ".toList ++ fault.plain.toList)
  return false

/-- Whether the answer to a question is yes. -/
def isAgreed (question : List Char) : HostM Bool := do
  let text := (← get).program ++ ": ".toList ++ question ++ "? ".toList
  discard (writeTo 2 (Bytes.ofChars text))
  match ← readUpTo 0 0x0A with
  | .ok (bytes, _) => return bytes.head? == some 0x79 || bytes.head? == some 0x59
  | .error _ => return false

/-- Whether the answer to a question that has to be asked is no. -/
def isRefused (asks : Bool) (question : List Char) : HostM Bool := do
  if asks then return !(← isAgreed question) else return false

/-! ### Backups -/

/-- How what stands at a target is kept. -/
inductive Backup where
  | simple
  | numbered
  /-- With a number where there is one with a number already. -/
  | existing
  deriving DecidableEq, Repr

/-- The kind of backup of a name, or none at all. -/
def backupOf? (name : List Char) : Option (Option Backup) :=
  match String.ofList name with
  | "none" | "off" => some none
  | "simple" | "never" => some (some .simple)
  | "numbered" | "t" => some (some .numbered)
  | "existing" | "nil" => some (some .existing)
  | _ => none

/-- The highest number of a backup of a path. -/
def lastBackup (path : List Char) : HostM Nat := do
  let name := baseName path
  let names ← namesIn (directoryName path)
  let numbers := names.filterMap fun other =>
    let front := name ++ ".~".toList
    if front.isPrefixOf other ∧ other.getLast? = some '~' then
      (String.ofList (other.drop front.length).dropLast).toNat?
    else none
  return numbers.foldl max 0

/-- What a program does besides bringing files to places. -/
structure Setting where
  backup? : Option Backup := none
  suffix : List Char := ['~']
  recursive : Bool := false
  /-- Whether links are copied as links. -/
  keepsLinks : Bool := false
  noClobber : Bool := false
  asks : Bool := false
  updates : Bool := false
  verbose : Bool := false
  preserves : Bool := false
  hardLinks : Bool := false
  softLinks : Bool := false
  forces : Bool := false
  /-- Whether directories in the source's path are made at the target. -/
  parents : Bool := false

/-- The name under which a target is kept. -/
def backupName (setting : Setting) (path : List Char) (backup : Backup) : HostM (List Char) := do
  let last ← lastBackup path
  let numbered := path ++ ".~".toList ++ (toString (last + 1)).toList ++ ['~']
  match backup with
  | .simple => return path ++ setting.suffix
  | .numbered => return numbered
  | .existing => return if last = 0 then path ++ setting.suffix else numbered

/-- Keeps what stands at a target, and says under which name. -/
def keep (setting : Setting) (path : List Char) : HostM (Option (List Char)) := do
  match setting.backup?, ← linkStatusOf? path with
  | some backup, .ok (_, node) => do
    if node = .directory then return none
    let name ← backupName setting path backup
    discard (change fun files base => files.rename base (pathOf path) (pathOf name))
    return some name
  | _, _ => return none

/-- Says what was done. -/
def report (setting : Setting) (verb : String) (source target : List Char)
    (kept? : Option (List Char)) (arrow : String := " -> ") : HostM Unit := do
  if setting.verbose then
    let behind := match kept? with
      | some name => " (backup: ".toList ++ inQuotes name ++ [')']
      | none => []
    sayLine (verb.toList ++ inQuotes source ++ arrow.toList ++ inQuotes target ++ behind)

/-- The options about backups. -/
def backupSetting (options : Options) (setting : Setting) : HostM (Option Setting) := do
  let suffix := (options.value? 'S').getD ['~']
  let wanted := options.has 'b' || options.has 'S'
  match options.value? 'b' with
  | none =>
    return some { setting with backup? := if wanted then some .existing else none, suffix }
  | some name =>
    match backupOf? name with
    | some backup? => return some { setting with backup?, suffix }
    | none => do
      complain ("invalid argument ".toList ++ inQuotes name ++ " for 'backup type'".toList)
      complainLine "Valid arguments are:".toList
      complainLine "  - 'none', 'off'".toList
      complainLine "  - 'simple', 'never'".toList
      complainLine "  - 'existing', 'nil'".toList
      complainLine "  - 'numbered', 't'".toList
      hint
      return none

/-! ### Operands -/

/-- Does a step from every source to its target. -/
def towards (options : Options) (missing : String)
    (step : List Char → List Char → HostM Bool) : HostM Nat := do
  let operands := options.operands
  let into (directory : List Char) (sources : List (List Char)) : HostM Nat := do
    return statusOf (← forAll sources fun source => step source (under directory (baseName source)))
  match options.value? 't', operands.reverse with
  | _, [] => lacking 1 "missing file operand"
  | some directory, _ => do
    match ← statusOf? directory with
    | .ok (_, .directory) => into directory operands
    | found => do
      let fault := match found with
        | .error fault => fault
        | .ok _ => .notDirectory
      discard (refuse missing directory fault)
      return 1
  | none, [single] =>
    misuse 1 ("missing destination file operand after ".toList ++ inQuotes single)
  | none, target :: source :: more => do
    if options.has 'T' then
      match more.reverse with
      | [] => return statusOf (← step source target)
      | _ :: _ => surplus 1 (operands[2]?.getD [])
    else
      match ← statusOf? target with
      | .ok (_, .directory) => into target (source :: more).reverse
      | found => do
        if more.isEmpty then return statusOf (← step source target)
        else
          let fault := match found with
            | .error fault => fault
            | .ok _ => .notDirectory
          discard (refuse "target" target fault)
          return 1

/-! ### Copying -/

/-- What a node holds. -/
def octetsOf (node : Node) : HostM Bytes := do
  match node with
  | .device (.stream descriptor) =>
    match ← readFrom descriptor none with
    | .ok bytes => return bytes
    | .error _ => return []
  | .device .null => return []
  | .device _ => throw .endless
  | node => ask fun files _ => files.octets node

/-- Copies what is no directory. -/
def copyLeaf (setting : Setting) (source target : List Char) (place : Place) (node : Node) :
    HostM Bool := do
  let present ← linkStatusOf? target
  let follows ← statusOf? target
  let isThere := present.toOption.isSome
  let verb (kept? : Option (List Char)) : HostM Bool := do
    report setting "" source target kept?
    return true
  let fault (what : String) (fault : Fault) : HostM Bool := refuse what target fault
  if setting.hardLinks ∧ !node.isLink then
    if isThere ∧ (present.toOption.map (·.2)) = some node then return true
    let kept? ← keep setting target
    if setting.forces then
      discard (change fun files base => files.remove base (pathOf target))
    match ← attempt fun files base => files.shareName base (pathOf source) (pathOf target) with
    | none => verb kept?
    | some fault => do
      complain ("cannot create hard link ".toList ++ inQuotes target ++ " to ".toList
        ++ inQuotes source ++ ": ".toList ++ fault.plain.toList)
      return false
  else if setting.softLinks then
    let kept? ← keep setting target
    if setting.forces then
      discard (change fun files base => files.remove base (pathOf target))
    match ← attempt fun files base =>
        files.makeLink base (pathOf target) (Bytes.ofChars source) with
    | none => verb kept?
    | some problem => do
      complain ("cannot create symbolic link ".toList ++ inQuotes target ++ " to ".toList
        ++ inQuotes source ++ ": ".toList ++ problem.plain.toList)
      return false
  else
    match node with
    | .link text => do
      let kept? ← keep setting target
      discard (change fun files base => files.remove base (pathOf target))
      match ← attempt fun files base => files.makeLink base (pathOf target) text with
      | none => verb kept?
      | some problem => fault "cannot create symbolic link" problem
    | .program _ =>
      let kept? ← keep setting target
      discard (change fun files base => files.remove base (pathOf target))
      match ← ask fun files base => files.entryAt base (pathOf target) with
      | .ok (.free place _, .name) => do
        modify fun host => { host with files := host.files.insert place node }
        verb kept?
      | .ok _ => fault "cannot create regular file" .notDirectory
      | .error problem => fault "cannot create regular file" problem
    | node => do
      let bytes ← octetsOf node
      let kept? ← keep setting target
      let old ← ask fun files _ => files.attributesOf place node
      let host ← get
      let fresh := host.fresh (Mode.without old.mode 0o7000)
      let isNew := kept?.isSome || !(follows.toOption.isSome)
      match ← attempt fun files base => do
          let files ←
            if isNew then
              match files.update base (pathOf target) (fun _ => bytes) fresh with
              | .error (.code 21) =>
                if target.getLast? = some '/' then .error .notDirectory else .error .isDirectory
              | result => result
            else files.write base (pathOf target) bytes
          match files.status base (pathOf target) with
          | .ok (place, .file number) =>
            if setting.preserves then
              return files.setAttributes place (.file number) old
            else return files
          | _ => return files with
      | none => verb kept?
      | some problem => fault "cannot create regular file" problem

/-- Copies what a path leads to; `isInner` when it was found in a directory, `root` being where the
directory is copied to. -/
def copyTo (setting : Setting) : Nat → Bool → Option Place → List Char → List Char → HostM Bool
  | 0, _, _, _, _ => return false
  | fuel + 1, isInner, root?, source, target => do
    let keeps := setting.keepsLinks || (setting.recursive && isInner)
      || (setting.recursive && setting.keepsLinks)
    match ← (if keeps then linkStatusOf? source else statusOf? source) with
    | .error fault => refuse "cannot stat" source fault
    | .ok (place, node) => do
      let existing ← statusOf? target
      if root? = some place then return true
      if node = .directory ∧ !setting.recursive then
        complain ("-r not specified; omitting directory ".toList ++ inQuotes source)
        return false
      let sameFile : Bool ← ask fun files base =>
        match files.status base (pathOf source), files.status base (pathOf target) with
        | .ok (first, node), .ok (second, other) =>
          first == second || (node == other && node != .directory)
        | _, _ => false
      let isLink := node.isLink
      if sameFile ∧ !setting.hardLinks ∧ !isLink ∧ node ≠ .directory
          ∧ !(setting.backup?.isSome ∧ source ≠ target) then
        if setting.noClobber then return true
        complain (inQuotes source ++ " and ".toList ++ inQuotes target
          ++ " are the same file".toList)
        return false
      match node, existing with
      | .directory, .ok (_, other) =>
        if other ≠ .directory then
          complain ("cannot overwrite non-directory ".toList ++ inQuotes target
            ++ " with directory ".toList ++ inQuotes source)
          return false
        else within fuel root? place source target
      | .directory, .error _ => do
        let attributes ← ask fun files _ => files.attributesOf place node
        let mode := ((← get).fresh attributes.mode).mode
        match ← attempt fun files base => files.makeDirectory base (pathOf target) mode with
        | some fault => refuse "cannot create directory" target fault
        | none => do
          report setting "" source target none
          within fuel root? place source target
      | _, .ok (_, .directory) => do
        if isLink ∧ (← linkStatusOf? target).toOption.map (·.2) ≠ some .directory then
          copyLeaf setting source target place node
        else
          complain ("cannot overwrite directory ".toList ++ inQuotes target
            ++ " with non-directory".toList)
          return false
      | _, _ => do
        let present := (← linkStatusOf? target).toOption
        let older ← ask fun files base =>
          match files.status base (pathOf target) with
          | .ok (other, found) =>
            (files.attributesOf other found).modified < (files.attributesOf place node).modified
          | .error _ => true
        if present.isSome ∧ setting.noClobber then return true
        else if present.isSome ∧ setting.updates ∧ !older then return true
        else if ← isRefused (present.isSome && setting.asks && !setting.forces)
            ("overwrite ".toList ++ inQuotes target) then return false
        else copyLeaf setting source target place node
where
  /-- Copies all that is in a directory. -/
  within (fuel : Nat) (root? : Option Place) (place : Place) (source target : List Char) :
      HostM Bool := do
    let goal := (← statusOf? target).toOption.map (·.1)
    let root? := root?.or goal
    if goal.any place.isPrefixOf ∧ goal = some place then return true
    let names ← namesIn source
    forAll names fun name => do
      let inner := under source name
      let innerPlace := (← linkStatusOf? inner).toOption.map (·.1)
      if innerPlace = root? ∧ root?.isSome then
        complain ("cannot copy a directory, ".toList ++ inQuotes source
          ++ ", into itself, ".toList ++ inQuotes target)
        return false
      else copyTo setting fuel true root? inner (under target name)

/-- So many directories may be one inside the other. -/
def depth : Nat := 200

/-- Makes the directories in the path of a source under a target. -/
def makeParents (source directory : List Char) : HostM (Option (List Char)) := do
  let target := under directory (source.dropWhile (· = '/'))
  discard (attemptSome fun files base => files.makeWay base (pathOf (directoryName target)))
  return some target

/-- The options of `cp`. -/
def copyGrammar : Grammar :=
  .of "abdfHilLnprst:uvxPRS:TZ" [("archive", 'a'), ("backup?", 'b'), ("force", 'f'),
    ("interactive", 'i'), ("link", 'l'), ("dereference", 'L'), ("no-clobber", 'n'),
    ("no-dereference", 'P'), ("preserve?", 'p'), ("no-preserve=", 'z'), ("parents", 'q'),
    ("recursive", 'r'), ("symbolic-link", 's'), ("suffix=", 'S'), ("target-directory=", 't'),
    ("no-target-directory", 'T'), ("update?", 'u'), ("verbose", 'v'), ("one-file-system", 'x'),
    ("remove-destination", 'w'), ("reflink?", 'y'), ("sparse=", 'y'), ("attributes-only", 'k'),
    ("strip-trailing-slashes", 'j')]

/-- Copies files. -/
def cp : Tool := withOptions copyGrammar 1 fun options => do
  let has := options.has
  let recursive := has 'r' || has 'R' || has 'a'
  let links := options.last? "LPdaH"
  let setting : Setting := {
    recursive
    keepsLinks := links = some 'P' ∨ links = some 'd' ∨ links = some 'a'
      ∨ (recursive && links.isNone)
    noClobber := options.last? "nif" = some 'n' || options.value? 'u' = some "none".toList
    asks := options.last? "nif" = some 'i'
    updates := has 'u' && options.value? 'u' ≠ some "all".toList
    verbose := has 'v'
    preserves := has 'p' || has 'a'
    hardLinks := has 'l'
    softLinks := has 's'
    forces := has 'f' || has 'w'
    parents := has 'q' }
  match ← backupSetting options setting with
  | none => return 1
  | some setting => do
    if has 'n' then
      complain ("warning: behavior of -n is non-portable and may change in future; ".toList
        ++ "use --update=none instead".toList)
    if setting.parents then
      match options.operands.reverse with
      | directory :: source :: more => do
        if !(← isDirectory directory) then
          misuse 1 "with --parents, the destination must be a directory".toList
        else
          return statusOf <| ← forAll (source :: more).reverse fun source => do
            match ← makeParents source directory with
            | some target => copyTo setting depth false none source target
            | none => return false
      | _ => towards options "target directory" fun _ _ => return false
    else towards options "target directory" (copyTo setting depth false none)

/-! ### Moving -/

/-- Moves an entry. -/
def moveTo (setting : Setting) (source target : List Char) : HostM Bool := do
  match ← linkStatusOf? source with
  | .error fault => refuse "cannot stat" source fault
  | .ok (place, node) => do
    let present := (← linkStatusOf? target).toOption
    let existing := (← statusOf? target).toOption
    let older ← ask fun files _ =>
      match existing with
      | some (other, found) =>
        (files.attributesOf other found).modified < (files.attributesOf place node).modified
      | none => true
    if present.isSome ∧ setting.noClobber then
      complain ("not replacing ".toList ++ inQuotes target)
      return false
    else if present.isSome ∧ setting.updates ∧ !older then return true
    else if ← isRefused (present.isSome && setting.asks)
        ("overwrite ".toList ++ inQuotes target) then return false
    else if present.any (fun found => found.1 = place) then
      complain (inQuotes source ++ " and ".toList ++ inQuotes target
        ++ " are the same file".toList)
      return false
    else if node = .directory ∧ present.any (fun found => found.2 ≠ .directory) then
      complain ("cannot overwrite non-directory ".toList ++ inQuotes target
        ++ " with directory ".toList ++ inQuotes source)
      return false
    else if node ≠ .directory ∧ present.any (fun found => found.2 = .directory) then
      complain ("cannot overwrite directory ".toList ++ inQuotes target
        ++ " with non-directory".toList)
      return false
    else
      let kept? ← keep setting target
      match ← attempt fun files base => files.rename base (pathOf source) (pathOf target) with
      | none => do
        if present.any (fun found => found.2 = node) ∧ node ≠ .directory then
          -- Two names of one file: the first one goes.
          discard (change fun files base => files.remove base (pathOf source))
        report setting "renamed " source target kept?
        return true
      | some fault => do
        if fault = .invalid then
          complain ("cannot move ".toList ++ inQuotes source ++ " to a subdirectory of itself, ".toList
            ++ inQuotes target)
        else if fault = .notEmpty then
          complain ("cannot overwrite ".toList ++ inQuotes target ++ ": Directory not empty".toList)
        else
          complain ("cannot move ".toList ++ inQuotes source ++ " to ".toList ++ inQuotes target
            ++ ": ".toList ++ fault.plain.toList)
        return false

/-- Moves files. -/
def mv : Tool :=
  let grammar : Grammar :=
    .of "bfint:uvS:TZ" [("backup?", 'b'), ("force", 'f'), ("interactive", 'i'),
      ("no-clobber", 'n'), ("suffix=", 'S'), ("target-directory=", 't'),
      ("no-target-directory", 'T'), ("update?", 'u'), ("verbose", 'v'),
      ("strip-trailing-slashes", 'j')]
  withOptions grammar 1 fun options => do
    let setting : Setting := {
      noClobber := options.last? "nif" = some 'n'
      asks := options.last? "nif" = some 'i'
      updates := options.has 'u'
      verbose := options.has 'v' }
    match ← backupSetting options setting with
    | none => return 1
    | some setting => towards options "target directory" (moveTo setting)

/-! ### Links -/

/-- The way from one place to another. -/
def wayBetween : Place → Place → List (List Char)
  | first :: start, second :: goal =>
    if first = second then wayBetween start goal
    else (first :: start).map (fun _ => ['.', '.']) ++ (second :: goal).map Bytes.toChars
  | start, goal => start.map (fun _ => ['.', '.']) ++ goal.map Bytes.toChars

/-- A path as it is written from a directory. -/
def relativeTo (directory : Place) (place : Place) : List Char :=
  let names := wayBetween directory place
  if names.isEmpty then ['.'] else ['/'].intercalate names

/-- Where a path would lead, whether or not there is something. -/
def placeOf? (path : List Char) : HostM (Except Fault Place) := do
  match ← ask fun files base => files.locate base true (pathOf path) with
  | .ok (.found place _) | .ok (.free place _) => return .ok place
  | .error fault => return .error fault

/-- Makes links. -/
def ln : Tool :=
  let grammar : Grammar :=
    .of "bdfFiLnPrst:vS:T" [("backup?", 'b'), ("directory", 'd'), ("force", 'f'),
      ("interactive", 'i'), ("logical", 'L'), ("no-dereference", 'n'), ("physical", 'P'),
      ("relative", 'r'), ("symbolic", 's'), ("suffix=", 'S'), ("target-directory=", 't'),
      ("no-target-directory", 'T'), ("verbose", 'v')]
  withOptions grammar 1 fun options => do
    let has := options.has
    let soft := has 's'
    match ← backupSetting options { verbose := has 'v', forces := has 'f', asks := has 'i' } with
    | none => return 1
    | some setting => do
      let step (source target : List Char) : HostM Bool := do
        let follows := options.last? "LP" = some 'L'
        let found ← if follows then statusOf? source else linkStatusOf? source
        let what := if soft then "symbolic link" else "hard link"
        match soft, found with
        | false, .error fault => refuse "failed to access" source fault
        | false, .ok (_, .directory) => do
          complain (source ++ ": hard link not allowed for directory".toList)
          return false
        | _, _ => do
          let present := (← linkStatusOf? target).toOption
          if present.any (fun other => other.2 = .directory) ∧ setting.forces then
            complain (target ++ ": cannot overwrite directory".toList)
            return false
          if ← isRefused (present.isSome && setting.asks) ("replace ".toList ++ inQuotes target) then
            return false
          let same := !soft && present.isSome && present.map (·.2) == found.toOption.map (·.2)
          if same ∧ (setting.forces ∨ setting.backup?.isSome) ∧ source = target then
            complain (inQuotes source ++ " and ".toList ++ inQuotes target
              ++ " are the same file".toList)
            return false
          let kept? ← keep setting target
          if setting.forces ∨ setting.asks then
            discard (change fun files base => files.remove base (pathOf target))
          let text ← if has 'r' ∧ soft then do
              match ← placeOf? (directoryName target), ← placeOf? source with
              | .ok directory, .ok place => pure (relativeTo directory place)
              | _, _ => pure source
            else pure source
          let outcome ← attempt fun files base =>
            if soft then files.makeLink base (pathOf target) (Bytes.ofChars text)
            else
              let path := match files.status base (pathOf source) with
                | .ok (place, _) => if follows then Files.absolute place else pathOf source
                | .error _ => pathOf source
              files.shareName base path (pathOf target)
          match outcome with
          | none => do
            report setting "" target text kept? (if soft then " -> " else " => ")
            return true
          | some fault => do
            let shownSource := if text = [] ∨ (!soft ∧ fault ≠ .taken) then
              (if soft then " -> " else " => ").toList ++ inQuotes text else []
            complain ("failed to create ".toList ++ what.toList ++ ' ' :: inQuotes target
              ++ shownSource ++ ": ".toList ++ fault.plain.toList)
            return false
      match options.operands with
      | [single] =>
        if options.has 'T' then
          misuse 1 ("missing destination file operand after ".toList ++ inQuotes single)
        else if (options.value? 't').isSome then towards options "target directory" step
        else return statusOf (← step single (under ['.'] (baseName single) |>.drop 2))
      | [source, target] =>
        let isLink := (← linkStatusOf? target).toOption.any fun found => found.2.isLink
        if has 'n' ∧ isLink then return statusOf (← step source target)
        else towards options "target directory" step
      | _ => towards options "target directory" step

/-! ### Installing -/

/-- Makes the directories of a path, each with a mode. -/
def makeAll (setting : Setting) (path : List Char) : HostM (Option Fault) := do
  let components := (pathOf path).components
  let lengths := (List.range components.length).map (· + 1)
  for length in lengths do
    let here := Path.ofComponents (components.take length)
    let there ← ask fun files base => files.isDirectory base here
    if !there then
      if let some fault ← attempt fun files base => files.makeDirectory base here then
        return some fault
      if setting.verbose then
        announce here
  return none
where
  /-- Says which directory was made. -/
  announce (path : Path) : HostM Unit := do
    sayLine ((← get).program ++ ": creating directory ".toList
      ++ inQuotes (Bytes.toChars path.bytes))

/-- Copies files as new files with a mode, in the place of earlier ones. -/
def install : Tool :=
  let grammar : Grammar :=
    .of "bcCdDg:m:o:psS:t:TvZ" [("backup?", 'b'), ("compare", 'C'), ("directory", 'd'),
      ("group=", 'g'), ("mode=", 'm'), ("owner=", 'o'), ("preserve-timestamps", 'p'),
      ("strip", 's'), ("strip-program=", 'z'), ("suffix=", 'S'), ("target-directory=", 't'),
      ("no-target-directory", 'T'), ("verbose", 'v'), ("debug", 'y')]
  withOptions grammar 1 fun options => do
    let has := options.has
    match ← backupSetting options { verbose := has 'v' } with
    | none => return 1
    | some setting => do
      let text := (options.value? 'm').getD "755".toList
      match Mode.changed? (has 'd') 0 0 text with
      | none => do
        complain ("invalid mode ".toList ++ inQuotes text)
        return 1
      | some mode => do
        if has 'd' then
          if options.operands.isEmpty then return ← lacking 1 "missing file operand"
          return statusOf <| ← forAll options.operands fun path => do
            match ← makeAll setting path with
            | some fault => refuse "cannot create directory" path fault
            | none => do
              modify fun host =>
                match host.files.status host.base (pathOf path) with
                | .ok (place, node) =>
                  let old := host.files.attributesOf place node
                  { host with files := host.files.setAttributes place node { old with mode } }
                | .error _ => host
              return true
        else
          if has 'D' then
            match options.value? 't', options.operands.reverse with
            | some directory, _ => discard (makeAll setting directory)
            | none, target :: _ :: _ =>
              if !(← isDirectory target) then
                discard (makeAll setting (directoryName target))
            | _, _ => pure ()
          let step (source target : List Char) : HostM Bool := do
            match ← statusOf? source with
            | .error fault => refuse "cannot stat" source fault
            | .ok (_, .directory) => do
              complain ("omitting directory ".toList ++ inQuotes source)
              return false
            | .ok (place, node) => do
              let present := (← linkStatusOf? target).toOption
              let samePlace := present.any fun other => other.1 = place
              if samePlace then
                complain (inQuotes source ++ " and ".toList ++ inQuotes target
                  ++ " are the same file".toList)
                return false
              if present.any fun other => other.2 = .directory then
                complain ("cannot overwrite directory ".toList ++ inQuotes target
                  ++ " with non-directory".toList)
                return false
              let bytes ← octetsOf node
              let unchanged ← ask fun files _ =>
                match present with
                | some (other, .file number) =>
                  has 'C' && files.octets (.file number) == bytes
                    && (files.attributesOf other (.file number)).mode == mode
                | _ => false
              if unchanged then return true
              let kept? ← keep setting target
              if present.isSome ∧ kept?.isNone then
                if ← change fun files base => files.remove base (pathOf target) then
                  if setting.verbose then sayLine ("removed ".toList ++ inQuotes target)
              let old ← ask fun files _ => files.attributesOf place node
              let outcome ← attempt fun files base =>
                match node with
                | .program _ => do
                  match ← files.entryAt base (pathOf target) with
                  | (.free place _, .name) => return files.insert place node
                  | _ => throw .notDirectory
                | _ =>
                  match files.replace base (pathOf target)
                      { bytes, attributes := { mode, modified := files.clock } } with
                  | .error (.code 21) => .error .notDirectory
                  | result => result
              match outcome with
              | some fault => refuse "cannot create regular file" target fault
              | none => do
                if has 'p' then
                  modify fun host =>
                    match host.files.status host.base (pathOf target) with
                    | .ok (place, node) =>
                      { host with files :=
                          host.files.setAttributes place node { mode, modified := old.modified } }
                    | .error _ => host
                report setting "" source target kept?
                return true
          towards options "failed to access" step

end KernelCache.Copying
