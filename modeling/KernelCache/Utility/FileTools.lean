import KernelCache.Text.Calendar
import KernelCache.Utility.Copying

/-
**Programs that make, change and remove entries.**

Every program takes its command line and ends with a status: zero when all was done, one when a part
could not be done or the command line is not understood.
-/

namespace KernelCache.FileTools

open Host Program Copying

/-! ### Removing -/

/-- What removing is to do. -/
structure Removing where
  recursive : Bool
  force : Bool
  emptyToo : Bool
  verbose : Bool
  asks : Bool

/-- What kind of entry a node is. -/
def kindOf (files : Files) (node : Node) : String :=
  match node with
  | .directory => "directory"
  | .link _ => "symbolic link"
  | .device _ => "character special file"
  | node => if files.octets node = [] then "regular empty file" else "regular file"

/-- Removes an entry with all that is in it. -/
def removeEntry (removing : Removing) : Nat → List Char → HostM Bool
  | 0, _ => return false
  | fuel + 1, path => do
    let say (what : String) : HostM Unit := do
      if removing.verbose then sayLine (what.toList ++ inQuotes path)
    match ← linkStatusOf? path with
    | .error fault =>
      if removing.force ∧ (fault = .notFound ∨ fault = .notDirectory) then return true
      else refuse "cannot remove" path fault
    | .ok (_, node) => do
      let kind ← ask fun files _ => kindOf files node
      let slashed : Bool := path.getLast? == some '/'
      if node = .directory ∧ !removing.recursive ∧ !removing.emptyToo then
        refuse "cannot remove" path .isDirectory
      else if ← isRefused removing.asks ("remove ".toList ++ kind.toList ++ ' ' :: inQuotes path) then
        return true
      else if node = .directory then
        let isLink : Bool ← ask fun files base =>
          match files.entryAt base (pathOf path) with
          | .ok (.found _ node, _) => node.isLink
          | _ => false
        if slashed ∧ isLink then return ← refuse "cannot remove" path .notDirectory
        if removing.recursive then
          let names ← namesIn path
          if !(← forAll names fun name => removeEntry removing fuel (under path name)) then
            return false
        match ← attempt fun files base => files.removeDirectory base (pathOf path) with
        | none => do
          say "removed directory "
          return true
        | some fault => refuse "cannot remove" path fault
      else
        match ← attempt fun files base => files.remove base (pathOf path) with
        | none => do
          say "removed "
          return true
        | some fault =>
          if removing.force ∧ fault = .notDirectory then return true
          else refuse "cannot remove" path fault

/-- Removes files, and with an option also directories. -/
def rm : Tool :=
  let grammar : Grammar :=
    .of "dfiIrRv" [("force", 'f'), ("interactive?", 'i'), ("recursive", 'r'), ("dir", 'd'),
      ("verbose", 'v'), ("one-file-system", 'x'), ("no-preserve-root", 'y'),
      ("preserve-root?", 'z')]
  withOptions grammar 1 fun options => do
    let has := options.has
    let force := options.last? "fi" = some 'f'
    let removing : Removing := {
      recursive := has 'r' || has 'R'
      force
      emptyToo := has 'd'
      verbose := has 'v'
      asks := options.last? "fi" = some 'i' ∧ options.value? 'i' ≠ some "never".toList }
    if options.operands.isEmpty then
      if force then return 0 else lacking 1
    else
      return statusOf <| ← forAll options.operands fun path => do
        let last := baseName path
        if removing.recursive ∧ (last = ['.'] ∨ last = ['.', '.'])
            ∧ (← linkStatusOf? path).toOption.isSome then
          complain ("refusing to remove '.' or '..' directory: skipping ".toList ++ inQuotes path)
          return false
        else if removing.recursive ∧ path ≠ [] ∧ path.all (· = '/') then
          complain "it is dangerous to operate recursively on '/'".toList
          complain "use --no-preserve-root to override this failsafe".toList
          return false
        else removeEntry removing depth path

/-- Removes one entry. -/
def unlink : Tool := withOptions (.of "") 1 fun options => do
  match options.operands with
  | [path] =>
    match ← attempt fun files base => files.remove base (pathOf path) with
    | none => return 0
    | some fault => do
      complain ("cannot unlink ".toList ++ inQuotes path ++ ": ".toList ++ fault.plain.toList)
      return 1
  | [] => lacking 1
  | _ :: second :: _ => surplus 1 second

/-! ### Directories -/

/-- The paths of a path's directories, the longest first. -/
def ancestors (path : List Char) : List (List Char) :=
  let components := (pathOf path).components
  (List.range components.length).reverse.map fun length =>
    Bytes.toChars (Path.ofComponents (components.take (length + 1))).bytes

/-- Makes one directory. -/
def makeOne (mode? : Option Nat) (verbose : Bool) (path : List Char) : HostM (Option Fault) := do
  let mode := match mode? with
    | some mode => mode
    | none => 0
  let usual := ((← get).fresh 0o777).mode
  let outcome ← attempt fun files base =>
    files.makeDirectory base (pathOf path) (if mode?.isSome then mode else usual)
  if outcome.isNone ∧ verbose then
    sayLine ((← get).program ++ ": created directory ".toList ++ inQuotes path)
  return outcome

/-- Makes a directory with all that lead to it. -/
def makeWay (mode? : Option Nat) (verbose : Bool) (path : List Char) : HostM Bool := do
  let steps := (ancestors path).reverse
  if path = [] then return ← refuse "cannot create directory" path .notFound
  for step in steps do
    let isLast := steps.getLast? = some step
    match ← statusOf? step with
    | .ok (_, .directory) => pure ()
    | .ok _ =>
      return ← refuse "cannot create directory" step (if isLast then .taken else .notDirectory)
    | .error _ =>
      if let some fault ← makeOne (if isLast then mode? else none) verbose step then
        return ← refuse "cannot create directory" step fault
  return true

/-- Makes directories. -/
def mkdir : Tool :=
  let grammar : Grammar :=
    .of "m:pvZ" [("mode=", 'm'), ("parents", 'p'), ("verbose", 'v')]
  withOptions grammar 1 fun options => do
    if options.operands.isEmpty then return ← lacking 1
    let mask := (← get).mask
    let mode? ← match options.value? 'm' with
      | none => pure none
      | some text =>
        match Mode.changed? false mask 0o777 text with
        | some mode => pure (some mode)
        | none => do
          complain ("invalid mode ".toList ++ inQuotes text)
          return 1
    let verbose := options.has 'v'
    return statusOf <| ← forAll options.operands fun path => do
      if options.has 'p' then makeWay mode? verbose path
      else
        match ← makeOne mode? verbose path with
        | none => return true
        | some fault => refuse "cannot create directory" path fault

/-- Removes empty directories. -/
def rmdir : Tool :=
  let grammar : Grammar :=
    .of "pv" [("parents", 'p'), ("verbose", 'v'), ("ignore-fail-on-non-empty", 'i')]
  withOptions grammar 1 fun options => do
    if options.operands.isEmpty then return ← lacking 1
    let removeOne (path : List Char) (what : String) : HostM Bool := do
      if options.has 'v' then
        sayLine ((← get).program ++ ": removing directory, ".toList ++ inQuotes path)
      match ← attempt fun files base => files.removeDirectory base (pathOf path) with
      | none => return true
      | some fault =>
        if options.has 'i' ∧ fault = .notEmpty then return true
        else refuse what path fault
    return statusOf <| ← forAll options.operands fun path => do
      if !(← removeOne path "failed to remove") then return false
      if options.has 'p' then
        for above in (ancestors path).drop 1 do
          if !(← removeOne above "failed to remove directory") then return false
      return true

/-! ### Times -/

/-- Microseconds since the system was started, from seconds. -/
def sinceStart (seconds : Int) : Int := (seconds - Calendar.start) * 1000000

/-- Seconds of a time since the system was started. -/
def secondsOf (modified : Int) : Int := Int.fdiv modified 1000000 + Calendar.start

/-- Sets when an entry was changed. -/
def setChanged (follow : Bool) (path : List Char) (time : Int) : HostM Unit :=
  modify fun host =>
    let found := if follow then host.files.status host.base (pathOf path)
      else host.files.linkStatus host.base (pathOf path)
    match found with
    | .ok (place, node) =>
      let old := host.files.attributesOf place node
      { host with files := host.files.setAttributes place node { old with modified := time } }
    | .error _ => host

/-- Makes files that are not there, and says that they have changed. -/
def touch : Tool :=
  let grammar : Grammar :=
    .of "acd:fhmr:t:" [("no-create", 'c'), ("date=", 'd'), ("no-dereference", 'h'),
      ("reference=", 'r'), ("time=", 'z')]
  withOptions grammar 1 fun options => do
    let clock := (← get).files.clock
    let now := secondsOf clock
    let wrong (text : List Char) : HostM Nat := do
      complain ("invalid date format ".toList ++ inQuotes text)
      return 1
    let time ← match options.value? 'r', options.value? 'd', options.value? 't' with
      | some path, _, _ => do
        match ← statusOf? path with
        | .ok (place, node) => ask fun files _ => (files.attributesOf place node).modified
        | .error fault => do
          complain ("failed to get attributes of ".toList ++ inQuotes path ++ ": ".toList
            ++ fault.plain.toList)
          return 1
      | none, some text, _ =>
        match Calendar.read? now text with
        | some seconds => pure (sinceStart seconds)
        | none => return ← wrong text
      | none, none, some text =>
        match Calendar.readDigits? now text with
        | some seconds => pure (sinceStart seconds)
        | none => return ← wrong text
      | none, none, none => pure clock
    if options.operands.isEmpty then return ← lacking 1 "missing file operand"
    return statusOf <| ← forAll options.operands fun path => do
      if path = ['-'] then return true
      let quiet := options.has 'c' || options.has 'h'
      match ← statusOf? path with
      | .ok _ => do
        if !options.has 'a' ∨ options.has 'm' then setChanged (!options.has 'h') path time
        return true
      | .error fault =>
        if quiet ∧ options.has 'h' ∧ (← linkStatusOf? path).toOption.isSome then
          setChanged false path time
          return true
        else if options.has 'c' ∧ fault = .notFound then return true
        else if path.getLast? = some '/' ∧ path.length > 1 then
          refuse "setting times of" path fault
        else
          let attributes := (← get).fresh 0o666
          match ← attempt fun files base =>
              files.update base (pathOf path) (fun bytes => bytes) attributes with
          | none => do
            setChanged true path time
            return true
          | some fault => refuse "cannot touch" path fault

/-! ### Modes -/

/-- A change of modes. -/
structure ModeChange where
  text : List Char
  fixed? : Option Nat
  recursive : Bool
  verbose : Bool
  changesOnly : Bool
  quiet : Bool

/-- Changes the mode of an entry, and of all in it. -/
def changeMode (change : ModeChange) : Nat → Bool → List Char → HostM Bool
  | 0, _, _ => return false
  | fuel + 1, isInner, path => do
    match ← (if isInner then linkStatusOf? path else statusOf? path) with
    | .error fault => if change.quiet then return false else refuse "cannot access" path fault
    | .ok (place, node) => do
      if node.isLink then return true
      let host ← get
      let old := host.files.attributesOf place node
      let mode := change.fixed?.getD
        ((Mode.changed? (node == .directory) host.mask old.mode change.text).getD old.mode)
      set { host with files := host.files.setAttributes place node { old with mode } }
      let form (mode : Nat) : List Char :=
        Mode.digits 4 mode ++ " (".toList ++ (Mode.rights '-' mode).drop 1 ++ [')']
      if mode ≠ old.mode ∧ (change.verbose ∨ change.changesOnly) then
        sayLine ("mode of ".toList ++ inQuotes path ++ " changed from ".toList ++ form old.mode
          ++ " to ".toList ++ form mode)
      else if change.verbose then
        sayLine ("mode of ".toList ++ inQuotes path ++ " retained as ".toList ++ form mode)
      if change.recursive ∧ node = .directory then
        forAll (← namesIn path) fun name => changeMode change fuel true (under path name)
      else return true

/-- Whether a word says which rights are taken away. -/
def isModeWord (word : List Char) : Bool :=
  match word with
  | '-' :: letter :: more =>
    "rwxXstugo".toList.contains letter && more.all fun char => "rwxXstugoa=+-,".toList.contains char
  | _ => false

/-- Changes who may do what with files. -/
def chmod : Tool := fun arguments => do
  let before := arguments.takeWhile (· != ['-', '-'])
  let modes := before.filter isModeWord
  let others := before.filter (fun word => !isModeWord word) ++ arguments.drop before.length
  let grammar : Grammar :=
    .of "cfvR" [("changes", 'c'), ("silent", 'f'), ("quiet", 'f'), ("verbose", 'v'),
      ("recursive", 'R'), ("reference=", 'z'), ("no-preserve-root", 'y'), ("preserve-root", 'y')]
  let work (options : Options) : HostM Nat := do
    let fixed? ← match options.value? 'z' with
      | none => pure none
      | some path => do
        match ← statusOf? path with
        | .ok (place, node) => pure (some (← ask fun files _ => (files.attributesOf place node).mode))
        | .error fault => do
          complain ("failed to get attributes of ".toList ++ inQuotes path ++ ": ".toList
            ++ fault.plain.toList)
          return 1
    let words := if modes.isEmpty ∧ fixed?.isNone then options.operands
      else [','].intercalate modes :: options.operands
    match words with
    | [] => lacking 1
    | [text] =>
      misuse 1 ("missing operand after ".toList ++ inQuotes text)
    | text :: paths => do
      if fixed?.isNone ∧ (Mode.changed? false 0 0 text).isNone then
        misuse 1 ("invalid mode: ".toList ++ inQuotes text)
      else
        let change : ModeChange := {
          text
          fixed?
          recursive := options.has 'R'
          verbose := options.has 'v'
          changesOnly := options.has 'c'
          quiet := options.has 'f' }
        return statusOf (← forAll paths (changeMode change depth false))
  withOptions grammar 1 work others

/-- Says that files belong to somebody else, which changes nothing here. -/
def chown : Tool :=
  withOptions (.of "cfhRHLPv" [("recursive", 'R'), ("verbose", 'v'), ("quiet", 'f')]) 1
    fun options => do
      match options.operands with
      | [] => lacking 1
      | [owner] => misuse 1 ("missing operand after ".toList ++ inQuotes owner)
      | _ :: paths =>
        return statusOf <| ← forAll paths fun path => do
          match ← statusOf? path with
          | .ok _ => return true
          | .error fault => refuse "cannot access" path fault

/-! ### Sizes -/

/-- A number with a suffix for its unit. -/
def amount? (text : List Char) : Option Nat := do
  let digits := text.takeWhile fun char => '0' ≤ char && char ≤ '9'
  let suffix := text.drop digits.length
  let value ← if digits = [] then (if suffix = [] then none else some 1)
    else (String.ofList digits).toNat?
  let powers := ['K', 'M', 'G', 'T', 'P', 'E', 'Z', 'Y']
  match suffix with
  | [] => return value
  | ['c'] => return value
  | ['b'] => return value * 512
  | ['w'] => return value * 2
  | letter :: rest =>
    let letter := if letter = 'k' then 'K' else letter
    let power := (← powers.idxOf? letter) + 1
    match rest with
    | [] | ['i', 'B'] => return value * Nat.pow 1024 power
    | ['B'] => return value * Nat.pow 1000 power
    | _ => none

/-- How a size is given. -/
inductive Sizing where
  | exact
  | more
  | less
  | atMost
  | atLeast
  | downTo
  | upTo
  deriving DecidableEq

/-- A size with how it is meant. -/
def sizing? (text : List Char) : Option (Sizing × Nat) :=
  let text := text.dropWhile (· == ' ')
  let (how, rest) := match text with
    | '+' :: rest => (Sizing.more, rest)
    | '-' :: rest => (.less, rest)
    | '<' :: rest => (.atMost, rest)
    | '>' :: rest => (.atLeast, rest)
    | '/' :: rest => (.downTo, rest)
    | '%' :: rest => (.upTo, rest)
    | rest => (.exact, rest)
  (amount? rest).map (how, ·)

/-- The size that is meant when a file has a size already. -/
def Sizing.apply (how : Sizing) (size old : Nat) : Nat :=
  match how with
  | exact => size
  | more => old + size
  | less => old - size
  | atMost => min old size
  | atLeast => max old size
  | downTo => old / size * size
  | upTo => (old + size - 1) / size * size

/-- Sets the sizes of files. -/
def truncate : Tool :=
  let grammar : Grammar :=
    .of "cor:s:" [("no-create", 'c'), ("io-blocks", 'o'), ("reference=", 'r'), ("size=", 's')]
  withOptions grammar 1 fun options => do
    let reference? ← match options.value? 'r' with
      | none => pure none
      | some path => do
        match ← ask fun files base => files.size base (pathOf path) with
        | .ok size => pure (some size)
        | .error fault => do
          complain ("cannot stat ".toList ++ inQuotes path ++ ": ".toList ++ fault.plain.toList)
          return 1
    match options.value? 's', reference? with
    | none, none => misuse 1 "you must specify either '--size' or '--reference'".toList
    | text?, _ => do
      let (how, size) ← match text? with
        | none => pure (Sizing.exact, 0)
        | some text =>
          match sizing? text with
          | some (how, size) =>
            if (how = .downTo ∨ how = .upTo) ∧ size = 0 then
              complain "division by zero".toList
              return 1
            else pure (how, size)
          | none => do
            complain ("Invalid number: ".toList ++ inQuotes text)
            return 1
      if options.operands.isEmpty then return ← lacking 1 "missing file operand"
      let size := if options.has 'o' then size * 4096 else size
      return statusOf <| ← forAll options.operands fun path => do
        let there := (← statusOf? path).toOption.isSome
        if !there ∧ options.has 'c' then return true
        let attributes := (← get).fresh 0o666
        match ← attempt fun files base =>
            files.update base (pathOf path) (fun bytes =>
              let old := reference?.getD bytes.length
              let new := if text?.isNone then old else how.apply size old
              Files.resized new bytes) attributes with
        | none => return true
        | some fault => do
          complain ("cannot open ".toList ++ inQuotes path ++ " for writing: ".toList
            ++ fault.plain.toList)
          return false

/-! ### Temporary files -/

/-- The name of a new file: the last letters `X` of a text stand for what is free. -/
def freeName (template : List Char) (present : List Char → Bool) : List Char :=
  let count := (template.reverse.takeWhile (· == 'X')).length
  let front := template.take (template.length - count)
  let named (index : Nat) : List Char :=
    let digits := (toString index).toList
    front ++ List.replicate (count - digits.length) 'k' ++ digits
  ((List.range 1000).map named).find? (fun name => !present name) |>.getD template

/-- Makes a new file or directory of a name of its own. -/
def mktemp : Tool :=
  let grammar : Grammar :=
    .of "dp:qtu" [("directory", 'd'), ("tmpdir?", 'p'), ("quiet", 'q'), ("dry-run", 'u'),
      ("suffix=", 's')]
  withOptions grammar 1 fun options => do
    let host ← get
    let directory := match options.value? 'p' with
      | some directory => directory
      | none => ((host.environment.lookup "TMPDIR".toList).filter (· ≠ [])).getD "/tmp".toList
    let given := options.operands.head?
    let template := given.getD "tmp.XXXXXXXXXX".toList
    if (template.reverse.takeWhile (· == 'X')).length < 3 then
      complain ("too few X's in template ".toList ++ inQuotes template)
      return 1
    let full := if given.isNone ∨ options.has 'p' ∨ options.has 't' then under directory template
      else template
    let name := freeName full fun path => host.files.present host.base (pathOf path)
    let outcome ← if options.has 'u' then pure none
      else attempt fun files base =>
        if options.has 'd' then files.makeDirectory base (pathOf name) 0o700
        else files.update base (pathOf name) (fun bytes => bytes) { mode := 0o600 }
    match outcome with
    | none => do
      sayLine name
      return 0
    | some fault => do
      let kind := if options.has 'd' then "directory" else "file"
      complain (("failed to create " ++ kind ++ " via template ").toList ++ inQuotes full
        ++ ": ".toList ++ fault.plain.toList)
      return 1

/-- Has what was written put on the disk, which it is already. -/
def sync : Tool := withOptions (.of "df" [("data", 'd'), ("file-system", 'f')]) 1 fun options => do
  return statusOf <| ← forAll options.operands fun path => do
    match ← statusOf? path with
    | .ok _ => return true
    | .error fault => do
      complain ("error opening ".toList ++ inQuotes path ++ ": ".toList ++ fault.plain.toList)
      return false

/-! ### Copying octets -/

/-- Copies octets in blocks. -/
def dd : Tool := fun arguments => do
  let settings := arguments.map fun word =>
    let name := word.takeWhile (· != '=')
    (String.ofList name, word.drop (name.length + 1))
  let number (name : String) (usual : Nat) : Nat :=
    ((settings.reverse.lookup name).bind amount?).getD usual
  let known := ["if", "of", "bs", "ibs", "obs", "count", "skip", "seek", "conv", "status", "iflag",
    "oflag", "cbs"]
  match arguments.find? fun word =>
      !word.contains '=' || !known.contains (String.ofList (word.takeWhile (· != '='))) with
  | some word => misuse 1 ("unrecognized operand ".toList ++ inQuotes word)
  | none => do
    let size := number "bs" 512
    let inSize := if (settings.lookup "bs").isSome then size else number "ibs" 512
    let outSize := if (settings.lookup "bs").isSome then size else number "obs" 512
    let conversions := ((settings.lookup "conv").getD []).splitOn ','
    let count? := (settings.lookup "count").bind amount?
    let source := (settings.lookup "if").getD ['-']
    let skip := number "skip" 0 * inSize
    let limit? := count?.map fun count => skip + count * inSize
    match ← contentsOf source limit? with
    | .error fault => do
      complain ("failed to open ".toList ++ inQuotes source ++ ": ".toList ++ fault.plain.toList)
      return 1
    | .ok bytes => do
      let bytes := bytes.drop skip
      let seek := number "seek" 0 * outSize
      let keepsRest := conversions.contains "notrunc".toList
      let bytes := if conversions.contains "ucase".toList then
          bytes.map fun byte => if 0x61 ≤ byte ∧ byte ≤ 0x7A then byte - 32 else byte
        else if conversions.contains "lcase".toList then
          bytes.map fun byte => if 0x41 ≤ byte ∧ byte ≤ 0x5A then byte + 32 else byte
        else bytes
      match settings.lookup "of" with
      | none => say bytes
      | some target => do
        let attributes := (← get).fresh 0o666
        if let some fault ← attempt fun files base =>
            files.update base (pathOf target) (fun old =>
              let start := if keepsRest then old else Files.resized (min seek old.length) old
              overlay start seek bytes) attributes then
          complain ("failed to open ".toList ++ inQuotes target ++ ": ".toList
            ++ fault.plain.toList)
          return 1
      if (settings.lookup "status") ≠ some "none".toList then
        let part (size : Nat) : List Char :=
          let whole := bytes.length / max size 1
          let rest := if bytes.length % max size 1 = 0 then 0 else 1
          (toString whole).toList ++ '+' :: (toString rest).toList
        complainLine (part inSize ++ " records in".toList)
        complainLine (part outSize ++ " records out".toList)
        if (settings.lookup "status") ≠ some "noxfer".toList then
          complainLine ((toString bytes.length).toList ++ " bytes copied, 0 s, 0 B/s".toList)
      return 0

end KernelCache.FileTools
