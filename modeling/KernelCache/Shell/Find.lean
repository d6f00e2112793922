import KernelCache.Shell.Starter

/-
**Searching trees of directories.**

`Find.run` goes through all that is under its operands and does for every entry what an expression of
tests and actions says. An action may start a program.
-/

namespace KernelCache.Shell.Find

open Starter (Launcher complainAs)

/-! ### Expressions -/

/-- How a number is compared with a given one. -/
inductive Than where
  | exactly
  | more
  | less
  deriving DecidableEq

/-- Whether a number is as it should be. -/
def Than.holds (than : Than) (bound value : Nat) : Bool :=
  match than with
  | exactly => value == bound
  | more => bound < value
  | less => value < bound

/-- How bits are compared with given ones. -/
inductive Bits where
  | exactly
  | all
  | some
  deriving DecidableEq

/-- What is asked or done for an entry. -/
inductive Goal where
  | always (holds : Bool)
  | name (folded : Bool) (pattern : Pattern)
  | path (folded : Bool) (pattern : Pattern)
  | regex (folded : Bool) (regex : Text.Regex)
  | kind (letters : List Char)
  | size (than : Than) (bound unit : Nat)
  | empty
  | newer (time : Int)
  | age (than : Than) (bound : Nat) (unit : Nat)
  | mode (bits : Bits) (mode : Nat)
  | links (than : Than) (bound : Nat)
  | executable
  | print (ending : Char)
  | format (format : List Char)
  | remove
  | prune
  | quit
  /-- Starts a program for the entry, in its directory or not. -/
  | start (inDirectory : Bool) (words : List (List Char))
  /-- Starts a program in the end for many entries. -/
  | gather (number : Nat) (words : List (List Char))
  | negation (goal : Goal)
  | both (first second : Goal)
  | either (first second : Goal)
  | sequence (first second : Goal)

/-- How trees are gone through. -/
structure Setting where
  least : Nat := 0
  most? : Option Nat := none
  /-- Whether what is in a directory comes before it. -/
  insideFirst : Bool := false
  follows : Bool := false
  /-- Whether something is done that makes printing superfluous. -/
  acts : Bool := false
  /-- The programs that are started in the end. -/
  gathered : List (Nat × List (List Char)) := []

/-- The words that are left, and what was found out about the setting. -/
structure Reading where
  rest : List (List Char)
  setting : Setting := {}

/-- A step of reading an expression. -/
abbrev Read (α : Type) := StateT Reading (ExceptT (List Char) ShellM) α

/-- A complaint. -/
def refuse {α : Type} (text : List Char) : Read α := fun _ => throw text

/-- The word behind a predicate. -/
def value (predicate : List Char) : Read (List Char) := do
  match (← get).rest with
  | word :: rest => do
    modify fun reading => { reading with rest }
    return word
  | [] => refuse ("missing argument to ".toList ++ Program.inQuotes predicate)

/-- A number with how it is compared, and what follows it. -/
def numberOf (predicate text : List Char) : Read (Than × Nat × List Char) := do
  let (than, body) := match text with
    | '+' :: rest => (Than.more, rest)
    | '-' :: rest => (.less, rest)
    | rest => (.exactly, rest)
  let digits := body.takeWhile Char.isDigit
  match (String.ofList digits).toNat? with
  | some number => return (than, number, body.drop digits.length)
  | none => refuse ("invalid argument ".toList ++ inBackQuotes text ++ " to ".toList
      ++ inBackQuotes predicate)
where
  /-- A text between two kinds of quotes. -/
  inBackQuotes (text : List Char) : List Char := Char.ofNat 0x60 :: text ++ ['\'']

/-- The pattern of a text. -/
def patternOf (folded : Bool) (text : List Char) : Pattern :=
  let text := if folded then text.map Char.toLower else text
  .ofChars true (text.map (·, false))

/-- Marks the setting as one in which something is done. -/
def acting (goal : Goal) : Read Goal := do
  modify fun reading => { reading with setting := { reading.setting with acts := true } }
  return goal

/-- The words of a program up to its end, and whether it is started for many entries. -/
def program (predicate : List Char) : Read (List (List Char) × Bool) := do
  let words := (← get).rest
  let before := words.takeWhile fun word => word != [';']
  let plus? := (List.range words.length).find? fun index =>
    words[index]? == some "\x7b\x7d".toList && words[index + 1]? == some ['+']
  match plus? with
  | some index =>
    if index < before.length then
      modify fun reading => { reading with rest := words.drop (index + 2) }
      return (words.take index, true)
    else pure ()
  | none => pure ()
  if before.length = words.length then
    refuse ("missing argument to ".toList ++ Char.ofNat 0x60 :: predicate ++ ['\''])
  modify fun reading => { reading with rest := words.drop (before.length + 1) }
  return (before, false)

/-- The time at which a file was changed. -/
def changeOf (path : List Char) : Read Int := do
  let host := (← (liftM (m := ShellM) get : ExceptT (List Char) ShellM State)).host
  match host.files.status host.base (Host.pathOf path) with
  | .ok (place, node) => return (host.files.attributesOf place node).modified
  | .error fault => refuse (Program.inQuotes path ++ ": ".toList ++ fault.plain.toList)

/-- Reads a predicate with its values. -/
def predicate (word : List Char) : Read Goal := do
  let setting (change : Setting → Setting) : Read Goal := do
    modify fun reading => { reading with setting := change reading.setting }
    return .always true
  let count : Read (Than × Nat) := do
    let (than, number, _) ← numberOf word (← value word)
    return (than, number)
  match String.ofList word with
  | "-name" => return .name false (patternOf false (← value word))
  | "-iname" => return .name true (patternOf true (← value word))
  | "-path" | "-wholename" => return .path false (patternOf false (← value word))
  | "-ipath" => return .path true (patternOf true (← value word))
  | "-regex" | "-iregex" => do
    let folded := word = "-iregex".toList
    match Text.Regex.read { extended := false } (← value word) with
    | .ok regex => return .regex folded regex
    | .error text => refuse text.toList
  | "-type" | "-xtype" => do
    let letters := (← value word).filter (· != ',')
    match letters.find? fun letter => !"fdlcbps".toList.contains letter with
    | some letter => refuse ("Unknown argument to -type: ".toList ++ [letter])
    | none => return .kind letters
  | "-size" => do
    let (than, number, rest) ← numberOf word (← value word)
    let unit := match rest with
      | ['c'] => 1
      | ['w'] => 2
      | ['k'] => 1024
      | ['M'] => 1048576
      | ['G'] => 1073741824
      | _ => 512
    return .size than number unit
  | "-empty" => return .empty
  | "-newer" | "-anewer" | "-cnewer" => return .newer (← changeOf (← value word))
  | "-mtime" | "-atime" | "-ctime" => do
    let (than, number) ← count
    return .age than number 86400
  | "-mmin" | "-amin" | "-cmin" => do
    let (than, number) ← count
    return .age than number 60
  | "-links" => do
    let (than, number) ← count
    return .links than number
  | "-perm" => do
    let text ← value word
    let (bits, text) := match text with
      | '-' :: rest => (Bits.all, rest)
      | '/' :: rest => (.some, rest)
      | rest => (.exactly, rest)
    match Mode.changed? false 0 0 text with
    | some mode => return .mode bits mode
    | none => refuse ("invalid mode ".toList ++ Program.inQuotes text)
  | "-executable" => return .executable
  | "-readable" | "-writable" | "-true" => return .always true
  | "-false" | "-nouser" | "-nogroup" => return .always false
  | "-user" | "-group" | "-uid" | "-gid" => do
    let owner ← value word
    return .always (owner == "root".toList || owner == ['0'])
  | "-maxdepth" => do
    let (_, number) ← count
    setting fun setting => { setting with most? := some number }
  | "-mindepth" => do
    let (_, number) ← count
    setting fun setting => { setting with least := number }
  | "-depth" | "-d" => setting fun setting => { setting with insideFirst := true }
  | "-follow" => setting fun setting => { setting with follows := true }
  | "-mount" | "-xdev" | "-noleaf" | "-warn" | "-nowarn" | "-daystart" => return .always true
  | "-regextype" => do
    discard (value word)
    return .always true
  | "-print" => acting (.print '\n')
  | "-print0" => acting (.print '\x00')
  | "-printf" => acting (.format (← value word))
  | "-delete" => do
    discard (setting fun setting => { setting with insideFirst := true })
    acting .remove
  | "-prune" => return .prune
  | "-quit" => return .quit
  | "-exec" | "-execdir" => do
    let (words, many) ← program word
    if many then
      let number := (← get).setting.gathered.length
      discard (setting fun setting =>
        { setting with gathered := setting.gathered ++ [(number, words)] })
      acting (.gather number words)
    else acting (.start (word == "-execdir".toList) words)
  | _ => refuse ("unknown predicate ".toList ++ Char.ofNat 0x60 :: word ++ ['\''])

mutual

/-- Reads an expression. -/
def expression : Nat → Read Goal
  | 0 => refuse "expression too deep".toList
  | fuel + 1 => do
    let first ← alternatives fuel
    match (← get).rest with
    | [','] :: rest => do
      modify fun reading => { reading with rest }
      return .sequence first (← expression fuel)
    | _ => return first

/-- Reads goals of which one is enough. -/
def alternatives : Nat → Read Goal
  | 0 => refuse "expression too deep".toList
  | fuel + 1 => do
    let first ← conjunction fuel
    match (← get).rest with
    | word :: rest =>
      if word = "-o".toList ∨ word = "-or".toList then
        modify fun reading => { reading with rest }
        return .either first (← alternatives fuel)
      else return first
    | [] => return first

/-- Reads goals that are all needed. -/
def conjunction : Nat → Read Goal
  | 0 => refuse "expression too deep".toList
  | fuel + 1 => do
    let first ← negation fuel
    match (← get).rest with
    | [] => return first
    | word :: rest =>
      if word = "-a".toList ∨ word = "-and".toList then
        modify fun reading => { reading with rest }
        return .both first (← conjunction fuel)
      else if ["-o", "-or", ")", ","].contains (String.ofList word) then return first
      else return .both first (← conjunction fuel)

/-- Reads a goal, or the opposite of one. -/
def negation : Nat → Read Goal
  | 0 => refuse "expression too deep".toList
  | fuel + 1 => do
    match (← get).rest with
    | [] => refuse "expected an expression".toList
    | word :: rest => do
      modify fun reading => { reading with rest }
      if word = ['!'] ∨ word = "-not".toList then return .negation (← negation fuel)
      else if word = ['('] then
        let inside ← expression fuel
        match (← get).rest with
        | [')'] :: rest => do
          modify fun reading => { reading with rest }
          return inside
        | _ => refuse "invalid expression; I was expecting to find a ')' somewhere but did not see one.".toList
      else if word.head? = some '-' then predicate word
      else refuse ("paths must precede expression: ".toList ++ Char.ofNat 0x60 :: word ++ ['\''])

end

/-! ### Entries -/

/-- An entry that was found. -/
structure Entry where
  path : List Char
  /-- The operand under which it was found. -/
  start : List Char
  depth : Nat
  place : Place
  node : Node

/-- What is known while trees are gone through. -/
structure Walking where
  pruned : Bool := false
  finished : Bool := false
  failed : Bool := false
  gathered : List (Nat × List Char) := []

/-- A step of going through trees. -/
abbrev FindM (α : Type) := StateT Walking ShellM α

/-- What a letter stands for in a format. -/
def fact (facts : Listing.Entry) (entry : Entry) (letter : Char) : List Char :=
  match letter with
  | 'p' => entry.path
  | 'f' => Names.lastName entry.path
  | 'h' => Copying.directoryName entry.path
  | 'P' =>
    let rest := entry.path.drop entry.start.length
    if rest.head? = some '/' then rest.drop 1 else rest
  | 'H' => entry.start
  | 'd' => (toString entry.depth).toList
  | 's' => (toString facts.size).toList
  | 'y' => [if facts.size = 0 ∧ false then 'f' else match entry.node with
      | .directory => 'd'
      | .link _ => 'l'
      | .device _ => 'c'
      | _ => 'f']
  | 'm' => Nat.toDigits 8 facts.attributes.mode
  | 'M' => Mode.rights (Listing.kindLetter entry.node) facts.attributes.mode
  | 'l' => match entry.node with
    | .link target => Bytes.toChars target
    | _ => []
  | 'n' => (toString facts.names).toList
  | 'i' => (toString facts.number).toList
  | 'u' | 'g' => "root".toList
  | 'U' | 'G' => ['0']
  | 't' => (Calendar.Instant.of (Listing.changedAt facts)).written "%a %b %e %H:%M:%S.%N0 %Y".toList
  | '%' => ['%']
  | letter => ['%', letter]

/-- A format with the facts about an entry in it. -/
def filledIn (facts : Listing.Entry) (entry : Entry) : Nat → List Char → List Char
  | 0, _ => []
  | _ + 1, [] => []
  | fuel + 1, '\\' :: rest =>
    let found := Format.escape .generous .format rest
    found.chars ++ if found.ends then [] else filledIn facts entry fuel found.rest
  | fuel + 1, '%' :: rest =>
    match Text.Directive.read? rest with
    | some (directive, behind) =>
      if directive.letter = 'T' ∨ directive.letter = 'A' ∨ directive.letter = 'C' then
        let form := ['%'] ++ behind.take 1
        (Calendar.Instant.of (Listing.changedAt facts)).written
            (if form = "%@".toList then "%s.%N0".toList else form)
          ++ filledIn facts entry fuel (behind.drop 1)
      else
        (directive.layout 0 0).ofText (fact facts entry directive.letter)
          ++ filledIn facts entry fuel behind
    | none => ['%']
  | fuel + 1, char :: rest => char :: filledIn facts entry fuel rest

/-- The facts about an entry. -/
def factsOf (entry : Entry) : FindM Listing.Entry := do
  let host := (← liftM (m := ShellM) get).host
  return Listing.entryOf host.files entry.path entry.place entry.node

/-- A lower-case form where letters of both cases are the same. -/
def cased (folded : Bool) (text : List Char) : List Char :=
  if folded then text.map Char.toLower else text

/-- The words of a program with a path in the place of every mark. -/
def named (words : List (List Char)) (path : List Char) : List (List Char) :=
  words.map fun word => Starter.substituted "\x7b\x7d".toList path (word.length + 1) word

/-- Starts a program and says whether it succeeded. -/
def started (launch : Launcher) (words : List (List Char)) : FindM Bool := do
  match ← liftM (m := ShellM) (launch false (words.headD []) (words.drop 1)) with
  | some fault => do
    liftM (m := ShellM) (complainAs "find"
      (Program.inQuotes (words.headD []) ++ ": ".toList ++ fault.plain.toList))
    return false
  | none => return (← liftM (m := ShellM) get).status == 0

/-- Does what a goal says, and says whether it holds. -/
def attain (launch : Launcher) (entry : Entry) : Goal → FindM Bool
  | .always holds => return holds
  | .name folded pattern => return pattern.accepts (cased folded (Names.lastName entry.path))
  | .path folded pattern => return pattern.accepts (cased folded entry.path)
  | .regex folded regex => do
    let subject : Text.Regex.Subject := { text := entry.path.toArray, folded }
    return (Text.Regex.steps regex.looksBack subject regex { position := 0 }).any fun spot =>
      spot.position == entry.path.length
  | .kind letters =>
    return letters.contains <| match entry.node with
      | .directory => 'd'
      | .link _ => 'l'
      | .device _ => 'c'
      | _ => 'f'
  | .size than bound unit => do
    let facts ← factsOf entry
    return than.holds bound ((facts.size + unit - 1) / unit)
  | .empty => do
    let host := (← liftM (m := ShellM) get).host
    match entry.node with
    | .directory => return (host.files.children entry.place).isEmpty
    | .file _ => return (host.files.octets entry.node).isEmpty
    | _ => return false
  | .newer time => return time < (← factsOf entry).attributes.modified
  | .age than bound unit => do
    let clock := (← liftM (m := ShellM) get).host.files.clock
    let seconds := ((clock - (← factsOf entry).attributes.modified) / 1000000).toNat
    let age := if unit = 60 then (seconds + 59) / 60 else seconds / unit
    return than.holds bound age
  | .mode bits mode => do
    let found := (← factsOf entry).attributes.mode
    return match bits with
      | .exactly => found == mode
      | .all => Nat.land found mode == mode
      | .some => mode == 0 || Nat.land found mode != 0
  | .links than bound => return than.holds bound (← factsOf entry).names
  | .executable => return (← factsOf entry).attributes.isExecutable
  | .print ending => do
    liftM (m := ShellM) (Builtin.put (entry.path ++ [ending]))
    return true
  | .format format => do
    let facts ← factsOf entry
    liftM (m := ShellM) (Builtin.put (filledIn facts entry (format.length + 1) format))
    return true
  | .remove => do
    if entry.path = ['.'] then return true
    let isDirectory := entry.node = .directory
    let fault? ← liftM (m := ShellM) <| onHost <| Host.attempt fun files base =>
      if isDirectory then files.removeDirectory base (Host.pathOf entry.path)
      else files.remove base (Host.pathOf entry.path)
    match fault? with
    | none => return true
    | some fault => do
      liftM (m := ShellM) (complainAs "find" ("cannot delete ".toList
        ++ Program.inQuotes entry.path ++ ": ".toList ++ fault.plain.toList))
      modify fun walking => { walking with failed := true }
      return false
  | .prune => do
    modify fun walking => { walking with pruned := true }
    return true
  | .quit => do
    modify fun walking => { walking with finished := true }
    return true
  | .start inDirectory words => do
    if inDirectory then
      let base := (← liftM (m := ShellM) get).host.base
      let directory := if entry.place = [] then [] else entry.place.dropLast
      liftM (m := ShellM) (modifyHost fun host => { host with base := directory })
      let done ← started launch (named words ("./".toList ++ Names.lastName entry.path))
      liftM (m := ShellM) (modifyHost fun host => { host with base })
      return done
    else started launch (named words entry.path)
  | .gather number _ => do
    modify fun walking =>
      { walking with gathered := walking.gathered ++ [(number, entry.path)] }
    return true
  | .negation goal => return !(← attain launch entry goal)
  | .both first second => do
    if ← attain launch entry first then
      if (← get).finished then return true else attain launch entry second
    else return false
  | .either first second => do
    if ← attain launch entry first then return true else attain launch entry second
  | .sequence first second => do
    discard (attain launch entry first)
    attain launch entry second

/-- Goes through an entry and all that is under it. -/
def walk (launch : Launcher) (setting : Setting) (goal : Goal) : Nat → Entry → FindM Unit
  | 0, _ => return ()
  | fuel + 1, entry => do
    let visit : FindM Unit := do
      if setting.least ≤ entry.depth ∧ !(← get).finished then
        discard (attain launch entry goal)
    modify fun walking => { walking with pruned := false }
    if !setting.insideFirst then visit
    let pruned := (← get).pruned && !setting.insideFirst
    let descends := entry.node = .directory ∧ setting.most?.all (entry.depth < ·)
    if descends ∧ !pruned then
      let files := (← liftM (m := ShellM) get).host.files
      for (place, node) in files.children entry.place do
        let path := Copying.under entry.path (Bytes.toChars (place.getLastD []))
        let (place, node) := match setting.follows, files.status [] (Files.absolute place) with
          | true, .ok found => found
          | _, _ => (place, node)
        if !(← get).finished then
          walk launch setting goal fuel
            { path, start := entry.start, depth := entry.depth + 1, place, node }
    if setting.insideFirst then visit

/-- Goes through the trees of all operands. -/
def run (launch : Launcher) (arguments : List (List Char)) : ShellM Unit := do
  let options := arguments.takeWhile fun word => ["-L", "-P", "-H"].contains (String.ofList word)
  let arguments := arguments.drop options.length
  let isPath (word : List Char) : Bool :=
    word.head? != some '-' && !( ["!", "(", ")", ","] : List String).contains (String.ofList word)
      || word = ['-']
  let operands := arguments.takeWhile isPath
  let words := arguments.drop operands.length
  let operands := if operands.isEmpty then [['.']] else operands
  let step : Read Goal := do
    if words.isEmpty then return .always true
    let goal ← expression (8 * words.length + 16)
    match (← get).rest with
    | [] => return goal
    | [')'] :: _ => refuse "invalid expression; you have too many ')'".toList
    | _ => refuse "invalid expression".toList
  setStatus 0
  match ← (step.run { rest := words }).run with
  | .error text => do
    complainAs "find" text
    setStatus 1
  | .ok (goal, reading) => do
    let follows := reading.setting.follows || options.getLast? == some "-L".toList
    let setting := { reading.setting with follows }
    let goal := if setting.acts then goal else .both goal (.print '\n')
    let mut walking : Walking := {}
    for operand in operands do
      if !walking.finished then
        let host := (← get).host
        let found := if follows ∨ options.getLast? = some "-H".toList then
            host.files.status host.base (Host.pathOf operand)
          else host.files.linkStatus host.base (Host.pathOf operand)
        match found with
        | .error fault => do
          complainAs "find" (Program.inQuotes operand ++ ": ".toList ++ fault.plain.toList)
          walking := { walking with failed := true }
        | .ok (place, node) => do
          let entry : Entry := { path := operand, start := operand, depth := 0, place, node }
          let (_, after) ← (walk launch setting goal Copying.depth entry).run walking
          walking := after
    let mut failed := walking.failed
    for (number, words) in setting.gathered do
      let paths := (walking.gathered.filter (·.1 == number)).map (·.2)
      if !paths.isEmpty then
        let (done, _) ← (started launch (words ++ paths)).run {}
        if !done then failed := true
    setStatus (if failed then 1 else 0)

end KernelCache.Shell.Find
