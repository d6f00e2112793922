import KernelCache.Shell.Assigning
import KernelCache.Shell.Builtin
import KernelCache.Shell.Launch

/-
**Simple commands.**

The words of a simple command are expanded first, then its redirections are done, and then its
assignments. Its name stands for a command of the shell, a function or a program. A special command
keeps its assignments, and its faults end the shell.

* `simple` runs a simple command.
* `callFunction` calls a function.
-/

/-! ## Commands of the extended dialect

`Declare.run` gives variables attributes; `Declare.others` are the remaining commands that only this
dialect has and that start no other command.
-/

namespace KernelCache.Shell.Declare

/-- The attributes that a declaration sets and takes away, and the words behind them. -/
structure Request where
  on : List Char := []
  off : List Char := []
  words : List (List Char) := []

/-- Reads the arguments of a declaration. -/
def request : List (List Char) → Request → Request
  | [], found => found
  | ['-', '-'] :: rest, found => { found with words := rest }
  | ('-' :: first :: letters) :: rest, found =>
    request rest { found with on := first :: letters ++ found.on }
  | ('+' :: first :: letters) :: rest, found =>
    request rest { found with off := first :: letters ++ found.off }
  | words, found => { found with words }

/-- A variable with the attributes of a declaration, apart from the one that fixes it. -/
def attributed (request : Request) (binding : Variable) : Variable :=
  let has (letter : Char) (before : Bool) : Bool :=
    request.on.contains letter || (before && !request.off.contains letter)
  let value? := if request.on.contains 'A' then
      match binding.value? with
      | some (.table elements) => some (.table elements)
      | _ => some (.table [])
    else if request.on.contains 'a' then
      match binding.value? with
      | some (.text chars) => some (.row [(0, chars)])
      | none => some (.row [])
      | some value => some value
    else binding.value?
  { binding with value?, exported := has 'x' binding.exported, numeric := has 'i' binding.numeric }

/-- Text between double quotes. -/
def inDouble (text : List Char) : List Char :=
  let escaped := text.flatMap fun char =>
    if char = '"' ∨ char = '\\' ∨ char = '$' ∨ char.toNat = 0x60 then ['\\', char] else [char]
  '"' :: escaped ++ ['"']

/-- A variable as a declaration writes it. -/
def shown (name : List Char) (binding : Variable) : List Char :=
  let kind := match binding.value? with
    | some (.row _) => ['a']
    | some (.table _) => ['A']
    | _ => []
  let letters := kind ++ (if binding.numeric then ['i'] else [])
    ++ (if binding.fixed then ['r'] else []) ++ (if binding.exported then ['x'] else [])
  let letters := if letters = [] then ['-'] else letters
  let element (key text : List Char) : List Char := '[' :: key ++ "]=".toList ++ inDouble text
  let value := match binding.value? with
    | none => []
    | some (.text chars) => '=' :: inDouble chars
    | some (.row elements) =>
      let texts := elements.map fun (number, text) => element (toString number).toList text
      "=(".toList ++ [' '].intercalate texts ++ [')']
    | some (.table elements) =>
      "=(".toList ++ elements.flatMap (fun (key, text) => element key text ++ [' ']) ++ [')']
  "declare -".toList ++ letters ++ ' ' :: name ++ value

/-- Writes variables as declarations. -/
def exhibit (names : List (List Char)) : ShellM Unit := do
  let state ← get
  if names.isEmpty then
    for (name, binding) in Builtin.sorted state.bindings do Builtin.putLine (shown name binding)
  for name in names do
    match state.binding? name with
    | some binding => Builtin.putLine (shown name binding)
    | none => do
      complain (name ++ ": not found".toList)
      setStatus 1

/-- Declares one name: it may have a value behind it. -/
def declareName (request : Request) (owned : Bool) (word : List Char) : ShellM Unit := do
  let (full, value?) := Builtin.assignment word
  let (full, how) := if full.getLast? = some '+' then (full.dropLast, Assigning.add)
    else (full, .set)
  let name := full.takeWhile (· != '[')
  Builtin.demandName name
  if owned ∧ !request.on.contains 'g' then
    Builtin.keepOuter name
    if !(((← get).binding? name).any (·.fixed)) then
      modify fun state => state.remove name
  let old := ((← get).binding? name).getD {}
  modify fun state => state.setVariable name (attributed request old)
  if let some value := value? then
    match full.drop name.length with
    | _ :: index => assignElement name index.dropLast how value
    | [] => assignText name how value

/-- Fixes names, if a declaration says so. -/
def settle (request : Request) (names : List (List Char)) : ShellM Unit := do
  if request.on.contains 'r' then
    for name in names do
      modify fun state =>
        state.setVariable name { (state.binding? name).getD {} with fixed := true }

/-- Declares the names in the arguments, and those of arrays, which `assign` then fills. -/
def run (owned : Bool) (arguments : List (List Char)) (arrays : List (List Char))
    (assign : ShellM Unit) : ShellM Unit := do
  let request := request arguments {}
  setStatus 0
  if request.on.contains 'p' then exhibit request.words
  else if request.on.contains 'f' ∨ request.on.contains 'F' then
    let state ← get
    for name in request.words do
      if (state.functions.lookup name).isNone then setStatus 1
      else if request.on.contains 'F' then Builtin.putLine name
  else if request.words.isEmpty ∧ arrays.isEmpty then exhibit []
  else
    for word in request.words ++ arrays do declareName request owned word
    assign
    let names := request.words.map fun word => (Builtin.assignment word).1.takeWhile (· != '[')
    settle request (names ++ arrays)

/-- Calculates expressions. -/
def calculate (arguments : List (List Char)) : ShellM Unit := do
  if arguments.isEmpty then fail "expression expected".toList
  let mut last : Int := 0
  for text in arguments do last ← Arithmetic.evaluate text
  setStatus (if last = 0 then 1 else 0)

/-- Reads lines into an array. -/
def readLines (arguments : List (List Char)) : ShellM Unit := do
  let (options, names) ← Builtin.optionsOf "t" arguments "dnOsuCc"
  match ← onHost (Host.readFrom 0 none) with
  | .error _ => setStatus 1
  | .ok bytes => do
    let mark := match options.lookup 'd' with
      | some (char :: _) => char
      | some [] => '\x00'
      | none => '\n'
    let text := Bytes.toChars bytes
    let parts := text.splitOn mark
    let ended := parts.getLast? = some []
    let whole := if ended then parts.dropLast else parts
    let strips := options.any (·.1 == 't')
    let lines := whole.mapIdx fun index line =>
      if strips ∨ (!ended ∧ index + 1 = whole.length) then line else line ++ [mark]
    let count? := (options.lookup 'n').bind fun text => (String.ofList text).toNat?
    let lines := match count? with
      | some 0 | none => lines
      | some count => lines.take count
    setStatus 0
    assign (names.headD "MAPFILE".toList) (.row ((List.range lines.length).zip lines))

/-- The other commands. -/
def others : List (String × Builtin.Action) := [
  ("let", calculate), ("mapfile", readLines), ("readarray", readLines),
  ("shopt", Builtin.quiet), ("enable", Builtin.quiet), ("disown", Builtin.quiet),
  ("history", Builtin.quiet), ("help", Builtin.quiet), ("caller", fun _ => setStatus 1)]

/-- The commands behind which assignments are declarations. -/
def declaring : List String := ["declare", "typeset", "local", "export", "readonly"]

end KernelCache.Shell.Declare

/-! ## Simple commands -/

namespace KernelCache.Shell

/-! ### Words -/

/-- Whether a word has the form of an assignment. -/
def isAssigned : Word → Bool
  | .text false chars :: _ =>
    let name := chars.takeWhile (· != '=')
    Builtin.isName (if name.getLast? = some '+' then name.dropLast else name)
      && name.length < chars.length
  | _ => false

/-- A word in the form of an assignment, with the home directory that its value may start with. -/
def withHome : Word → Word
  | .text false chars :: rest =>
    let name := chars.takeWhile (· != '=')
    match chars.drop (name.length + 1) with
    | '~' :: behind =>
      let owner := behind.takeWhile (· != '/')
      .text false (name ++ ['=']) :: .home owner :: .text false (behind.drop owner.length) :: rest
    | _ => .text false chars :: rest
  | word => word

/-- Whether assignments behind a name are not split. -/
def declares (extended : Bool) (name : List Char) : Bool :=
  let name := String.ofList name
  (extended && Declare.declaring.contains name)
    || ["export", "readonly", "local", "alias"].contains name

/-- The words that the words of a command stand for; `declaring` behind the name of a declaration,
and nothing is known before the name. -/
def expandWords (expanding : Expanding) (extended : Bool) :
    Option Bool → List Word → ShellM (List (List Char))
  | _, [] => return []
  | declaring, word :: rest => do
    let found ← if declaring = some true ∧ isAssigned word then
        pure [← expandText expanding (withHome word)]
      else expandFields expanding word
    let declaring := match declaring, found with
      | none, name :: _ =>
        if name = "command".toList then none else some (declares extended name)
      | declaring, _ => declaring
    return found ++ (← expandWords expanding extended declaring rest)

/-! ### Showing what is run -/

/-- Writes what is run to where messages went before the redirections of the command. -/
def showRun (errors? : Option Nat) (line : List Char) : ShellM Unit := do
  let state ← get
  match errors? with
  | some number => do
    let front := (state.value? "PS4".toList).getD ("+ ".toList)
    let spare := 900
    modifyHost (·.connect spare number)
    emit spare (front ++ line ++ ['\n'])
    modifyHost (·.close spare)
  | none => return ()

/-- Writes the words of a command and the assignments in front of it. -/
def showCommand (errors? : Option Nat) (names : List (List Char)) (words : List (List Char)) :
    ShellM Unit := do
  let state ← get
  if state.has 'x' then
    let values := names.map fun name =>
      let value := (state.value? name).getD []
      name ++ '=' :: (if state.isExtended ∧ value ≠ [] then Quoting.shortest value else value)
    if state.isExtended then
      for line in values do showRun errors? line
      if !words.isEmpty then showRun errors? ([' '].intercalate (words.map Quoting.shortest))
    else showRun errors? ([' '].intercalate (values ++ words))

/-! ### Functions and scripts that are read in -/

/-- So many functions may be around a command of the plain dialect. -/
def callLimit : Nat := 1000

/-- Calls a function. -/
def callFunction (run : Runner) (function : Function) (arguments : List (List Char)) :
    ShellM Unit := do
  let before ← get
  if !before.isExtended ∧ callLimit ≤ before.calls then
    fail "Maximum function recursion depth (1000) reached".toList
  set { before with
    arguments
    loops := 0
    calls := before.calls + 1
    shadowed := some []
    place := 1
    letter := 0
    offset := if before.isExtended then 0 else function.line - 1 }
  let outcome ← catching (run function.body)
  modify fun state =>
    { Builtin.unshadow (state.shadowed.getD []) state with
      arguments := before.arguments
      loops := before.loops
      calls := before.calls
      shadowed := before.shadowed
      place := before.place
      letter := before.letter
      offset := before.offset
      line := before.line }
  match outcome with
  | .error .giveBack => return ()
  | outcome => resume outcome

/-- Runs the script in a file as a part of this one. -/
def readIn (run : Runner) (arguments : List (List Char)) : ShellM Unit := do
  let arguments := if arguments.head? = some ['-', '-'] then arguments.drop 1 else arguments
  match arguments with
  | [] =>
    if (← get).isExtended then fail "filename argument required".toList else setStatus 0
  | path :: others => do
    let state ← get
    let places := if path.contains '/' then [path]
      else
        (directories ((state.value? "PATH".toList).getD [])).map (· ++ '/' :: path)
          ++ (if state.isExtended then [path] else [])
    let isThere (place : List Char) : Bool :=
      match state.host.files.status state.host.base (Host.pathOf place) with
      | .ok (_, node) => node != .directory || path.contains '/'
      | .error _ => false
    match places.find? isThere with
    | none =>
      if state.isExtended then
        modify fun state => { state with command? := none }
        fail (path ++ ": No such file or directory".toList)
      else if path.contains '/' then fail ("cannot open ".toList ++ path ++ ": No such file".toList)
      else fail (path ++ ": not found".toList)
    | some place => do
      match ← onHost (Host.contentsOf place) with
      | .error fault =>
        if state.isExtended then fail (path ++ ": ".toList ++ fault.plain.toList)
        else setStatus 0
      | .ok bytes => do
        let extended := state.isExtended
        modify fun state =>
          { state with
            calls := state.calls + 1
            offset := 0
            asText := false
            name := if extended then place else state.name
            arguments := if extended ∧ !others.isEmpty then others else state.arguments }
        let step := runText run (Bytes.toChars bytes)
        let outcome ← catching (if extended then
            do
              modify fun state => { state with command? := none }
              step
          else asCommand place step)
        modify fun inner =>
          { inner with
            calls := state.calls
            offset := state.offset
            asText := state.asText
            name := state.name
            line := state.line
            arguments := if extended ∧ !others.isEmpty then state.arguments else inner.arguments }
        match outcome with
        | .error .giveBack => return ()
        | outcome => resume outcome

/-! ### What a name stands for -/

/-- What is run for a name. -/
inductive Role where
  | special (action : Builtin.Action)
  | ordinary (action : Builtin.Action)
  | function (function : Function)
  | program

/-- Runs a program by its name; `inPlace` when it takes the place of the shell. -/
def runProgram (run : Runner) (inPlace : Bool) (name : List Char) (arguments : List (List Char)) :
    ShellM Unit := do
  match ← launch run inPlace name arguments with
  | none => return ()
  | some fault => do
    let extended := (← get).isExtended
    let isDirectory := match commandAt (← get) name with
      | .ok .directory => name.contains '/'
      | _ => false
    let text := if !extended then findFault fault
      else if isDirectory then "Is a directory".toList
      else if findCode fault = missing then
        (if name.contains '/' then "No such file or directory" else "command not found").toList
      else fault.plain.toList
    complain (name ++ ": ".toList ++ text)
    setStatus (findCode fault)

/-- Lets a program take the place of the shell. -/
def replace (run : Runner) (arguments : List (List Char)) : ShellM Unit := do
  let arguments := if arguments.head? = some ['-', '-'] then arguments.drop 1 else arguments
  match arguments with
  | [] => setStatus 0
  | name :: rest => do
    match ← catching (launch run true name rest) with
    | .ok (some fault) => do
      let text := if findCode fault = missing then "not found".toList else fault.plain.toList
      complain (name ++ ": ".toList ++ text)
      throw (.leave (findCode fault))
    | .ok none => do
      modify fun state => { state with traps := [] }
      throw (.leave (← get).status)
    | .error jump => throw jump

/-- Runs the words as a part of the script. -/
def evaluateWords (run : Runner) (arguments : List (List Char)) : ShellM Unit := do
  let arguments := if arguments.head? = some ['-', '-'] then arguments.drop 1 else arguments
  let before ← get
  modify fun state => { state with offset := 0 }
  let outcome ← catching (runText run ([' '].intercalate arguments))
  modify fun state => { state with offset := before.offset, line := before.line }
  resume outcome

/-- Lists, adds or forgets the commands that were found among the programs. -/
def remember (arguments : List (List Char)) : ShellM Unit := do
  let (options, names) ← Builtin.optionsOf (if (← get).isExtended then "rdlpt" else "rv") arguments
  setStatus 0
  if options.any (·.1 == 'r') then modify fun state => { state with hashed := [] }
  else if names.isEmpty then
    for name in (← get).hashed.reverse do
      if let .ok (path, _) := findCommand (← get) name then Builtin.putLine path
  for name in names do
    let state ← get
    match findCommand state name with
    | .ok _ => set { state with hashed := name :: state.hashed.filter (· != name) }
    | .error _ => do
      complain (name ++ ": not found".toList)
      setStatus 1

/-- The commands of the shell that start other commands, apart from `command`. -/
def starting (run : Runner) : List (String × Builtin.Action) := [
  ("type", describe false), ("kill", kill run), ("hash", remember)]

/-- The special commands of the shell that start other commands. -/
def startingSpecial (run : Runner) : List (String × Builtin.Action) := [
  ("eval", evaluateWords run), (".", readIn run), ("exec", replace run)]

/-- The commands that only the extended dialect has. -/
def extendedTarget? (run : Runner) (name : String) : Option Builtin.Action :=
  match name with
  | "source" => some (readIn run)
  | "declare" | "typeset" => some fun arguments => do
    Declare.run (← get).shadowed.isSome arguments [] (pure ())
  | "local" => some fun arguments => do
    if (← get).shadowed.isNone then fail "can only be used in a function".toList
    Declare.run true arguments [] (pure ())
  | name => Declare.others.lookup name

/-- What a name stands for; functions count when `withFunctions`. -/
def roleOf (run : Runner) (withFunctions : Bool) (state : State) (name : List Char) : Role :=
  let spelling := String.ofList name
  let function? := if withFunctions then state.functions.lookup name else none
  let special? := (Builtin.special.lookup spelling).or ((startingSpecial run).lookup spelling)
  let ordinary? := (Builtin.ordinary.lookup spelling).or ((starting run).lookup spelling)
  if state.isExtended then
    match function?, extendedTarget? run spelling, special?, ordinary? with
    | some function, _, _, _ => .function function
    | none, some action, _, _ => .ordinary action
    | none, none, some action, _ => .special action
    | none, none, none, some action => .ordinary action
    | none, none, none, none => .program
  else
    match special?, function?, ordinary? with
    | some action, _, _ => .special action
    | none, some function, _ => .function function
    | none, none, some action => .ordinary action
    | none, none, none => .program

/-- Does what a command of the shell does, and then says whether its output could not be written. -/
def runAction (name : List Char) (action : Builtin.Action) (arguments : List (List Char)) :
    ShellM Unit := do
  modifyHost fun host => { host with fault? := none }
  asCommand name do
    let outcome ← catching (action arguments)
    if let some fault := (← get).host.fault? then
      modifyHost fun host => { host with fault? := none }
      if (← get).isExtended then complain ("write error: ".toList ++ fault.plain.toList)
      else complain (name ++ ": I/O error".toList)
      setStatus 1
    resume outcome

/-- Does an action whose faults end no more than itself. -/
def contained (step : ShellM Unit) : ShellM Unit := do
  match ← catching step with
  | .error .failed => return ()
  | outcome => resume outcome

/-- Runs what is named behind `command`: no function, and nothing special. -/
def runPast (run : Runner) (name : List Char) (arguments : List (List Char)) : ShellM Unit := do
  match roleOf run false (← get) name with
  | .special action | .ordinary action => contained (runAction name action arguments)
  | .function _ | .program => runProgram run false name arguments

/-- Runs a command past the functions, or says what it stands for. -/
def commandBuiltin (run : Runner) (arguments : List (List Char)) : ShellM Unit := do
  let (options, words) ← Builtin.optionsOf "pvV" arguments
  let extended := (← get).isExtended
  match options.find? fun option => option.1 != 'p' with
  | some (letter, _) => describe (letter == 'v') (if extended then words else words.take 1)
  | none =>
    match words with
    | [] => setStatus 0
    | name :: rest =>
      if name = "command".toList then
        -- A second one changes nothing.
        match rest with
        | [] => setStatus 0
        | name :: rest => runPast run name rest
      else do
        modify fun state => { state with command? := none }
        runPast run name rest

/-- Runs an action of the extended dialect, or another one, past the functions. -/
def builtinOnly (run : Runner) (arguments : List (List Char)) : ShellM Unit := do
  match arguments with
  | [] => setStatus 0
  | name :: rest =>
    match roleOf run false (← get) name with
    | .special action | .ordinary action => contained (runAction name action rest)
    | _ => fail (name ++ ": not a shell builtin".toList)

/-! ### Simple commands -/

/-- The assignments of whole arrays behind a declaration. -/
def isDeclaration (state : State) (name : List Char) (assignments : List Assignment) : Bool :=
  state.isExtended && Declare.declaring.contains (String.ofList name)
    && assignments.any Assignment.isMany

/-- Runs a declaration with whole arrays. -/
def declareArrays (expanding : Expanding) (name : List Char) (arguments : List (List Char))
    (assignments : List Assignment) : ShellM Unit := do
  let owned := (← get).shadowed.isSome && name != "export".toList && name != "readonly".toList
  let arguments := if name = "readonly".toList then ['-', 'r'] :: arguments
    else if name = "export".toList then ['-', 'x'] :: arguments
    else arguments
  Declare.run owned arguments (assignments.map Assignment.name) (carryOutAll expanding assignments)

/-- Runs a command with a name under its redirections. -/
def named (run : Runner) (expanding : Expanding) (errors? : Option Nat)
    (assignments : List Assignment) (name : List Char) (arguments : List (List Char))
    (target : Role) : ShellM Unit := do
  let state ← get
  let names := assignments.map Assignment.name
  if isDeclaration state name assignments then
    contained (asCommand name (declareArrays expanding name arguments assignments))
  else
    let keeps := match target with
      | .special _ => !state.isExtended
      | _ => false
    let before := state.bindings
    let step : ShellM Unit := do
      carryOutAll expanding assignments
      if !keeps then expose names
      showCommand errors? names (name :: arguments)
      match target with
      | .special action =>
        if state.isExtended then contained (runAction name action arguments)
        else runAction name action arguments
      | .ordinary action => contained (runAction name action arguments)
      | .function function => callFunction run function arguments
      | .program => runProgram run false name arguments
    if keeps ∨ names.isEmpty then step else withVariables names before step

/-- Runs a simple command. -/
def simple (run : Runner) (line : Nat) (assignments : List Assignment) (words : List Word)
    (redirections : List Redirection) : ShellM Unit := do
  modify fun state => { state with line, wordStatus := 0 }
  let expanding := expandingWith (apart run)
  let extended := (← get).isExtended
  let refusedCode := if extended then 1 else 2
  let errors? := (← get).host.descriptors.lookup 2
  match ← expandWords expanding extended none words with
  | [] =>
    let step : ShellM Unit := do
      carryOutAll expanding assignments
      showCommand errors? (assignments.map Assignment.name) []
      setStatus (← get).wordStatus
    redirecting expanding redirections step (setStatus refusedCode)
  | name :: arguments => do
    let spelling := String.ofList name
    let target := match spelling, roleOf run true (← get) name with
      | _, .function function => Role.function function
      | "command", _ => .ordinary (commandBuiltin run)
      | "builtin", target => if extended then .ordinary (builtinOnly run) else target
      | _, target => target
    let step := named run expanding errors? assignments name arguments target
    match target with
    | .special _ =>
      let refused : ShellM Unit := do
        setStatus refusedCode
        if !extended then throw .failed
      if spelling = "exec" ∧ arguments.isEmpty then
        if ← redirectAll expanding redirections then
          carryOutAll expanding assignments
          setStatus 0
        else refused
      else redirecting expanding redirections step refused
    | _ => redirecting expanding redirections step (setStatus refusedCode)

end KernelCache.Shell
