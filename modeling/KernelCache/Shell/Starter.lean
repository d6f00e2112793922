import KernelCache.Shell.Process

/-
**Programs that start other programs.**

Each of them changes something about the process, the time it has or its arguments, and then starts
what its command line names. How a program is started by its name is given.
-/

namespace KernelCache.Shell.Starter

/-- Starts a program by its name, in the place of this process or not; what is in the way when there
is none. -/
abbrev Launcher := Bool → List Char → List (List Char) → ShellM (Option Fault)

/-- Writes a line about what went wrong. -/
def complainAs (name : String) (text : List Char) : ShellM Unit :=
  emit 2 (name.toList ++ ": ".toList ++ text ++ ['\n'])

/-- Complains about a wrong command line. -/
def misuse (name : String) (code : Nat) (text : List Char) : ShellM Unit := do
  complainAs name text
  emit 2 ("Try '".toList ++ name.toList ++ " --help' for more information.\n".toList)
  setStatus code

/-- Reads the options of a command line, which end at its first operand. -/
def withOptions (name : String) (grammar : Grammar) (code : Nat) (arguments : List (List Char))
    (work : Options → ShellM Unit) : ShellM Unit :=
  match { grammar with ordered := true }.read arguments with
  | .error text => misuse name code text
  | .ok options => work options

/-- Starts what a command line names, and complains when it cannot. -/
def start (launch : Launcher) (name front : String) (quotes : Bool) (words : List (List Char)) :
    ShellM Unit := do
  match words with
  | [] => return ()
  | program :: arguments => do
    if let some fault ← launch true program arguments then
      let shown := if quotes then Program.inQuotes program else program
      complainAs name (front.toList ++ shown ++ ": ".toList ++ fault.plain.toList)
      setStatus (findCode fault)

/-! ### Surroundings -/

/-- Sets the variables in front of a command line, and yields the rest. -/
def setting : List (List Char) → ShellM (List (List Char))
  | [] => return []
  | word :: rest => do
    let name := word.takeWhile (· != '=')
    match word.drop name.length with
    | _ :: value => do
      if name = [] then return word :: rest
      modify fun state => state.setVariable name { value? := some (.text value), exported := true }
      setting rest
    | [] => return word :: rest

/-- Starts a program with other variables, or lists the variables. -/
def env (launch : Launcher) (arguments : List (List Char)) : ShellM Unit := do
  let grammar : Grammar :=
    .of "iu:0C:S:v" [("ignore-environment", 'i'), ("unset=", 'u'), ("null", '0'), ("chdir=", 'C'),
      ("split-string=", 'S'), ("debug", 'v')] true
  withOptions "env" grammar 125 arguments fun options => do
    let operands := match options.value? 'S' with
      | some text => (text.splitOn ' ').filter (· ≠ []) ++ options.operands
      | none => options.operands
    let (cleared, operands) := match operands with
      | ['-'] :: rest => (true, rest)
      | operands => (options.has 'i', operands)
    if cleared then modify fun state => { state with bindings := [] }
    for name in options.values 'u' do modify fun state => state.remove name
    let words ← setting operands
    if let some directory := options.value? 'C' then
      let host := (← get).host
      match host.files.status host.base (Host.pathOf directory) with
      | .ok (place, .directory) => modifyHost fun host => { host with base := place }
      | .ok _ | .error _ => do
        complainAs "env" ("cannot change directory to ".toList ++ Program.inQuotes directory
          ++ ": No such file or directory".toList)
        setStatus 125
        throw .failed
    match words with
    | [] => do
      let mark := if options.has '0' then '\x00' else '\n'
      setStatus 0
      for (name, value) in (← get).environment do
        emit 1 (name ++ '=' :: value ++ [mark])
    | words => start launch "env" "" true words

/-- Starts a program that goes on when its user leaves. -/
def nohup (launch : Launcher) (arguments : List (List Char)) : ShellM Unit :=
  withOptions "nohup" (.of "") 125 arguments fun options => do
    if options.operands.isEmpty then misuse "nohup" 125 "missing operand".toList
    else start launch "nohup" "failed to run command " true options.operands

/-- Starts a program that yields to others. -/
def nice (launch : Launcher) (arguments : List (List Char)) : ShellM Unit := do
  let arguments := match arguments with
    | ('-' :: digit :: more) :: rest =>
      if digit.isDigit then ['-', 'n'] :: (digit :: more) :: rest else arguments
    | _ => arguments
  withOptions "nice" (.of "n:" [("adjustment=", 'n')]) 125 arguments fun options => do
    if options.operands.isEmpty then
      setStatus 0
      emit 1 "0\n".toList
    else start launch "nice" "" true options.operands

/-- Starts a program in a session of its own. -/
def setsid (launch : Launcher) (arguments : List (List Char)) : ShellM Unit := do
  let grammar : Grammar := .of "cfw" [("ctty", 'c'), ("fork", 'f'), ("wait", 'w')]
  withOptions "setsid" grammar 1 arguments fun options => do
    if options.operands.isEmpty then
      complainAs "setsid" "no command specified".toList
      setStatus 1
    else start launch "setsid" "failed to execute " false options.operands

/-- Starts a program whose output is kept back differently. -/
def stdbuf (launch : Launcher) (arguments : List (List Char)) : ShellM Unit := do
  let grammar : Grammar := .of "i:o:e:" [("input=", 'i'), ("output=", 'o'), ("error=", 'e')]
  withOptions "stdbuf" grammar 125 arguments fun options => do
    if options.operands.isEmpty then misuse "stdbuf" 125 "missing operand".toList
    else start launch "stdbuf" "failed to run command " true options.operands

/-- Writes where programs are. -/
def which (arguments : List (List Char)) : ShellM Unit := do
  let all := arguments.head? = some ['-', 'a']
  let names := if all then arguments.drop 1 else arguments
  setStatus (if names.isEmpty then 1 else 0)
  for name in names do
    match findCommand (← get) name with
    | .ok (path, _) => emit 1 (path ++ ['\n'])
    | .error _ => setStatus 1

/-! ### Time -/

/-- Starts a program and ends it after some time. -/
def timeout (launch : Launcher) (arguments : List (List Char)) : ShellM Unit := do
  let grammar : Grammar :=
    .of "fk:ps:v" [("foreground", 'f'), ("kill-after=", 'k'), ("preserve-status", 'p'),
      ("signal=", 's'), ("verbose", 'v')]
  withOptions "timeout" grammar 125 arguments fun options => do
    let signalOf (text : List Char) : Option Nat :=
      let name := text.map Char.toUpper
      Builtin.signal? (if "SIG".toList.isPrefixOf name then name.drop 3 else name)
    let signal? := (options.value? 's').elim (some 15) signalOf
    match options.operands, signal? with
    | _, none => do
      misuse "timeout" 125 (Program.inQuotes ((options.value? 's').getD [])
        ++ ": invalid signal".toList)
    | [], _ | [_], _ => misuse "timeout" 125 "missing operand".toList
    | length :: program :: rest, some signal =>
      match Facts.duration? length with
      | none => misuse "timeout" 125 ("invalid time interval ".toList ++ Program.inQuotes length)
      | some length? => do
        let step : ShellM Unit := start launch "timeout" "failed to run command " true (program :: rest)
        match length? with
        | none | some 0 => step
        | some length => do
          if ← upToTime length step then
            setStatus (if signal = 9 then signalBase + 9
              else if options.has 'p' then signalBase + signal else 124)

/-! ### Arguments from the input -/

/-- The words of a text, apart at blanks; quotes and backslashes keep blanks. -/
def wordsOf (text : List Char) : List (List Char) :=
  let rec go (quote? : Option Char) (word : List Char) (started : Bool)
      (found : List (List Char)) : List Char → List (List Char)
    | [] => (if started then word.reverse :: found else found).reverse
    | char :: rest =>
      match quote? with
      | some quote =>
        if quote = '\\' then go none (char :: word) true found rest
        else if char = quote then go none word true found rest
        else go quote? (char :: word) true found rest
      | none =>
        if char = '\'' ∨ char = '"' ∨ char = '\\' then go (some char) word true found rest
        else if char = ' ' ∨ char = '\t' ∨ char = '\n' then
          if started then go none [] false (word.reverse :: found) rest
          else go none [] false found rest
        else go none (char :: word) true found rest
  go none [] false [] text

/-- A text with another one in the place of every mark. -/
def substituted (mark other : List Char) : Nat → List Char → List Char
  | 0, text => text
  | _ + 1, [] => []
  | fuel + 1, char :: rest =>
    if mark ≠ [] ∧ mark.isPrefixOf (char :: rest) then
      other ++ substituted mark other fuel ((char :: rest).drop mark.length)
    else char :: substituted mark other fuel rest

/-- Items in groups of a size. -/
def groupsOf (size : Nat) (items : List (List Char)) : List (List (List Char)) :=
  Sha256.chunks size items

/-- Starts a program with arguments that are read from the input. -/
def xargs (launch : Launcher) (arguments : List (List Char)) : ShellM Unit := do
  let grammar : Grammar :=
    .of "0a:d:E:e::I:i::L:l::n:oP:prs:tx" [("null", '0'), ("arg-file=", 'a'), ("delimiter=", 'd'),
      ("replace?", 'i'), ("max-lines?", 'L'), ("max-args=", 'n'), ("max-procs=", 'P'),
      ("no-run-if-empty", 'r'), ("max-chars=", 's'), ("verbose", 't'), ("exit", 'x')]
  withOptions "xargs" grammar 1 arguments fun options => do
    let words := if options.operands.isEmpty then ["echo".toList] else options.operands
    let source := (options.value? 'a').getD ['-']
    match ← onHost (Host.contentsOf source) with
    | .error fault => do
      complainAs "xargs" (source ++ ": ".toList ++ fault.plain.toList)
      setStatus 1
    | .ok bytes => do
      let text := Bytes.toChars bytes
      let lines := text.splitOn '\n' |>.filter fun line => !(line.all fun char => char == ' ')
      let mark? := if options.has 'I' then options.value? 'I'
        else if options.has 'i' then some ((options.value? 'i').getD "\x7b\x7d".toList) else none
      let separated (mark : Char) : List (List Char) :=
        let items := text.splitOn mark
        if items.getLast? = some [] then items.dropLast else items
      let items := if options.has '0' then separated '\x00'
        else match options.value? 'd' with
          | some ['\\', 'n'] => separated '\n'
          | some ['\\', 't'] => separated '\t'
          | some ['\\', '0'] => separated '\x00'
          | some (mark :: _) => separated mark
          | _ =>
            if mark?.isSome then lines.map fun line => line.dropWhile fun char => char == ' ' || char == '\t'
            else wordsOf text
      let number? (letter : Char) : Option Nat := (options.value? letter).bind Program.count?
      let groups := match mark?, number? 'n', number? 'L' with
        | some _, _, _ => items.map fun item => [item]
        | none, some count, _ => groupsOf count items
        | none, none, some count => (groupsOf count lines).map fun group => group.flatMap wordsOf
        | none, none, none => if items.isEmpty then [] else [items]
      let groups := if groups.isEmpty ∧ mark?.isNone ∧ !options.has 'r' then [[]] else groups
      let commands := groups.map fun group =>
        match mark?, group with
        | some mark, [item] => words.map fun word => substituted mark item (word.length + 1) word
        | _, group => words ++ group
      let mut code := 0
      let before ← get
      for command in commands do
        if options.has 't' then emit 2 ([' '].intercalate command ++ ['\n'])
        if source = ['-'] ∧ !options.has 'o' then
          modifyHost (·.place 0 { stream := .device .null, reads := true, writes := false })
        match ← launch false (command.headD []) (command.drop 1) with
        | some fault => do
          complainAs "xargs" (command.headD [] ++ ": ".toList ++ fault.plain.toList)
          setStatus (findCode fault)
          return ()
        | none => do
          let status := (← get).status
          if status = 255 then
            complainAs "xargs" (command.headD [] ++ ": exited with status 255; aborting".toList)
            setStatus 124
            return ()
          else if signalBase < status ∧ status < 160 then
            complainAs "xargs" (command.headD [] ++ ": terminated by signal ".toList
              ++ (toString (status - signalBase)).toList)
            setStatus 125
            return ()
          else if status ≠ 0 then code := 123
      modifyHost fun host => { host with descriptors := before.host.descriptors }
      setStatus code

end KernelCache.Shell.Starter
