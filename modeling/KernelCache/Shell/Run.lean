import KernelCache.Shell.Assigning
import KernelCache.Shell.Builtin
import KernelCache.Text.Regex
import KernelCache.Utility.Condition
import KernelCache.Shell.Simple

/-
**Running scripts.**

* `execute` runs a command that is not deeper than so many levels; what goes deeper overflows the
  memory of the shell.
* `Shell.perform` runs a command line in a fresh shell and says how it ended.
-/

/-! ## Conditions in double brackets

Their words are not split. The right side of a comparison is a pattern or a regular expression, of
which quoted parts stand for themselves.

* `decides` says whether a condition holds.
-/

namespace KernelCache.Shell

/-- What a question about files and texts answers; one that makes no sense fails. -/
def holdsOf (words : List (List Char)) : ShellM Bool := do
  let state ← get
  match KernelCache.Condition.decide state.host.files state.host.base true words with
  | .ok holds => return holds
  | .error text => fail text

/-- Whether a condition with one word holds. -/
def holdsOfOne (operator word : List Char) : ShellM Bool := do
  let state ← get
  match operator with
  | ['-', 'v'] =>
    let name := word.takeWhile (· != '[')
    let index := (word.drop (name.length + 1)).takeWhile (· != ']')
    if index = [] then return (state.value? name).isSome
    else return (← elementAt name index).isSome
  | ['-', 'o'] =>
    return ((Builtin.optionNames.lookup (String.ofList word)).map state.has).getD false
  | ['-', 'n'] => return word ≠ []
  | ['-', 'z'] => return word = []
  | operator => holdsOf [operator, word]

/-- The text of a regular expression, in which a backslash is in front of what is quoted. -/
def expressionOf (chars : List Pattern.Marked) : List Char :=
  chars.flatMap fun (char, quoted) =>
    if quoted ∧ "\\^$.|?*+()[]\x7b\x7d".toList.contains char then ['\\', char] else [char]

/-- The groups of a match, as long as there are any. -/
def groupsOf (found : Text.Regex.Found) (subject : Text.Regex.Subject) (text : List Char) :
    List (List Char) :=
  (List.range (text.count '(' + 1)).map fun number => (found.group? subject number).getD []

/-- Whether a text matches a regular expression; the groups of the match are kept. -/
def matchesExpression (expanding : Expanding) (text : List Char) (word : Word) : ShellM Bool := do
  let expression := expressionOf (markedOf (← expandWord { expanding with whole := true } word))
  match Text.Regex.read { extended := true } expression with
  | .error _ => do
    setStatus 2
    return false
  | .ok regex => do
    let subject : Text.Regex.Subject := { text := text.toArray }
    let found? := regex.search subject
    let groups := match found? with
      | some found => groupsOf found subject expression
      | none => []
    modify fun state =>
      state.set "BASH_REMATCH".toList (.row ((List.range groups.length).zip groups))
    return found?.isSome

/-- Whether a condition with two words holds. -/
def holdsOfTwo (expanding : Expanding) (operator left : List Char) (right : Word) : ShellM Bool := do
  match String.ofList operator with
  | "=~" => matchesExpression expanding left right
  | "==" | "=" => return (← expandPattern expanding right).accepts left
  | "!=" => return !(← expandPattern expanding right).accepts left
  | "<" => return decide (left < (← expandText expanding right))
  | ">" => return decide ((← expandText expanding right) < left)
  | "-nt" | "-ot" | "-ef" => holdsOf [left, operator, ← expandText expanding right]
  | name => do
    let first ← Arithmetic.evaluate left
    let second ← Arithmetic.evaluate (← expandText expanding right)
    return match name with
      | "-eq" => first = second
      | "-ne" => first ≠ second
      | "-lt" => first < second
      | "-le" => first ≤ second
      | "-gt" => second < first
      | _ => second ≤ first

/-- Whether a condition holds, when it is not deeper than so many levels. -/
def decidesUpTo (expanding : Expanding) : Nat → Condition → ShellM Bool
  | 0, _ => throw (.halted (.signaled 11))
  | depth + 1, condition => do
    match condition with
    | .negation inner => return !(← decidesUpTo expanding depth inner)
    | .both first second =>
      if ← decidesUpTo expanding depth first then decidesUpTo expanding depth second
      else return false
    | .either first second =>
      if ← decidesUpTo expanding depth first then return true
      else decidesUpTo expanding depth second
    | .one operator word => do holdsOfOne operator (← expandText expanding word)
    | .two operator left right => do
      holdsOfTwo expanding operator (← expandText expanding left) right

/-- Whether a condition holds. -/
def decides (expanding : Expanding) (condition : Condition) : ShellM Bool :=
  decidesUpTo expanding 1000 condition

end KernelCache.Shell

/-! ## One step of every command

`step run command` runs a command when `run` runs the commands in it. A command whose status decides
how to go on may fail; any other failure ends the shell that insists on success.
-/

namespace KernelCache.Shell

/-- A shell that runs so many commands goes on without end. -/
def stepLimit : Nat := 400000

/-- Counts a command. -/
def tick : ShellM Unit := do
  let state ← get
  if stepLimit ≤ state.steps then throw (.halted .endless)
  set { state with steps := state.steps + 1 }

/-- Ends the shell after a failure that nothing tests. -/
def insist : ShellM Unit := do
  let state ← get
  if !state.tested && state.has 'e' && state.status != 0 then throw (.leave state.status)

/-- Turns success into failure and failure into success. -/
def negate : ShellM Unit := do
  setStatus (if (← get).status = 0 then 1 else 0)

/-! ### Loops -/

/-- Does a step inside of one more loop. -/
def inLoop (step : ShellM Unit) : ShellM Unit := do
  let loops := (← get).loops
  modify fun state => { state with loops := loops + 1 }
  let outcome ← catching step
  modify fun state => { state with loops }
  resume outcome

/-- Does a part of a round of a loop, and says whether the loop goes on. -/
def round (step : ShellM Unit) : ShellM Bool := do
  match ← catching step with
  | .ok () => return true
  | .error (.breakLoop levels) =>
    if 1 < levels then throw (.breakLoop (levels - 1)) else return false
  | .error (.continueLoop levels) =>
    if 1 < levels then throw (.continueLoop (levels - 1)) else return true
  | .error jump => throw jump

/-- What the condition of a loop says. -/
inductive Check where
  | enter
  | stop
  | again

/-- Asks the condition of a loop. -/
def check (run : Runner) (expected : Bool) (condition : Command) : ShellM Check := do
  match ← catching (testing (run condition)) with
  | .ok () => return if ((← get).status == 0) == expected then .enter else .stop
  | outcome =>
    if ← round (resume outcome) then return .again else return .stop

/-- Runs a loop that goes on as long as its condition is as expected. -/
def repeatLoop (run : Runner) (expected : Bool) (condition body : Command) : ShellM Unit := do
  let mut last := 0
  for _ in [0:stepLimit] do
    tick
    match ← check run expected condition with
    | .stop =>
      setStatus last
      return ()
    | .again => pure ()
    | .enter =>
      let goesOn ← round (run body)
      last := (← get).status
      if !goesOn then return ()
  throw (.halted .endless)

/-- Runs a loop over values. -/
def eachLoop (run : Runner) (name : List Char) (body : Command) (values : List (List Char)) :
    ShellM Unit := do
  if values.isEmpty then setStatus 0
  for value in values do
    tick
    assign name (.text value)
    if !(← round (run body)) then return ()

/-- The value of an expression; an empty one has the given value. -/
def valueOf (expanding : Expanding) (usual : Int) (expression : Word) : ShellM Int := do
  let text := textOf (← expandWord expanding expression)
  if text.all fun char => char == ' ' || char == '\n' || char == '\t' then return usual
  else Arithmetic.evaluate text

/-- Runs a loop that counts. -/
def countedLoop (run : Runner) (expanding : Expanding) (start condition next : Word)
    (body : Command) : ShellM Unit := do
  discard (valueOf expanding 0 start)
  let mut last := 0
  for _ in [0:stepLimit] do
    tick
    if (← valueOf expanding 1 condition) = 0 then
      setStatus last
      return ()
    let goesOn ← round (run body)
    last := (← get).status
    if !goesOn then return ()
    discard (valueOf expanding 0 next)
  throw (.halted .endless)

/-! ### Choices -/

/-- Whether one of the patterns accepts a text. -/
def anyAccepts (expanding : Expanding) (text : List Char) : List Word → ShellM Bool
  | [] => return false
  | word :: rest => do
    if (← expandPattern expanding word).accepts text then return true
    else anyAccepts expanding text rest

/-- Runs the first branch with a pattern that accepts a text, or the first one when `falling`, and
says whether there is one. -/
def choose (run : Runner) (expanding : Expanding) (text : List Char) :
    Bool → List (List Word × Command × Following) → ShellM Bool
  | _, [] => return false
  | falling, (patterns, body, following) :: rest => do
    let taken : Bool ← if falling then pure true else anyAccepts expanding text patterns
    if !taken then choose run expanding text false rest
    else
      run body
      match following with
      | .finish => pure ()
      | .fall => discard (choose run expanding text true rest)
      | .goOn => discard (choose run expanding text false rest)
      return true

/-! ### Every command -/

/-- Does a step that is a command of the extended dialect; a fault ends no more than it. -/
def asTruth (question : ShellM Bool) : ShellM Unit :=
  contained do
    let holds ← question
    setStatus (if holds then 0 else 1)

/-- Runs a command. -/
def step (run : Runner) (command : Command) : ShellM Unit := do
  let state ← get
  if state.has 'n' then return ()
  let expanding := expandingWith (apart run)
  match command with
  | .simple line assignments words redirections => do
    tick
    simple run line assignments words redirections
    insist
  | .pipeline true [stage] => do
    testing (run stage)
    negate
  | .pipeline negated stages => do
    tick
    if negated then
      testing (sideBySide (apart run) stages pipeLimits)
      negate
    else
      sideBySide (apart run) stages pipeLimits
      insist
  | .timed body => run body
  | .both first second => do
    testing (run first)
    if (← get).status = 0 then run second
  | .either first second => do
    testing (run first)
    if (← get).status ≠ 0 then run second
  | .sequence [] => setStatus 0
  | .sequence commands => commands.forM run
  | .background body => inBackground (apart run) body
  | .subshell body => do
    tick
    inSubshell (apart run body)
    insist
  | .redirected line body redirections => do
    if 0 < line then modify fun state => { state with line }
    redirecting expanding redirections (run body) (setStatus (if state.isExtended then 1 else 2))
    insist
  | .branch condition yes no => do
    testing (run condition)
    if (← get).status = 0 then run yes else run no
  | .loop expected condition body => inLoop (repeatLoop run expected condition body)
  | .each line name words body => do
    modify fun state => { state with line }
    let values : List (List Char) ← match words with
      | none => pure state.arguments
      | some words => do
        let found ← words.mapM (expandFields expanding)
        pure found.flatten
    inLoop (eachLoop run name body values)
  | .counted line start condition next body => do
    modify fun state => { state with line }
    inLoop (countedLoop run expanding start condition next body)
  | .choice line word branches => do
    modify fun state => { state with line }
    let text ← expandText expanding word
    if !(← choose run expanding text false branches) then setStatus 0
  | .define line name body => do
    modify fun state =>
      { state with
        functions := (name, { line, body }) :: state.functions.filter fun entry =>
          entry.1 != name }
    setStatus 0
  | .arithmetic line expression => do
    modify fun state => { state with line }
    asTruth do return (← valueOf expanding 0 expression) ≠ 0
    insist
  | .test line condition => do
    modify fun state => { state with line }
    asTruth (decides expanding condition)
    insist

end KernelCache.Shell

/-! ## Running scripts -/

namespace KernelCache.Shell

/-- How a command line ended. -/
inductive Ending where
  | left (code : Nat)
  /-- The shell was ended by a signal. -/
  | signaled
  /-- The process that started the shell was ended by a signal. -/
  | abandoned
  /-- The command line goes on without end. -/
  | endless
  deriving DecidableEq, Repr

/-- Runs a command that is not deeper than so many levels. -/
def execute : Nat → Runner
  | 0, _ => throw (.halted (.signaled 11))
  | levels + 1, command => step (execute levels) command

/-- How deep commands may stand in each other. -/
def levels : Nat := 8000

/-- The state of the process that starts a shell. -/
def startOf (environment : List (List Char × List Char)) (caller : Nat) (host : Host) : State :=
  let silent : Opening := { stream := .device .null, reads := true, writes := true }
  let (pipe, host) := host.addPipe {}
  let host := host.place 0 silent
  let host := host.place 2 silent
  let host := host.place 1 { stream := .pipe pipe, reads := false, writes := true }
  { host
    bindings := environment.reverse.map fun (name, value) =>
      (name, { value? := some (.text value), exported := true })
    process := caller + 1
    shell := caller + 1
    parent := caller
    leader := caller
    nextProcess := caller + 2 }

/-- Runs a command line for the process `caller` under an environment. What it writes is the output
of the host. -/
def perform (environment : List (List Char × List Char)) (caller : Nat) (text : List Char)
    (host : Host) : Ending × Host :=
  let start := startOf environment caller host
  let whole := shell (execute levels) .plain "sh".toList [['-', 'c'], text]
  let (outcome, state) := whole.run.run start
  let ending := match outcome with
    | .ok () => Ending.left state.status
    | .error (.leave code) => .left code
    | .error (.signaled process _) => if process = caller then .abandoned else .signaled
    | .error (.halted .endless) => .endless
    | .error (.halted (.starved _)) => .endless
    | .error (.halted _) => .signaled
    | .error _ => .left state.status
  let output := (state.host.pipes.map fun entry => entry.2.pending).flatten
  (ending, { state.host with output, openings := [], pipes := [], descriptors := [] })

end KernelCache.Shell
