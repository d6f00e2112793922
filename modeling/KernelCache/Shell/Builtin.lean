import KernelCache.Shell.Redirect
import KernelCache.Utility.Condition
import KernelCache.Utility.Format
import KernelCache.Utility.Mode

/-
**Commands of the shell itself.**

`Builtin.special` and `Builtin.ordinary` are the commands that change the shell or write something
and start no other command. The special ones end a script when they fail.
-/

namespace KernelCache.Shell.Builtin

/-- A command of the shell, from its arguments. -/
abbrev Action := List (List Char) → ShellM Unit

/-- Writes to the output; a fault is kept until the command ends. -/
def put (chars : List Char) : ShellM Unit := onHost (Host.say (Bytes.ofChars chars))

/-- Writes a line to the output. -/
def putLine (chars : List Char) : ShellM Unit := put (chars ++ ['\n'])

/-- Writes a line about what is wrong, with nothing in front. -/
def remark (chars : List Char) : ShellM Unit := emit 2 (chars ++ ['\n'])

/-- Names in the order of their characters. -/
def sorted {α : Type} (entries : List (List Char × α)) : List (List Char × α) :=
  entries.mergeSort fun first second => inOrder first.1 second.1

/-! ### Arguments -/

/-- A number that is not negative; anything else is a fault. -/
def number (text : List Char) : ShellM Nat := do
  if text ≠ [] ∧ text.all Arithmetic.isDigit then
    let value := ((String.ofList text).toNat?).getD 0
    if value < twoTo 31 then return value
  if (← get).isExtended then fail (text ++ ": numeric argument required".toList)
  else fail ("Illegal number: ".toList ++ text)

/-- A number that may be left out. -/
def numberOr (usual : Nat) : List (List Char) → ShellM Nat
  | [] => return usual
  | first :: _ => number first

/-- Takes the letters in front of the arguments; those in `valued` take a value. -/
def optionsFrom (allowed valued : List Char) : Nat → List (List Char) →
    ShellM (List (Char × List Char) × List (List Char))
  | 0, arguments => return ([], arguments)
  | fuel + 1, arguments =>
    match arguments with
    | ['-', '-'] :: rest => return ([], rest)
    | ('-' :: letter :: more) :: rest => do
      if valued.contains letter then
        match more, rest with
        | [], [] => fail ("No arg for -".toList ++ letter :: " option".toList)
        | [], value :: rest => do
          let (found, rest) ← optionsFrom allowed valued fuel rest
          return ((letter, value) :: found, rest)
        | value, rest => do
          let (found, rest) ← optionsFrom allowed valued fuel rest
          return ((letter, value) :: found, rest)
      else if allowed.contains letter then
        let rest := if more = [] then rest else ('-' :: more) :: rest
        let (found, rest) ← optionsFrom allowed valued fuel rest
        return ((letter, []) :: found, rest)
      else if (← get).isExtended then fail ('-' :: letter :: ": invalid option".toList)
      else fail ("Illegal option -".toList ++ [letter])
    | arguments => return ([], arguments)

/-- Takes the letters in front of the arguments. -/
def optionsOf (allowed : String) (arguments : List (List Char)) (valued : String := "") :
    ShellM (List (Char × List Char) × List (List Char)) :=
  let size := arguments.foldl (fun size word => size + word.length + 1) 1
  optionsFrom allowed.toList valued.toList size arguments

/-! ### Jumps -/

/-- Ends the shell. -/
def leave (arguments : List (List Char)) : ShellM Unit := do
  let code ← numberOr (← get).status arguments
  throw (.leave (code % 256))

/-- Ends a function or a script that was read in. -/
def giveBack (arguments : List (List Char)) : ShellM Unit := do
  let code ← numberOr (← get).status arguments
  setStatus (if (← get).isExtended then code % 256 else code)
  throw .giveBack

/-- Ends loops, or goes on with their next round. -/
def jump (toward : Nat → Jump) (arguments : List (List Char)) : ShellM Unit := do
  let levels ← numberOr 1 arguments
  if levels = 0 then fail ("Illegal number: 0".toList)
  setStatus 0
  let loops := (← get).loops
  if 0 < loops then throw (toward (min levels loops))

/-! ### Variables -/

/-- Whether a text is a name. -/
def isName (text : List Char) : Bool :=
  match text with
  | [] => false
  | first :: rest =>
    Arithmetic.isNameStart first
      && rest.all fun char => Arithmetic.isNameStart char || Arithmetic.isDigit char

/-- Splits an assignment into its name and its value. -/
def assignment (word : List Char) : List Char × Option (List Char) :=
  let name := word.takeWhile (· != '=')
  match word.drop name.length with
  | _ :: value => (name, some value)
  | [] => (name, none)

/-- Demands a name. -/
def demandName (name : List Char) : ShellM Unit := do
  if !isName name then
    if (← get).isExtended then
      fail (Char.ofNat 0x60 :: name ++ "': not a valid identifier".toList)
    else fail (name ++ ": bad variable name".toList)

/-- Lists variables, each with a word in front. -/
def list (word : List Char) (counts : Variable → Bool) : ShellM Unit := do
  for (name, binding) in sorted (← get).bindings do
    if counts binding then
      match binding.value? with
      | some (.text chars) => putLine (word ++ name ++ '=' :: Quoting.single chars)
      | some _ => pure ()
      | none => if word ≠ [] then putLine (word ++ name)

/-- Sets variables and marks them, or lists the marked ones. -/
def marking (word : String) (marked : Variable → Bool) (mark : Variable → Variable)
    (arguments : List (List Char)) : ShellM Unit := do
  let (options, words) ← optionsOf "pn" arguments
  setStatus 0
  if words.isEmpty ∨ options.any (·.1 == 'p') then list (word ++ " ").toList marked
  else
    for item in words do
      let (name, value?) := assignment item
      demandName name
      if let some value := value? then assign name (.text value)
      modify fun state => state.setVariable name (mark ((state.binding? name).getD {}))

/-- Makes variables visible to other commands. -/
def exportAll : Action :=
  marking "export" (·.exported) fun binding => { binding with exported := true }

/-- Sets variables that are not to change. -/
def keep : Action := marking "readonly" (·.fixed) fun binding => { binding with fixed := true }

/-- Keeps what a variable was for the end of the function. -/
def keepOuter (name : List Char) : ShellM Unit :=
  modify fun state =>
    match state.shadowed with
    | some kept => { state with shadowed := some ((name, state.binding? name) :: kept) }
    | none => state

/-- Gives a function variables of its own. -/
def shadow (arguments : List (List Char)) : ShellM Unit := do
  if (← get).shadowed.isNone then fail "not in a function".toList
  for item in arguments do
    let (name, value?) := assignment item
    if name ≠ ['-'] then
      demandName name
      keepOuter name
      if let some value := value? then assign name (.text value)
  setStatus 0

/-- The state with the variables that a function has shadowed as they were. -/
def unshadow (kept : List (List Char × Option Variable)) (state : State) : State :=
  kept.foldl (fun state (name, old) =>
    match old with
    | some binding => state.setVariable name binding
    | none => state.remove name) state

/-- Removes variables or functions. -/
def unset (arguments : List (List Char)) : ShellM Unit := do
  let (options, names) ← optionsOf "vf" arguments
  setStatus 0
  let last := (options.getLast?.map (·.1)).getD 'v'
  for name in names do
    if last = 'f' then
      modify fun state =>
        { state with functions := state.functions.filter fun entry => entry.1 != name }
    else
      let plain := name.takeWhile (· != '[')
      demandName plain
      let state ← get
      if (state.binding? plain).any (·.fixed) then
        if state.isExtended then fail (name ++ ": cannot unset: readonly variable".toList)
        else fail (name ++ ": is read only".toList)
      match name.drop plain.length with
      | [] =>
        if state.isExtended ∧ options.isEmpty ∧ (state.binding? name).isNone then
          modify fun state =>
            { state with functions := state.functions.filter fun entry => entry.1 != name }
        else modify fun state => state.remove name
      | _ :: rest => do
        let index := rest.takeWhile (· != ']')
        match (state.binding? plain).bind (·.value?) with
        | some (.table elements) =>
          modify fun state => state.set plain (.table (elements.filter (·.1 != index)))
        | some (.row elements) => do
          let number := elementNumber elements (← Arithmetic.evaluate index)
          modify fun state => state.set plain (.row (elements.filter (·.1 != number)))
        | _ => pure ()

/-- Drops arguments from the front. -/
def shift (arguments : List (List Char)) : ShellM Unit := do
  let count ← numberOr 1 arguments
  let state ← get
  if state.arguments.length < count then
    if state.isExtended then setStatus 1 else fail "can't shift that many".toList
  else
    set { state with arguments := state.arguments.drop count, status := 0 }

/-! ### Options -/

/-- The options that are written out, with their letters. -/
def optionNames : List (String × Char) := [
  ("errexit", 'e'), ("noglob", 'f'), ("ignoreeof", 'I'), ("interactive", 'i'), ("monitor", 'm'),
  ("noexec", 'n'), ("stdin", 's'), ("xtrace", 'x'), ("verbose", 'v'), ("vi", 'V'), ("emacs", 'E'),
  ("noclobber", 'C'), ("allexport", 'a'), ("notify", 'b'), ("nounset", 'u'), ("privileged", 'p'),
  ("nolog", 'g'), ("debug", 'd')]

/-- Turns an option on or off. -/
def setOption (letter : Char) (on : Bool) : ShellM Unit :=
  modify fun state =>
    let others := state.options.filter (· != letter)
    { state with options := if on then letter :: others else others }

/-- Lists the options. -/
def listOptions (asCommands : Bool) : ShellM Unit := do
  let state ← get
  if !asCommands then putLine "Current option settings".toList
  for (name, letter) in optionNames do
    let on := state.has letter
    if asCommands then putLine ((if on then "set -o " else "set +o ") ++ name).toList
    else
      let name := name.toList
      putLine (name ++ List.replicate (16 - name.length) ' ' ++ (if on then "on" else "off").toList)

/-- Sets options in front of arguments, and says whether arguments were given. -/
def setOptions : Nat → List (List Char) → ShellM (Option (List (List Char)))
  | 0, _ => return none
  | fuel + 1, arguments =>
    match arguments with
    | [] => return none
    | ['-', '-'] :: rest => return some rest
    | ['-'] :: rest => do
      setOption 'x' false
      setOption 'v' false
      return if rest.isEmpty then none else some rest
    | (sign :: letters) :: rest => do
      if (sign ≠ '-' ∧ sign ≠ '+') then return some arguments
      let mut rest := rest
      for letter in letters do
        if letter = 'o' then
          match rest with
          | [] => listOptions (sign == '+')
          | name :: others => do
            rest := others
            match optionNames.lookup (String.ofList name) with
            | some letter => setOption letter (sign == '-')
            | none =>
              if (← get).isExtended then
                if name ≠ "pipefail".toList ∧ name ≠ "posix".toList ∧ name ≠ "braceexpand".toList then
                  fail (name ++ ": invalid option name".toList)
                else if name = "pipefail".toList then setOption 'P' (sign == '-')
              else fail ("Illegal option ".toList ++ sign :: "o ".toList ++ name)
        else if "efIimnsxvVECabupBhTHEt".toList.contains letter then setOption letter (sign == '-')
        else if (← get).isExtended then fail (sign :: letter :: ": invalid option".toList)
        else fail ("Illegal option ".toList ++ [sign, letter])
      setOptions fuel rest
    | [] :: _ => return some arguments

/-- Sets options and arguments, or lists the variables. -/
def configure (arguments : List (List Char)) : ShellM Unit := do
  setStatus 0
  if arguments.isEmpty then list [] fun _ => true
  else
    match ← setOptions (arguments.length + 1) arguments with
    | some words => modify fun state => { state with arguments := words }
    | none => return ()

/-- Takes the next option out of arguments. -/
def nextOption (arguments : List (List Char)) : ShellM Unit := do
  match arguments with
  | allowed :: name :: rest => do
    let state ← get
    let words := if rest.isEmpty then state.arguments else rest
    let index := state.place
    let inWord := if index ≤ 1 then [] else ((words[index - 2]?).getD []).drop state.letter
    let isFresh := state.letter = 0 ∨ inWord = []
    let letters? : Option (List Char) :=
      if !isFresh then some inWord
      else
        match words[index - 1]? with
        | some ['-', '-'] => none
        | some ('-' :: letter :: more) => some (letter :: more)
        | _ => none
    let finish (index letter : Nat) (found : List Char) (status : Nat) : ShellM Unit := do
      assign "OPTIND".toList (.text (toString index).toList)
      assign name (.text found)
      modify fun state => { state with letter, status }
    let quiet := allowed.head? = some ':'
    match letters? with
    | none =>
      let skipped := if isFresh ∧ words[index - 1]? = some ['-', '-'] then index + 1 else index
      finish skipped 0 ['?'] 1
    | some [] => finish index 0 ['?'] 1
    | some (letter :: more) => do
      let index := if isFresh then index + 1 else index
      let used := (if isFresh then 1 else state.letter) + 1
      let next := if more = [] then 0 else used
      match allowed.dropWhile (· != letter) with
      | _ :: ':' :: _ =>
        if letter = ':' then
          remark ("Illegal option -".toList ++ [letter])
          finish index next ['?'] 0
        else if more ≠ [] then
          assign "OPTARG".toList (.text more)
          finish index 0 [letter] 0
        else
          match words[index - 1]? with
          | some value => do
            assign "OPTARG".toList (.text value)
            finish (index + 1) 0 [letter] 0
          | none =>
            if quiet then
              assign "OPTARG".toList (.text [letter])
              finish index 0 [':'] 0
            else
              remark ("No arg for -".toList ++ letter :: " option".toList)
              modify fun state => state.remove "OPTARG".toList
              finish index 0 ['?'] 0
      | [] =>
        if quiet then assign "OPTARG".toList (.text [letter])
        else
          remark ("Illegal option -".toList ++ [letter])
          modify fun state => state.remove "OPTARG".toList
        finish index next ['?'] 0
      | _ => do
        assign "OPTARG".toList (.text [])
        finish index next [letter] 0
  | _ => fail "Usage: getopts optstring var [arg...]".toList

/-! ### Input -/

/-- Takes the backslashes out of a line, with each character marked that had one in front. The last
part says whether the next line belongs to this one. -/
def unescaped : List Char → List Pattern.Marked × Bool
  | [] => ([], false)
  | '\\' :: '\n' :: _ => ([], true)
  | '\n' :: _ => ([], false)
  | '\\' :: char :: rest =>
    let (marked, goesOn) := unescaped rest
    ((char, true) :: marked, goesOn)
  | ['\\'] => ([], false)
  | char :: rest =>
    let (marked, goesOn) := unescaped rest
    ((char, false) :: marked, goesOn)

/-- Reads a line from the input, with lines that are joined to it, and says whether it has an
end. -/
def line (raw : Bool) (mark : UInt8) : Nat → ShellM (List Pattern.Marked × Bool)
  | 0 => return ([], false)
  | fuel + 1 => do
    match ← onHost (Host.readUpTo 0 mark) with
    | .error _ => return ([], false)
    | .ok (bytes, ended) => do
      let chars := (Bytes.toChars (if ended then bytes.dropLast else bytes)).filter (· != '\x00')
      if raw then return (chars.map (·, false), ended)
      else
        let (marked, goesOn) := unescaped (if ended ∧ mark = 0x0A then chars ++ ['\n'] else chars)
        if goesOn then
          let (more, ended) ← line raw mark fuel
          return (marked ++ more, ended)
        else return (marked, ended)

/-- Whether a character that is not quoted separates words. -/
def separates (separators : List Char) (entry : Pattern.Marked) : Bool :=
  !entry.2 && separators.contains entry.1

/-- Whether it is a blank among the separators. -/
def separatesAsBlank (separators : List Char) (entry : Pattern.Marked) : Bool :=
  separates separators entry && (entry.1 == ' ' || entry.1 == '\t' || entry.1 == '\n')

/-- Leaves out one separator with the blanks around it. -/
def afterSeparator (separators : List Char) (chars : List Pattern.Marked) :
    List Pattern.Marked :=
  let isBlank := separatesAsBlank separators
  match chars.dropWhile isBlank with
  | [] => []
  | first :: rest =>
    if separates separators first then rest.dropWhile isBlank else first :: rest

/-- Gives the words of a line to names; the last one gets the rest, without the blanks at its end,
and without a separator if nothing is behind it. -/
def distribute (separators : List Char) :
    List (List Char) → List Pattern.Marked → List (List Char × List Char)
  | [], _ => []
  | name :: others, chars =>
    let chars := chars.dropWhile (separatesAsBlank separators)
    let word := chars.takeWhile fun entry => !separates separators entry
    let rest := afterSeparator separators (chars.drop word.length)
    let text (chars : List Pattern.Marked) : List Char := chars.map (·.1)
    match others, rest with
    | [], [] => [(name, text word)]
    | [], _ =>
      [(name, text (chars.reverse.dropWhile (separatesAsBlank separators)).reverse)]
    | _, _ => (name, text word) :: distribute separators others rest

/-- Reads a line into variables. -/
def read (arguments : List (List Char)) : ShellM Unit := do
  let extended := (← get).isExtended
  let (options, names) ← optionsOf (if extended then "rse" else "r") arguments
    (if extended then "padntuNi" else "p")
  let has (letter : Char) : Bool := options.any (·.1 == letter)
  let valueOf (letter : Char) : Option (List Char) := options.lookup letter
  if names.isEmpty ∧ !extended then fail "arg count".toList
  let mark := match valueOf 'd' with
    | some (char :: _) => UInt8.ofNat char.toNat
    | some [] => 0
    | none => 0x0A
  let count? := ((valueOf 'n').or (valueOf 'N')).bind fun text => (String.ofList text).toNat?
  let (marked, ended) ← match count? with
    | none => line (has 'r') mark 100000
    | some count => do
      match ← onHost (Host.available 0 (some count)) with
      | .ok (.octets bytes, _) =>
        let chars := Bytes.toChars bytes
        let kept := if (valueOf 'N').isSome then chars else chars.takeWhile (· != '\n')
        if kept.length < chars.length then
          onHost (Host.giveBack 0 (bytes.drop (kept.length + 1)))
        pure (kept.map (·, false), kept.length = count || kept.length < chars.length)
      | _ => pure ([], false)
  let state ← get
  setStatus (if ended then 0 else 1)
  match valueOf 'a' with
  | some name =>
    let expanded := marked.map fun (char, quoted) =>
      if quoted then Atom.char char true else .soft char
    let fields := (splitFields state.separators expanded).map (·.map (·.1))
    assign name (.row ((List.range fields.length).zip fields))
  | none =>
    if names.isEmpty then assign "REPLY".toList (.text (marked.map (·.1)))
    else
      for (name, value) in distribute state.separators names marked do
        demandName name
        assign name (.text value)

/-! ### Places -/

/-- A path without dots, when each of two dots goes back one name. -/
def normalized (path : List Char) : List Char :=
  let names := (path.splitOn '/').foldl (fun names name =>
    if name = [] ∨ name = ['.'] then names
    else if name = ['.', '.'] then names.drop 1
    else name :: names) []
  if names.isEmpty then ['/'] else names.reverse.flatMap ('/' :: ·)

/-- A place as it is written. -/
def written (place : Place) : List Char := Bytes.toChars (Files.absolute place).bytes

/-- Goes to a directory, and says whether that was possible. -/
def goTo (physical : Bool) (target : List Char) : ShellM Bool := do
  let state ← get
  let logical := if target.head? = some '/' then normalized target
    else normalized (state.directory ++ '/' :: target)
  let path := if physical then (if target = [] then ['.'] else target) else logical
  match state.host.files.status state.host.base (Host.pathOf path) with
  | .ok (place, .directory) =>
    let directory := if physical then written place else logical
    let setPlace (name value : List Char) (state : State) : State :=
      state.setVariable name { value? := some (.text value), exported := true }
    modify fun state =>
      let state := setPlace "OLDPWD".toList state.directory state
      let state := setPlace "PWD".toList directory state
      { state with directory, host := { state.host with base := place } }
    return true
  | _ => return false

/-- Changes the working directory. -/
def changeDirectory (arguments : List (List Char)) : ShellM Unit := do
  let (options, words) ← optionsOf "LP" arguments
  let physical := options.getLast?.any (·.1 == 'P')
  let state ← get
  let back := words.head? = some ['-']
  let target := match words with
    | [] => (state.value? "HOME".toList).getD []
    | ['-'] :: _ => (state.value? "OLDPWD".toList).getD []
    | first :: _ => first
  setStatus 0
  let isDotted := match target with
    | '/' :: _ => true
    | '.' :: '/' :: _ | '.' :: '.' :: '/' :: _ | ['.'] | ['.', '.'] => true
    | _ => false
  let searched := match state.value? "CDPATH".toList with
    | some text => if isDotted then [] else (text.splitOn ':').filter (· ≠ [])
    | none => []
  for directory in searched do
    if ← goTo physical (directory ++ '/' :: target) then
      putLine (← get).directory
      return ()
  if ← goTo physical target then
    if back then putLine (← get).directory
  else if state.isExtended then fail (target ++ ": No such file or directory".toList)
  else fail ("can't cd to ".toList ++ target)

/-- Writes the working directory. -/
def showDirectory (arguments : List (List Char)) : ShellM Unit := do
  let (options, _) ← optionsOf "LP" arguments
  let state ← get
  setStatus 0
  putLine (if options.getLast?.any (·.1 == 'P') then written state.host.base else state.directory)

/-- Shows or sets the bits that new files do not get. -/
def mask (arguments : List (List Char)) : ShellM Unit := do
  let (options, words) ← optionsOf "S" arguments
  let mask := (← get).host.mask
  setStatus 0
  match words with
  | [] =>
    if options.isEmpty then putLine (Mode.digits 4 mask)
    else
      let allowed := Mode.without 0o777 mask
      let part (letter : Char) (right : Nat) : List Char := letter :: '=' :: Mode.letters right
      putLine ([','].intercalate
        [part 'u' (allowed / 64), part 'g' (allowed / 8 % 8), part 'o' (allowed % 8)])
  | text :: _ =>
    if text.head?.any Arithmetic.isDigit then
      match Mode.octal? text with
      | some value => modifyHost fun host => { host with mask := Nat.land value 0o777 }
      | none => fail ("Illegal number: ".toList ++ text)
    else
      match Mode.changed? false 0 (Mode.without 0o777 mask) text with
      | some allowed =>
        modifyHost fun host => { host with mask := Mode.without 0o777 (Nat.land allowed 0o777) }
      | none => fail ("Illegal mode: ".toList ++ text)

/-! ### Other names -/

/-- Lists or sets names that stand for other text. -/
def abbreviate (arguments : List (List Char)) : ShellM Unit := do
  setStatus 0
  let form (name text : List Char) : List Char := name ++ '=' :: Quoting.single text
  if arguments.isEmpty then
    for (name, text) in sorted (← get).aliases do putLine (form name text)
  for word in arguments do
    match assignment word with
    | (name, some text) =>
      modify fun state =>
        { state with aliases := (name, text) :: state.aliases.filter fun entry =>
            entry.1 != name }
    | (name, none) =>
      match (← get).aliases.lookup name with
      | some text => putLine (form name text)
      | none => do
        remark ("alias: ".toList ++ name ++ " not found".toList)
        setStatus 1

/-- Removes such names. -/
def unabbreviate (arguments : List (List Char)) : ShellM Unit := do
  let (options, words) ← optionsOf "a" arguments
  setStatus 0
  if options.any (·.1 == 'a') then modify fun state => { state with aliases := [] }
  for name in words do
    if ((← get).aliases.lookup name).isNone then
      remark ("unalias: ".toList ++ name ++ " not found".toList)
      setStatus 1
    modify fun state =>
      { state with aliases := state.aliases.filter fun entry => entry.1 != name }

/-! ### Signals -/

/-- The signals by number. -/
def signalNames : List String := [
  "EXIT", "HUP", "INT", "QUIT", "ILL", "TRAP", "ABRT", "BUS", "FPE", "KILL", "USR1", "SEGV", "USR2",
  "PIPE", "ALRM", "TERM", "STKFLT", "CHLD", "CONT", "STOP", "TSTP", "TTIN", "TTOU", "URG", "XCPU",
  "XFSZ", "VTALRM", "PROF", "WINCH", "IO", "PWR", "SYS"]

/-- The number of a signal. -/
def signal? (text : List Char) : Option Nat :=
  if text.isEmpty then none
  else if text.all Arithmetic.isDigit then ((String.ofList text).toNat?).filter (· < 65)
  else signalNames.findIdx? fun name => name.toList == text.map Char.toUpper

/-- The name of a signal. -/
def signalName (number : Nat) : List Char :=
  match signalNames[number]? with
  | some name => name.toList
  | none => if number = 64 then "RTMAX".toList else (toString number).toList

/-- What a signal does to a process that does not expect it. -/
def deliver (process signal : Nat) : ShellM Unit :=
  if [0, 17, 18, 23, 28].contains signal then return ()
  else if [19, 20, 21, 22].contains signal then throw (.halted .endless)
  else throw (.signaled process signal)

/-- Sets what is to be done on signals, or lists it. -/
def trap (arguments : List (List Char)) : ShellM Unit := do
  let (options, words) ← optionsOf (if (← get).isExtended then "lp" else "") arguments
  let extended := (← get).isExtended
  setStatus 0
  let number? (name : List Char) : Option Nat :=
    match signal? name with
    | some signal => some signal
    | none =>
      if extended ∧ "SIG".toList.isPrefixOf (name.map Char.toUpper) then signal? (name.drop 3)
      else none
  if words.isEmpty ∨ !options.isEmpty then
    let traps := (← get).traps.mergeSort fun first second => first.1 ≤ second.1
    for (signal, action) in traps do
      let name := if extended ∧ signal ≠ 0 then "SIG".toList ++ signalName signal
        else signalName signal
      putLine ("trap -- ".toList ++ Quoting.single action ++ ' ' :: name)
  else
    let (action?, names) := match words with
      | [only] => (none, [only])
      | first :: rest =>
        if (first.all Arithmetic.isDigit ∧ (signal? first).isSome) then (none, first :: rest)
        else (if first = ['-'] then none else some first, rest)
      | [] => (none, [])
    for name in names do
      match number? name with
      | none => do
        remark ("trap: ".toList ++ name ++ ": bad trap".toList)
        setStatus 1
      | some signal =>
        modify fun state =>
          let others := state.traps.filter fun entry => entry.1 != signal
          let added := match action? with
            | some action => [(signal, action)]
            | none => []
          { state with traps := added ++ others }

/-! ### Processes in the background -/

/-- The process that a word stands for: a number, or a job by its place. -/
def processOf? (state : State) (word : List Char) : Option Nat :=
  match word with
  | '%' :: rest =>
    let jobs := state.jobs.reverse
    match rest with
    | [] | ['%'] | ['+'] => state.jobs.head?.map (·.process)
    | ['-'] => ((state.jobs.drop 1).head?).map (·.process)
    | digits => ((String.ofList digits).toNat?).bind fun number =>
        (jobs[number - 1]?).map (·.process)
  | digits => if digits.all Arithmetic.isDigit then (String.ofList digits).toNat? else none

/-- Lets time pass until a process has ended, and takes it away. -/
def await (job : Job) : ShellM Nat := do
  match job.due? with
  | none => throw (.halted .endless)
  | some due => do
    let elapsed := (← get).host.elapsed
    if elapsed < due then onHost (Host.pass (due - elapsed))
    modify fun state =>
      { state with jobs := state.jobs.filter fun other => other.process != job.process }
    return job.status

/-- Waits for processes. -/
def wait (arguments : List (List Char)) : ShellM Unit := do
  let (_, words) ← optionsOf (if (← get).isExtended then "nf" else "") arguments
  setStatus 0
  if words.isEmpty then
    for job in (← get).jobs.reverse do discard (await job)
  for word in words do
    let state ← get
    match processOf? state word with
    | none =>
      if word.head? = some '%' then fail ("No such job: ".toList ++ word)
      else fail ("Illegal number: ".toList ++ word)
    | some process =>
      match state.jobs.find? fun job => job.process == process with
      | some job => setStatus (← await job)
      | none => setStatus 127

/-! ### Output -/

/-- Writes words. -/
def echo (arguments : List (List Char)) : ShellM Unit := do
  setStatus 0
  if (← get).isExtended then put (Format.generousEcho arguments) else put (Format.echo arguments)

/-- Writes words by a format. -/
def printf (arguments : List (List Char)) : ShellM Unit := do
  let extended := (← get).isExtended
  let (options, words) ← optionsOf "" arguments (if extended then "v" else "")
  match words with
  | [] =>
    fail (if extended then "usage: printf [-v var] format [arguments]"
      else "usage: printf format [arg ...]").toList
  | format :: rest => do
    let custom := if extended then Format.Custom.generous else .narrow
    let filling := Format.printf custom Quoting.escaped format rest
    for text in filling.complaints do complain text
    setStatus filling.status
    match options.lookup 'v' with
    | some name => assign name (.text filling.output)
    | none => put filling.output

/-- Says whether a condition holds. -/
def test (arguments : List (List Char)) : ShellM Unit := do
  let state ← get
  match Condition.decide state.host.files state.host.base state.isExtended arguments with
  | .ok holds => setStatus (if holds then 0 else 1)
  | .error text => do
    complain text
    setStatus 2

/-- The same with a bracket at the end. -/
def bracket (arguments : List (List Char)) : ShellM Unit := do
  if arguments.getLast? = some [']'] then test arguments.dropLast
  else
    let text := if (← get).isExtended then "missing " ++ String.ofList [Char.ofNat 0x60] ++ "]'"
      else "missing ]"
    complain text.toList
    setStatus 2

/-- Sets the status and does nothing else. -/
def quiet (_ : List (List Char)) : ShellM Unit := setStatus 0

/-- Writes how long commands took. -/
def times (_ : List (List Char)) : ShellM Unit := do
  setStatus 0
  putLine "0m0.000000s 0m0.000000s".toList
  putLine "0m0.000000s 0m0.000000s".toList

/-- Refuses to bring a process to the front. -/
def noJob (_ : List (List Char)) : ShellM Unit := fail "No current job".toList

/-- The special commands. -/
def special : List (String × Action) := [
  (":", quiet), ("break", jump .breakLoop), ("continue", jump .continueLoop), ("exit", leave),
  ("export", exportAll), ("readonly", keep), ("return", giveBack), ("set", configure),
  ("shift", shift), ("times", times), ("trap", trap), ("unset", unset), ("local", shadow)]

/-- The ordinary commands. -/
def ordinary : List (String × Action) := [
  ("cd", changeDirectory), ("chdir", changeDirectory), ("read", read), ("alias", abbreviate),
  ("unalias", unabbreviate), ("bg", noJob), ("fg", noJob), ("jobs", quiet),
  ("ulimit", fun _ => do
    setStatus 0
    putLine "unlimited".toList),
  ("umask", mask), ("wait", wait), ("echo", echo), ("printf", printf), ("test", test),
  ("[", bracket), ("true", quiet), ("false", fun _ => setStatus 1), ("pwd", showDirectory),
  ("getopts", nextOption)]

/-- Commands of the shell that start other commands. -/
def starters : List String := ["command", "type", "kill", "hash"]

/-- Special commands of the shell that start other commands. -/
def specialStarters : List String := ["eval", ".", "exec"]

end KernelCache.Shell.Builtin
