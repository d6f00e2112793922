import KernelCache.System.Host

/-
**Options of programs.**

A `Grammar` says which letters and which long names a program knows and which of them take a value.
`Grammar.read` takes the options out of a command line, wherever they stand, or says what is wrong;
`Program.Tool` is a program that does its work on a host.
-/

namespace KernelCache

namespace Program

/-- A program: from its arguments to its exit code. -/
abbrev Tool := List (List Char) → HostM Nat

end Program

/-- Whether an option takes a value. -/
inductive Valued where
  | never
  | always
  /-- Only where the value is written right behind it. -/
  | attached
  deriving DecidableEq, Repr

/-- The options that a program knows. -/
structure Grammar where
  letters : List (Char × Valued)
  /-- Long names with the letters they stand for. -/
  names : List (String × Char × Valued) := []
  /-- Whether options end at the first operand. -/
  ordered : Bool := false

/-- The options and the operands of a command line. -/
structure Options where
  found : List (Char × Option (List Char)) := []
  operands : List (List Char) := []
  deriving Repr

namespace Grammar

/-- The grammar with letters as they are usually written: one colon behind a letter that takes a
value, two behind one that may have a value attached. -/
def lettersOf : List Char → List (Char × Valued)
  | letter :: ':' :: ':' :: rest => (letter, .attached) :: lettersOf rest
  | letter :: ':' :: rest => (letter, .always) :: lettersOf rest
  | letter :: rest => (letter, .never) :: lettersOf rest
  | [] => []

/-- Names as they are usually written: with an equals sign behind one that takes a value, and the
letter each one stands for. -/
def namesOf (names : List (String × Char)) : List (String × Char × Valued) :=
  names.map fun (name, letter) =>
    match name.toList.getLast? with
    | some '=' => (String.ofList name.toList.dropLast, letter, .always)
    | some '?' => (String.ofList name.toList.dropLast, letter, .attached)
    | _ => (name, letter, .never)

/-- The grammar of letters and names. -/
def of (letters : String) (names : List (String × Char) := []) (ordered : Bool := false) :
    Grammar :=
  { letters := lettersOf letters.toList, names := namesOf names, ordered }

/-- A text in quotes. -/
def quoted (text : List Char) : List Char := '\'' :: text ++ ['\'']

/-- A long option: its name with its value, if it has one, and the next word. -/
def long (grammar : Grammar) (text : List Char) (next? : Option (List Char)) :
    Except (List Char) ((Char × Option (List Char)) × Bool) := do
  let name := text.takeWhile (· != '=')
  let value? := match text.drop name.length with
    | _ :: value => some value
    | [] => none
  let exact := grammar.names.filter fun entry => entry.1.toList == name
  let fitting := grammar.names.filter fun entry => name.isPrefixOf entry.1.toList
  let (known, letter, valued) ← match exact, fitting with
    | entry :: _, _ => pure entry
    | [], [entry] => pure entry
    | [], [] => throw ("unrecognized option ".toList ++ quoted ('-' :: '-' :: text))
    | [], entry :: others =>
      if others.all fun other => other.2 = entry.2 then pure entry
      else
        let possible := fitting.flatMap fun entry => ' ' :: quoted ('-' :: '-' :: entry.1.toList)
        throw ("option ".toList ++ quoted ('-' :: '-' :: text)
          ++ " is ambiguous; possibilities:".toList ++ possible)
  let full := quoted ('-' :: '-' :: known.toList)
  match valued, value?, next? with
  | .never, some _, _ => throw ("option ".toList ++ full ++ " doesn't allow an argument".toList)
  | .never, none, _ => return ((letter, none), false)
  | _, some value, _ => return ((letter, some value), false)
  | .attached, none, _ => return ((letter, none), false)
  | .always, none, some next => return ((letter, some next), true)
  | .always, none, none => throw ("option ".toList ++ full ++ " requires an argument".toList)

/-- The letters of one word, and whether the next word was used. -/
def short (grammar : Grammar) (next? : Option (List Char)) :
    List Char → Except (List Char) (List (Char × Option (List Char)) × Bool)
  | [] => .ok ([], false)
  | letter :: rest =>
    match grammar.letters.lookup letter with
    | none => .error ("invalid option -- ".toList ++ quoted [letter])
    | some .never => (short grammar next? rest).map fun (found, used) =>
        ((letter, none) :: found, used)
    | some .attached => .ok ([(letter, if rest = [] then none else some rest)], false)
    | some .always =>
      if rest ≠ [] then .ok ([(letter, some rest)], false)
      else
        match next? with
        | some next => .ok ([(letter, some next)], true)
        | none => .error ("option requires an argument -- ".toList ++ quoted [letter])

/-- Reads a command line. -/
def readFrom (grammar : Grammar) (options : Options) :
    List (List Char) → Except (List Char) Options
  | [] => .ok options
  | ['-', '-'] :: rest => .ok { options with operands := options.operands ++ rest }
  | ('-' :: '-' :: text) :: rest =>
    match grammar.long text rest.head? with
    | .error fault => .error fault
    | .ok (entry, used) =>
      let options := { options with found := options.found ++ [entry] }
      readFrom grammar options (rest.drop (if used then 1 else 0))
  | ('-' :: letter :: more) :: rest =>
    match grammar.short rest.head? (letter :: more) with
    | .error fault => .error fault
    | .ok (entries, used) =>
      let options := { options with found := options.found ++ entries }
      readFrom grammar options (rest.drop (if used then 1 else 0))
  | operand :: rest =>
    let options := { options with operands := options.operands ++ [operand] }
    if grammar.ordered then .ok { options with operands := options.operands ++ rest }
    else readFrom grammar options rest
termination_by words => words.length
decreasing_by
  all_goals simp only [List.length_drop, List.length_cons]; omega

/-- Reads the options and the operands of a command line. -/
def read (grammar : Grammar) (arguments : List (List Char)) : Except (List Char) Options :=
  let known (name : String) : Bool := grammar.names.any (·.1 == name)
  let extra := (if known "help" then [] else [("help", '\x01', Valued.never)])
    ++ if known "version" then [] else [("version", '\x02', Valued.never)]
  { grammar with names := grammar.names ++ extra }.readFrom {} arguments

end Grammar

namespace Options

/-- Whether a letter is among the options. -/
def has (options : Options) (letter : Char) : Bool := options.found.any (·.1 == letter)

/-- The last value of a letter. -/
def value? (options : Options) (letter : Char) : Option (List Char) :=
  (options.found.reverse.lookup letter).bind id

/-- All values of a letter. -/
def values (options : Options) (letter : Char) : List (List Char) :=
  options.found.filterMap fun entry => if entry.1 = letter then entry.2 else none

/-- The last one of some letters that is among the options. -/
def last? (options : Options) (letters : String) : Option Char :=
  (options.found.reverse.find? fun entry => letters.toList.contains entry.1).map (·.1)

end Options

namespace Program

/-- Writes the hint that follows a wrong command line. -/
def hint : HostM Unit := do
  let name := (← get).program
  Host.complainLine ("Try '".toList ++ name ++ " --help' for more information.".toList)

/-- Complains about a wrong command line. -/
def misuse (code : Nat) (text : List Char) : HostM Nat := do
  Host.complain text
  hint
  return code

/-- Does the work of a program with the options and the operands of its command line. -/
def withOptions (grammar : Grammar) (code : Nat) (work : Options → HostM Nat) : Tool :=
  fun arguments => do
    match grammar.read arguments with
    | .error text => misuse code text
    | .ok options =>
      if options.has '\x01' ∨ options.has '\x02' then
        Host.sayLine ((← get).program)
        return 0
      else work options

/-- A name as it is shown: in quotes if there is something in it that is not plain. -/
def shown (name : List Char) : List Char :=
  let isPlain (char : Char) : Bool :=
    char.isAlphanum || "_-+./:,@%^=\x7b\x7d".toList.contains char || char == ']'
  let quotes := name = [] || !name.all isPlain || name.head? = some '~' || name.head? = some '#'
  if !quotes then name
  else if name.contains '\'' ∧ !name.any fun char => "\"$\\!".toList.contains char
      ∨ char.toNat = 0x60 then ['"'] ++ name ++ ['"']
  else ['\''] ++ name.flatMap (fun char => if char = '\'' then "'\\''".toList else [char]) ++ ['\'']

/-- A name as it is shown in quotes. -/
def inQuotes (name : List Char) : List Char :=
  if name.contains '\'' then shown name
  else ['\''] ++ name ++ ['\'']

/-- Complains about a file. -/
def complainOf (name : List Char) (fault : Fault) : HostM Unit :=
  Host.complain (shown name ++ ": ".toList ++ fault.plain.toList)

/-- Complains that an operand is missing. -/
def lacking (code : Nat) (what : String := "missing operand") : HostM Nat :=
  misuse code what.toList

/-- Complains about an operand too many. -/
def surplus (code : Nat) (operand : List Char) : HostM Nat :=
  misuse code ("extra operand ".toList ++ inQuotes operand)

end Program

end KernelCache

/-! ## Operands that are read

Programs that read files go through their operands in order; a dash, or no operand at all, stands
for the input.

* `Program.reading` does a step with what an operand holds, and then waits for more where a writer
  is held up.
* `Program.eachInput` does so for all operands, and complains about those that cannot be read.
-/

namespace KernelCache.Program

open Host

/-- Why an operand was not read. -/
structure Unread where
  fault : Fault
  /-- Whether it could be opened. -/
  opened : Bool

/-- Does a step with what an operand holds. What a writer that is held up would add is waited for
afterwards, unless the step says that nothing more is needed. -/
def reading (operand : List Char) (step : Bytes → HostM Bool) : HostM (Except Unread Unit) := do
  match ← onOperand operand fun descriptor => available descriptor none with
  | .error fault => return .error ⟨fault, false⟩
  | .ok (.error fault) => return .error ⟨fault, true⟩
  | .ok (.ok (.endless, _)) => throw .endless
  | .ok (.ok (.octets bytes, held?)) => do
    let goesOn ← step bytes
    match goesOn, held? with
    | true, some pipe => throw (.starved pipe)
    | _, _ => return .ok ()

/-- The operands, or the input when there are none. -/
def orInput (operands : List (List Char)) : List (List Char) :=
  if operands.isEmpty then [['-']] else operands

/-- Does a step with what each operand holds, and says whether all could be read. -/
def eachInput (operands : List (List Char)) (step : Bytes → HostM Unit) : HostM Bool :=
  forAll (orInput operands) fun operand => do
    match ← reading operand fun bytes => do
        step bytes
        return true with
    | .ok () => return true
    | .error unread => do
      complainOf operand unread.fault
      return false

/-- All that the operands hold, and whether all could be read. -/
def allInput (operands : List (List Char)) : HostM (List Bytes × Bool) := do
  let mut pieces : List Bytes := []
  let mut done : Bool := true
  for operand in orInput operands do
    match ← contentsOf operand with
    | .ok bytes => pieces := bytes :: pieces
    | .error fault => do
      complainOf operand fault
      done := false
  return (pieces.reverse, done)

/-- The lines of a text, each with its mark at the end; the last one may have none. -/
def markedLines (mark : UInt8) (bytes : Bytes) : List Bytes :=
  let (lines, last) := bytes.foldl (fun (lines, line) byte =>
    if byte = mark then ((byte :: line).reverse :: lines, ([] : Bytes))
    else (lines, byte :: line)) (([] : List Bytes), ([] : Bytes))
  (if last = [] then lines else last.reverse :: lines).reverse

/-- The lines of a text, without their ends. -/
def linesOf (bytes : Bytes) (mark : UInt8 := 0x0A) : List (List Char) :=
  (markedLines mark bytes).map fun line =>
    Bytes.toChars (if line.getLast? = some mark then line.dropLast else line)

/-- Writes lines. -/
def sayLines (lines : List (List Char)) (mark : Char := '\n') : HostM Unit :=
  say (Bytes.ofChars (lines.flatMap fun line => line ++ [mark]))

/-- A number that stands at the right end of a width. -/
def rightward (width : Nat) (text : List Char) : List Char :=
  List.replicate (width - text.length) ' ' ++ text

/-- A text that stands at the left end of a width. -/
def leftward (width : Nat) (text : List Char) : List Char :=
  text ++ List.replicate (width - text.length) ' '

/-- The digits of a number. -/
def decimal (value : Nat) : List Char := (toString value).toList

/-- A number that is not negative, as it is written in an option. -/
def count? (text : List Char) : Option Nat :=
  let text := if text.head? = some '+' then text.drop 1 else text
  if text ≠ [] ∧ text.all fun char => '0' ≤ char && char ≤ '9' then (String.ofList text).toNat?
  else none

/-- Whether a character is a blank between words. -/
def isSpace (char : Char) : Bool := char == ' ' || ('\t' ≤ char && char ≤ '\r')

end KernelCache.Program
