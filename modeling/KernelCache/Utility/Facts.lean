import KernelCache.Utility.Condition
import KernelCache.Utility.FileTools
import KernelCache.Utility.Format
import KernelCache.Utility.Option

/-
**Programs that know something, or do next to nothing.**
-/

namespace KernelCache.Facts

open Host Program

/-! ### Time -/

/-- A length of time in microseconds: a decimal number and a unit. Without end is told apart. -/
def duration? (text : List Char) : Option (Option Nat) := do
  if ["inf", "infinity"].contains (String.ofList (text.map Char.toLower)) then return none
  let (value, unit) ← Decimal.Quantity.read? text
  let scale ← match unit with
    | [] | ['s'] => some 1
    | ['m'] => some 60
    | ['h'] => some 3600
    | ['d'] => some 86400
    | _ => none
  match value with
  | .finite false size => return some (size.numerator * scale * 1000000 / size.denominator)
  | .finite true size => if size.numerator = 0 then return some 0 else none
  | .infinite false => return none
  | _ => none

/-- Lets time pass. -/
def sleep : Tool := withOptions (.of "" [] true) 1 fun options => do
  if options.operands.isEmpty then return ← lacking 1
  let wrong := options.operands.filter fun text => (duration? text).isNone
  for text in wrong do complain ("invalid time interval ".toList ++ inQuotes text)
  if !wrong.isEmpty then
    hint
    return 1
  let lengths := options.operands.filterMap duration?
  if lengths.any Option.isNone then throw .endless
  Host.pass (lengths.foldl (fun total length => total + length.getD 0) 0)
  return 0

/-- Writes a point in time. -/
def date : Tool := fun arguments =>
  let grammar : Grammar :=
    .of "d:f:I::r:Rs:u" [("date=", 'd'), ("iso-8601?", 'I'), ("reference=", 'r'),
      ("rfc-email", 'R'), ("rfc-2822", 'R'), ("rfc-3339=", '3'), ("set=", 's'), ("utc", 'u'),
      ("universal", 'u')]
  withOptions grammar 1 (fun options => do
    let clock := (← get).files.clock
    let now := FileTools.secondsOf clock
    let time? ← match options.value? 'd', options.value? 'r' with
      | some text, _ => pure ((Calendar.read? now text).map (· * 1000000))
      | none, some path => do
        match ← Copying.statusOf? path with
        | .ok (place, node) => do
          let attributes ← ask fun files _ => files.attributesOf place node
          pure (some (attributes.modified + Calendar.start * 1000000))
        | .error fault => do
          complainOf path fault
          return 1
      | none, none => pure (some (clock + Calendar.start * 1000000))
    match time? with
    | none => do
      complain ("invalid date ".toList ++ inQuotes ((options.value? 'd').getD []))
      return 1
    | some time => do
      let instant := Calendar.Instant.of time
      match options.operands with
      | [] =>
        let format := if options.has 'R' then "%a, %d %b %Y %T %z"
          else if options.has '3' then
            (match String.ofList ((options.value? '3').getD []) with
              | "seconds" => "%F %T%:z"
              | "ns" => "%F %T.%N%:z"
              | _ => "%F")
          else if options.has 'I' then
            (match String.ofList ((options.value? 'I').getD []) with
              | "hours" => "%FT%H%:z"
              | "minutes" => "%FT%H:%M%:z"
              | "seconds" => "%FT%T%:z"
              | "ns" => "%FT%T,%N%:z"
              | _ => "%F")
          else "%a %b %e %H:%M:%S %Z %Y"
        sayLine (instant.written format.toList)
        return 0
      | _ :: extra :: _ => surplus 1 extra
      | [word] =>
        if word.head? = some '+' then
          sayLine (instant.written (word.drop 1))
          return 0
        else do
          complain ("invalid date ".toList ++ inQuotes word)
          return 1) arguments

/-! ### Who and where -/

/-- Writes what is known about the user. -/
def identity : Tool :=
  let grammar : Grammar :=
    .of "agGnruZz" [("group", 'g'), ("groups", 'G'), ("name", 'n'), ("real", 'r'), ("user", 'u'),
      ("zero", 'z')]
  withOptions grammar 1 fun options => do
    if options.has 'u' ∨ options.has 'g' ∨ options.has 'G' then
      sayLine (if options.has 'n' then "root" else "0").toList
    else sayLine "uid=0(root) gid=0(root) groups=0(root)".toList
    return 0

/-- Writes a line and takes no operands. -/
def saying (text : String) : Tool := withOptions (.of "") 1 fun options => do
  match options.operands with
  | operand :: _ => surplus 1 operand
  | [] => do
    sayLine text.toList
    return 0

/-- Writes facts about the system. -/
def uname : Tool :=
  let grammar : Grammar :=
    .of "asnrvmpio" [("all", 'a'), ("kernel-name", 's'), ("nodename", 'n'),
      ("kernel-release", 'r'), ("kernel-version", 'v'), ("machine", 'm'), ("processor", 'p'),
      ("hardware-platform", 'i'), ("operating-system", 'o')]
  withOptions grammar 1 fun options => do
    let has (letter : Char) : Bool := options.has letter || options.has 'a'
    let part (letter : Char) (text : String) : List String := if has letter then [text] else []
    let parts := (if options.found.isEmpty then ["Linux"] else part 's' "Linux")
      ++ part 'n' "localhost" ++ part 'r' "6.1.0" ++ part 'v' "#1 SMP" ++ part 'm' "x86_64"
      ++ (if options.has 'p' then ["unknown"] else [])
      ++ (if options.has 'i' then ["unknown"] else []) ++ part 'o' "GNU/Linux"
    sayLine (" ".intercalate parts).toList
    return 0

/-- Writes the variables that programs see, or the values of some. -/
def printenv : Tool :=
  withOptions (.of "0" [("null", '0')] true) 2 fun options => do
    let mark := if options.has '0' then '\x00' else '\n'
    let environment := (← get).environment
    if options.operands.isEmpty then
      sayLines (environment.map fun (name, value) => name ++ '=' :: value) mark
      return 0
    else
      let found := options.operands.map fun name => environment.lookup name
      sayLines (found.filterMap id) mark
      return statusOf (found.all Option.isSome)

/-- Says that the input is no terminal. -/
def tty : Tool := withOptions (.of "s" [("silent", 's'), ("quiet", 's')]) 2 fun options => do
  if !options.has 's' then sayLine "not a tty".toList
  return 1

/-! ### Conditions and words -/

/-- Ends with a status. -/
def ends (code : Nat) : Tool := fun arguments => do
  match arguments with
  | [word] =>
    if word = "--help".toList ∨ word = "--version".toList then sayLine (← get).program
    return code
  | _ => return code

/-- Says whether a condition holds. -/
def test : Tool := fun arguments => do
  match ← ask fun files base => Condition.decide files base false arguments with
  | .ok holds => return statusOf holds
  | .error text => do
    complain text
    return 2

/-- The same with a bracket at the end. -/
def bracket : Tool := fun arguments => do
  if arguments.getLast? = some [']'] then test arguments.dropLast
  else do
    complain "missing ']'".toList
    return 2

/-- Writes words. -/
def echo : Tool := fun arguments => do
  say (Bytes.ofChars (Format.generousEcho arguments))
  return 0

/-- Writes words by a format. -/
def printf : Tool := fun arguments => do
  let words := if arguments.head? = some ['-', '-'] then arguments.drop 1 else arguments
  match words with
  | [] => lacking 1
  | format :: rest => do
    let filling := Format.printf .explicit shown format rest
    for text in filling.complaints do complain text
    say (Bytes.ofChars filling.output)
    return filling.status

end KernelCache.Facts
