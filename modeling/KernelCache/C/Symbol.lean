import KernelCache.C.Operand

/-
**Symbols.**

In C++ the symbol of a function spells out the types of its parameters. A part that was spelled
before is spelled by its number.

* `Symbol.ofFunction` is the symbol of a function.
* `Symbol.ofType` is the code of a type, which tells types apart.
-/

namespace KernelCache.C.Symbol

/-- What was spelled so far: the full spellings of parts, in their order. -/
abbrev Spelling := StateM (List String)

/-- A name of a use of a template, as the name and the code of the arguments. -/
def used (name : String) : String × Option String :=
  let front := name.toList.takeWhile (· != '<')
  let code := (name.toList.drop front.length).drop 1
  if code.isEmpty then (name, none) else (String.ofList front, some (String.ofList code.dropLast))

/-- The name of a use of a template. -/
def useName (name code : String) : String := name ++ "<" ++ code ++ ">"

/-- A name with its length in front of it, and with the arguments of a template behind it. -/
def counted (name : String) : String :=
  let (front, code) := used name
  let behind := match code with
    | some code => "I" ++ code ++ "E"
    | none => ""
  toString front.toList.length ++ front ++ behind

/-- The letters of a number in base 36. -/
def letters (number : Nat) : String :=
  let rec go : Nat → Nat → List Char → List Char
    | 0, _, taken => taken
    | fuel + 1, number, taken =>
      let digit := number % 36
      let char := if digit < 10 then Char.ofNat (48 + digit) else Char.ofNat (55 + digit)
      if number < 36 then char :: taken else go fuel (number / 36) (char :: taken)
  String.ofList (go 40 number [])

/-- The number of a part that was spelled before. -/
def repeated (index : Nat) : String := if index = 0 then "S_" else "S" ++ letters (index - 1) ++ "_"

/-- Spells a part by its number, or else in full. -/
def part (full : String) (spell : Spelling String) : Spelling String := do
  match (← get).findIdx? (· == full) with
  | some index => return repeated index
  | none => do
    let spelled ← spell
    modify (· ++ [full])
    return spelled

/-- Spells a name behind a part that was spelled; the name of a template is a part by itself. -/
def namePart (front spelled name : String) : Spelling String :=
  part (front ++ counted name) (do
    match used name with
    | (_, none) => return spelled ++ counted name
    | (name, some code) => do
      let first ← part (front ++ counted name) (return spelled ++ counted name)
      return first ++ "I" ++ code ++ "E")

/-- The letter of a type of numbers. -/
def letterOf : Arithmetic → String
  | .bool => "b"
  | .char => "c"
  | .signedChar => "a"
  | .unsignedChar => "h"
  | .short => "s"
  | .unsignedShort => "t"
  | .int => "i"
  | .unsignedInt => "j"
  | .long => "l"
  | .unsignedLong => "m"
  | .longLong => "x"
  | .unsignedLongLong => "y"
  | .wide => "n"
  | .unsignedWide => "o"
  | .wcharType => "w"
  | .char8 => "Du"
  | .char16 => "Ds"
  | .char32 => "Di"
  | .float => "f"
  | .double => "d"
  | .longDouble => "e"

/-- The code of the type of numbers that are one value. -/
def lanesCode (lanes : Lanes) : String :=
  if lanes.isComplex then "C" ++ letterOf lanes.base
  else "Dv" ++ toString lanes.count ++ "_" ++ letterOf lanes.base

/-- What the tag of a record for numbers that are one value starts with. -/
def lanesMark : String := "lanes "

/-- The tag of the record for numbers that are one value. -/
def lanesTag (lanes : Lanes) : String := lanesMark ++ lanesCode lanes

/-- The code in the tag of a record, when it is one for numbers that are one value. -/
def laneCode? (tag : String) : Option String :=
  if lanesMark.toList.isPrefixOf tag.toList then
    some (String.ofList (tag.toList.drop lanesMark.length))
  else none

/-- The names of a tag, which has colons between them. -/
def namesOf (tag : String) : List String := tag.splitOn "::"

/-- The parts in front of a name, each spelled once. -/
def frontOf : List String → String → Spelling String
  | [], _ => return ""
  | names, full => go names "" full
where
  /-- Goes on behind the parts that were spelled. -/
  go : List String → String → String → Spelling String
    | [], spelled, _ => return spelled
    | name :: rest, spelled, full => do
      if spelled = "" ∧ name = "std" then go rest "St" "St"
      else
        let next ← namePart full spelled name
        go rest next (full ++ counted name)

/-- A name inside spaces and classes. -/
def nestedName (names : List String) : Spelling String := do
  match names with
  | [] => return ""
  | [name] => namePart "" "" name
  | ["std", name] => namePart "St" "St" name
  | names => do
    let full := (if names.head? == some "std" then "St" else "")
      ++ String.join ((if names.head? == some "std" then names.drop 1 else names).map counted)
    match (← get).findIdx? (· == full) with
    | some index => return repeated index
    | none => do
      let spelled ← frontOf names ""
      return "N" ++ spelled ++ "E"

mutual

/-- The full spelling of a type. -/
def full : CType → String
  | .void => "v"
  | .arithmetic type => letterOf type
  | .null => "Dn"
  | .pointer target => "P" ++ full target
  | .reference toValue target => (if toValue then "O" else "R") ++ full target
  | .array count item => "A" ++ ((count.map toString).getD "") ++ "_" ++ full item
  | .measured _ item => "A_" ++ full item
  | .function result parameters manner =>
    "F" ++ full result ++ (if parameters.isEmpty then "v" else fullAll parameters)
      ++ (if manner.isOpen then "z" else "") ++ "E"
  | .record tag => fullName tag
  | .enumeration tag _ _ => fullName tag
  | .const type => "K" ++ full type
  | .memberPointer tag target => "M" ++ full tag ++ full target
  | .deduced => "Da"
  | .exactly => "Dc"
  | .parameter name => "T" ++ name ++ "_"
  | .pattern text arguments => counted text ++ "I" ++ fullAll arguments ++ "E"
  | .number value =>
    "L" ++ (if value < 0 then "n" ++ toString value.natAbs else toString value) ++ "E"
  | .routine number => "L_Z" ++ toString number ++ "E"
  | .template name => counted name
  | .pack items => "J" ++ fullAll items ++ "E"
  | .expansion type => "Dp" ++ full type
  | .arrayOf count item => "A" ++ full count ++ "_" ++ full item
  | .unknown => "?"

/-- The full spellings of types, one behind the other. -/
def fullAll : List CType → String
  | [] => ""
  | first :: rest => full first ++ fullAll rest

/-- The full spelling of a tag. -/
def fullName (tag : String) : String :=
  if let some code := laneCode? tag then code else
  let names := namesOf tag
  (if names.head? == some "std" then "St" else "")
    ++ String.join ((if names.head? == some "std" then names.drop 1 else names).map counted)

end

mutual

/-- The spelling of a type. -/
def spell : CType → Spelling String
  | .pointer target => do
    match (← get).findIdx? (· == "P" ++ full target) with
    | some index => return repeated index
    | none => do
      let inner ← spell target
      modify (· ++ ["P" ++ full target])
      return "P" ++ inner
  | .reference toValue target => do
    let letter := if toValue then "O" else "R"
    match (← get).findIdx? (· == letter ++ full target) with
    | some index => return repeated index
    | none => do
      let inner ← spell target
      modify (· ++ [letter ++ full target])
      return letter ++ inner
  | .const target => do
    match (← get).findIdx? (· == "K" ++ full target) with
    | some index => return repeated index
    | none => do
      let inner ← spell target
      modify (· ++ ["K" ++ full target])
      return "K" ++ inner
  | .array count item => do
    let size := "A" ++ ((count.map toString).getD "") ++ "_"
    match (← get).findIdx? (· == size ++ full item) with
    | some index => return repeated index
    | none => do
      let inner ← spell item
      modify (· ++ [size ++ full item])
      return size ++ inner
  | .function result parameters manner => do
    let whole := full (.function result parameters manner)
    match (← get).findIdx? (· == whole) with
    | some index => return repeated index
    | none => do
      let first ← spell result
      let others ← spellAll parameters
      modify (· ++ [whole])
      return "F" ++ first ++ (if parameters.isEmpty then "v" else others)
        ++ (if manner.isOpen then "z" else "") ++ "E"
  | .record tag =>
    match laneCode? tag with
    | some code => part code (return code)
    | none => nestedName (namesOf tag)
  | .enumeration tag _ _ => nestedName (namesOf tag)
  | .parameter name => part ("T" ++ name ++ "_") (return "T" ++ name ++ "_")
  | .expansion type => do
    match (← get).findIdx? (· == "Dp" ++ full type) with
    | some index => return repeated index
    | none => do
      let inner ← spell type
      modify (· ++ ["Dp" ++ full type])
      return "Dp" ++ inner
  | .pattern text arguments => do
    let whole := full (.pattern text arguments)
    match (← get).findIdx? (· == whole) with
    | some index => return repeated index
    | none => do
      let first ← nestedName (namesOf text)
      let others ← spellAll arguments
      modify (· ++ [whole])
      return first ++ "I" ++ others ++ "E"
  | .arrayOf count item => do
    let whole := full (.arrayOf count item)
    match (← get).findIdx? (· == whole) with
    | some index => return repeated index
    | none => do
      let size ← spell count
      let inner ← spell item
      modify (· ++ [whole])
      return "A" ++ size ++ "_" ++ inner
  | other => return full other

/-- The spellings of types, one behind the other. -/
def spellAll : List CType → Spelling String
  | [] => return ""
  | first :: rest => do
    let spelled ← spell first
    return spelled ++ (← spellAll rest)

end

/-- The code of a type, which tells types apart. -/
def ofType (type : CType) : String := full type

/-- Words for operators with one operand. -/
def unaryWords : List (String × String) :=
  [("+", "ps"), ("-", "ng"), ("*", "de"), ("&", "ad")]

/-- Words for operators. -/
def words : List (String × String) :=
  [("new", "nw"), ("new[]", "na"), ("delete", "dl"), ("delete[]", "da"), ("~", "co"), ("+", "pl"),
    ("-", "mi"), ("*", "ml"), ("/", "dv"), ("%", "rm"), ("&", "an"), ("|", "or"), ("^", "eo"),
    ("=", "aS"), ("+=", "pL"), ("-=", "mI"), ("*=", "mL"), ("/=", "dV"), ("%=", "rM"),
    ("&=", "aN"), ("|=", "oR"), ("^=", "eO"), ("<<", "ls"), (">>", "rs"), ("<<=", "lS"),
    (">>=", "rS"), ("==", "eq"), ("!=", "ne"), ("<", "lt"), (">", "gt"), ("<=", "le"),
    (">=", "ge"), ("<=>", "ss"), ("!", "nt"), ("&&", "aa"), ("||", "oo"), ("++", "pp"),
    ("--", "mm"), (",", "cm"), ("->*", "pm"), ("->", "pt"), ("()", "cl"), ("[]", "ix")]

/-- The name of a function as a part of a symbol. -/
def wordOf (name : String) (role : Role) (result : CType) (count : Nat) : String :=
  match role with
  | .constructor => "C1"
  | .destructor => "D1"
  | .conversion => "cv" ++ full result
  | .ordinary =>
    if "operator\"\"".toList.isPrefixOf name.toList then
      "li" ++ counted (String.ofList (name.toList.drop 10))
    else if "operator".toList.isPrefixOf name.toList then
      let mark := String.ofList (name.toList.drop 8)
      match if count = 1 then unaryWords.lookup mark else none with
      | some word => word
      | none => (words.lookup mark).getD (counted name)
    else counted name

/-- The symbol of a function by the names around it, its name, and its parameters. -/
def ofFunction (path : List String) (name : String) (role : Role) (isMember isConst : Bool)
    (result : CType) (parameters : List CType) (isOpen : Bool) : String :=
  let spelled : Spelling String := do
    let count := parameters.length + (if isMember then 1 else 0)
    let word := wordOf name role result count
    let whole ← match path with
      | [] => pure word
      | ["std"] => pure ("St" ++ word)
      | path => do
        let front ← frontOf path ""
        pure ("N" ++ (if isConst then "K" else "") ++ front ++ word ++ "E")
    let others ← spellAll parameters
    return "_Z" ++ whole ++ (if parameters.isEmpty && !isOpen then "v" else others)
      ++ (if isOpen then "z" else "")
  (spelled.run []).1

/-- The symbol of a use of a template by the arguments, and by the types that the template says. -/
def ofUse (path : List String) (name : String) (role : Role) (isMember isConst : Bool)
    (arguments : List CType) (result : CType) (parameters : List CType) (isOpen : Bool) : String :=
  let spelled : Spelling String := do
    let count := parameters.length + (if isMember then 1 else 0)
    let word := wordOf name role result count
    let whole ← match path with
      | [] => part word (return word)
      | ["std"] => part ("St" ++ word) (return "St" ++ word)
      | path => do
        let front ← frontOf path ""
        let first ← part (front ++ word) (return front ++ word)
        pure ("N" ++ (if isConst then "K" else "") ++ first)
    let given ← spellAll arguments
    let isInner := !path.isEmpty && path != ["std"]
    let answer ← if role == .ordinary then spell result else pure ""
    let others ← spellAll parameters
    return "_Z" ++ whole ++ "I" ++ given ++ "E" ++ (if isInner then "E" else "") ++ answer
      ++ (if parameters.isEmpty && !isOpen then "v" else others) ++ (if isOpen then "z" else "")
  (spelled.run []).1

/-- The symbol of a variable by the names around it. -/
def ofObject (path : List String) (name : String) : String :=
  if path.isEmpty then name
  else if path == ["std"] then "_ZSt" ++ counted name
  else "_ZN" ++ (frontOf path "" |>.run []).1 ++ counted name ++ "E"

end KernelCache.C.Symbol
