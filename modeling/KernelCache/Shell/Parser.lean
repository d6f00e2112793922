import KernelCache.Shell.Reader

/-
**Reading scripts.**

`Script.next` reads the commands up to the end of a line that ends a command, so that a script can
be run line by line. All functions below it take the depth to which they may still go.
-/

namespace KernelCache.Shell.Script

open Reader

/-! ### Where a word stands -/

/-- Where a word stands. -/
inductive Place where
  /-- Between blanks. -/
  | plain
  /-- Between double quotes. -/
  | quotes
  /-- Behind a parameter's operation, inside of double quotes or not. -/
  | braces (quoted : Bool)
  /-- Behind an operation, up to a slash, too. -/
  | slashed
  /-- Behind an operation, up to a colon, too. -/
  | coloned
  /-- In an expression. -/
  | expression
  /-- In an expression, up to a semicolon, too. -/
  | clause
  /-- In brackets behind a name. -/
  | index
  /-- In lines that are the input of a command. -/
  | document
  /-- In a pattern between double brackets. -/
  | pattern
  deriving DecidableEq

/-- Whether a place quotes its characters. -/
def Place.isQuoted : Place → Bool
  | quotes | expression | clause | document => true
  | braces quoted => quoted
  | plain | slashed | coloned | index | pattern => false

/-- A character that means something of its own somewhere in a word. -/
def isActive (char : Char) : Bool :=
  char == '\\' || char == '\'' || char == '"' || char == '$' || char.toNat == 0x60 || char == '\x7d'
    || char == '/' || char == ':' || char == '[' || char == ']'

/-- Whether a character ends a word that stands in a place. -/
def Place.ends (place : Place) (char : Char) : Bool :=
  match place with
  | plain => isMeta char
  | quotes => char == '"'
  | braces _ => char == '\x7d'
  | slashed => char == '\x7d' || char == '/'
  | coloned => char == '\x7d' || char == ':'
  | index => char == ']'
  | pattern => char == ' ' || char == '\t' || char == '\n'
  | clause => char == ';'
  | expression | document => false

/-- Whether parentheses belong together in a place. -/
def Place.nests : Place → Bool
  | expression | clause | pattern => true
  | plain | quotes | braces _ | slashed | coloned | index | document => false

/-! ### Quotes -/

/-- Reads characters between single quotes. -/
def singleQuoted : ReadM (List Char) := do
  skip 1
  let chars ← span (· != '\'')
  if (← next?).isNone then faulty "Unterminated quoted string"
  return chars

/-- The value of digits of a base, at most so many, and what follows them. -/
def digitsAt (base count : Nat) (text : List Char) : Option (Nat × List Char) :=
  let value? (char : Char) : Option Nat :=
    let value := if isDigit char then char.toNat - 48
      else if 'a' ≤ char ∧ char ≤ 'f' then char.toNat - 87
      else if 'A' ≤ char ∧ char ≤ 'F' then char.toNat - 55
      else 99
    if value < base then some value else none
  let digits := (text.take count).takeWhile fun char => (value? char).isSome
  if digits = [] then none
  else
    some (digits.foldl (fun value digit => value * base + (value? digit).getD 0) 0,
      text.drop digits.length)

/-- What a backslash and what follows it stand for between quotes behind a dollar sign. -/
def escaped : List Char → List Char × List Char
  | [] => (['\\'], [])
  | char :: rest =>
    let numbered (base count : Nat) (text : List Char) : List Char × List Char :=
      match digitsAt base count text with
      | some (value, rest) => ([Char.ofNat (value % 256)], rest)
      | none => (['\\', char], rest)
    match char with
    | 'a' => (['\x07'], rest)
    | 'b' => (['\x08'], rest)
    | 'e' | 'E' => (['\x1b'], rest)
    | 'f' => (['\x0c'], rest)
    | 'n' => (['\n'], rest)
    | 'r' => (['\r'], rest)
    | 't' => (['\t'], rest)
    | 'v' => (['\x0b'], rest)
    | '\\' | '\'' | '"' | '?' => ([char], rest)
    | 'x' => numbered 16 2 rest
    | _ => if '0' ≤ char ∧ char ≤ '7' then numbered 8 3 (char :: rest) else (['\\', char], rest)

/-- Reads characters between quotes behind a dollar sign, where backslashes have meanings. -/
def dollarQuoted : Nat → List Char → ReadM (List Char)
  | 0, _ => faulty "Unterminated quoted string"
  | fuel + 1, found => do
    match ← next? with
    | none => faulty "Unterminated quoted string"
    | some '\'' => return found.reverse
    | some '\\' => do
      let (chars, rest) := escaped (← get).rest
      modify fun reader => { reader with rest }
      dollarQuoted fuel (chars.reverse ++ found)
    | some char => dollarQuoted fuel (char :: found)

/-- Reads text between grave accents. -/
def backquoted (inQuotes : Bool) : ReadM (List Char) := do
  let rec go : Nat → List Char → ReadM (List Char)
    | 0, _ => faulty "EOF in backquote substitution"
    | fuel + 1, found => do
      match ← next? with
      | none => faulty "EOF in backquote substitution"
      | some '\\' => do
        match ← next? with
        | none => faulty "EOF in backquote substitution"
        | some '\n' => go fuel found
        | some char =>
          if char = '$' ∨ char.toNat = 0x60 ∨ char = '\\' ∨ (inQuotes ∧ char = '"') then
            go fuel (char :: found)
          else go fuel (char :: '\\' :: found)
      | some char =>
        if char.toNat = 0x60 then return found.reverse else go fuel (char :: found)
  skip 1
  go ((← get).rest.length + 1) []

/-! ### Parameters -/

/-- The operation behind a parameter's name. -/
def operation : ReadM Operation := do
  if ← accept ":-" then return .fallback true
  else if ← accept ":=" then return .assign true
  else if ← accept ":?" then return .demand true
  else if ← accept ":+" then return .alternative true
  else if ← accept "-" then return .fallback false
  else if ← accept "=" then return .assign false
  else if ← accept "?" then return .demand false
  else if ← accept "+" then return .alternative false
  else if ← accept "##" then return .trim false true
  else if ← accept "#" then return .trim false false
  else if ← accept "%%" then return .trim true true
  else if ← accept "%" then return .trim true false
  else if ← isExtended then
    if ← accept ":" then return .slice
    else if ← accept "//" then return .replace .all
    else if ← accept "/#" then return .replace .atStart
    else if ← accept "/%" then return .replace .atEnd
    else if ← accept "/" then return .replace .first
    else if ← accept "^^" then return .recase .upper true
    else if ← accept "^" then return .recase .upper false
    else if ← accept ",," then return .recase .lower true
    else if ← accept "," then return .recase .lower false
    else if ← accept "@" then
      match ← peek? with
      | some letter => do
        skip 1
        return .transform letter
      | none => return .senseless []
    else return .senseless []
  else return .senseless []

/-- Reads the name of a parameter, if there is one. -/
def parameterName? : ReadM (Option (List Char)) := do
  match ← peek? with
  | none => return none
  | some char =>
    if isNameStart char then return some (← span isNamePart)
    else if isDigit char then return some (← span isDigit)
    else if isSpecial char then do
      skip 1
      return some [char]
    else return none

/-! ### Braces -/

/-- The numbers or letters between two ends, with a step. -/
def between (first last : Int) (step : Nat) : List Int :=
  let distance := (last - first).natAbs / max step 1
  let sign : Int := if first ≤ last then 1 else -1
  (List.range (distance + 1)).map fun index => first + sign * (max step 1 * index : Nat)

/-- The words of a row such as `1..5`, or `none` if the text is no row. -/
def row? (text : List Char) : Option (List (List Char)) := do
  let parts := (String.ofList text).splitOn ".."
  let (first, last, step?) ← match parts with
    | [first, last] => some (first, last, none)
    | [first, last, step] => some (first, last, some step)
    | _ => none
  let step ← match step? with
    | none => some 1
    | some step => step.toInt?.map Int.natAbs
  let bare (text : String) : List Char := text.toList.dropWhile fun char => char == '-'
  match first.toInt?, last.toInt? with
  | some low, some high =>
    let padded := [first, last].any fun text => (bare text).head? = some '0' ∧ 1 < (bare text).length
    let width := max first.length last.length
    return (between low high step).map fun value =>
      let digits := (toString value.natAbs).toList
      let size := if value < 0 then width - 1 else width
      let digits := if padded then List.replicate (size - digits.length) '0' ++ digits else digits
      if value < 0 then '-' :: digits else digits
  | none, none =>
    match first.toList, last.toList with
    | [low], [high] =>
      if low.isAlpha ∧ high.isAlpha then
        return (between low.toNat high.toNat step).map fun value => [Char.ofNat value.toNat]
      else none
    | _, _ => none
  | _, _ => none

/-- A word as single characters that are not quoted, and other pieces. -/
def atomsOf (word : Word) : List (Char ⊕ Piece) :=
  word.flatMap fun piece =>
    match piece with
    | .text false chars => chars.map Sum.inl
    | piece => [Sum.inr piece]

/-- Single characters and pieces as a word. -/
def ofAtoms : List (Char ⊕ Piece) → Word
  | [] => []
  | .inr piece :: rest => piece :: ofAtoms rest
  | .inl char :: rest =>
    match ofAtoms rest with
    | .text false chars :: others => .text false (char :: chars) :: others
    | others => .text false [char] :: others

/-- Splits what stands behind an opening brace into its alternatives, up to the closing brace. -/
def alternatives? : Nat → Nat → List (Char ⊕ Piece) → List (Char ⊕ Piece) →
    Option (List (List (Char ⊕ Piece)) × List (Char ⊕ Piece))
  | 0, _, _, _ => none
  | _ + 1, _, _, [] => none
  | fuel + 1, depth, found, atom :: rest =>
    match atom with
    | .inl '\x7b' => alternatives? fuel (depth + 1) (atom :: found) rest
    | .inl '\x7d' =>
      match depth with
      | 0 => some ([found.reverse], rest)
      | depth + 1 => alternatives? fuel depth (atom :: found) rest
    | .inl ',' =>
      if depth = 0 then
        (alternatives? fuel 0 [] rest).map fun (others, behind) =>
          (found.reverse :: others, behind)
      else alternatives? fuel depth (atom :: found) rest
    | _ => alternatives? fuel depth (atom :: found) rest

/-- The words that a word with braces stands for. -/
def unfold : Nat → List (Char ⊕ Piece) → List (List (Char ⊕ Piece))
  | 0, atoms => [atoms]
  | _ + 1, [] => [[]]
  | fuel + 1, .inl '\x7b' :: rest =>
    let plain := (unfold fuel rest).map (Sum.inl '\x7b' :: ·)
    match alternatives? (rest.length + 1) 0 [] rest with
    | none => plain
    | some ([single], behind) =>
      let chars? := single.mapM fun atom => match atom with
        | .inl char => some char
        | .inr _ => none
      match chars?.bind row? with
      | some words =>
        let ends := unfold fuel behind
        words.flatMap fun word => ends.map (word.map Sum.inl ++ ·)
      | none => plain
    | some (parts, behind) =>
      let ends := unfold fuel behind
      (parts.flatMap (unfold fuel)).flatMap fun part => ends.map (part ++ ·)
  | fuel + 1, atom :: rest => (unfold fuel rest).map (atom :: ·)

/-- The words that a word stands for in the extended dialect. -/
def unfolded (word : Word) : List Word :=
  let atoms := atomsOf word
  if atoms.any fun atom => match atom with
    | .inl '\x7b' => true
    | _ => false
  then (unfold (2 * atoms.length + 2) atoms).map ofAtoms
  else [word]

/-! ### Lines that are the input of a command -/

/-- The length of a text up to the end of its line; quotes may hold ends of lines. -/
def lineLength : Option Char → List Char → Nat
  | _, [] => 0
  | none, '\n' :: _ => 0
  | some '\'', '\'' :: rest => 1 + lineLength none rest
  | some '\'', _ :: rest => 1 + lineLength (some '\'') rest
  | quote?, '\\' :: _ :: rest => 2 + lineLength quote? rest
  | none, '\'' :: rest => 1 + lineLength (some '\'') rest
  | none, '"' :: rest => 1 + lineLength (some '"') rest
  | some '"', '"' :: rest => 1 + lineLength none rest
  | quote?, _ :: rest => 1 + lineLength quote? rest

/-- The lines of a text up to one that is the given one, and what follows it. -/
def linesUpTo (stripped : Bool) (last : List Char) : List (List Char) →
    List (List Char) × List (List Char) × Bool
  | [] => ([], [], false)
  | first :: rest =>
    let line := if stripped then first.dropWhile (· == '\t') else first
    if line = last then ([], rest, true)
    else
      let (lines, after, ended) := linesUpTo stripped last rest
      (line :: lines, after, ended)

/-- The characters of a word without its quotes, and whether it has some. -/
def unquoted (word : Word) : List Char × Bool :=
  (word.flatMap fun piece =>
    match piece with
    | .text _ chars => chars
    | .parameter _ name _ _ _ => '$' :: name
    | .home name => '~' :: name
    | _ => [],
  word.any fun piece =>
    match piece with
    | .text quoted _ => quoted
    | _ => false)

/-- A text in which joined lines are one. -/
def withoutJoins : List Char → List Char
  | '\\' :: '\n' :: rest => withoutJoins rest
  | '\\' :: char :: rest => '\\' :: char :: withoutJoins rest
  | char :: rest => char :: withoutJoins rest
  | [] => []

/-! ### Words -/

/-- Reads commands with a reader of their own. -/
def onText {α : Type} (text : List Char) (step : ReadM α) : ReadM α := do
  let outer ← get
  set { outer with rest := text, active := [], another := none, ahead := 0 }
  let result ← step
  set outer
  return result

/-- Whether a word has the form of an assignment. -/
def looksAssigned (reader : Reader) : Bool :=
  match reader.rest with
  | first :: _ =>
    if !isNameStart first then false
    else
      match reader.rest.dropWhile isNamePart with
      | '=' :: _ => true
      | '+' :: '=' :: _ => reader.dialect == .extended
      | '[' :: rest =>
        reader.dialect == .extended
          && (match (rest.dropWhile (· != ']')).drop 1 with
            | '=' :: _ | '+' :: '=' :: _ => true
            | _ => false)
      | _ => false
  | [] => false

/-- Whether two parentheses, which were opened, are closed by two. -/
def closedByTwo : Nat → List Char → Bool
  | _, [] => false
  | 1, ')' :: rest => rest.head? = some ')'
  | depth, ')' :: rest => closedByTwo (depth - 1) rest
  | depth, '(' :: rest => closedByTwo (depth + 1) rest
  | depth, '\\' :: _ :: rest => closedByTwo depth rest
  | depth, _ :: rest => closedByTwo depth rest

/-- Whether an assignment is one of all elements. -/
def isArray (reader : Reader) : Bool :=
  match reader.rest.dropWhile isNamePart with
  | '=' :: '(' :: _ | '+' :: '=' :: '(' :: _ => true
  | _ => false

/-- Names that no function can have. -/
def specialNames : List String :=
  [".", ":", "break", "continue", "eval", "exec", "exit", "export", "readonly", "return", "set",
    "shift", "times", "trap", "unset"]

/-- A command in front of others. -/
def join (first rest : Command) : Command :=
  match rest with
  | .sequence others => .sequence (first :: others)
  | rest => .sequence [first, rest]

mutual

/-- The pieces of a word up to what ends it. -/
def pieces : Nat → Place → Nat → ReadM Word
  | 0, _, _ => faulty "too deep"
  | fuel + 1, place, level => do
    match ← peek? with
    | none => return []
    | some char =>
      if place.ends char ∧ level = 0 then return []
      else if place.nests ∧ char = '(' then do
        skip 1
        return .text place.isQuoted ['('] :: (← pieces fuel place (level + 1))
      else if place.nests ∧ char = ')' then
        match level with
        | 0 => return []
        | level + 1 => do
          skip 1
          return .text place.isQuoted [')'] :: (← pieces fuel place level)
      else if place = .index ∧ char = '[' then do
        skip 1
        return .text false ['['] :: (← pieces fuel place (level + 1))
      else if place = .index ∧ char = ']' then do
        skip 1
        return .text false [']'] :: (← pieces fuel place (level - 1))
      else
        let isPlain (char : Char) : Bool :=
          !isActive char && !place.ends char && char != '(' && char != ')'
        let run ← span isPlain
        if run ≠ [] then
          return .text place.isQuoted run :: (← pieces fuel place level)
        else
          let piece ← piece fuel place char
          return piece ++ (← pieces fuel place level)

/-- One piece of a word. -/
def piece : Nat → Place → Char → ReadM Word
  | 0, _, _ => faulty "too deep"
  | fuel + 1, place, first => do
    let quoted := place.isQuoted
    match first with
    | '\\' => do
      discard next?
      match ← peek? with
      | none => return [.text true ['\\']]
      | some '\n' => do
        discard next?
        return []
      | some next =>
        let special := next = '$' ∨ next.toNat = 0x60 ∨ (next = '"' ∧ place ≠ .document)
          ∨ next = '\\' ∨ (next = '\x7d' ∧ place = .braces true)
        if quoted ∧ !special then return [.text true ['\\']]
        else do
          discard next?
          return [.text true [next]]
    | '\'' =>
      if quoted then do
        skip 1
        return [.text true ['\'']]
      else return [.text true (← singleQuoted)]
    | '"' =>
      if place = .expression ∨ place = .clause then do
        skip 1
        return []
      else if place = .document then do
        skip 1
        return [.text true ['"']]
      else do
        skip 1
        let inner ← pieces fuel .quotes 0
        if !(← accept "\"") then faulty "Unterminated quoted string"
        return match inner with
          | [.parameter true ['@'] none .plain []] => inner
          | [.parameter true _ (some [.text false ['@']]) _ _] => inner
          | inner => .text true [] :: inner
    | '$' => do
      skip 1
      dollar fuel place
    | other =>
      if other.toNat = 0x60 then do
        let text ← backquoted (place = .quotes)
        let body ← onText text (do
          let body ← commands fuel true
          gap
          if (← peek?).isSome then unexpected
          return body)
        return [.output quoted body]
      else do
        discard next?
        return [.text quoted [other]]

/-- What follows a dollar sign. -/
def dollar : Nat → Place → ReadM Word
  | 0, _ => faulty "too deep"
  | fuel + 1, place => do
    let quoted := place.isQuoted
    joined
    match ← peek? with
    | some '(' => do
      let start ← get
      if (← looksAt "((") && (!(← isExtended) || closedByTwo 1 (start.rest.drop 2)) then
        skip 2
        let inner ← pieces fuel .expression 0
        if !(← accept "))") then faulty "Missing '))'" (some [')'])
        return [.number quoted inner]
      else do
        skip 1
        let body ← commands fuel true
        gap
        demand ")"
        return [.output quoted body]
    | some '\x7b' => do
      skip 1
      return [← bracedParameter fuel quoted]
    | some '\'' =>
      if (← isExtended) && !quoted then do
        skip 1
        return [.text true (← dollarQuoted ((← get).rest.length + 1) [])]
      else return [.text quoted ['$']]
    | some '"' =>
      if (← isExtended) && !quoted then return [] else return [.text quoted ['$']]
    | some char =>
      if isNameStart char then
        return [.parameter quoted (← span isNamePart) none .plain []]
      else if isSpecial char then do
        skip 1
        return [.parameter quoted [char] none .plain []]
      else return [.text quoted ['$']]
    | none => return [.text quoted ['$']]
/-- A parameter in braces, behind the opening one. -/
def bracedParameter : Nat → Bool → ReadM Piece
  | 0, _ => faulty "too deep"
  | fuel + 1, quoted => do
    let rest := (← get).rest
    let extended ← isExtended
    let isLength := match rest with
      | '#' :: '\x7d' :: _ => false
      | '#' :: next :: _ => isNameStart next || isDigit next || isSpecial next
      | _ => false
    let isIndirect := extended && (match rest with
      | '!' :: next :: _ => isNameStart next || isDigit next
      | _ => false)
    if isLength then
      skip 1
      let behind := rest.drop 2
      if rest.drop 1 |>.head? |>.any fun char => isSpecial char && !isDigit char
          && behind.head? != some '\x7d' then
        -- The number of arguments, with an operation behind it.
        let operation ← operation
        return ← operated fuel quoted ['#'] none operation
      let name := (← parameterName?).getD []
      let index ← indexOf fuel
      if !(← accept "\x7d") then return ← senseless fuel quoted
      return .parameter quoted name index .length []
    else if isIndirect then
      skip 1
      let name := (← parameterName?).getD []
      if (← accept "*\x7d") then return .parameter quoted name none (.names false) []
      else if (← accept "@\x7d") then return .parameter quoted name none (.names true) []
      else if (← accept "[@]\x7d") then return .parameter quoted name none (.keys true) []
      else if (← accept "[*]\x7d") then return .parameter quoted name none (.keys false) []
      else
        let index ← indexOf fuel
        if (← accept "\x7d") then return .parameter quoted name index .indirect []
        else return ← senseless fuel quoted
    else
      match ← parameterName? with
      | none => senseless fuel quoted
      | some name => do
        let index ← indexOf fuel
        if ← accept "\x7d" then return .parameter quoted name index .plain []
        else operated fuel quoted name index (← operation)

/-- The words behind an operation. -/
def operated : Nat → Bool → List Char → Option Word → Operation → ReadM Piece
  | 0, _, _, _, _ => faulty "too deep"
  | fuel + 1, quoted, name, index, operation => do
    let inner (place : Place) : ReadM Word := pieces fuel place 0
    let closed (words : List Word) : ReadM Piece := do
      if !(← accept "\x7d") then faulty "Missing '\x7d'"
      return .parameter quoted name index operation words
    match operation with
    | .slice => do
      let first ← inner .coloned
      if ← accept ":" then closed [first, ← inner (.braces false)] else closed [first]
    | .replace _ => do
      let first ← inner .slashed
      if ← accept "/" then closed [first, ← inner (.braces quoted)] else closed [first, []]
    | .trim _ _ | .recase _ _ => closed [← inner (.braces false)]
    | .transform _ => closed []
    | .senseless _ => senseless fuel quoted
    | _ => closed [← inner (.braces quoted)]

/-- An operation that makes no sense, up to the closing brace. -/
def senseless : Nat → Bool → ReadM Piece
  | 0, _ => faulty "too deep"
  | fuel + 1, quoted => do
    discard (pieces fuel (.braces quoted) 0)
    if !(← accept "\x7d") then faulty "Missing '\x7d'"
    return .parameter quoted [] none (.senseless []) []

/-- The index in brackets behind a name, if there is one. -/
def indexOf : Nat → ReadM (Option Word)
  | 0 => faulty "too deep"
  | fuel + 1 => do
    if (← isExtended) && (← looksAt "[") then
      skip 1
      let inner ← pieces fuel .index 0
      if !(← accept "]") then faulty "Missing ']'"
      return some inner
    else return none

/-- A home directory at the start of a word. -/
def home : Nat → Bool → ReadM Word
  | 0, _ => return []
  | _ + 1, inValue => do
    if ← looksAt "~" then
      let rest := (← get).rest.drop 1
      let name := rest.takeWhile fun char => isNamePart char || char == '-' || char == '+'
      let ends := match rest.drop name.length with
        | [] => true
        | char :: _ => char == '/' || isMeta char || (inValue && char == ':')
      if ends then
        skip (name.length + 1)
        return [.home name]
      else return []
    else return []

/-- The value of an assignment: a home directory may stand behind every colon. -/
def value : Nat → ReadM Word
  | 0 => faulty "too deep"
  | fuel + 1 => do
    let start ← home fuel true
    let rest ← pieces fuel .plain 0
    return start ++ rest.flatMap (withHomes fuel)

/-- The pieces of a text of a value in which home directories stand behind colons. -/
def withHomes : Nat → Piece → Word
  | 0, piece => [piece]
  | _ + 1, piece =>
    match piece with
    | .text false chars =>
      let parts := chars.splitOn ':'
      if parts.drop 1 |>.any fun part => part.head? = some '~' then
        let pieces := parts.mapIdx fun index part =>
          let front : Word := if index = 0 then [] else [.text false [':']]
          match part with
          | '~' :: rest =>
            let name := rest.takeWhile isNamePart
            let behind := rest.drop name.length
            if 0 < index ∧ (behind = [] ∨ behind.head? = some '/') then
              front ++ [Piece.home name, .text false behind]
            else front ++ [.text false part]
          | part => front ++ [.text false part]
        pieces.flatten
      else [piece]
    | piece => [piece]

/-- A word. -/
def word : Nat → ReadM Word
  | 0 => faulty "too deep"
  | fuel + 1 => do
    if (← isExtended) && ((← looksAt "<(") || (← looksAt ">(")) then
      let reads ← looksAt "<("
      skip 2
      let body ← commands fuel true
      gap
      demand ")"
      return .channel reads body :: (← pieces fuel .plain 0)
    else
      let start ← home fuel false
      return start ++ (← pieces fuel .plain 0)

/-- The lines behind the end of this line, up to one that is the next word. They are taken out of
the text, so that it goes on with the rest of this line. -/
def document : Nat → Bool → ReadM Word
  | 0, _ => faulty "too deep"
  | fuel + 1, stripped => do
    let (last, raw) := unquoted (← word fuel)
    let reader ← get
    let length := lineLength none reader.rest
    let line := reader.rest.take length
    let following := reader.rest.drop (length + 1)
    let following := if raw then following else following
    let (lines, after, ended) := linesUpTo stripped last (following.splitOn '\n')
    let count := lines.length + if ended then 1 else 0
    let behind := if reader.rest.length ≤ length then [] else '\n' :: ['\n'].intercalate after
    set { reader with rest := line ++ behind, ahead := reader.ahead + count }
    let text := if ended then lines.flatMap (· ++ ['\n']) else ['\n'].intercalate lines
    if raw then return [.text true text] else onText text (pieces fuel .document 0)

/-- Whether a redirection stands next. -/
def atRedirection : Nat → ReadM Bool
  | 0 => return false
  | _ + 1 => do
    let reader ← get
    let extended := reader.dialect == .extended
    match reader.rest with
    | '<' :: next :: _ | '>' :: next :: _ => return !(extended && next == '(')
    | '<' :: _ | '>' :: _ => return true
    | '&' :: '>' :: _ => return extended
    | '\x7b' :: rest =>
      let name := rest.takeWhile isNamePart
      return extended && name ≠ [] && (match rest.drop name.length with
        | '\x7d' :: '<' :: _ | '\x7d' :: '>' :: _ => true
        | _ => false)
    | rest =>
      match rest.dropWhile isDigit with
      | '<' :: _ | '>' :: _ => return rest.head?.any isDigit
      | _ => return false

/-- A redirection. -/
def redirection : Nat → ReadM Redirection
  | 0 => faulty "too deep"
  | fuel + 1 => do
    let binding? ← if ← accept "\x7b" then do
        let name ← span isNamePart
        skip 1
        pure (some name)
      else pure none
    let digits ← span isDigit
    let number? := if digits = [] then none else (String.ofList digits).toNat?
    let (usual, access) ←
      if ← accept ">>" then pure (1, Access.append)
      else if ← accept ">&" then pure (1, .duplicate)
      else if ← accept ">|" then pure (1, .force)
      else if ← accept "<&" then pure (0, .duplicate)
      else if ← accept "<>" then pure (0, .both)
      else if ← acceptExtended "<<<" then pure (0, .line)
      else if ← accept "<<" then pure (0, .document)
      else if ← accept ">" then pure (1, .output)
      else if ← accept "&>>" then pure (1, .allAppend)
      else if ← accept "&>" then pure (1, .all)
      else do
        skip 1
        pure (0, .input)
    let stripped ← if access = .document then accept "-" else pure false
    blanks
    match ← peek? with
    | none => unexpected
    | some char =>
      if isMeta char ∧ !((← isExtended) && ((← looksAt "<(") || (← looksAt ">("))) then unexpected
    let target ← if access = .document then document fuel stripped else word fuel
    if access = .duplicate then
      match target with
      | [.text false text] =>
        let isNumber := text = ['-'] ∨ (text.all isDigit)
        if !isNumber ∧ !(← isExtended) then faulty "Bad fd number"
        if !isNumber ∧ digits = [] ∧ usual = 1 then
          return .mk 1 binding? .all target
      | _ => pure ()
    return .mk (number?.getD usual) binding? access target

/-- All redirections that stand next. -/
def redirections : Nat → ReadM (List Redirection)
  | 0 => return []
  | fuel + 1 => do
    blanks
    if ← atRedirection fuel then
      let first ← redirection fuel
      return first :: (← redirections fuel)
    else return []

/-- The elements of an array between parentheses. -/
def elements : Nat → ReadM (List (Option Word × Word))
  | 0 => faulty "too deep"
  | fuel + 1 => do
    gap
    match ← peek? with
    | none => unexpected
    | some ')' => do
      skip 1
      return []
    | some '[' => do
      let before ← get
      skip 1
      let inner ← pieces fuel .index 0
      if ← accept "]=" then
        let found ← value fuel
        return (some inner, found) :: (← elements fuel)
      else do
        set before
        let found ← word fuel
        return (unfolded found).map ((none, ·)) ++ (← elements fuel)
    | some char =>
      if isMeta char then unexpected
      else
        let found ← word fuel
        return (unfolded found).map ((none, ·)) ++ (← elements fuel)

/-- An assignment. -/
def assignment : Nat → ReadM Assignment
  | 0 => faulty "too deep"
  | fuel + 1 => do
    let name ← span isNamePart
    let index ← indexOf fuel
    let how ← if ← accept "+" then pure Assigning.add else pure .set
    skip 1
    if ← if index.isNone then acceptExtended "(" else pure false then
      return .many name how (← elements fuel)
    else return .one name index how (← value fuel)

/-- The parts of a simple command behind those that were read. -/
def parts : Nat → Bool → ReadM (List Assignment × List Word × List Redirection)
  | 0, _ => faulty "too deep"
  | fuel + 1, started => do
    blanks
    if started then replaceAnotherAlias else replaceAlias
    if ← atRedirection fuel then
      let first ← redirection fuel
      let (assignments, words, others) ← parts fuel started
      return (assignments, words, first :: others)
    else
      let reader ← get
      match reader.rest.head? with
      | none => return ([], [], [])
      | some char =>
        if isMeta char ∧ !(reader.dialect = .extended
            ∧ ((← looksAt "<(") || (← looksAt ">("))) then return ([], [], [])
        else if !started ∧ looksAssigned reader then do
          let first ← assignment fuel
          let (assignments, words, redirections) ← parts fuel false
          return (first :: assignments, words, redirections)
        else
          let declares := started && reader.dialect == .extended && looksAssigned reader
          if declares && isArray reader then
            -- A declaration of an array stays an assignment.
            let first ← assignment fuel
            let (assignments, words, redirections) ← parts fuel true
            return (first :: assignments, words, redirections)
          else
            let first ← word fuel
            let found := if reader.dialect = .extended && !declares then unfolded first else [first]
            let (assignments, words, redirections) ← parts fuel true
            return (assignments, found ++ words, redirections)
/-- A simple command, or the definition of a function. -/
def simple : Nat → ReadM Command
  | 0 => faulty "too deep"
  | fuel + 1 => do
    let line := (← get).line
    let (assignments, words, redirections) ← parts fuel false
    if assignments.isEmpty && words.isEmpty && redirections.isEmpty then unexpected
    match assignments, words, redirections with
    | [], [[.text false name]], [] =>
      blanks
      if ← looksAt "(" then
        skip 1
        demand ")"
        if !(← isExtended) ∧ (!isName name ∨ specialNames.contains (String.ofList name)) then
          faulty "Bad function name"
        gap
        return .define line name (← command fuel)
      else return .simple line [] words []
    | _, _, _ => return .simple line assignments words redirections
/-- Alternatives of conditions. -/
def condition : Nat → ReadM Condition
  | 0 => faulty "too deep"
  | fuel + 1 => do
    let first ← conjunction fuel
    gap
    if ← accept "||" then return .either first (← condition fuel) else return first

/-- Conditions that have to hold together. -/
def conjunction : Nat → ReadM Condition
  | 0 => faulty "too deep"
  | fuel + 1 => do
    let first ← primary fuel
    gap
    if ← accept "&&" then return .both first (← conjunction fuel) else return first

/-- One condition. -/
def primary : Nat → ReadM Condition
  | 0 => faulty "too deep"
  | fuel + 1 => do
    gap
    if ← acceptKeyword "!" then return .negation (← primary fuel)
    else if ← accept "(" then
      let inner ← condition fuel
      gap
      demand ")"
      return inner
    else
      let reader ← get
      let unary := match reader.rest with
        | '-' :: letter :: next :: _ =>
          letter.isAlpha && (next == ' ' || next == '\t')
        | _ => false
      if unary then
        let operator := reader.rest.take 2
        skip 2
        gap
        return .one operator (← word fuel)
      else
        if reader.rest.head?.all isMeta then unexpected
        let left ← word fuel
        blanks
        let behind := (← get).rest
        let operator? := ["==", "=~", "!=", "=", "<", ">", "-eq", "-ne", "-lt", "-le", "-gt",
          "-ge", "-nt", "-ot", "-ef"].find? fun operator =>
            operator.toList.isPrefixOf behind
        match operator? with
        | none => return .one ['-', 'n'] left
        | some operator => do
          skip operator.length
          gap
          let isPattern := operator = "=~" ∨ operator = "==" ∨ operator = "!=" ∨ operator = "="
          let right ← if isPattern then pieces fuel .pattern 0 else word fuel
          return .two operator.toList left right

/-- Commands between separators, up to what cannot start a command; there may be none when
`orNone`. -/
def commands : Nat → Bool → ReadM Command
  | 0, _ => faulty "too deep"
  | fuel + 1, orNone => do
    gap
    replaceAlias
    let reader ← get
    let ended := match reader.rest with
      | [] => true
      | ')' :: _ => true
      | ';' :: ';' :: _ | ';' :: '&' :: _ => true
      | _ =>
        ["do", "done", "elif", "else", "esac", "fi", "then", "\x7d"].contains
          (reader.keyword?.getD "")
    if ended then
      if orNone then return .sequence [] else unexpected
    else
      let first ← chain fuel
      blanks
      let rest := (← get).rest
      match rest with
      | ';' :: ';' :: _ | ';' :: '&' :: _ => return .sequence [first]
      | ';' :: _ => do
        skip 1
        return join first (← commands fuel true)
      | '&' :: '&' :: _ => unexpected
      | '&' :: _ => do
        skip 1
        return join (.background first) (← commands fuel true)
      | '\n' :: _ => return join first (← commands fuel true)
      | _ => return .sequence [first]
/-- Pipelines with conditions between them. -/
def chain : Nat → ReadM Command
  | 0 => faulty "too deep"
  | fuel + 1 => do
    let first ← pipeline fuel
    chainFrom fuel first

/-- The conditions behind a pipeline. -/
def chainFrom : Nat → Command → ReadM Command
  | 0, _ => faulty "too deep"
  | fuel + 1, left => do
    blanks
    if ← accept "&&" then
      gap
      chainFrom fuel (.both left (← pipeline fuel))
    else if ← accept "||" then
      gap
      chainFrom fuel (.either left (← pipeline fuel))
    else return left

/-- Commands with pipes between them. -/
def pipeline : Nat → ReadM Command
  | 0 => faulty "too deep"
  | fuel + 1 => do
    blanks
    replaceAlias
    if ← acceptKeyword "!" then
      blanks
      if (← isExtended) && (← atKeyword "!") then return .pipeline true [← pipeline fuel]
      let stages ← stages fuel
      return .pipeline true stages
    else if ← if ← isExtended then acceptKeyword "time" else pure false then
      blanks
      if ← acceptKeyword "-p" then blanks
      match ← peek? with
      | none | some '\n' | some ';' => return .timed .nothing
      | _ => return .timed (← pipeline fuel)
    else
      let stages ← stages fuel
      return match stages with
        | [single] => single
        | stages => .pipeline false stages

/-- The commands of a pipeline. -/
def stages : Nat → ReadM (List Command)
  | 0 => faulty "too deep"
  | fuel + 1 => do
    let first ← command fuel
    blanks
    if (← looksAt "||") || !(← looksAt "|") then return [first]
    else do
      skip 1
      let both ← if ← isExtended then accept "&" else pure false
      gap
      let first := if both then
          Command.redirected 0 first [.mk 2 none .duplicate [.text false ['1']]]
        else first
      return first :: (← stages fuel)

/-- One command with its redirections. -/
def command : Nat → ReadM Command
  | 0 => faulty "too deep"
  | fuel + 1 => do
    blanks
    replaceAlias
    let reader ← get
    let line := reader.line
    let compound (step : ReadM Command) : ReadM Command := do
      let body ← step
      let found ← redirections fuel
      return if found.isEmpty then body else .redirected line body found
    match reader.keyword? with
    | some "\x7b" => do
      skip 1
      compound do
        let body ← commands fuel false
        gap
        demandKeyword "\x7d"
        return body
    | some "if" => do
      skip 2
      compound (branches fuel)
    | some "while" => do
      skip 5
      compound (loop fuel true)
    | some "until" => do
      skip 5
      compound (loop fuel false)
    | some "for" => do
      skip 3
      compound (each fuel)
    | some "case" => do
      skip 4
      compound (choice fuel)
    | some "[[" => do
      skip 2
      compound do
        let found ← condition fuel
        gap
        demandKeyword "]]"
        return .test line found
    | some "function" => do
      skip 8
      blanks
      let name ← span fun char => !isMeta char
      blanks
      if ← accept "(" then demand ")"
      gap
      return .define line name (← command fuel)
    | some "time" => simple fuel
    | some _ => unexpected
    | none =>
      match reader.rest with
      | '(' :: rest =>
        if reader.dialect = .extended ∧ rest.head? = some '(' then do
          skip 2
          let inner ← pieces fuel .expression 0
          if !(← accept "))") then unexpected
          compound (return .arithmetic line inner)
        else do
          skip 1
          compound do
            let body ← commands fuel false
            gap
            demand ")"
            return .subshell body
      | _ => simple fuel

/-- The branches behind a condition. -/
def branches : Nat → ReadM Command
  | 0 => faulty "too deep"
  | fuel + 1 => do
    let condition ← commands fuel false
    gap
    demandKeyword "then"
    let yes ← commands fuel false
    gap
    if ← acceptKeyword "elif" then return .branch condition yes (← branches fuel)
    else if ← acceptKeyword "else" then
      let no ← commands fuel false
      gap
      demandKeyword "fi"
      return .branch condition yes no
    else
      demandKeyword "fi"
      return .branch condition yes .nothing

/-- A loop behind its keyword. -/
def loop : Nat → Bool → ReadM Command
  | 0, _ => faulty "too deep"
  | fuel + 1, expected => do
    let condition ← commands fuel false
    gap
    return .loop expected condition (← body fuel)

/-- The body of a loop. -/
def body : Nat → ReadM Command
  | 0 => faulty "too deep"
  | fuel + 1 => do
    demandKeyword "do"
    let found ← commands fuel false
    gap
    demandKeyword "done"
    return found

/-- A loop over words. -/
def each : Nat → ReadM Command
  | 0 => faulty "too deep"
  | fuel + 1 => do
    let line := (← get).line
    blanks
    if ← acceptExtended "((" then
      let start ← pieces fuel .clause 0
      skip 1
      let condition ← pieces fuel .clause 0
      skip 1
      let raw ← pieces fuel .expression 0
      if !(← accept "))") then unexpected
      blanks
      discard (accept ";")
      gap
      return .counted line start condition raw (← body fuel)
    else
      let name := ((← get).plainWord?).getD []
      if !isName name then faulty "Bad for loop variable"
      skip name.length
      gap
      if ← acceptKeyword "in" then
        let words ← wordList fuel
        blanks
        match ← peek? with
        | some ';' => skip 1
        | some '\n' => lineEnd
        | _ => unexpected
        gap
        return .each line name (some words) (← body fuel)
      else
        discard (accept ";")
        gap
        return .each line name none (← body fuel)

/-- The words up to a separator. -/
def wordList : Nat → ReadM (List Word)
  | 0 => faulty "too deep"
  | fuel + 1 => do
    blanks
    let reader ← get
    match reader.rest.head? with
    | none => return []
    | some char =>
      if isMeta char then return []
      else
        let first ← word fuel
        let found := if reader.dialect = .extended then unfolded first else [first]
        return found ++ (← wordList fuel)

/-- A choice by patterns. -/
def choice : Nat → ReadM Command
  | 0 => faulty "too deep"
  | fuel + 1 => do
    blanks
    let line := (← get).line
    if (← peek?).all isMeta then unexpected (some "word")
    let subject ← word fuel
    gap
    demandKeyword "in"
    return .choice line subject (← choiceBranches fuel)

/-- The branches of a choice. -/
def choiceBranches : Nat → ReadM (List (List Word × Command × Following))
  | 0 => faulty "too deep"
  | fuel + 1 => do
    gap
    if ← acceptKeyword "esac" then return []
    else
      discard (accept "(")
      let patterns ← patternList fuel
      demand ")"
      let body ← commands fuel true
      gap
      if ← acceptKeyword "esac" then return [(patterns, body, .finish)]
      else
        if ← acceptExtended ";;&" then
          return (patterns, body, .goOn) :: (← choiceBranches fuel)
        else if ← acceptExtended ";&" then
          return (patterns, body, .fall) :: (← choiceBranches fuel)
        else
          demand ";;"
          return (patterns, body, .finish) :: (← choiceBranches fuel)

/-- Patterns with bars between them. -/
def patternList : Nat → ReadM (List Word)
  | 0 => faulty "too deep"
  | fuel + 1 => do
    blanks
    if (← peek?).all isMeta then unexpected (some "word")
    let first ← word fuel
    blanks
    if (← looksAt "|") && !(← looksAt "||") then
      skip 1
      return first :: (← patternList fuel)
    else return [first]

end

/-! ### Whole scripts -/

/-- Reads the commands up to the end of a line; there are none at the end of the text. -/
def next (reader : Reader) : Except Complaint (Option (Command × Reader)) :=
  let fuel := 4 * reader.rest.length + 64
  let rec line : Nat → ReadM Command
    | 0 => faulty "too deep"
    | rounds + 1 => do
      let first ← chain fuel
      blanks
      let (first, separated) ←
        if ← looksAt ";;" then unexpected
        else if ← accept ";" then pure (first, true)
        else if (← looksAt "&&") then unexpected
        else if ← accept "&" then pure (Command.background first, true)
        else pure (first, false)
      blanks
      match ← peek? with
      | none => return .sequence [first]
      | some '\n' => do
        lineEnd
        return .sequence [first]
      | some _ =>
        if !separated then unexpected
        match ← line rounds with
        | .sequence others => return .sequence (first :: others)
        | other => return .sequence [first, other]
  let step : ReadM (Option Command) := do
    gap
    replaceAlias
    if (← peek?).isNone then return none
    else return some (← line (reader.rest.length + 1))
  match step.run.run reader with
  | (.error complaint, _) => .error complaint
  | (.ok none, _) => .ok none
  | (.ok (some command), after) => .ok (some (command, after))

end KernelCache.Shell.Script
