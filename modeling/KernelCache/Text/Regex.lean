import KernelCache.Text.Category

/-
**Regular expressions.**

There are two ways of writing them: a basic one, in which braces, parentheses and bars have a
backslash in front, and an extended one, in which they have none.

* `Regex.read` reads an expression, or says what is wrong with it.
* `Regex.steps` lists where a match from a position may end, the farthest end first.
* `Regex.search` finds the leftmost match and the longest one from there, with the groups in it.
-/

namespace KernelCache.Text

/-- A place between characters of which some belong to words. -/
inductive Edge where
  | word
  | inside
  | wordStart
  | wordEnd
  deriving DecidableEq, Repr

/-- A regular expression. -/
inductive Regex where
  | empty
  /-- One character, which is among the members or is not. -/
  | one (negated : Bool) (members : List Member)
  | start
  | finish
  | edge (kind : Edge)
  | group (number : Nat) (body : Regex)
  /-- The text of a group once more. -/
  | again (number : Nat)
  | both (first second : Regex)
  | either (first second : Regex)
  | times (least : Nat) (most? : Option Nat) (body : Regex)
  deriving Repr

namespace Regex

/-- How an expression is written. -/
structure Form where
  /-- Without backslashes in front of braces, parentheses and bars. -/
  extended : Bool
  /-- Whether a sign of repetition may have nothing in front of it. -/
  lenient : Bool := true

/-- The expression for a character. -/
def literal (char : Char) : Regex := .one false [.range char char]

/-- The expression for any character. -/
def anything : Regex := .one true []

/-- The expression for a character of a word, or another one. -/
def wordPart (negated : Bool) : Regex := .one negated [.category .alnum, .range '_' '_']

/-- The largest number of repetitions. -/
def repetitionLimit : Nat := 32767

/-! ### Reading -/

/-- What is left to read, how many groups were opened, and those that were closed. -/
structure Reading where
  rest : List Char
  opened : Nat := 0
  closed : List Nat := []

/-- A step of reading. -/
abbrev Read (α : Type) := StateT Reading (Except String) α

/-- Sets what is left to read. -/
def leave (rest : List Char) : Read Unit := modify fun reading => { reading with rest }

/-- What stands between a bracket with a mark and the mark with a closing bracket. -/
def marked (mark : Char) (text : List Char) : Option (List Char × List Char) :=
  let inside := text.takeWhile (· != mark)
  match text.drop inside.length with
  | _ :: ']' :: rest => some (inside, rest)
  | _ => none

/-- A character at the start or the end of a range, and what follows it. -/
def endpoint (text : List Char) : Except String (Char × List Char) :=
  match text with
  | '[' :: '.' :: rest | '[' :: '=' :: rest =>
    match marked ((text.drop 1).headD '.') rest with
    | some ([char], rest) => .ok (char, rest)
    | some _ => .error "Invalid collation character"
    | none => .error "Unmatched [, [^, [:, [., or [="
  | char :: rest => .ok (char, rest)
  | [] => .error "Unmatched [, [^, [:, [., or [="

/-- The members up to a closing bracket. -/
def members : Nat → Bool → List Char → Except String (List Member × List Char)
  | 0, _, _ => .error "Unmatched [, [^, [:, [., or [="
  | fuel + 1, first, text => do
    match text with
    | [] => throw "Unmatched [, [^, [:, [., or [="
    | ']' :: rest =>
      if !first then return ([], rest)
      let (found, rest) ← members fuel false rest
      return (.range ']' ']' :: found, rest)
    | '[' :: ':' :: rest =>
      match marked ':' rest with
      | none => throw "Unmatched [, [^, [:, [., or [="
      | some (name, rest) =>
        match Category.ofName? (String.ofList name) with
        | none => throw "Invalid character class name"
        | some category =>
          let (found, rest) ← members fuel false rest
          return (.category category :: found, rest)
    | text =>
      let (low, rest) ← endpoint text
      match rest with
      | '-' :: ']' :: _ =>
        let (found, rest) ← members fuel false rest
        return (.range low low :: found, rest)
      | '-' :: more =>
        let (high, rest) ← endpoint more
        if high < low then throw "Invalid range end"
        let (found, rest) ← members fuel false rest
        return (.range low high :: found, rest)
      | rest =>
        let (found, rest) ← members fuel false rest
        return (.range low low :: found, rest)

/-- A set of characters behind its opening bracket. -/
def set : Read Regex := do
  let text := (← get).rest
  let (negated, text) := match text with
    | '^' :: rest => (true, rest)
    | _ => (false, text)
  let (found, rest) ← members (text.length + 1) true text
  let inside := text.take (text.length - rest.length - 1)
  if 2 < inside.length ∧ inside.head? = some ':' ∧ inside.getLast? = some ':' then
    throw "character class syntax is [[:space:]], not [:space:]"
  leave rest
  return .one negated found

/-- What a character behind a backslash stands for. -/
def escape (char : Char) : Regex :=
  match char with
  | 'w' => wordPart false
  | 'W' => wordPart true
  | 's' => .one false [.category .space]
  | 'S' => .one true [.category .space]
  | 'b' => .edge .word
  | 'B' => .edge .inside
  | '<' => .edge .wordStart
  | '>' => .edge .wordEnd
  | '\'' => .finish
  | char => if char.toNat = 0x60 then .start else literal char

/-- Whether a text goes on with a bar, and what is behind it. -/
def bar? (form : Form) (text : List Char) : Option (List Char) :=
  match form.extended, text with
  | true, '|' :: rest | false, '\\' :: '|' :: rest => some rest
  | _, _ => none

/-- Whether a text goes on with a closing parenthesis, and what is behind it. -/
def closing? (form : Form) (text : List Char) : Option (List Char) :=
  match form.extended, text with
  | true, ')' :: rest | false, '\\' :: ')' :: rest => some rest
  | _, _ => none

/-- Whether nothing is open that a closing parenthesis could close, so that it is a character. -/
def isLoose (form : Form) (reading : Reading) : Bool :=
  form.extended && form.lenient && reading.opened == reading.closed.length

/-- The numbers of a repetition behind its opening brace. -/
def bounds? (form : Form) (text : List Char) : Option ((Nat × Option Nat) × List Char) := do
  let number (text : List Char) : Option Nat × List Char :=
    let digits := text.takeWhile Char.isDigit
    ((String.ofList digits).toNat?, text.drop digits.length)
  let (least?, rest) := number text
  let (range, rest) ← match rest with
    | ',' :: rest =>
      let (most?, rest) := number rest
      some ((least?.getD 0, most?), rest)
    | rest => least?.map fun least => ((least, some least), rest)
  match form.extended, rest with
  | true, '\x7d' :: rest | false, '\\' :: '\x7d' :: rest => some (range, rest)
  | _, _ => none

/-- A sign of repetition at the front of a text: how often, and what follows it. -/
def repetition? (form : Form) (text : List Char) :
    Except String (Option ((Nat × Option Nat) × List Char)) :=
  let braced (rest : List Char) : Except String (Option ((Nat × Option Nat) × List Char)) :=
    match bounds? form rest with
    | some ((least, most?), rest) =>
      if most?.any (· < least) then .error "Invalid content of \\\x7b\\\x7d"
      else if repetitionLimit < max least (most?.getD 0) then .error "Regular expression too big"
      else .ok (some ((least, most?), rest))
    | none =>
      if form.extended ∧ form.lenient then .ok none
      else if form.extended then .error "Invalid preceding regular expression"
      else if rest.contains '\x7d' then .error "Invalid content of \\\x7b\\\x7d"
      else .error "Unmatched \\\x7b"
  match form.extended, text with
  | _, '*' :: rest => .ok (some ((0, none), rest))
  | true, '+' :: rest | false, '\\' :: '+' :: rest => .ok (some ((1, none), rest))
  | true, '?' :: rest | false, '\\' :: '?' :: rest => .ok (some ((0, some 1), rest))
  | true, '\x7b' :: rest | false, '\\' :: '\x7b' :: rest => braced rest
  | _, _ => .ok none

/-- Reads the signs of repetition behind an expression. -/
def repeated (form : Form) : Nat → Regex → Read Regex
  | 0, body => return body
  | fuel + 1, body => do
    match ← repetition? form (← get).rest with
    | some ((least, most?), rest) => do
      leave rest
      repeated form fuel (.times least most? body)
    | none => return body

/-- Whether nothing that a sign of repetition could belong to stands in front. -/
abbrev AtStart := Bool

mutual

/-- Reads alternatives. -/
def alternatives (form : Form) : Nat → Read Regex
  | 0 => throw "Regular expression too big"
  | fuel + 1 => do
    let first ← sequence form fuel true
    match bar? form (← get).rest with
    | some rest => do
      leave rest
      return .either first (← alternatives form fuel)
    | none => return first

/-- Reads what stands side by side in an alternative. -/
def sequence (form : Form) : Nat → AtStart → Read Regex
  | 0, _ => throw "Regular expression too big"
  | fuel + 1, atStart => do
    let reading ← get
    let text := reading.rest
    let closes := (closing? form text).isSome && !isLoose form reading
    if text.isEmpty ∨ (bar? form text).isSome ∨ closes then return .empty
    let first ← element form fuel atStart
    let isAnchor : Bool := match first with
      | .start => !form.extended
      | _ => false
    let first ← if isAnchor then pure first else repeated form (text.length + 1) first
    match ← sequence form fuel isAnchor with
    | .empty => return first
    | rest => return .both first rest

/-- Reads one element. -/
def element (form : Form) : Nat → AtStart → Read Regex
  | 0, _ => throw "Regular expression too big"
  | fuel + 1, atStart => do
    let text := (← get).rest
    match text with
    | [] => return .empty
    | '[' :: rest => do
      leave rest
      set
    | '.' :: rest => do
      leave rest
      return anything
    | '^' :: rest => do
      leave rest
      return if form.extended ∨ atStart then .start else literal '^'
    | '$' :: rest => do
      leave rest
      let atEnd := rest.isEmpty || (bar? form rest).isSome || (closing? form rest).isSome
      return if form.extended ∨ atEnd then .finish else literal '$'
    | '\\' :: char :: rest =>
      if char = '(' ∧ !form.extended then
        leave rest
        parenthesis form fuel
      else if char = '\x7b' ∧ !form.extended ∧ !form.lenient ∧ atStart then
        throw "Invalid preceding regular expression"
      else do
        leave rest
        if '1' ≤ char ∧ char ≤ '9' then
          let number := char.toNat - '0'.toNat
          if !(← get).closed.contains number then throw "Invalid back reference"
          return .again number
        return escape char
    | ['\\'] => throw "Trailing backslash"
    | '(' :: rest => do
      leave rest
      if form.extended then parenthesis form fuel else return literal '('
    | char :: rest => do
      leave rest
      if form.extended ∧ atStart ∧ "*+?".toList.contains char then
        if form.lenient then element form fuel atStart
        else throw "Invalid preceding regular expression"
      else if form.extended ∧ form.lenient ∧ atStart ∧ char = '\x7b' then
        match bounds? form rest with
        | some (_, rest) => do
          leave rest
          return .empty
        | none => return literal char
      else return literal char

/-- Reads a group behind its opening parenthesis. -/
def parenthesis (form : Form) : Nat → Read Regex
  | 0 => throw "Regular expression too big"
  | fuel + 1 => do
    let number := (← get).opened + 1
    modify fun reading => { reading with opened := number }
    let body ← alternatives form fuel
    match closing? form (← get).rest with
    | some rest => do
      leave rest
      modify fun reading => { reading with closed := number :: reading.closed }
      return .group number body
    | none => throw "Unmatched ( or \\("

end

/-- Reads an expression. -/
def read (form : Form) (text : List Char) : Except String Regex := do
  let (regex, reading) ← (alternatives form (3 * text.length + 4)).run { rest := text }
  if reading.rest.isEmpty then return regex
  else throw "Unmatched ) or \\)"

/-! ### Matching -/

/-- What an expression is matched with. -/
structure Subject where
  text : Array Char
  /-- Whether letters of both cases are the same. -/
  folded : Bool := false
  /-- Whether lines inside of the text have starts and ends of their own. -/
  lines : Bool := false

/-- A position with the groups on the way to it: where each of them starts and ends. -/
structure Spot where
  position : Nat
  groups : List (Nat × Nat × Nat) := []
  deriving DecidableEq, Repr

/-- Whether a character is part of a word. -/
def isWordPart (char : Char) : Bool := Category.alnum.accepts char || char == '_'

namespace Subject

/-- Whether a word goes on in front of a position. -/
def wordBefore (subject : Subject) (position : Nat) : Bool :=
  0 < position && (subject.text[position - 1]?).any isWordPart

/-- Whether a word goes on behind a position. -/
def wordBehind (subject : Subject) (position : Nat) : Bool :=
  (subject.text[position]?).any isWordPart

/-- Whether a place between characters is as it has to be. -/
def fits (subject : Subject) (position : Nat) (edge : Edge) : Bool :=
  let before := subject.wordBefore position
  let behind := subject.wordBehind position
  match edge with
  | .word => before != behind
  | .inside => before == behind
  | .wordStart => !before && behind
  | .wordEnd => before && !behind

/-- Whether a set has a character. -/
def accepts (subject : Subject) (negated : Bool) (members : List Member) (char : Char) : Bool :=
  let isMember (char : Char) : Bool := members.any (Member.accepts char)
  (isMember char || (subject.folded && (isMember char.toLower || isMember char.toUpper))) != negated

/-- Whether two characters are the same. -/
def same (subject : Subject) (first second : Char) : Bool :=
  first == second || (subject.folded && first.toLower == second.toLower)

end Subject

/-- The spots without those that another one in front of them stands for. Where `apart`, their groups
count, too. -/
def distinct (apart : Bool) (spots : List Spot) : List Spot :=
  (spots.foldl (fun kept spot =>
    if kept.any fun other =>
        other.position == spot.position && (!apart || other.groups == spot.groups) then kept
    else spot :: kept) []).reverse

/-- The spots in order, the farthest first. -/
def farthest (spots : List Spot) : List Spot :=
  spots.mergeSort fun first second => second.position ≤ first.position

/-- The spots after steps from every spot. -/
def after (apart : Bool) (step : Spot → List Spot) (spots : List Spot) : List Spot :=
  match spots with
  | [] => []
  | [spot] => step spot
  | spots => farthest (distinct apart (spots.flatMap step))

/-- The spots after a number of steps. -/
def afterTimes (apart : Bool) (step : Spot → List Spot) : Nat → List Spot → List Spot
  | 0, spots => spots
  | count + 1, spots =>
    if spots.isEmpty then [] else afterTimes apart step count (after apart step spots)

/-- The spots after any number of steps up to a bound, each of which leads on. -/
def closure (apart : Bool) (step : Spot → List Spot) : Nat → List Spot → List Spot → List Spot
  | 0, _, found => found
  | _ + 1, [], found => found
  | fuel + 1, front, found =>
    let next := distinct apart <| front.flatMap fun spot =>
      (step spot).filter fun next => spot.position < next.position
    let fresh := next.filter fun spot =>
      !found.any fun other =>
        other.position == spot.position && (!apart || other.groups == spot.groups)
    closure apart step fuel fresh (found ++ fresh)

/-- How many characters from a position on are accepted, at most so many. -/
def runLength (subject : Subject) (accepts : Char → Bool) (position : Nat) : Nat → Nat
  | 0 => 0
  | limit + 1 =>
    match subject.text[position]? with
    | some char => if accepts char then runLength subject accepts (position + 1) limit + 1 else 0
    | none => 0

/-- Where a match from a spot may end, the farthest end first. -/
def steps (apart : Bool) (subject : Subject) : Regex → Spot → List Spot
  | .empty, spot => [spot]
  | .one negated members, spot =>
    match subject.text[spot.position]? with
    | some char =>
      if subject.accepts negated members char then
        [{ spot with position := spot.position + 1 }]
      else []
    | none => []
  | .start, spot =>
    if spot.position = 0 ∨ (subject.lines ∧ subject.text[spot.position - 1]? = some '\n') then
      [spot]
    else []
  | .finish, spot =>
    if spot.position = subject.text.size
        ∨ (subject.lines ∧ subject.text[spot.position]? = some '\n') then [spot]
    else []
  | .edge kind, spot => if subject.fits spot.position kind then [spot] else []
  | .group number body, spot =>
    (steps apart subject body spot).map fun last =>
      { last with groups := (number, spot.position, last.position) :: last.groups }
  | .again number, spot =>
    match spot.groups.lookup number with
    | none => []
    | some (first, last) =>
      let length := last - first
      let isSame := (List.range length).all fun index =>
        match subject.text[first + index]?, subject.text[spot.position + index]? with
        | some left, some right => subject.same left right
        | _, _ => false
      if isSame then [{ spot with position := spot.position + length }] else []
  | .both first second, spot =>
    after apart (steps apart subject second) (steps apart subject first spot)
  | .either first second, spot =>
    farthest (distinct apart (steps apart subject first spot ++ steps apart subject second spot))
  | .times least most? (.one negated members), spot =>
    let limit := subject.text.size - spot.position
    let run := runLength subject (subject.accepts negated members) spot.position
      (min limit (most?.getD limit))
    if run < least then []
    else
      (List.range (run - least + 1)).map fun index =>
        { spot with position := spot.position + run - index }
  | .times least most? body, spot =>
    let step := steps apart subject body
    let least' := min least (subject.text.size + 1)
    let start := afterTimes apart step least' [spot]
    match most? with
    | none => farthest (closure apart step (subject.text.size + 1) start start)
    | some most =>
      let more := min (most - least) (subject.text.size + 1)
      farthest (closure apart step more start start)

/-- Whether an expression asks for the text of a group once more. -/
def looksBack : Regex → Bool
  | .again _ => true
  | .group _ body | .times _ _ body => looksBack body
  | .both first second | .either first second => looksBack first || looksBack second
  | _ => false

/-- A match: where it starts and where it ends, with the groups in it. -/
structure Found where
  start : Nat
  stop : Nat
  groups : List (Nat × Nat × Nat)
  deriving DecidableEq, Repr

/-- The longest match from a position. -/
def matchAt? (regex : Regex) (subject : Subject) (position : Nat) : Option Found :=
  (steps regex.looksBack subject regex { position }).head?.map fun last =>
    { start := position, stop := last.position, groups := last.groups }

/-- The first match from one of so many positions on. -/
def searchFrom (regex : Regex) (subject : Subject) : Nat → Nat → Option Found
  | 0, _ => none
  | count + 1, position =>
    match regex.matchAt? subject position with
    | some found => some found
    | none => searchFrom regex subject count (position + 1)

/-- The leftmost match from a position on. -/
def search (regex : Regex) (subject : Subject) (position : Nat := 0) : Option Found :=
  searchFrom regex subject (subject.text.size + 1 - position) position

namespace Found

/-- The text of a group; zero stands for the whole match. -/
def group? (found : Found) (subject : Subject) (number : Nat) : Option (List Char) :=
  let part (first last : Nat) : List Char := (subject.text.extract first last).toList
  if number = 0 then some (part found.start found.stop)
  else (found.groups.lookup number).map fun (first, last) => part first last

end Found

end Regex

end KernelCache.Text
