import KernelCache.Shell.Syntax

/-
**The text of a script, read from the left.**

A `Reader` is the rest of a script together with the line it is in. Names that stand for other text
are replaced while the script is read: the text comes in front of the rest, and the name stands for
itself until that text is read. A step that cannot go on complains, and nothing else is tried.
-/

namespace KernelCache.Shell

/-- Why a script makes no sense. -/
structure Complaint where
  line : Nat
  /-- What the plain dialect says. -/
  text : List Char
  /-- The word or the operator that cannot stand where it does; none at the end of the text. -/
  token? : Option (List Char) := none
  deriving DecidableEq, Repr

/-- The rest of a script. -/
structure Reader where
  rest : List Char
  line : Nat := 1
  /-- The lines that were read ahead. -/
  ahead : Nat := 0
  dialect : Dialect := .plain
  /-- The names that stand for other text. -/
  aliases : List (List Char × List Char) := []
  /-- The names whose text is being read, with what is left of the script behind it. -/
  active : List (List Char × Nat) := []
  /-- Where the text of a name ended in a blank, so that the next word may be a name, too. -/
  another : Option Nat := none

/-- A step of reading. -/
abbrev ReadM (α : Type) := ExceptT Complaint (StateM Reader) α

namespace Reader

/-! ### Characters -/

/-- A character that ends a plain word. -/
def isMeta (char : Char) : Bool :=
  char == ' ' || char == '\t' || char == '\n' || char == ';' || char == '&' || char == '|'
    || char == '<' || char == '>' || char == '(' || char == ')'

/-- A character that can start a name. -/
def isNameStart (char : Char) : Bool :=
  ('a' ≤ char && char ≤ 'z') || ('A' ≤ char && char ≤ 'Z') || char == '_'

/-- A decimal digit. -/
def isDigit (char : Char) : Bool := '0' ≤ char && char ≤ '9'

/-- A character inside a name. -/
def isNamePart (char : Char) : Bool := isNameStart char || isDigit char

/-- Whether a text is a name. -/
def isName : List Char → Bool
  | [] => false
  | first :: rest => isNameStart first && rest.all isNamePart

/-- A parameter that is no name. -/
def isSpecial (char : Char) : Bool := "@*#?-$!".toList.contains char || isDigit char

/-! ### Steps -/

/-- The next character, which stays. -/
def peek? : ReadM (Option Char) := do return (← get).rest.head?

/-- Whether the script goes on with a text. -/
def looksAt (text : String) : ReadM Bool := do return text.toList.isPrefixOf (← get).rest

/-- Leaves out characters, none of which ends a line. -/
def skip (count : Nat) : ReadM Unit :=
  modify fun reader => { reader with rest := reader.rest.drop count }

/-- Reads one character. -/
def next? : ReadM (Option Char) := do
  let reader ← get
  match reader.rest with
  | [] => return none
  | char :: rest =>
    set { reader with rest, line := if char = '\n' then reader.line + 1 else reader.line }
    return some char

/-- Reads a text if the script goes on with it. -/
def accept (text : String) : ReadM Bool := do
  if ← looksAt text then
    skip text.length
    return true
  else return false

/-- Reads the longest run of characters of a class. -/
def span (accepts : Char → Bool) : ReadM (List Char) := do
  let reader ← get
  let run := reader.rest.takeWhile accepts
  set { reader with rest := reader.rest.drop run.length, line := reader.line + run.count '\n' }
  return run

/-- Complains in the line that is read. -/
def complain {α : Type} (text : List Char) (token? : Option (List Char) := none) : ReadM α := do
  throw { line := (← get).line, text, token? }

/-- Complains with the words that every fault of the language has in front. -/
def faulty {α : Type} (text : String) (token? : Option (List Char) := none) : ReadM α :=
  complain ("Syntax error: ".toList ++ text.toList) token?

/-- Whether the extended dialect is read. -/
def isExtended : ReadM Bool := do return (← get).dialect == .extended

/-- Reads a text of the extended dialect if it stands next. -/
def acceptExtended (text : String) : ReadM Bool := do
  if ← isExtended then accept text else return false

/-- Leaves out joined lines. -/
def joined : ReadM Unit := do
  let rec go : Nat → ReadM Unit
    | 0 => return
    | fuel + 1 => do
      if ← looksAt "\\\n" then
        modify fun reader =>
          { reader with rest := reader.rest.drop 2, line := reader.line + 1 }
        go fuel
  go (← get).rest.length

/-- Leaves out blanks, joined lines and a comment. -/
def blanks : ReadM Unit := do
  let rec go : Nat → ReadM Unit
    | 0 => return
    | fuel + 1 => do
      match ← peek? with
      | some ' ' | some '\t' => do
        skip 1
        go fuel
      | some '\\' => do
        if ← looksAt "\\\n" then
          joined
          go fuel
      | some '#' => discard (span (· != '\n'))
      | _ => return
  go ((← get).rest.length + 1)

/-- Reads the end of a line, and with it the lines that were read ahead. -/
def lineEnd : ReadM Unit :=
  modify fun reader =>
    { reader with rest := reader.rest.drop 1, line := reader.line + 1 + reader.ahead, ahead := 0 }

/-- Leaves out blanks and ends of lines. -/
def gap : ReadM Unit := do
  let rec go : Nat → ReadM Unit
    | 0 => return
    | fuel + 1 => do
      blanks
      if (← peek?) = some '\n' then
        lineEnd
        go fuel
  go ((← get).rest.length + 1)

/-! ### What stands next -/

/-- Words that are no commands where a command can start. -/
def reserved : List String :=
  ["!", "\x7b", "\x7d", "case", "do", "done", "elif", "else", "esac", "fi", "for", "if", "in",
    "then", "until", "while"]

/-- More of them in the extended dialect. -/
def reservedToo : List String := ["[[", "]]", "function", "select", "time"]

/-- Whether a word is reserved. -/
def isReserved (dialect : Dialect) (word : String) : Bool :=
  reserved.contains word || (dialect == .extended && reservedToo.contains word)

/-- The plain word that stands next, when nothing in it is quoted. -/
def plainWord? (reader : Reader) : Option (List Char) :=
  let word := reader.rest.takeWhile fun char => !isMeta char
  let isPlain := word.all fun char =>
    char != '\\' && char != '\'' && char != '"' && char != '$' && char.toNat != 0x60
  if word ≠ [] ∧ isPlain then some word else none

/-- The reserved word that stands next. -/
def keyword? (reader : Reader) : Option String :=
  (reader.plainWord?.map String.ofList).filter (isReserved reader.dialect)

/-- Whether a word stands next. -/
def atKeyword (word : String) : ReadM Bool := do
  return (← get).keyword? == some word

/-- Reads a reserved word if it stands next. -/
def acceptKeyword (word : String) : ReadM Bool := do
  if ← atKeyword word then
    skip word.length
    return true
  else return false

/-- Operators, longer ones first. -/
def operators : List String := ["&&", "||", ";;", ";", "&", "|", "(", ")"]

/-- What stands next, as a complaint names it, and as it is written. -/
def upcoming (reader : Reader) : String × Option (List Char) :=
  match reader.rest with
  | [] => ("end of file", none)
  | '\n' :: _ => ("newline", some "newline".toList)
  | rest =>
    match operators.find? fun operator => operator.toList.isPrefixOf rest with
    | some operator => ("\"" ++ operator ++ "\"", some operator.toList)
    | none =>
      let behind := rest.dropWhile isDigit
      if behind.head? = some '<' ∨ behind.head? = some '>' then
        ("redirection", some (behind.take 1))
      else
        match reader.keyword? with
        | some word => ("\"" ++ word ++ "\"", some word.toList)
        | none => ("word", some (rest.takeWhile fun char => !isMeta char))

/-- Complains about what stands next. -/
def unexpected {α : Type} (expected? : Option String := none) : ReadM α := do
  blanks
  let (name, token?) := (← get).upcoming
  let behind := match expected? with
    | some expected => " (expecting " ++ expected ++ ")"
    | none => ""
  faulty (name ++ " unexpected" ++ behind) token?

/-- Demands a reserved word. -/
def demandKeyword (word : String) : ReadM Unit := do
  if !(← acceptKeyword word) then unexpected (some ("\"" ++ word ++ "\""))

/-- Demands an operator. -/
def demand (operator : String) : ReadM Unit := do
  blanks
  if !(← accept operator) then unexpected (some ("\"" ++ operator ++ "\""))

/-! ### Names that stand for other text -/

/-- Puts the text of the name that stands next in its place, if it has one. -/
def replaceAlias : ReadM Unit := do
  let rec go : Nat → ReadM Unit
    | 0 => return
    | fuel + 1 => do
      let reader ← get
      let left := reader.rest.length
      let active := reader.active.filter fun entry => entry.2 < left
      match reader.plainWord? with
      | none => set { reader with active }
      | some word =>
        match reader.aliases.lookup word with
        | some text =>
          if active.any (·.1 == word) then set { reader with active }
          else
            let rest := reader.rest.drop word.length
            let behind := rest.length
            let another := match text.getLast? with
              | some ' ' | some '\t' => some behind
              | _ => none
            set { reader with
              rest := text ++ rest, active := (word, behind) :: active, another }
            blanks
            go fuel
        | none => set { reader with active }
  if !(← get).aliases.isEmpty then go 64

/-- Does the same behind a text that ended in a blank. -/
def replaceAnotherAlias : ReadM Unit := do
  let reader ← get
  match reader.another with
  | some behind =>
    if reader.rest.length ≤ behind then
      set { reader with another := none }
      replaceAlias
  | none => return

end Reader

end KernelCache.Shell
