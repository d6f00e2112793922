import KernelCache.C.Token
import Std.Data.HashMap

/-
**Macros.**

A name stands for other tokens, which are read again after it was replaced; a name that came from a
macro does not stand for that macro.

* `Macro.define?` reads what stands behind the name of a macro.
* `Macros.expand?` replaces macros in tokens.
-/

namespace KernelCache.C

/-- What a name stands for. -/
structure Macro where
  /-- The names of what a use has to give in parentheses. -/
  parameters : Option (List String) := none
  /-- Whether the last parameter takes all that is left. -/
  isOpen : Bool := false
  body : List Lexeme
  deriving Repr

/-- Macros by their names. -/
abbrev Macros := Std.HashMap String Macro

namespace Lexeme

/-- A lexeme that stands alone. -/
def ofToken (token : Token) : Lexeme := { token, spaced := true }

/-- A whole number as a lexeme. -/
def ofNat (number : Nat) : Lexeme := ofToken (.number (toString number))

end Lexeme

/-- The characters of a text between quotes, as they are written in a text. -/
def quotedText (text : String) : List Char :=
  text.toList.flatMap fun char => if char = '"' ∨ char = '\\' then ['\\', char] else [char]

/-- A text as a lexeme. -/
def Lexeme.ofText (text : String) : Lexeme :=
  .ofToken (.text ("\"" ++ String.ofList (quotedText text) ++ "\""))

namespace Macro

/-- The name of what an open macro takes last. -/
def lastName : String := "__VA_ARGS__"

/-- Reads the names of parameters up to the closing parenthesis: the names, whether the last one is
open, and what follows. -/
def parameters? : Nat → List Lexeme → Option (List String × Bool × List Lexeme)
  | 0, _ => none
  | fuel + 1, lexemes =>
    match lexemes.map Lexeme.token with
    | .mark ")" :: _ => some ([], false, lexemes.drop 1)
    | .mark "..." :: .mark ")" :: _ => some ([lastName], true, lexemes.drop 2)
    | .name name :: .mark "..." :: .mark ")" :: _ => some ([name], true, lexemes.drop 3)
    | .name name :: .mark ")" :: _ => some ([name], false, lexemes.drop 2)
    | .name name :: .mark "," :: _ => do
      let (others, isOpen, rest) ← parameters? fuel (lexemes.drop 2)
      if others = [] then none else return (name :: others, isOpen, rest)
    | _ => none

/-- Whether the hash signs in a body stand where they may. -/
def isSound (parameters : Option (List String)) (body : List Lexeme) : Bool :=
  let tokens := body.map Lexeme.token
  let glue : Token := .mark "##"
  let marked := (tokens.zip (tokens.drop 1 ++ [.mark ""])).all fun (first, second) =>
    match first, second with
    | .mark "#", .name name =>
      parameters.all fun names => names.contains name || name == "__VA_OPT__"
    | .mark "#", _ => parameters.isNone
    | _, _ => true
  tokens.head? != some glue && tokens.getLast? != some glue && marked

/-- Reads what stands behind the name of a macro. -/
def define? (lexemes : List Lexeme) : Option Macro :=
  match lexemes with
  | { token := .mark "(", spaced := false, .. } :: rest => do
    let (parameters, isOpen, body) ← parameters? (rest.length + 1) rest
    let names := parameters
    if names.eraseDups.length != names.length || !isSound (some parameters) body then none
    else return { parameters := some parameters, isOpen, body }
  | body => if isSound none body then some { body } else none

end Macro

namespace Macros

/-- Reads what stands between parentheses, the first one of which was read: pieces with commas
between them, the last lexeme, and what is left. -/
def pieces? : Nat → List Lexeme → List Lexeme → Option (List (List Lexeme) × Lexeme × List Lexeme)
  | _, _, [] => none
  | depth, piece, lexeme :: rest =>
    if lexeme.token = .mark ")" ∧ depth = 0 then some ([piece.reverse], lexeme, rest)
    else if lexeme.token = .mark "," ∧ depth = 0 then do
      let (pieces, last, rest) ← pieces? 0 [] rest
      return (piece.reverse :: pieces, last, rest)
    else
      let depth := if lexeme.token = .mark "(" then depth + 1
        else if lexeme.token = .mark ")" then depth - 1 else depth
      pieces? depth (lexeme :: piece) rest

/-- What a use gives for a parameter, before and after macros are replaced in it. -/
structure Given where
  written : List Lexeme
  expanded : List Lexeme

/-- Pieces for parameters: an open macro takes the last ones together. -/
def assigned? (parameters : List String) (isOpen : Bool) (pieces : List (List Lexeme)) :
    Option (List (List Lexeme)) :=
  let count := parameters.length
  if isOpen then
    let joined := (pieces.drop (count - 1)).intersperse [{ token := .mark "," }]
    if pieces.length + 1 < count then none
    else some (pieces.take (count - 1) ++ [joined.flatten])
  else if count = 0 ∧ pieces.length = 1 ∧ pieces.all List.isEmpty then some []
  else if pieces.length = count then some pieces
  else none

/-- Tokens as the text of a string constant. -/
def asText (lexemes : List Lexeme) : Lexeme :=
  let parts := lexemes.zipIdx.map fun (lexeme, index) =>
    let spelled := lexeme.token.spelling
    let spelled := match lexeme.token with
      | .text _ | .character _ => String.ofList (quotedText spelled)
      | _ => spelled
    if lexeme.spaced ∧ 0 < index then " " ++ spelled else spelled
  .ofToken (.text ("\"" ++ String.join parts ++ "\""))

/-- Makes one token of two, where that gives a token. -/
def glued? (plusPlus : Bool) (left right : Lexeme) : Option Lexeme :=
  let chars := (left.token.spelling ++ right.token.spelling).toList
  match Token.first? plusPlus chars with
  | some (token, []) =>
    some { left with token, hidden := left.hidden.filter right.hidden.contains }
  | _ => none

/-- Puts right lexemes behind left ones, with the innermost two made one. The left ones are there
with the last one first. -/
def glue? (plusPlus : Bool) (left right : List Lexeme) : Option (List Lexeme) :=
  match left, right with
  | last :: front, first :: rest => do
    return rest.reverse ++ (← glued? plusPlus last first) :: front
  | [], right => some right.reverse
  | left, [] => some left

/-- The lexemes up to the parenthesis that closes, and those behind it. -/
def upToClosing? : Nat → List Lexeme → List Lexeme → Option (List Lexeme × List Lexeme)
  | _, _, [] => none
  | depth, taken, lexeme :: rest =>
    if lexeme.token = .mark ")" ∧ depth = 0 then some (taken.reverse, rest)
    else
      let depth := if lexeme.token = .mark "(" then depth + 1
        else if lexeme.token = .mark ")" then depth - 1 else depth
      upToClosing? depth (lexeme :: taken) rest

/-- The lexemes between parentheses that stand for themselves when further arguments are there. -/
def optionalPart? : List Lexeme → Option (List Lexeme × List Lexeme)
  | { token := .mark "(", .. } :: rest => upToClosing? 0 [] rest
  | _ => none

/-- Puts what a use gives in the places of the parameters of a body, behind what is there already,
the last first. A doubled hash sign glues what stands around it, a single one makes a text. -/
def substitute? (plusPlus : Bool) (given : List (String × Given)) :
    Nat → List Lexeme → Bool → List Lexeme → Option (List Lexeme)
  | 0, _, _, _ => none
  | _ + 1, front, _, [] => some front
  | fuel + 1, front, isGlued, lexeme :: rest =>
    let isGlue (lexeme? : Option Lexeme) : Bool := lexeme?.any fun found => found.token = .mark "##"
    let place (own : List Lexeme) (rest : List Lexeme) : Option (List Lexeme) := do
      let own := match own with
        | first :: others => { first with spaced := lexeme.spaced } :: others
        | [] => []
      let front ← if isGlued then glue? plusPlus front own else some (own.reverse ++ front)
      substitute? plusPlus given fuel front false rest
    match lexeme.token, rest with
    | .mark "##", ({ token := .name name, .. } : Lexeme) :: after =>
      match given.lookup name, front with
      | some argument, { token := .mark ",", .. } :: before =>
        if name = Macro.lastName ∧ argument.written.isEmpty then
          substitute? plusPlus given fuel before false after
        else if name = Macro.lastName then
          substitute? plusPlus given fuel (argument.expanded.reverse ++ front) false after
        else substitute? plusPlus given fuel front true (rest)
      | _, _ =>
        substitute? plusPlus given fuel front true (rest)
    | .mark "##", rest => substitute? plusPlus given fuel front true rest
    | .mark "#", { token := .name name, .. } :: after =>
      match given.lookup name with
      | some argument => place [asText argument.written] after
      | none => place [lexeme] rest
    | .name "__VA_OPT__", rest =>
      match given.lookup Macro.lastName, optionalPart? rest with
      | some argument, some (inner, after) => do
        if argument.expanded.isEmpty then place [] after
        else
          let inner ← substitute? plusPlus given fuel [] false inner
          place inner.reverse after
      | _, _ => place [lexeme] rest
    | .name name, rest =>
      match given.lookup name with
      | some argument =>
        place (if isGlued || isGlue rest.head? then argument.written else argument.expanded) rest
      | none => place [lexeme] rest
    | _, rest => place [lexeme] rest

/-- Adds names to the macros that lexemes came from, and puts them where another one stands. -/
def hide (names : List String) (model : Lexeme) (lexemes : List Lexeme) : List Lexeme :=
  lexemes.map fun lexeme =>
    { lexeme with
      hidden := names ++ lexeme.hidden, line := model.line, column := model.column
      file := model.file }

/-- The lexemes behind an object that is replaced; its front keeps the white space. -/
def spacedAs (model : Lexeme) : List Lexeme → List Lexeme
  | first :: rest => { first with spaced := model.spaced } :: rest
  | [] => []

/-- Replaces macros in lexemes, behind what is done already, the last first; fails where a use of a
macro is not closed or has the wrong number of arguments. -/
def expandOnto? (plusPlus : Bool) (macros : Macros) :
    Nat → List Lexeme → List Lexeme → Option (List Lexeme)
  | 0, _, _ => none
  | _ + 1, done, [] => some done.reverse
  | fuel + 1, done, lexeme :: rest =>
    match lexeme.token with
    | .name "__LINE__" =>
      expandOnto? plusPlus macros fuel
        ({ lexeme with token := .number (toString lexeme.line) } :: done) rest
    | .name name =>
      if lexeme.hidden.contains name then expandOnto? plusPlus macros fuel (lexeme :: done) rest
      else
        match macros[name]? with
        | none => expandOnto? plusPlus macros fuel (lexeme :: done) rest
        | some found =>
          match found.parameters, rest with
          | none, rest => do
            let body ← substitute? plusPlus [] (2 * found.body.length + 2) [] false found.body
            let body := hide (name :: lexeme.hidden) lexeme body.reverse
            expandOnto? plusPlus macros fuel done (spacedAs lexeme body ++ rest)
          | some parameters, { token := .mark "(", .. } :: inner => do
            let (pieces, last, rest) ← pieces? 0 [] inner
            let pieces ← assigned? parameters found.isOpen pieces
            let given ← pieces.mapM fun piece => do
              return Given.mk piece (← expandOnto? plusPlus macros fuel [] piece)
            let named := parameters.zip given
            let named := match found.isOpen, given.getLast? with
              | true, some final => named ++ [(Macro.lastName, final)]
              | _, _ => named
            let body ← substitute? plusPlus named (2 * found.body.length + 2) [] false found.body
            let common := lexeme.hidden.filter last.hidden.contains
            let body := hide (name :: common) lexeme body.reverse
            expandOnto? plusPlus macros fuel done (spacedAs lexeme body ++ rest)
          | some _, rest => expandOnto? plusPlus macros fuel (lexeme :: done) rest
    | _ => expandOnto? plusPlus macros fuel (lexeme :: done) rest

/-- More steps than any replacement takes. -/
def steps : Nat := 10000000

/-- Replaces macros in lexemes. -/
def expand? (plusPlus : Bool) (macros : Macros) (lexemes : List Lexeme) : Option (List Lexeme) :=
  expandOnto? plusPlus macros steps [] lexemes

end Macros

end KernelCache.C
