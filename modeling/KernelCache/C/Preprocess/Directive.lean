import KernelCache.C.Preprocess.Macro
import KernelCache.C.Number
import KernelCache.Text.Utf8

/-
**Directives.**

`Preprocess.run?` turns a source file into tokens without directives and macros. Files are found by
a function from the directory of the including file and the written name. What remains of a few
pragmas are words that a reader of declarations understands.
-/

/-! ## Conditions in directives

Numbers have 64 bits, with or without a sign, and names without a meaning are zero.
`Condition.value?` is the value of the tokens of a condition.
-/

namespace KernelCache.C.Condition

/-- A number of 64 bits. -/
structure Number where
  bits : Nat
  signed : Bool

/-- The number of an integer. -/
def Number.ofInt (number : Int) : Number := ⟨Code.Value.bitsOf 8 number, true⟩

/-- A truth value. -/
def Number.ofBool (truth : Bool) : Number := ⟨if truth then 1 else 0, true⟩

/-- A condition; division by zero has no value, which matters only where the value is needed. -/
abbrev Reading (α : Type) := StateT (List Token) Option α

/-- Operators with two operands and how tightly they bind. -/
def operators : List (String × Nat × Code.Binary) :=
  [("|", 3, .bitOr), ("^", 4, .bitXor), ("&", 5, .bitAnd), ("==", 6, .equal), ("!=", 6, .notEqual),
    ("<", 7, .less), (">", 7, .greater), ("<=", 7, .lessEqual), (">=", 7, .greaterEqual),
    ("<<", 8, .shiftLeft), (">>", 8, .shiftRight), ("+", 9, .add), ("-", 9, .sub), ("*", 10, .mul),
    ("/", 10, .div), ("%", 10, .rem)]

/-- How tightly an operator binds. -/
def strength? (text : String) : Option Nat :=
  if text = "||" then some 1
  else if text = "&&" then some 2
  else (operators.lookup text).map (·.1)

/-- Combines two numbers. -/
def combine (text : String) (left right : Option Number) : Option Number :=
  let isTrue (number : Number) : Bool := number.bits != 0
  match text with
  | "||" =>
    match left with
    | some left => if isTrue left then some (.ofBool true) else right.map fun right =>
        .ofBool (isTrue right)
    | none => none
  | "&&" =>
    match left with
    | some left => if !isTrue left then some (.ofBool false) else right.map fun right =>
        .ofBool (isTrue right)
    | none => none
  | _ => do
    let (_, operator) ← operators.lookup text
    let left ← left
    let right ← right
    let shifts := operator == .shiftLeft || operator == .shiftRight
    let signed := left.signed && (shifts || right.signed)
    let value ← Code.Value.combine? operator (.word 8 signed) (.word left.bits) (.word right.bits)
    return ⟨value.bits, signed || operator.compares⟩

mutual

/-- A choice, or what binds more tightly. -/
def choice (plusPlus : Bool) : Nat → Reading (Option Number)
  | 0 => failure
  | fuel + 1 => do
    let condition ← operation plusPlus fuel 1
    match ← get with
    | .mark "?" :: rest => do
      set rest
      let yes ← choice plusPlus fuel
      match ← get with
      | .mark ":" :: rest => do
        set rest
        let no ← choice plusPlus fuel
        match condition with
        | some found => return if found.bits != 0 then yes else no
        | none => return none
      | _ => failure
    | _ => return condition

/-- Operands between operators that bind at least so tightly. -/
def operation (plusPlus : Bool) : Nat → Nat → Reading (Option Number)
  | 0, _ => failure
  | fuel + 1, least => do
    let left ← operand plusPlus fuel
    climb plusPlus fuel least left

/-- Goes on with the operators behind a first operand. -/
def climb (plusPlus : Bool) : Nat → Nat → Option Number → Reading (Option Number)
  | 0, _, _ => failure
  | fuel + 1, least, left => do
    match ← get with
    | .mark text :: rest =>
      match (strength? text).filter (least ≤ ·) with
      | some strength => do
        set rest
        let right ← operation plusPlus fuel (strength + 1)
        climb plusPlus fuel least (combine text left right)
      | none => return left
    | _ => return left

/-- A number, a name, or an operand with an operator in front of it. -/
def operand (plusPlus : Bool) : Nat → Reading (Option Number)
  | 0 => failure
  | fuel + 1 => do
    let tokens ← get
    set (tokens.drop 1)
    match tokens.head? with
    | some (.mark "(") => do
      let value ← choice plusPlus fuel
      match ← get with
      | .mark ")" :: rest => do
        set rest
        return value
      | _ => failure
    | some (.mark "!") => do
      return (← operand plusPlus fuel).map fun number => .ofBool (number.bits == 0)
    | some (.mark "-") => do
      return (← operand plusPlus fuel).map fun number =>
        { number with bits := (Code.range 8 - number.bits) % Code.range 8 }
    | some (.mark "+") => operand plusPlus fuel
    | some (.mark "~") => do
      return (← operand plusPlus fuel).map fun number =>
        { number with bits := Code.range 8 - 1 - number.bits }
    | some (.number text) =>
      match Number.integer? text with
      | some found => return some ⟨found.value % Code.range 8, !found.isUnsigned⟩
      | none => failure
    | some (.character text) =>
      let (front, units) := Token.unitsOf '\'' text
      let value : Nat := units.foldl (fun value unit => value * 256 + unit) 0
      let narrow := front == "" && units.length == 1 && 128 ≤ value
      return some (if narrow then .ofInt ((value : Int) - 256) else .ofInt value)
    | some (.name "true") => return some (.ofBool plusPlus)
    | some (.name "not") =>
      if plusPlus then do
        return (← operand plusPlus fuel).map fun number => .ofBool (number.bits == 0)
      else return some (.ofInt 0)
    | some (.name _) => return some (.ofInt 0)
    | _ => failure

end

/-- The operators that C++ writes as words. -/
def spelled : Token → Token
  | .name "and" => .mark "&&"
  | .name "or" => .mark "||"
  | .name "bitand" => .mark "&"
  | .name "bitor" => .mark "|"
  | .name "xor" => .mark "^"
  | .name "not_eq" => .mark "!="
  | .name "compl" => .mark "~"
  | other => other

/-- The truth of a condition in tokens. -/
def value? (plusPlus : Bool) (tokens : List Token) : Option Bool := do
  let tokens := if plusPlus then tokens.map spelled else tokens
  let (value, rest) ← (choice plusPlus (16 * tokens.length + 16)).run tokens
  if rest = [] then return (← value).bits != 0 else none

end KernelCache.C.Condition

/-! ## Directives -/

namespace KernelCache.C.Preprocess

/-- A file that was found: its path, its directory, and its text. -/
structure Found where
  path : Bytes
  directory : Bytes
  text : List Char

/-- Files by the directory of the file that asks for them, whether the name is in quotes, and the
name. -/
abbrev Library := Bytes → Bool → List Char → Option Found

/-- How source text is read. -/
structure Style where
  plusPlus : Bool
  /-- Whether two slashes start a comment. -/
  slashes : Bool := true
  /-- Whether the text is for an assembler. -/
  isAssembly : Bool := false

/-- The state of one conditional part: whether its lines count, whether a branch was taken, and
whether the last branch was reached. -/
structure Branch where
  active : Bool
  taken : Bool
  closed : Bool := false

/-- What has been read so far. -/
structure Progress where
  macros : Macros
  branches : List Branch := []
  /-- Lexemes in which macros are still to be replaced, the last first. -/
  waiting : List Lexeme := []
  /-- The lexemes of the output, the last first. -/
  output : List Lexeme := []
  /-- Files that are read once only. -/
  once : List Bytes := []
  /-- Names that must not be used. -/
  poisoned : List String := []
  /-- The next number that a source can ask for. -/
  counter : Nat := 0
  /-- The kinds of warnings that there were. -/
  warnings : List String := []
  /-- Files that were included, the last first, but for those of the system. -/
  included : List Bytes := []
  /-- Files that were read, the last first; the first one has the number one. -/
  files : List Bytes := []

namespace Progress

/-- Whether lines count here. -/
def active (progress : Progress) : Bool := progress.branches.all (·.active)

/-- Replaces macros in what is waiting. -/
def flush? (style : Style) (progress : Progress) : Option Progress := do
  if progress.waiting.isEmpty then return progress
  else
    let lexemes := progress.waiting.reverse
    let expanded ← Macros.expand? style.plusPlus progress.macros lexemes
    let (output, counter) := expanded.foldl (fun (output, counter) lexeme =>
      if lexeme.token == .name "__COUNTER__" then
        ({ lexeme with token := .number (toString counter) } :: output, counter + 1)
      else (lexeme :: output, counter)) (progress.output, progress.counter)
    let used := expanded.any fun lexeme => match lexeme.token with
      | .name name => progress.poisoned.contains name
      | _ => false
    if used then none
    else return { progress with waiting := [], output, counter }

/-- Adds words to the output. -/
def emit (progress : Progress) (tokens : List Token) : Progress :=
  { progress with output := (tokens.map Lexeme.ofToken).reverse ++ progress.output }

/-- Notes a warning. -/
def warn (progress : Progress) (kind : String) : Progress :=
  { progress with warnings := kind :: progress.warnings }

end Progress

/-- Features that a source can ask about. -/
def attributes : List String :=
  ["aligned", "packed", "unused", "noreturn", "deprecated", "fallthrough", "nodiscard",
    "maybe_unused", "constructor", "destructor", "weak", "alias", "always_inline", "noinline",
    "format", "pure", "const", "visibility", "section", "used", "cleanup", "nonnull", "hot", "cold",
    "malloc", "vector_size", "mode", "likely", "unlikely", "no_unique_address"]

/-- A name as it is asked about, without underscores around it. -/
def plainName (name : String) : String :=
  let chars := name.toList
  if "__".toList.isPrefixOf chars && "__".toList.isPrefixOf chars.reverse && 4 < chars.length then
    String.ofList ((chars.drop 2).take (chars.length - 4))
  else name

/-- The name between quotes or angle brackets, and what follows it. -/
def headerName? (lexemes : List Lexeme) : Option (Bool × List Char × List Lexeme) :=
  match lexemes with
  | { token := .text text, .. } :: rest => some (true, (Token.inside '"' text).2, rest)
  | { token := .mark "<", .. } :: rest =>
    let inner := rest.takeWhile fun lexeme => lexeme.token != .mark ">"
    if inner.length = rest.length then none
    else
      let chars := inner.zipIdx.flatMap fun (lexeme, index) =>
        (if lexeme.spaced && 0 < index then [' '] else []) ++ lexeme.token.spelling.toList
      some (false, chars, rest.drop (inner.length + 1))
  | _ => none

/-- Replaces questions about macros and files by their answers. -/
def answer (library : Library) (directory : Bytes) (macros : Macros) :
    Nat → List Lexeme → List Lexeme
  | 0, lexemes => lexemes
  | _ + 1, [] => []
  | fuel + 1, lexeme :: rest =>
    let truth (holds : Bool) : Lexeme := .ofNat (if holds then 1 else 0)
    let isKnown (name : String) : Bool :=
      macros.contains name || name == "__LINE__" || name == "__COUNTER__"
        || name.toList.take 6 == "__has_".toList
    match lexeme.token, rest.map Lexeme.token with
    | .name "defined", .mark "(" :: .name name :: .mark ")" :: _ =>
      truth (isKnown name) :: answer library directory macros fuel (rest.drop 3)
    | .name "defined", .name name :: _ =>
      truth (isKnown name) :: answer library directory macros fuel (rest.drop 1)
    | .name "__has_include", .mark "(" :: _ =>
      match headerName? (rest.drop 1) with
      | some (quoted, name, { token := .mark ")", .. } :: rest) =>
        truth (library directory quoted name).isSome :: answer library directory macros fuel rest
      | _ => lexeme :: answer library directory macros fuel rest
    | .name "__has_attribute", .mark "(" :: .name name :: .mark ")" :: _
    | .name "__has_c_attribute", .mark "(" :: .name name :: .mark ")" :: _
    | .name "__has_cpp_attribute", .mark "(" :: .name name :: .mark ")" :: _ =>
      truth (attributes.contains (plainName name))
        :: answer library directory macros fuel (rest.drop 3)
    | .name "__has_builtin", .mark "(" :: .name name :: .mark ")" :: _ =>
      truth ("__builtin_".toList.isPrefixOf name.toList)
        :: answer library directory macros fuel (rest.drop 3)
    | .name "__has_feature", .mark "(" :: .name _ :: .mark ")" :: _
    | .name "__has_extension", .mark "(" :: .name _ :: .mark ")" :: _ =>
      truth false :: answer library directory macros fuel (rest.drop 3)
    | _, _ => lexeme :: answer library directory macros fuel rest

/-- Whether a condition holds. -/
def holds? (style : Style) (library : Library) (directory : Bytes) (macros : Macros)
    (lexemes : List Lexeme) : Option Bool := do
  let asked := answer library directory macros (lexemes.length + 1) lexemes
  let expanded ← Macros.expand? style.plusPlus macros asked
  let again := answer library directory macros (expanded.length + 1) expanded
  Condition.value? style.plusPlus (again.map (·.token))

/-- Whether two macros are the same. -/
def sameMacro (a b : Macro) : Bool :=
  a.parameters == b.parameters && a.isOpen == b.isOpen
    && a.body.map (·.token) == b.body.map (·.token)

/-- Obeys the definition of a macro. -/
def define? (progress : Progress) (lexemes : List Lexeme) : Option Progress :=
  match lexemes with
  | { token := .name name, .. } :: rest =>
    if name = "defined" then none
    else do
      let found ← Macro.define? rest
      let progress := match progress.macros[name]? with
        | some old => if sameMacro old found then progress else progress.warn "macro-redefined"
        | none => progress
      return { progress with macros := progress.macros.insert name found }
  | _ => none

/-- Obeys a pragma. -/
def pragma? (progress : Progress) (path : Bytes) (lexemes : List Lexeme) : Option Progress :=
  match lexemes.map Lexeme.token with
  | [.name "once"] => some { progress with once := path :: progress.once }
  | .name "pack" :: rest => some (progress.emit (.name "__pragma_pack" :: rest ++ [.mark ";"]))
  | .name "GCC" :: .name "visibility" :: rest =>
    some (progress.emit (.name "__pragma_visibility" :: rest ++ [.mark ";"]))
  | .name "GCC" :: .name "error" :: _ => none
  | .name "GCC" :: .name "warning" :: _ => some (progress.warn "")
  | .name "GCC" :: .name "poison" :: rest =>
    let names := rest.filterMap fun token => match token with
      | .name name => some name
      | _ => none
    some { progress with poisoned := names ++ progress.poisoned }
  | .name "GCC" :: _ | .name "STDC" :: _ | .name "omp" :: _ | .name "message" :: _ => some progress
  | .name "weak" :: rest => some (progress.emit (.name "__pragma_weak" :: rest ++ [.mark ";"]))
  | _ => some (progress.warn "unknown-pragmas")

/-- Reads the lines of a file, with the directory and the path of the file. -/
abbrev Reader := Bytes → Bytes → List Char → Progress → Option Progress

/-- Reads another file. -/
def include? (style : Style) (library : Library) (read : Reader) (directory : Bytes)
    (lexemes : List Lexeme) (progress : Progress) : Option Progress := do
  let direct := headerName? lexemes
  let (quoted, name, rest) ← match direct with
    | some found => some found
    | none => do headerName? (← Macros.expand? style.plusPlus progress.macros lexemes)
  let progress := if rest.isEmpty then progress else progress.warn ""
  let found ← library directory quoted name
  if progress.once.contains found.path then return progress
  else
    let depth := progress.branches.length
    let progress := { progress with included := found.path :: progress.included }
    let outer := progress.macros
    let progress ← read found.directory found.path found.text progress
    let macros := ["__FILE__", "__INCLUDE_LEVEL__"].foldl (fun macros name =>
      match outer[name]? with
      | some own => macros.insert name own
      | none => macros) progress.macros
    if progress.branches.length = depth then return { progress with macros } else none

/-- Opens a conditional part. -/
def Progress.opened (progress : Progress) (holds : Bool) : Progress :=
  { progress with branches := { active := holds, taken := holds } :: progress.branches }

/-- Goes on to another branch of a conditional part. -/
def Progress.turned? (progress : Progress) (isLast : Bool) (holds? : Progress → Option Bool) :
    Option Progress :=
  match progress.branches with
  | branch :: others => do
    let outer := { progress with branches := others }
    if branch.closed then none
    else
      let holds ← if branch.taken || !outer.active then some false else holds? outer
      let turned : Branch := { active := holds, taken := branch.taken || holds, closed := isLast }
      return { outer with branches := turned :: others }
  | [] => none

/-- Obeys a directive. -/
def obey? (style : Style) (library : Library) (read : Reader) (directory path : Bytes)
    (lexemes : List Lexeme) (progress : Progress) : Option Progress :=
  let rest := lexemes.drop 1
  let names? : Option String := match rest with
    | { token := .name name, .. } :: _ => some name
    | _ => none
  let isDefined (progress : Progress) : Option Bool := names?.map progress.macros.contains
  match lexemes.map Lexeme.token with
  | [] => some progress
  | .name "if" :: _ => do
    if progress.active then
      return progress.opened (← holds? style library directory progress.macros rest)
    else return progress.opened false
  | .name "ifdef" :: _ => do
    if progress.active then return progress.opened (← isDefined progress)
    else return progress.opened false
  | .name "ifndef" :: _ => do
    if progress.active then return progress.opened (!(← isDefined progress))
    else return progress.opened false
  | .name "elif" :: _ =>
    progress.turned? false fun outer => holds? style library directory outer.macros rest
  | .name "elifdef" :: _ => progress.turned? false isDefined
  | .name "elifndef" :: _ => progress.turned? false fun outer => (isDefined outer).map (!·)
  | .name "else" :: _ => progress.turned? true fun _ => some true
  | .name "endif" :: _ =>
    match progress.branches with
    | _ :: others => some { progress with branches := others }
    | [] => none
  | .name other :: _ =>
    if !progress.active then some progress
    else
      match other with
      | "define" => define? progress rest
      | "undef" => names?.map fun name => { progress with macros := progress.macros.erase name }
      | "include" | "include_next" | "import" => include? style library read directory rest progress
      | "pragma" => pragma? progress path rest
      | "warning" => some (progress.warn "cpp")
      | "line" | "ident" | "sccs" | "assert" | "unassert" => some progress
      | _ => if style.isAssembly then some progress else none
  | .number _ :: _ => some progress
  | _ => if progress.active && !style.isAssembly then none else some progress

/-- Lexemes as they count for an assembler, in which a dollar sign is no part of a name. -/
def apartDollars : Nat → Lexeme → List Lexeme
  | 0, lexeme => [lexeme]
  | fuel + 1, lexeme =>
    match lexeme.token with
    | .name text =>
      let chars := text.toList
      let front := chars.takeWhile (· != '$')
      let rest := chars.drop (front.length + 1)
      if front.length = chars.length then [lexeme]
      else
        let sign : Lexeme := { lexeme with token := .stray '$', spaced := lexeme.spaced && front.isEmpty }
        let before : List Lexeme :=
          if front.isEmpty then [] else [{ lexeme with token := .name (String.ofList front) }]
        let behind : List Lexeme :=
          if rest.isEmpty then []
          else
            let spelled := String.ofList rest
            let token := if rest.head?.any Token.isDigit then Token.number spelled else .name spelled
            apartDollars fuel { lexeme with token, spaced := false }
        before ++ sign :: behind
    | _ => [lexeme]

/-- Reads one line of the file with a number. -/
def readLine? (style : Style) (library : Library) (read : Reader) (directory path : Bytes)
    (file : Nat) (progress : Progress) (line : Lexeme.Line) : Option Progress :=
  let plain := line.lexemes.map fun lexeme => { lexeme with file }
  match if style.isAssembly then plain.flatMap (apartDollars 100) else plain with
  | { token := .mark "#", .. } :: directive => do
    let progress ← progress.flush? style
    obey? style library read directory path directive progress
  | lexemes =>
    if progress.active then some { progress with waiting := lexemes.reverse ++ progress.waiting }
    else some progress

/-- How many times files can include each other. -/
def includeDepth : Nat := 200

/-- Reads a file; files can include each other so many times. -/
def readFile? (style : Style) (library : Library) : Nat → Reader
  | 0 => fun _ _ _ _ => none
  | depth + 1 => fun directory path text progress => do
    let lines ← Lexeme.lines? style.plusPlus style.slashes text
    let file := Lexeme.ofText (String.ofList (Bytes.toChars path))
    let level := includeDepth - depth - 1
    let macros := progress.macros.insert "__FILE__" { body := [file] }
    let macros := macros.insert "__INCLUDE_LEVEL__" { body := [.ofNat level] }
    let macros := if level = 0 then macros.insert "__BASE_FILE__" { body := [file] } else macros
    let named := { progress with files := path :: progress.files, macros }
    let progress ← lines.foldlM
      (readLine? style library (readFile? style library depth) directory path
        (progress.files.length + 1)) named
    progress.flush? style

/-- Reads files one behind the other; macros of the front ones are kept, and their text is not. -/
def run? (style : Style) (library : Library) (macros : Macros) (silent : List Found)
    (files : List Found) : Option Progress := do
  let read (progress : Progress) (file : Found) : Option Progress := do
    let progress ← readFile? style library includeDepth file.directory file.path file.text progress
    if progress.branches.isEmpty then return progress else none
  let front ← silent.foldlM read ({ macros } : Progress)
  files.foldlM read { front with output := [], warnings := [] }

/-! ### Texts -/

/-- The lexemes as a text that is read again, with the lines that they come from. -/
def textOf (output : List Lexeme) : List Char :=
  let parts := output.foldl (fun (parts, line) lexeme =>
    let gap := if lexeme.line ≠ line then ['\n'] else [' ']
    (lexeme.token.spelling.toList ++ gap ++ parts, lexeme.line)) (([], 0) : List Char × Nat)
  parts.1

/-- What has been printed. -/
structure Printed where
  /-- The last character first. -/
  text : List Char := []
  line : Nat := 1
  file : Nat := 0
  last : Option Token := none

/-- Whether two tokens side by side would be read as others. -/
def wouldJoin (plusPlus : Bool) (left right : Token) : Bool :=
  match left with
  | .stray _ => false
  | left =>
    match Token.first? plusPlus (left.spelling.toList ++ right.spelling.toList) with
    | some (token, _) => token != left
    | none => true

/-- Adds a lexeme to what has been printed; `hasLines` says whether the lines of the source are told. -/
def Printed.add (plusPlus hasLines : Bool) (files : List Bytes) (printed : Printed)
    (lexeme : Lexeme) : Printed :=
  let { text, line, file, last } := printed
  let word := lexeme.token.spelling.toList
  if some lexeme.file = (if last.isSome then some file else none) && lexeme.line = line then
    let isApart := lexeme.spaced || last.any fun left => wouldJoin plusPlus left lexeme.token
    { printed with
      text := word.reverse ++ (if isApart then ' ' :: text else text), last := some lexeme.token }
  else
    let (closed, here) := if last.isSome then ('\n' :: text, line + 1) else (text, line)
    let isSame := lexeme.file = file || last.isNone
    let isNear := isSame && here ≤ lexeme.line && lexeme.line < here + 8
    let isBack := files.length < lexeme.file || lexeme.file < file
    let path := Bytes.toChars ((files.reverse)[lexeme.file - 1]?.getD [])
    let marker (number : Nat) (flag : String) : List Char :=
      ("# " ++ toString number ++ " \"").toList ++ path ++ ("\"" ++ flag ++ "\n").toList
    let way : List Char :=
      if !hasLines then []
      else if isNear then List.replicate (lexeme.line - here) '\n'
      else
        let front : List Char := if isSame || isBack then [] else marker 1 " 1"
        let number := if !isSame && !isBack then []
          else marker lexeme.line (if isSame then "" else " 2")
        let behind := if isSame || isBack then [] else List.replicate (lexeme.line - 1) '\n'
        front ++ number ++ behind
    let indent := List.replicate (lexeme.column - 1) ' ' ++ (if lexeme.spaced then [' '] else [])
    { text := word.reverse ++ indent ++ way.reverse ++ closed
      line := lexeme.line, file := lexeme.file, last := some lexeme.token }

/-- The lexemes, the last first, as a text for people. -/
def printed (plusPlus hasLines : Bool) (files : List Bytes) (output : List Lexeme) : List Char :=
  let all := output.reverse.foldl (Printed.add plusPlus hasLines files) {}
  all.text.reverse ++ (if output.isEmpty then [] else ['\n'])

end KernelCache.C.Preprocess
