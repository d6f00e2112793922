import KernelCache.Text.Utf8
import KernelCache.Text.Category
import KernelCache.Shell.Arithmetic

/-
**Expansion of words.**

A word becomes a list of atoms: characters that are quoted, plain, or open to splitting. Splitting
at separators makes fields of them, and a field that is a pattern becomes the names that match it.

* `expandFields` makes the words of a command.
* `expandText` makes one text without splitting.
* `expandPattern` makes a pattern.

The commands inside of words are run by a function that is given.
-/

/-! ## Text as the shell writes it to be read again

* `Quoting.single` is the form in which variables and traps are listed.
* `Quoting.shortest` leaves plain words as they are.
* `Quoting.escaped` is the form in which the extended dialect lists values.
-/

namespace KernelCache.Shell.Quoting

/-- Text between single quotes; runs of single quotes stand between double ones. -/
def single (text : List Char) : List Char :=
  let runs := text.splitBy fun first second => (first == '\'') == (second == '\'')
  let start := if text.head?.all (· == '\'') then ['\'', '\''] else []
  start ++ runs.flatMap fun run =>
    if run.head? = some '\'' then ['"'] ++ run ++ ['"'] else ['\''] ++ run ++ ['\'']

/-- Text between single quotes; a single quote stands behind a backslash between them. -/
def interrupted (text : List Char) : List Char :=
  ['\''] ++ text.flatMap (fun char => if char = '\'' then "'\\''".toList else [char]) ++ ['\'']

/-- A character that needs no quotes. -/
def isPlain (char : Char) : Bool :=
  char.isAlphanum || "_-+./:,@%=^".toList.contains char || 0x7f < char.toNat

/-- Text that is quoted only where it has to be. -/
def shortest (text : List Char) : List Char :=
  if text ≠ [] ∧ text.all isPlain then text else interrupted text

/-- Text in which a backslash is in front of every character that needs one. -/
def escaped (text : List Char) : List Char :=
  if text = [] then ['\'', '\'']
  else
    text.flatMap fun char =>
      if char.isAlphanum ∨ "_-+./:,@%=^".toList.contains char ∨ 0x7f < char.toNat then [char]
      else if char = '\n' then "$'\\n'".toList
      else ['\\', char]

end KernelCache.Shell.Quoting

/-! ## Patterns

`Pattern.ofChars` reads a pattern out of characters that are quoted or not, `Pattern.accepts` says
whether a text matches it as a whole.
-/

namespace KernelCache.Shell

/-- An item of a pattern. -/
inductive PatternItem where
  | literal (char : Char)
  | anyOne
  | anyMany
  /-- One of the characters in brackets, or one that is not there. -/
  | set (negated : Bool) (members : List Text.Member)
  deriving DecidableEq, Repr

/-- A pattern. -/
abbrev Pattern := List PatternItem

namespace Pattern

/-- A character that is quoted or not. -/
abbrev Marked := Char × Bool

/-- The category that stands behind an opening bracket, and what follows its closing one. -/
def category? (chars : List Marked) : Option (Text.Category × List Marked) :=
  match chars with
  | (':', false) :: rest =>
    let name := (rest.takeWhile fun entry => entry.1 != ':').map (·.1)
    match rest.drop name.length with
    | (':', _) :: (']', false) :: behind =>
      (Text.Category.ofName? (String.ofList name)).map (·, behind)
    | _ => none
  | _ => none

/-- A character that a backslash may stand in front of. -/
def unescaped : List Marked → Option (Char × List Marked)
  | [] => none
  | ('\\', false) :: (char, _) :: rest => some (char, rest)
  | (char, _) :: rest => some (char, rest)

/-- The members up to a closing bracket, and what follows it. -/
def members? : Nat → Bool → List Marked → Option (List Text.Member × List Marked)
  | 0, _, _ => none
  | fuel + 1, first, chars =>
    match chars with
    | [] => none
    | (']', false) :: rest => if first then single fuel chars else some ([], rest)
    | ('[', false) :: rest =>
      match category? rest with
      | some (category, behind) =>
        (members? fuel false behind).map fun (found, left) => (.category category :: found, left)
      | none => single fuel chars
    | _ => single fuel chars
where
  /-- A character or a range in front of others. -/
  single (fuel : Nat) (chars : List Marked) : Option (List Text.Member × List Marked) :=
    match unescaped chars with
    | none => none
    | some (low, ('-', false) :: rest) =>
      match rest, unescaped rest with
      | (']', false) :: _, _ | _, none =>
        (members? fuel false (('-', false) :: rest)).map fun (found, left) =>
          (.range low low :: found, left)
      | _, some (high, behind) =>
        (members? fuel false behind).map fun (found, left) => (.range low high :: found, left)
    | some (low, rest) =>
      (members? fuel false rest).map fun (found, left) => (.range low low :: found, left)

/-- Reads a pattern; quoted characters stand for themselves, and so does what a backslash is in
front of. A caret negates a set when `careted`. -/
def ofMarked (careted : Bool) : Nat → List Marked → Pattern
  | 0, _ => []
  | _ + 1, [] => []
  | fuel + 1, ('*', false) :: rest => .anyMany :: ofMarked careted fuel rest
  | fuel + 1, ('?', false) :: rest => .anyOne :: ofMarked careted fuel rest
  | fuel + 1, ('\\', false) :: (char, _) :: rest => .literal char :: ofMarked careted fuel rest
  | fuel + 1, ('[', false) :: rest =>
    let (negated, inner) := match rest with
      | ('!', false) :: inner => (true, inner)
      | ('^', false) :: inner => if careted then (true, inner) else (false, rest)
      | _ => (false, rest)
    match members? (inner.length + 1) true inner with
    | some (found, left) => .set negated found :: ofMarked careted fuel left
    | none => .literal '[' :: ofMarked careted fuel rest
  | fuel + 1, (char, _) :: rest => .literal char :: ofMarked careted fuel rest

/-- Reads a pattern out of characters that are quoted or not. -/
def ofChars (careted : Bool) (chars : List Marked) : Pattern :=
  ofMarked careted (chars.length + 1) chars

/-- Whether an item stands for a character. -/
def itemAccepts (char : Char) : PatternItem → Bool
  | .literal expected => char == expected
  | .anyOne => true
  | .anyMany => false
  | .set negated members => members.any (Text.Member.accepts char) != negated

/-- Whether a text matches a pattern as a whole. -/
def accepts : Pattern → List Char → Bool
  | [], text => text.isEmpty
  | .anyMany :: rest, [] => accepts rest []
  | .anyMany :: rest, char :: text => accepts rest (char :: text) || accepts (.anyMany :: rest) text
  | _ :: _, [] => false
  | item :: rest, char :: text => itemAccepts char item && accepts rest text
termination_by pattern text => pattern.length + text.length

/-- Whether a pattern is more than a plain text. -/
def isOpen (pattern : Pattern) : Bool :=
  pattern.any fun item =>
    match item with
    | .literal _ => false
    | _ => true

/-- The lengths of what can be taken from a text, the shortest or the longest first. -/
def lengths (longest : Bool) (text : List Char) : List Nat :=
  let lengths := List.range (text.length + 1)
  if longest then lengths.reverse else lengths

/-- A text without its shortest or longest end, or start, that matches. -/
def trim (pattern : Pattern) (atEnd longest : Bool) (text : List Char) : List Char :=
  let matching := (lengths longest text).find? fun length =>
    if atEnd then accepts pattern (text.drop (text.length - length))
    else accepts pattern (text.take length)
  match matching with
  | some length => if atEnd then text.take (text.length - length) else text.drop length
  | none => text

/-- The length of the longest start of a text that matches. -/
def longestStart? (pattern : Pattern) (text : List Char) : Option Nat :=
  (lengths true text).find? fun length => accepts pattern (text.take length)

/-- A text with other text in the place of what matches: the first part, or all of them. -/
def replace (pattern : Pattern) (all : Bool) (other : List Char) : Nat → List Char → List Char
  | 0, text => text
  | fuel + 1, text =>
    match text with
    | [] => []
    | char :: rest =>
      match longestStart? pattern text with
      | some (length + 1) =>
        let behind := text.drop (length + 1)
        other ++ (if all then replace pattern all other fuel behind else behind)
      | _ => char :: replace pattern all other fuel rest

end Pattern

end KernelCache.Shell

/-! ## Expansion of words -/

namespace KernelCache.Shell

/-- A part of an expanded word. -/
inductive Atom where
  | char (char : Char) (quoted : Bool)
  /-- A character of a value outside of quotes. -/
  | soft (char : Char)
  /-- The end of a field. -/
  | boundary
  /-- Keeps a field that has no characters. -/
  | presence
  deriving DecidableEq, Repr

/-- The characters of a value. -/
def atoms (quoted : Bool) (value : List Char) : List Atom :=
  if quoted then .presence :: value.map (Atom.char · true) else value.map Atom.soft

/-- The text of atoms. -/
def textOf (expanded : List Atom) : List Char :=
  expanded.filterMap fun atom =>
    match atom with
    | .char char _ | .soft char => some char
    | .boundary => some ' '
    | .presence => none

/-- The atoms as characters that are quoted or not. -/
def markedOf (expanded : List Atom) : List Pattern.Marked :=
  expanded.filterMap fun atom =>
    match atom with
    | .char char quoted => some (char, quoted)
    | .soft char => some (char, false)
    | .boundary => some (' ', true)
    | .presence => none

/-- Whether two names are in the order of their characters. The order is the one of the core library,
by name, since other libraries have one of their own for lists. -/
def inOrder (first second : List Char) : Bool :=
  @decide (@LE.le (List Char) (@List.instLE Char Char.instLT) first second)
    (@List.decidableLE Char instDecidableEqChar Char.instLT Char.instDecidableLt first second)

/-- Runs a command and yields its output. -/
abbrev Substitute := Command → ShellM (List Char)

/-- What expansion needs: how commands are run, where a channel to a command leads, and whether all
of the word is one text. -/
structure Expanding where
  substitute : Substitute
  channel : Bool → Command → ShellM (List Char)
  whole : Bool := false

/-- A text without line ends at its end. -/
def chomp (text : List Char) : List Char := (text.reverse.dropWhile (· = '\n')).reverse

/-! ### What a parameter stands for -/

/-- The values that a parameter stands for. -/
inductive Found where
  | one (value? : Option (List Char))
  /-- All arguments or all elements, each for itself or joined. -/
  | many (values : List (List Char)) (apart : Bool)

namespace Found

/-- Whether there is a value; one without characters does not count when `emptyToo`. -/
def counts (emptyToo : Bool) : Found → Bool
  | one none => false
  | one (some value) => !(emptyToo && value == [])
  | many values _ => !values.isEmpty && !(emptyToo && values == [[]])

/-- The values after a change of each one. -/
def map (change : List Char → List Char) : Found → Found
  | one value? => one (some (change (value?.getD [])))
  | many values apart => many (values.map change) apart

end Found

/-- The elements of a variable, with their keys. -/
def elementsOf (state : State) (name : List Char) : List (List Char × List Char) :=
  match (state.binding? name).bind (·.value?) with
  | some (.text chars) => [(['0'], chars)]
  | some (.row elements) =>
    elements.map fun (number, chars) => ((toString number).toList, chars)
  | some (.table elements) => elements
  | none => []

/-- The number of an element; negative ones count from the end. -/
def elementNumber (elements : List (Nat × List Char)) (index : Int) : Nat :=
  if 0 ≤ index then index.toNat
  else ((elements.getLast?.map fun entry => entry.1 + 1).getD 0 - (-index).toNat)

/-- The element of a variable with an index. -/
def elementAt (name index : List Char) : ShellM (Option (List Char)) := do
  match ((← get).binding? name).bind (·.value?) with
  | some (.table elements) => return elements.lookup index
  | some (.row elements) =>
    return elements.lookup (elementNumber elements (← Arithmetic.evaluate index))
  | some (.text chars) =>
    let number ← Arithmetic.evaluate index
    return if number = 0 ∨ number = -1 then some chars else none
  | none => return none

/-- What a parameter with an index stands for. -/
def find (name : List Char) (index? : Option (List Char)) : ShellM Found := do
  let state ← get
  match index? with
  | some ['@'] => return .many ((elementsOf state name).map (·.2)) true
  | some ['*'] => return .many ((elementsOf state name).map (·.2)) false
  | some index => return .one (← elementAt name index)
  | none =>
    match name with
    | ['@'] => return .many state.arguments true
    | ['*'] => return .many state.arguments false
    | _ => return .one (state.parameter? name)

/-- What stands between values that are joined. -/
def joint (state : State) : List Char :=
  match state.value? "IFS".toList with
  | some (char :: _) => [char]
  | some [] => []
  | none => [' ']

/-- The atoms of what was found. -/
def atomsOf (state : State) (whole quoted : Bool) : Found → List Atom
  | .one value? => atoms quoted (value?.getD [])
  | .many values apart =>
    if apart ∧ (quoted ∨ !whole) then [Atom.boundary].intercalate (values.map (atoms quoted))
    else if apart then atoms quoted ([' '].intercalate values)
    else if quoted ∨ whole then atoms quoted ((joint state).intercalate values)
    else [Atom.boundary].intercalate (values.map (atoms quoted))

/-- Complains about a parameter that has no value. -/
def demandFailed {α : Type} (name : List Char) (emptyToo : Bool) (word : List Char) : ShellM α := do
  let before := (← get).command?
  let extended := (← get).isExtended
  let text := if word ≠ [] then word
    else if extended then
      (if emptyToo then "parameter null or not set" else "parameter not set").toList
    else ("parameter not set" ++ if emptyToo then " or null" else "").toList
  modify fun state => { state with command? := none }
  complain (name ++ ": ".toList ++ text)
  modify fun state => { state with command? := before }
  setStatus (if extended then 127 else 2)
  throw .failed

/-- A part of a text: from an offset on, and so long. -/
def slice {α : Type} (items : List α) (offset : Int) (length? : Option Int) : List α :=
  let size : Int := items.length
  let start := if offset < 0 then size + offset else offset
  if start < 0 ∨ size < start then []
  else
    let stop := match length? with
      | none => size
      | some length => if length < 0 then size + length else min size (start + length)
    (items.drop start.toNat).take (stop - start).toNat

/-- A text with its letters in another case: the first one, or all that match a pattern. -/
def recased (change : CaseChange) (all : Bool) (pattern : Pattern) (text : List Char) :
    List Char :=
  let changed (char : Char) : Char :=
    if pattern ≠ [] ∧ !pattern.accepts [char] then char
    else match change with
      | .upper => char.toUpper
      | .lower => char.toLower
  if all then text.map changed
  else
    match text with
    | [] => []
    | first :: rest => changed first :: rest

/-- A text in another form. -/
def transformed (letter : Char) (text : List Char) : List Char :=
  match letter with
  | 'U' => text.map Char.toUpper
  | 'u' => recased .upper false [] text
  | 'L' => text.map Char.toLower
  | 'Q' => Quoting.single text
  | _ => text

/-- A text with other text in the place of what matches a pattern. -/
def replaced (what : Replacing) (pattern : Pattern) (other text : List Char) : List Char :=
  match what with
  | .first => pattern.replace false other (text.length + 1) text
  | .all => pattern.replace true other (text.length + 1) text
  | .atStart =>
    match pattern.longestStart? text with
    | some length => other ++ text.drop length
    | none => text
  | .atEnd =>
    match (Pattern.lengths true text).find? fun length =>
        pattern.accepts (text.drop (text.length - length)) with
    | some length => text.take (text.length - length) ++ other
    | none => text

/-! ### Pieces -/

/-- The text of an expansion that is quoted as a whole. -/
def quotedAtoms (chars : List Char) : List Atom := .presence :: chars.map (Atom.char · true)

/-- The atoms of a piece, when those of the words in it can be found. Plain text is open to
splitting when `soft`. -/
def expandPiece (expanding : Expanding) (expand : Bool → Word → ShellM (List Atom))
    (soft : Bool) : Piece → ShellM (List Atom)
  | .text quoted chars =>
    return if quoted then quotedAtoms chars
      else if soft then chars.map Atom.soft
      else chars.map (Atom.char · false)
  | .home name => do
    let state ← get
    let named := match name with
      | [] => state.value? "HOME".toList
      | ['+'] => if state.isExtended then some state.directory else none
      | ['-'] => if state.isExtended then state.value? "OLDPWD".toList else none
      | name => if name = "root".toList then some "/root".toList else none
    return match named with
      | some path => quotedAtoms path
      | none => ('~' :: name).map (Atom.char · false)
  | .output quoted body => do return atoms quoted (chomp (← expanding.substitute body))
  | .channel reads body => do return quotedAtoms (← expanding.channel reads body)
  | .number quoted expression => do
    let text := textOf (← expand false expression)
    let value ← Arithmetic.evaluate text
    return atoms quoted (toString value).toList
  | .parameter quoted name index operation words => do
    let state ← get
    let index? ← match index with
      | none => pure none
      | some index => do pure (some (textOf (← expand false index)))
    let word := words.headD []
    let found ← find name index?
    let yield (found : Found) : ShellM (List Atom) := do
      return atomsOf (← get) expanding.whole quoted found
    let isMany := match found with
      | .many _ _ => true
      | .one _ => false
    let insisted : ShellM Unit := do
      if !found.counts false ∧ state.has 'u' ∧ !isMany then
        if state.isExtended then demandFailed name false "unbound variable".toList
        else demandFailed name false []
    let inside : ShellM (List Atom) := expand (!quoted) word
    let patternIn (word : Word) : ShellM Pattern := do
      return .ofChars state.isExtended (markedOf (← expand false word))
    match operation with
    | .senseless _ =>
      if state.isExtended then fail "bad substitution".toList
      else do
        modify fun state => { state with command? := none }
        fail "Bad substitution".toList
    | .plain => do
      insisted
      yield found
    | .length => do
      insisted
      let length := match found with
        | .one value? => (value?.getD []).length
        | .many values _ => values.length
      return atoms quoted (toString length).toList
    | .fallback emptyToo => if found.counts emptyToo then yield found else inside
    | .alternative emptyToo =>
      if found.counts emptyToo then inside else return if quoted ∧ !isMany then [.presence] else []
    | .assign emptyToo =>
      if found.counts emptyToo then yield found
      else do
        let text := textOf (← inside)
        if !name.head?.any Arithmetic.isNameStart then
          fail (name ++ ": bad variable name".toList)
        match index? with
        | some _ => pure ()
        | none => assign name (.text text)
        return atoms quoted text
    | .demand emptyToo =>
      if found.counts emptyToo then yield found
      else demandFailed name emptyToo (textOf (← inside))
    | .trim atEnd longest => do
      insisted
      let pattern ← patternIn word
      yield (found.map (pattern.trim atEnd longest))
    | .slice => do
      let offset ← Arithmetic.evaluate (textOf (← expand false word))
      let length? ← match words.drop 1 with
        | second :: _ => do pure (some (← Arithmetic.evaluate (textOf (← expand false second))))
        | [] => pure none
      match found with
      | .one value? => yield (.one (some (slice (value?.getD []) offset length?)))
      | .many values apart =>
        let values := if index?.isNone then
            if offset = 0 then state.name :: values else values
          else values
        let offset := if index?.isNone ∧ 0 < offset then offset - 1 else offset
        yield (.many (slice values offset length?) apart)
    | .replace what => do
      let pattern ← patternIn word
      let other := textOf (← expand false ((words.drop 1).headD []))
      yield (if pattern = [] then found else found.map (replaced what pattern other))
    | .recase change all => do
      let pattern ← patternIn word
      yield (found.map (recased change all pattern))
    | .transform letter => yield (found.map (transformed letter))
    | .indirect =>
      match found with
      | .one (some target) => do yield (.one (state.parameter? target))
      | _ => yield (.one none)
    | .names apart =>
      let names := (state.bindings.filterMap fun entry =>
        if name.isPrefixOf entry.1 ∧ entry.2.value?.isSome then some entry.1 else none)
      let names := names.mergeSort inOrder
      yield (.many names apart)
    | .keys apart => yield (.many ((elementsOf state name).map (·.1)) apart)

/-- The atoms of a word; words may stand in words up to a depth. -/
def expandUpTo (expanding : Expanding) : Nat → Bool → Word → ShellM (List Atom)
  | 0, _, _ => throw (.halted (.signaled 11))
  | depth + 1, soft, word => do
    let mut found : List (List Atom) := []
    for piece in word do
      found := (← expandPiece expanding (expandUpTo expanding depth) soft piece) :: found
    return found.reverse.flatten

/-- So deep may words stand in words. -/
def wordDepth : Nat := 500

/-- The atoms of a word. -/
def expandWord (expanding : Expanding) (word : Word) : ShellM (List Atom) :=
  expandUpTo expanding wordDepth false word

/-! ### Fields -/

/-- A field: its characters, each quoted or not. -/
abbrev Field := List Pattern.Marked

/-- What has been split so far; the characters of the field are in reverse. -/
structure Splitting where
  fields : List Field := []
  field : Field := []
  started : Bool := false
  /-- Whether blanks have ended the last field, so that one separator still belongs to it. -/
  blank : Bool := false

namespace Splitting

/-- Ends the field, if there is one. -/
def finish (splitting : Splitting) (blank : Bool) : Splitting :=
  if splitting.started then { fields := splitting.field.reverse :: splitting.fields, blank }
  else splitting

/-- Adds an atom. -/
def add (separators : List Char) (splitting : Splitting) : Atom → Splitting
  | .char char quoted =>
    { splitting with field := (char, quoted) :: splitting.field, started := true, blank := false }
  | .presence => { splitting with started := true, blank := false }
  | .boundary => { splitting.finish false with blank := false }
  | .soft char =>
    if !separators.contains char then
      { splitting with field := (char, false) :: splitting.field, started := true, blank := false }
    else if char = ' ' ∨ char = '\t' ∨ char = '\n' then splitting.finish true
    else if splitting.started then splitting.finish false
    else if splitting.blank then { splitting with blank := false }
    else { splitting with fields := [] :: splitting.fields }

end Splitting

/-- The fields of atoms. -/
def splitFields (separators : List Char) (expanded : List Atom) : List Field :=
  (expanded.foldl (Splitting.add separators) {}).finish false |>.fields.reverse

/-! ### Names that match -/

/-- The runs of a field that are slashes, or none. -/
def fieldPieces (field : Field) : List Field :=
  field.splitBy fun first second => (first.1 == '/') == (second.1 == '/')

/-- The names in a directory that match a pattern. The directory itself and the one above are among
them when `withDots`. -/
def matching (files : Files) (base : Place) (withDots : Bool) (directory : List Char)
    (pattern : Pattern) : List (List Char) :=
  let path := if directory = [] then ['.'] else directory
  match files.status base (Host.pathOf path) with
  | .ok (place, .directory) =>
    let names := (files.children place).map fun entry => Bytes.toChars (entry.1.getLastD [])
    let names := if withDots then ['.'] :: ['.', '.'] :: names else names
    names.filter fun name =>
      (name.head? != some '.' || pattern.head? == some (.literal '.')) && pattern.accepts name
  | _ => []

/-- The paths that match the pieces of a field. -/
def matchingPaths (files : Files) (base : Place) (extended : Bool) :
    List Field → List (List Char) → List (List Char)
  | [], starts => starts
  | piece :: rest, starts =>
    let pattern := Pattern.ofChars extended piece
    let next := starts.flatMap fun start =>
      if pattern.isOpen then
        (matching files base (!extended) start pattern).map (start ++ ·)
      else [start ++ piece.map (·.1)]
    matchingPaths files base extended rest next

/-- The words that a field stands for. -/
def fieldWords (files : Files) (base : Place) (extended : Bool) (field : Field) :
    List (List Char) :=
  let plain := field.map (·.1)
  if (Pattern.ofChars extended field).isOpen then
    let found := (matchingPaths files base extended (fieldPieces field) [[]]).filter fun path =>
      (files.linkStatus base (Host.pathOf path)).toOption.isSome
    if found.isEmpty then [plain]
    else found.mergeSort inOrder
  else [plain]

/-- The words that a word of a command stands for. -/
def expandFields (expanding : Expanding) (word : Word) : ShellM (List (List Char)) := do
  let expanded ← expandWord expanding word
  let state ← get
  let fields := splitFields state.separators expanded
  if state.has 'f' then return fields.map (·.map (·.1))
  return fields.flatMap (fieldWords state.host.files state.host.base state.isExtended)

/-- The text that a word stands for, without splitting. -/
def expandText (expanding : Expanding) (word : Word) : ShellM (List Char) := do
  return textOf (← expandWord { expanding with whole := true } word)

/-- The pattern that a word stands for. -/
def expandPattern (expanding : Expanding) (word : Word) : ShellM Pattern := do
  let expanded ← expandWord { expanding with whole := true } word
  return .ofChars (← get).isExtended (markedOf expanded)

end KernelCache.Shell
