import KernelCache.Decimal.Quantity
import KernelCache.Utility.Option

/-
**Programs for lines in order.**

`Sorting.sort` orders lines by keys, `Sorting.uniq` drops lines that repeat the one before, and
`Sorting.comm` and `Sorting.join` compare files whose lines are in order.
-/

namespace KernelCache.Sorting

open Host Program

/-! ### Keys -/

/-- How two keys are compared. -/
inductive Style where
  | text
  | number
  | quantity
  | human
  | month
  | version
  deriving DecidableEq

/-- An ordering of texts. -/
structure Order where
  style : Style := .text
  folded : Bool := false
  /-- Whether only letters, digits and blanks count. -/
  dictionary : Bool := false
  printable : Bool := false
  reversed : Bool := false
  /-- Whether blanks in front do not count. -/
  blanksAtStart : Bool := false
  blanksAtEnd : Bool := false
  deriving DecidableEq

/-- The order with a letter of an option added. -/
def Order.with? (order : Order) (letter : Char) : Option Order :=
  match letter with
  | 'n' => some { order with style := .number }
  | 'g' => some { order with style := .quantity }
  | 'h' => some { order with style := .human }
  | 'M' => some { order with style := .month }
  | 'V' => some { order with style := .version }
  | 'R' => some order
  | 'f' => some { order with folded := true }
  | 'd' => some { order with dictionary := true }
  | 'i' => some { order with printable := true }
  | 'r' => some { order with reversed := true }
  | 'b' => some { order with blanksAtStart := true, blanksAtEnd := true }
  | _ => none

/-- A part of a line: from a character of a field to one of another field. -/
structure Key where
  field : Nat
  char : Nat := 1
  /-- The last field, and the last character in it; zero stands for the end of the field. -/
  last? : Option (Nat × Nat) := none
  order : Order := {}

/-- A decimal number at the front of a text, and what follows it. -/
def numberAt? (text : List Char) : Option (Nat × List Char) :=
  let digits := text.takeWhile Char.isDigit
  (String.ofList digits).toNat?.map (·, text.drop digits.length)

/-- Reads a key. -/
def Key.read? (text : List Char) : Option Key := do
  let position (text : List Char) : Option (Nat × Nat × List Char) := do
    let (field, rest) ← numberAt? text
    match rest with
    | '.' :: rest =>
      let (char, rest) ← numberAt? rest
      return (field, char, rest)
    | rest => return (field, 0, rest)
  let letters (order : Order) (atEnd : Bool) (text : List Char) : Option Order :=
    text.foldlM (fun order letter =>
      if letter = 'b' then
        some (if atEnd then { order with blanksAtEnd := true }
          else { order with blanksAtStart := true })
      else order.with? letter) order
  let (field, char, rest) ← position text
  if field = 0 then none
  let options := rest.takeWhile (· != ',')
  let order ← letters {} false options
  match rest.drop options.length with
  | _ :: rest =>
    let (last, lastChar, options) ← position rest
    if last = 0 then none
    return { field, char := max char 1, last? := some (last, lastChar),
             order := ← letters order true options }
  | [] => return { field, char := max char 1, order }

/-- Whether a character separates fields that have no separator of their own. -/
def isBlank (char : Char) : Bool := char == ' ' || char == '\t'

/-- A text behind so many fields. -/
def skipFields (separator? : Option Char) : Nat → List Char → List Char
  | 0, text => text
  | count + 1, text =>
    match separator? with
    | some separator =>
      match text.dropWhile (· != separator) with
      | _ :: rest => skipFields separator? count rest
      | [] => []
    | none =>
      skipFields separator? count ((text.dropWhile isBlank).dropWhile fun char => !isBlank char)

/-- How many characters the first fields have, with the separators between them. -/
def fieldsLength (separator? : Option Char) (count : Nat) (text : List Char) : Nat :=
  match separator? with
  | some separator =>
    let before := skipFields separator? (count - 1) text
    let start := text.length - before.length
    if count = 0 then 0 else start + (before.takeWhile (· != separator)).length
  | none => text.length - (skipFields separator? count text).length

/-- The part of a line that is a key. -/
def Key.of (key : Key) (separator? : Option Char) (line : List Char) : List Char :=
  let start := skipFields separator? (key.field - 1) line
  let start := if key.order.blanksAtStart then start.dropWhile isBlank else start
  let start := start.drop (key.char - 1)
  let begin := line.length - start.length
  let stop := match key.last? with
    | none => line.length
    | some (field, 0) => fieldsLength separator? field line
    | some (field, char) =>
      let rest := skipFields separator? (field - 1) line
      let rest := if key.order.blanksAtEnd then rest.dropWhile isBlank else rest
      line.length - rest.length + min char rest.length
  (line.take stop).drop begin

/-! ### Comparing -/

/-- The number at the front of a text as an integer and its decimal places, and what follows it. -/
def decimalOf (text : List Char) : Int × Nat × List Char :=
  let text := text.dropWhile isBlank
  let (negative, body) := match text with
    | '-' :: rest => (true, rest)
    | _ => (false, text)
  let whole := body.takeWhile Char.isDigit
  let (places, rest) := match body.drop whole.length with
    | '.' :: rest => (rest.takeWhile Char.isDigit, rest.dropWhile Char.isDigit)
    | rest => ([], rest)
  let value : Int := ((String.ofList (whole ++ places)).toNat?).getD 0
  (if negative then -value else value, places.length, rest)

/-- The order of two decimal numbers. -/
def compareDecimals (first second : Int × Nat) : Ordering :=
  compare (first.1 * Nat.pow 10 second.2) (second.1 * Nat.pow 10 first.2)

/-- Where the letter behind a number stands among the units. -/
def unitRank (rest : List Char) : Nat :=
  match rest with
  | letter :: _ =>
    if letter = 'k' then 1 else ("KMGTPEZY".toList.idxOf? letter).elim 0 (· + 1)
  | [] => 0

/-- The number of a month. -/
def monthOf (text : List Char) : Nat :=
  let name := String.ofList (((text.dropWhile isBlank).take 3).map Char.toUpper)
  ((["JAN", "FEB", "MAR", "APR", "MAY", "JUN", "JUL", "AUG", "SEP", "OCT", "NOV", "DEC"].idxOf?
    name).map (· + 1)).getD 0

/-- Where a character stands in the order of versions. -/
def versionRank (char : Char) : Nat :=
  if char = '~' then 0
  else if char.isAlpha then char.toNat + 1
  else char.toNat + 1000

/-- The order of two versions. -/
def compareVersions : Nat → List Char → List Char → Ordering
  | 0, _, _ => .eq
  | _ + 1, [], [] => .eq
  | fuel + 1, first, second =>
    let rank (text : List Char) : Nat :=
      match text with
      | [] => 1
      | char :: _ => if char.isDigit then 1 else versionRank char
    let isText (text : List Char) : Bool := text.head?.any fun char => !char.isDigit
    if isText first ∨ isText second then
      match compare (rank first) (rank second) with
      | .eq => compareVersions fuel (first.drop 1) (second.drop 1)
      | other => other
    else
      let digits (text : List Char) : List Char := text.takeWhile Char.isDigit
      let value (text : List Char) : Nat := ((String.ofList (digits text)).toNat?).getD 0
      match compare (value first) (value second) with
      | .eq =>
        compareVersions fuel (first.drop (digits first).length) (second.drop (digits second).length)
      | other => other

/-- A quantity for comparison: where unreadable ones stand, and a ratio with its sign. -/
def quantityOf (text : List Char) : Nat × Int × Nat :=
  match Decimal.Quantity.read? (text.dropWhile isBlank) with
  | none => (0, 0, 1)
  | some (.unknown _, _) => (1, 0, 1)
  | some (.infinite negative, _) => (if negative then 2 else 4, 0, 1)
  | some (.finite negative size, _) =>
    (3, if negative then -(size.numerator : Int) else size.numerator, size.denominator)

/-- The order of two texts. -/
def compareTexts : List Char → List Char → Ordering
  | [], [] => .eq
  | [], _ => .lt
  | _, [] => .gt
  | first :: firsts, second :: seconds =>
    if first = second then compareTexts firsts seconds else compare first.toNat second.toNat

/-- The order of two keys, without regard to its direction. -/
def Order.compareKeys (order : Order) (first second : List Char) : Ordering :=
  match order.style with
  | .number =>
    let one := decimalOf first
    let other := decimalOf second
    compareDecimals (one.1, one.2.1) (other.1, other.2.1)
  | .quantity =>
    let (rank, value, scale) := quantityOf first
    let (otherRank, otherValue, otherScale) := quantityOf second
    (compare rank otherRank).then (compare (value * otherScale) (otherValue * scale))
  | .human =>
    let (value, places, rest) := decimalOf first
    let (otherValue, otherPlaces, otherRest) := decimalOf second
    let signed (value : Int) (rest : List Char) : Int :=
      if value < 0 then -(unitRank rest : Int) else unitRank rest
    (compare value.sign otherValue.sign).then <|
      (compare (signed value rest) (signed otherValue otherRest)).then
        (compareDecimals (value, places) (otherValue, otherPlaces))
  | .month => compare (monthOf first) (monthOf second)
  | .version => compareVersions (first.length + second.length + 1) first second
  | .text =>
    let counted (text : List Char) : List Char :=
      let text := if order.dictionary then
          text.filter fun char => isBlank char || char.isAlphanum else text
      let text := if order.printable then
          text.filter fun char => ' ' ≤ char && char ≤ '~' else text
      if order.folded then text.map Char.toUpper else text
    compareTexts (counted first) (counted second)

/-- The order of two keys. -/
def Order.compare (order : Order) (first second : List Char) : Ordering :=
  if order.reversed then (order.compareKeys first second).swap else order.compareKeys first second

/-- How lines are sorted. -/
structure Setting where
  keys : List Key
  order : Order
  separator? : Option Char
  /-- Whether lines with the same keys stay in their order. -/
  stable : Bool
  unique : Bool

/-- The order of two lines by their keys. -/
def Setting.compareKeys (sorting : Setting) (first second : List Char) : Ordering :=
  if sorting.keys.isEmpty then
    let counted (line : List Char) : List Char :=
      if sorting.order.blanksAtStart then line.dropWhile isBlank else line
    sorting.order.compare (counted first) (counted second)
  else
    sorting.keys.foldl (fun found key =>
      found.then <|
        let order := if { key.order with blanksAtStart := false, blanksAtEnd := false } = {} ∧
            !key.order.blanksAtStart ∧ !key.order.blanksAtEnd then sorting.order else key.order
        let key := { key with order }
        order.compare (key.of sorting.separator? first) (key.of sorting.separator? second)) .eq

/-- The order of two lines. -/
def Setting.compare (sorting : Setting) (first second : List Char) : Ordering :=
  (sorting.compareKeys first second).then <|
    if sorting.stable || sorting.unique then .eq
    else if sorting.order.reversed then compareTexts second first
    else compareTexts first second

/-- The lines without those that have the keys of the line before. -/
def distinctBy (same : List Char → List Char → Bool) (lines : List (List Char)) :
    List (List Char) :=
  (lines.foldl (fun kept line =>
    match kept with
    | last :: _ => if same last line then kept else line :: kept
    | [] => [line]) []).reverse

/-- Writes text to a file or to the output. -/
def deliver (target? : Option (List Char)) (chars : List Char) : HostM Nat := do
  match target? with
  | none => do
    say (Bytes.ofChars chars)
    return 0
  | some path => do
    let attributes := (← get).fresh 0o666
    match ← attempt fun files base =>
        files.update base (pathOf path) (fun _ => Bytes.ofChars chars) attributes with
    | none => return 0
    | some fault => do
      complain ("open failed: ".toList ++ path ++ ": ".toList ++ fault.plain.toList)
      return 2

/-- The separator that an option names. -/
def separatorOf? (text : List Char) : Option Char :=
  if text = "\\0".toList then some '\x00' else text.head?

/-- Sorts lines. -/
def sort : Tool :=
  let grammar : Grammar :=
    .of "bdfghiMnRrVcCk:mo:sS:t:T:uz" [("ignore-leading-blanks", 'b'), ("dictionary-order", 'd'),
      ("ignore-case", 'f'), ("general-numeric-sort", 'g'), ("human-numeric-sort", 'h'),
      ("ignore-nonprinting", 'i'), ("month-sort", 'M'), ("numeric-sort", 'n'), ("random-sort", 'R'),
      ("reverse", 'r'), ("version-sort", 'V'), ("check?", 'c'), ("key=", 'k'), ("merge", 'm'),
      ("output=", 'o'), ("stable", 's'), ("field-separator=", 't'), ("unique", 'u'),
      ("zero-terminated", 'z'), ("buffer-size=", 'S'), ("parallel=", 'T'),
      ("temporary-directory=", 'T'), ("sort=", 'w')]
  withOptions grammar 2 fun options => do
    let order := options.found.foldl (fun order entry =>
      if entry.1 = 'w' then
        match String.ofList (entry.2.getD []) with
        | "numeric" => { order with style := .number }
        | "general-numeric" => { order with style := .quantity }
        | "human-numeric" => { order with style := .human }
        | "month" => { order with style := .month }
        | "version" => { order with style := .version }
        | _ => order
      else (order.with? entry.1).getD order) ({} : Order)
    let texts := options.values 'k'
    match texts.find? fun text => (Key.read? text).isNone with
    | some text => do
      let what := if (numberAt? text).any (·.1 = 0) then "field number is zero: invalid field specification "
        else "invalid number at field start: invalid count at start of "
      complain (what.toList ++ inQuotes text)
      return 2
    | none => do
      if (options.value? 't').any (· = []) then
        complain "empty tab".toList
        return 2
      if (options.value? 't').any fun text => 1 < text.length ∧ text ≠ "\\0".toList then
        complain ("multi-character tab ".toList ++ inQuotes ((options.value? 't').getD []))
        return 2
      let sorting : Setting := {
        keys := texts.filterMap Key.read?
        order
        separator? := (options.value? 't').bind separatorOf?
        stable := options.has 's'
        unique := options.has 'u' }
      let mark : UInt8 := if options.has 'z' then 0 else 0x0A
      let operands := orInput options.operands
      let mut pieces : List (List (List Char)) := []
      for operand in operands do
        match ← onOperand operand fun descriptor => readFrom descriptor none with
        | .ok (.ok bytes) => pieces := linesOf bytes mark :: pieces
        | .ok (.error fault) => do
          complain ("read failed: ".toList ++ operand ++ ": ".toList ++ fault.plain.toList)
          return 2
        | .error fault => do
          complain ("cannot read: ".toList ++ operand ++ ": ".toList ++ fault.plain.toList)
          return 2
      let lines := pieces.reverse.flatten
      if options.has 'c' ∨ options.has 'C' then
        let pairs := (List.range lines.length).zip (lines.zip (lines.drop 1))
        let wrong := pairs.find? fun (_, first, second) =>
          match sorting.compare first second with
          | .gt => true
          | .eq => sorting.unique
          | .lt => false
        match wrong with
        | none => return 0
        | some (index, _, line) => do
          if options.has 'c' ∧ (options.value? 'c').isNone then
            complain (operands.headD ['-'] ++ ':' :: decimal (index + 2) ++ ": disorder: ".toList
              ++ line)
          return 1
      else
        let sorted := lines.mergeSort fun first second => sorting.compare first second != .gt
        let sorted := if sorting.unique then
            distinctBy (fun first second => sorting.compareKeys first second == .eq) sorted
          else sorted
        let end' := Char.ofNat mark.toNat
        deliver (options.value? 'o') (sorted.flatMap (· ++ [end']))

/-! ### Repeated lines -/

/-- The runs of lines that are the same in what counts: the first of each and how many they are. -/
def runs (counted : List Char → List Char) (lines : List (List Char)) :
    List (List (List Char)) :=
  (lines.foldl (fun groups line =>
    match groups with
    | (last :: others) :: rest =>
      if counted last = counted line then (line :: last :: others) :: rest else [line] :: groups
    | groups => [line] :: groups) []).reverse.map List.reverse

/-- Groups of lines with empty lines between them, or also around them, as a method says. -/
def grouped (method : List Char) (mark : Char) (groups : List (List Char)) : List Char :=
  let between := [mark].intercalate groups
  if groups.isEmpty then []
  else match String.ofList method with
    | "prepend" => mark :: between
    | "append" => between ++ [mark]
    | "both" => mark :: between ++ [mark]
    | _ => between

/-- Drops lines that repeat the line before. -/
def uniq : Tool :=
  let grammar : Grammar :=
    .of "cdDuif:s:w:z" [("count", 'c'), ("repeated", 'd'), ("all-repeated?", 'D'), ("unique", 'u'),
      ("ignore-case", 'i'), ("skip-fields=", 'f'), ("skip-chars=", 's'), ("check-chars=", 'w'),
      ("zero-terminated", 'z'), ("group?", 'g')]
  withOptions grammar 1 fun options => do
    let number (letter : Char) (usual : Nat) : Nat :=
      ((options.value? letter).bind count?).getD usual
    let counted (line : List Char) : List Char :=
      let line := (skipFields none (number 'f' 0) line).drop (number 's' 0)
      let line := if options.has 'w' then line.take (number 'w' 0) else line
      if options.has 'i' then line.map Char.toLower else line
    let mark : UInt8 := if options.has 'z' then 0 else 0x0A
    match options.operands with
    | _ :: _ :: third :: _ => surplus 1 third
    | operands => do
      match ← contentsOf (operands.headD ['-']) with
      | .error fault => do
        complainOf (operands.headD ['-']) fault
        return 1
      | .ok bytes => do
        let groups := runs counted (linesOf bytes mark)
        let groups := groups.filter fun group =>
          (!options.has 'd' && !options.has 'D' || 1 < group.length)
            && (!options.has 'u' || group.length = 1)
        let end' := Char.ofNat mark.toNat
        let wholes := groups.map fun group => group.flatMap (· ++ [end'])
        let text := if options.has 'g' then grouped ((options.value? 'g').getD []) end' wholes
          else groups.flatMap fun group =>
          let front := if options.has 'c' then rightward 7 (decimal group.length) ++ [' '] else []
          if options.has 'D' then group.flatMap (· ++ [end'])
          else front ++ group.headD [] ++ [end']
        deliver operands[1]? text

/-! ### Two files -/

/-- The lines of two files in order, each with the files it is in. -/
def merged : Nat → List (List Char) → List (List Char) → List (List Char × Bool × Bool)
  | 0, _, _ => []
  | _ + 1, [], second => second.map (·, false, true)
  | _ + 1, first, [] => first.map (·, true, false)
  | fuel + 1, first :: firsts, second :: seconds =>
    match compareTexts first second with
    | .lt => (first, true, false) :: merged fuel firsts (second :: seconds)
    | .gt => (second, false, true) :: merged fuel (first :: firsts) seconds
    | .eq => (first, true, true) :: merged fuel firsts seconds

/-- Whether lines are in order. -/
def isOrdered (lines : List (List Char)) : Bool :=
  (lines.zip (lines.drop 1)).all fun (first, second) => compareTexts first second != .gt

/-- Writes the lines that two files have alone and together in columns. -/
def comm : Tool :=
  let grammar : Grammar :=
    .of "123z" [("check-order", 'c'), ("nocheck-order", 'n'), ("output-delimiter=", 'd'),
      ("total", 't'), ("zero-terminated", 'z')]
  withOptions grammar 1 fun options => do
    match options.operands with
    | [] => lacking 1
    | [operand] => misuse 1 ("missing operand after ".toList ++ inQuotes operand)
    | _ :: _ :: third :: _ => surplus 1 third
    | [first, second] => do
      let (firsts, done) ← allInput [first]
      let (seconds, doneToo) ← allInput [second]
      if !done ∨ !doneToo then return 1
      let left := linesOf firsts.flatten
      let right := linesOf seconds.flatten
      let gap := (options.value? 'd').getD ['\t']
      let shown (letter : Char) : Bool := !options.has letter
      for (line, inFirst, inSecond) in merged (left.length + right.length + 1) left right do
        if inFirst ∧ inSecond then
          if shown '3' then
            sayLine ((if shown '1' then gap else []) ++ (if shown '2' then gap else []) ++ line)
        else if inFirst then
          if shown '1' then sayLine line
        else if shown '2' then sayLine ((if shown '1' then gap else []) ++ line)
      if options.has 'n' then return 0
      let mut status := 0
      for (number, lines) in [('1', left), ('2', right)] do
        if !isOrdered lines then
          complain ("file ".toList ++ number :: " is not in sorted order".toList)
          status := 1
      if status ≠ 0 then complain "input is not in sorted order".toList
      return status

/-- The fields of a line. -/
def fieldsOf (separator? : Option Char) (line : List Char) : List (List Char) :=
  match separator? with
  | some separator => line.splitOn separator
  | none => (line.map fun char => if char = '\t' then ' ' else char).splitOn ' ' |>.filter (· ≠ [])

/-- Joins the lines of two files that have a field in common. -/
def join : Tool :=
  let grammar : Grammar :=
    .of "a:v:e:1:2:j:t:o:i" [("ignore-case", 'i'), ("header", 'h'), ("nocheck-order", 'n'),
      ("check-order", 'c')]
  withOptions grammar 1 fun options => do
    match options.operands with
    | [first, second] => do
      let (firsts, done) ← allInput [first]
      let (seconds, doneToo) ← allInput [second]
      if !done ∨ !doneToo then return 1
      let separator? := (options.value? 't').bind separatorOf?
      let number (letter : Char) : Nat :=
        (((options.value? letter).or (options.value? 'j')).bind count?).getD 1
      let left := (linesOf firsts.flatten).map (fieldsOf separator?)
      let right := (linesOf seconds.flatten).map (fieldsOf separator?)
      let keyOf (fields : List (List Char)) (number : Nat) : List Char :=
        let key := (fields[number - 1]?).getD []
        if options.has 'i' then key.map Char.toLower else key
      let blank := (options.value? 'e').getD []
      let others (fields : List (List Char)) (number : Nat) : List (List Char) :=
        fields.eraseIdx (number - 1)
      let gap := separator?.getD ' '
      let form? := (options.value? 'o').map fun text =>
        (text.map fun char => if char = ',' then ' ' else char).splitOn ' ' |>.filter (· ≠ [])
      let write (key : List Char) (one other : List (List Char)) : HostM Unit :=
        match form? with
        | none =>
          sayLine ([gap].intercalate
            (key :: (others one (number '1') ++ others other (number '2'))))
        | some items =>
          sayLine <| [gap].intercalate <| items.map fun item =>
            let field (fields : List (List Char)) : List Char :=
              let found := (((String.ofList (item.drop 2)).toNat?).bind fun index =>
                fields[index - 1]?).getD []
              if found = [] then blank else found
            match item with
            | '1' :: _ => field one
            | '2' :: _ => field other
            | _ => key
      let alone := (options.values 'a') ++ options.values 'v'
      let both := !options.has 'v'
      let keyed := right.map fun fields => (keyOf fields (number '2'), fields)
      let leftKeys := left.map fun fields => keyOf fields (number '1')
      let mut unmatched := keyed.filter fun entry => !leftKeys.contains entry.1
      for fields in left do
        let key := keyOf fields (number '1')
        if alone.contains ['2'] then
          for (otherKey, other) in unmatched do
            if compareTexts otherKey key == .lt then write otherKey [] other
          unmatched := unmatched.filter fun entry => compareTexts entry.1 key != .lt
        let found := keyed.filter fun entry => entry.1 == key
        if found.isEmpty then
          if alone.contains ['1'] then write ((fields[number '1' - 1]?).getD []) fields []
        else if both then
          for (_, other) in found do write ((fields[number '1' - 1]?).getD []) fields other
      if alone.contains ['2'] then
        for (otherKey, other) in unmatched do write otherKey [] other
      return 0
    | [] => lacking 1
    | [operand] => misuse 1 ("missing operand after ".toList ++ inQuotes operand)
    | _ :: _ :: third :: _ => surplus 1 third

end KernelCache.Sorting
