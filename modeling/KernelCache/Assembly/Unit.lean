import KernelCache.Assembly.Listing

/-
**Whole texts for the assembler.**

All code of a text becomes one routine with its own stack. A label that is no label of the assembler
itself becomes a routine of that name: it hands its arguments on, and enters the code at the label.

* `Unit.piece?` is the piece that a text becomes.

Data lies in areas. An area is cut at the labels that others see, and the cuts lie one behind the
other.
-/

namespace KernelCache.Assembly

open KernelCache.Code (Instruction Kind Linkage Piece Routine Term)

/-- What an area of data consists of. -/
structure Area where
  name : String
  /-- The octets, the last first. -/
  octets : List UInt8 := []
  count : Nat := 0
  /-- Addresses and numbers that are put in later: the place, the width, the number. -/
  patches : List (Nat × Nat × Sum) := []
  boundary : Nat := 16

/-- What has been read of a text. -/
structure Layout where
  /-- Code, the last first. -/
  code : List Statement := []
  areas : List Area := []
  /-- Labels in areas: their area and their place. -/
  places : List (String × String × Nat) := []
  codeLabels : List String := []
  /-- Names for numbers and addresses. -/
  names : List (String × Sum) := []
  linkages : List (String × Linkage) := []
  hidden : List String := []
  commons : List (String × Nat × Nat × Bool) := []
  /-- The current area. -/
  current : String := ".text"
  /-- The number of the first label. -/
  firstLabel : Nat := 0

namespace Layout

/-! ### Areas -/

/-- Whether a name starts with another one. -/
def startsWith (name front : String) : Bool := front.toList.isPrefixOf name.toList

/-- Whether an area holds code. -/
def isCode (name : String) : Bool :=
  name == ".text" || startsWith name ".text." || name == ".init" || name == ".fini"

/-- Whether an area is not loaded. -/
def isIdle (name : String) : Bool :=
  [".note", ".comment", ".eh_frame", ".debug", ".gnu"].any (startsWith name)

/-- Whether an area is never written. -/
def isConstant (name : String) : Bool := isCode name || startsWith name ".rodata"

/-- An area by its name. -/
def areaOf (layout : Layout) (name : String) : Area :=
  (layout.areas.find? fun area => area.name == name).getD { name }

/-- Puts an area in. -/
def withArea (layout : Layout) (area : Area) : Layout :=
  if layout.areas.any fun other => other.name == area.name then
    { layout with areas := layout.areas.map fun other => if other.name == area.name then area else other }
  else { layout with areas := layout.areas ++ [area] }

/-- Where the next octet goes. -/
def here (layout : Layout) : Nat := (layout.areaOf layout.current).count

/-! ### Numbers -/

/-- The place of a name in the areas; a point means the next octet. -/
def placeOf? (layout : Layout) (name : String) : Option (String × Nat) :=
  if name = "." then some (layout.current, layout.here) else layout.places.lookup name

/-- A sum in which names for numbers are gone, and distances inside of an area are numbers. -/
def settled (layout : Layout) (sum : Sum) : Sum :=
  let named (sum : Sum) (name : Option String) (isPlus : Bool) : Sum :=
    match name.bind fun name => layout.names.lookup name with
    | some value =>
      let rest : Sum := if isPlus then { sum with plus := none } else { sum with minus := none }
      (rest.join? (if isPlus then '+' else '-') value).getD sum
    | none => sum
  let sum := named (named sum sum.plus true) sum.minus false
  match sum.plus.bind layout.placeOf?, sum.minus.bind layout.placeOf? with
  | some (area, place), some (other, start) =>
    if area == other then { number := sum.number + place - start } else sum
  | _, _ => sum

/-- The number that a sum is. -/
def number? (layout : Layout) (sum : Sum) : Option Int := (layout.settled sum).value?

/-! ### Statements -/

/-- Adds octets to the current area. -/
def append (layout : Layout) (octets : List UInt8) : Layout :=
  let area := layout.areaOf layout.current
  layout.withArea { area with
    octets := octets.reverse ++ area.octets, count := area.count + octets.length }

/-- Adds a number to the current area. -/
def addNumber? (layout : Layout) (width : Nat) (sum : Sum) : Option Layout := do
  let sum := layout.settled sum
  match sum.value? with
  | some number => return layout.append (Code.octets width (Code.Value.bitsOf width number))
  | none =>
    if isIdle layout.current then return layout.append (List.replicate width 0)
    else if width < 4 ∨ sum.minus.isSome then none
    else
      let area := layout.areaOf layout.current
      let patched := layout.withArea { area with patches := (area.count, width, sum) :: area.patches }
      return patched.append (List.replicate width 0)

/-- Goes on at a boundary. -/
def toBoundary (layout : Layout) (boundary : Nat) : Layout :=
  let area := layout.areaOf layout.current
  let missing := (boundary - area.count % boundary) % boundary
  let moved := layout.append (List.replicate missing 0)
  let area := moved.areaOf layout.current
  moved.withArea { area with boundary := max area.boundary boundary }

/-- Whether data stands behind labels and boundaries. -/
def seesData : List Statement → Bool
  | .label _ :: rest | .align _ :: rest | .linkage _ _ :: rest | .hidden _ :: rest => seesData rest
  | .data _ _ :: _ | .octets _ :: _ | .fill _ _ _ :: _ => true
  | _ => false

/-- Adds a statement that others follow. -/
def add? (layout : Layout) (statement : Statement) (rest : List Statement) : Option Layout :=
  match statement with
  | .label name =>
    if (layout.places.lookup name).isSome || layout.codeLabels.contains name then none
    else if isCode layout.current && !seesData rest then
      some { layout with code := .label name :: layout.code, codeLabels := name :: layout.codeLabels }
    else some { layout with places := (name, layout.current, layout.here) :: layout.places }
  | .assign name sum =>
    if isCode layout.current && (sum.plus == some "." || sum.minus == some ".") then none
    else some { layout with names := (name, layout.settled sum) :: layout.names }
  | .command _ _ _ =>
    if isCode layout.current then some { layout with code := statement :: layout.code } else none
  | .data width sums => sums.foldlM (fun layout sum => layout.addNumber? width sum) layout
  | .octets octets => some (layout.append octets)
  | .fill count width value => do
    let number ← layout.number? count
    if number < 0 ∨ 1000000 < number * width ∨ 8 < width then none
    else
      return layout.append
        (List.replicate number.toNat (Code.octets width (Code.Value.bitsOf width value))).flatten
  | .align boundary =>
    if boundary = 0 then none
    else if isCode layout.current && !seesData rest then some layout
    else some (layout.toBoundary boundary)
  | .area name => some { layout with current := name }
  | .linkage names linkage =>
    some { layout with linkages := (names.map fun name => (name, linkage)) ++ layout.linkages }
  | .hidden names => some { layout with hidden := names ++ layout.hidden }
  | .common name size boundary isInner =>
    some { layout with commons := (name, size, boundary, isInner) :: layout.commons }

/-- Adds statements. -/
def addAll? (layout : Layout) : List Statement → Option Layout
  | [] => some layout
  | first :: rest => do (← layout.add? first rest).addAll? rest

/-! ### Symbols -/

/-- Who can use a symbol. -/
def linkageOf (layout : Layout) (name : String) : Linkage :=
  (layout.linkages.lookup name).getD .inner

/-- Whether a label is one of the assembler itself. -/
def isOwnLabel (name : String) : Bool :=
  startsWith name ".L" || name.toList.head?.any fun char => '0' ≤ char && char ≤ '9'

/-- The symbol of a cut of an area. -/
def cutName (area : String) (place : Nat) : String := area ++ "#" ++ toString place

/-- The cuts of an area: places and symbols, with what others see. -/
def cuts (layout : Layout) (area : Area) : List (Nat × String) :=
  let marks := (layout.places.filter fun (name, home, _) =>
    home == area.name && layout.linkageOf name != .inner).map fun (name, _, place) => (place, name)
  let sorted := marks.mergeSort fun a b => a.1 ≤ b.1
  let single := sorted.foldl (fun done mark =>
    if done.any fun other : Nat × String => other.1 == mark.1 then done else done ++ [mark]) []
  if single.any fun mark => mark.1 == 0 then single else (0, cutName area.name 0) :: single

/-- The address of a place in an area. -/
def placeTerm (layout : Layout) (name : String) (place : Nat) : Term :=
  let cuts := layout.cuts (layout.areaOf name)
  match (cuts.filter fun cut => cut.1 ≤ place).getLast? with
  | some (start, symbol) =>
    if start = place then .address symbol
    else .binary .add .address (.address symbol) (.word (place - start))
  | none => .address (cutName name 0)

/-- The number of a label of the code. -/
def label? (layout : Layout) (name : String) : Option Nat :=
  let find (name : String) : Option Nat :=
    (layout.codeLabels.findIdx? (· == name)).map fun number => layout.firstLabel + number
  (find name).or (do
    let sum ← layout.names.lookup name
    if sum.number = 0 ∧ sum.minus.isNone then find (← sum.plus) else none)

/-- The address of a symbol. -/
def addressOf (layout : Layout) (name : String) : Term :=
  match layout.places.lookup name with
  | some (area, place) => layout.placeTerm area place
  | none =>
    if isOwnLabel name then
      match layout.label? name with
      | some number => .labelAddress number
      | none => .address name
    else .address name

/-- An operand in which names for numbers are gone. -/
def settledOperand (layout : Layout) : Operand → Operand
  | .number sum => .number (layout.settled sum)
  | .place place => .place { place with start := layout.settled place.start }
  | .through operand => .through (settledOperand layout operand)
  | other => other

/-- A command in which names for numbers are gone. -/
def settledCommand (layout : Layout) (statement : Statement) : Statement :=
  match statement with
  | .command fronts name operands =>
    .command fronts name (operands.map layout.settledOperand)
  | other => other

/-! ### Where code may be -/

/-- Whether a symbol can be found at another place than in its own text. -/
def isShared (layout : Layout) (name : String) : Bool :=
  !layout.hidden.contains name && !isOwnLabel name
    && (layout.linkageOf name != .inner
      || !(layout.codeLabels.contains name || (layout.places.lookup name).isSome
        || (layout.names.lookup name).isSome))

/-- Whether an operand contains an address that only fits when it is known. -/
def isFixed (isJump isWhole : Bool) : Operand → Bool
  | .number sum => sum.plus.isSome && !isWhole
  | .place place => !isJump && !place.isTable && !place.isNear && place.start.plus.isSome
  | .through operand => isFixed false isWhole operand
  | _ => false

/-- Whether an operand is at a distance from a symbol that others can define. -/
def isNear (layout : Layout) : Operand → Bool
  | .place place => place.isNear && !place.isTable && place.start.plus.any layout.isShared
  | .through operand => isNear layout operand
  | _ => false

/-- Whether a statement contains an address that only fits when it is known. -/
def hasFixed (statement : Statement) : Bool :=
  match statement with
  | .command _ name operands =>
    let isJump := name.toList.head? == some 'j' || startsWith name "call" || startsWith name "loop"
    operands.any (isFixed isJump (startsWith name "movabs"))
  | _ => false

/-- Whether a statement contains the distance of a symbol that others can define. -/
def hasNear (layout : Layout) (statement : Statement) : Bool :=
  match statement with
  | .command _ _ operands => operands.any layout.isNear
  | _ => false

end Layout

namespace Unit

open Layout

/-- The octets of the stack of the code. -/
def stackSize : Nat := 65536

/-- Where the code finds the label at which it starts. -/
def entryAt : Nat := Block.size

/-- Where the code finds the address of the words that it has on the stack. -/
def wordsAt : Nat := Block.size + 8

/-- Octets that are handed on from the stack. -/
def handedOn : Nat := 64

/-- The octets of the variables of the code. -/
def room : Nat := Block.size + 512 + stackSize

/-- The symbol of the routine of the code. -/
def codeSymbol : String := ".text"

/-- The symbol of the routine that gives data its first values. -/
def presetSymbol : String := ".areas"

/-- The routine of the code. Its own labels come behind those of the text. -/
def codeRoutine? (layout : Layout) : Option Routine := do
  let block : Block := { start := 0 }
  let last := layout.firstLabel + layout.codeLabels.length
  let statements := (Listing.joined layout.code.reverse).map layout.settledCommand
  let body ← Listing.instructions? block layout.addressOf layout.label? (last + 1) []
    statements
  let front := effects [
    block.setWhole stackEnd (.place (room - handedOn - 8)),
    .copy handedOn (.place (room - handedOn)) (.load wordKind (.place wordsAt)),
    .store wordKind (.place (room - handedOn - 8)) (.labelAddress last)]
  return {
    symbol := codeSymbol, linkage := .inner, visible := false, room
    parameters := (wordKind, entryAt) :: (wordKind, wordsAt)
      :: parameterRegisters.map fun number => (wordKind, 8 * number)
    instructions := front ++ [.fetch entryAt wordKind, .gotoAddress] ++ body ++ broken
      ++ .label last :: (block.whole accumulator).instructions ++ [.answer]
    answerKind := some wordKind }

/-- The routine of a label. -/
def entryRoutine (layout : Layout) (name : String) (label : Nat) : Routine :=
  let places := List.range parameterRegisters.length
  let words := places.map fun place => Term.load wordKind (.place (8 * place))
  let wordsPlace := 8 * parameterRegisters.length
  let given := .labelAddress label :: .load wordKind (.place wordsPlace) :: words
  { symbol := name
    linkage := layout.linkageOf name
    visible := !layout.hidden.contains name
    room := wordsPlace + 8
    parameters := places.map fun place => (wordKind, 8 * place)
    furtherAt := some wordsPlace
    instructions := (Term.call (.address codeSymbol) given).instructions ++ [.answer]
    answerKind := some wordKind }

/-- The objects, the texts and the first values of an area. -/
def areaParts (layout : Layout) (area : Area) :
    List Code.Object × List (String × Nat × List UInt8) × List Instruction :=
  let cuts := layout.cuts area
  let ends := (cuts.drop 1).map (·.1) ++ [area.count]
  let octets := area.octets.reverse
  let parts := (cuts.zip ends).map fun ((start, symbol), limit) =>
    let own := (octets.drop start).take (limit - start)
    let object : Code.Object := {
      symbol, linkage := layout.linkageOf symbol, visible := !layout.hidden.contains symbol
      size := own.length, alignment := if start = 0 then area.boundary else 1
      isConstant := isConstant area.name }
    let source := symbol ++ "#"
    if own.all (· == 0) then (object, [], [])
    else (object, [(source, 1, own)],
      (Term.copy own.length (.address symbol) (.address source)).effect)
  let patches := area.patches.flatMap fun (place, width, sum) =>
    match sum.plus with
    | some name =>
      let target := layout.addressOf name
      let value := Term.binary .add .address target (.word (Code.Value.bitsOf 8 sum.number))
      (Term.store (.word width false) (layout.placeTerm area.name place) value).effect
    | none => []
  (parts.map (·.1), parts.flatMap (·.2.1), parts.flatMap (·.2.2) ++ patches)

/-- Symbols that stand at the place of another one. -/
def aliases (layout : Layout) : List (String × String × Linkage) :=
  let named := layout.names.filterMap fun (name, sum) =>
    match sum.plus, sum.minus with
    | some target, none =>
      if sum.number = 0 then some (name, target, layout.linkageOf name) else none
    | _, _ => none
  let doubled := layout.places.filterMap fun (name, area, place) =>
    let linkage := layout.linkageOf name
    match layout.placeTerm area place with
    | .address symbol =>
      if linkage != .inner && symbol != name then some (name, symbol, linkage) else none
    | _ => none
  named ++ doubled

/-- The order that the name of an area ends in. -/
def orderOf (front name : String) : Nat :=
  let digits := name.toList.drop (front.length + 1)
  ((Numeral.digits? 10 65536 0 digits).filter fun _ => !digits.isEmpty).getD 65535

/-- Routines whose addresses lie in areas of a name. -/
def listed (layout : Layout) (front : String) : List (Nat × String) :=
  (layout.areas.filter fun area => startsWith area.name front).flatMap fun area =>
    area.patches.reverse.filterMap fun (_, _, sum) =>
      sum.plus.map fun name => (orderOf front area.name, name)

/-- Whether all labels of digits are there. -/
def hasLabels (layout : Layout) (piece : Piece) : Bool :=
  let isMissing (symbol : String) : Bool :=
    symbol.toList.contains ':' && (layout.label? symbol).isNone
  !(piece.routines.any fun routine => routine.instructions.any fun instruction =>
    match instruction with
    | .callee symbol | .address symbol => isMissing symbol
    | _ => false)

/-- The piece of what has been read. -/
def pieceOf? (layout : Layout) : Option Piece := do
  let code ← codeRoutine? layout
  let entries := layout.codeLabels.filterMap fun name => do
    if isOwnLabel name then none else return entryRoutine layout name (← layout.label? name)
  let areas := (layout.areas.filter fun area => !isIdle area.name).map (areaParts layout)
  let presets := areas.flatMap (·.2.2)
  let commons := layout.commons.map fun (name, size, boundary, isInner) =>
    let isOwn := isInner || layout.linkages.lookup name == some .inner
    ({ symbol := name, linkage := if isOwn then .inner else .shared, size, alignment := boundary } :
      Code.Object)
  let commands := layout.code.map layout.settledCommand
  let isBound := commands.any hasFixed || layout.areas.any fun area =>
    !isIdle area.name && area.patches.any fun (_, width, _) => width < 8
  let piece : Piece := {
    routines := (if layout.code.isEmpty then [] else code :: entries)
      ++ (if presets.isEmpty then [] else [Routine.inner presetSymbol 0 presets])
    objects := areas.flatMap (·.1) ++ commons
    texts := areas.flatMap (·.2.1)
    aliases := aliases layout
    optional := (layout.linkages.filter fun entry => entry.2 == .weak).map (·.1)
    presets := if presets.isEmpty then [] else [presetSymbol]
    starters := listed layout ".init_array"
    finishers := (listed layout ".fini_array").map (·.2)
    isFixed := isBound
    isNear := commands.any layout.hasNear }
  if hasLabels layout piece then return piece else none

/-- The piece that a text for the assembler becomes, with labels from a number on. -/
def pieceFrom? (firstLabel : Nat) (chars : List Char) : Option Piece := do
  let statements ← Statement.list? { areas := [".text"] } chars
  pieceOf? (← ({ firstLabel } : Layout).addAll? statements)

/-- The piece that a text for the assembler becomes. -/
def piece? (chars : List Char) : Option Piece := pieceFrom? 0 chars

end Unit

end KernelCache.Assembly
