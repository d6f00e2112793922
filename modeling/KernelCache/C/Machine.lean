import KernelCache.Assembly.Listing
import KernelCache.C.Block

/-
**Commands of the machine in a source.**

`Parse.machineHere` reads them as a statement; every operand gets a place among registers of its own,
which the statement brings along.
-/

namespace KernelCache.C

open KernelCache.Assembly (Block Flag Register Statement)
open KernelCache.Code (Instruction Kind Term Value)

/-- Where an operand of commands is. -/
inductive Spot where
  | register (number : Nat)
  | wide (number : Nat)
  /-- In memory, at the address that a register holds. -/
  | memory (register : Nat)
  /-- A number or an address, as the assembler writes it. -/
  | written (text : String)
  /-- A flag, or what flags make of a condition. -/
  | condition (name : String)
  /-- A label of the source. -/
  | label (number : Nat)
  deriving DecidableEq

/-- An operand of commands as the source has it. -/
structure Asked where
  name : Option String
  constraint : List Char
  operand : Operand

/-- An operand with its place. -/
structure Placed where
  name : Option String
  spot : Spot
  /-- The octets of a value. -/
  size : Nat

namespace Parse

/-! ### Reading -/

/-- Tokens in which two colons are two tokens, outside of brackets. -/
def apartColons : Nat → List Token → List Token
  | _, [] => []
  | depth, token :: rest =>
    match token with
    | .mark "(" | .mark "[" | .mark "\x7b" => token :: apartColons (depth + 1) rest
    | .mark ")" | .mark "]" | .mark "\x7d" => token :: apartColons (depth - 1) rest
    | .mark "::" =>
      if depth = 0 then .mark ":" :: .mark ":" :: apartColons depth rest
      else token :: apartColons depth rest
    | _ => token :: apartColons depth rest

/-- The text that tokens are. -/
def wholeText? (tokens : List Token) : Option String :=
  if tokens.isEmpty then none
  else (tokens.mapM fun token =>
    match token with
    | Token.text text => some (textIn text)
    | _ => none).map String.join

/-- Reads one operand. -/
def askedHere (g : Grammar) : Parse Asked := do
  let name ← (do
    if ← option "[" then
      let name ← identifier
      mark "]"
      pure (some name)
    else pure none : Parse (Option String))
  let constraint ← (do
    match ← token with
    | .text text => pure (textIn text).toList
    | _ => failure : Parse (List Char))
  mark "("
  let operand ← g.expression
  mark ")"
  return { name, constraint, operand }

/-- Reads operands between commas. -/
def askedIn (g : Grammar) (tokens : List Token) : Parse (List Asked) :=
  if tokens.isEmpty then return []
  else (splitAt (.mark ",") tokens).mapM fun item => within item (askedHere g)

/-! ### Places -/

/-- The register that a letter of a constraint means. -/
def letterRegister? (letter : Char) : Option Nat :=
  match letter with
  | 'a' => some 0
  | 'c' => some 1
  | 'd' => some 2
  | 'b' => some 3
  | 'S' => some 6
  | 'D' => some 7
  | _ => none

/-- The registers that operands get, the first choice first. -/
def freeRegisters : List Nat := [0, 2, 1, 6, 7, 8, 9, 10, 11, 3, 12, 13, 14, 15, 5]

/-- The name of a part of a register. -/
def registerName (number size : Nat) (isHigh : Bool) : String :=
  let found := Register.table.find? fun entry => entry.2 == ⟨number, size, isHigh⟩
  "%" ++ (found.map (·.1)).getD ""

/-- The letters of a constraint that say what is possible. -/
def lettersOf (constraint : List Char) : List Char :=
  (constraint.takeWhile (· != ',')).filter fun letter =>
    !(['=', '+', '&', '%', '*', '?', '!', '^', '$'].contains letter)

/-- The registers that a text mentions. -/
def mentioned (text : String) : List Nat :=
  let names := (text.splitOn "%").drop 1
  names.filterMap fun rest =>
    (Register.find? (String.ofList (rest.toList.takeWhile Assembly.isNamePart))).map (·.number)

/-- Registers that are taken. -/
structure Taken where
  /-- Those that are not free to choose. -/
  words : List Nat := []
  /-- Those that cannot be asked for by their letter, either. -/
  named : List Nat := []
  wides : List Nat := []

/-- Whether a constraint allows numbers as the assembler writes them. -/
def allowsWritten (letters : List Char) (number : Int) : Bool :=
  letters.any fun letter =>
    match letter with
    | 'i' | 'n' | 'g' | 'X' | 's' => true
    | 'I' => 0 ≤ number && number < 32
    | 'J' => 0 ≤ number && number < 64
    | 'K' => -128 ≤ number && number < 128
    | 'L' => number == 255 || number == 65535 || number == 4294967295
    | 'M' => 0 ≤ number && number < 4
    | 'N' => 0 ≤ number && number < 256
    | 'e' => -(twoTo 31 : Int) ≤ number && number < twoTo 31
    | 'Z' => 0 ≤ number && number < twoTo 32
    | _ => false

/-- How the assembler writes a term, when it can. -/
def writtenTerm? (kind : Kind) (letters : List Char) (term : Term) : Option String :=
  match term with
  | .address symbol =>
    if letters.any fun letter => ['i', 's', 'X'].contains letter then some symbol else none
  | term => do
    let value ← term.constant?
    match kind, value with
    | .real _, _ | _, .real _ => none
    | kind, .word bits =>
      let signed := match kind with
        | .word _ signed => signed
        | _ => false
      let number := Value.ofBits kind.size signed bits
      if allowsWritten letters number then some (toString number) else none

/-- A register that is not taken. -/
def freeRegister (taken : Taken) (lowOnly : Bool) : Parse Nat :=
  orFail (freeRegisters.find? fun number =>
    !taken.words.contains number && (!lowOnly || number < 4))

/-- The place that a constraint means for an operand that is not written into the text. -/
def spotFor (letters : List Char) (kind : Option Kind) (taken : Taken) (isPlace : Bool) :
    Parse (Spot × Taken) := do
  let named := letters.filterMap letterRegister?
  let general := letters.any fun letter => ['r', 'q', 'R', 'l', 'g', 'X', 'p'].contains letter
  let isWide := letters.any fun letter => ['x', 'v'].contains letter
  let inMemory := letters.any fun letter => ['m', 'o', 'V', 'g', 'X'].contains letter
  let fits := kind.any fun kind => kind.size ≤ 8
  let word (number : Nat) : Spot × Taken :=
    (.register number, { taken with words := number :: taken.words })
  let isOnly := named.length = 1 && letters.length = 1
  match named.find? fun number =>
      !taken.named.contains number && (isOnly || !taken.words.contains number) with
  | some number => do
    require fits
    return (.register number, { taken with
      words := number :: taken.words, named := number :: taken.named })
  | none =>
    if isOnly then failure else
    if isWide && (kind.any fun kind => kind matches .real _) then
      let number ← orFail ((List.range 16).find? fun number => !taken.wides.contains number)
      return (.wide number, { taken with wides := number :: taken.wides })
    else if general && fits then return word (← freeRegister taken false)
    else if letters.contains 'Q' && fits then return word (← freeRegister taken true)
    else if inMemory then do
      require isPlace
      let number ← freeRegister taken false
      return (.memory number, { taken with words := number :: taken.words })
    else if isWide && fits then
      let number ← orFail ((List.range 16).find? fun number => !taken.wides.contains number)
      return (.wide number, { taken with wides := number :: taken.wides })
    else failure

/-- The registers that constraints with one register alone take, so that others keep off them. -/
def fixedRegisters (asked : List Asked) : List Nat :=
  asked.flatMap fun item =>
    let letters := lettersOf item.constraint
    let named := letters.filterMap letterRegister?
    if named.length = letters.length then named.take 1 else []

/-! ### The text of the commands -/

/-- The letter that tells a size. -/
def sizeLetter (size : Nat) : String :=
  match size with
  | 1 => "b"
  | 2 => "w"
  | 4 => "l"
  | _ => "q"

/-- How an operand is written, with the letter in front of its number. -/
def spelled? (placed : Placed) (letter : Option Char) : Option String :=
  match placed.spot, letter with
  | .register _, some 'z' | .memory _, some 'z' => some (sizeLetter placed.size)
  | .register number, letter =>
    match letter with
    | none | some 'V' => some (registerName number placed.size false)
    | some 'b' => some (registerName number 1 false)
    | some 'h' => some (registerName number 1 true)
    | some 'w' => some (registerName number 2 false)
    | some 'k' => some (registerName number 4 false)
    | some 'q' => some (registerName number 8 false)
    | some 'a' => some ("(" ++ registerName number 8 false ++ ")")
    | some 'A' => some ("*" ++ registerName number 8 false)
    | _ => none
  | .wide number, _ => some ("%xmm" ++ toString number)
  | .memory number, some 'H' => some ("+8(" ++ registerName number 8 false ++ ")")
  | .memory number, some 'A' => some ("*+0(" ++ registerName number 8 false ++ ")")
  | .memory number, _ => some ("+0(" ++ registerName number 8 false ++ ")")
  | .written text, some 'n' => some ("$-" ++ text)
  | .written text, letter =>
    if letter.any fun letter => ['c', 'P', 'p', 'a', 'l'].contains letter then some text
    else some ("$" ++ text)
  | .condition _, _ => none
  | .label number, _ => some (".Lc" ++ toString number)

/-- The operand that a number or a name in brackets means, and what follows it. -/
def meant? (placed : List Placed) (chars : List Char) : Option (Placed × List Char) :=
  match chars with
  | '[' :: rest => do
    let name := rest.takeWhile (· != ']')
    let found ← placed.find? fun item => item.name == some (String.ofList name)
    return (found, rest.drop (name.length + 1))
  | chars => do
    let digits := chars.takeWhile Token.isDigit
    if digits.isEmpty then none
    else
      let number ← Numeral.digits? 10 1000 0 digits
      return (← placed[number]?, chars.drop digits.length)

/-- The first one of the texts that a text offers between braces, and what follows the braces. -/
def firstChoice (chars : List Char) : List Char × List Char :=
  let inner := chars.takeWhile (· != '\x7d')
  (inner.takeWhile (· != '|'), chars.drop (inner.length + 1))

/-- The text of commands in which operands are written out. -/
def filled? (placed : List Placed) (unique : Nat) : Nat → List Char → Option (List Char)
  | 0, _ => none
  | _ + 1, [] => some []
  | fuel + 1, '%' :: '%' :: rest => do return '%' :: (← filled? placed unique fuel rest)
  | fuel + 1, '%' :: '=' :: rest => do
    return (toString unique).toList ++ (← filled? placed unique fuel rest)
  | fuel + 1, '%' :: char :: rest => do
    if char = '\x7b' ∨ char = '|' ∨ char = '\x7d' then
      return char :: (← filled? placed unique fuel rest)
    else
      let (letter, behind) :=
        if Token.isDigit char || char == '[' then (none, char :: rest) else (some char, rest)
      let (item, rest) ← meant? placed behind
      return (← spelled? item letter).toList ++ (← filled? placed unique fuel rest)
  | fuel + 1, '\x7b' :: rest => do
    let (inner, rest) := firstChoice rest
    filled? placed unique fuel (inner ++ rest)
  | fuel + 1, char :: rest => do return char :: (← filled? placed unique fuel rest)

/-! ### The statement -/

/-- What is known of an operand that commands write. -/
structure Result where
  asked : Asked
  spot : Spot
  /-- Where its address is kept. -/
  addressAt : Nat
  kind : Option Kind

/-- The place at a kept address. -/
def Result.target (result : Result) : Operand :=
  match result.asked.operand with
  | .place type _ bits isSpare => .place type (.load .address (.place result.addressAt)) bits isSpare
  | other => other

/-- Puts a value into its place. -/
def fillSpot (block : Block) (spot : Spot) (kind : Kind) (value : Term) : List Instruction :=
  match spot with
  | .register number => Term.effect (.store (match kind with
      | .real size => .real size
      | _ => .word 8 false) (block.addressOf ⟨number, 8, false⟩) value)
  | .wide number => Term.effect (.store (match kind with
      | .real size => .real size
      | _ => .word 8 false) (block.wideAt number) value)
  | _ => []

/-- The number of a value in its place. -/
def spotValue (block : Block) (spot : Spot) (kind : Kind) : Option Term :=
  match spot with
  | .register number => some (.load kind (block.addressOf ⟨number, kind.size, false⟩))
  | .wide number => some (.load kind (block.wideAt number))
  | _ => none

/-- Reads what commands write. -/
def resultFor (asked : Asked) (taken : Taken) : Parse (Result × Taken) := do
  let isBoth := asked.constraint.head? == some '+'
  require (isBoth || asked.constraint.head? == some '=')
  match asked.operand with
  | .place type _ _ isSpare => do
    require (!isSpare && !type.isConst)
    let addressAt ← place 8 8
    let kind := type.bare.kind?
    let letters := lettersOf asked.constraint
    match letters with
    | '@' :: 'c' :: 'c' :: name => do
      require (kind.isSome && !isBoth)
      return ({ asked, spot := .condition (String.ofList name), addressAt, kind }, taken)
    | letters => do
      let (spot, taken) ← spotFor letters kind taken true
      return ({ asked, spot, addressAt, kind }, taken)
  | _ => failure

/-- The instructions that put an operand into its place, and the place. -/
def inputFor (block : Block) (results : List Result) (asked : Asked) (taken : Taken) :
    Parse (Placed × List Instruction × Taken) := do
  let letters := lettersOf asked.constraint
  require !(asked.constraint.head? == some '=' || asked.constraint.head? == some '+')
  let digits := letters.filter Token.isDigit
  let named : Option Nat := match asked.constraint with
    | '[' :: rest =>
      results.findIdx? fun result => result.asked.name == some (String.ofList rest.dropLast)
    | _ => if digits.isEmpty then none else Numeral.digits? 10 100 0 digits
  match named with
  | some number => do
    let result ← orFail results[number]?
    let (type, term) ← valueOf asked.operand
    let kind ← orFail type.kind?
    return ({ name := asked.name, spot := result.spot, size := kind.size },
      fillSpot block result.spot kind term, taken)
  | none => do
    let memoryOnly := letters.all fun letter => ['m', 'o', 'V'].contains letter
    let value? ← (if memoryOnly then pure none else optional (valueOf asked.operand) :
      Parse (Option (CType × Term)))
    let kind := value?.bind fun (type, _) => type.kind?
    let written := do
      let (_, term) ← value?
      writtenTerm? (← kind) letters term
    match written with
    | some text =>
      let size := (kind.map (·.size)).getD 8
      return ({ name := asked.name, spot := .written text, size }, [], taken)
    | none => do
      let address? := match asked.operand with
        | .place _ address none _ => some address
        | _ => none
      let (spot, taken) ← spotFor letters kind taken address?.isSome
      let steps ← (do
        match spot, address? with
        | .memory number, some address => pure (block.setWhole number address).effect
        | _, _ => do
          let (_, term) ← orFail value?
          pure (fillSpot block spot (← orFail kind) term) : Parse (List Instruction))
      let size ← (do
        match kind with
        | some kind => pure kind.size
        | none => sizeOf asked.operand.type : Parse Nat)
      return ({ name := asked.name, spot, size }, steps, taken)

/-- Places for several operands. -/
def allResults : List Asked → Taken → Parse (List Result × Taken)
  | [], taken => return ([], taken)
  | first :: rest, taken => do
    let (result, taken) ← resultFor first taken
    let (results, taken) ← allResults rest taken
    return (result :: results, taken)

/-- Places for several operands that commands only read. -/
def allGiven (block : Block) (results : List Result) :
    List Asked → Taken → Parse (List Placed × List Instruction)
  | [], _ => return ([], [])
  | first :: rest, taken => do
    let (placed, steps, taken) ← inputFor block results first taken
    let (others, more) ← allGiven block results rest taken
    return (placed :: others, steps ++ more)

/-- The instructions in front of the commands that a result needs. -/
def resultFront (block : Block) (result : Result) : Parse (List Instruction) := do
  match result.asked.operand with
  | .place _ address _ _ => do
    let keep := Term.effect (.store .address (.place result.addressAt) address)
    match result.spot with
    | .memory number =>
      return keep ++ (block.setWhole number (.load .address (.place result.addressAt))).effect
    | spot =>
      if result.asked.constraint.head? == some '+' then
        let (type, term) ← valueOf result.target
        return keep ++ fillSpot block spot (← orFail type.kind?) term
      else return keep
  | _ => failure

/-- The instructions behind the commands that a result needs. -/
def resultBack (context : Assembly.Context) (result : Result) : Parse (List Instruction) := do
  match result.spot, result.kind with
  | .condition name, some kind => do
    let (_, term) ← orFail (context.condition? name)
    return (← writeTo result.target (.convert (.word 1 false) kind term) false).effect
  | spot, some kind =>
    match spotValue context.block spot kind with
    | some term => return (← writeTo result.target term false).effect
    | none => return []
  | _, none => return []

/-- The octets of the stack that commands have for themselves. -/
def machineStack : Nat := 4096

/-- The numbers of the labels in statements. -/
def labelNumbers : List Statement → Parse (List (String × Nat))
  | [] => return []
  | .label name :: rest => do
    let number ← fresh
    let others ← labelNumbers rest
    require (others.lookup name).isNone
    return (name, number) :: others
  | _ :: rest => labelNumbers rest

/-- The instructions of a text of commands. -/
def commandsOf (block : Block) (text : List Char) (labels : List (String × Nat))
    (last : List Flag) : Parse (List Instruction) := do
  let statements ← orFail (Statement.list? { areas := [".text"] } text)
  let plain := Assembly.Listing.joined (statements.filter fun statement => !(statement matches .align _))
  let own ← labelNumbers plain
  let known := own ++ labels
  let first := (← get).next
  modify fun reading =>
    { reading with next := first + Assembly.Listing.ownLabels * (plain.length + 1) }
  orFail (Assembly.Listing.instructions? block Term.address
    (fun name => known.lookup name) first last plain)

/-- Reads the words in front of the brackets; says whether labels follow. -/
def machineWords : Nat → Parse Bool
  | 0 => failure
  | fuel + 1 => do
    match ← peek with
    | .name "volatile" | .name "__volatile__" | .name "__volatile" | .name "inline" => do
      skip 1
      machineWords fuel
    | .name "goto" => do
      skip 1
      discard (machineWords fuel)
      return true
    | _ => return false

/-- Registers that commands change without saying so by operands. -/
def spoiled (text : String) : Option Taken :=
  let chars := text.toList
  let name := String.ofList (if chars.head? = some '%' then chars.drop 1 else chars)
  if ["memory", "cc", "flags", "fpsr", "dirflag", "redzone", "st"].contains name then some {}
  else
    match Register.find? name, Register.wide? name with
    | some register, _ => some { words := [register.number] }
    | none, some number => some { wides := [number] }
    | none, none => if "st(".toList.isPrefixOf name.toList then some {} else none

/-- Reads commands, behind the word for them. -/
def machineHere (g : Grammar) : Parse (List Instruction) := do
  let hasLabels ← machineWords 4
  let inner ← enclosed
  mark ";"
  let parts := splitAt (.mark ":") (apartColons 0 inner)
  let text ← orFail (wholeText? (parts.headD []))
  let block : Block := { start := ← place Block.size 16 }
  let stack ← place machineStack 16
  let front := (block.setWhole Assembly.stackEnd (.place (stack + machineStack))).effect
  if parts.length = 1 then return front ++ (← commandsOf block text.toList [] [])
  else
    require (parts.length ≤ (if hasLabels then 5 else 4))
    let outputs ← askedIn g (parts.getD 1 [])
    let inputs ← askedIn g (parts.getD 2 [])
    let spoils ← (do
      match parts.getD 3 [] with
      | [] => pure []
      | tokens => (splitAt (.mark ",") tokens).mapM fun item => do
        orFail (spoiled (← orFail (wholeText? item))) : Parse (List Taken))
    let lost := spoils.flatMap (·.words)
    let fixed := fixedRegisters outputs ++ fixedRegisters inputs
    require !(fixed.any lost.contains)
    let avoided := Assembly.stackEnd :: lost ++ mentioned text ++ fixed
    let free : Taken := { words := avoided, named := lost, wides := spoils.flatMap (·.wides) }
    let (results, taken) ← allResults outputs free
    let (given, givenSteps) ← allGiven block results inputs
      { taken with named := lost }
    let resultSteps ← results.mapM (resultFront block)
    let labels ← (do
      match parts.getD 4 [] with
      | [] => pure []
      | tokens => (splitAt (.mark ",") tokens).mapM fun item =>
        match item with
        | [.name name] => do pure (name, ← labelFor name)
        | _ => failure : Parse (List (String × Nat)))
    let placedLabels := labels.map fun (name, number) =>
      ({ name := some name, spot := .label number, size := 8 } : Placed)
    let placedResults := results.map fun result =>
      ({ name := result.asked.name, spot := result.spot
         size := (result.kind.map (·.size)).getD 8 } : Placed)
    let filledText ← orFail (filled? (placedResults ++ given ++ placedLabels) (← fresh)
      (2 * text.length + 2) text.toList)
    let context : Assembly.Context :=
      { block, addressOf := Term.address, label? := fun _ => none, own := 0 }
    let last := results.flatMap fun result =>
      match result.spot with
      | .condition name => ((context.condition? name).map (·.1)).getD []
      | _ => []
    let labelNames := labels.map fun (_, number) => (".Lc" ++ toString number, number)
    let body ← commandsOf block filledText labelNames last
    let back ← results.mapM (resultBack context)
    return front ++ resultSteps.flatten ++ givenSteps ++ body ++ back.flatten

end Parse

end KernelCache.C
