import KernelCache.Code.Value

/-
**Instructions and pieces of programs.**

Instructions work on a stack of values and on memory. A routine is a run of instructions with room
for its variables; a piece is what one source becomes: routines, variables and constants under
symbols.
-/

namespace KernelCache.Code

/-- An instruction. The top of the stack of values is what was pushed last. -/
inductive Instruction where
  | word (bits : Nat)
  | real (number : Float)
  /-- Pushes the address of a variable of the running routine. -/
  | place (offset : Nat)
  /-- Pushes what a variable of the running routine holds. -/
  | fetch (offset : Nat) (kind : Kind)
  /-- Pushes the address of a symbol. -/
  | address (symbol : String)
  /-- Pushes the address of a routine that is only called. -/
  | callee (symbol : String)
  /-- Puts what is at an address in the place of the address. -/
  | load (kind : Kind)
  /-- Writes the value on top to the address below it; the value stays. -/
  | store (kind : Kind)
  /-- Reads some bits of the word at an address. -/
  | loadBits (kind : Kind) (first width : Nat)
  /-- Writes some bits of the word at an address. -/
  | storeBits (kind : Kind) (first width : Nat)
  /-- Moves octets from the address on top to the one below it, which stays. -/
  | copy (size : Nat)
  /-- Moves octets, whose number is on top, to the lower one of the two addresses, which stays. -/
  | move
  /-- Writes zeros to the address on top, which stays. -/
  | clear (size : Nat)
  | convert (source target : Kind)
  | unary (operator : Unary) (kind : Kind)
  | binary (operator : Binary) (kind : Kind)
  | drop
  | twice
  /-- Changes the places of the two values on top. -/
  | exchange
  /-- Goes on so many instructions further. -/
  | skip (distance : Int)
  /-- Takes a value, and goes on further when it has the given truth. -/
  | skipIf (truth : Bool) (distance : Int)
  | label (number : Nat)
  | goto (number : Nat)
  /-- Pushes the address of a label. -/
  | labelAddress (number : Nat)
  /-- Goes on at the label whose address is on top. -/
  | gotoAddress
  /-- Calls the routine whose address is below so many arguments, the first of which is on top. -/
  | call (count : Nat)
  /-- Ends the routine; the value on top is the answer. -/
  | answer
  /-- Takes so much room on the stack of the running routine as the value on top says. -/
  | reserve
  /-- Makes the routine whose address is below use the variables that are at the address on top. -/
  | close
  /-- Throws the object whose type is on top and whose address is below. -/
  | throw
  /-- Pushes the address of the object that was caught last. -/
  | caught
  /-- Pushes the type of the object that was caught last. -/
  | caughtType
  deriving Repr

/-- Instructions whose exceptions go on at a label. -/
structure Region where
  /-- The labels around the instructions. -/
  first : Nat
  last : Nat
  handler : Nat
  deriving Repr

/-- Who can use a symbol. -/
inductive Linkage where
  /-- Its own piece only. -/
  | inner
  /-- All pieces; no other may define it in this way. -/
  | outer
  /-- All pieces, unless another one defines it. -/
  | weak
  /-- All pieces that define it in this way have it together. -/
  | shared
  deriving DecidableEq, Repr

/-- A routine. -/
structure Routine where
  symbol : String
  linkage : Linkage
  /-- Whether others see it at run time. -/
  visible : Bool := true
  /-- The octets of its variables. -/
  room : Nat
  /-- Where its arguments go. -/
  parameters : List (Kind × Nat)
  /-- Where the address of further arguments goes. -/
  furtherAt : Option Nat := none
  /-- Where the variables of the routine around it are. -/
  outsideAt : Option Nat := none
  instructions : List Instruction
  regions : List Region := []
  /-- How its answer is kept, when it has one. -/
  answerKind : Option Kind := none
  deriving Repr

/-- A routine without arguments that others do not see. -/
def Routine.inner (symbol : String) (room : Nat) (instructions : List Instruction) : Routine :=
  { symbol, linkage := .inner, visible := false, room, parameters := []
    instructions := instructions ++ [.word 0, .answer] }

/-- A variable or a constant that outlives calls. -/
structure Object where
  symbol : String
  linkage : Linkage
  visible : Bool := true
  size : Nat
  alignment : Nat
  isConstant : Bool := false
  deriving Repr

/-- What one source becomes. -/
structure Piece where
  routines : List Routine := []
  objects : List Object := []
  /-- Texts, each with its symbol and its alignment. -/
  texts : List (String × Nat × List UInt8) := []
  /-- Second symbols: the symbol, what it stands for, and who can use it. -/
  aliases : List (String × String × Linkage) := []
  /-- Symbols that may be missing. -/
  optional : List String := []
  /-- Routines that give variables and constants their first values. -/
  presets : List String := []
  /-- Routines that run when the program is loaded, with their order. -/
  starters : List (Nat × String) := []
  /-- Routines that run when the program ends. -/
  finishers : List String := []
  /-- Whether it only works at an address that is known when it is linked. -/
  isFixed : Bool := false
  /-- Whether it only works when others cannot take the places of its symbols. -/
  isNear : Bool := false
  deriving Repr

/-- Two pieces as one. -/
def Piece.and (first second : Piece) : Piece :=
  { routines := first.routines ++ second.routines
    objects := first.objects ++ second.objects
    texts := first.texts ++ second.texts
    aliases := first.aliases ++ second.aliases
    optional := first.optional ++ second.optional
    presets := first.presets ++ second.presets
    starters := first.starters ++ second.starters
    finishers := first.finishers ++ second.finishers
    isFixed := first.isFixed || second.isFixed
    isNear := first.isNear || second.isNear }

end KernelCache.Code

/-! ## Terms

A term is an expression whose operands and conversions are settled. Its instructions push exactly
one value.

* `Term.instructions` are the instructions of a term.
* `Term.constant?` is the value of a term that needs neither memory nor calls.
-/

namespace KernelCache.Code

/-- An expression. -/
inductive Term where
  | word (bits : Nat)
  | real (number : Float)
  | place (offset : Nat)
  | address (symbol : String)
  | load (kind : Kind) (address : Term)
  /-- An address at which a value is that never changes. -/
  | known (address : Term) (value : Value)
  | store (kind : Kind) (address value : Term)
  /-- The same, with the value worked out first. -/
  | storeLate (kind : Kind) (address value : Term)
  | loadBits (kind : Kind) (first width : Nat) (address : Term)
  | storeBits (kind : Kind) (first width : Nat) (address value : Term)
  /-- Moves octets; the value is the target. -/
  | copy (size : Nat) (target source : Term)
  | move (target source size : Term)
  | clear (size : Nat) (target : Term)
  | convert (source target : Kind) (operand : Term)
  | unary (operator : Unary) (kind : Kind) (operand : Term)
  | binary (operator : Binary) (kind : Kind) (left right : Term)
  /-- The truth of both; the second one only when the first one holds. -/
  | both (left right : Term)
  | either (left right : Term)
  | conditional (condition yes no : Term)
  | sequence (first second : Term)
  /-- A value, behind which instructions that leave it alone. -/
  | followed (value : Term) (rest : List Instruction)
  /-- Instructions that push nothing, and then a value. -/
  | after (front : List Instruction) (value : Term)
  | call (routine : Term) (arguments : List Term)
  | reserve (size : Term)
  /-- The address of a routine that uses the variables at an address. -/
  | close (symbol : String) (frame : Term)
  | labelAddress (number : Nat)
  | caught
  | caughtType
  deriving Repr, Inhabited

namespace Term

/-- A value that nobody looks at. -/
def nothing : Term := word 0

/-- The instruction that pushes what is at an address. -/
def loading (kind : Kind) : List Instruction → List Instruction
  | [.place offset] => [.fetch offset kind]
  | front => front ++ [.load kind]

/-- The instruction that pushes a value. -/
def pushing : Value → Instruction
  | .word bits => .word bits
  | .real number => .real number

/-- The instruction that pushes the address of what is called. -/
def calling : List Instruction → List Instruction
  | [.address symbol] => [.callee symbol]
  | front => front

mutual

/-- The instructions of a term. -/
def instructions : Term → List Instruction
  | word bits => [.word bits]
  | real number => [.real number]
  | place offset => [.place offset]
  | address symbol => [.address symbol]
  | load _ (known _ value) => [pushing value]
  | load kind source => loading kind source.instructions
  | known source _ => source.instructions
  | store kind target value => target.instructions ++ value.instructions ++ [.store kind]
  | storeLate kind target value =>
    value.instructions ++ target.instructions ++ [.exchange, .store kind]
  | loadBits kind first width source => source.instructions ++ [.loadBits kind first width]
  | storeBits kind first width target value =>
    target.instructions ++ value.instructions ++ [.storeBits kind first width]
  | copy size target source => target.instructions ++ source.instructions ++ [.copy size]
  | move target source size =>
    target.instructions ++ source.instructions ++ size.instructions ++ [.move]
  | clear size target => target.instructions ++ [.clear size]
  | convert source target operand => operand.instructions ++ [.convert source target]
  | unary operator kind operand => operand.instructions ++ [.unary operator kind]
  | binary operator kind left right =>
    left.instructions ++ right.instructions ++ [.binary operator kind]
  | both left right =>
    let second := right.instructions
    left.instructions ++ .skipIf false (second.length + 3) :: second
      ++ [.skipIf false 2, .word 1, .skip 1, .word 0]
  | either left right =>
    let second := right.instructions
    left.instructions ++ .skipIf true (second.length + 3) :: second
      ++ [.skipIf true 2, .word 0, .skip 1, .word 1]
  | conditional condition yes no =>
    let first := yes.instructions
    let second := no.instructions
    condition.instructions ++ .skipIf false (first.length + 1) :: first
      ++ .skip second.length :: second
  | sequence first second => first.instructions ++ .drop :: second.instructions
  | followed value rest => value.instructions ++ rest
  | after front value => front ++ value.instructions
  | call routine arguments =>
    calling routine.instructions ++ instructionsOfAll arguments ++ [.call arguments.length]
  | reserve size => size.instructions ++ [.reserve]
  | close symbol frame => .address symbol :: frame.instructions ++ [.close]
  | labelAddress number => [.labelAddress number]
  | caught => [.caught]
  | caughtType => [.caughtType]

/-- The instructions of arguments; the last one is worked out first. -/
def instructionsOfAll : List Term → List Instruction
  | [] => []
  | first :: rest => instructionsOfAll rest ++ first.instructions

end

/-- The instructions that work out a term for what it does. -/
def effect (term : Term) : List Instruction :=
  match term with
  | word _ | real _ | place _ | address _ => []
  | other => other.instructions ++ [.drop]

/-- The value of a term that needs neither memory nor calls. -/
def constant? : Term → Option Value
  | word bits => some (.word bits)
  | real number => some (.real number)
  | load _ (.known _ value) => some value
  | convert source target operand => do
    return (← operand.constant?).convert source target
  | unary operator kind operand => do
    return (← operand.constant?).apply operator kind
  | binary operator kind left right => do
    Value.combine? operator kind (← left.constant?) (← right.constant?)
  | both left right => do
    if (← left.constant?).isTrue then return .ofBool (← right.constant?).isTrue
    else return .ofBool false
  | either left right => do
    if (← left.constant?).isTrue then return .ofBool true
    else return .ofBool (← right.constant?).isTrue
  | conditional condition yes no => do
    if (← condition.constant?).isTrue then yes.constant? else no.constant?
  | _ => none

/-- The term of a value. -/
def ofValue : Value → Term
  | .word bits => word bits
  | .real number => real number

/-- A term, or the value that it has anyhow. -/
def simplified (term : Term) : Term :=
  match term.constant? with
  | some value => ofValue value
  | none => term

/-- The sum of an address and a distance in octets. -/
def shifted (start : Term) (distance : Nat) : Term :=
  if distance = 0 then start
  else
    match start with
    | place offset => place (offset + distance)
    | binary .add (.word 8 false) inner (word more) =>
      binary .add (.word 8 false) inner (word ((more + distance) % range 8))
    | other => binary .add .address other (word distance)

end Term

end KernelCache.Code
