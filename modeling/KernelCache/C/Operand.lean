import KernelCache.C.Token
import KernelCache.C.Types
import KernelCache.Code.Term
import Std.Data.TreeMap

/-
**What names and expressions stand for.**

Tables of records, functions and templates go by tag or number; a scope says what a name stands for
in a part of the source. An operand is an expression that has been read, with its type.
-/

namespace KernelCache.C

open KernelCache.Code (Term Value Kind Instruction Linkage)

/-! ### Records -/

/-- Who may use a member. -/
inductive Access where
  | everyone
  | heirs
  | nobody
  deriving DecidableEq, Repr

/-- A member of a record that takes room. -/
structure Field where
  /-- Empty when there is none. -/
  name : String
  type : CType
  offset : Nat
  /-- The first bit and the number of bits, for a member of some bits. -/
  bits : Option (Nat × Nat) := none
  access : Access := .everyone
  isMutable : Bool := false
  /-- The tokens of its first value, when the record says one. -/
  initial : Option (List Token) := none

/-- A record that another one continues. -/
structure Base where
  tag : String
  offset : Nat
  access : Access
  /-- Whether the object has it once, however often it is inherited. -/
  isShared : Bool := false

/-- A routine that is found at run time. -/
structure Overridable where
  /-- What says whether another one replaces it. -/
  key : String
  function : Nat

/-- Numbers of one type behind each other that are used as one value. -/
structure Lanes where
  base : Arithmetic
  count : Nat
  /-- Whether they are the two parts of a complex number. -/
  isComplex : Bool
  deriving DecidableEq, Repr

/-- A structure, a union or a class. -/
structure Record where
  tag : String
  /-- The name in the source, without those of what is around it. -/
  name : String
  /-- The name in the source, behind those of the spaces and classes around it. -/
  path : List String
  isUnion : Bool
  /-- Whether members are for nobody else unless the source says otherwise. -/
  isClass : Bool := false
  isComplete : Bool := false
  size : Nat := 0
  alignment : Nat := 1
  /-- The octets that are in use. -/
  used : Nat := 0
  fields : List Field := []
  bases : List Base := []
  scope : Nat
  /-- Whether objects know their own type. -/
  hasTable : Bool := false
  overridables : List Overridable := []
  /-- The function that ends objects, when there is anything to do. -/
  destructor : Option Nat := none
  /-- Whether the source declares a function that makes objects. -/
  isMade : Bool := false
  /-- Whether values are listed between braces, member by member. -/
  isAggregate : Bool := true
  isFinal : Bool := false
  /-- Classes and functions that may use all members. -/
  friends : List String := []
  /-- The template and its arguments. -/
  origin : Option (Nat × List CType) := none
  /-- Whether the object of a function without a name of its own. -/
  isClosure : Bool := false
  /-- Whether its functions are read only when they are needed. -/
  isLazy : Bool := false
  /-- The numbers that it consists of, when it is a value as a whole. -/
  lanes : Option Lanes := none

/-! ### Functions -/

/-- What a function is for the class it belongs to. -/
inductive Role where
  | ordinary
  | constructor
  | destructor
  | conversion
  deriving DecidableEq, Repr

/-- What a function does that nobody wrote. -/
inductive Default where
  | create
  | copy
  | move
  | copyAssign
  | moveAssign
  | destroy
  | compareEqual
  deriving DecidableEq, Repr

/-- A parameter of a function. -/
structure Parameter where
  type : CType
  name : String
  /-- The tokens of the value that goes without saying. -/
  initial : Option (List Token) := none
  /-- Whether it stands for any number of parameters. -/
  isPack : Bool := false

/-- Where the body of a function is. -/
inductive Body where
  /-- In another place, if anywhere. -/
  | elsewhere
  /-- Tokens that have still to be read, and those in front of the body that start members. -/
  | tokens (starts : List Token) (body : List Token)
  /-- Tokens that are read when the function is needed. -/
  | onDemand (starts : List Token) (body : List Token)
  | default (kind : Default)
  | deleted
  | done

/-- A function. -/
structure Function where
  number : Nat
  name : String
  symbol : String
  result : CType
  parameters : List Parameter
  manner : Manner := {}
  /-- The tag of the class it belongs to. -/
  owner : Option String := none
  role : Role := .ordinary
  /-- Whether it is called on an object. -/
  isMember : Bool := false
  isVirtual : Bool := false
  isPure : Bool := false
  isExplicit : Bool := false
  isConstexpr : Bool := false
  isFinal : Bool := false
  access : Access := .everyone
  linkage : Linkage := .outer
  visible : Option Bool := none
  isInline : Bool := false
  /-- Whether a declaration asks for a definition that others see, even if another one asks for a
  copy in the place of calls. -/
  isKept : Bool := false
  /-- Whether it does not come back. -/
  endsRun : Bool := false
  /-- Which objects it is called on: those of a name, or those that nobody else needs. -/
  onValue : Option Bool := none
  /-- The scope that its body is read in. -/
  scope : Nat
  body : Body := .elsewhere
  /-- The template and its arguments. -/
  origin : Option (Nat × List CType) := none
  /-- The number of the function around it, whose variables it uses. -/
  outside : Option Nat := none
  isUsed : Bool := false
  isDeclaredHere : Bool := true
  /-- The order in which it runs at the start, or at the end. -/
  atStart : Option Nat := none
  atEnd : Bool := false
  isOptional : Bool := false
  nothrow : Bool := false
  /-- Whether it does no more than copy octets, or nothing. -/
  isTrivial : Bool := false
  /-- The names of parameters that stand for any number of them. -/
  packs : List String := []
  /-- The sizes of arrays that parameters tell. -/
  measures : List (Nat × List Token) := []

/-! ### Templates -/

/-- What a parameter of a template takes. -/
inductive Slot where
  | type
  | value (type : List Token)
  | template
  deriving Repr

/-- A parameter of a template. -/
structure TemplateParameter where
  name : String
  slot : Slot
  isPack : Bool
  initial : Option (List Token)
  /-- A condition on the argument. -/
  condition : Option (List Token) := none

/-- What a template makes. -/
inductive Product where
  | function
  | record
  | object
  | synonym
  | condition
  deriving DecidableEq, Repr

/-- A template: tokens that are read again for every use. -/
structure Template where
  number : Nat
  name : String
  product : Product
  parameters : List TemplateParameter
  tokens : List Token
  /-- The types of the parameters of a function, as far as they are known. -/
  shape : List CType := []
  /-- The type of the result of a function, as far as it is known. -/
  result : CType := .unknown
  /-- The scope that the tokens are read in. -/
  scope : Nat
  /-- The class it belongs to. -/
  owner : Option String := none
  access : Access := .everyone
  /-- The arguments that the template is for, when it is not for all. -/
  pattern : Option (List CType) := none
  /-- Templates for some arguments only. -/
  special : List Nat := []
  /-- The tokens of a condition. -/
  condition : Option (List Token) := none
  /-- Functions of the class that are defined outside it: their tokens. -/
  outer : List (List TemplateParameter × List Token) := []
  /-- Uses with their arguments: the types or the numbers of the functions. -/
  uses : List (List CType × Nat × CType) := []
  /-- Functions that tell the arguments of a class from operands, once somebody asked. -/
  guides : List Nat := []
  isGuided : Bool := false

/-! ### Scopes -/

/-- Where a variable is. -/
inductive Home where
  /-- A place among the variables of the function with a number. -/
  | frame (function : Nat) (offset : Nat)
  | symbol (symbol : String)
  deriving Repr

/-- Whether a home is a place in a function. -/
def Home.isAt (home : Home) (function : Nat) (place : Option Nat) : Bool :=
  match home with
  | frame number offset => number == function && place == some offset
  | symbol _ => false

/-- A variable. -/
structure Variable where
  number : Nat
  name : String
  type : CType
  home : Home
  /-- The value, when it is known for good. -/
  value : Option Value := none
  access : Access := .everyone
  owner : Option String := none
  isConstexpr : Bool := false
  /-- Whether its place holds the address of the object. -/
  isRemote : Bool := false

/-- What a name stands for. -/
inductive Entity where
  | type (type : CType) (access : Access)
  | object (found : Variable)
  | constant (type : CType) (value : Value) (access : Access)
  /-- Functions and templates of functions. -/
  | functions (numbers templates : List Nat)
  | space (scope : Nat)
  | template (number : Nat)
  /-- A member of a record that takes room. -/
  | field
  /-- Variables in the place of one. -/
  | pack (found : List Variable)

/-- What a scope belongs to. -/
inductive Holder where
  | block
  | space (name : String)
  | record (tag : String)
  /-- The arguments of a template. -/
  | template
  deriving Repr

/-- Names in a part of the source. -/
structure Scope where
  parent : Option Nat
  holder : Holder
  names : Std.TreeMap String Entity := {}
  /-- Types by their tags. -/
  tags : Std.TreeMap String CType := {}
  /-- Other scopes whose names count here. -/
  used : List Nat := []

/-! ### Operands -/

/-- A place inside an object, in a first value. -/
inductive Designator where
  | member (name : String)
  | items (first last : Nat)
  deriving Repr

/-- An expression that has been read. -/
inductive Operand where
  /-- One number. -/
  | value (type : CType) (term : Term)
  /-- An object; `bits` when it is some bits of a word, `isSpare` when nobody else needs it. -/
  | place (type : CType) (address : Term) (bits : Option (Nat × Nat)) (isSpare : Bool)
  /-- A new object of a record, made at an address. -/
  | fresh (type : CType) (make : Term → Term)
  /-- Functions of one name, and the object that one is called on. -/
  | functions (numbers templates : List Nat) (given : List CType) (object : Option (CType × Term × Bool))
    (isDirect : Bool)
  /-- First values between braces. -/
  | braces (items : List (List Designator × Operand))
  /-- A call through a pointer to a member. -/
  | bound (object : Term) (type : CType) (pointer : Term)

namespace Operand

/-- An integer. -/
def int (number : Int) : Operand := .value CType.int (.word (Value.bitsOf 4 number))

/-- No value. -/
def nothing : Operand := .value .void .nothing

/-- The type of an operand. -/
def type : Operand → CType
  | value type _ | place type _ _ _ | fresh type _ => type
  | functions _ _ _ _ _ | braces _ | bound _ _ _ => .unknown

/-- Whether it is an object with a name or an address. -/
def isPlace : Operand → Bool
  | place _ _ _ isSpare => !isSpare
  | _ => false

/-- Whether it is the number zero written as a constant. -/
def isZero : Operand → Bool
  | value type term => type.isInteger && term.constant?.any fun found => !found.isTrue
  | _ => false

/-- Whether it is a null pointer. -/
def isNull : Operand → Bool
  | value .null _ => true
  | other => other.isZero

end Operand

end KernelCache.C
