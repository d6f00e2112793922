import KernelCache.Code.Value

/-
**The types of C.**

A structure, a union or an enumeration is named in a type; tables tell what it consists of. In the
declaration of a template a type can have parts that a use of the template fills in.
-/

namespace KernelCache.C

/-- A type of numbers. -/
inductive Arithmetic where
  | bool
  | char
  | signedChar
  | unsignedChar
  | short
  | unsignedShort
  | int
  | unsignedInt
  | long
  | unsignedLong
  | longLong
  | unsignedLongLong
  | wide
  | unsignedWide
  | wcharType
  | char8
  | char16
  | char32
  | float
  | double
  | longDouble
  deriving DecidableEq, Repr

namespace Arithmetic

/-- How a number of a type is kept. -/
def kind : Arithmetic → Code.Kind
  | bool => .truth
  | char | signedChar => .word 1 true
  | unsignedChar | char8 => .word 1 false
  | short => .word 2 true
  | unsignedShort | char16 => .word 2 false
  | int | wcharType => .word 4 true
  | unsignedInt | char32 => .word 4 false
  | long | longLong => .word 8 true
  | unsignedLong | unsignedLongLong => .word 8 false
  | wide => .word 16 true
  | unsignedWide => .word 16 false
  | float => .real 4
  | double => .real 8
  | longDouble => .real 16

/-- Whether numbers of a type have a fraction. -/
def isReal : Arithmetic → Bool
  | float | double | longDouble => true
  | _ => false

/-- Whether a type has negative numbers. -/
def isSigned (type : Arithmetic) : Bool :=
  match type.kind with
  | .word _ signed => signed
  | .real _ => true
  | .truth => false

/-- How far up a type stands among those of integers. -/
def rank : Arithmetic → Nat
  | bool => 0
  | char | signedChar | unsignedChar | char8 => 1
  | short | unsignedShort | char16 => 2
  | int | unsignedInt | wcharType | char32 => 3
  | long | unsignedLong => 4
  | longLong | unsignedLongLong => 5
  | wide | unsignedWide => 6
  | float => 7
  | double => 8
  | longDouble => 9

/-- The smallest type that arithmetic is done in. -/
def promoted (type : Arithmetic) : Arithmetic :=
  match type with
  | wcharType => int
  | char32 => unsignedInt
  | other => if other.rank < 3 then int else other

/-- The type without negative numbers that is as large. -/
def unsigned : Arithmetic → Arithmetic
  | char | signedChar => unsignedChar
  | short => unsignedShort
  | int => unsignedInt
  | long => unsignedLong
  | longLong => unsignedLongLong
  | wide => unsignedWide
  | other => other

/-- The type that numbers of two types are combined in. -/
def common (left right : Arithmetic) : Arithmetic :=
  if left.isReal || right.isReal then if left.rank < right.rank then right else left
  else
    let left := left.promoted
    let right := right.promoted
    if left = right then left
    else if left.isSigned == right.isSigned then if left.rank < right.rank then right else left
    else
      let (signed, other) := if left.isSigned then (left, right) else (right, left)
      if signed.rank ≤ other.rank then other
      else if other.kind.size < signed.kind.size then signed
      else signed.unsigned

end Arithmetic

/-- What the type of a function says besides its parameters. -/
structure Manner where
  /-- Whether further arguments may follow. -/
  isOpen : Bool := false
  /-- Whether nothing is known about the parameters. -/
  isLoose : Bool := false
  /-- Whether it leaves the object that it is called on as it is. -/
  isConst : Bool := false
  deriving DecidableEq, Repr

/-- A type. -/
inductive CType where
  | void
  | arithmetic (type : Arithmetic)
  /-- The type of the null pointer constant. -/
  | null
  | pointer (target : CType)
  /-- A reference; `toValue` when it is one to a value that nobody else needs. -/
  | reference (toValue : Bool) (target : CType)
  | array (count : Option Nat) (item : CType)
  /-- An array whose size in octets is kept in a variable. -/
  | measured (offset : Nat) (item : CType)
  | function (result : CType) (parameters : List CType) (manner : Manner)
  /-- A structure, a union or a class. -/
  | record (tag : String)
  | enumeration (tag : String) (strict : Bool) (base : Arithmetic)
  | const (type : CType)
  | memberPointer (tag : CType) (target : CType)
  /-- A type that a value will tell. -/
  | deduced
  /-- A type that an expression will tell, with how the expression refers to it. -/
  | exactly
  /-- A parameter of a template. -/
  | parameter (name : String)
  /-- A use of a template with arguments that are not known yet. -/
  | pattern (template : String) (arguments : List CType)
  /-- A number in the place of a type. -/
  | number (value : Int)
  /-- A function in the place of a type, by its number. -/
  | routine (number : Nat)
  /-- A template in the place of a type. -/
  | template (name : String)
  /-- Types in the place of one. -/
  | pack (items : List CType)
  /-- As many types as a parameter stands for. -/
  | expansion (type : CType)
  /-- An array whose size is a parameter of a template. -/
  | arrayOf (count : CType) (item : CType)
  /-- A type about which nothing is known yet. -/
  | unknown
  deriving Repr, Inhabited

namespace CType

mutual

/-- Whether two types are the same. -/
def same : CType → CType → Bool
  | void, void | null, null | deduced, deduced | exactly, exactly
  | unknown, unknown => true
  | arithmetic a, arithmetic b => a == b
  | pointer a, pointer b => same a b
  | reference k a, reference l b => k == l && same a b
  | array m a, array n b => m == n && same a b
  | measured m a, measured n b => m == n && same a b
  | function a ps m, function b qs n => same a b && sameAll ps qs && m == n
  | record a, record b => a == b
  | enumeration a _ _, enumeration b _ _ => a == b
  | const a, const b => same a b
  | memberPointer s a, memberPointer t b => same s t && same a b
  | parameter a, parameter b => a == b
  | pattern s as, pattern t bs => s == t && sameAll as bs
  | number a, number b => a == b
  | routine a, routine b => a == b
  | template a, template b => a == b
  | pack as, pack bs => sameAll as bs
  | expansion a, expansion b => same a b
  | arrayOf m a, arrayOf n b => same m n && same a b
  | _, _ => false

/-- Whether types are the same, one by one. -/
def sameAll : List CType → List CType → Bool
  | [], [] => true
  | a :: as, b :: bs => same a b && sameAll as bs
  | _, _ => false

end

instance : BEq CType := ⟨same⟩

/-- The ordinary integer type. -/
def int : CType := .arithmetic .int

/-- The type of sizes. -/
def sizeType : CType := .arithmetic .unsignedLong

/-- The type of distances. -/
def distanceType : CType := .arithmetic .long

/-- The type of truth values. -/
def bool : CType := .arithmetic .bool

/-- The type of characters. -/
def char : CType := .arithmetic .char

/-- The type without a promise not to change the object. -/
def bare : CType → CType
  | const type => bare type
  | other => other

/-- Whether objects of a type are not to be changed. -/
def isConst : CType → Bool
  | const _ => true
  | array _ item => isConst item
  | measured _ item => isConst item
  | _ => false

/-- The type of objects that are not to be changed. -/
def constant : CType → CType
  | const type => const type
  | array count item => array count (constant item)
  | arrayOf count item => arrayOf count (constant item)
  | reference toValue target => reference toValue target
  | function result parameters manner => function result parameters manner
  | other => const other

/-- The type that is as constant as another one. -/
def asConstAs (type other : CType) : CType := if other.isConst then type.constant else type

/-- What a reference leads to, or the type itself. -/
def referred : CType → CType
  | reference _ target => target
  | const type => const type
  | other => other

/-- Whether it is a reference. -/
def isReference : CType → Bool
  | reference _ _ => true
  | _ => false

/-- The type that a parameter written with a type has. -/
def asParameter : CType → CType
  | array _ item => .pointer item
  | arrayOf _ item => .pointer item
  | measured _ item => .pointer item
  | function result parameters manner => .pointer (.function result parameters manner)
  | other => other

/-- The type of the value of an object of a type. -/
def valued (type : CType) : CType := type.bare.asParameter

/-- Whether it is the type of functions. -/
def isFunction : CType → Bool
  | function _ _ _ => true
  | _ => false

/-- Whether it is the type of arrays. -/
def isArray (type : CType) : Bool :=
  match type.bare with
  | array _ _ | measured _ _ => true
  | _ => false

/-- Whether it is the type of pointers. -/
def isPointer (type : CType) : Bool :=
  match type.bare with
  | pointer _ => true
  | _ => false

/-- What a pointer leads to. -/
def target? (type : CType) : Option CType :=
  match type.bare with
  | pointer target => some target
  | _ => none

/-- The items of an array. -/
def item? (type : CType) : Option CType :=
  match type.bare with
  | array _ item | measured _ item => some (item.asConstAs type)
  | _ => none

/-- Whether it is void. -/
def isVoid (type : CType) : Bool := type.bare == void

/-- The tag of a record. -/
def tag? (type : CType) : Option String :=
  match type.bare with
  | record tag => some tag
  | _ => none

/-- The type of numbers that it is or stands for. -/
def arithmetic? (type : CType) : Option Arithmetic :=
  match type.bare with
  | arithmetic type => some type
  | enumeration _ _ base => some base
  | _ => none

/-- Whether it is a type of integers. -/
def isInteger (type : CType) : Bool := type.arithmetic?.any fun found => !found.isReal

/-- Whether it is an enumeration whose values are no numbers by themselves. -/
def isScoped (type : CType) : Bool :=
  match type.bare with
  | enumeration _ strict _ => strict
  | _ => false

/-- Whether it is an enumeration. -/
def isEnumeration (type : CType) : Bool :=
  match type.bare with
  | enumeration _ _ _ => true
  | _ => false

/-- How a value of a type is kept, when it is one number. -/
def kind? (type : CType) : Option Code.Kind :=
  match type.bare with
  | arithmetic type => some type.kind
  | enumeration _ _ base => some base.kind
  | pointer _ | reference _ _ | null => some .address
  | memberPointer _ (.function _ _ _) => some .address
  | memberPointer _ _ => some (.word 8 true)
  | _ => none

/-- Whether values of a type count as true or false. -/
def isScalar (type : CType) : Bool := type.kind?.isSome && !type.isScoped

mutual

/-- Whether a type has parts that are not known yet. -/
def isOpenType : CType → Bool
  | parameter _ | pattern _ _ | unknown | expansion _ | arrayOf _ _ => true
  | pointer type | reference _ type | array _ type | measured _ type | const type => isOpenType type
  | memberPointer tag type => isOpenType tag || isOpenType type
  | function result parameters _ => isOpenType result || areOpen parameters
  | pack items => areOpen items
  | void | arithmetic _ | null | record _ | enumeration _ _ _ | deduced | exactly | number _
  | routine _ | template _ => false

/-- Whether one of some types has parts that are not known yet. -/
def areOpen : List CType → Bool
  | [] => false
  | first :: rest => isOpenType first || areOpen rest

end

/-- Whether a type has a part that a value will tell. -/
def isDeduced : CType → Bool
  | deduced | exactly => true
  | pointer type | reference _ type | const type | array _ type => isDeduced type
  | function result _ _ => isDeduced result
  | _ => false

/-- The type with another one in the place of what a value tells. -/
def deducedAs (found : CType) : CType → CType
  | deduced | exactly => found
  | pointer type => pointer (deducedAs found type)
  | reference toValue type =>
    match deducedAs found type with
    | reference inner target => reference (toValue && inner) target
    | other => reference toValue other
  | const type => (deducedAs found type).constant
  | array count type => array count (deducedAs found type)
  | function result parameters manner => function (deducedAs found result) parameters manner
  | other => other

/-- A reference to a type; a reference to a reference is one reference. -/
def referenceTo (toValue : Bool) : CType → CType
  | reference inner target => reference (toValue && inner) target
  | other => reference toValue other

end CType

end KernelCache.C

/-! ## Types with parameters, matched against types without

A `Substitution` says what the parameters of a template stand for. `Matching.type?` extends one so
that a type with parameters becomes a given type, and fails when there is no such substitution. A
parameter that stands for any number of types comes last in a list, and takes the rest of it.
-/

namespace KernelCache.C

/-- What the parameters of a template stand for. -/
abbrev Substitution := List (String × CType)

/-- What a type with parameters is matched with. -/
structure Matching where
  /-- The template of a record, and its arguments. -/
  origin? : String → Option (Nat × List CType)
  /-- The parameters that can be filled in. -/
  names : List String
  /-- Those of them that stand for any number of types. -/
  packs : List String := []
  /-- Those of them that the source itself fills in, so that nothing else has to fit. -/
  fixed : List String := []

mutual

/-- The parameters in a type. -/
def CType.parameterNames : CType → List String
  | .parameter name => [name]
  | .pointer type | .reference _ type | .array _ type | .measured _ type | .const type
  | .expansion type => parameterNames type
  | .memberPointer tag type => parameterNames tag ++ parameterNames type
  | .function result parameters _ => parameterNames result ++ namesInAll parameters
  | .pattern text arguments => text :: namesInAll arguments
  | .pack items => namesInAll items
  | .arrayOf count item => parameterNames count ++ parameterNames item
  | .void | .arithmetic _ | .null | .record _ | .enumeration _ _ _ | .deduced | .exactly
  | .number _ | .routine _ | .template _ | .unknown => []

/-- The parameters in several types. -/
def CType.namesInAll : List CType → List String
  | [] => []
  | first :: rest => first.parameterNames ++ namesInAll rest

end

/-- A type without promises; those of an array are promises about its items. -/
def CType.loosened : CType → CType
  | .const type => loosened type
  | .array count item => .array count (loosened item)
  | other => other

namespace Substitution

/-- The types that a parameter for any number of them stands for so far. -/
def items (known : Substitution) (name : String) : List CType :=
  match known.lookup name with
  | some (.pack items) => items
  | _ => []

/-- The substitution without some parameters. -/
def without (known : Substitution) (names : List String) : Substitution :=
  known.filter fun entry => !names.contains entry.1

end Substitution

namespace Matching

/-- Puts a type in the place of a parameter, unless it stands for something else. -/
def fill? (matching : Matching) (name : String) (found : CType) (known : Substitution) :
    Option Substitution :=
  if matching.fixed.contains name then some known
  else
    match known.lookup name with
    | some old => if old == found then some known else none
    | none => some ((name, found) :: known)

/-- The types that follow a parameter for any number of types are taken one by one. -/
def gathered? (matching : Matching) (names : List String)
    (step : CType → Substitution → Option Substitution) (found : List CType) (known : Substitution) :
    Option Substitution := do
  let own := names.filter matching.packs.contains
  let given := (own.map fun name => (known.items name).length).foldl max 0
  let rest ← found.zipIdx.foldlM (fun (state : Substitution × List Substitution) (type, index) => do
    let (common, done) := state
    if index < given then
      let kept := own.filterMap fun name => ((known.items name)[index]?).map fun type => (name, type)
      return (common, kept :: done)
    else
      let next ← step type common
      let taken := own.filterMap fun name => (next.lookup name).map fun type => (name, type)
      return (next.without own, taken :: done)) (known.without own, [])
  let (common, done) := rest
  let packs := own.map fun name => (name, CType.pack (done.reverse.filterMap (·.lookup name)))
  return packs ++ common

mutual

/-- The substitution with which a type with parameters becomes a given one. -/
def type? (matching : Matching) : CType → CType → Substitution → Option Substitution
  | .parameter name, found, known =>
    if matching.names.contains name then matching.fill? name found known
    else if CType.parameter name == found then some known else none
  | .unknown, _, known => some known
  | .pointer wanted, .pointer found, known => type? matching wanted found known
  | .reference k wanted, .reference l found, known =>
    if k == l then type? matching wanted found known else none
  | .array m wanted, .array n found, known =>
    if m == n then type? matching wanted found known else none
  | .arrayOf count wanted, .array (some size) found, known => do
    let known ← type? matching count (.number size) known
    type? matching wanted found known
  | .arrayOf count wanted, .arrayOf size found, known => do
    let known ← type? matching count size known
    type? matching wanted found known
  | .const wanted, .const found, known => type? matching wanted found known
  | .const wanted, .array count item, known =>
    if item.isConst then type? matching wanted (CType.loosened (.array count item)) known else none
  | .memberPointer tag wanted, .memberPointer other found, known => do
    let known ← type? matching tag other known
    type? matching wanted found known
  | .function result wanted m, .function other found n, known =>
    if m.isOpen == n.isOpen && m.isConst == n.isConst then do
      let known ← type? matching result other known
      types? matching wanted found known
    else none
  | .pattern template wanted, .record tag, known =>
    match matching.origin? tag with
    | some (number, found) => do
      let known ← if matching.names.contains template then
          matching.fill? template (.template (toString number)) known
        else if template == toString number then some known else none
      types? matching wanted found known
    | none => none
  | .pattern template wanted, .pattern other found, known => do
    let known ← if matching.names.contains template then
        matching.fill? template (.template other) known
      else if template == other then some known else none
    types? matching wanted found known
  | .pack wanted, .pack found, known => types? matching wanted found known
  | wanted, found, known => if wanted == found then some known else none

/-- The substitution with which types with parameters become given ones. -/
def types? (matching : Matching) : List CType → List CType → Substitution → Option Substitution
  | [], [], known => some known
  | [.expansion wanted], found, known =>
    match found with
    | [.expansion type] => type? matching wanted type known
    | found =>
      matching.gathered? wanted.parameterNames (fun type known => type? matching wanted type known)
        found known
  | wanted :: others, found :: rest, known => do
    let known ← type? matching wanted found known
    types? matching others rest known
  | _, _, _ => none

end

end Matching

end KernelCache.C
