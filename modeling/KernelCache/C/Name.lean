import KernelCache.C.Operator

/-
**Names in expressions, and calls.**

* `Parse.variableOperand` and `Parse.entityOperand` say what a name stands for in an expression.
* `Parse.named` reads a name.
* `Parse.called` calls an operand.
-/

namespace KernelCache.C

open KernelCache.Code (Term Value Kind Instruction Linkage)

namespace Parse

/-! ### The object around a function -/

/-- The object that the function that is being read is called on. -/
def self? : Parse (Option (CType × Term)) := do
  let reading ← get
  let work := reading.work
  match work.capture, work.self with
  | some capture, some (_, _, offset) =>
    return capture.self.map fun field =>
      let place := (Term.load .address (.place offset)).shifted field.offset
      match field.type with
      | .pointer target => (target, .load .address place)
      | type => (type, place)
  | none, some (tag, isConst, offset) =>
    let type := CType.record tag
    return some (if isConst then type.constant else type, .load .address (.place offset))
  | _, none =>
    if reading.isUnevaluated then
      return (classOf? reading searchDepth reading.scope).map fun tag => (.record tag, .nothing)
    else return none

/-! ### Variables -/

/-- A variable as an operand. -/
def variableOperand (found : Variable) : Parse Operand := do
  let reading ← get
  let isKnown := found.value.isSome || found.isConstexpr || found.type.isReference
    || reading.isUnevaluated || found.type.isArray || found.type.tag?.isSome
  require (!(reading.isConstant && reading.options.isPlus) || isKnown)
  modify fun reading => { reading with
    usedVariables := reading.usedVariables.insert found.number () }
  let withValue (address : Term) : Term :=
    match found.value with
    | some value => .known address value
    | none => address
  let object (place : Term) : Operand :=
    if found.isRemote then .place found.type (.load .address place) none false
    else objectAt found.type place
  match found.home with
  | .symbol symbol => return object (withValue (.address symbol))
  | .frame function offset => do
    let reading ← get
    let work := reading.work
    if function = work.function || function = 0 || reading.isUnevaluated then
      return object (withValue (.place offset))
    else
      match work.capture.bind (·.taken.lookup found.number), work.self with
      | some field, some (_, isConst, self) =>
        let address := (Term.load .address (.place self)).shifted field.offset
        match field.type with
        | .reference toValue target => return objectAt (.reference toValue target) address
        | type =>
          return .place (if isConst && !field.isMutable then type.constant else type) address none
            false
      | _, _ =>
        match found.value with
        | some _ => return .place found.type (withValue (.word 0)) none false
        | none => do
          let frame ← orFail (frameOf? function (work :: reading.outer))
          return object (frame.shifted offset)

/-! ### Texts -/

/-- The octets of units of a width. -/
def octetsOfUnits (width : Nat) (units : List Nat) : List UInt8 :=
  units.flatMap (Code.octets width)

/-- A text as an object. -/
def textOperand (item : CType) (width : Nat) (units : List Nat) : Parse Operand := do
  let number ← fresh
  let symbol := ".text" ++ toString number
  let octets := octetsOfUnits width (units ++ [0])
  modify fun reading => { reading with
    texts := reading.texts.insert symbol (units, width)
    piece := { reading.piece with texts := (symbol, width, octets) :: reading.piece.texts } }
  let item := if ← isPlus then item.constant else item
  return .place (.array (some (units.length + 1)) item) (.address symbol) none false

/-- A text of ordinary characters as an object. -/
def plainText (text : String) : Parse Operand :=
  textOperand .char 1 (text.toUTF8.toList.map (·.toNat))

/-! ### Functions of the library -/

/-- Functions on numbers in floating point that sources use without a declaration, by the number of
their arguments. -/
def knownMathematics : List (Nat × List String) :=
  [(1, ["sqrt", "sin", "cos", "tan", "asin", "acos", "atan", "sinh", "cosh", "tanh", "asinh", "acosh",
      "atanh", "exp", "exp2", "exp10", "expm1", "log", "log2", "log10", "log1p", "logb", "cbrt", "fabs",
      "floor", "ceil", "round", "roundeven", "trunc", "rint", "nearbyint"]),
    (2, ["atan2", "pow", "fmod", "hypot", "fmin", "fmax", "fdim", "copysign", "remainder"]),
    (3, ["fma"])]

/-- Functions with one argument in floating point and one of another type, or another result: the
result, the name, and the further arguments. -/
def knownMixtures : List (String × String × String) :=
  [("long", "lround", ""), ("long long", "llround", ""), ("long", "lrint", ""),
    ("long long", "llrint", ""), ("int", "ilogb", ""), ("", "ldexp", ",int"), ("", "scalbn", ",int"),
    ("", "frexp", ",int*"), ("", "modf", ",*")]

/-- The declarations of functions on numbers in floating point of a type. -/
def knownOf (letter type : String) : List String :=
  let plain := knownMathematics.flatMap fun (count, names) => names.map fun name =>
    type ++ " " ++ name ++ letter ++ "(" ++ ",".intercalate (List.replicate count type) ++ ")"
  let mixed := knownMixtures.map fun (result, name, further) =>
    (if result = "" then type else result) ++ " " ++ name ++ letter ++ "(" ++ type
      ++ (if further = ",*" then "," ++ type ++ "*" else further) ++ ")"
  let complex := ["creal", "cimag", "cabs", "carg"].map fun name =>
    type ++ " " ++ name ++ letter ++ "(" ++ type ++ " _Complex)"
  let whole := ["conj", "cproj", "cexp", "clog", "csqrt", "csin", "ccos", "ctan"].map fun name =>
    type ++ " _Complex " ++ name ++ letter ++ "(" ++ type ++ " _Complex)"
  plain ++ mixed ++ complex ++ whole

/-- Functions on one character that sources use without a declaration. -/
def knownOnCharacters : List String :=
  ["alnum", "alpha", "blank", "cntrl", "digit", "graph", "lower", "print", "punct", "space", "upper",
    "xdigit"].map fun name => "int is" ++ name ++ "(int)"

/-- Further functions of the library that sources use without a declaration. -/
def knownOthers : List String :=
  ["int printf(const char*,...)", "int puts(const char*)", "int putchar(int)",
    "int sprintf(char*,const char*,...)", "int snprintf(char*,unsigned long,const char*,...)",
    "int vprintf(const char*,__builtin_va_list)",
    "int vsprintf(char*,const char*,__builtin_va_list)",
    "int vsnprintf(char*,unsigned long,const char*,__builtin_va_list)",
    "int scanf(const char*,...)", "int sscanf(const char*,const char*,...)",
    "void*malloc(unsigned long)", "void*calloc(unsigned long,unsigned long)",
    "void*realloc(void*,unsigned long)", "void free(void*)",
    "void*aligned_alloc(unsigned long,unsigned long)", "void abort(void)", "void exit(int)",
    "void _exit(int)", "void _Exit(int)",
    "int abs(int)", "long labs(long)", "long long llabs(long long)", "long imaxabs(long)",
    "void*memcpy(void*,const void*,unsigned long)", "void*memmove(void*,const void*,unsigned long)",
    "void*mempcpy(void*,const void*,unsigned long)",
    "void*memset(void*,int,unsigned long)",
    "int memcmp(const void*,const void*,unsigned long)",
    "int bcmp(const void*,const void*,unsigned long)",
    "void bcopy(const void*,void*,unsigned long)", "void bzero(void*,unsigned long)",
    "void*memchr(const void*,int,unsigned long)",
    "unsigned long strlen(const char*)", "unsigned long strnlen(const char*,unsigned long)",
    "char*strcpy(char*,const char*)", "char*stpcpy(char*,const char*)",
    "char*strncpy(char*,const char*,unsigned long)", "char*stpncpy(char*,const char*,unsigned long)",
    "char*strcat(char*,const char*)", "char*strncat(char*,const char*,unsigned long)",
    "int strcmp(const char*,const char*)", "int strncmp(const char*,const char*,unsigned long)",
    "int strcasecmp(const char*,const char*)",
    "int strncasecmp(const char*,const char*,unsigned long)",
    "char*strchr(const char*,int)", "char*strrchr(const char*,int)", "char*index(const char*,int)",
    "char*rindex(const char*,int)", "char*strstr(const char*,const char*)",
    "char*strpbrk(const char*,const char*)", "unsigned long strspn(const char*,const char*)",
    "unsigned long strcspn(const char*,const char*)", "char*strdup(const char*)",
    "char*strndup(const char*,unsigned long)", "int toupper(int)", "int tolower(int)",
    "int ffs(int)"]

/-- Functions of the library that sources use without a declaration. -/
def knownFunctions : List String :=
  knownOthers ++ knownOnCharacters ++ knownOf "" "double" ++ knownOf "f" "float"
    ++ knownOf "l" "long double"

/-- The declarations of known functions by their names. -/
def knownTable : Std.HashMap String String :=
  Std.HashMap.ofList (knownFunctions.map fun text =>
    let front := (text.toList.takeWhile (· != '(')).reverse
    (String.ofList (front.takeWhile fun char => char != ' ' && char != '*').reverse, text))

/-- The tokens of the declaration of a known function. -/
def knownDeclaration? (name : String) : Option (List Token) := do
  let text ← knownTable[name]?
  let tokens ← Token.list? false text.toList
  return tokens ++ [.mark ";"]

/-- Declares a function in the scope around all others as one about which nothing is known. -/
def declareLoose (name : String) : Parse Nat := do
  let number ← fresh
  let function : Function :=
    { number, name, symbol := name, result := CType.int, parameters := []
      manner := { isLoose := true }, scope := 0, isDeclaredHere := false }
  modify fun reading => { reading with functions := reading.functions.insert number function }
  bindIn 0 name (.functions [number] [])
  return number

/-- Declares a function that the source uses without a declaration. -/
def declareKnown (g : Grammar) (name : String) : Parse Unit := do
  match knownDeclaration? name with
  | some tokens => do
    let front : List Token := if ← isPlus then [.name "extern", .text "\"C\""] else []
    inScope 0 (within (front ++ tokens) g.outerDeclaration)
  | none => discard (declareLoose name)

/-- A function of the library as an operand. -/
def libraryFunction (g : Grammar) (name : String) : Parse Operand := do
  let known : Parse (Option Operand) := do
    let reading ← get
    match findHere? reading searchDepth 0 name with
    | some (.functions numbers _, _) => return some (.functions numbers [] [] none true)
    | _ => return none
  match ← known with
  | some found => return found
  | none => do
    declareKnown g name
    orFail (← known)

/-! ### What names stand for -/

/-- Texts that names of the running function stand for. -/
def ownNames : List String := ["__func__", "__FUNCTION__", "__PRETTY_FUNCTION__"]

/-- What a name stands for as an operand; it was found in a scope. -/
def entityOperand (g : Grammar) (name : String) (entity : Entity) (scope : Nat)
    (isQualified : Bool) (given : List CType) : Parse Operand := do
  match entity with
  | .object found => do
    match found.owner with
    | some owner => checkAccess found.access owner name
    | none => pure ()
    variableOperand found
  | .constant type value access => do
    match (← scopeAt scope).holder with
    | .record tag => checkAccess access tag name
    | _ => pure ()
    return .value type (.ofValue value)
  | .functions numbers templates => do
    let object : Option (CType × Term × Bool) ← (do
      match (← scopeAt scope).holder, ← self? with
      | .record tag, some (type, source) =>
        if ← continues ((type.tag?).getD "") tag then pure (some (type, source, false))
        else pure none
      | _, _ => pure none)
    return .functions numbers templates given object isQualified
  | .field => do
    let (type, source) ← orFail (← self?)
    match (← scopeAt scope).holder with
    | .record tag => do
      let here ← orFail type.tag?
      let inner ← upcast here tag source false
      fieldOf (CType.asConstAs (.record tag) type) inner false name
    | _ => failure
  | .template number => g.useOf number given
  | .type _ _ | .space _ | .pack _ => failure

/-- Whether arguments of a template can stand behind what a name stands for. -/
def takesArguments : Entity → Bool
  | .template _ => true
  | .functions _ templates => !templates.isEmpty
  | _ => false

/-- Reads arguments of a template behind a name, when there are some. -/
def givenFor (g : Grammar) (entity : Entity) : Parse (List CType) := do
  if takesArguments entity && (← sees "<") then return (← optional (templateArguments g)).getD []
  else return []

/-! ### Calls -/

/-- Calls an operand with arguments. -/
def called (g : Grammar) (target : Operand) (arguments : List Operand) : Parse Operand := do
  match target with
  | .functions numbers templates given object isDirect => do
    let number ← (do
      match numbers, ← isPlus with
      | [number], false => pure number
      | _, _ =>
        chosen g numbers templates given arguments (object.map fun (type, _, isSpare) =>
          (type, isSpare)) false)
    g.call number (object.map fun (type, source, _) => (type, source)) isDirect arguments
  | .bound object (.function result types manner) pointer => do
    noteThrow
    let parameters := types.map fun type => { type, name := "" : Parameter }
    let terms ← argumentsFor g 0 manner parameters arguments
    return answered result (.call pointer) (object :: terms)
  | target => do
    match target.type.tag? with
    | some _ => do
      match ← operatorCall? g "()" (target :: arguments) true with
      | some found => return found
      | none => throughValue (← decayed g target)
    | none => throughValue target
where
  /-- Calls a function by its address. -/
  throughValue (target : Operand) : Parse Operand := do
    let (type, term) ← valueOf target
    match type with
    | .pointer (.function result types manner) => do
      noteThrow
      let parameters := types.map fun type => { type, name := "" : Parameter }
      let terms ← argumentsFor g 0 manner parameters arguments
      return answered result (.call term) terms
    | _ => failure

/-- Reads the arguments of a call between brackets. -/
def arguments (g : Grammar) : Parse (List Operand) := do
  mark "("
  if ← option ")" then return []
  else
    let found ← withAngles false (separated (expandable g.initial))
    mark ")"
    return found.flatten

/-- Calls functions of a name that is not behind scopes; those that the arguments bring along count,
too. -/
def calledByName (g : Grammar) (name : String) (target : Option Operand) (given : List CType) :
    Parse Operand := do
  let operands ← arguments g
  match target with
  | some (.functions numbers templates more none isDirect) => do
    let (others, also) ← broughtAlong name operands
    called g (.functions ((numbers ++ others).eraseDups) ((templates ++ also).eraseDups)
      (if more.isEmpty then given else more) none isDirect) operands
  | some target => called g target operands
  | none => do
    let (numbers, templates) ← broughtAlong name operands
    require (!(numbers.isEmpty && templates.isEmpty))
    called g (.functions numbers templates given none false) operands

/-! ### Reading names -/

/-- Reads a name in C. -/
def namedInC (g : Grammar) : Parse Operand := do
  let name ← identifier
  match ← find? name with
  | some (entity, scope) => entityOperand g name entity scope false []
  | none =>
    if ownNames.contains name then plainText (← get).work.name
    else if ← sees "(" then do
      let options := (← get).options
      require !(options.isStrict && options.pedantic && 1999 ≤ options.year)
      if 1999 ≤ options.year then warn "implicit-function-declaration"
      declareKnown g name
      let (entity, scope) ← orFail (← find? name)
      entityOperand g name entity scope false []
    else failure

/-- Reads a name behind scopes. -/
def namedIn (g : Grammar) (place : Place) : Parse Operand := do
  discard (optionWord "template")
  let isQualified : Bool := match place with
    | .here => false
    | _ => true
  let name ← (do
    if ← optionWord "operator" then
      match ← operatorName g with
      | .plain name => pure name
      | _ => pure converterName
    else identifier)
  match ← findIn? place name with
  | some (entity, scope) => do
    let given ← givenFor g entity
    let found ← entityOperand g name entity scope isQualified given
    match found with
    | .functions _ _ _ none _ =>
      if !isQualified && (← sees "(") then calledByName g name (some found) given
      else return found
    | found => return found
  | none =>
    match place with
    | .here =>
      if ownNames.contains name then plainText (← get).work.name
      else if ← sees "(" then calledByName g name none []
      else failure
    | _ => failure

/-- Reads a name. -/
def named (g : Grammar) : Parse Operand := do
  if ← isPlus then namedIn g (← nested g) else namedInC g

/-- A pointer to a member of a class. -/
def memberPointerTo (g : Grammar) : Parse Operand := do
  let place ← nested g
  match place with
  | .inside scope => do
    let name ← identifier
    match ← findIn? place name, (← scopeAt scope).holder with
    | some (.field, _), .record tag => do
      let (distance, field, owner) ← orFail (fieldWay? (← get).records name searchDepth tag)
      checkAccess field.access owner name
      return .value (.memberPointer (.record tag) field.type) (.word distance)
    | some (.functions numbers templates, inner), .record tag => do
      let functions ← numbers.mapM functionAt
      match functions, templates with
      | [function], [] => do
        checkAccess function.access tag name
        if function.isMember then
          let owner := match (← scopeAt inner).holder with
            | .record owner => owner
            | _ => tag
          return .value (.memberPointer (.record owner) (typeOfFunction function))
            (← addressOfFunction function.number)
        else failure
      | _, _ => do
        require (functions.all (·.isMember))
        return .functions numbers templates [] none true
    | _, _ => failure
  | _ => failure

end Parse

end KernelCache.C
