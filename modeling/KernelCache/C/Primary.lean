import KernelCache.C.Builtin
import KernelCache.C.Number
import KernelCache.C.Symbol

/-
**The innermost parts of expressions.**

* `Parse.primary` reads constants, names, and what stands between brackets.
* `Parse.withBehind` reads them with what stands behind them.
* `Parse.castOperand` gives an operand another type.
-/

namespace KernelCache.C

open KernelCache.Code (Term Value Kind Instruction Linkage)

namespace Parse

/-! ### What operands do -/

/-- The term that works out an operand for what it does. -/
def effectOf (g : Grammar) (operand : Operand) : Parse Term := do
  match operand with
  | .value _ term => return term
  | .place _ source none _ => return source
  | .place _ source (some _) _ => return source
  | .fresh type make => spare g type make
  | .functions _ _ _ _ _ => return .nothing
  | .braces _ | .bound _ _ _ => failure

/-- An operand behind a term that is worked out before. -/
def afterTerm (front : Term) (operand : Operand) : Operand :=
  if isQuiet front then operand
  else
    match operand with
    | .value type term => .value type (.sequence front term)
    | .place type source bits isSpare => .place type (.sequence front source) bits isSpare
    | .fresh type make => .fresh type fun target => .sequence front (make target)
    | other => other

/-- An object of a type that is made where its place is known. -/
def freshWith (type : CType) (build : Term → Parse Term) : Parse Operand := do
  let offset ← place 8 8
  let made ← build (.load .address (.place offset))
  return .fresh type.bare fun target =>
    .sequence (.storeLate .address (.place offset) target) made

/-! ### Casts -/

/-- A value of a type that nothing is said about. -/
def zeroOf (g : Grammar) (type : CType) : Parse Operand := do
  match type.bare with
  | .void => return .nothing
  | bare =>
    match bare.tag? with
    | some _ => freshWith bare fun target => g.start true bare target
    | none => do
      let kind ← orFail bare.kind?
      match kind, bare with
      | .real _, _ => return .value bare (.real 0)
      | _, .memberPointer _ (.function _ _ _) => return .value bare (.word 0)
      | _, .memberPointer _ _ => return .value bare (.word (Code.range 8 - 1))
      | _, _ => return .value bare (.word 0)

/-- An operand as one of a type of references. -/
def castReference (g : Grammar) (toValue : Bool) (target : CType) (operand : Operand) :
    Parse Operand := do
  let isSpare := toValue && !target.isFunction
  match operand with
  | .place type source none _ =>
    match type.tag?, target.tag? with
    | some found, some wanted => do
      let records := (← get).records
      if (baseWay? records searchDepth found wanted).isSome then
        return .place target (← upcast found wanted source false) none isSpare
      else if (baseWay? records searchDepth wanted found).isSome then
        return .place target (← downcast found wanted source false) none isSpare
      else
        match ← converterFor? operand (.reference toValue target) true with
        | some _ => return .place target (← bound g toValue target operand) none isSpare
        | none => return .place target source none isSpare
    | _, _ => return .place target source none isSpare
  | .fresh type make =>
    if type.tag? == target.tag? then
      return .place target (← spare g type make) none isSpare
    else return .place target (← bound g toValue target operand) none isSpare
  | operand => return .place target (← bound g toValue target operand) none isSpare

/-- An operand as one of a type that the source asks for. -/
def castOperand (g : Grammar) (type : CType) (operand : Operand) : Parse Operand := do
  match type with
  | .reference toValue target => castReference g toValue target operand
  | type =>
    match type.bare with
    | .void => do
      let term ← effectOf g operand
      return .value .void (.sequence term .nothing)
    | .array _ _ | .function _ _ _ | .deduced | .exactly => failure
    | bare =>
      if let some found ← laneCast? bare operand then return found
      match bare.tag? with
      | some tag => do
        if ← isPlus then freshWith bare fun target => g.make bare [operand] target
        else do
          let record ← recordAt tag
          if operand.type.tag? == some tag then return operand
          else do
            require record.isUnion
            let (found, _) ← valueOf operand
            let field ← orFail (record.fields.find? fun field => field.type.bare == found)
            freshWith bare fun target => g.build field.type operand target
      | none => do
        match operand with
        | .functions _ _ _ _ _ => return .value bare (← convertedTo g bare operand)
        | operand => do
          if operand.type.tag?.isSome then
            match ← converterFor? operand bare true with
            | some (number, _) => do
              let (found, source) ← materialized g operand
              let result ← g.call number (some (found, source)) false []
              return .value bare (← castTo bare result)
            | none => return .value bare (← castTo bare (← decayed g operand))
          else return .value bare (← castTo bare operand)

/-- Fails unless one type can be made of another one without another look at the octets. -/
def checkStatic (type : CType) (operand : Operand) : Parse Unit := do
  match type with
  | .reference _ target => do
    match operand with
    | .place found _ _ _ => do
      require (target.isConst || !found.isConst)
      match found.tag?, target.tag? with
      | some a, some b => do
        let helped ← converterFor? operand type true
        require ((← continues a b) || (← continues b a) || helped.isSome)
      | none, none => require (similar found target)
      | _, _ => pure ()
    | _ => pure ()
  | type => do
    if operand.type.tag?.isSome || type.tag?.isSome then pure ()
    else
      match operand with
      | .functions _ _ _ _ _ | .braces _ => pure ()
      | operand => do
        let (found, _) ← valueOf operand
        match type.bare, found with
        | .pointer target, .pointer source => do
          require (target.isConst || !source.isConst)
          match target.tag?, source.tag? with
          | some a, some b => require ((← continues a b) || (← continues b a))
          | _, _ => require (similar target source || target.isVoid || source.isVoid)
        | .pointer _, source => require (operand.isNull || source == .null)
        | target, .pointer _ => require (target == .bool || target.isVoid)
        | _, _ => pure ()

/-- Finds the object of a class of which a pointer shows a part, or nothing. -/
def dynamicPointer (target : CType) (operand : Operand) : Parse Term := do
  let (type, term) ← valueOf operand
  let source ← orFail type.target?
  let found ← orFail source.tag?
  match target.bare with
  | .void => do
    let (kept, again) ← keptValue type term
    let table := Term.load .address again
    let top := Term.load .address (.binary .sub .address table (.word 16))
    return behind kept (.conditional again (.binary .add .address again top) (.word 0))
  | target => do
    let wanted ← orFail target.tag?
    if (baseWay? (← get).records searchDepth found wanted).isSome then
      upcast found wanted term true
    else do
      require (← recordAt found).hasTable
      let symbol := "_ZTI" ++ Symbol.ofType (.record wanted)
      modify fun reading => { reading with
        neededTypes := reading.neededTypes.insert symbol (.record wanted) }
      return outerCall "__object_of_type" [term, .address symbol]

/-- Reads a cast that is written with a word. -/
def wordCast (g : Grammar) : Parse Operand := do
  let text ← (do
    match ← token with
    | .name text => pure text
    | _ => failure : Parse String)
  mark "<"
  let type ← withAngles false g.typeName
  closeAngle
  mark "("
  let operand ← withAngles false g.expression
  mark ")"
  match text with
  | "static_cast" => do
    checkStatic type operand
    castOperand g type operand
  | "const_cast" => castOperand g type operand
  | "reinterpret_cast" =>
    match type with
    | .reference toValue target =>
      match operand with
      | .place _ source none _ => return .place target source none toValue
      | _ => failure
    | type => do
      let (found, term) ← valueOf operand
      match type.bare, found with
      | .pointer _, .pointer _ => return .value type.bare term
      | bare, _ => do
        require (bare.isPointer || found.isPointer || bare == found)
        return .value bare (← castTo bare operand)
  | "dynamic_cast" =>
    match type with
    | .pointer target => return .value type (← dynamicPointer target operand)
    | .reference _ target => do
      let (found, source) ← asObjectOnly g operand
      let term ← dynamicPointer target (.value (.pointer found) source)
      let (kept, again) ← keptValue (.pointer target) term
      let failed ← (do
        match ← optional (badCast g) with
        | some thrown => pure (Term.sequence thrown (.word 0))
        | none => pure (outerCall "__bad_cast" []) : Parse Term)
      return .place target (behind kept (.conditional again again failed)) none false
    | _ => failure
  | _ => failure
where
  /-- Throws the exception that stands for a conversion that cannot be, when it is declared. -/
  badCast (g : Grammar) : Parse Term := do
    let tokens : List Token := [.name "throw", .mark "::", .name "std", .mark "::", .name "bad_cast",
      .mark "(", .mark ")"]
    effectOf g (← within tokens g.assignment)
  /-- An operand as an object. -/
  asObjectOnly (g : Grammar) (operand : Operand) : Parse (CType × Term) := do
    let (type, source, _) ← asObject g operand
    return (type, source)

/-! ### Constants -/

/-- A number with a suffix for which the source has a function. -/
def literalCall (g : Grammar) (text : String) : Parse Operand := do
  let chars := text.toList
  let stem := chars.takeWhile (· != '_')
  let suffix := String.ofList (chars.drop stem.length)
  require (suffix != "")
  let (_, value) ← orFail (Number.read? (String.ofList stem))
  let name := "operator\"\"" ++ suffix
  let reading ← get
  match findFrom? reading searchDepth reading.scope name with
  | some (.functions numbers _, _) => do
    let operand : Operand := match value with
      | .word bits => .value (.arithmetic .unsignedLongLong) (.word bits)
      | .real number => .value (.arithmetic .longDouble) (.real number)
    match ← trial (chosen g numbers [] [] [operand] none false) with
    | some number => g.call number none false [operand]
    | none => do
      let spelled ← plainText (String.ofList stem)
      let number ← chosen g numbers [] [] [spelled] none false
      g.call number none false [spelled]
  | _ => failure

/-- A number as an operand. -/
def numberOperand (g : Grammar) (text : String) : Parse Operand := do
  let options := (← get).options
  require (options.isPlus || 2023 ≤ options.year || !text.toList.contains '\'')
  match Number.read? text with
  | some (type, value) => return .value (.arithmetic type) (.ofValue value)
  | none =>
    let imaginary? := if options.isPlus && options.isStrict then none else Number.imaginary? text
    match imaginary? with
    | some (type, value) => do
      warn "pedantic"
      laneValue ⟨type, 2, true⟩ [] [zeroNumber type, .ofValue value]
    | none => if ← isPlus then literalCall g text else failure

/-- A character as an operand. -/
def characterOperand (text : String) : Parse Operand := do
  let (front, units) := Token.unitsOf '\'' text
  let options := (← get).options
  let last := units.getLastD 0
  match front, units with
  | _, [] => failure
  | "L", _ => return .value (.arithmetic .wcharType) (.word (last % Code.range 4))
  | "u", _ =>
    return .value (.arithmetic (if options.isPlus then .char16 else .unsignedShort))
      (.word (last % Code.range 2))
  | "U", _ =>
    return .value (.arithmetic (if options.isPlus then .char32 else .unsignedInt))
      (.word (last % Code.range 4))
  | "u8", [unit] =>
    return .value (.arithmetic (if options.isPlus && options.year < 2020 then .char
      else .unsignedChar)) (.word unit)
  | "", [unit] =>
    let number := if options.unsignedChar then (unit : Int) else Value.ofBits 1 true (unit % 256)
    if options.isPlus then return .value .char (.word (unit % 256))
    else return .int number
  | _, units => do
    warn "multichar"
    return .int ((units.foldl (fun total unit => total * 256 + unit % 256) 0 : Nat) : Int)

/-- Texts one behind the other as an object. -/
def textsOperand (texts : List String) : Parse Operand := do
  let parts := texts.map (Token.unitsOf '"')
  let options := (← get).options
  let front := ((parts.map (·.1)).filter (· != "")).headD ""
  require (parts.all fun part => part.1 == "" || part.1 == front)
  let plus := options.isPlus
  let (item, width) : Arithmetic × Nat := match front with
    | "L" => (.wcharType, 4)
    | "u" => (if plus then .char16 else .unsignedShort, 2)
    | "U" => (if plus then .char32 else .unsignedInt, 4)
    | "u8" => (if plus && 2020 ≤ options.year then .char8 else .char, 1)
    | _ => (if options.unsignedChar then .unsignedChar else .char, 1)
  let units ← texts.mapM fun text => do
    let encoded := if front = "" || (Token.unitsOf '"' text).1 != "" then text else front ++ text
    return (Token.unitsOf '"' encoded).2
  let item := if front = "" then Arithmetic.char else item
  textOperand (.arithmetic item) width units.flatten

/-- Reads texts one behind the other. -/
def textsHere (g : Grammar) : Parse Operand := do
  let texts ← many do
    match ← peek with
    | .text text => do
      skip 1
      return text
    | _ => failure
  let suffixes := texts.filterMap fun text =>
    let behind := (text.toList.reverse.takeWhile (· != '"')).reverse
    if behind.isEmpty then none else some (String.ofList behind)
  match suffixes with
  | [] => textsOperand texts
  | suffix :: _ => do
    let plain := texts.map fun text =>
      String.ofList (text.toList.reverse.dropWhile (· != '"')).reverse
    let operand ← textsOperand plain
    let count := match operand.type with
      | .array (some count) _ => count - 1
      | _ => 0
    let reading ← get
    match findFrom? reading searchDepth reading.scope ("operator\"\"" ++ suffix) with
    | some (.functions numbers _, _) => do
      let operands := [operand, .value CType.sizeType (.word count)]
      let number ← chosen g numbers [] [] operands none false
      g.call number none false operands
    | _ => failure

/-! ### Brackets -/

/-- Reads a choice by type. -/
def generic (g : Grammar) : Parse Operand := do
  mark "("
  let control ← (do
      let type ← g.typeName
      require (← sees ",")
      pure type) <|> (do
      let operand ← withoutCode g.assignment
      let (type, _) ← valueOf operand <|> (do pure (operand.type.bare, Term.nothing))
      pure type)
  mark ","
  let choices ← separated do
    let type? ← (do
      if ← optionWord "default" then pure none
      else do
        let type ← g.typeName
        pure (some type) : Parse (Option CType))
    mark ":"
    return (type?, ← itemTokens)
  mark ")"
  let fits := choices.filter fun entry => entry.1.any fun type => compatible type control
  match fits, choices.find? (·.1.isNone) with
  | [(_, tokens)], _ => within tokens g.assignment
  | [], some (_, tokens) => within tokens g.assignment
  | _, _ => failure

/-- Whether three dots stand between brackets, outside of inner ones. -/
def hasDots (tokens : List Token) : Bool := 1 < (splitAt (.mark "...") tokens).length

/-- Combines operands by an operator, from the left or from the right. -/
def foldedBy (g : Grammar) (text : String) (fromRight : Bool) (operands : List Operand) :
    Parse Operand := do
  let combine (left right : Operand) : Parse Operand := do
    if text == "," then
      match ← operatorCall? g "," [left, right] false with
      | some found => return found
      | none => return afterTerm (← effectOf g left) right
    else if (binaryWords.lookup text).isSome || text == "&&" || text == "||" then
      binary g text left right
    else if text == "=" then assigned g left right
    else compound g (String.ofList text.toList.dropLast) left right
  match if fromRight then operands.reverse else operands with
  | [] =>
    match text with
    | "&&" => return .value .bool (.word 1)
    | "||" => return .value .bool (.word 0)
    | "," => return .nothing
    | _ => failure
  | first :: rest =>
    rest.foldlM (fun total next => if fromRight then combine next total else combine total next)
      first

/-- Reads an operator and an operand that stand for several ones. -/
def folded (g : Grammar) (tokens : List Token) : Parse Operand := do
  let each (item : List Token) : Parse (List Operand) := do
    let packs ← packsIn item
    forEach packs (within item g.cast)
  let isOperator (text : String) : Bool := text != "(" && text != ")" && text != "..."
  match tokens with
  | .mark "..." :: .mark text :: item => do
    require (isOperator text)
    foldedBy g text false (← each item)
  | tokens =>
    match splitAt (.mark "...") tokens with
    | [before, []] =>
      match before.reverse with
      | .mark text :: item => do
        require (isOperator text)
        foldedBy g text true (← each item.reverse)
      | _ => failure
    | [before, .mark text :: after] => do
      let first := before.dropLast
      require (before.getLast? == some (.mark text))
      let firstPacks ← packsIn first
      if firstPacks.isEmpty then
        let start ← within first g.cast
        foldedBy g text false (start :: (← each after))
      else
        let last ← within after g.cast
        foldedBy g text true ((← each first) ++ [last])
    | _ => failure

/-- Reads what stands between brackets. -/
def bracketed (g : Grammar) : Parse Operand := do
  let isPlus ← isPlus
  match (← get).tokens with
  | .mark "(" :: .mark "\x7b" :: _ => g.blockValue
  | _ => do
    let inner? ← (do
      if isPlus then trial enclosed else pure none : Parse (Option (List Token)))
    if inner?.any hasDots then
      match ← optional (do folded g (← enclosed)) with
      | some found => return found
      | none => plain
    else plain
where
  /-- An ordinary expression between brackets. -/
  plain : Parse Operand := do
    mark "("
    let operand ← withAngles false g.expression
    mark ")"
    return operand

/-! ### Types in expressions -/

/-- Words that start types of numbers. -/
def typeWords : List String :=
  numberWords ++ ["bool", "wchar_t", "char16_t", "char32_t", "char8_t"]

/-- Reads a type that is followed by operands. -/
def simpleType (g : Grammar) : Parse CType := do
  match ← peek with
  | .name text =>
    if typeWords.contains text then
      let found ← oneSpecifier g {}
      match found.found.type with
      | some type => return type
      | none => do
        let options := (← get).options
        return .arithmetic (← orFail (numberType? options.unsignedChar found.words))
    else if text == "void" then
      skip 1
      return .void
    else if text == "typename" then
      skip 1
      namedType g
    else if text == "decltype" then typeOfExpression g
    else if text == "auto" then
      skip 1
      return .deduced
    else namedType g
  | .mark "::" => namedType g
  | _ => failure

/-- Reads first values between braces. -/
def braceItems (g : Grammar) : Parse (List Operand) := do
  match ← g.initial with
  | .braces items => return items.map (·.2)
  | _ => failure

/-- Reads a type with operands behind it. -/
def functional (g : Grammar) : Parse Operand := do
  let type ← simpleType g
  if ← sees "(" then
    let operands ← arguments g
    match type with
    | .pattern text _ =>
      let found ← g.guess (text.toNat?.getD 0) operands
      freshWith found fun target => g.make found operands target
    | .deduced => castSame operands
    | type => made g type operands
  else
    require (← sees "\x7b")
    match type with
    | .pattern text _ => do
      let operands ← braceItems g
      let found ← g.guess (text.toNat?.getD 0) operands
      freshWith found fun target => g.make found operands target
    | type => do
      let braces ← g.initial
      match braces, type.bare.tag? with
      | .braces [], none => zeroOf g type
      | .braces [(_, operand)], none => return .value type.bare (← convertedTo g type operand)
      | braces, some _ => freshWith type fun target => g.build type.bare braces target
      | _, none => failure
where
  /-- A value of a type from operands. -/
  made (g : Grammar) (type : CType) (operands : List Operand) : Parse Operand := do
    match operands, type.bare.tag? with
    | [], _ => zeroOf g type
    | [operand], none => castOperand g type operand
    | [.fresh found make], some tag =>
      if found.tag? == some tag then return .fresh found make
      else freshWith type fun target => g.make type.bare operands target
    | operands, some _ => freshWith type fun target => g.make type.bare operands target
    | _, none => failure
  /-- The value of an operand. -/
  castSame (operands : List Operand) : Parse Operand := do
    match operands with
    | [operand] => do
      let type ← valueType operand
      castOperand g type operand
    | _ => failure

/-! ### Primary expressions -/

/-- The casts that are written with a word. -/
def castWords : List String := ["static_cast", "const_cast", "reinterpret_cast", "dynamic_cast"]

/-- The type that tells types of objects apart. -/
def typeInfoName : String := "type_info"

/-- Reads the type of an object or of a type as an object. -/
def typeId (g : Grammar) : Parse Operand := do
  let reading ← get
  let std ← (do
    match findHere? reading searchDepth 0 "std" with
    | some (.space scope, _) => pure scope
    | _ => failure : Parse Nat)
  match findHere? reading searchDepth std typeInfoName with
  | some (.type type _, _) => do
    let inner ← enclosed
    let (static, dynamic?) ← (do
        let found ← within inner g.typeName
        pure (found, none)) <|> (do
        let operand ← within inner g.expression
        match operand with
        | .place found source none _ => do
          let hasTable ← (do
            match found.tag? with
            | some tag => pure (← recordAt tag).hasTable
            | none => pure false : Parse Bool)
          pure (found, if hasTable then some source else none)
        | operand => do
          let (found, _) ← valueOf operand <|> (do pure (operand.type, Term.nothing))
          pure (found, none))
    let static := static.referred.bare
    let symbol := "_ZTI" ++ Symbol.ofType static
    modify fun reading => { reading with
      neededTypes := reading.neededTypes.insert symbol static }
    match dynamic? with
    | some source =>
      let table := Term.load .address source
      let info := Term.load .address (.binary .sub .address table (.word 8))
      return .place type.constant info none false
    | none => return .place type.constant (.address symbol) none false
  | _ => failure

/-- Reads a word of the language in an expression of C++; `none` when it is none. -/
def plusWord? (g : Grammar) (text : String) : Parse (Option Operand) := do
  match text with
  | "this" => do
    skip 1
    let (type, source) ← orFail (← self?)
    return some (.value (.pointer type) source)
  | "true" | "false" => do
    skip 1
    return some (.value .bool (.word (if text == "true" then 1 else 0)))
  | "nullptr" => do
    skip 1
    return some (.value .null (.word 0))
  | "typeid" => do
    skip 1
    return some (← typeId g)
  | "noexcept" => do
    skip 1
    let inner ← enclosed
    let outer := (← get).throws
    modify fun reading => { reading with throws := false }
    withoutCode (do
      let operand ← within inner g.expression
      discard (effectOf g operand))
    let found := (← get).throws
    modify fun reading => { reading with throws := outer }
    return some (.value .bool (.word (if found then 0 else 1)))
  | "requires" => do
    return some (← g.requirement)
  | text =>
    if castWords.contains text then return some (← wordCast g) else return none

/-- Reads an operand that starts with a name. -/
def nameOperand (g : Grammar) (text : String) : Parse Operand := do
  let options := (← get).options
  if isBuiltin text && (← find? text).isNone then
    skip 1
    builtin g text
  else if !options.isPlus then
    match text with
    | "_Generic" => do
      skip 1
      generic g
    | "true" | "false" =>
      if 2023 ≤ options.year then
        skip 1
        return .value .bool (.word (if text == "true" then 1 else 0))
      else named g
    | "nullptr" =>
      if 2023 ≤ options.year then
        skip 1
        return .value .null (.word 0)
      else named g
    | _ => named g
  else
    match ← plusWord? g text with
    | some found => return found
    | none =>
      match ← optional (functional g) with
      | some found => return found
      | none => named g

/-- Reads a constant, a name, or what stands between brackets. -/
def primary (g : Grammar) : Parse Operand := do
  match ← peek with
  | .number text => do
    skip 1
    numberOperand g text
  | .character text => do
    skip 1
    characterOperand text
  | .text _ => textsHere g
  | .mark "(" => bracketed g
  | .mark "[" => do
    require (← isPlus)
    g.closure
  | .mark "::" => do
    require (← isPlus)
    match ← optional (functional g) with
    | some found => return found
    | none => named g
  | .name text => nameOperand g text
  | _ => failure

/-! ### Members -/

/-- Reads the end of an object that the source asks for. -/
def endOperand (g : Grammar) (object : Operand) : Parse Operand := do
  let type ← (do
    let inner ← namedType g
    pure inner) <|> simpleType g
  mark "("
  mark ")"
  match type.tag? with
  | none => return .value .void (← effectOf g object)
  | some _ => do
    let (found, source, _) ← asObject g object
    match enderOf? (← get).records found with
    | none => return .value .void source
    | some number => g.call number (some (found, source)) false []

/-- Reads the name of a member of an object. -/
def memberOf (g : Grammar) (object : Operand) : Parse Operand := do
  if !(← isPlus) then
    let name ← identifier
    let (type, source, isSpare) ← asObject g object
    fieldOf type source isSpare name
  else
    discard (optionWord "template")
    if ← option "~" then endOperand g object
    else
      let (type, source, isSpare) ← asObject g object
      let record ← recordAt (← orFail type.tag?)
      require record.isComplete
      let (place, isQualified) ← (do
        match (← get).tokens with
        | .name _ :: .mark "::" :: _ => do
          let place ← inScope record.scope (nested g)
          pure (place, true)
        | .name _ :: .mark "<" :: _ => do
          match ← optional (inScope record.scope (do
            let place ← nested g
            match place with
            | .here => failure
            | place => return place)) with
          | some place => pure (place, true)
          | none => pure (.inside record.scope, false)
        | _ => pure (.inside record.scope, false) : Parse (Place × Bool))
      discard (optionWord "template")
      if ← option "~" then endOperand g object
      else
        let name ← (do
          if ← optionWord "operator" then
            match ← operatorName g with
            | .plain name => pure name
            | _ => pure converterName
          else identifier)
        match ← findIn? place name with
        | some (.field, scope) => do
          match (← scopeAt scope).holder with
          | .record tag => do
            let inner ← upcast record.tag tag source false
            fieldOf (CType.asConstAs (.record tag) type) inner isSpare name
          | _ => failure
        | some (.functions numbers templates, scope) => do
          let given ← givenFor g (.functions numbers templates)
          let tag := match (← scopeAt scope).holder with
            | .record tag => tag
            | _ => record.tag
          let inner ← upcast record.tag tag source false
          return .functions numbers templates given
            (some (CType.asConstAs (.record tag) type, inner, isSpare)) isQualified
        | some (entity, scope) => entityOperand g name entity scope true []
        | none => failure

/-- Reads what stands behind an operand. -/
def behindUpTo (g : Grammar) : Nat → Operand → Parse Operand
  | 0, _ => failure
  | fuel + 1, operand => do
    match ← peek with
    | .mark "[" => do
      skip 1
      let index ← withAngles false (do
        if ← sees "\x7b" then g.initial else g.expression)
      mark "]"
      behindUpTo g fuel (← item g operand index)
    | .mark "(" => behindUpTo g fuel (← called g operand (← arguments g))
    | .mark "." => do
      skip 1
      behindUpTo g fuel (← memberOf g operand)
    | .mark "->" => do
      skip 1
      behindUpTo g fuel (← memberOf g (← arrow g searchDepth operand))
    | .mark "++" => do
      skip 1
      behindUpTo g fuel (← stepped g "++" true operand)
    | .mark "--" => do
      skip 1
      behindUpTo g fuel (← stepped g "--" true operand)
    | _ => return operand

/-- So many steps can stand behind an operand. -/
def behindDepth : Nat := 10000

/-- Reads an operand with what stands behind it. -/
def withBehind (g : Grammar) : Parse Operand := do
  behindUpTo g behindDepth (← primary g)

end Parse

end KernelCache.C
