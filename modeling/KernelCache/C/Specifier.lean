import KernelCache.C.Naming

/-
**Words in front of declarations.**

A declaration starts with words that say a type and more.

* `Parse.attributes` reads what is said between double brackets or in a similar way.
* `Parse.specifiers` reads the words, and says the type that they make up.
-/

namespace KernelCache.C

open KernelCache.Code (Term Value Kind Instruction Linkage)

/-! ### Attributes -/

/-- What a source says about a declaration besides its type. -/
structure Attributes where
  aligned : Option Nat := none
  isPacked : Bool := false
  isWeak : Bool := false
  standsFor : Option String := none
  /-- The symbol that the source asks for. -/
  symbol : Option String := none
  visible : Option Bool := none
  atStart : Option Nat := none
  atEnd : Bool := false
  cleanup : Option String := none
  endsRun : Bool := false
  isUsed : Bool := false
  mode : Option String := none
  vector : Option Nat := none
  /-- Whether calls have copies of the function in their places in any case. -/
  isCopied : Bool := false

/-- What two lists of attributes say together. -/
def Attributes.and (a b : Attributes) : Attributes :=
  { aligned := match a.aligned, b.aligned with
      | some x, some y => some (max x y)
      | x, y => x.or y
    isPacked := a.isPacked || b.isPacked
    isWeak := a.isWeak || b.isWeak
    standsFor := a.standsFor.or b.standsFor
    symbol := a.symbol.or b.symbol
    visible := b.visible.or a.visible
    atStart := a.atStart.or b.atStart
    atEnd := a.atEnd || b.atEnd
    cleanup := a.cleanup.or b.cleanup
    endsRun := a.endsRun || b.endsRun
    isUsed := a.isUsed || b.isUsed
    mode := a.mode.or b.mode
    isCopied := a.isCopied || b.isCopied
    vector := a.vector.or b.vector }

/-- What the words in front of a declaration say. -/
structure Specifiers where
  type : Option CType := none
  isTypeName : Bool := false
  isStatic : Bool := false
  isExternal : Bool := false
  isInline : Bool := false
  isConstexpr : Bool := false
  isVirtual : Bool := false
  isExplicit : Bool := false
  isFriend : Bool := false
  isMutable : Bool := false
  isThread : Bool := false
  endsRun : Bool := false
  attributes : Attributes := {}
  /-- Whether there was a word at all. -/
  isWritten : Bool := false

namespace Parse

/-! ### Attributes -/

/-- The items between commas. -/
def splitAt (separator : Token) (tokens : List Token) : List (List Token) :=
  let step (state : List (List Token) × List Token × Nat) (token : Token) :
      List (List Token) × List Token × Nat :=
    let (done, item, depth) := state
    let depth := match token with
      | .mark "(" | .mark "[" | .mark "\x7b" => depth + 1
      | .mark ")" | .mark "]" | .mark "\x7d" => depth - 1
      | _ => depth
    if token = separator ∧ depth = 0 then (item.reverse :: done, [], depth)
    else (done, token :: item, depth)
  let (done, item, _) := tokens.foldl step ([], [], 0)
  (item.reverse :: done).reverse

/-- A name of an attribute without underscores around it. -/
def plainWord (word : String) : String :=
  let chars := word.toList
  if "__".toList.isPrefixOf chars && "__".toList.isPrefixOf chars.reverse && 4 < chars.length then
    String.ofList ((chars.drop 2).take (chars.length - 4))
  else word

/-- The contents of a text as characters. -/
def textIn (text : String) : String :=
  String.ofList ((Token.unitsOf '"' text).2.map Char.ofNat)

/-- The number in tokens. -/
def numberIn (g : Grammar) (tokens : List Token) : Parse Int := do
  let (type, value) ← within tokens g.constant
  return integerOf type value

/-- What one attribute says. -/
def attributeFrom (g : Grammar) (tokens : List Token) : Parse Attributes := do
  let (word, rest) := match tokens with
    | .name _ :: .mark "::" :: .name word :: rest => (plainWord word, rest)
    | .name word :: rest => (plainWord word, rest)
    | _ => ("", [])
  let inner := (rest.drop 1).dropLast
  let text : Option String := match inner with
    | .text text :: _ => some (textIn text)
    | _ => none
  match word with
  | "packed" => return { isPacked := true }
  | "aligned" =>
    if inner.isEmpty then return { aligned := some 16 }
    else
      let number ← numberIn g inner
      require (0 < number)
      return { aligned := some number.toNat }
  | "weak" => return { isWeak := true }
  | "weakref" => return { isWeak := true, standsFor := text }
  | "alias" => do
    require text.isSome
    return { standsFor := text }
  | "visibility" =>
    match text with
    | some "hidden" | some "internal" => return { visible := some false }
    | some "default" | some "protected" => return { visible := some true }
    | _ => failure
  | "constructor" | "init_priority" =>
    if inner.isEmpty then return { atStart := some 65535 }
    else return { atStart := some (← numberIn g inner).toNat }
  | "destructor" => return { atEnd := true }
  | "cleanup" =>
    match inner with
    | [.name name] => return { cleanup := some name }
    | _ => failure
  | "noreturn" => return { endsRun := true }
  | "always_inline" | "gnu_inline" => return { isCopied := true }
  | "used" | "unused" | "maybe_unused" => return { isUsed := true }
  | "mode" =>
    match inner with
    | [.name name] => return { mode := some (plainWord name) }
    | _ => failure
  | "vector_size" => return { vector := some (← numberIn g inner).toNat }
  | "error" => return {}
  | _ => return {}

/-- Reads one list of attributes. -/
def attributeList (g : Grammar) : Parse Attributes := do
  match (← get).tokens with
  | .name "__attribute__" :: _ | .name "__attribute" :: _ => do
    skip 1
    let inner ← enclosed
    let items ← (match inner with
      | .mark "(" :: _ => pure ((inner.drop 1).dropLast)
      | _ => failure : Parse (List Token))
    let found ← (splitAt (.mark ",") items).mapM (attributeFrom g)
    return found.foldl Attributes.and {}
  | .mark "[" :: .mark "[" :: _ => do
    let inner ← enclosed
    let items := (inner.drop 1).dropLast
    let found ← (splitAt (.mark ",") items).mapM (attributeFrom g)
    return found.foldl Attributes.and {}
  | .name "alignas" :: _ | .name "_Alignas" :: _ => do
    skip 1
    let inner ← enclosed
    let number ← (do
        let type ← within inner g.typeName
        pure (← alignmentOf type : Nat)) <|> (do
        let number ← numberIn g inner
        require (0 ≤ number)
        pure number.toNat)
    require (number = 0 || number &&& (number - 1) = 0)
    return { aligned := if number = 0 then none else some number }
  | .name "__asm__" :: _ | .name "asm" :: _ | .name "__asm" :: _ => do
    skip 1
    match ← enclosed with
    | [.text text] => return { symbol := some (textIn text) }
    | _ => failure
  | .name "_Pragma" :: .mark "(" :: _ => do
    skip 1
    discard balanced
    return {}
  | _ => failure

/-- Reads attributes. -/
def attributes (g : Grammar) : Parse Attributes := do
  return (← many (attributeList g)).foldl Attributes.and {}

/-! ### Words in front of a declaration -/

/-- Words that make up a type of numbers. -/
def numberWords : List String :=
  ["char", "short", "int", "long", "unsigned", "signed", "__signed__", "float", "double", "_Bool",
    "__int128", "__int128_t", "__uint128_t", "_Float32", "_Float64", "__float128", "_Float128"]

/-- The type of numbers that words make up. -/
def numberType? (unsignedChar : Bool) (words : List String) : Option Arithmetic :=
  let count (word : String) : Nat := words.count word
  let unsigned := 0 < count "unsigned"
  let signed := 0 < count "signed" + count "__signed__"
  let others (allowed : List String) : Bool :=
    words.all fun word => allowed.contains word || ["signed", "__signed__", "unsigned"].contains word
  if unsigned && signed || 1 < count "unsigned" || 1 < count "int" then none
  else if 0 < count "_Bool" then if words.length = 1 then some .bool else none
  else if 0 < count "__int128_t" then if words.length = 1 then some .wide else none
  else if 0 < count "__uint128_t" then if words.length = 1 then some .unsignedWide else none
  else if 0 < count "float" + count "_Float32" then
    if words.length = 1 then some .float else none
  else if 0 < count "_Float64" then if words.length = 1 then some .double else none
  else if 0 < count "__float128" + count "_Float128" then
    if words.length = 1 then some .longDouble else none
  else if 0 < count "double" then
    if words.length = 1 then some .double
    else if words.length = 2 && count "long" = 1 then some .longDouble
    else none
  else if 0 < count "char" then
    if !others ["char"] || count "char" ≠ 1 then none
    else if unsigned then some .unsignedChar
    else if signed then some .signedChar
    else some (if unsignedChar then .unsignedChar else .char)
  else if 0 < count "short" then
    if !others ["short", "int"] || count "short" ≠ 1 then none
    else some (if unsigned then .unsignedShort else .short)
  else if 0 < count "__int128" then
    if !others ["__int128"] then none else some (if unsigned then .unsignedWide else .wide)
  else if count "long" = 1 then
    if !others ["long", "int"] then none else some (if unsigned then .unsignedLong else .long)
  else if count "long" = 2 then
    if !others ["long", "int"] then none
    else some (if unsigned then .unsignedLongLong else .longLong)
  else if 2 < count "long" then none
  else if others ["int"] then some (if unsigned then .unsignedInt else .int)
  else none

/-- The type of integers of a machine mode. -/
def modeType? (mode : String) (type : Arithmetic) : Option Arithmetic :=
  let signed := type.isSigned
  match mode with
  | "QI" | "byte" => some (if signed then .signedChar else .unsignedChar)
  | "HI" => some (if signed then .short else .unsignedShort)
  | "SI" => some (if signed then .int else .unsignedInt)
  | "DI" | "word" | "pointer" => some (if signed then .long else .unsignedLong)
  | "TI" => some (if signed then .wide else .unsignedWide)
  | "SF" => some .float
  | "DF" => some .double
  | _ => none

/-- What has been read of the words in front of a declaration. -/
structure Wording where
  found : Specifiers := {}
  /-- Words of a type of numbers. -/
  words : List String := []
  /-- Whether the numbers are complex. -/
  isComplex : Bool := false
  isConst : Bool := false

/-- Whether a name is that of the class whose members are being read. -/
def isClassName (reading : Reading) (name : String) : Bool :=
  match reading.scopes[homeOf reading searchDepth reading.scope]? with
  | some { holder := .record tag, .. } =>
    (reading.records[tag]?).any fun record => record.name == name
  | _ => false

/-- Whether the function that makes objects of a class is named here. -/
def seesMaker (g : Grammar) : Parse Bool := do
  let reading ← get
  match reading.tokens with
  | .name name :: .mark "(" :: _ =>
    if isClassName reading name then return true else return false
  | .name name :: .mark "<" :: _ =>
    if isClassName reading name then
      would do
        skip 1
        discard (templateArguments g)
        mark "("
    else afterScopes
  | .name _ :: .mark "::" :: _ => afterScopes
  | _ => return false
where
  /-- The same behind scopes. -/
  afterScopes : Parse Bool := would do
    match ← nested g with
    | .inside scope =>
      match (← scopeAt scope).holder with
      | .record tag => do
        let record ← recordAt tag
        word record.name
        mark "("
      | _ => failure
    | _ => failure

/-- Words that say nothing here. -/
def idleWords : List String :=
  ["volatile", "restrict", "__restrict", "__restrict__", "__volatile__", "__volatile", "register",
    "__extension__", "_Atomic", "__const__"]

/-- Whether tokens are a name, or a member of something. -/
def nameMember (tokens : List Token) : Bool :=
  let step (state : Nat × Bool) (token : Token) : Nat × Bool :=
    let (depth, sound) := state
    match token with
    | .mark "(" | .mark "[" | .mark "\x7b" => (depth + 1, sound)
    | .mark ")" | .mark "]" | .mark "\x7d" => (depth - 1, sound)
    | .mark text => (depth, sound && (depth != 0 || [".", "->", "::"].contains text))
    | _ => (depth, sound)
  match tokens.getLast? with
  | some (.name _) => (tokens.foldl step (0, true)).2
  | _ => false

/-- The type of an operand as it was declared. -/
def writtenType (operand : Operand) : Parse CType := do
  if operand.type == .unknown then
    let (type, _) ← valueOf operand
    return match type with
      | .pointer (.function result parameters manner) => .function result parameters manner
      | other => other
  else return operand.type

/-- The type of the expression that tokens are, or of what a name among them stands for. -/
def typeOfTokens (g : Grammar) (tokens : List Token) : Parse CType := do
  let named ← (do
    match tokens with
    | [.name name] => do
      match ← find? name with
      | some (.object found, _) => pure (some found.type)
      | _ => pure none
    | _ => pure none : Parse (Option CType))
  if let some type := named then
    if type.isReference then return type
  let operand ← withoutCode (withAngles false (within tokens g.expression))
  let type ← writtenType operand
  match operand with
  | .place _ _ _ isSpare =>
    return if nameMember tokens then type else type.referenceTo isSpare
  | _ => return type

/-- Reads the type of an expression, or of what a name stands for. -/
def typeOfExpression (g : Grammar) : Parse CType := do
  match ← optional (scopeStep? g .here) with
  | some (some _) => failure
  | _ => pure ()
  skip 1
  let inner ← enclosed
  match inner with
  | [.name "auto"] => return .exactly
  | inner =>
    typeOfTokens g inner <|> (do
      require (← isOpenHere)
      return .unknown)

/-- Reads one more word in front of a declaration. -/
def oneSpecifier (g : Grammar) (wording : Wording) : Parse Wording := do
  let options := (← get).options
  let found := wording.found
  let isTyped := found.type.isSome || !wording.words.isEmpty
  let set (found : Specifiers) : Parse Wording := do
    skip 1
    return { wording with found := { found with isWritten := true } }
  let typed (type : CType) : Parse Wording := do
    require !isTyped
    return { wording with found := { found with type := some type, isWritten := true } }
  match ← peek with
  | .mark "[" => do
    let more ← attributeList g
    return { wording with found := { found with attributes := found.attributes.and more } }
  | .mark "::" => typed (← namedType g)
  | .name text =>
    match text with
    | "const" | "__const" => do
      skip 1
      return { wording with isConst := true, found := { found with isWritten := true } }
    | "typedef" => set { found with isTypeName := true }
    | "static" => set { found with isStatic := true }
    | "extern" =>
      match ← peekSecond with
      | .text _ => failure
      | _ => set { found with isExternal := true }
    | "inline" | "__inline" | "__inline__" => set { found with isInline := true }
    | "_Noreturn" => set { found with endsRun := true }
    | "_Thread_local" | "__thread" | "thread_local" => set { found with isThread := true }
    | "__attribute__" | "__attribute" | "_Alignas" | "alignas" | "_Pragma" => do
      let more ← attributeList g
      return { wording with found := { found with attributes := found.attributes.and more } }
    | "void" => do
      skip 1
      typed .void
    | "struct" | "union" | "enum" => typed (← g.tagged)
    | "__builtin_va_list" => do
      skip 1
      typed (.pointer .char)
    | "typeof" | "__typeof__" | "__typeof" | "typeof_unqual" => do
      skip 1
      mark "("
      let type ← g.typeName <|> (do writtenType (← withoutCode g.expression))
      mark ")"
      typed (if text == "typeof_unqual" then type.bare else type.referred)
    | "__auto_type" => do
      skip 1
      typed .deduced
    | "__underlying_type" => do
      skip 1
      mark "("
      let type ← g.typeName
      mark ")"
      match type.bare with
      | .enumeration _ _ base => typed (.arithmetic base)
      | other => do
        require other.isOpenType
        typed .unknown
    | "_Complex" | "__complex__" | "__complex" => do
      skip 1
      return { wording with isComplex := true, found := { found with isWritten := true } }
    | "auto" =>
      if options.isPlus || (2023 ≤ options.year && !isTyped) then do
        skip 1
        typed .deduced
      else set found
    | "_Atomic" =>
      match ← peekSecond with
      | .mark "(" => do
        skip 2
        let type ← g.typeName
        mark ")"
        typed type
      | _ => set found
    | text =>
      if idleWords.contains text then set found
      else if numberWords.contains text && (found.type.isNone) then do
        skip 1
        return { wording with words := wording.words ++ [text]
                              found := { found with isWritten := true } }
      else if !options.isPlus then
        if 2023 ≤ options.year && text == "constexpr" then
          set { found with isConstexpr := true }
        else if 2023 ≤ options.year && text == "bool" then do
          skip 1
          typed .bool
        else do
          require !isTyped
          typed (← namedType g)
      else
        match text with
        | "constexpr" | "consteval" | "constinit" =>
          set { found with isConstexpr := found.isConstexpr || text != "constinit" }
        | "virtual" => set { found with isVirtual := true }
        | "mutable" => set { found with isMutable := true }
        | "friend" => set { found with isFriend := true }
        | "explicit" => do
          skip 1
          let holds ← if ← sees "(" then do
              let number ← numberIn g (← enclosed)
              pure (number != 0)
            else pure true
          return { wording with found := { found with isExplicit := holds, isWritten := true } }
        | "bool" => do
          skip 1
          typed .bool
        | "wchar_t" => do
          skip 1
          typed (.arithmetic .wcharType)
        | "char16_t" => do
          skip 1
          typed (.arithmetic .char16)
        | "char32_t" => do
          skip 1
          typed (.arithmetic .char32)
        | "char8_t" => do
          require (2020 ≤ options.year)
          skip 1
          typed (.arithmetic .char8)
        | "class" => typed (← g.tagged)
        | "typename" => do
          skip 1
          typed (← namedType g)
        | "decltype" => typed (← typeOfExpression g)
        | _ => do
          require !isTyped
          if ← seesMaker g then failure
          let concept? ← optional (do
            let place ← nested g
            let name ← identifier
            match ← findIn? place name with
            | some (.template number, _) => do
              let template ← templateAt number
              require (template.product == .condition)
              if ← sees "<" then discard (templateArguments g)
              require (← seesWord "auto")
            | _ => failure)
          match concept? with
          | some _ => return wording
          | none => typed (← namedType g)
  | _ => failure

/-- Reads further words in front of a declaration. -/
def specifiersUpTo (g : Grammar) : Nat → Wording → Parse Wording
  | 0, wording => return wording
  | fuel + 1, wording => do
    match ← optional (oneSpecifier g wording) with
    | some wording => specifiersUpTo g fuel wording
    | none => return wording

/-- Reads the words in front of a declaration, and the type they make up. -/
def specifiers (g : Grammar) : Parse Specifiers := do
  let options := (← get).options
  let wording ← specifiersUpTo g 64 {}
  let found := wording.found
  let words := if wording.isComplex && wording.words.isEmpty then ["double"] else wording.words
  let type ← (if words.isEmpty then pure found.type
    else (do
      require found.type.isNone
      let number ← orFail (numberType? options.unsignedChar words)
      let number ← match found.attributes.mode with
        | some mode => orFail (modeType? mode number)
        | none => pure number
      if wording.isComplex then pure (some (← laneType ⟨number, 2, true⟩))
      else pure (some (.arithmetic number))) : Parse (Option CType))
  let type ← match found.attributes.vector, type with
    | some size, some type => do pure (some (← rowType size type))
    | _, type => pure type
  let type := if wording.isConst then type.map CType.constant
    else type
  return { found with type }

end Parse

end KernelCache.C
