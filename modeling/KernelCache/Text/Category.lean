/-
**Categories of characters.**

Patterns, expressions and lists of characters name classes of characters by words such as `alpha`.
They are about ASCII characters only.
-/

namespace KernelCache.Text

/-- A category of characters. -/
inductive Category where
  | alnum
  | alpha
  | blank
  | cntrl
  | digit
  | graph
  | lower
  | print
  | punct
  | space
  | upper
  | xdigit
  deriving DecidableEq, Repr

namespace Category

/-- The names of the categories. -/
def names : List (String × Category) := [
  ("alnum", alnum), ("alpha", alpha), ("blank", blank), ("cntrl", cntrl), ("digit", digit),
  ("graph", graph), ("lower", lower), ("print", print), ("punct", punct), ("space", space),
  ("upper", upper), ("xdigit", xdigit)]

/-- The category with a name. -/
def ofName? (name : String) : Option Category := names.lookup name

/-- Whether a character belongs to a category. -/
def accepts (category : Category) (char : Char) : Bool :=
  let isLower := 'a' ≤ char && char ≤ 'z'
  let isUpper := 'A' ≤ char && char ≤ 'Z'
  let isDigit := '0' ≤ char && char ≤ '9'
  let isGraph := '!' ≤ char && char ≤ '~'
  match category with
  | alnum => isLower || isUpper || isDigit
  | alpha => isLower || isUpper
  | blank => char == ' ' || char == '\t'
  | cntrl => char < ' ' || char == '\x7f'
  | digit => isDigit
  | graph => isGraph
  | lower => isLower
  | print => isGraph || char == ' '
  | punct => isGraph && !(isLower || isUpper || isDigit)
  | space => char == ' ' || ('\t' ≤ char && char ≤ '\r')
  | upper => isUpper
  | xdigit => isDigit || ('a' ≤ char && char ≤ 'f') || ('A' ≤ char && char ≤ 'F')

end Category

/-- What stands in the brackets of a pattern or an expression. -/
inductive Member where
  | range (low high : Char)
  | category (named : Category)
  deriving DecidableEq, Repr

/-- Whether a character is meant by a member. -/
def Member.accepts (char : Char) : Member → Bool
  | .range low high => low ≤ char && char ≤ high
  | .category named => named.accepts char

end KernelCache.Text

/-! ## White space

`isBlank` is the Unicode property White_Space, which is wider than the six ASCII blanks;
`trim` removes it from both ends of a text.
-/

namespace KernelCache.Text

/-- The Unicode property White_Space. -/
def isBlank (char : Char) : Bool :=
  let point := char.toNat
  (9 ≤ point && point ≤ 13) || point == 0x20 || point == 0x85 || point == 0xA0 || point == 0x1680
    || (0x2000 ≤ point && point ≤ 0x200A) || point == 0x2028 || point == 0x2029
    || point == 0x202F || point == 0x205F || point == 0x3000

/-- The text without the white space at its two ends. -/
def trim (text : List Char) : List Char :=
  ((text.dropWhile isBlank).reverse.dropWhile isBlank).reverse

/-- The text without the white space at its two ends. -/
def trimmed (text : String) : String :=
  String.ofList (trim text.toList)

end KernelCache.Text
