/-
**Octet strings and UTF-8.**

Paths, commands and file contents are octet strings; names and messages are character strings.
This module holds both directions between the two.

* `Bytes.ofString` writes a text as UTF-8.
* `Utf8.chars` reads octets from the left: every well formed character is one `some`, and every
  maximal ill formed part is one `none`.
* `Utf8.decode?` accepts exactly the octets without an ill formed part, `Utf8.lossy` replaces each
  such part by U+FFFD.
-/

namespace KernelCache

/-- A string of octets. -/
abbrev Bytes := List UInt8

/-- The UTF-8 form of a text. -/
def Bytes.ofString (text : String) : Bytes :=
  text.toList.flatMap String.utf8EncodeChar

namespace Utf8

/-- The range of an ordinary continuation octet. -/
def tail : UInt8 × UInt8 := (0x80, 0xBF)

/-- What has to follow the first octet of a character: one range per continuation octet, or `none`
when no character starts with that octet. -/
def continuation (first : UInt8) : Option (List (UInt8 × UInt8)) :=
  if first < 0x80 then some []
  else if first < 0xC2 then none
  else if first < 0xE0 then some [tail]
  else if first = 0xE0 then some [(0xA0, 0xBF), tail]
  else if first = 0xED then some [(0x80, 0x9F), tail]
  else if first < 0xF0 then some [tail, tail]
  else if first = 0xF0 then some [(0x90, 0xBF), tail, tail]
  else if first < 0xF4 then some [tail, tail, tail]
  else if first = 0xF4 then some [(0x80, 0x8F), tail, tail]
  else none

/-- How many of the ranges the octets fulfil before the first one that fails. -/
def fulfilled : List (UInt8 × UInt8) → Bytes → Nat
  | (low, high) :: ranges, octet :: rest =>
    if low ≤ octet ∧ octet ≤ high then fulfilled ranges rest + 1 else 0
  | _, _ => 0

/-- The bits a first octet contributes when `count` octets follow it. -/
def leadBits (first : UInt8) : Nat → Nat
  | 0 => first.toNat
  | 1 => first.toNat % 0x20
  | 2 => first.toNat % 0x10
  | _ => first.toNat % 0x08

/-- The character made of a first octet and its continuation octets. -/
def assemble (first : UInt8) (rest : Bytes) : Char :=
  Char.ofNat (rest.foldl (fun value octet => value * 64 + octet.toNat % 64)
    (leadBits first rest.length))

/-- The characters of an octet string; `none` stands for a maximal ill formed part. -/
def chars : Bytes → List (Option Char)
  | [] => []
  | first :: rest =>
    match continuation first with
    | none => none :: chars rest
    | some ranges =>
      let count := fulfilled ranges rest
      let char := if count = ranges.length then some (assemble first (rest.take count)) else none
      char :: chars (rest.drop count)
termination_by bytes => bytes.length
decreasing_by
  · simp
  · simp only [List.length_drop, List.length_cons]; omega

/-- The characters of a well formed octet string. -/
def decode? (bytes : Bytes) : Option (List Char) :=
  (chars bytes).mapM id

/-- The text of an octet string, with U+FFFD for every ill formed part. -/
def lossy (bytes : Bytes) : String :=
  String.ofList ((chars bytes).map (·.getD (Char.ofNat 0xFFFD)))

/-- Whether every octet belongs to a well formed character. -/
def valid (bytes : Bytes) : Bool :=
  (chars bytes).all Option.isSome

end Utf8

end KernelCache

/-! ## Octets as characters

Programs that look at single octets, such as a shell, treat an octet string as a list of characters
below 256. The two directions undo each other on such lists.
-/

namespace KernelCache.Bytes

/-- Every octet as the character of that number. -/
def toChars (bytes : Bytes) : List Char :=
  bytes.map fun byte => Char.ofNat byte.toNat

/-- Every character as the octet of that number. -/
def ofChars (chars : List Char) : Bytes :=
  chars.map fun char => UInt8.ofNat char.toNat

end KernelCache.Bytes
