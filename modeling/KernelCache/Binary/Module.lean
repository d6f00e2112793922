import KernelCache.Assembly.Unit
import KernelCache.Standard.Library
import KernelCache.Text.Numeral
import KernelCache.Text.Utf8

/-
**Object files and images.**

Both carry translation units as text, behind octets that are no text. An object holds one unit; an
image holds all units that were linked and counts its own octets, so that a part of an image is no
image.

* `ObjectFile.encode` and `ObjectFile.decode?` write and read objects.
* `ImageFile.encode` and `ImageFile.decode?` write and read images.
-/

namespace KernelCache

/-- A unit in the form in which files carry it. -/
structure UnitText where
  /-- How the text is to be read. -/
  options : C.Options := {}
  text : Bytes
  deriving DecidableEq, Repr

namespace UnitText

/-- A number in sixteen digits. -/
def count (value : Nat) : Bytes := Bytes.ofChars (Numeral.hex 16 value)

/-- Reads a number in sixteen digits. -/
def count? (bytes : Bytes) : Option Nat :=
  Numeral.digits? 16 (twoTo 64) 0 (Bytes.toChars (bytes.take 16))

/-- The letter of a dialect. -/
def letter : C.Dialect → UInt8
  | .c => 0x63
  | .cpp => 0x2B
  | .assembly => 0x73

/-- What a letter means. -/
def ofLetter? (letter : UInt8) : Option C.Dialect :=
  if letter = 0x63 then some .c
  else if letter = 0x2B then some .cpp
  else if letter = 0x73 then some .assembly
  else none

/-- The choices among the options, in their order. -/
def choices (options : C.Options) : List Bool :=
  [options.isStrict, options.shortEnums, options.unsignedChar, options.hidden, options.optimized,
    options.common, options.noExceptions, options.noTypes, options.permissive, options.pedantic]

/-- The number of the options: the year of the standard with a bit for every choice. -/
def number (options : C.Options) : Nat :=
  (choices options).foldl (fun number choice => 2 * number + (if choice then 1 else 0)) options.year

/-- The options of a dialect with a number. -/
def ofNumber (dialect : C.Dialect) (number : Nat) : C.Options :=
  let choice (place : Nat) : Bool := number / twoTo (9 - place) % 2 == 1
  { dialect
    year := number / twoTo 10
    isStrict := choice 0, shortEnums := choice 1, unsignedChar := choice 2, hidden := choice 3
    optimized := choice 4, common := choice 5, noExceptions := choice 6, noTypes := choice 7
    permissive := choice 8, pedantic := choice 9 }

/-- The octets of a unit. -/
def encode (unit : UnitText) : Bytes :=
  letter unit.options.dialect :: count (number unit.options) ++ count unit.text.length ++ unit.text

/-- Reads a unit, and what follows it. -/
def decode? : Bytes → Option (UnitText × Bytes)
  | [] => none
  | first :: rest => do
    let dialect ← ofLetter? first
    let number ← count? rest
    let size ← count? (rest.drop 16)
    let text := (rest.drop 32).take size
    if text.length < size ∨ rest.length < 32 then none
    else return (⟨ofNumber dialect number, text⟩, rest.drop (32 + size))

/-- The source that the text is. -/
def source? (unit : UnitText) : Option C.Source := do
  let chars := Bytes.toChars unit.text
  let tokens ← C.Token.list? unit.options.isPlus chars
  C.Source.read? unit.options Standard.library tokens

/-- The piece of a program that the text means. -/
def piece? (unit : UnitText) : Option Code.Piece :=
  if unit.options.dialect = .assembly then Assembly.Unit.piece? (Bytes.toChars unit.text)
  else unit.source?.map (·.piece)

end UnitText

namespace ObjectFile

/-- The octets at the front of an object. -/
def mark : Bytes := [0x7F, 0x45, 0x4C, 0x46, 0x02, 0x01, 0x01, 0x00, 0x01, 0x89]

/-- The octets of an object. -/
def encode (unit : UnitText) : Bytes := mark ++ unit.encode

/-- The unit of an object. -/
def decode? (bytes : Bytes) : Option UnitText :=
  if mark.isPrefixOf bytes then (UnitText.decode? (bytes.drop mark.length)).map (·.1) else none

end ObjectFile

namespace AssemblyFile

/-- The text at the front of what the compiler writes for the assembler. -/
def mark : Bytes := Bytes.ofString "\t.file\t\"\"\n\t.text\n# "

/-- A unit as a text for the assembler: a comment carries it. -/
def encode (unit : UnitText) : Bytes :=
  mark ++ Bytes.ofChars (unit.encode.flatMap fun octet => Numeral.hex 2 octet.toNat) ++ [0x0A]

/-- The octets that digits in pairs stand for. -/
def octets? : List Char → Option Bytes
  | high :: low :: rest => do
    let number ← Numeral.digits? 16 256 0 [high, low]
    return UInt8.ofNat number :: (← octets? rest)
  | [] => some []
  | [_] => none

/-- The unit that a text for the assembler carries. -/
def decode? (bytes : Bytes) : Option UnitText := do
  if mark.isPrefixOf bytes then
    let digits := (bytes.drop mark.length).takeWhile (· != 0x0A)
    return (← UnitText.decode? (← octets? (Bytes.toChars digits))).1
  else none

end AssemblyFile

/-- What an image carries. -/
structure ImageText where
  units : List UnitText
  /-- The libraries that it was linked with. -/
  libraries : Standard.Libraries := {}
  deriving DecidableEq, Repr

namespace ImageText

/-- The program of an image, when everything that it needs at the start is there. -/
def program? (image : ImageText) : Option Code.Program := do
  let pieces ← image.units.mapM UnitText.piece?
  let program := Code.Program.link image.libraries.toLibrary pieces
  if program.missing.isEmpty && (image.libraries.plus || !pieces.any Code.Piece.needsRuntime) then
    return program
  else none

end ImageText

namespace ImageFile

/-- The octets at the front of an image. -/
def mark : Bytes := [0x7F, 0x45, 0x4C, 0x46, 0x02, 0x01, 0x01, 0x00, 0x03, 0x89]

/-- The least size of an image. -/
def leastSize : Nat := 15000

/-- The number of the libraries of an image: a bit for each. -/
def numberOf (libraries : Standard.Libraries) : Nat :=
  (if libraries.basic then 4 else 0) + (if libraries.mathematics then 2 else 0)
    + (if libraries.plus then 1 else 0)

/-- The libraries of a number. -/
def librariesOf (number : Nat) : Standard.Libraries :=
  { basic := number / 4 % 2 == 1, mathematics := number / 2 % 2 == 1, plus := number % 2 == 1 }

/-- The octets of an image: its size, its libraries, the number of its units, the units, and a
filling. -/
def encode (image : ImageText) : Bytes :=
  let body := UnitText.count (numberOf image.libraries) ++ UnitText.count image.units.length
    ++ image.units.flatMap UnitText.encode
  let size := max leastSize (mark.length + 16 + body.length)
  let front := mark ++ UnitText.count size ++ body
  front ++ List.replicate (size - front.length) 0

/-- Reads so many units. -/
def units? : Nat → Bytes → Option (List UnitText)
  | 0, _ => some []
  | remaining + 1, bytes => do
    let (unit, rest) ← UnitText.decode? bytes
    return unit :: (← units? remaining rest)

/-- The image that octets are, when it is complete. -/
def decode? (bytes : Bytes) : Option ImageText := do
  if mark.isPrefixOf bytes then
    let rest := bytes.drop mark.length
    let size ← UnitText.count? rest
    if bytes.length < size then none
    else
      let libraries ← UnitText.count? (rest.drop 16)
      let count ← UnitText.count? (rest.drop 32)
      return { units := ← units? count (rest.drop 48), libraries := librariesOf libraries }
  else none

end ImageFile

end KernelCache
