import KernelCache.Digest
import KernelCache.Text.Numeral
import KernelCache.Utility.FileTools
import KernelCache.Utility.Option

/-
**Programs that write octets in another form.**

`Dump.od` writes them as numbers, `Dump.base64` as letters, and `Dump.sha256sum` and `Dump.md5sum`
write digests of them.
-/

namespace KernelCache.Dump

open Host Program

/-! ### Numbers -/

/-- How octets are written: as numbers in a base, or as characters. -/
structure Form where
  letter : Char
  /-- How many octets make a number. -/
  size : Nat
  /-- Whether the characters follow at the end of the line. -/
  withText : Bool := false

/-- How wide an item is. -/
def Form.width (form : Form) : Nat :=
  let column := if form.size = 1 then 0 else if form.size = 2 then 1 else if form.size = 4 then 2 else 3
  let widths : List Nat := match form.letter with
    | 'o' => [3, 6, 11, 22]
    | 'd' => [4, 6, 11, 20]
    | 'u' => [3, 5, 10, 20]
    | 'x' => [2, 4, 8, 16]
    | _ => [3, 3, 3, 3]
  (widths[column]?).getD 3

/-- The names of the characters that cannot be seen. -/
def controlNames : List String := [
  "nul", "soh", "stx", "etx", "eot", "enq", "ack", "bel", "bs", "ht", "nl", "vt", "ff", "cr", "so",
  "si", "dle", "dc1", "dc2", "dc3", "dc4", "nak", "syn", "etb", "can", "em", "sub", "esc", "fs",
  "gs", "rs", "us", "sp"]

/-- An octet as a character. -/
def charText (byte : UInt8) : List Char :=
  match Char.ofNat byte.toNat with
  | '\x00' => "\\0".toList
  | '\x07' => "\\a".toList
  | '\x08' => "\\b".toList
  | '\x0c' => "\\f".toList
  | '\n' => "\\n".toList
  | '\r' => "\\r".toList
  | '\t' => "\\t".toList
  | '\x0b' => "\\v".toList
  | char =>
    if ' ' ≤ char ∧ char ≤ '~' then [char]
    else
      let digits := Nat.toDigits 8 byte.toNat
      List.replicate (3 - digits.length) '0' ++ digits

/-- An item of octets. -/
def Form.item (form : Form) (octets : Bytes) : List Char :=
  let value := octets.reverse.foldl (fun value octet => value * 256 + octet.toNat) 0
  let padded (base : Nat) : List Char :=
    let digits := Nat.toDigits base value
    List.replicate (form.width - digits.length) '0' ++ digits
  match form.letter with
  | 'o' => padded 8
  | 'x' => padded 16
  | 'u' => decimal value
  | 'd' =>
    let limit := twoTo (8 * octets.length)
    if value * 2 < limit then decimal value else '-' :: decimal (limit - value)
  | 'a' =>
    let code := value % 128
    if code = 127 then "del".toList
    else match controlNames[code]? with
      | some name => name.toList
      | none => [Char.ofNat code]
  | _ => charText (octets.headD 0)

/-- The forms that the word behind an option names. -/
def forms? : Nat → List Char → Option (List Form)
  | 0, _ => none
  | _ + 1, [] => some []
  | fuel + 1, letter :: rest =>
    let (size?, rest) := match rest with
      | 'C' :: rest => (some 1, rest)
      | 'S' :: rest => (some 2, rest)
      | 'I' :: rest => (some 4, rest)
      | 'L' :: rest => (some 8, rest)
      | rest =>
        let digits := rest.takeWhile Char.isDigit
        ((String.ofList digits).toNat?, rest.drop digits.length)
    let (withText, rest) := match rest with
      | 'z' :: rest => (true, rest)
      | rest => (false, rest)
    let usual := if letter = 'a' ∨ letter = 'c' then 1 else 4
    let size := size?.getD usual
    if !"acdoux".toList.contains letter ∨ !( [1, 2, 4, 8] : List Nat).contains size then none
    else (forms? fuel rest).map fun others =>
      { letter, size := if usual = 1 then 1 else size, withText } :: others

/-- Writes octets as numbers or as characters. -/
def od : Tool :=
  let grammar : Grammar :=
    .of "A:j:N:S:t:vw::abcdfhiloxsDOX" [("address-radix=", 'A'), ("skip-bytes=", 'j'),
      ("read-bytes=", 'N'), ("format=", 't'), ("output-duplicates", 'v'), ("width?", 'w')]
  withOptions grammar 1 fun options => do
    let plain (letter : Char) : Option (List Form) :=
      match letter with
      | 'a' => some [⟨'a', 1, false⟩]
      | 'b' => some [⟨'o', 1, false⟩]
      | 'c' => some [⟨'c', 1, false⟩]
      | 'd' => some [⟨'u', 2, false⟩]
      | 'o' => some [⟨'o', 2, false⟩]
      | 's' => some [⟨'d', 2, false⟩]
      | 'x' | 'h' => some [⟨'x', 2, false⟩]
      | 'i' | 'D' => some [⟨'d', 4, false⟩]
      | 'l' => some [⟨'d', 8, false⟩]
      | 'O' => some [⟨'o', 4, false⟩]
      | 'X' => some [⟨'x', 4, false⟩]
      | _ => none
    let found := options.found.filterMap fun (letter, value?) =>
      if letter = 't' then some ((forms? (value?.getD []).length.succ (value?.getD []))) else
        (plain letter).map some
    match found.mapM id with
    | none => do
      complain ("invalid type string ".toList ++ inQuotes ((options.value? 't').getD []))
      return 1
    | some lists => do
      let forms := if lists.isEmpty then [⟨'o', 2, false⟩] else lists.flatten
      let limit? := (options.value? 'N').bind FileTools.amount?
      let skip := ((options.value? 'j').bind FileTools.amount?).getD 0
      let mut pieces : List Bytes := []
      let mut done := true
      for operand in orInput options.operands do
        match ← contentsOf operand (limit?.map (· + skip)) with
        | .ok bytes => pieces := bytes :: pieces
        | .error fault => do
          complainOf operand fault
          done := false
      let bytes := pieces.reverse.flatten.drop skip
      let bytes := match limit? with
        | some limit => bytes.take limit
        | none => bytes
      let width := if options.has 'w' then ((options.value? 'w').bind count?).getD 32 else 16
      let unit := forms.foldl (fun unit form =>
        max unit ((form.width + 1 + form.size - 1) / form.size)) 1
      let address (offset : Nat) : List Char :=
        let padded (base count : Nat) : List Char :=
          let digits := Nat.toDigits base offset
          List.replicate (count - digits.length) '0' ++ digits
        match options.value? 'A' with
        | some ['n'] => []
        | some ['x'] => padded 16 6
        | some ['d'] => padded 10 7
        | _ => padded 8 7
      let single := forms.length = 1
      let mut offset := skip
      let mut last : Bytes := []
      let mut starred := false
      for line in Sha256.chunks width bytes do
        if line = last ∧ line.length = width ∧ !options.has 'v' then
          if !starred then sayLine ['*']
          starred := true
        else
          starred := false
          let front := address offset
          for (index, form) in (List.range forms.length).zip forms do
            let unit := if single then
                (form.width + 1) else unit * form.size
            let filled := line ++ List.replicate ((form.size - line.length % form.size) % form.size) 0
            let items := (Sha256.chunks form.size filled).map form.item
            let text := items.flatMap (rightward unit)
            let shown := line.map fun byte =>
              let char := Char.ofNat byte.toNat
              if ' ' ≤ char ∧ char ≤ '~' then char else '.'
            let text := if form.withText then
                leftward (width / form.size * unit) text ++ "  >".toList ++ shown ++ ['<'] else text
            sayLine ((if index = 0 then front else List.replicate front.length ' ') ++ text)
        last := line
        offset := offset + line.length
      if options.value? 'A' ≠ some ['n'] then sayLine (address offset)
      return statusOf done

/-! ### Letters -/

/-- The letters of base 64. -/
def letters : List Char :=
  "ABCDEFGHIJKLMNOPQRSTUVWXYZabcdefghijklmnopqrstuvwxyz0123456789+/".toList

/-- Octets as letters. -/
def encoded (bytes : Bytes) : List Char :=
  (Sha256.chunks 3 bytes).flatMap fun group =>
    let value := (group ++ List.replicate (3 - group.length) 0).foldl
      (fun value octet => value * 256 + octet.toNat) 0
    let all := [value / 262144, value / 4096 % 64, value / 64 % 64, value % 64].map fun index =>
      (letters[index]?).getD 'A'
    all.take (group.length + 1) ++ List.replicate (3 - group.length) '='

/-- The octets that letters stand for. -/
def decoded? (text : List Char) : Option Bytes :=
  if text.length % 4 ≠ 0 then none
  else
    ((Sha256.chunks 4 text).mapM fun (group : List Char) => do
      let body := group.filter (· != '=')
      if body.length < 2 then none
      let values ← body.mapM letters.idxOf?
      let value := (values ++ List.replicate (4 - values.length) 0).foldl
        (fun value part => value * 64 + part) 0
      return ([value / 65536, value / 256 % 256, value % 256].map UInt8.ofNat).take
        (body.length - 1)).map List.flatten

/-- Writes octets as letters, or the octets of letters. -/
def base64 : Tool :=
  let grammar : Grammar := .of "diw:" [("decode", 'd'), ("ignore-garbage", 'i'), ("wrap=", 'w')]
  withOptions grammar 1 fun options => do
    let operand := options.operands.headD ['-']
    if let some extra := options.operands[1]? then return ← surplus 1 extra
    match ← contentsOf operand with
    | .error fault => do
      complainOf operand fault
      return 1
    | .ok bytes =>
      if options.has 'd' then
        let text := (Bytes.toChars bytes).filter fun char =>
          if options.has 'i' then letters.contains char || char == '=' else char != '\n'
        match decoded? text with
        | some bytes => do
          say bytes
          return 0
        | none => do
          let whole := text.take (text.length / 4 * 4)
          let start := whole.takeWhile fun char => letters.contains char || char == '='
          say ((decoded? (start.take (start.length / 4 * 4))).getD [])
          complain "invalid input".toList
          return 1
      else
        let text := encoded bytes
        match (options.value? 'w').bind count? with
        | some 0 => do
          say (Bytes.ofChars text)
          return 0
        | width? => do
          sayLines (Sha256.chunks (width?.getD 76) text)
          return 0

/-! ### Digests -/

/-- Octets in hexadecimal. -/
def hexText (bytes : Bytes) : List Char :=
  bytes.flatMap fun byte => Numeral.hex 2 byte.toNat

/-- The octets of a SHA-256 digest. -/
def sha256 (bytes : Bytes) : Bytes :=
  let final := Sha256.digest bytes
  [final.a, final.b, final.c, final.d, final.e, final.f, final.g, final.h].flatMap fun word =>
    ([24, 16, 8, 0] : List UInt32).map fun shift => (word >>> shift).toUInt8

/-- Writes digests of files, or checks files by such a list. -/
def sumWith (digest : Bytes → Bytes) (tag : String) : Tool :=
  let grammar : Grammar :=
    .of "bctwz" [("binary", 'b'), ("check", 'c'), ("tag", 'T'), ("text", 't'), ("quiet", 'q'),
      ("status", 's'), ("strict", 'S'), ("warn", 'w'), ("ignore-missing", 'm'), ("zero", 'z')]
  withOptions grammar 1 fun options => do
    if options.has 'c' then
      let (pieces, done) ← allInput options.operands
      let mut failed := 0
      let mut unread := 0
      for line in linesOf pieces.flatten do
        let sum := line.takeWhile (· != ' ')
        let name := line.drop (sum.length + 2)
        match ← contentsOf name with
        | .ok bytes =>
          if hexText (digest bytes) = sum.map Char.toLower then
            if !options.has 'q' ∧ !options.has 's' then sayLine (name ++ ": OK".toList)
          else
            failed := failed + 1
            if !options.has 's' then sayLine (name ++ ": FAILED".toList)
        | .error fault => do
          complainOf name fault
          unread := unread + 1
          if !options.has 's' then sayLine (name ++ ": FAILED open or read".toList)
      if unread ≠ 0 ∧ !options.has 's' then
        complain ("WARNING: ".toList ++ decimal unread
          ++ (if unread = 1 then " listed file could not be read"
            else " listed files could not be read").toList)
      if failed ≠ 0 ∧ !options.has 's' then
        complain ("WARNING: ".toList ++ decimal failed
          ++ (if failed = 1 then " computed checksum did NOT match"
            else " computed checksums did NOT match").toList)
      return statusOf (done && failed == 0 && unread == 0)
    else
      return statusOf <| ← forAll (orInput options.operands) fun operand => do
        match ← contentsOf operand with
        | .ok bytes => do
          let sum := hexText (digest bytes)
          if options.has 'T' then
            sayLine (tag.toList ++ " (".toList ++ operand ++ ") = ".toList ++ sum)
          else sayLine (sum ++ (if options.has 'b' then " *" else "  ").toList ++ operand)
          return true
        | .error fault => do
          complainOf operand fault
          return false

/-- Writes or checks SHA-256 digests. -/
def sha256sum : Tool := sumWith sha256 "SHA256"

/-- Writes or checks MD5 digests. -/
def md5sum : Tool := sumWith Md5.digest "MD5"

end KernelCache.Dump
