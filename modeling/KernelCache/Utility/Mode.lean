/-
**Modes of files.**

A mode is twelve bits: three for whose program a file is, and three each for its owner, its group
and the others. `Mode.changed?` changes a mode as digits or clauses such as `u+x,go-w` say, and
`Mode.rights` writes one.
-/

namespace KernelCache.Mode

/-- Whom a clause is about. -/
structure Scope where
  owner : Bool := false
  group : Bool := false
  others : Bool := false
  deriving DecidableEq, Repr

/-- The bits of a scope that stand for one right. -/
def Scope.bits (scope : Scope) (right : Nat) : Nat :=
  (if scope.owner then right * 64 else 0) + (if scope.group then right * 8 else 0)
    + if scope.others then right else 0

/-- All twelve bits. -/
def all : Nat := 0o7777

/-- The bits of one that are not in another. -/
def without (bits other : Nat) : Nat := bits - Nat.land bits other

/-- The letters of whom a clause is about, and what follows them. -/
def scopeAt (text : List Char) : Scope × List Char :=
  let (letters, rest) := text.span fun char => "ugoa".toList.contains char
  let has (letter : Char) : Bool := letters.contains letter || letters.contains 'a'
  ({ owner := has 'u', group := has 'g', others := has 'o' }, rest)

/-- The bits that the letters of rights stand for, for a mode and a scope. -/
def rightsOf (isDirectory : Bool) (mode : Nat) (scope : Scope) (letters : List Char) : Nat :=
  let copied (shift : Nat) : Nat := scope.bits (mode / shift % 8)
  let one (letter : Char) : Nat :=
    match letter with
    | 'r' => scope.bits 4
    | 'w' => scope.bits 2
    | 'x' => scope.bits 1
    | 'X' => if isDirectory ∨ Nat.land mode 0o111 ≠ 0 then scope.bits 1 else 0
    | 's' => (if scope.owner then 0o4000 else 0) + if scope.group then 0o2000 else 0
    | 't' => 0o1000
    | 'u' => copied 64
    | 'g' => copied 8
    | 'o' => copied 1
    | _ => 0
  letters.foldl (fun bits letter => Nat.lor bits (one letter)) 0

/-- Applies the operators of a clause one after the other. -/
def operate? (isDirectory : Bool) (scope : Scope) (kept : Nat) :
    Nat → Nat → List Char → Option Nat
  | 0, mode, _ => some mode
  | _ + 1, mode, [] => some mode
  | fuel + 1, mode, operator :: rest =>
    let (letters, behind) := rest.span fun char => "rwxXstugo".toList.contains char
    let bits := Nat.land (rightsOf isDirectory mode scope letters) kept
    let special := (if scope.owner then 0o4000 else 0) + (if scope.group then 0o2000 else 0)
      + if scope.others then 0o1000 else 0
    let held := if isDirectory then 0o6000 else 0
    match operator with
    | '+' => operate? isDirectory scope kept fuel (Nat.lor mode bits) behind
    | '-' => operate? isDirectory scope kept fuel (without mode bits) behind
    | '=' =>
      let cleared := without mode (without (Nat.land (scope.bits 7 + special) kept) held)
      operate? isDirectory scope kept fuel (Nat.lor cleared bits) behind
    | _ => none

/-- The value of octal digits. -/
def octal? (text : List Char) : Option Nat :=
  if text ≠ [] ∧ text.all fun char => '0' ≤ char && char ≤ '7' then
    some (text.foldl (fun value digit => value * 8 + (digit.toNat - 48)) 0)
  else none

/-- A mode changed as a text says. A clause that names nobody is about everybody, but leaves the
bits of the mask as they are. -/
def changed? (isDirectory : Bool) (mask mode : Nat) (text : List Char) : Option Nat :=
  match octal? text with
  | some value =>
    if all < value then none
    else if isDirectory ∧ text.length < 5 then
      some (Nat.lor value (Nat.land mode 0o6000))
    else some value
  | none =>
    (text.splitOn ',').foldlM (fun mode clause => do
      let (scope, rest) := scopeAt clause
      if rest = [] then none
      if scope = {} then
        operate? isDirectory { owner := true, group := true, others := true } (without all mask)
          (clause.length + 1) mode rest
      else operate? isDirectory scope all (clause.length + 1) mode rest) mode

/-- Three rights as letters. -/
def letters (right : Nat) : List Char :=
  (if right / 4 % 2 = 1 then ['r'] else []) ++ (if right / 2 % 2 = 1 then ['w'] else [])
    ++ if right % 2 = 1 then ['x'] else []

/-- A mode as ten characters, of which the first one is given. -/
def rights (first : Char) (mode : Nat) : List Char :=
  let three (right : Nat) (special : Bool) (letter : Char) : List Char :=
    [if right / 4 % 2 = 1 then 'r' else '-', if right / 2 % 2 = 1 then 'w' else '-',
      if special then if right % 2 = 1 then letter else letter.toUpper
      else if right % 2 = 1 then 'x' else '-']
  first :: three (mode / 64 % 8) (mode / 2048 % 2 = 1) 's'
    ++ three (mode / 8 % 8) (mode / 1024 % 2 = 1) 's' ++ three (mode % 8) (mode / 512 % 2 = 1) 't'

/-- Digits of a mode, as many as are asked for at least. -/
def digits (count mode : Nat) : List Char :=
  let text := Nat.toDigits 8 mode
  List.replicate (count - text.length) '0' ++ text

end KernelCache.Mode
