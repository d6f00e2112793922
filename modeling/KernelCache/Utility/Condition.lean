import KernelCache.Power
import KernelCache.System.Host

/-
**Conditions on files, texts and numbers.**

`Condition.decide` is the command `test`: it reads a condition out of words and says whether it
holds, or what is wrong with the words. Which word is an operator depends on what stands around it.
-/

namespace KernelCache.Condition

/-! ### Numbers -/

/-- A decimal number, with blanks around it and a sign. -/
def integer? (text : List Char) : Option Int :=
  let isBlank (char : Char) : Bool := char == ' ' || ('\t' ≤ char && char ≤ '\r')
  let text := text.dropWhile isBlank
  let (negative, rest) := match text with
    | '-' :: rest => (true, rest)
    | '+' :: rest => (false, rest)
    | rest => (false, rest)
  let digits := rest.takeWhile fun char => '0' ≤ char && char ≤ '9'
  let limit := twoTo 63
  let value : Nat := digits.foldl (fun value digit => value * 10 + (digit.toNat - 48 : Nat)) 0
  if digits = [] ∨ !(rest.drop digits.length).all isBlank then none
  else if negative then if value ≤ limit then some (-value) else none
  else if value < limit then some value else none

/-! ### Files -/

/-- A condition on the file that a path leads to. -/
def onFile (files : Files) (base : Place) (operator : Char) (path : List Char) : Bool :=
  let status? := (files.status base (Host.pathOf path)).toOption
  let node? : Option Node := status?.map (·.2)
  let hasMode (bits : Nat) : Bool :=
    match status? with
    | some (place, node) => Nat.land (files.attributesOf place node).mode bits != 0
    | none => false
  match operator with
  | 'f' => node?.any fun node =>
      match node with
      | .file _ | .program _ => true
      | _ => false
  | 'd' => node? == some .directory
  | 'x' => node?.any fun node => node == .directory || files.isExecutable node
  | 's' => node?.any fun node =>
      match node with
      | .directory | .program _ => true
      | node => files.octets node != []
  | 'c' => node?.any fun node =>
      match node with
      | .device _ => true
      | _ => false
  | 'L' | 'h' =>
    match files.linkStatus base (Host.pathOf path) with
    | .ok (_, .link _) => true
    | _ => false
  | 'b' | 'p' | 'S' => false
  | 'u' => hasMode 0o4000
  | 'g' => hasMode 0o2000
  | 'k' => hasMode 0o1000
  | _ => node?.isSome

/-- When the file that a path leads to was changed. -/
def changed? (files : Files) (base : Place) (path : List Char) : Option Int :=
  match files.status base (Host.pathOf path) with
  | .ok (place, node) => some (files.attributesOf place node).modified
  | .error _ => none

/-- Whether two paths lead to the same file. -/
def sameFile (files : Files) (base : Place) (first second : List Char) : Bool :=
  match files.status base (Host.pathOf first), files.status base (Host.pathOf second) with
  | .ok (place, node), .ok (other, node') =>
    place == other || (node == node' && node != .directory)
  | _, _ => false

/-! ### Operators -/

/-- What a word is as an operator. -/
inductive Role where
  | onOne
  | onTwo
  | negation
  | both
  | either
  | opening
  | closing
  deriving DecidableEq, Repr

/-- The operators on one word. -/
def onOne : List String :=
  ["-r", "-w", "-x", "-e", "-f", "-d", "-c", "-b", "-p", "-u", "-g", "-k", "-s", "-t", "-z", "-n",
    "-h", "-O", "-G", "-L", "-S"]

/-- The operators between two words. -/
def onTwo : List String :=
  ["=", "!=", "<", ">", "-eq", "-ne", "-ge", "-gt", "-le", "-lt", "-nt", "-ot", "-ef"]

/-- What a condition is about. -/
structure Setting where
  files : Files
  base : Place
  words : Array (List Char)
  /-- Whether there are more operators. -/
  generous : Bool := false

namespace Setting

/-- The role of a word. -/
def role? (setting : Setting) (word : List Char) : Option Role :=
  let word := String.ofList word
  if onOne.contains word ∨ (setting.generous ∧ ["-v", "-N", "-a"].contains word) then some .onOne
  else if onTwo.contains word ∨ (setting.generous ∧ word = "==") then some .onTwo
  else
    match word with
    | "!" => some .negation
    | "-a" => some .both
    | "-o" => some .either
    | "(" => some .opening
    | ")" => some .closing
    | _ => none

/-- Whether a word that looks like an operator on one word stands where an operand does. -/
def isOperand (setting : Setting) (index : Nat) : Bool :=
  match setting.words[index + 1]?, setting.words[index + 2]? with
  | none, _ => true
  | some _, none => false
  | some next, some _ => setting.role? next == some .onTwo

/-- The role of the word at a place; nothing stands behind the end. -/
def roleAt (setting : Setting) (index : Nat) : Option Role :=
  match setting.words[index]? with
  | none => none
  | some word =>
    match setting.role? word with
    | some .onOne => if setting.isOperand index then none else some .onOne
    | some .opening => if setting.words.size ≤ index + 1 then none else some .opening
    | role => role

/-- Complains about a word. -/
def refuse {α : Type} (word : List Char) (text : String) : Except (List Char) α :=
  .error (if word = [] then text.toList else word ++ ": ".toList ++ text.toList)

/-- The number that a word stands for. -/
def number (setting : Setting) (word : List Char) : Except (List Char) Int :=
  match integer? word with
  | some value => .ok value
  | none =>
    if setting.generous then .error (word ++ ": integer expression expected".toList)
    else .error ("Illegal number: ".toList ++ word)

/-- A condition on two words. -/
def holdsOfTwo (setting : Setting) (left operator right : List Char) :
    Except (List Char) Bool := do
  let files := setting.files
  let base := setting.base
  let numbers (compare : Int → Int → Bool) : Except (List Char) Bool := do
    return compare (← setting.number left) (← setting.number right)
  match String.ofList operator with
  | "=" | "==" => return left == right
  | "!=" => return left != right
  | "<" => return decide (left < right)
  | ">" => return decide (right < left)
  | "-eq" => numbers (· == ·)
  | "-ne" => numbers (· != ·)
  | "-lt" => numbers (· < ·)
  | "-le" => numbers (· ≤ ·)
  | "-gt" => numbers (· > ·)
  | "-ge" => numbers (· ≥ ·)
  | "-ef" => return sameFile files base left right
  | operator =>
    match changed? files base left, changed? files base right with
    | some first, some second =>
      return if operator = "-nt" then second < first else first < second
    | first, second =>
      return setting.generous && (if operator = "-nt" then first.isSome else second.isSome)

/-- A condition on one word. -/
def holdsOfOne (setting : Setting) (operator word : List Char) : Except (List Char) Bool := do
  match operator with
  | ['-', 'z'] => return word == []
  | ['-', 'n'] => return word != []
  | ['-', 't'] => do
    discard (setting.number word)
    return false
  | [_, letter] => return onFile setting.files setting.base letter word
  | _ => return false

/-- A step of reading, from the place of a word. -/
abbrev Step (α : Type) := StateT Nat (Except (List Char)) α

mutual

/-- Conditions of which one has to hold; `role` is that of the first word. -/
def disjunction (setting : Setting) : Nat → Option Role → Step Bool
  | 0, _ => return false
  | fuel + 1, role => do
    let first ← conjunction setting fuel role
    let index ← get
    if setting.roleAt (index + 1) = some .either then
      set (index + 2)
      let rest ← disjunction setting fuel (setting.roleAt (index + 2))
      return first || rest
    else return first

/-- Conditions that all have to hold. -/
def conjunction (setting : Setting) : Nat → Option Role → Step Bool
  | 0, _ => return false
  | fuel + 1, role => do
    let first ← negation setting fuel role
    let index ← get
    if setting.roleAt (index + 1) = some .both then
      set (index + 2)
      let rest ← conjunction setting fuel (setting.roleAt (index + 2))
      return first && rest
    else return first

/-- A condition that may be negated. -/
def negation (setting : Setting) : Nat → Option Role → Step Bool
  | 0, _ => return false
  | fuel + 1, role => do
    if role ≠ some .negation then primary setting fuel role
    else
      let index ← get
      if index + 1 < setting.words.size then set (index + 1)
      return !(← negation setting fuel (setting.roleAt (index + 1)))

/-- One condition. -/
def primary (setting : Setting) : Nat → Option Role → Step Bool
  | 0, _ => return false
  | fuel + 1, role => do
    let index ← get
    match setting.words[index]? with
    | none => return false
    | some word =>
      match role with
      | some .opening =>
        set (index + 1)
        let inner := setting.roleAt (index + 1)
        if inner = some .closing then return false
        let found ← disjunction setting fuel inner
        let last ← get
        set (last + 1)
        if setting.roleAt (last + 1) ≠ some .closing then refuse [] "closing paren expected"
        return found
      | some .onOne =>
        set (index + 1)
        match setting.words[index + 1]? with
        | none => refuse word "argument expected"
        | some operand => setting.holdsOfOne word operand
      | _ =>
        match setting.words[index + 1]?, setting.roleAt (index + 1) with
        | some operator, some .onTwo =>
          set (index + 2)
          match setting.words[index + 2]? with
          | none => refuse operator "argument expected"
          | some right => setting.holdsOfTwo word operator right
        | _, _ => return word != []

end

/-- Whether the whole condition holds, when its first word has a role. -/
def run (setting : Setting) (role : Option Role) : Except (List Char) Bool := do
  let (found, index) ← (setting.disjunction (4 * setting.words.size + 8) role).run 0
  if index + 1 < setting.words.size then
    refuse (setting.words[index]?.getD []) "unexpected operator"
  return found

end Setting

/-- Whether the condition in the words holds. -/
def decideUpTo (files : Files) (base : Place) (generous : Bool) :
    Nat → List (List Char) → Except (List Char) Bool
  | 0, _ => .ok false
  | fuel + 1, words =>
    let setting (words : List (List Char)) : Setting :=
      { files, base, words := words.toArray, generous }
    let usual (words : List (List Char)) : Except (List Char) Bool :=
      (setting words).run ((setting words).roleAt 0)
    let grouped : Except (List Char) Bool :=
      if words.head? = some ['('] ∧ words.getLast? = some [')'] then usual (words.drop 1).dropLast
      else if words.head? = some ['!'] then
        (decideUpTo files base generous fuel (words.drop 1)).map (!·)
      else usual words
    match words with
    | [] => .ok false
    | [_, operator, _] =>
      if (setting words).role? operator = some .onTwo then (setting words).run none else grouped
    | [_, _, _, _] => grouped
    | _ => usual words

/-- Whether the condition in the words holds, or what is wrong with them. -/
def decide (files : Files) (base : Place) (generous : Bool) (words : List (List Char)) :
    Except (List Char) Bool :=
  decideUpTo files base generous (words.length + 1) words

end KernelCache.Condition
