import KernelCache.Shell.Expansion

/-
**Assignments.**

An assignment gives a variable, or one of its elements, the text of a word, or it gives an array all
of its elements.

* `carryOutAll` does assignments in order; each one sees those before it.
* `withVariables` takes back what assignments did to their variables.
-/

namespace KernelCache.Shell

namespace Assignment

/-- The name of the variable that is assigned. -/
def name : Assignment → List Char
  | one name _ _ _ => name
  | many name _ _ => name

/-- Whether a whole array is assigned. -/
def isMany : Assignment → Bool
  | one .. => false
  | many .. => true

end Assignment

/-- The text that a variable gets for a written one: a number in the place of a calculation. -/
def calculated (name text : List Char) : ShellM (List Char) := do
  if ((← get).binding? name).any (·.numeric) then
    return (toString (← Arithmetic.evaluate text)).toList
  else return text

/-- Elements by number with one of them as given. -/
def withElement (elements : List (Nat × List Char)) (number : Nat) (text : List Char) :
    List (Nat × List Char) :=
  elements.filter (·.1 < number) ++ (number, text) :: elements.filter (number < ·.1)

/-- The elements by number of a variable. -/
def rowOf : Option Value → List (Nat × List Char)
  | some (.row elements) => elements
  | some (.text chars) => [(0, chars)]
  | _ => []

/-- Gives an element of a variable a text, or adds the text to it. -/
def assignElement (name index : List Char) (how : Assigning) (text : List Char) : ShellM Unit := do
  let text ← calculated name text
  let old := ((← get).binding? name).bind (·.value?)
  let joined (before? : Option (List Char)) : List Char :=
    if how = .add then before?.getD [] ++ text else text
  match old with
  | some (.table elements) =>
    let element := (index, joined (elements.lookup index))
    assign name (.table (elements.filter (·.1 != index) ++ [element]))
  | old => do
    let elements := rowOf old
    let number := elementNumber elements (← Arithmetic.evaluate index)
    assign name (.row (withElement elements number (joined (elements.lookup number))))

/-- Gives a variable a text, or adds the text to what it has. -/
def assignText (name : List Char) (how : Assigning) (text : List Char) : ShellM Unit := do
  let state ← get
  let isNumeric := (state.binding? name).any (·.numeric)
  let before := (state.value? name).getD []
  if how = .set then assign name (.text (← calculated name text))
  else if isNumeric then
    let sum := (if before = [] then ['0'] else before) ++ '+' :: '(' :: text ++ [')']
    assign name (.text (← calculated name sum))
  else assign name (.text (before ++ text))

/-- The elements of a table with others added. -/
def tableElements (expanding : Expanding) :
    List (Option Word × Word) → List (List Char × List Char) →
      ShellM (List (List Char × List Char))
  | [], found => return found
  | (some index, word) :: rest, found => do
    let key := textOf (← expandWord expanding index)
    let text ← expandText expanding word
    tableElements expanding rest (found.filter (·.1 != key) ++ [(key, text)])
  | (none, word) :: (none, second) :: rest, found => do
    let key ← expandText expanding word
    let text ← expandText expanding second
    tableElements expanding rest (found.filter (·.1 != key) ++ [(key, text)])
  | (none, word) :: rest, found => do
    let key ← expandText expanding word
    tableElements expanding rest (found.filter (·.1 != key) ++ [(key, [])])

/-- The elements by number with others added; the next one without an index gets the number. -/
def rowElements (expanding : Expanding) :
    Nat → List (Option Word × Word) → List (Nat × List Char) → ShellM (List (Nat × List Char))
  | _, [], found => return found
  | _, (some index, word) :: rest, found => do
    let index ← Arithmetic.evaluate (textOf (← expandWord expanding index))
    let number := elementNumber found index
    let text ← expandText expanding word
    rowElements expanding (number + 1) rest (withElement found number text)
  | next, (none, word) :: rest, found => do
    let texts ← expandFields expanding word
    let found := (List.range texts.length).zip texts |>.foldl
      (fun found (index, text) => withElement found (next + index) text) found
    rowElements expanding (next + texts.length) rest found

/-- Does an assignment. -/
def carryOut (expanding : Expanding) : Assignment → ShellM Unit
  | .one name none how word => do assignText name how (← expandText expanding word)
  | .one name (some index) how word => do
    let index := textOf (← expandWord expanding index)
    assignElement name index how (← expandText expanding word)
  | .many name how elements => do
    let old := ((← get).binding? name).bind (·.value?)
    match old with
    | some (.table before) =>
      let kept := if how = .add then before else []
      assign name (.table (← tableElements expanding elements kept))
    | old => do
      let kept := if how = .add then rowOf old else []
      let next := (kept.getLast?.map (·.1 + 1)).getD 0
      let found ← rowElements expanding next elements kept
      if ((← get).binding? name).any (·.numeric) then
        let mut numbers : List (Nat × List Char) := []
        for (number, text) in found do
          numbers := (number, ← calculated name text) :: numbers
        assign name (.row numbers.reverse)
      else assign name (.row found)

/-- Does assignments in order. -/
def carryOutAll (expanding : Expanding) (assignments : List Assignment) : ShellM Unit :=
  assignments.forM (carryOut expanding)

/-- Does a step and brings back what variables were before assignments. -/
def withVariables (names : List (List Char))
    (before : List (List Char × Variable)) (step : ShellM Unit) : ShellM Unit := do
  let outcome ← catching step
  modify fun state =>
    let others := state.bindings.filter fun entry => !names.contains entry.1
    let old := before.filter fun entry => names.contains entry.1
    { state with bindings := old ++ others }
  if names.contains "PATH".toList then modify fun state => { state with hashed := [] }
  resume outcome

/-- Makes variables visible to programs. -/
def expose (names : List (List Char)) : ShellM Unit :=
  modify fun state =>
    names.foldl (fun state name =>
      state.setVariable name { (state.binding? name).getD {} with exported := true }) state

end KernelCache.Shell
