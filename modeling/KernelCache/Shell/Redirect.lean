import KernelCache.Shell.Expansion

/-
**Redirections.**

A redirection opens its target and puts it in the place of a descriptor. What stood there comes back
when the command that has the redirection is done.

* `redirecting` does a step under redirections.
* `redirectAll` does them for good.
-/

namespace KernelCache.Shell

/-- How the file of a redirection is opened. -/
def Access.opens : Access → Host.Access
  | .input | .document | .line | .duplicate => .input
  | .output | .force | .all => .output
  | .append | .allAppend => .addition
  | .both => { reads := true, writes := true, creates := true }

/-- What is said about a file that cannot be opened. -/
def openFault (access : Access) (path : List Char) (fault : Fault) : List Char :=
  let creates := access.opens.creates
  let text := match fault with
    | .code 2 | .code 20 => if creates then "Directory nonexistent" else "No such file"
    | fault => fault.plain
  ("cannot " ++ if creates then "create " else "open ").toList ++ path ++ ": ".toList ++ text.toList

/-- Complains about a redirection without the command it belongs to. -/
def refuseRedirection (text : List Char) : ShellM Bool := do
  let before := (← get).command?
  modify fun state => { state with command? := none }
  complain text
  modify fun state => { state with command? := before }
  return false

/-- Whether a path leads to a file that must not be overwritten. -/
def isProtected (state : State) (path : List Char) : Bool :=
  match state.host.files.status state.host.base (Host.pathOf path) with
  | .ok (_, .file _) => true
  | _ => false

/-- Opens the target of a redirection, and says whether that was possible. -/
def openTarget (descriptor : Nat) (access : Access) (path : List Char) : ShellM Bool := do
  let state ← get
  let complaint (fault : Fault) : List Char :=
    if state.isExtended then path ++ ": ".toList ++ fault.plain.toList
    else openFault access path fault
  if access = .output ∧ state.has 'C' ∧ isProtected state path then
    refuseRedirection (if state.isExtended then
      path ++ ": cannot overwrite existing file".toList else complaint .taken)
  else
    match state.host.openPath access.opens (Host.pathOf path) with
    | .ok (opening, host) =>
      set { state with host := host.place descriptor opening }
      return true
    | .error fault => refuseRedirection (complaint fault)

/-- Makes a descriptor another name for one that is open, and says whether there is one. -/
def duplicate (descriptor : Nat) (target : List Char) : ShellM Bool := do
  if target = ['-'] then
    modifyHost (·.close descriptor)
    return true
  else if target = [] ∨ !target.all Arithmetic.isDigit then
    if (← get).isExtended then refuseRedirection (target ++ ": ambiguous redirect".toList)
    else fail "Syntax error: Bad fd number".toList
  else
    let host := (← get).host
    match host.descriptors.lookup (((String.ofList target).toNat?).getD 0) with
    | some number =>
      modifyHost (·.connect descriptor number)
      return true
    | none => refuseRedirection (target ++ ": Bad file descriptor".toList)

/-- Makes a text the input of what follows. -/
def provide (descriptor : Nat) (chars : List Char) : ShellM Unit :=
  modifyHost fun host =>
    let (number, host) := host.addPipe { ready := Bytes.ofChars chars }
    host.place descriptor { stream := .pipe number, reads := true, writes := false }

/-- The target of a redirection. -/
def targetOf (expanding : Expanding) (access : Access) (word : Word) : ShellM (List Char) := do
  if (← get).isExtended ∧ access ≠ .document ∧ access ≠ .line then
    match ← expandFields expanding word with
    | [single] => return single
    | _ => do
      expandText expanding word
  else expandText expanding word

/-- Does a redirection to a target, and says whether that was possible. -/
def redirect (descriptor : Nat) (access : Access) (target : List Char) : ShellM Bool := do
  match access with
  | .duplicate => duplicate descriptor target
  | .document => do
    provide descriptor target
    return true
  | .line => do
    provide descriptor (target ++ ['\n'])
    return true
  | .all | .allAppend => do
    if ← openTarget 1 access target then duplicate 2 ['1'] else return false
  | _ => openTarget descriptor access target

/-- Does redirections in order until one is not possible. -/
def redirectAll (expanding : Expanding) : List Redirection → ShellM Bool
  | [] => return true
  | .mk usual holder? access word :: rest => do
    let target ← targetOf expanding access word
    let descriptor ← match holder? with
      | none => pure usual
      | some name => do
        let state ← get
        if access = .duplicate ∧ target = ['-'] then
          pure (((state.value? name).bind fun text => (String.ofList text).toNat?).getD usual)
        else
          let used (number : Nat) : Bool := (state.host.descriptors.lookup number).isSome
          let free := ((List.range 90).find? fun index => !used (index + 10)).getD 0 + 10
          assign name (.text (toString free).toList)
          pure free
    if ← redirect descriptor access target then redirectAll expanding rest else return false

/-- The descriptors that a redirection changes. -/
def Redirection.changed : Redirection → List Nat
  | .mk descriptor _ access _ =>
    match access with
    | .all | .allAppend => [1, 2]
    | _ => [descriptor]

/-- The host with the descriptors of redirections as they were before. -/
def restored (redirections : List Redirection) (before host : Host) : Host :=
  let changed := redirections.flatMap Redirection.changed
  let host := changed.foldl (fun host descriptor =>
    match before.descriptors.lookup descriptor with
    | some number => host.connect descriptor number
    | none => host.close descriptor) host
  host.dropOpenings before.next

/-- Does a step under redirections; when one of them is not possible, `refused` is done instead. -/
def redirecting (expanding : Expanding) (redirections : List Redirection)
    (step refused : ShellM Unit) : ShellM Unit := do
  if redirections.isEmpty then step
  else
    let before := (← get).host
    let outcome ← catching do
      if ← redirectAll expanding redirections then
        let outcome ← catching step
        modifyHost (restored redirections before)
        resume outcome
      else
        modifyHost (restored redirections before)
        refused
    match outcome with
    | .ok () => return ()
    | .error jump => do
      modifyHost (restored redirections before)
      throw jump

end KernelCache.Shell
