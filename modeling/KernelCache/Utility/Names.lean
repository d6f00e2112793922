import KernelCache.Utility.Copying
import KernelCache.Utility.Option

/-
**Programs for paths.**

`Names.basename` and `Names.dirname` take paths apart, `Names.readlink` and `Names.realpath` follow
symbolic links.
-/

namespace KernelCache.Names

open Host Program Copying

/-- The last name of a path, or a slash when there is none. -/
def lastName (path : List Char) : List Char :=
  let name := baseName path
  if name = [] then path.take 1 else name

/-- A name without an ending, which is not all of it. -/
def withoutEnding (ending name : List Char) : List Char :=
  if ending ≠ [] ∧ ending ≠ name ∧ ending.reverse.isPrefixOf name.reverse then
    name.take (name.length - ending.length)
  else name

/-- Writes the last names of paths, without an ending. -/
def basename : Tool :=
  let grammar : Grammar :=
    .of "as:z" [("multiple", 'a'), ("suffix=", 's'), ("zero", 'z')] true
  withOptions grammar 1 fun options => do
    let mark := if options.has 'z' then '\x00' else '\n'
    let many := options.has 'a' || options.has 's'
    match options.operands with
    | [] => lacking 1
    | first :: rest =>
      if many then
        let ending := (options.value? 's').getD []
        sayLines ((first :: rest).map fun path => withoutEnding ending (lastName path)) mark
        return 0
      else
        match rest with
        | _ :: third :: _ => surplus 1 third
        | rest => do
          sayLines [withoutEnding (rest.headD []) (lastName first)] mark
          return 0

/-- Writes paths without their last names. -/
def dirname : Tool :=
  withOptions (.of "z" [("zero", 'z')]) 1 fun options => do
    if options.operands.isEmpty then return ← lacking 1
    let mark := if options.has 'z' then '\x00' else '\n'
    sayLines (options.operands.map directoryName) mark
    return 0

/-- What may be missing on the way that a path leads. -/
inductive Missing where
  | nothing
  | last
  | all
  deriving DecidableEq

/-- The place that a path leads to when all links are followed. -/
def follow (files : Files) (missing : Missing) : Nat → Nat → Place → List Bytes →
    Except Fault Place
  | 0, _, _, _ => .error .linkLoop
  | _ + 1, _, place, [] => .ok place
  | fuel + 1, links, place, name :: rest =>
    if name = [] ∨ name = [0x2E] then follow files missing fuel links place rest
    else if name = [0x2E, 0x2E] then follow files missing fuel links place.dropLast rest
    else
      let next := place ++ [name]
      match files.node? place, files.node? next with
      | some .directory, some (.link target) =>
        if links = 0 then (if missing = .all then follow files missing fuel 0 next rest else .error .linkLoop)
        else
          let start := if target.head? = some slash then [] else place
          follow files missing fuel (links - 1) start (Path.pieces target ++ rest)
      | some .directory, some .directory => follow files missing fuel links next rest
      | some .directory, some _ =>
        if missing = .all ∨ rest = [] then follow files missing fuel links next rest
        else .error .notDirectory
      | _, _ =>
        let isLast : Bool := rest.all (· == [])
        if missing = .all ∨ (missing = .last ∧ isLast ∧ (files.node? place).isSome) then
          follow files missing fuel links next rest
        else .error .notFound

/-- The place that a path leads to from the working directory. -/
def canonical (missing : Missing) (path : List Char) : HostM (Except Fault Place) :=
  ask fun files base =>
    if path = [] then .error .notFound
    else
      let bytes := (pathOf path).bytes
      let start := if (pathOf path).isAbsolute then [] else base
      follow files missing 10000 Files.linkLimit start (Path.pieces bytes)

/-- A place as it is written. -/
def written (place : Place) : List Char := Bytes.toChars (Files.absolute place).bytes

/-- Writes where symbolic links lead. -/
def readlink : Tool :=
  let grammar : Grammar :=
    .of "femnqsvz" [("canonicalize", 'f'), ("canonicalize-existing", 'e'),
      ("canonicalize-missing", 'm'), ("no-newline", 'n'), ("quiet", 'q'), ("silent", 'q'),
      ("verbose", 'v'), ("zero", 'z')]
  withOptions grammar 1 fun options => do
    if options.operands.isEmpty then return ← lacking 1
    let last? := options.last? "fem"
    let ending := if options.has 'n' ∧ options.operands.length = 1 then []
      else if options.has 'z' then ['\x00'] else ['\n']
    return statusOf <| ← forAll options.operands fun path => do
      let found ← match last? with
        | some letter =>
          let missing := if letter = 'f' then Missing.last else if letter = 'e' then .nothing else .all
          pure ((← canonical missing path).map written)
        | none =>
          ask fun files base =>
            match files.linkStatus base (pathOf path) with
            | .ok (_, .link target) => .ok (Bytes.toChars target)
            | .ok _ => .error .invalid
            | .error fault => .error fault
      match found with
      | .ok text => do
        say (Bytes.ofChars (text ++ ending))
        return true
      | .error fault => do
        if options.has 'v' then complainOf path fault
        return false

/-- Writes the paths to files without symbolic links. -/
def realpath : Tool :=
  let grammar : Grammar :=
    .of "eEmLPqsz" [("canonicalize-existing", 'e'), ("canonicalize", 'E'),
      ("canonicalize-missing", 'm'), ("logical", 'L'), ("physical", 'P'), ("quiet", 'q'),
      ("strip", 's'), ("no-symlinks", 's'), ("zero", 'z'), ("relative-to=", 'r'),
      ("relative-base=", 'b')]
  withOptions grammar 1 fun options => do
    if options.operands.isEmpty then return ← lacking 1
    let missing := match options.last? "emE" with
      | some 'e' => Missing.nothing
      | some 'm' => .all
      | _ => .last
    let ending := if options.has 'z' then ['\x00'] else ['\n']
    let base := (← get).base
    let resolve (path : List Char) : HostM (Except Fault Place) := do
      if options.has 's' then
        let start := if path.head? = some '/' then [] else base
        let names := (path.splitOn '/').foldl (fun (names : Place) name =>
          if name = [] ∨ name = ['.'] then names
          else if name = ['.', '.'] then names.dropLast
          else names ++ [Bytes.ofChars name]) start
        if missing = .nothing ∧ !(← ask fun files base => files.present base (pathOf path)) then
          return .error .notFound
        return .ok names
      else canonical missing path
    let directory? ← match (options.value? 'r').or (options.value? 'b') with
      | none => pure none
      | some path => do
        match ← resolve path with
        | .ok place => pure (some place)
        | .error fault => do
          if !options.has 'q' then complainOf path fault
          return 1
    return statusOf <| ← forAll options.operands fun path => do
      match ← resolve path with
      | .ok place => do
        let isUnder : Bool := (options.value? 'b').isNone || directory?.any (·.isPrefixOf place)
        let text := match directory? with
          | some directory => if isUnder then relativeTo directory place else written place
          | none => written place
        say (Bytes.ofChars (text ++ ending))
        return true
      | .error fault => do
        if !options.has 'q' then complainOf path fault
        return false

/-- Writes the working directory. -/
def pwd : Tool :=
  withOptions (.of "LP" [("logical", 'L'), ("physical", 'P')]) 1 fun _ => do
    sayLine (written (← get).base)
    return 0

end KernelCache.Names
