import KernelCache.Binary.Archive
import KernelCache.Utility.Option

/-
**The archiver.**

`Archiver.run` obeys a command line whose first word holds the operation and its modifiers: `r`
replaces members and `q` only adds them, `t` lists them, `d` deletes them, `x` and `p` take them
out.
-/

namespace KernelCache.Archiver

/-- The last name of a path. -/
def memberName (path : List Char) : Bytes :=
  Bytes.ofChars (path.reverse.takeWhile (· != '/')).reverse

/-- Complains about a file. -/
def refuse (path : List Char) (text : String) : HostM Unit :=
  Host.complain (path ++ ": ".toList ++ text.toList)

/-- The members of an archive on disk; a missing archive may count as empty. -/
def membersOf? (path : List Char) (orEmpty : Bool) : HostM (Option (List ArchiveMember)) :=
  Host.ask fun files base =>
    match files.status base (Host.pathOf path) with
    | .ok (_, .directory) => none
    | .ok (_, node) => Archive.decode? (files.octets node)
    | .error _ => if orEmpty then some [] else none

/-- Writes an archive. -/
def store (path : List Char) (members : List ArchiveMember) : HostM Bool := do
  let attributes := (← get).fresh 0o666
  match ← Host.attempt fun files base =>
      files.update base (Host.pathOf path) (fun _ => Archive.encode members) attributes with
  | none => return true
  | some fault => do
    refuse path fault.plain
    return false

/-- Puts files of the given paths into an archive, in the place of members of those names unless the
members are only to become more. -/
def putAll (archive : List Char) (paths : List (List Char)) (more verbose quiet : Bool) :
    HostM Nat := do
  match ← membersOf? archive true with
  | none => do
    refuse archive "file format not recognized"
    return 1
  | some members =>
    let isThere ← Host.ask fun files base => files.present base (Host.pathOf archive)
    if !isThere ∧ !quiet then Host.complain ("creating ".toList ++ archive)
    let contents : Except (List Char × Fault) (List ArchiveMember) ← Host.ask fun files base =>
      paths.mapM fun path =>
        match files.read base (Host.pathOf path) with
        | .ok content => .ok (ArchiveMember.mk (memberName path) content)
        | .error fault => .error (path, fault)
    match contents with
    | .error (path, fault) => do
      refuse path fault.plain
      return 1
    | .ok fresh =>
      let stored ← store archive <|
        if more then members ++ fresh else fresh.foldl Archive.replace members
      if stored && verbose then
        (fresh.zip paths).forM fun (member, path) =>
          let known := !more && members.any (·.name == member.name)
          Host.sayLine ((if known then "r - " else "a - ").toList ++ path)
      return Host.statusOf stored

/-- The status when there is no archive to look into. -/
def missing : Nat := 9

/-- What is done with the members that are named, or with all. -/
def treat (operation : Char) (verbose : Bool) (archive : List Char) (paths : List (List Char)) :
    HostM Nat := do
  match ← membersOf? archive false with
  | none => do
    match ← Host.ask fun files base => files.status base (Host.pathOf archive) with
    | .ok _ => do
      refuse archive "file format not recognized"
      return 1
    | .error fault => do
      refuse archive fault.plain
      return if operation = 's' then 1 else missing
  | some members =>
    let isNamed (member : ArchiveMember) : Bool :=
      paths.any fun path => memberName path == member.name
    let found := if paths.isEmpty then members else members.filter isNamed
    let unknown := paths.filter fun path =>
      !members.any fun member => member.name == memberName path
    let nameOf (member : ArchiveMember) : List Char := Bytes.toChars member.name
    let tell (letter : Char) (member : ArchiveMember) : HostM Unit := do
      if verbose then Host.sayLine (letter :: " - ".toList ++ nameOf member)
    let lack : HostM Unit := do
      for path in unknown do
        Host.complainLine ("no entry ".toList ++ path ++ " in archive".toList)
    match operation with
    | 't' => do
      found.forM fun member => Host.sayLine <|
        if verbose then
          "rw-r--r-- 0/0 ".toList ++ Program.rightward 6 (toString member.content.length).toList
            ++ " Jan  1 00:00 1970 ".toList ++ nameOf member
        else nameOf member
      lack
      return Host.statusOf unknown.isEmpty
    | 'p' => do
      for member in found do
        if verbose then
          Host.say (Bytes.ofChars ("\n<".toList ++ nameOf member ++ ">\n\n".toList))
        Host.say member.content
      lack
      return Host.statusOf unknown.isEmpty
    | 'x' => do
      let done ← Host.forAll found fun member => do
        tell 'x' member
        let attributes := (← get).fresh 0o666
        Host.change fun files base => files.update base ⟨member.name⟩ (fun _ => member.content)
          attributes
      lack
      return Host.statusOf (done && unknown.isEmpty)
    | 'd' => do
      found.forM (tell 'd')
      return Host.statusOf <| ← store archive <|
        if paths.isEmpty then members else members.filter fun member => !isNamed member
    | 'm' => return Host.statusOf unknown.isEmpty
    | _ => return 0

/-- The letters of which a command line has exactly one. -/
def operations : List Char := "dmpqrtx".toList

/-- The letters that change how an operation is done. -/
def modifiers : List Char := "cDfilOoPSsTuUvV".toList

/-- Options with long names that have values. -/
def valued : List String := ["target", "plugin", "output", "record-libdeps"]

/-- The words of a command line in order. -/
structure Words where
  letters : List Char := []
  operands : List (List Char) := []
  /-- Whether only something about the program is asked for. -/
  asks : Bool := false

/-- Reads a command line, unless an option is unknown. -/
def words? (words : Words) : List (List Char) → Option Words
  | [] => some words
  | ['-', '-'] :: rest => some { words with operands := words.operands ++ rest }
  | ('-' :: '-' :: option) :: rest =>
    let name := String.ofList (option.takeWhile (· != '='))
    let attached := option.contains '='
    if name = "help" ∨ name = "version" then some { words with asks := true }
    else if name = "thin" then words? words rest
    else if valued.contains name then
      if attached then words? words rest
      else
        match rest with
        | _ :: rest => words? words rest
        | [] => none
    else none
  | ('-' :: letter :: more) :: rest =>
    let letters := letter :: more
    if letters.contains 'V' ∨ letters.contains 'h' ∨ letters = ['H'] then
      some { words with asks := true }
    else if letters.all fun letter => operations.contains letter || modifiers.contains letter then
      words? { words with letters := words.letters ++ letters } rest
    else none
  | operand :: rest => words? { words with operands := words.operands ++ [operand] } rest

/-- Writes how the program is used. -/
def usage : HostM Nat := do
  Host.complainLine "Usage: ar [emulation options] [-]\x7bdmpqrstx\x7d[abcDfilMNoOPsSTuvV] archive-file".toList
  return 1

/-- Obeys a command line. -/
def run : Program.Tool := fun arguments => do
  let arguments := match arguments with
    | first :: rest => (if first.head? = some '-' then first else '-' :: first) :: rest
    | [] => []
  match words? {} arguments with
  | none => usage
  | some words => do
    if words.asks then return 0
    let letters := words.letters
    let verbose := letters.contains 'v'
    match words.operands, letters.filter operations.contains with
    | archive :: paths, [operation] =>
      if operation = 'r' ∨ operation = 'q' then
        putAll archive paths (operation == 'q') verbose (letters.contains 'c')
      else treat operation verbose archive paths
    | archive :: paths, [] =>
      if letters.contains 's' then treat 's' verbose archive paths else usage
    | _, _ => usage

/-- Brings the index of archives up to date. -/
def ranlib : Program.Tool := fun arguments => do
  let paths := arguments.filter fun word => word.head? != some '-'
  if paths.isEmpty then return 1
  return Host.statusOf <| ← Host.forAll paths fun path => do
    return (← treat 's' false path []) == 0

end KernelCache.Archiver
