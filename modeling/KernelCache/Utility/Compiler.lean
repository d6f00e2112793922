import KernelCache.Binary.Archive
import KernelCache.Utility.Compiler.Compiling

/-
**The compiler driver.**

`Compiler.run` obeys a command line: it compiles sources to objects, or links objects, archives and
sources into an image. The driver for C++ takes sources in C for C++, too.
-/

/-! ## Units that become an image

Inputs count in their order: an archive brings in the units that define what is missing so far, and
a library is left out when nothing in front of it needs it. Two units that define one symbol make
linking fail; missing functions do so for programs only.
-/

namespace KernelCache.Compiler

open KernelCache.Code (Linkage Piece)

/-- A unit together with what it means. -/
structure Part where
  unit : UnitText
  piece : Piece
  /-- Whether another image has it, too. -/
  isBorrowed : Bool := false

/-- What an input brings to a link. -/
inductive Offer where
  | parts (parts : List Part)
  /-- Units that are taken when they define what is missing. -/
  | optional (parts : List Part)
  /-- A library of the system. -/
  | library (name : String) (asNeeded : Bool)

/-- The part that a unit is. -/
def part? (unit : UnitText) : Option Part := unit.piece?.map fun piece => { unit, piece }

/-- What the octets of a file bring to a link, unless they cannot be linked. -/
def offer? (bytes : Bytes) (whole : Bool) : Option Offer :=
  match ObjectFile.decode? bytes, ImageFile.decode? bytes with
  | some unit, _ => (part? unit).map fun part => .parts [part]
  | none, some image =>
    (image.units.mapM part?).map fun parts =>
      .parts (parts.map fun part => { part with isBorrowed := true })
  | none, none =>
    if bytes = [] then some (.parts [])
    else
      match Archive.decode? bytes with
      | some members =>
        let units := members.mapM fun member => ObjectFile.decode? member.content
        if whole then do return .parts (← (← units).mapM part?)
        else
          let known := members.filterMap fun member => ObjectFile.decode? member.content
          some (.optional (known.filterMap part?))
      | none => none

/-- What has been linked so far. -/
structure Linked where
  parts : List Part := []
  libraries : Standard.Libraries := {}

namespace Linked

/-- The symbols that are defined so far. -/
def defined (linked : Linked) : Std.HashSet String :=
  Std.HashSet.ofList (linked.parts.flatMap fun part => part.piece.shared.map (·.1))

/-- The symbols that are needed so far and are not there. -/
def missing (linked : Linked) : List String :=
  let defined := linked.defined
  (linked.parts.flatMap fun part =>
    (part.piece.imports.map (·.1)).filter fun symbol =>
      !defined.contains symbol && !part.piece.optional.contains symbol).eraseDups

/-- Takes the units that define what is missing, until nothing changes. -/
def pull : Nat → Linked → List Part → Linked
  | 0, linked, _ => linked
  | fuel + 1, linked, candidates =>
    let missing := linked.missing
    let defines (part : Part) : Bool := part.piece.shared.any fun entry => missing.contains entry.1
    match candidates.findIdx? defines with
    | some index =>
      match candidates[index]? with
      | some part =>
        pull fuel { linked with parts := linked.parts ++ [part] } (candidates.eraseIdx index)
      | none => linked
    | none => linked

/-- Whether what has been linked so far needs a library. -/
def needs (linked : Linked) (home : Standard.Home) : Bool :=
  (linked.missing.any fun symbol =>
    Standard.isKnown symbol && Standard.isOffered symbol && Standard.home symbol == home)
  || (home == .plus && linked.parts.any fun part => part.piece.needsRuntime)

/-- Adds a library of the system. -/
def addLibrary (linked : Linked) (name : String) (asNeeded : Bool) : Linked :=
  let libraries := linked.libraries
  match name with
  | "c" =>
    { linked with
      libraries := { libraries with basic := libraries.basic || !asNeeded || linked.needs .basic } }
  | "m" =>
    { linked with
      libraries := { libraries with
        mathematics := libraries.mathematics || !asNeeded || linked.needs .mathematics } }
  | "stdc++" | "supc++" =>
    { linked with
      libraries := { libraries with
        plus := libraries.plus || !asNeeded || linked.needs .plus } }
  | _ => linked

/-- Adds what an input offers. -/
def add (linked : Linked) : Offer → Linked
  | .parts parts => { linked with parts := linked.parts ++ parts }
  | .optional parts => pull (parts.length + 1) linked parts
  | .library name asNeeded => linked.addLibrary name asNeeded

/-- Whether a symbol is defined twice. -/
def hasDoubles (linked : Linked) : Bool :=
  let own := linked.parts.filter fun part => !part.isBorrowed
  let symbols := own.flatMap fun part =>
    (part.piece.shared.filter fun entry => entry.2 == Linkage.outer).map (·.1)
  (Std.HashSet.ofList symbols).size < symbols.length

/-- What neither the units nor the libraries define. -/
def unresolved (linked : Linked) : List String :=
  linked.missing.filter fun symbol =>
    !(Standard.isKnown symbol && linked.libraries.have symbol)

/-- The image of what has been linked. -/
def image (linked : Linked) : ImageText :=
  let (borrowed, own) := linked.parts.partition fun part => part.isBorrowed
  { units := (own ++ borrowed).map (·.unit), libraries := linked.libraries }

end Linked

/-- The libraries that are there. -/
def presentLibraries : List String :=
  ["c", "m", "dl", "pthread", "rt", "util", "gcc", "gcc_s", "stdc++", "supc++", "gomp", "atomic",
    "resolv", "quadmath", "ssp", "g", "anl"]

/-- Links what inputs offer, as an order asks for it. -/
def link? (order : Order) (plusPlus : Bool) (offers : List Offer) : Option ImageText := do
  let linked := offers.foldl Linked.add ({} : Linked)
  let further := (if plusPlus then ["stdc++", "m"] else []) ++ ["c"]
  let linked := if order.hasLibraries then
      further.foldl (fun linked name => linked.addLibrary name order.asNeeded) linked
    else linked
  let isWhole := (!order.shared || order.isComplete) && order.hasLibraries
  let hasRuntime := linked.libraries.plus || !linked.parts.any fun part => part.piece.needsRuntime
  let hasMain := order.shared || !order.hasStart || linked.defined.contains "main"
  let isBound := linked.parts.any fun part =>
    (part.piece.isFixed && (order.shared || order.isMovable)) || (part.piece.isNear && order.shared)
  if (linked.hasDoubles && !order.allowsDoubles) || !hasMain || isBound then none
  else if isWhole && !(linked.unresolved.isEmpty && hasRuntime) then none
  else return linked.image

end KernelCache.Compiler

/-! ## Rules about the files that objects depend on

`Rules.text` writes the rule of one source. A line that gets too long goes on in the next one.
-/

namespace KernelCache.Compiler

/-- A name in a rule. -/
def ruleName (name : List Char) : List Char :=
  name.flatMap fun char =>
    if char = '$' then ['$', '$'] else if char = ' ' ∨ char = '#' then ['\\', char] else [char]

/-- A line of a rule is not longer. -/
def ruleWidth : Nat := 72

/-- Writes names one behind the other; the number is where the line has got to. -/
def ruleNames : Nat → List (List Char) → Nat × List Char
  | column, [] => (column, [])
  | column, name :: rest =>
    let size := name.length
    let (gap, start) :=
      if column = 0 then ([], 0)
      else if ruleWidth < column + size then (" \\\n ".toList, 1)
      else ([' '], column + 1)
    let (column, text) := ruleNames (start + size) rest
    (column, gap ++ name ++ text)

/-- The rule of a source with the files that it includes. -/
def Rules.text (rules : Rules) (target source : List Char) (included : List Bytes) : List Char :=
  let isOwn (path : Bytes) : Bool := !systemPath.isPrefixOf path
  let front := if rules.ownOnly then [] else [systemPath ++ Bytes.ofString "stdc-predef.h"]
  let others := (front ++ included.filter fun path => isOwn path || !rules.ownOnly).eraseDups
  let others := others.map Bytes.toChars
  let targets := if rules.targets.isEmpty then [target] else rules.targets
  let (column, left) := ruleNames 0 (targets.map ruleName)
  let (_, right) := ruleNames (column + 1) ((source :: others).map ruleName)
  let phonies := if rules.hasPhonies then others.flatMap fun name => ruleName name ++ [':', '\n']
    else []
  left ++ [':'] ++ right ++ ['\n'] ++ phonies

/-- The name of what is made of a source, with another extension. -/
def renamed (path : List Char) (extension : String) : List Char :=
  let name := nameOf path
  let stem := name.reverse.dropWhile (· != '.')
  (if stem = [] then name ++ ['.'] else stem.reverse) ++ extension.toList

/-- A path with another extension. -/
def withExtension (path : List Char) (extension : String) : List Char :=
  path.take (path.length - (nameOf path).length) ++ renamed path extension

/-- The file that the rule of a source is written to. -/
def Order.rulePath (order : Order) (source : List Char) : List Char :=
  match order.rules.output, order.output with
  | some path, _ => path
  | none, some output =>
    if order.goal = .image then output ++ ['-'] ++ renamed source "d" else withExtension output "d"
  | none, none =>
    if order.goal = .image then ['a', '-'] ++ renamed source "d" else renamed source "d"

/-- What the rule of a source is about. -/
def Order.ruleTarget (order : Order) (source : List Char) : List Char :=
  match order.output with
  | some output =>
    if order.goal = .object ∨ order.goal = .assembly ∨ order.goal = .image then output
    else renamed source "o"
  | none => renamed source "o"

end KernelCache.Compiler

/-! ## The compiler driver -/

namespace KernelCache.Compiler

open C.Preprocess (Found)

/-- Takes an output away after a failure, when it is an ordinary file. -/
def discardOutput (path : List Char) : HostM Unit := do
  discard (Host.change fun files base => files.remove base (Host.pathOf path))

/-- Writes an output. -/
def writeOutput (path : List Char) (bytes : Bytes) (executable : Bool) : HostM Bool := do
  let attributes := (← get).fresh (if executable then 0o777 else 0o666)
  Host.change fun files base => files.renew base (Host.pathOf path) { bytes, attributes }

/-- The input as a name. -/
def isStandardInput (input : Input) : Bool := input.path = ['-']

/-- Reads a source. -/
def sourceOf (input : Input) : HostM (Option Found) := do
  if isStandardInput input then
    match ← Host.contentsOf ['-'] with
    | .ok bytes =>
      return some { path := Bytes.ofString "<stdin>", directory := [], text := Bytes.toChars bytes }
    | .error _ => return none
  else Host.ask fun files base => file? files base input.path

/-- Compiles a source, and writes the rule for it when one is wanted. -/
def unitOf (order : Order) (input : Input) (nature : Nature) : HostM (Option UnitText) := do
  match ← sourceOf input with
  | none => return none
  | some source => do
    let found? ← Host.ask fun files base => compile? order files base nature source
    match found? with
    | none => return none
    | some (unit, included) => do
      if order.rules.isWritten then
        let text := order.rules.text (order.ruleTarget input.path) input.path included.reverse
        discard (writeOutput (order.rulePath input.path) (Bytes.ofChars text) false)
      return some unit

/-! ### Sources without directives and macros -/

/-- The lines in front of a source without directives. -/
def opening (path : List Char) : List Char :=
  let line (text : String) (behind : String) : List Char := text.toList ++ behind.toList ++ ['\n']
  let name := String.ofList path
  line "# 0 \"" (name ++ "\"") ++ line "# 0 \"<built-in>\"" "" ++ line "# 0 \"<command-line>\"" ""
    ++ line "# 1 \"/usr/include/stdc-predef.h\" 1 3 4" "" ++ line "# 0 \"<command-line>\" 2" ""
    ++ line "# 1 \"" (name ++ "\"")

/-- The text that a source becomes when directives and macros are taken out, or the rule for it. -/
def textOf (order : Order) (input : Input) (nature : Nature) : HostM (Option (List Char)) := do
  match ← sourceOf input with
  | none => return none
  | some source => do
    let progress? ← Host.ask fun files base => preprocess? order files base nature source
    match progress? with
    | none => return none
    | some progress =>
      let options := order.optionsFor nature.dialect
      if progress.warnings.any
          (Warning.isError order.warnings options.isPlus options.year) then return none
      else if order.goal = .rules then
        return some (order.rules.text (order.ruleTarget input.path) input.path
          progress.included.reverse)
      else
        let front := if order.isBare then [] else opening (Bytes.toChars source.path)
        return some (front
          ++ C.Preprocess.printed options.isPlus (!order.isBare) progress.files progress.output)

/-! ### The driver -/

/-- The sources among the inputs. -/
def sources (order : Order) (plusPlus : Bool) : List (Input × Nature) :=
  order.inputs.filterMap fun input => (nature? input plusPlus).map fun nature => (input, nature)

/-- Whether every input is there. -/
def arePresent (order : Order) : HostM Bool :=
  Host.forAll order.inputs fun input =>
    if input.isLibrary || isStandardInput input then pure true
    else Host.ask fun files base => files.present base (Host.pathOf input.path)

/-- What every compiled header starts with. -/
def compiledHeader : Bytes := Bytes.ofString "gpchC014"

/-- Compiles every source of an order into an output of its own. -/
def compileAll (order : Order) (plusPlus : Bool) : HostM Nat := do
  let sources := sources order plusPlus
  if order.output.isSome ∧ 1 < sources.length then return 1
  let present ← arePresent order
  let blocked ← Host.ask fun files base =>
    order.output.any fun path => !(files.write base (Host.pathOf path) []).isOk
  let extension := if order.goal = .object then "o" else "s"
  let done ← Host.forAll sources fun (input, nature) => do
    let target := order.output.getD (renamed input.path extension)
    match ← unitOf order input nature with
    | some unit =>
      if order.goal = .check then return true
      else if nature.isHeader then
        writeOutput (order.output.getD (input.path ++ ".gch".toList)) compiledHeader false
      else if order.goal = .object then writeOutput target (ObjectFile.encode unit) false
      else writeOutput target (AssemblyFile.encode unit) false
    | none =>
      if order.piped then discardOutput target
      return false
  return if blocked && order.piped && !sources.isEmpty then 2 else Host.statusOf (present && done)

/-- Writes the texts of all sources. -/
def printAll (order : Order) (plusPlus : Bool) : HostM Nat := do
  let sources := sources order plusPlus
  if order.output.isSome ∧ 1 < sources.length then return 1
  let present ← arePresent order
  let done ← Host.forAll sources fun (input, nature) => do
    match ← textOf order input nature with
    | none => return false
    | some text => do
      let bytes := Bytes.ofChars text
      match order.output, order.rules.output, order.goal with
      | some path, _, _ | none, some path, .rules => writeOutput path bytes false
      | _, _, _ => do
        Host.say bytes
        return true
  return Host.statusOf (present && done)

/-- The paths under which a library may be. -/
def libraryPaths (order : Order) (name : List Char) : List (List Char) :=
  match name with
  | ':' :: file => order.libraryDirs.map fun dir => dir ++ ['/'] ++ file
  | _ => order.libraryDirs.flatMap fun dir =>
      [dir ++ "/lib".toList ++ name ++ ".so".toList, dir ++ "/lib".toList ++ name ++ ".a".toList]

/-- What an input that is no source offers, unless it cannot be linked. -/
def offerOf? (order : Order) (input : Input) (files : Files) (base : Place) : Option Offer :=
  if input.isLibrary then
    let found := (libraryPaths order input.path).findSome? fun path =>
      (files.read base (Host.pathOf path)).toOption
    match found with
    | some bytes => offer? bytes input.whole
    | none =>
      let name := String.ofList input.path
      if presentLibraries.contains name then some (.library name input.asNeeded) else none
  else
    match files.read base (Host.pathOf input.path) with
    | .ok bytes => offer? bytes input.whole
    | .error _ => none

/-- Compiles the sources among the inputs, and yields what the inputs offer. -/
def offersOf (order : Order) (plusPlus : Bool) :
    List Input → HostM (Option (List Offer))
  | [] => return some []
  | input :: rest => do
    let offer? : Option Offer ← match nature? input plusPlus with
      | some nature => do
        match ← unitOf order input nature with
        | some unit => pure ((part? unit).map fun part => Offer.parts [part])
        | none => pure none
      | none => Host.ask fun files base => offerOf? order input files base
    match offer? with
    | none => return none
    | some offer =>
      match ← offersOf order plusPlus rest with
      | some offers => return some (offer :: offers)
      | none => return none

/-- Links the inputs of an order. -/
def linkAll (order : Order) (plusPlus : Bool) : HostM Nat := do
  let target := order.output.getD "a.out".toList
  let offers? ← offersOf order plusPlus order.inputs
  let image? := if order.whole then none else offers?.bind (link? order plusPlus)
  match image? with
  | some image => return Host.statusOf (← writeOutput target (ImageFile.encode image) true)
  | none =>
    discardOutput target
    return 1

/-- Whether two paths lead to one file, or to none under the same name. -/
def areSame (files : Files) (base : Place) (path other : List Char) : Bool :=
  match files.status base (Host.pathOf path), files.status base (Host.pathOf other) with
  | .ok (place, _), .ok (found, _) => place = found
  | _, _ => path = other

/-- Whether the output would take the place of an input. -/
def takesInput (order : Order) (files : Files) (base : Place) : Bool :=
  order.output.any fun path =>
    order.inputs.any fun input => !input.isLibrary && areSame files base input.path path

/-- Obeys an order. -/
def obey (order : Order) (plusPlus : Bool) : HostM Nat := do
  if let some answer := order.answer then
    Host.sayLine answer.toList
    return 0
  else if ← Host.ask (takesInput order) then return 1
  else if order.inputs.all (·.isLibrary) then return if order.verbose then 0 else 1
  else if order.inputs.any isForeign then return 1
  else
    match order.goal with
    | .rules | .text => printAll order plusPlus
    | .check | .assembly | .object => compileAll order plusPlus
    | .image =>
      if (sources order plusPlus).all (·.2.isHeader) && !(sources order plusPlus).isEmpty
      then compileAll order plusPlus
      else linkAll order plusPlus

/-! ### Command lines -/

/-- The words of a file with options. -/
def wordsIn : List Char → Option Char → Option (List Char) → List (List Char)
  | [], _, none => []
  | [], _, some word => [word.reverse]
  | '\\' :: char :: rest, quote, word => wordsIn rest quote (some (char :: word.getD []))
  | char :: rest, some quote, word =>
    if char = quote then wordsIn rest none word
    else wordsIn rest (some quote) (some (char :: word.getD []))
  | char :: rest, none, word =>
    if char = '"' ∨ char = '\'' then wordsIn rest (some char) (some (word.getD []))
    else if C.Token.isBlank char ∨ char = '\n' then
      match word with
      | some word => word.reverse :: wordsIn rest none none
      | none => wordsIn rest none none
    else wordsIn rest none (some (char :: word.getD []))

/-- Puts the words of files in the place of arguments that name them. -/
def expanded (files : Files) (base : Place) : Nat → List (List Char) → List (List Char)
  | 0, arguments => arguments
  | depth + 1, arguments =>
    arguments.flatMap fun argument =>
      match argument with
      | '@' :: path =>
        match files.read base (Host.pathOf path) with
        | .ok bytes => expanded files base depth (wordsIn (Bytes.toChars bytes) none none)
        | .error _ => [argument]
      | _ => [argument]

/-- Files with options can name each other so many times. -/
def expansionDepth : Nat := 100

/-- Obeys a command line that stands behind other words. -/
def runWith (front : List String) (plusPlus : Bool) (arguments : List (List Char)) : HostM Nat := do
  let arguments ← Host.ask fun files base => expanded files base expansionDepth arguments
  match ({} : Order).read? (spread (front.map String.toList ++ arguments)) with
  | none => return 1
  | some order => obey order plusPlus

/-- Obeys a command line. -/
def run (plusPlus : Bool) (arguments : List (List Char)) : HostM Nat :=
  runWith [] plusPlus arguments

/-- Obeys a command line for one standard; it must not name another one. -/
def runFor (standard : String) (arguments : List (List Char)) : HostM Nat := do
  let others := arguments.filter fun argument =>
    "-std=".toList.isPrefixOf argument || argument = "-ansi".toList
  if others.all (· = ("-std=" ++ standard).toList) then runWith ["-std=" ++ standard] false arguments
  else return 1

end KernelCache.Compiler
