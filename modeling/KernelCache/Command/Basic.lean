import KernelCache.Text.Utf8
import KernelCache.Failure
import KernelCache.Text.Quoted
import KernelCache.Toolchain

/-
**The commands of a build.**

A command is a list of words with one space between them; an empty word is left out. Options and
program names come from the toolchain and may hold several words; paths are quoted.

* `Command.linkArchive` and `Command.linkImage` link an archive whole.
* `Command.compile`, `Command.archive` and `Command.install` make, collect and place the files.

A builder fails exactly when one of its paths has no written form.
-/

/-! ## Quoting a word for the shell

A word is cut into chunks, and each chunk is written plainly, between single quotes or between
double quotes. A chunk is as long as one of the three styles can carry it whole, and the plainest
style that can is taken.

* `Style.carries` says which octets a style can carry.
* `quote?` writes a word; a word with a NUL has no written form.
-/

namespace KernelCache.Quoting

/-- How a chunk is written. -/
inductive Style where
  | plain
  | single
  | double
  deriving DecidableEq, Repr

/-- The octet of an ASCII character. -/
def octet (char : Char) : UInt8 := UInt8.ofNat char.toNat

/-- Octets that mean themselves wherever the shell reads them. -/
def isPlain (byte : UInt8) : Bool :=
  (octet 'A' ≤ byte && byte ≤ octet 'Z') || (octet 'a' ≤ byte && byte ≤ octet 'z')
    || (octet '0' ≤ byte && byte ≤ octet '9')
    || "+-./:@]_".toList.any fun char => octet char == byte

namespace Style

/-- Whether a chunk in this style may hold the octet. -/
def carries (style : Style) (byte : UInt8) : Bool :=
  match style with
  | plain => isPlain byte
  | single => !"'^\\".toList.any fun char => octet char == byte
  | double => !"`$!^".toList.any fun char => octet char == byte

/-- The octets that double quotes leave special. -/
def special (byte : UInt8) : Bool :=
  "$`\"\\".toList.any fun char => octet char == byte

/-- A chunk in this style. -/
def write (style : Style) (chunk : Bytes) : Bytes :=
  match style with
  | plain => chunk
  | single => octet '\'' :: chunk ++ [octet '\'']
  | double =>
    octet '"' ::
      (chunk.flatMap fun byte => if special byte then [octet '\\', byte] else [byte])
      ++ [octet '"']

/-- All styles, the plainest first. -/
def all : List Style := [plain, single, double]

end Style

/-- The styles a chunk can have after its first octet. A circumflex opens a chunk between single
quotes. -/
def opening (byte : UInt8) : List Style :=
  if byte = octet '^' then [.single] else Style.all.filter (·.carries byte)

/-- A chunk in the plainest of the styles left. -/
def close (styles : List Style) (chunk : Bytes) : Bytes :=
  (styles.headD .plain).write chunk

/-- Writes a word whose current chunk, in reverse, has the given styles left. -/
def quoteFrom (styles : List Style) (chunk : Bytes) : Bytes → Bytes
  | [] => close styles chunk.reverse
  | byte :: rest =>
    match styles.filter (·.carries byte) with
    | [] => close styles chunk.reverse ++ quoteFrom (opening byte) [byte] rest
    | left => quoteFrom left (byte :: chunk) rest

/-- The written form of a word. -/
def quote? (word : Bytes) : Option Bytes :=
  if word.contains 0 then none
  else
    match word with
    | [] => some [octet '\'', octet '\'']
    | byte :: rest => some (quoteFrom (opening byte) [byte] rest)

end KernelCache.Quoting

/-! ## The commands of a build -/

namespace KernelCache.Command

/-- Words joined by spaces, without the empty ones. -/
def render (words : List Bytes) : Bytes :=
  [0x20].intercalate (words.filter (· ≠ []))

/-- A word of a command that is taken as it is. -/
def raw (word : String) : Bytes :=
  Bytes.ofString word

/-- The quoted form of a path behind a fixed opening. -/
def prefixedPath (opening : String) (path : Path) : Except Failure Bytes :=
  if Utf8.valid path.bytes then
    let word := Bytes.ofString opening ++ path.bytes
    match Quoting.quote? word with
    | some written => .ok written
    | none =>
      let reason := "cannot shell-quote string containing nul byte"
      .error (.config s!"cannot quote {Text.quoted (Utf8.lossy word)}: {reason}")
  else .error (.config s!"path {path.display} is not valid UTF-8")

/-- The quoted form of a path. -/
def path (path : Path) : Except Failure Bytes :=
  prefixedPath "" path

/-- Links the whole archive into the library, which finds its own dependencies beside it. -/
def linkArchive (toolchain : Toolchain) (archive library : Path) : Except Failure Bytes := do
  let target ← path library
  let source ← path archive
  return render [raw toolchain.compiler, raw "-shared", raw "-o", target,
    raw toolchain.archivePrefix, source, raw toolchain.archiveSuffix,
    raw (toolchain.linkerPrefix ++ "-rpath,.")]

/-- Compiles a source file into a position independent object. -/
def compile (toolchain : Toolchain) (verbose : Bool) (source object : Path) :
    Except Failure Bytes := do
  let includes ← toolchain.includeDirs.mapM (prefixedPath "-I")
  let target ← path object
  let input ← path source
  return render ([raw toolchain.compiler, raw toolchain.flags] ++ includes ++
    [raw toolchain.device, raw toolchain.positionIndependent, raw toolchain.pipe, raw "-c",
      raw "-o", target, input, raw (if verbose then "-v" else "")])

/-- Puts an object into the archive, in place of its earlier version. -/
def archive (toolchain : Toolchain) (archive object : Path) : Except Failure Bytes := do
  let target ← path archive
  let member ← path object
  return render [raw toolchain.archiver, raw "-rv", target, member]

/-- Links the whole archive into a fresh image. -/
def linkImage (toolchain : Toolchain) (archive image : Path) : Except Failure Bytes := do
  let target ← path image
  let source ← path archive
  return render [raw toolchain.compiler, raw "-shared", raw "-o", target,
    raw toolchain.archivePrefix, source, raw toolchain.archiveSuffix]

/-- Copies an image over the library; the installer removes the old file first. -/
def install (toolchain : Toolchain) (image library : Path) : Except Failure Bytes := do
  let source ← path image
  let target ← path library
  return render [raw "install", raw toolchain.backup, source, target]

end KernelCache.Command
