import KernelCache.Path
import KernelCache.Text.Category

/-
**Toolchains.**

A toolchain is a compiler driver, an archiver and the conventions of a backend and of a linker. The
spelling of every option that depends on the two conventions is one function here.
-/

namespace KernelCache

/-- What kernels are compiled for. -/
inductive Backend where
  | host
  | cuda
  | hip
  deriving DecidableEq, Repr

namespace Backend

/-- The lower case name of a backend. -/
def label : Backend → String
  | host => "host"
  | cuda => "cuda"
  | hip => "hip"

/-- Reads a backend's name in any case and with white space around it. -/
def parse? (name : String) : Option Backend :=
  match (Text.trim name.toList).map Char.toLower with
  | ['h', 'o', 's', 't'] => some host
  | ['c', 'p', 'u'] => some host
  | ['c', 'u', 'd', 'a'] => some cuda
  | ['h', 'i', 'p'] => some hip
  | _ => none

end Backend

/-- Whose conventions the linker and the installer follow. -/
inductive LinkStyle where
  | gnu
  | apple
  deriving DecidableEq, Repr

namespace LinkStyle

/-- The lower case name of a link style. -/
def label : LinkStyle → String
  | gnu => "gnu"
  | apple => "apple"

/-- The style of this platform. -/
def native : LinkStyle := .gnu

end LinkStyle

/-- The programs and options every build uses. -/
structure Toolchain where
  /-- The compiler driver, which also links. -/
  compiler : String := "c++"
  archiver : String := "ar"
  flags : String := "-O3 -std=c++17"
  includeDirs : List Path := []
  /-- The extension of source files, which selects the language. -/
  sourceExtension : String := "cc"
  backend : Backend := .host
  linkStyle : LinkStyle := LinkStyle.native
  deriving DecidableEq, Repr

namespace Toolchain

/-- Hands an option to the host compiler. -/
def compilerPrefix (toolchain : Toolchain) : String :=
  match toolchain.backend with
  | .host => ""
  | .cuda | .hip => "-Xcompiler="

/-- Hands an option to the linker. -/
def linkerPrefix (toolchain : Toolchain) : String :=
  match toolchain.backend with
  | .host => "-Wl,"
  | .cuda | .hip => "-Xlinker="

/-- Asks for position independent code. -/
def positionIndependent (toolchain : Toolchain) : String :=
  match toolchain.backend with
  | .cuda => "-Xcompiler=-fPIC"
  | .host | .hip => "-fPIC"

/-- Asks for pipes between the compiler's stages. -/
def pipe (toolchain : Toolchain) : String :=
  toolchain.compilerPrefix ++ "-pipe"

/-- Asks for relocatable device code; the host has none. -/
def device (toolchain : Toolchain) : String :=
  match toolchain.backend with
  | .host => ""
  | .cuda => "--device-c"
  | .hip => "-fgpu-rdc"

/-- Comes before an archive that is linked whole. -/
def archivePrefix (toolchain : Toolchain) : String :=
  match toolchain.linkStyle, toolchain.backend with
  | .apple, _ => "-all_load"
  | .gnu, .hip => "-Wl,--whole-archive"
  | .gnu, _ => toolchain.linkerPrefix ++ "--whole-archive"

/-- Comes after an archive that is linked whole. -/
def archiveSuffix (toolchain : Toolchain) : String :=
  match toolchain.linkStyle, toolchain.backend with
  | .apple, _ => ""
  | .gnu, .hip => "-Wl,--no-whole-archive"
  | .gnu, _ => toolchain.linkerPrefix ++ "--no-whole-archive"

/-- Tells the installer to keep no backup. -/
def backup (toolchain : Toolchain) : String :=
  match toolchain.linkStyle with
  | .gnu => "--backup=none"
  | .apple => ""

end Toolchain

end KernelCache
