import KernelCache.Utility.Program

/-
**The file tree of a system.**

Besides the programs and the devices there is one empty directory in which everything happens.
-/

namespace KernelCache.Files

/-- The name of an entry. -/
def named (name : String) : Bytes := Bytes.ofString name

/-- The tree of a system with an empty working directory at a place. -/
def system (place : Place) : Files :=
  let ancestors := (List.range place.length).map fun length => place.take (length + 1)
  let programs := Program.names.map fun name =>
    ([named "usr", named "bin", named name], Node.program (named name))
  let fixed : List (Place × Node) := [
    ([named "dev"], .directory), ([named "dev", named "null"], .device .null),
    ([named "dev", named "zero"], .device .zeros), ([named "dev", named "full"], .device .full),
    ([named "dev", named "random"], .device .random),
    ([named "dev", named "urandom"], .device .random),
    ([named "dev", named "tty"], .device .terminal),
    ([named "dev", named "stdin"], .device (.stream 0)),
    ([named "dev", named "stdout"], .device (.stream 1)),
    ([named "dev", named "stderr"], .device (.stream 2)),
    ([named "dev", named "fd"], .directory), ([named "usr"], .directory),
    ([named "usr", named "bin"], .directory), ([named "bin"], .link (named "usr/bin")),
    ([named "root"], .directory), ([named "etc"], .directory), ([named "tmp"], .directory)]
      ++ (List.range 10).map fun number =>
        ([named "dev", named "fd", named (toString number)], .device (.stream number))
  let entries := fixed ++ programs
  let missing := ancestors.filter fun place => (entries.lookup place).isNone
  { entries := entries ++ missing.map fun place => (place, Node.directory) }

end KernelCache.Files
