import KernelCache.Digest
import KernelCache.Text.Numeral

/-
**Kernels.**

A kernel is a source text, the symbol it exports and the 64-bit hash under which it is cached.

* `Kernel.fingerprint` is what is hashed: the source, then every parameter behind a NUL.
* `Kernel.hashOf` is the head of its SHA-256 digest.
* `Kernel.symbolFor` names a kernel after its hash; `Kernel.stem` does so for its files.
-/

namespace KernelCache

/-- A kernel to look up. -/
structure Kernel where
  hash : UInt64
  symbol : String
  source : String
  deriving DecidableEq, Repr

namespace Kernel

/-- The octets that are hashed: the source, then every parameter behind a NUL. -/
def fingerprint (source : String) (params : List String) : Bytes :=
  Bytes.ofString source ++ params.flatMap fun param => 0 :: Bytes.ofString param

/-- The hash of a source with its parameters. -/
def hashOf (source : String) (params : List String) : UInt64 :=
  Sha256.digest64 (fingerprint source params)

/-- The symbol named after a hash. -/
def symbolFor (hash : UInt64) : String :=
  "k" ++ Numeral.hex64 hash

/-- The kernel whose hash and symbol follow from its source and parameters. -/
def derive (source : String) (params : List String) : Kernel :=
  let hash := hashOf source params
  { hash, symbol := symbolFor hash, source }

/-- The name, without an extension, of every file made for the kernel. -/
def stem (kernel : Kernel) : String :=
  symbolFor kernel.hash

end Kernel

end KernelCache
