import KernelCache.CommandLine.Run
import KernelCache.Proofs.Text.Numeral

/-
**What a hash tells of a source and its parameters.**

The hash is the head of a digest of `Kernel.fingerprint`, which writes every parameter behind a NUL.

* `Kernel.fingerprint_eq_iff`: two fingerprints are equal exactly if the texts, cut at all their
  NULs, have the same pieces in the same order.
* `Kernel.fingerprint_injective`: so a source and its parameters can be read back, provided no
  parameter holds a NUL and the sources have equally many NULs or as many parameters.
* `Kernel.hash_separates`: **under that proviso different inputs are hashed as different octets, and
  the same hash for both is a collision of the digest.**
* `Kernel.fingerprint_of_embedded_nul`: without it, a NUL within a text passes for the separator.
-/

namespace KernelCache

/-- Two different messages whose digests have the same head. -/
def Sha256.Collide (first second : Bytes) : Prop :=
  first ≠ second ∧ Sha256.digest64 first = Sha256.digest64 second

namespace Kernel

/-- How many NULs a text has. -/
def nuls (text : String) : Nat :=
  (Bytes.ofString text).count 0

/-- The source and the parameters in order, each cut at all its NULs. -/
def pieces (source : String) (params : List String) : List Bytes :=
  (source :: params).flatMap fun text => (Bytes.ofString text).splitOn 0

variable {source source' : String} {params params' : List String}

/-- What it means to hold no NUL. -/
theorem nuls_eq_zero_iff (text : String) : nuls text = 0 ↔ Char.ofNat 0 ∉ text.toList := by
  rw [nuls, List.count_eq_zero, Bytes.mem_ofString_iff (by decide)]
  rfl

/-! ### Pieces -/

/-- Octets cut at every NUL are one piece more than there are NULs. -/
theorem length_splitOn_nul (octets : Bytes) :
    (octets.splitOn 0).length = octets.count 0 + 1 := by
  induction octets with
  | nil => rfl
  | cons octet octets ih =>
    rw [List.splitOn_cons_eq_if_modifyHead, List.count_cons]
    split
    · rw [List.length_cons, ih]
    · rw [List.length_modifyHead, ih]

theorem splitOn_nul_injective {first second : Bytes}
    (same : first.splitOn 0 = second.splitOn 0) : first = second :=
  calc first = [0].intercalate (first.splitOn 0) := (List.intercalate_splitOn 0).symm
    _ = [0].intercalate (second.splitOn 0) := by rw [same]
    _ = second := List.intercalate_splitOn 0

/-- **A fingerprint falls into the pieces of its texts.** -/
theorem splitOn_fingerprint (source : String) (params : List String) :
    (fingerprint source params).splitOn 0 = pieces source params := by
  -- The texts before the parameters are any octets, which the induction lets grow.
  have whole : ∀ front : Bytes,
      (front ++ params.flatMap fun param => 0 :: Bytes.ofString param).splitOn 0
        = front.splitOn 0 ++ params.flatMap fun param => (Bytes.ofString param).splitOn 0 := by
    induction params with
    | nil =>
      intro front
      rw [List.flatMap_nil, List.flatMap_nil, List.append_nil, List.append_nil]
    | cons param params ih =>
      intro front
      rw [List.flatMap_cons, List.flatMap_cons, List.cons_append, List.splitOn_append_cons_self,
        ih (Bytes.ofString param)]
  exact whole (Bytes.ofString source)

/-- **Fingerprints are equal exactly if their pieces are.** -/
theorem fingerprint_eq_iff :
    fingerprint source params = fingerprint source' params'
      ↔ pieces source params = pieces source' params' := by
  rw [← splitOn_fingerprint, ← splitOn_fingerprint]
  exact ⟨fun same => by rw [same], splitOn_nul_injective⟩

/-- Parameters without a NUL are one piece each. -/
theorem pieces_of_plain (plain : ∀ param ∈ params, nuls param = 0) :
    pieces source params = (Bytes.ofString source).splitOn 0 ++ params.map Bytes.ofString := by
  have single : ∀ param ∈ params,
      (Bytes.ofString param).splitOn 0 = [Bytes.ofString param] := by
    intro param inside
    exact List.splitOn_eq_singleton (List.count_eq_zero.mp (plain param inside))
  rw [pieces, List.flatMap_cons, List.flatMap_congr single, List.map_eq_flatMap]

/-! ### Reading back -/

/-- **A source and its parameters can be read back from a fingerprint**, provided no parameter holds
a NUL and it is known how many NULs the source or how many texts the parameters have. -/
theorem fingerprint_injective (plain : ∀ param ∈ params ++ params', nuls param = 0)
    (level : nuls source = nuls source' ∨ params.length = params'.length)
    (same : fingerprint source params = fingerprint source' params') :
    source = source' ∧ params = params' := by
  have cut := fingerprint_eq_iff.mp same
  rw [pieces_of_plain fun param inside => plain param (List.mem_append_left _ inside),
    pieces_of_plain fun param inside => plain param (List.mem_append_right _ inside)] at cut
  have lengths := congrArg List.length cut
  rw [List.length_append, List.length_append, length_splitOn_nul, length_splitOn_nul,
    List.length_map, List.length_map] at lengths
  have sources : nuls source = nuls source' := by
    unfold nuls at level ⊢
    omega
  obtain ⟨front, back⟩ := List.append_inj cut (by
    rw [length_splitOn_nul, length_splitOn_nul]
    exact congrArg (· + 1) sources)
  exact ⟨Bytes.ofString_injective (splitOn_nul_injective front),
    List.map_injective_iff.mpr (fun _ _ => Bytes.ofString_injective) back⟩

/-- A request that gives no hash is hashed with its symbol, if it gives one, as the parameter. -/
theorem hash_identity (source : String) (symbol : Option String) :
    (CommandLine.identity source symbol none).hash = hashOf source symbol.toList := by
  cases symbol <;> rfl

/-- **Different inputs have different fingerprints, and a hash that they share is a collision of
the digest**: as hashed, as derived, and as a request without a hash names them. The proviso is that
no parameter holds a NUL, and that the sources hold equally many or have as many parameters. -/
theorem hash_separates (plain : ∀ param ∈ params ++ params', nuls param = 0)
    (level : nuls source = nuls source' ∨ params.length = params'.length)
    (different : (source, params) ≠ (source', params')) :
    fingerprint source params ≠ fingerprint source' params' ∧
      (hashOf source params = hashOf source' params' →
        Sha256.Collide (fingerprint source params) (fingerprint source' params')) ∧
      ((derive source params).hash = (derive source' params').hash →
        Sha256.Collide (fingerprint source params) (fingerprint source' params')) ∧
      ∀ symbol symbol' : Option String, symbol.toList = params → symbol'.toList = params' →
        (CommandLine.identity source symbol none).hash
          = (CommandLine.identity source' symbol' none).hash →
        Sha256.Collide (fingerprint source params) (fingerprint source' params') := by
  have apart : fingerprint source params ≠ fingerprint source' params' := by
    intro same
    obtain ⟨sources, lists⟩ := fingerprint_injective plain level same
    exact different (by rw [sources, lists])
  refine ⟨apart, fun hashes => ⟨apart, hashes⟩, fun hashes => ⟨apart, hashes⟩, ?_⟩
  rintro symbol symbol' rfl rfl hashes
  rw [hash_identity, hash_identity] at hashes
  exact ⟨apart, hashes⟩

/-- A parameter that follows the source is not taken for a part of it. -/
theorem hash_separates_parameter :
    fingerprint "ab" [] ≠ fingerprint "a" ["b"] :=
  (hash_separates (by decide) (.inl (by decide)) (by decide)).1

/-- **A NUL within a text passes for the separator**: a source that holds one, and the two texts
around it as a source with its parameter, are hashed as the same octets. -/
theorem fingerprint_of_embedded_nul :
    ("a\x00b", []) ≠ ("a", ["b"]) ∧
      fingerprint "a\x00b" [] = fingerprint "a" ["b"] ∧
      hashOf "a\x00b" [] = hashOf "a" ["b"] ∧
      (derive "a\x00b" []).stem = (derive "a" ["b"]).stem := by
  have same : fingerprint "a\x00b" [] = fingerprint "a" ["b"] := by decide
  have hashes : hashOf "a\x00b" [] = hashOf "a" ["b"] := congrArg Sha256.digest64 same
  exact ⟨by decide, same, hashes, congrArg symbolFor hashes⟩

end Kernel

end KernelCache
