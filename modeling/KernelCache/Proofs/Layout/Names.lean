import KernelCache.Layout
import KernelCache.Proofs.Layout.Places
import KernelCache.Proofs.Text.Numeral

/-
**Names that follow from a hash.**

A kernel's symbol is a letter and the sixteen digits of its hash, and its files are named after it. An
extension may be any text, also one with slashes that leads out of the directory again: what stands
in front of its first slash still begins with the digits of the hash.

* `Path.components_join_append`: a path that begins with a plain text, behind a directory.
* `Layout.leads_kernelFile`: the first component of a kernel's file behind the directory.
* **`Layout.names_apart`**: kernels with different hashes share neither a symbol nor a file.
-/

namespace KernelCache

namespace Path

/-- A path that begins with a text without slashes and not with a dot, behind a directory: what
stands in front of its first slash is a name that begins with that text. -/
theorem components_join_append (dir : Path) {front : Bytes} (slashless : slash ∉ front)
    (plain : ∃ octet ∈ front, octet ≠ 0x2E) (back : Bytes) :
    ∃ tail rest, (dir.join ⟨front ++ back⟩).components =
      dir.components ++ .name (front ++ tail) :: rest := by
  obtain ⟨tail, others, behind⟩ := List.exists_cons_of_ne_nil (pieces_ne_nil back)
  have split := pieces_append slashless behind
  obtain ⟨octet, inside, other⟩ := plain
  have differs {dots : Bytes} (all : dots.all (· == 0x2E) = true) : front ++ tail ≠ dots := by
    rintro rfl
    exact other (beq_iff_eq.mp (List.all_eq_true.mp all octet (List.mem_append_left tail inside)))
  have relative : (⟨front ++ back⟩ : Path).isAbsolute = false := by
    cases front with
    | nil => cases inside
    | cons first front =>
      exact beq_eq_false_iff_ne.mpr fun same =>
        slashless (List.mem_cons.mpr (.inl (Option.some.inj same).symm))
  have pieces : inner (front ++ back) =
      .name (front ++ tail) :: others.filterMap pieceComponent? := by
    have named : pieceComponent? (front ++ tail) = some (.name (front ++ tail)) := by
      rw [pieceComponent?, if_neg, if_neg (differs (by decide))]
      exact not_or.mpr ⟨differs (by decide), differs (by decide)⟩
    rw [inner, split, List.filterMap_cons_some named]
  refine ⟨tail, others.filterMap pieceComponent?, ?_⟩
  by_cases empty : dir.bytes = []
  · have start : origin ⟨front ++ back⟩ = [] := by
      unfold origin
      rw [relative, split, if_neg (by decide), if_neg]
      exact fun same => differs (by decide) (Option.some.inj same)
    rw [join_nil empty, components_nil empty, components_eq, start, pieces]
  · rw [components_join_relative empty relative, pieces]

end Path

namespace Kernel

theorem toList_symbolFor (hash : UInt64) :
    (symbolFor hash).toList = 'k' :: Numeral.hex 16 hash.toNat :=
  toList_stem ⟨hash, "", ""⟩

/-- There is no dot in what is written for a hash. -/
theorem dot_notMem_symbolFor (hash : UInt64) : 0x2E ∉ Bytes.ofString (symbolFor hash) := by
  rw [Bytes.mem_ofString_iff (by decide), toList_symbolFor, List.mem_cons, not_or]
  refine ⟨by decide, fun inside => ?_⟩
  exact absurd ((Numeral.denotes_hex hash.toNat_lt).lower _ inside) (by decide)

end Kernel

namespace Layout

variable {layout : Layout}

/-- The path leads through something in the directory that is named after a hash. -/
def LeadsThrough (layout : Layout) (hash : UInt64) (path : Path) : Prop :=
  ∃ tail rest, path.components =
    layout.dir.components ++ .name (Bytes.ofString (Kernel.symbolFor hash) ++ 0x2E :: tail) :: rest

/-- **A file of a kernel**, whatever its extension: it is named after the hash, or lies below
something that is. -/
theorem leads_kernelFile (layout : Layout) (kernel : Kernel) (extension : String) :
    layout.LeadsThrough kernel.hash (layout.kernelFile kernel extension) := by
  have slashless : slash ∉ Bytes.ofString (kernel.stem ++ ".") := by
    rw [Bytes.mem_ofString_iff (by decide), String.toList_append, List.mem_append, not_or]
    refine ⟨?_, by decide⟩
    rw [Kernel.toList_stem, List.mem_cons, not_or]
    exact ⟨by decide, Kernel.slash_notMem_hex 16 _⟩
  have plain : ∃ octet ∈ Bytes.ofString (kernel.stem ++ "."), octet ≠ 0x2E := by
    refine ⟨0x6B, ?_, by decide⟩
    rw [Bytes.mem_ofString_iff (by decide), String.toList_append, Kernel.toList_stem]
    exact List.mem_cons_self
  obtain ⟨tail, rest, components⟩ :=
    layout.dir.components_join_append slashless plain (Bytes.ofString extension)
  rw [← Bytes.ofString_append] at components
  refine ⟨tail, rest, components.trans ?_⟩
  rw [Bytes.ofString_append, List.append_assoc]
  rfl

/-- What leads through the names of two hashes tells that they are the same. -/
theorem LeadsThrough.hash_eq {first second : UInt64} {path path' : Path}
    (leads : layout.LeadsThrough first path) (leads' : layout.LeadsThrough second path')
    (same : path.same path' = true) : first = second := by
  obtain ⟨tail, rest, components⟩ := leads
  obtain ⟨tail', rest', components'⟩ := leads'
  rw [Path.same, beq_iff_eq, components, components', List.append_cancel_left_eq,
    List.cons.injEq, Component.name.injEq] at same
  have cut {hash : UInt64} (tail : Bytes) :
      (Bytes.ofString (Kernel.symbolFor hash) ++ 0x2E :: tail).takeWhile (· != 0x2E) =
        Bytes.ofString (Kernel.symbolFor hash) := by
    rw [List.takeWhile_append_of_pos, List.takeWhile_cons_of_neg (by decide), List.append_nil]
    exact fun octet inside => bne_iff_ne.mpr fun dot =>
      Kernel.dot_notMem_symbolFor hash (dot ▸ inside)
  have names := (cut tail).symm.trans ((congrArg _ same.1).trans (cut tail'))
  exact Kernel.symbolFor_injective (Bytes.ofString_injective names)

/-- The files of a kernel. -/
def kernelFiles (layout : Layout) (kernel : Kernel) (extension : String) : List Path :=
  [layout.source kernel extension, layout.object kernel, layout.image kernel]

theorem leads_kernelFiles (layout : Layout) (kernel : Kernel) (extension : String) :
    ∀ path ∈ layout.kernelFiles kernel extension, layout.LeadsThrough kernel.hash path :=
  List.forall_mem_cons.mpr ⟨layout.leads_kernelFile kernel extension,
    List.forall_mem_cons.mpr ⟨layout.leads_kernelFile kernel "co",
      List.forall_mem_singleton.mpr (layout.leads_kernelFile kernel "so")⟩⟩

/-- **Different hashes never share a name**, in any directory and with any extension. Their symbols
are different, every one a letter and the sixteen digits that denote its hash; and whatever
sources and symbols two kernels have, no file of one names the same place as a file of the other. -/
theorem names_apart (layout : Layout) (extension : String) {first second : UInt64}
    (different : first ≠ second) :
    Kernel.symbolFor first ≠ Kernel.symbolFor second ∧
    (∀ hash, ∃ digits, (Kernel.symbolFor hash).toList = 'k' :: digits ∧ digits.length = 16 ∧
      Numeral.Denotes digits hash.toNat) ∧
    ∀ one other : Kernel, one.hash = first → other.hash = second →
      ∀ path ∈ layout.kernelFiles one extension, ∀ path' ∈ layout.kernelFiles other extension,
        path.same path' = false := by
  refine ⟨fun same => different (Kernel.symbolFor_injective same), fun hash => ?_, ?_⟩
  · exact ⟨_, Kernel.toList_symbolFor hash, Numeral.length_hex _ _, Numeral.denotes_hex hash.toNat_lt⟩
  · rintro one other rfl rfl path inside path' inside'
    refine Bool.eq_false_iff.mpr fun same => different ?_
    have leads := layout.leads_kernelFiles one extension path inside
    exact leads.hash_eq (layout.leads_kernelFiles other extension path' inside') same

/-- An extension that leads from one kernel to the image of the other. -/
theorem names_apart_detour :
    let layout : Layout := .ofNames (Path.ofString "/cache//./x/") "libnxjit.a" "libnxjit.so"
    let one : Kernel := ⟨1, "f", ""⟩
    let other : Kernel := ⟨2, "f", ""⟩
    (1 : UInt64) ≠ 2 ∧
    ((layout.source one "x/../k0000000000000002.so").same (layout.image other)) = false := by
  intro layout one other
  have different : (1 : UInt64) ≠ 2 := by decide
  obtain ⟨-, -, apart⟩ := names_apart layout "x/../k0000000000000002.so" different
  exact ⟨different, apart one other rfl rfl _ List.mem_cons_self _
    (List.mem_cons_of_mem _ (List.mem_cons_of_mem _ List.mem_cons_self))⟩

end Layout

end KernelCache
