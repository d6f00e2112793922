import KernelCache.Proofs.Command.Splitting

/-
**A quoted word is read as the word.**

* `Style.Holds`: the chunks that a style can write.
* `forms_write`: a chunk that is written in a style that holds it is read as the chunk.
* `forms_quoteFrom`: the chunks of a word are read one behind the other.
* `quote?_forms`: a word without NUL has a written form, which is read as the word, also where it
  is empty.
-/

namespace KernelCache.Quoting

open Splitting

namespace Style

/-- A style can write a chunk so that it is read back. -/
def Holds (style : Style) (chunk : Bytes) : Prop :=
  match style with
  | plain => chunk ≠ [] ∧ ∀ byte ∈ chunk, isOrdinary byte
  | single => octet '\'' ∉ chunk
  | double => True

theorem Holds.reverse {style : Style} {chunk : Bytes} (holds : style.Holds chunk) :
    style.Holds chunk.reverse := by
  cases style with
  | plain => simpa [Holds] using holds
  | single => simpa [Holds] using holds
  | double => trivial

end Style

/-- Octets that are written plainly are ordinary. -/
theorem isOrdinary_of_isPlain {byte : UInt8} (plain : isPlain byte) : isOrdinary byte := by
  have all : ∀ number : Fin 256, isPlain (UInt8.ofNat number) → isOrdinary (UInt8.ofNat number) := by
    decide +kernel
  have small : byte.toNat < 256 := byte.toNat_lt
  simpa using all ⟨byte.toNat, small⟩ (by simpa using plain)

namespace Style

/-- A style that carries an octet holds a chunk that goes on with it. -/
theorem Holds.cons {style : Style} {byte : UInt8} {chunk : Bytes} (carries : style.carries byte)
    (holds : style.Holds chunk) : style.Holds (byte :: chunk) := by
  cases style with
  | plain =>
    refine ⟨List.cons_ne_nil _ _, fun other member => ?_⟩
    rcases List.mem_cons.mp member with rfl | member
    · exact isOrdinary_of_isPlain carries
    · exact holds.2 other member
  | single =>
    intro member
    rcases List.mem_cons.mp member with rfl | member
    · exact absurd carries (by decide)
    · exact holds member
  | double => trivial

end Style

/-- Whatever the first octet of a chunk is, some style can write it. -/
theorem opening_ne_nil (byte : UInt8) : opening byte ≠ [] := by
  have all : ∀ number : Fin 256, opening (UInt8.ofNat number) ≠ [] := by decide +kernel
  have small : byte.toNat < 256 := byte.toNat_lt
  simpa using all ⟨byte.toNat, small⟩

theorem holds_opening {byte : UInt8} {style : Style} (member : style ∈ opening byte) :
    style.Holds [byte] := by
  unfold opening at member
  split at member
  · obtain rfl : style = .single := List.mem_singleton.mp member
    subst byte
    simp only [Style.Holds]
    decide
  · have carries := (List.mem_filter.mp member).2
    cases style with
    | plain => exact ⟨List.cons_ne_nil _ _, by simpa using isOrdinary_of_isPlain carries⟩
    | single => exact Style.Holds.cons carries (by simp [Style.Holds])
    | double => trivial

/-! ### Chunks -/

theorem forms_write {style : Style} {chunk : Bytes} (holds : style.Holds chunk) (noNul : 0 ∉ chunk) :
    Forms (style.write chunk) chunk := by
  cases style with
  | plain => exact forms_ordinary holds.2 holds.1
  | single => exact forms_single noNul holds
  | double => exact forms_double noNul

theorem forms_close {styles : List Style} {chunk : Bytes} (left : styles ≠ [])
    (holds : ∀ style ∈ styles, style.Holds chunk) (noNul : 0 ∉ chunk) :
    Forms (close styles chunk.reverse) chunk.reverse := by
  obtain ⟨style, others, rfl⟩ := List.exists_cons_of_ne_nil left
  refine forms_write (holds style List.mem_cons_self).reverse ?_
  rwa [List.mem_reverse]

/-- **The chunks of a word are read one behind the other.** The chunk that is being made is held by
every style that is left for it. -/
theorem forms_quoteFrom {styles : List Style} {chunk : Bytes} (rest : Bytes) (left : styles ≠ [])
    (holds : ∀ style ∈ styles, style.Holds chunk) (noNul : 0 ∉ chunk) (noNulBehind : 0 ∉ rest) :
    Forms (quoteFrom styles chunk rest) (chunk.reverse ++ rest) := by
  induction rest generalizing styles chunk with
  | nil =>
    rw [List.append_nil]
    exact forms_close left holds noNul
  | cons byte rest ih =>
    obtain ⟨here, noNulBehind⟩ := not_mem_cons noNulBehind
    rw [quoteFrom]
    split
    · have alone : (0 : UInt8) ∉ [byte] := by simpa using Ne.symm here
      have next := ih (opening_ne_nil byte) (fun _ => holds_opening) alone noNulBehind
      simpa using (forms_close left holds noNul).append next
    · rename_i kept
      have going : ∀ style ∈ styles.filter (·.carries byte), style.Holds (byte :: chunk) := by
        intro style member
        obtain ⟨among, carries⟩ := List.mem_filter.mp member
        exact (holds style among).cons carries
      have whole : (0 : UInt8) ∉ byte :: chunk := by
        rw [List.mem_cons, not_or]
        exact ⟨Ne.symm here, noNul⟩
      simpa using ih kept going whole noNulBehind

/-- **A word without NUL has a written form that is read as the word.** -/
theorem quote?_forms {word : Bytes} (noNul : 0 ∉ word) :
    ∃ written, quote? word = some written ∧ Forms written word := by
  have absent : word.contains 0 = false := by simpa using noNul
  cases word with
  | nil => exact ⟨_, rfl, forms_single noNul List.not_mem_nil⟩
  | cons byte rest =>
    obtain ⟨here, noNulBehind⟩ := not_mem_cons noNul
    have alone : (0 : UInt8) ∉ [byte] := by simpa using Ne.symm here
    refine ⟨quoteFrom (opening byte) [byte] rest, ?_, ?_⟩
    · simp only [quote?, absent, Bool.false_eq_true, if_false]
    · exact forms_quoteFrom rest (opening_ne_nil byte) (fun _ => holds_opening) alone noNulBehind

theorem quote?_eq_none {word : Bytes} (nul : 0 ∈ word) : quote? word = none := by
  have present : word.contains 0 = true := by simpa using nul
  unfold quote?
  rw [if_pos present]

end KernelCache.Quoting
