import KernelCache.Kernel
import KernelCache.Proofs.Text.Utf8
import Mathlib.Data.Nat.Digits.Lemmas

/-
**Hexadecimal numbers, written and read.**

A number is written in lower case digits, the most significant first, and read in digits of either
case.

* `Numeral.Denotes`: lower case digits and the value that they denote; `Numeral.denotes_hex` says that
  a written value denotes itself.
* `Numeral.hex_injective`: values below `16 ^ width` have different digits.
* `Numeral.Spells`: one or more digits in either case, and their value; `Numeral.digit?_sixteen`: the
  digits that are read are those, and no other character is.
* **`Numeral.parse?_sixteen_eq_some_iff`**: what is read is a spelled number below the bound, with a
  plus sign in front of it or not.
* `Bytes.ofString_injective` and `Bytes.mem_ofString_iff`: different texts have different octets,
  and an ASCII character is in a text exactly if its octet is.
* `Kernel.stem_injective`: kernels with different hashes have different stems.
-/

namespace KernelCache

namespace Numeral

/-! ### Writing -/

theorem length_hex (width value : Nat) : (hex width value).length = width := by
  induction width generalizing value with
  | zero => rfl
  | succ width ih => rw [hex, List.length_append, ih]; rfl

/-- The digits from zero to fifteen. -/
def lowerDigits : List Char := "0123456789abcdef".toList

/-- Lower case digits, the most significant first, and the value that they denote. -/
structure Denotes (digits : List Char) (value : Nat) : Prop where
  lower : ∀ digit ∈ digits, digit ∈ lowerDigits
  value : Nat.ofDigits 16 (digits.reverse.map lowerDigits.idxOf) = value

/-- **A written value denotes itself.** -/
theorem denotes_hex {width value : Nat} (low : value < 16 ^ width) :
    Denotes (hex width value) value := by
  have known : ∀ digit : Fin 16, hexDigit digit ∈ lowerDigits ∧
      lowerDigits.idxOf (hexDigit digit) = digit := by decide
  induction width generalizing value with
  | zero =>
    obtain rfl : value = 0 := Nat.lt_one_iff.mp low
    exact ⟨nofun, rfl⟩
  | succ width ih =>
    obtain ⟨listed, found⟩ := known ⟨value % 16, Nat.mod_lt _ (by decide)⟩
    have front := ih (Nat.div_lt_of_lt_mul (by rwa [Nat.pow_succ, Nat.mul_comm] at low))
    constructor
    · rw [hex, List.forall_mem_append, List.forall_mem_singleton]
      exact ⟨front.lower, listed⟩
    · rw [hex, List.reverse_concat, List.map_cons, Nat.ofDigits_cons, front.value]
      exact (congrArg (· + 16 * (value / 16)) found).trans (Nat.mod_add_div value 16)

/-- **Different values have different digits.** -/
theorem hex_injective {width first second : Nat} (low : first < 16 ^ width)
    (low' : second < 16 ^ width) (same : hex width first = hex width second) : first = second := by
  rw [← (denotes_hex low).value, same, (denotes_hex low').value]

theorem hex64_injective {first second : UInt64} (same : hex64 first = hex64 second) :
    first = second := by
  have digits : hex 16 first.toNat = hex 16 second.toNat := String.ofList_injective same
  exact UInt64.toNat_inj.mp (hex_injective first.toNat_lt second.toNat_lt digits)

/-! ### Reading -/

theorem denotes_nil_iff {value : Nat} : Denotes [] value ↔ value = 0 :=
  ⟨fun denotes => denotes.value.symm, fun zero => ⟨nofun, zero.symm⟩⟩

/-- The first digit counts as often as the others have values. -/
theorem denotes_cons_iff {digit : Char} {digits : List Char} {value : Nat} :
    Denotes (digit :: digits) value ↔ digit ∈ lowerDigits ∧
      ∃ rest, Denotes digits rest ∧ lowerDigits.idxOf digit * 16 ^ digits.length + rest = value := by
  have split : Nat.ofDigits 16 ((digit :: digits).reverse.map lowerDigits.idxOf) =
      lowerDigits.idxOf digit * 16 ^ digits.length +
        Nat.ofDigits 16 (digits.reverse.map lowerDigits.idxOf) := by
    rw [List.reverse_cons, List.map_append, Nat.ofDigits_append, List.length_map,
      List.length_reverse, List.map_singleton, Nat.ofDigits_singleton, Nat.mul_comm, Nat.add_comm]
  constructor
  · rintro ⟨lower, same⟩
    obtain ⟨here, behind⟩ := List.forall_mem_cons.mp lower
    exact ⟨here, _, ⟨behind, rfl⟩, split.symm.trans same⟩
  · rintro ⟨here, rest, ⟨behind, same⟩, whole⟩
    exact ⟨List.forall_mem_cons.mpr ⟨here, behind⟩, split.trans (same.symm ▸ whole)⟩

/-- One or more digits in either case, and the value that they denote. -/
structure Spells (digits : List Char) (value : Nat) : Prop where
  nonempty : digits ≠ []
  denotes : Denotes (digits.map Char.toLower) value

/-- **The digits that are read.** -/
theorem digit?_sixteen (char : Char) :
    digit? 16 char = if char.toLower ∈ lowerDigits then some (lowerDigits.idxOf char.toLower)
      else none := by
  by_cases ascii : char.toNat < 128
  · have all : ∀ code : Fin 128, digit? 16 (Char.ofNat code) =
        if (Char.ofNat code).toLower ∈ lowerDigits then
          some (lowerDigits.idxOf (Char.ofNat code).toLower) else none := by decide +kernel
    have here := all ⟨char.toNat, ascii⟩
    rwa [Char.ofNat_toNat] at here
  · -- Neither the ranges of the digits nor the capitals reach that far.
    have beyond : ∀ last : Char, last.toNat < 128 → ¬ char ≤ last := fun last low reached =>
      ascii (Nat.lt_of_le_of_lt reached low)
    have same : char.toLower = char := dif_neg fun capital => beyond 'Z' (by decide) capital.2
    have other : char ∉ lowerDigits := by
      have low : lowerDigits.all (·.toNat < 128) = true := by decide
      exact fun inside => ascii (of_decide_eq_true (List.all_eq_true.mp low char inside))
    have unread : digitValue? char = none := by
      unfold digitValue?
      rw [if_neg fun range => beyond '9' (by decide) range.2,
        if_neg fun range => beyond 'z' (by decide) range.2,
        if_neg fun range => beyond 'Z' (by decide) range.2]
    rw [same, if_neg other, digit?, unread]
    rfl

/-- **Digits behind a value already read**: every digit moves it up by one place, and the bound is
kept as long as the whole is below it. -/
theorem digits?_sixteen_eq_some_iff {bound start value : Nat} {digits : List Char}
    (low : start < bound) :
    digits? 16 bound start digits = some value ↔
      ∃ read, Denotes (digits.map Char.toLower) read ∧
        start * 16 ^ digits.length + read = value ∧ value < bound := by
  induction digits generalizing start with
  | nil =>
    rw [digits?, Option.some.injEq]
    constructor
    · rintro rfl
      exact ⟨0, denotes_nil_iff.mpr rfl, by simp, low⟩
    · rintro ⟨read, denotes, whole, -⟩
      obtain rfl := denotes_nil_iff.mp denotes
      simpa using whole
  | cons digit digits ih =>
    rw [digits?, digit?_sixteen, List.map_cons]
    simp only [denotes_cons_iff, List.length_map, List.length_cons]
    by_cases known : digit.toLower ∈ lowerDigits
    · rw [if_pos known, Option.bind_eq_bind, Option.bind_some]
      generalize lowerDigits.idxOf digit.toLower = place
      have shifted : ∀ rest, (start * 16 + place) * 16 ^ digits.length + rest =
          start * 16 ^ (digits.length + 1) + (place * 16 ^ digits.length + rest) := by
        intro rest
        rw [Nat.pow_succ]
        ring
      split
      case isTrue fits =>
        rw [ih fits]
        constructor
        · rintro ⟨rest, denotes, whole, below⟩
          exact ⟨_, ⟨known, rest, denotes, rfl⟩, (shifted rest).symm.trans whole, below⟩
        · rintro ⟨_, ⟨-, rest, denotes, rfl⟩, whole, below⟩
          exact ⟨rest, denotes, (shifted rest).trans whole, below⟩
      case isFalse leaves =>
        refine iff_of_false nofun ?_
        rintro ⟨_, ⟨-, rest, -, rfl⟩, whole, below⟩
        have grows := Nat.le_mul_of_pos_right (start * 16 + place)
          (Nat.pow_pos (n := digits.length) (show 0 < 16 by decide))
        rw [← shifted rest] at whole
        omega
    · rw [if_neg known]
      exact iff_of_false nofun fun ⟨_, ⟨known', _⟩, _⟩ => known known'

/-- A sign is no digit, in either case. -/
theorem Spells.notMem {digits : List Char} {value : Nat} (spells : Spells digits value) {char : Char}
    (other : char.toLower ∉ lowerDigits) : char ∉ digits :=
  fun inside => other (spells.denotes.lower _ (List.mem_map_of_mem inside))

/-- **What is read as a number**: a spelled one below the bound, behind a plus sign or not. -/
theorem parse?_sixteen_eq_some_iff {bound value : Nat} {text : List Char} (positive : 0 < bound) :
    parse? 16 bound text = some value ↔ value < bound ∧
      ∃ sign ∈ [[], ['+']], ∃ digits, text = sign ++ digits ∧ Spells digits value := by
  have reads : ∀ {digits : List Char}, digits ≠ [] →
      (digits? 16 bound 0 digits = some value ↔ value < bound ∧ Spells digits value) := by
    intro digits nonempty
    rw [digits?_sixteen_eq_some_iff positive]
    constructor
    · rintro ⟨read, denotes, whole, below⟩
      rw [Nat.zero_mul, Nat.zero_add] at whole
      exact ⟨below, nonempty, whole ▸ denotes⟩
    · rintro ⟨below, spells⟩
      exact ⟨value, spells.denotes, by rw [Nat.zero_mul, Nat.zero_add], below⟩
  have unsigned : ∀ {rest : List Char}, ¬ Spells ('+' :: rest) value := fun spells =>
    spells.notMem (by decide) List.mem_cons_self
  simp only [List.mem_cons, List.not_mem_nil, or_false, exists_eq_or_imp, exists_eq_left,
    List.nil_append, List.singleton_append, exists_eq_left']
  unfold parse?
  split
  · refine iff_of_false nofun ?_
    rintro ⟨-, spells | ⟨digits, same, -⟩⟩
    · exact spells.nonempty rfl
    · exact (nomatch same)
  · refine iff_of_false nofun ?_
    rintro ⟨-, spells | ⟨_, ⟨⟩, spells⟩⟩
    · exact unsigned spells
    · exact spells.nonempty rfl
  · rename_i rest bare
    rw [reads fun empty => bare (empty ▸ rfl)]
    constructor
    · rintro ⟨below, spells⟩
      exact ⟨below, .inr ⟨rest, rfl, spells⟩⟩
    · rintro ⟨below, spells | ⟨_, ⟨⟩, spells⟩⟩
      · exact (unsigned spells).elim
      · exact ⟨below, spells⟩
  · rename_i filled bare signed
    rw [reads filled]
    constructor
    · rintro ⟨below, spells⟩
      exact ⟨below, .inl spells⟩
    · rintro ⟨below, spells | ⟨digits, same, -⟩⟩
      · exact ⟨below, spells⟩
      · exact (signed digits same).elim

/-- A written value is spelled. -/
theorem spells_hex {width value : Nat} (some : width ≠ 0) (low : value < 16 ^ width) :
    Spells (hex width value) value := by
  have denotes := denotes_hex low
  have kept : lowerDigits.map Char.toLower = lowerDigits.map id := by decide
  constructor
  · intro empty
    exact some ((length_hex width value).symm.trans (congrArg List.length empty))
  · have same : (hex width value).map Char.toLower = (hex width value).map id :=
      List.map_congr_left fun digit inside =>
        List.map_inj_left.mp kept digit (denotes.lower digit inside)
    rw [same, List.map_id]
    exact denotes

end Numeral

namespace Bytes

theorem ofString_injective {first second : String} (same : ofString first = ofString second) :
    first = second := by
  rw [← Utf8.lossy_ofString first, same, Utf8.lossy_ofString]

theorem ofString_append (first second : String) :
    ofString (first ++ second) = ofString first ++ ofString second := by
  rw [ofString, String.toList_append, List.flatMap_append]
  rfl

/-- No octet of a longer character is an ASCII character. -/
theorem mem_utf8EncodeChar_iff {octet : UInt8} (ascii : octet.toNat < 0x80) (char : Char) :
    octet ∈ String.utf8EncodeChar char ↔ char.val.toNat = octet.toNat := by
  have valid : char.val.toNat < 0xD800 ∨ 0xDFFF < char.val.toNat ∧ char.val.toNat < 0x110000 :=
    char.valid
  have different : ∀ {value : Nat}, 0x80 ≤ value → value < 256 → octet ≠ UInt8.ofNat value := by
    intro value low high same
    rw [same, Utf8.toNat_ofNat_of_lt high] at ascii
    omega
  unfold String.utf8EncodeChar
  generalize char.val.toNat = value at valid ⊢
  by_cases one : value ≤ 0x7f
  · simp only [if_pos one, List.mem_singleton]
    rw [← UInt8.toNat_inj, Utf8.toNat_ofNat_of_lt (by omega)]
    exact eq_comm
  · have large : value ≠ octet.toNat := by omega
    by_cases two : value ≤ 0x7ff
    · simp only [if_neg one, if_pos two]
      refine iff_of_false ?_ large
      simp only [List.mem_cons, List.not_mem_nil, or_false, not_or]
      exact ⟨different (by omega) (by omega), different (by omega) (by omega)⟩
    · by_cases three : value ≤ 0xffff
      · simp only [if_neg one, if_neg two, if_pos three]
        refine iff_of_false ?_ large
        simp only [List.mem_cons, List.not_mem_nil, or_false, not_or]
        exact ⟨different (by omega) (by omega), different (by omega) (by omega),
          different (by omega) (by omega)⟩
      · simp only [if_neg one, if_neg two, if_neg three]
        refine iff_of_false ?_ large
        simp only [List.mem_cons, List.not_mem_nil, or_false, not_or]
        exact ⟨different (by omega) (by omega), different (by omega) (by omega),
          different (by omega) (by omega), different (by omega) (by omega)⟩

/-- **An ASCII character is in a text exactly if its octet is.** -/
theorem mem_ofString_iff {octet : UInt8} (ascii : octet.toNat < 0x80) (text : String) :
    octet ∈ ofString text ↔ Char.ofNat octet.toNat ∈ text.toList := by
  have single : ∀ char : Char,
      char.val.toNat = octet.toNat ↔ char = Char.ofNat octet.toNat := by
    intro char
    constructor
    · intro same
      rw [← same]
      exact (Char.ofNat_toNat char).symm
    · rintro rfl
      have small : octet.toNat.isValidChar := .inl (by omega)
      rw [Char.ofNat, dif_pos small]
      rfl
  rw [ofString, List.mem_flatMap]
  constructor
  · rintro ⟨char, inside, here⟩
    rwa [(single char).mp ((mem_utf8EncodeChar_iff ascii char).mp here)] at inside
  · intro inside
    exact ⟨_, inside, (mem_utf8EncodeChar_iff ascii _).mpr ((single _).mpr rfl)⟩

end Bytes

namespace Kernel

theorem symbolFor_injective {first second : UInt64} (same : symbolFor first = symbolFor second) :
    first = second := by
  have digits : (Numeral.hex64 first).toList = (Numeral.hex64 second).toList := by
    have whole := congrArg String.toList same
    rw [symbolFor, symbolFor, String.toList_append, String.toList_append] at whole
    exact List.append_cancel_left whole
  exact Numeral.hex64_injective (String.toList_injective digits)

/-- **Different hashes have different stems.** -/
theorem stem_injective {first second : Kernel} (same : first.stem = second.stem) :
    first.hash = second.hash :=
  symbolFor_injective same

end Kernel

end KernelCache
