import Mathlib.Data.List.Forall2
import KernelCache.Text.Utf8

/-
**A text survives its octets.**

* `Utf8.chars_following`: a first octet with the continuation octets it demands is one character.
* `Utf8.chars_utf8EncodeChar`: the octets of a character are read back as that character.
* `Utf8.lossy_ofString`: nothing of a text is replaced when it is read back.
-/

namespace KernelCache.Utf8

/-- Whether an octet lies in a range. -/
def Within (range : UInt8 × UInt8) (octet : UInt8) : Prop :=
  range.1 ≤ octet ∧ octet ≤ range.2

/-! ### Well formed octets -/

theorem fulfilled_within {ranges : List (UInt8 × UInt8)} {octets : Bytes}
    (within : List.Forall₂ Within ranges octets) (rest : Bytes) :
    fulfilled ranges (octets ++ rest) = octets.length := by
  induction within with
  | nil => simp [fulfilled]
  | cons here _ ih =>
    obtain ⟨low, high⟩ := here
    rw [List.cons_append, fulfilled, if_pos ⟨low, high⟩, ih]
    rfl

/-- **A first octet with its continuation octets is one character.** -/
theorem chars_following {first : UInt8} {ranges : List (UInt8 × UInt8)} {octets : Bytes}
    (lead : continuation first = some ranges) (within : List.Forall₂ Within ranges octets)
    (rest : Bytes) :
    chars (first :: octets ++ rest) = some (assemble first octets) :: chars rest := by
  have count := fulfilled_within within rest
  have full : octets.length = ranges.length := within.length_eq.symm
  rw [List.cons_append, chars, lead]
  simp only [count, full, if_true]
  rw [← full, List.take_left, List.drop_left]

/-! ### The octets of a character -/

theorem toNat_ofNat_of_lt {value : Nat} (small : value < 256) :
    (UInt8.ofNat value).toNat = value := by
  rw [UInt8.toNat_ofNat']
  exact Nat.mod_eq_of_lt small

theorem within_ofNat {low high : UInt8} {value : Nat} (small : value < 256)
    (above : low.toNat ≤ value) (below : value ≤ high.toNat) :
    Within (low, high) (UInt8.ofNat value) := by
  have exactly := toNat_ofNat_of_lt small
  refine ⟨UInt8.le_iff_toNat_le.mpr ?_, UInt8.le_iff_toNat_le.mpr ?_⟩
  · rw [exactly]
    exact above
  · rw [exactly]
    exact below

theorem within_tail (value : Nat) : Within tail (UInt8.ofNat (value % 64 + 128)) := by
  have small : value % 64 < 64 := Nat.mod_lt value (by decide)
  refine within_ofNat (by omega) ?_ ?_
  · exact Nat.le_add_left 128 (value % 64)
  · show value % 64 + 128 ≤ 191
    omega

theorem continuation_ofNat {value : Nat} (small : value < 256) :
    continuation (UInt8.ofNat value) =
      if value < 0x80 then some []
      else if value < 0xC2 then none
      else if value < 0xE0 then some [tail]
      else if value = 0xE0 then some [(0xA0, 0xBF), tail]
      else if value = 0xED then some [(0x80, 0x9F), tail]
      else if value < 0xF0 then some [tail, tail]
      else if value = 0xF0 then some [(0x90, 0xBF), tail, tail]
      else if value < 0xF4 then some [tail, tail, tail]
      else if value = 0xF4 then some [(0x80, 0x8F), tail, tail]
      else none := by
  simp only [continuation, UInt8.lt_iff_toNat_lt, ← UInt8.toNat_inj, toNat_ofNat_of_lt small]
  rfl

/-- Two continuation octets follow, the first of them in a range that leaves out the short forms and
the surrogates. -/
theorem continuation_three {value : Nat} (low : 0x800 ≤ value) (high : value < 0x10000)
    (scalar : value < 0xD800 ∨ 0xDFFF < value) :
    ∃ range, continuation (UInt8.ofNat (value / 4096 % 16 + 224)) = some [range, tail] ∧
      Within range (UInt8.ofNat (value / 64 % 64 + 128)) := by
  rw [continuation_ofNat (by omega), if_neg (by omega), if_neg (by omega), if_neg (by omega)]
  by_cases first : value / 4096 % 16 + 224 = 0xE0
  · rw [if_pos first]
    refine ⟨_, rfl, within_ofNat (by omega) ?_ ?_⟩
    · show 160 ≤ value / 64 % 64 + 128
      omega
    · show value / 64 % 64 + 128 ≤ 191
      omega
  · rw [if_neg first]
    by_cases surrogates : value / 4096 % 16 + 224 = 0xED
    · rw [if_pos surrogates]
      refine ⟨_, rfl, within_ofNat (by omega) ?_ ?_⟩
      · exact Nat.le_add_left 128 (value / 64 % 64)
      · show value / 64 % 64 + 128 ≤ 159
        omega
    · rw [if_neg surrogates, if_pos (by omega)]
      exact ⟨tail, rfl, within_tail (value / 64)⟩

/-- Three continuation octets follow, the first of them in a range that leaves out the short forms
and what lies beyond the last character. -/
theorem continuation_four {value : Nat} (low : 0x10000 ≤ value) (high : value < 0x110000) :
    ∃ range, continuation (UInt8.ofNat (value / 262144 % 8 + 240)) = some [range, tail, tail] ∧
      Within range (UInt8.ofNat (value / 4096 % 64 + 128)) := by
  rw [continuation_ofNat (by omega), if_neg (by omega), if_neg (by omega), if_neg (by omega),
    if_neg (by omega), if_neg (by omega), if_neg (by omega)]
  by_cases first : value / 262144 % 8 + 240 = 0xF0
  · rw [if_pos first]
    refine ⟨_, rfl, within_ofNat (by omega) ?_ ?_⟩
    · show 144 ≤ value / 4096 % 64 + 128
      omega
    · show value / 4096 % 64 + 128 ≤ 191
      omega
  · rw [if_neg first]
    by_cases last : value / 262144 % 8 + 240 < 0xF4
    · rw [if_pos last]
      exact ⟨tail, rfl, within_tail (value / 4096)⟩
    · rw [if_neg last, if_pos (by omega)]
      refine ⟨_, rfl, within_ofNat (by omega) ?_ ?_⟩
      · exact Nat.le_add_left 128 (value / 4096 % 64)
      · show value / 4096 % 64 + 128 ≤ 143
        omega

/-! ### One size after the other -/

theorem chars_one {value : Nat} (high : value < 0x80) (rest : Bytes) :
    chars (UInt8.ofNat value :: rest) = some (Char.ofNat value) :: chars rest := by
  have lead : continuation (UInt8.ofNat value) = some [] := by
    rw [continuation_ofNat (by omega), if_pos high]
  refine (chars_following lead .nil rest).trans ?_
  rw [assemble, List.foldl_nil, List.length_nil, leadBits, toNat_ofNat_of_lt (by omega)]

theorem chars_two {value : Nat} (low : 0x80 ≤ value) (high : value < 0x800) (rest : Bytes) :
    chars (UInt8.ofNat (value / 64 % 32 + 192) :: UInt8.ofNat (value % 64 + 128) :: rest) =
      some (Char.ofNat value) :: chars rest := by
  have lead : continuation (UInt8.ofNat (value / 64 % 32 + 192)) = some [tail] := by
    rw [continuation_ofNat (by omega), if_neg (by omega), if_neg (by omega), if_pos (by omega)]
  have within := List.Forall₂.cons (within_tail value) .nil
  refine (chars_following lead within rest).trans ?_
  refine congrArg (fun number => some (Char.ofNat number) :: chars rest) ?_
  show (UInt8.ofNat (value / 64 % 32 + 192)).toNat % 0x20 * 64
    + (UInt8.ofNat (value % 64 + 128)).toNat % 64 = value
  rw [toNat_ofNat_of_lt (by omega), toNat_ofNat_of_lt (by omega)]
  omega

theorem chars_three {value : Nat} (low : 0x800 ≤ value) (high : value < 0x10000)
    (scalar : value < 0xD800 ∨ 0xDFFF < value) (rest : Bytes) :
    chars (UInt8.ofNat (value / 4096 % 16 + 224) :: UInt8.ofNat (value / 64 % 64 + 128)
      :: UInt8.ofNat (value % 64 + 128) :: rest) = some (Char.ofNat value) :: chars rest := by
  obtain ⟨range, lead, second⟩ := continuation_three low high scalar
  have within := List.Forall₂.cons second (.cons (within_tail value) .nil)
  refine (chars_following lead within rest).trans ?_
  refine congrArg (fun number => some (Char.ofNat number) :: chars rest) ?_
  show ((UInt8.ofNat (value / 4096 % 16 + 224)).toNat % 0x10 * 64
    + (UInt8.ofNat (value / 64 % 64 + 128)).toNat % 64) * 64
    + (UInt8.ofNat (value % 64 + 128)).toNat % 64 = value
  rw [toNat_ofNat_of_lt (by omega), toNat_ofNat_of_lt (by omega), toNat_ofNat_of_lt (by omega)]
  omega

theorem chars_four {value : Nat} (low : 0x10000 ≤ value) (high : value < 0x110000) (rest : Bytes) :
    chars (UInt8.ofNat (value / 262144 % 8 + 240) :: UInt8.ofNat (value / 4096 % 64 + 128)
      :: UInt8.ofNat (value / 64 % 64 + 128) :: UInt8.ofNat (value % 64 + 128) :: rest) =
      some (Char.ofNat value) :: chars rest := by
  obtain ⟨range, lead, second⟩ := continuation_four low high
  have within := List.Forall₂.cons second
    (.cons (within_tail (value / 64)) (.cons (within_tail value) .nil))
  refine (chars_following lead within rest).trans ?_
  refine congrArg (fun number => some (Char.ofNat number) :: chars rest) ?_
  show (((UInt8.ofNat (value / 262144 % 8 + 240)).toNat % 0x08 * 64
    + (UInt8.ofNat (value / 4096 % 64 + 128)).toNat % 64) * 64
    + (UInt8.ofNat (value / 64 % 64 + 128)).toNat % 64) * 64
    + (UInt8.ofNat (value % 64 + 128)).toNat % 64 = value
  rw [toNat_ofNat_of_lt (by omega), toNat_ofNat_of_lt (by omega), toNat_ofNat_of_lt (by omega),
    toNat_ofNat_of_lt (by omega)]
  omega

/-- **The octets of a character are read back as that character.** -/
theorem chars_utf8EncodeChar (char : Char) (rest : Bytes) :
    chars (String.utf8EncodeChar char ++ rest) = some char :: chars rest := by
  have back : Char.ofNat char.val.toNat = char := Char.ofNat_toNat char
  have valid : char.val.toNat < 0xD800 ∨ 0xDFFF < char.val.toNat ∧ char.val.toNat < 0x110000 :=
    char.valid
  unfold String.utf8EncodeChar
  generalize char.val.toNat = value at back valid ⊢
  rw [← back]
  by_cases one : value ≤ 0x7f
  · simp only [if_pos one]
    exact chars_one (by omega) rest
  · by_cases two : value ≤ 0x7ff
    · simp only [if_neg one, if_pos two]
      exact chars_two (by omega) (by omega) rest
    · by_cases three : value ≤ 0xffff
      · simp only [if_neg one, if_neg two, if_pos three]
        exact chars_three (by omega) (by omega) (by omega) rest
      · simp only [if_neg one, if_neg two, if_neg three]
        exact chars_four (by omega) (by omega) rest

theorem chars_ofString (text : String) : chars (Bytes.ofString text) = text.toList.map some := by
  unfold Bytes.ofString
  induction text.toList with
  | nil => rw [List.flatMap_nil, chars]; rfl
  | cons char rest ih => rw [List.flatMap_cons, chars_utf8EncodeChar, ih, List.map_cons]

/-- **Nothing of a text is replaced.** -/
theorem lossy_ofString (text : String) : lossy (Bytes.ofString text) = text := by
  rw [lossy, chars_ofString, List.map_map]
  have kept : (fun char : Option Char => char.getD (Char.ofNat 0xFFFD)) ∘ some = id := rfl
  rw [kept, List.map_id, String.ofList_toList]

end KernelCache.Utf8
