import KernelCache.CommandLine.Run
import KernelCache.Proofs.Text.Numeral

/-
**Hashes on the command line.**

A hash is given in hexadecimal digits, behind a mark of the base or not. Both marks are taken away as
often as they stand there, and a number may have a sign; so some texts are read that spell no hash.

* `dropRepeated_repeated` and `exists_repeated`: what is taken away is a piece repeated, and what is
  left does not begin with it.
* `HashText.parseHash?_eq_some_iff`: marks in a row, the small ones first, then a plus sign or none,
  and then digits.
* `HashText.Proper text hash`: the text spells the hash. `HashText.Improper text hash`: it has more
  than one mark, or a plus sign.
* **`HashText.hash_read`**: a hash is read exactly from these texts, and every hash is read back from
  the sixteen digits that it is written in.
* `HashText.improper_read`: texts that spell no hash and are read as one.
-/

namespace KernelCache

/-! ### What stands repeatedly in front of a text -/

section Repeated

variable {piece : List Char}

theorem dropRepeated_append (some : piece ≠ []) (text : List Char) :
    dropRepeated piece (piece ++ text) = dropRepeated piece text := by
  rw [dropRepeated, if_pos ⟨some, List.isPrefixOf_iff_prefix.mpr (List.prefix_append piece text)⟩,
    List.drop_left]

theorem dropRepeated_of_not_prefix {text : List Char} (other : ¬ piece <+: text) :
    dropRepeated piece text = text := by
  rw [dropRepeated, if_neg fun found => other (List.isPrefixOf_iff_prefix.mp found.2)]

/-- **A repeated piece is taken away**, if what is behind it does not begin with the piece. -/
theorem dropRepeated_repeated (some : piece ≠ []) (count : Nat) {text : List Char}
    (other : ¬ piece <+: text) :
    dropRepeated piece ((List.replicate count piece).flatten ++ text) = text := by
  induction count with
  | zero => exact dropRepeated_of_not_prefix other
  | succ count ih =>
    rw [List.replicate_succ, List.flatten_cons, List.append_assoc, dropRepeated_append some, ih]

/-- **Nothing else is taken away.** -/
theorem exists_repeated (piece text : List Char) :
    ∃ count, text = (List.replicate count piece).flatten ++ dropRepeated piece text := by
  induction text using dropRepeated.induct piece with
  | case1 text found ih =>
    obtain ⟨count, rest⟩ := ih
    have front := List.prefix_iff_eq_append.mp (List.isPrefixOf_iff_prefix.mp found.2)
    refine ⟨count + 1, ?_⟩
    rw [dropRepeated, if_pos found, List.replicate_succ, List.flatten_cons, List.append_assoc, ← rest,
      front]
  | case2 text missing =>
    exact ⟨0, by rw [dropRepeated, if_neg missing]; rfl⟩

end Repeated

namespace HashText

/-! ### What is read -/

def smallMark : List Char := ['0', 'x']

def largeMark : List Char := ['0', 'X']

/-- Marks of the base in a row, the small ones first. -/
def marks (small large : Nat) : List Char :=
  (List.replicate small smallMark).flatten ++ (List.replicate large largeMark).flatten

variable {text : String} {hash : UInt64}

/-- There is no letter of a mark behind the marks. -/
theorem letters_notMem {sign digits : List Char} {value : Nat} (known : sign ∈ [[], ['+']])
    (spells : Numeral.Spells digits value) : 'x' ∉ sign ++ digits ∧ 'X' ∉ sign ++ digits := by
  have signs : ∀ sign ∈ [[], ['+']], 'x' ∉ sign ∧ 'X' ∉ sign := by decide
  obtain ⟨small, large⟩ := signs sign known
  rw [List.mem_append, List.mem_append, not_or, not_or]
  exact ⟨⟨small, spells.notMem (by decide)⟩, large, spells.notMem (by decide)⟩

/-- **The texts from which a hash is read**: marks in a row, a sign or none, and digits. -/
theorem parseHash?_eq_some_iff :
    parseHash? text = some hash ↔ ∃ small large, ∃ sign ∈ [[], ['+']], ∃ digits,
      text.toList = marks small large ++ (sign ++ digits) ∧
        Numeral.Spells digits hash.toNat := by
  have reads : ∀ value, Numeral.parse? 16 (twoTo 64)
      (dropRepeated largeMark (dropRepeated smallMark text.toList)) = some value ↔
        value < twoTo 64 ∧ ∃ sign ∈ [[], ['+']], ∃ digits,
          dropRepeated largeMark (dropRepeated smallMark text.toList) = sign ++ digits ∧
            Numeral.Spells digits value := fun _ => Numeral.parse?_sixteen_eq_some_iff (by decide)
  have whole : ∀ value, value < twoTo 64 → (UInt64.ofNat value).toNat = value := fun value below =>
    UInt64.toNat_ofNat_of_lt' below
  unfold parseHash?
  rw [Option.map_eq_some_iff]
  constructor
  · rintro ⟨value, read, rfl⟩
    obtain ⟨below, sign, known, digits, left, spells⟩ := (reads value).mp read
    obtain ⟨small, first⟩ := exists_repeated smallMark text.toList
    obtain ⟨large, second⟩ := exists_repeated largeMark (dropRepeated smallMark text.toList)
    refine ⟨small, large, sign, known, digits, ?_, (whole value below).symm ▸ spells⟩
    rw [marks, List.append_assoc, ← left, ← second, ← first]
  · rintro ⟨small, large, sign, known, digits, same, spells⟩
    obtain ⟨noSmall, noLarge⟩ := letters_notMem known spells
    have bare : ¬ largeMark <+: sign ++ digits := fun front =>
      noLarge (front.subset (by decide))
    have middle : ¬ smallMark <+: (List.replicate large largeMark).flatten ++ (sign ++ digits) := by
      intro front
      rcases List.mem_append.mp (front.subset (show 'x' ∈ smallMark by decide)) with marked | behind
      · obtain ⟨mark, inside, here⟩ := List.mem_flatten.mp marked
        rw [List.eq_of_mem_replicate inside] at here
        exact absurd here (by decide)
      · exact noSmall behind
    refine ⟨hash.toNat, (reads _).mpr ⟨hash.toNat_lt, sign, known, digits, ?_, spells⟩,
      UInt64.ofNat_toNat⟩
    rw [same, marks, List.append_assoc, dropRepeated_repeated (by decide) small middle,
      dropRepeated_repeated (by decide) large bare]

/-! ### Hashes and what passes for one -/

/-- The text spells the hash: one mark of the base or none, and digits in either case. -/
def Proper (text : String) (hash : UInt64) : Prop :=
  ∃ mark ∈ [[], smallMark, largeMark], ∃ digits,
    text.toList = mark ++ digits ∧ Numeral.Spells digits hash.toNat

/-- The text has more than one mark in front of the digits, or a plus sign. -/
def Improper (text : String) (hash : UInt64) : Prop :=
  ∃ small large, ∃ sign ∈ [[], ['+']], ∃ digits,
    text.toList = marks small large ++ (sign ++ digits) ∧ Numeral.Spells digits hash.toNat ∧
      (1 < small + large ∨ sign = ['+'])

/-- One mark or none. -/
theorem mem_single_iff {mark : List Char} :
    mark ∈ [[], smallMark, largeMark] ↔ ∃ small large, small + large ≤ 1 ∧ marks small large = mark := by
  constructor
  · intro listed
    simp only [List.mem_cons, List.not_mem_nil, or_false] at listed
    rcases listed with rfl | rfl | rfl
    · exact ⟨0, 0, by decide, rfl⟩
    · exact ⟨1, 0, by decide, rfl⟩
    · exact ⟨0, 1, by decide, rfl⟩
  · rintro ⟨small, large, few, rfl⟩
    obtain ⟨rfl, rfl⟩ | ⟨rfl, rfl⟩ | ⟨rfl, rfl⟩ : small = 0 ∧ large = 0 ∨ small = 1 ∧ large = 0 ∨
        small = 0 ∧ large = 1 := by omega
    · decide
    · decide
    · decide

theorem Proper.read (proper : Proper text hash) : parseHash? text = some hash := by
  obtain ⟨mark, listed, digits, same, spells⟩ := proper
  obtain ⟨small, large, -, rfl⟩ := mem_single_iff.mp listed
  exact parseHash?_eq_some_iff.mpr ⟨small, large, [], List.mem_cons_self, digits, same, spells⟩

theorem Improper.read (improper : Improper text hash) : parseHash? text = some hash := by
  obtain ⟨small, large, sign, known, digits, same, spells, -⟩ := improper
  exact parseHash?_eq_some_iff.mpr ⟨small, large, sign, known, digits, same, spells⟩

/-- **The sixteen digits of a hash spell it**, behind a mark or not. -/
theorem proper_hex64 (hash : UInt64) {mark : String} (listed : mark ∈ ["", "0x", "0X"]) :
    Proper (mark ++ Numeral.hex64 hash) hash := by
  have marked : ∀ mark ∈ ["", "0x", "0X"], mark.toList ∈ [[], smallMark, largeMark] := by decide
  refine ⟨mark.toList, marked mark listed, Numeral.hex 16 hash.toNat, ?_,
    Numeral.spells_hex (by decide) hash.toNat_lt⟩
  rw [String.toList_append, Numeral.hex64, String.toList_ofList]

/-- Every mark has one letter. -/
theorem countP_marks (small large : Nat) :
    (marks small large).countP (· ∈ ['x', 'X']) = small + large := by
  have lone : smallMark.countP (· ∈ ['x', 'X']) = 1 ∧ largeMark.countP (· ∈ ['x', 'X']) = 1 := by
    decide
  rw [marks, List.countP_append, List.countP_flatten, List.countP_flatten, List.map_replicate,
    List.map_replicate, lone.1, lone.2, List.sum_replicate_nat, List.sum_replicate_nat, Nat.mul_one,
    Nat.mul_one]

theorem countP_behind {sign digits : List Char} {value : Nat} (known : sign ∈ [[], ['+']])
    (spells : Numeral.Spells digits value) : (sign ++ digits).countP (· ∈ ['x', 'X']) = 0 := by
  obtain ⟨noSmall, noLarge⟩ := letters_notMem known spells
  refine List.countP_eq_zero.mpr fun char inside letter => ?_
  rcases List.mem_pair.mp (of_decide_eq_true letter) with rfl | rfl
  · exact noSmall inside
  · exact noLarge inside

/-- **No text is both.** -/
theorem Proper.not_improper {other : UInt64} (proper : Proper text hash) :
    ¬ Improper text other := by
  rintro ⟨small, large, sign, known, digits, same, spells, excess⟩
  obtain ⟨mark, listed, digits', same', spells'⟩ := proper
  obtain ⟨small', large', few, rfl⟩ := mem_single_iff.mp listed
  rcases excess with many | rfl
  · have letters := congrArg (List.countP (· ∈ ['x', 'X'])) (same.symm.trans same')
    have none : digits'.countP (· ∈ ['x', 'X']) = 0 := countP_behind List.mem_cons_self spells'
    rw [List.countP_append, countP_marks, countP_behind known spells, List.countP_append,
      countP_marks, none] at letters
    omega
  · have signed : '+' ∈ marks small' large' ++ digits' := by
      rw [← same', same]
      exact List.mem_append_right _ (List.mem_append_left _ (List.mem_singleton_self _))
    have unsigned : ∀ mark ∈ [[], smallMark, largeMark], '+' ∉ mark := by decide
    exact (List.mem_append.mp signed).elim (unsigned _ listed) (spells'.notMem (by decide))

/-- **A hash is read exactly from the texts that spell it, and from those that have more than one mark
or a plus sign.** No text is of both kinds; and every hash is read back from its sixteen digits, with
a mark in front of them or without. -/
theorem hash_read (text : String) (hash : UInt64) :
    (parseHash? text = some hash ↔ Proper text hash ∨ Improper text hash) ∧
    (∀ other, ¬ (Proper text hash ∧ Improper text other)) ∧
    ∀ mark ∈ ["", "0x", "0X"], parseHash? (mark ++ Numeral.hex64 hash) = some hash := by
  refine ⟨⟨fun read => ?_, fun kinds => kinds.elim Proper.read Improper.read⟩,
    fun _ both => both.1.not_improper both.2, fun mark listed => (proper_hex64 hash listed).read⟩
  obtain ⟨small, large, sign, known, digits, same, spells⟩ := parseHash?_eq_some_iff.mp read
  by_cases excess : 1 < small + large ∨ sign = ['+']
  · exact .inr ⟨small, large, sign, known, digits, same, spells, excess⟩
  · obtain ⟨few, unsigned⟩ := not_or.mp excess
    obtain rfl : sign = [] := (List.mem_pair.mp known).resolve_right unsigned
    exact .inl ⟨_, mem_single_iff.mpr ⟨small, large, Nat.not_lt.mp few, rfl⟩, digits, same, spells⟩

/-- **Texts that spell no hash and are read as one**: a mark that is repeated, and a sign. -/
theorem improper_read :
    parseHash? "0x0x1" = some 1 ∧ (∀ hash, ¬ Proper "0x0x1" hash) ∧
      parseHash? "+1" = some 1 ∧ ∀ hash, ¬ Proper "+1" hash := by
  have one : Numeral.Spells ['1'] (1 : UInt64).toNat := ⟨nofun, List.forall_mem_singleton.mpr (by decide), by decide⟩
  have twice : Improper "0x0x1" 1 :=
    ⟨2, 0, [], List.mem_cons_self, ['1'], by decide, one, .inl (by decide)⟩
  have signed : Improper "+1" 1 :=
    ⟨0, 0, ['+'], by decide, ['1'], by decide, one, .inr rfl⟩
  exact ⟨twice.read, fun _ proper => proper.not_improper twice, signed.read,
    fun _ proper => proper.not_improper signed⟩

end HashText

end KernelCache
