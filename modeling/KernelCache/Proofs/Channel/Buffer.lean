import KernelCache.Channel.Basic

/-
**The buffer of a channel, octet by octet.**

* `Channel.command_putCommand`: a command without a NUL is read back as it was written, whatever the
  buffer held before.
* `Channel.putOctet` writes a single octet. Writing a command and its terminator octet by octet is
  `Channel.putCommand` (`Channel.copied_nil`, `Channel.putOctet_copied`,
  `Channel.copied_terminated`).
* `Channel.fits_eq_ok_iff` says exactly when a command fits, `Channel.fits_interior` and
  `Channel.fits_clean` what is reported when it does not.
-/

namespace KernelCache.Channel

/-! ### Reading back -/

theorem takeWhile_terminated {command : Bytes} (clean : 0 ∉ command) (rest : Bytes) :
    (command ++ 0 :: rest).takeWhile (· ≠ 0) = command := by
  rw [List.takeWhile_append_of_pos]
  · simp
  · intro octet inside
    have different : octet ≠ 0 := fun zero => clean (zero ▸ inside)
    exact decide_eq_true different

theorem command_putCommand (channel : Channel) {command : Bytes} (clean : 0 ∉ command) :
    (channel.putCommand command).command = command :=
  takeWhile_terminated clean _

/-! ### Writing octet by octet -/

/-- Writes one octet; what lies between the written part and the octet is zero. -/
def putOctet (channel : Channel) (offset : Nat) (octet : UInt8) : Channel :=
  { channel with
    written := channel.written.take offset ++ List.replicate (offset - channel.written.length) 0 ++
      octet :: channel.written.drop (offset + 1) }

/-- The channel after the first octets of its buffer were overwritten. -/
def copied (channel : Channel) (octets : Bytes) : Channel :=
  { channel with written := octets ++ channel.written.drop octets.length }

theorem copied_nil (channel : Channel) : channel.copied [] = channel := rfl

theorem putOctet_copied (channel : Channel) (octets : Bytes) (octet : UInt8) :
    (channel.copied octets).putOctet octets.length octet = channel.copied (octets ++ [octet]) := by
  unfold putOctet copied
  simp [List.drop_append]

theorem copied_terminated (channel : Channel) (command : Bytes) :
    channel.copied (command ++ [0]) = channel.putCommand command := by
  unfold copied putCommand
  simp

/-! ### What fits -/

/-- A NUL is reported at its first offset, however long the command is. -/
theorem fits_interior (capacity : Nat) {before : Bytes} (clean : 0 ∉ before) (after : Bytes) :
    fits capacity (before ++ 0 :: after) = .error (.interiorNul before.length) := by
  have found : (before ++ 0 :: after).findIdx? (· == 0) = some before.length := by
    rw [List.findIdx?_append, List.findIdx?_eq_none_iff.mpr]
    · simp [List.findIdx?_cons]
    · intro octet inside
      exact beq_false_of_ne fun zero => clean (zero ▸ inside)
  rw [fits, found]

theorem fits_clean (capacity : Nat) {command : Bytes} (clean : 0 ∉ command) :
    fits capacity command =
      if capacity < command.length + 1 then .error (.commandTooLong command.length capacity)
      else .ok () := by
  have absent : command.findIdx? (· == 0) = none := by
    refine List.findIdx?_eq_none_iff.mpr fun octet inside => ?_
    exact beq_false_of_ne fun zero => clean (zero ▸ inside)
  rw [fits, absent]

/-- A command fits when it has no NUL and leaves room for the terminator. -/
theorem fits_eq_ok_iff (capacity : Nat) (command : Bytes) :
    fits capacity command = .ok () ↔ 0 ∉ command ∧ command.length + 1 ≤ capacity := by
  by_cases inside : 0 ∈ command
  · obtain ⟨before, after, rfl, clean⟩ := List.eq_append_cons_of_mem inside
    rw [fits_interior capacity clean]
    simp
  · rw [fits_clean capacity inside]
    by_cases long : capacity < command.length + 1
    · rw [if_pos long]
      simp only [reduceCtorEq, false_iff, not_and]
      exact fun _ => Nat.not_le.mpr long
    · rw [if_neg long]
      exact ⟨fun _ => ⟨inside, Nat.not_lt.mp long⟩, fun _ => rfl⟩

end KernelCache.Channel
