/-
**Powers of two.**

A word of `bits` bits has `twoTo bits` values.
-/

namespace KernelCache

/-- Two to a power. -/
abbrev twoTo (exponent : Nat) : Nat := Nat.pow 2 exponent

/-- The next power is twice as large. -/
theorem twoTo_succ (exponent : Nat) : twoTo (exponent + 1) = twoTo exponent * 2 := rfl

/-- Powers of two are positive. -/
theorem twoTo_pos (exponent : Nat) : 0 < twoTo exponent := Nat.pow_pos (by decide)

end KernelCache
