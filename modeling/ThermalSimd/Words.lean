import Mathlib.Tactic.Ring

/-!
# Machine words

Unsigned 64-bit operations as operations on natural numbers, where nothing wraps, and what wrapping
does to a quotient.
-/

namespace Words

theorem toNat_ofInt {v} (nonneg : 0 ≤ v) (bound : v < 2 ^ 64) :
    (UInt64.ofInt v).toNat = v.toNat := by
  rw [UInt64.ofInt, UInt64.toNat_ofNat', Int.emod_eq_of_lt nonneg bound]
  omega

theorem toNat_ofNat {v : ℕ} (bound : v < 2 ^ 64) : (UInt64.ofNat v).toNat = v := by
  rw [UInt64.toNat_ofNat', Nat.mod_eq_of_lt bound]

theorem toNat_add {left right : UInt64} (bound : left.toNat + right.toNat < 2 ^ 64) :
    (left + right).toNat = left.toNat + right.toNat := by
  rw [UInt64.toNat_add, Nat.mod_eq_of_lt bound]

theorem toNat_mul {left right : UInt64} (bound : left.toNat * right.toNat < 2 ^ 64) :
    (left * right).toNat = left.toNat * right.toNat := by
  rw [UInt64.toNat_mul, Nat.mod_eq_of_lt bound]

theorem toNat_eq_zero {v : UInt64} : v.toNat = 0 ↔ v = 0 :=
  ⟨fun zero => UInt64.toNat_inj.mp zero, fun zero => congrArg UInt64.toNat zero⟩

theorem mod_div_eq_iff {dividend divisor} (pos : 0 < divisor) (bound : divisor < 2 ^ 64) :
    dividend % 2 ^ 64 / divisor = dividend / divisor ↔ dividend < 2 ^ 64 := by
  refine ⟨fun same => ?_, fun fits => by rw [Nat.mod_eq_of_lt fits]⟩
  by_contra wraps
  -- Wrapping takes off at least one divisor.
  have less : dividend % 2 ^ 64 + divisor ≤ dividend := by
    omega
  have quotient : (dividend % 2 ^ 64 + divisor) / divisor ≤ dividend / divisor :=
    Nat.div_le_div_right less
  rw [Nat.add_div_right _ pos, same] at quotient
  omega

end Words
