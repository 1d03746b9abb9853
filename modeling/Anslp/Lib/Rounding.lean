import Mathlib.Algebra.Order.Floor.Semiring
import Mathlib.Algebra.Order.Field.Basic

/-!
# Quotients rounded up

The quotient of two natural numbers rounded up, as programs compute it with the quotient
rounded down.

Main results:

- Theorem {lit}`add_pred_div_le_iff`: which numbers bound the quotient.
- Theorem {lit}`ceil_natCast_div`: it is the ceiling of the quotient in an ordered field.

Current gaps:

- None for natural numbers.
-/

namespace Rounding

variable {a b q : ℕ}

/-- The quotient rounded up is the least number that is large enough. -/
theorem add_pred_div_le_iff (hb : 0 < b) : (a + (b - 1)) / b ≤ q ↔ a ≤ b * q := by
  rw [Nat.div_le_iff_le_mul_add_pred hb]
  omega

/-- It is below a number if all before it are too small. -/
theorem add_pred_div_lt_iff (hb : 0 < b) : (a + (b - 1)) / b < q ↔ a + b ≤ b * q := by
  rw [Nat.div_lt_iff_lt_mul hb, Nat.mul_comm q b]
  omega

/-- The ceiling of a quotient in an ordered field. -/
theorem ceil_natCast_div {K : Type*} [Field K] [LinearOrder K] [IsStrictOrderedRing K]
    [FloorSemiring K] (hb : 0 < b) : ⌈(a : K) / b⌉₊ = (a + (b - 1)) / b := by
  have hbK : (0 : K) < b := Nat.cast_pos.mpr hb
  refine eq_of_forall_ge_iff fun q => ?_
  rw [Nat.ceil_le, div_le_iff₀ hbK, add_pred_div_le_iff hb, ← Nat.cast_mul, Nat.cast_le,
    Nat.mul_comm]

end Rounding
