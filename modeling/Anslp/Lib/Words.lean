import Mathlib.Algebra.Group.Nat.Defs
import Mathlib.Data.List.Basic
import Mathlib.Tactic.Common

/-!
# Big-endian words

Network byte order for 16 and 32 bit words, as lists of bytes, and the
arithmetic of fields packed into one word.

Main results:

- Theorems {lit}`word32_bytes32` and {lit}`bytes32_word32`: the 32 bit codec
  round-trips in both directions.
- Theorem {lit}`toNat_or_shiftLeft`: a field put above another one is their sum.
- Theorem {lit}`and_high_mask_eq_zero_iff`: a mask of the high bits tests for small numbers.

Current gaps:

- None for words of 16 and 32 bits.
-/

namespace Words

/-- The 32 bit word with the given bytes, most significant first. -/
def word32 (b₀ b₁ b₂ b₃ : UInt8) : UInt32 :=
  UInt32.ofNat (b₀.toNat * 2 ^ 24 + b₁.toNat * 2 ^ 16 + b₂.toNat * 2 ^ 8 + b₃.toNat)

/-- The bytes of a 32 bit word, most significant first. -/
def bytes32 (w : UInt32) : List UInt8 :=
  [UInt8.ofNat (w.toNat / 2 ^ 24), UInt8.ofNat (w.toNat / 2 ^ 16),
    UInt8.ofNat (w.toNat / 2 ^ 8), UInt8.ofNat w.toNat]

/-- The bytes of a 16 bit word, most significant first. -/
def bytes16 (w : UInt16) : List UInt8 :=
  [UInt8.ofNat (w.toNat / 2 ^ 8), UInt8.ofNat w.toNat]

@[simp]
theorem length_bytes32 (w : UInt32) : (bytes32 w).length = 4 :=
  rfl

@[simp]
theorem length_bytes16 (w : UInt16) : (bytes16 w).length = 2 :=
  rfl

theorem toNat_word32 (b₀ b₁ b₂ b₃ : UInt8) :
    (word32 b₀ b₁ b₂ b₃).toNat =
      b₀.toNat * 2 ^ 24 + b₁.toNat * 2 ^ 16 + b₂.toNat * 2 ^ 8 + b₃.toNat := by
  have h₀ := b₀.toNat_lt
  have h₁ := b₁.toNat_lt
  have h₂ := b₂.toNat_lt
  have h₃ := b₃.toNat_lt
  simp only [word32, UInt32.toNat_ofNat']
  omega

/-- Reading back the bytes of a word gives the word. -/
theorem word32_bytes32 (w : UInt32) :
    word32 (UInt8.ofNat (w.toNat / 2 ^ 24)) (UInt8.ofNat (w.toNat / 2 ^ 16))
      (UInt8.ofNat (w.toNat / 2 ^ 8)) (UInt8.ofNat w.toNat) = w := by
  apply UInt32.toNat_inj.mp
  have h := w.toNat_lt
  rw [toNat_word32]
  simp only [UInt8.toNat_ofNat']
  omega

/-- Writing the word read from four bytes gives the bytes. -/
theorem bytes32_word32 (b₀ b₁ b₂ b₃ : UInt8) :
    bytes32 (word32 b₀ b₁ b₂ b₃) = [b₀, b₁, b₂, b₃] := by
  have h₀ := b₀.toNat_lt
  have h₁ := b₁.toNat_lt
  have h₂ := b₂.toNat_lt
  have h₃ := b₃.toNat_lt
  simp only [bytes32, toNat_word32, List.cons.injEq, and_true]
  refine ⟨?_, ?_, ?_, ?_⟩ <;> apply UInt8.toNat_inj.mp <;>
    simp only [UInt8.toNat_ofNat'] <;> omega

/-! ## Fields of a word -/

/-- A field placed above the low `k` bits adds to a value that fits below it. -/
theorem toNat_or_shiftLeft (hi lo k : Nat) (h : lo < 2 ^ k) :
    (hi <<< k) ||| lo = hi * 2 ^ k + lo := by
  rw [← Nat.shiftLeft_add_eq_or_of_lt h, Nat.shiftLeft_eq]

/-- Masking with `2 ^ k - 1` keeps the low `k` bits. -/
theorem and_mask (n k : Nat) : n &&& (2 ^ k - 1) = n % 2 ^ k :=
  Nat.and_two_pow_sub_one_eq_mod n k

/-- Masking with the bits from `k` on gives 0 exactly if the number is below `2 ^ k`. -/
theorem and_high_mask_eq_zero_iff {n k w : Nat} (h : n < 2 ^ (k + w)) :
    n &&& (2 ^ w - 1) * 2 ^ k = 0 ↔ n < 2 ^ k := by
  have hpos := Nat.two_pow_pos k
  have hdiv : (n &&& (2 ^ w - 1) * 2 ^ k) / 2 ^ k = n / 2 ^ k := by
    rw [Nat.and_div_two_pow, Nat.mul_div_cancel _ hpos, and_mask]
    apply Nat.mod_eq_of_lt
    rwa [Nat.div_lt_iff_lt_mul hpos, ← Nat.pow_add, Nat.add_comm]
  have hmod : (n &&& (2 ^ w - 1) * 2 ^ k) % 2 ^ k = 0 := by
    rw [Nat.and_mod_two_pow, Nat.mul_mod_left, Nat.and_zero]
  rw [← Nat.div_eq_zero_iff_lt hpos, ← hdiv]
  constructor
  · intro hzero
    rw [hzero, Nat.zero_div]
  · intro hzero
    rw [← Nat.div_add_mod (n &&& (2 ^ w - 1) * 2 ^ k) (2 ^ k), hzero, hmod, Nat.mul_zero]

end Words
