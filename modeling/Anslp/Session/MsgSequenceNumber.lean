import Anslp.Session.Refreshing
import Mathlib.Algebra.Group.Int.Defs

/-!
# The numbers of messages sent

A session gives each message it sends the next number, which wraps around, and a
receiver compares numbers in serial number arithmetic.  The comparison is the one
of distances modulo the number of numbers, so the numbers of half as many calls
are in the order in which they were given.

Main results:

- Theorem {lit}`pairwise_msgSequenceNumbers`: the stored number and those given after
  it are ordered as they came.
- Theorem {lit}`isGreaterThan_nextMsgSequenceNumber`: the comparison and the counter.
- Theorem {lit}`NiSession.numbers_eq_of_run`: the numbers given in a run of an initiator.

Current gaps:

- None for numbers of 32 bits.
-/

namespace Anslp

/-- {lit}`next_msg_sequence_number`: the number returned, and the one stored. -/
def nextMsgSequenceNumber (msn : UInt32) : UInt32 × UInt32 :=
  (msn + 1, msn + 1)

/-- The numbers returned by calls one after the other. -/
def msgSequenceNumbers : Nat → UInt32 → List UInt32
  | 0, _ => []
  | k + 1, msn =>
    (nextMsgSequenceNumber msn).1 :: msgSequenceNumbers k (nextMsgSequenceNumber msn).2

example : msgSequenceNumbers 3 4294967294 = [4294967295, 0, 1] := by decide

/-! ## The comparison -/

theorem isGreaterThan_asymm {s₁ s₂ : UInt32} (h : isGreaterThan s₁ s₂ = true) :
    isGreaterThan s₂ s₁ = false := by
  have hs₁ := s₁.toNat_lt
  have hs₂ := s₂.toNat_lt
  rw [isGreaterThan_iff] at h
  rw [Bool.eq_false_iff, Ne, isGreaterThan_iff]
  simp only [UInt32.toNat_sub] at h ⊢
  omega

/-- A number is newer than the one from which it was counted on, unless half of the
numbers are between them. -/
theorem isGreaterThan_add {k : Nat} (msn : UInt32) (hpos : 0 < k) (hlt : k < 2 ^ 31) :
    isGreaterThan (msn + UInt32.ofNat k) msn = true := by
  have hmsn := msn.toNat_lt
  rw [isGreaterThan_iff]
  simp only [UInt32.toNat_sub, UInt32.toNat_add, UInt32.toNat_ofNat']
  omega

theorem isGreaterThan_next (msn : UInt32) :
    isGreaterThan (nextMsgSequenceNumber msn).1 msn = true :=
  isGreaterThan_add msn (k := 1) (by omega) (by omega)

/-! ## Numbers one after the other -/

/-- A number given is some steps ahead of the stored one. -/
theorem mem_msgSequenceNumbers {k : Nat} {msn n : UInt32} (h : n ∈ msgSequenceNumbers k msn) :
    ∃ i, 0 < i ∧ i ≤ k ∧ n = msn + UInt32.ofNat i := by
  induction k generalizing msn with
  | zero => exact absurd h List.not_mem_nil
  | succ k ih =>
    rcases List.mem_cons.mp h with hn | hn
    · exact ⟨1, by omega, by omega, hn⟩
    · rcases ih hn with ⟨i, hpos, hle, hi⟩
      refine ⟨i + 1, by omega, by omega, ?_⟩
      calc n = msn + 1 + UInt32.ofNat i := hi
        _ = msn + UInt32.ofNat (i + 1) := by
            rw [UInt32.ofNat_add, UInt32.add_assoc, UInt32.add_comm 1]
            rfl

theorem msgSequenceNumbers_snoc (k : Nat) (msn : UInt32) :
    msgSequenceNumbers (k + 1) msn =
      msgSequenceNumbers k msn ++ [msn + UInt32.ofNat k + 1] := by
  induction k generalizing msn with
  | zero =>
    have hzero : msn + UInt32.ofNat 0 = msn := UInt32.add_zero msn
    rw [hzero]
    rfl
  | succ k ih =>
    have hlast : msn + 1 + UInt32.ofNat k = msn + UInt32.ofNat (k + 1) := by
      rw [UInt32.ofNat_add, UInt32.add_assoc, UInt32.add_comm 1]
      rfl
    have htail := ih (msn + 1)
    rw [hlast] at htail
    exact congrArg (List.cons (msn + 1)) htail

/-- The stored number and less than half of the numbers behind it are ordered as
they were given. -/
theorem pairwise_msgSequenceNumbers {k : Nat} (msn : UInt32) (hk : k < 2 ^ 31) :
    (msn :: msgSequenceNumbers k msn).Pairwise fun earlier later =>
      isGreaterThan later earlier = true ∧ isGreaterThan earlier later = false := by
  induction k generalizing msn with
  | zero => exact List.pairwise_singleton _ _
  | succ k ih =>
    rw [List.pairwise_cons]
    constructor
    · intro n hn
      rcases mem_msgSequenceNumbers hn with ⟨i, hpos, hle, rfl⟩
      have hgreater := isGreaterThan_add msn hpos (by omega)
      exact ⟨hgreater, isGreaterThan_asymm hgreater⟩
    · exact ih (msn + 1) (by omega)

/-- The comparison is the one of distances, a strict one, and the next number is
greater than the stored one; less than half of the numbers, given one after the
other, are ordered as they came. -/
theorem isGreaterThan_nextMsgSequenceNumber :
    (∀ s₁ s₂ : UInt32, isGreaterThan s₁ s₂ = true ↔
      0 < ((s₁.toNat : Int) - s₂.toNat) % 2 ^ 32 ∧
        ((s₁.toNat : Int) - s₂.toNat) % 2 ^ 32 < 2 ^ 31) ∧
    (∀ s : UInt32, isGreaterThan s s = false) ∧
    (∀ s₁ s₂ : UInt32, isGreaterThan s₁ s₂ = true → isGreaterThan s₂ s₁ = false) ∧
    (∀ msn : UInt32, isGreaterThan (nextMsgSequenceNumber msn).1 msn = true) ∧
    (∀ (msn : UInt32) (k : Nat), k < 2 ^ 31 →
      (msn :: msgSequenceNumbers k msn).Pairwise fun earlier later =>
        isGreaterThan later earlier = true ∧ isGreaterThan earlier later = false) := by
  refine ⟨?_, isGreaterThan_self, ?_, isGreaterThan_next, ?_⟩
  · intro s₁ s₂
    have hs₁ := s₁.toNat_lt
    have hs₂ := s₂.toNat_lt
    rw [isGreaterThan_iff]
    simp only [UInt32.toNat_sub]
    omega
  · intro s₁ s₂
    exact isGreaterThan_asymm
  · intro msn k hk
    exact pairwise_msgSequenceNumbers msn hk

/-- Numbers given across the wrap. -/
theorem isGreaterThan_nextMsgSequenceNumber_wrap :
    [4294967294, 4294967295, 0, 1].Pairwise fun earlier later : UInt32 =>
      isGreaterThan later earlier = true ∧ isGreaterThan earlier later = false :=
  isGreaterThan_nextMsgSequenceNumber.2.2.2.2 4294967294 3 (by decide)

/-! ## The numbers of an initiator -/

namespace NiSession

variable {α : Type} {s : NiSession α} {conf : AnslpConfig} {id : SessionId} {random : UInt32}
  {trace : List (RunStep α)}

/-- The numbers given in a run are those of as many calls, from the random number. -/
theorem numbers_eq_of_run (hrun : Runs conf id random trace s) :
    numbers trace = msgSequenceNumbers (numbers trace).length random := by
  induction hrun with
  | nil => rfl
  | @snoc t u tr input o hrun hstep ih =>
    rw [numbers_snoc]
    by_cases hsame : u.msn = t.msn
    · rw [if_neg (not_not.mpr hsame), List.append_nil]
      exact ih
    · have hmsn := (transits_of_processEvent (next_of_machine hstep)).msn_eq
      rw [if_pos hsame, List.length_append, List.length_singleton, msgSequenceNumbers_snoc, ← ih,
        ← (numbers_of_run hrun).1, hmsn.resolve_left hsame]

end NiSession
end Anslp
