import Anslp.Lib.Transition

/-!
# Retries

A component that waits for a reply repeats its request whenever its timer expires, and gives
up when it has done so often enough.  This module says how often that is for a component that
counts its retries: as often as its bound allows if the counter is 0 when the component begins
to wait, and in general only then.

Main results:

- Theorem {lit}`Retrying.CountedBy.retriesExactly`: a component whose counter starts at 0 uses
  all its retries.
- Theorem {lit}`Retrying.CountedBy.retriesExactly_iff`: it does so only then, unless it has
  none.

Current gaps:

- None for one counter and one bound.
-/

namespace Transition

/-- A component that waits for a reply: in which states it does, the inputs that are no reply,
the expiries among them, and what it does when it repeats its request, gives up, or does
neither. -/
structure Retrying (σ ι ο : Type) where
  sys : System σ ι ο
  waits : σ → Prop
  silent : σ → ι → Prop
  expires : σ → ι → Bool
  repeats : σ → ο × Option σ → Prop
  givesUp : σ → ο × Option σ → Prop
  idles : σ → ο × Option σ → Prop

namespace Retrying

variable {σ ι ο : Type} (r : Retrying σ ι ο)

/-- An expiry is answered by a repetition or by giving up, and other inputs by neither. -/
structure Answers (repeating : Prop) (s : σ) (i : ι) : Prop where
  repeated : r.expires s i = true → repeating → r.repeats s (r.sys s i)
  givenUp : r.expires s i = true → ¬ repeating → r.givesUp s (r.sys s i)
  idle : r.expires s i = false → r.idles s (r.sys s i)

/-- How often the timer has expired. -/
def expiries (tr : List (Step σ ι ο)) : Nat :=
  tr.countP fun st => r.expires st.pre st.input

/-- As long as no reply comes, every expiry up to a bound is answered by a repetition, and the
next one by giving up. -/
def RetriesExactly (bound : Nat) (s : σ) : Prop :=
  ∀ tr t, Run r.sys s tr t → (∀ st ∈ tr, r.waits st.pre ∧ r.silent st.pre st.input) →
    r.waits t → r.expiries tr ≤ bound ∧
      ∀ i, r.silent t i → r.Answers (r.expiries tr < bound) t i

/-- A component counts its retries, as long as it waits, up to a bound. -/
structure CountedBy (counter : σ → Nat) (bound : Nat) (I : σ → Prop) : Prop where
  answers : ∀ s i, I s → r.waits s → r.silent s i → r.Answers (counter s < bound) s i
  kept : ∀ s i o t, I s → r.waits s → r.silent s i → r.sys s i = (o, some t) → I t
  counted : ∀ s i o t, I s → r.waits s → r.silent s i → r.expires s i = true →
    counter s < bound → r.sys s i = (o, some t) → counter t = counter s + 1
  uncounted : ∀ s i o t, I s → r.waits s → r.silent s i → r.expires s i = false →
    r.sys s i = (o, some t) → counter t = counter s
  left : ∀ s i o t, I s → r.waits s → r.silent s i → r.expires s i = true →
    ¬ counter s < bound → r.sys s i = (o, some t) → ¬ r.waits t

variable {r} {counter : σ → Nat} {bound : Nat} {I : σ → Prop} {s t : σ}
  {tr : List (Step σ ι ο)}

theorem expiries_snoc (st : Step σ ι ο) :
    r.expiries (tr ++ [st]) = r.expiries tr + if r.expires st.pre st.input then 1 else 0 := by
  rw [expiries, List.countP_append, List.countP_singleton, expiries]

/-- While the component waits the counter is the number of expiries, and no retry is made
beyond the bound. -/
theorem CountedBy.counter_of_run (h : r.CountedBy counter bound I) (hs : I s)
    (hrun : Run r.sys s tr t)
    (hsilent : ∀ st ∈ tr, r.waits st.pre ∧ r.silent st.pre st.input) (hwaits : r.waits t) :
    I t ∧ counter t = counter s + r.expiries tr ∧
      (counter t ≤ counter s ∨ counter t ≤ bound) := by
  induction hrun with
  | nil => exact ⟨hs, rfl, Or.inl (Nat.le_refl _)⟩
  | @snoc t u tr i o hrun hstep ih =>
      have hlast := hsilent _ (List.mem_append_right _ List.mem_cons_self)
      rcases ih (fun st hst => hsilent st (List.mem_append_left _ hst)) hlast.1 with
        ⟨ht, hcounter, hbound⟩
      refine ⟨h.kept _ _ _ _ ht hlast.1 hlast.2 hstep, ?_⟩
      rw [expiries_snoc]
      by_cases hexpires : r.expires t i = true
      · by_cases hcount : counter t < bound
        · have hnext := h.counted _ _ _ _ ht hlast.1 hlast.2 hexpires hcount hstep
          rw [if_pos hexpires]
          omega
        · exact absurd hwaits (h.left _ _ _ _ ht hlast.1 hlast.2 hexpires hcount hstep)
      · have hother := Bool.eq_false_iff.mpr hexpires
        have hnext := h.uncounted _ _ _ _ ht hlast.1 hlast.2 hother hstep
        rw [if_neg hexpires]
        omega

/-- A component uses all its retries if its counter is 0 at first, or if it has none. -/
theorem CountedBy.retriesExactly (h : r.CountedBy counter bound I) (hs : I s)
    (hzero : counter s = 0 ∨ bound = 0) : r.RetriesExactly bound s := by
  intro tr t hrun hsilent hwaits
  rcases h.counter_of_run hs hrun hsilent hwaits with ⟨ht, hcounter, hbound⟩
  refine ⟨by omega, fun i hi => ?_⟩
  have hanswers := h.answers t i ht hwaits hi
  have hsame : counter t < bound ↔ r.expiries tr < bound := by omega
  exact ⟨fun hexpires hcount => hanswers.repeated hexpires (hsame.mpr hcount),
    fun hexpires hcount => hanswers.givenUp hexpires (mt hsame.mp hcount), hanswers.idle⟩

/-- Until its counter has reached the bound, a component can be made to retry. -/
theorem CountedBy.exists_retries (h : r.CountedBy counter bound I) (hs : I s)
    (hwaits : r.waits s)
    (hexpiry : ∀ t, I t → r.waits t → ∃ i, r.silent t i ∧ r.expires t i = true ∧
      (counter t < bound → ∃ o u, r.sys t i = (o, some u) ∧ r.waits u))
    (n : Nat) (hn : n ≤ bound - counter s) :
    ∃ tr t, Run r.sys s tr t ∧ (∀ st ∈ tr, r.waits st.pre ∧ r.silent st.pre st.input) ∧
      r.waits t ∧ r.expiries tr = n := by
  induction n with
  | zero => exact ⟨[], s, .nil, fun _ hst => absurd hst List.not_mem_nil, hwaits, rfl⟩
  | succ n ih =>
      rcases ih (by omega) with ⟨tr, t, hrun, hsilent, hwaits', hn'⟩
      rcases h.counter_of_run hs hrun hsilent hwaits' with ⟨ht, hcounter, _⟩
      rcases hexpiry t ht hwaits' with ⟨i, hi, hexpires, hgoesOn⟩
      rcases hgoesOn (by omega) with ⟨o, u, hstep, hu⟩
      refine ⟨_, u, hrun.snoc hstep, fun st hst => ?_, hu, ?_⟩
      · rcases List.mem_append.mp hst with hst | hst
        · exact hsilent st hst
        · rw [List.mem_singleton.mp hst]
          exact ⟨hwaits', hi⟩
      · rw [expiries_snoc, if_pos hexpires, hn']

/-- A component whose counter is not 0 at first does not use all its retries. -/
theorem CountedBy.retriesExactly_iff (h : r.CountedBy counter bound I) (hs : I s)
    (hwaits : r.waits s) (hexclusive : ∀ t x, r.repeats t x → ¬ r.givesUp t x)
    (hexpiry : ∀ t, I t → r.waits t → ∃ i, r.silent t i ∧ r.expires t i = true ∧
      (counter t < bound → ∃ o u, r.sys t i = (o, some u) ∧ r.waits u)) :
    r.RetriesExactly bound s ↔ counter s = 0 ∨ bound = 0 := by
  constructor
  · intro hexactly
    by_contra hnot
    rw [not_or] at hnot
    -- the retries that the counter leaves, and one expiry more
    rcases h.exists_retries hs hwaits hexpiry (bound - counter s) (Nat.le_refl _) with
      ⟨tr, t, hrun, hsilent, hwaits', hn⟩
    rcases h.counter_of_run hs hrun hsilent hwaits' with ⟨ht, hcounter, _⟩
    rcases hexpiry t ht hwaits' with ⟨i, hi, hexpires, _⟩
    have hrepeats := ((hexactly tr t hrun hsilent hwaits').2 i hi).repeated hexpires (by omega)
    have hgivesUp := (h.answers t i ht hwaits' hi).givenUp hexpires (by omega)
    exact hexclusive t _ hrepeats hgivesUp
  · exact h.retriesExactly hs

end Retrying
end Transition
