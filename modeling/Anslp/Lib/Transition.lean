import Mathlib.Data.List.Basic
import Mathlib.Tactic.Common

/-!
# Runs of a step function

A reactive component is a function that takes a state and an input, answers with
an output and either goes on in a next state or stops.  This module gives the
finite runs of such a function, with everything that was observed on the way,
and the rules by which a fact about one step becomes a fact about a whole run.

Main results:

- Theorem {lit}`Run.invariant`: a state predicate kept by every step holds at the
  end of every run that starts in it.
- Theorem {lit}`Run.invariant_of_guarded`: the same for steps that meet a guard.
- Theorem {lit}`Run.trace_induction`: induction over a run together with its trace.
- Theorem {lit}`Run.pre_of_mem`: every recorded step starts in a state of the run.
- Theorem {lit}`Run.invariant_since`: what holds after a step, and is kept by those after it,
  holds at the end.
- Theorem {lit}`Run.simulated`: a run of a component is a run of another one that it simulates
  step by step.
- Theorem {lit}`reachesWithin_of_rank`: with a rank that every step lowers a component
  reaches its goal in as many steps.
- Theorem {lit}`followed_flatMap`: that events are followed by others can be seen step by
  step.

Current gaps:

- Runs are finite; nothing is said about fairness.
-/

namespace Transition

/-- A step function: the output, and the next state unless the component stops. -/
abbrev System (σ ι ο : Type) := σ → ι → ο × Option σ

/-- One recorded step of a run. -/
structure Step (σ ι ο : Type) where
  pre : σ
  input : ι
  output : ο
  post : σ

variable {σ ι ο : Type} {sys : System σ ι ο} {s t u : σ} {tr : List (Step σ ι ο)}

/-- A finite run from one state to another, with the steps it took in order. -/
inductive Run (sys : System σ ι ο) (s : σ) : List (Step σ ι ο) → σ → Prop
  | nil : Run sys s [] s
  | snoc {t u : σ} {tr : List (Step σ ι ο)} {i : ι} {o : ο} :
      Run sys s tr t → sys t i = (o, some u) → Run sys s (tr ++ [⟨t, i, o, u⟩]) u

/-- A state is reachable when some run ends in it. -/
def Reachable (sys : System σ ι ο) (s t : σ) : Prop :=
  ∃ tr, Run sys s tr t

/-- A predicate kept by every step that meets the guard holds after every run
whose steps all meet it. -/
theorem Run.invariant_of_guarded {I : σ → Prop} {G : σ → ι → Prop}
    (hstep : ∀ t i o u, I t → G t i → sys t i = (o, some u) → I u)
    (hrun : Run sys s tr t) (hs : I s) (hg : ∀ st ∈ tr, G st.pre st.input) : I t := by
  induction hrun with
  | nil => exact hs
  | snoc _ hlast ih =>
      refine hstep _ _ _ _ (ih fun st hst => hg st (by simp [hst])) ?_ hlast
      exact hg _ (List.mem_append_right _ List.mem_cons_self)

/-- A predicate kept by every step holds at the end of every run. -/
theorem Run.invariant {I : σ → Prop}
    (hstep : ∀ t i o u, I t → sys t i = (o, some u) → I u)
    (hrun : Run sys s tr t) (hs : I s) : I t :=
  hrun.invariant_of_guarded (G := fun _ _ => True)
    (fun t i o u ht _ h => hstep t i o u ht h) hs (fun _ _ => trivial)

/-- Induction over a run and the trace it left. -/
theorem Run.trace_induction {P : List (Step σ ι ο) → σ → Prop}
    (hnil : P [] s)
    (hsnoc : ∀ tr t i o u, Run sys s tr t → P tr t → sys t i = (o, some u) →
      P (tr ++ [⟨t, i, o, u⟩]) u)
    (hrun : Run sys s tr t) : P tr t := by
  induction hrun with
  | nil => exact hnil
  | snoc hr hlast ih => exact hsnoc _ _ _ _ _ hr ih hlast

/-- Every recorded step starts where a run from the same start ends, and it is a
step of the function. -/
theorem Run.pre_of_mem (hrun : Run sys s tr t) {st : Step σ ι ο} (hst : st ∈ tr) :
    ∃ tr₁ tr₂, tr = tr₁ ++ st :: tr₂ ∧ Run sys s tr₁ st.pre ∧
      sys st.pre st.input = (st.output, some st.post) := by
  induction hrun with
  | nil => simp at hst
  | snoc hr hlast ih =>
      rcases List.mem_append.mp hst with h | h
      · obtain ⟨tr₁, tr₂, rfl, hpre, hsys⟩ := ih h
        exact ⟨tr₁, tr₂ ++ [_], List.append_assoc .., hpre, hsys⟩
      · obtain rfl := List.mem_singleton.mp h
        exact ⟨_, [], rfl, hr, hlast⟩

/-- What a run has left on the way is left by a run. -/
theorem Run.of_append {tr' : List (Step σ ι ο)} (hrun : Run sys s (tr ++ tr') t) :
    ∃ u, Run sys s tr u := by
  generalize htrace : tr ++ tr' = tr'' at hrun
  induction hrun generalizing tr' with
  | nil =>
      rcases List.append_eq_nil_iff.mp htrace with ⟨rfl, rfl⟩
      exact ⟨s, .nil⟩
  | snoc hr hlast ih =>
      rcases List.eq_nil_or_concat tr' with rfl | ⟨tr', last, rfl⟩
      · rw [List.append_nil] at htrace
        rw [htrace]
        exact ⟨_, hr.snoc hlast⟩
      · rw [List.concat_eq_append, ← List.append_assoc] at htrace
        exact ih (List.append_inj' htrace rfl).1

/-- A predicate that holds after a recorded step, and that the later steps keep, holds at the
end. -/
theorem Run.invariant_since {I : σ → Prop} {before later : List (Step σ ι ο)} {st : Step σ ι ο}
    (hrun : Run sys s (before ++ st :: later) t) (hpost : I st.post)
    (hstep : ∀ st' ∈ later, I st'.pre → sys st'.pre st'.input = (st'.output, some st'.post) →
      I st'.post) : I t := by
  generalize htrace : before ++ st :: later = tr at hrun
  induction hrun generalizing later with
  | nil => simp at htrace
  | snoc hr hlast ih =>
      rcases List.eq_nil_or_concat later with rfl | ⟨later', last, rfl⟩
      · rcases List.append_inj' htrace rfl with ⟨_, hst⟩
        rcases List.cons.inj hst with ⟨rfl, _⟩
        exact hpost
      · rw [List.concat_eq_append, ← List.cons_append, ← List.append_assoc] at htrace
        rcases List.append_inj' htrace rfl with ⟨rfl, hst⟩
        rcases List.cons.inj hst with ⟨rfl, _⟩
        rw [List.concat_eq_append] at hstep
        refine hstep _ (List.mem_append_right _ List.mem_cons_self) (ih ?_ rfl) hlast
        exact fun st' hst' => hstep st' (List.mem_append_left _ hst')

/-- The last recorded step ends where the run ends. -/
theorem Run.last {st : Step σ ι ο} (hrun : Run sys s (tr ++ [st]) t) :
    Run sys s tr st.pre ∧ sys st.pre st.input = (st.output, some st.post) ∧ t = st.post := by
  generalize htrace : tr ++ [st] = tr' at hrun
  cases hrun with
  | nil => simp at htrace
  | snoc hr hlast =>
      rcases List.append_inj' htrace rfl with ⟨rfl, hst⟩
      rcases List.cons.inj hst with ⟨rfl, _⟩
      exact ⟨hr, hlast, rfl⟩

/-! ## Simulation -/

/-- A component simulates another one when each of its steps that shows an input and an output
is such a step of the other one, and the other steps change nothing there.  Then so are its
runs.  {lit}`R` relates the states after some steps, {lit}`G` is what these steps rely on, and
{lit}`Q` what the steps of the other component are shown to meet. -/
theorem Run.simulated {τ κ π : Type} (sys' : System τ κ π) (R : List (Step σ ι ο) → σ → τ → Prop)
    (G : Step σ ι ο → Prop) (Q : Step τ κ π → Prop) (shown : Step σ ι ο → Option (κ × π))
    (hsilent : ∀ tr x u, R tr x.pre u → G x → sys x.pre x.input = (x.output, some x.post) →
      shown x = none → R (tr ++ [x]) x.post u)
    (hshown : ∀ tr x u i o, R tr x.pre u → G x →
      sys x.pre x.input = (x.output, some x.post) → shown x = some (i, o) →
        ∃ u', sys' u i = (o, some u') ∧ R (tr ++ [x]) x.post u' ∧ Q ⟨u, i, o, u'⟩)
    {u : τ} (hrun : Run sys s tr t) (hs : R [] s u) (hg : ∀ x ∈ tr, G x) :
    ∃ tr' u', Run sys' u tr' u' ∧ R tr t u' ∧ (∀ x ∈ tr', Q x) ∧
      tr'.map (fun x => (x.input, x.output)) = tr.filterMap shown := by
  induction hrun with
  | nil => exact ⟨[], u, .nil, hs, List.forall_mem_nil _, rfl⟩
  | @snoc t v tr i o _ hlast ih =>
      rcases ih fun x hx => hg x (List.mem_append_left _ hx) with ⟨tr', u', hrun', hR, hQ, hmap⟩
      have hG : G ⟨t, i, o, v⟩ := hg _ (List.mem_append_right _ List.mem_cons_self)
      rw [List.filterMap_append, ← hmap]
      cases hx : shown ⟨t, i, o, v⟩ with
      | none =>
          refine ⟨tr', u', hrun', hsilent tr ⟨t, i, o, v⟩ u' hR hG hlast hx, hQ, ?_⟩
          rw [List.filterMap_cons_none hx, List.filterMap_nil, List.append_nil]
      | some y =>
          rcases hshown tr ⟨t, i, o, v⟩ u' y.1 y.2 hR hG hlast hx with ⟨w, hstep, hR', hQ'⟩
          refine ⟨tr' ++ [⟨u', y.1, y.2, w⟩], w, hrun'.snoc hstep, hR', ?_, ?_⟩
          · intro z hz
            rcases List.mem_append.mp hz with hz | hz
            · exact hQ z hz
            · cases List.mem_singleton.mp hz
              exact hQ'
          · rw [List.map_append, List.filterMap_cons_some hx]
            rfl

/-! ## Goals within a number of steps -/

/-- What a component meets on its way to a goal: the inputs it may receive, when it is sure
to receive another one, and the outputs with which it may stop instead. -/
structure Course (σ ι ο : Type) where
  allowed : σ → ι → Prop
  goesOn : σ → Prop
  stops : ο → Prop
  goal : σ → Prop

/-- Whatever it receives, a component is at the goal, or has stopped, after a number of
steps at most. -/
def ReachesWithin (sys : System σ ι ο) (c : Course σ ι ο) : Nat → σ → Prop
  | 0, s => c.goal s
  | n + 1, s => c.goal s ∨ c.goesOn s ∧ ∀ i, c.allowed s i →
      match sys s i with
      | (o, none) => c.stops o
      | (_, some t) => ReachesWithin sys c n t

/-- A rank that is 0 only at the goal and that every step lowers bounds the steps. -/
theorem reachesWithin_of_rank {c : Course σ ι ο} {I : σ → Prop} (rank : σ → Nat)
    (hzero : ∀ s, I s → rank s = 0 → c.goal s)
    (hgoesOn : ∀ s, I s → ¬ c.goal s → c.goesOn s)
    (hstops : ∀ s i o, I s → ¬ c.goal s → c.allowed s i → sys s i = (o, none) → c.stops o)
    (hstep : ∀ s i o t, I s → ¬ c.goal s → c.allowed s i → sys s i = (o, some t) →
      I t ∧ rank t < rank s) :
    ∀ n s, I s → rank s ≤ n → ReachesWithin sys c n s := by
  intro n
  induction n with
  | zero =>
      intro s hs hrank
      exact hzero s hs (Nat.le_zero.mp hrank)
  | succ n ih =>
      intro s hs hrank
      by_cases hgoal : c.goal s
      · exact Or.inl hgoal
      · refine Or.inr ⟨hgoesOn s hs hgoal, fun i hi => ?_⟩
        split
        · rename_i o hsys
          exact hstops s i o hs hgoal hi hsys
        · rename_i o t hsys
          rcases hstep s i o t hs hgoal hi hsys with ⟨ht, hlower⟩
          exact ih t ht (by omega)

/-! ## Events that follow others -/

variable {β γ : Type} {p q : β → Prop}

/-- Every event of a kind is followed by one of another kind. -/
def Followed (p q : β → Prop) : List β → Prop
  | [] => True
  | x :: xs => (p x → ∃ y ∈ xs, q y) ∧ Followed p q xs

/-- Without answers only the absence of events is followed. -/
theorem followed_iff_of_forall_not {xs : List β} (h : ∀ x ∈ xs, ¬ q x) :
    Followed p q xs ↔ ∀ x ∈ xs, ¬ p x := by
  induction xs with
  | nil => simp [Followed]
  | cons x xs ih =>
      have htail : ∀ y ∈ xs, ¬ q y := fun y hy => h y (List.mem_cons_of_mem x hy)
      have hnone : ¬ ∃ y ∈ xs, q y := fun ⟨y, hy, hq⟩ => htail y hy hq
      rw [Followed, ih htail, List.forall_mem_cons, imp_iff_not hnone]

/-- A part in which events and answers do not both occur. -/
theorem followed_append {xs ys : List β} (h : ¬ ((∃ x ∈ xs, p x) ∧ ∃ x ∈ xs, q x)) :
    Followed p q (xs ++ ys) ↔ ((∃ x ∈ xs, p x) → ∃ y ∈ ys, q y) ∧ Followed p q ys := by
  induction xs with
  | nil => simp
  | cons x xs ih =>
      have htail : ¬ ((∃ y ∈ xs, p y) ∧ ∃ y ∈ xs, q y) := fun ⟨⟨y, hy, hp⟩, z, hz, hq⟩ =>
        h ⟨⟨y, List.mem_cons_of_mem x hy, hp⟩, z, List.mem_cons_of_mem x hz, hq⟩
      have hanswer : p x → ((∃ y ∈ xs ++ ys, q y) ↔ ∃ y ∈ ys, q y) := by
        intro hp
        have hnone : ¬ ∃ y ∈ xs, q y := fun ⟨y, hy, hq⟩ =>
          h ⟨⟨x, List.mem_cons_self, hp⟩, y, List.mem_cons_of_mem x hy, hq⟩
        simp only [List.mem_append, or_and_right, exists_or, hnone, false_or]
      rw [List.cons_append, Followed, ih htail, ← and_assoc, List.exists_mem_cons_iff]
      refine and_congr_left fun _ => ?_
      rw [or_imp]
      exact and_congr_left fun _ => forall_congr' hanswer

/-- Steps in which events and answers do not both occur. -/
theorem followed_flatMap {f : γ → List β} {xs : List γ}
    (h : ∀ x ∈ xs, ¬ ((∃ y ∈ f x, p y) ∧ ∃ y ∈ f x, q y)) :
    Followed p q (xs.flatMap f) ↔
      Followed (fun x => ∃ y ∈ f x, p y) (fun x => ∃ y ∈ f x, q y) xs := by
  induction xs with
  | nil => rfl
  | cons x xs ih =>
      rw [List.flatMap_cons, followed_append (h x List.mem_cons_self), Followed,
        ih fun y hy => h y (List.mem_cons_of_mem x hy)]
      have hmem : (∃ y ∈ xs.flatMap f, q y) ↔ ∃ x ∈ xs, ∃ y ∈ f x, q y := by
        simp only [List.mem_flatMap]
        constructor
        · rintro ⟨y, ⟨x, hx, hy⟩, hq⟩
          exact ⟨x, hx, y, hy, hq⟩
        · rintro ⟨x, hx, y, hy, hq⟩
          exact ⟨y, ⟨x, hx, hy⟩, hq⟩
      rw [hmem]

/-- Only the steps of a trace and what happens in them matter. -/
theorem followed_congr {p' q' : β → Prop} {xs : List β} (hp : ∀ x ∈ xs, (p x ↔ p' x))
    (hq : ∀ x ∈ xs, (q x ↔ q' x)) : Followed p q xs ↔ Followed p' q' xs := by
  induction xs with
  | nil => rfl
  | cons x xs ih =>
      have hanswer : (∃ y ∈ xs, q y) ↔ ∃ y ∈ xs, q' y :=
        exists_congr fun y => and_congr_right fun hy => hq y (List.mem_cons_of_mem x hy)
      rw [Followed, Followed, hp x List.mem_cons_self, hanswer,
        ih (fun y hy => hp y (List.mem_cons_of_mem x hy))
          fun y hy => hq y (List.mem_cons_of_mem x hy)]

end Transition
