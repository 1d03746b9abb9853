import Anslp.Node.Chain

/-!
# What is known along a path

A rule for facts about all nodes of a path, all they do, and all messages on their way.
What is known of them may refer to the steps taken so far, and is never lost when further
steps are taken.  If each call keeps what is known of its session, and does and sends only
what is known, then this holds in every run: messages may be lost, delayed, or delivered
more than once.

Main results:

- Theorem {lit}`Knowledge.holds_of_run`: what every call keeps holds in every run.

Current gaps:

- None for facts that are kept when further steps are taken.
-/

namespace Anslp

namespace Chain

variable {α : Type} {n : Nat} {conf : Place n → AnslpConfig} {sid : SessionId}
  {c c' : Chain α n}
  {d : Dispatcher α} {random : UInt32} {evt : Event α} {output : List (Effect α)}

/-! ## Parts of runs -/

section

variable {trace : List (PathStep α n)} {x : PathStep α n}

/-- A run goes on with one more event, a message only where it was sent to. -/
theorem PathRun.snoc {move : Move α n} (hrun : PathRun conf sid trace c)
    (hstep : system conf sid c move = (output, some c'))
    (hproper : IsProper move.d move.evt)
    (hdelivered : ∀ e, move.evt = .msg e → (move.place, e.ntlpMsg) ∈ c.mail) :
    PathRun conf sid (trace ++ [⟨c, move, output, c'⟩]) c' where
  run := hrun.run.snoc hstep
  delivered := List.forall_mem_append.mpr
    ⟨hrun.delivered, List.forall_mem_singleton.mpr hdelivered⟩
  proper := List.forall_mem_append.mpr ⟨hrun.proper, List.forall_mem_singleton.mpr hproper⟩

theorem PathRun.nil : PathRun conf sid [] (start conf sid : Chain α n) :=
  ⟨.nil, List.forall_mem_nil _, List.forall_mem_nil _⟩

/-- What a run of a path has left on the way. -/
theorem PathRun.of_append {later : List (PathStep α n)}
    (hrun : PathRun conf sid (trace ++ later) c) : ∃ c', PathRun conf sid trace c' := by
  rcases hrun.run.of_append with ⟨c', hrun'⟩
  exact ⟨c', hrun', fun y hy => hrun.delivered y (List.mem_append_left _ hy),
    fun y hy => hrun.proper y (List.mem_append_left _ hy)⟩

/-- A run up to one of its steps. -/
theorem PathRun.upTo (hrun : PathRun conf sid trace c) (hx : x ∈ trace) :
    ∃ before later, trace = before ++ [x] ++ later ∧
      PathRun conf sid (before ++ [x]) x.post := by
  rcases List.append_of_mem hx with ⟨before, later, rfl⟩
  rw [← List.singleton_append, ← List.append_assoc] at hrun ⊢
  rcases hrun.of_append with ⟨c', hbefore⟩
  have hpost := hbefore.run.last.2.2
  exact ⟨before, later, rfl, hpost ▸ hbefore⟩

end

/-! ## Knowledge -/

/-- What is known, after some steps, of the sessions of a path, of a message that is on its way
to a node, and of what a node has done. -/
structure Knowledge (α : Type) (n : Nat) where
  ni : List (PathStep α n) → NiSession α → Prop
  nf : List (PathStep α n) → Fin n → NfSession α → Prop
  nr : List (PathStep α n) → NrSession α → Prop
  mail : List (PathStep α n) → Place n → NtlpMsg α → Prop
  effect : List (PathStep α n) → Place n → Effect α → Prop

namespace Knowledge

/-- The path after some steps is as it is known to be. -/
structure Holds (K : Knowledge α n) (trace : List (PathStep α n)) (c : Chain α n) : Prop where
  ni : K.ni trace c.ni
  nf : ∀ i, K.nf trace i (c.nfs i)
  nr : K.nr trace c.nr
  mail : ∀ a ∈ c.mail, K.mail trace a.1 a.2
  effects : ∀ x ∈ trace, ∀ effect ∈ x.output, K.effect trace x.input.place effect

/-- A step that takes the event of one of the nodes to its session: a message that arrives
is known, and what the step records is what the call does. -/
structure Calls (K : Knowledge α n) {σ : Type} (trace : List (PathStep α n))
    (x : PathStep α n) (p : Place n) (session : Chain α n → σ) (o : Outcome σ α) : Prop where
  place : x.input.place = p
  proper : IsProper x.input.d x.input.evt
  arrives : ∀ e, x.input.evt = .msg e → K.mail trace p e.ntlpMsg
  effects : x.output = o.effects
  post : ∀ t effects, o = .next t effects → session x.post = t

/-- What is known after a call: the session it leaves, the messages it sends, and all it
does. -/
structure Leaves (K : Knowledge α n) {σ : Type} (trace : List (PathStep α n)) (p : Place n)
    (known : σ → Prop) (o : Outcome σ α) : Prop where
  next : ∀ t effects, o = .next t effects → known t
  sent : ∀ m ∈ o.sent, K.mail trace (p.hop m) m
  effects : ∀ effect ∈ o.effects, K.effect trace p effect

/-- What is known is not lost, holds of new sessions, and is kept by every call.  A session
that is called in its final state is a new one. -/
structure Kept (K : Knowledge α n) (conf : Place n → AnslpConfig) : Prop where
  later_ni : ∀ trace x s, K.ni trace s → K.ni (trace ++ [x]) s
  later_nf : ∀ trace x i s, K.nf trace i s → K.nf (trace ++ [x]) i s
  later_nr : ∀ trace x s, K.nr trace s → K.nr (trace ++ [x]) s
  later_mail : ∀ trace x p m, K.mail trace p m → K.mail (trace ++ [x]) p m
  later_effect : ∀ trace x p effect, K.effect trace p effect → K.effect (trace ++ [x]) p effect
  new_ni : ∀ trace sid random, K.ni trace (.new (conf .ni) sid random)
  new_nf : ∀ trace i sid, K.nf trace i (.new sid)
  new_nr : ∀ trace sid random, K.nr trace (.new (conf .nr) sid random)
  answer : ∀ trace p sid mri, K.effect trace p (.receiveAnswer sid mri)
  step_ni : ∀ trace x s, K.ni trace s →
    (s.state = .close → ∃ sid random, s = .new (conf .ni) sid random) →
    K.Calls trace x .ni Chain.ni (s.processEvent x.input.d x.input.evt) →
    K.Leaves (trace ++ [x]) .ni (K.ni (trace ++ [x])) (s.processEvent x.input.d x.input.evt)
  step_nf : ∀ trace x i s, K.nf trace i s → (s.state = .close → ∃ sid, s = .new sid) →
    K.Calls trace x (.nf i) (fun c => c.nfs i)
      (s.processEvent (conf (.nf i)) x.input.d x.input.evt) →
    K.Leaves (trace ++ [x]) (.nf i) (K.nf (trace ++ [x]) i)
      (s.processEvent (conf (.nf i)) x.input.d x.input.evt)
  step_nr : ∀ trace x s, K.nr trace s →
    (s.state = .close → ∃ sid random, s = .new (conf .nr) sid random) →
    K.Calls trace x .nr Chain.nr (s.processEvent (conf .nr) x.input.d x.input.evt) →
    K.Leaves (trace ++ [x]) .nr (K.nr (trace ++ [x]))
      (s.processEvent (conf .nr) x.input.d x.input.evt)

end Knowledge

/-- A step either finds no session for the event, or it is the call of one. -/
theorem call_eq_some {σ : Type} {p : Place n} {isFinal : σ → Bool} {fresh s₀ : σ}
    {process : σ → Outcome σ α} {put : σ → Chain α n}
    (h : c.call p isFinal fresh s₀ evt process put = (output, some c')) :
    output = [] ∧ c' = c ∨ ∃ s t, (s = fresh ∨ s = s₀ ∧ isFinal s₀ = false) ∧
      output = (process s).effects ∧ c' = { put t with mail := c.mail ++ post p (process s) } ∧
      ((∃ effects, process s = .next t effects) ∨
        t = fresh ∧ ∀ u effects, process s ≠ .next u effects) := by
  unfold call at h
  cases hlive : live isFinal fresh s₀ p evt with
  | none =>
      rw [hlive] at h
      cases h
      exact Or.inl ⟨rfl, rfl⟩
  | some s =>
      rw [hlive] at h
      dsimp only at h
      have hs : s = fresh ∨ s = s₀ ∧ isFinal s₀ = false :=
        of_live (P := fun t => t = fresh ∨ t = s₀ ∧ isFinal s₀ = false) hlive
          (fun _ => Or.inl rfl) fun hopen => Or.inr ⟨rfl, hopen⟩
      refine Or.inr ⟨s, ?_⟩
      cases ho : process s with
      | next t effects =>
          rw [ho] at h
          cases h
          exact ⟨t, hs, rfl, rfl, Or.inl ⟨effects, rfl⟩⟩
      | thrown exp t effects =>
          rw [ho] at h
          cases h
          exact ⟨fresh, hs, rfl, rfl, Or.inr ⟨rfl, fun u us hu => by cases hu⟩⟩
      | undefined f =>
          rw [ho] at h
          cases h

namespace Knowledge

variable {K : Knowledge α n} {trace : List (PathStep α n)} {x : PathStep α n}

/-- What a step leaves as it is stays known. -/
theorem Holds.later (h : K.Holds trace c) (hkept : K.Kept conf)
    (heffects : ∀ effect ∈ x.output, K.effect (trace ++ [x]) x.input.place effect) :
    K.Holds (trace ++ [x]) c where
  ni := hkept.later_ni _ _ _ h.ni
  nf := fun i => hkept.later_nf _ _ _ _ (h.nf i)
  nr := hkept.later_nr _ _ _ h.nr
  mail := fun a ha => hkept.later_mail _ _ _ _ (h.mail a ha)
  effects := by
    intro y hy effect heffect
    rcases List.mem_append.mp hy with hy | hy
    · exact hkept.later_effect _ _ _ _ (h.effects y hy effect heffect)
    · rw [List.mem_singleton.mp hy] at heffect ⊢
      exact heffects effect heffect

/-- All that a call does is known. -/
theorem Leaves.done {σ : Type} {p : Place n} {known : σ → Prop} {o : Outcome σ α}
    (h : K.Leaves trace p known o) (hplace : x.input.place = p) (heffects : x.output = o.effects) :
    ∀ effect ∈ x.output, K.effect trace x.input.place effect := by
  rw [hplace, heffects]
  exact h.effects

/-- The messages of a call are known, with those that were on their way before. -/
theorem Holds.posted {σ : Type} {p : Place n} {known : σ → Prop} {o : Outcome σ α}
    (h : K.Holds trace c) (hleaves : K.Leaves trace p known o) :
    ∀ a ∈ c.mail ++ post p o, K.mail trace a.1 a.2 := by
  intro a ha
  rcases List.mem_append.mp ha with hold | hnew
  · exact h.mail a hold
  · rcases List.mem_map.mp hnew with ⟨m, hm, rfl⟩
    exact hleaves.sent m hm

/-- The session that a call leaves is known, or a new one stands for it. -/
theorem Leaves.left {σ : Type} {p : Place n} {known : σ → Prop} {o : Outcome σ α} {fresh t : σ}
    (h : K.Leaves trace p known o) (hfresh : known fresh)
    (ht : (∃ effects, o = .next t effects) ∨ t = fresh ∧ ∀ u effects, o ≠ .next u effects) :
    known t := by
  rcases ht with ⟨effects, hnext⟩ | ⟨rfl, _⟩
  · exact h.next t effects hnext
  · exact hfresh

/-- One session is called, and the others stay as they are. -/
theorem Calls.of_call {σ : Type} {p : Place n} {session : Chain α n → σ} {o : Outcome σ α}
    {fresh t : σ} (hplace : x.input.place = p) (hproper : IsProper x.input.d x.input.evt)
    (harrives : ∀ e, x.input.evt = .msg e → K.mail trace x.input.place e.ntlpMsg)
    (heffects : x.output = o.effects) (hpost : session x.post = t)
    (ht : (∃ effects, o = .next t effects) ∨ t = fresh ∧ ∀ u effects, o ≠ .next u effects) :
    K.Calls trace x p session o where
  place := hplace
  proper := hproper
  arrives := hplace ▸ harrives
  effects := heffects
  post := by
    intro u effects hu
    rcases ht with ⟨_, hnext⟩ | ⟨_, hnone⟩
    · rw [hnext] at hu
      cases hu
      exact hpost
    · exact absurd hu (hnone u effects)

/-- One step of a path keeps what is known. -/
theorem Holds.step (h : K.Holds trace x.pre) (hkept : K.Kept conf)
    (hstep : system conf sid x.pre x.input = (x.output, some x.post))
    (hproper : IsProper x.input.d x.input.evt)
    (harrives : ∀ e, x.input.evt = .msg e → K.mail trace x.input.place e.ntlpMsg) :
    K.Holds (trace ++ [x]) x.post := by
  have hidle : x.output = [] → K.Holds (trace ++ [x]) x.pre := by
    intro hnone
    apply h.later hkept
    rw [hnone]
    exact List.forall_mem_nil _
  unfold system at hstep
  split at hstep
  · rename_i mri _
    rcases Prod.mk.inj hstep with ⟨houtput, hpost⟩
    rw [← Option.some.inj hpost]
    apply h.later hkept
    rw [← houtput]
    exact List.forall_mem_singleton.mpr (hkept.answer _ _ _ _)
  · split at hstep
    · rename_i hplace
      rcases call_eq_some hstep with ⟨hnone, hpost⟩ | ⟨s, t, hs, heffects, hpost, ht⟩
      · rw [hpost]
        exact hidle hnone
      · have hcalls : K.Calls trace x .ni Chain.ni (s.processEvent x.input.d x.input.evt) :=
          .of_call hplace hproper harrives heffects (by rw [hpost]) ht
        have hleaves := by
          apply hkept.step_ni trace x s _ _ hcalls
          · rcases hs with rfl | ⟨rfl, _⟩
            · exact hkept.new_ni trace sid x.input.random
            · exact h.ni
          · intro hclose
            rcases hs with rfl | ⟨rfl, hopen⟩
            · exact ⟨_, _, rfl⟩
            · exact absurd hclose (of_decide_eq_false hopen)
        have hlater := h.later hkept (hleaves.done hplace heffects)
        rw [hpost]
        exact ⟨hleaves.left (hkept.new_ni _ _ _) ht, hlater.nf, hlater.nr,
          hlater.posted hleaves, hlater.effects⟩
    · rename_i i hplace
      rcases call_eq_some hstep with ⟨hnone, hpost⟩ | ⟨s, t, hs, heffects, hpost, ht⟩
      · rw [hpost]
        exact hidle hnone
      · have hcalls : K.Calls trace x (.nf i) (fun c => c.nfs i)
            (s.processEvent (conf (.nf i)) x.input.d x.input.evt) :=
          .of_call hplace hproper harrives heffects
            (by rw [hpost]; exact Function.update_self ..) ht
        have hleaves := by
          apply hkept.step_nf trace x i s _ _ hcalls
          · rcases hs with rfl | ⟨rfl, _⟩
            · exact hkept.new_nf trace i sid
            · exact h.nf i
          · intro hclose
            rcases hs with rfl | ⟨rfl, hopen⟩
            · exact ⟨_, rfl⟩
            · exact absurd hclose (of_decide_eq_false hopen)
        have hlater := h.later hkept (hleaves.done hplace heffects)
        rw [hpost]
        refine ⟨hlater.ni, fun j => ?_, hlater.nr, hlater.posted hleaves, hlater.effects⟩
        by_cases hj : j = i
        · subst hj
          simpa only [Function.update_self] using hleaves.left (hkept.new_nf _ _ _) ht
        · simpa only [Function.update_of_ne hj] using hlater.nf j
    · rename_i hplace
      rcases call_eq_some hstep with ⟨hnone, hpost⟩ | ⟨s, t, hs, heffects, hpost, ht⟩
      · rw [hpost]
        exact hidle hnone
      · have hcalls : K.Calls trace x .nr Chain.nr
            (s.processEvent (conf .nr) x.input.d x.input.evt) :=
          .of_call hplace hproper harrives heffects (by rw [hpost]) ht
        have hleaves := by
          apply hkept.step_nr trace x s _ _ hcalls
          · rcases hs with rfl | ⟨rfl, _⟩
            · exact hkept.new_nr trace sid x.input.random
            · exact h.nr
          · intro hclose
            rcases hs with rfl | ⟨rfl, hopen⟩
            · exact ⟨_, _, rfl⟩
            · exact absurd hclose (of_decide_eq_false hopen)
        have hlater := h.later hkept (hleaves.done hplace heffects)
        rw [hpost]
        exact ⟨hlater.ni, hlater.nf, hleaves.left (hkept.new_nr _ _ _) ht,
          hlater.posted hleaves, hlater.effects⟩

/-- What every call keeps holds in every run of a path. -/
theorem holds_of_run (hkept : K.Kept conf) (hrun : PathRun conf sid trace c) :
    K.Holds trace c := by
  refine hrun.run.trace_induction (P := fun trace c =>
    (∀ x ∈ trace, ∀ e, x.input.evt = .msg e → (x.input.place, e.ntlpMsg) ∈ x.pre.mail) →
    (∀ x ∈ trace, IsProper x.input.d x.input.evt) → K.Holds trace c) ?_ ?_
    hrun.delivered hrun.proper
  · intro _ _
    exact ⟨hkept.new_ni _ _ _, fun _ => hkept.new_nf _ _ _, hkept.new_nr _ _ _,
      List.forall_mem_nil _, List.forall_mem_nil _⟩
  · intro trace c move output c' _ ih hstep hdelivered hproper
    have hc := ih (fun x hx => hdelivered x (List.mem_append_left _ hx))
      fun x hx => hproper x (List.mem_append_left _ hx)
    have hlast := List.mem_append_right trace
      (List.mem_singleton_self (⟨c, move, output, c'⟩ : PathStep α n))
    exact hc.step (x := ⟨c, move, output, c'⟩) hkept hstep (hproper _ hlast)
      fun e he => hc.mail _ (hdelivered _ hlast e he)

end Knowledge
end Chain
end Anslp
