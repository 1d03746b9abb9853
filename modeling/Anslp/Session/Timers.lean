import Anslp.Lib.Retries
import Anslp.Session.Safety

/-!
# Timers

The timers of a session, beside its state: those it started, and those of them that still
run.  A session stops a timer by forgetting its identifier; the timer itself runs on, and
its expiry is discarded.

Main results:

- Theorem {lit}`TimedRun.invariant`: what every call keeps while timers behave holds in every
  run.
- Theorem {lit}`reachesWithin_closing`: a session closes in time when every expiry of one of
  its timers lowers a rank.
- Theorem {lit}`countedBy_of_machine`: a session counts its retries if every expiry of its timer
  raises a counter until it gives up.

Current gaps:

- The order in which running timers expire is left open.
-/

namespace Anslp

/-- The timer an effect starts. -/
def Effect.started? {α : Type} : Effect α → Option Nat
  | startTimer id _ => some id
  | _ => none

/-- The timer that has expired. -/
def Event.expired? {α : Type} : Event α → Option Nat
  | timer id => some id
  | _ => none

@[simp]
theorem Event.expired?_eq_some_iff {α : Type} {evt : Event α} {id : Nat} :
    evt.expired? = some id ↔ evt = .timer id := by
  cases evt <;> simp [expired?]

/-- All timers a session has started, and those of them that have not expired. -/
structure Timers where
  started : List Nat
  running : List Nat

namespace Timers

variable {α : Type} {t : Timers} {d : Dispatcher α} {evt : Event α} {effects : List (Effect α)}
  {id : Nat}

/-- No timers yet. -/
def none : Timers :=
  ⟨[], []⟩

/-- The timers after a call. -/
def after (t : Timers) (evt : Event α) (effects : List (Effect α)) : Timers where
  started := t.started ++ effects.filterMap Effect.started?
  running := t.running.filter (evt.expired? ≠ some ·) ++ effects.filterMap Effect.started?

theorem mem_started_after :
    id ∈ (t.after evt effects).started ↔
      id ∈ t.started ∨ id ∈ effects.filterMap Effect.started? := by
  rw [after, List.mem_append]

theorem mem_running_after :
    id ∈ (t.after evt effects).running ↔
      id ∈ t.running ∧ evt ≠ .timer id ∨ id ∈ effects.filterMap Effect.started? := by
  rw [after, List.mem_append, List.mem_filter, decide_eq_true_eq, ne_eq,
    Event.expired?_eq_some_iff]

/-- Identifiers are not 0, and only what was started runs. -/
structure Sound (t : Timers) : Prop where
  zero : 0 ∉ t.started
  running : ∀ id ∈ t.running, id ∈ t.started

theorem sound_none : none.Sound :=
  ⟨List.not_mem_nil, fun _ hid => absurd hid List.not_mem_nil⟩

/-- New timers have identifiers of their own. -/
structure Fresh (t : Timers) (d : Dispatcher α) : Prop where
  injective : Function.Injective d.startTimer
  ne_zero : ∀ i, d.startTimer i ≠ 0
  notStarted : ∀ i, d.startTimer i ∉ t.started

/-- What a node makes of its timers: new ones get identifiers of their own, and those that
expire were running. -/
structure Genuine (t : Timers) (input : Dispatcher α × Event α) : Prop where
  fresh : t.Fresh input.1
  running : ∀ id, input.2 = .timer id → id ∈ t.running

/-- All timers that the effects of a call start are those of the dispatcher. -/
def StartsOwn (d : Dispatcher α) (effects : List (Effect α)) : Prop :=
  ∀ id ∈ effects.filterMap Effect.started?, ∃ i, id = d.startTimer i

@[simp]
theorem startsOwn_nil : StartsOwn d [] :=
  nofun

@[simp]
theorem startsOwn_cons {effect : Effect α} : StartsOwn d (effect :: effects) ↔
    (∀ id, effect.started? = some id → ∃ i, id = d.startTimer i) ∧ StartsOwn d effects := by
  unfold StartsOwn
  rw [List.filterMap_cons]
  cases effect.started? with
  | none => simp
  | some id => simp

@[simp]
theorem startsOwn_append {effects' : List (Effect α)} :
    StartsOwn d (effects ++ effects') ↔ StartsOwn d effects ∧ StartsOwn d effects' := by
  simp only [StartsOwn, List.filterMap_append, List.mem_append, or_imp, forall_and]

/-- Reports start no timers. -/
theorem startsOwn_of_reported (h : ∀ effect ∈ effects, ∃ text, effect = .reportAsyncEvent text) :
    StartsOwn d effects := by
  intro id hid
  rcases List.mem_filterMap.mp hid with ⟨effect, heffect, hstarted⟩
  rcases h effect heffect with ⟨text, rfl⟩
  cases hstarted

theorem Sound.after (h : t.Sound) (hfresh : t.Fresh d) (hown : StartsOwn d effects) :
    (t.after evt effects).Sound where
  zero := by
    rw [mem_started_after, not_or]
    refine ⟨h.zero, fun hzero => ?_⟩
    rcases hown 0 hzero with ⟨i, hi⟩
    exact hfresh.ne_zero i hi.symm
  running := by
    intro id hid
    rw [mem_started_after]
    rcases mem_running_after.mp hid with ⟨hrunning, _⟩ | hnew
    · exact Or.inl (h.running id hrunning)
    · exact Or.inr hnew

/-- A timer that was started before, or none at all, is not one of the new ones. -/
theorem Fresh.not_mem_started (hfresh : t.Fresh d) (hown : StartsOwn d effects)
    (hid : id = 0 ∨ id ∈ t.started) : id ∉ effects.filterMap Effect.started? := by
  intro hnew
  rcases hown id hnew with ⟨i, rfl⟩
  rcases hid with hzero | hstarted
  · exact hfresh.ne_zero i hzero
  · exact hfresh.notStarted i hstarted

/-- A timer runs when it was started. -/
theorem running_after_of_started (h : id ∈ effects.filterMap Effect.started?) :
    id ∈ (t.after evt effects).running :=
  mem_running_after.mpr (Or.inr h)

/-- A timer keeps running unless it is the one that expired. -/
theorem running_after_of_ne (hid : id ∈ t.running) (hne : evt ≠ .timer id) :
    id ∈ (t.after evt effects).running :=
  mem_running_after.mpr (Or.inl ⟨hid, hne⟩)

/-- A call that starts no timer lets none run that did not run before. -/
theorem running_of_after_of_nil (heffects : effects.filterMap Effect.started? = [])
    (h : id ∈ (t.after evt effects).running) : id ∈ t.running := by
  rcases mem_running_after.mp h with hrunning | hnew
  · exact hrunning.1
  · rw [heffects] at hnew
    cases hnew

/-- An old timer that runs after a call ran before. -/
theorem Fresh.running_of_after (hfresh : t.Fresh d) (hown : StartsOwn d effects)
    (hid : id = 0 ∨ id ∈ t.started) (h : id ∈ (t.after evt effects).running) :
    id ∈ t.running ∧ evt ≠ .timer id := by
  rcases mem_running_after.mp h with hrunning | hnew
  · exact hrunning
  · exact absurd hnew (hfresh.not_mem_started hown hid)

end Timers

/-! ## Sessions with their timers -/

/-- A state machine together with its timers. -/
def timed {σ α : Type} (processEvent : Dispatcher α → σ → Event α → Outcome σ α) :
    Transition.System (σ × Timers) (Dispatcher α × Event α) (Outcome σ α) :=
  fun s input =>
    (processEvent input.1 s.1 input.2, (processEvent input.1 s.1 input.2).next?.map fun s' =>
      (s', s.2.after input.2 (processEvent input.1 s.1 input.2).effects))

section Timed

variable {σ α : Type} {processEvent : Dispatcher α → σ → Event α → Outcome σ α} {s s' : σ}
  {t t' : Timers} {input : Dispatcher α × Event α} {o : Outcome σ α}

/-- A recorded step of a machine with its timers is a call that returned. -/
theorem next_of_timed (h : timed processEvent (s, t) input = (o, some (s', t'))) :
    processEvent input.1 s input.2 = .next s' o.effects ∧ t' = t.after input.2 o.effects := by
  rcases Prod.mk.inj h with ⟨rfl, hs'⟩
  cases ho : processEvent input.1 s input.2 with
  | next u effects =>
      rw [ho] at hs'
      cases hs'
      exact ⟨rfl, rfl⟩
  | thrown exp u effects =>
      rw [ho] at hs'
      cases hs'
  | undefined f =>
      rw [ho] at hs'
      cases hs'

/-- A machine with its timers stops where the call did not return. -/
theorem next?_of_timed (h : timed processEvent (s, t) input = (o, none)) :
    processEvent input.1 s input.2 = o ∧ o.next? = none := by
  rcases Prod.mk.inj h with ⟨rfl, hs'⟩
  exact ⟨rfl, Option.map_eq_none_iff.mp hs'⟩

/-- How a session closes when it receives nothing but expiries of its timers: a timer it
waits for runs as long as it is open, and an exception closes it, too. -/
def closing (isOpen : σ → Prop) (owns consults : σ → Nat → Prop) :
    Transition.Course (σ × Timers) (Dispatcher α × Event α) (Outcome σ α) where
  allowed s input := s.2.Fresh input.1 ∧ ∃ id ∈ s.2.running, owns s.1 id ∧ input.2 = .timer id
  goesOn s := ∃ id ∈ s.2.running, consults s.1 id
  stops o := ∃ exp s' effects, o = .thrown exp s' effects
  goal s := ¬ isOpen s.1

/-- The runs of a machine and its timers in which timers behave. -/
def TimedRun (processEvent : Dispatcher α → σ → Event α → Outcome σ α) (start : σ)
    (trace : List (Transition.Step (σ × Timers) (Dispatcher α × Event α) (Outcome σ α)))
    (s : σ) (t : Timers) : Prop :=
  Transition.Run (timed processEvent) (start, Timers.none) trace (s, t) ∧
    ∀ st ∈ trace, st.pre.2.Genuine st.input

theorem TimedRun.nil {start : σ} : TimedRun processEvent start [] start .none :=
  ⟨.nil, fun _ hst => absurd hst List.not_mem_nil⟩

/-- A call that returns extends a run. -/
theorem TimedRun.snoc {start : σ} {d : Dispatcher α} {evt : Event α} {effects : List (Effect α)}
    {trace : List (Transition.Step (σ × Timers) (Dispatcher α × Event α) (Outcome σ α))}
    (hrun : TimedRun processEvent start trace s t) (hgenuine : t.Genuine (d, evt))
    (hnext : processEvent d s evt = .next s' effects) :
    TimedRun processEvent start
      (trace ++ [⟨(s, t), (d, evt), .next s' effects, (s', t.after evt effects)⟩]) s'
      (t.after evt effects) := by
  have htimed : timed processEvent (s, t) (d, evt) =
      (.next s' effects, some (s', t.after evt effects)) := by
    simp only [timed, hnext, Outcome.next?, Outcome.effects, Option.map_some]
  refine ⟨hrun.1.snoc htimed, fun st hst => ?_⟩
  rcases List.mem_append.mp hst with hst | hst
  · exact hrun.2 st hst
  · rw [List.mem_singleton.mp hst]
    exact hgenuine

/-- Induction over a run and the trace it left. -/
theorem TimedRun.trace_induction {start : σ}
    {P : List (Transition.Step (σ × Timers) (Dispatcher α × Event α) (Outcome σ α)) →
      σ → Timers → Prop}
    {trace : List (Transition.Step (σ × Timers) (Dispatcher α × Event α) (Outcome σ α))}
    (hrun : TimedRun processEvent start trace s t) (hnil : P [] start .none)
    (hsnoc : ∀ trace s t d evt s' effects, TimedRun processEvent start trace s t →
      P trace s t → t.Genuine (d, evt) → processEvent d s evt = .next s' effects →
        P (trace ++ [⟨(s, t), (d, evt), .next s' effects, (s', t.after evt effects)⟩]) s'
          (t.after evt effects)) : P trace s t := by
  rcases hrun with ⟨hrun, hgenuine⟩
  refine hrun.trace_induction
    (P := fun trace st => (∀ x ∈ trace, x.pre.2.Genuine x.input) → P trace st.1 st.2)
    (fun _ => hnil) ?_ hgenuine
  rintro trace ⟨s, t⟩ ⟨d, evt⟩ o ⟨s', t'⟩ hbefore ih hlast hall
  rcases next_of_timed hlast with ⟨hnext, rfl⟩
  have hprefix : ∀ x ∈ trace, x.pre.2.Genuine x.input := fun x hx =>
    hall x (List.mem_append_left _ hx)
  have ho : o = .next s' o.effects := (Prod.mk.inj hlast).1.symm.trans hnext
  have hstep := hsnoc trace s t d evt s' o.effects ⟨hbefore, hprefix⟩ (ih hprefix)
    (hall _ (List.mem_append_right _ List.mem_cons_self)) hnext
  rwa [← ho] at hstep

/-- What every call keeps holds in every run. -/
theorem TimedRun.invariant {I : σ → Timers → Prop} {start : σ}
    {trace : List (Transition.Step (σ × Timers) (Dispatcher α × Event α) (Outcome σ α))}
    (hrun : TimedRun processEvent start trace s t) (hstart : I start .none)
    (hstep : ∀ s t d evt s' effects, I s t → t.Genuine (d, evt) →
      processEvent d s evt = .next s' effects → I s' (t.after evt effects)) : I s t :=
  hrun.trace_induction (P := fun _ => I) hstart
    fun _ s t d evt s' effects _ hs hgenuine hnext => hstep s t d evt s' effects hs hgenuine hnext

/-- A session closes in time when every expiry of one of its timers lowers a rank. -/
theorem reachesWithin_closing {isOpen : σ → Prop} {owns consults : σ → Nat → Prop}
    {I : σ → Timers → Prop} (rank : σ → Timers → Nat)
    (hzero : ∀ s t, I s t → rank s t = 0 → ¬ isOpen s)
    (hwaits : ∀ s t, I s t → isOpen s → ∃ id ∈ t.running, consults s id)
    (hstep : ∀ s t d evt s' effects, I s t → t.Genuine (d, evt) →
      processEvent d s evt = .next s' effects → I s' (t.after evt effects))
    (hdefined : ∀ s t d id f, I s t → isOpen s → id ∈ t.running →
      processEvent d s (.timer id) ≠ .undefined f)
    (hlower : ∀ s t d id s' effects, I s t → isOpen s → t.Fresh d → id ∈ t.running →
      owns s id → processEvent d s (.timer id) = .next s' effects →
      rank s' (t.after (.timer id) effects) < rank s t)
    (n : Nat) (hs : I s t) (hrank : rank s t ≤ n) :
    Transition.ReachesWithin (timed processEvent) (closing isOpen owns consults) n (s, t) := by
  refine Transition.reachesWithin_of_rank (I := fun st => I st.1 st.2)
    (fun st => rank st.1 st.2) ?_ ?_ ?_ ?_ n (s, t) hs hrank
  · rintro ⟨s, t⟩ hs hzero'
    exact hzero s t hs hzero'
  · rintro ⟨s, t⟩ hs hopen
    exact hwaits s t hs (not_not.mp hopen)
  · rintro ⟨s, t⟩ ⟨d, evt⟩ o hs hopen ⟨hfresh, id, hid, howns, hevt⟩ hstop
    dsimp only at hevt
    subst hevt
    rcases next?_of_timed hstop with ⟨hprocess, hnone⟩
    cases o with
    | next u effects => cases hnone
    | thrown exp u effects => exact ⟨exp, u, effects, rfl⟩
    | undefined f => exact absurd hprocess (hdefined s t d id f hs (not_not.mp hopen) hid)
  · rintro ⟨s, t⟩ ⟨d, evt⟩ o ⟨s', t'⟩ hs hopen ⟨hfresh, id, hid, howns, hevt⟩ hnext
    dsimp only at hevt
    subst hevt
    rcases next_of_timed hnext with ⟨hprocess, rfl⟩
    have hgenuine : t.Genuine (d, .timer id) := ⟨hfresh, Event.forall_timer hid⟩
    exact ⟨hstep s t d _ s' _ hs hgenuine hprocess,
      hlower s t d id s' _ hs (not_not.mp hopen) hfresh hid howns hprocess⟩

end Timed

/-! ## Retries of sessions -/

/-- A session counts its retries if every expiry of its timer raises the counter or makes it
give up, and if no other event without a reply changes the counter. -/
theorem countedBy_of_machine {σ α : Type} {processEvent : Dispatcher α → σ → Event α → Outcome σ α}
    {r : Transition.Retrying σ (Dispatcher α × Event α) (Outcome σ α)} {timer : σ → Nat}
    {counter : σ → UInt32} {maxRetries : UInt32} {I : σ → Prop}
    (hsys : r.sys = machine processEvent)
    (hexpires : ∀ s input, r.expires s input = decide (input.2.expired? = some (timer s)))
    (hretry : ∀ s d, I s → r.waits s → r.silent s (d, .timer (timer s)) →
      counter s < maxRetries →
      r.repeats s (machine processEvent s (d, .timer (timer s))) ∧
      ∀ s', (processEvent d s (.timer (timer s))).next? = some s' →
        I s' ∧ counter s' = counter s + 1)
    (hgiveUp : ∀ s d, I s → r.waits s → r.silent s (d, .timer (timer s)) →
      ¬ counter s < maxRetries →
      r.givesUp s (machine processEvent s (d, .timer (timer s))) ∧
      ∀ s', (processEvent d s (.timer (timer s))).next? = some s' → I s' ∧ ¬ r.waits s')
    (hother : ∀ s d evt, I s → r.waits s → r.silent s (d, evt) → evt.expired? ≠ some (timer s) →
      r.idles s (machine processEvent s (d, evt)) ∧
      ∀ s', (processEvent d s evt).next? = some s' → I s' ∧ counter s' = counter s) :
    r.CountedBy (fun s => (counter s).toNat) maxRetries.toNat I := by
  have hnext : ∀ {s s' : σ} {input : Dispatcher α × Event α} {o : Outcome σ α},
      r.sys s input = (o, some s') → (processEvent input.1 s input.2).next? = some s' := by
    intro s s' input o hstep
    rw [hsys] at hstep
    exact (Prod.mk.inj hstep).2
  have hexpired : ∀ {s : σ} {d : Dispatcher α} {evt : Event α},
      r.expires s (d, evt) = true → evt = .timer (timer s) := by
    intro s d evt h
    rw [hexpires, decide_eq_true_eq, Event.expired?_eq_some_iff] at h
    exact h
  have hidle : ∀ {s : σ} {d : Dispatcher α} {evt : Event α},
      r.expires s (d, evt) = false → evt.expired? ≠ some (timer s) := by
    intro s d evt h
    rw [hexpires] at h
    exact of_decide_eq_false h
  constructor
  · rintro s ⟨d, evt⟩ hs hwaits hsilent
    constructor
    · intro hexp hcount
      cases hexpired hexp
      rw [hsys]
      exact (hretry s d hs hwaits hsilent (UInt32.lt_iff_toNat_lt.mpr hcount)).1
    · intro hexp hcount
      cases hexpired hexp
      rw [hsys]
      exact (hgiveUp s d hs hwaits hsilent (mt UInt32.lt_iff_toNat_lt.mp hcount)).1
    · intro hexp
      rw [hsys]
      exact (hother s d evt hs hwaits hsilent (hidle hexp)).1
  · rintro s ⟨d, evt⟩ o t hs hwaits hsilent hstep
    by_cases hexp : r.expires s (d, evt) = true
    · cases hexpired hexp
      by_cases hcount : counter s < maxRetries
      · exact ((hretry s d hs hwaits hsilent hcount).2 t (hnext hstep)).1
      · exact ((hgiveUp s d hs hwaits hsilent hcount).2 t (hnext hstep)).1
    · exact ((hother s d evt hs hwaits hsilent (hidle (Bool.eq_false_iff.mpr hexp))).2 t
        (hnext hstep)).1
  · rintro s ⟨d, evt⟩ o t hs hwaits hsilent hexp hcount hstep
    cases hexpired hexp
    have hlt := UInt32.lt_iff_toNat_lt.mpr hcount
    rw [((hretry s d hs hwaits hsilent hlt).2 t (hnext hstep)).2]
    exact toNat_add_one_of_lt hlt
  · rintro s ⟨d, evt⟩ o t hs hwaits hsilent hexp hstep
    rw [((hother s d evt hs hwaits hsilent (hidle hexp)).2 t (hnext hstep)).2]
  · rintro s ⟨d, evt⟩ o t hs hwaits hsilent hexp hcount hstep
    cases hexpired hexp
    have hreached := mt UInt32.lt_iff_toNat_lt.mp hcount
    exact ((hgiveUp s d hs hwaits hsilent hreached).2 t (hnext hstep)).2

end Anslp
