import Anslp.Lib.Retries
import Anslp.Session.Checking
import Anslp.Session.Removal
import Anslp.Session.Timers

/-!
# Retries of a removal

In PENDING_TEARDOWN a session waits until its rule is removed, asks again when its timer
expires, and gives up after a number of retries.  An initiator counts them with a counter of
their own.  A responder counts the retries of an installation and those of a removal with one
counter, which it does not reset in between.

Main results:

- Theorem {lit}`retriesRemoval_iff_of_run`: the sessions that use all the retries of a removal.

Current gaps:

- None for initiators and responders; forwarders are treated in {lit}`Closing`.
-/

namespace Anslp

/-- Surroundings in which nothing fails. -/
def Dispatcher.quiet (α : Type) : Dispatcher α where
  isAuthorized _ := true
  checkError _ _ := none
  installError _ _ := none
  removeError _ _ := none
  interactionError _ _ := none
  responseError _ _ := none
  startTimer i := i + 1
  newKey i := BitVec.ofNat 128 i
  randomTimeout r := r.toNat

/-! ## Removals -/

section Removal

variable {σ α : Type}

/-- A session that waits until its rule is removed. -/
def removal (processEvent : Dispatcher α → σ → Event α → Outcome σ α)
    (waits closed : σ → Prop) (timer : σ → Nat) (rule : σ → Option (AuctionRule α)) :
    Transition.Retrying σ (Dispatcher α × Event α) (Outcome σ α) where
  sys := machine processEvent
  waits := waits
  silent _ input := ∀ mspecObjects, input.2 ≠ .apiRemove mspecObjects
  expires s input := input.2.expired? = some (timer s)
  repeats s x := (∃ r, rule s = some r ∧ x.1.effects.filterMap Effect.removed? = [r]) ∧
    ∀ s', x.2 = some s' → waits s'
  givesUp _ x := x.1.effects.filterMap Effect.removed? = [] ∧ ∃ s', x.2 = some s' ∧ closed s'
  idles _ x := x.1.effects.filterMap Effect.removed? = [] ∧ ∀ s', x.2 = some s' → waits s'

variable {processEvent : Dispatcher α → σ → Event α → Outcome σ α} {waits closed : σ → Prop}
  {timer : σ → Nat} {rule : σ → Option (AuctionRule α)}

/-- A session does not repeat a removal and give up at once. -/
theorem not_givesUp_of_repeats (s : σ) (x : Outcome σ α × Option σ)
    (h : (removal processEvent waits closed timer rule).repeats s x) :
    ¬ (removal processEvent waits closed timer rule).givesUp s x := by
  rcases h with ⟨⟨r, _, hremoved⟩, _⟩
  rintro ⟨hnone, _⟩
  rw [hremoved] at hnone
  cases hnone

/-- A session that closes gives up. -/
theorem givesUp_of_next {s s' : σ} {d : Dispatcher α} {evt : Event α}
    (hnext : processEvent d s evt = .next s' []) (hclosed : closed s') :
    (removal processEvent waits closed timer rule).givesUp s
      (machine processEvent s (d, evt)) := by
  refine ⟨?_, s', ?_, hclosed⟩
  · exact congrArg (fun o => o.effects.filterMap Effect.removed?) hnext
  · exact congrArg Outcome.next? hnext

end Removal

/-! ## Initiator -/

namespace NiSession

variable {α : Type} {d : Dispatcher α} {s s' : NiSession α} {evt : Event α}
  {effects : List (Effect α)} {rule : AuctionRule α}

/-- An initiator in PENDING_TEARDOWN. -/
abbrev removal (α : Type) :
    Transition.Retrying (NiSession α) (Dispatcher α × Event α) (Outcome (NiSession α) α) :=
  Anslp.removal processEvent (fun s => s.state = .pendingTeardown) (fun s => s.state = .close)
    responseTimer NiSession.rule

theorem processEvent_removalTimer (hstate : s.state = .pendingTeardown) :
    s.processEvent d (.timer s.responseTimer) = s.retryRemoval d := by
  simp only [processEvent, hstate, handleStatePendingTeardown, if_true]

theorem retryRemoval_of_lt (hrule : s.rule = some rule)
    (hcount : s.teardownCounter < s.maxRetries) :
    (s.retryRemoval d).effects.filterMap Effect.removed? = [rule] ∧
      ∀ s', (s.retryRemoval d).next? = some s' → s' = { s with
        teardownCounter := s.teardownCounter + 1
        responseTimer := d.startTimer 0 } := by
  unfold retryRemoval
  rw [if_pos hcount, hrule]
  dsimp only
  split
  · exact ⟨rfl, fun s' hs' => by cases hs'⟩
  · refine ⟨rfl, fun s' hs' => ?_⟩
    cases hs'
    rfl

theorem retryRemoval_of_not_lt (hcount : ¬ s.teardownCounter < s.maxRetries) :
    s.retryRemoval d = .next { s with state := .close } [] := by
  rw [retryRemoval, if_neg hcount]

/-- What other calls in PENDING_TEARDOWN leave as it is. -/
structure KeepsRemoving (s s' : NiSession α) : Prop where
  state : s'.state = s.state
  counter : s'.teardownCounter = s.teardownCounter
  maxRetries : s'.maxRetries = s.maxRetries
  rule : s'.rule = s.rule

theorem keepsRemoving_of_other (hstate : s.state = .pendingTeardown)
    (hsilent : ∀ mspecObjects, evt ≠ .apiRemove mspecObjects)
    (hother : evt.expired? ≠ some s.responseTimer) :
    (s.processEvent d evt).effects.filterMap Effect.removed? = [] ∧
      ∀ s', (s.processEvent d evt).next? = some s' → s.KeepsRemoving s' := by
  have hkeeps : ∀ rest : List (Effect α), rest.filterMap Effect.removed? = [] →
      ∀ s₁, s.KeepsRemoving s₁ →
        (Outcome.next s₁ rest).effects.filterMap Effect.removed? = [] ∧
          ∀ s', (Outcome.next s₁ rest).next? = some s' → s.KeepsRemoving s' := by
    intro rest hrest s₁ hs₁
    refine ⟨hrest, fun s' hs' => ?_⟩
    cases hs'
    exact hs₁
  have hsame : s.KeepsRemoving s := ⟨rfl, rfl, rfl, rfl⟩
  simp only [processEvent, hstate]
  unfold handleStatePendingTeardown
  split
  · unfold processApiBidding
    split
    · exact ⟨rfl, fun s' hs' => by cases hs'⟩
    · exact hkeeps _ rfl _ ⟨rfl, rfl, rfl, rfl⟩
  · split
    · unfold processBidding
      split
      · exact ⟨rfl, fun s' hs' => by cases hs'⟩
      · exact hkeeps _ rfl s hsame
    · exact hkeeps _ rfl s hsame
  · rw [if_neg fun hid => hother (congrArg some hid)]
    exact hkeeps _ rfl s hsame
  · exact absurd rfl (hsilent _)
  · exact hkeeps _ rfl s hsame

/-- An initiator counts its retries with the teardown counter. -/
theorem countedBy_teardownCounter (maxRetries : UInt32) :
    (removal α).CountedBy (fun s => s.teardownCounter.toNat) maxRetries.toNat
      fun s => s.maxRetries = maxRetries ∧ s.rule.isSome = true := by
  apply countedBy_of_machine rfl fun _ _ => rfl
  · rintro s d ⟨rfl, hsome⟩ hstate _ hcount
    rcases Option.isSome_iff_exists.mp hsome with ⟨rule, hrule⟩
    rcases retryRemoval_of_lt (d := d) hrule hcount with ⟨hremoved, hnext⟩
    rw [← processEvent_removalTimer hstate] at hremoved hnext
    refine ⟨⟨⟨rule, hrule, hremoved⟩, fun s' hs' => ?_⟩, fun s' hs' => ?_⟩
    · rw [hnext s' hs']
      exact hstate
    · rw [hnext s' hs']
      exact ⟨⟨rfl, hsome⟩, rfl⟩
  · rintro s d ⟨rfl, hsome⟩ hstate _ hcount
    have hclosed := retryRemoval_of_not_lt (d := d) hcount
    rw [← processEvent_removalTimer hstate] at hclosed
    refine ⟨givesUp_of_next hclosed rfl, fun s' hs' => ?_⟩
    rw [hclosed] at hs'
    cases hs'
    exact ⟨⟨rfl, hsome⟩, nofun⟩
  · rintro s d evt ⟨hmax, hsome⟩ hstate hsilent hother
    rcases keepsRemoving_of_other hstate hsilent hother with ⟨hnone, hkeeps⟩
    refine ⟨⟨hnone, fun s' hs' => (hkeeps s' hs').state.trans hstate⟩, fun s' hs' => ?_⟩
    have hkept := hkeeps s' hs'
    exact ⟨⟨hkept.maxRetries.trans hmax, hkept.rule ▸ hsome⟩, hkept.counter⟩

/-- An initiator begins to wait for a removal with a teardown counter of 0. -/
theorem Transits.teardownCounter_eq_zero (ht : Transits d s evt s' effects)
    (hstate : s.state ≠ .pendingTeardown) (hstate' : s'.state = .pendingTeardown) :
    s'.teardownCounter = 0 := by
  cases ht with
  | removing => rfl
  | discarded | createdUntold | createRetried | responseRetried | refreshSent | refreshRetried
  | tearingDown | refreshed | biddingSent | biddingTaken | removalRetried =>
      exact absurd hstate' hstate
  | created | failed | tornDown | responded | installed | uninstalled | closed | removed =>
      cases hstate'

end NiSession

/-! ## Responder -/

namespace NrSession

variable {α : Type} {conf : AnslpConfig} {d : Dispatcher α} {s s' : NrSession α}
  {evt : Event α} {effects : List (Effect α)}

/-- A responder in PENDING_TEARDOWN. -/
abbrev removal (α : Type) (conf : AnslpConfig) :
    Transition.Retrying (NrSession α) (Dispatcher α × Event α) (Outcome (NrSession α) α) :=
  Anslp.removal (processEvent conf) (fun s => s.state = .pendingTeardown)
    (fun s => s.state = .close) stateTimer fun s => some s.rule

theorem removalTimer_of_lt (conf : AnslpConfig) (d : Dispatcher α)
    (hstate : s.state = .pendingTeardown) (hcount : s.createCounter < s.maxRetries) :
    (s.processEvent conf d (.timer s.stateTimer)).effects.filterMap Effect.removed? = [s.rule] ∧
      ∀ s', (s.processEvent conf d (.timer s.stateTimer)).next? = some s' → s' = { s with
        createCounter := s.createCounter + 1
        stateTimer := d.startTimer 0 } := by
  simp only [processEvent, hstate, handleStatePendingTeardown, if_true, if_pos hcount]
  split
  · exact ⟨rfl, fun s' hs' => by cases hs'⟩
  · refine ⟨rfl, fun s' hs' => ?_⟩
    cases hs'
    rfl

theorem removalTimer_of_not_lt (conf : AnslpConfig) (d : Dispatcher α)
    (hstate : s.state = .pendingTeardown) (hcount : ¬ s.createCounter < s.maxRetries) :
    s.processEvent conf d (.timer s.stateTimer) = .next { s with state := .close } [] := by
  simp only [processEvent, hstate, handleStatePendingTeardown, if_true, if_neg hcount]

/-- What other calls in PENDING_TEARDOWN leave as it is. -/
structure KeepsRemoving (s s' : NrSession α) : Prop where
  state : s'.state = s.state
  counter : s'.createCounter = s.createCounter
  maxRetries : s'.maxRetries = s.maxRetries

theorem keepsRemoving_of_other (conf : AnslpConfig) (d : Dispatcher α)
    (hstate : s.state = .pendingTeardown)
    (hsilent : ∀ mspecObjects, evt ≠ .apiRemove mspecObjects)
    (hother : evt.expired? ≠ some s.stateTimer) :
    (s.processEvent conf d evt).effects.filterMap Effect.removed? = [] ∧
      ∀ s', (s.processEvent conf d evt).next? = some s' → s.KeepsRemoving s' := by
  have hsame : ∀ s', (Outcome.next s ([] : List (Effect α))).next? = some s' →
      s.KeepsRemoving s' := by
    intro s' hs'
    cases hs'
    exact ⟨rfl, rfl, rfl⟩
  simp only [processEvent, hstate]
  unfold handleStatePendingTeardown
  split
  · rw [if_neg fun hid => hother (congrArg some hid)]
    exact ⟨rfl, hsame⟩
  · rename_i e
    unfold processApiBidding
    split
    · exact ⟨rfl, fun s' hs' => by cases hs'⟩
    · refine ⟨?_, fun s' hs' => ?_⟩
      · cases hqueue : e.hasReturnQueue <;> simp [Outcome.effects, Effect.removed?]
      · cases hs'
        exact ⟨rfl, rfl, rfl⟩
  · exact absurd rfl (hsilent _)
  · exact ⟨rfl, hsame⟩

/-- A responder counts its retries with the counter it has for all of them. -/
theorem countedBy_createCounter (conf : AnslpConfig) (maxRetries : UInt32) :
    (removal α conf).CountedBy (fun s => s.createCounter.toNat) maxRetries.toNat
      fun s => s.maxRetries = maxRetries := by
  apply countedBy_of_machine rfl fun _ _ => rfl
  · rintro s d rfl hstate _ hcount
    rcases removalTimer_of_lt conf d hstate hcount with ⟨hremoved, hnext⟩
    refine ⟨⟨⟨s.rule, rfl, hremoved⟩, fun s' hs' => ?_⟩, fun s' hs' => ?_⟩
    · rw [hnext s' hs']
      exact hstate
    · rw [hnext s' hs']
      exact ⟨rfl, rfl⟩
  · rintro s d rfl hstate _ hcount
    have hclosed := removalTimer_of_not_lt conf d hstate hcount
    refine ⟨givesUp_of_next hclosed rfl, fun s' hs' => ?_⟩
    rw [hclosed] at hs'
    cases hs'
    exact ⟨rfl, nofun⟩
  · rintro s d evt hmax hstate hsilent hother
    rcases keepsRemoving_of_other conf d hstate hsilent hother with ⟨hnone, hkeeps⟩
    refine ⟨⟨hnone, fun s' hs' => (hkeeps s' hs').state.trans hstate⟩, fun s' hs' => ?_⟩
    have hkept := hkeeps s' hs'
    exact ⟨hkept.maxRetries.trans hmax, hkept.counter⟩

/-- Beginning to wait for a removal leaves the counter of the retries as it is. -/
theorem Transits.createCounter_eq (ht : Transits conf d s evt s' effects)
    (hstate : s.state ≠ .pendingTeardown) (hstate' : s'.state = .pendingTeardown) :
    s'.createCounter = s.createCounter := by
  cases ht with
  | removing | installFailed => rfl
  | discarded | createRejected | createWithoutLifetime | checkRetried | installRetried
  | refreshRejected | refreshed | biddingPassed | biddingSent | removalRetried =>
      exact absurd hstate' hstate
  | started | startedIdle | startFailed | givenUp | checked | installed | closed
  | removalGivenUp | removed => cases hstate'

theorem Transits.maxRetries_eq (ht : Transits conf d s evt s' effects) :
    s'.maxRetries = s.maxRetries := by
  cases ht <;> rfl

/-- A removal that does not fail is repeated. -/
theorem next?_removalTimer (hstate : s.state = .pendingTeardown)
    (hcount : s.createCounter < s.maxRetries) (hquiet : d.removeError s.id s.rule = none) :
    (s.processEvent conf d (.timer s.stateTimer)).next? = some { s with
      createCounter := s.createCounter + 1
      stateTimer := d.startTimer 0 } := by
  simp only [processEvent, hstate, handleStatePendingTeardown, if_true, if_pos hcount, hquiet]
  rfl

/-- A responder uses all the retries of a removal exactly if its counter is 0 when it begins
to wait, or if it has none. -/
theorem retriesRemoval_iff (hstate : s.state = .pendingTeardown) :
    (removal α conf).RetriesExactly s.maxRetries.toNat s ↔
      s.createCounter = 0 ∨ s.maxRetries = 0 := by
  rw [(countedBy_createCounter conf s.maxRetries).retriesExactly_iff rfl hstate
    not_givesUp_of_repeats, ← UInt32.toNat_inj, ← UInt32.toNat_inj, UInt32.toNat_zero]
  intro t hmax hwaits
  refine ⟨(.quiet α, .timer t.stateTimer), fun _ => nofun, by simp [Anslp.removal],
    fun hcount => ?_⟩
  rw [← hmax, ← UInt32.lt_iff_toNat_lt] at hcount
  exact ⟨_, _, Prod.ext rfl (next?_removalTimer hwaits hcount rfl), hwaits⟩

end NrSession

/-! ## All sessions -/

/-- Every session that begins to wait for a removal uses all the retries of it. -/
def AlwaysRetriesRemoval (α : Type) (conf : AnslpConfig) : Prop :=
  (∀ id random trace st (s : NiSession α), NiSession.Runs conf id random (trace ++ [st]) s →
    st.pre.state ≠ .pendingTeardown → s.state = .pendingTeardown →
      (NiSession.removal α).RetriesExactly s.maxRetries.toNat s) ∧
  ∀ id random trace st (s : NrSession α), NrSession.Runs conf id random (trace ++ [st]) s →
    st.pre.state ≠ .pendingTeardown → s.state = .pendingTeardown →
      (NrSession.removal α conf).RetriesExactly s.maxRetries.toNat s

/-- Every initiator that begins to wait for a removal uses all the retries of it; a responder
does so exactly if its counter is 0 then, or if it has no retries. -/
theorem retriesRemoval_iff_of_run {α : Type} (conf : AnslpConfig) :
    (∀ id random trace st (s : NiSession α), NiSession.Runs conf id random (trace ++ [st]) s →
      st.pre.state ≠ .pendingTeardown → s.state = .pendingTeardown →
        (NiSession.removal α).RetriesExactly s.maxRetries.toNat s) ∧
    ∀ id random trace st (s : NrSession α), NrSession.Runs conf id random (trace ++ [st]) s →
      st.pre.state ≠ .pendingTeardown → s.state = .pendingTeardown →
        ((NrSession.removal α conf).RetriesExactly s.maxRetries.toNat s ↔
          st.pre.createCounter = 0 ∨ st.pre.maxRetries = 0) := by
  constructor
  · intro id random trace st s hrun hstate hstate'
    rcases hrun.last with ⟨_, hstep, rfl⟩
    have ht := NiSession.transits_of_processEvent (next_of_machine hstep)
    have hstored := (NiSession.stored_of_run hrun).rule (Or.inr hstate')
    apply (NiSession.countedBy_teardownCounter _).retriesExactly ⟨rfl, hstored⟩
    rw [ht.teardownCounter_eq_zero hstate hstate']
    exact Or.inl rfl
  · intro id random trace st s hrun hstate hstate'
    rcases hrun.last with ⟨_, hstep, rfl⟩
    have ht := NrSession.transits_of_processEvent (next_of_machine hstep)
    rw [NrSession.retriesRemoval_iff hstate', ht.createCounter_eq hstate hstate',
      ht.maxRetries_eq, ← UInt32.toNat_inj]

/-! ### An installation that is retried -/

namespace RetriedInstallation

open Sample hiding conf
open Checked

/-- The responder in AUCTIONING, after a retry of the installation or without one. -/
def up (retries : UInt32) : NrSession RawIpap :=
  { upResponder with createCounter := retries }

/-- Its time is over: the rule is to be removed. -/
def timeout (retries : UInt32) :
    Transition.Step (NrSession RawIpap) (Dispatcher RawIpap × Event RawIpap)
      (Outcome (NrSession RawIpap) RawIpap) where
  pre := up retries
  input := (surroundings, .timer 1)
  output := (up retries).processEvent conf surroundings (.timer 1)
  post := { up retries with state := .pendingTeardown }

theorem runs_timeout {retries : UInt32}
    {trace : List (Transition.Step (NrSession RawIpap) (Dispatcher RawIpap × Event RawIpap)
      (Outcome (NrSession RawIpap) RawIpap))} (hup : NrSession.Runs conf 1 0 trace (up retries)) :
    NrSession.Runs conf 1 0 (trace ++ [timeout retries]) (timeout retries).post :=
  run_snoc_of_next hup rfl

theorem runs_retried : ∃ trace,
    NrSession.Runs conf 1 0 (trace ++ [timeout 1]) (timeout 1).post := by
  have hretried := run_snoc_of_next (d := surroundings) runs_installingResponder
    (rfl : (NrSession.processEvent conf _ _ (.timer 1)).next? =
      some { installingResponder with createCounter := 1 })
  have hup := run_snoc_of_next (d := surroundings) hretried
    (rfl : (NrSession.processEvent conf _ _ (.apiInstall kept)).next? = some (up 1))
  exact ⟨_, runs_timeout hup⟩

/-- The retry of the installation is missing for the removal. -/
theorem not_alwaysRetriesRemoval : ¬ AlwaysRetriesRemoval RawIpap conf := by
  intro h
  rcases runs_retried with ⟨trace, hrun⟩
  have hexactly := h.2 1 0 trace (timeout 1) _ hrun nofun rfl
  rcases (NrSession.retriesRemoval_iff rfl).mp hexactly with hzero | hzero
  · cases hzero
  · cases hzero

/-- Without it all retries are used. -/
theorem retriesRemoval_timeout : ∃ trace,
    NrSession.Runs conf 1 0 (trace ++ [timeout 0]) (timeout 0).post ∧
      (NrSession.removal RawIpap conf).RetriesExactly 3 (timeout 0).post := by
  have hup := run_snoc_of_next (d := surroundings) runs_installingResponder
    (rfl : (NrSession.processEvent conf _ _ (.apiInstall kept)).next? = some (up 0))
  exact ⟨_, runs_timeout hup, ((retriesRemoval_iff_of_run conf).2 1 0 _ (timeout 0) _
    (runs_timeout hup) nofun rfl).mpr (Or.inl rfl)⟩

end RetriedInstallation
end Anslp
