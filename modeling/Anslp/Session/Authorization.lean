import Anslp.Session.Safety

/-!
# Requests without authorization

What a CREATE or REFRESH that is not authorized does to a forwarder or a responder.  The
check of the lifetime comes first, and a lifetime that is overridden leaves the
authorization unchecked, so that a request which asks for too long a lifetime takes effect.

Main results:

- Theorem {lit}`rejects_iff_of_run`: in every reachable session such a request is
  rejected, with nothing changed, exactly when its lifetime does not exceed the largest
  one, or when a forwarder has a CREATE pending.

Current gaps:

- The policy itself is the dispatcher's and stays a parameter.
-/

namespace Anslp

open Session

/-- A call answers a request with the failed authorization, and that is all it does. -/
def Outcome.Rejects {σ α : Type} (o : Outcome σ α) (request : NtlpMsg α)
    (unaffected : σ → Prop) : Prop :=
  ∃ s', o = .next s' [.sendMessage (request.createErrorResponse authorizationError)] ∧
    unaffected s'

/-! ## Forwarder -/

namespace NfSession

variable {α : Type} {conf : AnslpConfig} {d : Dispatcher α} {s s' : NfSession α}
  {e : MsgEvent α} {evt : Event α} {request : NtlpMsg α} {lifetime : UInt32}
  {effects : List (Effect α)}

/-- The state, the numbers, the rule, the stored messages and the timers are the same. -/
structure Unaffected (s s' : NfSession α) : Prop where
  state : s'.state = s.state
  lifetime : s'.lifetime = s.lifetime
  msn : s'.msn = s.msn
  rule : s'.rule = s.rule
  createMessage : s'.createMessage = s.createMessage
  refreshMessage : s'.refreshMessage = s.refreshMessage
  responseMessage : s'.responseMessage = s.responseMessage
  stateTimer : s'.stateTimer = s.stateTimer
  responseTimer : s'.responseTimer = s.responseTimer

/-- The requests a forwarder handles, with the lifetime they ask for: a CREATE in CLOSE and
while another one is pending, a REFRESH in AUCTIONING. -/
inductive Handles (s : NfSession α) (e : MsgEvent α) : NtlpMsg α → UInt32 → Prop
  | create {c : KindMsg .create α} (hstate : s.state = .close ∨ s.IsPending)
      (hc : e.ofKind? .create = some c) : Handles s e c.ntlpMsg c.body.getSessionLifetime
  | refresh {c : KindMsg .refresh α} (hstate : s.state = .auctioning)
      (hc : e.ofKind? .refresh = some c) : Handles s e c.ntlpMsg c.body.getSessionLifetime

/-- A session that is open has its limit from the configuration. -/
def Limited (conf : AnslpConfig) (s : NfSession α) : Prop :=
  s.state ≠ .close → s.maxLifetime = conf.nfMaxSessionLifetime

theorem SetUp.maxLifetime {c : KindMsg .create α} (h : SetUp conf d s c s' effects) :
    s'.maxLifetime = s.maxLifetime := by
  cases h <;> rfl

theorem Limited.transits (h : s.Limited conf) (ht : Transits conf d s evt s' effects) :
    s'.Limited conf := by
  intro hopen'
  cases ht with
  | discarded | pendingRejected | repeated | refreshRejected | refreshed | responsePassed
  | biddingTaken | biddingPassed => exact h hopen'
  | createRejected hstate | createWithoutLifetime hstate => rfl
  | created _ _ _ _ hsetUp => exact hsetUp.maxLifetime
  | replaced hstate _ hsetUp => exact hsetUp.maxLifetime.trans (h hstate.ne_close)
  | checked hstate | responded hstate | installed hstate =>
      exact h (by rw [hstate]; exact nofun)
  | removing hstate hends =>
      have hmax := h (by rw [hstate]; exact nofun)
      cases hends <;> exact hmax
  | abandoned | givenUp | refused | installFailed | closed | removalTimedOut | removed =>
      exact absurd rfl hopen'

theorem limited_of_run {id : SessionId}
    {trace : List (Transition.Step (NfSession α) (Dispatcher α × Event α)
      (Outcome (NfSession α) α))} (hrun : Runs conf id trace s) : s.Limited conf :=
  hrun.invariant
    (fun _ _ _ _ hs hstep => hs.transits (transits_of_processEvent (next_of_machine hstep)))
    fun hopen => absurd rfl hopen

/-- Setting up a session is not answered with a failed authorization. -/
theorem not_rejects_processStateClose {c : KindMsg .create α} {unaffected : NfSession α → Prop} :
    ¬ (s.processStateClose conf d c).Rejects request unaffected := by
  rintro ⟨s', heq, -⟩
  unfold processStateClose at heq
  dsimp only at heq
  split at heq
  · simp only [Outcome.next.injEq, List.cons.injEq, Effect.sendMessage.injEq, and_true] at heq
    exact absurd (NtlpMsg.createErrorResponse_inj heq.2) (by decide)
  · split_ifs at heq
    split at heq
    · cases heq
    · unfold checkOrPass at heq
      split at heq <;> simp at heq

/-- A forwarder that sets up or refreshes a session for too long a time does so for
everybody. -/
theorem rejects_iff (hstored : s.Stored) (hlimited : s.Limited conf)
    (hhandles : s.Handles e request lifetime) (hunauthorized : d.isAuthorized e = false) :
    (s.processEvent conf d (.msg e)).Rejects request s.Unaffected ↔
      s.IsPending ∨ lifetime ≤ conf.nfMaxSessionLifetime := by
  cases hhandles with
  | @create c hstate hc =>
      rcases hstate with hstate | hpending
      · have hnot : ¬ s.IsPending := fun h => h.ne_close hstate
        simp only [processEvent, hstate, handleStateClose, hc, hnot, false_or]
        constructor
        · intro hrejects
          by_contra hle
          rw [checkRequest_of_not_le hle] at hrejects
          dsimp only at hrejects
          split_ifs at hrejects with hzero
          · obtain ⟨_, heq, _⟩ := hrejects
            cases heq
          · exact not_rejects_processStateClose hrejects
        · intro hle
          rw [checkRequest_eq_error_iff.mpr ⟨hle, hunauthorized, rfl⟩]
          exact ⟨_, rfl, hstate.symm, rfl, rfl, rfl, rfl, rfl, rfl, rfl, rfl⟩
      · refine iff_of_true ?_ (Or.inl hpending)
        obtain ⟨previous, hprevious, _⟩ := hstored.create hpending
        have hprocess : s.processEvent conf d (.msg e) =
            .next s [.sendMessage (c.ntlpMsg.createErrorResponse authorizationError)] := by
          rw [processEvent_of_isPending hpending hc]
          simp [processPendingCreate, hprevious, hunauthorized]
        exact ⟨s, hprocess, rfl, rfl, rfl, rfl, rfl, rfl, rfl, rfl, rfl⟩
  | @refresh c hstate hc =>
      have hnot : ¬ s.IsPending := by
        rintro (h | h | h) <;> cases hstate.symm.trans h
      have hmax := hlimited (by simp [hstate])
      simp only [processEvent, hstate, handleStateAuctioning, hc, processRefresh, hnot, false_or]
      constructor
      · intro hrejects
        by_contra hle
        rw [← hmax] at hle
        rw [checkRequest_of_not_le hle] at hrejects
        obtain ⟨_, heq, _⟩ := hrejects
        dsimp only at heq
        split at heq <;> simp at heq
      · intro hle
        rw [checkRequest_eq_error_iff.mpr ⟨hmax ▸ hle, hunauthorized, rfl⟩]
        exact ⟨_, rfl, rfl, rfl, rfl, rfl, rfl, rfl, rfl, rfl, rfl⟩

end NfSession

/-! ## Responder -/

namespace NrSession

variable {α : Type} {conf : AnslpConfig} {d : Dispatcher α} {s s' : NrSession α}
  {e : MsgEvent α} {evt : Event α} {request : NtlpMsg α} {lifetime : UInt32}
  {effects : List (Effect α)}

/-- The state, the numbers, the rule, the stored message and the timer are the same. -/
structure Unaffected (s s' : NrSession α) : Prop where
  state : s'.state = s.state
  lifetime : s'.lifetime = s.lifetime
  msn : s'.msn = s.msn
  msnBidding : s'.msnBidding = s.msnBidding
  rule : s'.rule = s.rule
  createMessage : s'.createMessage = s.createMessage
  stateTimer : s'.stateTimer = s.stateTimer
  createCounter : s'.createCounter = s.createCounter

/-- The requests a responder handles, with the lifetime they ask for: a CREATE in CLOSE, a
REFRESH in AUCTIONING. -/
inductive Handles (s : NrSession α) (e : MsgEvent α) : NtlpMsg α → UInt32 → Prop
  | create {c : KindMsg .create α} (hstate : s.state = .close)
      (hc : e.ofKind? .create = some c) : Handles s e c.ntlpMsg c.body.getSessionLifetime
  | refresh {c : KindMsg .refresh α} (hstate : s.state = .auctioning)
      (hc : e.ofKind? .refresh = some c) : Handles s e c.ntlpMsg c.body.getSessionLifetime

theorem maxLifetime_of_transits (ht : Transits conf d s evt s' effects) :
    s'.maxLifetime = s.maxLifetime := by
  cases ht <;> rfl

theorem maxLifetime_of_run {id : SessionId} {random : UInt32}
    {trace : List (Transition.Step (NrSession α) (Dispatcher α × Event α)
      (Outcome (NrSession α) α))} (hrun : Runs conf id random trace s) :
    s.maxLifetime = conf.nrMaxSessionLifetime :=
  hrun.invariant (I := fun s => s.maxLifetime = conf.nrMaxSessionLifetime)
    (fun _ _ _ _ hs hstep =>
      (maxLifetime_of_transits (transits_of_processEvent (next_of_machine hstep))).trans hs) rfl

/-- A CREATE that passed the checks is not answered with a failed authorization. -/
theorem not_rejects_initiate {c : KindMsg .create α} {unaffected : NrSession α → Prop} :
    ¬ (s.initiate conf d c).Rejects request unaffected := by
  rintro ⟨s', heq, -⟩
  unfold initiate at heq
  split at heq
  · cases heq
  · split at heq
    · cases heq
    · unfold respond at heq
      split at heq <;> simp at heq

/-- The end of a session is not answered with a failed authorization alone. -/
theorem not_rejects_removeOrClose {effect : Effect α} (hstate : s.state = .auctioning) :
    ¬ ((s.removeOrClose conf d).after [effect]).Rejects request s.Unaffected := by
  rintro ⟨s', heq, hunaffected⟩
  unfold removeOrClose at heq
  split_ifs at heq
  · split at heq
    · cases heq
    · simp [Outcome.after] at heq
  · simp only [Outcome.after, Outcome.next.injEq] at heq
    have hclosed := hunaffected.state
    rw [← heq.1, hstate] at hclosed
    cases hclosed

/-- A responder that sets up or refreshes a session for too long a time does so for
everybody. -/
theorem rejects_iff (hmax : s.maxLifetime = conf.nrMaxSessionLifetime)
    (hhandles : s.Handles e request lifetime) (hunauthorized : d.isAuthorized e = false) :
    (s.processEvent conf d (.msg e)).Rejects request s.Unaffected ↔
      lifetime ≤ conf.nrMaxSessionLifetime := by
  rw [← hmax]
  cases hhandles with
  | @create c hstate hc =>
      simp only [processEvent, hstate, handleStateClose, hc]
      constructor
      · intro hrejects
        by_contra hle
        rw [checkRequest_of_not_le hle] at hrejects
        dsimp only [setLastCreateMessage] at hrejects
        -- a CREATE that is stored already leaves no result
        split at hrejects
        · obtain ⟨_, heq, _⟩ := hrejects
          cases heq
        split_ifs at hrejects with hzero
        · exact not_rejects_initiate hrejects
        · obtain ⟨_, heq, _⟩ := hrejects
          simp only [Outcome.next.injEq, List.cons.injEq, Effect.sendMessage.injEq,
            and_true] at heq
          have hcode := NtlpMsg.createErrorResponse_inj
            (e := ⟨scPermanentFailure, failConfigurationFailed⟩) heq.2
          exact absurd hcode (by decide)
      · intro hle
        rw [checkRequest_eq_error_iff.mpr ⟨hle, hunauthorized, rfl⟩]
        exact ⟨_, rfl, hstate.symm, rfl, rfl, rfl, rfl, rfl, rfl, rfl⟩
  | @refresh c hstate hc =>
      simp only [processEvent, hstate, handleStateAuctioning, hc, processRefresh]
      constructor
      · intro hrejects
        by_contra hle
        rw [checkRequest_of_not_le hle] at hrejects
        dsimp only at hrejects
        split_ifs at hrejects with hduplicate hlifetime
        · obtain ⟨_, heq, _⟩ := hrejects
          cases heq
        · obtain ⟨_, heq, _⟩ := hrejects
          simp at heq
        · exact not_rejects_removeOrClose hstate hrejects
      · intro hle
        rw [checkRequest_eq_error_iff.mpr ⟨hle, hunauthorized, rfl⟩]
        exact ⟨_, rfl, rfl, rfl, rfl, rfl, rfl, rfl, rfl, rfl⟩

end NrSession

/-! ## Both sessions -/

/-- In every reachable session a request without authorization is rejected. -/
def RejectsUnauthorized (α : Type) (conf : AnslpConfig) : Prop :=
  (∀ id trace (s : NfSession α), NfSession.Runs conf id trace s →
    ∀ d e request lifetime, s.Handles e request lifetime → d.isAuthorized e = false →
      (s.processEvent conf d (.msg e)).Rejects request s.Unaffected) ∧
  ∀ id random trace (s : NrSession α), NrSession.Runs conf id random trace s →
    ∀ d e request lifetime, s.Handles e request lifetime → d.isAuthorized e = false →
      (s.processEvent conf d (.msg e)).Rejects request s.Unaffected

/-- In every reachable session a request without authorization is rejected exactly when its
lifetime does not exceed the largest one, or when a forwarder has a CREATE pending. -/
theorem rejects_iff_of_run {α : Type} (conf : AnslpConfig) :
    (∀ id trace (s : NfSession α), NfSession.Runs conf id trace s →
      ∀ d e request lifetime, s.Handles e request lifetime → d.isAuthorized e = false →
        ((s.processEvent conf d (.msg e)).Rejects request s.Unaffected ↔
          s.IsPending ∨ lifetime ≤ conf.nfMaxSessionLifetime)) ∧
    ∀ id random trace (s : NrSession α), NrSession.Runs conf id random trace s →
      ∀ d e request lifetime, s.Handles e request lifetime → d.isAuthorized e = false →
        ((s.processEvent conf d (.msg e)).Rejects request s.Unaffected ↔
          lifetime ≤ conf.nrMaxSessionLifetime) :=
  ⟨fun _ _ _ hrun _ _ _ _ => NfSession.rejects_iff (NfSession.stored_of_run hrun)
      (NfSession.limited_of_run hrun),
    fun _ _ _ _ hrun _ _ _ _ => NrSession.rejects_iff (NrSession.maxLifetime_of_run hrun)⟩

/-! ### A lifetime that is too large -/

namespace Overridden

open Sample

/-- A node with a largest lifetime of 20 seconds. -/
def node : AnslpConfig :=
  { conf with nrMaxSessionLifetime := 20 }

/-- Surroundings where nobody is authorized. -/
def closed : Dispatcher RawIpap :=
  { surroundings with isAuthorized _ := false }

theorem handles_arrival :
    (NrSession.new node 1 0).Handles arrival create.ntlpMsg create.body.getSessionLifetime :=
  .create rfl rfl

/-- The CREATE is answered with success. -/
theorem not_rejectsUnauthorized : ¬ RejectsUnauthorized RawIpap node := by
  intro h
  obtain ⟨s', heq, hunaffected⟩ :=
    h.2 1 0 [] (NrSession.new node 1 0) .nil closed arrival _ _ handles_arrival rfl
  have hstate : ((NrSession.processEvent node closed (NrSession.new node 1 0)
      (.msg arrival)).next?.map NrSession.state) = some .auctioning := rfl
  rw [heq] at hstate
  exact absurd (hunaffected.state.symm.trans (Option.some.inj hstate)) nofun

/-- A node with a largest lifetime of 60 seconds rejects it. -/
theorem rejects_arrival :
    (NrSession.processEvent conf closed (NrSession.new conf 1 0) (.msg arrival)).Rejects
      create.ntlpMsg (NrSession.new conf 1 0).Unaffected :=
  ((rejects_iff_of_run conf).2 1 0 [] (NrSession.new conf 1 0) .nil closed arrival _ _
    (.create rfl rfl) rfl).mpr (by decide)

end Overridden
end Anslp
