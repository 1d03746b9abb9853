import Anslp.Session.ResponseTimer

/-!
# The end of a session at a forwarder

An initiator ends a session with a REFRESH without a lifetime.  A forwarder passes it on and
stays in AUCTIONING until the RESPONSE to it arrives.  Of such a REFRESH it does not store the
sequence number, so that one sent earlier, if it comes late, takes its place.

Main results:

- Theorem {lit}`NfSession.keepsOutdated_iff`: the calls for a REFRESH that leave the session as
  it is.
- Theorem {lit}`NfSession.final_iff_of_run`: the runs in which the end of a session is final.

Current gaps:

- None for forwarders.
-/

namespace Anslp
namespace NfSession

open Session

variable {α : Type} {conf : AnslpConfig} {d : Dispatcher α} {s s' : NfSession α}
  {evt : Event α} {effects : List (Effect α)} {c : KindMsg .refresh α}

/-- A step of a forwarder. -/
abbrev RunStep (α : Type) :=
  Transition.Step (NfSession α) (Dispatcher α × Event α) (Outcome (NfSession α) α)

/-- A step that accepts a REFRESH without a lifetime. -/
def TearsDown (c : KindMsg .refresh α) (st : RunStep α) : Prop :=
  st.pre.state = .auctioning ∧ ∃ e, st.input.2 = .msg e ∧ e.ofKind? .refresh = some c ∧
    checkRequest st.input.1 e c.body.getSessionLifetime st.pre.maxLifetime = .ok 0 ∧
    isGreaterThan c.body.getMsgSequenceNumber st.pre.msn = true

/-- The session stays in AUCTIONING. -/
def StaysUp (later : List (RunStep α)) : Prop :=
  ∀ st ∈ later, st.pre.state = .auctioning ∧ st.post.state = .auctioning

/-- The events that are no REFRESH newer than the given one. -/
def NotNewer (c : KindMsg .refresh α) (evt : Event α) : Prop :=
  ∀ e c', evt = .msg e → e.ofKind? .refresh = some c' →
    isGreaterThan c'.body.getMsgSequenceNumber c.body.getMsgSequenceNumber = false

/-- What a REFRESH is about is as before. -/
structure Undisturbed (s s' : NfSession α) : Prop where
  lifetime : s'.lifetime = s.lifetime
  msn : s'.msn = s.msn
  refreshMessage : s'.refreshMessage = s.refreshMessage
  state : s'.state = s.state

/-- A REFRESH that is not newer than the given one leaves the session as it is. -/
def KeepsOutdated (c : KindMsg .refresh α) (st : RunStep α) : Prop :=
  ∀ e c', st.input.2 = .msg e → e.ofKind? .refresh = some c' →
    isGreaterThan c'.body.getMsgSequenceNumber c.body.getMsgSequenceNumber = false →
      Undisturbed st.pre st.post

/-- A REFRESH that is not newer than the given one fails the checks, or is not newer than the
one whose number is stored, or it is the stored one without a lifetime once more. -/
def Harmless (c : KindMsg .refresh α) (st : RunStep α) : Prop :=
  ∀ e c' lifetime, st.input.2 = .msg e → e.ofKind? .refresh = some c' →
    isGreaterThan c'.body.getMsgSequenceNumber c.body.getMsgSequenceNumber = false →
    checkRequest st.input.1 e c'.body.getSessionLifetime st.pre.maxLifetime = .ok lifetime →
    isGreaterThan c'.body.getMsgSequenceNumber st.pre.msn = true →
      lifetime = 0 ∧ st.pre.lifetime = 0 ∧ st.pre.refreshMessage = some c'

/-- A call ends AUCTIONING, if only because the dispatcher aborts the session. -/
def EndsAuctioning : Outcome (NfSession α) α → Prop
  | .next s _ => s.state = .pendingTeardown ∨ s.state = .close
  | .thrown _ _ _ => True
  | .undefined _ => False

/-- The end of the session is final: a REFRESH that is not newer changes nothing, and unless
a newer one comes the RESPONSE of success ends the session. -/
structure Final (conf : AnslpConfig) (c : KindMsg .refresh α) (later : List (RunStep α))
    (s : NfSession α) : Prop where
  kept : ∀ st ∈ later, KeepsOutdated c st
  ends : (∀ st ∈ later, NotNewer c st.input.2) → ∀ d e r, e.anslpResponse? c = some r →
    r.body.isSuccess = true → EndsAuctioning (s.processEvent conf d (.msg e))

/-! ## One call -/

theorem processEvent_refresh {e : MsgEvent α} (hstate : s.state = .auctioning)
    (hc : e.ofKind? .refresh = some c) :
    s.processEvent conf d (.msg e) = s.processRefresh d e c := by
  simp only [processEvent, hstate, handleStateAuctioning, hc]

/-- Accepting a REFRESH leaves the session as it is only if it is the stored one without a
lifetime. -/
theorem undisturbed_accepted_iff {lifetime : UInt32} {timer : Nat}
    (hmsn : isGreaterThan c.body.getMsgSequenceNumber s.msn = true) :
    Undisturbed s { s with
        lifetime := lifetime
        msn := if lifetime > 0 then c.body.getMsgSequenceNumber else s.msn
        refreshMessage := some c
        responseTimer := timer } ↔
      lifetime = 0 ∧ s.lifetime = 0 ∧ s.refreshMessage = some c := by
  constructor
  · intro h
    by_cases hlifetime : lifetime > 0
    · have hsame : c.body.getMsgSequenceNumber = s.msn := by
        simpa only [if_pos hlifetime] using h.msn
      rw [hsame, isGreaterThan_self] at hmsn
      cases hmsn
    · have hzero : lifetime = 0 := by
        rw [gt_iff_lt, UInt32.not_lt] at hlifetime
        exact UInt32.le_zero_iff.mp hlifetime
      exact ⟨hzero, h.lifetime.symm.trans hzero, h.refreshMessage.symm⟩
  · rintro ⟨rfl, hzero, hrefresh⟩
    exact ⟨hzero.symm, rfl, hrefresh.symm, rfl⟩

/-- A call in AUCTIONING for a REFRESH that is not newer leaves the session as it is exactly
if it is harmless. -/
theorem keepsOutdated_iff {st : RunStep α} (hstate : st.pre.state = .auctioning)
    (hnext : st.pre.processEvent conf st.input.1 st.input.2 = .next st.post st.output.effects) :
    KeepsOutdated c st ↔ Harmless c st := by
  constructor
  · intro hkeeps e c' lifetime hevt hc' hold hcheck hmsn
    have hundisturbed := hkeeps e c' hevt hc' hold
    rw [hevt, processEvent_refresh hstate hc', processRefresh, hcheck] at hnext
    simp only [hmsn, Bool.not_true, Bool.false_eq_true, if_false, Outcome.next.injEq] at hnext
    rw [← hnext.1] at hundisturbed
    exact (undisturbed_accepted_iff hmsn).mp hundisturbed
  · intro hharmless e c' hevt hc' hold
    rw [hevt, processEvent_refresh hstate hc', processRefresh] at hnext
    cases hcheck : checkRequest st.input.1 e c'.body.getSessionLifetime st.pre.maxLifetime with
    | error exp =>
        simp only [hcheck, Outcome.next.injEq] at hnext
        rw [← hnext.1]
        exact ⟨rfl, rfl, rfl, rfl⟩
    | ok lifetime =>
        cases hmsn : isGreaterThan c'.body.getMsgSequenceNumber st.pre.msn with
        | false =>
            simp only [hcheck, hmsn, Bool.not_false, if_true, Outcome.next.injEq] at hnext
            rw [← hnext.1]
            exact ⟨rfl, rfl, rfl, rfl⟩
        | true =>
            simp only [hcheck, hmsn, Bool.not_true, Bool.false_eq_true, if_false,
              Outcome.next.injEq] at hnext
            rw [← hnext.1]
            apply (undisturbed_accepted_iff hmsn).mpr
            exact hharmless e c' lifetime hevt hc' hold hcheck hmsn

/-- The session after it accepted the REFRESH, until another one takes its place. -/
structure AwaitsEnd (c : KindMsg .refresh α) (s : NfSession α) : Prop where
  state : s.state = .auctioning
  lifetime : s.lifetime = 0
  refreshMessage : s.refreshMessage = some c

theorem TearsDown.awaitsEnd {st : RunStep α} (h : TearsDown c st)
    (hnext : st.pre.processEvent conf st.input.1 st.input.2 = .next st.post st.output.effects) :
    st.post.AwaitsEnd c := by
  rcases h with ⟨hstate, e, hevt, hc, hcheck, hmsn⟩
  rw [hevt, processEvent_refresh hstate hc, processRefresh, hcheck] at hnext
  simp only [hmsn, Bool.not_true, Bool.false_eq_true, if_false, Outcome.next.injEq] at hnext
  rw [← hnext.1]
  exact ⟨hstate, rfl, rfl⟩

/-- Only a REFRESH changes what a session in AUCTIONING waits for. -/
theorem AwaitsEnd.transits (h : s.AwaitsEnd c) (hstate' : s'.state = .auctioning)
    (hkept : ∀ e c', evt = .msg e → e.ofKind? .refresh = some c' → Undisturbed s s')
    (ht : Transits conf d s evt s' effects) : s'.AwaitsEnd c := by
  cases ht with
  | discarded | refreshRejected | biddingTaken | biddingPassed => exact h
  | responsePassed => exact ⟨h.state, h.lifetime, h.refreshMessage⟩
  | refreshed _ hc' =>
      have hsame := hkept _ _ rfl hc'
      exact ⟨hstate', hsame.lifetime.trans h.lifetime, hsame.refreshMessage.trans h.refreshMessage⟩
  | pendingRejected hs | abandoned hs | repeated hs | replaced hs | givenUp hs =>
      exact absurd hs (not_isPending_of_up (Or.inl h.state))
  | createRejected hs | createWithoutLifetime hs | created hs | checked hs | responded hs
  | refused hs | installed hs | installFailed hs | removalTimedOut hs | removed hs =>
      cases hs.symm.trans h.state
  | removing | closed => cases hstate'

theorem endsAuctioning_removeOrClose {s₁ : NfSession α} {seconds : UInt32}
    {before : List (Effect α)} :
    EndsAuctioning ((s₁.removeOrClose d seconds).after before) := by
  unfold removeOrClose
  split_ifs
  · split
    · exact trivial
    · exact Or.inl rfl
  · exact Or.inr rfl

/-- The RESPONSE of success to the REFRESH ends the session. -/
theorem AwaitsEnd.endsAuctioning {e : MsgEvent α} {r : KindMsg .response α}
    (h : s.AwaitsEnd c) (hr : e.anslpResponse? c = some r) :
    EndsAuctioning (s.processEvent conf d (.msg e)) := by
  have hnot : ¬ (r.body.isSuccess = true ∧ s.lifetime ≠ 0) := fun hgoesOn => hgoesOn.2 h.lifetime
  rw [processEvent_of_answers h.state h.refreshMessage hr, processRefreshResponse, if_neg hnot]
  exact endsAuctioning_removeOrClose

/-! ## All runs -/

/-- In every run the end of a session is final. -/
def AlwaysFinal (α : Type) (conf : AnslpConfig) : Prop :=
  ∀ id trace (s : NfSession α), Runs conf id trace s → ∀ before st later c,
    trace = before ++ st :: later → TearsDown c st → StaysUp later → Final conf c later s

/-- In a run the end of a session is final exactly if every REFRESH that arrives afterwards,
and that is not newer, is harmless. -/
theorem final_iff_of_run (conf : AnslpConfig) :
    ∀ id trace (s : NfSession α), Runs conf id trace s → ∀ before st later c,
      trace = before ++ st :: later → TearsDown c st → StaysUp later →
        (Final conf c later s ↔ ∀ st' ∈ later, Harmless c st') := by
  intro id trace s hrun before st later c htrace htearsDown hup
  subst htrace
  have hnext : ∀ st' ∈ before ++ st :: later,
      st'.pre.processEvent conf st'.input.1 st'.input.2 = .next st'.post st'.output.effects := by
    intro st' hst'
    rcases hrun.pre_of_mem hst' with ⟨_, _, _, _, hstep⟩
    exact next_of_machine hstep
  have hlater : ∀ st' ∈ later, st' ∈ before ++ st :: later := fun st' hst' =>
    List.mem_append_right _ (List.mem_cons_of_mem _ hst')
  have hiff : ∀ st' ∈ later, (KeepsOutdated c st' ↔ Harmless c st') := fun st' hst' =>
    keepsOutdated_iff (hup st' hst').1 (hnext st' (hlater st' hst'))
  constructor
  · intro hfinal st' hst'
    exact (hiff st' hst').mp (hfinal.kept st' hst')
  · intro hharmless
    have hkept : ∀ st' ∈ later, KeepsOutdated c st' := fun st' hst' =>
      (hiff st' hst').mpr (hharmless st' hst')
    refine ⟨hkept, fun hold d e r hr _ => ?_⟩
    have hstart : st.post.AwaitsEnd c :=
      htearsDown.awaitsEnd (hnext st (List.mem_append_right _ List.mem_cons_self))
    have hawaits : s.AwaitsEnd c := by
      apply hrun.invariant_since hstart
      intro st' hst' hpre hstep
      apply hpre.transits (hup st' hst').2 _ (transits_of_processEvent (next_of_machine hstep))
      intro e' c' hevt hc'
      exact hkept st' hst' e' c' hevt hc' (hold st' hst' e' c' hevt hc')
    exact hawaits.endsAuctioning hr

end NfSession

/-! ### A REFRESH that comes late -/

namespace DelayedRefresh

open Sample Mismatch

/-- The forwarder in AUCTIONING. -/
def up : NfSession RawIpap :=
  { installing with stateTimer := 1, state := .auctioning }

/-- The REFRESH with which the initiator ends the session, after another one. -/
def teardown : KindMsg .refresh RawIpap :=
  ({ RepeatedResponse.up with
    msn := RepeatedResponse.up.msn + 1
    lifetime := 0 } : NiSession RawIpap).buildRefreshMessage (NiSession.requestedMri request)

/-- The forwarder after it. -/
def tornDown : NfSession RawIpap :=
  { up with lifetime := 0, refreshMessage := some teardown, responseTimer := 1 }

/-- The step of the forwarder. -/
def tearsDown : NfSession.RunStep RawIpap :=
  ⟨up, (surroundings, .msg ⟨teardown.ntlpMsg, true⟩),
    up.processEvent conf surroundings (.msg ⟨teardown.ntlpMsg, true⟩), tornDown⟩

/-- The REFRESH before it, which comes late. -/
def late : NfSession.RunStep RawIpap :=
  ⟨tornDown, (surroundings, .msg ⟨Installed.refresh.ntlpMsg, true⟩),
    tornDown.processEvent conf surroundings (.msg ⟨Installed.refresh.ntlpMsg, true⟩),
    { tornDown with
      lifetime := 30
      msn := Installed.refresh.body.getMsgSequenceNumber
      refreshMessage := some Installed.refresh }⟩

theorem runs_tornDown : ∃ trace, NfSession.Runs conf 1 (trace ++ [tearsDown]) tornDown := by
  rcases runs_installing with ⟨trace, hinstalling, _⟩
  have hup := run_snoc_of_next (d := surroundings) hinstalling
    (rfl : (NfSession.processEvent conf _ _ (.apiInstall OrderedMap.empty)).next? = some up)
  exact ⟨_, run_snoc_of_next hup (rfl : tearsDown.output.next? = some tornDown)⟩

theorem tearsDown_teardown : NfSession.TearsDown teardown tearsDown :=
  ⟨rfl, ⟨teardown.ntlpMsg, true⟩, rfl, rfl, rfl, rfl⟩

/-- The REFRESH that comes late gives the session its lifetime back. -/
theorem not_alwaysFinal : ¬ NfSession.AlwaysFinal RawIpap conf := by
  intro h
  rcases runs_tornDown with ⟨trace, hrun⟩
  have hlate : NfSession.Runs conf 1 (trace ++ [tearsDown] ++ [late]) late.post :=
    run_snoc_of_next hrun rfl
  have hfinal := h 1 _ _ hlate trace tearsDown [late] teardown (by simp) tearsDown_teardown
    (by
      intro st hst
      rw [List.mem_singleton.mp hst]
      exact ⟨rfl, rfl⟩)
  have hkept := (hfinal.kept late List.mem_cons_self) _ Installed.refresh rfl rfl (by decide)
  cases hkept.lifetime

/-- The REFRESH without a lifetime comes a second time. -/
def again : NfSession.RunStep RawIpap :=
  ⟨tornDown, (surroundings, .msg ⟨teardown.ntlpMsg, true⟩),
    tornDown.processEvent conf surroundings (.msg ⟨teardown.ntlpMsg, true⟩), tornDown⟩

/-- When only this happens the end is final. -/
theorem final_again : ∃ trace, NfSession.Runs conf 1 (trace ++ [tearsDown] ++ [again]) tornDown ∧
    NfSession.Final conf teardown [again] tornDown := by
  rcases runs_tornDown with ⟨trace, hrun⟩
  have hagain : NfSession.Runs conf 1 (trace ++ [tearsDown] ++ [again]) tornDown :=
    run_snoc_of_next hrun rfl
  refine ⟨trace, hagain, (NfSession.final_iff_of_run conf 1 _ tornDown hagain trace tearsDown
    [again] teardown (by simp) tearsDown_teardown ?_).mpr ?_⟩
  · intro st hst
    rw [List.mem_singleton.mp hst]
    exact ⟨rfl, rfl⟩
  · intro st hst
    rw [List.mem_singleton.mp hst]
    rintro _ _ lifetime ⟨⟩ ⟨⟩ _ hcheck _
    exact ⟨Except.ok.inj hcheck.symm, rfl, rfl⟩

end DelayedRefresh
end Anslp
