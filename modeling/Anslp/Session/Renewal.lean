import Anslp.Session.Reporting
import Anslp.Session.ResponseTimer

/-!
# REFRESHes of a responder

REFRESHes reach a responder in any order, some of them late and some more than once.  It
accepts one only if its sequence number is newer than that of the CREATE or REFRESH it
accepted last, and does nothing but answer for the others.

Main results:

- Theorem {lit}`NrSession.tracks_of_run`: the number of the session is the one accepted last.
- Theorem {lit}`NrSession.renewal_of_run`: which REFRESHes are accepted, and what the others
  leave.

Current gaps:

- None for a responder in AUCTIONING.
-/

namespace Anslp

namespace NrSession

open Session

variable {α : Type} {conf : AnslpConfig} {d : Dispatcher α} {s s' : NrSession α}
  {e : MsgEvent α} {c : KindMsg .refresh α} {evt : Event α} {effects : List (Effect α)}

/-- The steps of a responder. -/
abbrev RunStep (α : Type) :=
  Transition.Step (NrSession α) (Dispatcher α × Event α) (Outcome (NrSession α) α)

/-- A call accepts its request: it reports success. -/
def Accepts (o : Outcome (NrSession α) α) : Prop :=
  ∃ m ∈ o.sent, m.reportsSuccess = true

instance (o : Outcome (NrSession α) α) : Decidable (Accepts o) :=
  inferInstanceAs (Decidable (∃ m ∈ o.sent, m.reportsSuccess = true))

/-- The sequence number of the request that a step accepts: a CREATE that opens the session,
or a REFRESH that is answered with success. -/
def acceptedNumber? (st : RunStep α) : Option UInt32 :=
  match st.input.2 with
  | .msg e =>
      if st.pre.state = .close then
        if st.post.state = .close then none
        else (e.ofKind? .create).map fun c => c.body.getMsgSequenceNumber
      else if Accepts st.output then
        (e.ofKind? .refresh).map fun c => c.body.getMsgSequenceNumber
      else none
  | _ => none

/-- The number of the request accepted last. -/
def lastAccepted (trace : List (RunStep α)) : Option UInt32 :=
  (trace.filterMap acceptedNumber?).getLast?

theorem lastAccepted_snoc_of_none {trace : List (RunStep α)} {st : RunStep α}
    (h : acceptedNumber? st = none) : lastAccepted (trace ++ [st]) = lastAccepted trace := by
  rw [lastAccepted, List.filterMap_append, List.filterMap_cons_none h, List.filterMap_nil,
    List.append_nil, lastAccepted]

theorem lastAccepted_snoc_of_some {trace : List (RunStep α)} {st : RunStep α} {n : UInt32}
    (h : acceptedNumber? st = some n) : lastAccepted (trace ++ [st]) = some n := by
  rw [lastAccepted, List.filterMap_append, List.filterMap_cons_some h, List.getLast?_append]
  rfl

/-! ## The number of the session -/

/-- Until its rule is removed an open session has the number of the request it accepted
last. -/
def Tracks (trace : List (RunStep α)) (s : NrSession α) : Prop :=
  s.state ≠ .close → s.state ≠ .pendingTeardown → lastAccepted trace = some s.msn

/-- A step without a report of success accepts no request if it leaves a closed session
closed. -/
theorem acceptedNumber?_eq_none {st : RunStep α}
    (hclose : st.pre.state = .close → st.post.state = .close)
    (hsilent : ∀ m ∈ st.output.sent, m.reportsSuccess = false) : acceptedNumber? st = none := by
  have hnot : ¬ Accepts st.output := by
    rintro ⟨m, hm, hsuccess⟩
    rw [hsilent m hm] at hsuccess
    cases hsuccess
  unfold acceptedNumber?
  split
  · by_cases hpre : st.pre.state = .close
    · rw [if_pos hpre, if_pos (hclose hpre)]
    · rw [if_neg hpre, if_neg hnot]
  · rfl

/-- A transition to a state that listens to REFRESHes, or will do so, gives the session the
number of the request it accepts, or accepts none and keeps the number. -/
theorem Transits.accepts_or_keeps (ht : Transits conf d s evt s' effects)
    (hopen : s'.state ≠ .close) (hkept : s'.state ≠ .pendingTeardown) :
    acceptedNumber? ⟨s, (d, evt), .next s' effects, s'⟩ = some s'.msn ∨
      acceptedNumber? ⟨s, (d, evt), .next s' effects, s'⟩ = none ∧ s'.msn = s.msn ∧
        s.state ≠ .close ∧ s.state ≠ .pendingTeardown := by
  have hsilent : (∀ m ∈ effects.filterMap Effect.sent?, m.reportsSuccess = false) →
      s'.state = s.state →
        acceptedNumber? ⟨s, (d, evt), .next s' effects, s'⟩ = none ∧
          s.state ≠ .close ∧ s.state ≠ .pendingTeardown := by
    intro hsent hstate
    exact ⟨acceptedNumber?_eq_none (fun hclose => hstate.trans hclose) hsent,
      hstate ▸ hopen, hstate ▸ hkept⟩
  cases ht with
  | createRejected hstate | createWithoutLifetime hstate => exact absurd hstate hopen
  | removalRetried hstate => exact absurd hstate hkept
  | startFailed | givenUp | closed | removalGivenUp | removed => exact absurd rfl hopen
  | installFailed | removing => exact absurd rfl hkept
  | started hstate hc | startedIdle hstate hc =>
      exact Or.inl (by simp [acceptedNumber?, hstate, hc, accepted])
  | @refreshed e c lifetime hstate hc =>
      have haccepts : ∃ m ∈ [c.ntlpMsg.createSuccessResponse lifetime],
          m.reportsSuccess = true :=
        ⟨_, List.mem_singleton.mpr rfl, c.ntlpMsg.isSuccessResponse_successBody lifetime⟩
      refine Or.inl ?_
      simp only [acceptedNumber?, hstate, hc, reduceCtorEq, if_false, Option.map_some]
      exact if_pos haccepts
  | discarded | biddingPassed =>
      rcases hsilent (by simp) rfl with ⟨hnone, hpre⟩
      exact Or.inr ⟨hnone, rfl, hpre⟩
  | refreshRejected _ _ hcheck =>
      rcases checkRequest_eq_error_iff.mp hcheck with ⟨_, _, rfl⟩
      rcases hsilent (by simp) rfl with ⟨hnone, hpre⟩
      exact Or.inr ⟨hnone, rfl, hpre⟩
  | checkRetried hstate =>
      rcases hsilent (by simp [sent_effects]) rfl with ⟨hnone, hpre⟩
      exact Or.inr ⟨hnone, rfl, hpre⟩
  | installRetried | biddingSent =>
      -- the event is no message
      exact Or.inr ⟨rfl, rfl, hopen, hkept⟩
  | checked hstate | installed hstate =>
      refine Or.inr ⟨rfl, rfl, ?_⟩
      rw [hstate]
      exact ⟨fun h => (by cases h), fun h => by cases h⟩

/-- In every run the number of the session is the one accepted last. -/
theorem tracks_of_run {id : SessionId} {random : UInt32} {trace : List (RunStep α)}
    (hrun : Runs conf id random trace s) : Tracks trace s := by
  induction hrun with
  | nil => exact fun hopen => absurd rfl hopen
  | @snoc t u tr input o _ hstep ih =>
      have hnext := next_of_machine hstep
      have ho : o = .next u o.effects := (Prod.mk.inj hstep).1.symm.trans hnext
      intro hopen hkept
      have ht := (transits_of_processEvent hnext).accepts_or_keeps hopen hkept
      rw [← ho] at ht
      rcases ht with hsome | ⟨hnone, hmsn, hpre, hup⟩
      · exact lastAccepted_snoc_of_some hsome
      · rw [lastAccepted_snoc_of_none hnone, hmsn]
        exact ih hpre hup

/-! ## REFRESHes -/

/-- A REFRESH is discarded unless the session is up. -/
theorem processEvent_refresh_of_ne (hc : e.ofKind? .refresh = some c)
    (hstate : s.state ≠ .auctioning) : s.processEvent conf d (.msg e) = .next s [] := by
  have hcreate : e.ofKind? .create = none := MsgEvent.ofKind?_eq_none_of_ne hc nofun
  unfold processEvent
  split
  · simp only [handleStateClose, hcreate]
  · rfl
  · rfl
  · exact absurd ‹_› hstate
  · rfl

/-- A responder that is up accepts only REFRESHes that are newer. -/
theorem isGreaterThan_of_accepts_processRefresh
    (h : Accepts (s.processRefresh conf d e c)) :
    isGreaterThan c.body.getMsgSequenceNumber s.msn = true := by
  unfold processRefresh at h
  split at h
  · rename_i exp hcheck
    rcases checkRequest_eq_error_iff.mp hcheck with ⟨_, _, rfl⟩
    rcases h with ⟨m, hm, hsuccess⟩
    cases List.mem_singleton.mp hm
    rw [NtlpMsg.reportsSuccess_authorizationError] at hsuccess
    cases hsuccess
  · split_ifs at h with hmsn
    · rcases h with ⟨m, hm, _⟩
      cases hm
    all_goals simpa using hmsn

/-- A REFRESH that is not newer is at most answered. -/
theorem processRefresh_of_not_isGreaterThan
    (h : isGreaterThan c.body.getMsgSequenceNumber s.msn = false) :
    ∃ answers : List (NtlpMsg α),
      s.processRefresh conf d e c = .next s (answers.map Effect.sendMessage) := by
  unfold processRefresh
  split
  · rename_i exp _
    exact ⟨[c.ntlpMsg.createErrorResponse exp], rfl⟩
  · rw [h, Bool.not_false, if_pos rfl]
    exact ⟨[], rfl⟩

/-- In every run a REFRESH is accepted only if it is newer than the CREATE or REFRESH
accepted last; one that is not leaves the session as it is and has no effect but answers. -/
theorem renewal_of_run (conf : AnslpConfig) (id : SessionId) (random : UInt32)
    (trace : List (RunStep α)) (s : NrSession α) (hrun : Runs conf id random trace s)
    (d : Dispatcher α) (e : MsgEvent α) (c : KindMsg .refresh α)
    (hc : e.ofKind? .refresh = some c) :
    (Accepts (s.processEvent conf d (.msg e)) →
      ∃ n, lastAccepted trace = some n ∧
        isGreaterThan c.body.getMsgSequenceNumber n = true) ∧
    ((∀ n, lastAccepted trace = some n →
        isGreaterThan c.body.getMsgSequenceNumber n = false) →
      ∃ answers : List (NtlpMsg α),
        s.processEvent conf d (.msg e) = .next s (answers.map Effect.sendMessage)) := by
  by_cases hstate : s.state = .auctioning
  · have hlast : lastAccepted trace = some s.msn :=
      tracks_of_run hrun (by rw [hstate]; exact nofun) (by rw [hstate]; exact nofun)
    have hprocess : s.processEvent conf d (.msg e) = s.processRefresh conf d e c := by
      simp only [processEvent, hstate, handleStateAuctioning, hc]
    rw [hprocess]
    constructor
    · intro haccepts
      exact ⟨s.msn, hlast, isGreaterThan_of_accepts_processRefresh haccepts⟩
    · intro hold
      exact processRefresh_of_not_isGreaterThan (hold s.msn hlast)
  · rw [processEvent_refresh_of_ne hc hstate]
    constructor
    · rintro ⟨m, hm, _⟩
      cases hm
    · intro _
      exact ⟨[], rfl⟩

end NrSession

/-! ### A REFRESH that is newer -/

namespace NewerRefresh

open Sample

/-- The sample CREATE opens the session of a responder. -/
def opening : NrSession.RunStep RawIpap :=
  ⟨.new conf 1 0, (surroundings, .msg arrival),
    NrSession.processEvent conf surroundings (.new conf 1 0) (.msg arrival), IdleResponder.up⟩

theorem runs_up : NrSession.Runs conf 1 0 [opening] IdleResponder.up :=
  run_snoc_of_next (d := surroundings) (.nil (s := NrSession.new conf 1 0)) rfl

/-- The next REFRESH of the initiator is accepted, and newer than the CREATE. -/
theorem isGreaterThan_refresh : ∃ n, NrSession.lastAccepted [opening] = some n ∧
    isGreaterThan Installed.refresh.body.getMsgSequenceNumber n = true := by
  refine (NrSession.renewal_of_run conf 1 0 [opening] IdleResponder.up runs_up surroundings
    ⟨Installed.refresh.ntlpMsg, true⟩ Installed.refresh rfl).1 ?_
  exact ⟨_, List.mem_singleton.mpr rfl, Installed.refresh.ntlpMsg.isSuccessResponse_successBody 30⟩

end NewerRefresh
end Anslp
