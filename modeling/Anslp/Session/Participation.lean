import Anslp.Session.Sequence

/-!
# Forwarders that do not take part

What a forwarder hands to the installer when it takes part in no auction.  The objects of a
CREATE become the requests of the rule whether the session takes part or not, and a RESPONSE
of success has the rule installed without asking again.

Main results:

- Theorem {lit}`NfSession.spares_iff_of_run`: the runs of such a forwarder in which nothing is
  handed to the installer.

Current gaps:

- None for forwarders.
-/

namespace Anslp

/-- No call for an installation has objects to install. -/
def Outcome.Spares {σ α : Type} (o : Outcome σ α) : Prop :=
  ∀ rule, .installAuctionRules rule ∈ o.effects → rule.getNumberMspecRequestObjects = 0

open Session

namespace NfSession

variable {α : Type} {conf : AnslpConfig} {d : Dispatcher α} {s s' : NfSession α}
  {evt : Event α} {effects : List (Effect α)}

/-- A CREATE is not for the session: the selection leaves forwarders out, or the node
installs no rules. -/
def Excluded (conf : AnslpConfig) (evt : Event α) : Prop :=
  ∀ e c, evt = .msg e → e.ofKind? .create = some c →
    (checkParticipating .forwarder c.body.getSelectionAuctioningEntities &&
      conf.installAuctionRules) = false

/-- While a CREATE is pending nothing is checked, and the rule requests the objects of the
CREATE. -/
structure Idle (s : NfSession α) : Prop where
  notChecking : s.state ≠ .pendingCheck
  requests : s.IsPending → ∀ c, s.createMessage = some c →
    (s.rule.getNumberMspecRequestObjects = 0 ↔ c.body.mspecObjects = [])

theorem idle_new (id : SessionId) : (new id : NfSession α).Idle where
  notChecking := nofun
  requests := fun hpending => absurd rfl hpending.ne_close

theorem idle_of_not_isPending (h : ¬ s.IsPending) : s.Idle where
  notChecking := fun hs => h (Or.inl hs)
  requests := fun hpending => absurd hpending h

/-- An excluded CREATE sets the session up without a check. -/
theorem SetUp.idle {e : MsgEvent α} {c : KindMsg .create α} (h : SetUp conf d s c s' effects)
    (hc : e.ofKind? .create = some c) (hexcluded : Excluded conf (.msg e)) : s'.Idle := by
  cases h with
  | notPathcoupled | refused => exact idle_of_not_isPending (not_isPending_of_close rfl)
  | checking _ hchecked =>
      rw [checkRule, hexcluded e c rfl hc] at hchecked
      cases hchecked
  | passed =>
      refine ⟨nofun, ?_⟩
      rintro _ c' ⟨⟩
      exact ObjectList.size_setFresh_eq_zero_iff _ _

/-- The forwarder stays idle while the CREATEs are not for it. -/
theorem Idle.transits (h : s.Idle) (hexcluded : Excluded conf evt)
    (ht : Transits conf d s evt s' effects) : s'.Idle := by
  cases ht with
  | created _ hc _ _ hsetUp | replaced _ hc hsetUp => exact hsetUp.idle hc hexcluded
  | checked hstate => exact absurd hstate h.notChecking
  | responded hstate => exact ⟨nofun, fun _ => h.requests (Or.inr (Or.inl hstate))⟩
  | repeated hstate => exact ⟨h.notChecking, h.requests⟩
  | discarded | pendingRejected => exact h
  | createRejected hstate | createWithoutLifetime hstate =>
      exact idle_of_not_isPending (not_isPending_of_close hstate)
  | abandoned | givenUp | refused | installFailed | closed | removalTimedOut | removed =>
      exact idle_of_not_isPending (not_isPending_of_close rfl)
  | installed => exact idle_of_not_isPending (not_isPending_of_up (Or.inl rfl))
  | refreshRejected hstate | refreshed hstate | responsePassed hstate =>
      exact idle_of_not_isPending (not_isPending_of_up (Or.inl hstate))
  | removing => exact idle_of_not_isPending (not_isPending_of_up (Or.inr rfl))
  | biddingTaken hstate | biddingPassed hstate =>
      exact idle_of_not_isPending (not_isPending_of_up hstate)

/-- Success is reported from downstream for a pending CREATE that has objects. -/
def HandsOver (s : NfSession α) (evt : Event α) : Prop :=
  s.state = .pending ∧ ∃ e c r, evt = .msg e ∧ s.createMessage = some c ∧
    e.anslpResponse? c = some r ∧ r.body.isSuccess = true ∧ c.body.mspecObjects ≠ []

/-- Only a RESPONSE of success has the rule of the session installed. -/
theorem of_installAuctionRules_mem {rule : AuctionRule α}
    (h : .installAuctionRules rule ∈ (s.processEvent conf d evt).effects) :
    rule = s.rule ∧ s.state = .pending ∧ ∃ e c r, evt = .msg e ∧ s.createMessage = some c ∧
      e.anslpResponse? c = some r ∧ r.body.isSuccess = true := by
  have hended := ended_processEvent conf d s evt
  generalize s.processEvent conf d evt = o at h hended
  cases hended with
  | next ht =>
      simp only [Outcome.effects] at h
      cases ht with
      | responded hstate hc hr hsuccess =>
          simp only [List.mem_cons, reduceCtorEq, Effect.installAuctionRules.injEq,
            List.not_mem_nil, or_false, false_or] at h
          exact ⟨h, hstate, _, _, _, rfl, hc, hr, hsuccess⟩
      | created _ _ _ _ hsetUp | replaced _ _ hsetUp => cases hsetUp <;> simp at h
      | repeated _ _ hpassedOn =>
          subst hpassedOn
          split_ifs at h <;> simp at h
      | installFailed _ _ _ _ hremoval =>
          subst hremoval
          split_ifs at h <;> simp at h
      | removing _ hends | closed _ hends => cases hends <;> simp at h
      | _ => simp at h
  | thrown ht =>
      simp only [Outcome.effects] at h
      cases ht with
      | installing hstate hc hr hsuccess =>
          simp only [List.mem_cons, reduceCtorEq, Effect.installAuctionRules.injEq,
            List.not_mem_nil, or_false, false_or] at h
          exact ⟨h, hstate, _, _, _, rfl, hc, hr, hsuccess⟩
      | installFailed _ _ hremoval =>
          subst hremoval
          split_ifs at h <;> simp at h
      | removing _ hends => cases hends <;> simp at h
      | bidding => simp at h
  | undefined => cases h

/-- A RESPONSE of success to the pending CREATE has the rule of the session installed. -/
theorem installAuctionRules_mem {e : MsgEvent α} {c : KindMsg .create α}
    {r : KindMsg .response α} (hstate : s.state = .pending) (hc : s.createMessage = some c)
    (hr : e.anslpResponse? c = some r) (hsuccess : r.body.isSuccess = true) :
    .installAuctionRules s.rule ∈ (s.processEvent conf d (.msg e)).effects := by
  have hnone : e.ofKind? .create = none :=
    MsgEvent.ofKind?_eq_none_of_ne (MsgEvent.of_anslpResponse? hr).1 nofun
  simp only [processEvent, hstate, handleStatePending, hnone, hc, hr, processResponse,
    if_pos hsuccess]
  split <;> simp [Outcome.effects]

/-- An idle forwarder hands nothing to the installer exactly when the call is not for the
RESPONSE of success to a CREATE with objects. -/
theorem Idle.spares_iff (h : s.Idle) (conf : AnslpConfig) (d : Dispatcher α) (evt : Event α) :
    (s.processEvent conf d evt).Spares ↔ ¬ s.HandsOver evt := by
  constructor
  · rintro hspares ⟨hstate, e, c, r, rfl, hc, hr, hsuccess, hobjects⟩
    have hzero := hspares s.rule (installAuctionRules_mem hstate hc hr hsuccess)
    exact hobjects ((h.requests (Or.inr (Or.inl hstate)) c hc).mp hzero)
  · intro hnot rule hrule
    obtain ⟨rfl, hstate, e, c, r, rfl, hc, hr, hsuccess⟩ := of_installAuctionRules_mem hrule
    refine (h.requests (Or.inr (Or.inl hstate)) c hc).mpr ?_
    by_contra hobjects
    exact hnot ⟨hstate, e, c, r, rfl, hc, hr, hsuccess, hobjects⟩

variable {id : SessionId}
  {trace : List (Transition.Step (NfSession α) (Dispatcher α × Event α)
    (Outcome (NfSession α) α))}

theorem idle_of_run (hrun : Runs conf id trace s)
    (hexcluded : ∀ st ∈ trace, Excluded conf st.input.2) : s.Idle := by
  refine hrun.invariant_of_guarded (I := Idle) (G := fun _ input => Excluded conf input.2) ?_
    (idle_new id) hexcluded
  intro t input o u ht hguard hstep
  exact ht.transits hguard (transits_of_processEvent (next_of_machine hstep))

/-- In every run of a forwarder whose CREATEs are all not for it, no call hands objects to
the installer. -/
def AlwaysSpares (α : Type) (conf : AnslpConfig) : Prop :=
  ∀ id trace (s : NfSession α), Runs conf id trace s →
    (∀ st ∈ trace, Excluded conf st.input.2) →
      ∀ d evt, Excluded conf evt → (s.processEvent conf d evt).Spares

/-- In a run of a forwarder whose CREATEs are all not for it nothing is handed to the
installer exactly when no call is for the RESPONSE of success to a CREATE with objects; the
same holds for the call after the run, whether it returns or not. -/
theorem spares_iff_of_run (conf : AnslpConfig) :
    ∀ id trace (s : NfSession α), Runs conf id trace s →
      (∀ st ∈ trace, Excluded conf st.input.2) →
        ((∀ st ∈ trace, st.output.Spares) ↔ ∀ st ∈ trace, ¬ st.pre.HandsOver st.input.2) ∧
        ∀ d evt, Excluded conf evt →
          ((s.processEvent conf d evt).Spares ↔ ¬ s.HandsOver evt) := by
  intro id trace s hrun hexcluded
  refine ⟨forall₂_congr fun st hst => ?_, fun d evt _ =>
    (idle_of_run hrun hexcluded).spares_iff conf d evt⟩
  obtain ⟨tr₁, tr₂, rfl, hpre, hstep⟩ := hrun.pre_of_mem hst
  have hidle : st.pre.Idle :=
    idle_of_run hpre fun st' hst' => hexcluded st' (List.mem_append_left _ hst')
  rw [← (Prod.mk.inj hstep).1]
  exact hidle.spares_iff conf st.input.1 st.input.2

end NfSession

/-! ### A CREATE with an object -/

namespace Bystander

open Sample

/-- A CREATE for an object. -/
def create : KindMsg .create RawIpap :=
  (((NiSession.new conf 1 0).setUp surroundings
    { request with mspecObjects := OrderedMap.empty.insert 0 object }).buildCreateMessage
    (NiSession.requestedMri request)
    { request with mspecObjects := OrderedMap.empty.insert 0 object })

/-- The forwarder, which installs no rules, after it. -/
def waiting : NfSession RawIpap :=
  { (((NfSession.new 1).configured conf).numbered create 30).accepted surroundings create
      flow with
    stateTimer := 1
    state := .pending }

theorem excluded_conf (evt : Event RawIpap) : NfSession.Excluded conf evt :=
  fun _ _ _ _ => Bool.and_false _

theorem runs_waiting : ∃ trace, NfSession.Runs conf 1 trace waiting ∧
    ∀ st ∈ trace, NfSession.Excluded conf st.input.2 :=
  ⟨_, run_snoc_of_next (d := surroundings) (.nil (s := NfSession.new 1))
    (rfl : (NfSession.processEvent conf _ _ (.msg ⟨create.ntlpMsg, true⟩)).next? = some waiting),
    fun _ _ => excluded_conf _⟩

/-- The RESPONSE of success to the CREATE has its object installed. -/
theorem not_alwaysSpares : ¬ NfSession.AlwaysSpares RawIpap conf := by
  intro h
  obtain ⟨trace, hrun, hexcluded⟩ := runs_waiting
  let response : MsgEvent RawIpap := ⟨create.ntlpMsg.createSuccessResponse 30, true⟩
  have hspares := h 1 trace waiting hrun hexcluded surroundings (.msg response)
    (excluded_conf _)
  exact ((NfSession.idle_of_run hrun hexcluded).spares_iff conf surroundings
    (.msg response)).mp hspares ⟨rfl, response, create, _, rfl, rfl, rfl, by decide, by decide⟩

/-- Giving up hands nothing to the installer. -/
theorem spares_waiting : ∃ trace, NfSession.Runs conf 1 trace waiting ∧
    (waiting.processEvent conf surroundings (.timer 1)).Spares := by
  obtain ⟨trace, hrun, hexcluded⟩ := runs_waiting
  refine ⟨trace, hrun, ((NfSession.spares_iff_of_run conf 1 trace waiting hrun hexcluded).2
    surroundings (.timer 1) (excluded_conf _)).mpr ?_⟩
  rintro ⟨_, _, _, _, hevt, _⟩
  cases hevt

end Bystander
end Anslp
