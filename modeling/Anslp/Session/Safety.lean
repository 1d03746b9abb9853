import Anslp.Session.NF
import Anslp.Session.NI
import Anslp.Session.NR

/-!
# Calls without a result

When a call of {lit}`process_event` in a reachable session is undefined: an assertion
fails, a message that is not stored is used, or a handler ends without a state.  What a
state relies on is stored in every reachable session, so that the events alone decide.

Main results:

- Theorems {lit}`NiSession.stored_of_run`, {lit}`NfSession.stored_of_run` and
  {lit}`NrSession.stored_of_run`: what is stored in every reachable session.
- Theorems {lit}`NiSession.isDefined_iff_of_stored`, {lit}`NfSession.isDefined_iff_of_stored` and
  {lit}`NrSession.isDefined_iff_of_stored`: the calls in such sessions that end in a defined state.

Current gaps:

- None for the handlers; what becomes of the messages sent is the subject of
  {lit}`Node.Handover`.
-/

namespace Anslp

/-- A call ends in a defined state: the next one, or the state before it if it threw. -/
def Outcome.IsDefined {σ α τ : Type} (state : σ → τ) (s : σ) : Outcome σ α → Prop
  | next _ _ => True
  | thrown _ s' _ => state s' = state s
  | undefined _ => False

/-- If the bad inputs are those that make a call undefined, the others are those for which it
ends in a defined state. -/
theorem Outcome.isDefined_iff_not {σ α τ : Type} {state : σ → τ} {s : σ} {o : Outcome σ α}
    {bad : Prop} (hbad : bad → ∃ f, o = .undefined f) (hgood : ¬ bad → o.IsDefined state s) :
    o.IsDefined state s ↔ ¬ bad := by
  constructor
  · intro hdef h
    rcases hbad h with ⟨f, rfl⟩
    exact hdef
  · exact hgood

/-! ## Initiator -/

namespace NiSession

variable {α : Type} {d : Dispatcher α} {s s' : NiSession α} {evt : Event α}
  {effects : List (Effect α)}

/-- A closed session relies on nothing. -/
theorem stored_of_close (h : s.state = .close) : s.Stored where
  routing := fun hopen => absurd h hopen
  create := fun hstate => absurd (h.symm.trans hstate) nofun
  installRule := fun hstate => absurd (h.symm.trans hstate) nofun
  rule := fun hstate => by rcases hstate with hs | hs <;> cases h.symm.trans hs

/-- What a state relies on is a matter of five fields. -/
theorem Stored.congr (h : s.Stored) (hstate : s'.state = s.state)
    (hrouting : s'.routingInfo = s.routingInfo) (hcreate : s'.lastCreateMsg = s.lastCreateMsg)
    (hinstall : s'.lastAuctionInstallRule = s.lastAuctionInstallRule)
    (hrule : s'.rule = s.rule) : s'.Stored where
  routing := by rw [hstate, hrouting]; exact h.routing
  create := by rw [hstate, hcreate]; exact h.create
  installRule := by rw [hstate, hinstall]; exact h.installRule
  rule := by rw [hstate, hrule]; exact h.rule

/-- Every transition leaves what its target relies on. -/
theorem Stored.transits (h : s.Stored) (ht : Transits d s evt s' effects) : s'.Stored := by
  cases ht with
  | discarded => exact h
  | created =>
      refine ⟨fun _ => rfl, fun _ => rfl, nofun, fun hs => ?_⟩
      rcases hs with hs | hs <;> cases hs
  | createdUntold hstate => exact stored_of_close hstate
  | createRetried | refreshRetried | refreshed | biddingSent | removalRetried =>
      exact h.congr rfl rfl rfl rfl rfl
  | refreshSent | tearingDown => exact h.congr rfl rfl rfl rfl rfl
  | biddingTaken => exact h
  | failed | tornDown | uninstalled | closed | removed => exact stored_of_close rfl
  | responded hstate =>
      refine ⟨fun _ => h.routing ?_, nofun, fun _ => rfl, ?_⟩
      · rw [hstate]
        exact nofun
      · rintro (hs | hs) <;> cases hs
  | responseRetried => exact h.congr rfl rfl rfl rfl rfl
  | installed hstate =>
      refine ⟨fun _ => h.routing ?_, nofun, nofun, fun _ => rfl⟩
      rw [hstate]
      exact nofun
  | removing hstate hends =>
      have hrouting : s.routingInfo.isSome = true := h.routing (by rw [hstate]; exact nofun)
      have hrule : s.rule.isSome = true := h.rule (Or.inl hstate)
      refine ⟨fun _ => ?_, nofun, nofun, fun _ => ?_⟩
      · cases hends <;> exact hrouting
      · cases hends <;> exact hrule

/-- The runs of an initiator from its start. -/
abbrev Runs (conf : AnslpConfig) (id : SessionId) (random : UInt32)
    (trace : List (Transition.Step (NiSession α) (Dispatcher α × Event α)
      (Outcome (NiSession α) α))) (s : NiSession α) : Prop :=
  Transition.Run (machine processEvent) (new conf id random) trace s

theorem stored_of_run {conf : AnslpConfig} {id : SessionId} {random : UInt32}
    {trace : List (Transition.Step (NiSession α) (Dispatcher α × Event α)
      (Outcome (NiSession α) α))} (hrun : Runs conf id random trace s) : s.Stored :=
  hrun.invariant
    (fun _ _ _ _ hs hstep => hs.transits (transits_of_processEvent (next_of_machine hstep)))
    (stored_of_close rfl)

theorem undefined_of_unsafe (h : s.Unsafe d evt) : ∃ f, s.processEvent d evt = .undefined f := by
  cases h with
  | create hstate hunfit =>
      obtain ⟨f, hf⟩ := setupSession_of_unfit hunfit
      refine ⟨f, ?_⟩
      simp only [processEvent, hstate, handleStateClose, hf]
  | response hstate hc hr hsuccess hread =>
      refine ⟨.nullPointer, ?_⟩
      simp [processEvent, hstate, handleStatePending, hc, hr, processResponse, hsuccess,
        AnslpMsg.getMspecObjects_eq, hread]
  | timer hstate hrefresh hid hcount hnone =>
      refine ⟨.assertion, ?_⟩
      simp only [processEvent, hstate, handleStateAuctioning, if_neg hrefresh, if_pos hid,
        retryRefresh, if_pos hcount, hnone]
  | noRefresh hstate hevt hnone =>
      refine ⟨.assertion, ?_⟩
      cases evt with
      | msg e =>
          have he : e.ofKind? .bidding = none := hevt
          simp only [processEvent, hstate, handleStateAuctioning, he, hnone]
      | apiInstall | timer | apiTeardown | apiBidding => exact hevt.elim
      | _ => simp only [processEvent, hstate, handleStateAuctioning, hnone, Option.isNone_none,
          if_true]
  | bidding hstate hb hread =>
      refine ⟨.nullPointer, ?_⟩
      rcases hstate with hstate | hstate
      · simp [processEvent, hstate, handleStateAuctioning, hb, processBidding,
          AnslpMsg.getMspecObjects_eq, hread]
      · simp [processEvent, hstate, handleStatePendingTeardown, hb, processBidding,
          AnslpMsg.getMspecObjects_eq, hread]

/-- In a session where all is stored a call is defined exactly for the safe events. -/
theorem isDefined_iff_of_stored (hstored : s.Stored) :
    (s.processEvent d evt).IsDefined NiSession.state s ↔ ¬ s.Unsafe d evt := by
  refine Outcome.isDefined_iff_not undefined_of_unsafe fun hsafe => ?_
  have hended := ended_processEvent d s evt
  generalize s.processEvent d evt = o at hended ⊢
  cases hended with
  | next => trivial
  | thrown _ hstate => exact hstate
  | undefined h => exact h.elim (fun h => absurd hstored h) (fun h => absurd h hsafe)

end NiSession

/-! ## Forwarder -/

namespace NfSession

variable {α : Type} {conf : AnslpConfig} {d : Dispatcher α} {s s' : NfSession α}
  {evt : Event α} {effects : List (Effect α)}

/-- A session with no CREATE pending relies on nothing. -/
theorem stored_of_not_isPending (h : ¬ s.IsPending) : s.Stored where
  create := fun hpending => absurd hpending h
  nrMri := fun hpending => absurd hpending h
  response := fun hstate => absurd (Or.inr (Or.inr hstate)) h

theorem not_isPending_of_close (h : s.state = .close) : ¬ s.IsPending :=
  fun hpending => hpending.ne_close h

theorem not_isPending_of_up (h : s.state = .auctioning ∨ s.state = .pendingTeardown) :
    ¬ s.IsPending := by
  rintro (hp | hp | hp) <;> rcases h with h | h <;> cases h.symm.trans hp

/-- A session set up by a CREATE has stored it. -/
theorem SetUp.stored {c : KindMsg .create α} (h : SetUp conf d s c s' effects) : s'.Stored := by
  cases h with
  | notPathcoupled | refused => exact stored_of_not_isPending (not_isPending_of_close rfl)
  | checking hread => exact ⟨fun _ => ⟨c, rfl, hread⟩, fun _ => rfl, nofun⟩
  | passed hread => exact ⟨fun _ => ⟨c, rfl, hread⟩, fun _ => rfl, nofun⟩

/-- Every transition leaves what its target relies on. -/
theorem Stored.transits (h : s.Stored) (ht : Transits conf d s evt s' effects) :
    s'.Stored := by
  cases ht with
  | discarded | pendingRejected => exact h
  | createRejected hstate | createWithoutLifetime hstate =>
      exact stored_of_not_isPending (not_isPending_of_close hstate)
  | created _ _ _ _ hsetUp | replaced _ _ hsetUp => exact hsetUp.stored
  | repeated => exact ⟨h.create, h.nrMri, h.response⟩
  | checked hstate =>
      exact ⟨fun _ => h.create (Or.inl hstate), fun _ => h.nrMri (Or.inl hstate), nofun⟩
  | responded hstate =>
      exact ⟨fun _ => h.create (Or.inr (Or.inl hstate)),
        fun _ => h.nrMri (Or.inr (Or.inl hstate)), fun _ => rfl⟩
  | abandoned | givenUp | refused | installFailed | closed | removalTimedOut | removed =>
      exact stored_of_not_isPending (not_isPending_of_close rfl)
  | installed => exact stored_of_not_isPending (not_isPending_of_up (Or.inl rfl))
  | refreshRejected hstate | refreshed hstate | responsePassed hstate =>
      exact stored_of_not_isPending (not_isPending_of_up (Or.inl hstate))
  | removing => exact stored_of_not_isPending (not_isPending_of_up (Or.inr rfl))
  | biddingTaken hstate | biddingPassed hstate =>
      exact stored_of_not_isPending (not_isPending_of_up hstate)

/-- The runs of a forwarder from its start. -/
abbrev Runs (conf : AnslpConfig) (id : SessionId)
    (trace : List (Transition.Step (NfSession α) (Dispatcher α × Event α)
      (Outcome (NfSession α) α))) (s : NfSession α) : Prop :=
  Transition.Run (machine (processEvent conf)) (new id) trace s

theorem stored_of_run {id : SessionId}
    {trace : List (Transition.Step (NfSession α) (Dispatcher α × Event α)
      (Outcome (NfSession α) α))} (hrun : Runs conf id trace s) : s.Stored :=
  hrun.invariant
    (fun _ _ _ _ hs hstep => hs.transits (transits_of_processEvent (next_of_machine hstep)))
    (stored_of_not_isPending (not_isPending_of_close rfl))

/-- A CREATE that replaces the pending one sets the session up with its own lifetime. -/
theorem SetsUp.processEvent_of_isPending {e : MsgEvent α} {c : KindMsg .create α}
    (h : s.SetsUp conf d e c) (hpending : s.IsPending) :
    s.processEvent conf d (.msg e) =
      (s.numbered c c.body.getSessionLifetime).processStateClose conf d c := by
  cases h with
  | created hstate => exact absurd hstate hpending.ne_close
  | replaced _ hc hprevious hauthorized habandoned hmsn =>
      rw [NfSession.processEvent_of_isPending hpending hc]
      simp only [processPendingCreate, hprevious, hauthorized, Bool.not_true,
        Bool.false_eq_true, if_false, if_neg habandoned, if_neg hmsn]
      rfl

/-- A CREATE that sets the session up is processed in CLOSE and while another one is
pending in the same way. -/
theorem SetsUp.processEvent_eq {e : MsgEvent α} {c : KindMsg .create α}
    (h : s.SetsUp conf d e c) :
    ∃ s₁ : NfSession α, s₁.id = s.id ∧
      s.processEvent conf d (.msg e) = s₁.processStateClose conf d c := by
  cases h with
  | @created lifetime hstate hc hcheck hlifetime =>
      refine ⟨(s.configured conf).numbered c lifetime, rfl, ?_⟩
      simp only [processEvent, hstate, handleStateClose, hc, hcheck, if_neg hlifetime]
      rfl
  | replaced hstate hc hprevious hauthorized habandoned hmsn =>
      exact ⟨s.numbered c c.body.getSessionLifetime, rfl, (SetsUp.replaced hstate hc hprevious
        hauthorized habandoned hmsn).processEvent_of_isPending hstate⟩

theorem undefined_of_unsafe (hstored : s.Stored) (h : s.Unsafe conf d evt) :
    ∃ f, s.processEvent conf d evt = .undefined f := by
  cases h with
  | noCreate hstate hevt =>
      refine ⟨.noResult, ?_⟩
      cases evt with
      | msg e =>
          have hc : e.ofKind? .create = none := by
            cases hc : e.ofKind? .create with
            | none => rfl
            | some c => exact absurd hc (hevt e c rfl)
          simp only [processEvent, hstate, handleStateClose, hc]
      | _ => simp only [processEvent, hstate, handleStateClose]
  | upstream hsets hmri =>
      obtain ⟨s₁, _, hs₁⟩ := hsets.processEvent_eq
      refine ⟨.assertion, ?_⟩
      simp only [hs₁, processStateClose, hmri, Bool.not_false, if_true]
  | create hsets hmri hread =>
      obtain ⟨s₁, _, hs₁⟩ := hsets.processEvent_eq
      refine ⟨.nullPointer, ?_⟩
      simp [hs₁, processStateClose, hmri, AnslpMsg.getMspecObjects_eq, hread]
  | check hstate hodd =>
      refine ⟨.iterator, ?_⟩
      obtain ⟨c, hc, hread⟩ := hstored.create (Or.inl hstate)
      obtain ⟨nrMri, hmri⟩ := Option.isSome_iff_exists.mp (hstored.nrMri (Or.inl hstate))
      have herase := (ObjectList.eraseMissing_eq_none_iff _ _).mpr hodd
      simp [processEvent, hstate, handleStatePendingCheck, hc, hmri,
        AnslpMsg.getMspecObjects_eq, hread, herase]
  | noRefresh hstate hevt hnone =>
      refine ⟨.assertion, ?_⟩
      cases evt with
      | msg e =>
          obtain ⟨hrefresh, hbidding⟩ : e.ofKind? .refresh = none ∧ e.ofKind? .bidding = none :=
            hevt
          simp only [processEvent, hstate, handleStateAuctioning, hrefresh, hbidding, hnone]
      | noNextNodeFound | timer | routeChangedBad => exact hevt.elim
      | _ => simp only [processEvent, hstate, handleStateAuctioning, hnone, Option.isNone_none,
          if_true]
  | bidding hstate hrefresh hb hnode hread =>
      refine ⟨.nullPointer, ?_⟩
      rcases hstate with hstate | hstate
      · simp [processEvent, hstate, handleStateAuctioning, hrefresh, hb, processBidding, hnode,
          Session.interact, AnslpMsg.getMspecObjects_eq, hread]
      · simp [processEvent, hstate, handleStatePendingTeardown, hrefresh, hb, processBidding,
          hnode, Session.interact, AnslpMsg.getMspecObjects_eq, hread]

/-- In a session where all is stored a call is defined exactly for the safe events. -/
theorem isDefined_iff_of_stored (hstored : s.Stored) :
    (s.processEvent conf d evt).IsDefined NfSession.state s ↔ ¬ s.Unsafe conf d evt := by
  refine Outcome.isDefined_iff_not (fun h => undefined_of_unsafe hstored h) fun hsafe => ?_
  have hended := ended_processEvent conf d s evt
  generalize s.processEvent conf d evt = o at hended ⊢
  cases hended with
  | next => trivial
  | thrown hthrows => exact hthrows.state_eq
  | undefined h => exact h.elim (fun h => absurd hstored h) (fun h => absurd h hsafe)

end NfSession

/-! ## Responder -/

namespace NrSession

variable {α : Type} {conf : AnslpConfig} {d : Dispatcher α} {s s' : NrSession α}
  {evt : Event α} {effects : List (Effect α)}

/-- A closed session relies on nothing. -/
theorem stored_of_close (h : s.state = .close) : s.Stored where
  create := fun hstate => by rcases hstate with hs | hs <;> cases h.symm.trans hs
  routing := fun hopen => absurd h hopen

/-- A session that is up relies on its routing only. -/
theorem stored_of_up (h : s.state = .auctioning ∨ s.state = .pendingTeardown)
    (hrouting : s.routingInfo.isSome = true) : s.Stored where
  create := by rintro (hs | hs) <;> rcases h with h | h <;> cases h.symm.trans hs
  routing := fun _ => hrouting

/-- Every transition leaves what its target relies on. -/
theorem Stored.transits (h : s.Stored) (ht : Transits conf d s evt s' effects) :
    s'.Stored := by
  have hrouting : ∀ {x : NrState}, s.state = x → x ≠ .close → s.routingInfo.isSome = true :=
    fun hx hne => h.routing (hx.trans_ne hne)
  cases ht with
  | discarded | refreshRejected | biddingPassed => exact h
  | createRejected hstate | createWithoutLifetime hstate => exact stored_of_close hstate
  | started _ _ _ _ hread => exact ⟨fun _ => ⟨_, rfl, hread⟩, fun _ => rfl⟩
  | startedIdle => exact stored_of_up (Or.inl rfl) rfl
  | startFailed | givenUp | closed | removalGivenUp | removed => exact stored_of_close rfl
  | checkRetried | installRetried | refreshed | biddingSent | removalRetried =>
      exact ⟨h.create, h.routing⟩
  | checked hstate =>
      exact ⟨fun _ => h.create (Or.inl hstate), fun _ => hrouting hstate nofun⟩
  | installed hstate => exact stored_of_up (Or.inl rfl) (hrouting hstate nofun)
  | installFailed hstate => exact stored_of_up (Or.inr rfl) (hrouting hstate nofun)
  | removing hstate => exact stored_of_up (Or.inr rfl) (hrouting hstate nofun)

/-- The runs of a responder from its start. -/
abbrev Runs (conf : AnslpConfig) (id : SessionId) (random : UInt32)
    (trace : List (Transition.Step (NrSession α) (Dispatcher α × Event α)
      (Outcome (NrSession α) α))) (s : NrSession α) : Prop :=
  Transition.Run (machine (processEvent conf)) (new conf id random) trace s

theorem stored_of_run {id : SessionId} {random : UInt32}
    {trace : List (Transition.Step (NrSession α) (Dispatcher α × Event α)
      (Outcome (NrSession α) α))} (hrun : Runs conf id random trace s) : s.Stored :=
  hrun.invariant
    (fun _ _ _ _ hs hstep => hs.transits (transits_of_processEvent (next_of_machine hstep)))
    (stored_of_close rfl)

theorem undefined_of_unsafe (conf : AnslpConfig) (h : s.Unsafe d evt) :
    ∃ f, s.processEvent conf d evt = .undefined f := by
  cases h with
  | stored hstate hc hcheck hsome =>
      refine ⟨.deleted, ?_⟩
      rw [processEvent, hstate]
      exact handleStateClose_of_stored hc hcheck hsome
  | create hstate hc hcheck hlifetime hmri hread =>
      by_cases hfirst : s.createMessage = none
      · refine ⟨.nullPointer, ?_⟩
        simp [processEvent, hstate, handleStateClose, hc, hcheck, setLastCreateMessage, hfirst,
          hlifetime, initiate, hmri, saveAuctionRule_eq, hread]
      · refine ⟨.deleted, ?_⟩
        rw [processEvent, hstate]
        exact handleStateClose_of_stored hc hcheck hfirst
  | check hstate hodd =>
      refine ⟨.iterator, ?_⟩
      have herase := (ObjectList.eraseMissing_eq_none_iff _ _).mpr hodd
      simp only [processEvent, hstate, handleStatePending, herase]
  | bidding hstate hrefresh hb hnode hread =>
      refine ⟨.nullPointer, ?_⟩
      simp [processEvent, hstate, handleStateAuctioning, hrefresh, hb, hnode,
        Session.interact, AnslpMsg.getMspecObjects_eq, hread]

/-- In a session where all is stored a call is defined exactly for the safe events. -/
theorem isDefined_iff_of_stored (hstored : s.Stored) :
    (s.processEvent conf d evt).IsDefined NrSession.state s ↔ ¬ s.Unsafe d evt := by
  refine Outcome.isDefined_iff_not (fun h => undefined_of_unsafe conf h) fun hsafe => ?_
  have hended := ended_processEvent conf d s evt
  generalize s.processEvent conf d evt = o at hended ⊢
  cases hended with
  | next => trivial
  | thrown _ hstate => exact hstate
  | undefined h => exact h.elim (fun h => absurd hstored h) (fun h => absurd h hsafe)

end NrSession

/-! ## A RESPONSE that comes twice -/

namespace RepeatedResponse

open Sample

/-- The initiator, its CREATE sent. -/
def waiting : NiSession RawIpap :=
  { (NiSession.new conf 1 0).created surroundings request with state := .pending }

/-- The RESPONSE of success to this CREATE. -/
def response : MsgEvent RawIpap :=
  ⟨create.ntlpMsg.createSuccessResponse 30, true⟩

/-- The initiator, the objects of the RESPONSE handed over: none. -/
def installing : NiSession RawIpap :=
  { waiting with
    state := .pendingInstalling
    responseTimer := 1
    lastAuctionInstallRule := some AuctionRule.empty }

/-- The initiator in AUCTIONING, its REFRESH timer started. -/
def up : NiSession RawIpap :=
  { installing with
    state := .auctioning
    responseTimer := 0
    refreshTimer := 1 }

theorem runs_up : ∃ trace, NiSession.Runs conf 1 0 trace up ∧ trace.length = 3 := by
  have hwaiting := run_snoc_of_next (d := surroundings) (u := waiting)
    (.nil (s := NiSession.new conf 1 0)) (rfl : (NiSession.processEvent _ _
      (.apiCreate request)).next? = some waiting)
  have hinstalling := run_snoc_of_next (d := surroundings) hwaiting
    (rfl : (NiSession.processEvent _ _ (.msg response)).next? = some installing)
  have hup := run_snoc_of_next (d := surroundings) hinstalling
    (rfl : (NiSession.processEvent _ _ (.apiInstall OrderedMap.empty)).next? = some up)
  exact ⟨_, hup, rfl⟩

end RepeatedResponse
end Anslp
