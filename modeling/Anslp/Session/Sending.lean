import Anslp.Session.Reporting

/-!
# What sessions send

A session sends messages that it builds, copies of messages that it has received and stored
messages once more.  What holds of all that is built, and of all that is received, holds of
all that is sent; and all of it bears the identifier of the session.

An error of the installer ends a call in the middle.  What the sessions have sent until
then is little: the initiator nothing, and the responder the answer to a REFRESH that ends
its session.

Main results:

- Theorem {lit}`NiSession.throwsOnly_processEvent`: an initiator has sent nothing.
- Theorem {lit}`NrSession.throwsOnly_processEvent`: a responder has sent, at most, the answer
  to a REFRESH.
- Theorems {lit}`NiSession.Stores.transits`, {lit}`NfSession.Stores.transits` and
  {lit}`NrSession.Stores.transits`: what sessions store keeps a property of bodies.
- Theorems {lit}`NiSession.Stores.sendsOnly`, {lit}`NfSession.Stores.sendsOnly` and
  {lit}`NrSession.Stores.sendsOnly`: and so does all that they send.

Current gaps:

- None for messages; what is handed to installers is in {lit}`Provenance`.
-/

namespace Anslp

/-! ## Calls that throw -/

/-- What a call that throws has sent satisfies a property. -/
def Outcome.ThrowsOnly {σ α : Type} (P : NtlpMsg α → Prop) (o : Outcome σ α) : Prop :=
  ∀ exp s effects, o = .thrown exp s effects →
    ∀ m ∈ effects.filterMap Effect.sent?, P m

namespace Outcome.ThrowsOnly

variable {σ α : Type} {P : NtlpMsg α → Prop} {s : σ} {o : Outcome σ α}
  {effects : List (Effect α)}

@[simp]
theorem next : (Outcome.next s effects).ThrowsOnly P := by
  intro exp t us h
  cases h

@[simp]
theorem undefined {f : Fault} : (Outcome.undefined f : Outcome σ α).ThrowsOnly P := by
  intro exp t us h
  cases h

@[simp]
theorem thrown_iff {exp : RequestError} : (Outcome.thrown exp s effects).ThrowsOnly P ↔
    ∀ m ∈ effects.filterMap Effect.sent?, P m := by
  constructor
  · intro h
    exact h exp s effects rfl
  · intro h exp' t us hthrown
    cases hthrown
    exact h

/-- What was sent before the call counts as well. -/
theorem after (h : o.ThrowsOnly P) (hbefore : ∀ m ∈ effects.filterMap Effect.sent?, P m) :
    (o.after effects).ThrowsOnly P := by
  cases o with
  | next t us => exact next
  | undefined f => exact undefined
  | thrown exp t us =>
      rw [Outcome.after, thrown_iff, List.filterMap_append]
      intro m hm
      rcases List.mem_append.mp hm with hm | hm
      · exact hbefore m hm
      · exact thrown_iff.mp h m hm

end Outcome.ThrowsOnly

/-! ### What an initiator has sent -/

namespace NiSession

open Session Outcome

variable {α : Type} {P : NtlpMsg α → Prop} {d : Dispatcher α} {s : NiSession α}
  {evt : Event α}

/-- Tearing down throws nothing of its own. -/
theorem throwsOnly_tearDown (before after : List (Effect α)) :
    (s.tearDown before after).ThrowsOnly P := by
  unfold tearDown
  dsimp only
  split <;> simp

/-- Uninstalling sends nothing before the installer is called. -/
theorem throwsOnly_uninstall (after : List (Effect α)) :
    (s.uninstall d after).ThrowsOnly P := by
  unfold uninstall
  split
  · simp
  · split_ifs
    · split
      · simp
      · exact throwsOnly_tearDown _ _
    · exact throwsOnly_tearDown _ _

/-- When the answer to a REFRESH fails, nothing is sent either. -/
theorem throwsOnly_removeOrClose : (s.removeOrClose d).ThrowsOnly P := by
  unfold removeOrClose
  dsimp only
  split
  · simp
  · split_ifs
    · split <;> simp
    · simp

/-- A closed session calls no installer. -/
theorem throwsOnly_handleStateClose : (s.handleStateClose d evt).ThrowsOnly P := by
  unfold handleStateClose
  split
  · split
    · simp
    · dsimp only
      split_ifs <;> simp
  · simp

/-- A session that waits for its RESPONSE installs before it sends. -/
theorem throwsOnly_handleStatePending : (s.handleStatePending d evt).ThrowsOnly P := by
  unfold handleStatePending
  split
  · split_ifs
    · unfold retryCreate
      split_ifs
      · split <;> simp
      · simp
    · simp
  · simp
  · exact throwsOnly_tearDown _ _
  · split
    · simp
    · split
      · unfold processResponse
        split_ifs
        · dsimp only
          split
          · simp
          · split <;> simp
        · simp
      · simp
  · split_ifs <;> simp

theorem throwsOnly_handleStatePendingInstalling :
    (s.handleStatePendingInstalling d evt).ThrowsOnly P := by
  unfold handleStatePendingInstalling
  split
  · split_ifs
    · unfold retryResponse
      split_ifs
      · split
        · simp
        · dsimp only
          split <;> simp
      · exact throwsOnly_uninstall _
    · simp
  · exact throwsOnly_uninstall _
  · split
    · simp
    · split_ifs
      · simp
      · exact throwsOnly_uninstall _
  · simp

theorem throwsOnly_handleStateAuctioning :
    (s.handleStateAuctioning d evt).ThrowsOnly P := by
  unfold handleStateAuctioning
  split
  · simp
  · split_ifs
    · unfold processRefreshTimer
      split <;> simp
    · unfold retryRefresh
      split_ifs
      · split <;> simp
      · exact throwsOnly_removeOrClose.after (by simp)
    · simp
  · unfold processTeardown
    dsimp only
    split <;> simp
  · unfold processApiBidding
    split <;> simp
  · split
    · unfold processBidding
      split <;> simp
    · split
      · simp
      · split
        · unfold processRefreshResponse
          split_ifs
          · dsimp only
            split_ifs
            · exact throwsOnly_removeOrClose.after (by simp)
            · simp
          · exact throwsOnly_removeOrClose.after (by simp)
        · simp
  · split_ifs <;> simp

/-- A session that is torn down removes before it sends. -/
theorem throwsOnly_handleStatePendingTeardown :
    (s.handleStatePendingTeardown d evt).ThrowsOnly P := by
  unfold handleStatePendingTeardown
  split
  · unfold processApiBidding
    split <;> simp
  · split
    · unfold processBidding
      split <;> simp
    · simp
  · split_ifs
    · unfold retryRemoval
      split_ifs
      · split
        · simp
        · dsimp only
          split <;> simp
      · simp
    · simp
  · simp
  · simp

/-- A call that throws has sent nothing. -/
theorem throwsOnly_processEvent : (s.processEvent d evt).ThrowsOnly P := by
  unfold processEvent
  split
  · exact throwsOnly_handleStateClose
  · exact throwsOnly_handleStatePending
  · exact throwsOnly_handleStatePendingInstalling
  · exact throwsOnly_handleStateAuctioning
  · exact throwsOnly_handleStatePendingTeardown

end NiSession

/-! ### What a responder has sent -/

namespace NrSession

open Session Outcome

variable {α : Type} {P : NtlpMsg α → Prop} {conf : AnslpConfig} {d : Dispatcher α}
  {s : NrSession α} {evt : Event α}

/-- A responder sends nothing while it removes. -/
theorem throwsOnly_removeOrClose : (s.removeOrClose conf d).ThrowsOnly P := by
  unfold removeOrClose
  split_ifs
  · split <;> simp
  · simp

/-- What a call in AUCTIONING that throws has sent is the answer to a REFRESH. -/
theorem throwsOnly_handleStateAuctioning
    (hP : ∀ e (c : KindMsg .refresh α) lifetime, evt = .msg e → e.ofKind? .refresh = some c →
      checkRequest d e c.body.getSessionLifetime s.maxLifetime = .ok lifetime →
      isGreaterThan c.body.getMsgSequenceNumber s.msn = true →
      P (c.ntlpMsg.createSuccessResponse lifetime)) :
    (s.handleStateAuctioning conf d evt).ThrowsOnly P := by
  unfold handleStateAuctioning
  split
  · rename_i e
    split
    · rename_i c hc
      unfold processRefresh
      split
      · simp
      · rename_i lifetime hcheck
        split_ifs with hmsn
        · simp
        · simp
        · have hanswer := hP e c lifetime rfl hc hcheck (by simpa using hmsn)
          exact throwsOnly_removeOrClose.after (by simp [hanswer])
    · split
      · split_ifs
        · unfold interact
          split
          · simp
          · dsimp only
            split <;> simp
        · simp
      · simp
  · unfold processApiBidding
    split <;> simp
  · split_ifs
    · exact throwsOnly_removeOrClose.after (by simp)
    · simp
  · simp

/-- What a call that throws has sent is the answer to a REFRESH. -/
theorem throwsOnly_processEvent
    (hP : ∀ e (c : KindMsg .refresh α) lifetime, s.state = .auctioning → evt = .msg e →
      e.ofKind? .refresh = some c →
      checkRequest d e c.body.getSessionLifetime s.maxLifetime = .ok lifetime →
      isGreaterThan c.body.getMsgSequenceNumber s.msn = true →
      P (c.ntlpMsg.createSuccessResponse lifetime)) :
    (s.processEvent conf d evt).ThrowsOnly P := by
  by_cases hup : s.state = .auctioning
  · unfold processEvent
    rw [hup]
    exact throwsOnly_handleStateAuctioning fun e c lifetime => hP e c lifetime hup
  · intro exp t us hthrown m hm
    have hended := ended_processEvent conf d s evt
    rw [hthrown] at hended
    cases hended with
    | thrown _ _ hsent =>
        rw [hsent hup] at hm
        cases hm

end NrSession

/-! ## What is kept by all that is built -/

/-- A property of bodies that all bodies which sessions build have, and that a RESPONSE keeps
when objects are added. -/
structure AnslpMsg.KeptBySessions {α : Type} (Q : AnslpMsg α → Prop) : Prop where
  create : ∀ lifetime msn selection hops os,
    Q ((((((AnslpMsg.new .create).setSessionLifetime lifetime).setMsgSequenceNumber
      msn).setSelectionAuctioningEntities selection).setMessageHopCount hops).setMspecObjects os)
  refresh : ∀ lifetime msn,
    Q (((AnslpMsg.new .refresh).setSessionLifetime lifetime).setMsgSequenceNumber msn)
  bidding : ∀ msn os,
    Q (((AnslpMsg.new .bidding).setMsgSequenceNumber msn).setMspecObjects os)
  response : ∀ (m : NtlpMsg α) severity responseCode, Q (m.responseBody severity responseCode)
  success : ∀ (m : NtlpMsg α) lifetime, Q (m.successBody lifetime)
  addObjects : ∀ (a : AnslpMsg α) os, a.kind = .response → Q a → Q (a.setMspecObjects os)

/-- A message for the session with an identifier, with a body that has a property. -/
structure NtlpMsg.Carries {α : Type} (Q : AnslpMsg α → Prop) (m : NtlpMsg α)
    (sid : SessionId) : Prop where
  sid : m.sid = sid
  body : ∃ a, m.msg = some a ∧ Q a

/-- If the event is a message, it is for the session and has such a body. -/
def Event.Carries {α : Type} (Q : AnslpMsg α → Prop) (evt : Event α) (sid : SessionId) : Prop :=
  ∀ e, evt = .msg e → e.ntlpMsg.Carries Q sid

/-- All messages that a call sends are for the session and have such a body. -/
def Outcome.SendsOnly {σ α : Type} (Q : AnslpMsg α → Prop) (o : Outcome σ α)
    (sid : SessionId) : Prop :=
  ∀ m ∈ o.sent, m.Carries Q sid

/-- A message with a body for the session with an identifier. -/
structure NtlpMsg.IsOf {α : Type} (m : NtlpMsg α) (sid : SessionId) : Prop where
  sid : m.sid = sid
  body : m.msg.isSome = true

section

variable {α : Type} {Q : AnslpMsg α → Prop} {m : NtlpMsg α} {sid : SessionId} {kind : MsgKind}
  {e : MsgEvent α} {c : KindMsg kind α}

/-- Such a message bears the identifier and has a body. -/
theorem NtlpMsg.Carries.isOf (h : m.Carries Q sid) : m.IsOf sid where
  sid := h.sid
  body := by
    rcases h.body with ⟨a, ha, _⟩
    rw [ha]
    rfl

/-- Nothing in particular is kept by all that sessions build. -/
theorem AnslpMsg.keptBySessions_true : AnslpMsg.KeptBySessions fun _ : AnslpMsg α => True where
  create _ _ _ _ _ := trivial
  refresh _ _ := trivial
  bidding _ _ := trivial
  response _ _ _ := trivial
  success _ _ := trivial
  addObjects _ _ _ _ := trivial

theorem KindMsg.carries_iff : c.ntlpMsg.Carries Q sid ↔ c.ntlpMsg.sid = sid ∧ Q c.body := by
  constructor
  · rintro ⟨hsid, a, ha, hbody⟩
    cases c.msg_eq.symm.trans ha
    exact ⟨hsid, hbody⟩
  · intro h
    exact ⟨h.1, c.body, c.msg_eq, h.2⟩

/-- A copy has the body of its original. -/
theorem NtlpMsg.Carries.copyForForwarding (h : m.Carries Q sid) :
    m.copyForForwarding.Carries Q sid :=
  ⟨h.sid, h.body⟩

/-- The RESPONSE to a message is built for the same session. -/
theorem NtlpMsg.Carries.createResponse (hQ : AnslpMsg.KeptBySessions Q) (h : m.Carries Q sid)
    (severity responseCode : UInt8) : (m.createResponse severity responseCode).Carries Q sid :=
  ⟨h.sid, _, rfl, hQ.response m severity responseCode⟩

theorem NtlpMsg.Carries.createErrorResponse (hQ : AnslpMsg.KeptBySessions Q)
    (h : m.Carries Q sid) (exp : RequestError) : (m.createErrorResponse exp).Carries Q sid :=
  h.createResponse hQ _ _

theorem NtlpMsg.Carries.createSuccessResponse (hQ : AnslpMsg.KeptBySessions Q)
    (h : m.Carries Q sid) (lifetime : UInt32) :
    (m.createSuccessResponse lifetime).Carries Q sid :=
  ⟨h.sid, _, rfl, hQ.success m lifetime⟩

/-- The message of an event is the event's. -/
theorem Event.Carries.of_ofKind? (h : (Event.msg e).Carries Q sid)
    (hc : e.ofKind? kind = some c) : c.ntlpMsg.Carries Q sid :=
  MsgEvent.ntlpMsg_of_ofKind? hc ▸ h e rfl

/-- The RESPONSE that a handler takes out of its event is the one received. -/
theorem Event.Carries.of_anslpResponse? (h : (Event.msg e).Carries Q sid)
    {r : KindMsg .response α} (hr : e.anslpResponse? c = some r) : r.ntlpMsg.Carries Q sid :=
  h.of_ofKind? (MsgEvent.of_anslpResponse? hr).1

/-- Reports to the user are no messages. -/
theorem Effect.sent_eq_nil_of_reports {reported : List (Effect α)}
    (h : ∀ effect ∈ reported, ∃ text, effect = .reportAsyncEvent text) :
    reported.filterMap Effect.sent? = [] := by
  apply List.filterMap_eq_nil_iff.mpr
  intro effect heffect
  rcases h effect heffect with ⟨text, rfl⟩
  rfl

end

/-! ### Initiator -/

namespace NiSession

variable {α : Type} {Q : AnslpMsg α → Prop} {d : Dispatcher α} {s s' : NiSession α}
  {evt : Event α} {effects : List (Effect α)}

/-- The messages that an initiator stores are its own and have a property. -/
structure Stores (Q : AnslpMsg α → Prop) (s : NiSession α) : Prop where
  create : ∀ c, s.lastCreateMsg = some c → c.ntlpMsg.Carries Q s.id
  refresh : ∀ c, s.lastRefreshMsg = some c → c.ntlpMsg.Carries Q s.id

/-- A new session has nothing stored. -/
theorem stores_new (conf : AnslpConfig) (id : SessionId) (random : UInt32) :
    (new conf id random : NiSession α).Stores Q where
  create _ hc := by cases hc
  refresh _ hc := by cases hc

/-- The CREATE that is built is for this session. -/
theorem carries_buildCreateMessage (hQ : AnslpMsg.KeptBySessions Q) (s : NiSession α) (mri : Mri)
    (e : ApiCreateEvent α) : (s.buildCreateMessage mri e).ntlpMsg.Carries Q s.id :=
  ⟨rfl, _, rfl, hQ.create _ _ _ _ _⟩

theorem carries_buildRefreshMessage (hQ : AnslpMsg.KeptBySessions Q) (s : NiSession α)
    (mri : Mri) : (s.buildRefreshMessage mri).ntlpMsg.Carries Q s.id :=
  ⟨rfl, _, rfl, hQ.refresh _ _⟩

theorem carries_buildBiddingMessage (hQ : AnslpMsg.KeptBySessions Q) (s : NiSession α)
    (mri : Mri) (e : ApiBiddingEvent α) : (s.buildBiddingMessage mri e).Carries Q s.id :=
  ⟨rfl, _, rfl, hQ.bidding _ _⟩

@[simp]
theorem id_withLifetime (lifetime : UInt32) : (s.withLifetime lifetime).id = s.id :=
  rfl

/-- What is stored is built by the session or is what it had. -/
theorem Stores.transits (hQ : AnslpMsg.KeptBySessions Q) (h : s.Stores Q)
    (ht : Transits d s evt s' effects) : s'.Stores Q := by
  cases ht with
  | created | createdUntold =>
      refine ⟨?_, h.refresh⟩
      intro c hc
      cases hc
      exact carries_buildCreateMessage hQ _ _ _
  | tornDown | uninstalled => exact ⟨(fun _ hc => by cases hc), h.refresh⟩
  | refreshSent | tearingDown =>
      refine ⟨h.create, ?_⟩
      intro c hc
      cases hc
      exact carries_buildRefreshMessage hQ _ _
  | removing _ hends | closed _ hends => cases hends <;> exact ⟨h.create, h.refresh⟩
  | _ => exact ⟨h.create, h.refresh⟩

/-- What is sent is built by the session or is stored. -/
theorem Stores.sends (hQ : AnslpMsg.KeptBySessions Q) (h : s.Stores Q)
    (ht : Transits d s evt s' effects) :
    ∀ m ∈ effects.filterMap Effect.sent?, m.Carries Q s.id := by
  have hcreate : ∀ lifetime mri e,
      ((s.withLifetime lifetime).buildCreateMessage mri e).ntlpMsg.Carries Q s.id :=
    fun _ _ _ => carries_buildCreateMessage hQ _ _ _
  have hrefresh : ∀ mri, (s.buildRefreshMessage mri).ntlpMsg.Carries Q s.id :=
    fun _ => carries_buildRefreshMessage hQ _ _
  have hteardown : ∀ mri, ((s.withLifetime 0).buildRefreshMessage mri).ntlpMsg.Carries Q s.id :=
    fun _ => carries_buildRefreshMessage hQ _ _
  cases ht with
  | created _ _ htold =>
      subst htold
      simp [hcreate]
  | createdUntold => simp [hcreate]
  | createRetried _ hc => simp [h.create _ hc]
  | failed _ hreported =>
      rw [Effect.sent_eq_nil_of_reports hreported]
      exact List.forall_mem_nil _
  | tornDown | tearingDown => simp [hteardown]
  | uninstalled _ _ _ hremoval hreported =>
      subst hremoval
      split_ifs <;>
        simp [List.filterMap_cons, Effect.sent_eq_nil_of_reports hreported, hteardown]
  | refreshSent => simp [hrefresh]
  | refreshRetried _ hc => simp [h.refresh _ hc]
  | removing _ hends | closed _ hends => cases hends <;> simp
  | biddingSent => simp [carries_buildBiddingMessage hQ]
  | _ => simp

/-- All that an initiator sends has the property. -/
theorem Stores.sendsOnly (hQ : AnslpMsg.KeptBySessions Q) (h : s.Stores Q) :
    (s.processEvent d evt).SendsOnly Q s.id := by
  intro m hm
  cases ho : s.processEvent d evt with
  | next t effects =>
      rw [ho] at hm
      exact h.sends hQ (transits_of_processEvent ho) m hm
  | thrown exp t effects =>
      rw [ho] at hm
      exact (throwsOnly_processEvent (P := fun _ => False) exp t effects ho m hm).elim
  | undefined f =>
      rw [ho] at hm
      cases hm

end NiSession

/-! ### Forwarder -/

namespace NfSession

variable {α : Type} {Q : AnslpMsg α → Prop} {conf : AnslpConfig} {d : Dispatcher α}
  {s s' : NfSession α} {evt : Event α} {effects : List (Effect α)}

/-- The messages that a forwarder stores are for its session and have a property. -/
structure Stores (Q : AnslpMsg α → Prop) (s : NfSession α) : Prop where
  create : ∀ c, s.createMessage = some c → c.ntlpMsg.Carries Q s.id
  refresh : ∀ c, s.refreshMessage = some c → c.ntlpMsg.Carries Q s.id
  response : ∀ r, s.responseMessage = some r → r.ntlpMsg.Carries Q s.id

/-- A new session has nothing stored. -/
theorem stores_new (id : SessionId) : (new id : NfSession α).Stores Q where
  create _ hc := by cases hc
  refresh _ hc := by cases hc
  response _ hr := by cases hr

/-- The CREATE that is passed on is for this session. -/
theorem carries_buildCreateMessage (hQ : AnslpMsg.KeptBySessions Q) (s : NfSession α)
    (nrMri : Mri) (c : AnslpMsg α) (os : List (MspecObject α)) :
    (s.buildCreateMessage nrMri c os).Carries Q s.id :=
  ⟨rfl, _, rfl, hQ.create _ _ _ _ _⟩

theorem carries_buildTeardownMessage (hQ : AnslpMsg.KeptBySessions Q) (s : NfSession α)
    (nrMri : Mri) : (s.buildTeardownMessage nrMri).Carries Q s.id :=
  ⟨rfl, _, rfl, hQ.refresh _ _⟩

/-- Adding objects keeps what the RESPONSE that was received carries. -/
theorem carries_buildResponse (hQ : AnslpMsg.KeptBySessions Q) (s : NfSession α)
    {r : KindMsg .response α} (hr : r.ntlpMsg.Carries Q s.id) :
    (s.buildResponse r).Carries Q s.id :=
  ⟨rfl, _, rfl, hQ.addObjects _ _ r.kind_eq (KindMsg.carries_iff.mp hr).2⟩

/-- A session that is set up stores the CREATE received and sends one built from it. -/
theorem Stores.setUp (hQ : AnslpMsg.KeptBySessions Q) (h : s.Stores Q) {c : KindMsg .create α}
    (hc : c.ntlpMsg.Carries Q s.id) (hsetUp : SetUp conf d s c s' effects) :
    s'.Stores Q ∧ ∀ m ∈ effects.filterMap Effect.sent?, m.Carries Q s.id := by
  have hstored : ∀ c', some c = some c' → c'.ntlpMsg.Carries Q s.id := by
    intro c' hc'
    cases hc'
    exact hc
  have herror := hc.createErrorResponse hQ
  cases hsetUp with
  | notPathcoupled => exact ⟨⟨hstored, h.refresh, h.response⟩, by simp [herror]⟩
  | checking => exact ⟨⟨hstored, h.refresh, h.response⟩, by simp⟩
  | passed =>
      exact ⟨⟨hstored, h.refresh, h.response⟩, by simp [carries_buildCreateMessage hQ]⟩
  | refused => exact ⟨⟨hstored, h.refresh, h.response⟩, by simp [herror]⟩

/-- What is stored and sent is received, or built from what is received. -/
theorem Stores.transits (hQ : AnslpMsg.KeptBySessions Q) (h : s.Stores Q)
    (hevt : evt.Carries Q s.id) (ht : Transits conf d s evt s' effects) :
    s'.Stores Q ∧ ∀ m ∈ effects.filterMap Effect.sent?, m.Carries Q s.id := by
  cases ht with
  | discarded | biddingTaken | removalTimedOut | removed =>
      exact ⟨⟨h.create, h.refresh, h.response⟩, by simp⟩
  | createRejected _ hc | pendingRejected _ hc | refreshRejected _ hc =>
      have herror := (hevt.of_ofKind? hc).createErrorResponse hQ
      exact ⟨⟨h.create, h.refresh, h.response⟩, by simp [herror]⟩
  | createWithoutLifetime => exact ⟨⟨h.create, h.refresh, h.response⟩, by simp⟩
  | created _ hc _ _ hsetUp =>
      exact Stores.setUp (s := (s.configured conf).numbered _ _) hQ
        ⟨h.create, h.refresh, h.response⟩ (hevt.of_ofKind? hc) hsetUp
  | abandoned _ hc | biddingPassed _ hc =>
      have hpassed := (hevt.of_ofKind? hc).copyForForwarding
      exact ⟨⟨h.create, h.refresh, h.response⟩, by simp [hpassed]⟩
  | repeated _ hc hpassedOn =>
      subst hpassedOn
      have hpassed := (hevt.of_ofKind? hc).copyForForwarding
      refine ⟨⟨h.create, h.refresh, h.response⟩, ?_⟩
      split_ifs <;> simp [hpassed]
  | replaced _ hc hsetUp =>
      exact Stores.setUp (s := s.numbered _ _) hQ
        ⟨h.create, h.refresh, h.response⟩ (hevt.of_ofKind? hc) hsetUp
  | givenUp _ hc =>
      have herror := (h.create _ hc).createResponse hQ
      exact ⟨⟨h.create, h.refresh, h.response⟩, by simp [herror]⟩
  | checked =>
      exact ⟨⟨h.create, h.refresh, h.response⟩, by simp [carries_buildCreateMessage hQ]⟩
  | responded _ _ hr =>
      refine ⟨⟨h.create, h.refresh, ?_⟩, by simp⟩
      intro r hr'
      cases hr'
      exact hevt.of_anslpResponse? hr
  | refused _ _ hr | responsePassed _ _ hr =>
      have hpassed := (hevt.of_anslpResponse? hr).copyForForwarding
      exact ⟨⟨h.create, h.refresh, h.response⟩, by simp [hpassed]⟩
  | @installed mspecObjects r _ hr =>
      have hsent := carries_buildResponse hQ
        ({ s with rule := s.rule.setReponseObjects d.newKey mspecObjects } : NfSession α)
        (h.response _ hr)
      exact ⟨⟨h.create, h.refresh, h.response⟩, by simpa using hsent⟩
  | installFailed _ hr _ _ hremoval =>
      subst hremoval
      have hteardown := carries_buildTeardownMessage hQ s
      have herror := (h.response _ hr).createResponse hQ
      refine ⟨⟨h.create, h.refresh, h.response⟩, ?_⟩
      split_ifs <;> simp [or_imp, forall_and, hteardown, herror]
  | refreshed _ hc =>
      have hpassed := (hevt.of_ofKind? hc).copyForForwarding
      refine ⟨⟨h.create, ?_, h.response⟩, by simp [hpassed]⟩
      intro c' hc'
      cases hc'
      exact hevt.of_ofKind? hc
  | removing _ hends | closed _ hends =>
      cases hends with
      | response _ hr =>
          have hpassed := (hevt.of_anslpResponse? hr).copyForForwarding
          exact ⟨⟨h.create, h.refresh, h.response⟩, by simp [hpassed]⟩
      | _ => exact ⟨⟨h.create, h.refresh, h.response⟩, by simp⟩

/-- A call that throws has sent, at most, a copy of what it was given. -/
theorem sendsOnly_of_throws (hevt : evt.Carries Q s.id) (ht : Throws d s evt s' effects) :
    ∀ m ∈ effects.filterMap Effect.sent?, m.Carries Q s.id := by
  cases ht with
  | installFailed _ _ hremoval =>
      subst hremoval
      split_ifs <;> simp
  | removing _ hends =>
      cases hends with
      | response _ hr => simp [(hevt.of_anslpResponse? hr).copyForForwarding]
      | _ => simp
  | _ => simp

/-- All that a forwarder sends has the property. -/
theorem Stores.sendsOnly (hQ : AnslpMsg.KeptBySessions Q) (h : s.Stores Q)
    (hevt : evt.Carries Q s.id) : (s.processEvent conf d evt).SendsOnly Q s.id := by
  intro m hm
  have hended := ended_processEvent conf d s evt
  generalize s.processEvent conf d evt = o at hm hended
  cases hended with
  | next ht => exact (h.transits hQ hevt ht).2 m hm
  | thrown ht => exact sendsOnly_of_throws hevt ht m hm
  | undefined => cases hm

end NfSession

/-! ### Responder -/

namespace NrSession

variable {α : Type} {Q : AnslpMsg α → Prop} {conf : AnslpConfig} {d : Dispatcher α}
  {s s' : NrSession α} {evt : Event α} {effects : List (Effect α)}

/-- The CREATE that a responder stores is for its session and has a property. -/
def Stores (Q : AnslpMsg α → Prop) (s : NrSession α) : Prop :=
  ∀ c, s.createMessage = some c → c.ntlpMsg.Carries Q s.id

/-- A new session has nothing stored. -/
theorem stores_new (conf : AnslpConfig) (id : SessionId) (random : UInt32) :
    (new conf id random : NrSession α).Stores Q := by
  intro c hc
  cases hc

/-- The RESPONSE is for the session of the request. -/
theorem carries_buildSuccessResponse (hQ : AnslpMsg.KeptBySessions Q) (s : NrSession α)
    {m : NtlpMsg α} {sid : SessionId} (hm : m.Carries Q sid) (lifetime : UInt32) :
    (s.buildSuccessResponse m lifetime).Carries Q sid :=
  ⟨hm.sid, _, rfl, hQ.addObjects _ _
    ((AnslpMsg.kind_setObject _ _).trans (m.kind_responseBody _ _)) (hQ.success m lifetime)⟩

theorem carries_buildBiddingMessage (hQ : AnslpMsg.KeptBySessions Q) (s : NrSession α)
    (mri : Mri) (e : ApiBiddingEvent α) : (s.buildBiddingMessage mri e).Carries Q s.id :=
  ⟨rfl, _, rfl, hQ.bidding _ _⟩

/-- A responder stores what it receives and answers it. -/
theorem Stores.transits (hQ : AnslpMsg.KeptBySessions Q) (h : s.Stores Q)
    (hevt : evt.Carries Q s.id) (ht : Transits conf d s evt s' effects) :
    s'.Stores Q ∧ ∀ m ∈ effects.filterMap Effect.sent?, m.Carries Q s.id := by
  have hstored : ∀ {e : MsgEvent α} {c : KindMsg .create α}, evt = .msg e →
      e.ofKind? .create = some c → ∀ c', some c = some c' → c'.ntlpMsg.Carries Q s.id := by
    rintro e c rfl hc c' ⟨⟩
    exact hevt.of_ofKind? hc
  cases ht with
  | createRejected _ hc | refreshRejected _ hc =>
      exact ⟨h, by simp [(hevt.of_ofKind? hc).createErrorResponse hQ]⟩
  | createWithoutLifetime _ hc =>
      exact ⟨hstored rfl hc, by simp [(hevt.of_ofKind? hc).createResponse hQ]⟩
  | started _ hc => exact ⟨hstored rfl hc, by simp⟩
  | startedIdle _ hc =>
      exact ⟨hstored rfl hc, by simp [(hevt.of_ofKind? hc).createSuccessResponse hQ]⟩
  | startFailed _ hc =>
      exact ⟨hstored rfl hc, by simp [(hevt.of_ofKind? hc).createResponse hQ]⟩
  | @checkRetried _ _ result =>
      refine ⟨h, ?_⟩
      cases result <;> simp [Session.CheckResult.effects]
  | givenUp _ hc => exact ⟨h, by simp [(h _ hc).createResponse hQ]⟩
  | @installed mspecObjects c _ hc =>
      have hsent := fun (t : NrSession α) => carries_buildSuccessResponse hQ t (h _ hc)
      exact ⟨h, by simp [hsent]⟩
  | installFailed _ hc _ hremoval =>
      subst hremoval
      refine ⟨h, ?_⟩
      split_ifs <;> simp [(h _ hc).createResponse hQ]
  | refreshed _ hc => exact ⟨h, by simp [(hevt.of_ofKind? hc).createSuccessResponse hQ]⟩
  | removing _ hends | closed _ hends =>
      cases hends with
      | refresh hc => exact ⟨h, by simp [(hevt.of_ofKind? hc).createSuccessResponse hQ]⟩
      | timeout => exact ⟨h, by simp⟩
  | biddingSent _ htold =>
      subst htold
      refine ⟨h, ?_⟩
      split_ifs <;> simp [carries_buildBiddingMessage hQ]
  | _ => exact ⟨h, by simp⟩

/-- All that a responder sends has the property. -/
theorem Stores.sendsOnly (hQ : AnslpMsg.KeptBySessions Q) (h : s.Stores Q)
    (hevt : evt.Carries Q s.id) : (s.processEvent conf d evt).SendsOnly Q s.id := by
  intro m hm
  cases ho : s.processEvent conf d evt with
  | next t effects =>
      rw [ho] at hm
      exact (h.transits hQ hevt (transits_of_processEvent ho)).2 m hm
  | thrown exp t effects =>
      rw [ho] at hm
      apply throwsOnly_processEvent _ exp t effects ho m hm
      intro e c lifetime _ he hc _ _
      subst he
      exact (hevt.of_ofKind? hc).createSuccessResponse hQ lifetime
  | undefined f =>
      rw [ho] at hm
      cases hm

end NrSession
end Anslp
