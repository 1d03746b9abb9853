import Anslp.Session.Checking

/-!
# Reports of success

When a forwarder or a responder reports success: not before it enters AUCTIONING, and in
the step that enters AUCTIONING exactly once, with the objects installed downstream and
here.

Main results:

- Theorems {lit}`NfSession.Establishing.transits` and
  {lit}`NrSession.Establishing.transits`: what ties the stored messages and the rule
  together while a session is set up.
- Theorem {lit}`reportsWhenInstalled_of_run`: success is reported by the step that confirms
  the installation, and by no step before it.

Current gaps:

- None for forwarders and responders.
-/

namespace Anslp

/-! ## Success responses -/

namespace NtlpMsg

variable {α : Type}

/-- Whether a message is a RESPONSE that reports success. -/
def reportsSuccess (m : NtlpMsg α) : Bool :=
  m.msg.any AnslpMsg.isSuccessResponse

/-- A report of success for a request: it carries its sequence number, the objects
installed downstream, and those installed here in some order. -/
structure IsReport (m : NtlpMsg α) (request : AnslpMsg α)
    (downstream installed : List (MspecObject α)) : Prop where
  success : m.reportsSuccess = true
  body : ∃ a own, m.msg = some a ∧ a.hasMsgSequenceNumber = true ∧
    a.getMsgSequenceNumber = request.getMsgSequenceNumber ∧
    a.mspecObjects = downstream ++ own ∧ own.Perm installed

theorem reportsSuccess_createResponse (m : NtlpMsg α) {severity responseCode : UInt8}
    (h : severity ≠ AnslpMsg.scSuccess) :
    (m.createResponse severity responseCode).reportsSuccess = false :=
  m.isSuccessResponse_responseBody h

@[simp]
theorem reportsSuccess_permanentFailure (m : NtlpMsg α) (responseCode : UInt8) :
    (m.createResponse scPermanentFailure responseCode).reportsSuccess = false :=
  m.reportsSuccess_createResponse (by decide)

theorem reportsSuccess_createErrorResponse (m : NtlpMsg α) {e : RequestError}
    (h : e.severity ≠ AnslpMsg.scSuccess) : (m.createErrorResponse e).reportsSuccess = false :=
  m.reportsSuccess_createResponse h

@[simp]
theorem reportsSuccess_authorizationError (m : NtlpMsg α) :
    (m.createErrorResponse Session.authorizationError).reportsSuccess = false :=
  m.reportsSuccess_permanentFailure _

@[simp]
theorem reportsSuccess_mriError (m : NtlpMsg α) :
    (m.createErrorResponse Session.mriError).reportsSuccess = false :=
  m.reportsSuccess_permanentFailure _

/-- A message of another class is no RESPONSE. -/
theorem reportsSuccess_of_kind {m : NtlpMsg α} {a : AnslpMsg α} (hm : m.msg = some a)
    (ha : a.kind ≠ .response) : m.reportsSuccess = false := by
  simp [reportsSuccess, hm, AnslpMsg.isSuccessResponse, ha]

end NtlpMsg

namespace KindMsg

variable {α : Type} {kind : MsgKind}

/-- A message passed on is no report of success if it is of another class. -/
theorem reportsSuccess_copyForForwarding (c : KindMsg kind α) (h : kind ≠ .response) :
    c.ntlpMsg.copyForForwarding.reportsSuccess = false :=
  NtlpMsg.reportsSuccess_of_kind (m := c.ntlpMsg.copyForForwarding) c.msg_eq
    fun hk => h (c.kind_eq.symm.trans hk)

@[simp]
theorem reportsSuccess_create (c : KindMsg .create α) :
    c.ntlpMsg.copyForForwarding.reportsSuccess = false :=
  c.reportsSuccess_copyForForwarding nofun

@[simp]
theorem reportsSuccess_bidding (c : KindMsg .bidding α) :
    c.ntlpMsg.copyForForwarding.reportsSuccess = false :=
  c.reportsSuccess_copyForForwarding nofun

/-- A RESPONSE passed on reports what it did before. -/
@[simp]
theorem reportsSuccess_response (r : KindMsg .response α) :
    r.ntlpMsg.copyForForwarding.reportsSuccess = r.body.isSuccess := by
  simp [NtlpMsg.reportsSuccess, NtlpMsg.copyForForwarding, r.msg_eq,
    AnslpMsg.isSuccessResponse, r.kind_eq]

end KindMsg

/-! ## Inputs -/

/-- The inputs of a session: the messages come from the decoder, a CREATE carries its
sequence number, the errors of the installer are failures, and the keys generated for
installed objects are distinct. -/
structure IsProper {α : Type} (d : Dispatcher α) (evt : Event α) : Prop where
  decoded : ∀ e a, evt = .msg e → e.ntlpMsg.msg = some a → a.IsDecoded
  create : ∀ e (c : KindMsg .create α), evt = .msg e → e.ofKind? .create = some c →
    c.body.hasMsgSequenceNumber = true
  failure : ∀ sid objects exp, d.checkError sid objects = some exp →
    exp.severity ≠ AnslpMsg.scSuccess
  newKey : ∀ objects, evt = .apiInstall objects → DistinctKeys d.newKey objects.size

namespace IsProper

variable {α : Type} {d : Dispatcher α} {e : MsgEvent α} {kind : MsgKind}

theorem isDecoded (h : IsProper d (.msg e)) {c : KindMsg kind α}
    (hc : e.ofKind? kind = some c) : c.body.IsDecoded :=
  h.decoded e c.body rfl (MsgEvent.ntlpMsg_of_ofKind? hc ▸ c.msg_eq)

end IsProper

/-- A decoded message requests few enough objects for a RESPONSE to report them. -/
theorem AuctionRule.size_resetRequestObjects_lt {α : Type} {rule : AuctionRule α}
    (newKey : Nat → MspecRuleKey) {a : AnslpMsg α} (h : a.IsDecoded) :
    (rule.resetRequestObjects newKey a.mspecObjects).objectRequests.size < 2 ^ 30 := by
  have hle := ObjectList.size_setFresh_le newKey a.mspecObjects (OrderedMap.empty : ObjectList α)
  rw [OrderedMap.size_empty, Nat.zero_add] at hle
  exact hle.trans_lt h.length_mspecObjects_lt

/-! ## Forwarder -/

namespace NfSession

variable {α : Type} {conf : AnslpConfig} {d : Dispatcher α} {s s' : NfSession α}
  {evt : Event α} {effects : List (Effect α)}

@[simp]
theorem reportsSuccess_buildCreateMessage (s : NfSession α) (nrMri : Mri) (c : AnslpMsg α)
    (missingObjects : List (MspecObject α)) :
    (s.buildCreateMessage nrMri c missingObjects).reportsSuccess = false :=
  NtlpMsg.reportsSuccess_of_kind rfl (by rw [AnslpMsg.kind_setMspecObjects]; exact nofun)

@[simp]
theorem reportsSuccess_buildTeardownMessage (s : NfSession α) (nrMri : Mri) :
    (s.buildTeardownMessage nrMri).reportsSuccess = false :=
  NtlpMsg.reportsSuccess_of_kind rfl nofun

/-- What is known of a forwarder before it enters AUCTIONING: nothing is installed, and
while its rule is being installed the stored RESPONSE reports success for the stored
CREATE. -/
structure Establishing (s : NfSession α) : Prop where
  responses : s.rule.objectResponses = OrderedMap.empty
  requests : s.rule.objectRequests.size < 2 ^ 30
  create : ∀ c, s.createMessage = some c →
    c.body.IsDecoded ∧ c.body.hasMsgSequenceNumber = true
  response : s.state = .pendingInstalling → ∃ c r, s.createMessage = some c ∧
    s.responseMessage = some r ∧ r.body.IsDecoded ∧ r.body.isSuccess = true ∧
    r.body.hasMsgSequenceNumber = true ∧
    r.body.getMsgSequenceNumber = c.body.getMsgSequenceNumber

/-- What is known does not depend on the timers and the numbers of a session. -/
theorem Establishing.congr (h : s.Establishing) (hrule : s'.rule = s.rule)
    (hcreate : s'.createMessage = s.createMessage)
    (hresponse : s'.responseMessage = s.responseMessage)
    (hstate : s'.state = .pendingInstalling → s.state = .pendingInstalling) :
    s'.Establishing where
  responses := hrule ▸ h.responses
  requests := hrule ▸ h.requests
  create := hcreate ▸ h.create
  response := fun hs => by
    rw [hcreate, hresponse]
    exact h.response (hstate hs)

theorem Establishing.numbered (h : s.Establishing) (c : KindMsg .create α) (lifetime : UInt32) :
    (s.numbered c lifetime).Establishing :=
  h.congr rfl rfl rfl fun hs => hs

theorem Establishing.configured (h : s.Establishing) (conf : AnslpConfig) :
    (s.configured conf).Establishing :=
  h.congr rfl rfl rfl fun hs => hs

/-- A CREATE gives the rule new objects to request. -/
theorem Establishing.accepted (h : s.Establishing) {c : KindMsg .create α}
    (hdecoded : c.body.IsDecoded) (hmsn : c.body.hasMsgSequenceNumber = true)
    (hrule : s'.rule = s.rule.resetRequestObjects d.newKey c.body.mspecObjects)
    (hcreate : s'.createMessage = some c)
    (hstate : s'.state ≠ .pendingInstalling) : s'.Establishing where
  responses := by
    rw [hrule]
    exact h.responses
  requests := by
    rw [hrule]
    exact AuctionRule.size_resetRequestObjects_lt d.newKey hdecoded
  create := by
    rintro c' hc'
    rw [hcreate] at hc'
    cases hc'
    exact ⟨hdecoded, hmsn⟩
  response := fun hs => absurd hs hstate

/-- Setting a session up keeps what is known and reports no success. -/
theorem Establishing.setUp (h : s.Establishing) {e : MsgEvent α} {c : KindMsg .create α}
    (hproper : IsProper d (.msg e)) (hc : e.ofKind? .create = some c)
    (hsetUp : SetUp conf d s c s' effects) :
    s'.Establishing ∧ s'.state ≠ .auctioning ∧
      ∀ m ∈ effects.filterMap Effect.sent?, m.reportsSuccess = false := by
  have hdecoded := hproper.isDecoded hc
  have hmsn := hproper.create e c rfl hc
  cases hsetUp with
  | notPathcoupled =>
      refine ⟨⟨h.responses, h.requests, ?_, by simp⟩, by simp, ?_⟩
      · rintro c' hc'
        cases hc'
        exact ⟨hdecoded, hmsn⟩
      · simp
  | checking => exact ⟨h.accepted hdecoded hmsn rfl rfl (by simp), by simp, by simp⟩
  | passed =>
      refine ⟨h.accepted hdecoded hmsn rfl rfl (by simp), by simp, ?_⟩
      simp
  | refused _ hexp =>
      refine ⟨h.accepted hdecoded hmsn rfl rfl (by simp), by simp, ?_⟩
      simp [NtlpMsg.reportsSuccess_createErrorResponse _ (hproper.failure _ _ _ hexp)]

/-- Before AUCTIONING every transition keeps what is known. -/
theorem Establishing.transits (h : s.Establishing) (hproper : IsProper d evt)
    (hstate : s.state ≠ .auctioning) (ht : Transits conf d s evt s' effects)
    (hstate' : s'.state ≠ .auctioning) : s'.Establishing := by
  cases ht with
  | discarded | pendingRejected | refreshRejected | biddingTaken | biddingPassed => exact h
  | createRejected | createWithoutLifetime | repeated =>
      exact h.congr rfl rfl rfl fun hs => hs
  | abandoned | givenUp | refused | installFailed | removalTimedOut | removed =>
      exact h.congr rfl rfl rfl nofun
  | created _ hc _ _ hsetUp =>
      exact (((h.configured conf).numbered _ _).setUp hproper hc hsetUp).1
  | replaced _ hc hsetUp => exact ((h.numbered _ _).setUp hproper hc hsetUp).1
  | checked _ _ _ herase =>
      exact ⟨h.responses, (ObjectList.size_eraseMissing_le herase).trans_lt h.requests,
        h.create, nofun⟩
  | responded _ hc hr hsuccess =>
      obtain ⟨hkind, _, hmsn, heq⟩ := MsgEvent.of_anslpResponse? hr
      exact ⟨h.responses, h.requests, h.create, fun _ =>
        ⟨_, _, hc, rfl, hproper.isDecoded hkind, hsuccess, hmsn, heq⟩⟩
  | installed => exact absurd rfl hstate'
  | refreshed hs | responsePassed hs | removing hs | closed hs => exact absurd hs hstate

/-- Before AUCTIONING no transition but the one that enters it reports success. -/
theorem Establishing.silent (h : s.Establishing) (hproper : IsProper d evt)
    (hstate : s.state ≠ .auctioning) (ht : Transits conf d s evt s' effects)
    (hstate' : s'.state ≠ .auctioning) :
    ∀ m ∈ effects.filterMap Effect.sent?, m.reportsSuccess = false := by
  cases ht with
  | discarded | createWithoutLifetime | pendingRejected | abandoned | givenUp | checked
  | responded | biddingTaken | biddingPassed | removalTimedOut | removed => simp
  | createRejected _ _ hcheck =>
      obtain ⟨_, _, rfl⟩ := Session.checkRequest_eq_error_iff.mp hcheck
      simp
  | created _ hc _ _ hsetUp =>
      exact (((h.configured conf).numbered _ _).setUp hproper hc hsetUp).2.2
  | replaced _ hc hsetUp => exact ((h.numbered _ _).setUp hproper hc hsetUp).2.2
  | repeated _ _ hpassedOn =>
      subst hpassedOn
      split_ifs <;> simp
  | refused _ _ _ hfailure => simp [hfailure]
  | installed => exact absurd rfl hstate'
  | installFailed _ _ _ _ hremoval =>
      subst hremoval
      split_ifs <;> simp [or_imp, forall_and]
  | refreshRejected hs | refreshed hs | responsePassed hs | removing hs | closed hs =>
      exact absurd hs hstate

/-- The RESPONSE for the initiator reports success for the stored CREATE. -/
theorem Establishing.isReport_buildResponse (h : s.Establishing)
    (hstate : s.state = .pendingInstalling) {c : KindMsg .create α} {r : KindMsg .response α}
    (hc : s.createMessage = some c) (hr : s.responseMessage = some r)
    {objects : ObjectList α} (hnew : DistinctKeys d.newKey objects.size)
    (hcount : objects.size = s.rule.getNumberMspecRequestObjects)
    (hrule : s'.rule = s.rule.setReponseObjects d.newKey objects) :
    (s'.buildResponse r).IsReport c.body r.body.mspecObjects objects.values := by
  obtain ⟨c', r', hc', hr', ⟨v, hv, hvlen⟩, hsuccess, hmsn, heq⟩ := h.response hstate
  rw [hc] at hc'
  rw [hr] at hr'
  cases hc'
  cases hr'
  have hlen : objects.values.length = objects.size := List.length_map _
  have hperm : s'.rule.objectResponses.values.Perm objects.values := by
    rw [hrule, AuctionRule.setReponseObjects, h.responses]
    exact ObjectList.setFresh_values (hlen ▸ hnew)
  have hrequests : s.rule.getNumberMspecRequestObjects < 2 ^ 30 := h.requests
  have hroom : r.body.mspecObjects.length + s'.rule.objectResponses.values.length ≤
      maxIpaps := by
    rw [hv.length_mspecObjects, hperm.length_eq, hlen, maxIpaps]
    omega
  have hcontents := hv.contents.setMspecObjects _ hroom
  refine ⟨?_, _, _, rfl, ?_, ?_, hcontents.mspecs, hperm⟩
  · rw [NtlpMsg.reportsSuccess, buildResponse, Option.any_some, AnslpMsg.isSuccessResponse,
      AnslpMsg.kind_setMspecObjects, r.kind_eq, AnslpMsg.isSuccess, hcontents.getBody]
    exact hsuccess
  · rw [AnslpMsg.hasMsgSequenceNumber, hcontents.getBody]
    exact hmsn
  · rw [AnslpMsg.getMsgSequenceNumber, hcontents.getBody]
    exact heq

/-- What the step that enters AUCTIONING does: the objects installed are as many as
requested, and one RESPONSE reports success for the stored CREATE. -/
def ReportsInstalled (s : NfSession α) (evt : Event α) (s' : NfSession α)
    (sent : List (NtlpMsg α)) : Prop :=
  ∃ objects c r m, evt = .apiInstall objects ∧
    objects.size = s.rule.getNumberMspecRequestObjects ∧ s'.createMessage = some c ∧
    s'.responseMessage = some r ∧ sent.filter NtlpMsg.reportsSuccess = [m] ∧
    m.IsReport c.body r.body.mspecObjects objects.values

theorem Establishing.reportsInstalled (h : s.Establishing) (hproper : IsProper d evt)
    (hstate : s.state ≠ .auctioning) (ht : Transits conf d s evt s' effects)
    (hstate' : s'.state = .auctioning) :
    ReportsInstalled s evt s' (effects.filterMap Effect.sent?) := by
  cases ht with
  | discarded | createRejected | createWithoutLifetime | pendingRejected | repeated
  | biddingTaken | biddingPassed => exact absurd hstate' hstate
  | created _ hc _ _ hsetUp =>
      exact absurd hstate' (((h.configured conf).numbered _ _).setUp hproper hc hsetUp).2.1
  | replaced _ hc hsetUp =>
      exact absurd hstate' ((h.numbered _ _).setUp hproper hc hsetUp).2.1
  | abandoned | givenUp | checked | responded | refused | installFailed | removalTimedOut
  | removed => cases hstate'
  | @installed objects r hs hr hcount =>
      obtain ⟨c, _, hc, _⟩ := h.response hs
      have hreport : (({ s with rule := s.rule.setReponseObjects d.newKey objects } :
          NfSession α).buildResponse r).IsReport c.body r.body.mspecObjects objects.values :=
        h.isReport_buildResponse hs hc hr (hproper.newKey _ rfl) hcount.symm rfl
      refine ⟨_, c, _, _, rfl, hcount.symm, hc, hr, ?_, hreport⟩
      simp [hreport.success]
  | refreshRejected hs | refreshed hs | responsePassed hs | removing hs | closed hs =>
      exact absurd hs hstate

theorem establishing_new (id : SessionId) : (new id : NfSession α).Establishing where
  responses := rfl
  requests := Nat.two_pow_pos 30
  create _ hc := by cases hc
  response hstate := by cases hstate

/-- What is known holds in every run that stays out of AUCTIONING. -/
theorem establishing_of_run {id : SessionId}
    {trace : List (Transition.Step (NfSession α) (Dispatcher α × Event α)
      (Outcome (NfSession α) α))} (hrun : Runs conf id trace s)
    (hbefore : ∀ st ∈ trace, st.pre.state ≠ .auctioning ∧ IsProper st.input.1 st.input.2)
    (hstate : s.state ≠ .auctioning) : s.Establishing := by
  refine hrun.invariant_of_guarded (I := fun s => s.state ≠ .auctioning → s.Establishing)
    (G := fun s input => s.state ≠ .auctioning ∧ IsProper input.1 input.2) ?_
    (fun _ => establishing_new id) hbefore hstate
  intro t input o u ht hguard hstep hstate'
  exact (ht hguard.1).transits hguard.2 hguard.1
    (transits_of_processEvent (next_of_machine hstep)) hstate'

end NfSession

/-! ## Responder -/

namespace NrSession

variable {α : Type} {conf : AnslpConfig} {d : Dispatcher α} {s s' : NrSession α}
  {evt : Event α} {effects : List (Effect α)}

/-- What is known of a responder before it enters AUCTIONING: nothing is installed, and the
stored CREATE has a sequence number. -/
structure Establishing (s : NrSession α) : Prop where
  responses : s.rule.objectResponses = OrderedMap.empty
  requests : s.rule.objectRequests.size < 2 ^ 30
  create : ∀ c, s.createMessage = some c →
    c.body.IsDecoded ∧ c.body.hasMsgSequenceNumber = true

theorem Establishing.congr (h : s.Establishing) (hrule : s'.rule = s.rule)
    (hcreate : s'.createMessage = s.createMessage) : s'.Establishing where
  responses := hrule ▸ h.responses
  requests := hrule ▸ h.requests
  create := hcreate ▸ h.create

/-- A stored CREATE gives the rule new objects to request. -/
theorem Establishing.accepted (h : s.Establishing) {c : KindMsg .create α}
    (hdecoded : c.body.IsDecoded) (hmsn : c.body.hasMsgSequenceNumber = true)
    (hrule : s'.rule = s.rule.resetRequestObjects d.newKey c.body.mspecObjects)
    (hcreate : s'.createMessage = some c) : s'.Establishing where
  responses := by
    rw [hrule]
    exact h.responses
  requests := by
    rw [hrule]
    exact AuctionRule.size_resetRequestObjects_lt d.newKey hdecoded
  create := by
    rintro c' hc'
    rw [hcreate] at hc'
    cases hc'
    exact ⟨hdecoded, hmsn⟩

/-- Before AUCTIONING every transition keeps what is known. -/
theorem Establishing.transits (h : s.Establishing) (hproper : IsProper d evt)
    (hstate : s.state ≠ .auctioning) (ht : Transits conf d s evt s' effects)
    (hstate' : s'.state ≠ .auctioning) : s'.Establishing := by
  cases ht with
  | discarded | refreshRejected | biddingPassed => exact h
  | createRejected | givenUp | installRetried | installFailed | biddingSent | removalRetried
  | removalGivenUp | removed => exact h.congr rfl rfl
  | createWithoutLifetime _ hc =>
      refine ⟨h.responses, h.requests, ?_⟩
      rintro c' hc'
      cases hc'
      exact ⟨hproper.isDecoded hc, hproper.create _ _ rfl hc⟩
  | started _ hc | startFailed _ hc =>
      exact h.accepted (hproper.isDecoded hc) (hproper.create _ _ rfl hc) rfl rfl
  | startedIdle | installed => exact absurd rfl hstate'
  | checkRetried _ hc =>
      obtain ⟨hdecoded, hmsn⟩ := h.create _ hc
      exact h.accepted hdecoded hmsn rfl hc
  | checked _ herase =>
      exact ⟨h.responses, (ObjectList.size_eraseMissing_le herase).trans_lt h.requests,
        h.create⟩
  | refreshed hs | removing hs | closed hs => exact absurd hs hstate

@[simp]
theorem reportsSuccess_buildBiddingMessage (s : NrSession α) (mri : Mri)
    (e : ApiBiddingEvent α) : (s.buildBiddingMessage mri e).reportsSuccess = false :=
  NtlpMsg.reportsSuccess_of_kind rfl (by rw [AnslpMsg.kind_setMspecObjects]; exact nofun)

theorem sent_effects (result : Session.CheckResult) (objects : ObjectList α) :
    (result.effects objects).filterMap Effect.sent? = [] := by
  cases result <;> rfl

/-- Before AUCTIONING no transition but the one that enters it reports success. -/
theorem silent (hstate : s.state ≠ .auctioning) (ht : Transits conf d s evt s' effects)
    (hstate' : s'.state ≠ .auctioning) :
    ∀ m ∈ effects.filterMap Effect.sent?, m.reportsSuccess = false := by
  cases ht with
  | discarded | createWithoutLifetime | started | startFailed | givenUp | checked
  | installRetried | biddingPassed | removalRetried | removalGivenUp | removed => simp
  | createRejected _ _ hcheck =>
      obtain ⟨_, _, rfl⟩ := Session.checkRequest_eq_error_iff.mp hcheck
      simp
  | startedIdle | installed => exact absurd rfl hstate'
  | checkRetried => simp [sent_effects]
  | installFailed _ _ _ hremoval =>
      subst hremoval
      split_ifs <;> simp
  | biddingSent _ htold =>
      subst htold
      split_ifs <;> simp
  | refreshRejected hs | refreshed hs | removing hs | closed hs => exact absurd hs hstate

/-- A report of success holds the sequence number of the CREATE and the installed
objects. -/
theorem isReport_successBody {c : KindMsg .create α} {m : NtlpMsg α} {lifetime : UInt32}
    {own installed : List (MspecObject α)} (hc : c.body.hasMsgSequenceNumber = true)
    (hm : m.msg = some ((c.ntlpMsg.successBody lifetime).setMspecObjects own))
    (hperm : own.Perm installed) (hroom : own.length ≤ maxIpaps) :
    m.IsReport c.body [] installed := by
  have hcontents := (c.ntlpMsg.contents_successBody lifetime).setMspecObjects own
    (by rwa [List.length_nil, Nat.zero_add])
  have hsuccess := c.ntlpMsg.isSuccessResponse_successBody lifetime
  refine ⟨?_, _, own, hm, ?_, ?_, hcontents.mspecs, hperm⟩
  · rw [AnslpMsg.isSuccessResponse, AnslpMsg.isSuccess,
      (c.ntlpMsg.contents_successBody lifetime).getBody] at hsuccess
    rw [NtlpMsg.reportsSuccess, hm, Option.any_some, AnslpMsg.isSuccessResponse,
      AnslpMsg.kind_setMspecObjects, AnslpMsg.isSuccess, hcontents.getBody]
    exact hsuccess
  · rw [AnslpMsg.hasMsgSequenceNumber, hcontents.getBody]
    simp [Function.update, AnslpMsg.responseBodies, c.msg_eq, hc]
  · rw [AnslpMsg.getMsgSequenceNumber, hcontents.getBody]
    simp [Function.update, AnslpMsg.responseBodies, c.msg_eq, hc]

/-- What the step that enters AUCTIONING does: the objects installed are as many as
requested, or the node does not take part and a CREATE is handled; one RESPONSE reports
success for the stored CREATE. -/
def ReportsInstalled (conf : AnslpConfig) (s : NrSession α) (evt : Event α)
    (s' : NrSession α) (sent : List (NtlpMsg α)) : Prop :=
  ∃ c m, s'.createMessage = some c ∧ sent.filter NtlpMsg.reportsSuccess = [m] ∧
    ((∃ objects, evt = .apiInstall objects ∧
        objects.size = s.rule.getNumberMspecRequestObjects ∧
        m.IsReport c.body [] objects.values) ∨
      ∃ e, evt = .msg e ∧ e.ofKind? .create = some c ∧
        (Session.checkParticipating .receiver c.body.getSelectionAuctioningEntities &&
          conf.installAuctionRules) = false ∧ m.IsReport c.body [] [])

theorem Establishing.reportsInstalled (h : s.Establishing) (hproper : IsProper d evt)
    (hstate : s.state ≠ .auctioning) (ht : Transits conf d s evt s' effects)
    (hstate' : s'.state = .auctioning) :
    ReportsInstalled conf s evt s' (effects.filterMap Effect.sent?) := by
  cases ht with
  | discarded | createRejected | createWithoutLifetime | checkRetried | installRetried
  | biddingPassed | biddingSent | removalRetried => exact absurd hstate' hstate
  | started | startFailed | givenUp | checked | installFailed | removalGivenUp
  | removed => cases hstate'
  | @startedIdle e c lifetime _ hc _ _ _ _ hidle =>
      have hreport : (c.ntlpMsg.createSuccessResponse lifetime).IsReport c.body [] [] :=
        isReport_successBody (hproper.create e c rfl hc) rfl .rfl (Nat.zero_le _)
      refine ⟨c, _, rfl, ?_, Or.inr ⟨e, rfl, hc, ?_, hreport⟩⟩
      · simp [hreport.success]
      · exact Session.of_checkRule_notParticipating hidle
  | @installed objects c hs hc hcount =>
      have hlen : objects.values.length = objects.size := List.length_map _
      have hperm : (s.rule.setReponseObjects d.newKey objects).objectResponses.values.Perm
          objects.values := by
        rw [AuctionRule.setReponseObjects, h.responses]
        exact ObjectList.setFresh_values (hlen ▸ hproper.newKey objects rfl)
      have hrequests : s.rule.getNumberMspecRequestObjects < 2 ^ 30 := h.requests
      have hroom : (s.rule.setReponseObjects d.newKey objects).objectResponses.values.length ≤
          maxIpaps := by
        rw [hperm.length_eq, hlen, ← hcount, maxIpaps]
        omega
      have hreport : (({ s with rule := s.rule.setReponseObjects d.newKey objects }
          : NrSession α).buildSuccessResponse c.ntlpMsg s.lifetime).IsReport c.body []
          objects.values :=
        isReport_successBody (h.create c hc).2 rfl hperm hroom
      refine ⟨c, _, hc, ?_, Or.inl ⟨objects, rfl, hcount.symm, hreport⟩⟩
      simp [hreport.success]
  | refreshRejected hs | refreshed hs | removing hs | closed hs => exact absurd hs hstate

theorem establishing_new (conf : AnslpConfig) (id : SessionId) (random : UInt32) :
    (new conf id random : NrSession α).Establishing where
  responses := rfl
  requests := Nat.two_pow_pos 30
  create _ hc := by cases hc

/-- What is known holds in every run that stays out of AUCTIONING. -/
theorem establishing_of_run {id : SessionId} {random : UInt32}
    {trace : List (Transition.Step (NrSession α) (Dispatcher α × Event α)
      (Outcome (NrSession α) α))} (hrun : Runs conf id random trace s)
    (hbefore : ∀ st ∈ trace, st.pre.state ≠ .auctioning ∧ IsProper st.input.1 st.input.2)
    (hstate : s.state ≠ .auctioning) : s.Establishing := by
  refine hrun.invariant_of_guarded (I := fun s => s.state ≠ .auctioning → s.Establishing)
    (G := fun s input => s.state ≠ .auctioning ∧ IsProper input.1 input.2) ?_
    (fun _ => establishing_new conf id random) hbefore hstate
  intro t input o u ht hguard hstep hstate'
  exact (ht hguard.1).transits hguard.2 hguard.1
    (transits_of_processEvent (next_of_machine hstep)) hstate'

end NrSession

/-! ## Both sessions -/

/-- A call that enters AUCTIONING reports what is installed, and any other one reports no
success. -/
def Outcome.ReportsOnly {σ α : Type} (up : σ → Prop) (installed : σ → List (NtlpMsg α) → Prop)
    (o : Outcome σ α) : Prop :=
  (∀ s', o.next? = some s' → up s' → installed s' o.sent) ∧
    ((∀ s', o.next? = some s' → ¬ up s') → ∀ m ∈ o.sent, m.reportsSuccess = false)

theorem Outcome.reportsOnly_next {σ α : Type} {up : σ → Prop}
    {installed : σ → List (NtlpMsg α) → Prop} {s' : σ} {effects : List (Effect α)}
    (hup : up s' → installed s' (effects.filterMap Effect.sent?))
    (hnot : ¬ up s' → ∀ m ∈ effects.filterMap Effect.sent?, m.reportsSuccess = false) :
    (Outcome.next s' effects).ReportsOnly up installed := by
  constructor
  · intro u hu
    cases hu
    exact hup
  · exact fun hall => hnot (hall s' rfl)

theorem Outcome.reportsOnly_of_sent_eq_nil {σ α : Type} {up : σ → Prop}
    {installed : σ → List (NtlpMsg α) → Prop} {o : Outcome σ α} (hnext : o.next? = none)
    (hsent : o.sent = []) : o.ReportsOnly up installed := by
  constructor
  · intro u hu
    rw [hnext] at hu
    cases hu
  · intro _ m hm
    rw [hsent] at hm
    cases hm

/-- In every run up to the first step that enters AUCTIONING, this step reports success
once for the installed objects, and no step before it does. -/
theorem reportsWhenInstalled_of_run {α : Type} (conf : AnslpConfig) :
    (∀ id trace (s : NfSession α), NfSession.Runs conf id trace s →
      (∀ st ∈ trace, st.pre.state ≠ .auctioning ∧ IsProper st.input.1 st.input.2) →
      s.state ≠ .auctioning → ∀ d evt, IsProper d evt →
        (s.processEvent conf d evt).ReportsOnly (fun s' => s'.state = .auctioning)
          (NfSession.ReportsInstalled s evt)) ∧
    ∀ id random trace (s : NrSession α), NrSession.Runs conf id random trace s →
      (∀ st ∈ trace, st.pre.state ≠ .auctioning ∧ IsProper st.input.1 st.input.2) →
      s.state ≠ .auctioning → ∀ d evt, IsProper d evt →
        (s.processEvent conf d evt).ReportsOnly (fun s' => s'.state = .auctioning)
          (NrSession.ReportsInstalled conf s evt) := by
  constructor
  · intro id trace s hrun hbefore hstate d evt hproper
    have hestablishing := NfSession.establishing_of_run hrun hbefore hstate
    have hended := NfSession.ended_processEvent conf d s evt
    generalize s.processEvent conf d evt = o at hended ⊢
    cases hended with
    | next ht =>
        exact Outcome.reportsOnly_next (hestablishing.reportsInstalled hproper hstate ht)
          (hestablishing.silent hproper hstate ht)
    | thrown hthrows =>
        exact Outcome.reportsOnly_of_sent_eq_nil rfl (hthrows.sent_eq_nil hstate)
    | undefined => exact Outcome.reportsOnly_of_sent_eq_nil rfl rfl
  · intro id random trace s hrun hbefore hstate d evt hproper
    have hestablishing := NrSession.establishing_of_run hrun hbefore hstate
    have hended := NrSession.ended_processEvent conf d s evt
    generalize s.processEvent conf d evt = o at hended ⊢
    cases hended with
    | next ht =>
        exact Outcome.reportsOnly_next (hestablishing.reportsInstalled hproper hstate ht)
          (NrSession.silent hstate ht)
    | thrown _ _ hsent => exact Outcome.reportsOnly_of_sent_eq_nil rfl (hsent hstate)
    | undefined => exact Outcome.reportsOnly_of_sent_eq_nil rfl rfl


/-! ### A responder that does not take part -/

namespace IdleResponder

open Sample

/-- The responder after it: a node that installs no rules is up at once. -/
def up : NrSession RawIpap :=
  { (NrSession.new conf 1 0).accepted conf surroundings arrival create 30 with
    rule := AuctionRule.empty
    stateTimer := 1
    state := .auctioning }

theorem isProper_arrival : IsProper surroundings (.msg arrival) where
  decoded := by
    rintro e a ⟨⟩ ha
    cases ha
    exact isDecoded_create
  create := by
    rintro e c ⟨⟩ hc
    cases hc
    rfl
  failure := nofun
  newKey := nofun

end IdleResponder

/-! ### A responder that installs an object -/

namespace Checked

open Sample hiding conf

theorem isProper_start : IsProper surroundings (.msg ⟨Bystander.create.ntlpMsg, true⟩) where
  decoded := by
    intro e a he ha
    cases he
    cases ha
    exact (NiSession.contents_createBody _ _ (by decide)).isDecoded (by decide)
  create := by
    intro e c he hc
    cases he
    cases hc
    rfl
  failure := by
    intro sid objects exp h
    cases h
  newKey := by
    intro objects h
    cases h

/-- A reply of the installer about one object. -/
theorem isProper_of_size {evt : Event RawIpap} (hmsg : ∀ e, evt ≠ .msg e)
    (hsize : ∀ objects, evt = .apiInstall objects → objects.size = 1) :
    IsProper surroundings evt where
  decoded := fun e _ he => absurd he (hmsg e)
  create := fun e _ he => absurd he (hmsg e)
  failure := by
    intro sid objects exp h
    cases h
  newKey := by
    intro objects h i j hi hj _
    rw [hsize objects h] at hi hj
    omega

/-- The reply that the object is installed makes the responder report success with it. -/
theorem reportsInstalled_upResponder :
    NrSession.ReportsInstalled conf installingResponder (.apiInstall kept) upResponder
      (installingResponder.processEvent conf surroundings (.apiInstall kept)).sent := by
  have honly := (reportsWhenInstalled_of_run conf).2 1 0 [start, reply] installingResponder
    runs_installingResponder ?_ nofun surroundings (.apiInstall kept)
    (isProper_of_size (fun _ h => by cases h) (by rintro objects ⟨⟩; rfl))
  · exact honly.1 upResponder rfl rfl
  · intro st hst
    rcases List.mem_cons.mp hst with rfl | hst
    · exact ⟨nofun, isProper_start⟩
    · rw [List.mem_singleton.mp hst]
      exact ⟨nofun, isProper_of_size (fun _ h => by cases h) (fun _ h => by cases h)⟩

end Checked
end Anslp
