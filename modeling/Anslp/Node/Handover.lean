import Anslp.Msg.Writability
import Anslp.Node.Mapper

/-!
# Calls that hand over what they send

The messages that a call of {lit}`process_event` sends are made into messages of GIST while the
call runs: {lit}`dispatcher::send_message` has the mapper serialize them.  A message that fails
its check fails an assertion there, and for one without an object that its class writes
{lit}`serialize_object` ends without a result.  So a call is undefined if it sends such a
message, although the handlers of the session are not.

The calls are those of {lit}`Session.NI`, {lit}`Session.NF` and {lit}`Session.NR`; what may
become of the messages is that of {lit}`Node.Mapper`, where a call for a missing object gives
no number.

Main results:

- Theorems {lit}`NiSession.HandedOver.isSent`, {lit}`NfSession.isSent_of_not_unsent` and
  {lit}`NrSession.isSent_of_not_unsent`: all that is sent can be handed over, unless the event
  is one of a list.
- Theorems {lit}`NiSession.Unsent.exists_not_isSent`, {lit}`NfSession.Unsent.exists_not_isSent`
  and {lit}`NrSession.Unsent.exists_not_isSent`: for these something sent cannot.
- Theorem {lit}`isDefined_of_run`: the calls in reachable sessions that end in a defined state,
  with all they send.

Current gaps:

- What log statements print of their arguments is left out; none of the sessions' evaluates a
  call through a pointer that may be null.
-/

namespace Anslp

/-! ## Handing over -/

namespace GistkaMapper

variable {α : Type} [IpapMessage α] {m : NtlpMsg α} {a : AnslpMsg α}

/-- How the call for a message fails, if it does.  An exception that leaves the mapper ends the
program as well. -/
def sendFault? (m : NtlpMsg α) : Option Fault :=
  match createApiMsg none m with
  | .ok _ => none
  | .error .assertion => some .assertion
  | .error .nullPointer => some .nullPointer
  | .error (.escape _) => some .noResult

/-- A message can be handed over. -/
def IsSent (m : NtlpMsg α) : Prop :=
  ∃ s, createApiMsg none m = .ok s

theorem sendFault?_eq_none_iff : sendFault? m = none ↔ IsSent m := by
  unfold sendFault? IsSent
  split <;> simp_all

/-- A message with a body can be handed over if its body can be written. -/
theorem isSent_iff (ha : m.msg = some a) : IsSent m ↔ a.Serializes := by
  have hpayload : a.Serializes ↔ ∃ r, a.serializeWith none (payloadBuffer a) = .ok r := by
    rw [AnslpMsg.serializeWith_none]
    rfl
  rw [hpayload, IsSent, createApiMsg, ha]
  dsimp only
  split <;> simp_all

end GistkaMapper

namespace Outcome

variable {σ α τ : Type} [IpapMessage α] {o : Outcome σ α} {s s' : σ} {state : σ → τ}
  {effects : List (Effect α)}

open GistkaMapper

omit [IpapMessage α] in
@[simp]
theorem sent_next : (next s effects).sent = effects.filterMap Effect.sent? :=
  rfl

omit [IpapMessage α] in
@[simp]
theorem sent_thrown {exp : RequestError} :
    (thrown exp s effects).sent = effects.filterMap Effect.sent? :=
  rfl

omit [IpapMessage α] in
/-- What was sent before a call that is defined is part of what is sent. -/
theorem mem_sent_after {m : NtlpMsg α} (h : ∀ f, o ≠ .undefined f)
    (hm : m ∈ effects.filterMap Effect.sent?) : m ∈ (o.after effects).sent := by
  cases o with
  | undefined f => exact absurd rfl (h f)
  | next => simpa [after] using Or.inl (List.mem_filterMap.mp hm)
  | thrown => simpa [after] using Or.inl (List.mem_filterMap.mp hm)

/-- A call that hands over what it sends: it is undefined if this fails for one of the
messages. -/
def handedOver (o : Outcome σ α) : Outcome σ α :=
  match o.sent.findSome? sendFault? with
  | some f => .undefined f
  | none => o

theorem handedOver_of_isSent (h : ∀ m ∈ o.sent, IsSent m) : o.handedOver = o := by
  have hnone : o.sent.findSome? sendFault? = none :=
    List.findSome?_eq_none_iff.mpr fun m hm => sendFault?_eq_none_iff.mpr (h m hm)
  rw [handedOver, hnone]

theorem handedOver_of_not_isSent {m : NtlpMsg α} (hm : m ∈ o.sent) (h : ¬ IsSent m) :
    ∃ f, o.handedOver = .undefined f := by
  cases hfind : o.sent.findSome? sendFault? with
  | none =>
      exact absurd (sendFault?_eq_none_iff.mp (List.findSome?_eq_none_iff.mp hfind m hm)) h
  | some f => exact ⟨f, by rw [handedOver, hfind]⟩

/-- Such a call ends in a defined state if the call does, and all it sends can be handed
over. -/
theorem isDefined_handedOver_iff :
    o.handedOver.IsDefined state s ↔ o.IsDefined state s ∧ ∀ m ∈ o.sent, IsSent m := by
  by_cases hall : ∀ m ∈ o.sent, IsSent m
  · rw [handedOver_of_isSent hall]
    exact (and_iff_left hall).symm
  · refine iff_of_false (fun hdefined => ?_) fun h => hall h.2
    simp only [not_forall] at hall
    rcases hall with ⟨m, hm, hsent⟩
    rcases handedOver_of_not_isSent hm hsent with ⟨f, hf⟩
    rw [hf] at hdefined
    exact hdefined

/-- If one list tells when the call is undefined and another one when it sends what cannot be
handed over, both together tell when it does not end in a defined state. -/
theorem isDefined_handedOver_iff_not {p q : Prop} (hdefined : o.IsDefined state s ↔ ¬ p)
    (hsent : ¬ q → ∀ m ∈ o.sent, IsSent m) (hfails : ¬ p → q → ∃ m ∈ o.sent, ¬ IsSent m) :
    o.handedOver.IsDefined state s ↔ ¬ p ∧ ¬ q := by
  rw [isDefined_handedOver_iff, hdefined]
  refine and_congr_right fun hp => ?_
  constructor
  · intro hall hq
    rcases hfails hp hq with ⟨m, hm, hnot⟩
    exact hnot (hall m hm)
  · exact hsent

theorem of_handedOver_eq_next (h : o.handedOver = .next s' effects) :
    o = .next s' effects ∧ ∀ m ∈ effects.filterMap Effect.sent?, IsSent m := by
  by_cases hall : ∀ m ∈ o.sent, IsSent m
  · rw [handedOver_of_isSent hall] at h
    subst h
    exact ⟨rfl, hall⟩
  · simp only [not_forall] at hall
    rcases hall with ⟨m, hm, hsent⟩
    rcases handedOver_of_not_isSent hm hsent with ⟨f, hf⟩
    rw [hf] at h
    cases h

end Outcome

/-- A machine whose calls hand over what they send. -/
def sendingMachine {σ α : Type} [IpapMessage α]
    (processEvent : Dispatcher α → σ → Event α → Outcome σ α) :
    Transition.System σ (Dispatcher α × Event α) (Outcome σ α) :=
  machine fun d s evt => (processEvent d s evt).handedOver

section

variable {σ α : Type} [IpapMessage α]
  {processEvent : Dispatcher α → σ → Event α → Outcome σ α} {s s' t : σ}
  {input : Dispatcher α × Event α} {o : Outcome σ α}

/-- A step of such a machine is a call that returned, and all it sent was handed over. -/
theorem next_of_sendingMachine (h : sendingMachine processEvent s input = (o, some s')) :
    processEvent input.1 s input.2 = .next s' o.effects ∧
      ∀ m ∈ o.effects.filterMap Effect.sent?, GistkaMapper.IsSent m :=
  Outcome.of_handedOver_eq_next (next_of_machine h)

/-- Its runs are runs of the machine. -/
theorem run_of_sendingMachine
    {trace : List (Transition.Step σ (Dispatcher α × Event α) (Outcome σ α))}
    (hrun : Transition.Run (sendingMachine processEvent) s trace t) :
    Transition.Run (machine processEvent) s trace t := by
  induction hrun with
  | nil => exact .nil
  | @snoc t u trace input o _ hlast ih =>
      have hnext := (next_of_sendingMachine hlast).1
      have ho : o = .next u o.effects := by
        rw [← next_of_machine hlast]
        exact (Prod.mk.inj hlast).1.symm
      refine ih.snoc ?_
      rw [machine, hnext, ← ho, ho]
      rfl

/-- A call that returns extends a run if all it sends can be handed over. -/
theorem run_snoc_of_isSent {trace : List (Transition.Step σ (Dispatcher α × Event α) (Outcome σ α))}
    {d : Dispatcher α} {evt : Event α}
    (hrun : Transition.Run (sendingMachine processEvent) s trace t)
    (hnext : (processEvent d t evt).next? = some s')
    (hsent : ∀ m ∈ (processEvent d t evt).sent, GistkaMapper.IsSent m) :
    Transition.Run (sendingMachine processEvent) s
      (trace ++ [⟨t, (d, evt), processEvent d t evt, s'⟩]) s' := by
  have hall := Outcome.handedOver_of_isSent hsent
  refine hrun.snoc ?_
  simp only [sendingMachine, machine, hall, hnext]

end

/-! ## Initiator -/

namespace NiSession

open GistkaMapper

variable {α : Type} [IpapMessage α] {d : Dispatcher α} {s s' : NiSession α} {evt : Event α}
  {effects : List (Effect α)}

/-- The events for which something is sent that cannot be handed over. -/
inductive Unsent (s : NiSession α) : Event α → Prop
  /-- CLOSE: a request with objects that are not writable or do not fit into a CREATE. -/
  | create {e : ApiCreateEvent α} (hstate : s.state = .close)
      (hfit : ¬ ObjectsFit 36 e.mspecObjects.values) : Unsent s (.apiCreate e)
  /-- AUCTIONING or PENDING_TEARDOWN: a bid without objects, or with objects that are not
  writable or do not fit into a BIDDING. -/
  | bidding {e : ApiBiddingEvent α} (hstate : s.state = .auctioning ∨ s.state = .pendingTeardown)
      (hfit : ¬ (e.mspecObjects.values ≠ [] ∧ ObjectsFit 12 e.mspecObjects.values)) :
      Unsent s (.apiBidding e)

/-- The stored messages have been handed over. -/
structure HandedOver (s : NiSession α) : Prop where
  create : ∀ c, s.lastCreateMsg = some c → IsSent c.ntlpMsg
  refresh : ∀ c, s.lastRefreshMsg = some c → IsSent c.ntlpMsg

variable [LawfulIpapMessage α]

theorem isSent_buildCreateMessage_iff (mri : Mri) (e : ApiCreateEvent α) :
    IsSent (s.buildCreateMessage mri e).ntlpMsg ↔ ObjectsFit 36 e.mspecObjects.values :=
  (isSent_iff rfl).trans (AnslpMsg.serializes_create_iff _ _ _ _ _)

theorem isSent_buildRefreshMessage (mri : Mri) : IsSent (s.buildRefreshMessage mri).ntlpMsg :=
  (isSent_iff rfl).mpr (AnslpMsg.serializes_refresh _ _)

theorem isSent_buildBiddingMessage_iff (mri : Mri) (e : ApiBiddingEvent α) :
    IsSent (s.buildBiddingMessage mri e) ↔
      e.mspecObjects.values ≠ [] ∧ ObjectsFit 12 e.mspecObjects.values :=
  (isSent_iff rfl).trans (AnslpMsg.serializes_bidding_iff _ _)

/-- What is stored was sent before. -/
theorem HandedOver.transits (h : s.HandedOver) (ht : Transits d s evt s' effects)
    (hsent : ∀ m ∈ effects.filterMap Effect.sent?, IsSent m) : s'.HandedOver := by
  cases ht with
  | created =>
      refine ⟨fun c hc => ?_, h.refresh⟩
      cases hc
      exact hsent _ List.mem_cons_self
  | createdUntold =>
      refine ⟨fun c hc => ?_, h.refresh⟩
      cases hc
      exact hsent _ List.mem_cons_self
  | tornDown | uninstalled => exact ⟨nofun, h.refresh⟩
  | refreshSent | tearingDown =>
      refine ⟨h.create, fun c hc => ?_⟩
      cases hc
      exact isSent_buildRefreshMessage _
  | removing _ hends | closed _ hends => cases hends <;> exact ⟨h.create, h.refresh⟩
  | _ => exact ⟨h.create, h.refresh⟩

/-- All that a call sends can be handed over, unless the event is one of the list. -/
theorem HandedOver.isSent (h : s.HandedOver) (hevt : ¬ s.Unsent evt) :
    ∀ m ∈ (s.processEvent d evt).sent, IsSent m := by
  have hthrown : (s.processEvent d evt).ThrowsOnly IsSent := throwsOnly_processEvent
  have hended := ended_processEvent d s evt
  generalize s.processEvent d evt = o at hended hthrown
  cases hended with
  | undefined => exact List.forall_mem_nil _
  | thrown => exact hthrown _ _ _ rfl
  | next ht =>
      simp only [Outcome.sent, Outcome.effects]
      cases ht with
      | created hstate _ htold =>
          have hfit := not_not.mp fun hfit => hevt (.create hstate hfit)
          subst htold
          simpa using (isSent_buildCreateMessage_iff _ _).mpr hfit
      | createdUntold hstate =>
          have hfit := not_not.mp fun hfit => hevt (.create hstate hfit)
          simpa using (isSent_buildCreateMessage_iff _ _).mpr hfit
      | createRetried _ hc => simpa using h.create _ hc
      | refreshRetried _ hc => simpa using h.refresh _ hc
      | failed _ hreported =>
          rw [Effect.sent_eq_nil_of_reports hreported]
          exact List.forall_mem_nil _
      | tornDown | refreshSent | tearingDown => simpa using isSent_buildRefreshMessage (α := α) _
      | uninstalled _ _ _ hremoval hreported =>
          subst hremoval
          have hnil := Effect.sent_eq_nil_of_reports hreported
          rw [List.filterMap_append, List.filterMap_cons, hnil]
          split_ifs <;> simpa using isSent_buildRefreshMessage (α := α) _
      | biddingSent hstate =>
          have hfit := not_not.mp fun hfit => hevt (.bidding hstate hfit)
          simpa using (isSent_buildBiddingMessage_iff _ _).mpr hfit
      | removing _ hends | closed _ hends => cases hends <;> simp
      | _ => simp

/-- For the events of the list something is sent that cannot be handed over. -/
theorem Unsent.exists_not_isSent (hevt : s.Unsent evt) (hstored : s.Stored)
    (hsafe : ¬ s.Unsafe d evt) : ∃ m ∈ (s.processEvent d evt).sent, ¬ IsSent m := by
  cases hevt with
  | @create e hstate hfit =>
      have hunfit : ¬ s.Unfit d e := fun h => hsafe (.create hstate h)
      refine ⟨((s.setUp d e).buildCreateMessage (requestedMri e) e).ntlpMsg, ?_,
        (isSent_buildCreateMessage_iff _ _).not.mpr hfit⟩
      simp only [processEvent, hstate, handleStateClose, setupSession_of_fit hunfit]
      split_ifs <;> simp [Outcome.sent, Outcome.effects]
  | @bidding e hstate hfit =>
      have hopen : s.state ≠ .close := by
        rcases hstate with h | h <;> simp [h]
      rcases Option.isSome_iff_exists.mp (hstored.routing hopen) with ⟨mri, hmri⟩
      refine ⟨s.buildBiddingMessage mri e, ?_, (isSent_buildBiddingMessage_iff _ _).not.mpr hfit⟩
      rcases hstate with hstate | hstate <;>
        simp [processEvent, hstate, handleStateAuctioning, handleStatePendingTeardown,
          processApiBidding, hmri, Outcome.sent, Outcome.effects]

/-- The runs of an initiator from its start in which all that is sent is handed over. -/
abbrev SendingRuns (conf : AnslpConfig) (id : SessionId) (random : UInt32)
    (trace : List (Transition.Step (NiSession α) (Dispatcher α × Event α)
      (Outcome (NiSession α) α))) (s : NiSession α) : Prop :=
  Transition.Run (sendingMachine processEvent) (new conf id random) trace s

theorem handedOver_of_run {conf : AnslpConfig} {id : SessionId} {random : UInt32}
    {trace : List (Transition.Step (NiSession α) (Dispatcher α × Event α)
      (Outcome (NiSession α) α))} (hrun : SendingRuns conf id random trace s) : s.HandedOver := by
  refine hrun.invariant (fun _ _ _ _ hs hstep => ?_) ⟨nofun, nofun⟩
  have hnext := next_of_sendingMachine hstep
  exact hs.transits (transits_of_processEvent hnext.1) hnext.2

/-- In a reachable session a call ends in a defined state, with all it sends, unless the event
is one of the lists. -/
theorem isDefined_handedOver_iff_of_run {conf : AnslpConfig} {id : SessionId} {random : UInt32}
    {trace : List (Transition.Step (NiSession α) (Dispatcher α × Event α)
      (Outcome (NiSession α) α))} (hrun : SendingRuns conf id random trace s) :
    (s.processEvent d evt).handedOver.IsDefined NiSession.state s ↔
      ¬ s.Unsafe d evt ∧ ¬ s.Unsent evt := by
  have hstored := stored_of_run (run_of_sendingMachine hrun)
  exact Outcome.isDefined_handedOver_iff_not (isDefined_iff_of_stored hstored)
    (handedOver_of_run hrun).isSent fun hsafe hunsent => hunsent.exists_not_isSent hstored hsafe

end NiSession

/-! ## Messages received and answers -/

/-- A message received comes from the decoder. -/
def Event.Decodes {α : Type} [IpapMessage α] : Event α → Prop
  | .msg e => ∀ a, e.ntlpMsg.msg = some a → a.Decodes
  | _ => True

/-- The keys generated for installed objects are different from each other and from those of
the rule. -/
def Dispatcher.KeysFresh {α : Type} (d : Dispatcher α) (rule : AuctionRule α)
    (installed : ObjectList α) : Prop :=
  DistinctKeys d.newKey installed.values.length ∧
    ∀ i, i < installed.values.length → rule.objectResponses.find? (d.newKey i) = none

namespace GistkaMapper

variable {α : Type} [IpapMessage α] {m : NtlpMsg α} {e : MsgEvent α} {kind : MsgKind}
  {c : KindMsg kind α}

/-- What sessions build comes from the decoder where it is received. -/
theorem decodes_of_wellBuilt [LawfulIpapMessage α] {a : AnslpMsg α} (hbuilt : a.WellBuilt)
    (hfits : ∀ o ∈ a.mspecObjects, Fits o) (hser : a.Serializes) : a.Decodes := by
  rcases hser with ⟨⟨payload, n⟩, hser⟩
  rw [← AnslpMsg.serializeWith_none] at hser
  rcases deserialize_payload hbuilt hfits hser with ⟨m, k, hread⟩
  exact ⟨_, _, _, _, _, hread⟩

theorem decodes_of_ofKind? (h : (Event.msg e).Decodes) (hc : e.ofKind? kind = some c) :
    c.body.Decodes :=
  h c.body (MsgEvent.ntlpMsg_of_ofKind? hc ▸ c.msg_eq)

/-- A RESPONSE that reports an error cannot be handed over. -/
theorem not_isSent_createResponse (m : NtlpMsg α) (severity responseCode : UInt8) :
    ¬ IsSent (m.createResponse severity responseCode) :=
  (isSent_iff rfl).not.mpr (AnslpMsg.not_serializes_responseBody m severity responseCode)

theorem not_isSent_createErrorResponse (m : NtlpMsg α) (exp : RequestError) :
    ¬ IsSent (m.createErrorResponse exp) :=
  not_isSent_createResponse m _ _

variable [LawfulIpapMessage α]

/-- A copy of a message received can be handed over if the message is whole. -/
theorem isSent_copyForForwarding_iff (h : (Event.msg e).Decodes) (hc : e.ofKind? kind = some c) :
    IsSent c.ntlpMsg.copyForForwarding ↔ c.body.IsWhole :=
  (isSent_iff (m := c.ntlpMsg.copyForForwarding) c.msg_eq).trans
    (decodes_of_ofKind? h hc).serializes_iff

/-- A RESPONSE that reports success can be handed over if the message it answers has a sequence
number. -/
theorem isSent_createSuccessResponse_iff (c : KindMsg kind α) (lifetime : UInt32) :
    IsSent (c.ntlpMsg.createSuccessResponse lifetime) ↔ c.body.hasMsgSequenceNumber = true := by
  refine (isSent_iff rfl).trans ((AnslpMsg.serializes_success_iff c.msg_eq lifetime []).trans ?_)
  exact and_iff_left (.nil (by decide))

end GistkaMapper

namespace AuctionRule

variable {α : Type} {d : Dispatcher α} {rule : AuctionRule α} {installed : ObjectList α}

/-- Under fresh keys the response objects are the old ones and the installed ones. -/
theorem perm_setReponseObjects (h : d.KeysFresh rule installed) :
    (rule.setReponseObjects d.newKey installed).objectResponses.values.Perm
      (rule.objectResponses.values ++ installed.values) :=
  ObjectList.setFresh_values_of_disjoint _ _ h.1 h.2

/-- Whatever the keys, they are some of these. -/
theorem subperm_setReponseObjects (newKey : Nat → MspecRuleKey) (rule : AuctionRule α)
    (installed : ObjectList α) :
    (rule.setReponseObjects newKey installed).objectResponses.values.Subperm
      (rule.objectResponses.values ++ installed.values) :=
  ObjectList.subperm_setFresh newKey _ _

end AuctionRule

/-! ## Forwarder -/

namespace NfSession

open Session GistkaMapper

variable {α : Type} {conf : AnslpConfig} {d : Dispatcher α} {s s' : NfSession α}
  {evt : Event α} {effects : List (Effect α)}

/-- The events that are answered with an error. -/
inductive AnswersError (conf : AnslpConfig) (d : Dispatcher α) (s : NfSession α) :
    Event α → Prop
  /-- CLOSE: a CREATE that fails the checks. -/
  | rejected {e : MsgEvent α} {c : KindMsg .create α} {exp : RequestError}
      (hstate : s.state = .close) (hc : e.ofKind? .create = some c)
      (hcheck : checkRequest d e c.body.getSessionLifetime conf.nfMaxSessionLifetime =
        .error exp) : AnswersError conf d s (.msg e)
  /-- Pending: a CREATE without authorization. -/
  | unauthorized {e : MsgEvent α} {c : KindMsg .create α} (hstate : s.IsPending)
      (hc : e.ofKind? .create = some c) (hauthorized : d.isAuthorized e = false) :
      AnswersError conf d s (.msg e)
  /-- A CREATE whose routing is not path-coupled. -/
  | notPathcoupled {e : MsgEvent α} {c : KindMsg .create α} {mrm : UInt8} {downstream : Bool}
      (hsets : s.SetsUp conf d e c) (hmri : c.ntlpMsg.routingInfo = .other mrm downstream) :
      AnswersError conf d s (.msg e)
  /-- A CREATE whose objects the installer refuses to check. -/
  | refused {e : MsgEvent α} {c : KindMsg .create α} {flow : Flow} {exp : RequestError}
      (hsets : s.SetsUp conf d e c) (hmri : c.ntlpMsg.routingInfo = .pathcoupled flow true)
      (hrefused : checkRule conf d .forwarder s.id c.body.getSelectionAuctioningEntities
        (ObjectList.setFresh d.newKey c.body.mspecObjects OrderedMap.empty) = .error exp) :
      AnswersError conf d s (.msg e)
  /-- Pending: nothing is heard from downstream. -/
  | givenUp {evt : Event α} (hstate : s.IsPending)
      (hevt : evt = .noNextNodeFound ∨ evt = .timer s.stateTimer) : AnswersError conf d s evt
  /-- PENDING_INSTALLING: some object is not installed. -/
  | installFailed {mspecObjects : ObjectList α} (hstate : s.state = .pendingInstalling)
      (hcount : s.rule.getNumberMspecRequestObjects ≠ mspecObjects.size)
      (hremoved : s.rule.getNumberMspecResponseObjects > 0 →
        d.removeError s.id s.rule = none) : AnswersError conf d s (.apiInstall mspecObjects)
  /-- AUCTIONING: a REFRESH that fails the checks. -/
  | refreshRejected {e : MsgEvent α} {c : KindMsg .refresh α} {exp : RequestError}
      (hstate : s.state = .auctioning) (hc : e.ofKind? .refresh = some c)
      (hcheck : checkRequest d e c.body.getSessionLifetime s.maxLifetime = .error exp) :
      AnswersError conf d s (.msg e)

/-- The messages that are passed on as they are. -/
inductive PassesOn (d : Dispatcher α) (s : NfSession α) : MsgEvent α → Prop
  /-- Pending: the initiator gives up. -/
  | abandoned {e : MsgEvent α} {c previous : KindMsg .create α} (hstate : s.IsPending)
      (hc : e.ofKind? .create = some c) (hprevious : s.createMessage = some previous)
      (hauthorized : d.isAuthorized e = true)
      (hmsn : c.body.getMsgSequenceNumber > previous.body.getMsgSequenceNumber)
      (hlifetime : c.body.getSessionLifetime = 0) : PassesOn d s e
  /-- PENDING or PENDING_INSTALLING: the initiator sends its CREATE again. -/
  | repeated {e : MsgEvent α} {c previous : KindMsg .create α} (hstate : s.IsPending)
      (hchecked : s.state ≠ .pendingCheck) (hc : e.ofKind? .create = some c)
      (hprevious : s.createMessage = some previous) (hauthorized : d.isAuthorized e = true)
      (hmsn : c.body.getMsgSequenceNumber = previous.body.getMsgSequenceNumber) :
      PassesOn d s e
  /-- PENDING: failure downstream. -/
  | refused {e : MsgEvent α} {c : KindMsg .create α} {r : KindMsg .response α}
      (hstate : s.state = .pending) (hc : s.createMessage = some c)
      (hr : e.anslpResponse? c = some r) (hfailure : r.body.isSuccess = false) : PassesOn d s e
  /-- AUCTIONING: a new REFRESH. -/
  | refreshed {e : MsgEvent α} {c : KindMsg .refresh α} {lifetime : UInt32}
      (hstate : s.state = .auctioning) (hc : e.ofKind? .refresh = some c)
      (hcheck : checkRequest d e c.body.getSessionLifetime s.maxLifetime = .ok lifetime)
      (hmsn : isGreaterThan c.body.getMsgSequenceNumber s.msn = true) : PassesOn d s e
  /-- AUCTIONING: the RESPONSE to the last REFRESH. -/
  | response {e : MsgEvent α} {c : KindMsg .refresh α} {r : KindMsg .response α}
      (hstate : s.state = .auctioning) (hc : s.refreshMessage = some c)
      (hr : e.anslpResponse? c = some r) : PassesOn d s e
  /-- AUCTIONING or PENDING_TEARDOWN: a bid for another node. -/
  | bidding {e : MsgEvent α} {b : KindMsg .bidding α}
      (hstate : s.state = .auctioning ∨ s.state = .pendingTeardown)
      (hb : e.ofKind? .bidding = some b) (hnode : e.forThisNode = false) : PassesOn d s e

variable [IpapMessage α]

/-- The events for which something is sent that cannot be handed over. -/
inductive Unsent (conf : AnslpConfig) (d : Dispatcher α) (s : NfSession α) : Event α → Prop
  /-- An event that is answered with an error. -/
  | answersError {evt : Event α} (h : s.AnswersError conf d evt) : Unsent conf d s evt
  /-- A message that is passed on, and that is not whole. -/
  | passedOn {e : MsgEvent α} {a : AnslpMsg α} (h : s.PassesOn d e)
      (ha : e.ntlpMsg.msg = some a) (hwhole : ¬ a.IsWhole) : Unsent conf d s (.msg e)
  /-- A CREATE that is passed on at once, with objects that are not writable or do not fit. -/
  | passed {e : MsgEvent α} {c : KindMsg .create α} {flow : Flow} (hsets : s.SetsUp conf d e c)
      (hmri : c.ntlpMsg.routingInfo = .pathcoupled flow true)
      (hidle : checkRule conf d .forwarder s.id c.body.getSelectionAuctioningEntities
        (ObjectList.setFresh d.newKey c.body.mspecObjects OrderedMap.empty) = .notParticipating)
      (hfit : ¬ ObjectsFit 36 c.body.mspecObjects) : Unsent conf d s (.msg e)
  /-- PENDING_CHECK: the reply to the check, after such a CREATE. -/
  | checked {mspecObjects : ObjectList α} {c : KindMsg .create α}
      (hstate : s.state = .pendingCheck) (hc : s.createMessage = some c)
      (hfit : ¬ ObjectsFit 36 c.body.mspecObjects) : Unsent conf d s (.apiCheck mspecObjects)
  /-- PENDING_INSTALLING: all requested objects are installed, but the RESPONSE is not whole, or
  the response objects are not writable or do not fit behind it. -/
  | installed {mspecObjects : ObjectList α} {r : KindMsg .response α}
      (hstate : s.state = .pendingInstalling) (hr : s.responseMessage = some r)
      (hcount : s.rule.getNumberMspecRequestObjects = mspecObjects.size)
      (hfit : ¬ (r.body.IsWhole ∧ ObjectsFit r.body.getSerializedSize
        (s.rule.objectResponses.values ++ mspecObjects.values))) :
      Unsent conf d s (.apiInstall mspecObjects)

/-- The stored RESPONSE comes from the decoder. -/
def StoresResponse (s : NfSession α) : Prop :=
  ∀ r, s.responseMessage = some r → r.body.Decodes

theorem StoresResponse.transits (h : s.StoresResponse) (hevt : evt.Decodes)
    (ht : Transits conf d s evt s' effects) : s'.StoresResponse := by
  cases ht with
  | responded _ _ hr =>
      intro r' hr'
      cases hr'
      exact decodes_of_ofKind? hevt (MsgEvent.of_anslpResponse? hr).1
  | created _ _ _ _ hsetUp | replaced _ _ hsetUp => cases hsetUp <;> exact h
  | removing _ hends | closed _ hends => cases hends <;> exact h
  | _ => exact h

/-- Such an event is answered with an error. -/
theorem AnswersError.exists_not_isSent (h : s.AnswersError conf d evt) (hstored : s.Stored)
    (hsafe : ¬ s.Unsafe conf d evt) : ∃ m ∈ (s.processEvent conf d evt).sent, ¬ IsSent m := by
  cases h with
  | @rejected e c exp hstate hc hcheck =>
      refine ⟨_, ?_, not_isSent_createErrorResponse c.ntlpMsg exp⟩
      simp [processEvent, hstate, handleStateClose, hc, hcheck]
  | @unauthorized e c hstate hc hauthorized =>
      rcases Option.ne_none_iff_exists'.mp (hstored.createMessage_ne_none hstate) with
        ⟨previous, hprevious⟩
      refine ⟨_, ?_, not_isSent_createErrorResponse c.ntlpMsg authorizationError⟩
      rw [processEvent_of_isPending hstate hc]
      simp [processPendingCreate, hprevious, hauthorized]
  | @notPathcoupled e c mrm downstream hsets hmri =>
      rcases hsets.processEvent_eq with ⟨s₁, _, hs₁⟩
      refine ⟨_, ?_, not_isSent_createErrorResponse c.ntlpMsg mriError⟩
      simp [hs₁, processStateClose, hmri]
  | @refused e c flow exp hsets hmri hrefused =>
      have hread : c.body.mspecReadable = true :=
        eq_true_of_ne_false fun hread => hsafe (.create hsets hmri hread)
      rcases hsets.processEvent_eq with ⟨s₁, hid, hs₁⟩
      refine ⟨_, ?_, not_isSent_createErrorResponse c.ntlpMsg exp⟩
      rw [← hid] at hrefused
      simp [hs₁, processStateClose, hmri, AnslpMsg.getMspecObjects_eq, hread, checkOrPass,
        AuctionRule.resetRequestObjects, hrefused]
  | givenUp hstate hevt =>
      rcases Option.ne_none_iff_exists'.mp (hstored.createMessage_ne_none hstate) with ⟨c, hc⟩
      refine ⟨_, ?_, not_isSent_createResponse c.ntlpMsg scPermanentFailure failNrNotReached⟩
      rcases hstate with hstate | hstate | hstate <;> rcases hevt with rfl | rfl <;>
        simp [processEvent, hstate, handleStatePendingCheck, handleStatePending,
          handleStatePendingInstalling, giveUp, hc]
  | @installFailed mspecObjects hstate hcount hremoved =>
      rcases Option.isSome_iff_exists.mp (hstored.response hstate) with ⟨r, hr⟩
      rcases Option.isSome_iff_exists.mp (hstored.nrMri (Or.inr (Or.inr hstate))) with
        ⟨nrMri, hmri⟩
      refine ⟨_, ?_, not_isSent_createResponse r.ntlpMsg scPermanentFailure failInternalError⟩
      have hremoval : (if s.rule.getNumberMspecResponseObjects > 0 then
          d.removeError s.id s.rule else none) = none := by
        split_ifs with hinstalled
        · exact hremoved hinstalled
        · rfl
      simp only [processEvent, hstate, handleStatePendingInstalling, hr, processInstall,
        if_neg hcount, hremoval, hmri]
      simp
  | @refreshRejected e c exp hstate hc hcheck =>
      refine ⟨_, ?_, not_isSent_createErrorResponse c.ntlpMsg exp⟩
      simp [processEvent, hstate, handleStateAuctioning, hc, processRefresh, hcheck]

omit [IpapMessage α] in
theorem removeOrClose_ne_undefined (d : Dispatcher α) (s : NfSession α) (seconds : UInt32)
    (f : Fault) : s.removeOrClose d seconds ≠ .undefined f := by
  unfold removeOrClose
  split_ifs
  · split <;> exact nofun
  · exact nofun

omit [IpapMessage α] in
/-- Such a message is passed on. -/
theorem PassesOn.mem_sent (conf : AnslpConfig) {e : MsgEvent α} (h : s.PassesOn d e) :
    ∃ (kind : MsgKind) (c : KindMsg kind α), e.ofKind? kind = some c ∧
      c.ntlpMsg.copyForForwarding ∈ (s.processEvent conf d (.msg e)).sent := by
  cases h with
  | @abandoned c previous hstate hc hprevious hauthorized hmsn hlifetime =>
      refine ⟨.create, c, hc, ?_⟩
      rw [processEvent_of_isPending hstate hc]
      simp [processPendingCreate, hprevious, hauthorized, hmsn, hlifetime]
  | @repeated c previous hstate hchecked hc hprevious hauthorized hmsn =>
      refine ⟨.create, c, hc, ?_⟩
      rw [processEvent_of_isPending hstate hc]
      simp [processPendingCreate, hprevious, hauthorized, hmsn, hchecked]
  | @refused c r hstate hc hr hfailure =>
      have hresponse := (MsgEvent.of_anslpResponse? hr).1
      have hcreate : e.ofKind? .create = none :=
        MsgEvent.ofKind?_eq_none_of_ne hresponse (by decide)
      refine ⟨.response, r, hresponse, ?_⟩
      simp [processEvent, hstate, handleStatePending, hcreate, hc, hr, processResponse, hfailure]
  | @refreshed c lifetime hstate hc hcheck hmsn =>
      refine ⟨.refresh, c, hc, ?_⟩
      simp [processEvent, hstate, handleStateAuctioning, hc, processRefresh, hcheck, hmsn]
  | @response c r hstate hc hr =>
      have hresponse := (MsgEvent.of_anslpResponse? hr).1
      have hrefresh : e.ofKind? .refresh = none :=
        MsgEvent.ofKind?_eq_none_of_ne hresponse (by decide)
      have hbidding : e.ofKind? .bidding = none :=
        MsgEvent.ofKind?_eq_none_of_ne hresponse (by decide)
      refine ⟨.response, r, hresponse, ?_⟩
      simp only [processEvent, hstate, handleStateAuctioning, hrefresh, hbidding, hc, hr,
        processRefreshResponse]
      split_ifs
      · simp
      · exact Outcome.mem_sent_after (removeOrClose_ne_undefined _ _ _) (by simp)
  | @bidding b hstate hb hnode =>
      have hrefresh : e.ofKind? .refresh = none := MsgEvent.ofKind?_eq_none_of_ne hb (by decide)
      refine ⟨.bidding, b, hb, ?_⟩
      rcases hstate with hstate | hstate <;>
        simp [processEvent, hstate, handleStateAuctioning, handleStatePendingTeardown, hrefresh, hb,
          processBidding, hnode]

variable [LawfulIpapMessage α]

theorem isSent_buildCreateMessage_iff (nrMri : Mri) (c : AnslpMsg α)
    (missingObjects : List (MspecObject α)) :
    IsSent (s.buildCreateMessage nrMri c missingObjects) ↔ ObjectsFit 36 missingObjects :=
  (isSent_iff rfl).trans (AnslpMsg.serializes_create_iff _ _ _ _ _)

theorem isSent_buildResponse_iff {r : KindMsg .response α} (h : r.body.Decodes) :
    IsSent (s.buildResponse r) ↔ r.body.IsWhole ∧
      ObjectsFit r.body.getSerializedSize s.rule.objectResponses.values :=
  (isSent_iff rfl).trans (h.serializes_setMspecObjects_iff r.kind_eq _)

/-- What is sent when a CREATE sets the session up can be handed over. -/
theorem SetUp.isSent {s₁ : NfSession α} {e : MsgEvent α} {c : KindMsg .create α}
    (h : SetUp conf d s₁ c s' effects) (hid : s₁.id = s.id) (hsets : s.SetsUp conf d e c)
    (hevt : ¬ s.Unsent conf d (.msg e)) : ∀ m ∈ effects.filterMap Effect.sent?, IsSent m := by
  cases h with
  | notPathcoupled hmri => exact absurd (.answersError (.notPathcoupled hsets hmri)) hevt
  | checking => simp
  | passed _ hmri hidle =>
      rw [hid] at hidle
      have hfit := not_not.mp fun hfit => hevt (.passed hsets hmri hidle hfit)
      simpa using (isSent_buildCreateMessage_iff _ _ _).mpr hfit
  | refused _ _ hmri hrefused =>
      rw [hid] at hrefused
      exact absurd (.answersError (.refused hsets hmri hrefused)) hevt

/-- A message that is passed on can be handed over. -/
theorem isSent_of_passesOn {e : MsgEvent α} {kind : MsgKind} {c : KindMsg kind α}
    (hevt : ¬ s.Unsent conf d (.msg e)) (hdecodes : (Event.msg e).Decodes)
    (h : s.PassesOn d e) (hc : e.ofKind? kind = some c) : IsSent c.ntlpMsg.copyForForwarding := by
  have hmsg : e.ntlpMsg.msg = some c.body := MsgEvent.ntlpMsg_of_ofKind? hc ▸ c.msg_eq
  apply (isSent_copyForForwarding_iff hdecodes hc).mpr
  exact not_not.mp fun hwhole => hevt (.passedOn h hmsg hwhole)

/-- What precedes the end of the session can be handed over. -/
theorem Ends.isSent {before : List (Effect α)} {s₁ : NfSession α} {seconds : UInt32}
    (h : s.Ends evt before s₁ seconds) (hstate : s.state = .auctioning)
    (hevt : ¬ s.Unsent conf d evt) (hdecodes : evt.Decodes) :
    ∀ m ∈ before.filterMap Effect.sent?, IsSent m := by
  cases h with
  | response hc hr =>
      simpa using isSent_of_passesOn hevt hdecodes (.response hstate hc hr)
        (MsgEvent.of_anslpResponse? hr).1
  | _ => simp

/-- All that a call sends can be handed over, unless the event is one of the list. -/
theorem isSent_of_not_unsent (h : s.StoresResponse) (hdecodes : evt.Decodes)
    (hevt : ¬ s.Unsent conf d evt) : ∀ m ∈ (s.processEvent conf d evt).sent, IsSent m := by
  have hended := ended_processEvent conf d s evt
  generalize s.processEvent conf d evt = o at hended
  cases hended with
  | undefined => exact List.forall_mem_nil _
  | thrown hthrows =>
      simp only [Outcome.sent, Outcome.effects]
      cases hthrows with
      | installing => simp
      | installFailed _ _ hremoval =>
          subst hremoval
          split_ifs <;> simp
      | removing hstate hends =>
          rw [List.filterMap_append]
          simpa using hends.isSent hstate hevt hdecodes
      | bidding => simp
  | next ht =>
      simp only [Outcome.sent, Outcome.effects]
      cases ht with
      | createRejected hstate hc hcheck =>
          exact absurd (.answersError (.rejected hstate hc hcheck)) hevt
      | created hstate hc hcheck hlifetime hsetUp =>
          exact hsetUp.isSent (s := s) rfl (.created hstate hc hcheck hlifetime) hevt
      | replaced _ _ hsetUp hsets => exact hsetUp.isSent (s := s) rfl hsets hevt
      | pendingRejected hstate hc hauthorized =>
          exact absurd (.answersError (.unauthorized hstate hc hauthorized)) hevt
      | abandoned hstate hc hlifetime hprevious hauthorized hmsn =>
          simpa using isSent_of_passesOn hevt hdecodes
            (.abandoned hstate hc hprevious hauthorized hmsn hlifetime) hc
      | repeated hstate hc hpassedOn hprevious hauthorized hmsn =>
          subst hpassedOn
          split_ifs with hchecked
          · simp
          · simpa using isSent_of_passesOn hevt hdecodes
              (.repeated hstate hchecked hc hprevious hauthorized hmsn) hc
      | givenUp hstate _ hgiven => exact absurd (.answersError (.givenUp hstate hgiven)) hevt
      | checked hstate hc =>
          have hfit := not_not.mp fun hfit => hevt (.checked hstate hc hfit)
          simpa using (isSent_buildCreateMessage_iff _ _ _).mpr hfit
      | refused hstate hc hr hfailure =>
          simpa using isSent_of_passesOn hevt hdecodes (.refused hstate hc hr hfailure)
            (MsgEvent.of_anslpResponse? hr).1
      | @installed mspecObjects r hstate hr hcount =>
          have hfit := not_not.mp fun hfit => hevt (.installed hstate hr hcount hfit)
          have hsub := AuctionRule.subperm_setReponseObjects d.newKey s.rule mspecObjects
          simpa using (isSent_buildResponse_iff (h r hr)).mpr ⟨hfit.1, hfit.2.subperm hsub⟩
      | installFailed hstate _ _ hcount _ hremoved =>
          exact absurd (.answersError (.installFailed hstate hcount hremoved)) hevt
      | refreshRejected hstate hc hcheck =>
          exact absurd (.answersError (.refreshRejected hstate hc hcheck)) hevt
      | refreshed hstate hc hcheck hmsn =>
          simpa using isSent_of_passesOn hevt hdecodes (.refreshed hstate hc hcheck hmsn) hc
      | responsePassed hstate hc hr =>
          simpa using isSent_of_passesOn hevt hdecodes (.response hstate hc hr)
            (MsgEvent.of_anslpResponse? hr).1
      | removing hstate hends =>
          rw [List.filterMap_append]
          simpa using hends.isSent hstate hevt hdecodes
      | closed hstate hends => exact hends.isSent hstate hevt hdecodes
      | biddingPassed hstate hb hnode =>
          simpa using isSent_of_passesOn hevt hdecodes (.bidding hstate hb hnode) hb
      | _ => simp

/-- For the events of the list something is sent that cannot be handed over. -/
theorem Unsent.exists_not_isSent (h : s.Unsent conf d evt) (hstored : s.Stored)
    (hstores : s.StoresResponse) (hdecodes : evt.Decodes)
    (hfresh : ∀ installed, evt = .apiInstall installed → d.KeysFresh s.rule installed)
    (hsafe : ¬ s.Unsafe conf d evt) :
    ∃ m ∈ (s.processEvent conf d evt).sent, ¬ IsSent m := by
  cases h with
  | answersError h => exact h.exists_not_isSent hstored hsafe
  | @passedOn e a h ha hwhole =>
      rcases h.mem_sent conf with ⟨kind, c, hc, hm⟩
      refine ⟨_, hm, (isSent_copyForForwarding_iff hdecodes hc).not.mpr ?_⟩
      have hmsg : e.ntlpMsg.msg = some c.body := MsgEvent.ntlpMsg_of_ofKind? hc ▸ c.msg_eq
      cases ha.symm.trans hmsg
      exact hwhole
  | @passed e c flow hsets hmri hidle hfit =>
      rcases hsets.processEvent_eq with ⟨s₁, hid, hs₁⟩
      have hread : c.body.mspecReadable = true :=
        eq_true_of_ne_false fun hread => hsafe (.create hsets hmri hread)
      rw [← hid] at hidle
      refine ⟨_, ?_, (isSent_buildCreateMessage_iff (s := s₁.accepted d c flow)
        (.pathcoupled flow true) c.body _).not.mpr hfit⟩
      simp [hs₁, processStateClose, hmri, AnslpMsg.getMspecObjects_eq, hread, checkOrPass,
        AuctionRule.resetRequestObjects, hidle, accepted]
      rfl
  | @checked mspecObjects c hstate hc hfit =>
      rcases hstored.create (Or.inl hstate) with ⟨c', hc', hread⟩
      cases hc.symm.trans hc'
      rcases Option.isSome_iff_exists.mp (hstored.nrMri (Or.inl hstate)) with ⟨nrMri, hmri⟩
      have herase : s.rule.objectRequests.eraseMissing mspecObjects ≠ none := fun hnone =>
        hsafe (.check hstate ((ObjectList.eraseMissing_eq_none_iff _ _).mp hnone))
      rcases Option.ne_none_iff_exists'.mp herase with ⟨objectRequests, herase⟩
      refine ⟨_, ?_, (isSent_buildCreateMessage_iff (s := s) nrMri c.body _).not.mpr hfit⟩
      simp [processEvent, hstate, handleStatePendingCheck, hc, hmri, AnslpMsg.getMspecObjects_eq,
        hread, herase]
  | @installed mspecObjects r hstate hr hcount hfit =>
      have hperm := AuctionRule.perm_setReponseObjects (hfresh mspecObjects rfl)
      refine ⟨_, ?_, (isSent_buildResponse_iff
        (s := { s with rule := s.rule.setReponseObjects d.newKey mspecObjects })
        (hstores r hr)).not.mpr fun hsent => hfit ⟨hsent.1, hsent.2.subperm hperm.symm.subperm⟩⟩
      simp [processEvent, hstate, handleStatePendingInstalling, hr, processInstall, hcount]

/-- The runs of a forwarder from its start in which all that is sent is handed over. -/
abbrev SendingRuns (conf : AnslpConfig) (id : SessionId)
    (trace : List (Transition.Step (NfSession α) (Dispatcher α × Event α)
      (Outcome (NfSession α) α))) (s : NfSession α) : Prop :=
  Transition.Run (sendingMachine (processEvent conf)) (new id) trace s

omit [LawfulIpapMessage α] in
theorem storesResponse_of_run {id : SessionId}
    {trace : List (Transition.Step (NfSession α) (Dispatcher α × Event α)
      (Outcome (NfSession α) α))} (hrun : Runs conf id trace s)
    (hevts : ∀ st ∈ trace, st.input.2.Decodes) : s.StoresResponse :=
  hrun.invariant_of_guarded (G := fun _ input => input.2.Decodes)
    (fun _ _ _ _ hs hevt hstep =>
      hs.transits hevt (transits_of_processEvent (next_of_machine hstep)))
    nofun hevts

/-- In a reachable session a call ends in a defined state, with all it sends, unless the event
is one of the lists. -/
theorem isDefined_handedOver_of_run {id : SessionId}
    {trace : List (Transition.Step (NfSession α) (Dispatcher α × Event α)
      (Outcome (NfSession α) α))} (hrun : SendingRuns conf id trace s)
    (hevts : ∀ st ∈ trace, st.input.2.Decodes) (hevt : evt.Decodes)
    (hsafe : ¬ s.Unsafe conf d evt) (hsent : ¬ s.Unsent conf d evt) :
    (s.processEvent conf d evt).handedOver.IsDefined NfSession.state s := by
  have hplain := run_of_sendingMachine hrun
  rw [Outcome.isDefined_handedOver_iff, isDefined_iff_of_stored (stored_of_run hplain)]
  exact ⟨hsafe, isSent_of_not_unsent (storesResponse_of_run hplain hevts) hevt hsent⟩

/-- With fresh keys for the installed objects it does not for any other event. -/
theorem isDefined_handedOver_iff_of_run {id : SessionId}
    {trace : List (Transition.Step (NfSession α) (Dispatcher α × Event α)
      (Outcome (NfSession α) α))} (hrun : SendingRuns conf id trace s)
    (hevts : ∀ st ∈ trace, st.input.2.Decodes) (hevt : evt.Decodes)
    (hfresh : ∀ installed, evt = .apiInstall installed → d.KeysFresh s.rule installed) :
    (s.processEvent conf d evt).handedOver.IsDefined NfSession.state s ↔
      ¬ s.Unsafe conf d evt ∧ ¬ s.Unsent conf d evt := by
  have hplain := run_of_sendingMachine hrun
  have hstored := stored_of_run hplain
  have hstores := storesResponse_of_run hplain hevts
  apply Outcome.isDefined_handedOver_iff_not (isDefined_iff_of_stored hstored)
  · exact isSent_of_not_unsent hstores hevt
  · intro hsafe hunsent
    exact hunsent.exists_not_isSent hstored hstores hevt hfresh hsafe

end NfSession

/-! ## Responder -/

namespace NrSession

open Session GistkaMapper

variable {α : Type} {conf : AnslpConfig} {d : Dispatcher α} {s s' : NrSession α}
  {evt : Event α} {effects : List (Effect α)}

/-- The events that are answered with an error. -/
inductive AnswersError (conf : AnslpConfig) (d : Dispatcher α) (s : NrSession α) :
    Event α → Prop
  /-- CLOSE: a CREATE that fails the checks. -/
  | rejected {e : MsgEvent α} {c : KindMsg .create α} {exp : RequestError}
      (hstate : s.state = .close) (hc : e.ofKind? .create = some c)
      (hcheck : checkRequest d e c.body.getSessionLifetime s.maxLifetime = .error exp) :
      AnswersError conf d s (.msg e)
  /-- CLOSE: a CREATE without a lifetime. -/
  | withoutLifetime {e : MsgEvent α} {c : KindMsg .create α} (hstate : s.state = .close)
      (hc : e.ofKind? .create = some c)
      (hcheck : checkRequest d e c.body.getSessionLifetime s.maxLifetime = .ok 0) :
      AnswersError conf d s (.msg e)
  /-- CLOSE: a CREATE whose objects the installer refuses to check. -/
  | refused {e : MsgEvent α} {c : KindMsg .create α} {lifetime : UInt32} {flow : Flow}
      {downstream : Bool} {exp : RequestError} (hstate : s.state = .close)
      (hc : e.ofKind? .create = some c)
      (hcheck : checkRequest d e c.body.getSessionLifetime s.maxLifetime = .ok lifetime)
      (hlifetime : lifetime > 0) (hmri : c.ntlpMsg.routingInfo = .pathcoupled flow downstream)
      (hrefused : checkRule conf d .receiver s.id c.body.getSelectionAuctioningEntities
        (ObjectList.setFresh d.newKey c.body.mspecObjects OrderedMap.empty) = .error exp) :
      AnswersError conf d s (.msg e)
  /-- PENDING or PENDING_INSTALLING: all retries were in vain. -/
  | givenUp {evt : Event α} (hstate : s.state = .pending ∨ s.state = .pendingInstalling)
      (hcount : ¬ s.createCounter < s.maxRetries)
      (hevt : evt = .timer s.stateTimer ∨ s.state = .pending ∧ evt = .noNextNodeFound) :
      AnswersError conf d s evt
  /-- PENDING_INSTALLING: some object is not installed. -/
  | installFailed {mspecObjects : ObjectList α} (hstate : s.state = .pendingInstalling)
      (hcount : s.rule.getNumberMspecRequestObjects ≠ mspecObjects.size)
      (hremoved : s.rule.getNumberMspecResponseObjects > 0 →
        d.removeError s.id s.rule = none) : AnswersError conf d s (.apiInstall mspecObjects)
  /-- AUCTIONING: a REFRESH that fails the checks. -/
  | refreshRejected {e : MsgEvent α} {c : KindMsg .refresh α} {exp : RequestError}
      (hstate : s.state = .auctioning) (hc : e.ofKind? .refresh = some c)
      (hcheck : checkRequest d e c.body.getSessionLifetime s.maxLifetime = .error exp) :
      AnswersError conf d s (.msg e)

variable [IpapMessage α]

/-- The events for which something is sent that cannot be handed over. -/
inductive Unsent (conf : AnslpConfig) (d : Dispatcher α) (s : NrSession α) : Event α → Prop
  /-- An event that is answered with an error. -/
  | answersError {evt : Event α} (h : s.AnswersError conf d evt) : Unsent conf d s evt
  /-- CLOSE: a CREATE without a sequence number that is answered at once. -/
  | idle {e : MsgEvent α} {c : KindMsg .create α} {lifetime : UInt32} {flow : Flow}
      {downstream : Bool} (hstate : s.state = .close) (hc : e.ofKind? .create = some c)
      (hcheck : checkRequest d e c.body.getSessionLifetime s.maxLifetime = .ok lifetime)
      (hlifetime : lifetime > 0) (hmri : c.ntlpMsg.routingInfo = .pathcoupled flow downstream)
      (hidle : checkRule conf d .receiver s.id c.body.getSelectionAuctioningEntities
        (ObjectList.setFresh d.newKey c.body.mspecObjects OrderedMap.empty) = .notParticipating)
      (hmsn : c.body.hasMsgSequenceNumber = false) : Unsent conf d s (.msg e)
  /-- PENDING_INSTALLING: all requested objects are installed, but the CREATE has no sequence
  number, or the response objects are not writable or do not fit into the RESPONSE. -/
  | installed {mspecObjects : ObjectList α} {c : KindMsg .create α}
      (hstate : s.state = .pendingInstalling) (hc : s.createMessage = some c)
      (hcount : s.rule.getNumberMspecRequestObjects = mspecObjects.size)
      (hfit : ¬ (c.body.hasMsgSequenceNumber = true ∧
        ObjectsFit 28 (s.rule.objectResponses.values ++ mspecObjects.values))) :
      Unsent conf d s (.apiInstall mspecObjects)
  /-- AUCTIONING: a new REFRESH without a sequence number. -/
  | refreshed {e : MsgEvent α} {c : KindMsg .refresh α} {lifetime : UInt32}
      (hstate : s.state = .auctioning) (hc : e.ofKind? .refresh = some c)
      (hcheck : checkRequest d e c.body.getSessionLifetime s.maxLifetime = .ok lifetime)
      (hnewer : isGreaterThan c.body.getMsgSequenceNumber s.msn = true)
      (hmsn : c.body.hasMsgSequenceNumber = false) : Unsent conf d s (.msg e)
  /-- AUCTIONING or PENDING_TEARDOWN: a bid without objects, or with objects that are not
  writable or do not fit into a BIDDING. -/
  | bidding {e : ApiBiddingEvent α} (hstate : s.state = .auctioning ∨ s.state = .pendingTeardown)
      (hfit : ¬ (e.mspecObjects.values ≠ [] ∧ ObjectsFit 12 e.mspecObjects.values)) :
      Unsent conf d s (.apiBidding e)

omit [IpapMessage α] in
theorem removeOrClose_ne_undefined (conf : AnslpConfig) (d : Dispatcher α) (s : NrSession α)
    (f : Fault) : s.removeOrClose conf d ≠ .undefined f := by
  unfold removeOrClose
  split_ifs
  · split <;> exact nofun
  · exact nofun

/-- Such an event is answered with an error. -/
theorem AnswersError.exists_not_isSent (h : s.AnswersError conf d evt) (hstored : s.Stored)
    (hsafe : ¬ s.Unsafe d evt) : ∃ m ∈ (s.processEvent conf d evt).sent, ¬ IsSent m := by
  cases h with
  | @rejected e c exp hstate hc hcheck =>
      refine ⟨_, ?_, not_isSent_createErrorResponse c.ntlpMsg exp⟩
      simp [processEvent, hstate, handleStateClose, hc, hcheck]
  | @withoutLifetime e c hstate hc hcheck =>
      have hfirst : s.createMessage = none :=
        not_not.mp fun hsome => hsafe (.stored hstate hc hcheck hsome)
      refine ⟨_, ?_,
        not_isSent_createResponse c.ntlpMsg scPermanentFailure failConfigurationFailed⟩
      simp [processEvent, hstate, handleStateClose, hc, hcheck, setLastCreateMessage, hfirst]
  | @refused e c lifetime flow downstream exp hstate hc hcheck hlifetime hmri hrefused =>
      have hfirst : s.createMessage = none :=
        not_not.mp fun hsome => hsafe (.stored hstate hc hcheck hsome)
      have hread : c.body.mspecReadable = true :=
        eq_true_of_ne_false fun hread => hsafe (.create hstate hc hcheck hlifetime hmri hread)
      refine ⟨_, ?_,
        not_isSent_createResponse c.ntlpMsg scPermanentFailure failConfigurationFailed⟩
      simp [processEvent, hstate, handleStateClose, hc, hcheck, setLastCreateMessage, hfirst,
        hlifetime, initiate, hmri, saveAuctionRule_eq, hread, respond, checkSaved,
        AuctionRule.resetRequestObjects, hrefused]
  | givenUp hstate hcount hevt =>
      rcases hstored.create hstate with ⟨c, hc, _⟩
      refine ⟨_, ?_, not_isSent_createResponse c.ntlpMsg scPermanentFailure failInternalError⟩
      rcases hevt with rfl | ⟨hpending, rfl⟩
      · rcases hstate with hstate | hstate <;>
          simp [processEvent, hstate, handleStatePending, handleStatePendingInstalling, retryCheck,
            hc, hcount]
      · simp [processEvent, hpending, handleStatePending, retryCheck, hc, hcount]
  | @installFailed mspecObjects hstate hcount hremoved =>
      rcases hstored.create (Or.inr hstate) with ⟨c, hc, _⟩
      refine ⟨_, ?_, not_isSent_createResponse c.ntlpMsg scPermanentFailure failInternalError⟩
      by_cases hinstalled : s.rule.getNumberMspecResponseObjects > 0
      · simp [processEvent, hstate, handleStatePendingInstalling, hc, hcount, hinstalled,
          hremoved hinstalled]
      · simp [processEvent, hstate, handleStatePendingInstalling, hc, hcount, hinstalled]
  | @refreshRejected e c exp hstate hc hcheck =>
      refine ⟨_, ?_, not_isSent_createErrorResponse c.ntlpMsg exp⟩
      simp [processEvent, hstate, handleStateAuctioning, hc, processRefresh, hcheck]

variable [LawfulIpapMessage α]

theorem isSent_buildBiddingMessage_iff (mri : Mri) (e : ApiBiddingEvent α) :
    IsSent (s.buildBiddingMessage mri e) ↔
      e.mspecObjects.values ≠ [] ∧ ObjectsFit 12 e.mspecObjects.values :=
  (isSent_iff rfl).trans (AnslpMsg.serializes_bidding_iff _ _)

theorem isSent_buildSuccessResponse_iff (c : KindMsg .create α) (lifetime : UInt32) :
    IsSent (s.buildSuccessResponse c.ntlpMsg lifetime) ↔
      c.body.hasMsgSequenceNumber = true ∧ ObjectsFit 28 s.rule.objectResponses.values :=
  (isSent_iff rfl).trans (AnslpMsg.serializes_success_iff c.msg_eq lifetime _)

/-- The answer to a new REFRESH can be handed over. -/
theorem isSent_of_newer {e : MsgEvent α} {c : KindMsg .refresh α} {lifetime : UInt32}
    (hevt : ¬ s.Unsent conf d (.msg e)) (hstate : s.state = .auctioning)
    (hc : e.ofKind? .refresh = some c)
    (hcheck : checkRequest d e c.body.getSessionLifetime s.maxLifetime = .ok lifetime)
    (hnewer : isGreaterThan c.body.getMsgSequenceNumber s.msn = true) :
    IsSent (c.ntlpMsg.createSuccessResponse lifetime) := by
  apply (isSent_createSuccessResponse_iff c lifetime).mpr
  exact eq_true_of_ne_false fun hmsn => hevt (.refreshed hstate hc hcheck hnewer hmsn)

/-- What precedes the end of the session can be handed over. -/
theorem Ends.isSent {before : List (Effect α)} (h : s.Ends d evt before)
    (hstate : s.state = .auctioning) (hevt : ¬ s.Unsent conf d evt) :
    ∀ m ∈ before.filterMap Effect.sent?, IsSent m := by
  cases h with
  | refresh hc hcheck hnewer =>
      simpa using isSent_of_newer hevt hstate hc hcheck hnewer
  | timeout => simp

/-- All that a call sends can be handed over, unless the event is one of the list. -/
theorem isSent_of_not_unsent (hevt : ¬ s.Unsent conf d evt) :
    ∀ m ∈ (s.processEvent conf d evt).sent, IsSent m := by
  have hended := ended_processEvent conf d s evt
  have hthrown : (s.processEvent conf d evt).ThrowsOnly IsSent := by
    apply throwsOnly_processEvent
    intro e c lifetime hstate he hc hcheck hnewer
    subst he
    exact isSent_of_newer hevt hstate hc hcheck hnewer
  generalize s.processEvent conf d evt = o at hended hthrown
  cases hended with
  | undefined => exact List.forall_mem_nil _
  | thrown => exact hthrown _ _ _ rfl
  | next ht =>
      simp only [Outcome.sent, Outcome.effects]
      cases ht with
      | createRejected hstate hc hcheck =>
          exact absurd (.answersError (.rejected hstate hc hcheck)) hevt
      | createWithoutLifetime hstate hc hcheck =>
          exact absurd (.answersError (.withoutLifetime hstate hc hcheck)) hevt
      | startedIdle hstate hc hcheck hlifetime _ _ hidle hmri =>
          rcases hmri with ⟨flow, downstream, hmri⟩
          have hmsn := eq_true_of_ne_false fun hmsn =>
            hevt (.idle hstate hc hcheck hlifetime hmri hidle hmsn)
          simpa using (isSent_createSuccessResponse_iff _ _).mpr hmsn
      | startFailed hstate hc hcheck hlifetime _ _ hrefused hmri =>
          rcases hmri with ⟨flow, downstream, hmri⟩
          exact absurd (.answersError (.refused hstate hc hcheck hlifetime hmri hrefused)) hevt
      | givenUp hstate _ hcount hgiven =>
          exact absurd (.answersError (.givenUp hstate hcount hgiven)) hevt
      | @installed mspecObjects c hstate hc hcount =>
          have hfit := not_not.mp fun hfit => hevt (.installed hstate hc hcount hfit)
          have hsub := AuctionRule.subperm_setReponseObjects d.newKey s.rule mspecObjects
          simpa using (isSent_buildSuccessResponse_iff _ _).mpr ⟨hfit.1, hfit.2.subperm hsub⟩
      | installFailed hstate _ hcount _ hremoved =>
          exact absurd (.answersError (.installFailed hstate hcount hremoved)) hevt
      | refreshRejected hstate hc hcheck =>
          exact absurd (.answersError (.refreshRejected hstate hc hcheck)) hevt
      | refreshed hstate hc hcheck hnewer =>
          simpa using isSent_of_newer hevt hstate hc hcheck hnewer
      | removing hstate hends =>
          rw [List.filterMap_append]
          simpa using hends.isSent hstate hevt
      | closed hstate hends => exact hends.isSent hstate hevt
      | biddingSent hstate htold =>
          have hfit := not_not.mp fun hfit => hevt (.bidding hstate hfit)
          subst htold
          split_ifs <;> simpa using (isSent_buildBiddingMessage_iff _ _).mpr hfit
      | checkRetried =>
          rename_i result _ _ _ _
          cases result <;> simp [CheckResult.effects]
      | _ => simp

/-- For the events of the list something is sent that cannot be handed over. -/
theorem Unsent.exists_not_isSent (h : s.Unsent conf d evt) (hstored : s.Stored)
    (hfresh : ∀ installed, evt = .apiInstall installed → d.KeysFresh s.rule installed)
    (hsafe : ¬ s.Unsafe d evt) : ∃ m ∈ (s.processEvent conf d evt).sent, ¬ IsSent m := by
  cases h with
  | answersError h => exact h.exists_not_isSent hstored hsafe
  | @idle e c lifetime flow downstream hstate hc hcheck hlifetime hmri hidle hmsn =>
      have hfirst : s.createMessage = none :=
        not_not.mp fun hsome => hsafe (.stored hstate hc hcheck hsome)
      have hread : c.body.mspecReadable = true :=
        eq_true_of_ne_false fun hread => hsafe (.create hstate hc hcheck hlifetime hmri hread)
      refine ⟨c.ntlpMsg.createSuccessResponse lifetime, ?_, ?_⟩
      · simp [processEvent, hstate, handleStateClose, hc, hcheck, setLastCreateMessage, hfirst,
          hlifetime, initiate, hmri, saveAuctionRule_eq, hread, respond, checkSaved,
          AuctionRule.resetRequestObjects, hidle]
        rfl
      · rw [isSent_createSuccessResponse_iff, hmsn]
        exact Bool.false_ne_true
  | @installed mspecObjects c hstate hc hcount hfit =>
      have hperm := AuctionRule.perm_setReponseObjects (hfresh mspecObjects rfl)
      refine ⟨_, ?_, (isSent_buildSuccessResponse_iff
        (s := { s with rule := s.rule.setReponseObjects d.newKey mspecObjects })
        c s.lifetime).not.mpr fun hsent => hfit ⟨hsent.1, hsent.2.subperm hperm.symm.subperm⟩⟩
      simp [processEvent, hstate, handleStatePendingInstalling, hc, hcount]
  | @refreshed e c lifetime hstate hc hcheck hnewer hmsn =>
      refine ⟨c.ntlpMsg.createSuccessResponse lifetime, ?_, ?_⟩
      · simp only [processEvent, hstate, handleStateAuctioning, hc, processRefresh, hcheck, hnewer,
          Bool.not_true, Bool.false_eq_true, if_false]
        split_ifs
        · simp
        · exact Outcome.mem_sent_after (removeOrClose_ne_undefined _ _ _) (by simp)
      · rw [isSent_createSuccessResponse_iff, hmsn]
        exact Bool.false_ne_true
  | @bidding e hstate hfit =>
      have hopen : s.state ≠ .close := by
        rcases hstate with h | h <;> simp [h]
      rcases Option.isSome_iff_exists.mp (hstored.routing hopen) with ⟨mri, hmri⟩
      refine ⟨s.buildBiddingMessage mri e, ?_, (isSent_buildBiddingMessage_iff _ _).not.mpr hfit⟩
      rcases hstate with hstate | hstate <;>
        simp [processEvent, hstate, handleStateAuctioning, handleStatePendingTeardown,
          processApiBidding, hmri]

/-- The runs of a responder from its start in which all that is sent is handed over. -/
abbrev SendingRuns (conf : AnslpConfig) (id : SessionId) (random : UInt32)
    (trace : List (Transition.Step (NrSession α) (Dispatcher α × Event α)
      (Outcome (NrSession α) α))) (s : NrSession α) : Prop :=
  Transition.Run (sendingMachine (processEvent conf)) (new conf id random) trace s

/-- In a reachable session a call ends in a defined state, with all it sends, unless the event
is one of the lists. -/
theorem isDefined_handedOver_of_run {id : SessionId} {random : UInt32}
    {trace : List (Transition.Step (NrSession α) (Dispatcher α × Event α)
      (Outcome (NrSession α) α))} (hrun : SendingRuns conf id random trace s)
    (hsafe : ¬ s.Unsafe d evt) (hsent : ¬ s.Unsent conf d evt) :
    (s.processEvent conf d evt).handedOver.IsDefined NrSession.state s := by
  have hstored := stored_of_run (run_of_sendingMachine hrun)
  rw [Outcome.isDefined_handedOver_iff, isDefined_iff_of_stored hstored]
  exact ⟨hsafe, isSent_of_not_unsent hsent⟩

/-- With fresh keys for the installed objects it does not for any other event. -/
theorem isDefined_handedOver_iff_of_run {id : SessionId} {random : UInt32}
    {trace : List (Transition.Step (NrSession α) (Dispatcher α × Event α)
      (Outcome (NrSession α) α))} (hrun : SendingRuns conf id random trace s)
    (hfresh : ∀ installed, evt = .apiInstall installed → d.KeysFresh s.rule installed) :
    (s.processEvent conf d evt).handedOver.IsDefined NrSession.state s ↔
      ¬ s.Unsafe d evt ∧ ¬ s.Unsent conf d evt := by
  have hstored := stored_of_run (run_of_sendingMachine hrun)
  apply Outcome.isDefined_handedOver_iff_not (isDefined_iff_of_stored hstored)
  · exact isSent_of_not_unsent
  · intro hsafe hunsent
    exact hunsent.exists_not_isSent hstored hfresh hsafe

end NrSession

/-! ## All sessions -/

/-- In every run of a session, if the messages received come from the decoder, every call ends
in a defined state, with all that it sends. -/
def AlwaysDefined (α : Type) [IpapMessage α] (conf : AnslpConfig) : Prop :=
  (∀ id random trace (s : NiSession α), NiSession.SendingRuns conf id random trace s →
    (∀ st ∈ trace, st.input.2.Decodes) → ∀ d evt, evt.Decodes →
      (s.processEvent d evt).handedOver.IsDefined NiSession.state s) ∧
  (∀ id trace (s : NfSession α), NfSession.SendingRuns conf id trace s →
    (∀ st ∈ trace, st.input.2.Decodes) → ∀ d evt, evt.Decodes →
      (s.processEvent conf d evt).handedOver.IsDefined NfSession.state s) ∧
  ∀ id random trace (s : NrSession α), NrSession.SendingRuns conf id random trace s →
    (∀ st ∈ trace, st.input.2.Decodes) → ∀ d evt, evt.Decodes →
      (s.processEvent conf d evt).handedOver.IsDefined NrSession.state s

/-- In such a run the calls that end in a defined state, with all that they send, are those for
the events that are neither unsafe nor have something sent that cannot be handed over.  That it
is no others takes fresh keys for the installed objects. -/
theorem isDefined_of_run {α : Type} [IpapMessage α] [LawfulIpapMessage α] (conf : AnslpConfig) :
    (∀ id random trace (s : NiSession α), NiSession.SendingRuns conf id random trace s →
      ∀ d evt, (s.processEvent d evt).handedOver.IsDefined NiSession.state s ↔
        ¬ s.Unsafe d evt ∧ ¬ s.Unsent evt) ∧
    (∀ id trace (s : NfSession α), NfSession.SendingRuns conf id trace s →
      (∀ st ∈ trace, st.input.2.Decodes) → ∀ d evt, evt.Decodes →
        (¬ s.Unsafe conf d evt ∧ ¬ s.Unsent conf d evt →
          (s.processEvent conf d evt).handedOver.IsDefined NfSession.state s) ∧
        ((∀ installed, evt = .apiInstall installed → d.KeysFresh s.rule installed) →
          (s.processEvent conf d evt).handedOver.IsDefined NfSession.state s →
            ¬ s.Unsafe conf d evt ∧ ¬ s.Unsent conf d evt)) ∧
    ∀ id random trace (s : NrSession α), NrSession.SendingRuns conf id random trace s →
      ∀ d evt,
        (¬ s.Unsafe d evt ∧ ¬ s.Unsent conf d evt →
          (s.processEvent conf d evt).handedOver.IsDefined NrSession.state s) ∧
        ((∀ installed, evt = .apiInstall installed → d.KeysFresh s.rule installed) →
          (s.processEvent conf d evt).handedOver.IsDefined NrSession.state s →
            ¬ s.Unsafe d evt ∧ ¬ s.Unsent conf d evt) :=
  ⟨fun _ _ _ _ hrun _ _ => NiSession.isDefined_handedOver_iff_of_run hrun,
    fun _ _ _ hrun hevts _ _ hevt =>
      ⟨fun h => NfSession.isDefined_handedOver_of_run hrun hevts hevt h.1 h.2,
        fun hfresh => (NfSession.isDefined_handedOver_iff_of_run hrun hevts hevt hfresh).mp⟩,
    fun _ _ _ _ hrun _ _ =>
      ⟨fun h => NrSession.isDefined_handedOver_of_run hrun h.1 h.2,
        fun hfresh => (NrSession.isDefined_handedOver_iff_of_run hrun hfresh).mp⟩⟩

/-! ### The first CREATE, and a RESPONSE that comes twice -/

namespace RepeatedResponse

open Sample Session GistkaMapper

theorem serializes_create : create.body.Serializes :=
  (AnslpMsg.serializes_create_iff _ _ _ _ []).mpr (.nil (by decide))

theorem decodes_arrival : (Event.msg arrival).Decodes := by
  intro a ha
  cases ha
  exact decodes_of_wellBuilt (AnslpMsg.keptBySessions_wellBuilt.create _ _ _ _ [])
    (List.forall_mem_nil _) serializes_create

theorem isSent_response : IsSent response.ntlpMsg :=
  (isSent_createSuccessResponse_iff create 30).mpr rfl

theorem decodes_response : (Event.msg response).Decodes := by
  intro a ha
  cases ha
  exact decodes_of_wellBuilt (AnslpMsg.keptBySessions_wellBuilt.success create.ntlpMsg 30)
    (List.forall_mem_nil _) ((isSent_iff rfl).mp isSent_response)

/-- Nothing that the initiator has sent on its way to AUCTIONING is in the way. -/
theorem sendingRuns_up : ∃ trace, NiSession.SendingRuns conf 1 0 trace up ∧
    ∀ st ∈ trace, st.input.2.Decodes := by
  have hcreate : ∀ m ∈ ((NiSession.new conf 1 0).processEvent surroundings
      (.apiCreate request)).sent, IsSent m := by
    intro m hm
    cases List.mem_singleton.mp hm
    exact (isSent_iff rfl).mpr serializes_create
  have hwaiting := run_snoc_of_isSent (d := surroundings) (.nil (s := NiSession.new conf 1 0))
    (rfl : (NiSession.processEvent _ _ (.apiCreate request)).next? = some waiting) hcreate
  have hinstalling := run_snoc_of_isSent (d := surroundings) hwaiting
    (rfl : (NiSession.processEvent _ _ (.msg response)).next? = some installing)
    (List.forall_mem_nil _)
  have hup := run_snoc_of_isSent (d := surroundings) hinstalling
    (rfl : (NiSession.processEvent _ _ (.apiInstall OrderedMap.empty)).next? = some up)
    (List.forall_mem_nil _)
  refine ⟨_, hup, ?_⟩
  simpa [Event.Decodes] using decodes_response

/-- The RESPONSE comes a second time, in AUCTIONING, before a REFRESH was sent. -/
theorem not_alwaysDefined : ¬ AlwaysDefined RawIpap conf := by
  intro h
  rcases sendingRuns_up with ⟨trace, hrun, hevts⟩
  have hundefined : up.processEvent surroundings (.msg response) = .undefined .assertion := rfl
  have hdefined := h.1 1 0 trace up hrun hevts surroundings (.msg response) decodes_response
  rw [hundefined] at hdefined
  exact hdefined

theorem eq_create_of_ofKind? {c : KindMsg .create RawIpap} (h : arrival.ofKind? .create = some c) :
    c = create :=
  (Option.some.inj (h.symm.trans rfl)).trans rfl

theorem eq_create_of_setsUp {c : KindMsg .create RawIpap}
    (h : (NfSession.new 1).SetsUp conf surroundings arrival c) : c = create := by
  cases h with
  | created _ hc => exact eq_create_of_ofKind? hc
  | replaced hstate => exact absurd rfl hstate.ne_close

theorem not_unsafe_timer : ¬ up.Unsafe surroundings (.timer 7) := by
  intro hunsafe
  cases hunsafe with
  | timer _ _ hid => exact absurd hid (by decide)
  | noRefresh _ hevt => exact hevt

theorem not_unsafe_forwarder : ¬ (NfSession.new 1).Unsafe conf surroundings (.msg arrival) := by
  intro hunsafe
  cases hunsafe with
  | noCreate _ hevt => exact hevt arrival create rfl rfl
  | upstream hsets hmri =>
      cases eq_create_of_setsUp hsets
      cases hmri
  | create hsets _ hread =>
      cases eq_create_of_setsUp hsets
      cases hread
  | noRefresh hstate => cases hstate
  | bidding hstate => rcases hstate with hstate | hstate <;> cases hstate

theorem not_unsent_forwarder : ¬ (NfSession.new 1).Unsent conf surroundings (.msg arrival) := by
  intro hunsent
  cases hunsent with
  | answersError herror =>
      cases herror with
      | rejected _ _ hcheck => cases (checkRequest_eq_error_iff.mp hcheck).2.1
      | unauthorized hstate => exact hstate.ne_close rfl
      | notPathcoupled hsets hmri =>
          cases eq_create_of_setsUp hsets
          cases hmri
      | refused hsets _ hrefused =>
          cases eq_create_of_setsUp hsets
          cases hrefused
      | givenUp hstate => exact hstate.ne_close rfl
      | refreshRejected hstate => cases hstate
  | passedOn hpasses =>
      cases hpasses with
      | abandoned hstate => exact hstate.ne_close rfl
      | repeated hstate => exact hstate.ne_close rfl
      | bidding hstate => rcases hstate with hstate | hstate <;> cases hstate
      | refused hstate | refreshed hstate | response hstate => cases hstate
  | passed hsets _ _ hfit =>
      cases eq_create_of_setsUp hsets
      exact hfit (.nil (by decide))

theorem not_unsafe_responder : ¬ (NrSession.new conf 1 0).Unsafe surroundings (.msg arrival) := by
  intro hunsafe
  cases hunsafe with
  | stored _ _ _ hsome => exact hsome rfl
  | create _ hc _ _ _ hread =>
      cases eq_create_of_ofKind? hc
      cases hread
  | bidding hstate => cases hstate

theorem not_unsent_responder :
    ¬ (NrSession.new conf 1 0).Unsent conf surroundings (.msg arrival) := by
  intro hunsent
  cases hunsent with
  | answersError herror =>
      cases herror with
      | rejected _ _ hcheck => cases (checkRequest_eq_error_iff.mp hcheck).2.1
      | withoutLifetime _ hc hcheck =>
          cases eq_create_of_ofKind? hc
          cases hcheck
      | refused _ hc _ _ _ hrefused =>
          cases eq_create_of_ofKind? hc
          cases hrefused
      | givenUp hstate => rcases hstate with hstate | hstate <;> cases hstate
      | refreshRejected hstate => cases hstate
  | idle _ hc _ _ _ _ hmsn =>
      cases eq_create_of_ofKind? hc
      cases hmsn
  | refreshed hstate => cases hstate

/-- The expiry of a timer that was never started is harmless, and so is the first CREATE at a
forwarder and at a responder. -/
theorem isDefined_threeRoles :
    (up.processEvent surroundings (.timer 7)).handedOver.IsDefined NiSession.state up ∧
    ((NfSession.new 1).processEvent conf surroundings (.msg arrival)).handedOver.IsDefined
      NfSession.state (NfSession.new 1) ∧
    ((NrSession.new conf 1 0).processEvent conf surroundings (.msg arrival)).handedOver.IsDefined
      NrSession.state (NrSession.new conf 1 0) := by
  rcases sendingRuns_up with ⟨trace, hrun, _⟩
  exact ⟨((isDefined_of_run conf).1 1 0 trace up hrun surroundings (.timer 7)).mpr
      ⟨not_unsafe_timer, nofun⟩,
    ((isDefined_of_run conf).2.1 1 [] (NfSession.new 1) .nil (List.forall_mem_nil _) surroundings
      (.msg arrival) decodes_arrival).1 ⟨not_unsafe_forwarder, not_unsent_forwarder⟩,
    ((isDefined_of_run conf).2.2 1 0 [] (NrSession.new conf 1 0) .nil surroundings
      (.msg arrival)).1 ⟨not_unsafe_responder, not_unsent_responder⟩⟩

end RepeatedResponse
end Anslp
