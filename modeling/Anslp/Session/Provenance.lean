import Anslp.Session.HopCount
import Anslp.Session.Reporting

/-!
# Where the objects of a session come from

A session invents no objects.  What it passes on, hands to its installer or to its user, it
was given before: the objects of a CREATE by the user of the initiator, those of a RESPONSE
by the installers, and those of a BIDDING by a user.

Main results:

- Theorems {lit}`NiSession.From.transits`, {lit}`NfSession.From.transits` and
  {lit}`NrSession.From.transits`: what sessions store stays from where it may come.
- Theorems {lit}`NiSession.From.doesOnly`, {lit}`NfSession.From.doesOnly` and
  {lit}`NrSession.From.doesOnly`: and so is all they do.

Current gaps:

- None for the objects; the numbers and lifetimes are treated elsewhere.
-/

namespace Anslp

open Session

/-! ## Objects of what is built -/

namespace AnslpMsg

variable {α : Type} {a b c : AnslpMsg α} {x : MspecObject α}

/-- An IPAP message object of a message was there before an object was set, or it is set. -/
theorem mem_mspecObjects_setObject {o : AnslpObject α} (h : x ∈ (a.setObject o).mspecObjects) :
    x ∈ a.mspecObjects ∨ o.mspec? = some x := by
  have hset : ∃ key, (a.setObject o).objects = a.objects.insert key o := by
    unfold setObject
    split_ifs
    · exact ⟨_, rfl⟩
    · exact ⟨_, rfl⟩
  rcases hset with ⟨key, hset⟩
  rw [mspecObjects, hset, kind_setObject] at h
  rcases List.mem_filterMap.mp h with ⟨e, he, hx⟩
  rcases List.mem_filter.mp he with ⟨he, hread⟩
  rcases OrderedMap.mem_insertEntry he with rfl | he | ⟨ho, _⟩
  · exact Or.inr hx
  · exact Or.inl (List.mem_filterMap.mpr ⟨e, List.mem_filter.mpr ⟨he, hread⟩, hx⟩)
  · exact Or.inr (ho ▸ hx)

/-- The same for several objects. -/
theorem mem_mspecObjects_setMspecObjects {os : List (MspecObject α)}
    (h : x ∈ (a.setMspecObjects os).mspecObjects) : x ∈ a.mspecObjects ∨ x ∈ os := by
  induction os generalizing a with
  | nil => exact Or.inl h
  | cons o os ih =>
      rcases ih (a := a.setMspecObject o) h with h | h
      · rcases mem_mspecObjects_setObject h with h | h
        · exact Or.inl h
        · cases h
          exact Or.inr List.mem_cons_self
      · exact Or.inr (List.mem_cons_of_mem _ h)

/-- A CREATE that was passed on: the one it was made from, with at most its lifetime. -/
structure CopyOf (a b : AnslpMsg α) : Prop where
  msn : a.getMsgSequenceNumber = b.getMsgSequenceNumber
  selection : a.getSelectionAuctioningEntities = b.getSelectionAuctioningEntities
  hopCount : a.getMessageHopCount = b.getMessageHopCount
  lifetime : a.getSessionLifetime ≤ b.getSessionLifetime
  objects : a.mspecObjects = b.mspecObjects

theorem CopyOf.refl (a : AnslpMsg α) : a.CopyOf a :=
  ⟨rfl, rfl, rfl, UInt32.le_refl _, rfl⟩

theorem CopyOf.trans (h : a.CopyOf b) (h' : b.CopyOf c) : a.CopyOf c where
  msn := h.msn.trans h'.msn
  selection := h.selection.trans h'.selection
  hopCount := h.hopCount.trans h'.hopCount
  lifetime := UInt32.le_trans h.lifetime h'.lifetime
  objects := h.objects.trans h'.objects

end AnslpMsg

/-- The CREATE that a forwarder builds is a copy of the one it received. -/
theorem NfSession.copyOf_buildCreateMessage {α : Type} (s : NfSession α) (nrMri : Mri)
    {c a : AnslpMsg α} (hdecoded : c.IsDecoded)
    (ha : (s.buildCreateMessage nrMri c c.mspecObjects).msg = some a) : a.CopyOf c := by
  have hlen := hdecoded.length_mspecObjects_lt
  have hlifetime := (AnslpMsg.contents_new (α := α) .create).setFixed
    (b := .sessionLifetime (if s.lifetime ≤ c.getSessionLifetime then s.lifetime
      else c.getSessionLifetime)) rfl
  have hmsn := hlifetime.setFixed (b := .msgSequenceNumber c.getMsgSequenceNumber) rfl
  have hselection := hmsn.setFixed
    (b := .selectionAuctioningEntities c.getSelectionAuctioningEntities) rfl
  have hhops := hselection.setFixed (b := .messageHopCount c.getMessageHopCount) rfl
  have hall := hhops.setMspecObjects c.mspecObjects (by
    simp only [List.length_nil, maxIpaps]
    omega)
  have hcontents : a.Contents _ _ := Option.some.inj ha ▸ hall
  refine ⟨?_, ?_, ?_, ?_, hcontents.mspecs⟩
  · rw [AnslpMsg.getMsgSequenceNumber, hcontents.getBody]
    rfl
  · rw [AnslpMsg.getSelectionAuctioningEntities, hcontents.getBody]
    rfl
  · rw [AnslpMsg.getMessageHopCount, hcontents.getBody]
    rfl
  · rw [AnslpMsg.getSessionLifetime, hcontents.getBody]
    change (if s.lifetime ≤ c.getSessionLifetime then s.lifetime else c.getSessionLifetime) ≤ _
    split_ifs with h
    · exact h
    · exact UInt32.le_refl _

namespace ObjectList

variable {α : Type} {o : MspecObject α}

/-- Objects put under fresh keys are there or are new. -/
theorem mem_values_setFresh {newKey : Nat → MspecRuleKey} {objects : List (MspecObject α)}
    {m : ObjectList α} (h : o ∈ (setFresh newKey objects m).values) :
    o ∈ m.values ∨ o ∈ objects := by
  induction objects generalizing newKey m with
  | nil => exact Or.inl h
  | cons x xs ih =>
      rcases ih h with h | h
      · rcases OrderedMap.mem_values_insert h with rfl | h
        · exact Or.inr List.mem_cons_self
        · exact Or.inl h
      · exact Or.inr (List.mem_cons_of_mem _ h)

/-- What is left after a check was there before. -/
theorem mem_values_eraseMissing {m checked m' : ObjectList α}
    (h : m.eraseMissing checked = some m') (ho : o ∈ m'.values) : o ∈ m.values := by
  unfold eraseMissing at h
  split at h
  · cases h
  · rename_i es hwalk
    cases h
    rcases List.mem_map.mp ho with ⟨e, he, rfl⟩
    have hmem := (eraseWalk_sublist hwalk).subset (List.mem_reverse.mp he)
    exact List.mem_map.mpr ⟨e, List.mem_reverse.mp hmem, rfl⟩

end ObjectList

/-! ## Sources -/

/-- Where the objects on a path may come from: the CREATEs of the initiator, the reports of the
installers, and the bids of the users. -/
structure Sources (α : Type) where
  create : AnslpMsg α → Prop
  installed : MspecObject α → Prop
  bid : MspecObject α → Prop

/-- An object of a CREATE of the initiator. -/
def Sources.Requested {α : Type} (S : Sources α) (o : MspecObject α) : Prop :=
  ∃ b, S.create b ∧ o ∈ b.mspecObjects

section

variable {α : Type} (S : Sources α) (own : MspecObject α → Prop)

/-- A message from the sources: a CREATE is a copy of one that the initiator made, and the
objects of a RESPONSE and of a BIDDING are from where they may come. -/
def AnslpMsg.From (a : AnslpMsg α) : Prop :=
  match a.kind with
  | .create => ∃ b, S.create b ∧ a.CopyOf b
  | .response => ∀ o ∈ a.mspecObjects, S.installed o
  | .bidding => ∀ o ∈ a.mspecObjects, S.bid o
  | .refresh | .notify => True

/-- A message with a body from the sources. -/
def NtlpMsg.From (m : NtlpMsg α) : Prop :=
  ∀ a, m.msg = some a → a.From S

/-- An event from the sources; the objects that are installed at this node are its own. -/
def Event.From : Event α → Prop
  | .msg e => e.ntlpMsg.From S
  | .apiInstall objects => ∀ o ∈ objects.values, own o
  | _ => True

/-- A bid of a user of this node is one of the sources. -/
def Event.BidsFrom : Event α → Prop
  | .apiBidding e => ∀ o ∈ e.mspecObjects.values, S.bid o
  | _ => True

/-- What is done with objects from the sources: those to check and to install were requested,
those to remove were installed at this node, those handed to the user were installed, and those
handed to the auction are bids. -/
def Effect.From : Effect α → Prop
  | .sendMessage m => m.From S
  | .check objects => ∀ o ∈ objects.values, S.Requested o
  | .installAuctionRules rule => ∀ o ∈ rule.objectRequests.values, S.Requested o
  | .removeAuctionRules rule => ∀ o ∈ rule.objectResponses.values, own o
  | .auctionInteraction _ rule => ∀ o ∈ rule.objectRequests.values, S.bid o
  | .sendResponse rule => ∀ o ∈ rule.objectRequests.values, S.installed o
  | _ => True

end

/-- All that a call does satisfies a property. -/
def Outcome.DoesOnly {σ α : Type} (P : Effect α → Prop) (o : Outcome σ α) : Prop :=
  ∀ effect ∈ o.effects, P effect

namespace Outcome

variable {σ α : Type} {P : Effect α → Prop} {s : σ} {o : Outcome σ α} {effects : List (Effect α)}

@[simp]
theorem doesOnly_next : (Outcome.next s effects).DoesOnly P ↔ ∀ effect ∈ effects, P effect :=
  Iff.rfl

@[simp]
theorem doesOnly_thrown {exp : RequestError} :
    (Outcome.thrown exp s effects).DoesOnly P ↔ ∀ effect ∈ effects, P effect :=
  Iff.rfl

@[simp]
theorem doesOnly_undefined {f : Fault} : (Outcome.undefined f : Outcome σ α).DoesOnly P :=
  List.forall_mem_nil _

/-- What was done before the call counts as well. -/
theorem DoesOnly.after (h : o.DoesOnly P) (hbefore : ∀ effect ∈ effects, P effect) :
    (o.after effects).DoesOnly P := by
  cases o with
  | next t us => exact List.forall_mem_append.mpr ⟨hbefore, h⟩
  | thrown exp t us => exact List.forall_mem_append.mpr ⟨hbefore, h⟩
  | undefined f => simp [Outcome.after]

end Outcome

/-! ## Messages -/

section

variable {α : Type} {S : Sources α} {own : MspecObject α → Prop} {d : Dispatcher α}
  {o : MspecObject α}

/-- What a CREATE of a session asks for was requested. -/
theorem KindMsg.requested {c : KindMsg .create α} (hc : c.body.From S)
    (ho : o ∈ c.body.mspecObjects) : S.Requested o := by
  rw [AnslpMsg.From, c.kind_eq] at hc
  rcases hc with ⟨b, hb, hcopy⟩
  exact ⟨b, hb, hcopy.objects ▸ ho⟩

/-- The objects of a RESPONSE were installed. -/
theorem KindMsg.installed {r : KindMsg .response α} (hr : r.body.From S)
    (ho : o ∈ r.body.mspecObjects) : S.installed o := by
  rw [AnslpMsg.From, r.kind_eq] at hr
  exact hr o ho

/-- The objects of a BIDDING were bid. -/
theorem KindMsg.bid {b : KindMsg .bidding α} (hb : b.body.From S)
    (ho : o ∈ b.body.mspecObjects) : S.bid o := by
  rw [AnslpMsg.From, b.kind_eq] at hb
  exact hb o ho

/-- The message of an event is from the sources if the event is. -/
theorem KindMsg.from_of_event {kind : MsgKind} {e : MsgEvent α} {c : KindMsg kind α}
    (hevt : (Event.msg e).From S own) (hc : e.ofKind? kind = some c) : c.body.From S :=
  hevt c.body (MsgEvent.ntlpMsg_of_ofKind? hc ▸ c.msg_eq)

theorem KindMsg.from_ntlpMsg {kind : MsgKind} {c : KindMsg kind α} (hc : c.body.From S) :
    c.ntlpMsg.From S := by
  intro a ha
  cases c.msg_eq.symm.trans ha
  exact hc

/-- A copy has the body of its original. -/
theorem KindMsg.from_copyForForwarding {kind : MsgKind} {c : KindMsg kind α}
    (hc : c.body.From S) : c.ntlpMsg.copyForForwarding.From S :=
  KindMsg.from_ntlpMsg hc

/-- A REFRESH has no objects that would have to come from somewhere. -/
theorem NtlpMsg.from_of_kind {m : NtlpMsg α} {a : AnslpMsg α} (hm : m.msg = some a)
    (ha : a.kind = .refresh) : m.From S := by
  intro b hb
  cases hm.symm.trans hb
  rw [AnslpMsg.From, ha]
  trivial

/-- A RESPONSE with objects that were installed. -/
theorem NtlpMsg.from_of_response {m : NtlpMsg α} {a : AnslpMsg α} (hm : m.msg = some a)
    (ha : a.kind = .response) (hobjects : ∀ o ∈ a.mspecObjects, S.installed o) :
    m.From S := by
  intro b hb
  cases hm.symm.trans hb
  rw [AnslpMsg.From, ha]
  exact hobjects

/-- A RESPONSE to a message is built without objects. -/
@[simp]
theorem NtlpMsg.from_createResponse (m : NtlpMsg α) (severity responseCode : UInt8) :
    (m.createResponse severity responseCode).From S := by
  refine from_of_response rfl (m.kind_responseBody _ _) ?_
  rw [(m.contents_responseBody severity responseCode).mspecs]
  exact List.forall_mem_nil _

@[simp]
theorem NtlpMsg.from_createErrorResponse (m : NtlpMsg α) (exp : RequestError) :
    (m.createErrorResponse exp).From S :=
  m.from_createResponse _ _

@[simp]
theorem NtlpMsg.from_createSuccessResponse (m : NtlpMsg α) (lifetime : UInt32) :
    (m.createSuccessResponse lifetime).From S := by
  refine from_of_response rfl
    ((AnslpMsg.kind_setObject _ _).trans (m.kind_responseBody _ _)) ?_
  rw [(m.contents_successBody lifetime).mspecs]
  exact List.forall_mem_nil _

/-- The objects put into a rule are those of the message. -/
theorem AuctionRule.of_mem_ofRequestObjects {P : MspecObject α → Prop}
    {newKey : Nat → MspecRuleKey} {objects : List (MspecObject α)} (h : ∀ o ∈ objects, P o) :
    ∀ o ∈ (AuctionRule.ofRequestObjects newKey objects).objectRequests.values, P o := by
  intro o ho
  rcases ObjectList.mem_values_setFresh ho with ho | ho
  · cases ho
  · exact h o ho

/-- Objects set once more are those of the message. -/
theorem AuctionRule.of_mem_resetRequestObjects {P : MspecObject α → Prop}
    {newKey : Nat → MspecRuleKey} {objects : List (MspecObject α)} (h : ∀ o ∈ objects, P o)
    (rule : AuctionRule α) :
    ∀ o ∈ (rule.resetRequestObjects newKey objects).objectRequests.values, P o := by
  intro o ho
  rcases ObjectList.mem_values_setFresh ho with ho | ho
  · cases ho
  · exact h o ho

/-- The response objects of a rule are those it had or those of the installer. -/
theorem AuctionRule.of_mem_setReponseObjects {P : MspecObject α → Prop}
    {newKey : Nat → MspecRuleKey} {rule : AuctionRule α} {install : ObjectList α}
    (hrule : ∀ o ∈ rule.objectResponses.values, P o) (h : ∀ o ∈ install.values, P o) :
    ∀ o ∈ (rule.setReponseObjects newKey install).objectResponses.values, P o := by
  intro o ho
  rcases ObjectList.mem_values_setFresh ho with ho | ho
  · exact hrule o ho
  · exact h o ho

/-- A BIDDING received is handed to the auction with its objects. -/
theorem doesOnly_interact {σ : Type} {sid : SessionId} {server : Bool} {s : σ}
    {b : KindMsg .bidding α} (hb : b.body.From S) :
    (interact d sid server s b.body).DoesOnly (Effect.From S own) := by
  have hfrom : (Effect.auctionInteraction server
      (AuctionRule.ofRequestObjects d.newKey b.body.mspecObjects)).From S own :=
    AuctionRule.of_mem_ofRequestObjects fun o ho => KindMsg.bid hb ho
  unfold interact
  rw [AnslpMsg.getMspecObjects_eq]
  split_ifs
  · dsimp only
    split
    · simpa using hfrom
    · simpa using hfrom
  · simp

end

/-! ## Forwarder -/

namespace NfSession

variable {α : Type} {S : Sources α} {own : MspecObject α → Prop} {conf : AnslpConfig}
  {d : Dispatcher α} {s s' : NfSession α} {evt : Event α} {effects : List (Effect α)}

/-- What a forwarder stores is from the sources. -/
structure From (S : Sources α) (own : MspecObject α → Prop) (s : NfSession α) : Prop where
  create : ∀ c, s.createMessage = some c → c.body.From S
  decoded : s.StoresDecoded
  response : ∀ r, s.responseMessage = some r → r.body.From S
  requests : ∀ o ∈ s.rule.objectRequests.values, S.Requested o
  responses : ∀ o ∈ s.rule.objectResponses.values, own o

theorem from_new (id : SessionId) : (new id : NfSession α).From S own where
  create _ hc := by cases hc
  decoded _ hc := by cases hc
  response _ hr := by cases hr
  requests _ ho := by cases ho
  responses _ ho := by cases ho

/-- The timers, the numbers and the state do not matter. -/
theorem From.congr (h : s.From S own) (hcreate : s'.createMessage = s.createMessage)
    (hresponse : s'.responseMessage = s.responseMessage) (hrule : s'.rule = s.rule) :
    s'.From S own where
  create := hcreate ▸ h.create
  decoded := by
    intro c hc
    exact h.decoded c (hcreate ▸ hc)
  response := hresponse ▸ h.response
  requests := hrule ▸ h.requests
  responses := hrule ▸ h.responses

/-- Storing the number and the lifetime of a CREATE keeps the rest. -/
theorem From.numbered (h : s.From S own) (c : KindMsg .create α) (lifetime : UInt32) :
    (s.numbered c lifetime).From S own :=
  h.congr rfl rfl rfl

theorem From.configured (h : s.From S own) (conf : AnslpConfig) :
    (s.configured conf).From S own :=
  h.congr rfl rfl rfl

/-- A CREATE from the sources is stored. -/
theorem From.stored (h : s.From S own) {c : KindMsg .create α} (hc : c.body.From S)
    (hdecoded : c.body.IsDecoded) : ({ s with createMessage := some c } : NfSession α).From S own :=
  ⟨fun _ hc' => Option.some.inj hc' ▸ hc, fun _ hc' => Option.some.inj hc' ▸ hdecoded,
    h.response, h.requests, h.responses⟩

/-- Its objects are requested. -/
theorem From.accepted (h : s.From S own) {c : KindMsg .create α} (hc : c.body.From S)
    (hdecoded : c.body.IsDecoded) (flow : Flow) : (s.accepted d c flow).From S own where
  create := by
    intro c' hc'
    exact Option.some.inj hc' ▸ hc
  decoded := by
    intro c' hc'
    exact Option.some.inj hc' ▸ hdecoded
  response := h.response
  requests := AuctionRule.of_mem_resetRequestObjects (fun o ho => KindMsg.requested hc ho) s.rule
  responses := h.responses

/-- The CREATE built for the next node asks for what the one received asks for. -/
theorem from_buildCreateMessage {c : KindMsg .create α} (hc : c.body.From S)
    (hdecoded : c.body.IsDecoded) (nrMri : Mri) :
    (s.buildCreateMessage nrMri c.body c.body.mspecObjects).From S := by
  rw [AnslpMsg.From, c.kind_eq] at hc
  rcases hc with ⟨b, hb, hcopy⟩
  intro a ha
  have hkind : a.kind = .create := by
    cases ha
    exact AnslpMsg.kind_setMspecObjects _ _
  rw [AnslpMsg.From, hkind]
  exact ⟨b, hb, (s.copyOf_buildCreateMessage nrMri hdecoded ha).trans hcopy⟩

/-- The RESPONSE built holds objects that were installed here or downstream. -/
theorem From.buildResponse (h : s.From S own) (hown : ∀ o, own o → S.installed o)
    {r : KindMsg .response α} (hr : r.body.From S) : (s.buildResponse r).From S := by
  refine NtlpMsg.from_of_response rfl ((AnslpMsg.kind_setMspecObjects _ _).trans r.kind_eq) ?_
  intro o ho
  rcases AnslpMsg.mem_mspecObjects_setMspecObjects ho with ho | ho
  · exact KindMsg.installed hr ho
  · exact hown o (h.responses o ho)

/-- Setting a session up stores and does what is from the sources. -/
theorem From.setUp (h : s.From S own) {c : KindMsg .create α} (hc : c.body.From S)
    (hdecoded : c.body.IsDecoded) (hsetUp : SetUp conf d s c s' effects) :
    s'.From S own ∧ ∀ effect ∈ effects, effect.From S own := by
  cases hsetUp with
  | notPathcoupled => exact ⟨(h.stored hc hdecoded).congr rfl rfl rfl, by simp [Effect.From]⟩
  | @checking flow =>
      have haccepted := h.accepted (d := d) hc hdecoded flow
      refine ⟨haccepted.congr rfl rfl rfl, ?_⟩
      simpa [Effect.From] using haccepted.requests
  | @passed flow =>
      refine ⟨(h.accepted (d := d) hc hdecoded flow).congr rfl rfl rfl, ?_⟩
      simpa [Effect.From] using from_buildCreateMessage hc hdecoded _
  | @refused flow =>
      have haccepted := h.accepted (d := d) hc hdecoded flow
      refine ⟨haccepted.congr rfl rfl rfl, ?_⟩
      simpa [Effect.From] using haccepted.requests

/-- Every transition stores what is from the sources. -/
theorem From.transits (h : s.From S own) (hevt : evt.From S own) (hdecoded : evt.IsDecoded)
    (ht : Transits conf d s evt s' effects) : s'.From S own := by
  cases ht with
  | created _ hc _ _ hsetUp =>
      exact (((h.configured conf).numbered _ _).setUp (KindMsg.from_of_event hevt hc)
        (Event.isDecoded_ofKind? hdecoded hc) hsetUp).1
  | replaced _ hc hsetUp =>
      exact ((h.numbered _ _).setUp (KindMsg.from_of_event hevt hc)
        (Event.isDecoded_ofKind? hdecoded hc) hsetUp).1
  | checked _ _ _ herase =>
      exact ⟨h.create, h.decoded, h.response,
        fun o ho => h.requests o (ObjectList.mem_values_eraseMissing herase ho), h.responses⟩
  | responded _ _ hr =>
      have hresponse := KindMsg.from_of_event hevt (MsgEvent.of_anslpResponse? hr).1
      exact ⟨h.create, h.decoded, fun r' hr' => Option.some.inj hr' ▸ hresponse, h.requests,
        h.responses⟩
  | installed =>
      exact ⟨h.create, h.decoded, h.response, h.requests,
        AuctionRule.of_mem_setReponseObjects h.responses hevt⟩
  | removing _ hends | closed _ hends => cases hends <;> exact h.congr rfl rfl rfl
  | _ => exact h.congr rfl rfl rfl

/-- A CREATE that sets the session up. -/
theorem doesOnly_processStateClose {c : KindMsg .create α} (hc : c.body.From S)
    (hdecoded : c.body.IsDecoded) :
    (s.processStateClose conf d c).DoesOnly (Effect.From S own) := by
  have hrequests : ∀ o ∈ (s.rule.resetRequestObjects d.newKey
      c.body.mspecObjects).objectRequests.values, S.Requested o :=
    AuctionRule.of_mem_resetRequestObjects (fun o ho => KindMsg.requested hc ho) s.rule
  unfold processStateClose
  dsimp only
  split
  · simp [Effect.From]
  · split_ifs
    · simp
    · rw [AnslpMsg.getMspecObjects_eq]
      split_ifs
      · dsimp only
        unfold checkOrPass
        split
        · simpa [Effect.From] using hrequests
        · simpa [Effect.From] using from_buildCreateMessage hc hdecoded _
        · simpa [Effect.From] using hrequests
      · simp

/-- A closed session acts on a CREATE only. -/
theorem doesOnly_handleStateClose (hevt : evt.From S own) (hdecoded : evt.IsDecoded) :
    (s.handleStateClose conf d evt).DoesOnly (Effect.From S own) := by
  unfold handleStateClose
  split
  · split
    · simp
    · rename_i c hc
      dsimp only
      split
      · simp [Effect.From]
      · split_ifs
        · simp
        · exact doesOnly_processStateClose (KindMsg.from_of_event hevt hc)
            (Event.isDecoded_ofKind? hdecoded hc)
  · simp

/-- A CREATE that comes while another one is pending is passed on, sets the session up again or is
dropped. -/
theorem doesOnly_processPendingCreate {e : MsgEvent α} {c : KindMsg .create α}
    (hc : c.body.From S) (hdecoded : c.body.IsDecoded) :
    (s.processPendingCreate conf d e c).DoesOnly (Effect.From S own) := by
  have hpassed := KindMsg.from_copyForForwarding hc
  unfold processPendingCreate
  split
  · simp
  · split_ifs
    · simp [Effect.From]
    · simpa [Effect.From] using hpassed
    · simp [Effect.From]
    · simpa [Effect.From] using hpassed
    · exact doesOnly_processStateClose hc hdecoded

/-- Giving up sends a RESPONSE without objects. -/
theorem doesOnly_giveUp : (s.giveUp).DoesOnly (Effect.From S own) := by
  unfold giveUp
  split
  · simp
  · simp [Effect.From]

/-- While the check is awaited, the CREATE received is what is worked on. -/
theorem From.doesOnly_handleStatePendingCheck (h : s.From S own) (hevt : evt.From S own)
    (hdecoded : evt.IsDecoded) :
    (s.handleStatePendingCheck conf d evt).DoesOnly (Effect.From S own) := by
  unfold handleStatePendingCheck
  split
  · split
    · rename_i c hc
      exact doesOnly_processPendingCreate (KindMsg.from_of_event hevt hc)
        (Event.isDecoded_ofKind? hdecoded hc)
    · simp
  · exact doesOnly_giveUp
  · split_ifs
    · exact doesOnly_giveUp
    · simp
  · split
    · rename_i previous nrMri hprevious _
      rw [AnslpMsg.getMspecObjects_eq]
      split_ifs
      · dsimp only
        split
        · simp
        · simpa [Effect.From] using
            from_buildCreateMessage (h.create _ hprevious) (h.decoded _ hprevious) nrMri
      · simp
    · simp
  · simp

/-- A RESPONSE from downstream is passed on, or its objects join the rule that is installed. -/
theorem From.doesOnly_handleStatePending (h : s.From S own) (hevt : evt.From S own)
    (hdecoded : evt.IsDecoded) :
    (s.handleStatePending conf d evt).DoesOnly (Effect.From S own) := by
  unfold handleStatePending
  split
  · exact doesOnly_giveUp
  · split_ifs
    · exact doesOnly_giveUp
    · simp
  · split
    · rename_i c hc
      exact doesOnly_processPendingCreate (KindMsg.from_of_event hevt hc)
        (Event.isDecoded_ofKind? hdecoded hc)
    · split
      · simp
      · split
        · rename_i r hr
          have hresponse := KindMsg.from_of_event hevt (MsgEvent.of_anslpResponse? hr).1
          unfold processResponse
          split_ifs
          · dsimp only
            split
            · simpa [Effect.From] using h.requests
            · simpa [Effect.From] using h.requests
          · simpa [Effect.From] using KindMsg.from_copyForForwarding hresponse
        · simp
  · split_ifs <;> simp

/-- The objects that were installed here join the RESPONSE. -/
theorem From.doesOnly_handleStatePendingInstalling (h : s.From S own) (hevt : evt.From S own)
    (hdecoded : evt.IsDecoded) (hown : ∀ o, own o → S.installed o) :
    (s.handleStatePendingInstalling conf d evt).DoesOnly (Effect.From S own) := by
  unfold handleStatePendingInstalling
  split
  · split
    · rename_i c hc
      exact doesOnly_processPendingCreate (KindMsg.from_of_event hevt hc)
        (Event.isDecoded_ofKind? hdecoded hc)
    · simp
  · exact doesOnly_giveUp
  · split_ifs
    · exact doesOnly_giveUp
    · simp
  · rename_i mspecObjects
    split
    · simp
    · rename_i r hr
      unfold processInstall
      split_ifs
      · have hinstalled : ({ s with
            rule := s.rule.setReponseObjects d.newKey mspecObjects } : NfSession α).From S own :=
          ⟨h.create, h.decoded, h.response, h.requests,
            AuctionRule.of_mem_setReponseObjects h.responses hevt⟩
        simpa [Effect.From] using hinstalled.buildResponse hown (h.response r hr)
      · have hremoval : ∀ effect ∈ (if s.rule.getNumberMspecResponseObjects > 0 then
            [Effect.removeAuctionRules s.rule] else []), effect.From S own := by
          split_ifs
          · simpa [Effect.From] using h.responses
          · exact List.forall_mem_nil _
        have hteardown : ∀ nrMri, (Effect.sendMessage (({ s with
            stateTimer := 0, lifetime := 0 } : NfSession α).buildTeardownMessage nrMri)).From
              S own :=
          fun nrMri => NtlpMsg.from_of_kind rfl rfl
        dsimp only
        split
        · exact hremoval
        · split
          · simp
          · rename_i nrMri _
            rw [Outcome.doesOnly_next]
            refine List.forall_mem_append.mpr ⟨hremoval, ?_⟩
            simpa [Effect.From] using hteardown nrMri
  · simp

/-- What is removed when a session ends was installed here. -/
theorem From.doesOnly_removeOrClose (h : s.From S own) {s₁ : NfSession α}
    (hrule : s₁.rule = s.rule) (seconds : UInt32) :
    (s₁.removeOrClose d seconds).DoesOnly (Effect.From S own) := by
  unfold removeOrClose
  rw [hrule]
  split_ifs
  · split
    · simpa [Effect.From] using h.responses
    · simpa [Effect.From] using h.responses
  · simp

/-- A BIDDING is handed to the auction and passed on. -/
theorem doesOnly_processBidding {e : MsgEvent α} {b : KindMsg .bidding α}
    (hb : b.body.From S) : (s.processBidding d e b).DoesOnly (Effect.From S own) := by
  unfold processBidding
  split_ifs
  · exact doesOnly_interact hb
  · simpa [Effect.From] using KindMsg.from_copyForForwarding hb

/-- In AUCTIONING messages are passed on, and the session may end. -/
theorem From.doesOnly_handleStateAuctioning (h : s.From S own) (hevt : evt.From S own) :
    (s.handleStateAuctioning d evt).DoesOnly (Effect.From S own) := by
  unfold handleStateAuctioning
  split
  · split
    · rename_i c hc
      have hpassed := KindMsg.from_copyForForwarding (KindMsg.from_of_event hevt hc)
      unfold processRefresh
      split
      · simp [Effect.From]
      · split
        · simp
        · simpa [Effect.From] using hpassed
    · split
      · rename_i b hb
        exact doesOnly_processBidding (KindMsg.from_of_event hevt hb)
      · split
        · simp
        · split
          · rename_i r hr
            have hpassed := KindMsg.from_copyForForwarding
              (KindMsg.from_of_event hevt (MsgEvent.of_anslpResponse? hr).1)
            unfold processRefreshResponse
            split_ifs
            · simpa [Effect.From] using hpassed
            · apply Outcome.DoesOnly.after
              · apply h.doesOnly_removeOrClose
                rfl
              · simpa [Effect.From] using hpassed
          · simp
  · apply h.doesOnly_removeOrClose
    rfl
  · split_ifs
    · apply h.doesOnly_removeOrClose
      rfl
    · apply h.doesOnly_removeOrClose
      rfl
    · simp
  · apply h.doesOnly_removeOrClose
    rfl
  · split_ifs <;> simp

theorem doesOnly_handleStatePendingTeardown (hevt : evt.From S own) :
    (s.handleStatePendingTeardown d evt).DoesOnly (Effect.From S own) := by
  unfold handleStatePendingTeardown
  split
  · split
    · simp
    · split
      · rename_i b hb
        exact doesOnly_processBidding (KindMsg.from_of_event hevt hb)
      · simp
  · split_ifs <;> simp
  · simp
  · simp

/-- All that a forwarder does is from the sources. -/
theorem From.doesOnly (h : s.From S own) (hevt : evt.From S own) (hdecoded : evt.IsDecoded)
    (hown : ∀ o, own o → S.installed o) :
    (s.processEvent conf d evt).DoesOnly (Effect.From S own) := by
  unfold processEvent
  split
  · exact doesOnly_handleStateClose hevt hdecoded
  · exact h.doesOnly_handleStatePendingCheck hevt hdecoded
  · exact h.doesOnly_handleStatePending hevt hdecoded
  · exact h.doesOnly_handleStatePendingInstalling hevt hdecoded hown
  · exact h.doesOnly_handleStateAuctioning hevt
  · exact doesOnly_handleStatePendingTeardown hevt

end NfSession

/-! ## Responder -/

namespace NrSession

variable {α : Type} {S : Sources α} {own : MspecObject α → Prop} {conf : AnslpConfig}
  {d : Dispatcher α} {s s' : NrSession α} {evt : Event α} {effects : List (Effect α)}

/-- What a responder stores is from the sources. -/
structure From (S : Sources α) (own : MspecObject α → Prop) (s : NrSession α) : Prop where
  create : ∀ c, s.createMessage = some c → c.body.From S
  requests : ∀ o ∈ s.rule.objectRequests.values, S.Requested o
  responses : ∀ o ∈ s.rule.objectResponses.values, own o

theorem from_new (conf : AnslpConfig) (id : SessionId) (random : UInt32) :
    (new conf id random : NrSession α).From S own where
  create _ hc := by cases hc
  requests _ ho := by cases ho
  responses _ ho := by cases ho

/-- The timers, the numbers and the state do not matter. -/
theorem From.congr (h : s.From S own) (hcreate : s'.createMessage = s.createMessage)
    (hrule : s'.rule = s.rule) : s'.From S own where
  create := hcreate ▸ h.create
  requests := hrule ▸ h.requests
  responses := hrule ▸ h.responses

/-- The objects of a CREATE from the sources are requested. -/
theorem From.requested (h : s.From S own) {c : KindMsg .create α} (hc : c.body.From S)
    (hcreate : s'.createMessage = some c)
    (hrule : s'.rule = s.rule.resetRequestObjects d.newKey c.body.mspecObjects) :
    s'.From S own where
  create := by
    intro c' hc'
    cases hcreate.symm.trans hc'
    exact hc
  requests := by
    rw [hrule]
    exact AuctionRule.of_mem_resetRequestObjects (fun o ho => KindMsg.requested hc ho) s.rule
  responses := by
    rw [hrule]
    exact h.responses

/-- The RESPONSE built holds objects that were installed here. -/
theorem From.buildSuccessResponse (h : s.From S own) (hown : ∀ o, own o → S.installed o)
    (m : NtlpMsg α) (lifetime : UInt32) : (s.buildSuccessResponse m lifetime).From S := by
  refine NtlpMsg.from_of_response rfl ((AnslpMsg.kind_setMspecObjects _ _).trans
    ((AnslpMsg.kind_setObject _ _).trans (m.kind_responseBody _ _))) ?_
  intro o ho
  rcases AnslpMsg.mem_mspecObjects_setMspecObjects ho with ho | ho
  · rw [(m.contents_successBody lifetime).mspecs] at ho
    cases ho
  · exact hown o (h.responses o ho)

/-- A BIDDING holds the bid of the user. -/
theorem from_buildBiddingMessage {e : ApiBiddingEvent α}
    (he : ∀ o ∈ e.mspecObjects.values, S.bid o) (mri : Mri) :
    (s.buildBiddingMessage mri e).From S := by
  intro a ha
  have hkind : a.kind = .bidding := by
    cases ha
    exact AnslpMsg.kind_setMspecObjects _ _
  rw [AnslpMsg.From, hkind]
  cases ha
  intro o ho
  rcases AnslpMsg.mem_mspecObjects_setMspecObjects ho with ho | ho
  · rcases AnslpMsg.mem_mspecObjects_setObject ho with ho | ho
    · cases ho
    · cases ho
  · exact he o ho

/-- Every transition stores what is from the sources. -/
theorem From.transits (h : s.From S own) (hevt : evt.From S own)
    (ht : Transits conf d s evt s' effects) : s'.From S own := by
  cases ht with
  | createWithoutLifetime _ hc =>
      have hcreate := KindMsg.from_of_event hevt hc
      exact ⟨fun c' hc' => Option.some.inj hc' ▸ hcreate, h.requests, h.responses⟩
  | started _ hc | startFailed _ hc =>
      exact h.requested (KindMsg.from_of_event hevt hc) rfl rfl
  | startedIdle _ hc =>
      have hcreate := KindMsg.from_of_event hevt hc
      exact ⟨fun c' hc' => Option.some.inj hc' ▸ hcreate, List.forall_mem_nil _,
        List.forall_mem_nil _⟩
  | checkRetried _ hc => exact h.requested (h.create _ hc) hc rfl
  | checked _ herase =>
      exact ⟨h.create, fun o ho => h.requests o (ObjectList.mem_values_eraseMissing herase ho),
        h.responses⟩
  | installed =>
      exact ⟨h.create, h.requests, AuctionRule.of_mem_setReponseObjects h.responses hevt⟩
  | _ => exact h.congr rfl rfl

/-- What is removed at the end was installed here. -/
theorem From.doesOnly_removeOrClose (h : s.From S own) :
    (s.removeOrClose conf d).DoesOnly (Effect.From S own) := by
  unfold removeOrClose
  split_ifs
  · split
    · simpa [Effect.From] using h.responses
    · simpa [Effect.From] using h.responses
  · simp

/-- The RESPONSE is answered from the rule. -/
theorem From.doesOnly_respond (h : s.From S own) (hown : ∀ o, own o → S.installed o)
    (c : KindMsg .create α) : (s.respond conf d c).DoesOnly (Effect.From S own) := by
  have hidle : ({ s with rule := AuctionRule.empty } : NrSession α).From S own :=
    ⟨h.create, List.forall_mem_nil _, List.forall_mem_nil _⟩
  unfold respond
  split
  · simpa [Effect.From] using h.requests
  · simpa [Effect.From] using hidle.buildSuccessResponse hown c.ntlpMsg s.lifetime
  · simpa [Effect.From] using h.requests

/-- A closed session acts on a CREATE only. -/
theorem From.doesOnly_handleStateClose (h : s.From S own) (hevt : evt.From S own)
    (hown : ∀ o, own o → S.installed o) :
    (s.handleStateClose conf d evt).DoesOnly (Effect.From S own) := by
  unfold handleStateClose
  split
  · split
    · simp
    · rename_i c hc
      dsimp only
      split
      · simp [Effect.From]
      · dsimp only [setLastCreateMessage]
        cases s.createMessage with
        | some _ => simp
        | none =>
            dsimp only
            split_ifs
            · unfold initiate
              split
              · simp
              · rw [saveAuctionRule_eq]
                split_ifs
                · apply From.doesOnly_respond _ hown
                  exact h.requested (KindMsg.from_of_event hevt hc) rfl rfl
                · simp
            · simp [Effect.From]
  · simp

/-- The check is asked for with the objects of the stored rule. -/
theorem From.doesOnly_retryCheck (h : s.From S own) :
    (s.retryCheck conf d).DoesOnly (Effect.From S own) := by
  unfold retryCheck
  split
  · simp
  · rename_i c hc
    split_ifs
    · dsimp only
      rw [saveAuctionRule_eq]
      split_ifs
      · have hrequests : ∀ o ∈ (s.rule.resetRequestObjects d.newKey
            c.body.mspecObjects).objectRequests.values, S.Requested o :=
          AuctionRule.of_mem_resetRequestObjects
            (fun o ho => KindMsg.requested (h.create c hc) ho) s.rule
        dsimp only
        split
        · simpa [Effect.From] using hrequests
        · rw [Outcome.doesOnly_next]
          refine List.forall_mem_append.mpr ⟨?_, by simp [Effect.From]⟩
          intro effect heffect
          unfold CheckResult.effects at heffect
          split at heffect
          · cases heffect
          · rw [List.mem_singleton.mp heffect]
            exact hrequests
      · simp
    · simp [Effect.From]

theorem From.doesOnly_handleStatePending (h : s.From S own) :
    (s.handleStatePending conf d evt).DoesOnly (Effect.From S own) := by
  unfold handleStatePending
  split
  · exact h.doesOnly_retryCheck
  · split_ifs
    · exact h.doesOnly_retryCheck
    · simp
  · split
    · simp
    · rename_i objectRequests herase
      have hrequests : ∀ o ∈ objectRequests.values, S.Requested o :=
        fun o ho => h.requests o (ObjectList.mem_values_eraseMissing herase ho)
      dsimp only
      split
      · simpa [Effect.From] using hrequests
      · simpa [Effect.From] using hrequests
  · simp

/-- The objects that were installed are answered to the initiator. -/
theorem From.doesOnly_handleStatePendingInstalling (h : s.From S own) (hevt : evt.From S own)
    (hown : ∀ o, own o → S.installed o) :
    (s.handleStatePendingInstalling conf d evt).DoesOnly (Effect.From S own) := by
  unfold handleStatePendingInstalling
  split
  · split_ifs
    · dsimp only
      split
      · simpa [Effect.From] using h.requests
      · simpa [Effect.From] using h.requests
    · split
      · simp
      · simp [Effect.From]
    · simp
  · rename_i mspecObjects
    split
    · simp
    · rename_i c hc
      split_ifs
      · have hinstalled : ({ s with
            rule := s.rule.setReponseObjects d.newKey mspecObjects } : NrSession α).From S own :=
          ⟨h.create, h.requests, AuctionRule.of_mem_setReponseObjects h.responses hevt⟩
        simpa [Effect.From] using hinstalled.buildSuccessResponse hown c.ntlpMsg s.lifetime
      · dsimp only
        split
        · split
          · simpa [Effect.From] using h.responses
          · simpa [Effect.From] using h.responses
        · simp [Effect.From]
  · simp

/-- A bid of the user is sent upstream. -/
theorem doesOnly_processApiBidding {e : ApiBiddingEvent α}
    (he : ∀ o ∈ e.mspecObjects.values, S.bid o) :
    (s.processApiBidding e).DoesOnly (Effect.From S own) := by
  unfold processApiBidding
  split
  · simp
  · split_ifs
    · simpa [Effect.From] using from_buildBiddingMessage he _
    · simpa [Effect.From] using from_buildBiddingMessage he _

/-- In AUCTIONING a responder hands bids over and answers requests. -/
theorem From.doesOnly_handleStateAuctioning (h : s.From S own) (hevt : evt.From S own)
    (hbid : evt.BidsFrom S) :
    (s.handleStateAuctioning conf d evt).DoesOnly (Effect.From S own) := by
  unfold handleStateAuctioning
  split
  · split
    · unfold processRefresh
      split
      · simp [Effect.From]
      · split_ifs
        · simp
        · simp [Effect.From]
        · apply Outcome.DoesOnly.after
          · exact h.doesOnly_removeOrClose
          · simp [Effect.From]
    · split
      · rename_i b hb
        split_ifs
        · exact doesOnly_interact (KindMsg.from_of_event hevt hb)
        · simp
      · simp
  · exact doesOnly_processApiBidding hbid
  · split_ifs
    · apply Outcome.DoesOnly.after
      · exact h.doesOnly_removeOrClose
      · simp [Effect.From]
    · simp
  · simp

theorem From.doesOnly_handleStatePendingTeardown (h : s.From S own) (hbid : evt.BidsFrom S) :
    (s.handleStatePendingTeardown conf d evt).DoesOnly (Effect.From S own) := by
  unfold handleStatePendingTeardown
  split
  · split_ifs
    · dsimp only
      split
      · simpa [Effect.From] using h.responses
      · simpa [Effect.From] using h.responses
    · simp
    · simp
  · exact doesOnly_processApiBidding hbid
  · simp
  · simp

/-- All that a responder does is from the sources. -/
theorem From.doesOnly (h : s.From S own) (hevt : evt.From S own) (hbid : evt.BidsFrom S)
    (hown : ∀ o, own o → S.installed o) :
    (s.processEvent conf d evt).DoesOnly (Effect.From S own) := by
  unfold processEvent
  split
  · exact h.doesOnly_handleStateClose hevt hown
  · exact h.doesOnly_handleStatePending
  · exact h.doesOnly_handleStatePendingInstalling hevt hown
  · exact h.doesOnly_handleStateAuctioning hevt hbid
  · exact h.doesOnly_handleStatePendingTeardown hbid

end NrSession

/-! ## Initiator -/

namespace NiSession

variable {α : Type} {S : Sources α} {own : MspecObject α → Prop} {d : Dispatcher α}
  {s s' : NiSession α} {evt : Event α} {effects : List (Effect α)}

/-- What an initiator stores is from the sources. -/
structure From (S : Sources α) (own : MspecObject α → Prop) (s : NiSession α) : Prop where
  create : ∀ c, s.lastCreateMsg = some c → c.body.From S
  handedOver : ∀ rule, s.lastAuctionInstallRule = some rule →
    (∀ o ∈ rule.objectRequests.values, S.installed o) ∧
      ∀ o ∈ rule.objectResponses.values, own o
  rule : ∀ rule, s.rule = some rule → ∀ o ∈ rule.objectResponses.values, own o

/-- The CREATE that is sent for the request of a user is one that the initiator made. -/
def SendsCreates (S : Sources α) (evt : Event α) (effects : List (Effect α)) : Prop :=
  ∀ e m a, evt = .apiCreate e → .sendMessage m ∈ effects → m.msg = some a → a.kind = .create →
    S.create a

/-- Nothing is stored in a new session. -/
theorem from_new (conf : AnslpConfig) (id : SessionId) (random : UInt32) :
    (new conf id random : NiSession α).From S own where
  create _ hc := by cases hc
  handedOver _ hrule := by cases hrule
  rule _ hrule := by
    cases hrule
    exact List.forall_mem_nil _

/-- The timers, the numbers and the state do not matter. -/
theorem From.congr (h : s.From S own) (hcreate : s'.lastCreateMsg = s.lastCreateMsg)
    (hhandedOver : s'.lastAuctionInstallRule = s.lastAuctionInstallRule)
    (hrule : s'.rule = s.rule) : s'.From S own where
  create := hcreate ▸ h.create
  handedOver := hhandedOver ▸ h.handedOver
  rule := hrule ▸ h.rule

/-- Of a CREATE only its request has to come from the sources. -/
theorem from_of_create {a : AnslpMsg α} (hkind : a.kind = .create) (ha : S.create a) :
    a.From S := by
  rw [AnslpMsg.From, hkind]
  exact ⟨a, ha, .refl a⟩

/-- The objects of a RESPONSE are handed over. -/
theorem handedOver_ofRequestObjects {r : KindMsg .response α} (hr : r.body.From S) :
    (∀ o ∈ (AuctionRule.ofRequestObjects d.newKey r.body.mspecObjects).objectRequests.values,
      S.installed o) ∧
      ∀ o ∈ (AuctionRule.ofRequestObjects d.newKey r.body.mspecObjects).objectResponses.values,
        own o :=
  ⟨AuctionRule.of_mem_ofRequestObjects fun _ ho => KindMsg.installed hr ho,
    List.forall_mem_nil _⟩

/-- The session of a request stores the CREATE that is sent for it. -/
theorem From.created (h : s.From S own) {e : ApiCreateEvent α}
    (hsent : S.create ((s.withLifetime (s.requestedLifetime e)).createBody e)) :
    (s.created d e).From S own where
  create := by
    intro c hc
    cases hc
    exact from_of_create (kind_createBody _ _) hsent
  handedOver := h.handedOver
  rule := h.rule

/-- The objects of the CREATE for a request are those requested. -/
theorem mem_mspecObjects_createBody {e : ApiCreateEvent α} {o : MspecObject α}
    (h : o ∈ (s.createBody e).mspecObjects) : o ∈ e.mspecObjects.values := by
  unfold createBody at h
  rcases AnslpMsg.mem_mspecObjects_setMspecObjects h with h | h
  · rcases AnslpMsg.mem_mspecObjects_setObject h with h | h
    · rcases AnslpMsg.mem_mspecObjects_setObject h with h | h
      · rcases AnslpMsg.mem_mspecObjects_setObject h with h | h
        · rcases AnslpMsg.mem_mspecObjects_setObject h with h | h
          · cases h
          · cases h
        · cases h
      · cases h
    · cases h
  · exact h

/-- A request is answered with a CREATE for it, or with nothing. -/
theorem createBody_of_sent {e : ApiCreateEvent α} {m : NtlpMsg α}
    (hm : m ∈ (s.processEvent d (.apiCreate e)).sent) :
    ∃ t : NiSession α, m.msg = some (t.createBody e) := by
  unfold processEvent at hm
  split at hm
  · unfold handleStateClose at hm
    dsimp only at hm
    split at hm
    · cases hm
    · split at hm
      · cases List.mem_singleton.mp hm
        exact ⟨_, rfl⟩
      · cases List.mem_singleton.mp hm
        exact ⟨_, rfl⟩
  · unfold handleStatePending at hm
    dsimp only at hm
    split at hm
    · cases hm
    · cases hm
  · cases hm
  · unfold handleStateAuctioning at hm
    dsimp only at hm
    split at hm
    · cases hm
    · cases hm
  · cases hm

/-- The objects of a CREATE that is sent for a request are those requested. -/
theorem objects_of_sent {e : ApiCreateEvent α} {m : NtlpMsg α} {a : AnslpMsg α}
    (hm : m ∈ (s.processEvent d (.apiCreate e)).sent) (ha : m.msg = some a) :
    ∀ o ∈ a.mspecObjects, o ∈ e.mspecObjects.values := by
  rcases createBody_of_sent hm with ⟨t, ht⟩
  cases ht.symm.trans ha
  exact fun o ho => mem_mspecObjects_createBody ho

/-- Every transition to an open session stores what is from the sources. -/
theorem From.transits (h : s.From S own) (hevt : evt.From S own)
    (hsends : SendsCreates S evt effects) (ht : Transits d s evt s' effects)
    (hopen : s'.state ≠ .close) : s'.From S own := by
  cases ht with
  | @created e =>
      have hsent : S.create ((s.withLifetime (s.requestedLifetime e)).createBody e) := by
        apply hsends e ((s.withLifetime (s.requestedLifetime e)).buildCreateMessage
          (requestedMri e) e).ntlpMsg
        · rfl
        · exact List.mem_append_left _ List.mem_cons_self
        · rfl
        · exact kind_createBody _ _
      exact (h.created hsent).congr rfl rfl rfl
  | @createdUntold e =>
      apply h.created
      apply hsends e ((s.withLifetime (s.requestedLifetime e)).buildCreateMessage
        (requestedMri e) e).ntlpMsg
      · rfl
      · exact List.mem_cons_self
      · rfl
      · exact kind_createBody _ _
  | responded _ _ hr =>
      have hresponse := KindMsg.from_of_event hevt (MsgEvent.of_anslpResponse? hr).1
      refine ⟨h.create, ?_, h.rule⟩
      intro rule hrule
      cases hrule
      exact handedOver_ofRequestObjects hresponse
  | installed _ hrule =>
      refine ⟨h.create, h.handedOver, ?_⟩
      intro rule' hrule'
      cases hrule'
      exact AuctionRule.of_mem_setReponseObjects (h.handedOver _ hrule).2 hevt
  | removing _ hends => cases hends <;> exact h.congr rfl rfl rfl
  | failed | tornDown | uninstalled | closed | removed => exact absurd rfl hopen
  | _ => exact h.congr rfl rfl rfl

/-- A closed session sends the CREATE for the request of its user. -/
theorem doesOnly_handleStateClose (hsends : SendsCreates S evt (s.handleStateClose d evt).effects) :
    (s.handleStateClose d evt).DoesOnly (Effect.From S own) := by
  unfold handleStateClose at hsends ⊢
  cases evt with
  | apiCreate e =>
      dsimp only at hsends ⊢
      cases hsetup : s.setupSession d e with
      | error f => simp
      | ok s₁ =>
          rw [hsetup] at hsends
          dsimp only at hsends ⊢
          have hcreate : (s₁.buildCreateMessage (requestedMri e) e).ntlpMsg.From S := by
            intro a ha
            cases ha
            apply from_of_create (kind_createBody _ _)
            apply hsends e (s₁.buildCreateMessage (requestedMri e) e).ntlpMsg
            · rfl
            · split_ifs
              · exact List.mem_cons_self
              · exact List.mem_cons_self
            · rfl
            · exact kind_createBody _ _
          split_ifs
          · simpa [Effect.From] using hcreate
          · simpa [Effect.From] using hcreate
  | _ => simp

/-- The effects around the removal decide. -/
theorem doesOnly_tearDown {before after : List (Effect α)}
    (hbefore : ∀ effect ∈ before, effect.From S own)
    (hafter : ∀ effect ∈ after, effect.From S own) :
    (s.tearDown before after).DoesOnly (Effect.From S own) := by
  unfold tearDown
  dsimp only
  split
  · simp
  · rw [Outcome.doesOnly_next]
    refine List.forall_mem_append.mpr ⟨hbefore, List.forall_mem_cons.mpr ⟨?_, hafter⟩⟩
    exact NtlpMsg.from_of_kind rfl rfl

/-- What is uninstalled is what was handed over. -/
theorem From.doesOnly_uninstall {s₁ : NiSession α} (h : s.From S own)
    (hhandedOver : s₁.lastAuctionInstallRule = s.lastAuctionInstallRule)
    {after : List (Effect α)} (hafter : ∀ effect ∈ after, effect.From S own) :
    (s₁.uninstall d after).DoesOnly (Effect.From S own) := by
  unfold uninstall
  split
  · simp
  · rename_i rule hrule
    have hremoval : ∀ effect ∈ [Effect.removeAuctionRules rule], effect.From S own := by
      simpa [Effect.From] using (h.handedOver rule (hhandedOver ▸ hrule)).2
    split_ifs
    · split
      · exact hremoval
      · exact doesOnly_tearDown hremoval hafter
    · exact doesOnly_tearDown (List.forall_mem_nil _) hafter

/-- What is removed at the end is the rule of the session. -/
theorem From.doesOnly_removeOrClose {s₁ : NiSession α} (h : s.From S own)
    (hrule : s₁.rule = s.rule) : (s₁.removeOrClose d).DoesOnly (Effect.From S own) := by
  unfold removeOrClose
  dsimp only
  split
  · simp
  · rename_i rule hsome
    have hresponses := h.rule rule (hrule ▸ hsome)
    split_ifs
    · split
      · simpa [Effect.From] using hresponses
      · simpa [Effect.From] using hresponses
    · simp

/-- The objects of the RESPONSE are handed over. -/
theorem From.doesOnly_handleStatePending (h : s.From S own) (hevt : evt.From S own) :
    (s.handleStatePending d evt).DoesOnly (Effect.From S own) := by
  unfold handleStatePending
  split
  · split_ifs
    · unfold retryCreate
      split_ifs
      · split
        · simp
        · rename_i c hc
          simpa [Effect.From] using KindMsg.from_ntlpMsg (h.create c hc)
      · simp [Effect.From]
    · simp
  · simp
  · exact doesOnly_tearDown (List.forall_mem_nil _) (List.forall_mem_nil _)
  · split
    · simp
    · split
      · rename_i r hr
        have hresponse := KindMsg.from_of_event hevt (MsgEvent.of_anslpResponse? hr).1
        have hobjects : ∀ o ∈ (AuctionRule.ofRequestObjects d.newKey
            r.body.mspecObjects).objectRequests.values, S.installed o :=
          AuctionRule.of_mem_ofRequestObjects fun _ ho => KindMsg.installed hresponse ho
        unfold processResponse
        split_ifs
        · dsimp only
          rw [AnslpMsg.getMspecObjects_eq]
          by_cases hread : r.body.mspecReadable = true
          · rw [if_pos hread]
            dsimp only
            split
            · simpa [Effect.From] using hobjects
            · simpa [Effect.From] using hobjects
          · rw [if_neg hread]
            simp
        · simp [Effect.From]
      · simp
  · split_ifs <;> simp

/-- An installation is repeated, reported or undone with the same rule. -/
theorem From.doesOnly_handleStatePendingInstalling (h : s.From S own) :
    (s.handleStatePendingInstalling d evt).DoesOnly (Effect.From S own) := by
  unfold handleStatePendingInstalling
  split
  · split_ifs
    · unfold retryResponse
      split_ifs
      · split
        · simp
        · rename_i rule hrule
          have hobjects := (h.handedOver rule hrule).1
          dsimp only
          split
          · simpa [Effect.From] using hobjects
          · simpa [Effect.From] using hobjects
      · apply h.doesOnly_uninstall
        · rfl
        · simp [Effect.From]
    · simp
  · apply h.doesOnly_uninstall
    · rfl
    · exact List.forall_mem_nil _
  · split
    · simp
    · split_ifs
      · simp [Effect.From]
      · apply h.doesOnly_uninstall
        · rfl
        · exact List.forall_mem_nil _
  · simp

/-- A BIDDING holds the bid of the user. -/
theorem from_buildBiddingMessage {e : ApiBiddingEvent α}
    (he : ∀ o ∈ e.mspecObjects.values, S.bid o) (mri : Mri) :
    (s.buildBiddingMessage mri e).From S := by
  intro a ha
  have hkind : a.kind = .bidding := by
    cases ha
    exact AnslpMsg.kind_setMspecObjects _ _
  rw [AnslpMsg.From, hkind]
  cases ha
  intro o ho
  rcases AnslpMsg.mem_mspecObjects_setMspecObjects ho with ho | ho
  · rcases AnslpMsg.mem_mspecObjects_setObject ho with ho | ho
    · cases ho
    · cases ho
  · exact he o ho

theorem doesOnly_processApiBidding {e : ApiBiddingEvent α}
    (he : ∀ o ∈ e.mspecObjects.values, S.bid o) :
    (s.processApiBidding e).DoesOnly (Effect.From S own) := by
  unfold processApiBidding
  split
  · simp
  · simpa [Effect.From] using from_buildBiddingMessage he _

/-- A BIDDING received is handed to the auction. -/
theorem doesOnly_processBidding {b : KindMsg .bidding α} (hb : b.body.From S) :
    (s.processBidding d b.body).DoesOnly (Effect.From S own) := by
  have hfrom : (Effect.auctionInteraction false
      (AuctionRule.ofRequestObjects d.newKey b.body.mspecObjects)).From S own :=
    AuctionRule.of_mem_ofRequestObjects fun o ho => KindMsg.bid hb ho
  unfold processBidding
  rw [AnslpMsg.getMspecObjects_eq]
  split_ifs
  · simpa using hfrom
  · simp

/-- In AUCTIONING an initiator exchanges bids and refreshes. -/
theorem From.doesOnly_handleStateAuctioning (h : s.From S own) (hevt : evt.From S own)
    (hbid : evt.BidsFrom S) : (s.handleStateAuctioning d evt).DoesOnly (Effect.From S own) := by
  have hrefresh : ∀ (s₁ : NiSession α) (mri : Mri),
      (s₁.buildRefreshMessage mri).ntlpMsg.From S := fun _ _ => NtlpMsg.from_of_kind rfl rfl
  unfold handleStateAuctioning
  split
  · simp
  · split_ifs
    · unfold processRefreshTimer
      split
      · simp
      · simpa [Effect.From] using hrefresh _ _
    · unfold retryRefresh
      split_ifs
      · split
        · simp
        · rename_i c _
          have hsent : c.ntlpMsg.From S := NtlpMsg.from_of_kind c.msg_eq c.kind_eq
          simpa [Effect.From] using hsent
      · apply Outcome.DoesOnly.after
        · apply h.doesOnly_removeOrClose
          rfl
        · simp [Effect.From]
    · simp
  · unfold processTeardown
    dsimp only
    split
    · simp
    · simpa [Effect.From] using hrefresh _ _
  · exact doesOnly_processApiBidding hbid
  · split
    · rename_i b hb
      exact doesOnly_processBidding (KindMsg.from_of_event hevt hb)
    · split
      · simp
      · split
        · unfold processRefreshResponse
          split_ifs
          · dsimp only
            split_ifs
            · apply Outcome.DoesOnly.after
              · apply h.doesOnly_removeOrClose
                rfl
              · simp [Effect.From]
            · simp [Effect.From]
          · apply Outcome.DoesOnly.after
            · apply h.doesOnly_removeOrClose
              rfl
            · simp [Effect.From]
        · simp
  · split_ifs <;> simp

theorem From.doesOnly_handleStatePendingTeardown (h : s.From S own) (hevt : evt.From S own)
    (hbid : evt.BidsFrom S) :
    (s.handleStatePendingTeardown d evt).DoesOnly (Effect.From S own) := by
  unfold handleStatePendingTeardown
  split
  · exact doesOnly_processApiBidding hbid
  · split
    · rename_i b hb
      exact doesOnly_processBidding (KindMsg.from_of_event hevt hb)
    · simp
  · split_ifs
    · unfold retryRemoval
      split_ifs
      · split
        · simp
        · rename_i rule hrule
          have hresponses := h.rule rule hrule
          dsimp only
          split
          · simpa [Effect.From] using hresponses
          · simpa [Effect.From] using hresponses
      · simp
    · simp
  · simp
  · simp

/-- All that an initiator does is from the sources. -/
theorem From.doesOnly (h : s.From S own) (hevt : evt.From S own) (hbid : evt.BidsFrom S)
    (hsends : SendsCreates S evt (s.processEvent d evt).effects) :
    (s.processEvent d evt).DoesOnly (Effect.From S own) := by
  unfold processEvent at hsends ⊢
  split at hsends
  · exact doesOnly_handleStateClose hsends
  · exact h.doesOnly_handleStatePending hevt
  · exact h.doesOnly_handleStatePendingInstalling
  · exact h.doesOnly_handleStateAuctioning hevt hbid
  · exact h.doesOnly_handleStatePendingTeardown hevt hbid

end NiSession
end Anslp
