import Anslp.Msg.Message

/-!
# Messages with their routing

An anslp message travels with the session it belongs to and with its message routing
information.  The definitions follow {lit}`ntlp_msg`, and {lit}`is_greater_than` on
message sequence numbers.

Main results:

- Theorem {lit}`getMspecObjects_eq`: which messages {lit}`get_mspec_objects` can be
  called on, and what it gives.
- Theorem {lit}`Contents.setMspecObjects`: what adding IPAP message objects does to the
  contents of a message.
- Theorem {lit}`contents_successBody`: the contents of a success response.
- Theorem {lit}`isGreaterThan_iff_of_window`: within a window of half the numbers the
  comparison of sequence numbers is the one of natural numbers.

Current gaps:

- Of the routing information only what the sessions read and invert is kept.
-/

namespace Anslp

/-- A session identifier of 128 bits. -/
abbrev SessionId :=
  BitVec 128

/-- An IP address; addresses of version 4 are mapped. -/
abbrev HostAddress :=
  BitVec 128

/-- The flow of a path-coupled routing. -/
structure Flow where
  sourceAddress : HostAddress
  sourcePrefix : UInt8
  sourcePort : UInt16
  destAddress : HostAddress
  destPrefix : UInt8
  destPort : UInt16
  protocol : UInt8
  flowLabel : UInt16
  trafficClass : UInt16
  spi : UInt32
deriving DecidableEq, Repr

/-- Message routing information: path-coupled, or of some other method. -/
inductive Mri
  | pathcoupled (flow : Flow) (downstream : Bool)
  | other (mrm : UInt8) (downstream : Bool)
deriving DecidableEq, Repr

namespace Mri

/-- Whether a message with this routing goes towards the responder. -/
def getDownstream : Mri → Bool
  | pathcoupled _ downstream => downstream
  | other _ downstream => downstream

/-- The same routing in the other direction. -/
def invertDirection : Mri → Mri
  | pathcoupled flow downstream => pathcoupled flow !downstream
  | other mrm downstream => other mrm !downstream

@[simp]
theorem getDownstream_invertDirection (m : Mri) :
    m.invertDirection.getDownstream = !m.getDownstream := by
  cases m <;> rfl

end Mri

/-- Severity and response code of a failed request. -/
structure RequestError where
  severity : UInt8
  responseCode : UInt8
deriving DecidableEq, Repr

/-- Severity classes and response codes of information code objects. -/
def scInformational : UInt8 := 1
def scProtocolError : UInt8 := 3
def scPermanentFailure : UInt8 := 5
def failAuthenticationFailed : UInt8 := 1
def failInternalError : UInt8 := 4
def failNrNotReached : UInt8 := 7
def failConfigurationFailed : UInt8 := 9

/-- A message with its session and its routing.  The body is missing if it could not be
read. -/
structure NtlpMsg (α : Type) where
  sid : SessionId
  msg : Option (AnslpMsg α)
  routingInfo : Mri
  siiHandle : UInt32

namespace NtlpMsg

variable {α : Type}

/-- A copy for another link, where the handle of the incoming one is not valid. -/
def copyForForwarding (m : NtlpMsg α) : NtlpMsg α :=
  { m with siiHandle := 0 }

/-- The body of a response to the message: an information code, and the sequence number
of the message if it has one. -/
def responseBody (m : NtlpMsg α) (severity responseCode : UInt8) : AnslpMsg α :=
  let resp := (AnslpMsg.new .response).setInformationCode severity responseCode 0
  match m.msg with
  | some a =>
      if a.hasMsgSequenceNumber then resp.setMsgSequenceNumber a.getMsgSequenceNumber else resp
  | none => resp

/-- A response to the message, sent back the way it came. -/
def createResponse (m : NtlpMsg α) (severity responseCode : UInt8) : NtlpMsg α :=
  ⟨m.sid, some (m.responseBody severity responseCode), m.routingInfo.invertDirection, 0⟩

/-- A response that reports an error. -/
def createErrorResponse (m : NtlpMsg α) (e : RequestError) : NtlpMsg α :=
  m.createResponse e.severity e.responseCode

/-- The body of a response that reports success. -/
def successBody (m : NtlpMsg α) (sessionLifetime : UInt32) : AnslpMsg α :=
  (m.responseBody AnslpMsg.scSuccess AnslpMsg.sucSuccessfullyProcessed).setSessionLifetime
    sessionLifetime

/-- A response that reports success. -/
def createSuccessResponse (m : NtlpMsg α) (sessionLifetime : UInt32) : NtlpMsg α :=
  ⟨m.sid, some (m.successBody sessionLifetime), m.routingInfo.invertDirection, 0⟩

/-- The body of a message, if it is of a class. -/
def body? (m : NtlpMsg α) (kind : MsgKind) : Option (AnslpMsg α) :=
  m.msg.filter fun a => a.kind = kind

end NtlpMsg

/-- Whether a sequence number is greater than another one, in serial number
arithmetic. -/
def isGreaterThan (s₁ s₂ : UInt32) : Bool :=
  s₁ != s₂ &&
    ((s₁ < s₂ && s₂ - s₁ > 2147483648) || (s₁ > s₂ && s₁ - s₂ < 2147483648))

@[simp]
theorem isGreaterThan_self (s : UInt32) : isGreaterThan s s = false := by
  simp [isGreaterThan]

/-- A number is greater than those it is ahead of by less than half of the numbers. -/
theorem isGreaterThan_iff (s₁ s₂ : UInt32) :
    isGreaterThan s₁ s₂ = true ↔ 0 < (s₁ - s₂).toNat ∧ (s₁ - s₂).toNat < 2 ^ 31 := by
  have hs₁ := s₁.toNat_lt
  have hs₂ := s₂.toNat_lt
  simp only [isGreaterThan, Bool.and_eq_true, Bool.or_eq_true, bne_iff_ne, ne_eq,
    decide_eq_true_eq, gt_iff_lt, UInt32.lt_iff_toNat_lt, UInt32.toNat_sub, UInt32.reduceToNat,
    ← UInt32.toNat_inj]
  omega

/-- Offsets below half of the numbers from a common base are compared as natural
numbers. -/
theorem isGreaterThan_iff_of_window {base s₁ s₂ : UInt32} (h₁ : (s₁ - base).toNat < 2 ^ 31)
    (h₂ : (s₂ - base).toNat < 2 ^ 31) :
    isGreaterThan s₁ s₂ = true ↔ (s₂ - base).toNat < (s₁ - base).toNat := by
  have hb := base.toNat_lt
  have hs₁ := s₁.toNat_lt
  have hs₂ := s₂.toNat_lt
  rw [isGreaterThan_iff]
  simp only [UInt32.toNat_sub] at h₁ h₂ ⊢
  omega

/-! ## Objects of a message -/

/-- The IPAP message object in an object, if it is one. -/
def AnslpObject.mspec? {α : Type} (o : AnslpObject α) : Option (MspecObject α) :=
  match o.body with
  | .ipapMessage message => some ⟨o.treatment, message⟩
  | _ => none

namespace AnslpMsg

variable {α : Type} {a : AnslpMsg α} {v : MsgView α}

/-- Whether {lit}`get_mspec_objects` passes over a type in messages of a class. -/
def isSkipped (kind : MsgKind) (type : UInt32) : Bool :=
  (mspecSkipped kind).contains type

/-- Every object that {lit}`get_mspec_objects` does not pass over is an IPAP message
object. -/
def mspecReadable (a : AnslpMsg α) : Bool :=
  a.objects.entries.all fun e => isSkipped a.kind e.1.objectType || e.2.mspec?.isSome

/-- The IPAP message objects of a message. -/
def mspecObjects (a : AnslpMsg α) : List (MspecObject α) :=
  (a.objects.entries.filter fun e => !isSkipped a.kind e.1.objectType).filterMap
    fun e => e.2.mspec?

/-- Reading a list of objects one by one succeeds when each of them can be read. -/
private theorem mapM_eq {β : Type} (es : List β) (read : β → Option (MspecObject α)) :
    (es.mapM fun e => match read e with
      | some o => (.ok o : Except Escape (MspecObject α))
      | none => .error .undefined) =
    if es.all fun e => (read e).isSome then .ok (es.filterMap read) else .error .undefined := by
  induction es with
  | nil => rfl
  | cons e es ih =>
      rw [List.mapM_cons, ih]
      cases h : read e with
      | some o =>
          simp only [List.all_cons, h, Option.isSome_some, Bool.true_and,
            List.filterMap_cons_some h]
          split_ifs <;> rfl
      | none => simp only [List.all_cons, h, Option.isSome_none, Bool.false_and,
          Bool.false_eq_true, if_false]; rfl

/-- {lit}`get_mspec_objects` can be called on readable messages, and gives their IPAP
message objects. -/
theorem getMspecObjects_eq (a : AnslpMsg α) :
    a.getMspecObjects = if a.mspecReadable then .ok a.mspecObjects else .error .undefined := by
  have hall : a.mspecReadable = (a.objects.entries.filter fun e =>
      !isSkipped a.kind e.1.objectType).all fun e => e.2.mspec?.isSome := by
    rw [mspecReadable, List.all_filter]
    congr 1
    funext e
    rw [Bool.not_not]
  have hread : ∀ e : IeObjectKey × AnslpObject α, (match e.2.body with
      | .ipapMessage message => (.ok ⟨e.2.treatment, message⟩ : Except Escape (MspecObject α))
      | _ => .error .undefined) = match e.2.mspec? with
      | some o => .ok o
      | none => .error .undefined := by
    rintro ⟨key, objectType, treatment, isUnique, body⟩
    cases body <;> rfl
  rw [hall]
  exact (congrArg (fun read => List.mapM read (a.objects.entries.filter fun e =>
    !isSkipped a.kind e.1.objectType)) (funext hread)).trans (mapM_eq _ _)

/-! ### Getters after setters -/

theorem isFixed_fixedObject {t : FixedType} {body : Body α} (h : body.fixedType? = some t) :
    (fixedObject t body).IsFixed t :=
  ⟨rfl, rfl, h⟩

/-- Setting an object of a fixed type changes the body of this type only. -/
theorem getBody?_setFixed (a : AnslpMsg α) (t u : FixedType) (body : Body α) :
    (a.setObject (fixedObject t body)).getBody? u = if u = t then some body else a.getBody? u := by
  have hset : (a.setObject (fixedObject t body)).objects =
      a.objects.insert t.key (fixedObject t body) := rfl
  split_ifs with hu
  · subst hu
    rw [getBody?, IeStore.get, hset, OrderedMap.find?_insert_self]
    rfl
  · rw [getBody?, IeStore.get, hset, OrderedMap.find?_insert_of_ne]
    · rfl
    · exact fun hrank => hu (key_injective hrank)

@[simp]
theorem getMsgSequenceNumber_setMsgSequenceNumber (a : AnslpMsg α) (value : UInt32) :
    (a.setMsgSequenceNumber value).getMsgSequenceNumber = value := by
  rw [getMsgSequenceNumber, setMsgSequenceNumber, getBody?_setFixed, if_pos rfl]

theorem HasView.getBody? (h : a.HasView v) (t : FixedType) :
    a.getBody? t = (v.fixed t).map AnslpObject.body := by
  rw [AnslpMsg.getBody?, h.store.get_fixed t]

theorem mspec?_of_isFixed {t : FixedType} {o : AnslpObject α} (h : o.IsFixed t) :
    o.mspec? = none := by
  have hbody := h.fixedType
  unfold AnslpObject.mspec?
  split
  · rename_i message hm
    rw [hm] at hbody
    cases hbody
  · rfl

theorem isSkipped_ipap (kind : MsgKind) : isSkipped kind ipapObjectType.toUInt32 = false := by
  cases kind <;> decide

/-- The IPAP message objects of a message are those of its layout, in their order. -/
theorem HasView.mspecObjects (h : a.HasView v) :
    a.mspecObjects = v.ipaps.filterMap AnslpObject.mspec? := by
  have hfixed : (v.fixedEntries.filter fun e => !isSkipped a.kind e.1.objectType).filterMap
      (fun e => e.2.mspec?) = [] := by
    rw [List.filterMap_eq_nil_iff]
    intro e he
    obtain ⟨t, ht, _⟩ := IeStore.mem_fixedEntries.mp (List.mem_of_mem_filter he)
    exact mspec?_of_isFixed (h.fixed t e.2 ht)
  have hipaps : v.ipapEntries.filter (fun e => !isSkipped a.kind e.1.objectType) =
      v.ipapEntries := by
    rw [List.filter_eq_self]
    intro e he
    obtain ⟨i, _, hk⟩ := IeStore.mem_ipapEntries.mp he
    rw [hk]
    exact congrArg not (isSkipped_ipap a.kind)
  rw [AnslpMsg.mspecObjects, h.store.entries, List.filter_append, List.filterMap_append, hfixed,
    hipaps, List.nil_append, MsgView.ipapEntries, List.filterMap_map]
  have hsnd : v.ipaps.zipIdx.map Prod.fst = v.ipaps := List.zipIdx_map_fst 0 v.ipaps
  conv_rhs => rw [← hsnd, List.filterMap_map]
  rfl

/-- A message is readable when the fixed objects it holds are passed over. -/
theorem HasView.mspecReadable_iff (h : a.HasView v) :
    a.mspecReadable = true ↔
      ∀ t, (v.fixed t).isSome = true → isSkipped a.kind t.objectType.toUInt32 = true := by
  rw [mspecReadable, List.all_eq_true]
  constructor
  · intro hall t ht
    obtain ⟨o, ho⟩ := Option.isSome_iff_exists.mp ht
    have he := hall (t.key, o) (h.store.mem_entries.mpr (Or.inl ⟨t, ho, rfl⟩))
    rw [mspec?_of_isFixed (h.fixed t o ho), Option.isSome_none, Bool.or_false] at he
    exact he
  · intro hskip e he
    rcases h.store.mem_entries.mp he with ⟨t, ht, hk⟩ | ⟨i, hi, _⟩
    · rw [hk]
      exact Bool.or_eq_true_iff.mpr (Or.inl (hskip t (by rw [ht]; rfl)))
    · obtain ⟨message, hm⟩ := (h.ipaps e.2 (List.mem_of_getElem? hi)).message
      simp [AnslpObject.mspec?, hm]

/-! ### Contents of messages -/

/-- What a message holds: the bodies of the fixed types and its IPAP message objects. -/
structure Contents (a : AnslpMsg α) (body : FixedType → Option (Body α))
    (ipaps : List (MspecObject α)) : Prop where
  view : ∃ v, a.HasView v ∧ v.ipaps.length = ipaps.length
  getBody : ∀ t, a.getBody? t = body t
  mspecs : a.mspecObjects = ipaps

variable {body : FixedType → Option (Body α)} {ipaps : List (MspecObject α)}

private theorem length_filterMap_mspec {os : List (AnslpObject α)} (h : ∀ o ∈ os, o.IsIpap) :
    (os.filterMap AnslpObject.mspec?).length = os.length := by
  induction os with
  | nil => rfl
  | cons o os ih =>
      obtain ⟨message, hm⟩ := (h o List.mem_cons_self).message
      have ho : o.mspec? = some ⟨o.treatment, message⟩ := by
        simp only [AnslpObject.mspec?, hm]
      rw [List.filterMap_cons_some ho, List.length_cons, List.length_cons,
        ih fun x hx => h x (List.mem_cons_of_mem _ hx)]

theorem HasView.length_mspecObjects (h : a.HasView v) :
    a.mspecObjects.length = v.ipaps.length := by
  rw [h.mspecObjects, length_filterMap_mspec h.ipaps]

theorem IsDecoded.length_mspecObjects_lt (h : a.IsDecoded) :
    a.mspecObjects.length < 2 ^ 30 := by
  obtain ⟨v, hv, hlen⟩ := h
  rwa [hv.length_mspecObjects]

/-- A message with a layout has contents. -/
theorem HasView.contents (h : a.HasView v) : a.Contents a.getBody? a.mspecObjects where
  view := ⟨v, h, h.length_mspecObjects.symm⟩
  getBody := fun _ => rfl
  mspecs := rfl

theorem contents_new (kind : MsgKind) : (new kind : AnslpMsg α).Contents (fun _ => none) [] where
  view := ⟨MsgView.empty, hasView_new kind, rfl⟩
  getBody := fun _ => rfl
  mspecs := rfl

theorem Contents.congr (h : a.Contents body ipaps) {body' : FixedType → Option (Body α)}
    (hbody : ∀ t, body t = body' t) : a.Contents body' ipaps :=
  ⟨h.view, fun t => (h.getBody t).trans (hbody t), h.mspecs⟩

theorem Contents.isDecoded (h : a.Contents body ipaps) (hlen : ipaps.length < 2 ^ 30) :
    a.IsDecoded := by
  obtain ⟨v, hv, hvlen⟩ := h.view
  exact ⟨v, hv, hvlen ▸ hlen⟩

theorem Contents.setFixed (h : a.Contents body ipaps) {t : FixedType} {b : Body α}
    (hb : b.fixedType? = some t) :
    (a.setObject (fixedObject t b)).Contents (Function.update body t (some b)) ipaps where
  view := by
    obtain ⟨v, hv, hlen⟩ := h.view
    exact ⟨_, hv.setObject_fixed (isFixed_fixedObject hb), hlen⟩
  getBody := by
    intro u
    rw [getBody?_setFixed, Function.update_apply, h.getBody]
  mspecs := by
    obtain ⟨v, hv, _⟩ := h.view
    rw [(hv.setObject_fixed (isFixed_fixedObject hb)).mspecObjects, ← h.mspecs, hv.mspecObjects]
    rfl

theorem isIpap_toObject (o : MspecObject α) : o.toObject.IsIpap :=
  ⟨rfl, rfl, o.message, rfl⟩

/-- Another IPAP message object comes after the others. -/
theorem Contents.setMspecObject (h : a.Contents body ipaps) (o : MspecObject α)
    (hlen : ipaps.length < maxIpaps) : (a.setMspecObject o).Contents body (ipaps ++ [o]) := by
  obtain ⟨v, hv, hvlen⟩ := h.view
  have hset := hv.setObject_ipap (isIpap_toObject o) (hvlen ▸ hlen)
  refine ⟨⟨_, hset, ?_⟩, fun t => ?_, ?_⟩
  · simp only [MsgView.addIpap, List.length_append, List.length_singleton, hvlen]
  · rw [AnslpMsg.setMspecObject, hset.getBody?, ← h.getBody, hv.getBody?]
    rfl
  · rw [AnslpMsg.setMspecObject, hset.mspecObjects, ← h.mspecs, hv.mspecObjects,
      MsgView.addIpap, List.filterMap_append]
    rfl

/-- Add IPAP message objects one after the other. -/
def setMspecObjects (a : AnslpMsg α) (os : List (MspecObject α)) : AnslpMsg α :=
  os.foldl AnslpMsg.setMspecObject a

@[simp]
theorem kind_setMspecObjects (a : AnslpMsg α) (os : List (MspecObject α)) :
    (a.setMspecObjects os).kind = a.kind := by
  induction os generalizing a with
  | nil => rfl
  | cons o os ih => exact (ih _).trans (kind_setObject _ _)

theorem Contents.setMspecObjects (h : a.Contents body ipaps) (os : List (MspecObject α))
    (hlen : ipaps.length + os.length ≤ maxIpaps) :
    (a.setMspecObjects os).Contents body (ipaps ++ os) := by
  induction os generalizing a ipaps with
  | nil => simpa [AnslpMsg.setMspecObjects] using h
  | cons o os ih =>
      rw [List.length_cons] at hlen
      have hset := h.setMspecObject o (by omega)
      have htail := ih hset (by rw [List.length_append, List.length_singleton]; omega)
      rwa [List.append_assoc, List.singleton_append] at htail

/-! ### Success responses -/

/-- Whether a message is a RESPONSE that reports success. -/
def isSuccessResponse (a : AnslpMsg α) : Bool :=
  a.kind == .response && a.isSuccess

/-- The bodies of a response to a message. -/
def responseBodies (severity responseCode : UInt8) (request : Option (AnslpMsg α)) :
    FixedType → Option (Body α)
  | .informationCode => some (.informationCode severity responseCode 0)
  | .msgSequenceNumber =>
      match request with
      | some a =>
          if a.hasMsgSequenceNumber then some (.msgSequenceNumber a.getMsgSequenceNumber) else none
      | none => none
  | _ => none

end AnslpMsg

namespace NtlpMsg

variable {α : Type}

@[simp]
theorem kind_responseBody (m : NtlpMsg α) (severity responseCode : UInt8) :
    (m.responseBody severity responseCode).kind = .response := by
  unfold responseBody
  split
  · split_ifs <;> rfl
  · rfl

/-- A response holds its information code and the sequence number it answers. -/
theorem contents_responseBody (m : NtlpMsg α) (severity responseCode : UInt8) :
    (m.responseBody severity responseCode).Contents
      (AnslpMsg.responseBodies severity responseCode m.msg) [] := by
  have hcode : ((AnslpMsg.new .response : AnslpMsg α).setInformationCode severity responseCode
      0).Contents (Function.update (fun _ => none) .informationCode
        (some (.informationCode severity responseCode 0))) [] :=
    (AnslpMsg.contents_new .response).setFixed rfl
  unfold responseBody
  cases hm : m.msg with
  | none =>
      refine hcode.congr fun t => ?_
      cases t <;> rfl
  | some a =>
      by_cases ha : a.hasMsgSequenceNumber = true
      · simp only [ha, if_true]
        refine (hcode.setFixed rfl).congr fun t => ?_
        cases t <;> simp [AnslpMsg.responseBodies, Function.update, ha]
      · simp only [ha]
        refine hcode.congr fun t => ?_
        cases t <;> simp [AnslpMsg.responseBodies, Function.update, ha]

/-- Responses with different codes are different. -/
theorem createErrorResponse_inj {m m' : NtlpMsg α} {e e' : RequestError}
    (h : m.createErrorResponse e = m'.createErrorResponse e') : e = e' := by
  have hbody : m.responseBody e.severity e.responseCode =
      m'.responseBody e'.severity e'.responseCode :=
    Option.some.inj (congrArg NtlpMsg.msg h)
  have hcode := (m.contents_responseBody e.severity e.responseCode).getBody .informationCode
  rw [hbody, (m'.contents_responseBody e'.severity e'.responseCode).getBody] at hcode
  cases e
  cases e'
  simp_all [AnslpMsg.responseBodies]

theorem contents_successBody (m : NtlpMsg α) (sessionLifetime : UInt32) :
    (m.successBody sessionLifetime).Contents
      (Function.update (AnslpMsg.responseBodies AnslpMsg.scSuccess
          AnslpMsg.sucSuccessfullyProcessed m.msg) .sessionLifetime
        (some (.sessionLifetime sessionLifetime))) [] :=
  (m.contents_responseBody _ _).setFixed rfl

@[simp]
theorem isSuccessResponse_successBody (m : NtlpMsg α) (sessionLifetime : UInt32) :
    (m.successBody sessionLifetime).isSuccessResponse = true := by
  have hkind : (m.successBody sessionLifetime).kind = .response :=
    (AnslpMsg.kind_setObject _ _).trans (m.kind_responseBody _ _)
  rw [AnslpMsg.isSuccessResponse, hkind, AnslpMsg.isSuccess,
    (m.contents_successBody sessionLifetime).getBody]
  rfl

/-- An error response is no success. -/
theorem isSuccessResponse_responseBody (m : NtlpMsg α) {severity responseCode : UInt8}
    (h : severity ≠ AnslpMsg.scSuccess) :
    (m.responseBody severity responseCode).isSuccessResponse = false := by
  rw [AnslpMsg.isSuccessResponse, AnslpMsg.isSuccess,
    (m.contents_responseBody severity responseCode).getBody]
  simp [AnslpMsg.responseBodies, h]

end NtlpMsg
end Anslp
