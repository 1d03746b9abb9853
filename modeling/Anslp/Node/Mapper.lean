import Anslp.Msg.MissingObjects
import Anslp.Msg.SessionId
import Anslp.Node.Process
import Anslp.Session.Building
import Anslp.Session.HopCount

/-!
# Messages of GIST

What is handed to GIST for a message, and the events that are made of what GIST hands over.
The definitions follow {lit}`gistka_mapper` and {lit}`dispatcher::send_message`.

A message travels as the bytes of its body, in a buffer of the size that the body computes for
itself, next to its session and its routing.  The handle of the link and the flag of the final
hop are the receiver's.  {lit}`missing` is what a call of {lit}`serialize_object` gives that
ends without a return statement, if it goes on at all.

Main results:

- Theorem {lit}`GistkaMapper.deserialize_payload`: the bytes that are handed over are read
  back as the body.
- Theorem {lit}`GistkaMapper.mapToEvent_of_delivers`: what GIST delivers of a message is mapped
  to the event of this message.
- Theorem {lit}`GistkaMapper.isSuccess_of_createApiMsg`: a RESPONSE that is handed over without
  such a call reports success.

Current gaps:

- Of GIST only the interface is modelled: what it delivers is what was handed to it.
-/

namespace Anslp

/-- A session identifier of GIST. -/
structure NtlpSessionId where
  w1 : UInt32
  w2 : UInt32
  w3 : UInt32
  w4 : UInt32
deriving DecidableEq, Repr

/-- The payload of a message. -/
abbrev NslpData : Type :=
  {bytes : List UInt8 // bytes.length < 2 ^ 32}

/-- What GIST is asked to send. -/
structure SendMessage where
  data : NslpData
  nslpMsgHandle : UInt32
  nslpId : UInt32
  sid : NtlpSessionId
  mri : Mri
  siiHandle : UInt32
  reliable : Bool
  secure : Bool
  timeout : UInt32
  ipTtl : UInt16
  ntlpHopCount : UInt32

/-- The subtypes of messages of GIST. -/
inductive ApiSubtype
  | recvMessage
  | networkNotification
  | messageStatus
  | other
deriving DecidableEq, Repr

/-- The status of a message of GIST, as far as it is looked at. -/
inductive ApiError
  | routeChangedStatusBad
  | errorMsgNodeNotFound
  | other
deriving DecidableEq, Repr

/-- A message that GIST hands over. -/
structure ApiMsg where
  subtype : ApiSubtype
  sid : Option NtlpSessionId
  data : Option NslpData
  adjacencyCheck : Bool
  mri : Mri
  siiHandle : UInt32
  finalHop : Bool
  msgstatus : ApiError

/-- A message in the input queue of the daemon. -/
inductive QueuedMsg (α : Type)
  | api (m : ApiMsg)
  | timer (sid : SessionId) (id : Nat)
  | event (n : NodeEvent α)
  | other

/-- How a call of the mapper fails. -/
inductive MapperFailure
  | assertion
  | nullPointer
  | escape (e : Escape)
deriving DecidableEq, Repr

namespace AnslpConfig

def nslpId : UInt32 := 34
def sendMsgTimeout : UInt32 := 5
def sendMsgIpTtl : UInt16 := 100
def sendMsgGistHopCount : UInt32 := 10

end AnslpConfig

namespace NetMsg

/-- The whole buffer. -/
def getBuffer (m : NetMsg) : NslpData :=
  ⟨m.done ++ m.left, by simpa using m.size_lt⟩

end NetMsg

namespace GistkaMapper

/-- Convert a session identifier for GIST. -/
def createNtlpSessionId (s : SessionId) : NtlpSessionId :=
  ⟨s.w1, s.w2, s.w3, s.w4⟩

/-- Convert a session identifier of GIST. -/
def createAnslpSessionId (sid : NtlpSessionId) : SessionId :=
  .ofWords sid.w1 sid.w2 sid.w3 sid.w4

@[simp]
theorem createAnslpSessionId_createNtlpSessionId (s : SessionId) :
    createAnslpSessionId (createNtlpSessionId s) = s :=
  SessionId.ofWords_words s

variable {α : Type} [IpapMessage α] {missing : Option Nat}

/-- The buffer for the payload.  Its size is a number of 32 bits. -/
def payloadBuffer (a : AnslpMsg α) : NetMsg :=
  .alloc (a.getSerializedSize % 2 ^ 32) a.getSerializedSize_mod_lt

/-- What is handed to GIST for a message: the whole buffer, however much of it was written. -/
def createApiMsg (missing : Option Nat) (m : NtlpMsg α) : Except MapperFailure SendMessage :=
  match m.msg with
  | none => .error .nullPointer
  | some a =>
      match a.serializeWith missing (payloadBuffer a) with
      | .error (.ieError _) => .error .assertion
      | .error e => .error (.escape e)
      | .ok (payload, _) =>
          .ok {
            data := payload.getBuffer
            nslpMsgHandle := 0
            nslpId := AnslpConfig.nslpId
            sid := createNtlpSessionId m.sid
            mri := m.routingInfo
            siiHandle := m.siiHandle
            reliable := true
            secure := false
            timeout := AnslpConfig.sendMsgTimeout
            ipTtl := AnslpConfig.sendMsgIpTtl
            ntlpHopCount := AnslpConfig.sendMsgGistHopCount }

/-- The event for a message from the network.  Without a payload GIST asks whether to set up
routing state, or nothing; with a payload that cannot be read the event has no body. -/
def mapApiReceiveMessage (apimsg : ApiMsg) : Except MapperFailure (Option (NodeEvent α)) :=
  match apimsg.sid with
  | none => .error .assertion
  | some sid =>
      let sid := createAnslpSessionId sid
      match apimsg.data with
      | none =>
          if apimsg.adjacencyCheck then
            .ok (some ⟨some sid, .routingStateCheck apimsg.mri, rfl⟩)
          else .ok none
      | some data =>
          let event (m : Option (AnslpMsg α)) : NodeEvent α :=
            ⟨some sid, .msg ⟨⟨sid, m, apimsg.mri, apimsg.siiHandle⟩, apimsg.finalHop⟩, rfl⟩
          match IEManager.deserialize (.ofBytes data.1 data.2) [] false with
          | .error e => .error (.escape e)
          | .ok (some (a, _, _), _) => .ok (some (event (some a)))
          | .ok (none, []) => .error .assertion
          | .ok (none, _ :: _) => .ok (some (event none))

omit [IpapMessage α] in
/-- The event for a notification: none but for a bad route. -/
def mapApiNetworkNotification (apimsg : ApiMsg) :
    Except MapperFailure (Option (NodeEvent α)) :=
  match apimsg.msgstatus with
  | .routeChangedStatusBad =>
      match apimsg.sid with
      | none => .error .assertion
      | some sid => .ok (some ⟨some (createAnslpSessionId sid), .routeChangedBad, trivial⟩)
  | _ => .ok none

omit [IpapMessage α] in
/-- The event for the status of a message: none but for a missing next node. -/
def mapApiMessageStatus (apimsg : ApiMsg) : Except MapperFailure (Option (NodeEvent α)) :=
  match apimsg.sid with
  | none => .ok none
  | some sid =>
      match apimsg.msgstatus with
      | .errorMsgNodeNotFound =>
          .ok (some ⟨some (createAnslpSessionId sid), .noNextNodeFound, trivial⟩)
      | _ => .ok none

def mapApiMessage (apimsg : ApiMsg) : Except MapperFailure (Option (NodeEvent α)) :=
  match apimsg.subtype with
  | .recvMessage => mapApiReceiveMessage apimsg
  | .networkNotification => mapApiNetworkNotification apimsg
  | .messageStatus => mapApiMessageStatus apimsg
  | .other => .ok none

omit [IpapMessage α] in
def mapTimerMessage (sid : SessionId) (id : Nat) : NodeEvent α :=
  ⟨some sid, .timer id, trivial⟩

/-- The event for a message in the queue, if there is one. -/
def mapToEvent : QueuedMsg α → Except MapperFailure (Option (NodeEvent α))
  | .api m => mapApiMessage m
  | .timer sid id => .ok (some (mapTimerMessage sid id))
  | .event n => .ok (some n)
  | .other => .ok none

end GistkaMapper

/-! ## The events that are made -/

/-- An event without a message and without objects. -/
def Event.IsPlain {α : Type} : Event α → Prop
  | .timer _ | .routeChangedBad | .noNextNodeFound | .routingStateCheck _ => True
  | _ => False

namespace GistkaMapper

variable {α : Type} [IpapMessage α] {missing : Option Nat} {apimsg : ApiMsg} {n : NodeEvent α}

/-- A query of GIST is a plain event, and a payload is read. -/
theorem mapApiReceiveMessage_cases (h : mapApiReceiveMessage apimsg = .ok (some n)) :
    n.evt.IsPlain ∨ apimsg.data.isSome = true ∧ n.evt.IsDecoded := by
  unfold mapApiReceiveMessage at h
  split at h
  · cases h
  · dsimp only at h
    split at h
    · split_ifs at h
      · cases h
        exact .inl trivial
      · cases h
    · rename_i data hdata
      refine .inr ⟨by rw [hdata]; rfl, ?_⟩
      split at h
      · cases h
      · rename_i hread
        cases h
        intro a ha
        cases ha
        exact Decoding.deserialize_isDecoded hread
      · cases h
      · cases h
        intro a ha
        cases ha

omit [IpapMessage α] in
theorem isPlain_of_mapApiNetworkNotification
    (h : mapApiNetworkNotification apimsg = .ok (some n)) : n.evt.IsPlain := by
  unfold mapApiNetworkNotification at h
  split at h
  · split at h
    · cases h
    · cases h
      trivial
  · cases h

omit [IpapMessage α] in
theorem isPlain_of_mapApiMessageStatus (h : mapApiMessageStatus apimsg = .ok (some n)) :
    n.evt.IsPlain := by
  unfold mapApiMessageStatus at h
  split at h
  · cases h
  · split at h
    · cases h
      trivial
    · cases h

/-- An event is handed over as it is, or it is plain, or it was made of a payload. -/
theorem mapToEvent_cases {q : QueuedMsg α} (h : mapToEvent q = .ok (some n)) :
    q = .event n ∨ n.evt.IsPlain ∨
      ∃ m data, q = .api m ∧ m.subtype = .recvMessage ∧ m.data = some data ∧
        n.evt.IsDecoded := by
  cases q with
  | timer sid id =>
      cases h
      exact .inr (.inl trivial)
  | event n' =>
      cases h
      exact .inl rfl
  | other => cases h
  | api m =>
      rw [mapToEvent, mapApiMessage] at h
      cases hsubtype : m.subtype with
      | recvMessage =>
          rw [hsubtype] at h
          rcases mapApiReceiveMessage_cases h with hplain | ⟨hdata, hdecoded⟩
          · exact .inr (.inl hplain)
          · rcases Option.isSome_iff_exists.mp hdata with ⟨data, hdata⟩
            exact .inr (.inr ⟨m, data, rfl, hsubtype, hdata, hdecoded⟩)
      | networkNotification =>
          rw [hsubtype] at h
          exact .inr (.inl (isPlain_of_mapApiNetworkNotification h))
      | messageStatus =>
          rw [hsubtype] at h
          exact .inr (.inl (isPlain_of_mapApiMessageStatus h))
      | other =>
          rw [hsubtype] at h
          cases h

/-! ## What is read back -/

/-- The header of an object has room for the length of its body: 4095 words. -/
def Fits (o : MspecObject α) : Prop :=
  o.toObject.getSerializedSize ≤ 4 + 4 * 4095

theorem createApiMsg_eq_ok {m : NtlpMsg α} {s : SendMessage}
    (h : createApiMsg missing m = .ok s) :
    ∃ a payload n, m.msg = some a ∧ a.serializeWith missing (payloadBuffer a) = .ok (payload, n) ∧
      s.data = payload.getBuffer ∧ s.sid = createNtlpSessionId m.sid ∧
      s.mri = m.routingInfo := by
  unfold createApiMsg at h
  split at h
  · cases h
  · rename_i a ha
    split at h
    · cases h
    · cases h
    · rename_i payload n hser
      cases h
      exact ⟨a, payload, n, ha, hser, rfl, rfl, rfl⟩

/-- The objects of a layout are those of its message. -/
theorem size_le_of_fits {a : AnslpMsg α} {v : MsgView α} (hview : a.HasView v)
    (hfits : ∀ o ∈ a.mspecObjects, Fits o) :
    ∀ o ∈ v.ipaps, o.getSerializedSize ≤ 4 + 4 * 4095 := by
  intro o ho
  rcases (hview.ipaps o ho).message with ⟨message, hmessage⟩
  have hmem : (⟨o.treatment, message⟩ : MspecObject α) ∈ a.mspecObjects := by
    rw [hview.mspecObjects]
    exact List.mem_filterMap.mpr ⟨o, ho, by simp only [AnslpObject.mspec?, hmessage]⟩
  have hle := hfits _ hmem
  rwa [Fits, show (⟨o.treatment, message⟩ : MspecObject α).toObject.getSerializedSize =
    o.getSerializedSize by
      simp only [AnslpObject.getSerializedSize, hmessage, MspecObject.toObject,
        AnslpObject.ofIpap]] at hle

/-- The bytes that are handed over are read back as the body. -/
theorem deserialize_payload [LawfulIpapMessage α] {a : AnslpMsg α} {payload : NetMsg} {n : Nat}
    (hbuilt : a.WellBuilt) (hfits : ∀ o ∈ a.mspecObjects, Fits o)
    (hser : a.serializeWith missing (payloadBuffer a) = .ok (payload, n)) :
    ∃ m k, IEManager.deserialize (.ofBytes payload.getBuffer.1 payload.getBuffer.2) [] false =
      .ok (some (a, m, k), []) := by
  rcases hbuilt.of_serializeWith [] hser fun v hview => size_le_of_fits hview hfits with
    ⟨hleft, m, k, hread⟩
  have hroom : (payloadBuffer a).left.length = a.getSerializedSize % 2 ^ 32 :=
    NetMsg.bytesLeft_alloc _
  have hnil : payload.left = [] := by
    rw [hleft]
    apply List.drop_eq_nil_of_le
    rw [hroom]
    exact Nat.mod_le _ _
  have hbuffer : NetMsg.ofBytes payload.getBuffer.1 payload.getBuffer.2 =
      payload.writtenFrom (payloadBuffer a).pos := by
    ext1
    · rfl
    · change payload.done ++ payload.left = payload.done.drop 0
      rw [hnil, List.append_nil, List.drop_zero]
  exact ⟨m, k, by rw [hbuffer, hread]⟩

/-- GIST delivers the payload, the session and the routing; the handle of the link and the flag
of the final hop are those of the receiver. -/
structure Delivers (apimsg : ApiMsg) (s : SendMessage) : Prop where
  subtype : apimsg.subtype = .recvMessage
  sid : apimsg.sid = some s.sid
  data : apimsg.data = some s.data
  mri : apimsg.mri = s.mri

/-- The event of a message, as it arrives at a node. -/
def arrival (m : NtlpMsg α) (siiHandle : UInt32) (finalHop : Bool) : NodeEvent α :=
  ⟨some m.sid, .msg ⟨{ m with siiHandle := siiHandle }, finalHop⟩, rfl⟩

/-- Whatever is delivered of a message is mapped to the event of this message. -/
theorem mapToEvent_of_delivers [LawfulIpapMessage α] {m : NtlpMsg α} {s : SendMessage}
    {apimsg : ApiMsg} (hm : ∀ a, m.msg = some a → a.WellBuilt ∧ ∀ o ∈ a.mspecObjects, Fits o)
    (hs : createApiMsg missing m = .ok s) (hdelivers : Delivers apimsg s) :
    mapToEvent (.api apimsg) = .ok (some (arrival m apimsg.siiHandle apimsg.finalHop)) := by
  rcases createApiMsg_eq_ok hs with ⟨a, payload, n, ha, hser, hdata, hsid, hmri⟩
  rcases hm a ha with ⟨hbuilt, hfits⟩
  rcases deserialize_payload hbuilt hfits hser with ⟨rest, k, hread⟩
  rcases m with ⟨sid, msg, routingInfo, siiHandle⟩
  cases ha
  have hpayload : apimsg.data = some payload.getBuffer := hdelivers.data.trans (congrArg some hdata)
  have hsession : apimsg.sid = some (createNtlpSessionId sid) :=
    hdelivers.sid.trans (congrArg some hsid)
  have hrouting : apimsg.mri = routingInfo := hdelivers.mri.trans hmri
  simp only [mapToEvent, mapApiMessage, hdelivers.subtype, mapApiReceiveMessage, hsession,
    hpayload, hread, hrouting, createAnslpSessionId_createNtlpSessionId]
  rfl

/-- A RESPONSE that is handed over without a call for a missing object reports success: every
other one has no lifetime, which its class writes. -/
theorem isSuccess_of_createApiMsg {m : NtlpMsg α} {s : SendMessage} {a : AnslpMsg α}
    (hs : createApiMsg none m = .ok s) (ha : m.msg = some a) (hsendable : a.Sendable)
    (hkind : a.kind = .response) : a.isSuccess = true := by
  rcases createApiMsg_eq_ok hs with ⟨a', payload, n, ha', hser, _⟩
  cases ha.symm.trans ha'
  rcases hsendable.built.laidOut.of_serializeWith hser with ⟨v, hview, _⟩
  apply hsendable.lifetime hview.numIpaps_le hkind
  rw [AnslpMsg.serializeWith_none] at hser
  rcases AnslpMsg.serialize_eq_ok_iff.mp hser with ⟨_, hkeys, _⟩
  have hmem : FixedType.sessionLifetime.key ∈ a.serializedKeys := by
    rw [AnslpMsg.serializedKeys, hkind]
    exact List.mem_append_left _ (List.mem_map_of_mem (by decide))
  rcases hkeys _ hmem with ⟨o, ho, _⟩
  rw [AnslpMsg.getBody?, ho]
  rfl

end GistkaMapper
end Anslp
