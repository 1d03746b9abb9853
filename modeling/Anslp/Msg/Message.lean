import Anslp.Msg.Store

/-!
# Anslp messages

The five message kinds, their setters and getters, {lit}`check`, {lit}`serialize` and
{lit}`deserialize`, and the manager that picks the class a message or an object is read
with.  The definitions follow {lit}`anslp_msg`, its five subclasses and
{lit}`ANSLP_IEManager` with all known elements registered.

Main results:

- Theorem {lit}`serializeObjects_eq_ok_iff`: writing a list of objects is one write of
  their encodings.

Current gaps:

- Printing a message is left out.
-/

namespace Anslp

/-- The registered message classes. -/
inductive MsgKind
  | create
  | response
  | notify
  | refresh
  | bidding
deriving DecidableEq, Repr

namespace MsgKind

/-- The type number in a message header. -/
def msgType : MsgKind → UInt8
  | create => 1
  | response => 2
  | notify => 3
  | refresh => 5
  | bidding => 6

/-- All registered message classes. -/
def all : List MsgKind :=
  [create, response, notify, refresh, bidding]

/-- The message class registered under a type number. -/
def ofMsgType? (n : UInt8) : Option MsgKind :=
  all.find? fun k => k.msgType == n

@[simp]
theorem ofMsgType?_msgType (k : MsgKind) : ofMsgType? k.msgType = some k := by
  cases k <;> decide

end MsgKind

/-- An IPAP message object on its own, as it is kept outside of messages. -/
structure MspecObject (α : Type) where
  treatment : Treatment
  message : α
deriving DecidableEq, Repr

/-- The message object of an IPAP message object. -/
def MspecObject.toObject {α : Type} (o : MspecObject α) : AnslpObject α :=
  .ofIpap o.treatment o.message

/-- An anslp message. -/
structure AnslpMsg (α : Type) where
  kind : MsgKind
  objects : IeStore α

namespace AnslpMsg

variable {α : Type}

/-- A message without objects. -/
def new (kind : MsgKind) : AnslpMsg α :=
  ⟨kind, OrderedMap.empty⟩

/-- Number of objects. -/
def getNumObjects (a : AnslpMsg α) : Nat :=
  a.objects.size

/-- Add an object: under sequence number 1 if the message holds one of its type at
most, and under the next sequence number of its type otherwise. -/
def setObject (a : AnslpMsg α) (o : AnslpObject α) : AnslpMsg α :=
  if o.isUnique then { a with objects := a.objects.set ⟨o.objectType.toUInt32, 1⟩ o }
  else
    let sequence := a.objects.getMaxSequence o.objectType.toUInt32 + 1
    { a with objects := a.objects.set ⟨o.objectType.toUInt32, sequence⟩ o }

/-! ## Setters and getters -/

/-- A mandatory object of a class with a one word body. -/
def fixedObject (t : FixedType) (body : Body α) : AnslpObject α :=
  ⟨t.objectType, .mandatory, true, body⟩

def setSessionLifetime (a : AnslpMsg α) (milliseconds : UInt32) : AnslpMsg α :=
  a.setObject (fixedObject .sessionLifetime (.sessionLifetime milliseconds))

def setMsgSequenceNumber (a : AnslpMsg α) (msn : UInt32) : AnslpMsg α :=
  a.setObject (fixedObject .msgSequenceNumber (.msgSequenceNumber msn))

def setSelectionAuctioningEntities (a : AnslpMsg α) (value : UInt32) : AnslpMsg α :=
  a.setObject (fixedObject .selectionAuctioningEntities (.selectionAuctioningEntities value))

def setMessageHopCount (a : AnslpMsg α) (value : UInt32) : AnslpMsg α :=
  a.setObject (fixedObject .messageHopCount (.messageHopCount value))

def setInformationCode (a : AnslpMsg α) (severity responseCode : UInt8)
    (objectType : UInt16) : AnslpMsg α :=
  a.setObject (fixedObject .informationCode (.informationCode severity responseCode objectType))

def setMspecObject (a : AnslpMsg α) (o : MspecObject α) : AnslpMsg α :=
  a.setObject o.toObject

/-- The body stored for a fixed type. -/
def getBody? (a : AnslpMsg α) (t : FixedType) : Option (Body α) :=
  (a.objects.get t.key).map AnslpObject.body

/-- The session lifetime, 0 without such an object. -/
def getSessionLifetime (a : AnslpMsg α) : UInt32 :=
  match a.getBody? .sessionLifetime with
  | some (.sessionLifetime slt) => slt
  | _ => 0

/-- The message sequence number, 0 without such an object. -/
def getMsgSequenceNumber (a : AnslpMsg α) : UInt32 :=
  match a.getBody? .msgSequenceNumber with
  | some (.msgSequenceNumber value) => value
  | _ => 0

/-- Whether the message has a message sequence number. -/
def hasMsgSequenceNumber (a : AnslpMsg α) : Bool :=
  match a.getBody? .msgSequenceNumber with
  | some (.msgSequenceNumber _) => true
  | _ => false

/-- The selection of auctioning entities, 0 without such an object. -/
def getSelectionAuctioningEntities (a : AnslpMsg α) : UInt32 :=
  match a.getBody? .selectionAuctioningEntities with
  | some (.selectionAuctioningEntities value) => value
  | _ => 0

/-- The hop count, 0 without such an object. -/
def getMessageHopCount (a : AnslpMsg α) : UInt32 :=
  match a.getBody? .messageHopCount with
  | some (.messageHopCount value) => value
  | _ => 0

/-- The severity class, 0 without an information code. -/
def getSeverityClass (a : AnslpMsg α) : UInt8 :=
  match a.getBody? .informationCode with
  | some (.informationCode severity _ _) => severity
  | _ => 0

/-- The response code, 0 without an information code. -/
def getResponseCode (a : AnslpMsg α) : UInt8 :=
  match a.getBody? .informationCode with
  | some (.informationCode _ code _) => code
  | _ => 0

/-- Severity class of a success. -/
def scSuccess : UInt8 :=
  2

/-- Response code of a success. -/
def sucSuccessfullyProcessed : UInt8 :=
  1

/-- Whether a RESPONSE indicates success. -/
def isSuccess (a : AnslpMsg α) : Bool :=
  match a.getBody? .informationCode with
  | some (.informationCode severity code _) =>
      severity == scSuccess && code == sucSuccessfullyProcessed
  | _ => false

/-- Whether a RESPONSE carries the sequence number of a request. -/
def isResponseTo (a request : AnslpMsg α) : Bool :=
  a.getMsgSequenceNumber == request.getMsgSequenceNumber

/-- The object types that {lit}`get_mspec_objects` passes over, by message class. -/
def mspecSkipped : MsgKind → List UInt32
  | .create | .bidding =>
      [FixedType.messageHopCount, .selectionAuctioningEntities, .msgSequenceNumber,
        .sessionLifetime].map fun t => t.objectType.toUInt32
  | .response =>
      [FixedType.informationCode, .msgSequenceNumber, .sessionLifetime].map fun t =>
        t.objectType.toUInt32
  | .notify | .refresh => []

/-- The IPAP message objects of a message, as copies in the order of their keys.  An
object of another class that is not passed over is dereferenced as one: undefined
behaviour. -/
def getMspecObjects (a : AnslpMsg α) : Except Escape (List (MspecObject α)) :=
  (a.objects.entries.filter fun e => !(mspecSkipped a.kind).contains e.1.objectType).mapM
    fun e =>
      match e.2.body with
      | .ipapMessage message => .ok ⟨e.2.treatment, message⟩
      | _ => .error .undefined

/-! ## Checking and writing -/

/-- Whether some key is of the given object type. -/
def includes (a : AnslpMsg α) (type : UInt16) : Bool :=
  a.objects.keys.any fun key => key.objectType == type.toUInt32

/-- Whether a message is in a valid state, by message class. -/
def check (a : AnslpMsg α) : Bool :=
  match a.kind with
  | .create =>
      a.includes FixedType.msgSequenceNumber.objectType
        && a.includes FixedType.selectionAuctioningEntities.objectType
        && a.includes FixedType.sessionLifetime.objectType
        && a.includes FixedType.messageHopCount.objectType
  | .bidding =>
      a.includes FixedType.msgSequenceNumber.objectType && a.includes ipapObjectType
  | .refresh =>
      a.getNumObjects == 2 && (a.objects.get FixedType.msgSequenceNumber.key).isSome
        && (a.objects.get FixedType.sessionLifetime.key).isSome
  | .response =>
      a.objects.keys.all fun key =>
        key.objectType == FixedType.msgSequenceNumber.objectType.toUInt32
          || key.objectType == FixedType.informationCode.objectType.toUInt32
          || key.objectType == FixedType.sessionLifetime.objectType.toUInt32
          || key.objectType == ipapObjectType.toUInt32
  | .notify =>
      (a.objects.get FixedType.informationCode.key).isSome && a.getNumObjects == 1

/-- The slots a message class writes, in the order it writes them. -/
def fixedLayout : MsgKind → List FixedType
  | .create =>
      [.msgSequenceNumber, .sessionLifetime, .selectionAuctioningEntities, .messageHopCount]
  | .bidding => [.msgSequenceNumber]
  | .refresh => [.msgSequenceNumber, .sessionLifetime]
  | .response => [.msgSequenceNumber, .informationCode, .sessionLifetime]
  | .notify => [.informationCode]

/-- Whether a message class writes IPAP message objects. -/
def writesIpaps : MsgKind → Bool
  | .create | .bidding | .response => true
  | .refresh | .notify => false

/-- The keys a message serializes, in order.  The numbers of the IPAP message objects
run from 1 to the largest sequence number; a largest number of `2 ^ 32 - 1`, where the
loop of the source would not end, needs more objects than a buffer has room for. -/
def serializedKeys (a : AnslpMsg α) : List IeObjectKey :=
  (fixedLayout a.kind).map FixedType.key ++
    if writesIpaps a.kind then
      (List.range (a.objects.getMaxSequence ipapObjectType.toUInt32).toNat).map fun i =>
        ipapKey (i + 1)
    else []

variable [IpapMessage α]

/-- Number of bytes of the message header. -/
def headerLength : Nat :=
  4

/-- The size of the message with all its objects. -/
def getSerializedSize (a : AnslpMsg α) : Nat :=
  a.objects.values.foldl (fun size o => size + o.getSerializedSize) headerLength

/-- Write the object under a key.  Without one the function ends without a result. -/
def serializeObject (a : AnslpMsg α) (key : IeObjectKey) (m : NetMsg) :
    Except Escape (NetMsg × Nat) :=
  match a.objects.get key with
  | some o => o.serialize m
  | none => .error .undefined

/-- Write the objects under the given keys, adding up the numbers of bytes written. -/
def serializeObjects (a : AnslpMsg α) :
    List IeObjectKey → NetMsg → Nat → Except Escape (NetMsg × Nat)
  | [], m, bytesWritten => .ok (m, bytesWritten)
  | key :: keys, m, bytesWritten => do
      let (m', n) ← a.serializeObject key m
      a.serializeObjects keys m' (bytesWritten + n)

/-- The raw message header. -/
def header (kind : MsgKind) : UInt32 :=
  kind.msgType.toUInt32 <<< 24

/-- Check the message and write its header, as every message class does first. -/
def serializeHeader (a : AnslpMsg α) (m : NetMsg) : Except Escape (NetMsg × Nat) :=
  if !a.check then .error (.ieError .checkFailed)
  else
    match m.encode32 (header a.kind) with
    | .error _ => .error (.ieError (.msgTooShort .anslpMsg m.pos))
    | .ok m' => .ok (m', 4)

/-- Write a message, giving the buffer behind it and the number of bytes written. -/
def serialize (a : AnslpMsg α) (m : NetMsg) : Except Escape (NetMsg × Nat) :=
  -- CREATE and BIDDING check themselves before the common part checks again
  if (a.kind = .create ∨ a.kind = .bidding) ∧ !a.check then
    .error (.ieError .objSetFailed)
  else do
    let (m', n) ← a.serializeHeader m
    a.serializeObjects a.serializedKeys m' n

/-- Equality of messages: one class, and equal stores. -/
def equals [DecidableEq α] (a b : AnslpMsg α) : Bool :=
  a.kind == b.kind && a.objects.equals b.objects

end AnslpMsg

/-! ## Reading -/

namespace IEManager

variable {α : Type} [IpapMessage α]

/-- The object created for reading an object of the given type number. -/
def newObject (objectType : UInt16) : Option (AnslpObject α) :=
  match FixedType.ofObjectType? objectType with
  | some t => some (.newFixed t)
  | none =>
      if objectType = ipapObjectType then some (.ofIpap .mandatory IpapMessage.new) else none

/-- Read an object: look ahead for its type, and read it with the class registered. -/
def deserializeObject (m : NetMsg) (err : IEErrorList) (skip : Bool) :
    Except Escape (Option (AnslpObject α × NetMsg × Nat) × IEErrorList) :=
  match m.peek32 with
  | .error _ => .ok (none, err.put (.msgTooShort .anslpObject m.pos))
  | .ok headerRaw =>
      match newObject (AnslpObject.extractObjectType headerRaw) with
      | none => .ok (none, err.put .wrongSubtype)
      | some o => o.deserialize m err skip

end IEManager

namespace AnslpMsg

variable {α : Type} [IpapMessage α]

/-- The message type field of a raw header. -/
def extractMsgType (headerRaw : UInt32) : UInt8 :=
  (headerRaw >>> 24).toUInt8

/-- Read objects until the buffer is empty.  An object takes up at least one byte, so
as many rounds as there are bytes left are enough. -/
def deserializeObjects (skip : Bool) :
    Nat → AnslpMsg α → NetMsg → IEErrorList → Nat →
      Except Escape (Option (AnslpMsg α × NetMsg × Nat) × IEErrorList)
  | 0, a, m, err, bytesRead => .ok (some (a, m, bytesRead), err)
  | rounds + 1, a, m, err, bytesRead =>
      if m.bytesLeft = 0 then .ok (some (a, m, bytesRead), err)
      else
        match IEManager.deserializeObject m err skip with
        | .error e => .error e
        | .ok (none, err') => .ok (none, err')
        | .ok (some (o, m', n), err') =>
            if o.isUnique && (a.objects.get ⟨o.objectType.toUInt32, 1⟩).isSome then
              let err'' := err'.put
                (.pduSyntaxError .anslpMsg o.objectType 1 m.pos "Duplicate object")
              if skip then
                deserializeObjects skip rounds (a.setObject o) m' err'' (bytesRead + n)
              else .ok (none, err'')
            else deserializeObjects skip rounds (a.setObject o) m' err' (bytesRead + n)

/-- Read a message. -/
def deserialize (a : AnslpMsg α) (m : NetMsg) (err : IEErrorList) (skip : Bool) :
    Except Escape (Option (AnslpMsg α × NetMsg × Nat) × IEErrorList) :=
  match m.decode32 with
  | .error _ =>
      .ok (if skip then some (a, m, 0) else none, err.put (.msgTooShort .anslpMsg m.pos))
  | .ok (_, m') =>
      match deserializeObjects skip m'.bytesLeft a m' err 4 with
      | .error e => .error e
      | .ok (none, err') => .ok (none, err')
      | .ok (some (a', m'', bytesRead), err') =>
          if a'.getNumObjects = 0 then
            let err'' := err'.put
              (.pduSyntaxError .anslpMsg 0 0 m.pos "message may not be empty")
            if skip then .ok (some (a', m'', bytesRead), err'') else .ok (none, err'')
          else .ok (some (a', m'', bytesRead), err')

end AnslpMsg

namespace IEManager

variable {α : Type} [IpapMessage α]

/-- Read a message: look ahead for its type, and read it with the class registered. -/
def deserialize (m : NetMsg) (err : IEErrorList) (skip : Bool) :
    Except Escape (Option (AnslpMsg α × NetMsg × Nat) × IEErrorList) :=
  match m.peek32 with
  | .error _ => .ok (none, err.put (.msgTooShort .anslpMsg m.pos))
  | .ok headerRaw =>
      match MsgKind.ofMsgType? (AnslpMsg.extractMsgType headerRaw) with
      | none => .ok (none, err.put .wrongType)
      | some kind => (AnslpMsg.new kind).deserialize m err skip

end IEManager

/-! ## Layout of messages with registered objects -/

/-- An object of the class registered for a fixed type. -/
structure AnslpObject.IsFixed {α : Type} (t : FixedType) (o : AnslpObject α) : Prop where
  objectType : o.objectType = t.objectType
  isUnique : o.isUnique = true
  fixedType : o.body.fixedType? = some t

/-- An IPAP message object. -/
structure AnslpObject.IsIpap {α : Type} (o : AnslpObject α) : Prop where
  objectType : o.objectType = ipapObjectType
  isUnique : o.isUnique = false
  message : ∃ m, o.body = .ipapMessage m

/-- Add an object to a layout, at the place for its class. -/
def MsgView.add {α : Type} (v : MsgView α) (o : AnslpObject α) : MsgView α :=
  match o.body.fixedType? with
  | some t => v.setFixed t o
  | none => v.addIpap o

namespace AnslpMsg

variable {α : Type} {a : AnslpMsg α} {v : MsgView α}

/-- A message with a layout: its store has the entries, each of the class its place
is for. -/
structure HasView (a : AnslpMsg α) (v : MsgView α) : Prop where
  store : a.objects.HasView v
  fixed : ∀ t o, v.fixed t = some o → o.IsFixed t
  ipaps : ∀ o ∈ v.ipaps, o.IsIpap

/-- A message with a layout and no more IPAP message objects than a buffer has room
for, as the decoder gives them. -/
def IsDecoded (a : AnslpMsg α) : Prop :=
  ∃ v, a.HasView v ∧ v.ipaps.length < 2 ^ 30

theorem hasView_new (kind : MsgKind) : (new kind : AnslpMsg α).HasView MsgView.empty where
  store := IeStore.hasView_empty
  fixed := by simp [MsgView.empty]
  ipaps := by simp [MsgView.empty]

@[simp]
theorem kind_setObject (a : AnslpMsg α) (o : AnslpObject α) : (a.setObject o).kind = a.kind := by
  unfold setObject
  split <;> rfl

theorem HasView.setObject_fixed (h : a.HasView v) {t : FixedType} {o : AnslpObject α}
    (ho : o.IsFixed t) : (a.setObject o).HasView (v.setFixed t o) where
  store := by
    simp only [setObject, ho.isUnique, if_true, ho.objectType]
    exact h.store.set_fixed t o
  fixed := by
    intro u o' ho'
    by_cases hu : u = t
    · subst hu
      simp only [MsgView.setFixed, Function.update_self, Option.some.injEq] at ho'
      exact ho' ▸ ho
    · simp only [MsgView.setFixed, Function.update_of_ne hu] at ho'
      exact h.fixed u o' ho'
  ipaps := h.ipaps

/-- The key under which the next IPAP message object is stored. -/
theorem nextIpapKey (n : Nat) :
    (⟨ipapObjectType.toUInt32, UInt32.ofNat n + 1⟩ : IeObjectKey) = ipapKey (n + 1) := by
  simp only [ipapKey, IeObjectKey.mk.injEq, true_and]
  apply UInt32.toNat_inj.mp
  simp only [UInt32.toNat_add, UInt32.toNat_ofNat', UInt32.reduceToNat]
  omega

theorem HasView.setObject_ipap (h : a.HasView v) {o : AnslpObject α} (ho : o.IsIpap)
    (hlen : v.ipaps.length < maxIpaps) : (a.setObject o).HasView (v.addIpap o) where
  store := by
    simp only [setObject, ho.isUnique, ho.objectType, h.store.getMaxSequence,
      nextIpapKey]
    exact h.store.set_ipap o hlen
  fixed := h.fixed
  ipaps := by
    intro o' ho'
    simp only [MsgView.addIpap, List.mem_append, List.mem_singleton] at ho'
    rcases ho' with ho' | rfl
    · exact h.ipaps o' ho'
    · exact ho

theorem HasView.setObject (h : a.HasView v) {o : AnslpObject α}
    (ho : (∃ t, o.IsFixed t) ∨ o.IsIpap) (hlen : v.ipaps.length < maxIpaps) :
    (a.setObject o).HasView (v.add o) := by
  rcases ho with ⟨t, ht⟩ | hipap
  · simp only [MsgView.add, ht.fixedType]
    exact h.setObject_fixed ht
  · obtain ⟨message, hmessage⟩ := hipap.message
    simp only [MsgView.add, hmessage, Body.fixedType?]
    exact h.setObject_ipap hipap hlen

end AnslpMsg

/-! ## Writing a list of objects -/

namespace AnslpMsg

variable {α : Type} [IpapMessage α] {a : AnslpMsg α}

/-- The bytes of the objects under the given keys. -/
def encodings (a : AnslpMsg α) (keys : List IeObjectKey) : List UInt8 :=
  keys.flatMap fun key => ((a.objects.get key).map AnslpObject.encoding).getD []

/-- Writing a list of objects is one write of their encodings. -/
theorem serializeObjects_eq_ok_iff {keys : List IeObjectKey} {m m' : NetMsg} {n n' : Nat} :
    a.serializeObjects keys m n = .ok (m', n') ↔
      (∀ key ∈ keys, ∃ o, a.objects.get key = some o ∧ o.check = true ∧ o.Exported) ∧
        m.write (a.encodings keys) = .ok m' ∧ n' = n + (a.encodings keys).length := by
  induction keys generalizing m n with
  | nil =>
      simp [serializeObjects, encodings, NetMsg.write_nil]
      grind
  | cons key keys ih =>
      cases hget : a.objects.get key with
      | none =>
          simp [serializeObjects, serializeObject, hget, bind, Except.bind]
      | some o =>
          have henc : a.encodings (key :: keys) = o.encoding ++ a.encodings keys := by
            simp [encodings, hget]
          simp only [serializeObjects, serializeObject, hget, AnslpObject.bind_eq_ok_iff,
            Prod.exists, AnslpObject.serialize_eq_ok_iff, ih, henc,
            NetMsg.write_append_eq_ok_iff, List.forall_mem_cons, Option.some.injEq,
            exists_eq_left', List.length_append]
          constructor
          · rintro ⟨m₁, k, ⟨hc, he, hw, rfl⟩, hall, hrest, rfl⟩
            exact ⟨⟨⟨hc, he⟩, hall⟩, ⟨m₁, hw, hrest⟩, by omega⟩
          · rintro ⟨⟨⟨hc, he⟩, hall⟩, ⟨m₁, hw, hrest⟩, rfl⟩
            exact ⟨m₁, _, ⟨hc, he, hw, rfl⟩, hall, hrest, by omega⟩

/-- Writing a message is one write of its header and the encodings of its objects. -/
theorem serialize_eq_ok_iff {m m' : NetMsg} {n : Nat} :
    a.serialize m = .ok (m', n) ↔
      a.check = true ∧
      (∀ key ∈ a.serializedKeys, ∃ o, a.objects.get key = some o ∧ o.check = true ∧
        o.Exported) ∧
      m.write (Words.bytes32 (header a.kind) ++ a.encodings a.serializedKeys) = .ok m' ∧
      n = 4 + (a.encodings a.serializedKeys).length := by
  by_cases hc : a.check = true
  · have hcond : ¬ ((a.kind = .create ∨ a.kind = .bidding) ∧ (!a.check) = true) := by
      simp [hc]
    have hhead : ∀ r, a.serializeHeader m = .ok r ↔
        m.write (Words.bytes32 (header a.kind)) = .ok r.1 ∧ r.2 = 4 := by
      rintro ⟨m₁, k⟩
      simp only [serializeHeader, hc, Bool.not_true, Bool.false_eq_true, if_false,
        NetMsg.encode32]
      cases m.write (Words.bytes32 (header a.kind)) with
      | error e => simp
      | ok m₂ => simp [eq_comm]
    rw [serialize, if_neg hcond]
    simp only [AnslpObject.bind_eq_ok_iff, Prod.exists, hhead, serializeObjects_eq_ok_iff,
      NetMsg.write_append_eq_ok_iff, hc, true_and]
    constructor
    · rintro ⟨m₁, k, ⟨hw, rfl⟩, hall, hrest, rfl⟩
      exact ⟨hall, ⟨m₁, hw, hrest⟩, rfl⟩
    · rintro ⟨hall, ⟨m₁, hw, hrest⟩, rfl⟩
      exact ⟨m₁, 4, ⟨hw, rfl⟩, hall, hrest, rfl⟩
  · have hne : ∀ r, a.serializeHeader m ≠ .ok r := by
      intro r
      simp [serializeHeader, hc]
    rw [serialize]
    constructor
    · intro h
      split_ifs at h
      obtain ⟨⟨m₁, k⟩, hhead, _⟩ := AnslpObject.bind_eq_ok_iff.mp h
      exact absurd hhead (hne _)
    · rintro ⟨h, _⟩
      exact absurd h hc

end AnslpMsg
end Anslp
