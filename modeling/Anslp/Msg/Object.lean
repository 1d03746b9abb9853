import Anslp.Msg.NetMsg

/-!
# Message objects

The objects an anslp message is made of: a header with treatment, type and body
length, and a body that is one 32 bit word, or an IPAP message whose own format
is left to its library.  The definitions follow {lit}`anslp_object` and its
subclasses.

Main results:

- Theorem {lit}`toNat_header`: the fields a header is packed from.
- Theorem {lit}`serialize_eq_ok_iff`: serializing an object is one write of its
  encoding.
- Theorems {lit}`deserialize_word` and {lit}`deserialize_ipap`: what reading an
  object does, for each class of objects.

Current gaps:

- The content of an IPAP message object is a parameter.
-/

namespace Anslp

/-! ## The IPAP message library -/

/-- What the code uses of an IPAP message: a new one, parsing, the exported bytes
(absent while output is pending) and their number. -/
class IpapMessage (α : Type) where
  new : α
  ipapImport : List UInt8 → Option (α × Nat)
  getMessage : α → Option (List UInt8)
  getOffset : α → Nat

/-- Export and import of IPAP messages are inverse: importing exported bytes, with
or without the zero padding of a message object behind them, consumes exactly these
bytes, and an imported message exports the bytes it was imported from. -/
class LawfulIpapMessage (α : Type) [IpapMessage α] : Prop where
  offset_eq : ∀ {m : α} {bs : List UInt8},
    IpapMessage.getMessage m = some bs → IpapMessage.getOffset m = bs.length
  import_export : ∀ {m : α} {bs : List UInt8} (k : Nat),
    IpapMessage.getMessage m = some bs → bs ≠ [] → k < 4 →
      IpapMessage.ipapImport (bs ++ List.replicate k 0) = some (m, bs.length)
  export_import : ∀ {m : α} {bs : List UInt8} {n : Nat},
    IpapMessage.ipapImport bs = some (m, n) →
      IpapMessage.getMessage m = some (bs.take n) ∧ n ≤ bs.length

/-! ## Objects -/

/-- What a node that does not know an object shall do with it. -/
inductive Treatment
  | mandatory
  | optional
  | forward
  | reserved
deriving DecidableEq, Repr

/-- The two header bits of a treatment. -/
def Treatment.code : Treatment → UInt32
  | .mandatory => 0
  | .optional => 1
  | .forward => 2
  | .reserved => 3

/-- The treatment with the given header bits. -/
def Treatment.ofCode (n : UInt32) : Treatment :=
  if n = 0 then .mandatory
  else if n = 1 then .optional
  else if n = 2 then .forward
  else .reserved

theorem Treatment.code_lt (tr : Treatment) : tr.code.toNat < 4 := by
  cases tr <;> decide

theorem Treatment.ofCode_code (tr : Treatment) : Treatment.ofCode tr.code = tr := by
  cases tr <;> decide

/-- The objects whose body is one word; a message holds one of each type at most. -/
inductive FixedType
  | informationCode
  | selectionAuctioningEntities
  | messageHopCount
  | msgSequenceNumber
  | sessionLifetime
deriving DecidableEq, Repr

namespace FixedType

/-- The registered object types in increasing order. -/
def all : List FixedType :=
  [informationCode, selectionAuctioningEntities, messageHopCount, msgSequenceNumber,
    sessionLifetime]

/-- The type number in an object header. -/
def objectType : FixedType → UInt16
  | informationCode => 0x00F4
  | selectionAuctioningEntities => 0x00F5
  | messageHopCount => 0x00F6
  | msgSequenceNumber => 0x00F7
  | sessionLifetime => 0x00F8

theorem mem_all (t : FixedType) : t ∈ all := by
  cases t <;> decide

theorem objectType_injective : Function.Injective objectType := by
  intro t u h
  cases t <;> cases u <;> first | rfl | (exact absurd h (by decide))

/-- The registered type with the given number. -/
def ofObjectType? (n : UInt16) : Option FixedType :=
  all.find? fun t => t.objectType == n

@[simp]
theorem ofObjectType?_objectType (t : FixedType) : ofObjectType? t.objectType = some t := by
  cases t <;> decide

theorem objectType_of_ofObjectType? {n : UInt16} {t : FixedType}
    (h : ofObjectType? n = some t) : t.objectType = n := by
  simpa using List.find?_some h

end FixedType

/-- The type number of IPAP message objects. -/
def ipapObjectType : UInt16 :=
  0x00F9

theorem FixedType.objectType_ne_ipap (t : FixedType) : t.objectType ≠ ipapObjectType := by
  cases t <;> decide

/-- The body of a message object. -/
inductive Body (α : Type)
  | informationCode (severityClass responseCode : UInt8) (responseObjectType : UInt16)
  | selectionAuctioningEntities (value : UInt32)
  | messageHopCount (value : UInt32)
  | msgSequenceNumber (value : UInt32)
  | sessionLifetime (slt : UInt32)
  | ipapMessage (message : α)
deriving DecidableEq, Repr

/-- The registered type of a body's class, for the classes with a one word body. -/
def Body.fixedType? {α : Type} : Body α → Option FixedType
  | .informationCode .. => some .informationCode
  | .selectionAuctioningEntities _ => some .selectionAuctioningEntities
  | .messageHopCount _ => some .messageHopCount
  | .msgSequenceNumber _ => some .msgSequenceNumber
  | .sessionLifetime _ => some .sessionLifetime
  | .ipapMessage _ => none

/-- A message object.  The type number is kept beside the body, as the class keeps
it in a field of its own. -/
structure AnslpObject (α : Type) where
  objectType : UInt16
  treatment : Treatment
  isUnique : Bool
  body : Body α
deriving DecidableEq, Repr

/-- An exception, or undefined behaviour, that ends a call. -/
inductive Escape
  | netMsgError
  | ieError (e : IEError)
  | undefined
deriving DecidableEq, Repr

namespace AnslpObject

variable {α : Type}

/-- Length of an object header in bytes. -/
def headerLength : Nat :=
  4

/-- The object a class registered under a type number creates for reading. -/
def newFixed (t : FixedType) : AnslpObject α where
  objectType := t.objectType
  treatment := .mandatory
  isUnique := true
  body :=
    match t with
    | .informationCode => .informationCode 0 0 0
    | .selectionAuctioningEntities => .selectionAuctioningEntities 0
    | .messageHopCount => .messageHopCount 0
    | .msgSequenceNumber => .msgSequenceNumber 0
    | .sessionLifetime => .sessionLifetime 0

/-- A message object for an IPAP message. -/
def ofIpap (tr : Treatment) (m : α) : AnslpObject α where
  objectType := ipapObjectType
  treatment := tr
  isUnique := false
  body := .ipapMessage m

/-! ## Header fields -/

/-- The object type field of a raw header. -/
def extractObjectType (headerRaw : UInt32) : UInt16 :=
  ((headerRaw >>> 16) &&& 0xFFF).toUInt16

/-- The treatment field of a raw header. -/
def extractTreatment (headerRaw : UInt32) : Treatment :=
  .ofCode (headerRaw >>> 30)

/-- The body length field of a raw header, in bytes. -/
def extractBodyLength (headerRaw : UInt32) : Nat :=
  (headerRaw &&& 0xFFF).toNat * 4

/-- The raw header of an object with a body of the given number of bytes. -/
def header (o : AnslpObject α) (bodyLength : UInt16) : UInt32 :=
  (o.treatment.code <<< 30) ||| (o.objectType.toUInt32 <<< 16) |||
    (bodyLength / 4).toUInt32

/-- A type number passes the check exactly when it has 12 bits. -/
theorem and_mask_eq_zero_iff (n : UInt16) : n &&& 0xF000 = 0 ↔ n.toNat < 2 ^ 12 := by
  rw [← UInt16.toNat_inj, UInt16.toNat_and]
  exact Words.and_high_mask_eq_zero_iff (k := 12) (w := 4) n.toNat_lt

/-- The number a header of a 12 bit type is. -/
theorem toNat_header (o : AnslpObject α) (bodyLength : UInt16)
    (htype : o.objectType.toNat < 2 ^ 12) :
    (o.header bodyLength).toNat =
      o.treatment.code.toNat * 2 ^ 30 + o.objectType.toNat * 2 ^ 16 + bodyLength.toNat / 4 := by
  have htr := Treatment.code_lt o.treatment
  have hlen := bodyLength.toNat_lt
  have hdiv : bodyLength.toNat / 4 < 2 ^ 16 := by omega
  have hhi : (o.treatment.code <<< 30).toNat = o.treatment.code.toNat <<< 30 := by
    rw [UInt32.toNat_shiftLeft, Nat.mod_eq_of_lt]
    · rfl
    · simp only [UInt32.reduceToNat, Nat.reduceMod, Nat.shiftLeft_eq]
      omega
  have hmid : (o.objectType.toUInt32 <<< 16).toNat = o.objectType.toNat <<< 16 := by
    rw [UInt32.toNat_shiftLeft, UInt16.toNat_toUInt32, Nat.mod_eq_of_lt]
    · rfl
    · simp only [UInt32.reduceToNat, Nat.reduceMod, Nat.shiftLeft_eq]
      omega
  have hlow : ((bodyLength / 4).toUInt32).toNat = bodyLength.toNat / 4 := by
    rw [UInt16.toNat_toUInt32, UInt16.toNat_div]
    rfl
  simp only [header, UInt32.toNat_or, hhi, hmid, hlow]
  rw [Nat.or_assoc, Words.toNat_or_shiftLeft _ _ 16 hdiv, Words.toNat_or_shiftLeft _ _ 30]
  · omega
  · omega

theorem extractObjectType_header {o : AnslpObject α} (bodyLength : UInt16)
    (htype : o.objectType.toNat < 2 ^ 12) :
    extractObjectType (o.header bodyLength) = o.objectType := by
  have hhead := toNat_header o bodyLength htype
  have hlen := bodyLength.toNat_lt
  apply UInt16.toNat_inj.mp
  simp only [extractObjectType, UInt32.toNat_toUInt16, UInt32.toNat_and,
    UInt32.toNat_shiftRight, UInt32.reduceToNat, Nat.reduceMod]
  rw [show 4095 = 2 ^ 12 - 1 by decide, Words.and_mask, Nat.shiftRight_eq_div_pow, hhead]
  omega

theorem extractTreatment_header {o : AnslpObject α} (bodyLength : UInt16)
    (htype : o.objectType.toNat < 2 ^ 12) :
    extractTreatment (o.header bodyLength) = o.treatment := by
  have hhead := toNat_header o bodyLength htype
  have hlen := bodyLength.toNat_lt
  have hcode : o.header bodyLength >>> 30 = o.treatment.code := by
    apply UInt32.toNat_inj.mp
    simp only [UInt32.toNat_shiftRight, UInt32.reduceToNat, Nat.reduceMod]
    rw [Nat.shiftRight_eq_div_pow, hhead]
    omega
  rw [extractTreatment, hcode, Treatment.ofCode_code]

theorem extractBodyLength_header {o : AnslpObject α} {bodyLength : UInt16}
    (htype : o.objectType.toNat < 2 ^ 12) (hmod : bodyLength.toNat % 4 = 0)
    (hlen : bodyLength.toNat < 4 * 2 ^ 12) :
    extractBodyLength (o.header bodyLength) = bodyLength.toNat := by
  have hhead := toNat_header o bodyLength htype
  simp only [extractBodyLength, UInt32.toNat_and, UInt32.reduceToNat]
  rw [show 4095 = 2 ^ 12 - 1 by decide, Words.and_mask, hhead]
  omega

/-! ## Sizes and checks -/

/-- Bytes of zero padding behind `n` bytes, up to a multiple of four. -/
def numPadding (n : Nat) : Nat :=
  if n % 4 = 0 then 0 else 4 - n % 4

variable [IpapMessage α]

/-- The size of an object with its header and padding. -/
def getSerializedSize (o : AnslpObject α) : Nat :=
  match o.body with
  | .ipapMessage m =>
      headerLength + IpapMessage.getOffset m
        + numPadding (headerLength + IpapMessage.getOffset m)
  | _ => headerLength + 4

/-- Whether the body holds values its encoding can represent. -/
def checkBody (o : AnslpObject α) : Bool :=
  match o.body with
  | .informationCode sev _ objType => !(sev &&& 0xF0 != 0 || objType &&& 0xFFFF != 0)
  | .ipapMessage m => 0 < IpapMessage.getOffset m
  | _ => true

/-- Whether the object is in a valid state. -/
def check (o : AnslpObject α) : Bool :=
  if o.objectType &&& 0xF000 ≠ 0 then false else o.checkBody

/-- Equality of objects: type, treatment and body. -/
def equals [DecidableEq α] (a b : AnslpObject α) : Bool :=
  a.objectType == b.objectType && a.treatment == b.treatment && a.body == b.body

/-! ## Reading -/

/-- Parse an object header.  Besides the object with its header fields set, this
gives the body length in bytes. -/
def deserializeHeader (o : AnslpObject α) (m : NetMsg) (err : IEErrorList) :
    Option (AnslpObject α × Nat × NetMsg) × IEErrorList :=
  match m.decode32 with
  | .error _ => (none, err.put (.msgTooShort .anslpObject m.pos))
  | .ok (headerRaw, m') =>
      let o' := { o with
        treatment := extractTreatment headerRaw
        objectType := extractObjectType headerRaw }
      let bodyLength := extractBodyLength headerRaw
      if m'.bytesLeft < bodyLength then (none, err.put (.msgTooShort .anslpObject m.pos))
      else (some (o', bodyLength, m'), err)

/-- Parse a body that is one word.  The body length of the header is not looked at,
and a read error is not caught. -/
def deserializeValue (o : AnslpObject α) (m : NetMsg) (err : IEErrorList)
    (setValue : UInt32 → Body α) :
    Except Escape (Option (AnslpObject α × NetMsg) × IEErrorList) :=
  match m.decode32 with
  | .error _ => .error .netMsgError
  | .ok (value, m') => .ok (some ({ o with body := setValue value }, m'), err)

/-- Parse the body of an information code, which checks itself afterwards. -/
def deserializeInformationCode (o : AnslpObject α) (m : NetMsg) (err : IEErrorList)
    (skip : Bool) : Except Escape (Option (AnslpObject α × NetMsg) × IEErrorList) :=
  match m.decode32 with
  | .error _ => .error .netMsgError
  | .ok (value, m') =>
      let o' := { o with
        body := .informationCode ((value >>> 24) &&& 0xF).toUInt8
          ((value >>> 16) &&& 0xFF).toUInt8 (value &&& 0xFFFF).toUInt16 }
      if o'.check then .ok (some (o', m'), err)
      else
        let err' := err.put (.pduSyntaxError .anslpObject o'.objectType 0 (m'.pos - 4) "")
        if skip then .ok (some (o', m'), err') else .ok (none, err')

/-- Parse the body of an IPAP message object.  A body the library refuses raises an
exception; bytes behind the imported ones have to be zero. -/
def deserializeIpap (o : AnslpObject α) (m : NetMsg) (bodyLength : Nat)
    (err : IEErrorList) : Except Escape (Option (AnslpObject α × NetMsg) × IEErrorList) :=
  let messdef := m.left.take bodyLength
  match IpapMessage.ipapImport messdef with
  | none => .error (.ieError (.msgTooShort .anslpObject m.pos))
  | some (message, numRead) =>
      if (messdef.drop numRead).any (· != 0) then .ok (none, err)
      else .ok (some ({ o with body := .ipapMessage message }, m.advance bodyLength), err)

/-- Parse an object body, by the class of the object. -/
def deserializeBody (o : AnslpObject α) (m : NetMsg) (bodyLength : Nat)
    (err : IEErrorList) (skip : Bool) :
    Except Escape (Option (AnslpObject α × NetMsg) × IEErrorList) :=
  match o.body with
  | .informationCode .. => o.deserializeInformationCode m err skip
  | .selectionAuctioningEntities _ => o.deserializeValue m err .selectionAuctioningEntities
  | .messageHopCount _ => o.deserializeValue m err .messageHopCount
  | .msgSequenceNumber _ => o.deserializeValue m err .msgSequenceNumber
  | .sessionLifetime _ => o.deserializeValue m err .sessionLifetime
  | .ipapMessage _ => o.deserializeIpap m bodyLength err

/-- Read an object: the object, the buffer behind it and the number of bytes read,
or nothing. -/
def deserialize (o : AnslpObject α) (m : NetMsg) (err : IEErrorList) (skip : Bool) :
    Except Escape (Option (AnslpObject α × NetMsg × Nat) × IEErrorList) :=
  match o.deserializeHeader m err with
  | (none, err') => .ok (none, err')
  | (some (o', bodyLength, m'), err') =>
      match o'.deserializeBody m' bodyLength err' skip with
      | .error e => .error e
      | .ok (none, err'') => .ok (none, err'')
      | .ok (some (o'', m''), err'') => .ok (some (o'', m'', m''.pos - m.pos), err'')

/-! ## Writing -/

/-- A buffer error while writing leaves the object as an element error. -/
def writing (m : NetMsg) (r : Except NetMsgError NetMsg) : Except Escape NetMsg :=
  match r with
  | .error _ => .error (.ieError (.msgTooShort .anslpObject m.pos))
  | .ok m' => .ok m'

/-- Write an object body. -/
def serializeBody (o : AnslpObject α) (m : NetMsg) : Except Escape NetMsg :=
  match o.body with
  | .informationCode sev code objType => do
      let m₁ ← writing m (m.encode8 (sev &&& 0xF))
      let m₂ ← writing m₁ (m₁.encode8 code)
      writing m₂ (m₂.encode16 (objType &&& 0xFFFF))
  | .selectionAuctioningEntities value => writing m (m.encode32 value)
  | .messageHopCount value => writing m (m.encode32 value)
  | .msgSequenceNumber value => writing m (m.encode32 value)
  | .sessionLifetime slt => writing m (m.encode32 slt)
  | .ipapMessage message =>
      match IpapMessage.getMessage message with
      | none => .error .undefined
      | some bytes => do
          let m₁ ← writing m (m.write bytes)
          let padding := List.replicate (numPadding (IpapMessage.getOffset message)) 0
          writing m₁ (m₁.write padding)

/-- Write an object, giving the buffer behind it and the number of bytes written. -/
def serialize (o : AnslpObject α) (m : NetMsg) : Except Escape (NetMsg × Nat) :=
  if !o.check then .error (.ieError .checkFailed)
  else
    let bodyLength := UInt16.ofNat (o.getSerializedSize - headerLength)
    match writing m (m.encode32 (o.header bodyLength)) with
    | .error e => .error e
    | .ok m₁ =>
        match o.serializeBody m₁ with
        | .error e => .error e
        | .ok m₂ => .ok (m₂, m₂.pos - m.pos)

/-! ## The encoding of an object -/

/-- The bytes of an object body with its padding. -/
def bodyBytes (o : AnslpObject α) : List UInt8 :=
  match o.body with
  | .informationCode sev code objType =>
      [sev &&& 0xF] ++ [code] ++ Words.bytes16 (objType &&& 0xFFFF)
  | .selectionAuctioningEntities value => Words.bytes32 value
  | .messageHopCount value => Words.bytes32 value
  | .msgSequenceNumber value => Words.bytes32 value
  | .sessionLifetime slt => Words.bytes32 slt
  | .ipapMessage message =>
      (IpapMessage.getMessage message).getD [] ++
        List.replicate (numPadding (IpapMessage.getOffset message)) 0

/-- The bytes of an object. -/
def encoding (o : AnslpObject α) : List UInt8 :=
  Words.bytes32 (o.header (UInt16.ofNat (o.getSerializedSize - headerLength))) ++ o.bodyBytes

/-- An object whose bytes are there: an IPAP message has been exported. -/
def Exported (o : AnslpObject α) : Prop :=
  match o.body with
  | .ipapMessage message => (IpapMessage.getMessage message).isSome
  | _ => True

theorem writing_eq_ok_iff {m m' : NetMsg} {r : Except NetMsgError NetMsg} :
    writing m r = .ok m' ↔ r = .ok m' := by
  cases r <;> simp [writing]

theorem bind_eq_ok_iff {ε β γ : Type} {x : Except ε β} {k : β → Except ε γ} {c : γ} :
    (x >>= k) = .ok c ↔ ∃ b, x = .ok b ∧ k b = .ok c := by
  cases x <;> simp [bind, Except.bind]

/-- Writing a body is one write of its bytes. -/
theorem serializeBody_eq_ok_iff {o : AnslpObject α} {m m' : NetMsg} :
    o.serializeBody m = .ok m' ↔ o.Exported ∧ m.write o.bodyBytes = .ok m' := by
  cases hb : o.body with
  | informationCode sev code objType =>
      simp only [serializeBody, Exported, bodyBytes, hb, bind_eq_ok_iff, writing_eq_ok_iff,
        NetMsg.encode8, NetMsg.encode16, true_and, NetMsg.write_append_eq_ok_iff]
      grind
  | selectionAuctioningEntities value =>
      simp only [serializeBody, Exported, bodyBytes, hb, writing_eq_ok_iff, NetMsg.encode32,
        true_and]
  | messageHopCount value =>
      simp only [serializeBody, Exported, bodyBytes, hb, writing_eq_ok_iff, NetMsg.encode32,
        true_and]
  | msgSequenceNumber value =>
      simp only [serializeBody, Exported, bodyBytes, hb, writing_eq_ok_iff, NetMsg.encode32,
        true_and]
  | sessionLifetime slt =>
      simp only [serializeBody, Exported, bodyBytes, hb, writing_eq_ok_iff, NetMsg.encode32,
        true_and]
  | ipapMessage message =>
      cases hm : IpapMessage.getMessage message with
      | none => simp [serializeBody, Exported, hb, hm]
      | some bytes =>
          simp only [serializeBody, Exported, bodyBytes, hb, hm, bind_eq_ok_iff,
            writing_eq_ok_iff, Option.isSome_some, Option.getD_some, true_and,
            NetMsg.write_append_eq_ok_iff]

/-- Serializing an object is one write of its encoding. -/
theorem serialize_eq_ok_iff {o : AnslpObject α} {m m' : NetMsg} {n : Nat} :
    o.serialize m = .ok (m', n) ↔
      o.check = true ∧ o.Exported ∧ m.write o.encoding = .ok m' ∧ n = o.encoding.length := by
  by_cases hc : o.check = true
  · have hpos : ∀ m', m.write o.encoding = .ok m' → m'.pos - m.pos = o.encoding.length := by
      intro m' hm'
      obtain ⟨_, hdone, _⟩ := NetMsg.of_write hm'
      simp [NetMsg.pos, hdone]
    have hstep : ∀ m', m.write o.encoding = .ok m' ↔ ∃ m₁,
        m.write (Words.bytes32 (o.header (UInt16.ofNat (o.getSerializedSize - headerLength))))
          = .ok m₁ ∧ m₁.write o.bodyBytes = .ok m' := fun m' =>
      NetMsg.write_append_eq_ok_iff
    simp only [serialize, hc, Bool.not_true, Bool.false_eq_true, if_false, true_and,
      NetMsg.encode32]
    constructor
    · intro h
      split at h
      · cases h
      · rename_i m₁ h₁
        split at h
        · cases h
        · rename_i m₂ h₂
          simp only [Except.ok.injEq, Prod.mk.injEq] at h
          obtain ⟨rfl, rfl⟩ := h
          obtain ⟨hexp, hbody⟩ := serializeBody_eq_ok_iff.mp h₂
          have hw := (hstep m₂).mpr ⟨m₁, writing_eq_ok_iff.mp h₁, hbody⟩
          exact ⟨hexp, hw, hpos m₂ hw⟩
    · rintro ⟨hexp, hw, rfl⟩
      obtain ⟨m₁, h₁, hbody⟩ := (hstep m').mp hw
      rw [writing_eq_ok_iff.mpr h₁]
      simp only
      rw [serializeBody_eq_ok_iff.mpr ⟨hexp, hbody⟩]
      simp only [hpos m' hw]
  · simp [serialize, hc]

theorem numPadding_add_mod (n : Nat) : (n + numPadding n) % 4 = 0 := by
  unfold numPadding
  split <;> omega

theorem numPadding_lt (n : Nat) : numPadding n < 4 := by
  unfold numPadding
  split <;> omega

theorem numPadding_headerLength_add (n : Nat) :
    numPadding (headerLength + n) = numPadding n := by
  simp only [numPadding, headerLength, Nat.add_mod_left]

/-- An object's encoding has the size the object reports. -/
theorem length_encoding [LawfulIpapMessage α] {o : AnslpObject α} (h : o.Exported) :
    o.encoding.length = o.getSerializedSize := by
  cases hb : o.body with
  | ipapMessage message =>
      simp only [Exported, hb, Option.isSome_iff_exists] at h
      obtain ⟨bytes, hbytes⟩ := h
      have hoff := LawfulIpapMessage.offset_eq hbytes
      simp only [encoding, bodyBytes, getSerializedSize, hb, hbytes, Option.getD_some,
        List.length_append, Words.length_bytes32, List.length_replicate, hoff,
        numPadding_headerLength_add]
      simp only [headerLength]
      omega
  | informationCode sev code objType =>
      simp [encoding, bodyBytes, getSerializedSize, hb, headerLength]
  | selectionAuctioningEntities value =>
      simp [encoding, bodyBytes, getSerializedSize, hb, headerLength]
  | messageHopCount value => simp [encoding, bodyBytes, getSerializedSize, hb, headerLength]
  | msgSequenceNumber value => simp [encoding, bodyBytes, getSerializedSize, hb, headerLength]
  | sessionLifetime slt => simp [encoding, bodyBytes, getSerializedSize, hb, headerLength]

theorem four_le_length_encoding (o : AnslpObject α) : 4 ≤ o.encoding.length := by
  simp [encoding]

/-! ## What reading an object does -/

/-- The body a word stands for in an object of the given class. -/
def ofWord : FixedType → UInt32 → Body α
  | .informationCode, value =>
      .informationCode ((value >>> 24) &&& 0xF).toUInt8 ((value >>> 16) &&& 0xFF).toUInt8
        (value &&& 0xFFFF).toUInt16
  | .selectionAuctioningEntities, value => .selectionAuctioningEntities value
  | .messageHopCount, value => .messageHopCount value
  | .msgSequenceNumber, value => .msgSequenceNumber value
  | .sessionLifetime, value => .sessionLifetime value

/-- The object read from a header and a word. -/
def ofHeaderWord (t : FixedType) (headerRaw value : UInt32) : AnslpObject α where
  objectType := extractObjectType headerRaw
  treatment := extractTreatment headerRaw
  isUnique := true
  body := ofWord t value

/-- The object read from a header and an imported IPAP message. -/
def ofHeaderIpap (headerRaw : UInt32) (message : α) : AnslpObject α where
  objectType := extractObjectType headerRaw
  treatment := extractTreatment headerRaw
  isUnique := false
  body := .ipapMessage message

section Reading

variable {m : NetMsg} {err : IEErrorList} {headerRaw value : UInt32} {rest : List UInt8}

omit [IpapMessage α] in
theorem deserializeHeader_eq {o : AnslpObject α}
    (hleft : m.left = Words.bytes32 headerRaw ++ rest)
    (hlen : extractBodyLength headerRaw ≤ rest.length) :
    o.deserializeHeader m err = (some ({ o with
      treatment := extractTreatment headerRaw
      objectType := extractObjectType headerRaw },
      extractBodyLength headerRaw, m.advance 4), err) := by
  have hbytes : (m.advance 4).bytesLeft = rest.length := by
    simp [NetMsg.bytesLeft, hleft]
  simp only [deserializeHeader, NetMsg.decode32_eq hleft, hbytes]
  rw [if_neg (Nat.not_lt.mpr hlen)]

/-- A header that declares more than is left is refused with an entry. -/
theorem deserialize_of_length_lt {o : AnslpObject α} {skip : Bool}
    (hleft : m.left = Words.bytes32 headerRaw ++ rest)
    (hlen : rest.length < extractBodyLength headerRaw) :
    o.deserialize m err skip = .ok (none, err.put (.msgTooShort .anslpObject m.pos)) := by
  have hbytes : (m.advance 4).bytesLeft = rest.length := by
    simp [NetMsg.bytesLeft, hleft]
  simp only [deserialize, deserializeHeader, NetMsg.decode32_eq hleft, hbytes]
  rw [if_pos hlen]

/-- The check an information code makes of the word it was read from. -/
theorem check_ofHeaderWord (t : FixedType) (headerRaw value : UInt32) :
    (ofHeaderWord t headerRaw value : AnslpObject α).check = true ↔
      (t = .informationCode → value &&& 0xFFFF = 0) := by
  have htype : extractObjectType headerRaw &&& 0xF000 = 0 := by
    rw [and_mask_eq_zero_iff]
    simp only [extractObjectType, UInt32.toNat_toUInt16, UInt32.toNat_and,
      UInt32.reduceToNat]
    rw [show 4095 = 2 ^ 12 - 1 by decide, Words.and_mask]
    omega
  cases t with
  | informationCode =>
      have hsev : ((value >>> 24) &&& 0xF).toUInt8 &&& 0xF0 = 0 := by
        have hand : ∀ n < 16, n &&& 240 = 0 := by decide
        apply UInt8.toNat_inj.mp
        simp only [UInt8.toNat_and, UInt32.toNat_toUInt8, UInt32.toNat_and,
          UInt32.reduceToNat, UInt8.reduceToNat]
        apply hand
        rw [show 15 = 2 ^ 4 - 1 by decide, Words.and_mask]
        omega
      have hobj : (value &&& 0xFFFF).toUInt16 &&& 0xFFFF = 0 ↔ value &&& 0xFFFF = 0 := by
        rw [← UInt16.toNat_inj, ← UInt32.toNat_inj]
        simp only [UInt16.toNat_and, UInt32.toNat_toUInt16, UInt32.toNat_and,
          UInt32.reduceToNat, UInt16.reduceToNat]
        rw [show 65535 = 2 ^ 16 - 1 by decide, Words.and_mask, Words.and_mask]
        omega
      simp only [check, checkBody, ofHeaderWord, ofWord, htype, hsev]
      simpa using hobj
  | selectionAuctioningEntities => simp [check, checkBody, ofHeaderWord, ofWord, htype]
  | messageHopCount => simp [check, checkBody, ofHeaderWord, ofWord, htype]
  | msgSequenceNumber => simp [check, checkBody, ofHeaderWord, ofWord, htype]
  | sessionLifetime => simp [check, checkBody, ofHeaderWord, ofWord, htype]

/-- The word behind a header is read whatever length the header declares. -/
theorem deserialize_word {t : FixedType} {skip : Bool} {tl : List UInt8}
    (hleft : m.left = Words.bytes32 headerRaw ++ (Words.bytes32 value ++ tl))
    (hlen : extractBodyLength headerRaw ≤ 4 + tl.length)
    (hcheck : t = .informationCode → value &&& 0xFFFF = 0) :
    (newFixed t : AnslpObject α).deserialize m err skip =
      .ok (some (ofHeaderWord t headerRaw value, m.advance 8, 8), err) := by
  have hval := NetMsg.left_advance_four hleft
  have hadv := NetMsg.advance_advance m 4 4
  have hpos : (m.advance 8).pos - m.pos = 8 := by simp [hleft]; omega
  have hc := (check_ofHeaderWord (α := α) t headerRaw value).mpr hcheck
  simp only [deserialize, deserializeHeader_eq hleft (by simpa [Nat.add_comm] using hlen)]
  cases t <;>
    simp_all [deserializeBody, deserializeValue, deserializeInformationCode, newFixed,
      NetMsg.decode32_eq hval, ofHeaderWord, ofWord]

/-- An information code about an object type is refused with an entry. -/
theorem deserialize_informationCode_of_ne (err : IEErrorList) {tl : List UInt8}
    (hleft : m.left = Words.bytes32 headerRaw ++ (Words.bytes32 value ++ tl))
    (hlen : extractBodyLength headerRaw ≤ 4 + tl.length) (hne : value &&& 0xFFFF ≠ 0) :
    ∃ e, (newFixed .informationCode : AnslpObject α).deserialize m err false =
      .ok (none, err.put e) := by
  have hval := NetMsg.left_advance_four hleft
  have hc : ¬ (ofHeaderWord .informationCode headerRaw value : AnslpObject α).check = true := by
    rw [check_ofHeaderWord]
    simpa using hne
  simp only [deserialize, deserializeHeader_eq hleft (by simpa [Nat.add_comm] using hlen)]
  simp_all [deserializeBody, deserializeInformationCode, newFixed, NetMsg.decode32_eq hval,
    ofHeaderWord, ofWord]

/-- A declared length of zero lets the read of the word run off the buffer. -/
theorem deserialize_of_short {t : FixedType} {skip : Bool}
    (hleft : m.left = Words.bytes32 headerRaw ++ rest)
    (hlen : extractBodyLength headerRaw ≤ rest.length) (hshort : rest.length < 4) :
    (newFixed t : AnslpObject α).deserialize m err skip = .error .netMsgError := by
  have herr : (m.advance 4).decode32 = .error .tooShort := by
    rw [NetMsg.decode32_error_iff]
    simpa [NetMsg.bytesLeft, hleft] using hshort
  simp only [deserialize, deserializeHeader_eq hleft hlen]
  cases t <;>
    simp [deserializeBody, deserializeValue, deserializeInformationCode, newFixed, herr]

/-- What becomes of an IPAP message object whose body fits. -/
theorem deserialize_ipap {o : α} {skip : Bool} {body tl : List UInt8}
    (hleft : m.left = Words.bytes32 headerRaw ++ (body ++ tl))
    (hlen : body.length = extractBodyLength headerRaw) :
    (ofIpap .mandatory o : AnslpObject α).deserialize m err skip =
      match IpapMessage.ipapImport (α := α) body with
      | none => .error (.ieError (.msgTooShort .anslpObject (m.pos + 4)))
      | some (message, numRead) =>
          if (body.drop numRead).any (· != 0) then .ok (none, err)
          else .ok (some (ofHeaderIpap headerRaw message, m.advance (4 + body.length),
            4 + body.length), err) := by
  have hval := NetMsg.left_advance_four hleft
  have htake : (body ++ tl).take body.length = body := List.take_left' rfl
  have hmin : min (4 + body.length) m.left.length = 4 + body.length := by
    simp [hleft]
  have hpos₄ : (m.advance 4).pos = m.pos + 4 := by simp [hleft]
  simp only [deserialize, deserializeHeader_eq hleft (by simp [hlen]), ofIpap,
    deserializeBody, deserializeIpap, hval, ← hlen, htake]
  cases IpapMessage.ipapImport (α := α) body with
  | none => simp [hpos₄]
  | some r =>
      obtain ⟨message, numRead⟩ := r
      by_cases hpad : (body.drop numRead).any (· != 0) = true
      · simp [hpad]
      · simp [hpad, ofHeaderIpap, NetMsg.advance_advance, hmin]

end Reading

end AnslpObject
end Anslp
