import Anslp.Msg.Decoding

/-!
# Reading what was written

An encoded object is accepted by the decoder as the object it was written from.  A
message whose stored objects are those its class writes is read back as itself.

Main results:

- Theorem {lit}`taken_encoding`: an encoded object is read as that object.
- Theorem {lit}`deserializeObjects_encodings`: the loop over a list of encoded objects
  stores them one after the other.
- Theorem {lit}`deserialize_written`: what reading a written message gives.
- Theorem {lit}`build_roundTrip`: messages built with the setters of their class.

Current gaps:

- None for messages built with the public setters; IPAP messages of more than 4095 words do not
  fit.
-/

namespace Anslp

open AnslpObject Decoding

namespace RoundTrip

variable {α : Type} [IpapMessage α]

/-! ## Objects -/

/-- The word an information code is packed into. -/
def informationWord (sev code : UInt8) (objType : UInt16) : UInt32 :=
  Words.word32 (sev &&& 0xF) code (UInt8.ofNat (objType.toNat / 2 ^ 8)) (UInt8.ofNat objType.toNat)

theorem and_eq_self_of_lt {sev : UInt8} (h : sev.toNat < 16) : sev &&& 0xF = sev := by
  apply UInt8.toNat_inj.mp
  rw [UInt8.toNat_and, show (0xF : UInt8).toNat = 2 ^ 4 - 1 by decide, Words.and_mask]
  omega

/-- A severity class passes the check exactly when it has four bits. -/
theorem severity_and_eq_zero_iff (sev : UInt8) : sev &&& 0xF0 = 0 ↔ sev.toNat < 16 := by
  rw [← UInt8.toNat_inj, UInt8.toNat_and]
  exact Words.and_high_mask_eq_zero_iff (k := 4) (w := 4) sev.toNat_lt

theorem objectType_and_mask (objType : UInt16) : objType &&& 0xFFFF = objType := by
  apply UInt16.toNat_inj.mp
  have hlt := objType.toNat_lt
  rw [UInt16.toNat_and, show (0xFFFF : UInt16).toNat = 2 ^ 16 - 1 by decide, Words.and_mask]
  omega

theorem toNat_informationWord {sev : UInt8} (code : UInt8) (objType : UInt16)
    (hsev : sev.toNat < 16) :
    (informationWord sev code objType).toNat =
      sev.toNat * 2 ^ 24 + code.toNat * 2 ^ 16 + objType.toNat := by
  have hobj := objType.toNat_lt
  rw [informationWord, Words.toNat_word32, and_eq_self_of_lt hsev]
  simp only [UInt8.toNat_ofNat']
  omega

theorem bodyBytes_informationCode {o : AnslpObject α} {sev code : UInt8} {objType : UInt16}
    (h : o.body = .informationCode sev code objType) :
    o.bodyBytes = Words.bytes32 (informationWord sev code objType) := by
  simp only [bodyBytes, h, informationWord, Words.bytes32_word32, objectType_and_mask,
    Words.bytes16]
  rfl

omit [IpapMessage α] in
/-- The word of an information code gives its values back. -/
theorem ofWord_informationWord {sev : UInt8} (code : UInt8) (objType : UInt16)
    (hsev : sev.toNat < 16) :
    (ofWord .informationCode (informationWord sev code objType) : Body α) =
      .informationCode sev code objType := by
  have hword := toNat_informationWord code objType hsev
  have hcode := code.toNat_lt
  have hobj := objType.toNat_lt
  simp only [ofWord, Body.informationCode.injEq]
  refine ⟨?_, ?_, ?_⟩
  · apply UInt8.toNat_inj.mp
    simp only [UInt32.toNat_toUInt8, UInt32.toNat_and, UInt32.toNat_shiftRight, hword,
      UInt32.reduceToNat, Nat.reduceMod, Nat.shiftRight_eq_div_pow]
    rw [show 15 = 2 ^ 4 - 1 by decide, Words.and_mask]
    omega
  · apply UInt8.toNat_inj.mp
    simp only [UInt32.toNat_toUInt8, UInt32.toNat_and, UInt32.toNat_shiftRight, hword,
      UInt32.reduceToNat, Nat.reduceMod, Nat.shiftRight_eq_div_pow]
    rw [show 255 = 2 ^ 8 - 1 by decide, Words.and_mask]
    omega
  · apply UInt16.toNat_inj.mp
    simp only [UInt32.toNat_toUInt16, UInt32.toNat_and, hword, UInt32.reduceToNat]
    rw [show 65535 = 2 ^ 16 - 1 by decide, Words.and_mask]
    omega

/-- The low half of the word is the object type. -/
theorem informationWord_and_mask {sev : UInt8} (code : UInt8) (objType : UInt16)
    (hsev : sev.toNat < 16) :
    (informationWord sev code objType &&& 0xFFFF).toNat = objType.toNat := by
  have hobj := objType.toNat_lt
  rw [UInt32.toNat_and, toNat_informationWord code objType hsev,
    show (0xFFFF : UInt32).toNat = 2 ^ 16 - 1 by decide, Words.and_mask]
  omega

/-- The body of an object of a fixed type is a word, and reading the word gives the
body back if the object passes its check. -/
theorem exists_bodyBytes {t : FixedType} {o : AnslpObject α} (ho : o.IsFixed t)
    (hcheck : o.check = true) :
    ∃ value, o.bodyBytes = Words.bytes32 value ∧ ofWord t value = o.body ∧
      (t = .informationCode → value &&& 0xFFFF = 0) := by
  have hfixed := ho.fixedType
  cases hb : o.body with
  | informationCode sev code objType =>
      rw [hb] at hfixed
      obtain rfl : FixedType.informationCode = t := by simpa [Body.fixedType?] using hfixed
      have hbody : o.checkBody = true := by
        unfold AnslpObject.check at hcheck
        split at hcheck
        · cases hcheck
        · exact hcheck
      have hmask : sev &&& 0xF0 = 0 ∧ objType &&& 0xFFFF = 0 := by
        simpa [checkBody, hb] using hbody
      have hsev := (severity_and_eq_zero_iff sev).mp hmask.1
      have hzero : objType = 0 := by rw [← objectType_and_mask objType, hmask.2]
      refine ⟨_, bodyBytes_informationCode hb, ofWord_informationWord code objType hsev, ?_⟩
      intro _
      apply UInt32.toNat_inj.mp
      rw [informationWord_and_mask code objType hsev, hzero]
      rfl
  | selectionAuctioningEntities value =>
      rw [hb] at hfixed
      obtain rfl : FixedType.selectionAuctioningEntities = t := by
        simpa [Body.fixedType?] using hfixed
      exact ⟨value, by simp [bodyBytes, hb], rfl, by simp⟩
  | messageHopCount value =>
      rw [hb] at hfixed
      obtain rfl : FixedType.messageHopCount = t := by simpa [Body.fixedType?] using hfixed
      exact ⟨value, by simp [bodyBytes, hb], rfl, by simp⟩
  | msgSequenceNumber value =>
      rw [hb] at hfixed
      obtain rfl : FixedType.msgSequenceNumber = t := by simpa [Body.fixedType?] using hfixed
      exact ⟨value, by simp [bodyBytes, hb], rfl, by simp⟩
  | sessionLifetime slt =>
      rw [hb] at hfixed
      obtain rfl : FixedType.sessionLifetime = t := by simpa [Body.fixedType?] using hfixed
      exact ⟨slt, by simp [bodyBytes, hb], rfl, by simp⟩
  | ipapMessage message =>
      rw [hb] at hfixed
      simp [Body.fixedType?] at hfixed

/-- An object of a fixed type or an IPAP message object, of a size that a header can
declare. -/
structure Readable (o : AnslpObject α) : Prop where
  registered : (∃ t, o.IsFixed t) ∨ o.IsIpap
  checked : o.check = true
  exported : o.Exported
  size_le : o.getSerializedSize ≤ 4 + 4 * 4095

omit [IpapMessage α] in
theorem objectType_lt {o : AnslpObject α} (h : (∃ t, o.IsFixed t) ∨ o.IsIpap) :
    o.objectType.toNat < 2 ^ 12 := by
  rcases h with ⟨t, ht⟩ | h
  · rw [ht.objectType]
    cases t <;> decide
  · rw [h.objectType]
    decide

/-- The header an object is written with. -/
def objectHeader (o : AnslpObject α) : UInt32 :=
  o.header (UInt16.ofNat (o.getSerializedSize - headerLength))

theorem encoding_eq (o : AnslpObject α) :
    o.encoding = Words.bytes32 (objectHeader o) ++ o.bodyBytes :=
  rfl

/-- A header that fits declares the length of the body. -/
theorem extractBodyLength_of_readable [LawfulIpapMessage α] {o : AnslpObject α} (h : Readable o)
    (hmod : o.bodyBytes.length % 4 = 0) :
    extractBodyLength (objectHeader o) = o.bodyBytes.length := by
  have htype := objectType_lt h.registered
  have hsize := length_encoding h.exported
  have hle := h.size_le
  rw [encoding_eq, List.length_append, Words.length_bytes32] at hsize
  have hlen : (UInt16.ofNat (o.getSerializedSize - headerLength)).toNat =
      o.bodyBytes.length := by
    rw [UInt16.toNat_ofNat', Nat.mod_eq_of_lt (by omega)]
    simp only [headerLength]
    omega
  rw [objectHeader, extractBodyLength_header htype, hlen]
  · rw [hlen]
    exact hmod
  · rw [hlen]
    omega

/-- The header gives a one word object back with its word. -/
theorem ofHeaderWord_objectHeader {t : FixedType} {o : AnslpObject α} (ho : o.IsFixed t)
    {value : UInt32} (hword : ofWord t value = o.body) :
    ofHeaderWord t (objectHeader o) value = o := by
  have htype := objectType_lt (Or.inl ⟨t, ho⟩)
  have h₁ := extractObjectType_header (UInt16.ofNat (o.getSerializedSize - headerLength)) htype
  have h₂ := extractTreatment_header (UInt16.ofNat (o.getSerializedSize - headerLength)) htype
  cases o
  simp only [ofHeaderWord, objectHeader, AnslpObject.mk.injEq]
  exact ⟨h₁, h₂, ho.isUnique.symm, hword⟩

/-- The header gives an IPAP message object back with its message. -/
theorem ofHeaderIpap_objectHeader {o : AnslpObject α} (ho : o.IsIpap) {message : α}
    (hmessage : o.body = .ipapMessage message) :
    ofHeaderIpap (objectHeader o) message = o := by
  have htype := objectType_lt (Or.inr ho)
  have h₁ := extractObjectType_header (UInt16.ofNat (o.getSerializedSize - headerLength)) htype
  have h₂ := extractTreatment_header (UInt16.ofNat (o.getSerializedSize - headerLength)) htype
  cases o
  simp only [ofHeaderIpap, objectHeader, AnslpObject.mk.injEq]
  exact ⟨h₁, h₂, ho.isUnique.symm, hmessage.symm⟩

/-- An encoded object is read as that object. -/
theorem taken_encoding [LawfulIpapMessage α] {o : AnslpObject α} (h : Readable o)
    (tl : List UInt8) : Taken (objectHeader o) (o.bodyBytes ++ tl) o tl := by
  have htype := objectType_lt h.registered
  rcases h.registered with ⟨t, ht⟩ | hipap
  · rcases exists_bodyBytes ht h.checked with ⟨value, hbytes, hword, hcode⟩
    have hbody := extractBodyLength_of_readable h (by rw [hbytes, Words.length_bytes32])
    have htaken : Taken (objectHeader o) (o.bodyBytes ++ tl)
        (ofHeaderWord t (objectHeader o) value : AnslpObject α) tl :=
      .word t value tl ((extractObjectType_header _ htype).trans ht.objectType)
        (by rw [hbytes]) (by rw [hbody]; simp) hcode
    rwa [ofHeaderWord_objectHeader ht hword] at htaken
  · rcases hipap.message with ⟨message, hmessage⟩
    have hexp := h.exported
    simp only [Exported, hmessage, Option.isSome_iff_exists] at hexp
    rcases hexp with ⟨bytes, hbytes⟩
    have hoff := LawfulIpapMessage.offset_eq hbytes
    have hbb : o.bodyBytes = bytes ++ List.replicate (numPadding bytes.length) 0 := by
      simp [bodyBytes, hmessage, hbytes, hoff]
    have hne : bytes ≠ [] := by
      rintro rfl
      have hc := h.checked
      simp [AnslpObject.check, checkBody, hmessage, hoff] at hc
    have hbody : extractBodyLength (objectHeader o) = o.bodyBytes.length := by
      apply extractBodyLength_of_readable h
      rw [hbb, List.length_append, List.length_replicate]
      exact numPadding_add_mod _
    have htake : (o.bodyBytes ++ tl).take (extractBodyLength (objectHeader o)) = o.bodyBytes := by
      rw [hbody, List.take_left]
    have hdrop : (o.bodyBytes ++ tl).drop (extractBodyLength (objectHeader o)) = tl := by
      rw [hbody, List.drop_left]
    have htaken : Taken (objectHeader o) (o.bodyBytes ++ tl) (ofHeaderIpap (objectHeader o) message)
        ((o.bodyBytes ++ tl).drop (extractBodyLength (objectHeader o))) :=
      .ipap message bytes.length ((extractObjectType_header _ htype).trans hipap.objectType)
        (by rw [hbody]; simp)
        (by rw [htake, hbb, LawfulIpapMessage.import_export _ hbytes hne (numPadding_lt _)])
        (by rw [htake, hbb, List.drop_left]; simp)
    rwa [ofHeaderIpap_objectHeader hipap hmessage, hdrop] at htaken

/-! ## Lists of objects -/

omit [IpapMessage α] in
theorem fixed_add {v : MsgView α} {o : AnslpObject α} {t : FixedType}
    (h : ¬ o.IsFixed t) (ho : (∃ t, o.IsFixed t) ∨ o.IsIpap) : (v.add o).fixed t = v.fixed t := by
  rcases ho with ⟨u, hu⟩ | hipap
  · have hne : t ≠ u := by
      rintro rfl
      exact h hu
    simp [MsgView.add, hu.fixedType, MsgView.setFixed, Function.update_of_ne hne]
  · obtain ⟨message, hmessage⟩ := hipap.message
    simp [MsgView.add, hmessage, Body.fixedType?, MsgView.addIpap]

omit [IpapMessage α] in
theorem length_ipaps_add_le (v : MsgView α) (o : AnslpObject α) :
    (v.add o).ipaps.length ≤ v.ipaps.length + 1 := by
  unfold MsgView.add
  split
  · simp [MsgView.setFixed]
  · simp [MsgView.addIpap]

/-- Reading a list of encoded objects stores them one after the other. -/
theorem deserializeObjects_encodings [LawfulIpapMessage α] {rounds : Nat}
    {os : List (AnslpObject α)} {a : AnslpMsg α} {v : MsgView α} {m : NetMsg}
    (err : IEErrorList) (n : Nat) (hview : a.HasView v) (hos : ∀ o ∈ os, Readable o)
    (hfresh : ∀ o ∈ os, ∀ t, o.IsFixed t → v.fixed t = none)
    (hdistinct : os.Pairwise fun o o' => ∀ t, o.IsFixed t → ¬ o'.IsFixed t)
    (hroom : v.ipaps.length + os.length ≤ maxIpaps)
    (hleft : m.left = os.flatMap AnslpObject.encoding) (hrounds : m.bytesLeft ≤ rounds) :
    ∃ m', AnslpMsg.deserializeObjects false rounds a m err n =
        .ok (some (os.foldl AnslpMsg.setObject a, m', n + m.bytesLeft), err) ∧
      m'.left = [] ∧
      (os.foldl AnslpMsg.setObject a).HasView (os.foldl MsgView.add v) := by
  induction os generalizing rounds a v m n with
  | nil =>
      have hend : m.bytesLeft = 0 := by simp [NetMsg.bytesLeft, hleft]
      refine ⟨m, ?_, by simpa using hleft, hview⟩
      cases rounds <;> simp [AnslpMsg.deserializeObjects, hend]
  | cons o os ih =>
      obtain ⟨hdist, hdists⟩ := List.pairwise_cons.mp hdistinct
      have hread := hos o List.mem_cons_self
      have hreg := hread.registered
      have hleft' : m.left = Words.bytes32 (objectHeader o) ++
          (o.bodyBytes ++ os.flatMap AnslpObject.encoding) := by
        rw [hleft, List.flatMap_cons, encoding_eq, List.append_assoc]
      obtain ⟨m', k, hobj, hrest, hlen, hk⟩ :=
        deserializeObject_of_taken err hleft' (taken_encoding hread _)
      obtain ⟨rounds, rfl⟩ : ∃ r, rounds = r + 1 := by
        refine ⟨rounds - 1, ?_⟩
        simp only [NetMsg.bytesLeft] at hrounds
        omega
      have hend : m.bytesLeft ≠ 0 := by
        simp only [NetMsg.bytesLeft]
        omega
      have hdup : (o.isUnique && (a.objects.get ⟨o.objectType.toUInt32, 1⟩).isSome) = false := by
        rcases hreg with ⟨t, ht⟩ | hipap
        · have hget := hview.store.get_fixed t
          rw [hfresh o List.mem_cons_self t ht, FixedType.key] at hget
          simp [ht.objectType, hget]
        · simp [hipap.isUnique]
      have hlength : (v.add o).ipaps.length + os.length ≤ maxIpaps := by
        have := length_ipaps_add_le v o
        simp only [List.length_cons] at hroom
        omega
      have hview' := hview.setObject hreg (by simp only [List.length_cons] at hroom; omega)
      have hfresh' : ∀ o' ∈ os, ∀ t, o'.IsFixed t → (v.add o).fixed t = none := by
        intro o' ho' t ht
        rw [fixed_add (fun h => hdist o' ho' t h ht) hreg]
        exact hfresh o' (List.mem_cons_of_mem _ ho') t ht
      have hbytes : k + m'.bytesLeft = m.bytesLeft := by
        simpa [NetMsg.bytesLeft, hrest] using hlen
      have hrounds' : m'.bytesLeft ≤ rounds := by omega
      obtain ⟨m'', hloop, hnil, hview''⟩ := ih (n + k) hview'
        (fun o' ho' => hos o' (List.mem_cons_of_mem _ ho')) hfresh' hdists hlength hrest hrounds'
      refine ⟨m'', ?_, hnil, hview''⟩
      simp only [AnslpMsg.deserializeObjects, if_neg hend, hobj, hdup, Bool.false_eq_true,
        if_false, hloop, List.foldl_cons]
      rw [← hbytes, Nat.add_assoc]

/-! ## Messages -/

/-- What is left of a layout when a message of the given class is written. -/
def written (kind : MsgKind) (v : MsgView α) : MsgView α where
  fixed t := if t ∈ AnslpMsg.fixedLayout kind then v.fixed t else none
  ipaps := if AnslpMsg.writesIpaps kind then v.ipaps else []

/-- The objects a message of the given class writes, in order. -/
def writtenObjects (kind : MsgKind) (v : MsgView α) : List (AnslpObject α) :=
  (AnslpMsg.fixedLayout kind).filterMap v.fixed ++
    if AnslpMsg.writesIpaps kind then v.ipaps else []

omit [IpapMessage α] in
/-- Nothing is left out of a layout that only has what its class writes. -/
theorem written_eq_self {kind : MsgKind} {v : MsgView α}
    (hfixed : ∀ t, (v.fixed t).isSome = true → t ∈ AnslpMsg.fixedLayout kind)
    (hipaps : AnslpMsg.writesIpaps kind = false → v.ipaps = []) : written kind v = v := by
  obtain ⟨fixed, ipaps⟩ := v
  simp only [written, MsgView.mk.injEq]
  constructor
  · funext t
    cases hf : fixed t with
    | none => simp
    | some o => rw [if_pos (hfixed t (by simp [hf]))]
  · cases hw : AnslpMsg.writesIpaps kind with
    | true => rfl
    | false => simpa using (hipaps hw).symm

omit [IpapMessage α] in
/-- Adding the objects of some slots fills these slots. -/
theorem foldl_add_fixed {v : MsgView α} (hv : ∀ t o, v.fixed t = some o → o.IsFixed t)
    (ts : List FixedType) (u : MsgView α) :
    (ts.filterMap v.fixed).foldl MsgView.add u =
      ⟨fun t => if t ∈ ts ∧ (v.fixed t).isSome then v.fixed t else u.fixed t, u.ipaps⟩ := by
  induction ts generalizing u with
  | nil => simp
  | cons t ts ih =>
      cases hf : v.fixed t with
      | none =>
          rw [List.filterMap_cons_none hf, ih]
          simp only [MsgView.mk.injEq, and_true]
          funext w
          by_cases hw : w = t
          · subst hw
            simp [hf]
          · simp [hw]
      | some o =>
          rw [List.filterMap_cons_some hf, List.foldl_cons, ih]
          have hadd : u.add o = u.setFixed t o := by
            simp [MsgView.add, (hv t o hf).fixedType]
          simp only [hadd, MsgView.setFixed, MsgView.mk.injEq, and_true]
          funext w
          by_cases hw : w = t
          · subst hw
            simp [hf]
          · simp [hw]

omit [IpapMessage α] in
theorem foldl_add_ipaps {os : List (AnslpObject α)} (hos : ∀ o ∈ os, o.IsIpap)
    (u : MsgView α) : os.foldl MsgView.add u = ⟨u.fixed, u.ipaps ++ os⟩ := by
  induction os generalizing u with
  | nil => simp
  | cons o os ih =>
      obtain ⟨message, hmessage⟩ := (hos o List.mem_cons_self).message
      rw [List.foldl_cons, ih fun o' ho' => hos o' (List.mem_cons_of_mem _ ho')]
      simp [MsgView.add, hmessage, Body.fixedType?, MsgView.addIpap]

omit [IpapMessage α] in
theorem foldl_add_writtenObjects {kind : MsgKind} {v : MsgView α}
    (hfixed : ∀ t o, v.fixed t = some o → o.IsFixed t) (hipaps : ∀ o ∈ v.ipaps, o.IsIpap) :
    (writtenObjects kind v).foldl MsgView.add MsgView.empty = written kind v := by
  have htail : ∀ o ∈ (if AnslpMsg.writesIpaps kind then v.ipaps else []), o.IsIpap := by
    intro o ho
    split at ho
    · exact hipaps o ho
    · simp at ho
  rw [writtenObjects, List.foldl_append, foldl_add_fixed hfixed, foldl_add_ipaps htail]
  simp only [written, MsgView.empty, List.nil_append, MsgView.mk.injEq, and_true]
  funext t
  cases hf : v.fixed t <;> simp

omit [IpapMessage α] in
/-- Going through the indices of a list is going through the list. -/
theorem flatMap_range_getElem? {β : Type} (f : AnslpObject α → List β)
    (os : List (AnslpObject α)) :
    ((List.range os.length).flatMap fun i => ((os[i]?).map f).getD []) = os.flatMap f := by
  induction os with
  | nil => rfl
  | cons o os ih =>
      rw [List.length_cons, List.range_succ_eq_map, List.flatMap_cons, List.flatMap_map,
        List.flatMap_cons]
      simpa using ih

/-- The encodings a message writes are those of its written objects. -/
theorem encodings_serializedKeys {a : AnslpMsg α} {v : MsgView α} (h : a.HasView v) :
    a.encodings a.serializedKeys =
      (writtenObjects a.kind v).flatMap AnslpObject.encoding := by
  have hfixed : ∀ ts : List FixedType, a.encodings (ts.map FixedType.key) =
      (ts.filterMap v.fixed).flatMap AnslpObject.encoding := by
    intro ts
    induction ts with
    | nil => rfl
    | cons t ts ih =>
        have hcons : a.encodings ((t :: ts).map FixedType.key) =
            ((v.fixed t).map AnslpObject.encoding).getD [] ++
              a.encodings (ts.map FixedType.key) := by
          simp [AnslpMsg.encodings, h.store.get_fixed]
        rw [hcons, ih]
        cases hf : v.fixed t with
        | none => simp [hf]
        | some o => simp [hf]
  have hipaps : a.encodings ((List.range v.ipaps.length).map fun i => ipapKey (i + 1)) =
      v.ipaps.flatMap AnslpObject.encoding := by
    have hget : ∀ i ∈ List.range v.ipaps.length,
        ((a.objects.get (ipapKey (i + 1))).map AnslpObject.encoding).getD [] =
          ((v.ipaps[i]?).map AnslpObject.encoding).getD [] := by
      intro i hi
      have hlt := List.mem_range.mp hi
      rw [h.store.get_ipap hlt, List.getElem?_eq_getElem hlt]
    rw [AnslpMsg.encodings, List.flatMap_map, List.flatMap_congr hget,
      flatMap_range_getElem?]
  have happend : ∀ ks ks' : List IeObjectKey,
      a.encodings (ks ++ ks') = a.encodings ks ++ a.encodings ks' := by
    intro ks ks'
    simp [AnslpMsg.encodings]
  have hmax := h.store.length_le
  simp only [maxIpaps] at hmax
  have hcount : (UInt32.ofNat v.ipaps.length).toNat = v.ipaps.length := by
    rw [UInt32.toNat_ofNat', Nat.mod_eq_of_lt (by omega)]
  rw [AnslpMsg.serializedKeys, writtenObjects, happend, hfixed, List.flatMap_append,
    h.store.getMaxSequence, hcount]
  congr 1
  split
  · exact hipaps
  · rfl

omit [IpapMessage α] in
theorem pairwise_writtenObjects {kind : MsgKind} {v : MsgView α}
    (hfixed : ∀ t o, v.fixed t = some o → o.IsFixed t) (hipaps : ∀ o ∈ v.ipaps, o.IsIpap) :
    (writtenObjects kind v).Pairwise fun o o' => ∀ t, o.IsFixed t → ¬ o'.IsFixed t := by
  have hnot : ∀ {o : AnslpObject α} {t : FixedType}, o.IsIpap → ¬ o.IsFixed t := by
    intro o t hi hf
    exact absurd (hi.isUnique.symm.trans hf.isUnique) (by decide)
  have htail : ∀ o ∈ (if AnslpMsg.writesIpaps kind then v.ipaps else []), o.IsIpap := by
    intro o ho
    split at ho
    · exact hipaps o ho
    · simp at ho
  refine List.pairwise_append.mpr ⟨?_, ?_, ?_⟩
  · refine List.Pairwise.filterMap v.fixed ?_
      (show (AnslpMsg.fixedLayout kind).Pairwise (· ≠ ·) by cases kind <;> decide)
    intro t u htu o ho o' ho' w hw hw'
    have h₁ := (hfixed t o ho).fixedType
    have h₂ := (hfixed u o' ho').fixedType
    rw [hw.fixedType] at h₁
    rw [hw'.fixedType] at h₂
    cases h₁
    cases h₂
    exact htu rfl
  · exact List.Pairwise.imp_of_mem (R := fun _ _ => True)
      (fun {o o'} ho _ _ t ht => absurd ht (hnot (htail o ho)))
      (List.pairwise_of_forall fun _ _ => trivial)
  · intro o _ o' ho' t _ ht'
    exact hnot (htail o' ho') ht'

/-- The message class in a written header is that of the message. -/
theorem ofMsgType?_header (kind : MsgKind) :
    MsgKind.ofMsgType? (AnslpMsg.extractMsgType (AnslpMsg.header kind)) = some kind := by
  cases kind <;> decide

section Serialized

variable {a : AnslpMsg α} {v : MsgView α}

/-- What serializing asks of every key it goes through. -/
def KeysWritable (a : AnslpMsg α) : Prop :=
  ∀ key ∈ a.serializedKeys, ∃ o, a.objects.get key = some o ∧ o.check = true ∧ o.Exported

theorem KeysWritable.slot (h : KeysWritable a) (hview : a.HasView v) {t : FixedType}
    (ht : t ∈ AnslpMsg.fixedLayout a.kind) :
    ∃ o, v.fixed t = some o ∧ o.check = true ∧ o.Exported := by
  obtain ⟨o, ho, hc, he⟩ := h t.key (List.mem_append_left _ (List.mem_map_of_mem ht))
  rw [hview.store.get_fixed] at ho
  exact ⟨o, ho, hc, he⟩

theorem KeysWritable.ipap (h : KeysWritable a) (hview : a.HasView v)
    (hwrites : AnslpMsg.writesIpaps a.kind = true) {o : AnslpObject α} (ho : o ∈ v.ipaps) :
    o.check = true ∧ o.Exported := by
  obtain ⟨i, hi, rfl⟩ := List.getElem_of_mem ho
  have hmax := hview.store.length_le
  simp only [maxIpaps] at hmax
  have hmem : ipapKey (i + 1) ∈ a.serializedKeys := by
    refine List.mem_append_right _ ?_
    rw [if_pos hwrites, hview.store.getMaxSequence, UInt32.toNat_ofNat',
      Nat.mod_eq_of_lt (by omega)]
    exact List.mem_map.mpr ⟨i, List.mem_range.mpr hi, rfl⟩
  obtain ⟨o, ho', hc, he⟩ := h _ hmem
  rw [hview.store.get_ipap hi, Option.some.injEq] at ho'
  exact ho' ▸ ⟨hc, he⟩

/-- The written objects can be read back. -/
theorem KeysWritable.readable [LawfulIpapMessage α] (h : KeysWritable a) (hview : a.HasView v)
    (hsize : ∀ o ∈ v.ipaps, o.getSerializedSize ≤ 4 + 4 * 4095) :
    ∀ o ∈ writtenObjects a.kind v, Readable o := by
  intro o ho
  rcases List.mem_append.mp ho with ho | ho
  · obtain ⟨t, ht, hto⟩ := List.mem_filterMap.mp ho
    obtain ⟨o', ho', hc, he⟩ := h.slot hview ht
    obtain rfl : o' = o := Option.some.inj (ho'.symm.trans hto)
    have hfix := hview.fixed t o' ho'
    obtain ⟨value, hbytes, -⟩ := exists_bodyBytes hfix hc
    have hlen := length_encoding he
    rw [encoding_eq, hbytes] at hlen
    simp only [List.length_append, Words.length_bytes32] at hlen
    exact ⟨Or.inl ⟨t, hfix⟩, hc, he, by omega⟩
  · split at ho
    · rename_i hwrites
      obtain ⟨hc, he⟩ := h.ipap hview hwrites ho
      exact ⟨Or.inr (hview.ipaps o ho), hc, he, hsize o ho⟩
    · simp at ho

theorem four_mul_length_le (os : List (AnslpObject α)) :
    4 * os.length ≤ (os.flatMap AnslpObject.encoding).length := by
  induction os with
  | nil => simp
  | cons o os ih =>
      have := four_le_length_encoding o
      simp only [List.length_cons, List.flatMap_cons, List.length_append]
      omega

omit [IpapMessage α] in
theorem kind_foldl_setObject (os : List (AnslpObject α)) (a : AnslpMsg α) :
    (os.foldl AnslpMsg.setObject a).kind = a.kind := by
  induction os generalizing a with
  | nil => rfl
  | cons o os ih => rw [List.foldl_cons, ih, AnslpMsg.kind_setObject]

omit [IpapMessage α] in
theorem getNumObjects_ne_zero (hview : a.HasView v) {t : FixedType} {o : AnslpObject α}
    (h : v.fixed t = some o) : a.getNumObjects ≠ 0 := by
  have hmem : (t.key, o) ∈ a.objects.entries :=
    hview.store.mem_entries.mpr (Or.inl ⟨t, h, rfl⟩)
  intro h0
  rw [List.length_eq_zero_iff.mp (h0 : a.objects.entries.length = 0)] at hmem
  simp at hmem

/-- Reading a written message gives a message of its class with the objects that were
written. -/
theorem deserialize_written [LawfulIpapMessage α] {m m' : NetMsg} {n : Nat}
    (err : IEErrorList) (hview : a.HasView v) (hser : a.serialize m = .ok (m', n))
    (hsize : ∀ o ∈ v.ipaps, o.getSerializedSize ≤ 4 + 4 * 4095) :
    ∃ a' m'', IEManager.deserialize (m'.writtenFrom m.pos) err false =
        .ok (some (a', m'', n), err) ∧
      m''.left = [] ∧ a'.kind = a.kind ∧ a'.HasView (written a.kind v) := by
  obtain ⟨_, hkeys, hwrite, hn⟩ := AnslpMsg.serialize_eq_ok_iff.mp hser
  have hkeys : KeysWritable a := hkeys
  rw [encodings_serializedKeys hview] at hwrite hn
  have hleft := NetMsg.left_writtenFrom hwrite
  have hadv := NetMsg.left_advance_four hleft
  have hcount : (writtenObjects a.kind v).length ≤ maxIpaps := by
    have hlt := (m'.writtenFrom m.pos).bytesLeft_lt
    have hle := four_mul_length_le (writtenObjects a.kind v)
    simp only [NetMsg.bytesLeft, hleft, List.length_append, Words.length_bytes32] at hlt
    simp only [maxIpaps]
    omega
  obtain ⟨m'', hloop, hnil, hview'⟩ := deserializeObjects_encodings err 4
    (AnslpMsg.hasView_new a.kind) (hkeys.readable hview hsize) (fun _ _ _ _ => rfl)
    (pairwise_writtenObjects hview.fixed hview.ipaps) (by simpa [MsgView.empty] using hcount)
    hadv le_rfl
  rw [foldl_add_writtenObjects hview.fixed hview.ipaps] at hview'
  -- the message is not empty: every class writes at least one slot
  have hnum : AnslpMsg.getNumObjects
      ((writtenObjects a.kind v).foldl AnslpMsg.setObject (AnslpMsg.new a.kind)) ≠ 0 := by
    obtain ⟨t, ht⟩ : ∃ t, t ∈ AnslpMsg.fixedLayout a.kind := by
      cases a.kind <;> exact ⟨_, List.mem_cons_self⟩
    obtain ⟨o, ho, -⟩ := hkeys.slot hview ht
    exact getNumObjects_ne_zero hview' (t := t) (o := o) (by simp [written, ht, ho])
  refine ⟨(writtenObjects a.kind v).foldl AnslpMsg.setObject (AnslpMsg.new a.kind), m'', ?_,
    hnil, kind_foldl_setObject _ _, hview'⟩
  rw [deserialize_eq hleft (ofMsgType?_header a.kind), hloop]
  simp only [if_neg hnum]
  rw [hn, show NetMsg.bytesLeft ((m'.writtenFrom m.pos).advance 4) =
    ((writtenObjects a.kind v).flatMap AnslpObject.encoding).length by
      simp only [NetMsg.bytesLeft, hadv]]

end Serialized

omit [IpapMessage α] in
/-- A message is equal to itself. -/
theorem equals_self [DecidableEq α] (a : AnslpMsg α) : a.equals a = true := by
  have hall : ∀ e ∈ a.objects.entries, a.objects.get e.1 = some e.2 := fun e he =>
    OrderedMap.find?_of_mem he rfl
  simp only [AnslpMsg.equals, IeStore.equals, beq_self_eq_true, Bool.true_and,
    List.all_eq_true]
  intro e he
  simp [hall e he, AnslpObject.equals]

/-! ## Messages built with setters -/

/-- A call of a public setter of a message. -/
inductive SetterCall (α : Type)
  | sessionLifetime (milliseconds : UInt32)
  | msgSequenceNumber (msn : UInt32)
  | selectionAuctioningEntities (value : UInt32)
  | messageHopCount (value : UInt32)
  | informationCode (severity responseCode : UInt8) (objectType : UInt16)
  | mspecObject (o : MspecObject α)

namespace SetterCall

/-- The setters each message class has. -/
def isPublic : MsgKind → SetterCall α → Bool
  | .create, .sessionLifetime _ | .create, .msgSequenceNumber _
  | .create, .selectionAuctioningEntities _ | .create, .messageHopCount _
  | .create, .mspecObject _ => true
  | .response, .sessionLifetime _ | .response, .msgSequenceNumber _
  | .response, .informationCode .. | .response, .mspecObject _ => true
  | .notify, .informationCode .. => true
  | .refresh, .sessionLifetime _ | .refresh, .msgSequenceNumber _ => true
  | .bidding, .msgSequenceNumber _ | .bidding, .mspecObject _ => true
  | _, _ => false

/-- Carry out a call. -/
def apply (a : AnslpMsg α) : SetterCall α → AnslpMsg α
  | sessionLifetime ms => a.setSessionLifetime ms
  | msgSequenceNumber msn => a.setMsgSequenceNumber msn
  | selectionAuctioningEntities value => a.setSelectionAuctioningEntities value
  | messageHopCount value => a.setMessageHopCount value
  | informationCode severity code objectType => a.setInformationCode severity code objectType
  | mspecObject o => a.setMspecObject o

/-- The object a call stores. -/
def object : SetterCall α → AnslpObject α
  | sessionLifetime ms => AnslpMsg.fixedObject .sessionLifetime (.sessionLifetime ms)
  | msgSequenceNumber msn => AnslpMsg.fixedObject .msgSequenceNumber (.msgSequenceNumber msn)
  | selectionAuctioningEntities value =>
      AnslpMsg.fixedObject .selectionAuctioningEntities (.selectionAuctioningEntities value)
  | messageHopCount value => AnslpMsg.fixedObject .messageHopCount (.messageHopCount value)
  | informationCode severity code objectType =>
      AnslpMsg.fixedObject .informationCode (.informationCode severity code objectType)
  | mspecObject o => o.toObject

omit [IpapMessage α] in
theorem apply_eq (a : AnslpMsg α) (c : SetterCall α) : c.apply a = a.setObject c.object := by
  cases c <;> rfl

omit [IpapMessage α] in
/-- A public setter stores an object that its class writes. -/
theorem object_written {kind : MsgKind} {c : SetterCall α} (h : c.isPublic kind = true) :
    (∃ t ∈ AnslpMsg.fixedLayout kind, c.object.IsFixed t) ∨
      (c.object.IsIpap ∧ AnslpMsg.writesIpaps kind = true) := by
  cases c with
  | sessionLifetime ms =>
      refine Or.inl ⟨.sessionLifetime, ?_, rfl, rfl, rfl⟩
      cases kind <;> simp_all [isPublic, AnslpMsg.fixedLayout]
  | msgSequenceNumber msn =>
      refine Or.inl ⟨.msgSequenceNumber, ?_, rfl, rfl, rfl⟩
      cases kind <;> simp_all [isPublic, AnslpMsg.fixedLayout]
  | selectionAuctioningEntities value =>
      refine Or.inl ⟨.selectionAuctioningEntities, ?_, rfl, rfl, rfl⟩
      cases kind <;> simp_all [isPublic, AnslpMsg.fixedLayout]
  | messageHopCount value =>
      refine Or.inl ⟨.messageHopCount, ?_, rfl, rfl, rfl⟩
      cases kind <;> simp_all [isPublic, AnslpMsg.fixedLayout]
  | informationCode severity code objectType =>
      refine Or.inl ⟨.informationCode, ?_, rfl, rfl, rfl⟩
      cases kind <;> simp_all [isPublic, AnslpMsg.fixedLayout]
  | mspecObject o =>
      refine Or.inr ⟨⟨rfl, rfl, o.message, rfl⟩, ?_⟩
      cases kind <;> simp_all [isPublic, AnslpMsg.writesIpaps]

end SetterCall

/-- The message that a list of setter calls builds. -/
def build (kind : MsgKind) (calls : List (SetterCall α)) : AnslpMsg α :=
  calls.foldl SetterCall.apply (AnslpMsg.new kind)

/-- A message that only holds what its class writes, in a layout, or with more IPAP
message objects than a buffer has room for. -/
def Built (a : AnslpMsg α) : Prop :=
  (∃ v, a.HasView v ∧ (∀ t, (v.fixed t).isSome = true → t ∈ AnslpMsg.fixedLayout a.kind) ∧
      (AnslpMsg.writesIpaps a.kind = false → v.ipaps = [])) ∨
    (AnslpMsg.writesIpaps a.kind = true ∧
      maxIpaps < (a.objects.getMaxSequence ipapObjectType.toUInt32).toNat)

omit [IpapMessage α] in
/-- More than the largest number stays more. -/
theorem getMaxSequence_le_setObject (a : AnslpMsg α) (o : AnslpObject α) (id : UInt32) :
    a.objects.getMaxSequence id ≤ (a.setObject o).objects.getMaxSequence id := by
  unfold AnslpMsg.setObject
  split
  · exact IeStore.getMaxSequence_le_set _ _ _ _
  · exact IeStore.getMaxSequence_le_set _ _ _ _

omit [IpapMessage α] in
theorem Built.setObject_of_lt {a : AnslpMsg α} {o : AnslpObject α}
    (hwrites : AnslpMsg.writesIpaps a.kind = true)
    (hmax : maxIpaps < (a.objects.getMaxSequence ipapObjectType.toUInt32).toNat) :
    Built (a.setObject o) :=
  Or.inr ⟨by rw [AnslpMsg.kind_setObject]; exact hwrites,
    lt_of_lt_of_le hmax
      (UInt32.le_iff_toNat_le.mp (getMaxSequence_le_setObject a o _))⟩

omit [IpapMessage α] in
theorem Built.setObject_fixed {a : AnslpMsg α} (h : Built a) {t : FixedType}
    {o : AnslpObject α} (ho : o.IsFixed t) (ht : t ∈ AnslpMsg.fixedLayout a.kind) :
    Built (a.setObject o) := by
  rcases h with ⟨v, hview, hfixed, hipaps⟩ | ⟨hwrites, hmax⟩
  · refine Or.inl ⟨v.setFixed t o, hview.setObject_fixed ho, ?_, ?_⟩
    · intro u hu
      rw [AnslpMsg.kind_setObject]
      by_cases hut : u = t
      · exact hut ▸ ht
      · simp only [MsgView.setFixed, Function.update_of_ne hut] at hu
        exact hfixed u hu
    · rw [AnslpMsg.kind_setObject]
      exact hipaps
  · exact Built.setObject_of_lt hwrites hmax

omit [IpapMessage α] in
/-- One more IPAP message object has its place in the layout, or there are more of them
than a buffer has room for. -/
theorem hasView_setObject_ipap_or {a : AnslpMsg α} {v : MsgView α} (h : a.HasView v)
    {o : AnslpObject α} (ho : o.IsIpap) :
    (a.setObject o).HasView (v.addIpap o) ∨
      maxIpaps < ((a.setObject o).objects.getMaxSequence ipapObjectType.toUInt32).toNat := by
  by_cases hlen : v.ipaps.length < maxIpaps
  · exact Or.inl (h.setObject_ipap ho hlen)
  · have hle := h.store.length_le
    have hmem := IeStore.le_getMaxSequence (h.store.next_mem_keys o) rfl
    have hset : (a.setObject o).objects =
        a.objects.set (ipapKey (v.ipaps.length + 1)) o := by
      simp only [AnslpMsg.setObject, ho.isUnique, ho.objectType, h.store.getMaxSequence,
        AnslpMsg.nextIpapKey]
      rfl
    refine Or.inr ?_
    rw [hset]
    refine lt_of_lt_of_le ?_ (UInt32.le_iff_toNat_le.mp hmem)
    simp only [maxIpaps] at hlen hle ⊢
    simp only [ipapKey, UInt32.toNat_ofNat']
    omega

omit [IpapMessage α] in
theorem Built.setObject_ipap {a : AnslpMsg α} (h : Built a) {o : AnslpObject α}
    (ho : o.IsIpap) (hwrites : AnslpMsg.writesIpaps a.kind = true) : Built (a.setObject o) := by
  rcases h with ⟨v, hview, hfixed, hipaps⟩ | ⟨_, hmax⟩
  · rcases hasView_setObject_ipap_or hview ho with hview' | hmax
    · refine Or.inl ⟨v.addIpap o, hview', ?_, ?_⟩
      · rw [AnslpMsg.kind_setObject]
        exact hfixed
      · rw [AnslpMsg.kind_setObject, hwrites]
        intro h
        cases h
    · exact Or.inr ⟨by rw [AnslpMsg.kind_setObject]; exact hwrites, hmax⟩
  · exact Built.setObject_of_lt hwrites hmax

omit [IpapMessage α] in
/-- Messages built with the setters of their class. -/
theorem built_build {kind : MsgKind} {calls : List (SetterCall α)}
    (h : ∀ c ∈ calls, c.isPublic kind = true) :
    (build kind calls).kind = kind ∧ Built (build kind calls) := by
  have hfold : ∀ (calls : List (SetterCall α)) (a : AnslpMsg α),
      (∀ c ∈ calls, c.isPublic a.kind = true) → Built a →
        (calls.foldl SetterCall.apply a).kind = a.kind ∧
          Built (calls.foldl SetterCall.apply a) := by
    intro calls
    induction calls with
    | nil => exact fun a _ ha => ⟨rfl, ha⟩
    | cons c cs ih =>
        intro a hpublic ha
        have hbuilt : Built (a.setObject c.object) := by
          rcases SetterCall.object_written (hpublic c List.mem_cons_self) with
            ⟨t, ht, hfix⟩ | ⟨hipap, hwrites⟩
          · exact ha.setObject_fixed hfix ht
          · exact ha.setObject_ipap hipap hwrites
        have hkind : (a.setObject c.object).kind = a.kind := AnslpMsg.kind_setObject a _
        have hrest := ih (a.setObject c.object)
          (fun c' hc' => hkind.symm ▸ hpublic c' (List.mem_cons_of_mem _ hc')) hbuilt
        rw [List.foldl_cons, SetterCall.apply_eq]
        exact ⟨hrest.1.trans hkind, hrest.2⟩
  refine hfold calls (AnslpMsg.new kind) h (Or.inl ⟨_, AnslpMsg.hasView_new kind, ?_, ?_⟩)
  · simp [MsgView.empty]
  · simp [MsgView.empty]

theorem four_mul_length_keys_le {a : AnslpMsg α} {keys : List IeObjectKey}
    (h : ∀ key ∈ keys, ∃ o, a.objects.get key = some o ∧ o.check = true ∧ o.Exported) :
    4 * keys.length ≤ (a.encodings keys).length := by
  induction keys with
  | nil => simp
  | cons key keys ih =>
      obtain ⟨o, ho, -⟩ := h key List.mem_cons_self
      have hle := ih fun k hk => h k (List.mem_cons_of_mem _ hk)
      have hfour := four_le_length_encoding o
      have hcons : a.encodings (key :: keys) = o.encoding ++ a.encodings keys := by
        simp [AnslpMsg.encodings, ho]
      rw [hcons, List.length_append, List.length_cons]
      omega

/-- More IPAP message objects than a buffer has room for are not serialized. -/
theorem serialize_ne_ok_of_lt {a : AnslpMsg α}
    (hwrites : AnslpMsg.writesIpaps a.kind = true)
    (hmax : maxIpaps < (a.objects.getMaxSequence ipapObjectType.toUInt32).toNat) (m : NetMsg)
    (r : NetMsg × Nat) : a.serialize m ≠ .ok r := by
  intro hser
  obtain ⟨_, hkeys, hwrite, -⟩ := AnslpMsg.serialize_eq_ok_iff.mp hser
  have hlen := (NetMsg.of_write hwrite).1
  have hlt := m.bytesLeft_lt
  have hle := four_mul_length_keys_le hkeys
  have hcount : (a.objects.getMaxSequence ipapObjectType.toUInt32).toNat ≤
      a.serializedKeys.length := by
    simp [AnslpMsg.serializedKeys, hwrites]
  simp only [maxIpaps, List.length_append, Words.length_bytes32] at hmax hlen
  omega

/-- A message that was accepted has a layout: it has no more IPAP message objects than
fit the buffer. -/
theorem Built.of_serialize {a : AnslpMsg α} (h : Built a) {m m' : NetMsg} {n : Nat}
    (hser : a.serialize m = .ok (m', n)) :
    ∃ v, a.HasView v ∧ (∀ t, (v.fixed t).isSome = true → t ∈ AnslpMsg.fixedLayout a.kind) ∧
      (AnslpMsg.writesIpaps a.kind = false → v.ipaps = []) := by
  rcases h with h | ⟨hwrites, hmax⟩
  · exact h
  · exact absurd hser (serialize_ne_ok_of_lt hwrites hmax m _)

/-- Every message built with the setters of its class that is serialized without an error,
with IPAP message objects whose padded bodies have 4095 words at most, is read back as an
equal message of its class, from exactly the bytes written. -/
theorem build_roundTrip [LawfulIpapMessage α] [DecidableEq α] {kind : MsgKind}
    {calls : List (SetterCall α)} {m m' : NetMsg} {n : Nat} (err : IEErrorList)
    (hpublic : ∀ c ∈ calls, c.isPublic kind = true)
    (hser : (build kind calls).serialize m = .ok (m', n))
    (hsize : ∀ o ∈ (build kind calls).objects.values, o.getSerializedSize ≤ 4 + 4 * 4095) :
    ∃ a' m'', IEManager.deserialize (m'.writtenFrom m.pos) err false =
        .ok (some (a', m'', n), err) ∧
      a'.kind = kind ∧ (build kind calls).equals a' = true ∧
      a'.objects = (build kind calls).objects ∧
      m'.done.length = m.done.length + n := by
  obtain ⟨hkind, hbuilt⟩ := built_build hpublic
  obtain ⟨v, hview, hfixed, hipaps⟩ := hbuilt.of_serialize hser
  have hvalues : ∀ o ∈ v.ipaps, o ∈ (build kind calls).objects.values := by
    intro o ho
    obtain ⟨i, hi, rfl⟩ := List.getElem_of_mem ho
    exact List.mem_map.mpr ⟨(ipapKey (i + 1), v.ipaps[i]), hview.store.mem_entries.mpr
      (Or.inr ⟨i, List.getElem?_eq_getElem hi, rfl⟩), rfl⟩
  obtain ⟨a', m'', hdec, _, hkind', hview'⟩ := deserialize_written err hview hser
    fun o ho => hsize o (hvalues o ho)
  have hwritten := written_eq_self hfixed hipaps
  rw [hwritten] at hview'
  have hobjects := hview'.store.eq hview.store
  have hself : a' = build kind calls := by
    cases a'
    simp only at hobjects hkind'
    rw [hobjects, hkind']
  refine ⟨a', m'', hdec, hkind'.trans hkind, hself ▸ equals_self a', hobjects, ?_⟩
  obtain ⟨_, _, hwrite, rfl⟩ := AnslpMsg.serialize_eq_ok_iff.mp hser
  obtain ⟨_, hdone, _⟩ := NetMsg.of_write hwrite
  simp [hdone]

/-- A CREATE with all its fixed objects and two IPAP messages, one of them with padding. -/
def sampleCalls : List (SetterCall RawIpap) :=
  [.sessionLifetime 30, .msgSequenceNumber 47, .selectionAuctioningEntities 1,
    .mspecObject ⟨.mandatory, ⟨[0, 1, 0, 5, 9], by decide, by decide⟩⟩, .messageHopCount 20,
    .mspecObject ⟨.optional, ⟨[0, 1, 0, 8, 9, 8, 7, 6], by decide, by decide⟩⟩]

/-- Room for that CREATE. -/
def sampleBuffer : NetMsg :=
  .ofBytes (List.replicate 60 0) (by decide)

theorem build_roundTrip_sample :
    ∃ m' n a' m'', (build .create sampleCalls).serialize sampleBuffer = .ok (m', n) ∧
      IEManager.deserialize (m'.writtenFrom 0) [] false = .ok (some (a', m'', n), []) ∧
      (build .create sampleCalls).equals a' = true := by
  have hser : (build .create sampleCalls).serialize sampleBuffer = .ok (_, _) := rfl
  obtain ⟨a', m'', hdec, _, heq, _⟩ := build_roundTrip [] (by decide) hser (by decide)
  exact ⟨_, _, a', m'', hser, hdec, heq⟩

end RoundTrip
end Anslp
