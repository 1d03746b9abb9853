import Anslp.Msg.RoundTrip

/-!
# Object framing

An object header declares the length of its body in words.  This module compares the
declared length with what reading an object really consumes, and with what the header of
a written object declares.

Main results:

- Theorem {lit}`deserialize_fixed_some`: a one word object takes eight bytes, whatever
  its header declares.
- Theorem {lit}`deserialize_ipap_some`: an IPAP message object takes its header and the
  declared words.
- Theorem {lit}`keepsFrame_iff`: when reading an object keeps to its frame.
- Theorem {lit}`extractBodyLength_objectHeader`: the length a written header declares.
- Theorem {lit}`headerReadBack_iff`: when the header of a written object is read back.

Current gaps:

- None for the registered classes.
-/

namespace Anslp

open AnslpObject Decoding RoundTrip

namespace Framing

variable {α : Type} [IpapMessage α]

/-! ## Reading -/

/-- The body length of a header in words, as it is declared. -/
def bodyWords (headerRaw : UInt32) : Nat :=
  (headerRaw &&& 0xFFF).toNat

theorem extractBodyLength_eq (headerRaw : UInt32) :
    extractBodyLength headerRaw = 4 * bodyWords headerRaw := by
  rw [extractBodyLength, bodyWords, Nat.mul_comm]

/-- A declared body fits the class of an object: it is in the buffer, it is one word for
the classes with such a body, and for an IPAP message object it is a message with nothing
but zeros behind it. -/
def Fits (o : AnslpObject α) (words : Nat) (rest : List UInt8) : Prop :=
  4 * words ≤ rest.length ∧
    match o.body with
    | .ipapMessage _ => ∃ message n,
        IpapMessage.ipapImport (α := α) (rest.take (4 * words)) = some (message, n) ∧
          ∀ b ∈ (rest.take (4 * words)).drop n, b = 0
    | _ => words = 1

/-- Reading an object keeps to the frame its header declares. -/
structure KeepsFrame (o : AnslpObject α) (m : NetMsg) (err : IEErrorList) (skip : Bool) :
    Prop where
  consumed : ∀ headerRaw rest o' m' n err', m.left = Words.bytes32 headerRaw ++ rest →
    o.deserialize m err skip = .ok (some (o', m', n), err') →
      n = 4 + 4 * bodyWords headerRaw ∧ m' = m.advance n
  refused : ∀ headerRaw rest, m.left = Words.bytes32 headerRaw ++ rest →
    ¬ Fits o (bodyWords headerRaw) rest →
      ∀ r err', o.deserialize m err skip ≠ .ok (some r, err')

/-- The buffer is at a header and a word that a one word class reads: the declared body is
there, and an information code is about no object type, unless it may be skipped. -/
def ReadsWord (t : FixedType) (skip : Bool) (m : NetMsg) (headerRaw : UInt32) : Prop :=
  ∃ value tl, m.left = Words.bytes32 headerRaw ++ (Words.bytes32 value ++ tl) ∧
    4 * bodyWords headerRaw ≤ 4 + tl.length ∧
    (t = .informationCode → skip = true ∨ value &&& 0xFFFF = 0)

section Fixed

variable {t : FixedType} {m : NetMsg} {skip : Bool} {headerRaw : UInt32} (err : IEErrorList)

/-- An information code that fails its check is kept, with an entry, if it may be skipped. -/
theorem deserialize_informationCode_of_skip {value : UInt32} {tl : List UInt8}
    (hleft : m.left = Words.bytes32 headerRaw ++ (Words.bytes32 value ++ tl))
    (hlen : extractBodyLength headerRaw ≤ 4 + tl.length) (hne : value &&& 0xFFFF ≠ 0) :
    ∃ e, (newFixed .informationCode : AnslpObject α).deserialize m err true =
      .ok (some (ofHeaderWord .informationCode headerRaw value, m.advance 8, 8), err.put e) := by
  have hval := NetMsg.left_advance_four hleft
  have hadv := NetMsg.advance_advance m 4 4
  have hpos : (m.advance 8).pos - m.pos = 8 := by
    simp [hleft]
    omega
  have hc : ¬ (ofHeaderWord .informationCode headerRaw value : AnslpObject α).check = true := by
    rw [check_ofHeaderWord]
    simpa using hne
  simp only [deserialize, deserializeHeader_eq hleft (by simpa [Nat.add_comm] using hlen)]
  simp_all [deserializeBody, deserializeInformationCode, newFixed, NetMsg.decode32_eq hval,
    ofHeaderWord, ofWord]

/-- A one word object that is read takes eight bytes. -/
theorem deserialize_of_readsWord (h : ReadsWord t skip m headerRaw) :
    ∃ o' err', (newFixed t : AnslpObject α).deserialize m err skip =
      .ok (some (o', m.advance 8, 8), err') := by
  rcases h with ⟨value, tl, hleft, hlen, hcheck⟩
  rw [← extractBodyLength_eq] at hlen
  by_cases hword : t = .informationCode → value &&& 0xFFFF = 0
  · exact ⟨_, _, deserialize_word hleft hlen hword⟩
  · rcases Classical.not_imp.mp hword with ⟨rfl, hne⟩
    rcases hcheck rfl with rfl | hzero
    · rcases deserialize_informationCode_of_skip (α := α) err hleft hlen hne with ⟨e, he⟩
      exact ⟨_, _, he⟩
    · exact absurd hzero hne

variable {err}

/-- A one word object takes eight bytes, whatever its header declares. -/
theorem deserialize_fixed_some {rest : List UInt8} {o' : AnslpObject α} {m' : NetMsg} {n : Nat}
    {err' : IEErrorList} (hleft : m.left = Words.bytes32 headerRaw ++ rest)
    (h : (newFixed t).deserialize m err skip = .ok (some (o', m', n), err')) :
    ReadsWord t skip m headerRaw ∧ m' = m.advance 8 ∧ n = 8 := by
  by_cases hlen : rest.length < extractBodyLength headerRaw
  · rw [deserialize_of_length_lt hleft hlen] at h
    cases h
  · have hlen := Nat.not_lt.mp hlen
    by_cases hshort : rest.length < 4
    · rw [deserialize_of_short hleft hlen hshort] at h
      cases h
    · rcases exists_word (Nat.not_lt.mp hshort) with ⟨value, tl, rfl⟩
      have hlen' : extractBodyLength headerRaw ≤ 4 + tl.length := by simpa using hlen
      have hreads : ReadsWord t skip m headerRaw := by
        refine ⟨value, tl, hleft, extractBodyLength_eq headerRaw ▸ hlen', ?_⟩
        intro ht
        cases skip with
        | true => exact Or.inl rfl
        | false =>
            by_cases hzero : value &&& 0xFFFF = 0
            · exact Or.inr hzero
            · subst ht
              rcases deserialize_informationCode_of_ne (α := α) err hleft hlen' hzero with ⟨e, he⟩
              rw [he] at h
              cases h
      rcases deserialize_of_readsWord (α := α) err hreads with ⟨o'', err'', heq⟩
      rw [heq] at h
      cases h
      exact ⟨hreads, rfl, rfl⟩

end Fixed

/-- An IPAP message object takes its header and the declared words. -/
theorem deserialize_ipap_some {o : α} {m : NetMsg} {err : IEErrorList} {skip : Bool}
    {headerRaw : UInt32} {rest : List UInt8} {o' : AnslpObject α} {m' : NetMsg} {n : Nat}
    {err' : IEErrorList} (hleft : m.left = Words.bytes32 headerRaw ++ rest)
    (h : (ofIpap .mandatory o).deserialize m err skip = .ok (some (o', m', n), err')) :
    Fits (ofIpap .mandatory o) (bodyWords headerRaw) rest ∧
      n = 4 + 4 * bodyWords headerRaw ∧ m' = m.advance n := by
  by_cases hlen : rest.length < extractBodyLength headerRaw
  · rw [deserialize_of_length_lt hleft hlen] at h
    cases h
  · have hlen := Nat.not_lt.mp hlen
    have hbody : (rest.take (extractBodyLength headerRaw)).length =
        extractBodyLength headerRaw := List.length_take_of_le hlen
    have hsplit : m.left = Words.bytes32 headerRaw ++
        (rest.take (extractBodyLength headerRaw) ++
          rest.drop (extractBodyLength headerRaw)) := by
      rw [List.take_append_drop, hleft]
    rw [deserialize_ipap hsplit hbody] at h
    rw [hbody, extractBodyLength_eq] at h
    cases himport : IpapMessage.ipapImport (α := α)
        (rest.take (4 * bodyWords headerRaw)) with
    | none =>
        rw [himport] at h
        cases h
    | some r =>
        rcases r with ⟨message, k⟩
        rw [himport] at h
        by_cases hpad : ((rest.take (4 * bodyWords headerRaw)).drop k).any (· != 0) = true
        · simp only [hpad, if_true] at h
          cases h
        · simp only [hpad] at h
          cases h
          rw [extractBodyLength_eq] at hlen
          exact ⟨⟨hlen, message, k, himport, by simpa using hpad⟩, rfl, rfl⟩

/-- A registered type stands for one of the one word classes or for IPAP message objects. -/
theorem registered_cases {type : UInt16} {o : AnslpObject α}
    (h : IEManager.newObject type = some o) :
    (∃ t, o = newFixed t) ∨ o = ofIpap .mandatory IpapMessage.new := by
  unfold IEManager.newObject at h
  split at h
  · cases h
    exact Or.inl ⟨_, rfl⟩
  · split at h
    · cases h
      exact Or.inr rfl
    · cases h

omit [IpapMessage α] in
theorem fixedType?_newFixed (t : FixedType) :
    (newFixed t : AnslpObject α).body.fixedType? = some t := by
  cases t <;> rfl

/-- A one word body fits if it is declared as one word. -/
theorem fits_newFixed_iff {t : FixedType} {words : Nat} {rest : List UInt8} :
    Fits (newFixed t : AnslpObject α) words rest ↔ 4 * words ≤ rest.length ∧ words = 1 := by
  cases t <;> rfl

/-- Reading an object of a registered type keeps to the declared frame exactly when it is
an IPAP message object or no word is read behind a header that declares another length. -/
theorem keepsFrame_iff {type : UInt16} {o : AnslpObject α}
    (hnew : IEManager.newObject type = some o) (m : NetMsg) (err : IEErrorList) (skip : Bool) :
    KeepsFrame o m err skip ↔
      ∀ t headerRaw, o.body.fixedType? = some t → ReadsWord t skip m headerRaw →
        bodyWords headerRaw = 1 := by
  rcases registered_cases hnew with ⟨t, rfl⟩ | rfl
  · constructor
    · intro hkeeps u headerRaw hu hreads
      rw [fixedType?_newFixed, Option.some.injEq] at hu
      subst hu
      rcases deserialize_of_readsWord (α := α) err hreads with ⟨o', err', heq⟩
      rcases hreads with ⟨value, tl, hleft, _⟩
      have hn := (hkeeps.consumed headerRaw _ o' _ 8 err' hleft heq).1
      omega
    · intro hone
      constructor
      · intro headerRaw rest o' m' n err' hleft h
        rcases deserialize_fixed_some hleft h with ⟨hreads, rfl, rfl⟩
        have hwords := hone t headerRaw (fixedType?_newFixed t) hreads
        exact ⟨by omega, rfl⟩
      · intro headerRaw rest hleft hfits r err' h
        rcases r with ⟨o', m', n⟩
        rcases deserialize_fixed_some hleft h with ⟨hreads, rfl, rfl⟩
        have hwords := hone t headerRaw (fixedType?_newFixed t) hreads
        rcases hreads with ⟨value, tl, hleft', hlen, _⟩
        rcases bytes32_append_inj (hleft.symm.trans hleft') with ⟨_, rfl⟩
        apply hfits
        rw [fits_newFixed_iff]
        constructor
        · simpa using hlen
        · exact hwords
  · constructor
    · intro _ t headerRaw ht
      simp [ofIpap, Body.fixedType?] at ht
    · intro _
      constructor
      · intro headerRaw rest o' m' n err' hleft h
        exact (deserialize_ipap_some hleft h).2
      · intro headerRaw rest hleft hfits r err' h
        exact hfits (deserialize_ipap_some hleft h).1

/-- A session lifetime of one word, with another object behind it. -/
def framedLifetime : NetMsg :=
  .ofBytes [0, 0xF8, 0, 1, 0, 0, 0, 30, 0, 0xF7, 0, 1, 0, 0, 0, 5] (by decide)

theorem keepsFrame_framedLifetime :
    KeepsFrame (newFixed .sessionLifetime : AnslpObject RawIpap) framedLifetime [] false := by
  refine (keepsFrame_iff (newObject_fixed .sessionLifetime) framedLifetime [] false).mpr ?_
  intro t headerRaw _ hreads
  rcases hreads with ⟨value, tl, hleft, _⟩
  have hhead : framedLifetime.left = Words.bytes32 0x00F80001 ++ framedLifetime.left.drop 4 :=
    rfl
  rcases bytes32_append_inj (hhead.symm.trans hleft) with ⟨rfl, _⟩
  decide

/-- A session lifetime that declares two words. -/
def longLifetime : NetMsg :=
  .ofBytes [0, 0xF8, 0, 2, 0, 0, 0, 30, 0, 0, 0, 9] (by decide)

/-- It is accepted, and the second word is left to be read as the next header. -/
theorem longLifetime_not_keepsFrame :
    ¬ ∀ (type : UInt16) (o : AnslpObject RawIpap) (m : NetMsg) (err : IEErrorList) (skip : Bool),
      IEManager.newObject type = some o → KeepsFrame o m err skip := by
  intro hall
  have hkeeps := hall _ _ longLifetime [] false (newObject_fixed .sessionLifetime)
  have hread : (newFixed .sessionLifetime : AnslpObject RawIpap).deserialize longLifetime [] false =
      .ok (some (_, _, 8), []) := rfl
  have hn := (hkeeps.consumed 0x00F80002 (longLifetime.left.drop 4) _ _ _ _ rfl hread).1
  exact absurd hn (by decide)

/-! ## Writing -/

/-- The length of an object's body with its padding, in bytes. -/
def bodyLength (o : AnslpObject α) : Nat :=
  o.getSerializedSize - headerLength

theorem bodyLength_mod_four (o : AnslpObject α) : bodyLength o % 4 = 0 := by
  unfold bodyLength getSerializedSize
  split
  · rename_i message _
    have hmod := numPadding_add_mod (headerLength + IpapMessage.getOffset message)
    simp only [headerLength] at hmod ⊢
    omega
  · rfl

omit [IpapMessage α] in
/-- The length field of any header. -/
theorem extractBodyLength_header_mod {o : AnslpObject α} (length : UInt16)
    (htype : o.objectType.toNat < 2 ^ 12) :
    extractBodyLength (o.header length) = 4 * (length.toNat / 4 % 2 ^ 12) := by
  have hhead := toNat_header o length htype
  simp only [extractBodyLength, UInt32.toNat_and, UInt32.reduceToNat]
  rw [show 4095 = 2 ^ 12 - 1 by decide, Words.and_mask, hhead]
  omega

/-- A written header declares the body length up to multiples of `2 ^ 14`. -/
theorem extractBodyLength_objectHeader {o : AnslpObject α}
    (htype : o.objectType.toNat < 2 ^ 12) :
    extractBodyLength (objectHeader o) = bodyLength o % 2 ^ 14 := by
  have hmod := bodyLength_mod_four o
  rw [objectHeader, extractBodyLength_header_mod _ htype, UInt16.toNat_ofNat']
  simp only [bodyLength] at hmod ⊢
  omega

/-- What writing an object promises: its body is not too long for the length field, and
the header it has written gives type, treatment and body length back. -/
def HeaderReadBack (o : AnslpObject α) (m : NetMsg) : Prop :=
  ∀ m' n, o.serialize m = .ok (m', n) →
    bodyLength o < 4 * 2 ^ 12 ∧
      ∀ (reader : AnslpObject α) (err : IEErrorList),
        reader.deserializeHeader (m'.writtenFrom m.pos) err =
          (some ({ reader with treatment := o.treatment, objectType := o.objectType },
            bodyLength o, (m'.writtenFrom m.pos).advance headerLength), err)

/-- A valid object with its bytes is written wherever there is room for it. -/
theorem serialize_of_room [LawfulIpapMessage α] {o : AnslpObject α} {m : NetMsg}
    (hcheck : o.check = true) (hexp : o.Exported) (hroom : o.getSerializedSize ≤ m.bytesLeft) :
    ∃ m', o.serialize m = .ok (m', o.getSerializedSize) := by
  have hlen := length_encoding hexp
  rcases NetMsg.write_eq (m := m) o.encoding (by omega) with ⟨m', hwrite, _⟩
  exact ⟨m', serialize_eq_ok_iff.mpr ⟨hcheck, hexp, hwrite, hlen.symm⟩⟩

omit [IpapMessage α] in
theorem objectType_lt_of_check [IpapMessage α] {o : AnslpObject α} (h : o.check = true) :
    o.objectType.toNat < 2 ^ 12 := by
  unfold AnslpObject.check at h
  split at h
  · cases h
  · rename_i hmask
    exact (and_mask_eq_zero_iff _).mp (not_not.mp hmask)

/-- The header of a written object is read back exactly when the body is not too long for
the length field. -/
theorem headerReadBack_iff [LawfulIpapMessage α] (o : AnslpObject α) (m : NetMsg) :
    HeaderReadBack o m ↔
      (o.check = true → o.Exported → o.getSerializedSize ≤ m.bytesLeft →
        bodyLength o < 4 * 2 ^ 12) := by
  constructor
  · intro h hcheck hexp hroom
    rcases serialize_of_room hcheck hexp hroom with ⟨m', hser⟩
    exact (h m' _ hser).1
  · intro h m' n hser
    rcases serialize_eq_ok_iff.mp hser with ⟨hcheck, hexp, hwrite, rfl⟩
    have hlen := length_encoding hexp
    have hroom := (NetMsg.of_write hwrite).1
    have hlt := h hcheck hexp (by omega)
    have htype := objectType_lt_of_check hcheck
    have hleft := NetMsg.left_writtenFrom hwrite
    have hbody : extractBodyLength (objectHeader o) = bodyLength o := by
      rw [extractBodyLength_objectHeader htype]
      omega
    have hrest : o.bodyBytes.length = bodyLength o := by
      rw [encoding_eq, List.length_append, Words.length_bytes32] at hlen
      simp only [bodyLength, headerLength]
      omega
    refine ⟨hlt, ?_⟩
    intro reader err
    rw [deserializeHeader_eq hleft (by rw [← objectHeader, hbody, hrest])]
    rw [← objectHeader, hbody]
    simp only [objectHeader, extractTreatment_header _ htype, extractObjectType_header _ htype,
      headerLength]

/-- An IPAP message of the given length, with nothing in it. -/
def blankMessage (hi lo : UInt8) (n : Nat) (h : hi.toNat * 256 + lo.toNat = n + 4) : RawIpap :=
  ⟨[0, 1, hi, lo] ++ List.replicate n 0, by simp, by simp [declaredLength, h]⟩

theorem getOffset_blankMessage {hi lo : UInt8} {n : Nat} (h : hi.toNat * 256 + lo.toNat = n + 4) :
    IpapMessage.getOffset (blankMessage hi lo n h) = n + 4 := by
  simp [IpapMessage.getOffset, blankMessage]

theorem bodyLength_blankMessage {hi lo : UInt8} {n : Nat}
    (h : hi.toNat * 256 + lo.toNat = n + 4) (tr : Treatment) :
    bodyLength (ofIpap tr (blankMessage hi lo n h)) = n + 4 + numPadding n := by
  simp only [bodyLength, getSerializedSize, ofIpap, getOffset_blankMessage, headerLength,
    numPadding]
  split_ifs <;> omega

/-- The longest message whose header is right. -/
theorem headerReadBack_longest :
    HeaderReadBack (ofIpap .optional (blankMessage 63 252 16376 (by decide)))
      (.alloc 16384 (by decide)) := by
  apply (headerReadBack_iff _ _).mpr
  intro _ _ _
  rw [bodyLength_blankMessage]
  decide

/-- A message of `2 ^ 14` bytes is written behind a header that declares an empty body. -/
theorem blankMessage_not_headerReadBack :
    ¬ ∀ (o : AnslpObject RawIpap) (m : NetMsg), HeaderReadBack o m := by
  intro hall
  have h : (64 : UInt8).toNat * 256 + (0 : UInt8).toNat = 16380 + 4 := by decide
  have hlength := bodyLength_blankMessage h .optional
  have hcheck : (ofIpap .optional (blankMessage 64 0 16380 h)).check = true := by
    simp only [AnslpObject.check, checkBody, ofIpap, getOffset_blankMessage]
    decide
  have hsize : (ofIpap .optional (blankMessage 64 0 16380 h)).getSerializedSize ≤
      (NetMsg.alloc 16388 (by decide)).bytesLeft := by
    have hpad : numPadding 16380 = 0 := by decide
    rw [NetMsg.bytesLeft_alloc]
    simp only [bodyLength, headerLength, hpad] at hlength
    omega
  rcases serialize_of_room hcheck rfl hsize with ⟨m', hser⟩
  have hlt := (hall _ _ m' _ hser).1
  rw [hlength] at hlt
  exact absurd hlt (by decide)

end Framing
end Anslp
