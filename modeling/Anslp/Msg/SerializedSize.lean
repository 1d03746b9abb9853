import Anslp.Msg.PassingOn

/-!
# The size of a serialized message

{lit}`get_serialized_size` adds up all stored objects, {lit}`serialize` writes the objects
its class picks and adds up what each of them has taken, and {lit}`create_api_msg`
allocates by the first and sends the whole buffer.  This module compares the three
numbers for every message that the decoder and the setters can assemble.

Main results:

- Theorem {lit}`serialize_undefined_iff`: when serializing runs into the path without a
  result.
- Theorem {lit}`getSerializedSize_eq_add`: by how much the size exceeds what is written.
- Theorem {lit}`sizesAgree_iff`: when size, bytes written and the number returned agree.

Current gaps:

- None for messages of the decoder and the setters.
-/

namespace Anslp

open AnslpObject Decoding RoundTrip

namespace SerializedSize

variable {α : Type} [IpapMessage α]

/-! ## Undefined results -/

omit [IpapMessage α] in
theorem bind_eq_error_iff {ε β γ : Type} {x : Except ε β} {k : β → Except ε γ} {e : ε} :
    (x >>= k) = .error e ↔ x = .error e ∨ ∃ b, x = .ok b ∧ k b = .error e := by
  cases x <;> simp [bind, Except.bind]

omit [IpapMessage α] in
theorem writing_ne_undefined (m : NetMsg) (r : Except NetMsgError NetMsg) :
    writing m r ≠ .error .undefined := by
  cases r <;> simp [writing]

/-- Writing a body is undefined for an IPAP message without exported bytes. -/
theorem serializeBody_undefined_iff {o : AnslpObject α} {m : NetMsg} :
    o.serializeBody m = .error .undefined ↔ ¬ o.Exported := by
  cases hb : o.body with
  | ipapMessage message =>
      cases hm : IpapMessage.getMessage message with
      | none => simp [serializeBody, Exported, hb, hm]
      | some bytes =>
          simp [serializeBody, Exported, hb, hm, bind_eq_error_iff, writing_ne_undefined]
  | informationCode =>
      simp [serializeBody, Exported, hb, bind_eq_error_iff, writing_ne_undefined]
  | selectionAuctioningEntities =>
      simp [serializeBody, Exported, hb, writing_ne_undefined]
  | messageHopCount => simp [serializeBody, Exported, hb, writing_ne_undefined]
  | msgSequenceNumber => simp [serializeBody, Exported, hb, writing_ne_undefined]
  | sessionLifetime => simp [serializeBody, Exported, hb, writing_ne_undefined]

/-- Serializing an object is undefined if it comes to a body without its bytes. -/
theorem serializeObj_undefined_iff {o : AnslpObject α} {m : NetMsg} :
    o.serialize m = .error .undefined ↔
      o.check = true ∧ ¬ o.Exported ∧ 4 ≤ m.bytesLeft := by
  by_cases hc : o.check = true
  · simp only [AnslpObject.serialize, hc, Bool.not_true, Bool.false_eq_true, if_false, true_and,
      NetMsg.encode32]
    by_cases hroom : 4 ≤ m.bytesLeft
    · rcases NetMsg.write_eq (m := m)
        (Words.bytes32 (o.header (UInt16.ofNat (o.getSerializedSize - headerLength))))
        (by simpa using hroom) with ⟨m₁, hwrite, _⟩
      have hbody := serializeBody_undefined_iff (o := o) (m := m₁)
      rw [hwrite]
      simp only [writing, hroom, and_true]
      rw [← hbody]
      cases o.serializeBody m₁ <;> simp
    · rw [NetMsg.write_error (by simpa using hroom)]
      simp [writing, hroom]
  · simp [AnslpObject.serialize, hc]

/-- Going through keys with a given room, writing comes to a key without an object, or to
an IPAP message without exported bytes. -/
inductive MeetsGap (a : AnslpMsg α) : List IeObjectKey → Nat → Prop
  | missing {key : IeObjectKey} {keys : List IeObjectKey} {room : Nat}
      (hget : a.objects.get key = none) : MeetsGap a (key :: keys) room
  | unexported {key : IeObjectKey} {keys : List IeObjectKey} {room : Nat} {o : AnslpObject α}
      (hget : a.objects.get key = some o) (hcheck : o.check = true) (hexp : ¬ o.Exported)
      (hroom : 4 ≤ room) : MeetsGap a (key :: keys) room
  | behind {key : IeObjectKey} {keys : List IeObjectKey} {room : Nat} {o : AnslpObject α}
      (hget : a.objects.get key = some o) (hcheck : o.check = true) (hexp : o.Exported)
      (hroom : o.encoding.length ≤ room)
      (hrest : MeetsGap a keys (room - o.encoding.length)) : MeetsGap a (key :: keys) room

theorem serializeObjects_undefined_iff {a : AnslpMsg α} {keys : List IeObjectKey} {m : NetMsg}
    {n : Nat} :
    a.serializeObjects keys m n = .error .undefined ↔ MeetsGap a keys m.bytesLeft := by
  induction keys generalizing m n with
  | nil =>
      constructor
      · intro h
        cases h
      · intro h
        cases h
  | cons key keys ih =>
      cases hget : a.objects.get key with
      | none =>
          constructor
          · intro _
            exact .missing hget
          · intro _
            simp [AnslpMsg.serializeObjects, AnslpMsg.serializeObject, hget, bind, Except.bind]
      | some o =>
          simp only [AnslpMsg.serializeObjects, AnslpMsg.serializeObject, hget, bind_eq_error_iff,
            serializeObj_undefined_iff, Prod.exists, AnslpObject.serialize_eq_ok_iff, ih]
          constructor
          · rintro (⟨hcheck, hexp, hroom⟩ | ⟨m₁, k, ⟨hcheck, hexp, hwrite, rfl⟩, hgap⟩)
            · exact .unexported hget hcheck hexp hroom
            · rcases NetMsg.of_write hwrite with ⟨hroom, _, hleft⟩
              refine .behind hget hcheck hexp hroom ?_
              simpa [NetMsg.bytesLeft, hleft] using hgap
          · intro hgap
            cases hgap with
            | missing hget' =>
                rw [hget] at hget'
                cases hget'
            | unexported hget' hcheck hexp hroom =>
                rw [hget] at hget'
                cases hget'
                exact Or.inl ⟨hcheck, hexp, hroom⟩
            | behind hget' hcheck hexp hroom hrest =>
                rw [hget] at hget'
                cases hget'
                rcases NetMsg.write_eq (m := m) o.encoding hroom with ⟨m₁, hwrite, _, hleft⟩
                refine Or.inr ⟨m₁, _, ⟨hcheck, hexp, hwrite, rfl⟩, ?_⟩
                simpa [NetMsg.bytesLeft, hleft] using hrest

/-- Serializing a message is undefined if its check holds, there is room for the header,
and the objects behind it have a gap. -/
theorem serialize_undefined_iff {a : AnslpMsg α} {m : NetMsg} :
    a.serialize m = .error .undefined ↔
      a.check = true ∧ 4 ≤ m.bytesLeft ∧ MeetsGap a a.serializedKeys (m.bytesLeft - 4) := by
  by_cases hc : a.check = true
  · simp only [AnslpMsg.serialize, AnslpMsg.serializeHeader, hc, Bool.not_true,
      Bool.false_eq_true, and_false, if_false, true_and, NetMsg.encode32]
    by_cases hroom : 4 ≤ m.bytesLeft
    · rcases NetMsg.write_eq (m := m) (Words.bytes32 (AnslpMsg.header a.kind))
        (by simpa using hroom) with ⟨m₁, hwrite, _, hleft⟩
      have hbytes : m₁.bytesLeft = m.bytesLeft - 4 := by
        simp [NetMsg.bytesLeft, hleft]
      rw [hwrite, ← hbytes, ← serializeObjects_undefined_iff (n := 4)]
      simp [hroom, bind, Except.bind]
    · rw [NetMsg.write_error (by simpa using hroom)]
      simp [hroom, bind, Except.bind]
  · have hfalse := Bool.eq_false_iff.mpr hc
    simp only [AnslpMsg.serialize, AnslpMsg.serializeHeader, hfalse, Bool.not_false, if_true, bind,
      Except.bind]
    split_ifs <;> simp

/-! ## Assembled messages -/

/-- Messages that the decoder and the setters of their class assemble. -/
inductive Assembled : AnslpMsg α → Prop
  | new (kind : MsgKind) : Assembled (.new kind)
  | decoded {m m' : NetMsg} {err err' : IEErrorList} {a : AnslpMsg α} {n : Nat}
      (hdec : IEManager.deserialize m err false = .ok (some (a, m', n), err')) : Assembled a
  | set {a : AnslpMsg α} {c : SetterCall α} (h : Assembled a)
      (hpublic : c.isPublic a.kind = true) : Assembled (c.apply a)

/-- An assembled message has a layout, unless it has more IPAP message objects than a
buffer has room for. -/
theorem Assembled.hasView_or {a : AnslpMsg α} (h : Assembled a) :
    (∃ v, a.HasView v) ∨ (AnslpMsg.writesIpaps a.kind = true ∧
      maxIpaps < (a.objects.getMaxSequence ipapObjectType.toUInt32).toNat) := by
  induction h with
  | new kind => exact Or.inl ⟨_, AnslpMsg.hasView_new kind⟩
  | decoded hdec =>
      rcases deserialize_reading hdec with ⟨v, _, hread⟩
      exact Or.inl ⟨v, hread.view⟩
  | @set a c _ hpublic ih =>
      rw [SetterCall.apply_eq, AnslpMsg.kind_setObject]
      rcases ih with ⟨v, hview⟩ | ⟨hwrites, hmax⟩
      · rcases SetterCall.object_written hpublic with ⟨t, _, hfixed⟩ | ⟨hipap, hwrites⟩
        · exact Or.inl ⟨_, hview.setObject_fixed hfixed⟩
        · rcases hasView_setObject_ipap_or hview hipap with hview' | hmax
          · exact Or.inl ⟨_, hview'⟩
          · exact Or.inr ⟨hwrites, hmax⟩
      · exact Or.inr ⟨hwrites, lt_of_lt_of_le hmax
          (UInt32.le_iff_toNat_le.mp (getMaxSequence_le_setObject a c.object _))⟩

theorem Assembled.hasView_of_serialize {a : AnslpMsg α} (h : Assembled a) {m m' : NetMsg}
    {n : Nat} (hser : a.serialize m = .ok (m', n)) : ∃ v, a.HasView v := by
  rcases h.hasView_or with hview | ⟨hwrites, hmax⟩
  · exact hview
  · exact absurd hser (serialize_ne_ok_of_lt hwrites hmax m _)

/-! ## What the size counts and what is written -/

/-- The objects of fixed types that a class stores and does not write. -/
def unwritten (kind : MsgKind) (v : MsgView α) : List (AnslpObject α) :=
  (FixedType.all.filter fun t => t ∉ AnslpMsg.fixedLayout kind).filterMap v.fixed

omit [IpapMessage α] in
theorem unwritten_eq_nil_iff {kind : MsgKind} {v : MsgView α} :
    unwritten kind v = [] ↔
      ∀ t, (v.fixed t).isSome = true → t ∈ AnslpMsg.fixedLayout kind := by
  rw [unwritten, List.filterMap_eq_nil_iff]
  constructor
  · intro hnone t ht
    by_contra hnot
    have hmem : t ∈ FixedType.all.filter fun t => t ∉ AnslpMsg.fixedLayout kind :=
      List.mem_filter.mpr ⟨t.mem_all, by simpa using hnot⟩
    rw [hnone t hmem] at ht
    cases ht
  · intro hslots t ht
    have hnot : t ∉ AnslpMsg.fixedLayout kind := by simpa using (List.mem_filter.mp ht).2
    cases hf : v.fixed t with
    | none => rfl
    | some o => exact absurd (hslots t (by rw [hf]; rfl)) hnot

section Layout

variable {a : AnslpMsg α} {v : MsgView α}

omit [IpapMessage α] in
/-- The stored objects are those of the slots written, those of the other slots, and the
IPAP message objects. -/
theorem perm_values (h : a.HasView v) :
    a.objects.values.Perm
      ((AnslpMsg.fixedLayout a.kind).filterMap v.fixed ++ unwritten a.kind v ++ v.ipaps) := by
  have hfixed := (AnslpMsg.perm_all a.kind).filterMap v.fixed
  rw [List.filterMap_append] at hfixed
  rw [AnslpMsg.values_eq h]
  exact hfixed.append_right v.ipaps

omit [IpapMessage α] in
theorem getNumObjects_eq (h : a.HasView v) :
    a.getNumObjects = ((AnslpMsg.fixedLayout a.kind).filterMap v.fixed).length +
      (unwritten a.kind v).length + v.ipaps.length := by
  have hlen := (perm_values h).length_eq
  rw [List.length_append, List.length_append] at hlen
  rw [← hlen, AnslpMsg.getNumObjects, OrderedMap.size, OrderedMap.values, List.length_map]

omit [IpapMessage α] in
/-- A class that writes no IPAP message objects does not pass its check with one. -/
theorem ipaps_eq_nil_of_check (h : a.HasView v) (hcheck : a.check = true)
    (hwrites : AnslpMsg.writesIpaps a.kind = false) : v.ipaps = [] := by
  have hnum := getNumObjects_eq h
  apply List.length_eq_zero_iff.mp
  cases hk : a.kind with
  | create | bidding | response => simp [AnslpMsg.writesIpaps, hk] at hwrites
  | refresh =>
      simp only [AnslpMsg.check, hk, Bool.and_eq_true, beq_iff_eq, h.store.get_fixed,
        Option.isSome_iff_exists] at hcheck
      rcases hcheck with ⟨⟨htwo, o₁, ho₁⟩, o₂, ho₂⟩
      rw [htwo] at hnum
      simp only [hk, AnslpMsg.fixedLayout, List.filterMap_cons, ho₁, ho₂, List.filterMap_nil,
        List.length_cons, List.length_nil] at hnum
      omega
  | notify =>
      simp only [AnslpMsg.check, hk, Bool.and_eq_true, beq_iff_eq, h.store.get_fixed,
        Option.isSome_iff_exists] at hcheck
      rcases hcheck with ⟨⟨o₁, ho₁⟩, hone⟩
      rw [hone] at hnum
      simp only [hk, AnslpMsg.fixedLayout, List.filterMap_cons, ho₁, List.filterMap_nil,
        List.length_cons, List.length_nil] at hnum
      omega

end Layout

theorem four_le_getSerializedSize (o : AnslpObject α) : 4 ≤ o.getSerializedSize := by
  unfold AnslpObject.getSerializedSize
  split <;> simp only [AnslpObject.headerLength] <;> omega

/-- If the check holds and what is written can be written, the size exceeds the bytes to write
by the sizes of the stored objects that the class does not write. -/
theorem getSerializedSize_eq_add_unwritten [LawfulIpapMessage α] {a : AnslpMsg α}
    {v : MsgView α} (h : a.HasView v) (hcheck : a.check = true) (hkeys : KeysWritable a) :
    a.getSerializedSize = 4 + (a.encodings a.serializedKeys).length +
      ((unwritten a.kind v).map AnslpObject.getSerializedSize).sum := by
  have hipaps : (if AnslpMsg.writesIpaps a.kind then v.ipaps else []) = v.ipaps := by
    by_cases hwrites : AnslpMsg.writesIpaps a.kind = true
    · rw [if_pos hwrites]
    · rw [if_neg hwrites, ipaps_eq_nil_of_check h hcheck (Bool.eq_false_iff.mpr hwrites)]
  have hexp : ∀ o ∈ writtenObjects a.kind v, o.Exported := by
    intro o ho
    rw [writtenObjects, hipaps] at ho
    rcases List.mem_append.mp ho with ho | ho
    · rcases List.mem_filterMap.mp ho with ⟨t, _, ht⟩
      exact AnslpMsg.exported_of_fixed (h.fixed t o ht)
    · by_cases hwrites : AnslpMsg.writesIpaps a.kind = true
      · exact (hkeys.ipap h hwrites ho).2
      · rw [ipaps_eq_nil_of_check h hcheck (Bool.eq_false_iff.mpr hwrites)] at ho
        cases ho
  have hsum := ((perm_values h).map AnslpObject.getSerializedSize).sum_nat
  rw [encodings_serializedKeys h, AnslpMsg.length_encodings_eq_sum hexp, writtenObjects,
    hipaps, AnslpMsg.getSerializedSize_eq, hsum]
  simp only [List.map_append, List.sum_append]
  omega

/-- The size of a message that is accepted exceeds the bytes written by the sizes of the
stored objects that its class does not write. -/
theorem getSerializedSize_eq_add [LawfulIpapMessage α] {a : AnslpMsg α} {v : MsgView α}
    (h : a.HasView v) {m m' : NetMsg} {n : Nat} (hser : a.serialize m = .ok (m', n)) :
    a.getSerializedSize = n + ((unwritten a.kind v).map AnslpObject.getSerializedSize).sum := by
  rcases AnslpMsg.serialize_eq_ok_iff.mp hser with ⟨hcheck, hkeys, _, hn⟩
  rw [hn]
  exact getSerializedSize_eq_add_unwritten h hcheck hkeys

/-! ## The three numbers -/

/-- The size of a message, the bytes written and the number returned agree, and a buffer
of the size, as {lit}`create_api_msg` allocates it, is filled.  Running into an undefined
result is no agreement; an exception leaves nothing to compare. -/
def SizesAgree (a : AnslpMsg α) (m : NetMsg) : Prop :=
  match a.serialize m with
  | .ok (m', n) => a.getSerializedSize = n ∧ m'.pos = m.pos + n ∧
      (m.bytesLeft = a.getSerializedSize → m'.left = [])
  | .error .undefined => False
  | .error _ => True

/-- A message whose class writes all it stores: serializing comes to no gap, and if it
comes to the end no slot is filled that the class does not write. -/
structure WritesAll (a : AnslpMsg α) (m : NetMsg) : Prop where
  noGap : a.check = true → 4 ≤ m.bytesLeft → ¬ MeetsGap a a.serializedKeys (m.bytesLeft - 4)
  slots : a.check = true → KeysWritable a →
    4 + (a.encodings a.serializedKeys).length ≤ m.bytesLeft →
      ∀ t : FixedType, (a.objects.get t.key).isSome = true → t ∈ AnslpMsg.fixedLayout a.kind

/-- For an accepted message the sizes agree exactly when no other slot is filled. -/
theorem sizes_eq_iff [LawfulIpapMessage α] {a : AnslpMsg α} (h : Assembled a) {m m' : NetMsg}
    {n : Nat} (hser : a.serialize m = .ok (m', n)) :
    a.getSerializedSize = n ↔
      ∀ t : FixedType, (a.objects.get t.key).isSome = true →
        t ∈ AnslpMsg.fixedLayout a.kind := by
  rcases h.hasView_of_serialize hser with ⟨v, hview⟩
  have hsize := getSerializedSize_eq_add hview hser
  simp only [hview.store.get_fixed]
  rw [← unwritten_eq_nil_iff]
  constructor
  · intro heq
    cases hun : unwritten a.kind v with
    | nil => rfl
    | cons o os =>
        have hfour := four_le_getSerializedSize o
        rw [hun, List.map_cons, List.sum_cons] at hsize
        omega
  · intro hnil
    rw [hnil] at hsize
    simpa using hsize

/-- The sizes of an assembled message agree exactly when its class writes all it stores. -/
theorem sizesAgree_iff [LawfulIpapMessage α] {a : AnslpMsg α} (h : Assembled a) (m : NetMsg) :
    SizesAgree a m ↔ WritesAll a m := by
  have hgap := serialize_undefined_iff (a := a) (m := m)
  cases hser : a.serialize m with
  | ok r =>
      rcases r with ⟨m', n⟩
      rcases AnslpMsg.serialize_eq_ok_iff.mp hser with ⟨hcheck, hkeys, hwrite, hn⟩
      rcases NetMsg.of_write hwrite with ⟨hroom, hdone, hleft⟩
      rw [List.length_append, Words.length_bytes32] at hroom
      have hiff := sizes_eq_iff h hser
      simp only [SizesAgree, hser]
      constructor
      · intro hagree
        refine ⟨?_, fun _ _ _ => hiff.mp hagree.1⟩
        intro _ hfour hmeets
        rw [hgap.mpr ⟨hcheck, hfour, hmeets⟩] at hser
        cases hser
      · intro hall
        have heq := hiff.mpr (hall.slots hcheck hkeys hroom)
        refine ⟨heq, ?_, ?_⟩
        · simp only [NetMsg.pos, hdone, List.length_append, Words.length_bytes32]
          omega
        · intro hbytes
          rw [hleft, List.drop_eq_nil_iff, List.length_append, Words.length_bytes32]
          simp only [NetMsg.bytesLeft] at hbytes
          omega
  | error e =>
      have hnot : ∀ r, a.serialize m ≠ .ok r := by
        intro r hr
        rw [hser] at hr
        cases hr
      have hslots : a.check = true → KeysWritable a →
          4 + (a.encodings a.serializedKeys).length ≤ m.bytesLeft → False := by
        intro hcheck hkeys hroom
        rcases NetMsg.write_eq (m := m)
          (Words.bytes32 (AnslpMsg.header a.kind) ++ a.encodings a.serializedKeys)
          (by rw [List.length_append, Words.length_bytes32]; exact hroom) with ⟨m', hwrite, _⟩
        exact hnot _ (AnslpMsg.serialize_eq_ok_iff.mpr ⟨hcheck, hkeys, hwrite, rfl⟩)
      rw [hser] at hgap
      constructor
      · intro hagree
        refine ⟨?_, fun hc hk hr => (hslots hc hk hr).elim⟩
        intro hcheck hfour hmeets
        have hundef := hgap.mpr ⟨hcheck, hfour, hmeets⟩
        simp only [Except.error.injEq] at hundef
        simp only [SizesAgree, hser, hundef] at hagree
      · intro hall
        cases e with
        | undefined =>
            rcases hgap.mp rfl with ⟨hcheck, hfour, hmeets⟩
            exact absurd hmeets (hall.noGap hcheck hfour)
        | netMsgError => simp only [SizesAgree, hser]
        | ieError => simp only [SizesAgree, hser]

/-- A REFRESH as its setters build it. -/
def builtRefresh : AnslpMsg RawIpap :=
  (SetterCall.sessionLifetime 30).apply ((SetterCall.msgSequenceNumber 5).apply (.new .refresh))

theorem assembled_builtRefresh : Assembled builtRefresh :=
  .set (.set (.new .refresh) rfl) rfl

theorem writesAll_builtRefresh : WritesAll builtRefresh (.alloc 20 (by decide)) := by
  apply (sizesAgree_iff assembled_builtRefresh _).mp
  exact ⟨rfl, rfl, fun _ => rfl⟩

/-- A CREATE with its four objects and an information code. -/
def longCreate : NetMsg :=
  .ofBytes [1, 0, 0, 0, 0, 0xF4, 0, 1, 2, 1, 0, 0, 0, 0xF5, 0, 1, 0, 0, 0, 1,
    0, 0xF6, 0, 1, 0, 0, 0, 20, 0, 0xF7, 0, 1, 0, 0, 0, 5, 0, 0xF8, 0, 1, 0, 0, 0, 30] (by decide)

/-- Its information code is counted in the size of 44 bytes, and not written. -/
theorem longCreate_not_sizesAgree :
    ¬ ∀ (a : AnslpMsg RawIpap) (m : NetMsg), Assembled a → SizesAgree a m := by
  intro hall
  have hdec : IEManager.deserialize (α := RawIpap) longCreate [] false =
      .ok (some (_, _, _), []) := rfl
  have hagree := hall _ (.alloc 44 (by decide)) (.decoded hdec)
  exact absurd hagree.1 (by decide)

end SerializedSize
end Anslp
