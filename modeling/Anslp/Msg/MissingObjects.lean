import Anslp.Msg.SerializedSize

/-!
# Messages with objects missing

{lit}`serialize_object` ends without a return statement when the message has no object under
the key.  The language leaves such a call undefined; as it is compiled, it usually goes on with
some number.  This module writes messages either way: {lit}`missing` is the number that such a
call gives, if it goes on.

A RESPONSE that reports an error is written in this way: its class writes a session lifetime,
and it has none.

Main results:

- Theorem {lit}`AnslpMsg.serializeWith_none`: without a number, such a call is undefined.
- Theorem {lit}`AnslpMsg.of_serializeWith`: whatever the number, exactly the objects that are
  there are written.
- Theorem {lit}`AnslpMsg.WellBuilt.of_serializeWith`: they are read back as the message, and
  there are as many bytes as it computes.

Current gaps:

- What such a call does instead of going on with a number is left open.
-/

namespace Anslp

open AnslpObject Decoding RoundTrip SerializedSize

namespace AnslpMsg

variable {α : Type}

/-! ## Writing -/

section

variable [IpapMessage α] (missing : Option Nat) (a : AnslpMsg α)

/-- Write the object under the given key. -/
def serializeObjectWith (key : IeObjectKey) (m : NetMsg) : Except Escape (NetMsg × Nat) :=
  match a.objects.get key with
  | some o => o.serialize m
  | none =>
      match missing with
      | none => .error .undefined
      | some n => .ok (m, n)

/-- Write the objects under the given keys, adding up the numbers that the calls give. -/
def serializeObjectsWith :
    List IeObjectKey → NetMsg → Nat → Except Escape (NetMsg × Nat)
  | [], m, bytesWritten => .ok (m, bytesWritten)
  | key :: keys, m, bytesWritten => do
      let (m', n) ← a.serializeObjectWith missing key m
      serializeObjectsWith keys m' (bytesWritten + n)

/-- Write a message. -/
def serializeWith (m : NetMsg) : Except Escape (NetMsg × Nat) :=
  if (a.kind = .create ∨ a.kind = .bidding) ∧ !a.check then
    .error (.ieError .objSetFailed)
  else do
    let (m', n) ← a.serializeHeader m
    a.serializeObjectsWith missing a.serializedKeys m' n

end

section

variable [IpapMessage α] {missing : Option Nat} {a : AnslpMsg α} {m m' : NetMsg}

theorem serializeObjectsWith_none (keys : List IeObjectKey) (n : Nat) :
    a.serializeObjectsWith none keys m n = a.serializeObjects keys m n := by
  induction keys generalizing m n with
  | nil => rfl
  | cons key keys ih =>
      have hobject : a.serializeObjectWith none key m = a.serializeObject key m := by
        unfold serializeObjectWith serializeObject
        cases a.objects.get key <;> rfl
      simp only [serializeObjectsWith, serializeObjects, hobject, ih]

/-- Without a number, a call for a missing object is undefined. -/
theorem serializeWith_none : a.serializeWith none m = a.serialize m := by
  simp only [serializeWith, serialize, serializeObjectsWith_none]

/-- What writing asks of the objects under some keys. -/
def Writable (a : AnslpMsg α) (keys : List IeObjectKey) : Prop :=
  ∀ key ∈ keys, ∀ o, a.objects.get key = some o → o.check = true ∧ o.Exported

theorem of_serializeObjectsWith {keys : List IeObjectKey} {n n' : Nat}
    (h : a.serializeObjectsWith missing keys m n = .ok (m', n')) :
    a.Writable keys ∧ m.write (a.encodings keys) = .ok m' := by
  induction keys generalizing m n with
  | nil =>
      cases h
      exact ⟨List.forall_mem_nil _, NetMsg.write_nil _⟩
  | cons key keys ih =>
      rcases AnslpObject.bind_eq_ok_iff.mp h with ⟨⟨m₁, k⟩, hobject, hrest⟩
      rcases ih hrest with ⟨hwritable, hwrite⟩
      unfold serializeObjectWith at hobject
      cases hget : a.objects.get key with
      | none =>
          have hencodings : a.encodings (key :: keys) = a.encodings keys := by
            simp [encodings, hget]
          rw [hget] at hobject
          cases missing with
          | none => cases hobject
          | some number =>
              cases hobject
              refine ⟨List.forall_mem_cons.mpr ⟨?_, hwritable⟩, by rwa [hencodings]⟩
              intro o ho
              cases hget.symm.trans ho
      | some o =>
          have hencodings : a.encodings (key :: keys) = o.encoding ++ a.encodings keys := by
            simp [encodings, hget]
          rw [hget] at hobject
          rcases AnslpObject.serialize_eq_ok_iff.mp hobject with ⟨hcheck, hexported, hfirst, _⟩
          refine ⟨List.forall_mem_cons.mpr ⟨?_, hwritable⟩, ?_⟩
          · intro o' ho'
            cases hget.symm.trans ho'
            exact ⟨hcheck, hexported⟩
          · rw [hencodings]
            exact NetMsg.write_append_eq_ok_iff.mpr ⟨m₁, hfirst, hwrite⟩

/-- Whatever number the calls for missing objects give, the header and the objects that are
there are written. -/
theorem of_serializeWith {n : Nat} (h : a.serializeWith missing m = .ok (m', n)) :
    a.Writable a.serializedKeys ∧
      m.write (Words.bytes32 (header a.kind) ++ a.encodings a.serializedKeys) = .ok m' := by
  unfold serializeWith at h
  split_ifs at h
  rcases AnslpObject.bind_eq_ok_iff.mp h with ⟨⟨m₁, k⟩, hheader, hobjects⟩
  rcases of_serializeObjectsWith hobjects with ⟨hwritable, hwrite⟩
  refine ⟨hwritable, NetMsg.write_append_eq_ok_iff.mpr ⟨m₁, ?_, hwrite⟩⟩
  unfold serializeHeader at hheader
  split_ifs at hheader
  split at hheader
  · cases hheader
  · rename_i m₂ hencode
    cases hheader
    exact hencode

end

/-! ## Messages that only hold what their class writes -/

/-- The number of IPAP message objects that are written. -/
def numIpaps (a : AnslpMsg α) : Nat :=
  (List.range (a.objects.getMaxSequence ipapObjectType.toUInt32).toNat).countP fun i =>
    (a.objects.get (ipapKey (i + 1))).isSome

/-- A message only holds what its class writes, in a layout, or it has more IPAP message objects
than a buffer has room for. -/
def IsLaidOut (a : AnslpMsg α) : Prop :=
  (∃ v, a.HasView v ∧ (∀ t, (v.fixed t).isSome = true → t ∈ fixedLayout a.kind) ∧
      (writesIpaps a.kind = false → v.ipaps = [])) ∨
    writesIpaps a.kind = true ∧ maxIpaps < a.numIpaps

/-- A message has one of the objects that its class writes one of. -/
def IsFilled (a : AnslpMsg α) : Prop :=
  ∃ t ∈ fixedLayout a.kind, (a.objects.get t.key).isSome = true

section

variable {a : AnslpMsg α} {o : AnslpObject α} {t : FixedType}

theorem numIpaps_le (a : AnslpMsg α) :
    a.numIpaps ≤ (a.objects.getMaxSequence ipapObjectType.toUInt32).toNat := by
  have hle := List.countP_le_length (p := fun i => (a.objects.get (ipapKey (i + 1))).isSome)
    (l := List.range (a.objects.getMaxSequence ipapObjectType.toUInt32).toNat)
  rwa [List.length_range] at hle

/-- What is there stays there. -/
theorem isSome_get_setObject {key : IeObjectKey} (h : (a.objects.get key).isSome = true)
    (o : AnslpObject α) : ((a.setObject o).objects.get key).isSome = true := by
  have hset : ∀ key', ((a.objects.set key' o).get key).isSome = true := by
    intro key'
    by_cases hrank : key.rank = key'.rank
    · rw [IeStore.get, IeStore.set, OrderedMap.find?_congr _ hrank, OrderedMap.find?_insert_self]
      rfl
    · rw [IeStore.get, IeStore.set, OrderedMap.find?_insert_of_ne _ _ hrank]
      exact h
  unfold setObject
  split
  · exact hset _
  · exact hset _

theorem numIpaps_le_setObject (a : AnslpMsg α) (o : AnslpObject α) :
    a.numIpaps ≤ (a.setObject o).numIpaps := by
  have hmax := UInt32.le_iff_toNat_le.mp
    (getMaxSequence_le_setObject a o ipapObjectType.toUInt32)
  exact (List.countP_mono_left fun i _ h => isSome_get_setObject h o).trans
    (List.range_sublist.mpr hmax).countP_le

theorem isLaidOut_new (kind : MsgKind) : (new kind : AnslpMsg α).IsLaidOut := by
  refine Or.inl ⟨_, hasView_new kind, ?_, ?_⟩
  · intro t ht
    cases ht
  · intro _
    rfl

theorem IsLaidOut.setFixed (h : a.IsLaidOut) (ho : o.IsFixed t)
    (ht : t ∈ fixedLayout a.kind) : (a.setObject o).IsLaidOut := by
  unfold IsLaidOut
  rw [kind_setObject]
  rcases h with ⟨v, hview, hfixed, hipaps⟩ | ⟨hwrites, hlt⟩
  · refine Or.inl ⟨v.setFixed t o, hview.setObject_fixed ho, ?_, hipaps⟩
    intro u hu
    by_cases hut : u = t
    · exact hut ▸ ht
    · simp only [MsgView.setFixed, Function.update_of_ne hut] at hu
      exact hfixed u hu
  · exact Or.inr ⟨hwrites, hlt.trans_le (numIpaps_le_setObject a o)⟩

/-- As many IPAP message objects as a layout may have, and one more. -/
theorem HasView.lt_numIpaps {v : MsgView α} (h : a.HasView v) (ho : o.IsIpap)
    (hlen : v.ipaps.length = maxIpaps) : maxIpaps < (a.setObject o).numIpaps := by
  have hset : (a.setObject o).objects = a.objects.set (ipapKey (v.ipaps.length + 1)) o := by
    simp only [AnslpMsg.setObject, ho.isUnique, ho.objectType, h.store.getMaxSequence, nextIpapKey]
    rfl
  have hall : ∀ i ∈ List.range (maxIpaps + 1),
      ((a.setObject o).objects.get (ipapKey (i + 1))).isSome = true := by
    intro i hi
    by_cases hold : i < v.ipaps.length
    · refine isSome_get_setObject ?_ o
      rw [h.store.get_ipap hold]
      rfl
    · have hnext : i = v.ipaps.length := by
        have := List.mem_range.mp hi
        omega
      rw [hnext, hset]
      exact Option.isSome_iff_exists.mpr ⟨o, OrderedMap.find?_insert_self _ _ _⟩
  rcases hasView_setObject_ipap_or h ho with hview | hmax
  · have hle := hview.store.length_le
    rw [MsgView.addIpap, List.length_append, List.length_singleton, hlen] at hle
    omega
  · have hsub := (List.range_sublist.mpr (Nat.succ_le_of_lt hmax)).countP_le
      (p := fun i => ((a.setObject o).objects.get (ipapKey (i + 1))).isSome)
    rw [List.countP_eq_length.mpr hall, List.length_range] at hsub
    exact hsub

theorem HasView.numIpaps_le {v : MsgView α} (h : a.HasView v) : a.numIpaps ≤ maxIpaps := by
  have hle := h.store.length_le
  have hlt : v.ipaps.length < 2 ^ 32 := by
    rw [maxIpaps] at hle
    omega
  refine (AnslpMsg.numIpaps_le a).trans ?_
  rwa [h.store.getMaxSequence, UInt32.toNat_ofNat', Nat.mod_eq_of_lt hlt]

theorem IsLaidOut.setIpap (h : a.IsLaidOut) (ho : o.IsIpap)
    (hwrites : writesIpaps a.kind = true) : (a.setObject o).IsLaidOut := by
  unfold IsLaidOut
  rw [kind_setObject, hwrites]
  rcases h with ⟨v, hview, hfixed, _⟩ | ⟨_, hlt⟩
  · by_cases hlen : v.ipaps.length < maxIpaps
    · exact Or.inl ⟨v.addIpap o, hview.setObject_ipap ho hlen, hfixed, fun h => by cases h⟩
    · have heq : v.ipaps.length = maxIpaps := le_antisymm hview.store.length_le (not_lt.mp hlen)
      exact Or.inr ⟨rfl, hview.lt_numIpaps ho heq⟩
  · exact Or.inr ⟨rfl, hlt.trans_le (numIpaps_le_setObject a o)⟩

theorem IsFilled.setObject (h : a.IsFilled) (o : AnslpObject α) : (a.setObject o).IsFilled := by
  rcases h with ⟨t, ht, hsome⟩
  exact ⟨t, by rwa [kind_setObject], isSome_get_setObject hsome o⟩

theorem isFilled_setFixed (ho : o.IsFixed t) (ht : t ∈ fixedLayout a.kind) :
    (a.setObject o).IsFilled := by
  refine ⟨t, by rwa [kind_setObject], ?_⟩
  have hkey : (⟨o.objectType.toUInt32, 1⟩ : IeObjectKey) = t.key := by
    rw [ho.objectType]
    rfl
  rw [AnslpMsg.setObject, if_pos ho.isUnique, hkey]
  exact Option.isSome_iff_exists.mpr ⟨o, OrderedMap.find?_insert_self _ _ _⟩

end

/-! ## Reading back -/

/-- A message that only holds what its class writes, and that is not empty. -/
structure WellBuilt (a : AnslpMsg α) : Prop where
  laidOut : a.IsLaidOut
  filled : a.IsFilled

section

variable [IpapMessage α] {missing : Option Nat} {a : AnslpMsg α} {v : MsgView α} {m m' : NetMsg}

theorem encodings_append (a : AnslpMsg α) (ks ks' : List IeObjectKey) :
    a.encodings (ks ++ ks') = a.encodings ks ++ a.encodings ks' := by
  simp [encodings]

/-- The size of a message, as a number of 32 bits, is the size of some buffer. -/
theorem getSerializedSize_mod_lt (a : AnslpMsg α) : a.getSerializedSize % 2 ^ 32 < 2 ^ 32 :=
  Nat.mod_lt _ (Nat.two_pow_pos 32)

/-- Each object that is there takes four bytes at least. -/
theorem four_mul_countP_le (a : AnslpMsg α) (is : List Nat) :
    4 * is.countP (fun i => (a.objects.get (ipapKey (i + 1))).isSome) ≤
      (a.encodings (is.map fun i => ipapKey (i + 1))).length := by
  induction is with
  | nil => exact Nat.zero_le _
  | cons i is ih =>
      have hcons : a.encodings ((i :: is).map fun i => ipapKey (i + 1)) =
          ((a.objects.get (ipapKey (i + 1))).map AnslpObject.encoding).getD [] ++
            a.encodings (is.map fun i => ipapKey (i + 1)) := by
        simp [encodings]
      rw [hcons, List.length_append, List.countP_cons]
      cases hget : a.objects.get (ipapKey (i + 1)) with
      | none => simpa using ih
      | some o =>
          have hfour := four_le_length_encoding o
          simp only [Option.isSome_some, if_true, Option.map_some, Option.getD_some]
          omega

/-- A message that can be written has a layout. -/
theorem IsLaidOut.of_serializeWith (h : a.IsLaidOut) {n : Nat}
    (hser : a.serializeWith missing m = .ok (m', n)) :
    ∃ v, a.HasView v ∧ (∀ t, (v.fixed t).isSome = true → t ∈ fixedLayout a.kind) ∧
      (writesIpaps a.kind = false → v.ipaps = []) := by
  rcases h with hview | ⟨hwrites, hlt⟩
  · exact hview
  · exfalso
    have hlength := (NetMsg.of_write (AnslpMsg.of_serializeWith hser).2).1
    have hroom := m.bytesLeft_lt
    have hfour := four_mul_countP_le a
      (List.range (a.objects.getMaxSequence ipapObjectType.toUInt32).toNat)
    rw [serializedKeys, if_pos hwrites, encodings_append] at hlength
    simp only [List.length_append] at hlength
    simp only [numIpaps, maxIpaps] at hlt
    omega

omit [IpapMessage α] in
theorem ipapKey_mem_serializedKeys (hview : a.HasView v) (hwrites : writesIpaps a.kind = true)
    {i : Nat} (hi : i < v.ipaps.length) : ipapKey (i + 1) ∈ a.serializedKeys := by
  have hle := hview.store.length_le
  simp only [maxIpaps] at hle
  refine List.mem_append_right _ ?_
  rw [if_pos hwrites, hview.store.getMaxSequence, UInt32.toNat_ofNat', Nat.mod_eq_of_lt (by omega)]
  exact List.mem_map.mpr ⟨i, List.mem_range.mpr hi, rfl⟩

/-- The objects that are there can be read back. -/
theorem Writable.readable [LawfulIpapMessage α] (h : a.Writable a.serializedKeys)
    (hview : a.HasView v) (hsize : ∀ o ∈ v.ipaps, o.getSerializedSize ≤ 4 + 4 * 4095) :
    ∀ o ∈ writtenObjects a.kind v, Readable o := by
  intro o ho
  rcases List.mem_append.mp ho with ho | ho
  · rcases List.mem_filterMap.mp ho with ⟨t, ht, hto⟩
    have hget : a.objects.get t.key = some o := (hview.store.get_fixed t).trans hto
    rcases h t.key (List.mem_append_left _ (List.mem_map_of_mem ht)) o hget with
      ⟨hcheck, hexported⟩
    have hfixed := hview.fixed t o hto
    rcases exists_bodyBytes hfixed hcheck with ⟨value, hbytes, _⟩
    have hlength := length_encoding hexported
    rw [encoding_eq, hbytes, List.length_append, Words.length_bytes32, Words.length_bytes32]
      at hlength
    exact ⟨.inl ⟨t, hfixed⟩, hcheck, hexported, by omega⟩
  · split at ho
    · rename_i hwrites
      rcases List.getElem_of_mem ho with ⟨i, hi, rfl⟩
      rcases h _ (ipapKey_mem_serializedKeys hview hwrites hi) _ (hview.store.get_ipap hi) with
        ⟨hcheck, hexported⟩
      exact ⟨.inr (hview.ipaps _ ho), hcheck, hexported, hsize _ ho⟩
    · cases ho

/-- The objects that are written make up the size of a message that holds no others. -/
theorem getSerializedSize_eq_of_writable [LawfulIpapMessage α]
    (h : a.Writable a.serializedKeys) (hview : a.HasView v)
    (hfixed : ∀ t, (v.fixed t).isSome = true → t ∈ fixedLayout a.kind)
    (hipaps : writesIpaps a.kind = false → v.ipaps = [])
    (hsize : ∀ o ∈ v.ipaps, o.getSerializedSize ≤ 4 + 4 * 4095) :
    a.getSerializedSize = 4 + (a.encodings a.serializedKeys).length := by
  have hvalues : a.objects.values.Perm (writtenObjects a.kind v) := by
    have hperm := perm_values hview
    rw [unwritten_eq_nil_iff.mpr hfixed, List.append_nil] at hperm
    rw [writtenObjects]
    split_ifs with hwrites
    · exact hperm
    · rwa [hipaps (Bool.eq_false_iff.mpr hwrites)] at hperm
  rw [getSerializedSize_eq, (hvalues.map _).sum_nat, encodings_serializedKeys hview,
    length_encodings_eq_sum fun o ho => (h.readable hview hsize o ho).exported]

/-- What was written of a message with a layout is read as a message with what is left of the
layout. -/
theorem deserialize_of_writable [LawfulIpapMessage α] (err : IEErrorList)
    (h : a.Writable a.serializedKeys) (hview : a.HasView v) (hfilled : a.IsFilled)
    (hwrite : m.write (Words.bytes32 (header a.kind) ++ a.encodings a.serializedKeys) = .ok m')
    (hsize : ∀ o ∈ v.ipaps, o.getSerializedSize ≤ 4 + 4 * 4095) :
    ∃ a' m'' n, IEManager.deserialize (m'.writtenFrom m.pos) err false =
        .ok (some (a', m'', n), err) ∧
      a'.kind = a.kind ∧ a'.HasView (written a.kind v) := by
  rw [encodings_serializedKeys hview] at hwrite
  have hleft := NetMsg.left_writtenFrom hwrite
  have hadvanced := NetMsg.left_advance_four hleft
  have hcount : (writtenObjects a.kind v).length ≤ maxIpaps := by
    have hroom := (m'.writtenFrom m.pos).bytesLeft_lt
    have hfour := four_mul_length_le (writtenObjects a.kind v)
    rw [NetMsg.bytesLeft, hleft, List.length_append, Words.length_bytes32] at hroom
    rw [maxIpaps]
    omega
  rcases deserializeObjects_encodings err 4 (hasView_new a.kind) (h.readable hview hsize)
    (fun _ _ _ _ => rfl) (pairwise_writtenObjects hview.fixed hview.ipaps)
    (by simpa [MsgView.empty] using hcount) hadvanced le_rfl with ⟨m'', hloop, _, hview'⟩
  rw [foldl_add_writtenObjects hview.fixed hview.ipaps] at hview'
  have hnonempty : getNumObjects ((writtenObjects a.kind v).foldl setObject (new a.kind)) ≠ 0 := by
    rcases hfilled with ⟨t, ht, hsome⟩
    rw [hview.store.get_fixed] at hsome
    rcases Option.isSome_iff_exists.mp hsome with ⟨o, ho⟩
    exact getNumObjects_ne_zero hview' (t := t) (o := o) (by simp [written, ht, ho])
  refine ⟨(writtenObjects a.kind v).foldl setObject (new a.kind), m'',
    4 + ((m'.writtenFrom m.pos).advance 4).bytesLeft, ?_, kind_foldl_setObject _ _, hview'⟩
  rw [Decoding.deserialize_eq hleft (ofMsgType?_header a.kind), hloop]
  simp only [if_neg hnonempty]

/-- The bytes that are written of a message are read back as the message, and there are as many
of them as it computes. -/
theorem WellBuilt.of_serializeWith [LawfulIpapMessage α] (h : a.WellBuilt) (err : IEErrorList)
    {n : Nat} (hser : a.serializeWith missing m = .ok (m', n))
    (hsize : ∀ v, a.HasView v → ∀ o ∈ v.ipaps, o.getSerializedSize ≤ 4 + 4 * 4095) :
    m'.left = m.left.drop a.getSerializedSize ∧
      ∃ m'' k, IEManager.deserialize (m'.writtenFrom m.pos) err false =
        .ok (some (a, m'', k), err) := by
  rcases h.laidOut.of_serializeWith hser with ⟨v, hview, hfixed, hipaps⟩
  rcases AnslpMsg.of_serializeWith hser with ⟨hwritable, hwrite⟩
  have hsizes := hsize v hview
  refine ⟨?_, ?_⟩
  · rw [getSerializedSize_eq_of_writable hwritable hview hfixed hipaps hsizes,
      (NetMsg.of_write hwrite).2.2, List.length_append, Words.length_bytes32]
  · rcases deserialize_of_writable err hwritable hview h.filled hwrite hsizes with
      ⟨a', m'', k, hread, hkind, hview'⟩
    rw [written_eq_self hfixed hipaps] at hview'
    have hobjects := hview'.store.eq hview.store
    refine ⟨m'', k, ?_⟩
    rw [hread]
    cases a
    cases a'
    cases hobjects
    cases hkind
    rfl

end

end AnslpMsg
end Anslp
