import Anslp.Msg.RoundTrip
import Mathlib.Algebra.GroupWithZero.Nat
import Mathlib.Data.List.Perm.Basic

/-!
# Passing on decoded messages

A forwarder serializes the messages it has decoded.  What the decoder admits and what
the five message classes check and write is decided in different places: this module
gives the exact condition under which a decoded message can be passed on unchanged.

Main results:

- Theorem {lit}`deserialize_size`: a decoded message is not longer than the bytes it was
  read from.
- Theorem {lit}`canBePassedOn_iff`: a decoded message can be passed on exactly when it is
  complete.
- Theorem {lit}`emptyBidding_not_canBePassedOn`: a BIDDING without an IPAP message object
  is decoded and cannot be passed on.

Current gaps:

- None for messages that the decoder accepts.
-/

namespace Anslp

open AnslpObject Decoding RoundTrip

namespace AnslpMsg

variable {α : Type} [IpapMessage α]

/-- A message can be passed on: its check holds, it is serialized into a buffer of its
size, and what is read from the bytes written is equal to it. -/
def CanBePassedOn [DecidableEq α] (a : AnslpMsg α) : Prop :=
  a.check = true ∧ ∃ (m m' m'' : NetMsg) (n k : Nat) (a' : AnslpMsg α),
    m.done = [] ∧ m.bytesLeft = a.getSerializedSize ∧ a.serialize m = .ok (m', n) ∧
      IEManager.deserialize (m'.writtenFrom 0) [] false = .ok (some (a', m'', k), []) ∧
      a.equals a' = true

/-- A message has exactly the fixed objects that its class writes, IPAP message objects
only if its class writes them, at least one of them in a BIDDING, and all its objects
pass their own checks. -/
structure Complete (a : AnslpMsg α) : Prop where
  slots : ∀ t : FixedType, (a.objects.get t.key).isSome = true ↔ t ∈ fixedLayout a.kind
  ipaps : a.includes ipapObjectType = true → writesIpaps a.kind = true
  bidding : a.kind = .bidding → a.includes ipapObjectType = true
  checked : ∀ o ∈ a.objects.values, o.check = true

/-! ## Sizes -/

theorem getSerializedSize_eq (a : AnslpMsg α) :
    a.getSerializedSize = 4 + (a.objects.values.map AnslpObject.getSerializedSize).sum := by
  have hfold : ∀ (os : List (AnslpObject α)) (k : Nat),
      os.foldl (fun size o => size + o.getSerializedSize) k =
        k + (os.map AnslpObject.getSerializedSize).sum := by
    intro os
    induction os with
    | nil => simp
    | cons o os ih =>
        intro k
        rw [List.foldl_cons, ih, List.map_cons, List.sum_cons, Nat.add_assoc]
  exact hfold _ _

/-- Storing an object adds its size at most. -/
theorem getSerializedSize_setObject_le (a : AnslpMsg α) (o : AnslpObject α) :
    (a.setObject o).getSerializedSize ≤ a.getSerializedSize + o.getSerializedSize := by
  have hinsert : ∀ (k : IeObjectKey) (es : List (IeObjectKey × AnslpObject α)),
      ((OrderedMap.insertEntry IeObjectKey.rank k o es).map
        fun e => e.2.getSerializedSize).sum ≤
        (es.map fun e => e.2.getSerializedSize).sum + o.getSerializedSize := by
    intro k es
    induction es with
    | nil => simp [OrderedMap.insertEntry]
    | cons e es ih =>
        simp only [OrderedMap.insertEntry]
        split_ifs <;> simp only [List.map_cons, List.sum_cons] <;> omega
  have hset : ∀ k : IeObjectKey,
      ((a.objects.set k o).values.map AnslpObject.getSerializedSize).sum ≤
        (a.objects.values.map AnslpObject.getSerializedSize).sum + o.getSerializedSize := by
    intro k
    have := hinsert k a.objects.entries
    simpa [IeStore.set, OrderedMap.insert, OrderedMap.values, Function.comp_def] using this
  simp only [getSerializedSize_eq, setObject]
  split
  · exact Nat.add_assoc 4 _ _ ▸ Nat.add_le_add_left (hset _) 4
  · exact Nat.add_assoc 4 _ _ ▸ Nat.add_le_add_left (hset _) 4

/-- An accepted object is not longer than the bytes it was read from. -/
theorem size_le_of_taken [LawfulIpapMessage α] {headerRaw : UInt32} {rest tl : List UInt8}
    {o : AnslpObject α} (h : Taken headerRaw rest o tl) :
    o.getSerializedSize + tl.length ≤ 4 + rest.length := by
  cases h with
  | word t value tl htype hrest hlen hcheck =>
      have hsize : (ofHeaderWord t headerRaw value : AnslpObject α).getSerializedSize = 8 := by
        cases t <;> rfl
      rw [hsize, hrest]
      simp
      omega
  | ipap message n htype hlen himport hpad =>
      obtain ⟨hexp, hn⟩ := LawfulIpapMessage.export_import himport
      have hoff := LawfulIpapMessage.offset_eq hexp
      rw [List.length_take_of_le hn] at hoff
      rw [List.length_take_of_le hlen] at hn
      have hmod : extractBodyLength headerRaw % 4 = 0 := by
        simp [extractBodyLength]
      simp only [AnslpObject.getSerializedSize, ofHeaderIpap, hoff, List.length_drop,
        AnslpObject.headerLength]
      unfold numPadding
      split <;> omega

theorem deserializeObjects_size [LawfulIpapMessage α] {rounds : Nat} {a a' : AnslpMsg α}
    {m m' : NetMsg} {err err' : IEErrorList} {n n' : Nat}
    (h : AnslpMsg.deserializeObjects false rounds a m err n = .ok (some (a', m', n'), err'))
    (hsize : a.getSerializedSize ≤ n) :
    a'.getSerializedSize ≤ n' ∧ n' + m'.bytesLeft = n + m.bytesLeft := by
  induction rounds generalizing a m err n with
  | zero =>
      simp only [deserializeObjects, Except.ok.injEq, Prod.mk.injEq, Option.some.injEq] at h
      obtain ⟨⟨rfl, rfl, rfl⟩, rfl⟩ := h
      exact ⟨hsize, rfl⟩
  | succ rounds ih =>
      by_cases hend : m.bytesLeft = 0
      · simp only [deserializeObjects, if_pos hend, Except.ok.injEq, Prod.mk.injEq,
          Option.some.injEq] at h
        obtain ⟨⟨rfl, rfl, rfl⟩, rfl⟩ := h
        exact ⟨hsize, rfl⟩
      · rcases deserializeObjects_round hend h with
          ⟨headerRaw, rest, o, tl, m₁, k, hleft, htaken, hleft', hlen, hk, hloop⟩
        have hobjsize := size_le_of_taken htaken
        have hset := getSerializedSize_setObject_le a o
        have hleftlen : m.left.length = 4 + rest.length := by simp [hleft]
        obtain ⟨hle, hbytes⟩ := ih hloop (by omega)
        refine ⟨hle, ?_⟩
        simp only [NetMsg.bytesLeft, hleft'] at hbytes ⊢
        omega

/-- A decoded message is not longer than the bytes it was read from. -/
theorem deserialize_size [LawfulIpapMessage α] {m m' : NetMsg} {err err' : IEErrorList}
    {a : AnslpMsg α} {n : Nat}
    (h : IEManager.deserialize m err false = .ok (some (a, m', n), err')) :
    a.getSerializedSize ≤ n ∧ n + m'.bytesLeft = m.bytesLeft := by
  rcases deserialize_eq_ok h with ⟨msgHeader, body, kind, hleft, hloop⟩
  have hnew : (AnslpMsg.new kind : AnslpMsg α).getSerializedSize ≤ 4 := by
    simp [getSerializedSize_eq, AnslpMsg.new, OrderedMap.empty, OrderedMap.values]
  rcases deserializeObjects_size hloop hnew with ⟨hle, hbytes⟩
  refine ⟨hle, ?_⟩
  rw [hbytes]
  simp [NetMsg.bytesLeft, hleft]

/-! ## Complete messages -/

section Layout

variable {a : AnslpMsg α} {v : MsgView α}

omit [IpapMessage α] in
theorem includes_fixed (h : a.HasView v) (t : FixedType) :
    a.includes t.objectType = true ↔ (v.fixed t).isSome = true := by
  simp only [includes, List.any_eq_true, beq_iff_eq]
  constructor
  · rintro ⟨key, hkey, htype⟩
    rcases h.store.mem_keys.mp hkey with ⟨u, hu, rfl⟩ | ⟨i, hi, rfl⟩
    · obtain rfl : u = t := by
        revert htype
        cases u <;> cases t <;> decide
      exact hu
    · simp only [ipapKey] at htype
      exact absurd htype (by cases t <;> decide)
  · intro ht
    exact ⟨t.key, h.store.mem_keys.mpr (Or.inl ⟨t, ht, rfl⟩), rfl⟩

omit [IpapMessage α] in
theorem includes_ipap (h : a.HasView v) : a.includes ipapObjectType = true ↔ v.ipaps ≠ [] := by
  simp only [includes, List.any_eq_true, beq_iff_eq]
  constructor
  · rintro ⟨key, hkey, htype⟩
    rcases h.store.mem_keys.mp hkey with ⟨u, hu, rfl⟩ | ⟨i, hi, rfl⟩
    · exact absurd htype (by cases u <;> decide)
    · exact List.length_pos_iff.mp (Nat.zero_lt_of_lt hi)
  · intro hne
    exact ⟨ipapKey 1, h.store.mem_keys.mpr
      (Or.inr ⟨0, List.length_pos_iff.mpr hne, rfl⟩), rfl⟩

omit [IpapMessage α] in
theorem values_eq (h : a.HasView v) :
    a.objects.values = FixedType.all.filterMap v.fixed ++ v.ipaps := by
  have hfixed : v.fixedEntries.map Prod.snd = FixedType.all.filterMap v.fixed := by
    simp [MsgView.fixedEntries, List.map_filterMap, Function.comp_def]
  have hipaps : v.ipapEntries.map Prod.snd = v.ipaps := by
    simp [MsgView.ipapEntries, Function.comp_def]
  rw [OrderedMap.values, h.store.entries, List.map_append, hfixed, hipaps]

omit [IpapMessage α] in
/-- The slots a class writes and the others make up all slots. -/
theorem perm_all (kind : MsgKind) :
    FixedType.all.Perm
      (fixedLayout kind ++ FixedType.all.filter fun t => t ∉ fixedLayout kind) := by
  cases kind <;> decide

omit [IpapMessage α] in
/-- If no other slot is filled, the stored objects are the written ones. -/
theorem perm_writtenObjects (h : a.HasView v)
    (hslots : ∀ t, (v.fixed t).isSome = true → t ∈ fixedLayout a.kind)
    (hipaps : v.ipaps ≠ [] → writesIpaps a.kind = true) :
    a.objects.values.Perm (writtenObjects a.kind v) := by
  have hnone : (FixedType.all.filter fun t => t ∉ fixedLayout a.kind).filterMap v.fixed = [] := by
    rw [List.filterMap_eq_nil_iff]
    intro t ht
    have hnot : t ∉ fixedLayout a.kind := by simpa using (List.mem_filter.mp ht).2
    cases hf : v.fixed t with
    | none => rfl
    | some o => exact absurd (hslots t (by simp [hf])) hnot
  have hfixed := (perm_all a.kind).filterMap v.fixed
  rw [List.filterMap_append, hnone, List.append_nil] at hfixed
  have htail : v.ipaps = if writesIpaps a.kind then v.ipaps else [] := by
    by_cases hne : v.ipaps = []
    · simp [hne]
    · rw [if_pos (hipaps hne)]
  rw [values_eq h, writtenObjects, ← htail]
  exact hfixed.append_right v.ipaps

end Layout

theorem check_of_complete {a : AnslpMsg α} {v : MsgView α} (hview : a.HasView v)
    (h : a.Complete) : a.check = true := by
  have hslot : ∀ t, (v.fixed t).isSome = true ↔ t ∈ fixedLayout a.kind := by
    intro t
    rw [← hview.store.get_fixed]
    exact h.slots t
  have hinc : ∀ t, a.includes t.objectType = true ↔ t ∈ fixedLayout a.kind := fun t =>
    (includes_fixed hview t).trans (hslot t)
  have hlen := (perm_writtenObjects hview (fun t => (hslot t).mp)
    fun hne => h.ipaps ((includes_ipap hview).mpr hne)).length_eq
  have hnum : a.getNumObjects = (writtenObjects a.kind v).length := by
    rw [← hlen]
    simp [getNumObjects, OrderedMap.size, OrderedMap.values]
  have hget : ∀ t ∈ fixedLayout a.kind, (a.objects.get t.key).isSome = true := fun t ht =>
    (h.slots t).mpr ht
  cases hk : a.kind with
  | create => simp [check, hk, hinc, fixedLayout]
  | bidding => simp [check, hk, hinc, fixedLayout, h.bidding hk]
  | refresh =>
      rw [hk] at hget hnum
      have h₁ := hget .msgSequenceNumber (by decide)
      have h₂ := hget .sessionLifetime (by decide)
      have hv₁ := h₁
      have hv₂ := h₂
      rw [hview.store.get_fixed, Option.isSome_iff_exists] at hv₁ hv₂
      obtain ⟨o₁, ho₁⟩ := hv₁
      obtain ⟨o₂, ho₂⟩ := hv₂
      have htwo : a.getNumObjects = 2 := by
        simp [hnum, writtenObjects, fixedLayout, writesIpaps, ho₁, ho₂]
      simp [check, hk, htwo, h₁, h₂]
  | response =>
      simp only [check, hk, List.all_eq_true]
      intro key hkey
      rcases hview.store.mem_keys.mp hkey with ⟨t, ht, rfl⟩ | ⟨i, _, rfl⟩
      · have hmem := (hslot t).mp ht
        rw [hk] at hmem
        revert hmem
        cases t <;> decide
      · simp [ipapKey]
  | notify =>
      rw [hk] at hget hnum
      have h₁ := hget .informationCode (by decide)
      have hv₁ := h₁
      rw [hview.store.get_fixed, Option.isSome_iff_exists] at hv₁
      obtain ⟨o₁, ho₁⟩ := hv₁
      have hone : a.getNumObjects = 1 := by
        simp [hnum, writtenObjects, fixedLayout, writesIpaps, ho₁]
      simp [check, hk, hone, h₁]

/-- An object read from the wire has its bytes. -/
theorem exported_of_imported [LawfulIpapMessage α] {o : AnslpObject α} (h : Imported o) :
    o.Exported ∧ o.getSerializedSize ≤ 4 + 4 * 4095 := by
  obtain ⟨message, bs, k, hbody, himport, hlen⟩ := h
  obtain ⟨hexp, hk⟩ := LawfulIpapMessage.export_import himport
  have hoff := LawfulIpapMessage.offset_eq hexp
  rw [List.length_take_of_le hk] at hoff
  constructor
  · simp [Exported, hbody, hexp]
  · simp only [AnslpObject.getSerializedSize, hbody, hoff, AnslpObject.headerLength]
    unfold numPadding
    split <;> omega

omit [IpapMessage α] in
theorem exported_of_fixed [IpapMessage α] {t : FixedType} {o : AnslpObject α}
    (h : o.IsFixed t) : o.Exported := by
  unfold Exported
  split
  · rename_i message hbody
    have hfixed := h.fixedType
    simp [hbody, Body.fixedType?] at hfixed
  · trivial

/-- Encoded objects take up the sum of their sizes. -/
theorem length_encodings_eq_sum [LawfulIpapMessage α] {os : List (AnslpObject α)}
    (hexp : ∀ o ∈ os, o.Exported) :
    (os.flatMap AnslpObject.encoding).length = (os.map AnslpObject.getSerializedSize).sum := by
  induction os with
  | nil => simp
  | cons o os ih =>
      rw [List.flatMap_cons, List.length_append, length_encoding (hexp o List.mem_cons_self),
        ih fun o' ho' => hexp o' (List.mem_cons_of_mem _ ho'), List.map_cons, List.sum_cons]

/-- A complete message writes as many bytes as its size says. -/
theorem length_encodings_of_complete [LawfulIpapMessage α] {a : AnslpMsg α} {v : MsgView α}
    (hview : a.HasView v) (hexp : ∀ o ∈ a.objects.values, o.Exported) (h : a.Complete) :
    4 + (a.encodings a.serializedKeys).length = a.getSerializedSize := by
  have hperm := perm_writtenObjects hview
    (fun t ht => (h.slots t).mp (by rw [hview.store.get_fixed]; exact ht))
    fun hne => h.ipaps ((includes_ipap hview).mpr hne)
  rw [encodings_serializedKeys hview, getSerializedSize_eq,
    length_encodings_eq_sum fun o ho => hexp o (hperm.mem_iff.mpr ho),
    (hperm.map AnslpObject.getSerializedSize).sum_nat]

theorem keysWritable_of_complete {a : AnslpMsg α} {v : MsgView α} (hview : a.HasView v)
    (hexp : ∀ o ∈ a.objects.values, o.Exported) (h : a.Complete) : KeysWritable a := by
  have hvalue : ∀ {key : IeObjectKey} {o : AnslpObject α}, a.objects.get key = some o →
      o ∈ a.objects.values := by
    intro key o ho
    obtain ⟨k, _, hmem⟩ := OrderedMap.find?_eq_some ho
    exact List.mem_map.mpr ⟨(k, o), hmem, rfl⟩
  intro key hkey
  have hsome : ∃ o, a.objects.get key = some o := by
    rcases List.mem_append.mp hkey with hkey | hkey
    · obtain ⟨t, ht, rfl⟩ := List.mem_map.mp hkey
      exact Option.isSome_iff_exists.mp ((h.slots t).mpr ht)
    · split at hkey
      · obtain ⟨i, hi, rfl⟩ := List.mem_map.mp hkey
        have hmax := hview.store.length_le
        simp only [maxIpaps] at hmax
        rw [List.mem_range, hview.store.getMaxSequence, UInt32.toNat_ofNat',
          Nat.mod_eq_of_lt (by omega)] at hi
        exact ⟨_, hview.store.get_ipap hi⟩
      · simp at hkey
  obtain ⟨o, ho⟩ := hsome
  exact ⟨o, ho, h.checked o (hvalue ho), hexp o (hvalue ho)⟩

omit [IpapMessage α] in
/-- Every entry of a message has a counterpart in an equal one. -/
theorem get_isSome_of_equals [DecidableEq α] {a a' : AnslpMsg α} (h : a.equals a' = true)
    {e : IeObjectKey × AnslpObject α} (he : e ∈ a.objects.entries) :
    (a'.objects.get e.1).isSome = true := by
  simp only [equals, IeStore.equals, Bool.and_eq_true, List.all_eq_true] at h
  have hentry := h.2.2 e he
  cases hget : a'.objects.get e.1 with
  | none => simp [hget] at hentry
  | some o => rfl

section Decoded

variable [LawfulIpapMessage α] [DecidableEq α] {a : AnslpMsg α} {v : MsgView α}
  {seen : List UInt16} {m : NetMsg}

omit [LawfulIpapMessage α] [DecidableEq α] [IpapMessage α] in
theorem mem_values (hview : a.HasView v) {o : AnslpObject α} (ho : o ∈ a.objects.values) :
    (∃ t, v.fixed t = some o) ∨ o ∈ v.ipaps := by
  rw [values_eq hview] at ho
  rcases List.mem_append.mp ho with ho | ho
  · obtain ⟨t, _, hto⟩ := List.mem_filterMap.mp ho
    exact Or.inl ⟨t, hto⟩
  · exact Or.inr ho

theorem complete_of_canBePassedOn (hread : Reading a v seen m) (h : a.CanBePassedOn) :
    a.Complete := by
  obtain ⟨hcheck, m₁, m₂, m₃, n', k, a', hdone, _, hser, hdec', heq⟩ := h
  have hview := hread.view
  have hpos : m₁.pos = 0 := by simp [NetMsg.pos, hdone]
  obtain ⟨_, hkeys, _⟩ := AnslpMsg.serialize_eq_ok_iff.mp hser
  have hkeys : KeysWritable a := hkeys
  obtain ⟨a'', _, hdec'', _, _, hview'⟩ := deserialize_written [] hview hser fun o ho =>
    (exported_of_imported (hread.imported o ho)).2
  rw [hpos, hdec'] at hdec''
  simp only [Except.ok.injEq, Prod.mk.injEq, Option.some.injEq, and_true] at hdec''
  obtain ⟨rfl, -⟩ := hdec''
  have hwrites : v.ipaps ≠ [] → writesIpaps a.kind = true := by
    intro hne
    have hlen := List.length_pos_iff.mpr hne
    have hmem : (ipapKey 1, v.ipaps[0]) ∈ a.objects.entries :=
      hview.store.mem_entries.mpr (Or.inr ⟨0, List.getElem?_eq_getElem hlen, rfl⟩)
    have hget : (a'.objects.get (ipapKey 1)).isSome = true :=
      get_isSome_of_equals (e := (ipapKey 1, v.ipaps[0])) heq hmem
    have hsome := hview'.store.ipaps_ne_nil_of_get hget
    by_contra hno
    simp [written, hno] at hsome
  refine ⟨fun t => ⟨fun ht => ?_, fun ht => ?_⟩, fun hinc => ?_, fun hk => ?_, fun o ho => ?_⟩
  · obtain ⟨o, ho⟩ := Option.isSome_iff_exists.mp ht
    have hmem : (t.key, o) ∈ a.objects.entries := by
      rw [hview.store.get_fixed] at ho
      exact hview.store.mem_entries.mpr (Or.inl ⟨t, ho, rfl⟩)
    have hsome := get_isSome_of_equals heq hmem
    rw [hview'.store.get_fixed] at hsome
    by_contra hno
    simp [written, hno] at hsome
  · obtain ⟨o, ho, -⟩ := hkeys.slot hview ht
    rw [hview.store.get_fixed, ho]
    rfl
  · exact hwrites ((includes_ipap hview).mp hinc)
  · simp only [check, hk, Bool.and_eq_true] at hcheck
    exact hcheck.2
  · rcases mem_values hview ho with ⟨t, ht⟩ | ho
    · exact hread.checked t o ht
    · exact (hkeys.ipap hview (hwrites (List.ne_nil_of_mem ho)) ho).1

theorem canBePassedOn_of_complete (hread : Reading a v seen m)
    (hsize : a.getSerializedSize < 2 ^ 32) (h : a.Complete) : a.CanBePassedOn := by
  have hview := hread.view
  have hexp : ∀ o ∈ a.objects.values, o.Exported := by
    intro o ho
    rcases mem_values hview ho with ⟨t, ht⟩ | ho
    · exact exported_of_fixed (hview.fixed t o ht)
    · exact (exported_of_imported (hread.imported o ho)).1
  have hslots : ∀ t, (v.fixed t).isSome = true → t ∈ fixedLayout a.kind := by
    intro t ht
    rw [← hview.store.get_fixed] at ht
    exact (h.slots t).mp ht
  have hipaps : writesIpaps a.kind = false → v.ipaps = [] := by
    intro hno
    by_contra hne
    rw [h.ipaps ((includes_ipap hview).mpr hne)] at hno
    cases hno
  have hcheck := check_of_complete hview h
  have hkeys := keysWritable_of_complete hview hexp h
  have hbytes := length_encodings_of_complete hview hexp h
  obtain ⟨m₂, hwrite, _, _⟩ := NetMsg.write_eq (m := .alloc a.getSerializedSize hsize)
    (Words.bytes32 (header a.kind) ++ a.encodings a.serializedKeys) (by
      rw [NetMsg.bytesLeft_alloc, List.length_append, Words.length_bytes32, hbytes])
  have hser := AnslpMsg.serialize_eq_ok_iff.mpr ⟨hcheck, hkeys, hwrite, rfl⟩
  obtain ⟨a', m₃, hdec', _, hkind, hview'⟩ := deserialize_written [] hview hser fun o ho =>
    (exported_of_imported (hread.imported o ho)).2
  rw [written_eq_self hslots hipaps] at hview'
  have hself : a' = a := by
    have hobjects := hview'.store.eq hview.store
    cases a'
    simp only at hkind hobjects
    rw [hobjects, hkind]
  exact ⟨hcheck, _, m₂, m₃, _, _, a', rfl, NetMsg.bytesLeft_alloc hsize, hser, hdec',
    hself ▸ equals_self a'⟩

end Decoded

/-- A decoded message can be passed on exactly when it is complete. -/
theorem canBePassedOn_iff [LawfulIpapMessage α] [DecidableEq α] {m m' : NetMsg}
    {err err' : IEErrorList} {a : AnslpMsg α} {n : Nat}
    (hdec : IEManager.deserialize m err false = .ok (some (a, m', n), err')) :
    a.CanBePassedOn ↔ a.Complete := by
  obtain ⟨v, seen, hread⟩ := deserialize_reading hdec
  obtain ⟨hle, hleft⟩ := deserialize_size hdec
  have hlt := m.bytesLeft_lt
  exact ⟨complete_of_canBePassedOn hread, canBePassedOn_of_complete hread (by omega)⟩

/-- A REFRESH with its two objects. -/
def plainRefresh : NetMsg :=
  .ofBytes [5, 0, 0, 0, 0, 0xF7, 0, 1, 0, 0, 0, 5, 0, 0xF8, 0, 1, 0, 0, 0, 30] (by decide)

theorem plainRefresh_canBePassedOn :
    ∃ (a : AnslpMsg RawIpap) (m' : NetMsg) (n : Nat),
      IEManager.deserialize plainRefresh [] false = .ok (some (a, m', n), []) ∧
        a.CanBePassedOn := by
  have hdec : IEManager.deserialize (α := RawIpap) plainRefresh [] false =
      .ok (some (_, _, _), []) := rfl
  refine ⟨_, _, _, hdec, (canBePassedOn_iff hdec).mpr ⟨?_, by decide, ?_, by decide⟩⟩
  · intro t
    cases t <;> decide
  · intro h
    exact absurd h (by decide)

/-- A BIDDING with a message sequence number and nothing else. -/
def emptyBidding : NetMsg :=
  .ofBytes [6, 0, 0, 0, 0, 0xF7, 0, 1, 0, 0, 0, 5] (by decide)

/-- It is decoded without an error, and it does not pass its own check. -/
theorem emptyBidding_not_canBePassedOn :
    ∃ (a : AnslpMsg RawIpap) (m' : NetMsg) (n : Nat),
      IEManager.deserialize emptyBidding [] false = .ok (some (a, m', n), []) ∧
        ¬ a.CanBePassedOn := by
  have hdec : IEManager.deserialize (α := RawIpap) emptyBidding [] false =
      .ok (some (_, _, _), []) := rfl
  refine ⟨_, _, _, hdec, ?_⟩
  rintro ⟨hcheck, -⟩
  exact absurd hcheck (by decide)

end AnslpMsg
end Anslp
