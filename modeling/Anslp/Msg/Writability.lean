import Anslp.Msg.MissingObjects
import Anslp.Msg.Ntlp
import Mathlib.Algebra.Order.BigOperators.Group.List
import Mathlib.Algebra.Order.Group.Nat

/-!
# Messages that can be written

Which messages {lit}`serialize` writes into a buffer of the size they compute for themselves,
as {lit}`create_api_msg` allocates it.  A message must pass the check of its class, all that
its class writes one of must be there, its IPAP message objects must be exported, and its size
must be a number of 32 bits.

Main results:

- Theorem {lit}`HasChecked.serializes_setMspecObjects_iff`: when a message can be written to
  which IPAP message objects were added.
- Theorems {lit}`serializes_create_iff`, {lit}`serializes_bidding_iff`,
  {lit}`serializes_refresh` and {lit}`serializes_success_iff`: when this holds of the messages
  that sessions build.
- Theorem {lit}`not_serializes_responseBody`: a RESPONSE that reports an error cannot be
  written.
- Theorem {lit}`Decodes.serializes_iff`: when a decoded message can be written again.

Current gaps:

- None for the five message classes.
-/

namespace Anslp

open AnslpObject Decoding RoundTrip SerializedSize

section

variable {α : Type} [IpapMessage α]

/-- An IPAP message object passes its check, and its message has been exported. -/
def MspecObject.IsWritable (o : MspecObject α) : Prop :=
  o.toObject.check = true ∧ o.toObject.Exported

/-- IPAP message objects that can be written behind as many bytes: they are writable, and all
bytes together are a number of 32 bits. -/
structure ObjectsFit (size : Nat) (os : List (MspecObject α)) : Prop where
  writable : ∀ o ∈ os, o.IsWritable
  room : size + (os.map fun o => o.toObject.getSerializedSize).sum < 2 ^ 32

/-- No objects fit. -/
theorem ObjectsFit.nil {size : Nat} (h : size < 2 ^ 32) :
    ObjectsFit size ([] : List (MspecObject α)) :=
  ⟨List.forall_mem_nil _, by simpa using h⟩

/-- Fewer objects fit as well. -/
theorem ObjectsFit.subperm {size : Nat} {os os' : List (MspecObject α)} (h : ObjectsFit size os)
    (hsub : os'.Subperm os) : ObjectsFit size os' := by
  refine ⟨fun o ho => h.writable o (hsub.subset ho), ?_⟩
  rcases hsub with ⟨l, hperm, hl⟩
  have hsum := (hperm.map fun o : MspecObject α => o.toObject.getSerializedSize).sum_nat
  have hle := (hl.map fun o : MspecObject α => o.toObject.getSerializedSize).sum_le_sum
    fun _ _ => Nat.zero_le _
  have hroom := h.room
  omega

end

namespace AnslpMsg

variable {α : Type} [IpapMessage α] {a : AnslpMsg α} {v : MsgView α} {t : FixedType}

/-- A message can be written into a buffer of its size, as a number of 32 bits. -/
def Serializes (a : AnslpMsg α) : Prop :=
  ∃ r, a.serialize (.alloc (a.getSerializedSize % 2 ^ 32) a.getSerializedSize_mod_lt) = .ok r

/-- A message has a layout, and its objects of fixed types pass their checks. -/
structure HasChecked (a : AnslpMsg α) (v : MsgView α) : Prop where
  view : a.HasView v
  checked : ∀ t o, v.fixed t = some o → o.check = true

/-! ## Messages with a layout -/

/-- What is written can be written if the slots are filled and the IPAP message objects
are writable. -/
theorem HasChecked.keysWritable_iff (h : a.HasChecked v) :
    KeysWritable a ↔ (∀ t ∈ fixedLayout a.kind, (v.fixed t).isSome = true) ∧
      (writesIpaps a.kind = true → ∀ o ∈ v.ipaps, o.check = true ∧ o.Exported) := by
  constructor
  · intro hkeys
    refine ⟨?_, fun hwrites o ho => hkeys.ipap h.view hwrites ho⟩
    intro t ht
    rcases hkeys.slot h.view ht with ⟨o, ho, _⟩
    exact Option.isSome_iff_exists.mpr ⟨o, ho⟩
  · intro hall key hkey
    rcases List.mem_append.mp hkey with hkey | hkey
    · rcases List.mem_map.mp hkey with ⟨t, ht, rfl⟩
      rcases Option.isSome_iff_exists.mp (hall.1 t ht) with ⟨o, ho⟩
      exact ⟨o, (h.view.store.get_fixed t).trans ho, h.checked t o ho,
        exported_of_fixed (h.view.fixed t o ho)⟩
    · split_ifs at hkey with hwrites
      · rcases List.mem_map.mp hkey with ⟨i, hi, rfl⟩
        have hmax := h.view.store.length_le
        simp only [maxIpaps] at hmax
        rw [List.mem_range, h.view.store.getMaxSequence, UInt32.toNat_ofNat',
          Nat.mod_eq_of_lt (by omega)] at hi
        have hobject := hall.2 hwrites v.ipaps[i] (List.getElem_mem hi)
        exact ⟨_, h.view.store.get_ipap hi, hobject⟩
      · cases hkey

/-- A message with a layout can be written if its check holds, what its class writes can be
written, and its size is a number of 32 bits. -/
theorem HasView.serializes_iff [LawfulIpapMessage α] (h : a.HasView v)
    (hunwritten : ((unwritten a.kind v).map AnslpObject.getSerializedSize).sum < 2 ^ 32) :
    a.Serializes ↔ a.check = true ∧ KeysWritable a ∧ a.getSerializedSize < 2 ^ 32 := by
  have hbuffer := NetMsg.bytesLeft_alloc a.getSerializedSize_mod_lt
  constructor
  · intro hser
    rcases hser with ⟨⟨m', n⟩, hser⟩
    rcases serialize_eq_ok_iff.mp hser with ⟨hcheck, hkeys, hwrite, hn⟩
    have hadd := getSerializedSize_eq_add h hser
    have hroom := (NetMsg.of_write hwrite).1
    rw [List.length_append, Words.length_bytes32, ← hn, hbuffer] at hroom
    exact ⟨hcheck, hkeys, by omega⟩
  · intro hall
    rcases hall with ⟨hcheck, hkeys, hsize⟩
    have hadd := getSerializedSize_eq_add_unwritten h hcheck hkeys
    rcases NetMsg.write_eq
        (m := .alloc (a.getSerializedSize % 2 ^ 32) a.getSerializedSize_mod_lt)
        (Words.bytes32 (header a.kind) ++ a.encodings a.serializedKeys) (by
          rw [hbuffer, Nat.mod_eq_of_lt hsize, List.length_append, Words.length_bytes32]
          omega) with ⟨m', hwrite, _⟩
    exact ⟨_, serialize_eq_ok_iff.mpr ⟨hcheck, hkeys, hwrite, rfl⟩⟩

/-- What a class does not write takes no more than the message. -/
theorem HasView.sum_unwritten_le (h : a.HasView v) :
    ((unwritten a.kind v).map AnslpObject.getSerializedSize).sum ≤ a.getSerializedSize := by
  rw [getSerializedSize_eq, ((perm_values h).map AnslpObject.getSerializedSize).sum_nat]
  simp only [List.map_append, List.sum_append]
  omega

/-! ## Adding IPAP message objects -/

omit [IpapMessage α] in
theorem HasView.setMspecObjects (h : a.HasView v) {os : List (MspecObject α)}
    (hlen : v.ipaps.length + os.length ≤ maxIpaps) :
    (a.setMspecObjects os).HasView
      { v with ipaps := v.ipaps ++ os.map MspecObject.toObject } := by
  induction os generalizing a v with
  | nil => simpa [AnslpMsg.setMspecObjects] using h
  | cons o os ih =>
      rw [List.length_cons] at hlen
      have hset := h.setObject_ipap (isIpap_toObject o) (by omega)
      have htail := ih hset (by
        simp only [MsgView.addIpap, List.length_append, List.length_singleton]
        omega)
      rw [MsgView.addIpap, List.append_assoc] at htail
      exact htail

omit [IpapMessage α] in
theorem numIpaps_le_setMspecObjects (a : AnslpMsg α) (os : List (MspecObject α)) :
    a.numIpaps ≤ (a.setMspecObjects os).numIpaps := by
  induction os generalizing a with
  | nil => exact le_rfl
  | cons o os ih => exact (numIpaps_le_setObject a o.toObject).trans (ih _)

omit [IpapMessage α] in
/-- Too many objects stay too many. -/
theorem HasView.lt_numIpaps_setMspecObjects (h : a.HasView v) {os : List (MspecObject α)}
    (hlen : maxIpaps < v.ipaps.length + os.length) :
    maxIpaps < (a.setMspecObjects os).numIpaps := by
  induction os generalizing a v with
  | nil => exact absurd h.store.length_le (Nat.not_le.mpr hlen)
  | cons o os ih =>
      rw [List.length_cons] at hlen
      by_cases hroom : v.ipaps.length < maxIpaps
      · apply ih (h.setObject_ipap (isIpap_toObject o) hroom)
        simp only [MsgView.addIpap, List.length_append, List.length_singleton]
        omega
      · have heq := le_antisymm h.store.length_le (not_lt.mp hroom)
        exact (h.lt_numIpaps (isIpap_toObject o) heq).trans_le
          (numIpaps_le_setMspecObjects _ os)

theorem four_mul_length_le_sum (os : List (AnslpObject α)) :
    4 * os.length ≤ (os.map AnslpObject.getSerializedSize).sum := by
  induction os with
  | nil => exact Nat.zero_le _
  | cons o os ih =>
      have hfour := four_le_getSerializedSize o
      rw [List.length_cons, List.map_cons, List.sum_cons]
      omega

theorem HasView.getSerializedSize_eq (h : a.HasView v) :
    a.getSerializedSize =
      4 + (((FixedType.all.filterMap v.fixed).map AnslpObject.getSerializedSize).sum +
        (v.ipaps.map AnslpObject.getSerializedSize).sum) := by
  rw [AnslpMsg.getSerializedSize_eq, values_eq h, List.map_append, List.sum_append]

/-- A message to which IPAP message objects were added can be written if its check holds, the
slots of its class are filled, and all its objects are writable and fit. -/
theorem HasChecked.serializes_setMspecObjects_iff [LawfulIpapMessage α] (h : a.HasChecked v)
    (hwrites : writesIpaps a.kind = true) (hsize : a.getSerializedSize < 2 ^ 32)
    (os : List (MspecObject α)) :
    (a.setMspecObjects os).Serializes ↔ (a.setMspecObjects os).check = true ∧
      (∀ t ∈ fixedLayout a.kind, (v.fixed t).isSome = true) ∧
      (∀ o ∈ v.ipaps, o.check = true ∧ o.Exported) ∧ ObjectsFit a.getSerializedSize os := by
  have hmap : (os.map MspecObject.toObject).map AnslpObject.getSerializedSize =
      os.map fun o => o.toObject.getSerializedSize := by
    rw [List.map_map]
    rfl
  by_cases hlen : v.ipaps.length + os.length ≤ maxIpaps
  · have hview := h.view.setMspecObjects hlen
    have hchecked : (a.setMspecObjects os).HasChecked
        { v with ipaps := v.ipaps ++ os.map MspecObject.toObject } := ⟨hview, h.checked⟩
    have hadd : (a.setMspecObjects os).getSerializedSize =
        a.getSerializedSize + (os.map fun o => o.toObject.getSerializedSize).sum := by
      rw [hview.getSerializedSize_eq, h.view.getSerializedSize_eq, List.map_append,
        List.sum_append, hmap]
      simp only [Nat.add_assoc]
    have hunwritten : ((unwritten (a.setMspecObjects os).kind
        { v with ipaps := v.ipaps ++ os.map MspecObject.toObject }).map
          AnslpObject.getSerializedSize).sum < 2 ^ 32 := by
      rw [kind_setMspecObjects]
      exact h.view.sum_unwritten_le.trans_lt hsize
    rw [hview.serializes_iff hunwritten, hchecked.keysWritable_iff, kind_setMspecObjects, hadd]
    constructor
    · intro hall
      rcases hall with ⟨hcheck, ⟨hslots, hipaps⟩, hroom⟩
      have hobjects := List.forall_mem_append.mp (hipaps hwrites)
      exact ⟨hcheck, hslots, hobjects.1, fun o ho => hobjects.2 _ (List.mem_map_of_mem ho), hroom⟩
    · intro hall
      rcases hall with ⟨hcheck, hslots, hipaps, hfit⟩
      refine ⟨hcheck, ⟨hslots, fun _ => List.forall_mem_append.mpr ⟨hipaps, ?_⟩⟩, hfit.room⟩
      exact List.forall_mem_map.mpr hfit.writable
  · have hmany : maxIpaps < (a.setMspecObjects os).numIpaps :=
      h.view.lt_numIpaps_setMspecObjects (not_le.mp hlen)
    refine iff_of_false (fun hser => ?_) fun hall => ?_
    · rcases hser with ⟨r, hr⟩
      have hlaid : (a.setMspecObjects os).IsLaidOut :=
        Or.inr ⟨by rw [kind_setMspecObjects, hwrites], hmany⟩
      rw [← serializeWith_none] at hr
      rcases hlaid.of_serializeWith hr with ⟨v', hview', _⟩
      exact absurd hview'.numIpaps_le (Nat.not_le.mpr hmany)
    · have hroom := hall.2.2.2.room
      have hnew := four_mul_length_le_sum (os.map MspecObject.toObject)
      have hold := four_mul_length_le_sum v.ipaps
      rw [hmap, List.length_map] at hnew
      rw [h.view.getSerializedSize_eq] at hroom
      simp only [maxIpaps] at hlen
      omega

/-! ## Messages that sessions build -/

theorem hasChecked_new (kind : MsgKind) : (new kind : AnslpMsg α).HasChecked MsgView.empty :=
  ⟨hasView_new kind, by simp [MsgView.empty]⟩

theorem HasChecked.setFixed (h : a.HasChecked v) {b : Body α} (hb : b.fixedType? = some t)
    (hcheck : (fixedObject t b).check = true) :
    (a.setObject (fixedObject t b)).HasChecked (v.setFixed t (fixedObject t b)) where
  view := h.view.setObject_fixed (isFixed_fixedObject hb)
  checked := by
    intro u o ho
    by_cases hu : u = t
    · subst hu
      simp only [MsgView.setFixed, Function.update_self, Option.some.injEq] at ho
      exact ho ▸ hcheck
    · simp only [MsgView.setFixed, Function.update_of_ne hu] at ho
      exact h.checked u o ho

omit [IpapMessage α] in
/-- The check of a CREATE asks for all that its class writes one of. -/
theorem HasView.check_create_iff (h : a.HasView v) (hkind : a.kind = .create) :
    a.check = true ↔ ∀ t ∈ fixedLayout a.kind, (v.fixed t).isSome = true := by
  simp only [check, hkind, Bool.and_eq_true, includes_fixed h, fixedLayout, List.forall_mem_cons]
  grind

omit [IpapMessage α] in
/-- The check of a BIDDING asks for a sequence number and an IPAP message object. -/
theorem HasView.check_bidding_iff (h : a.HasView v) (hkind : a.kind = .bidding) :
    a.check = true ↔ (v.fixed .msgSequenceNumber).isSome = true ∧ v.ipaps ≠ [] := by
  simp only [check, hkind, Bool.and_eq_true, includes_fixed h, includes_ipap h]

omit [IpapMessage α] in
/-- The check of a RESPONSE asks that there are no objects of other types than it writes. -/
theorem HasView.check_response_iff (h : a.HasView v) (hkind : a.kind = .response) :
    a.check = true ↔ ∀ t, (v.fixed t).isSome = true → t ∈ fixedLayout .response := by
  simp only [check, hkind, List.all_eq_true]
  constructor
  · intro hall t ht
    have hkey := hall t.key (h.store.mem_keys.mpr (Or.inl ⟨t, ht, rfl⟩))
    revert hkey
    cases t <;> decide
  · intro hslots key hkey
    rcases h.store.mem_keys.mp hkey with ⟨t, ht, rfl⟩ | ⟨i, _, rfl⟩
    · have hmem := hslots t ht
      revert hmem
      cases t <;> decide
    · simp [ipapKey]

/-- The objects of the other types pass their checks, whatever their values. -/
theorem check_fixedObject {b : Body α} (hb : b.fixedType? = some t)
    (hcode : t ≠ .informationCode) : (fixedObject t b).check = true := by
  have htype : ¬ t.objectType &&& 0xF000 ≠ 0 := by
    cases t <;> decide
  refine (if_neg htype).trans ?_
  cases b with
  | informationCode => exact absurd (Option.some.inj hb).symm hcode
  | ipapMessage => cases hb
  | _ => rfl

/-- A body of a class made with its setters, before IPAP message objects are added: the slots
that are filled. -/
structure Holds (a : AnslpMsg α) (kind : MsgKind) (slots : List FixedType) : Prop where
  kind : a.kind = kind
  view : ∃ v, a.HasChecked v ∧ v.ipaps = [] ∧ ∀ t, (v.fixed t).isSome = true ↔ t ∈ slots

theorem holds_new (kind : MsgKind) : (new kind : AnslpMsg α).Holds kind [] :=
  ⟨rfl, _, hasChecked_new kind, rfl, by simp [MsgView.empty]⟩

theorem Holds.setFixed {kind : MsgKind} {slots : List FixedType} (h : a.Holds kind slots)
    {b : Body α} (hb : b.fixedType? = some t) (hcheck : (fixedObject t b).check = true) :
    (a.setObject (fixedObject t b)).Holds kind (t :: slots) := by
  rcases h.view with ⟨v, hchecked, hipaps, hslots⟩
  refine ⟨(kind_setObject _ _).trans h.kind, _, hchecked.setFixed hb hcheck, hipaps, ?_⟩
  intro u
  by_cases hu : u = t
  · simp [MsgView.setFixed, hu]
  · simp [MsgView.setFixed, hslots, hu]

theorem Holds.setWord {kind : MsgKind} {slots : List FixedType} (h : a.Holds kind slots)
    {b : Body α} (hb : b.fixedType? = some t) (hcode : t ≠ .informationCode) :
    (a.setObject (fixedObject t b)).Holds kind (t :: slots) :=
  h.setFixed hb (check_fixedObject hb hcode)

/-- Each of these objects takes up two words. -/
theorem getSerializedSize_of_isFixed {o : AnslpObject α} (h : o.IsFixed t) :
    o.getSerializedSize = 8 := by
  have hfixed := h.fixedType
  unfold AnslpObject.getSerializedSize
  cases hb : o.body with
  | ipapMessage message =>
      rw [hb] at hfixed
      cases hfixed
  | _ => rfl

theorem sum_fixed_eq (h : a.HasView v) (ts : List FixedType) :
    ((ts.filterMap v.fixed).map AnslpObject.getSerializedSize).sum =
      8 * ts.countP fun t => (v.fixed t).isSome := by
  induction ts with
  | nil => rfl
  | cons t ts ih =>
      cases ho : v.fixed t with
      | none => simp [ho, ih]
      | some o =>
          have hsize := getSerializedSize_of_isFixed (h.fixed t o ho)
          simp only [List.filterMap_cons_some ho, List.map_cons, List.sum_cons, hsize, ih,
            List.countP_cons, ho, Option.isSome_some, if_true]
          omega

theorem Holds.getSerializedSize_eq {kind : MsgKind} {slots : List FixedType}
    (h : a.Holds kind slots) :
    a.getSerializedSize = 4 + 8 * FixedType.all.countP fun t => t ∈ slots := by
  rcases h.view with ⟨v, hchecked, hipaps, hslots⟩
  have hcount : (FixedType.all.countP fun t => (v.fixed t).isSome) =
      FixedType.all.countP fun t => t ∈ slots :=
    List.countP_congr fun t _ => (hslots t).trans decide_eq_true_iff.symm
  rw [hchecked.view.getSerializedSize_eq, hipaps, sum_fixed_eq hchecked.view, hcount]
  rfl

/-- Objects that fit are not too many. -/
theorem length_le_of_objectsFit {size : Nat} {os : List (MspecObject α)}
    (h : ObjectsFit size os) : os.length ≤ maxIpaps := by
  have hroom := h.room
  have hfour := four_mul_length_le_sum (os.map MspecObject.toObject)
  rw [List.length_map, List.map_map] at hfour
  simp only [Function.comp_def] at hfour
  rw [maxIpaps]
  omega

/-- The layout of a body to which objects that fit were added. -/
theorem Holds.setMspecObjects {kind : MsgKind} {slots : List FixedType} {size : Nat}
    {os : List (MspecObject α)} (h : a.Holds kind slots) (hfit : ObjectsFit size os) :
    ∃ v, (a.setMspecObjects os).HasView v ∧ (∀ t, (v.fixed t).isSome = true ↔ t ∈ slots) ∧
      v.ipaps = os.map MspecObject.toObject := by
  rcases h.view with ⟨v, hchecked, hipaps, hslots⟩
  have hlen := length_le_of_objectsFit hfit
  refine ⟨_, hchecked.view.setMspecObjects (by rw [hipaps, List.length_nil]; omega), hslots, ?_⟩
  rw [hipaps, List.nil_append]

/-- Such a body can be written if its check holds, its slots are those of its class, and the
objects fit. -/
theorem Holds.serializes_iff [LawfulIpapMessage α] {kind : MsgKind} {slots : List FixedType}
    (h : a.Holds kind slots) (hwrites : writesIpaps kind = true) (os : List (MspecObject α)) :
    (a.setMspecObjects os).Serializes ↔ (a.setMspecObjects os).check = true ∧
      (∀ t ∈ fixedLayout kind, t ∈ slots) ∧ ObjectsFit a.getSerializedSize os := by
  have hsize : a.getSerializedSize < 2 ^ 32 := by
    have hle : (FixedType.all.countP fun t => t ∈ slots) ≤ FixedType.all.length :=
      List.countP_le_length
    rw [show FixedType.all.length = 5 by rfl] at hle
    rw [h.getSerializedSize_eq]
    omega
  rcases h.view with ⟨v, hchecked, hipaps, hslots⟩
  rw [hchecked.serializes_setMspecObjects_iff (h.kind ▸ hwrites) hsize, hipaps, h.kind]
  simp only [hslots, List.not_mem_nil, false_imp_iff, implies_true, true_and]

/-- A CREATE can be written if its IPAP message objects are writable and fit. -/
theorem serializes_create_iff [LawfulIpapMessage α] (lifetime msn selection hops : UInt32)
    (os : List (MspecObject α)) :
    ((((((new .create : AnslpMsg α).setSessionLifetime lifetime).setMsgSequenceNumber
      msn).setSelectionAuctioningEntities selection).setMessageHopCount hops).setMspecObjects
        os).Serializes ↔ ObjectsFit 36 os := by
  have hlifetime : ((new .create : AnslpMsg α).setSessionLifetime lifetime).Holds
      .create [.sessionLifetime] :=
    (holds_new .create).setWord rfl (by decide)
  have hmsn : (((new .create : AnslpMsg α).setSessionLifetime lifetime).setMsgSequenceNumber
      msn).Holds .create [.msgSequenceNumber, .sessionLifetime] :=
    hlifetime.setWord rfl (by decide)
  have hselection : ((((new .create : AnslpMsg α).setSessionLifetime
      lifetime).setMsgSequenceNumber msn).setSelectionAuctioningEntities selection).Holds
        .create [.selectionAuctioningEntities, .msgSequenceNumber, .sessionLifetime] :=
    hmsn.setWord rfl (by decide)
  have hholds : (((((new .create : AnslpMsg α).setSessionLifetime
      lifetime).setMsgSequenceNumber msn).setSelectionAuctioningEntities
        selection).setMessageHopCount hops).Holds
          .create [.messageHopCount, .selectionAuctioningEntities, .msgSequenceNumber,
            .sessionLifetime] :=
    hselection.setWord rfl (by decide)
  rw [hholds.serializes_iff rfl, hholds.getSerializedSize_eq]
  constructor
  · intro hall
    exact hall.2.2
  · intro hfit
    rcases hholds.setMspecObjects hfit with ⟨v, hview, hslots, _⟩
    have hkind := (kind_setMspecObjects _ os).trans hholds.kind
    refine ⟨(hview.check_create_iff hkind).mpr ?_, by decide, hfit⟩
    rw [hkind]
    simp only [hslots]
    decide

/-- A BIDDING can be written if it has IPAP message objects that are writable and fit. -/
theorem serializes_bidding_iff [LawfulIpapMessage α] (msn : UInt32)
    (os : List (MspecObject α)) :
    (((new .bidding : AnslpMsg α).setMsgSequenceNumber msn).setMspecObjects os).Serializes ↔
      os ≠ [] ∧ ObjectsFit 12 os := by
  have hholds : ((new .bidding : AnslpMsg α).setMsgSequenceNumber msn).Holds
      .bidding [.msgSequenceNumber] :=
    (holds_new .bidding).setWord rfl (by decide)
  rw [hholds.serializes_iff rfl, hholds.getSerializedSize_eq]
  have hcheck : ObjectsFit 12 os → ((((new .bidding : AnslpMsg α).setMsgSequenceNumber
      msn).setMspecObjects os).check = true ↔ os ≠ []) := by
    intro hfit
    rcases hholds.setMspecObjects hfit with ⟨v, hview, hslots, hipaps⟩
    rw [hview.check_bidding_iff ((kind_setMspecObjects _ os).trans hholds.kind), hslots, hipaps]
    simp
  constructor
  · intro hall
    exact ⟨(hcheck hall.2.2).mp hall.1, hall.2.2⟩
  · intro hall
    exact ⟨(hcheck hall.2).mpr hall.1, by decide, hall.2⟩

/-- A REFRESH can be written. -/
theorem serializes_refresh [LawfulIpapMessage α] (lifetime msn : UInt32) :
    (((new .refresh : AnslpMsg α).setSessionLifetime lifetime).setMsgSequenceNumber
      msn).Serializes := by
  have hlifetime : ((new .refresh : AnslpMsg α).setSessionLifetime lifetime).Holds
      .refresh [.sessionLifetime] :=
    (holds_new .refresh).setWord rfl (by decide)
  have hholds : (((new .refresh : AnslpMsg α).setSessionLifetime lifetime).setMsgSequenceNumber
      msn).Holds .refresh [.msgSequenceNumber, .sessionLifetime] :=
    hlifetime.setWord rfl (by decide)
  have hsize := hholds.getSerializedSize_eq
  rw [show (FixedType.all.countP fun t =>
    t ∈ [FixedType.msgSequenceNumber, .sessionLifetime]) = 2 by decide] at hsize
  rcases hholds.view with ⟨v, hchecked, _, hslots⟩
  have hle := hchecked.view.sum_unwritten_le
  rw [hchecked.view.serializes_iff (by omega), hchecked.keysWritable_iff]
  refine ⟨rfl, ⟨?_, fun hwrites => by cases hwrites⟩, by omega⟩
  rw [hholds.kind]
  simp only [hslots]
  decide

/-- The slots of the RESPONSE to a message. -/
theorem holds_responseBody {m : NtlpMsg α} (ha : m.msg = some a) {severity responseCode : UInt8}
    (hcheck : (fixedObject .informationCode
      (.informationCode severity responseCode 0) : AnslpObject α).check = true) :
    (m.responseBody severity responseCode).Holds .response
      (if a.hasMsgSequenceNumber then [.msgSequenceNumber, .informationCode]
        else [.informationCode]) := by
  have hcode : ((new .response : AnslpMsg α).setInformationCode severity responseCode
      0).Holds .response [.informationCode] :=
    (holds_new .response).setFixed rfl hcheck
  unfold NtlpMsg.responseBody
  rw [ha]
  dsimp only
  split_ifs
  · exact hcode.setWord rfl (by decide)
  · exact hcode

/-- A RESPONSE that reports success can be written if the message it answers has a sequence
number, and its IPAP message objects are writable and fit. -/
theorem serializes_success_iff [LawfulIpapMessage α] {m : NtlpMsg α} (ha : m.msg = some a)
    (lifetime : UInt32) (os : List (MspecObject α)) :
    ((m.successBody lifetime).setMspecObjects os).Serializes ↔
      a.hasMsgSequenceNumber = true ∧ ObjectsFit 28 os := by
  have hcode : (fixedObject .informationCode
      (.informationCode scSuccess sucSuccessfullyProcessed 0) : AnslpObject α).check = true := by
    have htype : ¬ FixedType.informationCode.objectType &&& 0xF000 ≠ 0 := by decide
    exact (if_neg htype).trans rfl
  have hholds : (m.successBody lifetime).Holds .response (.sessionLifetime ::
      if a.hasMsgSequenceNumber then [.msgSequenceNumber, .informationCode]
        else [.informationCode]) :=
    (holds_responseBody ha hcode).setWord rfl (by decide)
  rw [hholds.serializes_iff rfl, hholds.getSerializedSize_eq]
  by_cases hmsn : a.hasMsgSequenceNumber = true
  · simp only [hmsn, if_true] at hholds ⊢
    constructor
    · intro hall
      exact ⟨trivial, hall.2.2⟩
    · intro hall
      rcases hholds.setMspecObjects hall.2 with ⟨v, hview, hslots, _⟩
      refine ⟨(hview.check_response_iff ((kind_setMspecObjects _ os).trans hholds.kind)).mpr ?_,
        by decide, hall.2⟩
      intro t ht
      rw [hslots] at ht
      revert ht
      cases t <;> decide
  · simp only [hmsn]
    refine iff_of_false (fun hall => ?_) fun hall => by cases hall.1
    have hmem := hall.2.1 .msgSequenceNumber (by decide)
    revert hmem
    decide

/-- A RESPONSE that reports an error cannot be written: it has no session lifetime. -/
theorem not_serializes_responseBody (m : NtlpMsg α) (severity responseCode : UInt8) :
    ¬ (m.responseBody severity responseCode).Serializes := by
  rintro ⟨⟨m', n⟩, hser⟩
  rcases serialize_eq_ok_iff.mp hser with ⟨_, hkeys, _⟩
  have hmem : FixedType.sessionLifetime.key ∈
      (m.responseBody severity responseCode).serializedKeys := by
    rw [serializedKeys, m.kind_responseBody]
    exact List.mem_append_left _ (List.mem_map_of_mem (by decide))
  rcases hkeys _ hmem with ⟨o, ho, _⟩
  have hnone := (m.contents_responseBody severity responseCode).getBody .sessionLifetime
  rw [getBody?, ho] at hnone
  cases hnone

/-! ## Decoded messages -/

/-- A message that comes from the decoder. -/
def Decodes (a : AnslpMsg α) : Prop :=
  ∃ (m m' : NetMsg) (err err' : IEErrorList) (n : Nat),
    IEManager.deserialize m err false = .ok (some (a, m', n), err')

/-- A message passes its check, has all that its class writes one of, and its objects pass
their checks. -/
structure IsWhole (a : AnslpMsg α) : Prop where
  check : a.check = true
  slots : ∀ t ∈ fixedLayout a.kind, (a.objects.get t.key).isSome = true
  objects : ∀ o ∈ a.objects.values, o.check = true

theorem Decodes.hasChecked [LawfulIpapMessage α] (h : a.Decodes) :
    ∃ v, a.HasChecked v ∧ (∀ o ∈ v.ipaps, o.Exported) ∧ a.getSerializedSize < 2 ^ 32 := by
  rcases h with ⟨m, m', err, err', n, hdec⟩
  rcases deserialize_reading hdec with ⟨v, seen, hread⟩
  rcases deserialize_size hdec with ⟨hle, hbytes⟩
  have hlt := m.bytesLeft_lt
  exact ⟨v, ⟨hread.view, hread.checked⟩,
    fun o ho => (exported_of_imported (hread.imported o ho)).1, by omega⟩

theorem HasChecked.isWhole_iff (h : a.HasChecked v) (hcheck : a.check = true) :
    a.IsWhole ↔ (∀ t ∈ fixedLayout a.kind, (v.fixed t).isSome = true) ∧
      ∀ o ∈ v.ipaps, o.check = true := by
  have hvalue : ∀ o ∈ v.ipaps, o ∈ a.objects.values := by
    intro o ho
    rw [values_eq h.view]
    exact List.mem_append_right _ ho
  constructor
  · intro hwhole
    refine ⟨?_, fun o ho => hwhole.objects o (hvalue o ho)⟩
    intro t ht
    rw [← h.view.store.get_fixed]
    exact hwhole.slots t ht
  · intro hall
    refine ⟨hcheck, ?_, ?_⟩
    · intro t ht
      rw [h.view.store.get_fixed]
      exact hall.1 t ht
    · intro o ho
      rcases mem_values h.view ho with ⟨t, ht⟩ | ho
      · exact h.checked t o ht
      · exact hall.2 o ho

/-- A decoded message can be written if it is whole. -/
theorem Decodes.serializes_iff [LawfulIpapMessage α] (h : a.Decodes) :
    a.Serializes ↔ a.IsWhole := by
  rcases h.hasChecked with ⟨v, hchecked, hexported, hsize⟩
  rw [hchecked.view.serializes_iff (hchecked.view.sum_unwritten_le.trans_lt hsize),
    hchecked.keysWritable_iff]
  constructor
  · intro hall
    rcases hall with ⟨hcheck, ⟨hslots, hipaps⟩, _⟩
    refine (hchecked.isWhole_iff hcheck).mpr ⟨hslots, ?_⟩
    intro o ho
    by_cases hwrites : writesIpaps a.kind = true
    · exact (hipaps hwrites o ho).1
    · rw [ipaps_eq_nil_of_check hchecked.view hcheck (Bool.eq_false_iff.mpr hwrites)] at ho
      cases ho
  · intro hwhole
    rcases (hchecked.isWhole_iff hwhole.check).mp hwhole with ⟨hslots, hipaps⟩
    exact ⟨hwhole.check, ⟨hslots, fun _ o ho => ⟨hipaps o ho, hexported o ho⟩⟩, hsize⟩

/-- A decoded RESPONSE to which IPAP message objects were added can be written if it is whole
and the objects fit behind it. -/
theorem Decodes.serializes_setMspecObjects_iff [LawfulIpapMessage α] (h : a.Decodes)
    (hkind : a.kind = .response) (os : List (MspecObject α)) :
    (a.setMspecObjects os).Serializes ↔ a.IsWhole ∧ ObjectsFit a.getSerializedSize os := by
  rcases h.hasChecked with ⟨v, hchecked, hexported, hsize⟩
  rw [hchecked.serializes_setMspecObjects_iff (by rw [hkind]; rfl) hsize]
  have hcheck : ObjectsFit a.getSerializedSize os →
      ((a.setMspecObjects os).check = true ↔ a.check = true) := by
    intro hfit
    have hroom := hfit.room
    have hold := four_mul_length_le_sum v.ipaps
    have hnew := four_mul_length_le_sum (os.map MspecObject.toObject)
    rw [List.length_map, List.map_map] at hnew
    simp only [Function.comp_def] at hnew
    rw [hchecked.view.getSerializedSize_eq] at hroom
    have hlen : v.ipaps.length + os.length ≤ maxIpaps := by
      rw [maxIpaps]
      omega
    have hview := hchecked.view.setMspecObjects hlen
    rw [hview.check_response_iff ((kind_setMspecObjects _ _).trans hkind),
      hchecked.view.check_response_iff hkind]
  constructor
  · intro hall
    rcases hall with ⟨hextended, hslots, hipaps, hfit⟩
    exact ⟨(hchecked.isWhole_iff ((hcheck hfit).mp hextended)).mpr
      ⟨hslots, fun o ho => (hipaps o ho).1⟩, hfit⟩
  · intro hall
    rcases (hchecked.isWhole_iff hall.1.check).mp hall.1 with ⟨hslots, hipaps⟩
    exact ⟨(hcheck hall.2).mpr hall.1.check, hslots,
      fun o ho => ⟨hipaps o ho, hexported o ho⟩, hall.2⟩

end AnslpMsg
end Anslp
