import Anslp.Lib.OrderedMap
import Anslp.Msg.Object
import Mathlib.Order.Nat

/-!
# The object store of a message

A message keeps its objects in an ordered map under keys of an object type and a
sequence number.  The map compares keys by the sum of the two, a 32 bit sum.  The
second half of the module gives the layout that stores of registered objects have:
one slot for each object type that occurs once at most, and the IPAP message objects
behind them in the order they were added.

Main results:

- Theorems {lit}`HasView.set_fixed` and {lit}`HasView.set_ipap`: what adding an object
  does to the layout.
- Theorems {lit}`HasView.get_fixed`, {lit}`HasView.get_ipap` and
  {lit}`HasView.getMaxSequence`: look-ups in terms of the layout.
- Theorem {lit}`HasView.eq`: the layout determines the store.

Current gaps:

- None for the calls that messages make.
-/

namespace Anslp

/-- The key of a stored object. -/
structure IeObjectKey where
  objectType : UInt32
  seqNbr : UInt32
deriving DecidableEq, Repr

/-- Keys are compared by the sum of their fields. -/
def IeObjectKey.rank (k : IeObjectKey) : Nat :=
  (k.objectType + k.seqNbr).toNat

/-- The objects of a message under their keys. -/
abbrev IeStore (α : Type) :=
  OrderedMap IeObjectKey.rank (AnslpObject α)

namespace IeStore

variable {α : Type}

/-- The object stored under a key. -/
def get (s : IeStore α) (key : IeObjectKey) : Option (AnslpObject α) :=
  s.find? key

/-- Store an object under a key. -/
def set (s : IeStore α) (key : IeObjectKey) (o : AnslpObject α) : IeStore α :=
  s.insert key o

/-- Remove the object under a key, giving it back. -/
def remove (s : IeStore α) (key : IeObjectKey) : Option (AnslpObject α) × IeStore α :=
  (s.find? key, s.erase key)

/-- The largest sequence number among the keys of an object type, 0 if there is none. -/
def getMaxSequence (s : IeStore α) (id : UInt32) : UInt32 :=
  s.keys.foldl
    (fun result key =>
      if key.objectType = id ∧ result ≤ key.seqNbr then key.seqNbr else result) 0

/-- Two stores are equal when they have one size and every object of the first is
equal to the one the second has under its key. -/
def equals [DecidableEq α] (s s' : IeStore α) : Bool :=
  s.size == s'.size && s.entries.all fun e =>
    match s'.get e.1 with
    | none => false
    | some other => e.2.equals other

end IeStore

/-! ## Layout of stores with registered objects -/

/-- The key of an object that a message holds one of. -/
def FixedType.key (t : FixedType) : IeObjectKey :=
  ⟨t.objectType.toUInt32, 1⟩

/-- The key of the IPAP message object with the given number, counted from 1. -/
def ipapKey (i : Nat) : IeObjectKey :=
  ⟨ipapObjectType.toUInt32, UInt32.ofNat i⟩

/-- The objects of a message: one of each fixed type at most, and IPAP message objects
in their order. -/
structure MsgView (α : Type) where
  fixed : FixedType → Option (AnslpObject α)
  ipaps : List (AnslpObject α)

namespace MsgView

variable {α : Type}

/-- The entries of the slots. -/
def fixedEntries (v : MsgView α) : List (IeObjectKey × AnslpObject α) :=
  FixedType.all.filterMap fun t => (v.fixed t).map (t.key, ·)

/-- The entries of the IPAP message objects, numbered from 1. -/
def ipapEntries (v : MsgView α) : List (IeObjectKey × AnslpObject α) :=
  v.ipaps.zipIdx.map fun p => (ipapKey (p.2 + 1), p.1)

/-- No object at all. -/
def empty : MsgView α :=
  ⟨fun _ => none, []⟩

/-- Fill a slot. -/
def setFixed (v : MsgView α) (t : FixedType) (o : AnslpObject α) : MsgView α :=
  { v with fixed := Function.update v.fixed t (some o) }

/-- Add an IPAP message object. -/
def addIpap (v : MsgView α) (o : AnslpObject α) : MsgView α :=
  { v with ipaps := v.ipaps ++ [o] }

end MsgView

/-- More IPAP message objects than a buffer can hold, and few enough for their
sequence numbers not to wrap around. -/
def maxIpaps : Nat :=
  2 ^ 31

theorem rank_ipapKey {i : Nat} (h : i ≤ maxIpaps + 1) : (ipapKey i).rank = 0xF9 + i := by
  simp only [maxIpaps] at h
  simp only [ipapKey, IeObjectKey.rank, UInt32.toNat_add, UInt32.toNat_ofNat']
  have hF9 : ipapObjectType.toUInt32.toNat = 0xF9 := by decide
  omega

theorem rank_key_lt (t : FixedType) : t.key.rank ≤ 0xF9 := by
  cases t <;> decide

theorem key_injective {t u : FixedType} (h : t.key.rank = u.key.rank) : t = u := by
  cases t <;> cases u <;> first | rfl | exact absurd h (by decide)

theorem pairwise_key : FixedType.all.Pairwise fun t u => t.key.rank < u.key.rank := by
  decide

namespace IeStore

variable {α : Type} {s : IeStore α} {v : MsgView α}

/-- A store has the entries of a layout, and not too many of them. -/
structure HasView (s : IeStore α) (v : MsgView α) : Prop where
  entries : s.entries = v.fixedEntries ++ v.ipapEntries
  length_le : v.ipaps.length ≤ maxIpaps

/-- The layout determines the store. -/
theorem HasView.eq {s' : IeStore α} (h : s.HasView v) (h' : s'.HasView v) : s = s' :=
  OrderedMap.ext (h.entries.trans h'.entries.symm)

theorem hasView_empty : HasView (OrderedMap.empty : IeStore α) MsgView.empty :=
  ⟨rfl, Nat.zero_le _⟩

theorem mem_fixedEntries {e : IeObjectKey × AnslpObject α} :
    e ∈ v.fixedEntries ↔ ∃ t, v.fixed t = some e.2 ∧ e.1 = t.key := by
  simp only [MsgView.fixedEntries, List.mem_filterMap, Option.map_eq_some_iff]
  constructor
  · rintro ⟨t, _, o, ho, rfl⟩
    exact ⟨t, ho, rfl⟩
  · rintro ⟨t, ho, hk⟩
    exact ⟨t, t.mem_all, e.2, ho, by rw [← hk]⟩

theorem mem_ipapEntries {e : IeObjectKey × AnslpObject α} :
    e ∈ v.ipapEntries ↔ ∃ i, v.ipaps[i]? = some e.2 ∧ e.1 = ipapKey (i + 1) := by
  simp only [MsgView.ipapEntries, List.mem_map, Prod.exists, List.mem_zipIdx_iff_getElem?]
  constructor
  · rintro ⟨o, i, ho, rfl⟩
    exact ⟨i, ho, rfl⟩
  · rintro ⟨i, ho, hk⟩
    exact ⟨e.2, i, ho, by rw [← hk]⟩

theorem HasView.mem_entries (h : s.HasView v) {e : IeObjectKey × AnslpObject α} :
    e ∈ s.entries ↔ (∃ t, v.fixed t = some e.2 ∧ e.1 = t.key) ∨
      ∃ i, v.ipaps[i]? = some e.2 ∧ e.1 = ipapKey (i + 1) := by
  rw [h.entries, List.mem_append, mem_fixedEntries, mem_ipapEntries]

private theorem HasView.index_lt (h : s.HasView v) {i : Nat} {o : AnslpObject α}
    (hi : v.ipaps[i]? = some o) : i + 1 ≤ maxIpaps + 1 :=
  Nat.le_succ_of_le (Nat.le_trans (List.getElem?_eq_some_iff.mp hi).1 h.length_le)

/-- The ranks of the IPAP message objects are above those of the slots. -/
theorem HasView.rank_lt_of_ipap (h : s.HasView v) {e : IeObjectKey × AnslpObject α}
    (he : e ∈ v.ipapEntries) : 0xF9 < e.1.rank := by
  obtain ⟨i, hi, hk⟩ := mem_ipapEntries.mp he
  rw [hk, rank_ipapKey (h.index_lt hi)]
  omega

theorem HasView.get_fixed (h : s.HasView v) (t : FixedType) : s.get t.key = v.fixed t := by
  cases hf : v.fixed t with
  | some o => exact OrderedMap.find?_of_mem (h.mem_entries.mpr (Or.inl ⟨t, hf, rfl⟩)) rfl
  | none =>
      cases hg : s.get t.key with
      | none => rfl
      | some o =>
          exfalso
          obtain ⟨k, hk, hmem⟩ := OrderedMap.find?_eq_some hg
          rcases h.mem_entries.mp hmem with ⟨u, hu, rfl⟩ | ⟨i, hi, rfl⟩
          · rw [key_injective hk, hf] at hu
            cases hu
          · have hle := rank_key_lt t
            rw [← hk, rank_ipapKey (h.index_lt hi)] at hle
            omega

theorem HasView.get_ipap (h : s.HasView v) {i : Nat} (hi : i < v.ipaps.length) :
    s.get (ipapKey (i + 1)) = some v.ipaps[i] :=
  OrderedMap.find?_of_mem
    (h.mem_entries.mpr (Or.inr ⟨i, List.getElem?_eq_getElem hi, rfl⟩)) rfl

theorem HasView.ipaps_ne_nil_of_get (h : s.HasView v)
    (hget : (s.get (ipapKey 1)).isSome = true) : v.ipaps ≠ [] := by
  obtain ⟨o, ho⟩ := Option.isSome_iff_exists.mp hget
  obtain ⟨k, hk, hmem⟩ := OrderedMap.find?_eq_some ho
  rintro hnil
  rcases h.mem_entries.mp hmem with ⟨t, _, rfl⟩ | ⟨i, hi, _⟩
  · exact absurd hk (by cases t <;> decide)
  · simp [hnil] at hi

theorem HasView.mem_keys (h : s.HasView v) {k : IeObjectKey} :
    k ∈ s.keys ↔ (∃ t, (v.fixed t).isSome ∧ k = t.key) ∨
      ∃ i, i < v.ipaps.length ∧ k = ipapKey (i + 1) := by
  simp only [OrderedMap.keys, List.mem_map, h.mem_entries]
  constructor
  · rintro ⟨⟨k, o⟩, ⟨t, ho, rfl⟩ | ⟨i, hi, rfl⟩, rfl⟩
    · exact Or.inl ⟨t, by simp_all, rfl⟩
    · exact Or.inr ⟨i, (List.getElem?_eq_some_iff.mp hi).1, rfl⟩
  · rintro (⟨t, ht, rfl⟩ | ⟨i, hi, rfl⟩)
    · obtain ⟨o, ho⟩ := Option.isSome_iff_exists.mp ht
      exact ⟨(t.key, o), Or.inl ⟨t, ho, rfl⟩, rfl⟩
    · exact ⟨(ipapKey (i + 1), v.ipaps[i]),
        Or.inr ⟨i, List.getElem?_eq_getElem hi, rfl⟩, rfl⟩

/-- Filling a slot. -/
theorem HasView.set_fixed (h : s.HasView v) (t : FixedType) (o : AnslpObject α) :
    (s.set t.key o).HasView (v.setFixed t o) where
  entries := by
    have hipap : (v.setFixed t o).ipapEntries = v.ipapEntries := rfl
    simp only [IeStore.set, OrderedMap.insert, h.entries, hipap]
    rw [OrderedMap.insertEntry_append_of_lt]
    · congr 1
      exact OrderedMap.insertEntry_filterMap FixedType.key v.fixed t o pairwise_key t.mem_all
    · intro e he
      exact Nat.lt_of_le_of_lt (rank_key_lt t) (h.rank_lt_of_ipap he)
  length_le := h.length_le

/-- The next IPAP message object has a key above all others. -/
theorem HasView.rank_lt_next (h : s.HasView v) {e : IeObjectKey × AnslpObject α}
    (he : e ∈ s.entries) : e.1.rank < (ipapKey (v.ipaps.length + 1)).rank := by
  rw [rank_ipapKey (Nat.succ_le_succ h.length_le)]
  rcases h.mem_entries.mp he with ⟨t, _, hk⟩ | ⟨i, hi, hk⟩
  · have := rank_key_lt t
    rw [hk]
    omega
  · have := (List.getElem?_eq_some_iff.mp hi).1
    rw [hk, rank_ipapKey (h.index_lt hi)]
    omega

/-- Its key is one of the store afterwards. -/
theorem HasView.next_mem_keys (h : s.HasView v) (o : AnslpObject α) :
    ipapKey (v.ipaps.length + 1) ∈ (s.set (ipapKey (v.ipaps.length + 1)) o).keys := by
  rw [IeStore.set, OrderedMap.keys, OrderedMap.insert_entries_of_lt _ _ _ fun _ => h.rank_lt_next]
  simp

/-- Adding an IPAP message object under the next number. -/
theorem HasView.set_ipap (h : s.HasView v) (o : AnslpObject α)
    (hlen : v.ipaps.length < maxIpaps) :
    (s.set (ipapKey (v.ipaps.length + 1)) o).HasView (v.addIpap o) where
  entries := by
    rw [IeStore.set, OrderedMap.insert_entries_of_lt _ _ _ fun _ => h.rank_lt_next,
      h.entries]
    simp [MsgView.addIpap, MsgView.ipapEntries, MsgView.fixedEntries, List.zipIdx_append]
  length_le := by
    simp only [MsgView.addIpap, List.length_append, List.length_singleton]
    omega

/-! ### The largest sequence number -/

theorem le_foldl_max (id : UInt32) (ks : List IeObjectKey) (init : UInt32) :
    init ≤ ks.foldl
      (fun result key =>
        if key.objectType = id ∧ result ≤ key.seqNbr then key.seqNbr else result) init := by
  induction ks generalizing init with
  | nil => exact UInt32.le_refl _
  | cons k ks ih =>
      refine UInt32.le_trans ?_ (ih _)
      beta_reduce
      split_ifs with hk
      · exact hk.2
      · exact UInt32.le_refl _

/-- Every key of the type has at most the largest sequence number. -/
theorem le_getMaxSequence {id : UInt32} {k : IeObjectKey} (hk : k ∈ s.keys)
    (hid : k.objectType = id) : k.seqNbr ≤ s.getMaxSequence id := by
  have hfold : ∀ (ks : List IeObjectKey) (init : UInt32), k ∈ ks → k.seqNbr ≤ ks.foldl
      (fun result key =>
        if key.objectType = id ∧ result ≤ key.seqNbr then key.seqNbr else result) init := by
    intro ks
    induction ks with
    | nil => simp
    | cons u us ih =>
        intro init hmem
        rcases List.mem_cons.mp hmem with rfl | hmem
        · refine UInt32.le_trans ?_ (le_foldl_max id us _)
          beta_reduce
          split_ifs with hu
          · exact UInt32.le_refl _
          · simp only [hid, true_and] at hu
            exact UInt32.le_of_lt (UInt32.not_le.mp hu)
        · exact ih _ hmem
  exact hfold _ _ hk

/-- The largest sequence number is that of a key of the type, or 0. -/
theorem getMaxSequence_mem (s : IeStore α) (id : UInt32) :
    s.getMaxSequence id = 0 ∨
      ∃ k ∈ s.keys, k.objectType = id ∧ k.seqNbr = s.getMaxSequence id := by
  have hfold : ∀ (ks : List IeObjectKey) (init : UInt32),
      ks.foldl (fun result key =>
        if key.objectType = id ∧ result ≤ key.seqNbr then key.seqNbr else result) init = init ∨
      ∃ k ∈ ks, k.objectType = id ∧ k.seqNbr = ks.foldl (fun result key =>
        if key.objectType = id ∧ result ≤ key.seqNbr then key.seqNbr else result) init := by
    intro ks
    induction ks with
    | nil => simp
    | cons u us ih =>
        intro init
        simp only [List.foldl_cons]
        rcases ih (if u.objectType = id ∧ init ≤ u.seqNbr then u.seqNbr else init) with h | h
        · rw [h]
          split_ifs with hu
          · exact Or.inr ⟨u, List.mem_cons_self, hu.1, rfl⟩
          · exact Or.inl rfl
        · obtain ⟨k, hk, hid, hseq⟩ := h
          exact Or.inr ⟨k, List.mem_cons_of_mem _ hk, hid, hseq⟩
  exact hfold _ _

/-- Storing an object never makes the largest sequence number smaller. -/
theorem getMaxSequence_le_set (s : IeStore α) (id : UInt32) (key : IeObjectKey)
    (o : AnslpObject α) : s.getMaxSequence id ≤ (s.set key o).getMaxSequence id := by
  rcases getMaxSequence_mem s id with h | ⟨k, hk, hid, hseq⟩
  · rw [h]
    exact UInt32.le_iff_toNat_le.mpr (Nat.zero_le _)
  · rw [← hseq]
    exact le_getMaxSequence (OrderedMap.keys_subset_insert s key o hk) hid

theorem HasView.getMaxSequence (h : s.HasView v) :
    s.getMaxSequence ipapObjectType.toUInt32 = UInt32.ofNat v.ipaps.length := by
  have hlen := h.length_le
  simp only [maxIpaps] at hlen
  apply UInt32.toNat_inj.mp
  rw [UInt32.toNat_ofNat', Nat.mod_eq_of_lt (by omega)]
  apply Nat.le_antisymm
  · rcases getMaxSequence_mem s ipapObjectType.toUInt32 with h0 | ⟨k, hk, hid, hseq⟩
    · rw [h0]
      exact Nat.zero_le _
    · rw [← hseq]
      rcases h.mem_keys.mp hk with ⟨t, _, rfl⟩ | ⟨i, hi, rfl⟩
      · exact absurd hid (by cases t <;> decide)
      · simp only [ipapKey, UInt32.toNat_ofNat']
        omega
  · rcases Nat.eq_zero_or_pos v.ipaps.length with h0 | hpos
    · omega
    · have hmem : ipapKey v.ipaps.length ∈ s.keys :=
        h.mem_keys.mpr (Or.inr ⟨v.ipaps.length - 1, by omega, by
          rw [Nat.sub_add_cancel hpos]⟩)
      have hle := UInt32.le_iff_toNat_le.mp (le_getMaxSequence hmem rfl)
      simp only [ipapKey, UInt32.toNat_ofNat'] at hle
      omega

end IeStore
end Anslp
