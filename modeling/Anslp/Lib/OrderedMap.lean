import Mathlib.Data.List.Basic
import Mathlib.Data.List.Perm.Basic
import Mathlib.Data.List.Perm.Subperm
import Mathlib.Logic.Function.Basic
import Mathlib.Order.Lattice
import Mathlib.Tactic.Common

/-!
# Maps ordered by a rank of their keys

The associative container of a language whose ordered map takes a comparator:
entries are kept in the order of a rank of their keys, and two keys of one rank
are the same key to the container, whatever else distinguishes them.  Writing
under a key of a rank that is present keeps the stored key and replaces the
value.

Main results:

- Theorems {lit}`find?_insert_self` and {lit}`find?_insert_of_ne`: a lookup after a
  write.
- Theorems {lit}`find?_erase_self` and {lit}`find?_erase_of_ne`: a lookup after an
  erasure.
- Theorem {lit}`insert_entries_of_lt`: a key above all stored ones goes to the end.
- Theorem {lit}`values_insert_perm`: a write under a new key adds one value.
- Theorem {lit}`find?_insertAll`: a lookup after all entries of another map were written.
- Theorem {lit}`mem_insert_iff_of_alone`: a write under a key alone on its rank.
- Theorem {lit}`agrees_iff`: a walk over one of two maps of one size compares both.
- Theorem {lit}`insertEntry_filterMap`: in a list of slots that are full or empty, a
  write fills one slot.

Current gaps:

- Iterators are left out; a loop over a map is one over its entries.
-/

/-- A map whose entries stand in strictly increasing rank. -/
@[ext]
structure OrderedMap {K R : Type} [LinearOrder R] (rank : K → R) (V : Type) where
  entries : List (K × V)
  sorted : entries.Pairwise fun a b => rank a.1 < rank b.1

namespace OrderedMap

variable {K R V : Type} [LinearOrder R] {rank : K → R}

/-- The map without entries. -/
def empty : OrderedMap rank V :=
  ⟨[], List.Pairwise.nil⟩

/-- Number of entries. -/
def size (m : OrderedMap rank V) : Nat :=
  m.entries.length

/-- The stored keys, in order. -/
def keys (m : OrderedMap rank V) : List K :=
  m.entries.map Prod.fst

/-- The stored values, in the order of their keys. -/
def values (m : OrderedMap rank V) : List V :=
  m.entries.map Prod.snd

/-- The value stored under a key. -/
def find? (m : OrderedMap rank V) (k : K) : Option V :=
  (m.entries.find? fun e => decide (rank e.1 = rank k)).map Prod.snd

/-- Write a value into a sorted list of entries. -/
def insertEntry (rank : K → R) (k : K) (v : V) : List (K × V) → List (K × V)
  | [] => [(k, v)]
  | e :: es =>
      if rank k < rank e.1 then (k, v) :: e :: es
      else if rank e.1 < rank k then e :: insertEntry rank k v es
      else (e.1, v) :: es

theorem mem_insertEntry {k : K} {v : V} {es : List (K × V)} {x : K × V}
    (h : x ∈ insertEntry rank k v es) :
    x = (k, v) ∨ x ∈ es ∨ (x.2 = v ∧ rank x.1 = rank k) := by
  induction es with
  | nil => exact Or.inl (List.mem_singleton.mp h)
  | cons e es ih =>
      simp only [insertEntry] at h
      split_ifs at h with h₁ h₂
      · rcases List.mem_cons.mp h with rfl | h
        · exact Or.inl rfl
        · exact Or.inr (Or.inl h)
      · rcases List.mem_cons.mp h with rfl | h
        · exact Or.inr (Or.inl List.mem_cons_self)
        · rcases ih h with h | h | h
          · exact Or.inl h
          · exact Or.inr (Or.inl (List.mem_cons_of_mem _ h))
          · exact Or.inr (Or.inr h)
      · rcases List.mem_cons.mp h with rfl | h
        · exact Or.inr (Or.inr ⟨rfl, le_antisymm (not_lt.mp h₁) (not_lt.mp h₂)⟩)
        · exact Or.inr (Or.inl (List.mem_cons_of_mem _ h))

theorem sorted_insertEntry {k : K} {v : V} {es : List (K × V)}
    (h : es.Pairwise fun a b => rank a.1 < rank b.1) :
    (insertEntry rank k v es).Pairwise fun a b => rank a.1 < rank b.1 := by
  induction es with
  | nil => exact List.pairwise_singleton _ _
  | cons e es ih =>
      obtain ⟨he, hes⟩ := List.pairwise_cons.mp h
      simp only [insertEntry]
      split_ifs with h₁ h₂
      · refine List.pairwise_cons.mpr ⟨fun x hx => ?_, h⟩
        rcases List.mem_cons.mp hx with rfl | hx
        · exact h₁
        · exact lt_trans h₁ (he x hx)
      · refine List.pairwise_cons.mpr ⟨fun x hx => ?_, ih hes⟩
        rcases mem_insertEntry hx with rfl | hx | ⟨_, hx⟩
        · exact h₂
        · exact he x hx
        · exact hx ▸ h₂
      · exact List.pairwise_cons.mpr ⟨fun x hx => he x hx, hes⟩

/-- Write a value under a key. -/
def insert (m : OrderedMap rank V) (k : K) (v : V) : OrderedMap rank V :=
  ⟨insertEntry rank k v m.entries, sorted_insertEntry m.sorted⟩

/-- Remove the entry stored under a key. -/
def erase (m : OrderedMap rank V) (k : K) : OrderedMap rank V :=
  ⟨m.entries.filter fun e => decide (rank e.1 ≠ rank k), m.sorted.filter _⟩

/-! ## Lookups -/

@[simp]
theorem find?_empty (k : K) : (empty : OrderedMap rank V).find? k = none :=
  rfl

@[simp]
theorem size_empty : (empty : OrderedMap rank V).size = 0 :=
  rfl

theorem find?_eq_some {m : OrderedMap rank V} {k : K} {v : V} (h : m.find? k = some v) :
    ∃ k', rank k' = rank k ∧ (k', v) ∈ m.entries := by
  simp only [find?, Option.map_eq_some_iff] at h
  obtain ⟨e, he, rfl⟩ := h
  exact ⟨e.1, by simpa using List.find?_some he, List.mem_of_find?_eq_some he⟩

/-- A stored entry is found under every key of its rank. -/
theorem find?_of_mem {m : OrderedMap rank V} {k k' : K} {v : V}
    (h : (k', v) ∈ m.entries) (hk : rank k' = rank k) : m.find? k = some v := by
  obtain ⟨es, hsorted⟩ := m
  simp only at h
  induction es with
  | nil => simp at h
  | cons e es ih =>
      obtain ⟨he, hes⟩ := List.pairwise_cons.mp hsorted
      rcases List.mem_cons.mp h with rfl | h
      · simp [find?, hk]
      · have hne : rank e.1 ≠ rank k := hk ▸ ne_of_lt (he _ h)
        have htail := ih hes h
        simpa [find?, List.find?_cons, hne] using htail

theorem find?_congr (m : OrderedMap rank V) {k k' : K} (h : rank k = rank k') :
    m.find? k = m.find? k' := by
  simp only [find?, h]

private theorem find?_insertEntry_self (k : K) (v : V) (es : List (K × V)) :
    ((insertEntry rank k v es).find? fun e => decide (rank e.1 = rank k)).map
      Prod.snd = some v := by
  induction es with
  | nil => simp [insertEntry]
  | cons e es ih =>
      simp only [insertEntry]
      split_ifs with h₁ h₂
      · simp
      · rw [List.find?_cons_of_neg (by simpa using ne_of_lt h₂)]
        exact ih
      · have h : rank e.1 = rank k := le_antisymm (not_lt.mp h₁) (not_lt.mp h₂)
        simp [h]

/-- A key that was just written is found with the value written. -/
@[simp]
theorem find?_insert_self (m : OrderedMap rank V) (k : K) (v : V) :
    (m.insert k v).find? k = some v :=
  find?_insertEntry_self k v m.entries

private theorem find?_insertEntry_of_ne {k k' : K} (v : V) (es : List (K × V))
    (h : rank k' ≠ rank k) :
    ((insertEntry rank k v es).find? fun e => decide (rank e.1 = rank k')).map
      Prod.snd = (es.find? fun e => decide (rank e.1 = rank k')).map Prod.snd := by
  induction es with
  | nil => simp [insertEntry, h.symm]
  | cons e es ih =>
      simp only [insertEntry]
      split_ifs with h₁ h₂
      · simp [List.find?_cons, h.symm]
      · by_cases he : rank e.1 = rank k'
        · simp [he]
        · simpa [List.find?_cons, he] using ih
      · have he : rank e.1 = rank k := le_antisymm (not_lt.mp h₁) (not_lt.mp h₂)
        simp [he, h.symm]

/-- Writing under one key leaves the keys of other ranks alone. -/
theorem find?_insert_of_ne (m : OrderedMap rank V) {k k' : K} (v : V)
    (h : rank k' ≠ rank k) : (m.insert k v).find? k' = m.find? k' :=
  find?_insertEntry_of_ne v m.entries h

/-- An erased key is not found. -/
@[simp]
theorem find?_erase_self (m : OrderedMap rank V) (k : K) : (m.erase k).find? k = none := by
  simp only [find?, erase, Option.map_eq_none_iff, List.find?_eq_none, List.mem_filter]
  rintro e ⟨_, he⟩
  simpa using he

/-- Erasing one key leaves the keys of other ranks alone. -/
theorem find?_erase_of_ne (m : OrderedMap rank V) {k k' : K} (h : rank k' ≠ rank k) :
    (m.erase k).find? k' = m.find? k' := by
  simp only [find?, erase, List.find?_filter]
  congr 2
  funext e
  by_cases he : rank e.1 = rank k'
  · simp [he, h]
  · simp [he]

/-- Looking up after an insertion, for keys told apart by their ranks. -/
theorem find?_insert [DecidableEq K] (hrank : Function.Injective rank) (m : OrderedMap rank V)
    (k k' : K) (v : V) : (m.insert k v).find? k' = if k' = k then some v else m.find? k' := by
  split_ifs with h
  · rw [h, find?_insert_self]
  · exact find?_insert_of_ne m v fun hk => h (hrank hk)

/-- Looking up after a removal, for keys told apart by their ranks. -/
theorem find?_erase [DecidableEq K] (hrank : Function.Injective rank) (m : OrderedMap rank V)
    (k k' : K) : (m.erase k).find? k' = if k' = k then none else m.find? k' := by
  split_ifs with h
  · rw [h, find?_erase_self]
  · exact find?_erase_of_ne m fun hk => h (hrank hk)

/-- The map without the entries whose keys fail a test. -/
def filterKeys (p : K → Bool) (m : OrderedMap rank V) : OrderedMap rank V :=
  ⟨m.entries.filter fun e => p e.1, m.sorted.filter _⟩

/-- Looking up in a filtered map, for keys told apart by their ranks. -/
theorem find?_filterKeys (hrank : Function.Injective rank) (p : K → Bool)
    (m : OrderedMap rank V) (k : K) :
    (m.filterKeys p).find? k = if p k then m.find? k else none := by
  have hkey : (fun e : K × V => decide (p e.1 = true ∧ decide (rank e.1 = rank k) = true)) =
      fun e => p k && decide (rank e.1 = rank k) := by
    funext e
    by_cases he : rank e.1 = rank k
    · simp [hrank he]
    · simp [he]
  simp only [find?, filterKeys, List.find?_filter]
  rw [hkey]
  cases p k with
  | true => simp
  | false => simp

/-- The entries are what is found, for keys told apart by their ranks. -/
theorem mem_entries_iff (hrank : Function.Injective rank) {m : OrderedMap rank V} {k : K} {v : V} :
    (k, v) ∈ m.entries ↔ m.find? k = some v := by
  constructor
  · intro he
    exact find?_of_mem he rfl
  · intro he
    rcases find?_eq_some he with ⟨k', hk', hmem⟩
    rwa [hrank hk'] at hmem

/-- Maps with the same lookups are the same. -/
theorem eq_of_find? (hrank : Function.Injective rank) {m m' : OrderedMap rank V}
    (h : ∀ k, m.find? k = m'.find? k) : m = m' := by
  have hnodup : ∀ m : OrderedMap rank V, m.entries.Nodup := by
    intro m
    apply m.sorted.imp
    intro a b hlt heq
    rw [heq] at hlt
    exact lt_irrefl _ hlt
  apply OrderedMap.ext
  have hperm : m.entries.Perm m'.entries := by
    apply (List.perm_ext_iff_of_nodup (hnodup m) (hnodup m')).mpr
    intro e
    rw [mem_entries_iff hrank, mem_entries_iff hrank, h]
  refine List.Perm.eq_of_pairwise (fun a b _ _ hab hba => ?_) m.sorted m'.sorted hperm
  exact absurd hab (not_lt_of_gt hba)

/-- The map with a function applied to its values. -/
def map {W : Type} (f : V → W) (m : OrderedMap rank V) : OrderedMap rank W :=
  ⟨m.entries.map fun e => (e.1, f e.2), List.pairwise_map.mpr m.sorted⟩

theorem find?_map {W : Type} (f : V → W) (m : OrderedMap rank V) (k : K) :
    (m.map f).find? k = (m.find? k).map f := by
  simp only [find?, map, List.find?_map, Option.map_map]
  rfl

theorem values_map {W : Type} (f : V → W) (m : OrderedMap rank V) :
    (m.map f).values = m.values.map f := by
  simp only [values, map, List.map_map]
  rfl

/-- Maps whose lookups agree under a function list the same values under it. -/
theorem map_values_congr {W : Type} (hrank : Function.Injective rank) {m m' : OrderedMap rank V}
    (f : V → W) (h : ∀ k, (m.find? k).map f = (m'.find? k).map f) :
    m.values.map f = m'.values.map f := by
  have hmap : m.map f = m'.map f := by
    apply eq_of_find? hrank
    intro k
    rw [find?_map, find?_map, h]
  rw [← values_map, ← values_map, hmap]

/-- The keys found are the stored ones. -/
theorem mem_keys_iff (hrank : Function.Injective rank) {m : OrderedMap rank V} {k : K} :
    k ∈ m.keys ↔ ∃ v, m.find? k = some v := by
  constructor
  · intro h
    rcases List.mem_map.mp h with ⟨e, he, rfl⟩
    exact ⟨e.2, find?_of_mem he rfl⟩
  · rintro ⟨v, hv⟩
    rcases find?_eq_some hv with ⟨k', hk', hmem⟩
    rw [← hrank hk']
    exact List.mem_map_of_mem hmem

theorem mem_keys_insert_iff [DecidableEq K] (hrank : Function.Injective rank)
    {m : OrderedMap rank V} {k k' : K} {v : V} :
    k' ∈ (m.insert k v).keys ↔ k' = k ∨ k' ∈ m.keys := by
  rw [mem_keys_iff hrank, mem_keys_iff hrank, find?_insert hrank]
  by_cases hk : k' = k
  · simp [hk]
  · simp [hk]

theorem mem_values_iff {m : OrderedMap rank V} {v : V} :
    v ∈ m.values ↔ ∃ k, m.find? k = some v := by
  constructor
  · intro h
    rcases List.mem_map.mp h with ⟨e, he, rfl⟩
    exact ⟨e.1, find?_of_mem he rfl⟩
  · rintro ⟨k, hk⟩
    rcases find?_eq_some hk with ⟨k', -, hmem⟩
    exact List.mem_map.mpr ⟨(k', v), hmem, rfl⟩

/-- A value of a map after a write was written, or it was there before. -/
theorem mem_values_insert {m : OrderedMap rank V} {k : K} {v x : V}
    (h : x ∈ (m.insert k v).values) : x = v ∨ x ∈ m.values := by
  rcases List.mem_map.mp h with ⟨e, he, rfl⟩
  rcases mem_insertEntry he with rfl | he | ⟨hv, _⟩
  · exact Or.inl rfl
  · exact Or.inr (List.mem_map.mpr ⟨e, he, rfl⟩)
  · exact Or.inl hv

theorem nodup_keys (m : OrderedMap rank V) : m.keys.Nodup := by
  rw [keys, List.Nodup, List.pairwise_map]
  apply m.sorted.imp
  intro a b hlt heq
  rw [heq] at hlt
  exact lt_irrefl _ hlt

/-- Values from which the keys can be told differ. -/
theorem nodup_values {m : OrderedMap rank V} (key : V → K)
    (h : ∀ k v, m.find? k = some v → rank (key v) = rank k) : m.values.Nodup := by
  rw [values, List.Nodup, List.pairwise_map]
  apply m.sorted.imp_of_mem
  intro a b ha hb hlt heq
  have hkey := h a.1 a.2 (find?_of_mem ha rfl)
  rw [heq, h b.1 b.2 (find?_of_mem hb rfl)] at hkey
  rw [hkey] at hlt
  exact lt_irrefl _ hlt

/-! ## Entries -/

private theorem insertEntry_of_lt (k : K) (v : V) {es : List (K × V)}
    (h : ∀ e ∈ es, rank e.1 < rank k) :
    insertEntry rank k v es = es ++ [(k, v)] := by
  induction es with
  | nil => rfl
  | cons e es ih =>
      have he := h e List.mem_cons_self
      simp only [insertEntry, if_neg (not_lt_of_gt he), if_pos he, List.cons_append]
      rw [ih fun x hx => h x (List.mem_cons_of_mem _ hx)]

/-- A key above all stored ones goes to the end. -/
theorem insert_entries_of_lt (m : OrderedMap rank V) (k : K) (v : V)
    (h : ∀ e ∈ m.entries, rank e.1 < rank k) :
    (m.insert k v).entries = m.entries ++ [(k, v)] :=
  insertEntry_of_lt k v h

/-- A key below all of a suffix leaves the suffix alone. -/
theorem insertEntry_append_of_lt {k : K} (v : V) (es₁ : List (K × V)) {es₂ : List (K × V)}
    (h : ∀ e ∈ es₂, rank k < rank e.1) :
    insertEntry rank k v (es₁ ++ es₂) = insertEntry rank k v es₁ ++ es₂ := by
  induction es₁ with
  | nil =>
      cases es₂ with
      | nil => rfl
      | cons e es => simp [insertEntry, h e List.mem_cons_self]
  | cons e es ih =>
      simp only [List.cons_append, insertEntry]
      split_ifs
      · rfl
      · rw [ih, List.cons_append]
      · rfl

/-- A write into a list of slots, each with a key of its own, fills one slot. -/
theorem insertEntry_filterMap {T : Type} [DecidableEq T] (key : T → K) (f : T → Option V)
    (t : T) (v : V) {ts : List T} (hts : ts.Pairwise fun a b => rank (key a) < rank (key b))
    (ht : t ∈ ts) :
    insertEntry rank (key t) v (ts.filterMap fun u => (f u).map (key u, ·)) =
      ts.filterMap fun u => (Function.update f t (some v) u).map (key u, ·) := by
  induction ts with
  | nil => simp at ht
  | cons u us ih =>
      obtain ⟨hu, hus⟩ := List.pairwise_cons.mp hts
      by_cases hut : u = t
      · subst hut
        -- the slots behind the written one keep their content
        have htail : (us.filterMap fun w => (Function.update f u (some v) w).map (key w, ·)) =
            us.filterMap fun w => (f w).map (key w, ·) := by
          apply List.filterMap_congr
          intro w hw
          have hne : w ≠ u := fun h => lt_irrefl _ (h ▸ hu w hw)
          simp [Function.update_of_ne hne]
        cases hf : f u with
        | some w =>
            rw [List.filterMap_cons_some (by simp [hf] : _ = some (key u, w)),
              List.filterMap_cons_some (by simp : _ = some (key u, v)), htail]
            simp only [insertEntry, if_neg (lt_irrefl (rank (key u)))]
        | none =>
            rw [List.filterMap_cons_none (by simp [hf]),
              List.filterMap_cons_some (by simp : _ = some (key u, v)), htail]
            refine insertEntry_append_of_lt v [] fun e he => ?_
            obtain ⟨w, hw, hmap⟩ := List.mem_filterMap.mp he
            obtain ⟨x, _, rfl⟩ := Option.map_eq_some_iff.mp hmap
            exact hu w hw
      · have htus : t ∈ us := by
          rcases List.mem_cons.mp ht with rfl | h
          · exact absurd rfl hut
          · exact h
        have hlt : rank (key u) < rank (key t) := hu t htus
        cases hf : f u with
        | some w =>
            rw [List.filterMap_cons_some (by simp [hf] : _ = some (key u, w)),
              List.filterMap_cons_some
                (by simp [Function.update_of_ne hut, hf] : _ = some (key u, w))]
            simp only [insertEntry, if_neg (not_lt_of_gt hlt), if_pos hlt, ih hus htus]
        | none =>
            rw [List.filterMap_cons_none (by simp [hf]),
              List.filterMap_cons_none (by simp [Function.update_of_ne hut, hf]), ih hus htus]

/-- A write adds one entry at most. -/
theorem size_insert_le (m : OrderedMap rank V) (k : K) (v : V) :
    (m.insert k v).size ≤ m.size + 1 := by
  obtain ⟨es, hes⟩ := m
  simp only [size, insert]
  clear hes
  induction es with
  | nil => exact Nat.le_refl _
  | cons e es ih =>
      simp only [insertEntry]
      split_ifs
      · exact Nat.le_refl _
      · exact Nat.succ_le_succ ih
      · exact Nat.le_succ _

/-- A write removes no entry. -/
theorem size_le_size_insert (m : OrderedMap rank V) (k : K) (v : V) :
    m.size ≤ (m.insert k v).size := by
  obtain ⟨es, hes⟩ := m
  simp only [size, insert]
  clear hes
  induction es with
  | nil => exact Nat.zero_le _
  | cons e es ih =>
      simp only [insertEntry]
      split_ifs
      · exact Nat.le_succ _
      · exact Nat.succ_le_succ ih
      · exact Nat.le_refl _

/-- After a write there is an entry. -/
theorem size_insert_pos (m : OrderedMap rank V) (k : K) (v : V) : 0 < (m.insert k v).size := by
  rw [size, List.length_pos_iff]
  intro hnil
  have hfind := find?_insert_self m k v
  rw [find?, hnil] at hfind
  cases hfind

/-- A write under a new key adds its value to the stored ones. -/
theorem values_insert_perm {m : OrderedMap rank V} {k : K} (v : V) (h : m.find? k = none) :
    (m.insert k v).values.Perm (v :: m.values) := by
  obtain ⟨es, hes⟩ := m
  simp only [find?, Option.map_eq_none_iff, List.find?_eq_none, decide_eq_true_eq] at h
  simp only [values, insert]
  clear hes
  induction es with
  | nil => exact List.Perm.refl _
  | cons e es ih =>
      simp only [insertEntry]
      split_ifs with h₁ h₂
      · exact List.Perm.refl _
      · have htail := ih fun x hx => h x (List.mem_cons_of_mem _ hx)
        exact (htail.cons e.2).trans (List.Perm.swap v e.2 _)
      · exact absurd (le_antisymm (not_lt.mp h₁) (not_lt.mp h₂)) (h e List.mem_cons_self)

/-- Whether the key is new or not, a write leaves the value written and old ones. -/
theorem values_insert_subperm (m : OrderedMap rank V) (k : K) (v : V) :
    (m.insert k v).values.Subperm (v :: m.values) := by
  obtain ⟨es, hes⟩ := m
  simp only [values, insert]
  clear hes
  induction es with
  | nil => exact List.Subperm.refl _
  | cons e es ih =>
      simp only [insertEntry]
      split_ifs with h₁ h₂
      · exact List.Subperm.refl _
      · have htail := (List.subperm_cons e.2).mpr ih
        exact htail.trans (List.Perm.swap v e.2 _).subperm
      · have hkept : (es.map Prod.snd).Sublist (e.2 :: es.map Prod.snd) :=
          List.sublist_cons_self _ _
        exact (hkept.cons_cons v).subperm

/-- Every key stays when another write happens. -/
theorem keys_subset_insert (m : OrderedMap rank V) (k : K) (v : V) :
    m.keys ⊆ (m.insert k v).keys := by
  obtain ⟨es, hes⟩ := m
  intro x hx
  simp only [keys, insert] at hx ⊢
  clear hes
  induction es with
  | nil => simp at hx
  | cons e es ih =>
      simp only [List.map_cons, List.mem_cons] at hx
      simp only [insertEntry]
      split_ifs
      · exact List.mem_cons_of_mem _ (List.mem_cons.mpr hx)
      · rcases hx with rfl | hx
        · exact List.mem_cons_self
        · exact List.mem_cons_of_mem _ (ih hx)
      · exact List.mem_cons.mpr hx

/-! ## Copying and comparing -/

/-- Write all entries of another map, in order. -/
def insertAll (m m' : OrderedMap rank V) : OrderedMap rank V :=
  m'.entries.foldl (fun m e => m.insert e.1 e.2) m

private theorem find?_foldl_insert (k : K) {es : List (K × V)}
    (hes : es.Pairwise fun a b => rank a.1 < rank b.1) (m : OrderedMap rank V) :
    (es.foldl (fun m e => m.insert e.1 e.2) m).find? k =
      ((es.find? fun e => decide (rank e.1 = rank k)).map Prod.snd).or (m.find? k) := by
  induction es generalizing m with
  | nil => simp
  | cons e es ih =>
      obtain ⟨he, htail⟩ := List.pairwise_cons.mp hes
      rw [List.foldl_cons, ih htail]
      by_cases hk : rank e.1 = rank k
      · -- no entry behind this one has its rank
        have hnone : (es.find? fun x => decide (rank x.1 = rank k)) = none := by
          rw [List.find?_eq_none]
          intro x hx
          have hlt := he x hx
          rw [hk] at hlt
          simpa using (ne_of_lt hlt).symm
        rw [hnone, find?_congr (m.insert e.1 e.2) hk.symm, find?_insert_self]
        simp [hk]
      · rw [find?_insert_of_ne m e.2 fun h => hk h.symm, List.find?_cons_of_neg (by simpa using hk)]

/-- Copied entries hide those that were there. -/
theorem find?_insertAll (m m' : OrderedMap rank V) (k : K) :
    (m.insertAll m').find? k = (m'.find? k).or (m.find? k) :=
  find?_foldl_insert k m'.sorted m

/-- Whether two maps have as many entries, and each entry of the first one has a value in
the second one that is the same. -/
def agrees (same : V → V → Bool) (m m' : OrderedMap rank V) : Bool :=
  m.size == m'.size && m.entries.all fun e =>
    match m'.find? e.1 with
    | none => false
    | some v => same e.2 v

/-- Walking over one of two maps of one size compares both. -/
theorem agrees_iff (hrank : Function.Injective rank) {same : V → V → Bool}
    {m m' : OrderedMap rank V} :
    m.agrees same m' = true ↔
      ∀ k, Option.Rel (fun v w => same v w = true) (m.find? k) (m'.find? k) := by
  simp only [agrees, Bool.and_eq_true, beq_iff_eq, List.all_eq_true]
  constructor
  · rintro ⟨hsize, hall⟩ k
    have hfound : ∀ k v, m.find? k = some v → ∃ w, m'.find? k = some w ∧ same v w = true := by
      intro k v hv
      have h := hall _ ((mem_entries_iff hrank).mpr hv)
      cases hw : m'.find? k with
      | none => simp [hw] at h
      | some w => exact ⟨w, rfl, by simpa [hw] using h⟩
    cases hv : m.find? k with
    | some v =>
        rcases hfound k v hv with ⟨w, hw, hsame⟩
        rw [hw]
        exact .some hsame
    | none =>
        cases hw : m'.find? k with
        | none => exact .none
        | some w =>
            -- every key of the first map is one of the second, and there are as many
            have hsub : m.keys ⊆ m'.keys := by
              intro x hx
              rcases (mem_keys_iff hrank).mp hx with ⟨v, hv⟩
              rcases hfound x v hv with ⟨w, hw, -⟩
              exact (mem_keys_iff hrank).mpr ⟨w, hw⟩
            have hlen : m'.keys.length ≤ m.keys.length := by
              simpa [keys, size] using Nat.le_of_eq hsize.symm
            have hperm := (List.subperm_of_subset m.nodup_keys hsub).perm_of_length_le hlen
            have hmem := hperm.mem_iff.mpr ((mem_keys_iff hrank).mpr ⟨w, hw⟩)
            rcases (mem_keys_iff hrank).mp hmem with ⟨v, hv'⟩
            cases hv'.symm.trans hv
  · intro h
    have hkeys : ∀ k, k ∈ m.keys ↔ k ∈ m'.keys := by
      intro k
      have hk := h k
      rw [mem_keys_iff hrank, mem_keys_iff hrank]
      generalize m.find? k = x, m'.find? k = y at hk
      cases hk <;> simp
    have hperm := (List.perm_ext_iff_of_nodup m.nodup_keys m'.nodup_keys).mpr hkeys
    refine ⟨by simpa [keys, size] using hperm.length_eq, ?_⟩
    rintro ⟨k, v⟩ he
    have hk := h k
    rw [(mem_entries_iff hrank).mp he] at hk
    cases hw : m'.find? k with
    | none => simp [hw] at hk
    | some w => simpa [hw] using hk

/-! ## Keys that may share their rank -/

/-- No other stored key has the rank of a key. -/
def Alone (m : OrderedMap rank V) (k : K) : Prop :=
  ∀ e ∈ m.entries, rank e.1 = rank k → e.1 = k

instance [DecidableEq K] (m : OrderedMap rank V) (k : K) : Decidable (m.Alone k) :=
  inferInstanceAs (Decidable (∀ e ∈ m.entries, rank e.1 = rank k → e.1 = k))

/-- Stored keys of one rank are one key. -/
theorem key_eq_of_rank {m : OrderedMap rank V} {e e' : K × V} (he : e ∈ m.entries)
    (he' : e' ∈ m.entries) (hrank : rank e.1 = rank e'.1) : e.1 = e'.1 := by
  obtain ⟨es, hes⟩ := m
  simp only at he he'
  induction es with
  | nil => cases he
  | cons x xs ih =>
      obtain ⟨hx, hxs⟩ := List.pairwise_cons.mp hes
      rcases List.mem_cons.mp he with hex | hemem <;>
        rcases List.mem_cons.mp he' with hex' | hemem'
      · rw [hex, hex']
      · rw [hex] at hrank
        exact absurd hrank (ne_of_lt (hx e' hemem'))
      · rw [hex'] at hrank
        exact absurd hrank.symm (ne_of_lt (hx e hemem))
      · exact ih hxs hemem hemem'

/-- A lookup under a key alone on its rank gives the value stored for that key. -/
theorem find?_eq_some_iff_of_alone {m : OrderedMap rank V} {k : K} {v : V} (h : m.Alone k) :
    m.find? k = some v ↔ (k, v) ∈ m.entries := by
  constructor
  · intro hfind
    rcases find?_eq_some hfind with ⟨k', hk', hmem⟩
    have hkey : k' = k := h _ hmem hk'
    rwa [hkey] at hmem
  · intro hmem
    exact find?_of_mem hmem rfl

/-- A write under a key alone on its rank changes no other entry. -/
theorem mem_insert_iff_of_alone {m : OrderedMap rank V} {k : K} (v : V) (h : m.Alone k)
    {e : K × V} : e ∈ (m.insert k v).entries ↔ e = (k, v) ∨ (e ∈ m.entries ∧ e.1 ≠ k) := by
  obtain ⟨es, hes⟩ := m
  simp only [Alone, insert] at h ⊢
  induction es with
  | nil => simp [insertEntry]
  | cons x xs ih =>
      obtain ⟨hx, hxs⟩ := List.pairwise_cons.mp hes
      have habove : ∀ j, rank k ≤ rank x.1 → (j ∈ xs → j.1 ≠ k) := by
        rintro j hle hj rfl
        exact absurd (hx j hj) (not_lt_of_ge hle)
      simp only [insertEntry]
      split_ifs with h₁ h₂
      · have hne : x.1 ≠ k := by
          rintro rfl
          exact lt_irrefl _ h₁
        have hall : e ∈ x :: xs → e.1 ≠ k := by
          intro he
          rcases List.mem_cons.mp he with rfl | he
          · exact hne
          · exact habove e (le_of_lt h₁) he
        rw [List.mem_cons]
        exact or_congr_right ⟨fun he => ⟨he, hall he⟩, And.left⟩
      · have hne : x.1 ≠ k := by
          rintro rfl
          exact lt_irrefl _ h₂
        rw [List.mem_cons, List.mem_cons, ih hxs fun j hj => h j (List.mem_cons_of_mem _ hj)]
        constructor
        · rintro (rfl | rfl | he)
          · exact .inr ⟨.inl rfl, hne⟩
          · exact .inl rfl
          · exact .inr ⟨.inr he.1, he.2⟩
        · rintro (rfl | ⟨rfl | he, hek⟩)
          · exact .inr (.inl rfl)
          · exact .inl rfl
          · exact .inr (.inr ⟨he, hek⟩)
      · have hrank : rank x.1 = rank k := le_antisymm (not_lt.mp h₁) (not_lt.mp h₂)
        have hkey : x.1 = k := h x List.mem_cons_self hrank
        rw [List.mem_cons, List.mem_cons, hkey]
        refine or_congr_right ⟨fun he => ⟨.inr he, habove e (le_of_eq hrank.symm) he⟩, ?_⟩
        rintro ⟨rfl | he, hek⟩
        · exact absurd hkey hek
        · exact he

/-- Erasing a key alone on its rank leaves all other entries. -/
theorem erase_entries_of_alone {m : OrderedMap rank V} [DecidableEq K] {k : K} (h : m.Alone k) :
    (m.erase k).entries = m.entries.filter fun e => decide (e.1 ≠ k) := by
  apply List.filter_congr
  intro e he
  by_cases hk : e.1 = k
  · simp [hk]
  · have hrank : rank e.1 ≠ rank k := fun hrank => hk (h e he hrank)
    simp [hk, hrank]

/-- Entries of a kind are the same after a write of another kind that replaces none of
them. -/
theorem filter_insert_of_not {p : K × V → Bool} {m : OrderedMap rank V} {k : K} {v : V}
    (hp : ∀ e ∈ m.entries, rank e.1 = rank k → p e = false ∧ p (e.1, v) = false)
    (hnew : p (k, v) = false) : (m.insert k v).entries.filter p = m.entries.filter p := by
  obtain ⟨es, hes⟩ := m
  simp only [insert] at hp ⊢
  clear hes
  induction es with
  | nil => simp [insertEntry, hnew]
  | cons x xs ih =>
      simp only [insertEntry]
      split_ifs with h₁ h₂
      · rw [List.filter_cons_of_neg (by simp [hnew])]
      · rw [List.filter_cons, List.filter_cons, ih fun e he => hp e (List.mem_cons_of_mem _ he)]
      · obtain ⟨hold, hreplaced⟩ := hp x List.mem_cons_self
          (le_antisymm (not_lt.mp h₁) (not_lt.mp h₂))
        rw [List.filter_cons_of_neg (by simp [hreplaced]), List.filter_cons_of_neg (by simp [hold])]

/-- A write above all entries of its kind adds an entry behind them. -/
theorem filter_insert_of_lt {p : K × V → Bool} {m : OrderedMap rank V} {k : K} {v : V}
    (hfree : ∀ e ∈ m.entries, rank e.1 ≠ rank k)
    (hlt : ∀ e ∈ m.entries, p e = true → rank e.1 < rank k) (hnew : p (k, v) = true) :
    (m.insert k v).entries.filter p = m.entries.filter p ++ [(k, v)] := by
  obtain ⟨es, hes⟩ := m
  simp only [insert] at hfree hlt ⊢
  induction es with
  | nil => simp [insertEntry, hnew]
  | cons x xs ih =>
      obtain ⟨hx, hxs⟩ := List.pairwise_cons.mp hes
      simp only [insertEntry]
      split_ifs with h₁ h₂
      · -- no entry of the kind stands behind the place of the key
        have hnone : (x :: xs).filter p = [] := by
          rw [List.filter_eq_nil_iff]
          intro e he hpe
          have habove : rank k < rank e.1 := by
            rcases List.mem_cons.mp he with rfl | he
            · exact h₁
            · exact lt_trans h₁ (hx e he)
          exact lt_asymm habove (hlt e he hpe)
        rw [List.filter_cons_of_pos hnew, hnone, List.nil_append]
      · rw [List.filter_cons, List.filter_cons, ih hxs
          (fun e he => hfree e (List.mem_cons_of_mem _ he))
          fun e he => hlt e (List.mem_cons_of_mem _ he)]
        split_ifs
        · rfl
        · rfl
      · exact absurd (le_antisymm (not_lt.mp h₁) (not_lt.mp h₂)) (hfree x List.mem_cons_self)

end OrderedMap
