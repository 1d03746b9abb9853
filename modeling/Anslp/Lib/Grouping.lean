import Anslp.Lib.OrderedMap
import Mathlib.Data.List.Forall2
import Mathlib.Data.List.Induction
import Mathlib.Data.List.Nodup

/-!
# Grouping by a key

Elements of a sequence are collected under their keys, those of one key in the
order in which they came, and the groups are later walked in the order of the
keys.  The second half is about a walk that may fail: each element gives some
output or an error, and the outputs stand one after the other.

Main results:

- Theorem {lit}`Groups.collect`: a group is the part of the sequence with its key,
  and collecting one more element keeps it so.
- Theorem {lit}`find?_index`: an element is found under its own key.
- Theorem {lit}`having_flatMap`: walking groups one key after the other keeps each
  group as it was.
- Theorem {lit}`Groups.flatten_perm`: the groups hold the elements, each once.
- Theorem {lit}`forall₂_of_writeAll`: what is related element by element is related
  as a whole.

Current gaps:

- None for finite sequences; groups are not removed again.
-/

namespace Grouping

section Collecting

variable {A K R : Type} [LinearOrder R] {rank : K → R}

/-- Put an element at the end of the group of a key. -/
def collect (m : OrderedMap rank (List A)) (k : K) (a : A) : OrderedMap rank (List A) :=
  m.insert k ((m.find? k).getD [] ++ [a])

/-- The elements of a sequence with a given key, in their order. -/
def having [DecidableEq K] (key : A → Option K) (as : List A) (k : K) : List A :=
  as.filter fun a => decide (key a = some k)

/-- The groups are the parts of the sequence with their keys, and none is empty. -/
def Groups [DecidableEq K] (m : OrderedMap rank (List A)) (key : A → Option K)
    (as : List A) : Prop :=
  ∀ k, m.find? k = if having key as k = [] then none else some (having key as k)

/-- The elements of a sequence under their keys. -/
def index (rank : K → R) (key : A → K) (as : List A) : OrderedMap rank A :=
  as.foldl (fun m a => m.insert (key a) a) .empty

theorem index_append_singleton (key : A → K) (as : List A) (a : A) :
    index rank key (as ++ [a]) = (index rank key as).insert (key a) a := by
  rw [index, List.foldl_append]
  rfl

variable [DecidableEq K] {m : OrderedMap rank (List A)} {key : A → Option K} {as : List A}

theorem Groups.empty : Groups (OrderedMap.empty : OrderedMap rank (List A)) key [] := by
  intro k
  simp [having]

theorem Groups.getD (h : Groups m key as) (k : K) : (m.find? k).getD [] = having key as k := by
  rw [h k]
  by_cases hnil : having key as k = []
  · simp [hnil]
  · simp [hnil]

theorem having_append_self {a : A} {k : K} (h : key a = some k) :
    having key (as ++ [a]) k = having key as k ++ [a] := by
  simp [having, h]

theorem having_append_of_ne {a : A} {k : K} (h : key a ≠ some k) :
    having key (as ++ [a]) k = having key as k := by
  simp [having, h]

/-- One more element joins the group of its key and no other. -/
theorem Groups.collect (hrank : Function.Injective rank) (h : Groups m key as) {a : A} {k : K}
    (ha : key a = some k) : Groups (collect m k a) key (as ++ [a]) := by
  intro k'
  rw [Grouping.collect, OrderedMap.find?_insert hrank]
  by_cases hk : k' = k
  · subst hk
    rw [having_append_self ha, h.getD]
    simp
  · have hne : key a ≠ some k' := by
      intro ha'
      rw [ha] at ha'
      exact hk (Option.some.inj ha').symm
    rw [if_neg hk, having_append_of_ne hne, h k']

/-! ### One element for each key -/

/-- Where no two elements share a key, each is found under its own. -/
theorem find?_index (hrank : Function.Injective rank) {key : A → K} {as : List A}
    (has : ∀ a ∈ as, ∀ b ∈ as, key a = key b → a = b) {k : K} {a : A} :
    (index rank key as).find? k = some a ↔ a ∈ as ∧ key a = k := by
  induction as using List.reverseRecOn with
  | nil => simp [index]
  | append_singleton as b ih =>
    have hold : ∀ a ∈ as, ∀ b ∈ as, key a = key b → a = b := by
      intro a ha b hb
      exact has a (List.mem_append_left _ ha) b (List.mem_append_left _ hb)
    rw [index_append_singleton, OrderedMap.find?_insert hrank]
    by_cases hk : k = key b
    · subst hk
      rw [if_pos rfl]
      constructor
      · intro h
        cases h
        exact ⟨List.mem_append_right _ List.mem_cons_self, rfl⟩
      · intro h
        have hb : b ∈ as ++ [b] := List.mem_append_right _ List.mem_cons_self
        rw [has a h.1 b hb h.2]
    · rw [if_neg hk, ih hold]
      constructor
      · intro h
        exact ⟨List.mem_append_left _ h.1, h.2⟩
      · intro h
        refine ⟨?_, h.2⟩
        rcases List.mem_append.mp h.1 with ha | ha
        · exact ha
        · rw [List.mem_singleton.mp ha] at h
          exact absurd h.2.symm hk

theorem mem_values_index (hrank : Function.Injective rank) {key : A → K} {as : List A}
    (has : ∀ a ∈ as, ∀ b ∈ as, key a = key b → a = b) {a : A} :
    a ∈ (index rank key as).values ↔ a ∈ as := by
  simp only [OrderedMap.mem_values_iff, find?_index hrank has]
  constructor
  · rintro ⟨k, ha, -⟩
    exact ha
  · intro ha
    exact ⟨key a, ha, rfl⟩

theorem nodup_values_index (hrank : Function.Injective rank) {key : A → K} {as : List A}
    (has : ∀ a ∈ as, ∀ b ∈ as, key a = key b → a = b) :
    (index rank key as).values.Nodup := by
  apply OrderedMap.nodup_values key
  intro k a h
  rw [((find?_index hrank has).mp h).2]

end Collecting

section Walking

variable {A K : Type} [DecidableEq K] {key : A → Option K} {group : K → List A}

theorem having_flatMap_of_not_mem {ks : List K} (hkey : ∀ k ∈ ks, ∀ a ∈ group k, key a = some k)
    {k : K} (hk : k ∉ ks) : having key (ks.flatMap group) k = [] := by
  rw [having, List.filter_eq_nil_iff]
  intro a ha
  rcases List.mem_flatMap.mp ha with ⟨k', hk', ha'⟩
  rw [decide_eq_true_eq, hkey k' hk' a ha']
  intro heq
  exact hk (Option.some.inj heq ▸ hk')

/-- Walking the groups of different keys one after the other keeps each group. -/
theorem having_flatMap {ks : List K} (hks : ks.Nodup)
    (hkey : ∀ k ∈ ks, ∀ a ∈ group k, key a = some k) {k : K} (hk : k ∈ ks) :
    having key (ks.flatMap group) k = group k := by
  induction ks with
  | nil => exact absurd hk List.not_mem_nil
  | cons k' ks ih =>
    rw [List.nodup_cons] at hks
    have htail : ∀ k ∈ ks, ∀ a ∈ group k, key a = some k := by
      intro k hk a ha
      exact hkey k (List.mem_cons_of_mem _ hk) a ha
    have hhead : ∀ a ∈ group k', key a = some k' := hkey k' List.mem_cons_self
    rw [List.flatMap_cons, having, List.filter_append]
    by_cases heq : k = k'
    · subst heq
      have hrest := having_flatMap_of_not_mem htail hks.1
      rw [having] at hrest
      rw [hrest, List.append_nil, List.filter_eq_self]
      intro a ha
      exact decide_eq_true (hhead a ha)
    · have hnone : (group k').filter (fun a => decide (key a = some k)) = [] := by
        rw [List.filter_eq_nil_iff]
        intro a ha
        rw [decide_eq_true_eq, hhead a ha]
        intro h
        exact heq (Option.some.inj h).symm
      rw [hnone, List.nil_append]
      rcases List.mem_cons.mp hk with rfl | hk
      · exact absurd rfl heq
      · exact ih hks.2 htail hk

/-- A sequence is a rearrangement of its groups. -/
theorem perm_flatMap_having {ks : List K} {as : List A} (hks : ks.Nodup)
    (has : ∀ a ∈ as, ∃ k ∈ ks, key a = some k) : (ks.flatMap (having key as)).Perm as := by
  induction ks generalizing as with
  | nil =>
    cases as with
    | nil => exact List.Perm.refl _
    | cons a as =>
      rcases has a List.mem_cons_self with ⟨k, hk, -⟩
      exact absurd hk List.not_mem_nil
  | cons k ks ih =>
    rw [List.nodup_cons] at hks
    have hrest : ∀ a ∈ as.filter (fun a => !decide (key a = some k)),
        ∃ k' ∈ ks, key a = some k' := by
      intro a ha
      rw [List.mem_filter] at ha
      rcases has a ha.1 with ⟨k', hk', hak⟩
      rcases List.mem_cons.mp hk' with rfl | hk'
      · simp [hak] at ha
      · exact ⟨k', hk', hak⟩
    have hsame : ks.flatMap (having key (as.filter fun a => !decide (key a = some k))) =
        ks.flatMap (having key as) := by
      apply List.flatMap_congr
      intro k' hk'
      rw [having, having, List.filter_filter]
      apply List.filter_congr
      intro a _
      by_cases hak : key a = some k'
      · have hne : k' ≠ k := by
          rintro rfl
          exact hks.1 hk'
        simp [hak, hne]
      · simp [hak]
    rw [List.flatMap_cons, ← hsame]
    exact ((ih hks.2 hrest).append_left _).trans (List.filter_append_perm _ as)

end Walking

section Groups

variable {A K R : Type} [LinearOrder R] {rank : K → R}

/-- Collecting one more element adds it to what the groups hold. -/
theorem flatten_values_collect_perm (m : OrderedMap rank (List A)) (k : K) (a : A) :
    (collect m k a).values.flatten.Perm (a :: m.values.flatten) := by
  rcases m with ⟨es, hes⟩
  simp only [collect, OrderedMap.insert, OrderedMap.values, OrderedMap.find?]
  induction es with
  | nil => exact List.Perm.refl _
  | cons e es ih =>
    rw [List.pairwise_cons] at hes
    simp only [OrderedMap.insertEntry]
    by_cases hlt : rank k < rank e.1
    · -- the key is below all stored ones, so nothing is stored under it
      have hnone : ((e :: es).find? fun e => decide (rank e.1 = rank k)) = none := by
        rw [List.find?_eq_none]
        intro x hx
        rcases List.mem_cons.mp hx with rfl | hx
        · simpa using (ne_of_lt hlt).symm
        · simpa using (ne_of_lt (lt_trans hlt (hes.1 x hx))).symm
      rw [if_pos hlt, hnone]
      exact List.Perm.refl _
    · by_cases hgt : rank e.1 < rank k
      · have hskip : ((e :: es).find? fun e => decide (rank e.1 = rank k)) =
            es.find? fun e => decide (rank e.1 = rank k) :=
          List.find?_cons_of_neg (by simpa using ne_of_lt hgt)
        rw [if_neg hlt, if_pos hgt, hskip]
        exact ((ih hes.2).append_left e.2).trans List.perm_middle
      · have heq : rank e.1 = rank k := le_antisymm (not_lt.mp hlt) (not_lt.mp hgt)
        rw [if_neg hlt, if_neg hgt]
        simp only [List.find?_cons, heq, decide_true, Option.map_some, Option.getD_some,
          List.map_cons, List.flatten_cons, List.append_assoc, List.singleton_append]
        exact List.perm_middle

variable [DecidableEq K] {m : OrderedMap rank (List A)} {key : A → Option K} {as : List A}

theorem mem_having {k : K} {a : A} : a ∈ having key as k ↔ a ∈ as ∧ key a = some k := by
  rw [having, List.mem_filter, decide_eq_true_eq]

/-- The keys of the groups are those of the elements. -/
theorem Groups.mem_keys_iff (hrank : Function.Injective rank) (h : Groups m key as) {k : K} :
    k ∈ m.keys ↔ ∃ a ∈ as, key a = some k := by
  rw [OrderedMap.mem_keys_iff hrank, h k]
  by_cases hnil : having key as k = []
  · simp only [hnil, if_true, reduceCtorEq, exists_false, false_iff]
    rintro ⟨a, ha, hk⟩
    exact List.ne_nil_of_mem (mem_having.mpr ⟨ha, hk⟩) hnil
  · rcases List.exists_mem_of_ne_nil _ hnil with ⟨a, ha⟩
    simp only [hnil, if_false, Option.some.injEq, exists_eq', true_iff]
    exact ⟨a, mem_having.mp ha⟩

/-- The groups in the order of their keys. -/
theorem Groups.values_eq (h : Groups m key as) : m.values = m.keys.map (having key as) := by
  rw [OrderedMap.values, OrderedMap.keys, List.map_map]
  apply List.map_congr_left
  intro e he
  have hfind : m.find? e.1 = some e.2 := OrderedMap.find?_of_mem he rfl
  rw [h e.1] at hfind
  by_cases hnil : having key as e.1 = []
  · simp [hnil] at hfind
  · rw [if_neg hnil] at hfind
    exact (Option.some.inj hfind).symm

/-- The groups hold the elements, each once. -/
theorem Groups.flatten_perm (hrank : Function.Injective rank) (h : Groups m key as)
    (has : ∀ a ∈ as, ∃ k, key a = some k) : m.values.flatten.Perm as := by
  rw [h.values_eq, ← List.flatMap_def]
  apply perm_flatMap_having m.nodup_keys
  intro a ha
  rcases has a ha with ⟨k, hk⟩
  exact ⟨k, (h.mem_keys_iff hrank).mpr ⟨a, ha, hk⟩, hk⟩

end Groups

section Writing

variable {A B N E : Type}

/-- The outputs for all elements one after the other, or the first error. -/
def writeAll (f : A → Except E (List N)) : List A → Except E (List N)
  | [] => .ok []
  | a :: as =>
    match f a with
    | .error e => .error e
    | .ok ns =>
      match writeAll f as with
      | .error e => .error e
      | .ok ms => .ok (ns ++ ms)

theorem writeAll_cons_eq_ok {f : A → Except E (List N)} {a : A} {as : List A} {out : List N}
    (h : writeAll f (a :: as) = .ok out) :
    ∃ ns ms, f a = .ok ns ∧ writeAll f as = .ok ms ∧ out = ns ++ ms := by
  unfold writeAll at h
  cases hf : f a with
  | error e => simp [hf] at h
  | ok ns =>
    cases hrest : writeAll f as with
    | error e => simp [hf, hrest] at h
    | ok ms =>
      simp only [hf, hrest, Except.ok.injEq] at h
      exact ⟨ns, ms, rfl, rfl, h.symm⟩

/-- Elements that each give one output or none. -/
theorem flatMap_ite_singleton (p : A → Bool) (f : A → N) (as : List A) :
    (as.flatMap fun a => if p a then [f a] else []) = (as.filter p).map f := by
  induction as with
  | nil => rfl
  | cons a as ih =>
    by_cases ha : p a
    · simp [ha, ih]
    · simp [ha, ih]

/-- An error is the one of some element. -/
theorem exists_of_writeAll_eq_error {f : A → Except E (List N)} {as : List A} {e : E}
    (h : writeAll f as = .error e) : ∃ a ∈ as, f a = .error e := by
  induction as with
  | nil => cases h
  | cons a as ih =>
    unfold writeAll at h
    cases hf : f a with
    | error e' =>
      simp only [hf, Except.error.injEq] at h
      subst h
      exact ⟨a, List.mem_cons_self, hf⟩
    | ok ns =>
      cases hrest : writeAll f as with
      | ok ms => simp [hf, hrest] at h
      | error e' =>
        simp only [hf, hrest, Except.error.injEq] at h
        subst h
        rcases ih hrest with ⟨b, hb, hfb⟩
        exact ⟨b, List.mem_cons_of_mem _ hb, hfb⟩

theorem exists_eq_ok_of_writeAll {f : A → Except E (List N)} {as : List A} {out : List N}
    (h : writeAll f as = .ok out) : ∀ a ∈ as, ∃ ns, f a = .ok ns := by
  induction as generalizing out with
  | nil => exact fun a ha => absurd ha List.not_mem_nil
  | cons a as ih =>
    rcases writeAll_cons_eq_ok h with ⟨ns, ms, hf, hrest, rfl⟩
    intro b hb
    rcases List.mem_cons.mp hb with rfl | hb
    · exact ⟨ns, hf⟩
    · exact ih hrest b hb

/-- Where the outputs have as many of a kind as some lists are long, so has the whole
output. -/
theorem countP_of_writeAll {f : A → Except E (List N)} {p : N → Bool} {g : A → List B}
    {as : List A} {out : List N}
    (hstep : ∀ a ∈ as, ∀ ns, f a = .ok ns → ns.countP p = (g a).length)
    (h : writeAll f as = .ok out) : out.countP p = (as.flatMap g).length := by
  induction as generalizing out with
  | nil =>
    cases h
    rfl
  | cons a as ih =>
    rcases writeAll_cons_eq_ok h with ⟨ns, ms, hf, hrest, rfl⟩
    rw [List.countP_append, hstep a List.mem_cons_self ns hf,
      ih (fun b hb => hstep b (List.mem_cons_of_mem _ hb)) hrest, List.flatMap_cons,
      List.length_append]

/-- What is related for each element is related for the whole output. -/
theorem forall₂_of_writeAll {f : A → Except E (List N)} {g : A → List B} {r : N → B → Prop}
    {as : List A} {out : List N}
    (hstep : ∀ a ∈ as, ∀ ns, f a = .ok ns → List.Forall₂ r ns (g a))
    (h : writeAll f as = .ok out) : List.Forall₂ r out (as.flatMap g) := by
  induction as generalizing out with
  | nil =>
    cases h
    exact List.Forall₂.nil
  | cons a as ih =>
    rcases writeAll_cons_eq_ok h with ⟨ns, ms, hf, hrest, rfl⟩
    have htail := ih (fun b hb => hstep b (List.mem_cons_of_mem _ hb)) hrest
    exact List.rel_append (hstep a List.mem_cons_self ns hf) htail

end Writing

end Grouping
