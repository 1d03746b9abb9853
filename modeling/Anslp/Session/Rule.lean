import Anslp.Lib.OrderedMap
import Anslp.Msg.Message
import Mathlib.Data.List.Chain
import Mathlib.Data.List.DropRight
import Mathlib.Data.List.Perm.Basic
import Mathlib.Order.Nat

/-!
# Auction rules

An auction rule holds request objects and response objects, each under a generated
128 bit key.  The definitions follow {lit}`auction_rule` and the loops of the sessions
over its two maps.

Main results:

- Theorem {lit}`setFresh_values`: objects put under fresh keys are all there, each once.
- Theorem {lit}`eraseMissing_eq_none_iff`: when the loop that erases request objects
  while it walks backwards over them leaves the map.
- Theorem {lit}`eraseMissing_eq_filterKeys_iff`: when this loop erases exactly the objects
  that were not checked.

Current gaps:

- Printing a rule is left out.
-/

namespace Anslp

/-- A universally unique identifier; keys are compared as unsigned numbers. -/
abbrev MspecRuleKey :=
  BitVec 128

/-- Objects under their keys. -/
abbrev ObjectList (α : Type) :=
  OrderedMap (BitVec.toNat : MspecRuleKey → Nat) (MspecObject α)

/-- A rule to install: requested objects, and the objects that answer them. -/
@[ext]
structure AuctionRule (α : Type) where
  objectRequests : ObjectList α
  objectResponses : ObjectList α

namespace ObjectList

variable {α : Type}

/-- Put objects one after the other under generated keys. -/
def setFresh (newKey : Nat → MspecRuleKey) : List (MspecObject α) → ObjectList α → ObjectList α
  | [], m => m
  | o :: os, m => setFresh (fun i => newKey (i + 1)) os (m.insert (newKey 0) o)

/-- Whether a map has an entry under a key. -/
def hasKey (m : ObjectList α) (key : MspecRuleKey) : Bool :=
  (m.find? key).isSome

/-- The loop over a map from its last entry to its first one that erases entries, on the
entries in that order.  Erasing the entry it stands on makes it step over the next one;
if there is no next one it leaves the map, which is undefined. -/
def eraseWalk (missing : MspecRuleKey → Bool) :
    List (MspecRuleKey × MspecObject α) → Option (List (MspecRuleKey × MspecObject α))
  | [] => some []
  | [e] => if missing e.1 then none else some [e]
  | e :: next :: es =>
      if missing e.1 then (eraseWalk missing es).map (next :: ·)
      else (eraseWalk missing (next :: es)).map (e :: ·)

theorem eraseWalk_sublist {missing : MspecRuleKey → Bool}
    {es es' : List (MspecRuleKey × MspecObject α)} (h : eraseWalk missing es = some es') :
    es'.Sublist es := by
  fun_induction eraseWalk missing es generalizing es' with
  | case1 => simp_all
  | case2 e hmissing => cases h
  | case3 e hmissing => simp_all
  | case4 e next es hmissing ih =>
      obtain ⟨es₁, h₁, rfl⟩ := Option.map_eq_some_iff.mp h
      exact (List.Sublist.cons_cons next (ih h₁)).cons e
  | case5 e next es hmissing ih =>
      obtain ⟨es₁, h₁, rfl⟩ := Option.map_eq_some_iff.mp h
      exact List.Sublist.cons_cons e (ih h₁)

/-- Erase the entries whose keys another map lacks, the way the loop does it. -/
def eraseMissing (m checked : ObjectList α) : Option (ObjectList α) :=
  match h : eraseWalk (fun key => !checked.hasKey key) m.entries.reverse with
  | none => none
  | some es =>
      some ⟨es.reverse, by
        have hsub := (eraseWalk_sublist h).reverse
        rw [List.reverse_reverse] at hsub
        exact m.sorted.sublist hsub⟩

end ObjectList

namespace AuctionRule

variable {α : Type}

/-- A rule without objects. -/
def empty : AuctionRule α :=
  ⟨OrderedMap.empty, OrderedMap.empty⟩

def getNumberMspecRequestObjects (r : AuctionRule α) : Nat :=
  r.objectRequests.size

def getNumberMspecResponseObjects (r : AuctionRule α) : Nat :=
  r.objectResponses.size

/-- Replace the request objects by copies of the given ones under new keys. -/
def resetRequestObjects (r : AuctionRule α) (newKey : Nat → MspecRuleKey)
    (objects : List (MspecObject α)) : AuctionRule α :=
  { r with objectRequests := ObjectList.setFresh newKey objects OrderedMap.empty }

/-- A new rule with the given request objects under new keys. -/
def ofRequestObjects (newKey : Nat → MspecRuleKey) (objects : List (MspecObject α)) :
    AuctionRule α :=
  { empty with objectRequests := ObjectList.setFresh newKey objects OrderedMap.empty }

/-- Add copies of installed objects as response objects under new keys. -/
def setReponseObjects (r : AuctionRule α) (newKey : Nat → MspecRuleKey)
    (install : ObjectList α) : AuctionRule α :=
  { r with
    objectResponses := ObjectList.setFresh newKey install.values r.objectResponses }

end AuctionRule

/-! ## Numbers of objects -/

namespace ObjectList

variable {α : Type}

theorem size_setFresh_le (newKey : Nat → MspecRuleKey) (objects : List (MspecObject α))
    (m : ObjectList α) : (setFresh newKey objects m).size ≤ m.size + objects.length := by
  induction objects generalizing newKey m with
  | nil => exact le_rfl
  | cons o os ih =>
      have htail := ih (fun i => newKey (i + 1)) (m.insert (newKey 0) o)
      have hinsert := OrderedMap.size_insert_le m (newKey 0) o
      rw [setFresh, List.length_cons]
      omega

theorem size_le_size_setFresh (newKey : Nat → MspecRuleKey) (objects : List (MspecObject α))
    (m : ObjectList α) : m.size ≤ (setFresh newKey objects m).size := by
  induction objects generalizing newKey m with
  | nil => exact le_rfl
  | cons o os ih => exact (OrderedMap.size_le_size_insert m (newKey 0) o).trans (ih _ _)

/-- Whatever the keys, objects put into an empty map leave it empty only if there are none. -/
theorem size_setFresh_eq_zero_iff (newKey : Nat → MspecRuleKey)
    (objects : List (MspecObject α)) :
    (setFresh newKey objects OrderedMap.empty).size = 0 ↔ objects = [] := by
  cases objects with
  | nil => simp [setFresh]
  | cons o os =>
      refine iff_of_false (fun hzero => ?_) (List.cons_ne_nil o os)
      have hle := size_le_size_setFresh (fun i => newKey (i + 1)) os
        ((OrderedMap.empty : ObjectList α).insert (newKey 0) o)
      have hpos := OrderedMap.size_insert_pos (OrderedMap.empty : ObjectList α) (newKey 0) o
      rw [setFresh] at hzero
      omega

theorem size_eraseMissing_le {m checked m' : ObjectList α}
    (h : m.eraseMissing checked = some m') : m'.size ≤ m.size := by
  unfold eraseMissing at h
  split at h
  · cases h
  · rename_i es hwalk
    cases h
    have hle := (eraseWalk_sublist hwalk).length_le
    rw [List.length_reverse] at hle
    rw [OrderedMap.size, List.length_reverse]
    exact hle

end ObjectList

/-! ## Objects under fresh keys -/

/-- The first keys generated are different from each other. -/
def DistinctKeys (newKey : Nat → MspecRuleKey) (count : Nat) : Prop :=
  ∀ i j, i < count → j < count → newKey i = newKey j → i = j

namespace ObjectList

variable {α : Type} {newKey : Nat → MspecRuleKey}

theorem setFresh_values_of_disjoint (objects : List (MspecObject α)) (m : ObjectList α)
    (hnew : DistinctKeys newKey objects.length)
    (hm : ∀ i, i < objects.length → m.find? (newKey i) = none) :
    (setFresh newKey objects m).values.Perm (m.values ++ objects) := by
  induction objects generalizing newKey m with
  | nil => simp [setFresh]
  | cons o os ih =>
      have hnew' : DistinctKeys (fun i => newKey (i + 1)) os.length := by
        intro i j hi hj hij
        exact Nat.succ_injective (hnew _ _ (Nat.succ_lt_succ hi) (Nat.succ_lt_succ hj) hij)
      have hm' : ∀ i, i < os.length → (m.insert (newKey 0) o).find? (newKey (i + 1)) = none := by
        intro i hi
        have hne : newKey (i + 1) ≠ newKey 0 := fun h =>
          Nat.succ_ne_zero i (hnew _ _ (Nat.succ_lt_succ hi) (Nat.succ_pos _) h)
        rw [OrderedMap.find?_insert_of_ne m o fun h => hne (BitVec.eq_of_toNat_eq h)]
        exact hm (i + 1) (Nat.succ_lt_succ hi)
      have hins : (m.insert (newKey 0) o).values.Perm (o :: m.values) :=
        OrderedMap.values_insert_perm o (hm 0 (Nat.succ_pos _))
      exact (ih _ hnew' hm').trans ((hins.append_right os).trans List.perm_middle.symm)

/-- Whatever the keys, the values are some of the old ones and of the objects put. -/
theorem subperm_setFresh (newKey : Nat → MspecRuleKey) (objects : List (MspecObject α))
    (m : ObjectList α) : (setFresh newKey objects m).values.Subperm (m.values ++ objects) := by
  induction objects generalizing newKey m with
  | nil =>
      rw [List.append_nil]
      exact List.Subperm.refl _
  | cons o os ih =>
      have htail := ih (fun i => newKey (i + 1)) (m.insert (newKey 0) o)
      have hinsert : (m.insert (newKey 0) o).values.Subperm (o :: m.values) :=
        OrderedMap.values_insert_subperm m (newKey 0) o
      have happend := (hinsert.append (List.Subperm.refl os)).trans List.perm_middle.symm.subperm
      exact htail.trans happend

/-- Objects put under distinct keys into an empty map are all there, each once. -/
theorem setFresh_values {objects : List (MspecObject α)}
    (hnew : DistinctKeys newKey objects.length) :
    (setFresh newKey objects OrderedMap.empty).values.Perm objects :=
  setFresh_values_of_disjoint objects OrderedMap.empty hnew fun _ _ => OrderedMap.find?_empty _

theorem hasKey_insert_self (m : ObjectList α) (key : MspecRuleKey) (o : MspecObject α) :
    hasKey (m.insert key o) key = true := by
  rw [hasKey, OrderedMap.find?_insert_self, Option.isSome_some]

theorem hasKey_insert_of_hasKey {m : ObjectList α} {key : MspecRuleKey}
    (h : m.hasKey key = true) (key' : MspecRuleKey) (o : MspecObject α) :
    hasKey (m.insert key' o) key = true := by
  by_cases heq : key = key'
  · subst heq
    exact hasKey_insert_self m key o
  · rw [hasKey, OrderedMap.find?_insert_of_ne m o fun h => heq (BitVec.eq_of_toNat_eq h)]
    exact h

/-- Putting objects into a map leaves its keys there. -/
theorem hasKey_setFresh_of_hasKey {m : ObjectList α} {key : MspecRuleKey}
    (h : m.hasKey key = true) (objects : List (MspecObject α)) :
    (setFresh newKey objects m).hasKey key = true := by
  induction objects generalizing newKey m with
  | nil => exact h
  | cons o os ih =>
      apply ih
      exact hasKey_insert_of_hasKey h (newKey 0) o

/-- The first key generated is there if there is an object for it. -/
theorem hasKey_setFresh_zero (newKey : Nat → MspecRuleKey) {objects : List (MspecObject α)}
    (h : objects ≠ []) (m : ObjectList α) :
    (setFresh newKey objects m).hasKey (newKey 0) = true := by
  cases objects with
  | nil => exact absurd rfl h
  | cons o os =>
      rw [setFresh]
      apply hasKey_setFresh_of_hasKey
      exact hasKey_insert_self m (newKey 0) o

end ObjectList

/-! ## The erasing loop -/

namespace ObjectList

variable {α : Type} {missing : MspecRuleKey → Bool}

private theorem rtakeWhile_cons {β : Type} (p : β → Bool) (x : β) (l : List β) :
    (x :: l).rtakeWhile p =
      if l.all p = true then (if p x = true then x :: l else l) else l.rtakeWhile p := by
  induction l using List.reverseRecOn with
  | nil => cases h : p x <;> simp [List.rtakeWhile, h]
  | append_singleton l y ih =>
      rw [← List.cons_append, List.rtakeWhile_concat, List.rtakeWhile_concat, ih]
      cases hy : p y <;> simp [List.all_append, hy]
      split_ifs <;> rfl

/-- The loop leaves the map exactly when the entries to erase at the end of its walk are
odd in number: it erases every other one of them, and so the last one. -/
theorem eraseWalk_eq_none_iff (es : List (MspecRuleKey × MspecObject α)) :
    eraseWalk missing es = none ↔ (es.rtakeWhile fun e => missing e.1).length % 2 = 1 := by
  fun_induction eraseWalk missing es with
  | case1 => simp
  | case2 e hmissing => simp [List.rtakeWhile, hmissing]
  | case3 e hmissing => simp [List.rtakeWhile, hmissing]
  | case4 e next es hmissing ih =>
      rw [Option.map_eq_none_iff, ih, rtakeWhile_cons, rtakeWhile_cons]
      by_cases hall : es.all fun e => missing e.1
      · have hself : es.rtakeWhile (fun e => missing e.1) = es :=
          List.rtakeWhile_eq_self_iff.mpr (List.all_eq_true.mp hall)
        cases hnext : missing next.1 <;>
          simp only [List.all_cons, hall, hmissing, hnext, hself, if_true, Bool.and_true,
            Bool.false_eq_true, if_false, List.length_cons]
        omega
      · simp [hall]
  | case5 e next es hmissing ih =>
      rw [Option.map_eq_none_iff, ih, rtakeWhile_cons _ e]
      split_ifs with hall
      · rw [List.rtakeWhile_eq_self_iff.mpr (List.all_eq_true.mp hall)]
      · rfl

/-- The loop keeps exactly the entries that are not missing if there are no two missing ones
in a row and the last one of its walk is kept: each erasure makes it step over an entry that
is kept anyway. -/
theorem eraseWalk_eq_filter_iff (es : List (MspecRuleKey × MspecObject α)) :
    eraseWalk missing es = some (es.filter fun e => !missing e.1) ↔
      es.IsChain (fun e e' => missing e.1 = false ∨ missing e'.1 = false) ∧
        ∀ e ∈ es.getLast?, missing e.1 = false := by
  fun_induction eraseWalk missing es with
  | case1 => simp
  | case2 e hmissing => simp [hmissing]
  | case3 e hmissing => simp [hmissing]
  | case4 e next es hmissing ih =>
      have hself : (e :: next :: es).filter (fun e => !missing e.1) =
          (next :: es).filter fun e => !missing e.1 := by
        simp [hmissing]
      rw [hself, List.isChain_cons_cons, List.getLast?_cons_cons]
      by_cases hnext : missing next.1 = true
      · refine iff_of_false ?_ fun h => ?_
        · -- the entry stepped over is kept although it is missing
          rw [List.filter_cons_of_neg (by simp [hnext])]
          intro h
          rcases Option.map_eq_some_iff.mp h with ⟨es', _, hes'⟩
          have hmem : next ∈ es.filter fun e => !missing e.1 := hes' ▸ List.mem_cons_self
          simp [hnext] at hmem
        · rcases h.1.1 with h | h
          · rw [hmissing] at h
            cases h
          · rw [hnext] at h
            cases h
      · have hkept := Bool.eq_false_iff.mpr hnext
        rw [List.filter_cons_of_pos (by simp [hkept])]
        have hmap : (eraseWalk missing es).map (next :: ·) =
            some (next :: es.filter fun e => !missing e.1) ↔
              eraseWalk missing es = some (es.filter fun e => !missing e.1) := by
          simp [Option.map_eq_some_iff]
        rw [hmap, ih]
        cases es with
        | nil => simp [hkept]
        | cons e' es => simp [hkept]
  | case5 e next es hkept ih =>
      have hkept := Bool.eq_false_iff.mpr hkept
      have hself : (e :: next :: es).filter (fun e => !missing e.1) =
          e :: (next :: es).filter fun e => !missing e.1 := by
        simp [hkept]
      have hmap : (eraseWalk missing (next :: es)).map (e :: ·) =
          some (e :: (next :: es).filter fun e => !missing e.1) ↔
            eraseWalk missing (next :: es) =
              some ((next :: es).filter fun e => !missing e.1) := by
        simp [Option.map_eq_some_iff]
      rw [hself, hmap, ih, List.isChain_cons_cons, List.getLast?_cons_cons]
      simp [hkept]

/-- The objects a reply to a check lacks stand alone, in the order of their keys: the first
object is in the reply, and of two neighbours one is. -/
structure Scattered (m checked : ObjectList α) : Prop where
  first : ∀ e ∈ m.entries.head?, checked.hasKey e.1 = true
  neighbours : m.entries.IsChain fun e e' =>
    checked.hasKey e.1 = true ∨ checked.hasKey e'.1 = true

/-- The erasing loop keeps exactly the objects in the reply if the others stand alone. -/
theorem eraseMissing_eq_filterKeys_iff (m checked : ObjectList α) :
    m.eraseMissing checked = some (m.filterKeys checked.hasKey) ↔ m.Scattered checked := by
  have hwalk : eraseWalk (fun key => !checked.hasKey key) m.entries.reverse = some _ ↔ _ :=
    eraseWalk_eq_filter_iff _
  simp only [Bool.not_not, List.isChain_reverse, List.getLast?_reverse,
    Bool.not_eq_false'] at hwalk
  have hsame : m.eraseMissing checked = some (m.filterKeys checked.hasKey) ↔
      eraseWalk (fun key => !checked.hasKey key) m.entries.reverse =
        some (m.entries.reverse.filter fun e => checked.hasKey e.1) := by
    unfold eraseMissing
    split
    · rename_i hnone
      simp [hnone]
    · rename_i es hes
      have hkept : eraseWalk (fun key => !checked.hasKey key) m.entries.reverse =
          some (m.entries.reverse.filter fun e => checked.hasKey e.1) ↔
            es = m.entries.reverse.filter fun e => checked.hasKey e.1 := by
        constructor
        · intro h
          exact Option.some.inj (hes.symm.trans h)
        · intro h
          exact hes.trans (congrArg some h)
      rw [hkept, Option.some.injEq, OrderedMap.ext_iff, OrderedMap.filterKeys,
        List.filter_reverse, List.reverse_eq_iff]
  rw [hsame, hwalk]
  constructor
  · rintro ⟨hneighbours, hfirst⟩
    exact ⟨hfirst, hneighbours.imp fun _ _ h => h.symm⟩
  · intro h
    exact ⟨h.neighbours.imp fun _ _ h => h.symm, h.first⟩

/-- What a reply to a check is to leave of a map: the objects whose keys it has, unchanged. -/
def KeepsChecked (m checked m' : ObjectList α) : Prop :=
  ∀ key, m'.find? key = if checked.hasKey key then m.find? key else none

theorem toNat_injective : Function.Injective (BitVec.toNat : MspecRuleKey → Nat) :=
  fun _ _ h => BitVec.eq_of_toNat_eq h

theorem keepsChecked_iff {m checked m' : ObjectList α} :
    m.KeepsChecked checked m' ↔ m' = m.filterKeys checked.hasKey := by
  constructor
  · intro h
    apply OrderedMap.eq_of_find? toNat_injective
    intro key
    rw [h key, OrderedMap.find?_filterKeys toNat_injective]
  · rintro rfl key
    exact OrderedMap.find?_filterKeys toNat_injective _ m key

/-- The loop does to a map what the reply asks for if the objects to erase stand alone. -/
theorem exists_eraseMissing_keepsChecked_iff (m checked : ObjectList α) :
    (∃ m', m.eraseMissing checked = some m' ∧ m.KeepsChecked checked m') ↔
      m.Scattered checked := by
  rw [← eraseMissing_eq_filterKeys_iff]
  constructor
  · rintro ⟨m', herase, hkeeps⟩
    rw [herase, keepsChecked_iff.mp hkeeps]
  · intro herase
    exact ⟨_, herase, keepsChecked_iff.mpr rfl⟩

/-- How many request objects before the first one that was checked, in the order of
their keys, a reply to a check lacks. -/
def leadingMissing (m checked : ObjectList α) : Nat :=
  (m.entries.takeWhile fun e => !checked.hasKey e.1).length

/-- The erasing loop stays in the map exactly when an even number of entries precede the
first one it keeps. -/
theorem eraseMissing_eq_none_iff (m checked : ObjectList α) :
    m.eraseMissing checked = none ↔ m.leadingMissing checked % 2 = 1 := by
  have hwalk : eraseWalk (fun key => !checked.hasKey key) m.entries.reverse = none ↔ _ :=
    eraseWalk_eq_none_iff _
  rw [List.rtakeWhile_reverse, List.length_reverse] at hwalk
  rw [leadingMissing, ← hwalk, eraseMissing]
  split <;> simp_all

end ObjectList
end Anslp
