import Anslp.Msg.XmlWriting
import Mathlib.Order.RelClasses
import Mathlib.Data.Set.Basic

/-!
# The order of object keys

The splitter keeps templates and records in maps that compare their keys with
{lit}`operator<`, and such a map asks for a strict weak order.  The operator compares
the ids also when the type of the left key is the greater one, so two keys can each be
less than the other.  On keys of which no two are so, it is the order by type, then id.

Main results:

- Theorem {lit}`ordersKeys_iff`: the sets of keys that {lit}`operator<` orders.
- Theorem {lit}`ordersKeys_of_split`: it orders the objects of every message that is split.

Current gaps:

- None for the operator and the loops that use it.
-/

namespace Anslp
namespace Ipap

open Function Numerals

/-- {lit}`xml_object_key::operator==`. -/
def XmlObjectKey.equal (k rhs : XmlObjectKey) : Bool :=
  decide (k.objectType = rhs.objectType) && decide (k.idObject = rhs.idObject)

theorem XmlObjectKey.equal_iff {a b : XmlObjectKey} : a.equal b = true ↔ a = b := by
  rw [XmlObjectKey.mk.injEq, equal, Bool.and_eq_true, decide_eq_true_eq, decide_eq_true_eq]

/-- What a map asks of the comparison on the keys it holds. -/
structure OrdersKeys (K : Set XmlObjectKey) : Prop where
  weakOrder : IsStrictWeakOrder K fun a b => a.1.less b.1 = true
  asymm : ∀ a ∈ K, ∀ b ∈ K, a.less b = true → ¬ b.less a = true
  incomparable_iff : ∀ a ∈ K, ∀ b ∈ K,
    (¬ a.less b = true ∧ ¬ b.less a = true) ↔ a.equal b = true

/-- Two keys are each less than the other if the one with the smaller type has the
greater id. -/
theorem XmlObjectKey.less_both_iff {a b : XmlObjectKey} :
    (a.less b = true ∧ b.less a = true) ↔
      (a.objectType < b.objectType ∧ b.idObject < a.idObject) ∨
        (b.objectType < a.objectType ∧ a.idObject < b.idObject) := by
  simp only [less]
  by_cases hlt : a.objectType < b.objectType
  · have hnot : ¬ b.objectType < a.objectType := Nat.lt_asymm hlt
    simp [hlt, hnot]
  · by_cases hgt : b.objectType < a.objectType
    · simp [hlt, hgt]
    · simp only [hlt, hgt, if_false, decide_eq_true_eq, false_and, or_self, iff_false, not_and]
      exact fun hab => lt_asymm hab

theorem XmlObjectKey.less_irrefl (k : XmlObjectKey) : ¬ k.less k = true := by
  simp [less]

/-- Keys are equal if and only if neither is less, whatever their types and ids. -/
theorem XmlObjectKey.not_less_iff {a b : XmlObjectKey} :
    (¬ a.less b = true ∧ ¬ b.less a = true) ↔ a.equal b = true := by
  rw [equal_iff]
  constructor
  · rintro ⟨hab, hba⟩
    have hboth : ¬ (a.less b = true ∧ b.less a = true) := fun h => hab h.1
    have hba' : ¬ (b.less a = true ∧ a.less b = true) := fun h => hab h.2
    rw [less_iff hboth] at hab
    rw [less_iff hba'] at hba
    exact rank_injective (le_antisymm (not_lt.mp hba) (not_lt.mp hab))
  · rintro rfl
    exact ⟨less_irrefl a, less_irrefl a⟩

section Orders

variable {K : Set XmlObjectKey}

/-- Where no two keys are each less than the other, they compare as their ranks. -/
theorem isStrictWeakOrder_less
    (h : ∀ a ∈ K, ∀ b ∈ K, ¬ (a.less b = true ∧ b.less a = true)) :
    IsStrictWeakOrder K fun a b => a.1.less b.1 = true := by
  have hrank : (fun a b : K => a.1.less b.1 = true) =
      ((· < ·) on fun a : K => a.1.rank) := by
    funext a b
    exact propext (XmlObjectKey.less_iff (h a.1 a.2 b.1 b.2))
  have hranks : IsStrictWeakOrder (Nat ×ₗ Text) (· < ·) := isStrictWeakOrder_of_isOrderConnected
  rw [hrank]
  infer_instance

theorem OrdersKeys.of_asymm (h : ∀ a ∈ K, ∀ b ∈ K, ¬ (a.less b = true ∧ b.less a = true)) :
    OrdersKeys K where
  weakOrder := isStrictWeakOrder_less h
  asymm a ha b hb hab hba := h a ha b hb ⟨hab, hba⟩
  incomparable_iff _ _ _ _ := XmlObjectKey.not_less_iff

/-- {lit}`operator<` orders a set of keys exactly when no key of a smaller type has a
greater id than one of a greater type. -/
theorem ordersKeys_iff (K : Set XmlObjectKey) :
    OrdersKeys K ↔ ∀ a ∈ K, ∀ b ∈ K,
      ¬ (a.objectType < b.objectType ∧ b.idObject < a.idObject) := by
  constructor
  · intro h a ha b hb hswapped
    have hboth := XmlObjectKey.less_both_iff.mpr (.inl hswapped)
    exact h.asymm a ha b hb hboth.1 hboth.2
  · intro h
    apply OrdersKeys.of_asymm
    intro a ha b hb hboth
    rcases XmlObjectKey.less_both_iff.mp hboth with hswapped | hswapped
    · exact h a ha b hb hswapped
    · exact h b hb a ha hswapped

/-- Not all keys are ordered: of an auction and a bid each can be less. -/
theorem not_ordersKeys_univ : ¬ OrdersKeys Set.univ := by
  intro h
  have hless : (⟨0, "%b".toList⟩ : XmlObjectKey).less ⟨1, "%a".toList⟩ = true := by decide
  have hless' : (⟨1, "%a".toList⟩ : XmlObjectKey).less ⟨0, "%b".toList⟩ = true := by decide
  exact h.asymm _ (Set.mem_univ _) _ (Set.mem_univ _) hless hless'

end Orders

end Ipap

namespace Xml

open Ipap

variable {V : Type} {lib : Library V} {m : Message V} {s : Splitter V}
  {rs : List (DataRecord V)}

/-- A splitter only holds keys that {lit}`operator<` orders. -/
theorem Splits.ordersKeys (h : Splits lib m s rs) :
    OrdersKeys {k | k ∈ s.objectTemplates.keys} := by
  apply OrdersKeys.of_asymm
  intro a ha b hb
  exact h.comparable a ha b hb

/-- So a message is split only if {lit}`operator<` orders the objects of its records. -/
theorem ordersKeys_of_split (hlib : lib.Lawful) (h : split lib m = .ok s) :
    OrdersKeys {k | lib.recordsOf m k ≠ []} := by
  have hsplits := (split_eq_ok hlib h).1
  have hkeys : {k | lib.recordsOf m k ≠ []} = {k | k ∈ s.objectTemplates.keys} :=
    Set.ext fun k => hsplits.mem_objectTemplates_keys.symm
  rw [hkeys]
  exact hsplits.ordersKeys

end Xml
end Anslp
