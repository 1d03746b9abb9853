import Anslp.Session.Rule

/-!
# Copying and comparing auction rules

The copy constructor, the assignment and the comparison of auction rules.  The definitions
follow {lit}`auction_rule`; the comparison of two messages is that of the message library.

The assignment writes the objects of the right side over those of the left side.  Objects
the left side has under other keys stay.

Main results:

- Theorem {lit}`equals_iff`: rules are equal if they have equal objects under each key.
- Theorem {lit}`copy_eq`: a copy has the same objects under the same keys.
- Theorem {lit}`copiedAndCompared_iff`: an assignment makes its left side equal to its right
  side if each key of the left side is one of the right side.

Current gaps:

- The comparison of two IPAP messages is the library's.
-/

namespace Anslp

variable {α ι : Type} [DecidableEq ι]

/-- Equality of IPAP message objects: that of their messages. -/
def MspecObject.isEqual (same : α → α → Bool) (a b : MspecObject α) : Bool :=
  same a.message b.message

namespace AuctionRule

/-! ## Copying -/

/-- Put an object under a key; an object that was there is deleted. -/
def setRequestObject (r : AuctionRule α) (key : MspecRuleKey) (o : MspecObject α) :
    AuctionRule α :=
  { r with objectRequests := r.objectRequests.insert key o }

def setResponseObject (r : AuctionRule α) (key : MspecRuleKey) (o : MspecObject α) :
    AuctionRule α :=
  { r with objectResponses := r.objectResponses.insert key o }

/-- The loops over the objects of another rule that put copies of them into this one. -/
def assign (r rhs : AuctionRule α) : AuctionRule α :=
  let requested := rhs.objectRequests.entries.foldl (fun r e => r.setRequestObject e.1 e.2) r
  rhs.objectResponses.entries.foldl (fun r e => r.setResponseObject e.1 e.2) requested

/-- The copy constructor, which starts with a rule without objects. -/
def copy (rhs : AuctionRule α) : AuctionRule α :=
  empty.assign rhs

/-- Rules in memory after one was assigned to another one, or to itself. -/
def assignAt (rules : ι → AuctionRule α) (x y : ι) : ι → AuctionRule α :=
  Function.update rules x ((rules x).assign (rules y))

theorem foldl_setRequestObject (es : List (MspecRuleKey × MspecObject α)) (r : AuctionRule α) :
    es.foldl (fun r e => r.setRequestObject e.1 e.2) r =
      { r with objectRequests := es.foldl (fun m e => m.insert e.1 e.2) r.objectRequests } := by
  induction es generalizing r with
  | nil => rfl
  | cons e es ih => exact ih _

theorem foldl_setResponseObject (es : List (MspecRuleKey × MspecObject α)) (r : AuctionRule α) :
    es.foldl (fun r e => r.setResponseObject e.1 e.2) r =
      { r with objectResponses := es.foldl (fun m e => m.insert e.1 e.2) r.objectResponses } := by
  induction es generalizing r with
  | nil => rfl
  | cons e es ih => exact ih _

/-- An assignment writes over both maps. -/
theorem assign_eq (r rhs : AuctionRule α) :
    r.assign rhs = ⟨r.objectRequests.insertAll rhs.objectRequests,
      r.objectResponses.insertAll rhs.objectResponses⟩ := by
  rw [assign, foldl_setRequestObject, foldl_setResponseObject]
  rfl

/-- A copy has the same objects under the same keys. -/
theorem copy_eq (r : AuctionRule α) : r.copy = r := by
  rw [copy, assign_eq]
  apply AuctionRule.ext <;> apply OrderedMap.eq_of_find? ObjectList.toNat_injective
  · intro key
    simp [OrderedMap.find?_insertAll, empty]
  · intro key
    simp [OrderedMap.find?_insertAll, empty]

/-- A rule assigned to itself stays as it is. -/
theorem assign_self (r : AuctionRule α) : r.assign r = r := by
  rw [assign_eq]
  apply AuctionRule.ext <;> apply OrderedMap.eq_of_find? ObjectList.toNat_injective
  · intro key
    simp [OrderedMap.find?_insertAll]
  · intro key
    simp [OrderedMap.find?_insertAll]

/-- The right side of an assignment stays as it is, also if it is the left side. -/
theorem assignAt_right (rules : ι → AuctionRule α) (x y : ι) : assignAt rules x y y = rules y := by
  by_cases h : y = x
  · rw [h, assignAt, Function.update_self, assign_self]
  · exact Function.update_of_ne h _ _

/-! ## Comparing -/

/-- Both maps have to be of one size, and have an equal object for each object of the left
side. -/
def equals (same : α → α → Bool) (r rhs : AuctionRule α) : Bool :=
  r.objectRequests.agrees (MspecObject.isEqual same) rhs.objectRequests &&
    r.objectResponses.agrees (MspecObject.isEqual same) rhs.objectResponses

/-- Two maps have equal objects under each key. -/
def SameObjects (same : α → α → Bool) (m m' : ObjectList α) : Prop :=
  ∀ key, Option.Rel (fun o o' => MspecObject.isEqual same o o' = true) (m.find? key) (m'.find? key)

/-- Two rules have equal request objects and equal response objects under each key. -/
theorem equals_iff {same : α → α → Bool} {r rhs : AuctionRule α} :
    r.equals same rhs = true ↔
      SameObjects same r.objectRequests rhs.objectRequests ∧
        SameObjects same r.objectResponses rhs.objectResponses := by
  rw [equals, Bool.and_eq_true, OrderedMap.agrees_iff ObjectList.toNat_injective,
    OrderedMap.agrees_iff ObjectList.toNat_injective]
  exact Iff.rfl

section Equivalence

variable {same : α → α → Bool} (hsame : Equivalence fun a b => same a b = true)
include hsame

theorem sameObjects_refl (m : ObjectList α) : SameObjects same m m := by
  intro key
  cases m.find? key with
  | none => exact .none
  | some o => exact .some (hsame.refl o.message)

theorem SameObjects.symm {m m' : ObjectList α} (h : SameObjects same m m') :
    SameObjects same m' m := by
  intro key
  have hkey := h key
  generalize m.find? key = x, m'.find? key = y at hkey ⊢
  cases hkey with
  | none => exact .none
  | some ho => exact .some (hsame.symm ho)

theorem SameObjects.trans {m m' m'' : ObjectList α} (h : SameObjects same m m')
    (h' : SameObjects same m' m'') : SameObjects same m m'' := by
  intro key
  have hkey := h key
  have hkey' := h' key
  generalize m.find? key = x, m'.find? key = y, m''.find? key = z at hkey hkey' ⊢
  cases hkey with
  | none =>
      cases hkey' with
      | none => exact .none
  | some ho =>
      cases hkey' with
      | some ho' => exact .some (hsame.trans ho ho')

/-- A map written over another one hides it if it has all of its keys. -/
theorem sameObjects_insertAll_iff (m m' : ObjectList α) :
    SameObjects same (m.insertAll m') m' ↔
      ∀ key, m.hasKey key = true → m'.hasKey key = true := by
  apply forall_congr'
  intro key
  rw [OrderedMap.find?_insertAll, ObjectList.hasKey, ObjectList.hasKey]
  cases m'.find? key with
  | none => cases m.find? key <;> simp
  | some o => simpa [MspecObject.isEqual] using hsame.refl o.message

/-- An assignment makes a rule equal to another one if that one has all of its keys. -/
theorem equals_assign_iff (r rhs : AuctionRule α) :
    (r.assign rhs).equals same rhs = true ↔
      (∀ key, r.objectRequests.hasKey key = true → rhs.objectRequests.hasKey key = true) ∧
        ∀ key, r.objectResponses.hasKey key = true → rhs.objectResponses.hasKey key = true := by
  rw [equals_iff, assign_eq, sameObjects_insertAll_iff hsame, sameObjects_insertAll_iff hsame]

end Equivalence

/-- What is expected of rules that are copied, assigned and compared. -/
structure CopiedAndCompared (same : α → α → Bool) (rules : ι → AuctionRule α) (x y : ι) :
    Prop where
  assigned : (assignAt rules x y x).equals same (assignAt rules x y y) = true
  unchanged : assignAt rules x y y = rules y
  copied : ∀ r : AuctionRule α, r.copy.equals same r = true
  reflexive : ∀ r : AuctionRule α, r.equals same r = true
  symmetric : ∀ r r' : AuctionRule α, r.equals same r' = true → r'.equals same r = true
  transitive : ∀ r r' r'' : AuctionRule α,
    r.equals same r' = true → r'.equals same r'' = true → r.equals same r'' = true
  distinguishes : ∀ r r' : AuctionRule α,
    ¬ (SameObjects same r.objectRequests r'.objectRequests ∧
      SameObjects same r.objectResponses r'.objectResponses) → r.equals same r' = false

/-- Everything is as expected exactly if each key of the left side of the assignment is one
of the right side. -/
theorem copiedAndCompared_iff {same : α → α → Bool}
    (hsame : Equivalence fun a b => same a b = true) (rules : ι → AuctionRule α) (x y : ι) :
    CopiedAndCompared same rules x y ↔
      (∀ key, (rules x).objectRequests.hasKey key = true →
        (rules y).objectRequests.hasKey key = true) ∧
      ∀ key, (rules x).objectResponses.hasKey key = true →
        (rules y).objectResponses.hasKey key = true := by
  have hassigned : assignAt rules x y x = (rules x).assign (rules y) := Function.update_self _ _ _
  have hrefl : ∀ r : AuctionRule α, r.equals same r = true := fun r =>
    equals_iff.mpr ⟨sameObjects_refl hsame _, sameObjects_refl hsame _⟩
  constructor
  · intro h
    have hequal := h.assigned
    rw [hassigned, assignAt_right] at hequal
    exact (equals_assign_iff hsame _ _).mp hequal
  · intro hkeys
    refine ⟨?_, assignAt_right rules x y, fun r => ?_, hrefl, fun r r' h => ?_,
      fun r r' r'' h h' => ?_, fun r r' h => ?_⟩
    · rw [hassigned, assignAt_right]
      exact (equals_assign_iff hsame _ _).mpr hkeys
    · rw [copy_eq]
      exact hrefl r
    · obtain ⟨hreq, hresp⟩ := equals_iff.mp h
      exact equals_iff.mpr ⟨hreq.symm hsame, hresp.symm hsame⟩
    · obtain ⟨hreq, hresp⟩ := equals_iff.mp h
      obtain ⟨hreq', hresp'⟩ := equals_iff.mp h'
      exact equals_iff.mpr ⟨hreq.trans hsame hreq', hresp.trans hsame hresp'⟩
    · exact Bool.eq_false_iff.mpr fun hequal => h (equals_iff.mp hequal)

/-- A rule with one request object. -/
def single (key : MspecRuleKey) (message : α) : AuctionRule α :=
  empty.setRequestObject key ⟨.mandatory, message⟩

/-- A rule takes over the objects of one that has its key and another one. -/
theorem copiedAndCompared_overlapping :
    CopiedAndCompared (fun a b : Nat => a == b)
      (fun x : Bool => cond x ((single 5 2).setRequestObject 7 ⟨.mandatory, 3⟩) (single 5 1))
      false true := by
  have hsame : Equivalence fun a b : Nat => (a == b) = true := by
    simpa using eq_equivalence
  refine (copiedAndCompared_iff hsame _ false true).mpr ⟨?_, ?_⟩
  · intro key h
    by_cases hkey : key = 5
    · subst hkey
      rfl
    · have hnone : (single 5 1 : AuctionRule Nat).objectRequests.find? key = none :=
        (OrderedMap.find?_insert ObjectList.toNat_injective _ _ _ _).trans (if_neg hkey)
      have hsome : ((single 5 1 : AuctionRule Nat).objectRequests.find? key).isSome = true := h
      rw [hnone] at hsome
      cases hsome
  · intro key h
    cases h

/-- A rule keeps its objects when an empty one is assigned to it. -/
theorem not_copiedAndCompared_empty :
    ¬ CopiedAndCompared (fun a b : Nat => a == b) (fun x : Bool => cond x empty (single 5 1))
      false true := by
  intro h
  have hassigned := h.assigned
  revert hassigned
  decide

end AuctionRule
end Anslp
