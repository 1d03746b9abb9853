import Anslp.Msg.Ntlp
import Anslp.Msg.RoundTrip

/-!
# The objects of a decoded message in wire order

The decoder stores the objects it reads under keys.  This module relates the store of a
decoded message to the sequence of objects in the buffer, and settles what
{lit}`get_mspec_objects` gives for it.

Main results:

- Theorem {lit}`deserialize_wireObjects`: a decoded message is the layout of the objects
  in its buffer, added in their order.
- Theorem {lit}`mspecObjects_of_wireObjects`: its IPAP message objects in wire order.
- Theorem {lit}`getMspecObjects_wire_iff`: the decoded messages for which
  {lit}`get_mspec_objects` gives exactly these.

Current gaps:

- None for the messages with objects of the auction.
-/

namespace Anslp

open AnslpObject Decoding RoundTrip

namespace WireOrder

variable {α : Type} [IpapMessage α]

/-- The objects that are taken one after the other from a position to the end of a
buffer. -/
inductive WireObjects : List UInt8 → List (AnslpObject α) → Prop
  | nil : WireObjects [] []
  | cons {headerRaw : UInt32} {rest tl : List UInt8} {o : AnslpObject α}
      {os : List (AnslpObject α)} (htaken : Taken headerRaw rest o tl)
      (hrest : WireObjects tl os) : WireObjects (Words.bytes32 headerRaw ++ rest) (o :: os)

/-- A buffer has one sequence of objects. -/
theorem WireObjects.unique {bs : List UInt8} {os os' : List (AnslpObject α)}
    (h : WireObjects bs os) (h' : WireObjects bs os') : os = os' := by
  induction h generalizing os' with
  | nil =>
      generalize hbs : ([] : List UInt8) = bs at h'
      cases h' with
      | nil => rfl
      | cons => simp [Words.bytes32] at hbs
  | @cons headerRaw rest tl o os htaken _ ih =>
      generalize hbs : Words.bytes32 headerRaw ++ rest = bs at h'
      cases h' with
      | nil => simp [Words.bytes32] at hbs
      | cons htaken' hrest' =>
          rcases bytes32_append_inj hbs with ⟨rfl, rfl⟩
          rcases htaken.unique htaken' with ⟨rfl, rfl⟩
          rw [ih hrest']

/-- The loop over the objects of a message adds the objects of its buffer. -/
theorem deserializeObjects_wireObjects {rounds : Nat} {a a' : AnslpMsg α} {v : MsgView α}
    {seen : List UInt16} {m m' : NetMsg} {err err' : IEErrorList} {n n' : Nat}
    (hread : Reading a v seen m) (hrounds : m.bytesLeft ≤ rounds)
    (h : AnslpMsg.deserializeObjects false rounds a m err n = .ok (some (a', m', n'), err')) :
    ∃ os, WireObjects m.left os ∧ a'.HasView (os.foldl MsgView.add v) ∧ a'.kind = a.kind := by
  induction rounds generalizing a v seen m err n with
  | zero =>
      have hend : m.left = [] := List.length_eq_zero_iff.mp (Nat.le_zero.mp hrounds)
      simp only [AnslpMsg.deserializeObjects, Except.ok.injEq, Prod.mk.injEq,
        Option.some.injEq] at h
      rw [← h.1.1]
      exact ⟨[], hend ▸ .nil, hread.view, rfl⟩
  | succ rounds ih =>
      by_cases hend : m.bytesLeft = 0
      · simp only [AnslpMsg.deserializeObjects, if_pos hend, Except.ok.injEq, Prod.mk.injEq,
          Option.some.injEq] at h
        have hnil : m.left = [] := List.length_eq_zero_iff.mp hend
        rw [← h.1.1]
        exact ⟨[], hnil ▸ .nil, hread.view, rfl⟩
      · rcases deserializeObjects_round hend h with
          ⟨headerRaw, rest, o, tl, m₁, k, hleft, htaken, hleft', hlen, hk, hloop⟩
        have hread' := hread.add htaken hleft' hlen hk
        have hrounds' : m₁.bytesLeft ≤ rounds := by
          simp only [NetMsg.bytesLeft, hleft'] at hrounds ⊢
          omega
        rcases ih hread' hrounds' hloop with ⟨os, hos, hview, hkind⟩
        rw [hleft'] at hos
        refine ⟨o :: os, ?_, hview, ?_⟩
        · rw [hleft]
          exact .cons htaken hos
        · rw [hkind, AnslpMsg.kind_setObject]

/-- A decoded message has the layout of the objects behind its header. -/
theorem deserialize_wireObjects {m m' : NetMsg} {err err' : IEErrorList} {a : AnslpMsg α}
    {n : Nat} (h : IEManager.deserialize m err false = .ok (some (a, m', n), err')) :
    ∃ os, WireObjects (m.left.drop 4) os ∧ a.HasView (os.foldl MsgView.add MsgView.empty) := by
  rcases deserialize_eq_ok h with ⟨msgHeader, body, kind, hleft, hloop⟩
  rcases deserializeObjects_wireObjects (reading_new kind) le_rfl hloop with
    ⟨os, hos, hview, _⟩
  exact ⟨os, hos, hview⟩

/-! ## What the layout of a sequence of objects holds -/

omit [IpapMessage α] in
theorem mspec?_eq_none_iff {o : AnslpObject α} :
    o.mspec? = none ↔ ∃ t, o.body.fixedType? = some t := by
  rcases o with ⟨type, treatment, unique, body⟩
  cases body <;> simp [AnslpObject.mspec?, Body.fixedType?]

omit [IpapMessage α] in
/-- The IPAP message objects keep their order. -/
theorem ipaps_foldl_add (os : List (AnslpObject α)) (v : MsgView α) :
    (os.foldl MsgView.add v).ipaps.filterMap AnslpObject.mspec? =
      v.ipaps.filterMap AnslpObject.mspec? ++ os.filterMap AnslpObject.mspec? := by
  induction os generalizing v with
  | nil => simp
  | cons o os ih =>
      rw [List.foldl_cons, ih]
      cases ht : o.body.fixedType? with
      | some t =>
          have hnone := mspec?_eq_none_iff.mpr ⟨t, ht⟩
          rw [List.filterMap_cons_none hnone]
          simp only [MsgView.add, ht, MsgView.setFixed]
      | none =>
          simp only [MsgView.add, ht, MsgView.addIpap, List.filterMap_append, List.append_assoc]
          congr 1
          rw [← List.filterMap_append, List.singleton_append]

omit [IpapMessage α] in
/-- A slot is filled if an object for it was added. -/
theorem isSome_fixed_foldl_add (os : List (AnslpObject α)) (v : MsgView α) (t : FixedType) :
    ((os.foldl MsgView.add v).fixed t).isSome = true ↔
      (v.fixed t).isSome = true ∨ ∃ o ∈ os, o.body.fixedType? = some t := by
  induction os generalizing v with
  | nil => simp
  | cons o os ih =>
      rw [List.foldl_cons, ih, List.exists_mem_cons_iff, ← or_assoc]
      apply or_congr_left
      cases hu : o.body.fixedType? with
      | none => simp [MsgView.add, hu, MsgView.addIpap]
      | some u =>
          simp only [MsgView.add, hu, MsgView.setFixed, Option.some.injEq]
          by_cases h : t = u
          · subst h
            simp
          · simp [Function.update_of_ne h, Ne.symm h]

/-! ## The IPAP message objects of a decoded message -/

/-- The fixed types that {lit}`get_mspec_objects` does not pass over, by message class. -/
def strayTypes : MsgKind → List FixedType
  | .create | .bidding => [.informationCode]
  | .response => [.selectionAuctioningEntities, .messageHopCount]
  | .notify | .refresh => FixedType.all

omit [IpapMessage α] in
theorem mem_strayTypes_iff (kind : MsgKind) (t : FixedType) :
    t ∈ strayTypes kind ↔ AnslpMsg.isSkipped kind t.objectType.toUInt32 = false := by
  cases kind <;> cases t <;> decide

section Decoded

variable {m m' : NetMsg} {err err' : IEErrorList} {a : AnslpMsg α} {n : Nat}
  {os : List (AnslpObject α)}

omit [IpapMessage α] in
theorem mspecObjects_of_wireObjects (hview : a.HasView (os.foldl MsgView.add MsgView.empty)) :
    a.mspecObjects = os.filterMap AnslpObject.mspec? := by
  rw [hview.mspecObjects, ipaps_foldl_add]
  rfl

omit [IpapMessage α] in
theorem mspecReadable_of_wireObjects (hview : a.HasView (os.foldl MsgView.add MsgView.empty)) :
    a.mspecReadable = true ↔ ∀ o ∈ os, ∀ t ∈ strayTypes a.kind, o.body.fixedType? ≠ some t := by
  rw [hview.mspecReadable_iff]
  constructor
  · intro hskip o ho t ht hbody
    have hsome := (isSome_fixed_foldl_add os MsgView.empty t).mpr (Or.inr ⟨o, ho, hbody⟩)
    rw [mem_strayTypes_iff, hskip t hsome] at ht
    cases ht
  · intro hstray t ht
    rcases (isSome_fixed_foldl_add os MsgView.empty t).mp ht with hempty | ⟨o, ho, hbody⟩
    · simp [MsgView.empty] at hempty
    · by_contra hskip
      have hmem := (mem_strayTypes_iff a.kind t).mpr (Bool.eq_false_iff.mpr hskip)
      exact hstray o ho t hmem hbody

/-- For a decoded message {lit}`get_mspec_objects` gives the IPAP message objects of its
buffer in their order, exactly when the buffer has no object of another type that the
class does not pass over. -/
theorem getMspecObjects_wire_iff
    (hdec : IEManager.deserialize m err false = .ok (some (a, m', n), err')) :
    ∃ os : List (AnslpObject α), WireObjects (m.left.drop 4) os ∧
      (a.getMspecObjects = .ok (os.filterMap AnslpObject.mspec?) ↔
        ∀ o ∈ os, ∀ t ∈ strayTypes a.kind, o.body.fixedType? ≠ some t) := by
  rcases deserialize_wireObjects hdec with ⟨os, hos, hview⟩
  refine ⟨os, hos, ?_⟩
  rw [← mspecReadable_of_wireObjects hview, ← mspecObjects_of_wireObjects hview,
    AnslpMsg.getMspecObjects_eq]
  by_cases hread : a.mspecReadable = true
  · simp [hread]
  · simp [hread]

end Decoded

/-- A BIDDING with a sequence number between two IPAP messages. -/
def twoBids : NetMsg :=
  .ofBytes [6, 0, 0, 0, 0, 0xF9, 0, 1, 0, 1, 0, 4, 0, 0xF7, 0, 1, 0, 0, 0, 5,
    64, 0xF9, 0, 2, 0, 1, 0, 8, 9, 8, 7, 6] (by decide)

theorem getMspecObjects_twoBids :
    ∃ (a : AnslpMsg RawIpap) (m' : NetMsg) (n : Nat) (os : List (AnslpObject RawIpap)),
      IEManager.deserialize twoBids [] false = .ok (some (a, m', n), []) ∧
      WireObjects (twoBids.left.drop 4) os ∧
      (a.getMspecObjects = .ok (os.filterMap AnslpObject.mspec?) ↔
        ∀ o ∈ os, ∀ t ∈ strayTypes a.kind, o.body.fixedType? ≠ some t) := by
  have hdec : IEManager.deserialize (α := RawIpap) twoBids [] false =
      .ok (some (_, _, _), []) := rfl
  rcases getMspecObjects_wire_iff hdec with ⟨os, hos, hiff⟩
  exact ⟨_, _, _, os, hdec, hos, hiff⟩

/-- A CREATE with an information code and nothing else. -/
def strayCreate : NetMsg :=
  .ofBytes [1, 0, 0, 0, 0, 0xF4, 0, 1, 2, 1, 0, 0] (by decide)

/-- It is decoded without an error, and its information code is dereferenced as an IPAP
message object. -/
theorem strayCreate_undefined :
    ¬ ∀ (m m' : NetMsg) (err err' : IEErrorList) (a : AnslpMsg RawIpap) (n : Nat)
      (os : List (AnslpObject RawIpap)),
      IEManager.deserialize m err false = .ok (some (a, m', n), err') →
      a.kind = .create ∨ a.kind = .bidding ∨ a.kind = .response →
      WireObjects (m.left.drop 4) os →
        a.getMspecObjects = .ok (os.filterMap AnslpObject.mspec?) := by
  intro hall
  have hdec : IEManager.deserialize (α := RawIpap) strayCreate [] false =
      .ok (some (_, _, _), []) := rfl
  rcases deserialize_wireObjects hdec with ⟨os, hos, _⟩
  have hok := hall _ _ _ _ _ _ os hdec (Or.inl rfl) hos
  exact absurd hok (by intro h; cases h)

end WireOrder
end Anslp
