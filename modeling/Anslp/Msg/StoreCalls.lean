import Anslp.Lib.Transition
import Anslp.Msg.Message

/-!
# Calls on the objects of a message

Sequences of calls that set and remove objects of a message, against what they are to
leave: under each key the object last set for it and not removed since, and the objects
that may occur more than once in the order they were added.  The definitions follow
{lit}`anslp_msg` and {lit}`ie_store`.

The store takes two keys for one if their fields have the same sum.

Main results:

- Theorem {lit}`Recorded.record`: a call on a key alone on its sum leaves what it is to
  leave.
- Theorem {lit}`kept_of_run`: the same for sequences of such calls, and which lookups find
  what was set.

Current gaps:

- None for sequences of calls on one store.
-/

namespace Anslp

namespace AnslpMsg

variable {α : Type}

/-- The object under a key. -/
def getObject (a : AnslpMsg α) (key : IeObjectKey) : Option (AnslpObject α) :=
  a.objects.get key

/-- Take the object under a key out of the message. -/
def removeObject (a : AnslpMsg α) (key : IeObjectKey) : Option (AnslpObject α) × AnslpMsg α :=
  let removed := a.objects.remove key
  (removed.1, { a with objects := removed.2 })

/-- The key an object is stored under. -/
def setKey (a : AnslpMsg α) (o : AnslpObject α) : IeObjectKey :=
  if o.isUnique then ⟨o.objectType.toUInt32, 1⟩
  else ⟨o.objectType.toUInt32, a.objects.getMaxSequence o.objectType.toUInt32 + 1⟩

theorem setObject_eq (a : AnslpMsg α) (o : AnslpObject α) :
    a.setObject o = { a with objects := a.objects.set (a.setKey o) o } := by
  rw [setObject, setKey]
  split_ifs <;> rfl

theorem objectType_setKey (a : AnslpMsg α) (o : AnslpObject α) :
    (a.setKey o).objectType = o.objectType.toUInt32 := by
  rw [setKey]
  split_ifs <;> rfl

end AnslpMsg

/-! ## Sequences of calls -/

/-- A call that changes the objects of a message. -/
inductive StoreCall (α : Type)
  | setObject (o : AnslpObject α)
  | removeObject (key : IeObjectKey)

namespace StoreCall

variable {α : Type}

/-- A message under calls; an object that is removed is given back. -/
def system : Transition.System (AnslpMsg α) (StoreCall α) (Option (AnslpObject α))
  | a, .setObject o => (none, some (a.setObject o))
  | a, .removeObject key => ((a.removeObject key).1, some (a.removeObject key).2)

/-- A call made on a message. -/
abbrev CallStep (α : Type) :=
  Transition.Step (AnslpMsg α) (StoreCall α) (Option (AnslpObject α))

/-- What calls are to leave: the object last set for each key and not removed since, and
the objects that may occur more than once, added and not removed, with their keys. -/
structure Ledger (α : Type) where
  last : IeObjectKey → Option (AnslpObject α)
  added : List (IeObjectKey × AnslpObject α)

/-- Before all calls. -/
def Ledger.empty : Ledger α :=
  ⟨fun _ => none, []⟩

/-- What is to be left after one more call. -/
def Ledger.record (l : Ledger α) (st : CallStep α) : Ledger α :=
  match st.input with
  | .setObject o =>
      { last := Function.update l.last (st.pre.setKey o) (some o)
        added := if o.isUnique then l.added else l.added ++ [(st.pre.setKey o, o)] }
  | .removeObject key =>
      { last := Function.update l.last key none
        added := l.added.filter fun e => decide (e.1 ≠ key) }

def ledger (trace : List (CallStep α)) : Ledger α :=
  trace.foldl Ledger.record Ledger.empty

/-- Objects of a type that may occur more than once. -/
def ofType (t : UInt16) (e : IeObjectKey × AnslpObject α) : Bool :=
  !e.2.isUnique && e.2.objectType == t

/-- These objects in a message, as a walk over its store enumerates them. -/
def enumerated (a : AnslpMsg α) (t : UInt16) : List (AnslpObject α) :=
  (a.objects.entries.filter (ofType t)).map Prod.snd

/-- These objects in the order they were added. -/
def Ledger.inOrder (l : Ledger α) (t : UInt16) : List (AnslpObject α) :=
  (l.added.filter (ofType t)).map Prod.snd

/-- A message holds what the calls are to leave, and lookups find it. -/
structure Keeps (a : AnslpMsg α) (l : Ledger α) : Prop where
  lookup : ∀ key, a.getObject key = l.last key
  stored : ∀ key o, (key, o) ∈ a.objects.entries ↔ l.last key = some o
  order : ∀ t, enumerated a t = l.inOrder t

/-- No other stored key has the sum of the key of the call, an object that occurs once does
not replace one that may occur more often, and the next sequence number does not wrap
around the sum. -/
def Separate (a : AnslpMsg α) : StoreCall α → Prop
  | .setObject o =>
      a.objects.Alone (a.setKey o) ∧
        (o.isUnique = true →
          ∀ e ∈ a.objects.entries, e.1 = a.setKey o → e.2.isUnique = true) ∧
        (o.isUnique = false → o.objectType.toNat +
          (a.objects.getMaxSequence o.objectType.toUInt32).toNat + 1 < 2 ^ 32)
  | .removeObject key => a.objects.Alone key

instance (a : AnslpMsg α) (call : StoreCall α) : Decidable (Separate a call) :=
  match call with
  | .setObject _ => inferInstanceAs (Decidable (_ ∧ _ ∧ _))
  | .removeObject key => inferInstanceAs (Decidable (a.objects.Alone key))

/-- A store holds what the calls are to leave. -/
structure Recorded (a : AnslpMsg α) (l : Ledger α) : Prop where
  typed : ∀ e ∈ a.objects.entries, e.1.objectType = e.2.objectType.toUInt32
  stored : ∀ key o, (key, o) ∈ a.objects.entries ↔ l.last key = some o
  order : ∀ t, a.objects.entries.filter (ofType t) = l.added.filter (ofType t)

section Step

variable {a : AnslpMsg α} {l : Ledger α}

/-- The next key of a type is above those of the type that are stored. -/
theorem rank_lt_setKey {o : AnslpObject α} {e : IeObjectKey × AnslpObject α}
    (hnext : o.isUnique = false)
    (hroom : o.objectType.toNat +
      (a.objects.getMaxSequence o.objectType.toUInt32).toNat + 1 < 2 ^ 32)
    (he : e ∈ a.objects.entries) (htype : e.1.objectType = o.objectType.toUInt32) :
    e.1.rank < (a.setKey o).rank := by
  have hmax := IeStore.le_getMaxSequence (List.mem_map_of_mem he) htype
  have hmaxNat := UInt32.le_iff_toNat_le.mp hmax
  have hkey : a.setKey o = ⟨o.objectType.toUInt32,
      a.objects.getMaxSequence o.objectType.toUInt32 + 1⟩ := by
    rw [AnslpMsg.setKey, hnext]
    rfl
  rw [hkey, IeObjectKey.rank, IeObjectKey.rank, htype]
  have hone : (1 : UInt32).toNat = 1 := rfl
  simp only [UInt32.toNat_add, UInt16.toNat_toUInt32]
  omega

/-- Setting an object. -/
theorem Recorded.setObject {o : AnslpObject α} {res : Option (AnslpObject α)} (h : Recorded a l)
    (hsep : Separate a (.setObject o)) :
    Recorded (a.setObject o) (l.record ⟨a, .setObject o, res, a.setObject o⟩) := by
  obtain ⟨halone, hreplace, hroom⟩ := hsep
  have hmem : ∀ e, e ∈ (a.setObject o).objects.entries ↔
      e = (a.setKey o, o) ∨ (e ∈ a.objects.entries ∧ e.1 ≠ a.setKey o) := by
    intro e
    rw [AnslpMsg.setObject_eq]
    exact OrderedMap.mem_insert_iff_of_alone o halone
  constructor
  · intro e he
    rcases (hmem e).mp he with rfl | ⟨hold, -⟩
    · exact a.objectType_setKey o
    · exact h.typed e hold
  · intro key o'
    rw [hmem, h.stored]
    simp only [Ledger.record, Prod.mk.injEq]
    by_cases hkey : key = a.setKey o
    · rw [hkey, Function.update_self]
      simp [eq_comm]
    · rw [Function.update_of_ne hkey]
      simp [hkey]
  · intro t
    rw [AnslpMsg.setObject_eq]
    simp only [Ledger.record, IeStore.set]
    cases hunique : o.isUnique with
    | true =>
        rw [if_pos rfl, ← h.order t]
        apply OrderedMap.filter_insert_of_not
        · intro e he hrank
          have hold := hreplace hunique e he (halone e he hrank)
          simp [ofType, hold, hunique]
        · simp [ofType, hunique]
    | false =>
        -- the key is a new one: those of its type have smaller numbers
        have hfree : ∀ e ∈ a.objects.entries, e.1.rank ≠ (a.setKey o).rank := by
          intro e he hrank
          have htype : e.1.objectType = o.objectType.toUInt32 := by
            rw [halone e he hrank, a.objectType_setKey]
          exact absurd hrank (ne_of_lt (rank_lt_setKey hunique (hroom hunique) he htype))
        rw [if_neg Bool.false_ne_true, List.filter_append, ← h.order t]
        by_cases ht : o.objectType = t
        · have hnew : ofType t (a.setKey o, o) = true := by simp [ofType, hunique, ht]
          rw [List.filter_cons_of_pos hnew, List.filter_nil]
          apply OrderedMap.filter_insert_of_lt hfree ?_ hnew
          intro e he hkind
          have htype : e.1.objectType = o.objectType.toUInt32 := by
            rw [h.typed e he, ht]
            simp only [ofType, Bool.and_eq_true, beq_iff_eq] at hkind
            rw [hkind.2]
          exact rank_lt_setKey hunique (hroom hunique) he htype
        · have hnew : ofType t (a.setKey o, o) = false := by simp [ofType, ht]
          rw [List.filter_cons_of_neg (by simp [hnew]), List.filter_nil, List.append_nil]
          exact OrderedMap.filter_insert_of_not (fun e he hrank => absurd hrank (hfree e he)) hnew

/-- Removing an object. -/
theorem Recorded.removeObject {key : IeObjectKey} {res : Option (AnslpObject α)}
    (h : Recorded a l) (hsep : Separate a (.removeObject key)) :
    Recorded (a.removeObject key).2
      (l.record ⟨a, .removeObject key, res, (a.removeObject key).2⟩) := by
  have hentries : (a.removeObject key).2.objects.entries =
      a.objects.entries.filter fun e => decide (e.1 ≠ key) :=
    OrderedMap.erase_entries_of_alone hsep
  constructor
  · intro e he
    rw [hentries] at he
    exact h.typed e (List.mem_filter.mp he).1
  · intro key' o
    rw [hentries, List.mem_filter, h.stored]
    simp only [Ledger.record]
    by_cases hkey : key' = key
    · rw [hkey, Function.update_self]
      simp
    · rw [Function.update_of_ne hkey]
      simp [hkey]
  · intro t
    rw [hentries]
    simp only [Ledger.record]
    rw [List.filter_comm, h.order t, List.filter_comm]

/-- A call on a key alone on its sum leaves what it is to leave. -/
theorem Recorded.record {call : StoreCall α} {a' : AnslpMsg α} {res : Option (AnslpObject α)}
    (h : Recorded a l) (hsep : Separate a call) (hcall : system a call = (res, some a')) :
    Recorded a' (l.record ⟨a, call, res, a'⟩) := by
  cases call with
  | setObject o =>
      obtain ⟨-, rfl⟩ : none = res ∧ a.setObject o = a' := by simpa [system] using hcall
      exact h.setObject hsep
  | removeObject key =>
      obtain ⟨-, rfl⟩ : (a.removeObject key).1 = res ∧ (a.removeObject key).2 = a' := by
        simpa [system] using hcall
      exact h.removeObject hsep

end Step

/-! ## Lookups -/

/-- Before all calls there is nothing. -/
theorem recorded_new (kind : MsgKind) : Recorded (AnslpMsg.new kind : AnslpMsg α) Ledger.empty where
  typed := nofun
  stored := by simp [AnslpMsg.new, OrderedMap.empty, Ledger.empty]
  order t := rfl

theorem recorded_of_run {kind : MsgKind} {trace : List (CallStep α)} {a : AnslpMsg α}
    (hrun : Transition.Run system (AnslpMsg.new kind) trace a)
    (hsep : ∀ st ∈ trace, Separate st.pre st.input) : Recorded a (ledger trace) := by
  revert hsep
  apply hrun.trace_induction (P := fun trace a =>
    (∀ st ∈ trace, Separate st.pre st.input) → Recorded a (ledger trace))
  · intro _
    exact recorded_new kind
  · intro tr b call res b' _ ih hcall hsep
    have hbefore := ih fun st hst => hsep st (List.mem_append_left _ hst)
    rw [ledger, List.foldl_append]
    exact hbefore.record (hsep _ (List.mem_append_right _ List.mem_cons_self)) hcall

/-- A lookup finds what was set for its key exactly if no other stored key has its sum. -/
theorem Recorded.getObject_eq_iff {a : AnslpMsg α} {l : Ledger α} (h : Recorded a l)
    (key : IeObjectKey) : a.getObject key = l.last key ↔ a.objects.Alone key := by
  constructor
  · rintro hget ⟨key', o⟩ hmem hrank
    have hfound : a.getObject key = some o := OrderedMap.find?_of_mem hmem hrank
    rw [hget, ← h.stored] at hfound
    exact OrderedMap.key_eq_of_rank hmem hfound hrank
  · intro halone
    apply Option.ext
    intro o
    rw [← h.stored]
    exact OrderedMap.find?_eq_some_iff_of_alone halone

/-- After calls on keys alone on their sums a message holds what they are to leave, and a
lookup finds it exactly if no other stored key has the sum of its key. -/
theorem kept_of_run {kind : MsgKind} {trace : List (CallStep α)} {a : AnslpMsg α}
    (hrun : Transition.Run system (AnslpMsg.new kind) trace a)
    (hsep : ∀ st ∈ trace, Separate st.pre st.input) :
    (∀ key, a.getObject key = (ledger trace).last key ↔ a.objects.Alone key) ∧
      (∀ key o, (key, o) ∈ a.objects.entries ↔ (ledger trace).last key = some o) ∧
      ∀ t, enumerated a t = (ledger trace).inOrder t := by
  have h := recorded_of_run hrun hsep
  refine ⟨h.getObject_eq_iff, h.stored, fun t => ?_⟩
  rw [enumerated, Ledger.inOrder, h.order]

/-- Two IPAP message objects stand in the order they were added. -/
theorem kept_two_ipaps :
    enumerated
        (((AnslpMsg.new .create : AnslpMsg Nat).setObject (.ofIpap .mandatory 1)).setObject
          (.ofIpap .mandatory 2)) ipapObjectType =
      [.ofIpap .mandatory 1, .ofIpap .mandatory 2] := by
  have hrun : Transition.Run system (AnslpMsg.new .create : AnslpMsg Nat) _ _ :=
    .snoc (.snoc .nil (i := .setObject (.ofIpap .mandatory 1)) rfl)
      (i := .setObject (.ofIpap .mandatory 2)) rfl
  exact ((kept_of_run hrun (by decide)).2.2 ipapObjectType).trans rfl

/-- An object that occurs once replaces the second object of the type before its own. -/
theorem not_keeps_colliding :
    ∃ (trace : List (CallStep Nat)) (a : AnslpMsg Nat),
      Transition.Run system (AnslpMsg.new .create) trace a ∧
      trace.map Transition.Step.input =
        [.setObject ⟨0xF9, .mandatory, false, .ipapMessage 1⟩,
          .setObject ⟨0xF9, .mandatory, false, .ipapMessage 2⟩,
          .setObject ⟨0xFA, .mandatory, true, .sessionLifetime 30⟩] ∧
      ¬ Keeps a (ledger trace) := by
  refine ⟨_, _, .snoc (.snoc (.snoc .nil rfl) rfl) rfl, rfl, fun h => ?_⟩
  have horder := congrArg List.length (h.order 0xF9)
  revert horder
  decide

end StoreCall
end Anslp
