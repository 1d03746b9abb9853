import Anslp.Msg.MissingObjects
import Anslp.Session.Sending

/-!
# The bodies that sessions build

Sessions build their messages with the setters of their classes.  A body built in this way
holds nothing but what its class writes, and it is not empty; but it need not hold all that its
class writes: a RESPONSE has a session lifetime only if it reports success.

Main results:

- Theorem {lit}`AnslpMsg.keptBySessions_wellBuilt`: every body that a session builds only holds
  what its class writes.
- Theorem {lit}`AnslpMsg.keptBySessions_sendable`: and a RESPONSE with a lifetime reports
  success.

Current gaps:

- None for the bodies that the three machines build.
-/

namespace Anslp
namespace AnslpMsg

variable {α : Type} {a : AnslpMsg α}

/-! ## Only what the class writes -/

theorem WellBuilt.setMspecObject (h : a.WellBuilt) (hwrites : writesIpaps a.kind = true)
    (o : MspecObject α) : (a.setMspecObject o).WellBuilt where
  laidOut := h.laidOut.setIpap (isIpap_toObject o) hwrites
  filled := h.filled.setObject _

theorem WellBuilt.setMspecObjects (h : a.WellBuilt) (hwrites : writesIpaps a.kind = true)
    (os : List (MspecObject α)) : (a.setMspecObjects os).WellBuilt := by
  induction os generalizing a with
  | nil => exact h
  | cons o os ih =>
      apply ih (h.setMspecObject hwrites o)
      exact (congrArg writesIpaps (kind_setObject a o.toObject)).trans hwrites

/-- A setter of a class stores what the class writes. -/
theorem IsLaidOut.setBody (h : a.IsLaidOut) (kind : MsgKind) (hkind : a.kind = kind)
    {t : FixedType} {body : Body α} (hbody : body.fixedType? = some t)
    (ht : t ∈ fixedLayout kind) : (a.setObject (fixedObject t body)).WellBuilt where
  laidOut := h.setFixed (isFixed_fixedObject hbody) (hkind ▸ ht)
  filled := isFilled_setFixed (isFixed_fixedObject hbody) (hkind ▸ ht)

theorem wellBuilt_responseBody (m : NtlpMsg α) (severity responseCode : UInt8) :
    (m.responseBody severity responseCode).WellBuilt := by
  have hcode : ((new .response : AnslpMsg α).setInformationCode severity responseCode
      0).WellBuilt :=
    (isLaidOut_new .response).setBody .response rfl rfl (by decide)
  unfold NtlpMsg.responseBody
  split
  · split_ifs
    · exact hcode.laidOut.setBody .response rfl rfl (by decide)
    · exact hcode
  · exact hcode

/-- Every body that a session builds only holds what its class writes. -/
theorem keptBySessions_wellBuilt : KeptBySessions (WellBuilt (α := α)) where
  create lifetime msn selection hops os := by
    apply WellBuilt.setMspecObjects _ rfl os
    apply (WellBuilt.laidOut _).setBody .create rfl rfl (by decide)
    apply (WellBuilt.laidOut _).setBody .create rfl rfl (by decide)
    apply (WellBuilt.laidOut _).setBody .create rfl rfl (by decide)
    exact (isLaidOut_new .create).setBody .create rfl rfl (by decide)
  refresh lifetime msn := by
    apply (WellBuilt.laidOut _).setBody .refresh rfl rfl (by decide)
    exact (isLaidOut_new .refresh).setBody .refresh rfl rfl (by decide)
  bidding msn os := by
    apply WellBuilt.setMspecObjects _ rfl os
    exact (isLaidOut_new .bidding).setBody .bidding rfl rfl (by decide)
  response := wellBuilt_responseBody
  success m lifetime :=
    (wellBuilt_responseBody m _ _).laidOut.setBody .response (m.kind_responseBody _ _) rfl
      (by decide)
  addObjects a os hkind h := by
    apply h.setMspecObjects
    rw [hkind]
    rfl

/-! ## Lifetimes of RESPONSEs -/

/-- A RESPONSE with a session lifetime reports success, unless it has more IPAP message objects
than a buffer has room for. -/
def ConfirmsLifetime (a : AnslpMsg α) : Prop :=
  a.numIpaps ≤ maxIpaps → a.kind = .response →
    (a.getBody? .sessionLifetime).isSome = true → a.isSuccess = true

/-- Only RESPONSEs matter. -/
theorem confirmsLifetime_of_ne (h : a.kind ≠ .response) : a.ConfirmsLifetime :=
  fun _ hkind => absurd hkind h

/-- What a session may send: a body that only holds what its class writes, and that has a
lifetime, as a RESPONSE, only if it reports success. -/
structure Sendable (a : AnslpMsg α) : Prop where
  built : a.WellBuilt
  lifetime : a.ConfirmsLifetime

/-- An object more does not change what a RESPONSE reports. -/
theorem Sendable.setMspecObject (h : a.Sendable) (hkind : a.kind = .response)
    (o : MspecObject α) : (a.setMspecObject o).Sendable := by
  have hipap := isIpap_toObject o
  refine ⟨h.built.setMspecObject (by rw [hkind]; rfl) o, ?_⟩
  intro hmax _ hlifetime
  have hle : a.numIpaps ≤ maxIpaps := (numIpaps_le_setObject a _).trans hmax
  rcases h.built.laidOut with ⟨v, hview, _⟩ | ⟨_, hlt⟩
  · by_cases hlen : v.ipaps.length < maxIpaps
    · have hbody : ∀ t, (a.setMspecObject o).getBody? t = a.getBody? t := by
        intro t
        exact ((hview.setObject_ipap hipap hlen).getBody? t).trans (hview.getBody? t).symm
      rw [hbody] at hlifetime
      rw [isSuccess, hbody]
      exact h.lifetime hle hkind hlifetime
    · have heq := le_antisymm hview.store.length_le (not_lt.mp hlen)
      exact absurd hmax (Nat.not_le.mpr (hview.lt_numIpaps hipap heq))
  · exact absurd hle (Nat.not_le.mpr hlt)

theorem Sendable.setMspecObjects (h : a.Sendable) (hkind : a.kind = .response)
    (os : List (MspecObject α)) : (a.setMspecObjects os).Sendable := by
  induction os generalizing a with
  | nil => exact h
  | cons o os ih => exact ih (h.setMspecObject hkind o) ((kind_setObject _ _).trans hkind)

/-- A RESPONSE without the lifetime of a success has none. -/
theorem sendable_responseBody (m : NtlpMsg α) (severity responseCode : UInt8) :
    (m.responseBody severity responseCode).Sendable where
  built := wellBuilt_responseBody m severity responseCode
  lifetime := by
    intro _ _ hlifetime
    rw [(m.contents_responseBody severity responseCode).getBody] at hlifetime
    cases hlifetime

/-- Every body that a session builds may be sent. -/
theorem keptBySessions_sendable : KeptBySessions (Sendable (α := α)) where
  create lifetime msn selection hops os := by
    refine ⟨keptBySessions_wellBuilt.create _ _ _ _ _, confirmsLifetime_of_ne ?_⟩
    rw [kind_setMspecObjects]
    exact fun h => by cases h
  refresh lifetime msn :=
    ⟨keptBySessions_wellBuilt.refresh _ _, confirmsLifetime_of_ne fun h => by cases h⟩
  bidding msn os := by
    refine ⟨keptBySessions_wellBuilt.bidding _ _, confirmsLifetime_of_ne ?_⟩
    rw [kind_setMspecObjects]
    exact fun h => by cases h
  response := sendable_responseBody
  success m lifetime := by
    refine ⟨keptBySessions_wellBuilt.success m lifetime, ?_⟩
    intro _ _ _
    have hsuccess := m.isSuccessResponse_successBody lifetime
    rw [isSuccessResponse, Bool.and_eq_true] at hsuccess
    exact hsuccess.2
  addObjects a os hkind h := h.setMspecObjects hkind os

end AnslpMsg
end Anslp
