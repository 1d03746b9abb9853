import Anslp.Session.Sequence

/-!
# Hop counts

What forwarders do to the hop count of the CREATEs they pass on: the same CREATE sent on,
the one sent again, and the one that is built after the local check.  Every one of them
carries the hop count it came with.

Main results:

- Theorem {lit}`NfSession.copiesHopCount_of_run`: a CREATE that a forwarder sends is one that
  it was sent, with the same hop count.
- Theorem {lit}`incremented_iff`: along a chain of forwarders the hop count grows only if
  there is no forwarder.

Current gaps:

- None for forwarders in a row.
-/

namespace Anslp

/-- A message received comes from the decoder. -/
def Event.IsDecoded {α : Type} : Event α → Prop
  | .msg e => ∀ a, e.ntlpMsg.msg = some a → a.IsDecoded
  | _ => True

theorem Event.isDecoded_ofKind? {α : Type} {e : MsgEvent α} {kind : MsgKind} {c : KindMsg kind α}
    (h : (Event.msg e).IsDecoded) (hc : e.ofKind? kind = some c) : c.body.IsDecoded :=
  h c.body (MsgEvent.ntlpMsg_of_ofKind? hc ▸ c.msg_eq)

namespace NfSession

open Session

variable {α : Type} {conf : AnslpConfig} {d : Dispatcher α} {s s' : NfSession α}
  {evt : Event α} {effects : List (Effect α)} {m : NtlpMsg α}

/-- The CREATE that a call can pass on: the one received, or the stored one when its check
is over. -/
def passedCreate? (s : NfSession α) : Event α → Option (KindMsg .create α)
  | .msg e => e.ofKind? .create
  | .apiCheck _ => s.createMessage
  | _ => none

/-- If a message is a CREATE, it is one passed on with its hop count. -/
def CopiesHopCount (s : NfSession α) (evt : Event α) (m : NtlpMsg α) : Prop :=
  ∀ a, m.body? .create = some a →
    ∃ c, s.passedCreate? evt = some c ∧ a.getMessageHopCount = c.body.getMessageHopCount

/-- The stored CREATE comes from the decoder. -/
def StoresDecoded (s : NfSession α) : Prop :=
  ∀ c, s.createMessage = some c → c.body.IsDecoded

theorem copiesHopCount_of_kind {b : AnslpMsg α} (hm : m.msg = some b) (hkind : b.kind ≠ .create) :
    s.CopiesHopCount evt m := by
  intro a ha
  simp only [NtlpMsg.body?, hm, Option.filter_eq_some_iff, Option.some.injEq,
    decide_eq_true_eq] at ha
  rw [ha.1] at hkind
  exact absurd ha.2 hkind

@[simp]
theorem copiesHopCount_createResponse (severity responseCode : UInt8) :
    s.CopiesHopCount evt (m.createResponse severity responseCode) :=
  copiesHopCount_of_kind rfl (by rw [NtlpMsg.kind_responseBody]; nofun)

@[simp]
theorem copiesHopCount_createErrorResponse (exp : RequestError) :
    s.CopiesHopCount evt (m.createErrorResponse exp) :=
  copiesHopCount_createResponse _ _

@[simp]
theorem copiesHopCount_buildTeardownMessage (s₁ : NfSession α) (nrMri : Mri) :
    s.CopiesHopCount evt (s₁.buildTeardownMessage nrMri) :=
  copiesHopCount_of_kind rfl nofun

@[simp]
theorem copiesHopCount_buildResponse (s₁ : NfSession α) (r : KindMsg .response α) :
    s.CopiesHopCount evt (s₁.buildResponse r) :=
  copiesHopCount_of_kind rfl (by rw [AnslpMsg.kind_setMspecObjects, r.kind_eq]; nofun)

/-- A message of another class passed on is no CREATE. -/
theorem copiesHopCount_copyForForwarding {kind : MsgKind} (c : KindMsg kind α)
    (hkind : kind ≠ .create) : s.CopiesHopCount evt c.ntlpMsg.copyForForwarding :=
  copiesHopCount_of_kind (m := c.ntlpMsg.copyForForwarding) c.msg_eq
    (by rw [c.kind_eq]; exact hkind)

@[simp]
theorem copiesHopCount_refresh (c : KindMsg .refresh α) :
    s.CopiesHopCount evt c.ntlpMsg.copyForForwarding :=
  copiesHopCount_copyForForwarding c nofun

@[simp]
theorem copiesHopCount_response (r : KindMsg .response α) :
    s.CopiesHopCount evt r.ntlpMsg.copyForForwarding :=
  copiesHopCount_copyForForwarding r nofun

@[simp]
theorem copiesHopCount_bidding (b : KindMsg .bidding α) :
    s.CopiesHopCount evt b.ntlpMsg.copyForForwarding :=
  copiesHopCount_copyForForwarding b nofun

/-- The CREATE of a message can be passed on. -/
theorem passedCreate?_msg {e : MsgEvent α} {c : KindMsg .create α}
    (hc : e.ofKind? .create = some c) : s.passedCreate? (.msg e) = some c :=
  hc

/-- The stored CREATE can be passed on when its check is over. -/
theorem passedCreate?_apiCheck {mspecObjects : ObjectList α} {c : KindMsg .create α}
    (hc : s.createMessage = some c) : s.passedCreate? (.apiCheck mspecObjects) = some c :=
  hc

/-- A CREATE sent on as it came. -/
theorem copiesHopCount_create {c : KindMsg .create α} (hc : s.passedCreate? evt = some c) :
    s.CopiesHopCount evt c.ntlpMsg.copyForForwarding := by
  intro a ha
  have hmsg : c.ntlpMsg.copyForForwarding.msg = some c.body := c.msg_eq
  simp only [NtlpMsg.body?, hmsg, Option.filter_some, c.kind_eq, decide_true, if_true,
    Option.some.injEq] at ha
  exact ⟨c, hc, by rw [ha]⟩

theorem getMessageHopCount_of_getBody {a : AnslpMsg α} {value : UInt32}
    (h : a.getBody? .messageHopCount = some (.messageHopCount value)) :
    a.getMessageHopCount = value := by
  rw [AnslpMsg.getMessageHopCount, h]

/-- The CREATE that is built has the hop count of the one it is built from. -/
theorem getMessageHopCount_buildCreateMessage (s : NfSession α) (nrMri : Mri) (c : AnslpMsg α)
    {objects : List (MspecObject α)} (hlen : objects.length ≤ maxIpaps) {a : AnslpMsg α}
    (ha : (s.buildCreateMessage nrMri c objects).msg = some a) :
    a.getMessageHopCount = c.getMessageHopCount := by
  have hlifetime := (AnslpMsg.contents_new (α := α) .create).setFixed
    (b := .sessionLifetime (if s.lifetime ≤ c.getSessionLifetime then s.lifetime
      else c.getSessionLifetime)) rfl
  have hmsn := hlifetime.setFixed (b := .msgSequenceNumber c.getMsgSequenceNumber) rfl
  have hselection := hmsn.setFixed
    (b := .selectionAuctioningEntities c.getSelectionAuctioningEntities) rfl
  have hhops := hselection.setFixed (b := .messageHopCount c.getMessageHopCount) rfl
  have hall := hhops.setMspecObjects objects (by simpa using hlen)
  cases ha
  have hbody := hall.getBody .messageHopCount
  rw [Function.update_self] at hbody
  exact getMessageHopCount_of_getBody hbody

theorem copiesHopCount_buildCreateMessage {s₁ : NfSession α} {nrMri : Mri} {c : KindMsg .create α}
    (hc : s.passedCreate? evt = some c) (hdecoded : c.body.IsDecoded) :
    s.CopiesHopCount evt (s₁.buildCreateMessage nrMri c.body c.body.mspecObjects) := by
  intro a ha
  have hlen := hdecoded.length_mspecObjects_lt
  have hmax : c.body.mspecObjects.length ≤ maxIpaps := by
    simp only [maxIpaps]
    omega
  refine ⟨c, hc, s₁.getMessageHopCount_buildCreateMessage nrMri c.body hmax ?_⟩
  exact (Option.filter_eq_some_iff.mp ha).1

/-- Setting the session up stores the CREATE, and sends it on or an error back. -/
theorem setUp_copiesHopCount {s₁ : NfSession α} {c : KindMsg .create α}
    (hc : s.passedCreate? evt = some c) (hdecoded : c.body.IsDecoded)
    (hsetUp : SetUp conf d s₁ c s' effects) :
    s'.StoresDecoded ∧ ∀ m ∈ effects.filterMap Effect.sent?, s.CopiesHopCount evt m := by
  have hstored : ∀ c', some c = some c' → c'.body.IsDecoded := by
    rintro c' ⟨⟩
    exact hdecoded
  refine ⟨by cases hsetUp <;> exact hstored, ?_⟩
  cases hsetUp with
  | notPathcoupled | checking | refused => simp
  | passed => simpa using copiesHopCount_buildCreateMessage hc hdecoded

/-- Every transition stores a CREATE from the decoder. -/
theorem StoresDecoded.transits (h : s.StoresDecoded) (hevt : evt.IsDecoded)
    (ht : Transits conf d s evt s' effects) : s'.StoresDecoded := by
  cases ht with
  | created _ hc _ _ hsetUp | replaced _ hc hsetUp =>
      have hdecoded := Event.isDecoded_ofKind? hevt hc
      exact (setUp_copiesHopCount (s := s) (passedCreate?_msg hc) hdecoded hsetUp).1
  | removing _ hends | closed _ hends => cases hends <;> exact h
  | _ => exact h

/-- What a transition sends and is a CREATE is one passed on with its hop count. -/
theorem StoresDecoded.copiesHopCount (h : s.StoresDecoded) (hevt : evt.IsDecoded)
    (ht : Transits conf d s evt s' effects) :
    ∀ m ∈ effects.filterMap Effect.sent?, s.CopiesHopCount evt m := by
  cases ht with
  | created _ hc _ _ hsetUp | replaced _ hc hsetUp =>
      have hdecoded := Event.isDecoded_ofKind? hevt hc
      exact (setUp_copiesHopCount (passedCreate?_msg hc) hdecoded hsetUp).2
  | abandoned _ hc => simpa using copiesHopCount_create (passedCreate?_msg hc)
  | repeated _ hc hpassedOn =>
      subst hpassedOn
      split_ifs
      · simp
      · simpa using copiesHopCount_create (passedCreate?_msg hc)
  | checked _ hc =>
      simpa using copiesHopCount_buildCreateMessage (passedCreate?_apiCheck hc) (h _ hc)
  | installFailed _ _ _ _ hremoval =>
      subst hremoval
      split_ifs <;> simp [or_imp, forall_and]
  | removing _ hends | closed _ hends => cases hends <;> simp
  | _ => simp

/-- Nor does a call that throws send any other CREATE. -/
theorem copiesHopCount_of_throws (ht : Throws d s evt s' effects) :
    ∀ m ∈ effects.filterMap Effect.sent?, s.CopiesHopCount evt m := by
  by_cases hstate : s.state = .auctioning
  · cases ht with
    | installing hs | installFailed hs => cases hstate.symm.trans hs
    | removing _ hends => cases hends <;> simp
    | bidding => simp
  · rw [ht.sent_eq_nil hstate]
    exact List.forall_mem_nil _

/-- A CREATE that a forwarder sends in a run is one passed on, with the hop count that it
came with. -/
theorem copiesHopCount_of_run {id : SessionId}
    {trace : List (Transition.Step (NfSession α) (Dispatcher α × Event α)
      (Outcome (NfSession α) α))} (hrun : Runs conf id trace s)
    (hevts : ∀ st ∈ trace, st.input.2.IsDecoded) (hevt : evt.IsDecoded) :
    ∀ m ∈ (s.processEvent conf d evt).sent, s.CopiesHopCount evt m := by
  have hstored : s.StoresDecoded := by
    refine hrun.invariant_of_guarded (I := StoresDecoded) (G := fun _ input => input.2.IsDecoded)
      ?_ (fun _ hc => by cases hc) hevts
    intro t input o u ht hguard hstep
    exact ht.transits hguard (transits_of_processEvent (next_of_machine hstep))
  have hended := ended_processEvent conf d s evt
  generalize s.processEvent conf d evt = o at hended
  cases hended with
  | next ht => exact hstored.copiesHopCount hevt ht
  | thrown ht => exact copiesHopCount_of_throws ht
  | undefined => exact nofun

end NfSession

/-! ## Chains of forwarders -/

/-- A forwarder in some run passes a CREATE on: it sends the second one for the first. -/
def PassesOn {α : Type} (c a : AnslpMsg α) : Prop :=
  ∃ conf id trace, ∃ s : NfSession α, NfSession.Runs conf id trace s ∧
    (∀ st ∈ trace, st.input.2.IsDecoded) ∧ ∃ d evt m, evt.IsDecoded ∧
      m ∈ (s.processEvent conf d evt).sent ∧ m.body? .create = some a ∧
        (s.passedCreate? evt).map KindMsg.body = some c

/-- The hop count is incremented by exactly one. -/
def Increments {α : Type} (c a : AnslpMsg α) : Prop :=
  a.getMessageHopCount.toNat = c.getMessageHopCount.toNat + 1

section Chains

variable {α : Type} {c a : AnslpMsg α}

/-- Passing a CREATE on does not change its hop count. -/
theorem PassesOn.getMessageHopCount_eq (h : PassesOn c a) :
    a.getMessageHopCount = c.getMessageHopCount := by
  obtain ⟨conf, id, trace, s, hrun, hevts, d, evt, m, hevt, hsent, ha, hc⟩ := h
  obtain ⟨c', hc', hcount⟩ := NfSession.copiesHopCount_of_run hrun hevts hevt m hsent a ha
  rw [hc', Option.map_some, Option.some.injEq] at hc
  rw [hcount, hc]

/-- The last CREATE of a chain has the hop count of the first one. -/
theorem getLast_getMessageHopCount {cs : List (AnslpMsg α)}
    (h : List.IsChain PassesOn (c :: cs)) :
    ((c :: cs).getLast (List.cons_ne_nil c cs)).getMessageHopCount = c.getMessageHopCount := by
  induction cs generalizing c with
  | nil => rfl
  | cons a cs ih =>
      obtain ⟨hpassed, htail⟩ := List.isChain_cons_cons.mp h
      rw [List.getLast_cons (List.cons_ne_nil a cs), ih htail, hpassed.getMessageHopCount_eq]

/-- Every chain of forwarders increments the hop count once for each of them. -/
def IncrementsAlongChains (α : Type) : Prop :=
  ∀ (c : AnslpMsg α) (cs : List (AnslpMsg α)), List.IsChain PassesOn (c :: cs) →
    List.IsChain Increments (c :: cs) ∧
      ((c :: cs).getLast (List.cons_ne_nil c cs)).getMessageHopCount.toNat =
        c.getMessageHopCount.toNat + cs.length

/-- Along a chain of forwarders each increments the hop count, and the last CREATE has that
of the first one and one more for each forwarder, exactly if there is no forwarder. -/
theorem incremented_iff {cs : List (AnslpMsg α)} (h : List.IsChain PassesOn (c :: cs)) :
    List.IsChain Increments (c :: cs) ∧
        ((c :: cs).getLast (List.cons_ne_nil c cs)).getMessageHopCount.toNat =
          c.getMessageHopCount.toNat + cs.length ↔ cs = [] := by
  rw [getLast_getMessageHopCount h]
  constructor
  · rintro ⟨-, hlast⟩
    apply List.eq_nil_of_length_eq_zero
    omega
  · rintro rfl
    exact ⟨.singleton c, rfl⟩

end Chains

/-! ### A CREATE that is passed on -/

namespace PassedOnCreate

open Sample

theorem isDecoded_arrival : (Event.msg arrival).IsDecoded := by
  rintro a ha
  cases ha
  exact isDecoded_create

/-- The forwarder sends the sample CREATE on again when it comes again. -/
theorem passesOn_create : PassesOn create.body create.body := by
  refine ⟨conf, 1, [arrivalStep], forwarder, runs_forwarder, ?_, surroundings, .msg arrival,
    create.ntlpMsg.copyForForwarding, isDecoded_arrival, ?_, rfl, rfl⟩
  · intro st hst
    rw [List.mem_singleton.mp hst]
    exact isDecoded_arrival
  · exact List.mem_singleton.mpr rfl

theorem isChain_create : List.IsChain PassesOn [create.body, create.body] :=
  .cons_cons passesOn_create (.singleton _)

/-- The hop count that comes out of the forwarder is not the one it needs. -/
theorem incremented_create : ¬ (List.IsChain Increments [create.body, create.body] ∧
    create.body.getMessageHopCount.toNat = create.body.getMessageHopCount.toNat + 1) := by
  intro h
  have hnil := (incremented_iff isChain_create).mp h
  cases hnil

theorem not_incrementsAlongChains : ¬ IncrementsAlongChains RawIpap := by
  intro h
  obtain ⟨-, hlast⟩ := h create.body [create.body] isChain_create
  exact Nat.succ_ne_self _ hlast.symm

end PassedOnCreate
end Anslp
