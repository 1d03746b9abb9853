import Anslp.Session.Authorization
import Anslp.Session.Sequence

/-!
# Lifetimes

How long the lifetimes of a session and of what it passes on can be.  A forwarder caps the
lifetime of its first CREATE and stores the capped lifetime of a REFRESH; a CREATE that
replaces another one is stored, and one that is sent again is passed on, with the lifetime it
came with, as is every REFRESH.

Main results:

- Theorem {lit}`lifetime_le_iff_of_run`: the runs of a forwarder in which its lifetime is
  never above the largest; that of a responder never is.
- Theorem {lit}`NfSession.passesCapped_iff_of_run`: the runs of a forwarder in which it passes
  on no lifetime above its own.

Current gaps:

- None for forwarders and responders.
-/

namespace Anslp

/-- The checks of a request leave no lifetime above the largest. -/
theorem Session.le_of_checkRequest {α : Type} {d : Dispatcher α} {e : MsgEvent α}
    {lifetime maxLifetime lifetime' : UInt32}
    (h : checkRequest d e lifetime maxLifetime = .ok lifetime') : lifetime' ≤ maxLifetime := by
  unfold checkRequest at h
  split_ifs at h with hle
  · cases h
    exact of_decide_eq_true hle
  · cases h
    exact UInt32.le_refl _

open Session

/-! ## The lifetime of a forwarder -/

namespace NfSession

variable {α : Type} {conf : AnslpConfig} {d : Dispatcher α} {s s' : NfSession α}
  {evt : Event α} {effects : List (Effect α)}

theorem SetUp.lifetime_eq {c : KindMsg .create α} (h : SetUp conf d s c s' effects) :
    s'.lifetime = s.lifetime := by
  cases h <;> rfl

/-- A CREATE that replaces the pending one asks for no more than the largest lifetime. -/
def ReplacesWithin (conf : AnslpConfig) (s : NfSession α) (d : Dispatcher α) (evt : Event α) :
    Prop :=
  ∀ e c, evt = .msg e → s.IsPending → s.SetsUp conf d e c →
    c.body.getSessionLifetime ≤ conf.nfMaxSessionLifetime

/-- A step keeps the lifetime below the largest unless it stores that of a replacing CREATE. -/
theorem lifetime_le_of_transits (hlimited : s.Limited conf)
    (hle : s.lifetime ≤ conf.nfMaxSessionLifetime) (hwithin : s.ReplacesWithin conf d evt)
    (ht : Transits conf d s evt s' effects) : s'.lifetime ≤ conf.nfMaxSessionLifetime := by
  cases ht with
  | created _ _ hcheck _ hsetUp =>
      rw [hsetUp.lifetime_eq]
      exact le_of_checkRequest hcheck
  | replaced hstate _ hsetUp hsets =>
      rw [hsetUp.lifetime_eq]
      exact hwithin _ _ rfl hstate hsets
  | refreshed hstate _ hcheck =>
      have hmax := hlimited (by rw [hstate]; exact nofun)
      exact hmax ▸ le_of_checkRequest hcheck
  | installFailed => exact UInt32.zero_le
  | removing _ hends | closed _ hends => cases hends <;> exact hle
  | _ => exact hle

/-- Setting the session up keeps the lifetime. -/
theorem lifetime_of_processStateClose {c : KindMsg .create α}
    (h : s.processStateClose conf d c = .next s' effects) : s'.lifetime = s.lifetime := by
  unfold processStateClose at h
  dsimp only at h
  split at h
  · cases h
    rfl
  · split_ifs at h
    split at h
    · cases h
    · unfold checkOrPass at h
      split at h <;> cases h <;> rfl

variable {id : SessionId}
  {trace : List (Transition.Step (NfSession α) (Dispatcher α × Event α)
    (Outcome (NfSession α) α))}

theorem lifetime_le_of_run (hrun : Runs conf id trace s)
    (hwithin : ∀ st ∈ trace, st.pre.ReplacesWithin conf st.input.1 st.input.2) :
    s.lifetime ≤ conf.nfMaxSessionLifetime := by
  have hboth : s.Limited conf ∧ s.lifetime ≤ conf.nfMaxSessionLifetime := by
    refine hrun.invariant_of_guarded
      (I := fun s => s.Limited conf ∧ s.lifetime ≤ conf.nfMaxSessionLifetime)
      (G := fun s input => s.ReplacesWithin conf input.1 input.2) ?_
      ⟨fun hopen => absurd rfl hopen, UInt32.zero_le⟩ hwithin
    intro t input o u hI hguard hstep
    have ht := transits_of_processEvent (next_of_machine hstep)
    exact ⟨hI.1.transits ht, lifetime_le_of_transits hI.1 hI.2 hguard ht⟩
  exact hboth.2

/-- The lifetime of a forwarder is never above the largest exactly when no replacing CREATE
asks for more. -/
theorem lifetime_le_iff (hrun : Runs conf id trace s) :
    (∀ st ∈ trace, st.post.lifetime ≤ conf.nfMaxSessionLifetime) ↔
      ∀ st ∈ trace, st.pre.ReplacesWithin conf st.input.1 st.input.2 := by
  constructor
  · intro hle st hst e c hevt hpending hsets
    obtain ⟨_, _, _, _, hstep⟩ := hrun.pre_of_mem hst
    have hnext := next_of_machine hstep
    rw [hevt, hsets.processEvent_of_isPending hpending] at hnext
    have hlifetime : st.post.lifetime = c.body.getSessionLifetime :=
      lifetime_of_processStateClose hnext
    exact hlifetime ▸ hle st hst
  · intro hwithin st hst
    obtain ⟨tr₁, tr₂, rfl, hpre, hstep⟩ := hrun.pre_of_mem hst
    have hpost : Runs conf id (tr₁ ++ [st]) st.post := hpre.snoc hstep
    refine lifetime_le_of_run hpost fun st' hst' => hwithin st' ?_
    rw [List.mem_append, List.mem_singleton] at hst'
    exact hst'.elim (List.mem_append_left _) fun heq =>
      heq ▸ List.mem_append_right _ List.mem_cons_self

end NfSession

/-! ## The lifetime of a responder -/

namespace NrSession

variable {α : Type} {conf : AnslpConfig} {d : Dispatcher α} {s s' : NrSession α}
  {evt : Event α} {effects : List (Effect α)}

/-- A step keeps the lifetime below the largest. -/
theorem lifetime_le_of_transits (hle : s.lifetime ≤ s.maxLifetime)
    (ht : Transits conf d s evt s' effects) : s'.lifetime ≤ s.maxLifetime := by
  cases ht with
  | started _ _ hcheck | startedIdle _ _ hcheck | startFailed _ _ hcheck =>
      exact le_of_checkRequest hcheck
  | refreshed _ _ hcheck => exact le_of_checkRequest hcheck
  | installFailed => exact UInt32.zero_le
  | _ => exact hle

theorem lifetime_le_of_run {id : SessionId} {random : UInt32}
    {trace : List (Transition.Step (NrSession α) (Dispatcher α × Event α)
      (Outcome (NrSession α) α))} (hrun : Runs conf id random trace s) :
    s.lifetime ≤ conf.nrMaxSessionLifetime := by
  rw [← maxLifetime_of_run hrun]
  refine hrun.invariant (I := fun s => s.lifetime ≤ s.maxLifetime) ?_ UInt32.zero_le
  intro t input o u hle hstep
  have ht := transits_of_processEvent (next_of_machine hstep)
  rw [maxLifetime_of_transits ht]
  exact lifetime_le_of_transits hle ht

end NrSession

/-- In every run the lifetimes of a forwarder and of a responder stay below the largest. -/
def LifetimesBounded (α : Type) (conf : AnslpConfig) : Prop :=
  (∀ id trace (s : NfSession α), NfSession.Runs conf id trace s →
    ∀ st ∈ trace, st.post.lifetime ≤ conf.nfMaxSessionLifetime) ∧
  ∀ id random trace (s : NrSession α), NrSession.Runs conf id random trace s →
    s.lifetime ≤ conf.nrMaxSessionLifetime

/-- The lifetime of a forwarder stays below the largest exactly in the runs without a
replacing CREATE that asks for more; that of a responder always does. -/
theorem lifetime_le_iff_of_run {α : Type} (conf : AnslpConfig) :
    (∀ id trace (s : NfSession α), NfSession.Runs conf id trace s →
      ((∀ st ∈ trace, st.post.lifetime ≤ conf.nfMaxSessionLifetime) ↔
        ∀ st ∈ trace, st.pre.ReplacesWithin conf st.input.1 st.input.2)) ∧
    ∀ id random trace (s : NrSession α), NrSession.Runs conf id random trace s →
      s.lifetime ≤ conf.nrMaxSessionLifetime :=
  ⟨fun _ _ _ hrun => NfSession.lifetime_le_iff hrun,
    fun _ _ _ _ hrun => NrSession.lifetime_le_of_run hrun⟩

/-! ## The lifetimes a forwarder passes on -/

namespace AnslpMsg

variable {α : Type}

@[simp]
theorem getSessionLifetime_setSessionLifetime (a : AnslpMsg α) (lifetime : UInt32) :
    (a.setSessionLifetime lifetime).getSessionLifetime = lifetime := by
  rw [getSessionLifetime, setSessionLifetime, getBody?_setFixed, if_pos rfl]

/-- A fixed object of another type leaves the lifetime. -/
theorem getSessionLifetime_setFixed (a : AnslpMsg α) {t : FixedType} (b : Body α)
    (ht : t ≠ .sessionLifetime) :
    (a.setObject (fixedObject t b)).getSessionLifetime = a.getSessionLifetime := by
  rw [getSessionLifetime, getBody?_setFixed, if_neg ht.symm, getSessionLifetime]

@[simp]
theorem getSessionLifetime_setMsgSequenceNumber (a : AnslpMsg α) (msn : UInt32) :
    (a.setMsgSequenceNumber msn).getSessionLifetime = a.getSessionLifetime :=
  a.getSessionLifetime_setFixed _ nofun

@[simp]
theorem getSessionLifetime_setSelectionAuctioningEntities (a : AnslpMsg α) (value : UInt32) :
    (a.setSelectionAuctioningEntities value).getSessionLifetime = a.getSessionLifetime :=
  a.getSessionLifetime_setFixed _ nofun

@[simp]
theorem getSessionLifetime_setMessageHopCount (a : AnslpMsg α) (value : UInt32) :
    (a.setMessageHopCount value).getSessionLifetime = a.getSessionLifetime :=
  a.getSessionLifetime_setFixed _ nofun

/-- An IPAP message object leaves the lifetime, or takes its place when its number has
wrapped around. -/
theorem getSessionLifetime_setMspecObject_le (a : AnslpMsg α) (o : MspecObject α) :
    (a.setMspecObject o).getSessionLifetime ≤ a.getSessionLifetime := by
  obtain ⟨key, hset⟩ : ∃ key, (a.setMspecObject o).objects = a.objects.insert key o.toObject :=
    ⟨_, rfl⟩
  by_cases hrank : FixedType.sessionLifetime.key.rank = key.rank
  · have hbody : (a.setMspecObject o).getBody? .sessionLifetime = some o.toObject.body := by
      rw [getBody?, IeStore.get, hset, OrderedMap.find?_congr _ hrank,
        OrderedMap.find?_insert_self]
      rfl
    rw [getSessionLifetime, hbody]
    exact UInt32.zero_le
  · have hbody : (a.setMspecObject o).getBody? .sessionLifetime =
        a.getBody? .sessionLifetime := by
      rw [getBody?, IeStore.get, hset, OrderedMap.find?_insert_of_ne _ _ hrank]
      rfl
    rw [getSessionLifetime, hbody]
    exact UInt32.le_refl _

theorem getSessionLifetime_setMspecObjects_le (a : AnslpMsg α) (os : List (MspecObject α)) :
    (a.setMspecObjects os).getSessionLifetime ≤ a.getSessionLifetime := by
  induction os generalizing a with
  | nil => exact UInt32.le_refl _
  | cons o os ih => exact UInt32.le_trans (ih _) (a.getSessionLifetime_setMspecObject_le o)

end AnslpMsg

/-- A CREATE or REFRESH asks for no more than a lifetime. -/
def NtlpMsg.AsksWithin {α : Type} (m : NtlpMsg α) (lifetime : UInt32) : Prop :=
  ∀ a, m.msg = some a → a.kind = .create ∨ a.kind = .refresh → a.getSessionLifetime ≤ lifetime

namespace NfSession

variable {α : Type} {conf : AnslpConfig} {d : Dispatcher α} {s s' : NfSession α}
  {evt : Event α} {effects : List (Effect α)} {lifetime : UInt32}

/-- The lifetime with which a CREATE is passed on first. -/
def cappedLifetime (s : NfSession α) (c : AnslpMsg α) : UInt32 :=
  if s.lifetime ≤ c.getSessionLifetime then s.lifetime else c.getSessionLifetime

theorem cappedLifetime_le (s : NfSession α) (c : AnslpMsg α) :
    s.cappedLifetime c ≤ s.lifetime := by
  unfold cappedLifetime
  split_ifs with hle
  · exact UInt32.le_refl _
  · exact UInt32.le_of_lt (UInt32.not_le.mp hle)

theorem asksWithin_buildCreateMessage (s : NfSession α) (nrMri : Mri) (c : AnslpMsg α)
    (objects : List (MspecObject α)) :
    (s.buildCreateMessage nrMri c objects).AsksWithin s.lifetime := by
  rintro a ⟨⟩ _
  refine UInt32.le_trans (AnslpMsg.getSessionLifetime_setMspecObjects_le _ _) ?_
  simp only [AnslpMsg.getSessionLifetime_setMessageHopCount,
    AnslpMsg.getSessionLifetime_setSelectionAuctioningEntities,
    AnslpMsg.getSessionLifetime_setMsgSequenceNumber,
    AnslpMsg.getSessionLifetime_setSessionLifetime]
  exact s.cappedLifetime_le c

theorem asksWithin_buildTeardownMessage (s : NfSession α) (nrMri : Mri) :
    (s.buildTeardownMessage nrMri).AsksWithin lifetime := by
  rintro a ⟨⟩ _
  simp only [AnslpMsg.getSessionLifetime_setMsgSequenceNumber,
    AnslpMsg.getSessionLifetime_setSessionLifetime]
  exact UInt32.zero_le

/-- A RESPONSE or BIDDING asks for nothing. -/
theorem asksWithin_of_kind {kind : MsgKind} {m : NtlpMsg α} {a : AnslpMsg α}
    (hm : m.msg = some a) (ha : a.kind = kind) (hkind : kind = .response ∨ kind = .bidding) :
    m.AsksWithin lifetime := by
  intro b hb hasks
  cases hm.symm.trans hb
  rw [ha] at hasks
  rcases hkind with rfl | rfl <;> rcases hasks with h | h <;> cases h

theorem asksWithin_passedOn {kind : MsgKind} (r : KindMsg kind α)
    (hkind : kind = .response ∨ kind = .bidding) :
    r.ntlpMsg.copyForForwarding.AsksWithin lifetime :=
  asksWithin_of_kind r.msg_eq r.kind_eq hkind

theorem asksWithin_createResponse (m : NtlpMsg α) (severity responseCode : UInt8) :
    (m.createResponse severity responseCode).AsksWithin lifetime :=
  asksWithin_of_kind rfl (NtlpMsg.kind_responseBody ..) (Or.inl rfl)

theorem asksWithin_createErrorResponse (m : NtlpMsg α) (e : RequestError) :
    (m.createErrorResponse e).AsksWithin lifetime :=
  asksWithin_createResponse m e.severity e.responseCode

/-- A message passed on asks for what it came with. -/
theorem asksWithin_copyForForwarding {kind : MsgKind} (c : KindMsg kind α)
    (hkind : kind = .create ∨ kind = .refresh) :
    c.ntlpMsg.copyForForwarding.AsksWithin lifetime ↔ c.body.getSessionLifetime ≤ lifetime := by
  have hmsg : c.ntlpMsg.copyForForwarding.msg = some c.body := c.msg_eq
  constructor
  · intro h
    exact h c.body hmsg (c.kind_eq.symm ▸ hkind)
  · intro h a ha _
    cases hmsg.symm.trans ha
    exact h

/-- What a call passes on asks for no more than the lifetime stored afterwards, and a CREATE
that is sent again for the same as at first. -/
structure PassesCapped (s s' : NfSession α) (evt : Event α) (sent : List (NtlpMsg α)) : Prop where
  within : ∀ m ∈ sent, m.AsksWithin s'.lifetime
  repeated : ∀ e c previous, evt = .msg e → e.ofKind? .create = some c → s.IsPending →
    s.createMessage = some previous → c.body = previous.body → ∀ m ∈ sent, ∀ a,
      m.msg = some a → a.kind = .create → a.getSessionLifetime = s.cappedLifetime previous.body

/-- The calls that pass on a lifetime above the one stored: for a CREATE that is sent again,
and for a REFRESH above the largest lifetime. -/
inductive PassesUncapped (d : Dispatcher α) (s : NfSession α) : Event α → Prop
  | create {e : MsgEvent α} {c previous : KindMsg .create α}
      (hstate : s.state = .pending ∨ s.state = .pendingInstalling)
      (hc : e.ofKind? .create = some c) (hprevious : s.createMessage = some previous)
      (hauthorized : d.isAuthorized e = true)
      (hmsn : c.body.getMsgSequenceNumber = previous.body.getMsgSequenceNumber)
      (hlifetime : s.lifetime < c.body.getSessionLifetime) : PassesUncapped d s (.msg e)
  | refresh {e : MsgEvent α} {c : KindMsg .refresh α} (hstate : s.state = .auctioning)
      (hc : e.ofKind? .refresh = some c)
      (hmsn : isGreaterThan c.body.getMsgSequenceNumber s.msn = true)
      (hlifetime : s.maxLifetime < c.body.getSessionLifetime) : PassesUncapped d s (.msg e)

theorem SetUp.asksWithin {c : KindMsg .create α} (h : SetUp conf d s c s' effects) :
    ∀ m ∈ effects.filterMap Effect.sent?, m.AsksWithin s'.lifetime := by
  rw [h.lifetime_eq]
  cases h with
  | notPathcoupled | refused => simpa using asksWithin_createErrorResponse _ _
  | checking => simp
  | passed => simpa using s.asksWithin_buildCreateMessage _ _ _

/-- A call that passes nothing uncapped on asks for no more than is stored. -/
theorem Transits.asksWithin (ht : Transits conf d s evt s' effects)
    (hcapped : ¬ s.PassesUncapped d evt) :
    ∀ m ∈ effects.filterMap Effect.sent?, m.AsksWithin s'.lifetime := by
  cases ht with
  | discarded | createWithoutLifetime | responded | biddingTaken | removalTimedOut | removed =>
      simp
  | createRejected | pendingRejected | refreshRejected =>
      simpa using asksWithin_createErrorResponse _ _
  | created _ _ _ _ hsetUp | replaced _ _ hsetUp => exact hsetUp.asksWithin
  | @abandoned e c _ _ _ hlifetime =>
      simpa using (asksWithin_copyForForwarding c (Or.inl rfl)).mpr (hlifetime ▸ UInt32.zero_le)
  | @repeated e c previous _ hstate hc hpassedOn hprevious hauthorized hmsn =>
      subst hpassedOn
      split_ifs with hcheck
      · simp
      · have hle : c.body.getSessionLifetime ≤ s.lifetime := UInt32.not_lt.mp fun hlt =>
          hcapped (.create (hstate.resolve_left hcheck) hc hprevious hauthorized hmsn hlt)
        simpa using (asksWithin_copyForForwarding c (Or.inl rfl)).mpr hle
  | givenUp => simpa using asksWithin_createResponse _ _ _
  | checked => simpa using s.asksWithin_buildCreateMessage _ _ _
  | @refused e c r => simpa using asksWithin_passedOn r (Or.inl rfl)
  | @installed objects r =>
      simpa using asksWithin_of_kind rfl ((AnslpMsg.kind_setMspecObjects _ _).trans r.kind_eq)
        (Or.inl rfl)
  | installFailed _ _ _ _ hremoval =>
      subst hremoval
      split_ifs <;>
        simp [or_imp, forall_and, asksWithin_createResponse, asksWithin_buildTeardownMessage]
  | @refreshed e c lifetime hstate hc hcheck hmsn =>
      have hle : c.body.getSessionLifetime ≤ s.maxLifetime := UInt32.not_lt.mp fun hlt =>
        hcapped (.refresh hstate hc hmsn hlt)
      have hlifetime : c.body.getSessionLifetime = lifetime := by
        unfold checkRequest checkLifetime at hcheck
        rw [if_pos (decide_eq_true hle)] at hcheck
        split_ifs at hcheck
        exact Except.ok.inj hcheck
      have hpassed : c.ntlpMsg.copyForForwarding.AsksWithin lifetime :=
        (asksWithin_copyForForwarding c (Or.inr rfl)).mpr (hlifetime ▸ UInt32.le_refl _)
      simpa using hpassed
  | @responsePassed e c r => simpa using asksWithin_passedOn r (Or.inl rfl)
  | removing _ hends | closed _ hends =>
      cases hends with
      | @response e c r => simpa using asksWithin_passedOn r (Or.inl rfl)
      | _ => simp
  | @biddingPassed e b => simpa using asksWithin_passedOn b (Or.inr rfl)

/-- A CREATE that is sent again starts the state timer anew, and is passed on unless the
installer checks. -/
theorem processEvent_of_repeated {e : MsgEvent α} {c previous : KindMsg .create α}
    (hstate : s.IsPending) (hc : e.ofKind? .create = some c)
    (hprevious : s.createMessage = some previous) (hauthorized : d.isAuthorized e = true)
    (hmsn : c.body.getMsgSequenceNumber = previous.body.getMsgSequenceNumber) :
    s.processEvent conf d (.msg e) = .next { s with stateTimer := d.startTimer 0 }
      ((if s.state = .pendingCheck then [] else [.sendMessage c.ntlpMsg.copyForForwarding])
        ++ [.startTimer (d.startTimer 0) s.responseTimeout]) := by
  have hnot : ¬ (c.body.getMsgSequenceNumber > previous.body.getMsgSequenceNumber ∧
      c.body.getSessionLifetime = 0) := by
    rintro ⟨hgt, _⟩
    rw [hmsn] at hgt
    exact UInt32.lt_irrefl _ hgt
  rw [processEvent_of_isPending hstate hc, processPendingCreate]
  split
  · rename_i hnone
    rw [hnone] at hprevious
    cases hprevious
  · rename_i stored hstored
    cases hstored.symm.trans hprevious
    rw [hauthorized, Bool.not_true, if_neg Bool.false_ne_true, if_neg hnot, if_pos hmsn]

/-- A CREATE sent again that is not authorized is answered only. -/
theorem processEvent_of_unauthorized {e : MsgEvent α} {c previous : KindMsg .create α}
    (hstate : s.IsPending) (hc : e.ofKind? .create = some c)
    (hprevious : s.createMessage = some previous) (hauthorized : d.isAuthorized e = false) :
    s.processEvent conf d (.msg e) =
      .next s [.sendMessage (c.ntlpMsg.createErrorResponse authorizationError)] := by
  rw [processEvent_of_isPending hstate hc]
  simp [processPendingCreate, hprevious, hauthorized]

theorem isPending_of_passing (h : s.state = .pending ∨ s.state = .pendingInstalling) :
    s.IsPending :=
  Or.inr h

/-- A call caps what it passes on exactly when it is none of those that do not. -/
theorem passesCapped_iff (hnext : s.processEvent conf d evt = .next s' effects) :
    s.PassesCapped s' evt (effects.filterMap Effect.sent?) ↔ ¬ s.PassesUncapped d evt := by
  constructor
  · rintro ⟨hwithin, _⟩ huncapped
    cases huncapped with
    | @create e c previous hstate hc hprevious hauthorized hmsn hlifetime =>
        have hcheck : s.state ≠ .pendingCheck := by
          rcases hstate with hs | hs <;> rw [hs] <;> exact nofun
        rw [processEvent_of_repeated (isPending_of_passing hstate) hc hprevious hauthorized hmsn,
          if_neg hcheck] at hnext
        cases hnext
        have hasks := hwithin c.ntlpMsg.copyForForwarding (by simp)
        exact UInt32.not_lt.mpr ((asksWithin_copyForForwarding c (Or.inl rfl)).mp hasks) hlifetime
    | @refresh e c hstate hc hmsn hlifetime =>
        have hcheck : checkRequest d e c.body.getSessionLifetime s.maxLifetime =
            .ok s.maxLifetime := checkRequest_of_not_le (UInt32.not_le.mpr hlifetime)
        simp only [processEvent, hstate, handleStateAuctioning, hc, processRefresh, hcheck, hmsn,
          Bool.not_true, Bool.false_eq_true, if_false] at hnext
        cases hnext
        have hasks := hwithin c.ntlpMsg.copyForForwarding (by simp)
        exact UInt32.not_lt.mpr ((asksWithin_copyForForwarding c (Or.inr rfl)).mp hasks) hlifetime
  · intro hcapped
    refine ⟨(transits_of_processEvent hnext).asksWithin hcapped, ?_⟩
    rintro e c previous rfl hc hstate hprevious hbody m hm a ha hkind
    cases hauthorized : d.isAuthorized e with
    | false =>
        rw [processEvent_of_unauthorized hstate hc hprevious hauthorized] at hnext
        cases hnext
        obtain rfl : m = c.ntlpMsg.createErrorResponse authorizationError := by simpa using hm
        cases ha
        cases (NtlpMsg.kind_responseBody ..).symm.trans hkind
    | true =>
        have hmsn := congrArg AnslpMsg.getMsgSequenceNumber hbody
        rw [processEvent_of_repeated hstate hc hprevious hauthorized hmsn] at hnext
        cases hnext
        split_ifs at hm with hcheck
        · simp at hm
        · obtain rfl : m = c.ntlpMsg.copyForForwarding := by simpa using hm
          cases c.msg_eq.symm.trans ha
          have hle : c.body.getSessionLifetime ≤ s.lifetime := UInt32.not_lt.mp fun hlt =>
            hcapped (.create (hstate.resolve_left hcheck) hc hprevious hauthorized hmsn hlt)
          rw [cappedLifetime, ← hbody]
          split_ifs with hge
          · exact UInt32.le_antisymm hle hge
          · rfl

/-- In every run of a forwarder all it passes on is capped. -/
def AlwaysPassesCapped (α : Type) (conf : AnslpConfig) : Prop :=
  ∀ id trace (s : NfSession α), Runs conf id trace s →
    ∀ st ∈ trace, st.pre.PassesCapped st.post st.input.2 st.output.sent

/-- What a forwarder passes on in a run is capped exactly when no call of the run passes on
the lifetime of a CREATE sent again, or of a REFRESH, that is above its own. -/
theorem passesCapped_iff_of_run (conf : AnslpConfig) :
    ∀ id trace (s : NfSession α), Runs conf id trace s →
      ((∀ st ∈ trace, st.pre.PassesCapped st.post st.input.2 st.output.sent) ↔
        ∀ st ∈ trace, ¬ st.pre.PassesUncapped st.input.1 st.input.2) := by
  intro id trace s hrun
  refine forall₂_congr fun st hst => ?_
  obtain ⟨_, _, _, _, hstep⟩ := hrun.pre_of_mem hst
  exact passesCapped_iff (next_of_machine hstep)

end NfSession

/-! ### A CREATE with a lifetime above the largest -/

namespace LongLifetime

open Sample

/-- A CREATE for 100 seconds, with the sequence number after the given one. -/
def create (random : UInt32) : KindMsg .create RawIpap :=
  (((NiSession.new conf 1 random).setUp surroundings
    { request with sessionLifetime := 100 }).buildCreateMessage
    (NiSession.requestedMri request) { request with sessionLifetime := 100 })

/-- The forwarder after a newer CREATE has replaced the sample CREATE. -/
def replaced : NfSession RawIpap :=
  { (forwarder.numbered (create 1) 100).accepted surroundings (create 1) flow with
    stateTimer := 1
    state := .pending }

/-- Its lifetime is the one asked for. -/
theorem not_lifetimesBounded : ¬ LifetimesBounded RawIpap conf := by
  intro h
  have hreplaced := run_snoc_of_next (d := surroundings) (u := replaced) runs_forwarder
    (rfl : (NfSession.processEvent conf _ _ (.msg ⟨(create 1).ntlpMsg, true⟩)).next? = _)
  exact absurd (h.1 1 _ replaced hreplaced _ (List.mem_append_right _ List.mem_cons_self))
    (by decide)

/-- The sample CREATE replaces nothing. -/
theorem lifetime_le_forwarder : forwarder.lifetime ≤ conf.nfMaxSessionLifetime := by
  refine ((lifetime_le_iff_of_run conf).1 1 _ forwarder runs_forwarder).mpr ?_ _ List.mem_cons_self
  rintro st hst e c - hpending
  cases List.mem_singleton.mp hst
  exact absurd rfl hpending.ne_close

/-- The forwarder after a CREATE for 100 seconds, passed on with 60. -/
def capped : NfSession RawIpap :=
  { (((NfSession.new 1).configured conf).numbered (create 0) 60).accepted surroundings
      (create 0) flow with
    stateTimer := 1
    state := .pending }

/-- The CREATE is sent again, and passed on with 100 seconds. -/
theorem not_alwaysPassesCapped : ¬ NfSession.AlwaysPassesCapped RawIpap conf := by
  intro h
  let evt : Event RawIpap := .msg ⟨(create 0).ntlpMsg, true⟩
  have hcapped : NfSession.Runs conf 1 _ capped :=
    run_snoc_of_next (d := surroundings) (.nil (s := NfSession.new 1))
      (rfl : (NfSession.processEvent conf _ _ evt).next? = _)
  have hagain : NfSession.processEvent conf surroundings capped evt =
      .next capped [.sendMessage (create 0).ntlpMsg.copyForForwarding, .startTimer 1 60] := rfl
  have hrun := run_snoc_of_next hcapped (congrArg Outcome.next? hagain)
  have hpasses := h 1 _ capped hrun _ (List.mem_append_right _ List.mem_cons_self)
  dsimp only at hpasses
  rw [hagain] at hpasses
  exact (NfSession.passesCapped_iff hagain).mp hpasses
    (.create (c := create 0) (Or.inl rfl) rfl rfl rfl rfl (by decide))

/-- The sample CREATE is passed on with the lifetime stored for it. -/
theorem passesCapped_forwarder :
    (NfSession.new 1).PassesCapped forwarder (.msg arrival)
      (NfSession.processEvent conf surroundings (NfSession.new 1) (.msg arrival)).sent := by
  refine (NfSession.passesCapped_iff_of_run conf 1 _ forwarder runs_forwarder).mpr ?_ _
    List.mem_cons_self
  intro st hst huncapped
  cases List.mem_singleton.mp hst
  cases huncapped with
  | create hstate => exact absurd hstate (by decide)
  | refresh hstate => cases hstate

end LongLifetime
end Anslp
