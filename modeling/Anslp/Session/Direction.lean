import Anslp.Session.Sequence

/-!
# Directions

Which way a forwarder sends its messages.  A response is made with the routing of the message
it answers, inverted, so that the answer to a stored RESPONSE goes the wrong way.

Main results:

- Theorem {lit}`NfSession.directs_iff_of_run`: the runs of a forwarder in which requests go
  downstream and responses upstream.

Current gaps:

- None for the messages of a forwarder.
-/

namespace Anslp

/-- A CREATE or REFRESH goes downstream and a RESPONSE upstream. -/
def NtlpMsg.IsDirected {α : Type} (m : NtlpMsg α) : Prop :=
  ∀ a, m.msg = some a →
    (a.kind = .create ∨ a.kind = .refresh → m.routingInfo.getDownstream = true) ∧
      (a.kind = .response → m.routingInfo.getDownstream = false)

/-- A message received has the direction of its class. -/
def Event.IsDirected {α : Type} : Event α → Prop
  | .msg e => e.ntlpMsg.IsDirected
  | _ => True

/-- All a call sends has the direction of its class. -/
def Outcome.Directs {σ α : Type} (o : Outcome σ α) : Prop :=
  ∀ m ∈ o.sent, m.IsDirected

namespace NtlpMsg

variable {α : Type} {m : NtlpMsg α}

theorem isDirected_of_request {a : AnslpMsg α} (hm : m.msg = some a)
    (ha : a.kind = .create ∨ a.kind = .refresh) (hdown : m.routingInfo.getDownstream = true) :
    m.IsDirected := by
  intro b hb
  cases hm.symm.trans hb
  refine ⟨fun _ => hdown, fun hresponse => ?_⟩
  rcases ha with ha | ha <;> rw [ha] at hresponse <;> cases hresponse

theorem isDirected_of_response {a : AnslpMsg α} (hm : m.msg = some a) (ha : a.kind = .response)
    (hup : m.routingInfo.getDownstream = false) : m.IsDirected := by
  intro b hb
  cases hm.symm.trans hb
  refine ⟨fun hrequest => ?_, fun _ => hup⟩
  rcases hrequest with h | h <;> rw [ha] at h <;> cases h

theorem isDirected_of_bidding {a : AnslpMsg α} (hm : m.msg = some a) (ha : a.kind = .bidding) :
    m.IsDirected := by
  intro b hb
  cases hm.symm.trans hb
  refine ⟨fun hrequest => ?_, fun hresponse => ?_⟩
  · rcases hrequest with h | h <;> rw [ha] at h <;> cases h
  · rw [ha] at hresponse
    cases hresponse

/-- A response has the right direction exactly when it answers a message that came
downstream. -/
theorem isDirected_createResponse_iff (m : NtlpMsg α) (severity responseCode : UInt8) :
    (m.createResponse severity responseCode).IsDirected ↔
      m.routingInfo.getDownstream = true := by
  have hdirection : (m.createResponse severity responseCode).routingInfo.getDownstream =
      !m.routingInfo.getDownstream := Mri.getDownstream_invertDirection _
  constructor
  · intro h
    have hup := (h _ rfl).2 (kind_responseBody ..)
    rw [hdirection] at hup
    simpa using hup
  · intro hdown
    refine isDirected_of_response rfl (kind_responseBody ..) ?_
    rw [hdirection, hdown]
    rfl

theorem isDirected_createErrorResponse_iff (m : NtlpMsg α) (e : RequestError) :
    (m.createErrorResponse e).IsDirected ↔ m.routingInfo.getDownstream = true :=
  isDirected_createResponse_iff m e.severity e.responseCode

end NtlpMsg

/-- A request that was received came downstream. -/
theorem KindMsg.getDownstream_of_request {α : Type} {kind : MsgKind} {e : MsgEvent α}
    {c : KindMsg kind α} (hc : e.ofKind? kind = some c) (hdirected : e.ntlpMsg.IsDirected)
    (hkind : kind = .create ∨ kind = .refresh) :
    c.ntlpMsg.routingInfo.getDownstream = true := by
  rw [← MsgEvent.ntlpMsg_of_ofKind? hc] at hdirected
  exact (hdirected c.body c.msg_eq).1 (c.kind_eq.symm ▸ hkind)

/-- The RESPONSE to a message sent before came upstream. -/
theorem KindMsg.getDownstream_of_response {α : Type} {kind : MsgKind} {e : MsgEvent α}
    {c : KindMsg kind α} {r : KindMsg .response α} (hr : e.anslpResponse? c = some r)
    (hdirected : e.ntlpMsg.IsDirected) : r.ntlpMsg.routingInfo.getDownstream = false := by
  rw [← MsgEvent.ntlpMsg_of_ofKind? (MsgEvent.of_anslpResponse? hr).1] at hdirected
  exact (hdirected r.body r.msg_eq).2 r.kind_eq

/-! ## Forwarder -/

namespace NfSession

variable {α : Type} {conf : AnslpConfig} {d : Dispatcher α} {s s' : NfSession α}
  {evt : Event α} {effects : List (Effect α)}

/-- What is stored has its direction: the CREATE and the routing towards the responder go
downstream, the RESPONSE upstream. -/
structure Directed (s : NfSession α) : Prop where
  create : ∀ c, s.createMessage = some c → c.ntlpMsg.routingInfo.getDownstream = true
  response : ∀ r, s.responseMessage = some r → r.ntlpMsg.routingInfo.getDownstream = false
  nrMri : ∀ mri, s.nrMri = some mri → mri.getDownstream = true

theorem directed_new (id : SessionId) : (new id : NfSession α).Directed where
  create _ hc := by cases hc
  response _ hr := by cases hr
  nrMri _ hmri := by cases hmri

theorem isDirected_buildCreateMessage (s : NfSession α) {nrMri : Mri} (c : AnslpMsg α)
    (objects : List (MspecObject α)) (hdown : nrMri.getDownstream = true) :
    (s.buildCreateMessage nrMri c objects).IsDirected :=
  NtlpMsg.isDirected_of_request rfl (Or.inl (AnslpMsg.kind_setMspecObjects _ _)) hdown

theorem isDirected_buildResponse (s : NfSession α) {r : KindMsg .response α}
    (hup : r.ntlpMsg.routingInfo.getDownstream = false) : (s.buildResponse r).IsDirected :=
  NtlpMsg.isDirected_of_response rfl ((AnslpMsg.kind_setMspecObjects _ _).trans r.kind_eq) hup

/-- A request that goes downstream keeps its direction when it is passed on. -/
theorem isDirected_request {kind : MsgKind} (c : KindMsg kind α)
    (hkind : kind = .create ∨ kind = .refresh)
    (hdown : c.ntlpMsg.routingInfo.getDownstream = true) :
    c.ntlpMsg.copyForForwarding.IsDirected :=
  NtlpMsg.isDirected_of_request c.msg_eq (c.kind_eq.symm ▸ hkind) hdown

/-- A RESPONSE that goes upstream keeps its direction when it is passed on. -/
theorem isDirected_response (r : KindMsg .response α)
    (hup : r.ntlpMsg.routingInfo.getDownstream = false) :
    r.ntlpMsg.copyForForwarding.IsDirected :=
  NtlpMsg.isDirected_of_response r.msg_eq r.kind_eq hup

/-- Setting the session up stores the CREATE with its direction, and sends with it. -/
theorem Directed.setUp (h : s.Directed) {c : KindMsg .create α}
    (hc : c.ntlpMsg.routingInfo.getDownstream = true) (hsetUp : SetUp conf d s c s' effects) :
    s'.Directed ∧ ∀ m ∈ effects.filterMap Effect.sent?, m.IsDirected := by
  have hcreate : ∀ c', some c = some c' → c'.ntlpMsg.routingInfo.getDownstream = true := by
    rintro c' ⟨⟩
    exact hc
  have hnrMri : ∀ (flow : Flow) (mri : Mri), some (Mri.pathcoupled flow true) = some mri →
      mri.getDownstream = true := by
    rintro flow mri ⟨⟩
    rfl
  have hrefused : ∀ exp : RequestError, (c.ntlpMsg.createErrorResponse exp).IsDirected :=
    fun exp => (NtlpMsg.isDirected_createErrorResponse_iff _ _).mpr hc
  cases hsetUp with
  | notPathcoupled => exact ⟨⟨hcreate, h.response, h.nrMri⟩, by simpa using hrefused _⟩
  | checking => exact ⟨⟨hcreate, h.response, hnrMri _⟩, by simp⟩
  | passed =>
      exact ⟨⟨hcreate, h.response, hnrMri _⟩,
        by simpa using s.isDirected_buildCreateMessage _ _ rfl⟩
  | refused => exact ⟨⟨hcreate, h.response, hnrMri _⟩, by simpa using hrefused _⟩

theorem Directed.numbered (h : s.Directed) (c : KindMsg .create α) (lifetime : UInt32) :
    (s.numbered c lifetime).Directed :=
  ⟨h.create, h.response, h.nrMri⟩

theorem Directed.configured (h : s.Directed) (conf : AnslpConfig) :
    (s.configured conf).Directed :=
  ⟨h.create, h.response, h.nrMri⟩

/-- Every transition stores messages with their directions. -/
theorem Directed.transits (h : s.Directed) (hevt : evt.IsDirected)
    (ht : Transits conf d s evt s' effects) : s'.Directed := by
  cases ht with
  | created _ hc _ _ hsetUp =>
      have hdown := KindMsg.getDownstream_of_request hc hevt (Or.inl rfl)
      exact (((h.configured conf).numbered _ _).setUp hdown hsetUp).1
  | replaced _ hc hsetUp =>
      have hdown := KindMsg.getDownstream_of_request hc hevt (Or.inl rfl)
      exact ((h.numbered _ _).setUp hdown hsetUp).1
  | responded _ _ hr =>
      refine ⟨h.create, ?_, h.nrMri⟩
      rintro r ⟨⟩
      exact KindMsg.getDownstream_of_response hr hevt
  | removing _ hends | closed _ hends => cases hends <;> exact ⟨h.create, h.response, h.nrMri⟩
  | _ => exact ⟨h.create, h.response, h.nrMri⟩

/-- The installer replies to an installation with another number of objects than were
requested. -/
def Mismatches (s : NfSession α) (evt : Event α) : Prop :=
  s.state = .pendingInstalling ∧ ∃ mspecObjects, evt = .apiInstall mspecObjects ∧
    s.rule.getNumberMspecRequestObjects ≠ mspecObjects.size

/-- A transition that is no mismatch sends in the right directions. -/
theorem Directed.directs_of_transits (h : s.Directed) (hevt : evt.IsDirected)
    (hmatch : ¬ s.Mismatches evt) (ht : Transits conf d s evt s' effects) :
    ∀ m ∈ effects.filterMap Effect.sent?, m.IsDirected := by
  cases ht with
  | discarded | createWithoutLifetime | responded | biddingTaken | removalTimedOut | removed =>
      simp
  | createRejected _ hc | pendingRejected _ hc =>
      have hdown := KindMsg.getDownstream_of_request hc hevt (Or.inl rfl)
      simpa using (NtlpMsg.isDirected_createErrorResponse_iff _ _).mpr hdown
  | refreshRejected _ hc =>
      have hdown := KindMsg.getDownstream_of_request hc hevt (Or.inr rfl)
      simpa using (NtlpMsg.isDirected_createErrorResponse_iff _ _).mpr hdown
  | created _ hc _ _ hsetUp =>
      have hdown := KindMsg.getDownstream_of_request hc hevt (Or.inl rfl)
      exact (((h.configured conf).numbered _ _).setUp hdown hsetUp).2
  | replaced _ hc hsetUp =>
      have hdown := KindMsg.getDownstream_of_request hc hevt (Or.inl rfl)
      exact ((h.numbered _ _).setUp hdown hsetUp).2
  | abandoned _ hc =>
      have hdown := KindMsg.getDownstream_of_request hc hevt (Or.inl rfl)
      simpa using isDirected_request _ (Or.inl rfl) hdown
  | repeated _ hc hpassedOn =>
      have hdown := KindMsg.getDownstream_of_request hc hevt (Or.inl rfl)
      subst hpassedOn
      split_ifs
      · simp
      · simpa using isDirected_request _ (Or.inl rfl) hdown
  | givenUp _ hc =>
      simpa using (NtlpMsg.isDirected_createResponse_iff _ _ _).mpr (h.create _ hc)
  | checked _ _ hmri => simpa using s.isDirected_buildCreateMessage _ _ (h.nrMri _ hmri)
  | refused _ _ hr | responsePassed _ _ hr =>
      simpa using isDirected_response _ (KindMsg.getDownstream_of_response hr hevt)
  | installed _ hr => simpa using isDirected_buildResponse _ (h.response _ hr)
  | installFailed hstate _ _ hcount => exact absurd ⟨hstate, _, rfl, hcount⟩ hmatch
  | refreshed _ hc =>
      have hdown := KindMsg.getDownstream_of_request hc hevt (Or.inr rfl)
      simpa using isDirected_request _ (Or.inr rfl) hdown
  | removing _ hends | closed _ hends =>
      cases hends with
      | response _ hr =>
          simpa using isDirected_response _ (KindMsg.getDownstream_of_response hr hevt)
      | _ => simp
  | @biddingPassed e b =>
      have hsent : b.ntlpMsg.copyForForwarding.IsDirected :=
        NtlpMsg.isDirected_of_bidding b.msg_eq b.kind_eq
      simpa using hsent

/-- A call that throws sends in the right directions. -/
theorem directs_of_throws (hevt : evt.IsDirected) (ht : Throws d s evt s' effects) :
    ∀ m ∈ effects.filterMap Effect.sent?, m.IsDirected := by
  by_cases hstate : s.state = .auctioning
  · cases ht with
    | installing hs | installFailed hs => cases hstate.symm.trans hs
    | removing _ hends =>
        cases hends with
        | response _ hr =>
            simpa using isDirected_response _ (KindMsg.getDownstream_of_response hr hevt)
        | _ => simp
    | bidding => simp
  · rw [ht.sent_eq_nil hstate]
    exact List.forall_mem_nil _

/-- A call that does not return sends in the right directions. -/
theorem directs_of_next?_eq_none (hevt : evt.IsDirected)
    (hnone : (s.processEvent conf d evt).next? = none) : (s.processEvent conf d evt).Directs := by
  have hended := ended_processEvent conf d s evt
  generalize s.processEvent conf d evt = o at hnone hended
  cases hended with
  | next => cases hnone
  | thrown ht => exact directs_of_throws hevt ht
  | undefined => exact nofun

/-- On a mismatch the stored RESPONSE is answered, and the answer goes downstream. -/
theorem Directed.not_directs_of_mismatches (h : s.Directed) (hmismatch : s.Mismatches evt)
    (hnext : s.processEvent conf d evt = .next s' effects) :
    ¬ ∀ m ∈ effects.filterMap Effect.sent?, m.IsDirected := by
  obtain ⟨hstate, mspecObjects, rfl, hcount⟩ := hmismatch
  simp only [processEvent, hstate, handleStatePendingInstalling] at hnext
  split at hnext
  · cases hnext
  · rename_i r hr
    unfold processInstall at hnext
    rw [if_neg hcount] at hnext
    dsimp only at hnext
    split at hnext
    · cases hnext
    · split at hnext
      · cases hnext
      · cases hnext
        intro hdirects
        have hsent : (r.ntlpMsg.createResponse scPermanentFailure
            failInternalError).IsDirected := hdirects _ (by simp)
        rw [NtlpMsg.isDirected_createResponse_iff, h.response r hr] at hsent
        cases hsent

variable {id : SessionId}
  {trace : List (Transition.Step (NfSession α) (Dispatcher α × Event α)
    (Outcome (NfSession α) α))}

theorem directed_of_run (hrun : Runs conf id trace s)
    (hevts : ∀ st ∈ trace, st.input.2.IsDirected) : s.Directed := by
  refine hrun.invariant_of_guarded (I := Directed) (G := fun _ input => input.2.IsDirected) ?_
    (directed_new id) hevts
  intro t input o u ht hguard hstep
  exact ht.transits hguard (transits_of_processEvent (next_of_machine hstep))

/-- In every run of a forwarder whose messages come with the directions of their classes, all
it sends has the direction of its class. -/
def AlwaysDirects (α : Type) (conf : AnslpConfig) : Prop :=
  ∀ id trace (s : NfSession α), Runs conf id trace s →
    (∀ st ∈ trace, st.input.2.IsDirected) →
      (∀ st ∈ trace, st.output.Directs) ∧ ∀ d evt, evt.IsDirected →
        (s.processEvent conf d evt).Directs

/-- What a forwarder sends in a run has the direction of its class exactly when no
installation is replied to with another number of objects than were requested.  A call that
does not return sends in the right directions anyway. -/
theorem directs_iff_of_run (conf : AnslpConfig) :
    ∀ id trace (s : NfSession α), Runs conf id trace s →
      (∀ st ∈ trace, st.input.2.IsDirected) →
        ((∀ st ∈ trace, st.output.Directs) ↔ ∀ st ∈ trace, ¬ st.pre.Mismatches st.input.2) ∧
        ∀ d evt, evt.IsDirected → (s.processEvent conf d evt).next? = none →
          (s.processEvent conf d evt).Directs := by
  intro id trace s hrun hevts
  refine ⟨forall₂_congr fun st hst => ?_, fun d evt => directs_of_next?_eq_none⟩
  obtain ⟨tr₁, tr₂, rfl, hpre, hstep⟩ := hrun.pre_of_mem hst
  have hnext := next_of_machine hstep
  have hdirected : st.pre.Directed :=
    directed_of_run hpre fun st' hst' => hevts st' (List.mem_append_left _ hst')
  constructor
  · intro hdirects hmismatch
    exact hdirected.not_directs_of_mismatches hmismatch hnext hdirects
  · intro hmatch
    exact hdirected.directs_of_transits (hevts st hst) hmatch (transits_of_processEvent hnext)

end NfSession

/-! ### An installation that fails -/

namespace Mismatch

open Sample

/-- The RESPONSE of success to the sample CREATE. -/
def response : KindMsg .response RawIpap where
  ntlpMsg := create.ntlpMsg.createSuccessResponse 30
  body := create.ntlpMsg.successBody 30
  msg_eq := rfl
  kind_eq := rfl

/-- The forwarder, its rule handed to the installer. -/
def installing : NfSession RawIpap :=
  { forwarder with
    responseTimer := 1
    responseMessage := some response
    stateTimer := 2
    state := .pendingInstalling }

theorem isDirected_arrival : (Event.msg arrival).IsDirected :=
  NtlpMsg.isDirected_of_request create.msg_eq (Or.inl create.kind_eq) rfl

theorem runs_installing : ∃ trace, NfSession.Runs conf 1 trace installing ∧
    ∀ st ∈ trace, st.input.2.IsDirected ∧ ¬ st.pre.Mismatches st.input.2 := by
  have hinstalling := run_snoc_of_next (d := surroundings) runs_forwarder
    (rfl : (NfSession.processEvent conf _ _
      (.msg ⟨response.ntlpMsg, true⟩)).next? = some installing)
  refine ⟨_, hinstalling, ?_⟩
  have hresponse : (Event.msg ⟨response.ntlpMsg, true⟩ : Event RawIpap).IsDirected :=
    NtlpMsg.isDirected_of_response response.msg_eq response.kind_eq rfl
  intro st hst
  rcases List.mem_append.mp hst with h | h
  · cases List.mem_singleton.mp h
    exact ⟨isDirected_arrival, fun hmismatch => absurd hmismatch.1 (by decide)⟩
  · cases List.mem_singleton.mp h
    exact ⟨hresponse, fun hmismatch => absurd hmismatch.1 (by decide)⟩

/-- An object that nobody requested is installed, and the RESPONSE is answered. -/
theorem not_alwaysDirects : ¬ NfSession.AlwaysDirects RawIpap conf := by
  intro h
  obtain ⟨trace, hrun, hsteps⟩ := runs_installing
  have hevts : ∀ st ∈ trace, st.input.2.IsDirected := fun st hst => (hsteps st hst).1
  have hmismatch : installing.Mismatches (.apiInstall (OrderedMap.empty.insert 0 object)) :=
    ⟨rfl, _, rfl, by decide⟩
  have hdirects := (h 1 trace installing hrun hevts).2 surroundings
    (.apiInstall (OrderedMap.empty.insert 0 object)) trivial
  have hnext : ∃ s' effects, installing.processEvent conf surroundings
      (.apiInstall (OrderedMap.empty.insert 0 object)) = .next s' effects := ⟨_, _, rfl⟩
  obtain ⟨s', effects, hnext⟩ := hnext
  rw [hnext] at hdirects
  exact (NfSession.directed_of_run hrun hevts).not_directs_of_mismatches hmismatch hnext hdirects

/-- Up to the installation all directions are right. -/
theorem directs_installing :
    ∃ trace, NfSession.Runs conf 1 trace installing ∧ ∀ st ∈ trace, st.output.Directs := by
  obtain ⟨trace, hrun, hsteps⟩ := runs_installing
  have hiff := NfSession.directs_iff_of_run conf 1 trace installing hrun
    fun st hst => (hsteps st hst).1
  exact ⟨trace, hrun, hiff.1.mpr fun st hst => (hsteps st hst).2⟩

end Mismatch
end Anslp
