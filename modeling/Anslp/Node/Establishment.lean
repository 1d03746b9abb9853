import Anslp.Node.PathInvariant
import Anslp.Session.Sending

/-!
# The order in which a path is set up

Whether what one node of a path believes is so on the others.  A RESPONSE that reports
success goes from one node to the next one; a node that takes part installs its rule before
it passes it on.  So a node is up only after all nodes between it and the responder.

Main results:

- Theorem {lit}`Chain.wasUp_of_beyond`: in every run a node is up, or the initiator knows that
  the path is, only after every node beyond it was up.

Current gaps:

- Only the order is compared; times are left out.
-/

namespace Anslp

open Session

/-! ## What one call does -/

namespace NiSession

variable {α : Type} {d : Dispatcher α} {s s' : NiSession α} {evt : Event α}
  {effects : List (Effect α)}

/-- The session has received the RESPONSE that reports success for its CREATE. -/
def IsConfirmed (s : NiSession α) : Prop :=
  s.state ≠ .close ∧ s.state ≠ .pending

@[simp]
theorem reportsSuccess_buildRefreshMessage (s : NiSession α) (mri : Mri) :
    (s.buildRefreshMessage mri).ntlpMsg.reportsSuccess = false :=
  NtlpMsg.reportsSuccess_of_kind rfl nofun

@[simp]
theorem reportsSuccess_buildBiddingMessage (s : NiSession α) (mri : Mri)
    (e : ApiBiddingEvent α) : (s.buildBiddingMessage mri e).reportsSuccess = false :=
  NtlpMsg.reportsSuccess_of_kind rfl (by rw [AnslpMsg.kind_setMspecObjects]; exact nofun)

/-- A request of the initiator is no report of success. -/
theorem reportsSuccess_of_request {kind : MsgKind} (c : KindMsg kind α) (h : kind ≠ .response) :
    c.ntlpMsg.reportsSuccess = false :=
  NtlpMsg.reportsSuccess_of_kind c.msg_eq fun hk => h (c.kind_eq.symm.trans hk)

/-- An initiator reports no success to other nodes. -/
theorem silent (ht : Transits d s evt s' effects) :
    ∀ m ∈ effects.filterMap Effect.sent?, m.reportsSuccess = false := by
  have hcreate : ∀ c : KindMsg .create α, c.ntlpMsg.reportsSuccess = false :=
    fun c => reportsSuccess_of_request c nofun
  have hrefresh : ∀ c : KindMsg .refresh α, c.ntlpMsg.reportsSuccess = false :=
    fun c => reportsSuccess_of_request c nofun
  have hreported : ∀ reported : List (Effect α),
      (∀ effect ∈ reported, ∃ text, effect = .reportAsyncEvent text) →
        reported.filterMap Effect.sent? = [] := by
    intro reported h
    rw [List.filterMap_eq_nil_iff]
    intro effect heffect
    rcases h effect heffect with ⟨text, rfl⟩
    rfl
  cases ht with
  | created _ _ htold =>
      subst htold
      simp [hcreate]
  | createdUntold => simp [hcreate]
  | createRetried => simp [hcreate]
  | refreshRetried => simp [hrefresh]
  | failed _ h => simp [hreported _ h]
  | uninstalled _ _ _ hremoval h =>
      subst hremoval
      simp only [List.filterMap_append, List.filterMap_cons, Effect.sent?, hreported _ h]
      split_ifs <;> simp
  | removing _ hends | closed _ hends => cases hends <;> simp
  | discarded | tornDown | responded | responseRetried | installed | refreshSent | tearingDown
  | refreshed | biddingSent | biddingTaken | removalRetried | removed => simp

/-- An initiator learns that the path is set up from a RESPONSE that reports success. -/
theorem confirmed_of_transits (ht : Transits d s evt s' effects) (h : s'.IsConfirmed) :
    s.IsConfirmed ∨ ∃ e, evt = .msg e ∧ e.ntlpMsg.reportsSuccess = true := by
  rcases h with ⟨hclose, hpending⟩
  cases ht with
  | @responded e _ r _ _ hr hsuccess =>
      refine Or.inr ⟨e, rfl, ?_⟩
      rw [← MsgEvent.ntlpMsg_of_ofKind? (MsgEvent.of_anslpResponse? hr).1, NtlpMsg.reportsSuccess,
        r.msg_eq, Option.any_some, AnslpMsg.isSuccessResponse, r.kind_eq, hsuccess]
      rfl
  | discarded | createdUntold | createRetried | responseRetried | refreshSent | refreshRetried
  | tearingDown | refreshed | biddingSent | biddingTaken | removalRetried =>
      exact Or.inl ⟨hclose, hpending⟩
  | created => exact absurd rfl hpending
  | installed hstate =>
      refine Or.inl ?_
      rw [IsConfirmed, hstate]
      simp
  | removing hstate =>
      refine Or.inl ?_
      rw [IsConfirmed, hstate]
      simp
  | failed | tornDown | uninstalled | closed | removed => exact absurd rfl hclose

end NiSession

namespace NfSession

variable {α : Type} {conf : AnslpConfig} {d : Dispatcher α} {s s' : NfSession α}
  {evt : Event α} {effects : List (Effect α)}

/-- Setting a session up leaves it waiting, or closed, and reports no success. -/
theorem SetUp.silent {e : MsgEvent α} {c : KindMsg .create α} (hproper : IsProper d (.msg e))
    (h : SetUp conf d s c s' effects) :
    (s'.state ≠ .pendingInstalling ∧ s'.state ≠ .auctioning) ∧
      ∀ m ∈ effects.filterMap Effect.sent?, m.reportsSuccess = false := by
  cases h with
  | notPathcoupled | checking | passed => simp
  | refused _ hexp =>
      simp [NtlpMsg.reportsSuccess_createErrorResponse _ (hproper.failure _ _ _ hexp)]

/-- A forwarder installs its rule when a RESPONSE reports success. -/
theorem installing_of_transits (hproper : IsProper d evt)
    (ht : Transits conf d s evt s' effects) (h : s'.state = .pendingInstalling) :
    s.state = .pendingInstalling ∨ ∃ e, evt = .msg e ∧ e.ntlpMsg.reportsSuccess = true := by
  cases ht with
  | @responded e _ r _ _ hr hsuccess =>
      refine Or.inr ⟨e, rfl, ?_⟩
      rw [← MsgEvent.ntlpMsg_of_ofKind? (MsgEvent.of_anslpResponse? hr).1, NtlpMsg.reportsSuccess,
        r.msg_eq, Option.any_some, AnslpMsg.isSuccessResponse, r.kind_eq, hsuccess]
      rfl
  | created _ _ _ _ hsetUp => exact absurd h (hsetUp.silent hproper).1.1
  | replaced _ _ hsetUp => exact absurd h (hsetUp.silent hproper).1.1
  | discarded | createRejected | createWithoutLifetime | pendingRejected | repeated
  | refreshRejected | refreshed | responsePassed | biddingTaken | biddingPassed => exact Or.inl h
  | abandoned | givenUp | checked | refused | installed | installFailed | removing | closed
  | removalTimedOut | removed => cases h

/-- A forwarder enters AUCTIONING when its rule is installed. -/
theorem up_of_transits (hproper : IsProper d evt) (ht : Transits conf d s evt s' effects)
    (h : s'.state = .auctioning) :
    s.state = .auctioning ∨ s.state = .pendingInstalling := by
  cases ht with
  | installed hstate => exact Or.inr hstate
  | created _ _ _ _ hsetUp => exact absurd h (hsetUp.silent hproper).1.2
  | replaced _ _ hsetUp => exact absurd h (hsetUp.silent hproper).1.2
  | discarded | createRejected | createWithoutLifetime | pendingRejected | repeated
  | refreshRejected | refreshed | responsePassed | biddingTaken | biddingPassed => exact Or.inl h
  | abandoned | givenUp | checked | responded | refused | installFailed | removing | closed
  | removalTimedOut | removed => cases h

/-- A forwarder reports success only when it is up. -/
theorem silent_of_down (hproper : IsProper d evt) (hstate : s.state ≠ .auctioning)
    (ht : Transits conf d s evt s' effects) (hstate' : s'.state ≠ .auctioning) :
    ∀ m ∈ effects.filterMap Effect.sent?, m.reportsSuccess = false := by
  cases ht with
  | discarded | createWithoutLifetime | pendingRejected | abandoned | givenUp | checked
  | responded | biddingTaken | biddingPassed | removalTimedOut | removed => simp
  | createRejected _ _ hcheck =>
      rcases checkRequest_eq_error_iff.mp hcheck with ⟨_, _, rfl⟩
      simp
  | created _ _ _ _ hsetUp => exact (hsetUp.silent hproper).2
  | replaced _ _ hsetUp => exact (hsetUp.silent hproper).2
  | repeated _ _ hpassedOn =>
      subst hpassedOn
      split_ifs <;> simp
  | refused _ _ _ hfailure => simp [hfailure]
  | installed => exact absurd rfl hstate'
  | installFailed _ _ _ _ hremoval =>
      subst hremoval
      split_ifs <;> simp [or_imp, forall_and]
  | refreshRejected hs | refreshed hs | responsePassed hs | removing hs | closed hs =>
      exact absurd hs hstate

end NfSession

/-! ## Positions on the path -/

namespace Place

variable {n : Nat}

/-- How many links a node is from the initiator. -/
def position : Place n → Nat
  | ni => 0
  | nf i => i + 1
  | nr => n + 1

theorem position_le_downstream (p : Place n) : p.position ≤ p.downstream.position := by
  cases p with
  | ni => exact Nat.zero_le _
  | nf i =>
      have hi := i.isLt
      by_cases h : i.val + 1 < n
      · simp [downstream, position, h]
      · simp only [downstream, position, h, dite_false]
        omega
  | nr => exact le_rfl

theorem position_le_upstream (p : Place n) : p.position ≤ p.upstream.position + 1 := by
  cases p with
  | ni => exact Nat.zero_le _
  | nf i =>
      by_cases h : i.val = 0
      · simp [upstream, position, h]
      · simp only [upstream, position, h, if_false]
        omega
  | nr =>
      by_cases h : 0 < n
      · simp only [upstream, position, h, dite_true]
        omega
      · simp only [upstream, position, h, dite_false]
        omega

/-- A message goes at most one link towards the initiator. -/
theorem position_le_hop {α : Type} (p : Place n) (m : NtlpMsg α) :
    p.position ≤ (p.hop m).position + 1 := by
  unfold hop
  split_ifs
  · exact p.position_le_downstream.trans (Nat.le_succ _)
  · exact p.position_le_upstream

end Place

/-! ## All runs -/

namespace Chain

variable {α : Type} {n : Nat} {conf : Place n → AnslpConfig} {sid : SessionId} {c : Chain α n}
  {trace : List (PathStep α n)} {x : PathStep α n}

/-- A forwarder or the responder is up; the initiator knows that the path is. -/
def IsUp (c : Chain α n) : Place n → Prop
  | .ni => c.ni.IsConfirmed
  | .nf i => (c.nfs i).state = .auctioning
  | .nr => c.nr.state = .auctioning

/-- A node was up after some step. -/
def WasUp (trace : List (PathStep α n)) (p : Place n) : Prop :=
  ∃ x ∈ trace, x.post.IsUp p

/-- All nodes from a position on were up. -/
def WereUpFrom (trace : List (PathStep α n)) (k : Nat) : Prop :=
  ∀ p : Place n, k ≤ p.position → WasUp trace p

theorem WasUp.later {p : Place n} (h : WasUp trace p) (later : List (PathStep α n)) :
    WasUp (trace ++ later) p := by
  rcases h with ⟨x, hx, hup⟩
  exact ⟨x, List.mem_append_left _ hx, hup⟩

theorem wasUp_last {p : Place n} (h : x.post.IsUp p) : WasUp (trace ++ [x]) p :=
  ⟨x, List.mem_append_right _ (List.mem_singleton_self x), h⟩

theorem WereUpFrom.later {k : Nat} (h : WereUpFrom trace k) (later : List (PathStep α n)) :
    WereUpFrom (trace ++ later) k :=
  fun p hp => (h p hp).later later

theorem WereUpFrom.mono {k l : Nat} (h : WereUpFrom trace k) (hkl : k ≤ l) :
    WereUpFrom trace l :=
  fun p hp => h p (hkl.trans hp)

/-- With a node that was up, those from it on were. -/
theorem WereUpFrom.of_wasUp {p : Place n} (h : WereUpFrom trace (p.position + 1))
    (hp : WasUp trace p) : WereUpFrom trace p.position := by
  intro q hq
  rcases Nat.eq_or_lt_of_le hq with heq | hlt
  · have hpq : q = p := by
      cases p with
      | ni =>
          cases q with
          | ni => rfl
          | nf j => simp [Place.position] at heq
          | nr => simp [Place.position] at heq
      | nf i =>
          cases q with
          | ni => simp [Place.position] at heq
          | nf j =>
              simp only [Place.position, Nat.add_right_cancel_iff] at heq
              rw [Fin.ext heq]
          | nr =>
              have hi := i.isLt
              simp only [Place.position] at heq
              omega
      | nr =>
          cases q with
          | ni => simp [Place.position] at heq
          | nf j =>
              have hj := j.isLt
              simp only [Place.position] at heq
              omega
          | nr => rfl
    rw [hpq]
    exact hp
  · exact h q hlt

/-- What the nodes know of the others: one that is up, or that installs its rule, knows that
those beyond it were up, and so does one that receives a report of success. -/
def upKnowledge (α : Type) (n : Nat) : Knowledge α n where
  ni trace s := s.IsConfirmed → WereUpFrom trace 1
  nf trace i s := (s.state = .pendingInstalling → WereUpFrom trace (i + 2)) ∧
    (s.state = .auctioning → WereUpFrom trace (i + 1))
  nr trace s := s.state = .auctioning → WereUpFrom trace (n + 1)
  mail trace p m := m.reportsSuccess = true → WereUpFrom trace (p.position + 1)
  effect _ _ _ := True

/-- A call of an initiator keeps what the nodes know. -/
theorem leaves_ni {s : NiSession α} (hs : (upKnowledge α n).ni trace s)
    (hcalls : (upKnowledge α n).Calls trace x .ni Chain.ni
      (s.processEvent x.input.d x.input.evt)) :
    (upKnowledge α n).Leaves (trace ++ [x]) .ni ((upKnowledge α n).ni (trace ++ [x]))
      (s.processEvent x.input.d x.input.evt) where
  next := by
    intro t effects hnext hconfirmed
    have ht := NiSession.transits_of_processEvent hnext
    rcases NiSession.confirmed_of_transits ht hconfirmed with hold | ⟨e, he, hsuccess⟩
    · exact (hs hold).later [x]
    · exact (hcalls.arrives e he hsuccess).later [x]
  sent := by
    intro m hm hsuccess
    exfalso
    cases ho : s.processEvent x.input.d x.input.evt with
    | next t effects =>
        rw [ho] at hm
        rw [NiSession.silent (NiSession.transits_of_processEvent ho) m hm] at hsuccess
        cases hsuccess
    | thrown exp t effects =>
        rw [ho] at hm
        have hthrows : ∀ m ∈ effects.filterMap Effect.sent?, False :=
          NiSession.throwsOnly_processEvent (P := fun _ => False) exp t effects ho
        exact hthrows m hm
    | undefined f =>
        rw [ho] at hm
        cases hm
  effects := fun _ _ => trivial

/-- A forwarder that is up, or has just come up, reports success to nodes that are at most one
link nearer to the initiator. -/
theorem leaves_nf {i : Fin n} {s : NfSession α} (hs : (upKnowledge α n).nf trace i s)
    (hcalls : (upKnowledge α n).Calls trace x (.nf i) (fun c => c.nfs i)
      (s.processEvent (conf (.nf i)) x.input.d x.input.evt)) :
    (upKnowledge α n).Leaves (trace ++ [x]) (.nf i) ((upKnowledge α n).nf (trace ++ [x]) i)
      (s.processEvent (conf (.nf i)) x.input.d x.input.evt) := by
  have hup : ∀ t effects, s.processEvent (conf (.nf i)) x.input.d x.input.evt = .next t effects →
      t.state = .auctioning → WereUpFrom (trace ++ [x]) (i + 1) := by
    intro t effects hnext hstate
    have ht := NfSession.transits_of_processEvent hnext
    rcases NfSession.up_of_transits hcalls.proper ht hstate with hold | hinstalling
    · exact (hs.2 hold).later [x]
    · have hbeyond := (hs.1 hinstalling).later [x]
      have hself : WasUp (trace ++ [x]) (.nf i) :=
        wasUp_last (by rw [IsUp, hcalls.post t effects hnext]; exact hstate)
      exact WereUpFrom.of_wasUp (p := .nf i) hbeyond hself
  refine ⟨fun t effects hnext => ⟨fun hstate => ?_, hup t effects hnext⟩, ?_, fun _ _ => trivial⟩
  · have ht := NfSession.transits_of_processEvent hnext
    rcases NfSession.installing_of_transits hcalls.proper ht hstate with hold | ⟨e, he, hsuccess⟩
    · exact (hs.1 hold).later [x]
    · exact (hcalls.arrives e he hsuccess).later [x]
  · intro m hm hsuccess
    have hfrom : WereUpFrom (trace ++ [x]) (i + 1) := by
      by_cases hstate : s.state = .auctioning
      · exact (hs.2 hstate).later [x]
      · cases ho : s.processEvent (conf (.nf i)) x.input.d x.input.evt with
        | next t effects =>
            by_cases hstate' : t.state = .auctioning
            · exact hup t effects ho hstate'
            · rw [ho] at hm
              rw [NfSession.silent_of_down hcalls.proper hstate
                (NfSession.transits_of_processEvent ho) hstate' m hm] at hsuccess
              cases hsuccess
        | thrown exp t effects =>
            have hended := NfSession.ended_processEvent (conf (.nf i)) x.input.d s x.input.evt
            rw [ho] at hended hm
            cases hended with
            | thrown hthrows =>
                rw [Outcome.sent, Outcome.effects, hthrows.sent_eq_nil hstate] at hm
                cases hm
        | undefined f =>
            rw [ho] at hm
            cases hm
    exact hfrom.mono (Place.position_le_hop (.nf i) m)

/-- A responder that is up, or has just come up, reports success to the node before it. -/
theorem leaves_nr {s : NrSession α} (hs : (upKnowledge α n).nr trace s)
    (hcalls : (upKnowledge α n).Calls trace x .nr Chain.nr
      (s.processEvent (conf .nr) x.input.d x.input.evt)) :
    (upKnowledge α n).Leaves (trace ++ [x]) .nr ((upKnowledge α n).nr (trace ++ [x]))
      (s.processEvent (conf .nr) x.input.d x.input.evt) := by
  have hlast : ∀ later : List (PathStep α n), WasUp later .nr → WereUpFrom later (n + 1) := by
    intro later hself
    refine WereUpFrom.of_wasUp (p := .nr) (fun q hq => ?_) hself
    have hle : q.position ≤ n + 1 := by
      cases q with
      | ni => exact Nat.zero_le _
      | nf j => exact Nat.succ_le_succ j.isLt.le
      | nr => exact le_rfl
    have hbeyond : n + 1 + 1 ≤ q.position := hq
    omega
  have hup : ∀ t effects, s.processEvent (conf .nr) x.input.d x.input.evt = .next t effects →
      t.state = .auctioning → WereUpFrom (trace ++ [x]) (n + 1) := by
    intro t effects hnext hstate
    exact hlast _ (wasUp_last (by rw [IsUp, hcalls.post t effects hnext]; exact hstate))
  refine ⟨hup, ?_, fun _ _ => trivial⟩
  intro m hm hsuccess
  have hfrom : WereUpFrom (trace ++ [x]) (n + 1) := by
    by_cases hstate : s.state = .auctioning
    · exact (hs hstate).later [x]
    · cases ho : s.processEvent (conf .nr) x.input.d x.input.evt with
      | next t effects =>
          by_cases hstate' : t.state = .auctioning
          · exact hup t effects ho hstate'
          · rw [ho] at hm
            rw [NrSession.silent hstate (NrSession.transits_of_processEvent ho) hstate' m hm]
              at hsuccess
            cases hsuccess
      | thrown exp t effects =>
          have hended := NrSession.ended_processEvent (conf .nr) x.input.d s x.input.evt
          rw [ho] at hended hm
          cases hended with
          | thrown _ _ hsent =>
              rw [Outcome.sent, Outcome.effects, hsent hstate] at hm
              cases hm
      | undefined f =>
          rw [ho] at hm
          cases hm
  exact hfrom.mono (Place.position_le_hop .nr m)

theorem upKnowledge_kept (α : Type) (n : Nat) (conf : Place n → AnslpConfig) :
    (upKnowledge α n).Kept conf where
  later_ni := fun _ x _ h hs => (h hs).later [x]
  later_nf := fun _ x _ _ h => ⟨fun hs => (h.1 hs).later [x], fun hs => (h.2 hs).later [x]⟩
  later_nr := fun _ x _ h hs => (h hs).later [x]
  later_mail := fun _ x _ _ h hm => (h hm).later [x]
  later_effect := fun _ _ _ _ h => h
  new_ni := fun _ _ _ h => absurd rfl h.1
  new_nf := fun _ _ _ => ⟨(fun h => by cases h), (fun h => by cases h)⟩
  new_nr := fun _ _ _ h => (by cases h)
  answer := fun _ _ _ _ => trivial
  step_ni := fun _ _ _ hs _ => leaves_ni hs
  step_nf := fun _ _ _ _ hs _ => leaves_nf hs
  step_nr := fun _ _ _ hs _ => leaves_nr hs

/-- A node that is up knows that those from it on were. -/
theorem wereUpFrom_of_isUp (hrun : PathRun conf sid trace c) {p : Place n} (h : c.IsUp p) :
    WereUpFrom trace (max 1 p.position) := by
  have hholds := Knowledge.holds_of_run (upKnowledge_kept α n conf) hrun
  cases p with
  | ni => exact hholds.ni h
  | nf i =>
      apply ((hholds.nf i).2 h).mono
      exact le_max_right _ _
  | nr =>
      apply (hholds.nr h).mono
      exact le_max_right _ _

/-- In every run, with any number of forwarders and with messages that are lost, delayed or
delivered more than once, the nodes come up from the responder on: a node is up, or the
initiator knows that the path is, only after every node beyond it was up. -/
theorem wasUp_of_beyond (hrun : PathRun conf sid trace c) {p q : Place n}
    (hpq : p.position < q.position) (hp : WasUp trace p) : WasUp trace q := by
  rcases hp with ⟨x, hx, hup⟩
  rcases hrun.upTo hx with ⟨before, later, rfl, hbefore⟩
  have hfrom := wereUpFrom_of_isUp hbefore hup
  exact (hfrom q (max_le (Nat.one_le_of_lt hpq) hpq.le)).later later

end Chain

/-! ### A path that is set up -/

namespace ConfirmedPath

open Sample LostResponse

/-- The RESPONSE to the CREATE arrives. -/
def response : MsgEvent RawIpap :=
  ⟨create.ntlpMsg.createSuccessResponse 30, true⟩

theorem isProper_response : IsProper surroundings (.msg response) where
  decoded := by
    rintro e a ⟨⟩ ha
    cases ha
    exact (create.ntlpMsg.contents_successBody 30).isDecoded (Nat.two_pow_pos 30)
  create := by
    rintro e c ⟨⟩ hc
    cases hc
  failure := nofun
  newKey := nofun

/-- A responder answers at once, and the initiator knows it. -/
theorem pathRun : ∃ (trace : List (Chain.PathStep RawIpap 0)) (c : Chain RawIpap 0),
    Chain.PathRun confs 1 trace c ∧ Chain.WasUp trace .ni := by
  have hsent := Transition.Run.nil.snoc
    (rfl : Chain.system confs 1 (.start confs 1) (move .ni (.apiCreate request)) = (_, some sent))
  have hanswered := hsent.snoc
    (rfl : Chain.system confs 1 sent (move .nr (.msg arrival)) = (_, some answered))
  have hconfirmed := hanswered.snoc
    (rfl : Chain.system confs 1 answered (move .ni (.msg response)) = (_, some _))
  refine ⟨_, _, ⟨hconfirmed, ?_, ?_⟩, Chain.wasUp_last ⟨by decide, by decide⟩⟩
  · intro x hx e he
    simp only [List.nil_append, List.cons_append, List.mem_cons, List.not_mem_nil,
      or_false] at hx
    rcases hx with rfl | rfl | rfl
    · cases he
    · cases he
      exact List.mem_cons_self
    · cases he
      exact List.mem_cons_of_mem _ List.mem_cons_self
  · intro x hx
    simp only [List.nil_append, List.cons_append, List.mem_cons, List.not_mem_nil,
      or_false] at hx
    rcases hx with rfl | rfl | rfl
    · exact isProper_surroundings (fun _ h => by cases h) fun _ h => by cases h
    · exact IdleResponder.isProper_arrival
    · exact isProper_response

/-- The responder was up then. -/
theorem wasUp_responder : ∃ (trace : List (Chain.PathStep RawIpap 0)) (c : Chain RawIpap 0),
    Chain.PathRun confs 1 trace c ∧ Chain.WasUp trace .ni ∧ Chain.WasUp trace .nr := by
  rcases pathRun with ⟨trace, c, hrun, hni⟩
  exact ⟨trace, c, hrun, hni, Chain.wasUp_of_beyond (p := .ni) hrun Nat.one_pos hni⟩

end ConfirmedPath
end Anslp
