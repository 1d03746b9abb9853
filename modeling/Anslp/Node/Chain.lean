import Anslp.Session.Lifetime
import Anslp.Session.Reporting
import Anslp.Session.ResponseTimer
import Mathlib.Logic.Function.Basic

/-!
# The nodes of a path

The sessions with one identifier on an initiator, any number of forwarders and a
responder, with the messages between them.  A message that was sent may be
delivered any number of times, after any delay, or never: the mail keeps all that
was sent, and a delivery takes nothing from it.

A session that has ended is replaced by a new one when an event arrives that starts
one; any other event is discarded then.  A session whose handler threw is aborted.

Main results:

- Theorem {lit}`NrSession.Answered.transits`: what the session of a responder keeps of the
  request it answered last.
- Theorem {lit}`Chain.tracks_of_run`: what the nodes of a path keep of the requests before.
- Theorem {lit}`Chain.retransmits_of_run`: what the nodes do with a request that is sent
  again.

Current gaps:

- There is one session only; {lit}`Network` puts many of them on each node.
-/

namespace Anslp

/-! ## The path -/

/-- The nodes of a path with {lit}`n` forwarders. -/
inductive Place (n : Nat)
  | ni
  | nf (i : Fin n)
  | nr
deriving DecidableEq

namespace Place

variable {n : Nat}

/-- The next node towards the responder. -/
def downstream : Place n → Place n
  | ni => if h : 0 < n then nf ⟨0, h⟩ else nr
  | nf i => if h : i.val + 1 < n then nf ⟨i.val + 1, h⟩ else nr
  | nr => nr

/-- The next node towards the initiator. -/
def upstream : Place n → Place n
  | ni => ni
  | nf i => if i.val = 0 then ni else nf ⟨i.val - 1, (Nat.sub_le _ _).trans_lt i.isLt⟩
  | nr => if h : 0 < n then nf ⟨n - 1, Nat.sub_lt h Nat.one_pos⟩ else ni

/-- The node that a message sent from here is for. -/
def hop {α : Type} (p : Place n) (m : NtlpMsg α) : Place n :=
  if m.routingInfo.getDownstream then p.downstream else p.upstream

end Place

/-- Whether an event is handed to the session it is for: a query for routing state is
answered without it, and a request to create a session is for a new one. -/
def Event.forSession {α : Type} : Event α → Bool
  | .routingStateCheck _ | .apiCreate _ => false
  | _ => true

/-- The sessions on the nodes of a path, and all messages sent so far with the nodes they
are for. -/
structure Chain (α : Type) (n : Nat) where
  ni : NiSession α
  nfs : Fin n → NfSession α
  nr : NrSession α
  mail : List (Place n × NtlpMsg α)

/-- An event at one node. -/
structure Move (α : Type) (n : Nat) where
  place : Place n
  d : Dispatcher α
  random : UInt32
  evt : Event α

namespace Chain

variable {α : Type} {n : Nat}

/-- No session has begun. -/
def start (conf : Place n → AnslpConfig) (sid : SessionId) : Chain α n where
  ni := .new (conf .ni) sid 0
  nfs := fun _ => .new sid
  nr := .new (conf .nr) sid 0
  mail := []

/-- Whether an event starts a session. -/
def starts : Place n → Event α → Bool
  | .ni, .apiCreate _ => true
  | .nf _, .msg e | .nr, .msg e => (e.ofKind? .create).isSome
  | _, _ => false

/-- The session that processes an event: the one there is, or in place of one that is final a
new one, if the event starts it. -/
def live {σ : Type} (isFinal : σ → Bool) (fresh s : σ) (p : Place n) (evt : Event α) :
    Option σ :=
  if isFinal s then if starts p evt then some fresh else none
  else if evt.forSession then some s else none

/-- The session that is left after a call: a new one in place of one that is aborted. -/
def left? {σ : Type} (fresh : σ) : Outcome σ α → Option σ
  | .next s _ => some s
  | .thrown _ _ _ => some fresh
  | .undefined _ => none

/-- The messages of a call, on their way. -/
def post {σ : Type} (p : Place n) (o : Outcome σ α) : List (Place n × NtlpMsg α) :=
  o.sent.map fun m => (p.hop m, m)

/-- A session processes an event and is put back; without a session the event is
discarded. -/
def call {σ : Type} (c : Chain α n) (p : Place n) (isFinal : σ → Bool) (fresh s : σ)
    (evt : Event α) (process : σ → Outcome σ α) (put : σ → Chain α n) :
    List (Effect α) × Option (Chain α n) :=
  match live isFinal fresh s p evt with
  | none => ([], some c)
  | some s =>
      let o := process s
      (o.effects, (left? fresh o).map fun t => { put t with mail := c.mail ++ post p o })

/-- The initiator processes an event. -/
def stepNi (conf : Place n → AnslpConfig) (sid : SessionId) (c : Chain α n) (d : Dispatcher α)
    (random : UInt32) (evt : Event α) : List (Effect α) × Option (Chain α n) :=
  c.call .ni NiSession.isFinal (.new (conf .ni) sid random) c.ni evt
    (fun s => s.processEvent d evt) fun s => { c with ni := s }

/-- A forwarder processes an event. -/
def stepNf (conf : Place n → AnslpConfig) (sid : SessionId) (c : Chain α n) (i : Fin n)
    (d : Dispatcher α) (evt : Event α) : List (Effect α) × Option (Chain α n) :=
  c.call (.nf i) NfSession.isFinal (.new sid) (c.nfs i) evt
    (fun s => s.processEvent (conf (.nf i)) d evt) fun s =>
      { c with nfs := Function.update c.nfs i s }

/-- The responder processes an event. -/
def stepNr (conf : Place n → AnslpConfig) (sid : SessionId) (c : Chain α n) (d : Dispatcher α)
    (random : UInt32) (evt : Event α) : List (Effect α) × Option (Chain α n) :=
  c.call .nr NrSession.isFinal (.new (conf .nr) sid random) c.nr evt
    (fun s => s.processEvent (conf .nr) d evt) fun s => { c with nr := s }

/-- The path as a transition system: one event at one node after the other.  Each node has its
own configuration. -/
def system (conf : Place n → AnslpConfig) (sid : SessionId) :
    Transition.System (Chain α n) (Move α n) (List (Effect α)) :=
  fun c move =>
    match move.evt with
    | .routingStateCheck mri => ([.receiveAnswer sid mri], some c)
    | evt =>
        match move.place with
        | .ni => c.stepNi conf sid move.d move.random evt
        | .nf i => c.stepNf conf sid i move.d evt
        | .nr => c.stepNr conf sid move.d move.random evt

/-- A recorded step of a path. -/
abbrev PathStep (α : Type) (n : Nat) :=
  Transition.Step (Chain α n) (Move α n) (List (Effect α))

/-- A run of the path: messages are delivered only where they were sent to. -/
structure PathRun (conf : Place n → AnslpConfig) (sid : SessionId)
    (trace : List (PathStep α n)) (c : Chain α n) : Prop where
  run : Transition.Run (system conf sid) (start conf sid) trace c
  delivered : ∀ x ∈ trace, ∀ e, x.input.evt = .msg e →
    (x.input.place, e.ntlpMsg) ∈ x.pre.mail
  proper : ∀ x ∈ trace, IsProper x.input.d x.input.evt

end Chain

/-! ## Sequence numbers -/

namespace NtlpMsg

variable {α : Type}

/-- The sequence number of a message, if it has one. -/
def msn? (m : NtlpMsg α) : Option UInt32 :=
  m.msg.bind fun a => if a.hasMsgSequenceNumber then some a.getMsgSequenceNumber else none

/-- A report of success has the number of the request. -/
theorem IsReport.msn? {m : NtlpMsg α} {request : AnslpMsg α}
    {downstream installed : List (MspecObject α)}
    (h : m.IsReport request downstream installed) :
    m.msn? = some request.getMsgSequenceNumber := by
  rcases h.body with ⟨a, _, hm, hhas, hmsn, -, -⟩
  simp [NtlpMsg.msn?, hm, hhas, hmsn]

end NtlpMsg

/-- The number of a response of success, if it has one, is that of the request. -/
theorem KindMsg.eq_of_msn?_createSuccessResponse {α : Type} {kind : MsgKind}
    {c : KindMsg kind α} {lifetime k : UInt32}
    (h : (c.ntlpMsg.createSuccessResponse lifetime).msn? = some k) :
    c.body.getMsgSequenceNumber = k := by
  have hcontents := c.ntlpMsg.contents_successBody lifetime
  have hmsg : (c.ntlpMsg.createSuccessResponse lifetime).msg =
      some (c.ntlpMsg.successBody lifetime) := rfl
  simp only [NtlpMsg.msn?, hmsg, Option.bind_some] at h
  by_cases hhas : c.body.hasMsgSequenceNumber
  · have hmsn : (c.ntlpMsg.successBody lifetime).getMsgSequenceNumber =
        c.body.getMsgSequenceNumber := by
      rw [AnslpMsg.getMsgSequenceNumber, hcontents.getBody]
      simp [Function.update, AnslpMsg.responseBodies, c.msg_eq, hhas]
    split_ifs at h
    rw [← hmsn]
    exact Option.some.inj h
  · have hnone : (c.ntlpMsg.successBody lifetime).hasMsgSequenceNumber = false := by
      rw [AnslpMsg.hasMsgSequenceNumber, hcontents.getBody]
      simp [Function.update, AnslpMsg.responseBodies, c.msg_eq, hhas]
    rw [hnone] at h
    cases h

namespace MsgEvent

variable {α : Type}

/-- The message is a CREATE or a REFRESH with this sequence number. -/
inductive IsRequest (e : MsgEvent α) (k : UInt32) : Prop
  | create {c : KindMsg .create α} (hc : e.ofKind? .create = some c)
      (hmsn : c.body.getMsgSequenceNumber = k) : IsRequest e k
  | refresh {c : KindMsg .refresh α} (hc : e.ofKind? .refresh = some c)
      (hmsn : c.body.getMsgSequenceNumber = k) : IsRequest e k

/-- A call that sends nothing for a message but, at most, that it is not authorized. -/
def PassesNothing (e : MsgEvent α) (sent : List (NtlpMsg α)) : Prop :=
  sent = [] ∨ sent = [e.ntlpMsg.createErrorResponse Session.authorizationError]

end MsgEvent

/-- A call that leaves the session as it was and answers, at most, that the message is not
authorized. -/
def Outcome.Discards {σ α : Type} (o : Outcome σ α) (s : σ) (e : MsgEvent α) : Prop :=
  ∃ effects, o = .next s effects ∧ e.PassesNothing (effects.filterMap Effect.sent?)

/-! ## The responder -/

namespace NrSession

open Session

variable {α : Type} {conf : AnslpConfig} {d : Dispatcher α} {s s' : NrSession α}
  {evt : Event α} {effects : List (Effect α)} {k : Option UInt32} {n : UInt32}

/-- The sequence number of the request that was answered last with success, after one more
call.  With the session it is forgotten. -/
def answeredAfter (k : Option UInt32) (s' : NrSession α) (sent : List (NtlpMsg α)) :
    Option UInt32 :=
  if s'.state = .close then none
  else
    match (sent.filter NtlpMsg.reportsSuccess).getLast? with
    | none => k
    | some m => m.msn?

theorem answeredAfter_of_close {sent : List (NtlpMsg α)} (h : s'.state = .close) :
    answeredAfter k s' sent = none :=
  if_pos h

theorem answeredAfter_of_silent {sent : List (NtlpMsg α)} (hopen : s'.state ≠ .close)
    (h : ∀ m ∈ sent, m.reportsSuccess = false) : answeredAfter k s' sent = k := by
  have hnone : sent.filter NtlpMsg.reportsSuccess = [] := by
    rw [List.filter_eq_nil_iff]
    intro m hm
    simp [h m hm]
  rw [answeredAfter, if_neg hopen, hnone]
  rfl

theorem answeredAfter_of_report {sent : List (NtlpMsg α)} {m : NtlpMsg α}
    (hopen : s'.state ≠ .close) (h : sent.filter NtlpMsg.reportsSuccess = [m]) :
    answeredAfter k s' sent = m.msn? := by
  rw [answeredAfter, if_neg hopen, h]
  rfl

/-- What a responder keeps of the request that it answered last: while it prepares the
answer to a CREATE, this CREATE; then the number, until it ends the session. -/
structure Answered (s : NrSession α) (k : Option UInt32) : Prop where
  preparing : s.state = .pending ∨ s.state = .pendingInstalling →
    s.Establishing ∧ ∃ c, s.createMessage = some c ∧ c.body.getMsgSequenceNumber = s.msn
  latest : ∀ n, k = some n → s.state = .auctioning ∧ s.msn = n ∨ s.state = .pendingTeardown

theorem Answered.of_close (h : s.state = .close) : s.Answered none where
  preparing := by
    rintro (hs | hs) <;> rw [h] at hs <;> cases hs
  latest := nofun

/-- Nothing was answered yet while the answer is prepared. -/
theorem Answered.eq_none (h : s.Answered k)
    (hstate : s.state ≠ .auctioning ∧ s.state ≠ .pendingTeardown) : k = none := by
  cases k with
  | none => rfl
  | some n =>
    rcases h.latest n rfl with hup | hdown
    · exact absurd hup.1 hstate.1
    · exact absurd hdown hstate.2

/-- In AUCTIONING and after it only the number of the session counts. -/
theorem Answered.congr (h : s.Answered k) (hstate : s'.state = s.state) (hmsn : s'.msn = s.msn)
    (hup : s.state = .auctioning ∨ s.state = .pendingTeardown) : s'.Answered k where
  preparing := by
    intro hs'
    rw [hstate] at hs'
    rcases hup with hup | hup <;> rw [hup] at hs' <;> simp at hs'
  latest := by
    rw [hstate, hmsn]
    exact h.latest

/-- A CREATE that is prepared has the number of the session. -/
theorem Answered.numbered (h : s.Answered k) (ht : Transits conf d s evt s' effects)
    (hstate' : s'.state = .pending ∨ s'.state = .pendingInstalling) :
    ∃ c, s'.createMessage = some c ∧ c.body.getMsgSequenceNumber = s'.msn := by
  cases ht with
  | discarded | refreshRejected | biddingPassed => exact (h.preparing hstate').2
  | createRejected hstate | createWithoutLifetime hstate =>
      rcases hstate' with hs | hs <;> cases hstate.symm.trans hs
  | started => exact ⟨_, rfl, rfl⟩
  | checkRetried hstate | checked hstate => exact (h.preparing (Or.inl hstate)).2
  | installRetried hstate => exact (h.preparing (Or.inr hstate)).2
  | refreshed hstate | removalRetried hstate =>
      rcases hstate' with hs | hs <;> cases hstate.symm.trans hs
  | biddingSent hstate =>
      rcases hstate with hup | hup <;> rcases hstate' with hs | hs <;>
        cases hup.symm.trans hs
  | startedIdle | startFailed | givenUp | installed | installFailed | removing | closed
  | removalGivenUp | removed => rcases hstate' with hs | hs <;> cases hs

/-- The CREATE that is answered when AUCTIONING is entered has the number of the session. -/
theorem Answered.msn_of_up (h : s.Answered k) (hstate : s.state ≠ .auctioning)
    (ht : Transits conf d s evt s' effects) (hup : s'.state = .auctioning)
    {c : KindMsg .create α} (hc : s'.createMessage = some c) :
    s'.msn = c.body.getMsgSequenceNumber := by
  cases ht with
  | startedIdle =>
      cases hc
      rfl
  | installed hpending =>
      rcases (h.preparing (Or.inr hpending)).2 with ⟨c', hc', hmsn⟩
      cases hc'.symm.trans hc
      exact hmsn.symm
  | discarded | createRejected | createWithoutLifetime | checkRetried | installRetried
  | refreshRejected | refreshed | biddingPassed | biddingSent | removalRetried =>
      exact absurd hup hstate
  | started | startFailed | givenUp | checked | installFailed | removing | closed
  | removalGivenUp | removed => cases hup

/-- Before AUCTIONING a step keeps what is known of the request answered last. -/
theorem Answered.transits_of_down (h : s.Answered k)
    (hdown : s.state ≠ .auctioning ∧ s.state ≠ .pendingTeardown)
    (hclose : s.state = .close → s.Establishing) (hproper : IsProper d evt)
    (ht : Transits conf d s evt s' effects) (hopen : s'.state ≠ .close) :
    s'.Answered (answeredAfter k s' (effects.filterMap Effect.sent?)) := by
  have hestablishing : s.Establishing := by
    cases hs : s.state with
    | close => exact hclose hs
    | pending => exact (h.preparing (Or.inl hs)).1
    | pendingInstalling => exact (h.preparing (Or.inr hs)).1
    | auctioning => exact absurd hs hdown.1
    | pendingTeardown => exact absurd hs hdown.2
  cases h.eq_none hdown
  by_cases hup : s'.state = .auctioning
  · rcases hestablishing.reportsInstalled hproper hdown.1 ht hup with
      ⟨c, m, hc, hsent, hreports⟩
    have hmsn : m.msn? = some c.body.getMsgSequenceNumber := by
      rcases hreports with ⟨_, _, _, hreport⟩ | ⟨_, _, _, _, hreport⟩ <;> exact hreport.msn?
    rw [answeredAfter_of_report hopen hsent, hmsn]
    refine ⟨fun hs => ?_, ?_⟩
    · rw [hup] at hs
      rcases hs with hs | hs <;> cases hs
    · rintro n ⟨⟩
      exact Or.inl ⟨hup, h.msn_of_up hdown.1 ht hup hc⟩
  · rw [answeredAfter_of_silent hopen (silent hdown.1 ht hup)]
    refine ⟨fun hs => ⟨hestablishing.transits hproper hdown.1 ht hup, h.numbered ht hs⟩, ?_⟩
    rintro n ⟨⟩

/-- While the session is up, or its rule is removed, a step keeps what is known of the
request answered last. -/
theorem Answered.transits_of_up (h : s.Answered k)
    (hup : s.state = .auctioning ∨ s.state = .pendingTeardown)
    (ht : Transits conf d s evt s' effects) (hopen : s'.state ≠ .close) :
    s'.Answered (answeredAfter k s' (effects.filterMap Effect.sent?)) := by
  have hkept : s'.state = s.state → s'.msn = s.msn →
      (∀ m ∈ effects.filterMap Effect.sent?, m.reportsSuccess = false) →
      s'.Answered (answeredAfter k s' (effects.filterMap Effect.sent?)) := by
    intro hstate hmsn hsilent
    rw [answeredAfter_of_silent hopen hsilent]
    exact h.congr hstate hmsn hup
  cases ht with
  | discarded | biddingPassed => exact hkept rfl rfl (by simp)
  | removalRetried => exact hkept rfl rfl (by simp)
  | refreshRejected _ _ hcheck =>
      rcases checkRequest_eq_error_iff.mp hcheck with ⟨_, _, rfl⟩
      exact hkept rfl rfl (by simp)
  | biddingSent _ htold =>
      subst htold
      refine hkept rfl rfl ?_
      split_ifs <;> simp
  | @refreshed e c lifetime hstate =>
      refine ⟨fun hs => ?_, fun n hn => ?_⟩
      · rcases hs with hs | hs <;> cases hstate.symm.trans hs
      · refine Or.inl ⟨hstate, ?_⟩
        have hsuccess : (c.ntlpMsg.createSuccessResponse lifetime).reportsSuccess = true :=
          c.ntlpMsg.isSuccessResponse_successBody lifetime
        rw [answeredAfter_of_report hopen (m := c.ntlpMsg.createSuccessResponse lifetime)
          (by simp [hsuccess])] at hn
        exact KindMsg.eq_of_msn?_createSuccessResponse hn
  | removing =>
      refine ⟨fun hs => ?_, fun _ _ => Or.inr rfl⟩
      rcases hs with hs | hs <;> cases hs
  | createRejected hstate | createWithoutLifetime hstate | started hstate | startedIdle hstate
  | startFailed hstate | checkRetried hstate | checked hstate | installRetried hstate
  | installed hstate | installFailed hstate =>
      rcases hup with hs | hs <;> cases hstate.symm.trans hs
  | givenUp | closed | removalGivenUp | removed => exact absurd rfl hopen

/-- Every step of a responder keeps what is known of the request answered last. -/
theorem Answered.transits (h : s.Answered k) (hclose : s.state = .close → s.Establishing)
    (hproper : IsProper d evt) (ht : Transits conf d s evt s' effects) :
    s'.Answered (answeredAfter k s' (effects.filterMap Effect.sent?)) := by
  by_cases hopen : s'.state = .close
  · rw [answeredAfter_of_close hopen]
    exact .of_close hopen
  · by_cases hup : s.state = .auctioning ∨ s.state = .pendingTeardown
    · exact h.transits_of_up hup ht hopen
    · exact h.transits_of_down (not_or.mp hup) hclose hproper ht hopen

/-- A request with the number of the one answered last changes nothing. -/
theorem Answered.discards (h : s.Answered (some n)) {e : MsgEvent α} (hreq : e.IsRequest n) :
    (s.processEvent conf d (.msg e)).Discards s e := by
  rcases h.latest n rfl with ⟨hup, hmsn⟩ | hdown
  · cases hreq with
    | create hc =>
        have hrefresh : e.ofKind? .refresh = none := MsgEvent.ofKind?_eq_none_of_ne hc nofun
        have hbidding : e.ofKind? .bidding = none := MsgEvent.ofKind?_eq_none_of_ne hc nofun
        refine ⟨[], ?_, Or.inl rfl⟩
        simp only [processEvent, hup, handleStateAuctioning, hrefresh, hbidding]
    | @refresh c hc hnumber =>
        simp only [processEvent, hup, handleStateAuctioning, hc, processRefresh]
        split
        · rename_i exp hcheck
          rcases checkRequest_eq_error_iff.mp hcheck with ⟨_, _, rfl⟩
          refine ⟨_, rfl, Or.inr ?_⟩
          rw [MsgEvent.ntlpMsg_of_ofKind? hc]
          rfl
        · rw [hnumber, hmsn, isGreaterThan_self]
          exact ⟨[], rfl, Or.inl rfl⟩
  · refine ⟨[], ?_, Or.inl rfl⟩
    simp only [processEvent, hdown, handleStatePendingTeardown]

end NrSession

/-! ## The forwarders -/

namespace NfSession

open Session

variable {α : Type} {conf : AnslpConfig} {d : Dispatcher α} {s s' : NfSession α}
  {evt : Event α} {effects : List (Effect α)} {e : MsgEvent α}

/-- What a forwarder keeps of the REFRESH that it passed on last: none before AUCTIONING;
then its number, unless it ends the session. -/
structure KeepsRefresh (s : NfSession α) : Prop where
  pending : s.IsPending → s.refreshMessage = none
  latest : s.state = .auctioning → ∀ b, s.refreshMessage = some b → s.lifetime ≠ 0 →
    b.body.getMsgSequenceNumber = s.msn

theorem keepsRefresh_of_none (h : s.refreshMessage = none) : s.KeepsRefresh where
  pending := fun _ => h
  latest := by
    intro _ b hb
    rw [h] at hb
    cases hb

theorem KeepsRefresh.of_down (h : ¬ s.IsPending) (hup : s.state ≠ .auctioning) :
    s.KeepsRefresh where
  pending := fun hpending => absurd hpending h
  latest := fun hs => absurd hs hup

theorem SetUp.refreshMessage_eq {c : KindMsg .create α} (h : SetUp conf d s c s' effects) :
    s'.refreshMessage = s.refreshMessage := by
  cases h <;> rfl

/-- Every step of a forwarder keeps what is known of the REFRESH passed on last. -/
theorem KeepsRefresh.transits (h : s.KeepsRefresh)
    (hclose : s.state = .close → s.refreshMessage = none)
    (ht : Transits conf d s evt s' effects) : s'.KeepsRefresh := by
  cases ht with
  | discarded | pendingRejected | refreshRejected | biddingTaken | biddingPassed => exact h
  | createRejected hstate | createWithoutLifetime hstate =>
      exact keepsRefresh_of_none (hclose hstate)
  | created hstate _ _ _ hsetUp =>
      exact keepsRefresh_of_none (hsetUp.refreshMessage_eq.trans (hclose hstate))
  | replaced hstate _ hsetUp =>
      exact keepsRefresh_of_none (hsetUp.refreshMessage_eq.trans (h.pending hstate))
  | repeated hstate => exact keepsRefresh_of_none (h.pending hstate)
  | checked hstate => exact keepsRefresh_of_none (h.pending (Or.inl hstate))
  | responded hstate => exact keepsRefresh_of_none (h.pending (Or.inr (Or.inl hstate)))
  | installed hstate => exact keepsRefresh_of_none (h.pending (Or.inr (Or.inr hstate)))
  | responsePassed hstate =>
      exact ⟨fun hs => absurd hs (not_isPending_of_up (Or.inl hstate)), h.latest⟩
  | @refreshed e c lifetime hstate =>
      refine ⟨fun hs => absurd hs (not_isPending_of_up (Or.inl hstate)), ?_⟩
      rintro _ b ⟨⟩ hlifetime
      exact (if_pos (UInt32.pos_iff_ne_zero.mpr hlifetime)).symm
  | abandoned | givenUp | refused | installFailed | closed | removalTimedOut | removed =>
      exact .of_down (by rintro (hs | hs | hs) <;> cases hs) nofun
  | removing => exact .of_down (by rintro (hs | hs | hs) <;> cases hs) nofun

/-- In AUCTIONING a CREATE is not passed on. -/
theorem sent_of_create (hstate : s.state = .auctioning) {c : KindMsg .create α}
    (hc : e.ofKind? .create = some c) : (s.processEvent conf d (.msg e)).sent = [] := by
  have hrefresh : e.ofKind? .refresh = none := MsgEvent.ofKind?_eq_none_of_ne hc nofun
  have hbidding : e.ofKind? .bidding = none := MsgEvent.ofKind?_eq_none_of_ne hc nofun
  have hresponse : e.ofKind? .response = none := MsgEvent.ofKind?_eq_none_of_ne hc nofun
  simp only [processEvent, hstate, handleStateAuctioning, hrefresh, hbidding]
  cases s.refreshMessage with
  | none => rfl
  | some b => simp [MsgEvent.anslpResponse?, hresponse, Outcome.sent, Outcome.effects]

/-- The REFRESH that was passed on last changes nothing unless it ends the session. -/
theorem KeepsRefresh.discards (h : s.KeepsRefresh) (hstate : s.state = .auctioning)
    {b c : KindMsg .refresh α} (hb : s.refreshMessage = some b) (hlifetime : s.lifetime ≠ 0)
    (hc : e.ofKind? .refresh = some c)
    (hmsn : c.body.getMsgSequenceNumber = b.body.getMsgSequenceNumber) :
    (s.processEvent conf d (.msg e)).Discards s e := by
  simp only [processEvent, hstate, handleStateAuctioning, hc, processRefresh]
  split
  · rename_i exp hcheck
    rcases checkRequest_eq_error_iff.mp hcheck with ⟨_, _, rfl⟩
    refine ⟨_, rfl, Or.inr ?_⟩
    rw [MsgEvent.ntlpMsg_of_ofKind? hc]
    rfl
  · rw [hmsn, h.latest hstate b hb hlifetime, isGreaterThan_self]
    exact ⟨[], rfl, Or.inl rfl⟩

/-- A pending CREATE that is sent again is passed on again. -/
theorem mem_sent_of_repeated {c previous : KindMsg .create α}
    (hstate : s.state = .pending ∨ s.state = .pendingInstalling)
    (hprevious : s.createMessage = some previous) (hc : e.ofKind? .create = some c)
    (hmsn : c.body.getMsgSequenceNumber = previous.body.getMsgSequenceNumber)
    (hauthorized : d.isAuthorized e = true) :
    c.ntlpMsg.copyForForwarding ∈ (s.processEvent conf d (.msg e)).sent := by
  have hcheck : s.state ≠ .pendingCheck := by
    rcases hstate with hs | hs <;> rw [hs] <;> exact nofun
  rw [processEvent_of_repeated (isPending_of_passing hstate) hc hprevious hauthorized hmsn,
    if_neg hcheck]
  simp [Outcome.sent, Outcome.effects]

/-- The rule is to be installed when the RESPONSE to the CREATE reports success. -/
theorem install_mem_effects {c : KindMsg .create α} {r : KindMsg .response α}
    (hstate : s.state = .pending) (hc : s.createMessage = some c)
    (hr : e.anslpResponse? c = some r) (hsuccess : r.body.isSuccess = true) :
    .installAuctionRules s.rule ∈ (s.processEvent conf d (.msg e)).effects := by
  have hcreate : e.ofKind? .create = none :=
    MsgEvent.ofKind?_eq_none_of_ne (MsgEvent.of_anslpResponse? hr).1 nofun
  simp only [processEvent, hstate, handleStatePending, hcreate, hc, hr, processResponse,
    if_pos hsuccess]
  split <;> simp [Outcome.effects]

/-- The RESPONSE to the CREATE is passed back when the rule is installed. -/
theorem sent_of_installed {r : KindMsg .response α} {objects : ObjectList α}
    (hstate : s.state = .pendingInstalling) (hr : s.responseMessage = some r)
    (hcount : s.rule.getNumberMspecRequestObjects = objects.size) :
    (s.processEvent conf d (.apiInstall objects)).sent =
      [({ s with rule := s.rule.setReponseObjects d.newKey objects } :
        NfSession α).buildResponse r] := by
  simp only [processEvent, hstate, handleStatePendingInstalling, hr, processInstall,
    if_pos hcount, Outcome.sent, Outcome.effects, List.filterMap_cons, Effect.sent?,
    List.filterMap_nil]

/-- A RESPONSE to the REFRESH that was passed on last is passed back. -/
theorem mem_sent_of_answers {b : KindMsg .refresh α} {r : KindMsg .response α}
    (hstate : s.state = .auctioning) (hb : s.refreshMessage = some b)
    (hr : e.anslpResponse? b = some r) :
    r.ntlpMsg.copyForForwarding ∈ (s.processEvent conf d (.msg e)).sent := by
  rw [processEvent_of_answers hstate hb hr, processRefreshResponse]
  split_ifs
  · simp [Outcome.sent, Outcome.effects]
  · unfold removeOrClose
    split_ifs
    · split <;> simp [Outcome.after, Outcome.sent, Outcome.effects]
    · simp [Outcome.after, Outcome.sent, Outcome.effects]

end NfSession

/-! ## All runs -/

namespace Chain

variable {α : Type} {n : Nat} {conf : Place n → AnslpConfig} {sid : SessionId}
  {c c' : Chain α n}
  {d : Dispatcher α} {random : UInt32} {evt : Event α} {output : List (Effect α)}

/-- The number of the request that the responder answered last, after one more step. -/
def answeredNext (k : Option UInt32) (x : PathStep α n) : Option UInt32 :=
  if x.input.place = .nr then
    NrSession.answeredAfter k x.post.nr (x.output.filterMap Effect.sent?)
  else k

/-- The number of the request that the responder answered last with success, in the session
it has. -/
def answered (trace : List (PathStep α n)) : Option UInt32 :=
  trace.foldl answeredNext none

theorem answered_snoc (trace : List (PathStep α n)) (x : PathStep α n) :
    answered (trace ++ [x]) = answeredNext (answered trace) x :=
  List.foldl_concat ..

/-- The messages a step sends. -/
def sends (conf : Place n → AnslpConfig) (sid : SessionId) (c : Chain α n) (move : Move α n) :
    List (NtlpMsg α) :=
  (system conf sid c move).1.filterMap Effect.sent?

/-- What the responder and the forwarders keep of the requests they processed last. -/
structure Tracks (c : Chain α n) (k : Option UInt32) : Prop where
  nr : c.nr.Answered k
  nfs : ∀ i, (c.nfs i).KeepsRefresh

theorem tracks_start (conf : Place n → AnslpConfig) (sid : SessionId) :
    (start conf sid : Chain α n).Tracks none where
  nr := .of_close rfl
  nfs := fun _ => NfSession.keepsRefresh_of_none rfl

/-- After a call at a node the session is what the call has left, or new; or there was no
session for the event. -/
theorem of_call {σ : Type} {p : Place n} {isFinal : σ → Bool} {fresh s₀ : σ}
    {process : σ → Outcome σ α} {put : σ → Chain α n}
    (h : c.call p isFinal fresh s₀ evt process put = (output, some c')) :
    output = [] ∧ c' = c ∨ ∃ s t mail, live isFinal fresh s₀ p evt = some s ∧
      c' = { put t with mail := mail } ∧ (process s = .next t output ∨ t = fresh) := by
  unfold call at h
  cases hlive : live isFinal fresh s₀ p evt with
  | none =>
      rw [hlive] at h
      cases h
      exact Or.inl ⟨rfl, rfl⟩
  | some s =>
      rw [hlive] at h
      dsimp only at h
      refine Or.inr ⟨s, ?_⟩
      cases ho : process s with
      | next t effects =>
          rw [ho] at h
          cases h
          exact ⟨t, _, rfl, rfl, Or.inl rfl⟩
      | thrown exp t effects =>
          rw [ho] at h
          cases h
          exact ⟨fresh, _, rfl, rfl, Or.inr rfl⟩
      | undefined f =>
          rw [ho] at h
          cases h

/-- A new session stands for one that has ended. -/
theorem of_live {σ : Type} {P : σ → Prop} {isFinal : σ → Bool} {fresh s t : σ} {p : Place n}
    (h : live isFinal fresh s p evt = some t) (hfresh : isFinal s = true → P fresh)
    (hopen : isFinal s = false → P s) : P t := by
  unfold live at h
  split_ifs at h with hfinal
  · cases h
    exact hfresh hfinal
  · cases h
    exact hopen (Bool.eq_false_iff.mpr hfinal)

/-- An open session processes the events for it. -/
theorem live_of_not_isFinal {σ : Type} {isFinal : σ → Bool} {fresh s : σ} {p : Place n}
    (h : isFinal s = false) (hevt : evt.forSession = true) :
    live isFinal fresh s p evt = some s := by
  rw [live, h, if_neg Bool.false_ne_true, if_pos hevt]

/-- Nothing happens to the responder. -/
theorem Tracks.silent {k : Option UInt32} (h : c.Tracks k)
    (hsent : output.filterMap Effect.sent? = []) :
    c.Tracks (NrSession.answeredAfter k c.nr (output.filterMap Effect.sent?)) := by
  refine ⟨?_, h.nfs⟩
  rw [hsent]
  by_cases hopen : c.nr.state = .close
  · rw [NrSession.answeredAfter_of_close hopen]
    exact .of_close hopen
  · rw [NrSession.answeredAfter_of_silent hopen (by simp)]
    exact h.nr

/-- A step of the responder. -/
theorem Tracks.stepNr {k : Option UInt32} (h : c.Tracks k) (hproper : IsProper d evt)
    (hstep : c.stepNr conf sid d random evt = (output, some c')) :
    c'.Tracks (NrSession.answeredAfter k c'.nr (output.filterMap Effect.sent?)) := by
  rcases of_call hstep with ⟨rfl, rfl⟩ | ⟨s, t, mail, hlive, rfl, hcall⟩
  · exact h.silent rfl
  · have hanswered : s.Answered k := by
      refine of_live (P := fun s : NrSession α => s.Answered k) hlive (fun hfinal => ?_)
        fun _ => h.nr
      have hclose : c.nr.state = .close := of_decide_eq_true hfinal
      have hk : k = none := h.nr.eq_none (by rw [hclose]; exact ⟨nofun, nofun⟩)
      rw [hk]
      exact .of_close rfl
    have hfresh : s.state = .close → s.Establishing := by
      refine of_live (P := fun s : NrSession α => s.state = .close → s.Establishing) hlive
        (fun _ _ => NrSession.establishing_new (conf .nr) sid random) fun hopen hclose => ?_
      exact absurd hclose (of_decide_eq_false hopen)
    rcases hcall with hnext | rfl
    · exact ⟨hanswered.transits hfresh hproper (NrSession.transits_of_processEvent hnext), h.nfs⟩
    · refine ⟨?_, h.nfs⟩
      rw [NrSession.answeredAfter_of_close rfl]
      exact .of_close rfl

/-- A step of a forwarder. -/
theorem Tracks.stepNf {k : Option UInt32} (h : c.Tracks k) {i : Fin n}
    (hstep : c.stepNf conf sid i d evt = (output, some c')) : c'.Tracks k := by
  rcases of_call hstep with ⟨_, rfl⟩ | ⟨s, t, mail, hlive, rfl, hcall⟩
  · exact h
  · have hkeeps : s.KeepsRefresh := of_live (P := NfSession.KeepsRefresh) hlive
      (fun _ => NfSession.keepsRefresh_of_none rfl) fun _ => h.nfs i
    have hfresh : s.state = .close → s.refreshMessage = none := by
      refine of_live (P := fun s : NfSession α => s.state = .close → s.refreshMessage = none)
        hlive (fun _ _ => rfl) fun hopen hclose => ?_
      exact absurd hclose (of_decide_eq_false hopen)
    have hleft : t.KeepsRefresh := by
      rcases hcall with hnext | rfl
      · exact hkeeps.transits hfresh (NfSession.transits_of_processEvent hnext)
      · exact NfSession.keepsRefresh_of_none rfl
    refine ⟨h.nr, fun j => ?_⟩
    by_cases hj : j = i
    · subst hj
      simpa only [Function.update_self] using hleft
    · simpa only [Function.update_of_ne hj] using h.nfs j

/-- A step of the initiator. -/
theorem Tracks.stepNi {k : Option UInt32} (h : c.Tracks k)
    (hstep : c.stepNi conf sid d random evt = (output, some c')) : c'.Tracks k := by
  rcases of_call hstep with ⟨_, rfl⟩ | ⟨s, t, mail, _, rfl, _⟩
  · exact h
  · exact ⟨h.nr, h.nfs⟩

/-- In every run the nodes keep what they need to know of the requests before. -/
theorem tracks_of_run {trace : List (PathStep α n)}
    (hrun : Transition.Run (system conf sid) (start conf sid) trace c)
    (hproper : ∀ x ∈ trace, IsProper x.input.d x.input.evt) : c.Tracks (answered trace) := by
  refine hrun.trace_induction (P := fun trace c =>
    (∀ x ∈ trace, IsProper x.input.d x.input.evt) → c.Tracks (answered trace))
    (fun _ => tracks_start conf sid) ?_ hproper
  intro trace c move output c' _ ih hstep hproper
  have hc := ih fun x hx => hproper x (List.mem_append_left _ hx)
  have hlast := hproper _ (List.mem_append_right _ List.mem_cons_self)
  rw [answered_snoc, answeredNext]
  dsimp only at hlast
  unfold system at hstep
  split at hstep
  · cases hstep
    split_ifs
    · exact hc.silent rfl
    · exact hc
  · cases hplace : move.place with
    | ni =>
        rw [hplace] at hstep
        simpa using hc.stepNi hstep
    | nf i =>
        rw [hplace] at hstep
        simpa using hc.stepNf hstep
    | nr =>
        rw [hplace] at hstep
        simpa using hc.stepNr hlast hstep

/-! ## A request that is sent again -/

/-- The sessions of a path. -/
def sessions (c : Chain α n) : NiSession α × (Fin n → NfSession α) × NrSession α :=
  (c.ni, c.nfs, c.nr)

/-- A message that changes no session, and to which a node answers, at most, that it is not
authorized. -/
structure Discards (conf : Place n → AnslpConfig) (sid : SessionId) (c : Chain α n)
    (p : Place n) (d : Dispatcher α) (random : UInt32) (e : MsgEvent α) : Prop where
  sessions : (system conf sid c ⟨p, d, random, .msg e⟩).2.map Chain.sessions = some c.sessions
  sent : e.PassesNothing (c.sends conf sid ⟨p, d, random, .msg e⟩)

/-- What the nodes do with a request that is sent again, and with the RESPONSE to it: the
responder discards the request that it answered last; a forwarder passes its CREATE on again
as long as that is pending and later no CREATE, and discards the REFRESH that it passed on
last if the session goes on; and it passes the RESPONSE to a REFRESH back each time, that to
a CREATE once its rule is installed. -/
structure Retransmits (conf : Place n → AnslpConfig) (sid : SessionId) (c : Chain α n)
    (k : Option UInt32) : Prop where
  answered : ∀ number e d random, k = some number → e.IsRequest number →
    c.Discards conf sid .nr d random e
  pending : ∀ i e d random (previous b : KindMsg .create α),
    (c.nfs i).state = .pending ∨ (c.nfs i).state = .pendingInstalling →
    (c.nfs i).createMessage = some previous → e.ofKind? .create = some b →
    b.body.getMsgSequenceNumber = previous.body.getMsgSequenceNumber →
    d.isAuthorized e = true →
    b.ntlpMsg.copyForForwarding ∈ c.sends conf sid ⟨.nf i, d, random, .msg e⟩
  create : ∀ i e d random (b : KindMsg .create α), (c.nfs i).state = .auctioning →
    e.ofKind? .create = some b → c.sends conf sid ⟨.nf i, d, random, .msg e⟩ = []
  refresh : ∀ i e d random (previous b : KindMsg .refresh α),
    (c.nfs i).state = .auctioning → (c.nfs i).refreshMessage = some previous →
    (c.nfs i).lifetime ≠ 0 → e.ofKind? .refresh = some b →
    b.body.getMsgSequenceNumber = previous.body.getMsgSequenceNumber →
    c.Discards conf sid (.nf i) d random e
  response : ∀ i e d random (b : KindMsg .refresh α) (r : KindMsg .response α),
    (c.nfs i).state = .auctioning → (c.nfs i).refreshMessage = some b →
    e.anslpResponse? b = some r →
    r.ntlpMsg.copyForForwarding ∈ c.sends conf sid ⟨.nf i, d, random, .msg e⟩
  responded : ∀ i e d random (b : KindMsg .create α) (r : KindMsg .response α),
    (c.nfs i).state = .pending → (c.nfs i).createMessage = some b →
    e.anslpResponse? b = some r → r.body.isSuccess = true →
    .installAuctionRules (c.nfs i).rule ∈ (system conf sid c ⟨.nf i, d, random, .msg e⟩).1
  installed : ∀ i d random objects (r : KindMsg .response α),
    (c.nfs i).state = .pendingInstalling → (c.nfs i).responseMessage = some r →
    (c.nfs i).rule.getNumberMspecRequestObjects = objects.size →
    c.sends conf sid ⟨.nf i, d, random, .apiInstall objects⟩ =
      [({ c.nfs i with rule := (c.nfs i).rule.setReponseObjects d.newKey objects } :
        NfSession α).buildResponse r]

/-- A step of a forwarder whose session is open is a call of this session. -/
theorem system_nf {i : Fin n} (hopen : (c.nfs i).state ≠ .close) (hevt : evt.forSession = true) :
    system conf sid c ⟨.nf i, d, random, evt⟩ =
      (((c.nfs i).processEvent (conf (.nf i)) d evt).effects,
        (left? (.new sid) ((c.nfs i).processEvent (conf (.nf i)) d evt)).map fun s =>
          { c with
            nfs := Function.update c.nfs i s
            mail := c.mail ++ post (.nf i) ((c.nfs i).processEvent (conf (.nf i)) d evt) }) := by
  have hlive : live NfSession.isFinal (.new sid) (c.nfs i) (.nf i) evt = some (c.nfs i) :=
    live_of_not_isFinal (decide_eq_false hopen) hevt
  unfold system
  split
  · rename_i mri hroute
    rw [show evt = .routingStateCheck mri from hroute] at hevt
    cases hevt
  · simp only [stepNf, call, hlive]

theorem effects_nf {i : Fin n} (hopen : (c.nfs i).state ≠ .close) (hevt : evt.forSession = true) :
    (system conf sid c ⟨.nf i, d, random, evt⟩).1 =
      ((c.nfs i).processEvent (conf (.nf i)) d evt).effects := by
  rw [system_nf hopen hevt]

theorem sends_nf {i : Fin n} (hopen : (c.nfs i).state ≠ .close) (hevt : evt.forSession = true) :
    c.sends conf sid ⟨.nf i, d, random, evt⟩ =
      ((c.nfs i).processEvent (conf (.nf i)) d evt).sent := by
  rw [sends, effects_nf hopen hevt, Outcome.sent]

theorem discards_nf {i : Fin n} {e : MsgEvent α} (hopen : (c.nfs i).state ≠ .close)
    (h : ((c.nfs i).processEvent (conf (.nf i)) d (.msg e)).Discards (c.nfs i) e) :
    c.Discards conf sid (.nf i) d random e := by
  rcases h with ⟨effects, hnext, hsent⟩
  constructor
  · simp only [system_nf hopen (rfl : Event.forSession (.msg e) = true), hnext, left?,
      Option.map_some, Chain.sessions, Function.update_eq_self]
  · rw [sends_nf hopen rfl, hnext]
    exact hsent

theorem discards_nr {e : MsgEvent α} (hopen : c.nr.state ≠ .close)
    (h : (c.nr.processEvent (conf .nr) d (.msg e)).Discards c.nr e) :
    c.Discards conf sid .nr d random e := by
  have hlive : live NrSession.isFinal (.new (conf .nr) sid random) c.nr (.nr : Place n)
      (.msg e) = some c.nr := live_of_not_isFinal (decide_eq_false hopen) rfl
  rcases h with ⟨effects, hnext, hsent⟩
  constructor
  · simp only [system, stepNr, call, hlive, hnext, left?, Option.map_some, Chain.sessions]
  · simp only [sends, system, stepNr, call, hlive, hnext]
    exact hsent

/-- In every run, with any number of forwarders and with messages that are lost, delayed or
delivered more than once: what becomes of a request that is sent again. -/
theorem retransmits_of_run (conf : Place n → AnslpConfig) (sid : SessionId)
    {trace : List (PathStep α n)} (hrun : PathRun conf sid trace c) :
    c.Retransmits conf sid (answered trace) := by
  have htracks := tracks_of_run hrun.run hrun.proper
  have hup : ∀ i, (c.nfs i).state = .auctioning → (c.nfs i).state ≠ .close := by
    intro i hs
    rw [hs]
    exact nofun
  refine ⟨?_, ?_, ?_, ?_, ?_, ?_, ?_⟩
  · intro number e d random hk hreq
    have hanswered : c.nr.Answered (some number) := hk ▸ htracks.nr
    refine discards_nr ?_ (hanswered.discards hreq)
    rcases hanswered.latest number rfl with ⟨hs, _⟩ | hs <;> rw [hs] <;> exact nofun
  · intro i e d random previous b hstate hprevious hb hmsn hauthorized
    have hopen := (NfSession.isPending_of_passing hstate).ne_close
    rw [sends_nf hopen rfl]
    exact NfSession.mem_sent_of_repeated hstate hprevious hb hmsn hauthorized
  · intro i e d random b hstate hb
    rw [sends_nf (hup i hstate) rfl]
    exact NfSession.sent_of_create hstate hb
  · intro i e d random previous b hstate hprevious hlifetime hb hmsn
    exact discards_nf (hup i hstate)
      ((htracks.nfs i).discards hstate hprevious hlifetime hb hmsn)
  · intro i e d random b r hstate hb hr
    rw [sends_nf (hup i hstate) rfl]
    exact NfSession.mem_sent_of_answers hstate hb hr
  · intro i e d random b r hstate hb hr hsuccess
    rw [effects_nf (NfSession.isPending_of_passing (Or.inl hstate)).ne_close rfl]
    exact NfSession.install_mem_effects hstate hb hr hsuccess
  · intro i d random objects r hstate hr hcount
    rw [sends_nf (NfSession.isPending_of_passing (Or.inr hstate)).ne_close rfl]
    exact NfSession.sent_of_installed hstate hr hcount

/-- The number of the latest request of the initiator. -/
def latest? (c : Chain α n) : Option UInt32 :=
  match c.ni.lastRefreshMsg with
  | some b => some b.body.getMsgSequenceNumber
  | none => c.ni.lastCreateMsg.map fun b => b.body.getMsgSequenceNumber

/-- Some message sent reports success for a request. -/
def Reports (sent : List (NtlpMsg α)) (number : UInt32) : Prop :=
  ∃ m ∈ sent, m.reportsSuccess = true ∧ m.msn? = some number

/-- A request that is sent again reaches the responder, is answered again, and the RESPONSE
reaches the initiator; before it, a forwarder installs its rule. -/
structure RepairsLoss (conf : Place n → AnslpConfig) (sid : SessionId) (c : Chain α n)
    (number : UInt32) : Prop where
  forwarded : ∀ i e d random, (.nf i, e.ntlpMsg) ∈ c.mail → IsProper d (.msg e) →
    d.isAuthorized e = true → e.IsRequest number →
    e.ntlpMsg.copyForForwarding ∈ c.sends conf sid ⟨.nf i, d, random, .msg e⟩
  answered : ∀ e d random, (.nr, e.ntlpMsg) ∈ c.mail → IsProper d (.msg e) →
    d.isAuthorized e = true → e.IsRequest number →
    Reports (c.sends conf sid ⟨.nr, d, random, .msg e⟩) number
  reported : ∀ i e d random, (.nf i, e.ntlpMsg) ∈ c.mail → IsProper d (.msg e) →
    e.ntlpMsg.reportsSuccess = true → e.ntlpMsg.msn? = some number →
    (c.nfs i).state = .pending ∨
      Reports (c.sends conf sid ⟨.nf i, d, random, .msg e⟩) number

/-- In every run, with one configuration at all nodes, the loss of a RESPONSE is repaired when
the initiator sends its latest request again. -/
def RepairsLosses (α : Type) (conf : AnslpConfig) : Prop :=
  ∀ sid n trace (c : Chain α n) number, PathRun (fun _ => conf) sid trace c →
    answered trace = some number → c.latest? = some number →
      c.RepairsLoss (fun _ => conf) sid number

end Chain

/-! ### A RESPONSE that is lost -/

namespace LostResponse

open Sample

/-- All nodes are configured alike. -/
abbrev confs : Place 0 → AnslpConfig :=
  fun _ => conf

/-- An event of the sample node. -/
def move (place : Place 0) (evt : Event RawIpap) : Move RawIpap 0 :=
  ⟨place, surroundings, 0, evt⟩

/-- The CREATE is sent. -/
def sent : Chain RawIpap 0 :=
  { Chain.start confs 1 with ni := RepeatedResponse.waiting, mail := [(.nr, create.ntlpMsg)] }

/-- The CREATE is answered at once. -/
def answered : Chain RawIpap 0 :=
  { sent with
    nr := IdleResponder.up
    mail := sent.mail ++ [(.ni, create.ntlpMsg.createSuccessResponse 30)] }

/-- The RESPONSE does not arrive, and the CREATE is sent again. -/
def sentAgain : Chain RawIpap 0 :=
  { answered with
    ni := { answered.ni with createCounter := 1 }
    mail := answered.mail ++ [(.nr, create.ntlpMsg)] }

theorem isProper_surroundings {evt : Event RawIpap} (hmsg : ∀ e, evt ≠ .msg e)
    (hinstall : ∀ objects, evt ≠ .apiInstall objects) : IsProper surroundings evt where
  decoded := fun e _ he => absurd he (hmsg e)
  create := fun e _ he => absurd he (hmsg e)
  failure := nofun
  newKey := fun objects he => absurd he (hinstall objects)

theorem pathRun : ∃ trace, Chain.PathRun confs 1 trace sentAgain ∧
    Chain.answered trace = some 1 := by
  have hsent := Transition.Run.nil.snoc
    (rfl : Chain.system confs 1 (.start confs 1) (move .ni (.apiCreate request)) = (_, some sent))
  have hanswered := hsent.snoc
    (rfl : Chain.system confs 1 sent (move .nr (.msg arrival)) = (_, some answered))
  have hagain := hanswered.snoc
    (rfl : Chain.system confs 1 answered (move .ni (.timer 1)) = (_, some sentAgain))
  refine ⟨_, ⟨hagain, ?_, ?_⟩, rfl⟩
  · intro x hx e he
    simp only [List.nil_append, List.cons_append, List.mem_cons, List.not_mem_nil,
      or_false] at hx
    rcases hx with rfl | rfl | rfl
    · cases he
    · cases he
      exact List.mem_cons_self
    · cases he
  · intro x hx
    simp only [List.nil_append, List.cons_append, List.mem_cons, List.not_mem_nil,
      or_false] at hx
    rcases hx with rfl | rfl | rfl
    · exact isProper_surroundings (fun _ h => by cases h) fun _ h => by cases h
    · exact IdleResponder.isProper_arrival
    · exact isProper_surroundings (fun _ h => by cases h) fun _ h => by cases h

/-- The responder discards the CREATE that is sent again. -/
theorem discards_arrival : sentAgain.Discards confs 1 .nr surroundings 0 arrival := by
  rcases pathRun with ⟨trace, hrun, hanswered⟩
  have hcreate : arrival.IsRequest 1 := .create (c := create) rfl rfl
  exact (Chain.retransmits_of_run confs 1 hrun).answered 1 arrival surroundings 0 hanswered
    hcreate

/-- The RESPONSE is not sent again. -/
theorem not_repairsLosses : ¬ Chain.RepairsLosses RawIpap conf := by
  intro h
  rcases pathRun with ⟨trace, hrun, hanswered⟩
  have hcreate : arrival.IsRequest 1 := .create (c := create) rfl rfl
  rcases (h 1 0 trace sentAgain 1 hrun hanswered rfl).answered arrival surroundings 0
    List.mem_cons_self IdleResponder.isProper_arrival rfl hcreate with ⟨m, hm, _⟩
  exact List.not_mem_nil hm

end LostResponse
end Anslp
