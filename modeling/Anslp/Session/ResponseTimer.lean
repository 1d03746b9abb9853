import Anslp.Session.Closing
import Anslp.Session.Direction

/-!
# The response timer of a forwarder

In AUCTIONING the response timer of a forwarder is for a REFRESH that was passed on.  It is
started for the installation, too, and nothing stops it when the installation succeeds or
when the RESPONSE to the REFRESH arrives.

Main results:

- Theorem {lit}`NfSession.armedOnlyAwaiting_of_run`: the calls after which the response timer
  runs although no RESPONSE is awaited.

Current gaps:

- None for forwarders in AUCTIONING.
-/

namespace Anslp
namespace NfSession

variable {α : Type} {conf : AnslpConfig} {d : Dispatcher α} {s s' : NfSession α} {t : Timers}
  {evt : Event α} {effects : List (Effect α)}

/-- A step of a forwarder with its timers. -/
abbrev TimedStep (α : Type) :=
  Transition.Step (NfSession α × Timers) (Dispatcher α × Event α) (Outcome (NfSession α) α)

/-- A RESPONSE to the stored REFRESH arrives. -/
def AnswersRefresh (s : NfSession α) (evt : Event α) : Prop :=
  ∃ e c r, evt = .msg e ∧ s.refreshMessage = some c ∧ e.anslpResponse? c = some r

/-- A REFRESH is passed on. -/
def PassesRefresh (evt : Event α) (effects : List (Effect α)) : Prop :=
  ∃ e c, evt = .msg e ∧ e.ofKind? .refresh = some c ∧
    .sendMessage c.ntlpMsg.copyForForwarding ∈ effects

/-- The last REFRESH that was passed on waits for its RESPONSE: the forwarder has been in
AUCTIONING since, and the RESPONSE has not arrived. -/
def AwaitsResponse (trace : List (TimedStep α)) : Prop :=
  ∃ before st later, trace = before ++ st :: later ∧ st.pre.1.state = .auctioning ∧
    PassesRefresh st.input.2 st.output.effects ∧
      ∀ st' ∈ later, st'.pre.1.state = .auctioning ∧ ¬ st'.pre.1.AnswersRefresh st'.input.2

/-- In AUCTIONING the response timer runs only while a RESPONSE is awaited. -/
def ArmedOnlyAwaiting (trace : List (TimedStep α)) (s : NfSession α) (t : Timers) : Prop :=
  s.state = .auctioning → s.responseTimer ∈ t.running → AwaitsResponse trace

theorem awaitsResponse_snoc {trace : List (TimedStep α)} {st : TimedStep α} :
    AwaitsResponse (trace ++ [st]) ↔ st.pre.1.state = .auctioning ∧
      (PassesRefresh st.input.2 st.output.effects ∨
        AwaitsResponse trace ∧ ¬ st.pre.1.AnswersRefresh st.input.2) := by
  constructor
  · rintro ⟨before, st', later, heq, hup, hpasses, hlater⟩
    rcases List.eq_nil_or_concat later with rfl | ⟨later', last, rfl⟩
    · rcases List.append_inj' heq rfl with ⟨rfl, hlast⟩
      rcases List.cons.inj hlast with ⟨rfl, _⟩
      exact ⟨hup, Or.inl hpasses⟩
    · rw [List.concat_eq_append, ← List.cons_append, ← List.append_assoc] at heq
      rcases List.append_inj' heq rfl with ⟨rfl, hlast⟩
      rcases List.cons.inj hlast with ⟨rfl, _⟩
      rw [List.concat_eq_append] at hlater
      have hst := hlater st (List.mem_append_right _ List.mem_cons_self)
      refine ⟨hst.1, Or.inr ⟨⟨before, st', later', rfl, hup, hpasses, ?_⟩, hst.2⟩⟩
      exact fun x hx => hlater x (List.mem_append_left _ hx)
  · rintro ⟨hup, hpasses | ⟨⟨before, st', later, rfl, hup', hpasses, hlater⟩, hanswers⟩⟩
    · exact ⟨trace, st, [], rfl, hup, hpasses, fun _ hst => absurd hst List.not_mem_nil⟩
    · refine ⟨before, st', later ++ [st], by simp, hup', hpasses, fun x hx => ?_⟩
      rcases List.mem_append.mp hx with hx | hx
      · exact hlater x hx
      · rw [List.mem_singleton.mp hx]
        exact ⟨hup, hanswers⟩

/-- The calls that leave the response timer running although no RESPONSE is awaited. -/
inductive LeavesRunning (s : NfSession α) (t : Timers) : Event α → Prop
  /-- PENDING_INSTALLING to AUCTIONING: all requested objects are installed while the timer
  for the installation runs. -/
  | installed {mspecObjects : ObjectList α} (hstate : s.state = .pendingInstalling)
      (hcount : s.rule.getNumberMspecRequestObjects = mspecObjects.size)
      (hrunning : s.responseTimer ∈ t.running) : LeavesRunning s t (.apiInstall mspecObjects)
  /-- AUCTIONING: the RESPONSE to a REFRESH arrives while the timer for it runs. -/
  | answered {e : MsgEvent α} {c : KindMsg .refresh α} {r : KindMsg .response α}
      (hstate : s.state = .auctioning) (hc : s.refreshMessage = some c)
      (hr : e.anslpResponse? c = some r) (hsuccess : r.body.isSuccess = true)
      (hlifetime : s.lifetime ≠ 0) (hrunning : s.responseTimer ∈ t.running) :
      LeavesRunning s t (.msg e)

/-! ## One call -/

/-- The response timer is the one before, a new one, or none. -/
theorem Transits.responseTimer_eq (ht : Transits conf d s evt s' effects) :
    s'.responseTimer = s.responseTimer ∨ s'.responseTimer = 0 ∨
      s'.responseTimer ∈ effects.filterMap Effect.started? := by
  cases ht with
  | created _ _ _ _ hsetUp | replaced _ _ hsetUp => cases hsetUp <;> exact Or.inl rfl
  | responded | refreshed => exact Or.inr (Or.inr (by simp [Effect.started?]))
  | removing _ hends | closed _ hends =>
      cases hends with
      | timeout => exact Or.inr (Or.inl rfl)
      | _ => exact Or.inl rfl
  | _ => exact Or.inl rfl

/-- The response timer is one of those started, or none. -/
structure Tracks (s : NfSession α) (t : Timers) : Prop where
  sound : t.Sound
  started : s.responseTimer = 0 ∨ s.responseTimer ∈ t.started

theorem Tracks.next (h : s.Tracks t) (hgenuine : t.Genuine (d, evt))
    (hnext : s.processEvent conf d evt = .next s' effects) : s'.Tracks (t.after evt effects) := by
  have ht := transits_of_processEvent hnext
  refine ⟨h.sound.after hgenuine.fresh ht.startsOwn, ?_⟩
  rw [Timers.mem_started_after]
  rcases ht.responseTimer_eq with heq | hzero | hnew
  · rw [heq]
    exact h.started.imp_right Or.inl
  · exact Or.inl hzero
  · exact Or.inr (Or.inr hnew)

/-- A call that removes the rule or closes leaves AUCTIONING. -/
theorem state_ne_of_removeOrClose {s₁ : NfSession α} {seconds : UInt32}
    {before : List (Effect α)} (h : (s₁.removeOrClose d seconds).after before = .next s' effects) :
    s'.state ≠ .auctioning := by
  unfold removeOrClose at h
  split_ifs at h
  · split at h
    · cases h
    · cases h
      exact nofun
  · cases h
    exact nofun

/-- A RESPONSE to the stored REFRESH is processed as one. -/
theorem processEvent_of_answers {e : MsgEvent α} {c : KindMsg .refresh α}
    {r : KindMsg .response α} (hstate : s.state = .auctioning) (hc : s.refreshMessage = some c)
    (hr : e.anslpResponse? c = some r) :
    s.processEvent conf d (.msg e) = s.processRefreshResponse d r := by
  have hkind := (MsgEvent.of_anslpResponse? hr).1
  have hrefresh : e.ofKind? .refresh = none := MsgEvent.ofKind?_eq_none_of_ne hkind nofun
  have hbidding : e.ofKind? .bidding = none := MsgEvent.ofKind?_eq_none_of_ne hkind nofun
  simp only [processEvent, hstate, handleStateAuctioning, hrefresh, hbidding, hc, hr]

/-- Other calls keep it so that the response timer runs only while a RESPONSE is awaited. -/
theorem Tracks.armedOnlyAwaiting {trace : List (TimedStep α)} (h : s.Tracks t)
    (hgenuine : t.Genuine (d, evt)) (hquiet : ¬ s.LeavesRunning t evt)
    (harmed : ArmedOnlyAwaiting trace s t)
    (hnext : s.processEvent conf d evt = .next s' effects) :
    ArmedOnlyAwaiting
      (trace ++ [⟨(s, t), (d, evt), .next s' effects, (s', t.after evt effects)⟩]) s'
      (t.after evt effects) := by
  intro hup' hrunning
  have ht := transits_of_processEvent hnext
  have hold : s'.responseTimer = s.responseTimer → s.responseTimer ∈ t.running := fun heq =>
    (hgenuine.fresh.running_of_after ht.startsOwn h.started (heq ▸ hrunning)).1
  by_cases hanswers : s.state = .auctioning ∧ s.AnswersRefresh evt
  · rcases hanswers with ⟨hup, e, c, r, rfl, hc, hr⟩
    rw [processEvent_of_answers hup hc hr, processRefreshResponse] at hnext
    split_ifs at hnext with hdone
    · cases hnext
      exact absurd (.answered hup hc hr hdone.1 hdone.2 (hold rfl)) hquiet
    · exact absurd hup' (state_ne_of_removeOrClose hnext)
  · rw [awaitsResponse_snoc]
    cases ht with
    | discarded | refreshRejected | biddingTaken | biddingPassed =>
        exact ⟨hup', Or.inr ⟨harmed hup' (hold rfl), fun ha => hanswers ⟨hup', ha⟩⟩⟩
    | refreshed hup hc =>
        exact ⟨hup, Or.inl ⟨_, _, rfl, hc, List.mem_cons_self⟩⟩
    | responsePassed hup hc hr => exact absurd ⟨hup, _, _, _, rfl, hc, hr⟩ hanswers
    | installed hstate _ hcount => exact absurd (.installed hstate hcount (hold rfl)) hquiet
    | pendingRejected hpending | repeated hpending =>
        exact absurd hpending (not_isPending_of_up (Or.inl hup'))
    | createRejected hstate | createWithoutLifetime hstate => cases hstate.symm.trans hup'
    | created _ _ _ _ hsetUp | replaced _ _ hsetUp => cases hsetUp <;> cases hup'
    | abandoned | givenUp | checked | responded | refused | installFailed | removing | closed
    | removalTimedOut | removed => cases hup'

/-- The calls named leave the response timer running in AUCTIONING. -/
theorem LeavesRunning.not_armedOnlyAwaiting {trace : List (TimedStep α)}
    (h : s.LeavesRunning t evt) (hnext : s.processEvent conf d evt = .next s' effects) :
    ¬ ArmedOnlyAwaiting
      (trace ++ [⟨(s, t), (d, evt), .next s' effects, (s', t.after evt effects)⟩]) s'
      (t.after evt effects) := by
  intro harmed
  cases h with
  | installed hstate hcount hrunning =>
      simp only [processEvent, hstate, handleStatePendingInstalling] at hnext
      split at hnext
      · cases hnext
      · rw [processInstall, if_pos hcount] at hnext
        cases hnext
        have hawaits := harmed rfl (Timers.running_after_of_ne hrunning fun h => by cases h)
        cases hstate.symm.trans (awaitsResponse_snoc.mp hawaits).1
  | @answered e c r hstate hc hr hsuccess hlifetime hrunning =>
      rw [processEvent_of_answers hstate hc hr, processRefreshResponse,
        if_pos ⟨hsuccess, hlifetime⟩] at hnext
      cases hnext
      have hawaits := harmed hstate (Timers.running_after_of_ne hrunning fun h => by cases h)
      rcases (awaitsResponse_snoc.mp hawaits).2 with ⟨e', c', he, hc', _⟩ | ⟨_, hnone⟩
      · cases he
        have hkind := (MsgEvent.of_anslpResponse? hr).1
        have hrefresh : e.ofKind? .refresh = none :=
          MsgEvent.ofKind?_eq_none_of_ne hkind (by decide)
        cases hc'.symm.trans hrefresh
      · exact hnone ⟨e, c, r, rfl, hc, hr⟩

/-! ## All runs -/

/-- In every run of a forwarder whose timers behave, the response timer runs in AUCTIONING only
while a RESPONSE is awaited. -/
def AlwaysArmedOnlyAwaiting (α : Type) (conf : AnslpConfig) : Prop :=
  ∀ id trace (s : NfSession α) t, TimedRun (processEvent conf) (new id) trace s t →
    ArmedOnlyAwaiting trace s t

/-- The response timer runs in AUCTIONING only while a RESPONSE is awaited, in the runs
without a call that leaves it running; and after each such call it does not. -/
theorem armedOnlyAwaiting_of_run (conf : AnslpConfig) :
    ∀ id trace (s : NfSession α) t, TimedRun (processEvent conf) (new id) trace s t →
      ((∀ st ∈ trace, ¬ st.pre.1.LeavesRunning st.pre.2 st.input.2) →
        ArmedOnlyAwaiting trace s t) ∧
      ∀ d evt s' effects, t.Genuine (d, evt) → s.processEvent conf d evt = .next s' effects →
        s.LeavesRunning t evt → ¬ ArmedOnlyAwaiting
          (trace ++ [⟨(s, t), (d, evt), .next s' effects, (s', t.after evt effects)⟩]) s'
          (t.after evt effects) := by
  intro id trace s t hrun
  refine ⟨?_, fun d evt s' effects _ hnext hleaves => hleaves.not_armedOnlyAwaiting hnext⟩
  refine hrun.trace_induction (P := fun trace s t =>
    (∀ st ∈ trace, ¬ st.pre.1.LeavesRunning st.pre.2 st.input.2) → ArmedOnlyAwaiting trace s t)
    (fun _ => nofun) ?_
  intro trace s t d evt s' effects hbefore ih hgenuine hnext hquiet
  have htracks : s.Tracks t := hbefore.invariant ⟨Timers.sound_none, Or.inl rfl⟩
    fun s t d evt s' effects hs hg hn => hs.next hg hn
  refine htracks.armedOnlyAwaiting hgenuine ?_ (ih fun st hst => ?_) hnext
  · exact hquiet _ (List.mem_append_right _ List.mem_cons_self)
  · exact hquiet st (List.mem_append_left _ hst)

end NfSession

/-! ### An installation that succeeds -/

namespace Installed

open Sample Mismatch

/-- Surroundings that number timers from a number on. -/
def surroundingsFrom (n : Nat) : Dispatcher RawIpap :=
  { surroundings with startTimer := fun i => i + n }

theorem genuine_surroundingsFrom {t : Timers} {n : Nat} (evt : Event RawIpap) (hn : 0 < n)
    (hstarted : ∀ id ∈ t.started, id < n) (hrunning : ∀ id, evt = .timer id → id ∈ t.running) :
    t.Genuine (surroundingsFrom n, evt) where
  fresh :=
    { injective := fun _ _ h => Nat.add_right_cancel h
      ne_zero := fun i => (Nat.add_pos_right i hn).ne'
      notStarted := fun i hi => (Nat.le_add_left n i).not_gt (hstarted _ hi) }
  running := hrunning

/-- The forwarder, its rule handed to the installer; the response timer is 2. -/
def waiting : NfSession RawIpap :=
  { installing with responseTimer := 2, stateTimer := 3 }

/-- The forwarder in AUCTIONING. -/
def up : NfSession RawIpap :=
  { waiting with stateTimer := 4, state := .auctioning }

theorem run_waiting : ∃ trace, TimedRun (NfSession.processEvent conf) (.new 1) trace waiting
    ⟨[1, 2, 3], [1, 2, 3]⟩ ∧ ∀ st ∈ trace, ¬ st.pre.1.LeavesRunning st.pre.2 st.input.2 := by
  have hforwarder := TimedRun.nil.snoc
    (genuine_surroundingsFrom (.msg arrival) Nat.one_pos
      (fun _ hid => absurd hid List.not_mem_nil) nofun)
    (rfl : NfSession.processEvent conf (surroundingsFrom 1) (.new 1) (.msg arrival) =
      .next forwarder _)
  have hwaiting := hforwarder.snoc
    (genuine_surroundingsFrom (.msg ⟨response.ntlpMsg, true⟩) Nat.two_pos (by decide) nofun)
    (rfl : NfSession.processEvent conf (surroundingsFrom 2) forwarder
      (.msg ⟨response.ntlpMsg, true⟩) = .next waiting _)
  refine ⟨_, hwaiting, fun st hst hleaves => ?_⟩
  rcases List.mem_append.mp hst with hst | hst
  · cases List.mem_singleton.mp hst
    cases hleaves with
    | answered hstate => cases hstate
  · cases List.mem_singleton.mp hst
    cases hleaves with
    | answered hstate => cases hstate

theorem processEvent_waiting : NfSession.processEvent conf (surroundingsFrom 4) waiting
    (.apiInstall OrderedMap.empty) = .next up
      [.sendMessage (up.buildResponse response), .startTimer 4 up.lifetime] :=
  rfl

/-- The response timer runs on in AUCTIONING. -/
theorem not_alwaysArmedOnlyAwaiting : ¬ NfSession.AlwaysArmedOnlyAwaiting RawIpap conf := by
  intro h
  rcases run_waiting with ⟨trace, hrun, _⟩
  have hup := hrun.snoc (genuine_surroundingsFrom (.apiInstall OrderedMap.empty)
    (Nat.succ_pos 3) (by decide) nofun) processEvent_waiting
  have hawaits := h 1 _ up _ hup rfl (by decide)
  cases (NfSession.awaitsResponse_snoc.mp hawaits).1

/-- The REFRESH of the initiator of the session. -/
def refresh : KindMsg .refresh RawIpap :=
  RepeatedResponse.up.buildRefreshMessage (NiSession.requestedMri request)

/-- The forwarder after this REFRESH. -/
def refreshed : NfSession RawIpap :=
  { up with
    msn := refresh.body.getMsgSequenceNumber
    refreshMessage := some refresh
    responseTimer := 5 }

/-- When the response timer expires before the installation is over, it runs for the REFRESH
only. -/
theorem awaitsResponse_refreshed : ∃ trace,
    TimedRun (NfSession.processEvent conf) (.new 1) trace refreshed
      ⟨[1, 2, 3, 4, 5], [1, 3, 4, 5]⟩ ∧ NfSession.AwaitsResponse trace := by
  rcases run_waiting with ⟨trace, hrun, hquiet⟩
  have hexpired := hrun.snoc (genuine_surroundingsFrom (.timer 2)
    (Nat.succ_pos 3) (by decide) (Event.forall_timer (by decide)))
    (rfl : NfSession.processEvent conf (surroundingsFrom 4) waiting (.timer 2) =
      .next waiting [])
  have hup := hexpired.snoc (genuine_surroundingsFrom (.apiInstall OrderedMap.empty)
    (Nat.succ_pos 3) (by decide) nofun) processEvent_waiting
  have hrefreshed := hup.snoc (genuine_surroundingsFrom (.msg ⟨refresh.ntlpMsg, true⟩)
    (Nat.succ_pos 4) (by decide) nofun)
    (rfl : NfSession.processEvent conf (surroundingsFrom 5) up
      (.msg ⟨refresh.ntlpMsg, true⟩) = .next refreshed _)
  refine ⟨_, hrefreshed, (NfSession.armedOnlyAwaiting_of_run conf 1 _ refreshed _
    hrefreshed).1 ?_ rfl (by decide)⟩
  intro st hst
  simp only [List.mem_append, List.mem_singleton] at hst
  rcases hst with ((hst | rfl) | rfl) | rfl
  · exact hquiet st hst
  · rintro ⟨⟩
  · intro hleaves
    cases hleaves with
    | installed _ _ hrunning => exact absurd hrunning (by decide)
  · intro hleaves
    cases hleaves with
    | answered _ _ _ _ _ hrunning => exact absurd hrunning (by decide)

end Installed
end Anslp
