import Anslp.Session.ResponseTimer

/-!
# Stale inputs

Timers expire after they were stopped or started again, and RESPONSEs arrive after their
request was replaced by another one.  A session discards such inputs: nothing of it changes and
nothing happens.

Main results:

- Theorem {lit}`stale_of_run`: stale inputs are discarded in every state of a session.
- Theorem {lit}`lateExpiry_of_run`: the expiry of a timer that was stopped or started again is
  discarded at any later time.

Current gaps:

- None for the inputs listed.
-/

namespace Anslp

/-- A RESPONSE with another sequence number than a request. -/
def MsgEvent.AnswersOther {α : Type} {kind : MsgKind} (e : MsgEvent α) (c : KindMsg kind α) :
    Prop :=
  ∃ r, e.ofKind? .response = some r ∧ (r.body.hasMsgSequenceNumber = true →
    r.body.getMsgSequenceNumber ≠ c.body.getMsgSequenceNumber)

theorem MsgEvent.AnswersOther.anslpResponse?_eq_none {α : Type} {kind : MsgKind}
    {e : MsgEvent α} {c : KindMsg kind α} (h : e.AnswersOther c) : e.anslpResponse? c = none := by
  rcases h with ⟨r, hr, hother⟩
  by_contra hsome
  rcases Option.ne_none_iff_exists'.mp hsome with ⟨r', hr'⟩
  rcases MsgEvent.of_anslpResponse? hr' with ⟨hkind, _, hhas, hmsn⟩
  cases hr.symm.trans hkind
  exact hother hhas hmsn

/-- A RESPONSE is no other message. -/
theorem MsgEvent.AnswersOther.ofKind?_eq_none {α : Type} {kind : MsgKind} {e : MsgEvent α}
    {c : KindMsg kind α} (h : e.AnswersOther c) (kind' : MsgKind) (hne : .response ≠ kind') :
    e.ofKind? kind' = none := by
  rcases h with ⟨r, hr, _⟩
  exact MsgEvent.ofKind?_eq_none_of_ne hr hne

/-- A timer that a session has given up stays so: new timers have other identifiers. -/
theorem disowned_of_run {σ α : Type} {processEvent : Dispatcher α → σ → Event α → Outcome σ α}
    {P : σ → Prop} {s s' : σ} {t t' : Timers} {id : Nat}
    {trace : List (Transition.Step (σ × Timers) (Dispatcher α × Event α) (Outcome σ α))}
    (hown : ∀ s d evt s' effects, processEvent d s evt = .next s' effects →
      Timers.StartsOwn d effects)
    (hstep : ∀ s d evt s' effects, P s → id ≠ 0 → id ∉ effects.filterMap Effect.started? →
      processEvent d s evt = .next s' effects → P s')
    (hrun : Transition.Run (timed processEvent) (s, t) trace (s', t'))
    (hgenuine : ∀ st ∈ trace, st.pre.2.Genuine st.input) (hsound : t.Sound)
    (hid : id ∈ t.started) (hdisowned : P s) : P s' := by
  have hall : t'.Sound ∧ id ∈ t'.started ∧ P s' := by
    refine hrun.invariant_of_guarded
      (I := fun x => x.2.Sound ∧ id ∈ x.2.started ∧ P x.1)
      (G := fun x input => x.2.Genuine input) ?_ ⟨hsound, hid, hdisowned⟩ hgenuine
    rintro ⟨s, t⟩ ⟨d, evt⟩ o ⟨s', t'⟩ ⟨hsound, hid, hdisowned⟩ hgenuine hlast
    rcases next_of_timed hlast with ⟨hnext, rfl⟩
    have howned := hown s d evt s' _ hnext
    have hzero : id ≠ 0 := fun hzero => hsound.zero (hzero ▸ hid)
    have hnew := hgenuine.fresh.not_mem_started howned (Or.inr hid)
    refine ⟨hsound.after hgenuine.fresh howned, ?_, hstep s d evt s' _ hdisowned hzero hnew hnext⟩
    exact Timers.mem_started_after.mpr (Or.inl hid)
  exact hall.2.2

/-- A timer that is kept, stopped or started again under a new identifier does not get the
identifier of another one. -/
theorem ne_of_renewed {id old new : Nat} {started : List Nat}
    (h : new = old ∨ new = 0 ∨ new ∈ started) (hne : id ≠ old) (hzero : id ≠ 0)
    (hnew : id ∉ started) : id ≠ new := by
  rcases h with hsame | hstopped | hstarted
  · rw [hsame]
    exact hne
  · rw [hstopped]
    exact hzero
  · exact (ne_of_mem_of_not_mem hstarted hnew).symm

/-! ## Initiator -/

namespace NiSession

variable {α : Type} {d : Dispatcher α} {s s' : NiSession α} {evt : Event α}
  {effects : List (Effect α)} {id : Nat}

/-- The inputs that are stale. -/
inductive Stale (s : NiSession α) : Event α → Prop
  /-- The expiry of a timer that the state does not consult. -/
  | expiry {id : Nat} (hopen : s.state ≠ .close) (hid : ¬ s.Consults id) : Stale s (.timer id)
  /-- PENDING: a RESPONSE to another message than the CREATE. -/
  | create {e : MsgEvent α} {c : KindMsg .create α} (hstate : s.state = .pending)
      (hc : s.lastCreateMsg = some c) (hother : e.AnswersOther c) : Stale s (.msg e)
  /-- AUCTIONING: a RESPONSE to another message than the REFRESH. -/
  | refresh {e : MsgEvent α} {c : KindMsg .refresh α} (hstate : s.state = .auctioning)
      (hc : s.lastRefreshMsg = some c) (hother : e.AnswersOther c) : Stale s (.msg e)

theorem processEvent_of_not_consults (hopen : s.state ≠ .close) (hid : ¬ s.Consults id) :
    s.processEvent d (.timer id) = .next s [] := by
  cases hstate : s.state with
  | close => exact absurd hstate hopen
  | pending =>
      have hne := (consults_iff_of_waiting (Or.inl hstate)).not.mp hid
      simp only [processEvent, hstate, handleStatePending, if_neg hne]
  | pendingInstalling =>
      have hne := (consults_iff_of_waiting (Or.inr (Or.inl hstate))).not.mp hid
      simp only [processEvent, hstate, handleStatePendingInstalling, if_neg hne]
  | auctioning =>
      rcases not_or.mp ((consults_iff_of_auctioning hstate).not.mp hid) with
        ⟨hrefresh, hresponse⟩
      simp only [processEvent, hstate, handleStateAuctioning, if_neg hrefresh, if_neg hresponse]
  | pendingTeardown =>
      have hne := (consults_iff_of_waiting (Or.inr (Or.inr hstate))).not.mp hid
      simp only [processEvent, hstate, handleStatePendingTeardown, if_neg hne]

/-- A stale input is discarded. -/
theorem Stale.processEvent_eq (h : s.Stale evt) (d : Dispatcher α) :
    s.processEvent d evt = .next s [] := by
  cases h with
  | expiry hopen hid => exact processEvent_of_not_consults hopen hid
  | create hstate hc hother =>
      simp only [processEvent, hstate, handleStatePending, hc, hother.anslpResponse?_eq_none]
  | refresh hstate hc hother =>
      have hbidding := hother.ofKind?_eq_none .bidding (by decide)
      simp only [processEvent, hstate, handleStateAuctioning, hbidding, hc,
        hother.anslpResponse?_eq_none]

/-- The response timer of an open session is the one before, a new one, or none. -/
theorem Transits.responseTimer_eq (ht : Transits d s evt s' effects)
    (hopen' : s'.state ≠ .close) :
    (s.state ≠ .close ∧ s'.responseTimer = s.responseTimer) ∨ s'.responseTimer = 0 ∨
      s'.responseTimer ∈ effects.filterMap Effect.started? := by
  cases ht with
  | created => exact Or.inr (Or.inr (by simp [Effect.started?, NiSession.created]))
  | createRetried | responded | responseRetried | refreshSent | refreshRetried | removing
  | removalRetried => exact Or.inr (Or.inr (by simp [Effect.started?, NiSession.responded]))
  | installed | refreshed => exact Or.inr (Or.inl rfl)
  | discarded | tearingDown | biddingSent | biddingTaken => exact Or.inl ⟨hopen', rfl⟩
  | createdUntold hstate => exact absurd hstate hopen'
  | failed | tornDown | uninstalled | closed | removed => exact absurd rfl hopen'

/-- A timer the session has stopped, or started again under another identifier. -/
def Disowned (s : NiSession α) (id : Nat) : Prop :=
  id ≠ s.refreshTimer ∧ (s.state ≠ .close → id ≠ s.responseTimer)

theorem Disowned.transits (h : s.Disowned id) (hzero : id ≠ 0)
    (hnew : id ∉ effects.filterMap Effect.started?) (ht : Transits d s evt s' effects) :
    s'.Disowned id := by
  constructor
  · exact ne_of_renewed (ht.refreshTimer_eq.imp_right Or.inr) h.1 hzero hnew
  · intro hopen'
    rcases ht.responseTimer_eq hopen' with ⟨hopen, hsame⟩ | hrenewed
    · exact ne_of_renewed (Or.inl hsame) (h.2 hopen) hzero hnew
    · exact ne_of_renewed (Or.inr hrenewed) hzero hzero hnew

/-- A timer that was given up is not taken back later. -/
theorem Disowned.of_run {t t' : Timers}
    {later : List (Transition.Step (NiSession α × Timers) (Dispatcher α × Event α)
      (Outcome (NiSession α) α))} (h : s.Disowned id) (hid : id ∈ t.started) (hsound : t.Sound)
    (hrun : Transition.Run (timed processEvent) (s, t) later (s', t'))
    (hgenuine : ∀ st ∈ later, st.pre.2.Genuine st.input) : s'.Disowned id := by
  refine disowned_of_run (P := fun s => NiSession.Disowned s id) ?_ ?_ hrun hgenuine hsound hid h
  · intro s d evt s' effects hnext
    exact (transits_of_processEvent hnext).startsOwn
  · intro s d evt s' effects hs hzero hnew hnext
    exact hs.transits hzero hnew (transits_of_processEvent hnext)

theorem Disowned.stale (h : s.Disowned id) (hopen : s.state ≠ .close) :
    s.Stale (.timer id) := by
  refine .expiry hopen fun hconsults => ?_
  cases hstate : s.state with
  | close => exact hopen hstate
  | auctioning =>
      rcases (consults_iff_of_auctioning hstate).mp hconsults with heq | heq
      · exact h.1 heq
      · exact h.2 hopen heq
  | pending | pendingInstalling | pendingTeardown =>
      rw [Consults, hstate] at hconsults
      exact h.2 hopen hconsults

end NiSession

/-! ## Forwarder -/

namespace NfSession

variable {α : Type} {conf : AnslpConfig} {d : Dispatcher α} {s s' : NfSession α}
  {evt : Event α} {effects : List (Effect α)} {id : Nat}

/-- The inputs that are stale. -/
inductive Stale (s : NfSession α) : Event α → Prop
  /-- The expiry of a timer that the state does not consult. -/
  | expiry {id : Nat} (hopen : s.state ≠ .close) (hid : ¬ s.Consults id) : Stale s (.timer id)
  /-- PENDING: a RESPONSE to another message than the CREATE. -/
  | create {e : MsgEvent α} {c : KindMsg .create α} (hstate : s.state = .pending)
      (hc : s.createMessage = some c) (hother : e.AnswersOther c) : Stale s (.msg e)
  /-- AUCTIONING: a RESPONSE to another message than the REFRESH. -/
  | refresh {e : MsgEvent α} {c : KindMsg .refresh α} (hstate : s.state = .auctioning)
      (hc : s.refreshMessage = some c) (hother : e.AnswersOther c) : Stale s (.msg e)

theorem processEvent_of_not_consults (hopen : s.state ≠ .close) (hid : ¬ s.Consults id) :
    s.processEvent conf d (.timer id) = .next s [] := by
  cases hstate : s.state with
  | close => exact absurd hstate hopen
  | pendingCheck =>
      have hne := (consults_iff_of_isPending (Or.inl hstate)).not.mp hid
      simp only [processEvent, hstate, handleStatePendingCheck, if_neg hne]
  | pending =>
      have hne := (consults_iff_of_isPending (Or.inr (Or.inl hstate))).not.mp hid
      simp only [processEvent, hstate, handleStatePending, if_neg hne]
  | pendingInstalling =>
      have hne := (consults_iff_of_isPending (Or.inr (Or.inr hstate))).not.mp hid
      simp only [processEvent, hstate, handleStatePendingInstalling, if_neg hne]
  | auctioning =>
      rcases not_or.mp ((consults_iff_of_auctioning hstate).not.mp hid) with
        ⟨hresponse, htimer⟩
      simp only [processEvent, hstate, handleStateAuctioning, if_neg hresponse, if_neg htimer]
  | pendingTeardown =>
      have hne := (consults_iff_of_pendingTeardown hstate).not.mp hid
      simp only [processEvent, hstate, handleStatePendingTeardown, if_neg hne]

/-- A stale input is discarded. -/
theorem Stale.processEvent_eq (h : s.Stale evt) (conf : AnslpConfig) (d : Dispatcher α) :
    s.processEvent conf d evt = .next s [] := by
  cases h with
  | expiry hopen hid => exact processEvent_of_not_consults hopen hid
  | create hstate hc hother =>
      have hcreate := hother.ofKind?_eq_none .create (by decide)
      simp only [processEvent, hstate, handleStatePending, hcreate, hc,
        hother.anslpResponse?_eq_none]
  | refresh hstate hc hother =>
      have hrefresh := hother.ofKind?_eq_none .refresh (by decide)
      have hbidding := hother.ofKind?_eq_none .bidding (by decide)
      simp only [processEvent, hstate, handleStateAuctioning, hrefresh, hbidding, hc,
        hother.anslpResponse?_eq_none]

theorem SetUp.stateTimer_eq {c : KindMsg .create α} (h : SetUp conf d s c s' effects) :
    s'.stateTimer = s.stateTimer ∨ s'.stateTimer ∈ effects.filterMap Effect.started? := by
  cases h with
  | checking | passed => exact Or.inr (by simp [Effect.started?])
  | notPathcoupled | refused => exact Or.inl rfl

/-- The state timer is the one before, a new one, or none. -/
theorem Transits.stateTimer_eq (ht : Transits conf d s evt s' effects) :
    s'.stateTimer = s.stateTimer ∨ s'.stateTimer = 0 ∨
      s'.stateTimer ∈ effects.filterMap Effect.started? := by
  cases ht with
  | created _ _ _ _ hsetUp | replaced _ _ hsetUp => exact hsetUp.stateTimer_eq.imp_right Or.inr
  | repeated | checked | responded | installed | responsePassed | removing =>
      exact Or.inr (Or.inr (by simp [Effect.started?]))
  | abandoned | refused | installFailed | closed | removed => exact Or.inr (Or.inl rfl)
  | _ => exact Or.inl rfl

theorem not_owns_transits (h : ¬ s.Owns id) (hzero : id ≠ 0)
    (hnew : id ∉ effects.filterMap Effect.started?) (ht : Transits conf d s evt s' effects) :
    ¬ s'.Owns id := by
  rcases not_or.mp h with ⟨hresponse, hstate⟩
  apply not_or.mpr
  constructor
  · exact ne_of_renewed ht.responseTimer_eq hresponse hzero hnew
  · exact ne_of_renewed ht.stateTimer_eq hstate hzero hnew

/-- A timer that was given up is not taken back later. -/
theorem not_owns_of_run {t t' : Timers}
    {later : List (Transition.Step (NfSession α × Timers) (Dispatcher α × Event α)
      (Outcome (NfSession α) α))} (h : ¬ s.Owns id) (hid : id ∈ t.started) (hsound : t.Sound)
    (hrun : Transition.Run (timed (processEvent conf)) (s, t) later (s', t'))
    (hgenuine : ∀ st ∈ later, st.pre.2.Genuine st.input) : ¬ s'.Owns id := by
  refine disowned_of_run (P := fun s => ¬ NfSession.Owns s id) ?_ ?_ hrun hgenuine hsound hid h
  · intro s d evt s' effects hnext
    exact (transits_of_processEvent hnext).startsOwn
  · intro s d evt s' effects hs hzero hnew hnext
    exact not_owns_transits hs hzero hnew (transits_of_processEvent hnext)

theorem stale_of_not_owns (h : ¬ s.Owns id) (hopen : s.state ≠ .close) :
    s.Stale (.timer id) := by
  refine .expiry hopen fun hconsults => ?_
  cases hstate : s.state with
  | close => exact hopen hstate
  | auctioning => exact h ((consults_iff_of_auctioning hstate).mp hconsults)
  | pendingCheck | pending | pendingInstalling | pendingTeardown =>
      rw [Consults, hstate] at hconsults
      exact h (Or.inr hconsults)

end NfSession

/-! ## Responder -/

namespace NrSession

variable {α : Type} {conf : AnslpConfig} {d : Dispatcher α} {s s' : NrSession α}
  {evt : Event α} {effects : List (Effect α)} {id : Nat}

/-- The inputs that are stale: the expiries of timers that the state does not consult. -/
inductive Stale (s : NrSession α) : Event α → Prop
  | expiry {id : Nat} (hopen : s.state ≠ .close) (hid : ¬ s.Consults id) : Stale s (.timer id)

/-- A stale input is discarded. -/
theorem Stale.processEvent_eq (h : s.Stale evt) (conf : AnslpConfig) (d : Dispatcher α) :
    s.processEvent conf d evt = .next s [] := by
  rcases h with ⟨hopen, hid⟩
  have hne : ¬ _ = s.stateTimer := fun heq => hid ⟨hopen, heq⟩
  cases hstate : s.state with
  | close => exact absurd hstate hopen
  | pending => simp only [processEvent, hstate, handleStatePending, if_neg hne]
  | pendingInstalling =>
      simp only [processEvent, hstate, handleStatePendingInstalling, if_neg hne]
  | auctioning => simp only [processEvent, hstate, handleStateAuctioning, if_neg hne]
  | pendingTeardown => simp only [processEvent, hstate, handleStatePendingTeardown, if_neg hne]

/-- The state timer is the one before, a new one, or none. -/
theorem Transits.stateTimer_eq (ht : Transits conf d s evt s' effects) :
    s'.stateTimer = s.stateTimer ∨ s'.stateTimer = 0 ∨
      s'.stateTimer ∈ effects.filterMap Effect.started? := by
  cases ht with
  | started | startedIdle | checkRetried | checked | installRetried | installed | installFailed
  | refreshed | removing | removalRetried => exact Or.inr (Or.inr (by simp [Effect.started?]))
  | closed | removed => exact Or.inr (Or.inl rfl)
  | _ => exact Or.inl rfl

theorem not_owns_transits (h : ¬ s.Owns id) (hzero : id ≠ 0)
    (hnew : id ∉ effects.filterMap Effect.started?) (ht : Transits conf d s evt s' effects) :
    ¬ s'.Owns id :=
  ne_of_renewed ht.stateTimer_eq h hzero hnew

/-- A timer that was given up is not taken back later. -/
theorem not_owns_of_run {t t' : Timers}
    {later : List (Transition.Step (NrSession α × Timers) (Dispatcher α × Event α)
      (Outcome (NrSession α) α))} (h : ¬ s.Owns id) (hid : id ∈ t.started) (hsound : t.Sound)
    (hrun : Transition.Run (timed (processEvent conf)) (s, t) later (s', t'))
    (hgenuine : ∀ st ∈ later, st.pre.2.Genuine st.input) : ¬ s'.Owns id := by
  refine disowned_of_run (P := fun s => ¬ NrSession.Owns s id) ?_ ?_ hrun hgenuine hsound hid h
  · intro s d evt s' effects hnext
    exact (transits_of_processEvent hnext).startsOwn
  · intro s d evt s' effects hs hzero hnew hnext
    exact not_owns_transits hs hzero hnew (transits_of_processEvent hnext)

theorem stale_of_not_owns (h : ¬ s.Owns id) (hopen : s.state ≠ .close) :
    s.Stale (.timer id) :=
  .expiry hopen fun hconsults => h hconsults.2

end NrSession

/-! ## All sessions -/

/-- In every reachable session a stale input is discarded: the session is left as it is, and
nothing happens. -/
theorem stale_of_run {α : Type} (conf : AnslpConfig) :
    (∀ id random trace (s : NiSession α), NiSession.Runs conf id random trace s →
      ∀ d evt, s.Stale evt → s.processEvent d evt = .next s []) ∧
    (∀ id trace (s : NfSession α), NfSession.Runs conf id trace s →
      ∀ d evt, s.Stale evt → s.processEvent conf d evt = .next s []) ∧
    ∀ id random trace (s : NrSession α), NrSession.Runs conf id random trace s →
      ∀ d evt, s.Stale evt → s.processEvent conf d evt = .next s [] :=
  ⟨fun _ _ _ _ _ d _ h => h.processEvent_eq d, fun _ _ _ _ d _ h => h.processEvent_eq conf d,
    fun _ _ _ _ _ d _ h => h.processEvent_eq conf d⟩

/-- A RESPONSE to an older CREATE is discarded. -/
theorem stale_older : NfSession.processEvent Sample.conf Sample.surroundings Sample.forwarder
    (.msg ⟨DelayedCreate.older.ntlpMsg.createSuccessResponse 30, true⟩) =
      .next Sample.forwarder [] :=
  (stale_of_run Sample.conf).2.1 1 _ Sample.forwarder Sample.runs_forwarder Sample.surroundings _
    (.create rfl rfl ⟨_, rfl, fun _ => by decide⟩)

/-- In every run of a session whose timers behave, the expiry of a timer that was stopped or
started again is discarded at any later time. -/
theorem lateExpiry_of_run {α : Type} (conf : AnslpConfig) :
    (∀ id random before (s : NiSession α) t,
      TimedRun NiSession.processEvent (NiSession.new conf id random) before s t →
        ∀ timer ∈ t.started, s.Disowned timer → ∀ later s' t',
          Transition.Run (timed NiSession.processEvent) (s, t) later (s', t') →
            (∀ st ∈ later, st.pre.2.Genuine st.input) → s'.state ≠ .close →
              ∀ d, s'.processEvent d (.timer timer) = .next s' []) ∧
    (∀ id before (s : NfSession α) t,
      TimedRun (NfSession.processEvent conf) (NfSession.new id) before s t →
        ∀ timer ∈ t.started, ¬ s.Owns timer → ∀ later s' t',
          Transition.Run (timed (NfSession.processEvent conf)) (s, t) later (s', t') →
            (∀ st ∈ later, st.pre.2.Genuine st.input) → s'.state ≠ .close →
              ∀ d, s'.processEvent conf d (.timer timer) = .next s' []) ∧
    ∀ id random before (s : NrSession α) t,
      TimedRun (NrSession.processEvent conf) (NrSession.new conf id random) before s t →
        ∀ timer ∈ t.started, ¬ s.Owns timer → ∀ later s' t',
          Transition.Run (timed (NrSession.processEvent conf)) (s, t) later (s', t') →
            (∀ st ∈ later, st.pre.2.Genuine st.input) → s'.state ≠ .close →
              ∀ d, s'.processEvent conf d (.timer timer) = .next s' [] := by
  refine ⟨?_, ?_, ?_⟩
  · intro id random before s t hrun timer htimer hdisowned later s' t' hlater hgenuine hopen d
    have hsound := (NiSession.waits_of_run hrun).sound
    have hdisowned' := hdisowned.of_run htimer hsound hlater hgenuine
    exact (hdisowned'.stale hopen).processEvent_eq d
  · intro id before s t hrun timer htimer hdisowned later s' t' hlater hgenuine hopen d
    have hsound := (NfSession.waits_of_run hrun).sound
    have hdisowned' := NfSession.not_owns_of_run hdisowned htimer hsound hlater hgenuine
    exact (NfSession.stale_of_not_owns hdisowned' hopen).processEvent_eq conf d
  · intro id random before s t hrun timer htimer hdisowned later s' t' hlater hgenuine hopen d
    have hsound := (NrSession.waits_of_run hrun).sound
    have hdisowned' := NrSession.not_owns_of_run hdisowned htimer hsound hlater hgenuine
    exact (NrSession.stale_of_not_owns hdisowned' hopen).processEvent_eq conf d

end Anslp
