import Anslp.Session.Timers

/-!
# Sessions that hear nothing

Every open session waits for a timer, and when its peers are silent it gives up after a
bounded number of expiries.  The proof ranks a session by the expiries it can still survive:
the retries left in the state it is in, those of the states it can still get to, and the
timers that run on without being waited for.

Main results:

- Definitions {lit}`NiSession.Waits`, {lit}`NfSession.Waits` and {lit}`NrSession.Waits`: the
  timers an open session can rely on.
- Theorem {lit}`closes_of_run`: an open session waits for a timer, and closes after a bounded
  number of expiries when nothing else happens.

Current gaps:

- The bounds count expiries of timers that are waited for, not time.
-/

namespace Anslp

/-- Another retry leaves fewer of them. -/
theorem toNat_sub_add_one_lt {count retries : UInt32} (h : count < retries) :
    retries.toNat - (count + 1).toNat < retries.toNat - count.toNat := by
  rw [toNat_add_one_of_lt h]
  rw [UInt32.lt_iff_toNat_lt] at h
  omega

/-! ## Initiator -/

namespace NiSession

variable {α : Type} {d : Dispatcher α} {s s' : NiSession α} {t : Timers} {evt : Event α}
  {effects : List (Effect α)}

/-- The timers of an initiator. -/
def Owns (s : NiSession α) (id : Nat) : Prop :=
  id = s.responseTimer ∨ id = s.refreshTimer

theorem Transits.startsOwn (ht : Transits d s evt s' effects) : Timers.StartsOwn d effects := by
  cases ht with
  | created _ _ htold =>
      subst htold
      simp [Effect.started?]
  | failed _ hreported => exact Timers.startsOwn_of_reported hreported
  | uninstalled _ _ _ hremoval hreported =>
      have htail := Timers.startsOwn_of_reported (d := d) hreported
      subst hremoval
      split_ifs <;> simpa [Effect.started?] using htail
  | removing _ hends | closed _ hends => cases hends <;> simp [Effect.started?]
  | _ => simp [Effect.started?]

/-- The REFRESH timer is the one before or a new one. -/
theorem Transits.refreshTimer_eq (ht : Transits d s evt s' effects) :
    s'.refreshTimer = s.refreshTimer ∨
      s'.refreshTimer ∈ effects.filterMap Effect.started? := by
  cases ht with
  | installed | refreshed => exact Or.inr (by simp [Effect.started?])
  | removing _ hends | closed _ hends => cases hends <;> exact Or.inl rfl
  | _ => exact Or.inl rfl

/-- What an initiator waits for: while it is open the timer of the state runs, in AUCTIONING
either of two, and there the response timer only after the REFRESH timer, with a REFRESH to
send again. -/
structure Waits (s : NiSession α) (t : Timers) : Prop where
  stored : s.Stored
  sound : t.Sound
  started : s.refreshTimer = 0 ∨ s.refreshTimer ∈ t.started
  response : s.state ≠ .close → s.state ≠ .auctioning → s.responseTimer ∈ t.running
  up : s.state = .auctioning → s.refreshTimer ∈ t.running ∨ s.responseTimer ∈ t.running
  refreshing : s.state = .auctioning → s.responseTimer ∈ t.running →
    s.refreshTimer ∉ t.running ∧ s.lastRefreshMsg.isSome = true

theorem waits_new {conf : AnslpConfig} {id : SessionId} {random : UInt32} :
    (new conf id random : NiSession α).Waits .none where
  stored := stored_of_close rfl
  sound := Timers.sound_none
  started := Or.inl rfl
  response := fun hopen => absurd rfl hopen
  up := nofun
  refreshing := nofun

theorem Waits.response_after (h : s.Waits t) (ht : Transits d s evt s' effects)
    (hopen : s'.state ≠ .close) (hup : s'.state ≠ .auctioning) :
    s'.responseTimer ∈ (t.after evt effects).running := by
  cases ht with
  | discarded hignored =>
      refine Timers.running_after_of_ne (h.response hopen hup) fun hevt => ?_
      refine hignored _ hevt ?_
      cases hstate : s.state with
      | close => exact absurd hstate hopen
      | auctioning => exact absurd hstate hup
      | pending | pendingInstalling | pendingTeardown => rw [Consults, hstate]
  | created =>
      exact Timers.running_after_of_started (by simp [Effect.started?, NiSession.created])
  | createRetried | responded | responseRetried | removing | removalRetried =>
      exact Timers.running_after_of_started (by simp [Effect.started?, NiSession.responded])
  | createdUntold hstate => exact absurd hstate hopen
  | failed | tornDown | uninstalled | closed | removed => exact absurd rfl hopen
  | installed => exact absurd rfl hup
  | refreshSent hstate | refreshRetried hstate | tearingDown hstate | refreshed hstate =>
      exact absurd hstate hup
  | biddingSent | biddingTaken =>
      refine Timers.running_after_of_ne (h.response hopen hup) fun hevt => ?_
      cases hevt

theorem Waits.up_after (h : s.Waits t) (ht : Transits d s evt s' effects)
    (hstate : s'.state = .auctioning) :
    s'.refreshTimer ∈ (t.after evt effects).running ∨
      s'.responseTimer ∈ (t.after evt effects).running := by
  cases ht with
  | discarded hignored =>
      refine (h.up hstate).imp (fun hrunning => ?_) fun hrunning => ?_
      · exact Timers.running_after_of_ne hrunning fun hevt =>
          hignored _ hevt ((consults_iff_of_auctioning hstate).mpr (Or.inl rfl))
      · exact Timers.running_after_of_ne hrunning fun hevt =>
          hignored _ hevt ((consults_iff_of_auctioning hstate).mpr (Or.inr rfl))
  | installed | refreshed =>
      exact Or.inl (Timers.running_after_of_started (by simp [Effect.started?]))
  | refreshSent | refreshRetried =>
      exact Or.inr (Timers.running_after_of_started (by simp [Effect.started?]))
  | tearingDown | biddingSent | biddingTaken =>
      exact (h.up hstate).imp (Timers.running_after_of_ne · nofun)
        (Timers.running_after_of_ne · nofun)
  | createdUntold hs | createRetried hs | responseRetried hs | removalRetried hs =>
      cases hs.symm.trans hstate
  | created | failed | tornDown | responded | uninstalled | removing | closed | removed =>
      cases hstate

theorem Waits.refreshing_after (h : s.Waits t) (hgenuine : t.Genuine (d, evt))
    (ht : Transits d s evt s' effects) (hstate : s'.state = .auctioning)
    (hrunning : s'.responseTimer ∈ (t.after evt effects).running) :
    s'.refreshTimer ∉ (t.after evt effects).running ∧ s'.lastRefreshMsg.isSome = true := by
  have hold : ∀ {id : Nat}, id = 0 ∨ id ∈ t.started →
      id ∈ (t.after evt effects).running → id ∈ t.running ∧ evt ≠ .timer id :=
    hgenuine.fresh.running_of_after ht.startsOwn
  have hkept : s.refreshTimer ∉ t.running → s.refreshTimer ∉ (t.after evt effects).running :=
    fun hstopped hafter => hstopped (hold h.started hafter).1
  cases ht with
  | discarded | biddingSent | biddingTaken =>
      rcases h.refreshing hstate (Timers.running_of_after_of_nil rfl hrunning) with
        ⟨hstopped, hsome⟩
      exact ⟨hkept hstopped, hsome⟩
  | tearingDown =>
      exact ⟨hkept (h.refreshing hstate (Timers.running_of_after_of_nil rfl hrunning)).1, rfl⟩
  | installed | refreshed =>
      exact absurd (h.sound.running 0 (hold (Or.inl rfl) hrunning).1) h.sound.zero
  | refreshSent _ _ hid =>
      exact ⟨fun hafter => (hold h.started hafter).2 (congrArg _ hid), rfl⟩
  | refreshRetried _ hc hid =>
      have hwaiting : s.responseTimer ∈ t.running := hid ▸ hgenuine.running _ rfl
      exact ⟨hkept (h.refreshing hstate hwaiting).1, (h.refreshing hstate hwaiting).2⟩
  | createdUntold hs | createRetried hs | responseRetried hs | removalRetried hs =>
      cases hs.symm.trans hstate
  | created | failed | tornDown | responded | uninstalled | removing | closed | removed =>
      cases hstate

/-- Every call leaves a timer to wait for. -/
theorem Waits.next (h : s.Waits t) (hgenuine : t.Genuine (d, evt))
    (hnext : s.processEvent d evt = .next s' effects) : s'.Waits (t.after evt effects) := by
  have ht := transits_of_processEvent hnext
  refine ⟨h.stored.transits ht, h.sound.after hgenuine.fresh ht.startsOwn, ?_,
    h.response_after ht, h.up_after ht, h.refreshing_after hgenuine ht⟩
  rw [Timers.mem_started_after]
  rcases ht.refreshTimer_eq with heq | hnew
  · rw [heq]
    exact h.started.imp_right Or.inl
  · exact Or.inr (Or.inr hnew)

/-- An initiator waits in every run in which its timers behave. -/
theorem waits_of_run {conf : AnslpConfig} {id : SessionId} {random : UInt32}
    {trace : List (Transition.Step (NiSession α × Timers) (Dispatcher α × Event α)
      (Outcome (NiSession α) α))}
    (hrun : TimedRun processEvent (new conf id random) trace s t) : s.Waits t :=
  hrun.invariant waits_new fun _ _ _ _ _ _ hs hgenuine hnext => hs.next hgenuine hnext

theorem Waits.exists_running (h : s.Waits t) (hopen : s.state ≠ .close) :
    ∃ id ∈ t.running, s.Consults id := by
  by_cases hup : s.state = .auctioning
  · rcases h.up hup with hrunning | hrunning
    · exact ⟨_, hrunning, (consults_iff_of_auctioning hup).mpr (Or.inl rfl)⟩
    · exact ⟨_, hrunning, (consults_iff_of_auctioning hup).mpr (Or.inr rfl)⟩
  · refine ⟨_, h.response hopen hup, ?_⟩
    cases hstate : s.state with
    | close => exact absurd hstate hopen
    | auctioning => exact absurd hstate hup
    | pending | pendingInstalling | pendingTeardown => rw [Consults, hstate]

/-- The expiries an open session can still survive. -/
def rank (s : NiSession α) (t : Timers) : Nat :=
  let retries := s.maxRetries.toNat
  let refresh := if s.refreshTimer ∈ t.running then 1 else 0
  match s.state with
  | .close => 0
  | .pending | .pendingInstalling => (retries - s.createCounter.toNat) + 1 + refresh
  | .auctioning =>
      if s.refreshTimer ∈ t.running then 2 * retries + 3
      else (retries - s.refreshCounter.toNat) + 1 + (retries + 1)
  | .pendingTeardown => (retries - s.teardownCounter.toNat) + 1 + refresh

theorem rank_le (s : NiSession α) (t : Timers) : s.rank t ≤ 2 * s.maxRetries.toNat + 3 := by
  unfold rank
  dsimp only
  split
  · exact Nat.zero_le _
  all_goals split_ifs <;> omega

theorem rank_pos (hopen : s.state ≠ .close) : 0 < s.rank t := by
  unfold rank
  dsimp only
  split
  · exact absurd ‹_› hopen
  all_goals split_ifs <;> omega

theorem rank_of_close (hclosed : s.state = .close) : s.rank t = 0 := by
  rw [rank, hclosed]

/-- The expiry of a timer of an open session that does not react to it is that of a REFRESH
timer which is left over from AUCTIONING. -/
theorem leftOver_of_not_consults {id : Nat} (hopen : s.state ≠ .close) (howns : s.Owns id)
    (hignored : ¬ s.Consults id) : s.state ≠ .auctioning ∧ id = s.refreshTimer := by
  have hup : s.state ≠ .auctioning := fun hup =>
    hignored ((consults_iff_of_auctioning hup).mpr howns.symm)
  refine ⟨hup, howns.resolve_left fun hresponse => hignored ?_⟩
  cases hstate : s.state with
  | close => exact absurd hstate hopen
  | auctioning => exact absurd hstate hup
  | pending | pendingInstalling | pendingTeardown => rwa [Consults, hstate]

/-- Outside AUCTIONING the rank counts the REFRESH timer. -/
theorem rank_lt_of_stopped {t' : Timers} (hopen : s.state ≠ .close)
    (hup : s.state ≠ .auctioning) (hbefore : s.refreshTimer ∈ t.running)
    (hafter : s.refreshTimer ∉ t'.running) : s.rank t' < s.rank t := by
  cases hstate : s.state with
  | close => exact absurd hstate hopen
  | auctioning => exact absurd hstate hup
  | pending | pendingInstalling | pendingTeardown =>
      simp only [rank, hstate, if_pos hbefore, if_neg hafter]
      omega

/-- Every expiry of a timer of an open session lowers the rank. -/
theorem Waits.rank_lt {id : Nat} (h : s.Waits t) (hopen : s.state ≠ .close) (hfresh : t.Fresh d)
    (hid : id ∈ t.running) (howns : s.Owns id)
    (hnext : s.processEvent d (.timer id) = .next s' effects) :
    s'.rank (t.after (.timer id) effects) < s.rank t := by
  have ht := transits_of_processEvent hnext
  have hkept : s.refreshTimer ∈ (t.after (.timer id) effects).running →
      s.refreshTimer ∈ t.running ∧ Event.timer (α := α) id ≠ .timer s.refreshTimer :=
    hfresh.running_of_after ht.startsOwn h.started
  have hrefresh : (if s.refreshTimer ∈ (t.after (.timer id) effects).running then 1 else 0) ≤
      if s.refreshTimer ∈ t.running then 1 else 0 := by
    split_ifs with hafter hbefore
    · exact Nat.le_refl 1
    · exact absurd (hkept hafter).1 hbefore
    · exact Nat.zero_le 1
    · exact Nat.le_refl 0
  generalize hevt : Event.timer id = evt at ht hkept hrefresh
  generalize t.after evt effects = t' at hkept hrefresh
  cases ht with
  | discarded hignored =>
      rcases leftOver_of_not_consults hopen howns (hignored id hevt.symm) with ⟨hup, hleft⟩
      exact rank_lt_of_stopped hopen hup (hleft ▸ hid) fun hafter =>
        (hkept hafter).2 (hevt.symm.trans (congrArg _ hleft))
  | createRetried hs _ _ hcount | responseRetried hs _ _ hcount =>
      have hlt := toNat_sub_add_one_lt hcount
      simp only [rank, hs]
      omega
  | refreshSent hs _ hrefreshed =>
      cases hevt
      have hstopped : s.refreshTimer ∉ t'.running := fun hafter =>
        (hkept hafter).2 (congrArg _ hrefreshed)
      simp only [rank, hs, if_neg hstopped, if_pos (hrefreshed ▸ hid : s.refreshTimer ∈ t.running),
        UInt32.toNat_zero]
      omega
  | refreshRetried hs _ hresponse hcount =>
      cases hevt
      have hbefore := (h.refreshing hs (hresponse ▸ hid)).1
      have hlt := toNat_sub_add_one_lt hcount
      simp only [rank, hs, if_neg hbefore, if_neg fun hafter => hbefore (hkept hafter).1]
      omega
  | removing hs hends =>
      cases hends with
      | timeout hresponse =>
          cases hevt
          have hbefore := (h.refreshing hs (hresponse ▸ hid)).1
          simp only [rank, hs, if_neg hbefore, if_neg fun hafter => hbefore (hkept hafter).1,
            UInt32.toNat_zero]
          omega
      | tornDown | died => cases hevt
  | removalRetried hs _ _ hcount =>
      have hlt := toNat_sub_add_one_lt hcount
      simp only [rank, hs]
      omega
  | failed | uninstalled | closed | removed =>
      rw [rank_of_close rfl]
      exact rank_pos hopen
  | biddingSent | biddingTaken | created | createdUntold | tornDown | responded | installed
  | tearingDown | refreshed => cases hevt

/-- The expiry of a timer is never undefined. -/
theorem Waits.processEvent_ne_undefined {id : Nat} {f : Fault} (h : s.Waits t)
    (hid : id ∈ t.running) : s.processEvent d (.timer id) ≠ .undefined f := by
  intro hundefined
  have hended := ended_processEvent d s (.timer id)
  rw [hundefined] at hended
  cases hended with
  | undefined hreason =>
      rcases hreason with hstored | hunsafe
      · exact hstored h.stored
      · cases hunsafe with
        | timer hup _ hresponse _ hnone =>
            have hsome := (h.refreshing hup (hresponse ▸ hid)).2
            rw [hnone] at hsome
            cases hsome
        | noRefresh _ hevt => exact hevt

/-- How an initiator closes when it hears nothing. -/
abbrev closing (α : Type) : Transition.Course (NiSession α × Timers) (Dispatcher α × Event α)
    (Outcome (NiSession α) α) :=
  Anslp.closing (fun s => s.state ≠ .close) Owns Consults

theorem Waits.reachesWithin (h : s.Waits t) :
    Transition.ReachesWithin (timed processEvent) (closing α) (2 * s.maxRetries.toNat + 3)
      (s, t) := by
  refine reachesWithin_closing (I := Waits) rank ?_ ?_ ?_ ?_ ?_ _ h (rank_le s t)
  · intro s t _ hrank hopen
    exact absurd hrank (rank_pos hopen).ne'
  · exact fun s t hs hopen => hs.exists_running hopen
  · exact fun s t d evt s' effects hs hgenuine hnext => hs.next hgenuine hnext
  · exact fun s t d id f hs _ hid => hs.processEvent_ne_undefined hid
  · exact fun s t d id s' effects hs hopen hfresh hid howns hnext =>
      hs.rank_lt hopen hfresh hid howns hnext

end NiSession

/-! ## Forwarder -/

namespace NfSession

variable {α : Type} {conf : AnslpConfig} {d : Dispatcher α} {s s' : NfSession α} {t : Timers}
  {evt : Event α} {effects : List (Effect α)}

/-- The timers of a forwarder. -/
def Owns (s : NfSession α) (id : Nat) : Prop :=
  id = s.responseTimer ∨ id = s.stateTimer

theorem SetUp.startsOwn {c : KindMsg .create α} (h : SetUp conf d s c s' effects) :
    Timers.StartsOwn d effects := by
  cases h <;> simp [Effect.started?]

theorem Transits.startsOwn (ht : Transits conf d s evt s' effects) :
    Timers.StartsOwn d effects := by
  cases ht with
  | created _ _ _ _ hsetUp | replaced _ _ hsetUp => exact hsetUp.startsOwn
  | repeated _ _ hpassedOn =>
      subst hpassedOn
      split_ifs <;> simp [Effect.started?]
  | installFailed _ _ _ _ hremoval =>
      subst hremoval
      split_ifs <;> simp [Effect.started?]
  | removing _ hends | closed _ hends => cases hends <;> simp [Effect.started?]
  | _ => simp [Effect.started?]

/-- What a forwarder waits for: the state timer of an open session runs. -/
structure Waits (s : NfSession α) (t : Timers) : Prop where
  stored : s.Stored
  sound : t.Sound
  running : s.state ≠ .close → s.stateTimer ∈ t.running

theorem waits_new {id : SessionId} : (new id : NfSession α).Waits .none where
  stored := stored_of_not_isPending (not_isPending_of_close rfl)
  sound := Timers.sound_none
  running := fun hopen => absurd rfl hopen

/-- The state timer is waited for in every open session. -/
theorem consults_stateTimer (hopen : s.state ≠ .close) : s.Consults s.stateTimer := by
  cases hstate : s.state with
  | close => exact absurd hstate hopen
  | auctioning => exact (consults_iff_of_auctioning hstate).mpr (Or.inr rfl)
  | pendingCheck | pending | pendingInstalling | pendingTeardown => rw [Consults, hstate]

theorem SetUp.running {c : KindMsg .create α} (h : SetUp conf d s c s' effects)
    (hopen : s'.state ≠ .close) : s'.stateTimer ∈ effects.filterMap Effect.started? := by
  cases h with
  | notPathcoupled | refused => exact absurd rfl hopen
  | checking | passed => simp [Effect.started?]

/-- Every transition to an open session leaves the state timer running. -/
theorem Waits.running_after (h : s.Waits t) (ht : Transits conf d s evt s' effects)
    (hopen : s'.state ≠ .close) : s'.stateTimer ∈ (t.after evt effects).running := by
  cases ht with
  | discarded _ hignored =>
      exact Timers.running_after_of_ne (h.running hopen) fun hevt =>
        hignored _ hevt (consults_stateTimer hopen)
  | createRejected hstate | createWithoutLifetime hstate => exact absurd hstate hopen
  | created _ _ _ _ hsetUp | replaced _ _ hsetUp =>
      exact Timers.running_after_of_started (hsetUp.running hopen)
  | repeated | checked | responded | installed | responsePassed | removing =>
      exact Timers.running_after_of_started (by simp [Effect.started?])
  | abandoned | givenUp | refused | installFailed | closed | removalTimedOut | removed =>
      exact absurd rfl hopen
  | pendingRejected | refreshRejected | refreshed | biddingTaken | biddingPassed =>
      exact Timers.running_after_of_ne (h.running hopen) nofun

/-- Every call leaves a timer to wait for. -/
theorem Waits.next (h : s.Waits t) (hgenuine : t.Genuine (d, evt))
    (hnext : s.processEvent conf d evt = .next s' effects) : s'.Waits (t.after evt effects) := by
  have ht := transits_of_processEvent hnext
  exact ⟨h.stored.transits ht, h.sound.after hgenuine.fresh ht.startsOwn, h.running_after ht⟩

/-- A forwarder waits in every run in which its timers behave. -/
theorem waits_of_run {id : SessionId}
    {trace : List (Transition.Step (NfSession α × Timers) (Dispatcher α × Event α)
      (Outcome (NfSession α) α))}
    (hrun : TimedRun (processEvent conf) (new id) trace s t) : s.Waits t :=
  hrun.invariant waits_new fun _ _ _ _ _ _ hs hgenuine hnext => hs.next hgenuine hnext

/-- The expiries an open session can still survive. -/
def rank (s : NfSession α) (t : Timers) : Nat :=
  match s.state with
  | .close => 0
  | .auctioning => 2
  | _ => 1 + if s.responseTimer ∈ t.running then 1 else 0

theorem rank_le (s : NfSession α) (t : Timers) : s.rank t ≤ 3 := by
  unfold rank
  split
  · exact Nat.zero_le _
  · exact Nat.le_succ 2
  · split_ifs <;> omega

theorem rank_pos (hopen : s.state ≠ .close) : 0 < s.rank t := by
  unfold rank
  split
  · exact absurd ‹_› hopen
  · exact Nat.zero_lt_two
  · omega

theorem rank_of_close (hclosed : s.state = .close) : s.rank t = 0 := by
  rw [rank, hclosed]

/-- Every expiry of a timer of an open session lowers the rank. -/
theorem Waits.rank_lt {id : Nat} (h : s.Waits t) (hfresh : t.Fresh d)
    (hopen : s.state ≠ .close) (hid : id ∈ t.running) (howns : s.Owns id)
    (hnext : s.processEvent conf d (.timer id) = .next s' effects) :
    s'.rank (t.after (.timer id) effects) < s.rank t := by
  have ht := transits_of_processEvent hnext
  have hgone : ∀ {id' : Nat}, id' = 0 ∨ id' = id →
      id' ∉ (t.after (.timer id) effects).running := by
    rintro id' (rfl | rfl) hafter
    · exact h.sound.zero (h.sound.running 0
        (hfresh.running_of_after ht.startsOwn (Or.inl rfl) hafter).1)
    · exact (hfresh.running_of_after ht.startsOwn
        (Or.inr (h.sound.running id' hid)) hafter).2 rfl
  generalize hevt : Event.timer id = evt at ht hgone
  generalize t.after evt effects = t' at hgone
  cases ht with
  | discarded _ hignored =>
      -- a response timer that is left over from before the session was set up again
      have hignored' : ¬ s.Consults id := hignored id hevt.symm
      have hleft : id = s.responseTimer := by
        refine howns.resolve_right fun hstate => hignored' ?_
        rw [hstate]
        exact consults_stateTimer hopen
      have hbefore : s.responseTimer ∈ t.running := hleft ▸ hid
      have hafter : s.responseTimer ∉ t'.running := hgone (Or.inr hleft.symm)
      cases hstate : s.state with
      | close => exact absurd hstate hopen
      | auctioning =>
          exact absurd ((consults_iff_of_auctioning hstate).mpr (Or.inl hleft)) hignored'
      | pendingCheck | pending | pendingInstalling | pendingTeardown =>
          simp only [rank, hstate, if_pos hbefore, if_neg hafter]
          omega
  | removing hs hends =>
      cases hends with
      | responseTimeout hresponse =>
          cases hevt
          simp only [rank, hs, if_neg (hgone (Or.inr hresponse.symm))]
          omega
      | timeout =>
          simp only [rank, hs, if_neg (hgone (Or.inl rfl))]
          omega
      | noNextNode | badRoute | response => cases hevt
  | givenUp | closed | removalTimedOut =>
      rw [rank_of_close rfl]
      exact rank_pos hopen
  | createRejected | createWithoutLifetime | created | pendingRejected | abandoned | repeated
  | replaced | checked | responded | refused | installed | installFailed | refreshRejected
  | refreshed | responsePassed | biddingTaken | biddingPassed | removed => cases hevt

/-- The expiry of a timer is never undefined. -/
theorem Waits.processEvent_ne_undefined {id : Nat} {f : Fault} (h : s.Waits t)
    (hopen : s.state ≠ .close) : s.processEvent conf d (.timer id) ≠ .undefined f := by
  intro hundefined
  have hended := ended_processEvent conf d s (.timer id)
  rw [hundefined] at hended
  cases hended with
  | undefined hreason =>
      rcases hreason with hstored | hunsafe
      · exact hstored h.stored
      · cases hunsafe with
        | noCreate hclosed => exact hopen hclosed
        | noRefresh _ hevt => exact hevt

/-- How a forwarder closes when it hears nothing. -/
abbrev closing (α : Type) : Transition.Course (NfSession α × Timers) (Dispatcher α × Event α)
    (Outcome (NfSession α) α) :=
  Anslp.closing (fun s => s.state ≠ .close) Owns Consults

theorem Waits.reachesWithin (h : s.Waits t) :
    Transition.ReachesWithin (timed (processEvent conf)) (closing α) 3 (s, t) := by
  refine reachesWithin_closing (I := Waits) rank ?_ ?_ ?_ ?_ ?_ _ h (rank_le s t)
  · intro s t _ hrank hopen
    exact absurd hrank (rank_pos hopen).ne'
  · exact fun s t hs hopen => ⟨_, hs.running hopen, consults_stateTimer hopen⟩
  · exact fun s t d evt s' effects hs hgenuine hnext => hs.next hgenuine hnext
  · exact fun s t d id f hs hopen _ => hs.processEvent_ne_undefined hopen
  · exact fun s t d id s' effects hs hopen hfresh hid howns hnext =>
      hs.rank_lt hfresh hopen hid howns hnext

end NfSession

/-! ## Responder -/

namespace NrSession

variable {α : Type} {conf : AnslpConfig} {d : Dispatcher α} {s s' : NrSession α} {t : Timers}
  {evt : Event α} {effects : List (Effect α)}

/-- The timer of a responder. -/
def Owns (s : NrSession α) (id : Nat) : Prop :=
  id = s.stateTimer

theorem Transits.startsOwn (ht : Transits conf d s evt s' effects) :
    Timers.StartsOwn d effects := by
  cases ht with
  | @checkRetried _ _ result => cases result <;> simp [Effect.started?, Session.CheckResult.effects]
  | installFailed _ _ _ hremoval =>
      subst hremoval
      split_ifs <;> simp [Effect.started?]
  | biddingSent _ htold =>
      subst htold
      split_ifs <;> simp [Effect.started?]
  | removing _ hends | closed _ hends => cases hends <;> simp [Effect.started?]
  | _ => simp [Effect.started?]

/-- What a responder waits for: the timer of an open session runs. -/
structure Waits (s : NrSession α) (t : Timers) : Prop where
  stored : s.Stored
  sound : t.Sound
  running : s.state ≠ .close → s.stateTimer ∈ t.running

theorem waits_new {id : SessionId} {random : UInt32} :
    (new conf id random : NrSession α).Waits .none where
  stored := stored_of_close rfl
  sound := Timers.sound_none
  running := fun hopen => absurd rfl hopen

/-- Every transition to an open session leaves the timer running. -/
theorem Waits.running_after (h : s.Waits t) (ht : Transits conf d s evt s' effects)
    (hopen : s'.state ≠ .close) : s'.stateTimer ∈ (t.after evt effects).running := by
  cases ht with
  | discarded hignored =>
      exact Timers.running_after_of_ne (h.running hopen) fun hevt =>
        hignored _ hevt ⟨hopen, rfl⟩
  | createRejected hstate | createWithoutLifetime hstate => exact absurd hstate hopen
  | started | startedIdle | checkRetried | checked | installRetried | installed | installFailed
  | refreshed | removing | removalRetried =>
      exact Timers.running_after_of_started (by simp [Effect.started?])
  | startFailed | givenUp | closed | removalGivenUp | removed => exact absurd rfl hopen
  | refreshRejected | biddingPassed | biddingSent =>
      exact Timers.running_after_of_ne (h.running hopen) nofun

/-- Every call leaves a timer to wait for. -/
theorem Waits.next (h : s.Waits t) (hgenuine : t.Genuine (d, evt))
    (hnext : s.processEvent conf d evt = .next s' effects) : s'.Waits (t.after evt effects) := by
  have ht := transits_of_processEvent hnext
  exact ⟨h.stored.transits ht, h.sound.after hgenuine.fresh ht.startsOwn, h.running_after ht⟩

/-- A responder waits in every run in which its timers behave. -/
theorem waits_of_run {id : SessionId} {random : UInt32}
    {trace : List (Transition.Step (NrSession α × Timers) (Dispatcher α × Event α)
      (Outcome (NrSession α) α))}
    (hrun : TimedRun (processEvent conf) (new conf id random) trace s t) : s.Waits t :=
  hrun.invariant waits_new fun _ _ _ _ _ _ hs hgenuine hnext => hs.next hgenuine hnext

/-- The expiries an open session can still survive. -/
def rank (s : NrSession α) : Nat :=
  let retries := s.maxRetries.toNat - s.createCounter.toNat
  match s.state with
  | .close => 0
  | .auctioning => retries + 2
  | _ => retries + 1

theorem rank_le (s : NrSession α) : s.rank ≤ 2 * s.maxRetries.toNat + 3 := by
  unfold rank
  dsimp only
  split <;> omega

theorem rank_pos (hopen : s.state ≠ .close) : 0 < s.rank := by
  unfold rank
  dsimp only
  split
  · exact absurd ‹_› hopen
  all_goals omega

theorem rank_of_close (hclosed : s.state = .close) : s.rank = 0 := by
  rw [rank, hclosed]

/-- Every expiry of the timer of an open session lowers the rank. -/
theorem rank_lt {id : Nat} (hopen : s.state ≠ .close) (howns : s.Owns id)
    (hnext : s.processEvent conf d (.timer id) = .next s' effects) : s'.rank < s.rank := by
  have ht := transits_of_processEvent hnext
  generalize hevt : Event.timer id = evt at ht
  cases ht with
  | discarded hignored => exact absurd ⟨hopen, howns⟩ (hignored id hevt.symm)
  | checkRetried hs _ hcount | installRetried hs hcount | removalRetried hs _ hcount =>
      have hlt := toNat_sub_add_one_lt hcount
      simp only [rank, hs]
      omega
  | removing hs =>
      simp only [rank, hs]
      omega
  | givenUp | closed | removalGivenUp =>
      rw [rank_of_close rfl]
      exact rank_pos hopen
  | createRejected | createWithoutLifetime | started | startedIdle | startFailed | checked
  | installed | installFailed | refreshRejected | refreshed | biddingPassed | biddingSent
  | removed => cases hevt

/-- The expiry of a timer is never undefined. -/
theorem Waits.processEvent_ne_undefined {id : Nat} {f : Fault} (h : s.Waits t) :
    s.processEvent conf d (.timer id) ≠ .undefined f := by
  intro hundefined
  have hended := ended_processEvent conf d s (.timer id)
  rw [hundefined] at hended
  cases hended with
  | undefined hreason =>
      rcases hreason with hstored | hunsafe
      · exact hstored h.stored
      · cases hunsafe

/-- How a responder closes when it hears nothing. -/
abbrev closing (α : Type) : Transition.Course (NrSession α × Timers) (Dispatcher α × Event α)
    (Outcome (NrSession α) α) :=
  Anslp.closing (fun s => s.state ≠ .close) Owns Consults

theorem Waits.reachesWithin (h : s.Waits t) :
    Transition.ReachesWithin (timed (processEvent conf)) (closing α)
      (2 * s.maxRetries.toNat + 3) (s, t) := by
  refine reachesWithin_closing (I := Waits) (fun s _ => s.rank) ?_ ?_ ?_ ?_ ?_ _ h
    (rank_le s)
  · intro s t _ hrank hopen
    exact absurd hrank (rank_pos hopen).ne'
  · exact fun s t hs hopen => ⟨_, hs.running hopen, hopen, rfl⟩
  · exact fun s t d evt s' effects hs hgenuine hnext => hs.next hgenuine hnext
  · exact fun s t d id f hs _ _ => hs.processEvent_ne_undefined
  · exact fun s t d id s' effects _ hopen _ _ howns hnext => rank_lt hopen howns hnext

end NrSession

/-! ## All sessions -/

/-- In every run of a session whose timers behave, an open session waits for a timer that
runs, and closes when it receives nothing but expiries of its timers: after twice the number
of retries and three of them, a forwarder after three. -/
theorem closes_of_run {α : Type} (conf : AnslpConfig) :
    (∀ id random trace (s : NiSession α) t,
      TimedRun NiSession.processEvent (NiSession.new conf id random) trace s t →
        s.state ≠ .close → (∃ id ∈ t.running, s.Consults id) ∧
          Transition.ReachesWithin (timed NiSession.processEvent) (NiSession.closing α)
            (2 * s.maxRetries.toNat + 3) (s, t)) ∧
    (∀ id trace (s : NfSession α) t,
      TimedRun (NfSession.processEvent conf) (NfSession.new id) trace s t →
        s.state ≠ .close → (∃ id ∈ t.running, s.Consults id) ∧
          Transition.ReachesWithin (timed (NfSession.processEvent conf)) (NfSession.closing α)
            3 (s, t)) ∧
    ∀ id random trace (s : NrSession α) t,
      TimedRun (NrSession.processEvent conf) (NrSession.new conf id random) trace s t →
        s.state ≠ .close → (∃ id ∈ t.running, s.Consults id) ∧
          Transition.ReachesWithin (timed (NrSession.processEvent conf)) (NrSession.closing α)
            (2 * s.maxRetries.toNat + 3) (s, t) := by
  refine ⟨?_, ?_, ?_⟩
  · intro id random trace s t hrun hopen
    have h := NiSession.waits_of_run hrun
    exact ⟨h.exists_running hopen, h.reachesWithin⟩
  · intro id trace s t hrun hopen
    have h := NfSession.waits_of_run hrun
    exact ⟨⟨_, h.running hopen, NfSession.consults_stateTimer hopen⟩, h.reachesWithin⟩
  · intro id random trace s t hrun hopen
    have h := NrSession.waits_of_run hrun
    exact ⟨⟨_, h.running hopen, hopen, rfl⟩, h.reachesWithin⟩

/-! ### An initiator that hears nothing -/

namespace Unanswered

open Sample RepeatedResponse

/-- The first timers are new. -/
theorem fresh_surroundings : Timers.none.Fresh surroundings where
  injective := fun _ _ h => Nat.succ.inj h
  ne_zero := Nat.succ_ne_zero
  notStarted := fun _ => List.not_mem_nil

/-- With its CREATE sent three times again the initiator closes. -/
theorem closes_waiting : (∃ id ∈ [1], waiting.Consults id) ∧
    Transition.ReachesWithin (timed NiSession.processEvent) (NiSession.closing RawIpap) 9
      (waiting, ⟨[1], [1]⟩) := by
  have hgenuine : Timers.none.Genuine (surroundings, .apiCreate request) :=
    ⟨fresh_surroundings, nofun⟩
  have hrun := TimedRun.nil.snoc hgenuine
    (rfl : NiSession.processEvent surroundings (.new conf 1 0) (.apiCreate request) =
      .next waiting _)
  have hopen : waiting.state ≠ .close := (nofun : NiState.pending ≠ .close)
  exact (closes_of_run conf).1 1 0 _ waiting _ hrun hopen

end Unanswered
end Anslp
