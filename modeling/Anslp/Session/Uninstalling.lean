import Anslp.Session.Safety

/-!
# What is left installed

Which runs that end in CLOSE without AUCTIONING undo what they handed to the installer.
The code that undoes it asks for the number of response objects of the rule, which are
only added by the step that enters AUCTIONING, so that it never runs before.

Main results:

- Theorems {lit}`NiSession.allUndone_iff`, {lit}`NfSession.allUndone_iff` and
  {lit}`NrSession.allUndone_iff`: the runs in which every installation is undone.
- Theorem {lit}`allUndone_iff_of_run`: the same for the three sessions.

Current gaps:

- None for runs that never enter AUCTIONING.
-/

namespace Anslp

/-! ## Installations in a run -/

namespace Effect

variable {α : Type}

/-- Whether objects are handed to the installer. -/
def installs : Effect α → Bool
  | installAuctionRules rule | sendResponse rule =>
      decide (0 < rule.getNumberMspecRequestObjects)
  | _ => false

/-- Whether the installer is asked to remove objects. -/
def uninstalls : Effect α → Bool
  | removeAuctionRules _ => true
  | _ => false

end Effect

/-- A step hands objects to the installer. -/
def Installs {σ α : Type} (st : Transition.Step σ (Dispatcher α × Event α) (Outcome σ α)) :
    Prop :=
  ∃ x ∈ st.output.effects, x.installs = true

/-- A step asks the installer to remove objects. -/
def Uninstalls {σ α : Type} (st : Transition.Step σ (Dispatcher α × Event α) (Outcome σ α)) :
    Prop :=
  ∃ x ∈ st.output.effects, x.uninstalls = true

/-- All that a run did to its surroundings, in order. -/
def effectsOf {σ α : Type}
    (trace : List (Transition.Step σ (Dispatcher α × Event α) (Outcome σ α))) :
    List (Effect α) :=
  trace.flatMap fun st => st.output.effects

/-- A removal comes after each installation, so that one comes after the last. -/
def AllUndone {α : Type} (effects : List (Effect α)) : Prop :=
  Transition.Followed (fun x => x.installs = true) (fun x => x.uninstalls = true) effects

theorem AuctionRule.getNumberMspecResponseObjects_eq_zero {α : Type} {rule : AuctionRule α}
    (h : rule.objectResponses = OrderedMap.empty) : rule.getNumberMspecResponseObjects = 0 := by
  rw [AuctionRule.getNumberMspecResponseObjects, h, OrderedMap.size_empty]

/-- Whether all is undone can be seen step by step, if no step does both. -/
theorem allUndone_iff_followed {σ α : Type}
    {trace : List (Transition.Step σ (Dispatcher α × Event α) (Outcome σ α))}
    (h : ∀ st ∈ trace, ¬ (Installs st ∧ Uninstalls st)) :
    AllUndone (effectsOf trace) ↔ Transition.Followed Installs Uninstalls trace :=
  Transition.followed_flatMap h

/-- Without a removal only what was never handed over is undone. -/
theorem allUndone_iff_of_not_uninstalls {σ α : Type}
    {trace : List (Transition.Step σ (Dispatcher α × Event α) (Outcome σ α))}
    (h : ∀ st ∈ trace, ¬ Uninstalls st) :
    AllUndone (effectsOf trace) ↔ ¬ ∃ st ∈ trace, Installs st := by
  rw [allUndone_iff_followed fun st hst hboth => h st hst hboth.2,
    Transition.followed_iff_of_forall_not h]
  simp only [not_exists, not_and]

/-- A machine that removes nothing before AUCTIONING has undone nothing before it. -/
theorem allUndone_iff_of_invariant {σ α : Type}
    {processEvent : Dispatcher α → σ → Event α → Outcome σ α} {start s : σ}
    {trace : List (Transition.Step σ (Dispatcher α × Event α) (Outcome σ α))}
    {I G : σ → Prop} (hrun : Transition.Run (machine processEvent) start trace s)
    (hstart : I start)
    (hkept : ∀ s d evt s' effects, I s → G s → processEvent d s evt = .next s' effects →
      G s' → I s')
    (hnot : ∀ s d evt s' effects, I s → G s → processEvent d s evt = .next s' effects →
      ∀ x ∈ effects, x.uninstalls = false)
    (hbefore : ∀ st ∈ trace, G st.pre) :
    AllUndone (effectsOf trace) ↔ ¬ ∃ st ∈ trace, Installs st := by
  refine allUndone_iff_of_not_uninstalls fun st hst => ?_
  rcases hrun.pre_of_mem hst with ⟨tr₁, tr₂, rfl, hpre, hstep⟩
  have hguard := hbefore st hst
  have hinvariant : I st.pre := by
    refine hpre.invariant_of_guarded (I := fun s => G s → I s) (G := fun s _ => G s) ?_
      (fun _ => hstart) (fun st' hst' => hbefore st' (List.mem_append_left _ hst')) hguard
    intro t input o u ht hg hnext hg'
    exact hkept t _ _ u _ (ht hg) hg (next_of_machine hnext) hg'
  rintro ⟨x, hx, huninstalls⟩
  have hnone := hnot _ _ _ _ _ hinvariant hguard (next_of_machine hstep) x hx
  rw [hnone] at huninstalls
  cases huninstalls

/-! ## Initiator -/

namespace NiSession

variable {α : Type} {d : Dispatcher α} {s s' : NiSession α} {evt : Event α}
  {effects : List (Effect α)}

/-- An initiator with no response objects, and with nothing to remove. -/
structure Bare (s : NiSession α) : Prop where
  responses : ∀ rule, s.lastAuctionInstallRule = some rule →
    rule.objectResponses = OrderedMap.empty
  notRemoving : s.state ≠ .pendingTeardown

theorem Bare.congr (h : s.Bare) (hrule : s'.lastAuctionInstallRule = s.lastAuctionInstallRule)
    (hstate : s'.state ≠ .pendingTeardown) : s'.Bare :=
  ⟨hrule ▸ h.responses, hstate⟩

/-- Before AUCTIONING no response objects are added. -/
theorem Bare.transits (h : s.Bare) (hstate : s.state ≠ .auctioning)
    (ht : Transits d s evt s' effects) (hstate' : s'.state ≠ .auctioning) : s'.Bare := by
  cases ht with
  | discarded | biddingTaken => exact h
  | created | failed | tornDown | uninstalled | removed => exact h.congr rfl nofun
  | createdUntold | createRetried | responseRetried | biddingSent | removalRetried =>
      exact h.congr rfl h.notRemoving
  | responded => exact ⟨by rintro rule ⟨⟩; rfl, nofun⟩
  | installed => exact absurd rfl hstate'
  | refreshSent hs | refreshRetried hs | tearingDown hs | refreshed hs | removing hs
  | closed hs => exact absurd hs hstate

/-- Before AUCTIONING nothing is removed. -/
theorem Bare.not_uninstalls (h : s.Bare) (hstate : s.state ≠ .auctioning)
    (ht : Transits d s evt s' effects) : ∀ x ∈ effects, x.uninstalls = false := by
  cases ht with
  | discarded | createdUntold | createRetried | tornDown | responded | responseRetried
  | installed | biddingSent | biddingTaken | removed => simp [Effect.uninstalls]
  | created _ _ htold => simp [htold, Effect.uninstalls]
  | failed _ hreported =>
      intro x hx
      obtain ⟨text, rfl⟩ := hreported x hx
      rfl
  | uninstalled _ hrule _ hremoval hreported =>
      have hnone := AuctionRule.getNumberMspecResponseObjects_eq_zero (h.responses _ hrule)
      rw [if_neg (by rw [hnone]; exact Nat.lt_irrefl 0)] at hremoval
      subst hremoval
      intro x hx
      rcases List.mem_cons.mp hx with rfl | hx
      · rfl
      · obtain ⟨text, rfl⟩ := hreported x hx
        rfl
  | removalRetried hs => exact absurd hs h.notRemoving
  | refreshSent hs | refreshRetried hs | tearingDown hs | refreshed hs | removing hs
  | closed hs => exact absurd hs hstate

/-- An initiator that never was in AUCTIONING has undone nothing. -/
theorem allUndone_iff {conf : AnslpConfig} {id : SessionId} {random : UInt32}
    {trace : List (Transition.Step (NiSession α) (Dispatcher α × Event α)
      (Outcome (NiSession α) α))} (hrun : Runs conf id random trace s)
    (hbefore : ∀ st ∈ trace, st.pre.state ≠ .auctioning) :
    AllUndone (effectsOf trace) ↔ ¬ ∃ st ∈ trace, Installs st := by
  refine allUndone_iff_of_invariant (I := Bare) (G := fun s => s.state ≠ .auctioning) hrun
    ⟨nofun, nofun⟩ ?_ ?_ hbefore
  · intro s d evt s' effects hbare hstate hnext hstate'
    exact hbare.transits hstate (transits_of_processEvent hnext) hstate'
  · intro s d evt s' effects hbare hstate hnext
    exact hbare.not_uninstalls hstate (transits_of_processEvent hnext)

end NiSession

/-! ## Forwarder -/

namespace NfSession

variable {α : Type} {conf : AnslpConfig} {d : Dispatcher α} {s s' : NfSession α}
  {evt : Event α} {effects : List (Effect α)}

/-- A forwarder with no response objects, and with nothing to remove. -/
structure Bare (s : NfSession α) : Prop where
  responses : s.rule.objectResponses = OrderedMap.empty
  notRemoving : s.state ≠ .pendingTeardown

theorem Bare.congr (h : s.Bare) (hrule : s'.rule.objectResponses = s.rule.objectResponses)
    (hstate : s'.state ≠ .pendingTeardown) : s'.Bare :=
  ⟨hrule.trans h.responses, hstate⟩

theorem Bare.numbered (h : s.Bare) (c : KindMsg .create α) (lifetime : UInt32) :
    (s.numbered c lifetime).Bare :=
  h.congr rfl h.notRemoving

theorem Bare.configured (h : s.Bare) (conf : AnslpConfig) : (s.configured conf).Bare :=
  h.congr rfl h.notRemoving

theorem Bare.setUp (h : s.Bare) {c : KindMsg .create α} (hsetUp : SetUp conf d s c s' effects) :
    s'.Bare ∧ ∀ x ∈ effects, x.uninstalls = false := by
  cases hsetUp <;> exact ⟨h.congr rfl nofun, by simp [Effect.uninstalls]⟩

/-- Before AUCTIONING no response objects are added. -/
theorem Bare.transits (h : s.Bare) (hstate : s.state ≠ .auctioning)
    (ht : Transits conf d s evt s' effects) (hstate' : s'.state ≠ .auctioning) : s'.Bare := by
  cases ht with
  | discarded | pendingRejected | biddingTaken | biddingPassed | refreshRejected => exact h
  | createRejected | createWithoutLifetime | repeated => exact h.congr rfl h.notRemoving
  | created _ _ _ _ hsetUp =>
      exact (((h.configured conf).numbered _ _).setUp hsetUp).1
  | replaced _ _ hsetUp => exact ((h.numbered _ _).setUp hsetUp).1
  | abandoned | givenUp | checked | responded | refused | installFailed | removalTimedOut
  | removed => exact h.congr rfl nofun
  | installed => exact absurd rfl hstate'
  | refreshed hs | responsePassed hs | removing hs | closed hs => exact absurd hs hstate

/-- Before AUCTIONING nothing is removed. -/
theorem Bare.not_uninstalls (h : s.Bare) (hstate : s.state ≠ .auctioning)
    (ht : Transits conf d s evt s' effects) : ∀ x ∈ effects, x.uninstalls = false := by
  cases ht with
  | discarded | createRejected | createWithoutLifetime | pendingRejected | abandoned | givenUp
  | checked | responded | refused | installed | biddingTaken | biddingPassed
  | removalTimedOut | removed => simp [Effect.uninstalls]
  | created _ _ _ _ hsetUp =>
      exact (((h.configured conf).numbered _ _).setUp hsetUp).2
  | replaced _ _ hsetUp => exact ((h.numbered _ _).setUp hsetUp).2
  | repeated _ _ hpassedOn =>
      subst hpassedOn
      split_ifs <;> simp [Effect.uninstalls]
  | installFailed _ _ _ _ hremoval =>
      have hnone := AuctionRule.getNumberMspecResponseObjects_eq_zero h.responses
      rw [if_neg (by rw [hnone]; exact Nat.lt_irrefl 0)] at hremoval
      subst hremoval
      simp [Effect.uninstalls]
  | refreshRejected hs | refreshed hs | responsePassed hs | removing hs | closed hs =>
      exact absurd hs hstate

/-- A forwarder that never was in AUCTIONING has undone nothing. -/
theorem allUndone_iff {id : SessionId}
    {trace : List (Transition.Step (NfSession α) (Dispatcher α × Event α)
      (Outcome (NfSession α) α))} (hrun : Runs conf id trace s)
    (hbefore : ∀ st ∈ trace, st.pre.state ≠ .auctioning) :
    AllUndone (effectsOf trace) ↔ ¬ ∃ st ∈ trace, Installs st := by
  refine allUndone_iff_of_invariant (I := Bare) (G := fun s => s.state ≠ .auctioning) hrun
    ⟨rfl, nofun⟩ ?_ ?_ hbefore
  · intro s d evt s' effects hbare hstate hnext hstate'
    exact hbare.transits hstate (transits_of_processEvent hnext) hstate'
  · intro s d evt s' effects hbare hstate hnext
    exact hbare.not_uninstalls hstate (transits_of_processEvent hnext)

end NfSession

/-! ## Responder -/

namespace NrSession

variable {α : Type} {conf : AnslpConfig} {d : Dispatcher α} {s s' : NrSession α}
  {evt : Event α} {effects : List (Effect α)}

/-- The time for a removal is over, and there is another retry. -/
def RetriesRemoval (s : NrSession α) (evt : Event α) : Prop :=
  s.state = .pendingTeardown ∧ evt = .timer s.stateTimer ∧ s.createCounter < s.maxRetries

/-- A responder without response objects. -/
def Bare (s : NrSession α) : Prop :=
  s.rule.objectResponses = OrderedMap.empty

/-- Before AUCTIONING no response objects are added. -/
theorem Bare.transits (h : s.Bare) (hstate : s.state ≠ .auctioning)
    (ht : Transits conf d s evt s' effects) (hstate' : s'.state ≠ .auctioning) : s'.Bare := by
  cases ht with
  | startedIdle | installed => exact absurd rfl hstate'
  | refreshed hs | removing hs | closed hs => exact absurd hs hstate
  | _ => exact h

/-- Before AUCTIONING only another retry of a removal removes anything. -/
theorem Bare.retriesRemoval_or (h : s.Bare) (hstate : s.state ≠ .auctioning)
    (ht : Transits conf d s evt s' effects) :
    (s.RetriesRemoval evt ∧ ∀ x ∈ effects, x.installs = false) ∨
      ∀ x ∈ effects, x.uninstalls = false := by
  cases ht with
  | removalRetried hs hid hcount =>
      subst hid
      exact Or.inl ⟨⟨hs, rfl, hcount⟩, by simp [Effect.installs]⟩
  | installFailed _ _ _ hremoval =>
      have hnone := AuctionRule.getNumberMspecResponseObjects_eq_zero h
      rw [if_neg (by rw [hnone]; exact Nat.lt_irrefl 0)] at hremoval
      subst hremoval
      exact Or.inr (by simp [Effect.uninstalls])
  | @checkRetried _ _ result =>
      refine Or.inr ?_
      cases result <;> simp [Session.CheckResult.effects, Effect.uninstalls]
  | biddingSent _ htold =>
      subst htold
      refine Or.inr ?_
      split_ifs <;> simp [Effect.uninstalls]
  | refreshed hs | removing hs | closed hs => exact absurd hs hstate
  | _ => exact Or.inr (by simp [Effect.uninstalls])

/-- A retry of a removal that does not fail removes something. -/
theorem RetriesRemoval.uninstalls (h : s.RetriesRemoval evt)
    (hnext : s.processEvent conf d evt = .next s' effects) :
    ∃ x ∈ effects, x.uninstalls = true := by
  obtain ⟨hstate, rfl, hcount⟩ := h
  simp only [processEvent, hstate, handleStatePendingTeardown, if_true, if_pos hcount] at hnext
  split at hnext
  · cases hnext
  · cases hnext
    exact ⟨_, List.mem_cons_self, rfl⟩

/-- A responder that never was in AUCTIONING has undone what it handed over exactly when it
retried a removal afterwards. -/
theorem allUndone_iff {id : SessionId} {random : UInt32}
    {trace : List (Transition.Step (NrSession α) (Dispatcher α × Event α)
      (Outcome (NrSession α) α))} (hrun : Runs conf id random trace s)
    (hbefore : ∀ st ∈ trace, st.pre.state ≠ .auctioning) :
    AllUndone (effectsOf trace) ↔
      Transition.Followed Installs (fun st => st.pre.RetriesRemoval st.input.2) trace := by
  have hsteps : ∀ st ∈ trace, ¬ (Installs st ∧ Uninstalls st) ∧
      (Uninstalls st ↔ st.pre.RetriesRemoval st.input.2) := by
    intro st hst
    obtain ⟨tr₁, tr₂, rfl, hpre, hstep⟩ := hrun.pre_of_mem hst
    have hstate := hbefore st hst
    have hbare : st.pre.Bare := by
      refine hpre.invariant_of_guarded (I := fun s => s.state ≠ .auctioning → s.Bare)
        (G := fun s _ => s.state ≠ .auctioning) ?_ (fun _ => rfl)
        (fun st' hst' => hbefore st' (List.mem_append_left _ hst')) hstate
      intro t input o u ht hguard hnext
      exact (ht hguard).transits hguard (transits_of_processEvent (next_of_machine hnext))
    have hnext := next_of_machine hstep
    rcases hbare.retriesRemoval_or hstate (transits_of_processEvent hnext) with
      ⟨hretries, hnot⟩ | hnot
    · refine ⟨fun ⟨⟨x, hx, hinstalls⟩, _⟩ => ?_,
        iff_of_true (hretries.uninstalls hnext) hretries⟩
      rw [hnot x hx] at hinstalls
      cases hinstalls
    · have hnone : ¬ Uninstalls st := by
        rintro ⟨x, hx, huninstalls⟩
        rw [hnot x hx] at huninstalls
        cases huninstalls
      exact ⟨fun hboth => hnone hboth.2,
        iff_of_false hnone fun hretries => hnone (hretries.uninstalls hnext)⟩
  rw [allUndone_iff_followed fun st hst => (hsteps st hst).1]
  exact Transition.followed_congr (fun _ _ => Iff.rfl) fun st hst => (hsteps st hst).2

end NrSession

/-! ## All sessions -/

/-- In every run that ends in CLOSE without AUCTIONING every installation is undone. -/
def AlwaysUndone (α : Type) (conf : AnslpConfig) : Prop :=
  (∀ id random trace (s : NiSession α), NiSession.Runs conf id random trace s →
    (∀ st ∈ trace, st.pre.state ≠ .auctioning) → s.state = .close →
      AllUndone (effectsOf trace)) ∧
  (∀ id trace (s : NfSession α), NfSession.Runs conf id trace s →
    (∀ st ∈ trace, st.pre.state ≠ .auctioning) → s.state = .close →
      AllUndone (effectsOf trace)) ∧
  ∀ id random trace (s : NrSession α), NrSession.Runs conf id random trace s →
    (∀ st ∈ trace, st.pre.state ≠ .auctioning) → s.state = .close →
      AllUndone (effectsOf trace)

/-- In a run that ends in CLOSE without AUCTIONING the installations are undone exactly when
there were none, or when a responder retried a removal after the last one. -/
theorem allUndone_iff_of_run {α : Type} (conf : AnslpConfig) :
    (∀ id random trace (s : NiSession α), NiSession.Runs conf id random trace s →
      (∀ st ∈ trace, st.pre.state ≠ .auctioning) → s.state = .close →
        (AllUndone (effectsOf trace) ↔ ¬ ∃ st ∈ trace, Installs st)) ∧
    (∀ id trace (s : NfSession α), NfSession.Runs conf id trace s →
      (∀ st ∈ trace, st.pre.state ≠ .auctioning) → s.state = .close →
        (AllUndone (effectsOf trace) ↔ ¬ ∃ st ∈ trace, Installs st)) ∧
    ∀ id random trace (s : NrSession α), NrSession.Runs conf id random trace s →
      (∀ st ∈ trace, st.pre.state ≠ .auctioning) → s.state = .close →
        (AllUndone (effectsOf trace) ↔
          Transition.Followed Installs (fun st => st.pre.RetriesRemoval st.input.2) trace) :=
  ⟨fun _ _ _ _ hrun hbefore _ => NiSession.allUndone_iff hrun hbefore,
    fun _ _ _ hrun hbefore _ => NfSession.allUndone_iff hrun hbefore,
    fun _ _ _ _ hrun hbefore _ => NrSession.allUndone_iff hrun hbefore⟩

/-! ### A session torn down while its objects are installed -/

namespace TornDown

open Sample

/-- A RESPONSE of success with this object. -/
def response : KindMsg .response RawIpap where
  ntlpMsg := { create.ntlpMsg.createSuccessResponse 30 with
    msg := some ((create.ntlpMsg.successBody 30).setMspecObject object) }
  body := (create.ntlpMsg.successBody 30).setMspecObject object
  msg_eq := rfl
  kind_eq := rfl

/-- The initiator, its CREATE sent. -/
def waiting : NiSession RawIpap :=
  { (NiSession.new conf 1 0).created surroundings request with state := .pending }

/-- The initiator, the object of the RESPONSE handed over. -/
def installing : NiSession RawIpap :=
  { waiting.responded surroundings response with state := .pendingInstalling }

/-- The initiator, torn down by its user. -/
def closed : NiSession RawIpap :=
  { installing with
    lifetime := 0
    lastCreateMsg := none
    msn := installing.msn + 1
    state := .close }

/-- The object handed over. -/
def rule : AuctionRule RawIpap :=
  AuctionRule.ofRequestObjects surroundings.newKey response.body.mspecObjects

theorem processEvent_waiting :
    waiting.processEvent surroundings (.msg ⟨response.ntlpMsg, true⟩) =
      .next installing [.reportAsyncEvent "CREATE session initiated",
        .startTimer 1 waiting.responseTimeout, .sendResponse rule] := by
  have hprocess : waiting.processEvent surroundings (.msg ⟨response.ntlpMsg, true⟩) =
      waiting.processResponse surroundings response := rfl
  have hsuccess : response.body.isSuccess = true := by decide
  have hread : response.body.mspecReadable = true := by decide
  rw [hprocess]
  simp only [NiSession.processResponse, AnslpMsg.getMspecObjects_eq, hread, hsuccess, if_true]
  rfl

theorem next_installing :
    (installing.processEvent surroundings .apiTeardown).next? = some closed := by
  have hprocess : installing.processEvent surroundings .apiTeardown =
      installing.uninstall surroundings [] := rfl
  have hrule : installing.lastAuctionInstallRule = some rule := rfl
  have hnone : rule.getNumberMspecResponseObjects = 0 := rfl
  rw [hprocess]
  simp only [NiSession.uninstall, hrule, hnone, gt_iff_lt, Nat.lt_irrefl, if_false]
  rfl

/-- The user tears the session down while the object is being installed. -/
theorem runs_closed : ∃ trace, NiSession.Runs conf 1 0 trace closed ∧
    (∀ st ∈ trace, st.pre.state ≠ .auctioning) ∧ ∃ st ∈ trace, Installs st := by
  have hwaiting := run_snoc_of_next (d := surroundings) (u := waiting)
    (.nil (s := NiSession.new conf 1 0)) (rfl : (NiSession.processEvent _ _
      (.apiCreate request)).next? = some waiting)
  have hinstalling := run_snoc_of_next hwaiting
    (congrArg Outcome.next? processEvent_waiting)
  have hclosed := run_snoc_of_next hinstalling next_installing
  refine ⟨_, hclosed, ?_, ?_⟩
  · simp only [List.nil_append, List.cons_append, List.forall_mem_cons]
    exact ⟨by decide, by decide, by decide, by simp⟩
  · refine ⟨_, List.mem_append_left _ (List.mem_append_right _ List.mem_cons_self), ?_⟩
    rw [Installs, processEvent_waiting]
    exact ⟨.sendResponse rule, by simp [Outcome.effects], by decide⟩

/-- The object stays installed. -/
theorem not_alwaysUndone : ¬ AlwaysUndone RawIpap conf := by
  intro h
  obtain ⟨trace, hrun, hbefore, hinstalls⟩ := runs_closed
  exact (NiSession.allUndone_iff hrun hbefore).mp (h.1 1 0 trace closed hrun hbefore rfl) hinstalls

/-- What the criterion says of this run. -/
theorem allUndone_closed : ∃ trace, NiSession.Runs conf 1 0 trace closed ∧
    (AllUndone (effectsOf trace) ↔ ¬ ∃ st ∈ trace, Installs st) := by
  obtain ⟨trace, hrun, hbefore, _⟩ := runs_closed
  exact ⟨trace, hrun, (allUndone_iff_of_run conf).1 1 0 trace closed hrun hbefore rfl⟩

end TornDown
end Anslp
