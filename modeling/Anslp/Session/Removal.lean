import Anslp.Session.Checking

/-!
# Leaving AUCTIONING

What a session does with the objects installed for it when it leaves AUCTIONING.  All exits
of the three machines end in the same choice: to have the rule removed and to wait for this
in PENDING_TEARDOWN, or to close at once.

Main results:

- Theorem {lit}`removesInstalled_of_run`: with installed objects a session leaves AUCTIONING
  through PENDING_TEARDOWN only, with one removal and a timer for the reply.

Current gaps:

- None for the exits of AUCTIONING.
-/

namespace Anslp

/-- The rule an effect asks the installer to remove. -/
def Effect.removed? {α : Type} : Effect α → Option (AuctionRule α)
  | removeAuctionRules rule => some rule
  | _ => none

/-- A call leaves AUCTIONING as it should: a rule with response objects is removed once, and
the reply is waited for under a timer that was started; the session closes at once only when
there are none. -/
structure RemovesInstalled {α : Type} (rule : AuctionRule α) (waits closes : Prop) (timer : Nat)
    (effects : List (Effect α)) : Prop where
  removing : rule.getNumberMspecResponseObjects > 0 →
    waits ∧ effects.filterMap Effect.removed? = [rule] ∧
      ∃ seconds, .startTimer timer seconds ∈ effects
  closing : closes → rule.getNumberMspecResponseObjects = 0

/-- A call that waits has removed the rule. -/
theorem removesInstalled_of_removing {α : Type} {rule : AuctionRule α} {waits closes : Prop}
    {timer : Nat} {seconds : UInt32} {before : List (Effect α)} (hwaits : waits)
    (hcloses : ¬ closes) (hbefore : before.filterMap Effect.removed? = []) :
    RemovesInstalled rule waits closes timer
      (before ++ [.removeAuctionRules rule, .startTimer timer seconds]) where
  removing := fun _ => by
    refine ⟨hwaits, ?_, seconds, by simp⟩
    rw [List.filterMap_append, hbefore]
    rfl
  closing := fun h => absurd h hcloses

/-- A call that closes has nothing to remove. -/
theorem removesInstalled_of_closed {α : Type} {rule : AuctionRule α} {waits closes : Prop}
    {timer : Nat} {effects : List (Effect α)}
    (hbare : ¬ rule.getNumberMspecResponseObjects > 0) :
    RemovesInstalled rule waits closes timer effects where
  removing := fun h => absurd h hbare
  closing := fun _ => Nat.eq_zero_of_not_pos hbare

namespace NiSession

variable {α : Type} {d : Dispatcher α} {s s' : NiSession α} {evt : Event α}
  {effects : List (Effect α)}

theorem Ends.removed?_eq_nil {before : List (Effect α)} {s₁ : NiSession α}
    (h : s.Ends evt before s₁) : before.filterMap Effect.removed? = [] := by
  cases h <;> rfl

/-- Every transition of an initiator out of AUCTIONING. -/
theorem Transits.removesInstalled (ht : Transits d s evt s' effects)
    (hstate : s.state = .auctioning) (hstate' : s'.state ≠ .auctioning) :
    ∃ rule, s.rule = some rule ∧ RemovesInstalled rule (s'.state = .pendingTeardown)
      (s'.state = .close) s'.responseTimer effects := by
  cases ht with
  | discarded | refreshSent | refreshRetried | tearingDown | refreshed | biddingSent
  | biddingTaken => exact absurd hstate hstate'
  | removing _ hends hrule =>
      exact ⟨_, hrule, removesInstalled_of_removing rfl nofun hends.removed?_eq_nil⟩
  | closed _ _ hrule hbare => exact ⟨_, hrule, removesInstalled_of_closed hbare⟩
  | created hs | createdUntold hs | createRetried hs | failed hs | tornDown hs | responded hs
  | responseRetried hs | installed hs | uninstalled hs | removalRetried hs | removed hs =>
      rw [hstate] at hs
      cases hs

end NiSession

namespace NfSession

variable {α : Type} {conf : AnslpConfig} {d : Dispatcher α} {s s' : NfSession α}
  {evt : Event α} {effects : List (Effect α)}

theorem Ends.removed?_eq_nil {before : List (Effect α)} {s₁ : NfSession α} {seconds : UInt32}
    (h : s.Ends evt before s₁ seconds) : before.filterMap Effect.removed? = [] := by
  cases h <;> rfl

theorem Ends.rule_eq {before : List (Effect α)} {s₁ : NfSession α} {seconds : UInt32}
    (h : s.Ends evt before s₁ seconds) : s₁.rule = s.rule := by
  cases h <;> rfl

/-- Every transition of a forwarder out of AUCTIONING. -/
theorem Transits.removesInstalled (ht : Transits conf d s evt s' effects)
    (hstate : s.state = .auctioning) (hstate' : s'.state ≠ .auctioning) :
    RemovesInstalled s.rule (s'.state = .pendingTeardown) (s'.state = .close) s'.stateTimer
      effects := by
  cases ht with
  | discarded | refreshRejected | refreshed | responsePassed | biddingTaken | biddingPassed =>
      exact absurd hstate hstate'
  | removing _ hends =>
      rw [hends.rule_eq]
      exact removesInstalled_of_removing rfl nofun hends.removed?_eq_nil
  | closed _ _ hbare => exact removesInstalled_of_closed hbare
  | pendingRejected hs | abandoned hs | repeated hs | replaced hs | givenUp hs =>
      exact absurd hs (not_isPending_of_up (Or.inl hstate))
  | createRejected hs | createWithoutLifetime hs | created hs | checked hs | responded hs
  | refused hs | installed hs | installFailed hs | removalTimedOut hs | removed hs =>
      rw [hstate] at hs
      cases hs

end NfSession

namespace NrSession

variable {α : Type} {conf : AnslpConfig} {d : Dispatcher α} {s s' : NrSession α}
  {evt : Event α} {effects : List (Effect α)}

theorem Ends.removed?_eq_nil {before : List (Effect α)} (h : s.Ends d evt before) :
    before.filterMap Effect.removed? = [] := by
  cases h <;> rfl

/-- Every transition of a responder out of AUCTIONING. -/
theorem Transits.removesInstalled (ht : Transits conf d s evt s' effects)
    (hstate : s.state = .auctioning) (hstate' : s'.state ≠ .auctioning) :
    RemovesInstalled s.rule (s'.state = .pendingTeardown) (s'.state = .close) s'.stateTimer
      effects := by
  cases ht with
  | discarded | refreshRejected | refreshed | biddingPassed | biddingSent =>
      exact absurd hstate hstate'
  | removing _ hends => exact removesInstalled_of_removing rfl nofun hends.removed?_eq_nil
  | closed _ _ hbare => exact removesInstalled_of_closed hbare
  | givenUp hs =>
      rcases hs with hs | hs <;> rw [hstate] at hs <;> cases hs
  | createRejected hs | createWithoutLifetime hs | started hs | startedIdle hs | startFailed hs
  | checkRetried hs | checked hs | installRetried hs | installed hs | installFailed hs
  | removalRetried hs | removalGivenUp hs | removed hs =>
      rw [hstate] at hs
      cases hs

end NrSession

/-! ## All sessions -/

/-- In every run of a session, a call that returns and leaves AUCTIONING removes what is
installed before it waits in PENDING_TEARDOWN, and closes at once only when nothing is. -/
theorem removesInstalled_of_run {α : Type} (conf : AnslpConfig) :
    (∀ id random trace (s : NiSession α), NiSession.Runs conf id random trace s →
      s.state = .auctioning → ∀ d evt s' effects, s.processEvent d evt = .next s' effects →
        s'.state ≠ .auctioning →
          ∃ rule, s.rule = some rule ∧ RemovesInstalled rule (s'.state = .pendingTeardown)
            (s'.state = .close) s'.responseTimer effects) ∧
    (∀ id trace (s : NfSession α), NfSession.Runs conf id trace s →
      s.state = .auctioning → ∀ d evt s' effects, s.processEvent conf d evt = .next s' effects →
        s'.state ≠ .auctioning →
          RemovesInstalled s.rule (s'.state = .pendingTeardown) (s'.state = .close)
            s'.stateTimer effects) ∧
    ∀ id random trace (s : NrSession α), NrSession.Runs conf id random trace s →
      s.state = .auctioning → ∀ d evt s' effects, s.processEvent conf d evt = .next s' effects →
        s'.state ≠ .auctioning →
          RemovesInstalled s.rule (s'.state = .pendingTeardown) (s'.state = .close)
            s'.stateTimer effects := by
  refine ⟨?_, ?_, ?_⟩
  · intro _ _ _ s _ hstate d evt s' effects hnext hstate'
    exact (NiSession.transits_of_processEvent hnext).removesInstalled hstate hstate'
  · intro _ _ s _ hstate d evt s' effects hnext hstate'
    exact (NfSession.transits_of_processEvent hnext).removesInstalled hstate hstate'
  · intro _ _ _ s _ hstate d evt s' effects hnext hstate'
    exact (NrSession.transits_of_processEvent hnext).removesInstalled hstate hstate'

/-! ### A responder whose time is over -/

namespace TimedOut

open Sample hiding conf
open Checked

/-- The responder waits for the removal of the object that is installed. -/
def waiting : NrSession RawIpap :=
  { upResponder with state := .pendingTeardown }

/-- The rule of the object is removed once, and the timer is started anew. -/
theorem removesInstalled_upResponder : upResponder.rule.getNumberMspecResponseObjects = 1 ∧
    RemovesInstalled upResponder.rule (waiting.state = .pendingTeardown)
      (waiting.state = .close) waiting.stateTimer
      [.reportAsyncEvent "session timed out", .removeAuctionRules upResponder.rule,
        .startTimer 1 2] := by
  rcases runs_upResponder with ⟨trace, hrun⟩
  exact ⟨rfl, (removesInstalled_of_run conf).2.2 1 0 trace upResponder hrun rfl surroundings
    (.timer 1) waiting _ rfl nofun⟩

end TimedOut
end Anslp
