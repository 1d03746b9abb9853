import Anslp.Session.Provenance

/-!
# Which rules a session removes

A session hands a rule to its installer, or, as the initiator, to its user, and has it removed
again when it ends.  What it removes are the objects that it handed over last: it asks for no
removal before, and none of other objects, and hands nothing else over in between.

Main results:

- Theorems {lit}`NiSession.keepsTo`, {lit}`NfSession.keepsTo` and
  {lit}`NrSession.keepsTo`: a call removes what the session holds, and while something is
  held hands nothing else over.
- Theorems {lit}`NiSession.backs_of_transits`, {lit}`NfSession.backs_of_transits` and
  {lit}`NrSession.backs_of_transits`: what a session holds is what it handed over last.

Current gaps:

- None for calls that return; a session whose call throws is removed by its dispatcher.
-/

namespace Anslp

open Session

/-! ## What was handed over last -/

namespace Effect

variable {α : Type}

/-- The rule that is handed to the installer or to the user. -/
def handedOver? : Effect α → Option (AuctionRule α)
  | installAuctionRules rule | sendResponse rule => some rule
  | _ => none

/-- What is removed is held, and while something is held nothing else is handed over. -/
def KeepsTo (held : Option (ObjectList α)) : Effect α → Prop
  | installAuctionRules rule | sendResponse rule =>
      held = none ∨ held = some rule.objectRequests
  | removeAuctionRules rule => held = some rule.objectRequests
  | _ => True

/-- What is handed over is taken. -/
def Accepted (d : Dispatcher α) (sid : SessionId) : Effect α → Prop
  | installAuctionRules rule => d.installError sid rule = none
  | sendResponse rule => d.responseError sid rule = none
  | _ => True

/-- An effect that hands nothing over is accepted. -/
theorem accepted_of_handedOver? {d : Dispatcher α} {sid : SessionId} {effect : Effect α}
    (h : effect.handedOver? = none) : effect.Accepted d sid := by
  cases effect with
  | installAuctionRules | sendResponse => cases h
  | _ => trivial

/-- The objects that were handed over last, after one more effect. -/
def latestAfter (latest : Option (ObjectList α)) (effect : Effect α) : Option (ObjectList α) :=
  match effect.handedOver? with
  | some rule => some rule.objectRequests
  | none => latest

end Effect

/-- The objects that were handed over last, after some effects. -/
def latestOf {α : Type} (latest : Option (ObjectList α)) (effects : List (Effect α)) :
    Option (ObjectList α) :=
  effects.foldl Effect.latestAfter latest

/-- What is held was handed over last. -/
def Backs {α : Type} (latest held : Option (ObjectList α)) : Prop :=
  ∀ objects, held = some objects → latest = some objects

section

variable {α : Type} {d : Dispatcher α} {latest held held' : Option (ObjectList α)}
  {effects : List (Effect α)}

/-- Effects that hand nothing over. -/
theorem latestOf_eq_of_forall (h : ∀ effect ∈ effects, effect.handedOver? = none) :
    latestOf latest effects = latest := by
  induction effects with
  | nil => rfl
  | cons effect effects ih =>
      rw [List.forall_mem_cons] at h
      rw [latestOf, List.foldl_cons, Effect.latestAfter, h.1]
      exact ih h.2

/-- Where nothing is held, nothing has to be backed. -/
theorem backs_of_none (h : held = none) : Backs latest held := by
  intro objects hobjects
  rw [h] at hobjects
  cases hobjects

/-- What was handed over last backs itself. -/
theorem backs_of_some {objects : ObjectList α} (h : held = some objects) :
    Backs (some objects) held := by
  intro objects' hobjects'
  exact h.symm.trans hobjects'

/-- A call that hands nothing over, and after which nothing new is held. -/
theorem Backs.of_quiet (h : Backs latest held)
    (hheld : ∀ objects, held' = some objects → held = some objects)
    (hquiet : ∀ effect ∈ effects, effect.handedOver? = none) :
    Backs (latestOf latest effects) held' := by
  intro objects hobjects
  rw [latestOf_eq_of_forall hquiet]
  exact h objects (hheld objects hobjects)

/-- A check hands nothing over and removes nothing. -/
theorem keepsTo_check (result : CheckResult) (objects : ObjectList α) :
    ∀ effect ∈ result.effects objects, effect.KeepsTo held := by
  cases result <;> simp [CheckResult.effects, Effect.KeepsTo]

/-- Nor does a bidding. -/
theorem keepsTo_interact {σ : Type} {sid : SessionId} {server : Bool} {s : σ}
    {bidding : AnslpMsg α} :
    (interact d sid server s bidding).DoesOnly (Effect.KeepsTo held) := by
  unfold interact
  split
  · simp
  · dsimp only
    split <;> simp [Effect.KeepsTo]

end

/-! ## Responder -/

namespace NrSession

variable {α : Type} {conf : AnslpConfig} {d : Dispatcher α} {s s' : NrSession α}
  {evt : Event α} {effects : List (Effect α)} {latest : Option (ObjectList α)}

/-- The objects that the session has handed over and may remove. -/
def held (s : NrSession α) : Option (ObjectList α) :=
  match s.state with
  | .pendingInstalling | .pendingTeardown => some s.rule.objectRequests
  | .auctioning =>
      if s.rule.getNumberMspecResponseObjects > 0 then some s.rule.objectRequests else none
  | .close | .pending => none

/-- At its end, a session removes what it holds. -/
theorem keepsTo_removeOrClose {held : Option (ObjectList α)}
    (h : s.rule.getNumberMspecResponseObjects > 0 → held = some s.rule.objectRequests) :
    (s.removeOrClose conf d).DoesOnly (Effect.KeepsTo held) := by
  unfold removeOrClose
  split_ifs with hinstalled
  · split
    · simpa [Effect.KeepsTo] using h hinstalled
    · simpa [Effect.KeepsTo] using h hinstalled
  · simp

/-- Nothing is handed over before the check of the request has been asked for. -/
theorem keepsTo_handleStateClose {held : Option (ObjectList α)} :
    (s.handleStateClose conf d evt).DoesOnly (Effect.KeepsTo held) := by
  unfold handleStateClose
  split
  · split
    · simp
    · dsimp only
      split
      · simp [Effect.KeepsTo]
      · split
        · simp
        · split_ifs
          · unfold initiate
            split
            · simp
            · rw [saveAuctionRule_eq]
              split_ifs
              · dsimp only
                unfold respond
                split <;> simp [Effect.KeepsTo]
              · simp
          · simp [Effect.KeepsTo]
  · simp

/-- A check asked for again removes nothing. -/
theorem keepsTo_retryCheck {held : Option (ObjectList α)} :
    (s.retryCheck conf d).DoesOnly (Effect.KeepsTo held) := by
  unfold retryCheck
  split
  · simp
  · split_ifs
    · dsimp only
      rw [saveAuctionRule_eq]
      split_ifs
      · dsimp only
        split
        · simp [Effect.KeepsTo]
        · rw [Outcome.doesOnly_next]
          refine List.forall_mem_append.mpr ⟨keepsTo_check _ _, ?_⟩
          simp [Effect.KeepsTo]
      · simp
    · simp [Effect.KeepsTo]

/-- While the check is awaited nothing is held, and nothing is removed. -/
theorem keepsTo_handleStatePending :
    (s.handleStatePending conf d evt).DoesOnly (Effect.KeepsTo none) := by
  unfold handleStatePending
  split
  · exact keepsTo_retryCheck
  · split_ifs
    · exact keepsTo_retryCheck
    · simp
  · split
    · simp
    · dsimp only
      split <;> simp [Effect.KeepsTo]
  · simp

/-- While an installation is awaited, its objects are those of the rule. -/
theorem keepsTo_handleStatePendingInstalling :
    (s.handleStatePendingInstalling conf d evt).DoesOnly
      (Effect.KeepsTo (some s.rule.objectRequests)) := by
  unfold handleStatePendingInstalling
  split
  · split_ifs
    · dsimp only
      split <;> simp [Effect.KeepsTo]
    · split <;> simp [Effect.KeepsTo]
    · simp
  · split
    · simp
    · split_ifs
      · simp [Effect.KeepsTo]
      · dsimp only
        split_ifs
        · split <;> simp [Effect.KeepsTo]
        · simp [Effect.KeepsTo]
  · simp

theorem keepsTo_processApiBidding {held : Option (ObjectList α)} {e : ApiBiddingEvent α} :
    (s.processApiBidding e).DoesOnly (Effect.KeepsTo held) := by
  unfold processApiBidding
  split
  · simp
  · split_ifs <;> simp [Effect.KeepsTo]

/-- In AUCTIONING the removal is left to the end of the session. -/
theorem keepsTo_handleStateAuctioning {held : Option (ObjectList α)}
    (h : s.rule.getNumberMspecResponseObjects > 0 → held = some s.rule.objectRequests) :
    (s.handleStateAuctioning conf d evt).DoesOnly (Effect.KeepsTo held) := by
  unfold handleStateAuctioning
  split
  · split
    · unfold processRefresh
      split
      · simp [Effect.KeepsTo]
      · split_ifs
        · simp
        · simp [Effect.KeepsTo]
        · apply Outcome.DoesOnly.after (keepsTo_removeOrClose h)
          simp [Effect.KeepsTo]
    · split
      · split_ifs
        · exact keepsTo_interact
        · simp
      · simp
  · exact keepsTo_processApiBidding
  · split_ifs
    · apply Outcome.DoesOnly.after (keepsTo_removeOrClose h)
      simp [Effect.KeepsTo]
    · simp
  · simp

theorem keepsTo_handleStatePendingTeardown :
    (s.handleStatePendingTeardown conf d evt).DoesOnly
      (Effect.KeepsTo (some s.rule.objectRequests)) := by
  unfold handleStatePendingTeardown
  split
  · split_ifs
    · dsimp only
      split <;> simp [Effect.KeepsTo]
    · simp
    · simp
  · exact keepsTo_processApiBidding
  · simp
  · simp

/-- A responder keeps to what it holds. -/
theorem keepsTo : (s.processEvent conf d evt).DoesOnly (Effect.KeepsTo s.held) := by
  unfold processEvent
  split
  · exact keepsTo_handleStateClose
  · rename_i hstate
    rw [held, hstate]
    exact keepsTo_handleStatePending
  · rename_i hstate
    rw [held, hstate]
    exact keepsTo_handleStatePendingInstalling
  · rename_i hstate
    apply keepsTo_handleStateAuctioning
    intro hinstalled
    rw [held, hstate]
    exact if_pos hinstalled
  · rename_i hstate
    rw [held, hstate]
    exact keepsTo_handleStatePendingTeardown

/-- What a responder holds after a call was handed over last. -/
theorem backs_of_transits (h : Backs latest s.held) (ht : Transits conf d s evt s' effects) :
    Backs (latestOf latest effects) s'.held := by
  cases ht with
  | createRejected hstate | createWithoutLifetime hstate | checkRetried hstate =>
      apply backs_of_none
      simp [held, routed, hstate]
  | started | startFailed | givenUp | closed | removalGivenUp | removed => exact backs_of_none rfl
  | startedIdle =>
      apply backs_of_none
      simp [held, AuctionRule.getNumberMspecResponseObjects, AuctionRule.empty]
  | checked => exact backs_of_some rfl
  | installRetried hstate =>
      apply backs_of_some
      simp [held, hstate]
  | installed hstate =>
      apply h.of_quiet
      · intro objects hobjects
        simp only [held, hstate] at hobjects ⊢
        split_ifs at hobjects
        exact hobjects
      · simp [Effect.handedOver?]
  | installFailed hstate _ _ hremoval =>
      subst hremoval
      apply h.of_quiet
      · intro objects hobjects
        simpa [held, hstate] using hobjects
      · split_ifs <;> simp [Effect.handedOver?]
  | removing hstate hends hinstalled =>
      apply h.of_quiet
      · intro objects hobjects
        simpa [held, hstate, hinstalled] using hobjects
      · cases hends <;> simp [Effect.handedOver?]
  | biddingSent _ htold =>
      subst htold
      apply h.of_quiet
      · exact fun _ hobjects => hobjects
      · split_ifs <;> simp [Effect.handedOver?]
  | discarded | refreshRejected | refreshed | biddingPassed | removalRetried =>
      apply h.of_quiet
      · exact fun _ hobjects => hobjects
      · simp [Effect.handedOver?]

/-- A call that returns has handed over only what the installer took. -/
theorem accepts_of_processEvent (h : s.processEvent conf d evt = .next s' effects) :
    ∀ effect ∈ effects, effect.Accepted d s.id := by
  have ht := transits_of_processEvent h
  cases ht with
  | checked hstate herase =>
      simp only [processEvent, hstate, handleStatePending, herase] at h
      split at h
      · cases h
      · rename_i hnone
        simpa [Effect.Accepted] using hnone
  | installRetried hstate hcount hid =>
      subst hid
      simp only [processEvent, hstate, handleStatePendingInstalling, if_pos hcount, if_true] at h
      split at h
      · cases h
      · rename_i hnone
        simpa [Effect.Accepted] using hnone
  | @checkRetried _ _ result => cases result <;> simp [CheckResult.effects, Effect.Accepted]
  | installFailed _ _ _ hremoval =>
      subst hremoval
      split_ifs <;> simp [Effect.Accepted]
  | removing _ hends | closed _ hends => cases hends <;> simp [Effect.Accepted]
  | biddingSent _ htold =>
      subst htold
      split_ifs <;> simp [Effect.Accepted]
  | _ => simp [Effect.Accepted]

end NrSession

/-! ## Forwarder -/

namespace NfSession

variable {α : Type} {conf : AnslpConfig} {d : Dispatcher α} {s s' : NfSession α}
  {evt : Event α} {effects : List (Effect α)} {latest : Option (ObjectList α)}

/-- The objects that the session has handed over and may remove. -/
def held (s : NfSession α) : Option (ObjectList α) :=
  match s.state with
  | .pendingInstalling | .auctioning => some s.rule.objectRequests
  | .close | .pendingCheck | .pending | .pendingTeardown => none

/-- A session that is set up has handed over nothing yet. -/
theorem SetUp.held_eq_none {c : KindMsg .create α} (h : SetUp conf d s c s' effects) :
    s'.held = none := by
  cases h <;> rfl

/-- A forwarder keeps to what it holds. -/
theorem keepsTo_of_transits (ht : Transits conf d s evt s' effects) :
    ∀ effect ∈ effects, effect.KeepsTo s.held := by
  cases ht with
  | created _ _ _ _ hsetUp | replaced _ _ hsetUp =>
      cases hsetUp <;> simp [Effect.KeepsTo]
  | repeated _ _ hpassedOn =>
      subst hpassedOn
      split_ifs <;> simp [Effect.KeepsTo]
  | installFailed hstate _ _ _ hremoval =>
      subst hremoval
      split_ifs <;> simp [Effect.KeepsTo, held, hstate]
  | removing hstate hends => cases hends <;> simp [Effect.KeepsTo, held, hstate]
  | closed hstate hends => cases hends <;> simp [Effect.KeepsTo]
  | responded hstate => simp [Effect.KeepsTo, held, hstate]
  | _ => simp [Effect.KeepsTo]

/-- A forwarder removes only what it holds, in whichever state it is. -/
theorem keepsTo : (s.processEvent conf d evt).DoesOnly (Effect.KeepsTo s.held) := by
  have hended := ended_processEvent conf d s evt
  generalize s.processEvent conf d evt = o at hended ⊢
  cases hended with
  | next ht => exact keepsTo_of_transits ht
  | thrown ht =>
      rw [Outcome.doesOnly_thrown]
      cases ht with
      | installFailed hstate _ hremoval =>
          subst hremoval
          split_ifs <;> simp [Effect.KeepsTo, held, hstate]
      | removing hstate hends => cases hends <;> simp [Effect.KeepsTo, held, hstate]
      | installing hstate => simp [Effect.KeepsTo, held, hstate]
      | _ => simp [Effect.KeepsTo]
  | undefined => exact Outcome.doesOnly_undefined

/-- What a forwarder holds after a call was handed over last. -/
theorem backs_of_transits (h : Backs latest s.held) (ht : Transits conf d s evt s' effects) :
    Backs (latestOf latest effects) s'.held := by
  cases ht with
  | createRejected hstate | createWithoutLifetime hstate =>
      apply backs_of_none
      simp [held, configured, hstate]
  | created _ _ _ _ hsetUp => exact backs_of_none hsetUp.held_eq_none
  | replaced _ _ hsetUp => exact backs_of_none hsetUp.held_eq_none
  | repeated _ _ hpassedOn =>
      subst hpassedOn
      apply h.of_quiet
      · exact fun _ hobjects => hobjects
      · split_ifs <;> simp [Effect.handedOver?]
  | responded => exact backs_of_some rfl
  | installed hstate =>
      apply h.of_quiet
      · intro objects hobjects
        simpa [held, hstate, AuctionRule.setReponseObjects] using hobjects
      · simp [Effect.handedOver?]
  | abandoned | givenUp | checked | refused | installFailed | removing | closed
  | removalTimedOut | removed => exact backs_of_none rfl
  | discarded | pendingRejected | refreshRejected | refreshed | responsePassed | biddingTaken
  | biddingPassed =>
      apply h.of_quiet
      · exact fun _ hobjects => hobjects
      · simp [Effect.handedOver?]

/-- A call that returns has handed over only what the installer took. -/
theorem accepts_of_processEvent (h : s.processEvent conf d evt = .next s' effects) :
    ∀ effect ∈ effects, effect.Accepted d s.id := by
  have ht := transits_of_processEvent h
  cases ht with
  | @responded e c r hstate hc hr hsuccess =>
      have hcreate : e.ofKind? .create = none :=
        MsgEvent.ofKind?_eq_none_of_ne (MsgEvent.of_anslpResponse? hr).1 nofun
      simp only [processEvent, hstate, handleStatePending, hcreate, hc, hr, processResponse,
        if_pos hsuccess] at h
      split at h
      · cases h
      · rename_i hnone
        simpa [Effect.Accepted] using hnone
  | created _ _ _ _ hsetUp | replaced _ _ hsetUp => cases hsetUp <;> simp [Effect.Accepted]
  | repeated _ _ hpassedOn =>
      subst hpassedOn
      split_ifs <;> simp [Effect.Accepted]
  | installFailed _ _ _ _ hremoval =>
      subst hremoval
      split_ifs <;> simp [Effect.Accepted]
  | removing _ hends | closed _ hends => cases hends <;> simp [Effect.Accepted]
  | _ => simp [Effect.Accepted]

end NfSession

/-! ## Initiator -/

namespace NiSession

variable {α : Type} {d : Dispatcher α} {s s' : NiSession α} {evt : Event α}
  {effects : List (Effect α)} {latest : Option (ObjectList α)}

/-- The objects that the session has handed over and may remove. -/
def held (s : NiSession α) : Option (ObjectList α) :=
  match s.state with
  | .pendingInstalling => s.lastAuctionInstallRule.map AuctionRule.objectRequests
  | .auctioning | .pendingTeardown => s.rule.map AuctionRule.objectRequests
  | .close | .pending => none

/-- The two parts around the removal decide. -/
theorem keepsTo_tearDown {held : Option (ObjectList α)} {before after : List (Effect α)}
    (hbefore : ∀ effect ∈ before, effect.KeepsTo held)
    (hafter : ∀ effect ∈ after, effect.KeepsTo held) :
    (s.tearDown before after).DoesOnly (Effect.KeepsTo held) := by
  unfold tearDown
  dsimp only
  split
  · simp
  · rw [Outcome.doesOnly_next]
    exact List.forall_mem_append.mpr ⟨hbefore, List.forall_mem_cons.mpr ⟨trivial, hafter⟩⟩

/-- An installation that failed is undone with its own rule. -/
theorem keepsTo_uninstall {after : List (Effect α)}
    (hafter : ∀ effect ∈ after, effect.KeepsTo
      (s.lastAuctionInstallRule.map AuctionRule.objectRequests)) :
    (s.uninstall d after).DoesOnly
      (Effect.KeepsTo (s.lastAuctionInstallRule.map AuctionRule.objectRequests)) := by
  unfold uninstall
  split
  · simp
  · rename_i rule hrule
    rw [hrule] at hafter ⊢
    have hremoval : ∀ effect ∈ [Effect.removeAuctionRules rule],
        effect.KeepsTo ((some rule).map AuctionRule.objectRequests) :=
      List.forall_mem_singleton.mpr rfl
    split_ifs
    · split
      · exact hremoval
      · exact keepsTo_tearDown hremoval hafter
    · exact keepsTo_tearDown (List.forall_mem_nil _) hafter

/-- At its end, a session removes the objects of its rule. -/
theorem keepsTo_removeOrClose :
    (s.removeOrClose d).DoesOnly
      (Effect.KeepsTo (s.rule.map AuctionRule.objectRequests)) := by
  unfold removeOrClose
  dsimp only
  split
  · simp
  · rename_i rule hrule
    rw [hrule]
    split_ifs
    · split <;> simp [Effect.KeepsTo]
    · simp

theorem keepsTo_handleStateClose {held : Option (ObjectList α)} :
    (s.handleStateClose d evt).DoesOnly (Effect.KeepsTo held) := by
  unfold handleStateClose
  split
  · split
    · simp
    · dsimp only
      split_ifs <;> simp [Effect.KeepsTo]
  · simp

/-- While its RESPONSE is awaited the initiator holds nothing. -/
theorem keepsTo_handleStatePending :
    (s.handleStatePending d evt).DoesOnly (Effect.KeepsTo none) := by
  unfold handleStatePending
  split
  · split_ifs
    · unfold retryCreate
      split_ifs
      · split <;> simp [Effect.KeepsTo]
      · simp [Effect.KeepsTo]
    · simp
  · simp
  · exact keepsTo_tearDown (List.forall_mem_nil _) (List.forall_mem_nil _)
  · split
    · simp
    · split
      · unfold processResponse
        split_ifs
        · dsimp only
          split
          · simp
          · split <;> simp [Effect.KeepsTo]
        · simp [Effect.KeepsTo]
      · simp
  · split_ifs <;> simp

/-- While an installation is awaited, only its rule is removed. -/
theorem keepsTo_handleStatePendingInstalling :
    (s.handleStatePendingInstalling d evt).DoesOnly
      (Effect.KeepsTo (s.lastAuctionInstallRule.map AuctionRule.objectRequests)) := by
  unfold handleStatePendingInstalling
  split
  · split_ifs
    · unfold retryResponse
      split_ifs
      · split
        · simp
        · rename_i rule hrule
          rw [hrule]
          dsimp only
          split <;> simp [Effect.KeepsTo]
      · apply keepsTo_uninstall (s := { s with rule := none })
        simp [Effect.KeepsTo]
    · simp
  · exact keepsTo_uninstall (List.forall_mem_nil _)
  · split
    · simp
    · split_ifs
      · simp [Effect.KeepsTo]
      · exact keepsTo_uninstall (s := { s with rule := none }) (List.forall_mem_nil _)
  · simp

theorem keepsTo_processBidding {held : Option (ObjectList α)} {bidding : AnslpMsg α} :
    (s.processBidding d bidding).DoesOnly (Effect.KeepsTo held) := by
  unfold processBidding
  split <;> simp [Effect.KeepsTo]

theorem keepsTo_processApiBidding {held : Option (ObjectList α)} {e : ApiBiddingEvent α} :
    (s.processApiBidding e).DoesOnly (Effect.KeepsTo held) := by
  unfold processApiBidding
  split <;> simp [Effect.KeepsTo]

/-- In AUCTIONING the rule of the session is removed and no other. -/
theorem keepsTo_handleStateAuctioning :
    (s.handleStateAuctioning d evt).DoesOnly
      (Effect.KeepsTo (s.rule.map AuctionRule.objectRequests)) := by
  have hends : ∀ (s₁ : NiSession α) (text : String), s₁.rule = s.rule →
      ((s₁.removeOrClose d).after [.reportAsyncEvent text]).DoesOnly
        (Effect.KeepsTo (s.rule.map AuctionRule.objectRequests)) := by
    intro s₁ text hrule
    apply Outcome.DoesOnly.after
    · exact hrule ▸ keepsTo_removeOrClose
    · simp [Effect.KeepsTo]
  unfold handleStateAuctioning
  split
  · simp
  · split_ifs
    · unfold processRefreshTimer
      split <;> simp [Effect.KeepsTo]
    · unfold retryRefresh
      split_ifs
      · split <;> simp [Effect.KeepsTo]
      · exact hends s _ rfl
    · simp
  · unfold processTeardown
    dsimp only
    split <;> simp [Effect.KeepsTo]
  · exact keepsTo_processApiBidding
  · split
    · exact keepsTo_processBidding
    · split
      · simp
      · split
        · unfold processRefreshResponse
          split_ifs
          · dsimp only
            split_ifs
            · exact hends { s with responseTimer := 0 } _ rfl
            · simp [Effect.KeepsTo]
          · exact hends s _ rfl
        · simp
  · split_ifs <;> simp

theorem keepsTo_handleStatePendingTeardown :
    (s.handleStatePendingTeardown d evt).DoesOnly
      (Effect.KeepsTo (s.rule.map AuctionRule.objectRequests)) := by
  unfold handleStatePendingTeardown
  split
  · exact keepsTo_processApiBidding
  · split
    · exact keepsTo_processBidding
    · simp
  · split_ifs
    · unfold retryRemoval
      split_ifs
      · split
        · simp
        · rename_i rule hrule
          rw [hrule]
          dsimp only
          split <;> simp [Effect.KeepsTo]
      · simp
    · simp
  · simp
  · simp

/-- An initiator keeps to what it holds. -/
theorem keepsTo : (s.processEvent d evt).DoesOnly (Effect.KeepsTo s.held) := by
  unfold processEvent
  split
  · exact keepsTo_handleStateClose
  · rename_i hstate
    rw [held, hstate]
    exact keepsTo_handleStatePending
  · rename_i hstate
    rw [held, hstate]
    exact keepsTo_handleStatePendingInstalling
  · rename_i hstate
    rw [held, hstate]
    exact keepsTo_handleStateAuctioning
  · rename_i hstate
    rw [held, hstate]
    exact keepsTo_handleStatePendingTeardown

/-- What an initiator holds after a call was handed over last. -/
theorem backs_of_transits (h : Backs latest s.held) (ht : Transits d s evt s' effects) :
    Backs (latestOf latest effects) s'.held := by
  cases ht with
  | created | failed | tornDown | uninstalled | closed | removed => exact backs_of_none rfl
  | createdUntold hstate | createRetried hstate =>
      apply backs_of_none
      simp [held, created, setUp, hstate]
  | responded => exact backs_of_some rfl
  | responseRetried hstate hrule =>
      apply backs_of_some
      simp [held, hstate, hrule]
  | installed hstate hrule =>
      apply h.of_quiet
      · intro objects hobjects
        simpa [held, hstate, hrule, AuctionRule.setReponseObjects] using hobjects
      · simp [Effect.handedOver?]
  | removing hstate hends hrule =>
      apply h.of_quiet
      · intro objects hobjects
        cases hends <;> simpa [held, hstate] using hobjects
      · cases hends <;> simp [Effect.handedOver?]
  | tearingDown | refreshSent | refreshRetried | refreshed | biddingSent | discarded
  | biddingTaken | removalRetried =>
      apply h.of_quiet
      · exact fun _ hobjects => hobjects
      · simp [Effect.handedOver?]

/-- What the RESPONSE makes the initiator hand over is accepted, as the call returns. -/
theorem accepts_processResponse {r : KindMsg .response α}
    (h : s.processResponse d r = .next s' effects) :
    ∀ effect ∈ effects, effect.Accepted d s.id := by
  unfold processResponse at h
  split_ifs at h with hsuccess
  · dsimp only at h
    split at h
    · cases h
    · split at h
      · cases h
      · rename_i hnone
        cases h
        simpa [Effect.Accepted] using hnone
  · cases h
    simp [Effect.Accepted]

/-- A call that returns has handed over only what was taken. -/
theorem accepts_of_processEvent (h : s.processEvent d evt = .next s' effects) :
    ∀ effect ∈ effects, effect.Accepted d s.id := by
  have ht := transits_of_processEvent h
  have hreports : ∀ {reported : List (Effect α)},
      (∀ effect ∈ reported, ∃ text, effect = .reportAsyncEvent text) →
      ∀ effect ∈ reported, effect.Accepted d s.id := by
    intro reported hreported effect heffect
    rcases hreported effect heffect with ⟨text, rfl⟩
    trivial
  cases ht with
  | created _ _ htold =>
      subst htold
      simp [Effect.Accepted]
  | responded hstate hc hr =>
      simp only [processEvent, hstate, handleStatePending, hc, hr] at h
      exact accepts_processResponse h
  | responseRetried hstate hrule hid hcount =>
      subst hid
      simp only [processEvent, hstate, handleStatePendingInstalling, if_true, retryResponse,
        if_pos hcount, hrule] at h
      split at h
      · cases h
      · rename_i hnone
        simpa [Effect.Accepted] using hnone
  | failed _ hreported => exact hreports hreported
  | uninstalled _ _ _ hremoval hreported =>
      subst hremoval
      refine List.forall_mem_append.mpr
        ⟨?_, List.forall_mem_cons.mpr ⟨trivial, hreports hreported⟩⟩
      split_ifs <;> simp [Effect.Accepted]
  | removing _ hends | closed _ hends => cases hends <;> simp [Effect.Accepted]
  | _ => simp [Effect.Accepted]

end NiSession
end Anslp
