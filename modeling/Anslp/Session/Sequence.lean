import Anslp.Session.Safety

/-!
# The order of CREATEs

What a forwarder does with a CREATE that arrives while another one is pending, and what it
would do if it compared their sequence numbers in serial number arithmetic, as it does for a
REFRESH.  The three handlers compare the numbers as they are.

Main results:

- Theorem {lit}`processEvent_eq_byRecency_iff`: the CREATEs treated by their recency.

Current gaps:

- None for the three pending states of a forwarder.
-/

namespace Anslp
namespace NfSession

variable {α : Type} {conf : AnslpConfig} {d : Dispatcher α} {s : NfSession α}
  {e : MsgEvent α} {c previous : KindMsg .create α}

/-- What becomes of an authorized CREATE when it is treated by its recency: a newer one
replaces the one before, or closes the session if it has no lifetime; an equal one is sent
again, only while the installer checks not; an older one changes nothing. -/
def byRecency (conf : AnslpConfig) (d : Dispatcher α) (s : NfSession α)
    (previous c : KindMsg .create α) : Outcome (NfSession α) α :=
  if isGreaterThan c.body.getMsgSequenceNumber previous.body.getMsgSequenceNumber then
    if c.body.getSessionLifetime = 0 then
      .next { s with stateTimer := 0, state := .close } [.sendMessage c.ntlpMsg.copyForForwarding]
    else (s.numbered c c.body.getSessionLifetime).processStateClose conf d c
  else if c.body.getMsgSequenceNumber = previous.body.getMsgSequenceNumber then
    .next { s with stateTimer := d.startTimer 0 }
      ((if s.state = .pendingCheck then [] else [.sendMessage c.ntlpMsg.copyForForwarding])
        ++ [.startTimer (d.startTimer 0) s.responseTimeout])
  else .next s []

/-- A CREATE that sets the session up has another effect than to be passed on. -/
theorem effects_processStateClose (conf : AnslpConfig) (d : Dispatcher α) (s : NfSession α)
    (c : KindMsg .create α) :
    (∃ f, s.processStateClose conf d c = .undefined f) ∨
      (s.processStateClose conf d c).effects ≠ [] ∧
        (s.processStateClose conf d c).effects ≠
          [.sendMessage c.ntlpMsg.copyForForwarding] := by
  unfold processStateClose
  dsimp only
  split
  · refine Or.inr ⟨nofun, fun heq => ?_⟩
    have hmsg := congrArg NtlpMsg.msg (Effect.sendMessage.inj (List.singleton_inj.mp heq))
    have hbody : c.ntlpMsg.responseBody _ _ = c.body := Option.some.inj (hmsg.trans c.msg_eq)
    have hkind := (NtlpMsg.kind_responseBody ..).symm.trans ((congrArg _ hbody).trans c.kind_eq)
    cases hkind
  · split_ifs
    · exact Or.inl ⟨_, rfl⟩
    · split
      · exact Or.inl ⟨_, rfl⟩
      · unfold checkOrPass
        split <;> exact Or.inr (by simp [Outcome.effects])

/-- A CREATE that sets the session up is neither discarded nor merely passed on. -/
theorem processStateClose_ne {s₁ s' : NfSession α} {effects : List (Effect α)}
    (heffects : effects = [] ∨ effects = [.sendMessage c.ntlpMsg.copyForForwarding]) :
    s₁.processStateClose conf d c ≠ .next s' effects := by
  intro heq
  rcases effects_processStateClose conf d s₁ c with ⟨f, hf⟩ | ⟨hnil, hpassed⟩
  · rw [hf] at heq
    cases heq
  · rw [heq] at hnil hpassed
    exact heffects.elim hnil hpassed

/-- An authorized CREATE is treated by its recency exactly when it has the number of the one
before, or a greater one in serial number arithmetic that is also greater as it is when it
has no lifetime. -/
theorem processPendingCreate_eq_byRecency_iff (hprevious : s.createMessage = some previous)
    (hauthorized : d.isAuthorized e = true) :
    s.processPendingCreate conf d e c = s.byRecency conf d previous c ↔
      c.body.getMsgSequenceNumber = previous.body.getMsgSequenceNumber ∨
        isGreaterThan c.body.getMsgSequenceNumber previous.body.getMsgSequenceNumber = true ∧
          (c.body.getSessionLifetime ≠ 0 ∨
            c.body.getMsgSequenceNumber > previous.body.getMsgSequenceNumber) := by
  unfold processPendingCreate
  split
  · rename_i hnone
    rw [hnone] at hprevious
    cases hprevious
  rename_i stored hstored
  cases hstored.symm.trans hprevious
  rw [hauthorized, Bool.not_true, if_neg Bool.false_ne_true]
  by_cases hequal : c.body.getMsgSequenceNumber = previous.body.getMsgSequenceNumber
  · -- both treat it as sent again
    have hnot : ¬ (c.body.getMsgSequenceNumber > previous.body.getMsgSequenceNumber ∧
        c.body.getSessionLifetime = 0) := by
      rintro ⟨hgt, _⟩
      rw [hequal] at hgt
      exact UInt32.lt_irrefl _ hgt
    rw [if_neg hnot, if_pos hequal, byRecency, hequal, isGreaterThan_self]
    simp
  · by_cases hnewer : isGreaterThan c.body.getMsgSequenceNumber
        previous.body.getMsgSequenceNumber = true
    · rw [byRecency, if_pos hnewer]
      by_cases hlifetime : c.body.getSessionLifetime = 0
      · rw [if_pos hlifetime]
        by_cases hgt : c.body.getMsgSequenceNumber > previous.body.getMsgSequenceNumber
        · rw [if_pos ⟨hgt, hlifetime⟩]
          simp [hnewer, hgt]
        · rw [if_neg fun h => hgt h.1, if_neg hequal]
          refine iff_of_false (processStateClose_ne (Or.inr rfl)) ?_
          rintro (h | ⟨_, h | h⟩)
          · exact hequal h
          · exact h hlifetime
          · exact hgt h
      · rw [if_neg fun h => hlifetime h.2, if_neg hequal, if_neg hlifetime]
        exact iff_of_true rfl (Or.inr ⟨hnewer, Or.inl hlifetime⟩)
    · rw [byRecency, if_neg hnewer, if_neg hequal, if_neg hequal]
      refine iff_of_false ?_ (fun h => h.elim hequal fun h => hnewer h.1)
      split_ifs
      · intro heq
        have heffects := congrArg Outcome.effects heq
        cases heffects
      · exact processStateClose_ne (Or.inl rfl)

/-- Every authorized CREATE is treated by its recency while another one is pending. -/
def TreatsByRecency (α : Type) (conf : AnslpConfig) : Prop :=
  ∀ id trace (s : NfSession α), Runs conf id trace s → s.IsPending →
    ∀ d e c, e.ofKind? .create = some c → d.isAuthorized e = true →
      ∃ previous, s.createMessage = some previous ∧
        s.processEvent conf d (.msg e) = s.byRecency conf d previous c

/-- The CREATEs that a forwarder treats by their recency, in every run and state in which
another one is pending. -/
theorem processEvent_eq_byRecency_iff (conf : AnslpConfig) :
    ∀ id trace (s : NfSession α), Runs conf id trace s → s.IsPending →
      ∀ d e c, e.ofKind? .create = some c → d.isAuthorized e = true →
        ∃ previous, s.createMessage = some previous ∧
          (s.processEvent conf d (.msg e) = s.byRecency conf d previous c ↔
            c.body.getMsgSequenceNumber = previous.body.getMsgSequenceNumber ∨
              isGreaterThan c.body.getMsgSequenceNumber previous.body.getMsgSequenceNumber =
                  true ∧
                (c.body.getSessionLifetime ≠ 0 ∨
                  c.body.getMsgSequenceNumber > previous.body.getMsgSequenceNumber)) := by
  intro id trace s hrun hstate d e c hc hauthorized
  obtain ⟨previous, hprevious, _⟩ := (stored_of_run hrun).create hstate
  refine ⟨previous, hprevious, ?_⟩
  rw [processEvent_of_isPending hstate hc]
  exact processPendingCreate_eq_byRecency_iff hprevious hauthorized

end NfSession

/-! ### A CREATE that was delayed -/

namespace Sample

/-- The flow of the sample request. -/
def flow : Flow where
  sourceAddress := 1
  sourcePrefix := 32
  sourcePort := 0
  destAddress := 2
  destPrefix := 32
  destPort := 0
  protocol := 0
  flowLabel := 0
  trafficClass := 0
  spi := 0

/-- A forwarder that installs no rules, the sample CREATE passed on. -/
def forwarder : NfSession RawIpap :=
  { (((NfSession.new 1).configured conf).numbered create 30).accepted surroundings create
      flow with
    stateTimer := 1
    state := .pending }

/-- The arrival of the sample CREATE. -/
def arrivalStep : Transition.Step (NfSession RawIpap) (Dispatcher RawIpap × Event RawIpap)
    (Outcome (NfSession RawIpap) RawIpap) :=
  ⟨.new 1, (surroundings, .msg arrival),
    NfSession.processEvent conf surroundings (.new 1) (.msg arrival), forwarder⟩

theorem runs_forwarder : NfSession.Runs conf 1 [arrivalStep] forwarder :=
  run_snoc_of_next (d := surroundings) (.nil (s := NfSession.new 1)) rfl

end Sample

namespace DelayedCreate

open Sample

/-- A CREATE with the sequence number before the one of the sample CREATE. -/
def older : KindMsg .create RawIpap :=
  (((NiSession.new conf 1 (0 - 1)).setUp surroundings request).buildCreateMessage
    (NiSession.requestedMri request) request)

/-- It replaces the CREATE that came after it. -/
theorem not_treatsByRecency : ¬ NfSession.TreatsByRecency RawIpap conf := by
  intro h
  obtain ⟨previous, hprevious, htreated⟩ := h 1 _ forwarder runs_forwarder (Or.inr (Or.inl rfl))
    surroundings ⟨older.ntlpMsg, true⟩ older rfl rfl
  cases hprevious
  have hdiscarded : forwarder.byRecency conf surroundings create older = .next forwarder [] :=
    rfl
  rw [hdiscarded] at htreated
  have heffects := congrArg (fun o => o.effects.length) htreated
  cases heffects

/-- The CREATE that is sent again is treated by its recency. -/
theorem processEvent_repeated :
    forwarder.processEvent conf surroundings (.msg arrival) =
      forwarder.byRecency conf surroundings create create := by
  obtain ⟨previous, hprevious, htreated⟩ := NfSession.processEvent_eq_byRecency_iff conf 1
    _ forwarder runs_forwarder (Or.inr (Or.inl rfl)) surroundings arrival create rfl rfl
  cases hprevious
  exact htreated.mpr (Or.inl rfl)

end DelayedCreate
end Anslp
