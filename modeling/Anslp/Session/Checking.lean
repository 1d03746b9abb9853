import Anslp.Session.Participation

/-!
# The check of a rule

Before a rule is installed the installer checks its request objects, and its reply says
which of them to keep.  This module says when a forwarder and a responder keep exactly
these, and when all the requests a responder repeats while it waits are the same.

Main results:

- Theorem {lit}`keepsChecked_iff_of_run`: when the objects kept are those of the reply.
- Theorem {lit}`NrSession.sameRequests_iff_of_run`: the runs of a responder in which all
  requests for one CREATE are the same.

Current gaps:

- None for NF PENDING_CHECK and NR PENDING; the initiator checks nothing.
-/

namespace Anslp

/-! ## The reply to a check -/

/-- A call for the reply to a check leaves the request objects that are in the reply. -/
def Outcome.KeepsChecked {σ α : Type} (rule : σ → AuctionRule α) (s : σ)
    (checked : ObjectList α) (o : Outcome σ α) : Prop :=
  ∃ s', o.left? = some s' ∧
    (rule s).objectRequests.KeepsChecked checked (rule s').objectRequests

/-- A forwarder in PENDING_CHECK keeps the objects of the reply if those it lacks stand
alone. -/
theorem NfSession.keepsChecked_iff {α : Type} {conf : AnslpConfig} {d : Dispatcher α}
    {s : NfSession α} (hstored : s.Stored) (hstate : s.state = .pendingCheck)
    (checked : ObjectList α) :
    (s.processEvent conf d (.apiCheck checked)).KeepsChecked NfSession.rule s checked ↔
      s.rule.objectRequests.Scattered checked := by
  rcases hstored.create (Or.inl hstate) with ⟨c, hc, hread⟩
  rcases Option.isSome_iff_exists.mp (hstored.nrMri (Or.inl hstate)) with ⟨nrMri, hmri⟩
  rw [← ObjectList.exists_eraseMissing_keepsChecked_iff]
  simp only [processEvent, hstate, handleStatePendingCheck, hc, hmri,
    AnslpMsg.getMspecObjects_eq, hread, if_true, Outcome.KeepsChecked]
  cases s.rule.objectRequests.eraseMissing checked with
  | none => simp [Outcome.left?]
  | some objectRequests => simp [Outcome.left?]

/-- So does a responder in PENDING, whether its installation throws or not. -/
theorem NrSession.keepsChecked_iff {α : Type} {conf : AnslpConfig} {d : Dispatcher α}
    {s : NrSession α} (hstate : s.state = .pending) (checked : ObjectList α) :
    (s.processEvent conf d (.apiCheck checked)).KeepsChecked NrSession.rule s checked ↔
      s.rule.objectRequests.Scattered checked := by
  rw [← ObjectList.exists_eraseMissing_keepsChecked_iff]
  simp only [processEvent, hstate, handleStatePending, Outcome.KeepsChecked]
  cases s.rule.objectRequests.eraseMissing checked with
  | none => simp [Outcome.left?]
  | some objectRequests =>
      dsimp only
      split <;> simp [Outcome.left?]

/-- Every reply to a check leaves exactly the request objects that are in it. -/
def AlwaysKeepsChecked (α : Type) (conf : AnslpConfig) : Prop :=
  (∀ id trace (s : NfSession α), NfSession.Runs conf id trace s → s.state = .pendingCheck →
    ∀ d checked,
      (s.processEvent conf d (.apiCheck checked)).KeepsChecked NfSession.rule s checked) ∧
  ∀ id random trace (s : NrSession α), NrSession.Runs conf id random trace s →
    s.state = .pending → ∀ d checked,
      (s.processEvent conf d (.apiCheck checked)).KeepsChecked NrSession.rule s checked

/-- In every run a reply to a check leaves exactly the request objects that are in it if and
only if the others stand alone. -/
theorem keepsChecked_iff_of_run {α : Type} (conf : AnslpConfig) :
    (∀ id trace (s : NfSession α), NfSession.Runs conf id trace s → s.state = .pendingCheck →
      ∀ d checked,
        ((s.processEvent conf d (.apiCheck checked)).KeepsChecked NfSession.rule s checked ↔
          s.rule.objectRequests.Scattered checked)) ∧
    ∀ id random trace (s : NrSession α), NrSession.Runs conf id random trace s →
      s.state = .pending → ∀ d checked,
        ((s.processEvent conf d (.apiCheck checked)).KeepsChecked NrSession.rule s checked ↔
          s.rule.objectRequests.Scattered checked) := by
  constructor
  · intro id trace s hrun hstate d checked
    exact NfSession.keepsChecked_iff (NfSession.stored_of_run hrun) hstate checked
  · intro id random trace s _ hstate d checked
    exact NrSession.keepsChecked_iff hstate checked

/-! ## Repeated requests -/

/-- The objects that an effect has the installer check. -/
def Effect.checked? {α : Type} : Effect α → Option (ObjectList α)
  | check objects => some objects
  | _ => none

namespace NrSession

open Session

variable {α : Type} {conf : AnslpConfig} {d : Dispatcher α} {s s' : NrSession α}
  {evt : Event α} {effects : List (Effect α)}

/-- A call that asks for the check again. -/
def RepeatsCheck (s : NrSession α) (evt : Event α) : Prop :=
  s.state = .pending ∧ (evt = .noNextNodeFound ∨ evt = .timer s.stateTimer) ∧
    s.createCounter < s.maxRetries

/-- The generated keys are none of those that the rule has in use. -/
def FreshKeys (s : NrSession α) (d : Dispatcher α) : Prop :=
  ∀ i, s.rule.objectRequests.hasKey (d.newKey i) = false

/-- The CREATE that is stored comes without objects. -/
def CreateIsBare (s : NrSession α) : Prop :=
  ∀ c, s.createMessage = some c → c.body.mspecObjects = []

/-- The requests to check after a call, given those made for the CREATE before it. -/
def askedAfter (asked : List (ObjectList α))
    (st : Transition.Step (NrSession α) (Dispatcher α × Event α) (Outcome (NrSession α) α)) :
    List (ObjectList α) :=
  (if st.pre.state = .pending then asked else []) ++ st.output.effects.filterMap Effect.checked?

/-- The requests to check that were made for the CREATE a run waits with in PENDING. -/
def asked (trace : List (Transition.Step (NrSession α) (Dispatcher α × Event α)
    (Outcome (NrSession α) α))) : List (ObjectList α) :=
  trace.foldl askedAfter []

theorem asked_snoc {trace : List (Transition.Step (NrSession α) (Dispatcher α × Event α)
      (Outcome (NrSession α) α))}
    (st : Transition.Step (NrSession α) (Dispatcher α × Event α) (Outcome (NrSession α) α)) :
    asked (trace ++ [st]) = askedAfter (asked trace) st := by
  rw [asked, List.foldl_append]
  rfl

/-- Every request made while the session waits in PENDING is for the objects of its rule,
under the keys they have there. -/
def SameRequests (trace : List (Transition.Step (NrSession α) (Dispatcher α × Event α)
    (Outcome (NrSession α) α))) (s : NrSession α) : Prop :=
  s.state = .pending → ∀ objects ∈ asked trace, objects = s.rule.objectRequests

/-- In PENDING the requests of the rule are the objects of the stored CREATE, under keys that
were generated for them. -/
def Requested (s : NrSession α) : Prop :=
  s.state = .pending → ∃ c newKey, s.createMessage = some c ∧
    s.rule.objectRequests = ObjectList.setFresh newKey c.body.mspecObjects OrderedMap.empty

/-- Every transition that ends in PENDING saves the objects of the CREATE, or leaves them. -/
theorem Requested.transits (h : s.Requested) (ht : Transits conf d s evt s' effects) :
    s'.Requested := by
  intro hstate'
  cases ht with
  | started => exact ⟨_, d.newKey, rfl, rfl⟩
  | checkRetried _ hc => exact ⟨_, d.newKey, hc, rfl⟩
  | discarded => exact h hstate'
  | _ => simp_all [routed]

theorem eq_of_mem_effects {result : CheckResult} {objects asked : ObjectList α} {timer : Nat}
    {seconds : UInt32} (h : asked ∈
      (result.effects objects ++ [Effect.startTimer timer seconds]).filterMap Effect.checked?) :
    asked = objects := by
  cases result <;> simp_all [CheckResult.effects, Effect.checked?]

/-- While retries are left, asking again puts the objects of the CREATE under new keys and
has these checked. -/
theorem next_of_retryCheck (h : s.retryCheck conf d = .next s' effects)
    (hcount : s.createCounter < s.maxRetries) :
    s'.state = s.state ∧ ∃ c, s.createMessage = some c ∧
      s'.rule = s.rule.resetRequestObjects d.newKey c.body.mspecObjects ∧
      ∀ objects ∈ effects.filterMap Effect.checked?, objects = s'.rule.objectRequests := by
  unfold retryCheck at h
  split at h
  · cases h
  · rename_i c hc
    rw [if_pos hcount] at h
    dsimp only at h
    rw [saveAuctionRule_eq] at h
    split_ifs at h with hread
    · dsimp only at h
      split at h
      · cases h
      · cases h
        exact ⟨rfl, c, hc, rfl, fun _ => eq_of_mem_effects⟩

/-- When no retries are left, the session does not wait any longer. -/
theorem lt_of_retryCheck (h : s.retryCheck conf d = .next s' effects)
    (hstate' : s'.state = .pending) : s.createCounter < s.maxRetries := by
  by_contra hcount
  unfold retryCheck at h
  split at h
  · cases h
  · rw [if_neg hcount] at h
    cases h
    cases hstate'

/-- A call that repeats the check is one that asks again. -/
theorem RepeatsCheck.processEvent_eq (h : s.RepeatsCheck evt) :
    s.processEvent conf d evt = s.retryCheck conf d := by
  rcases h with ⟨hstate, rfl | rfl, _⟩
  · rw [processEvent, hstate]
    rfl
  · rw [processEvent, hstate]
    exact if_pos rfl

/-- What a call in PENDING that stays there does: nothing, or it repeats the request. -/
theorem next_of_pending (hstate : s.state = .pending)
    (h : s.processEvent conf d evt = .next s' effects) (hstate' : s'.state = .pending) :
    (s' = s ∧ effects = []) ∨
      (s.RepeatsCheck evt ∧ ∃ c, s.createMessage = some c ∧
        s'.rule = s.rule.resetRequestObjects d.newKey c.body.mspecObjects ∧
        ∀ objects ∈ effects.filterMap Effect.checked?, objects = s'.rule.objectRequests) := by
  simp only [processEvent, hstate] at h
  unfold handleStatePending at h
  split at h
  · have hcount := lt_of_retryCheck h hstate'
    exact Or.inr ⟨⟨hstate, Or.inl rfl, hcount⟩, (next_of_retryCheck h hcount).2⟩
  · split_ifs at h with hid
    · have hcount := lt_of_retryCheck h hstate'
      exact Or.inr ⟨⟨hstate, Or.inr (congrArg Event.timer hid), hcount⟩,
        (next_of_retryCheck h hcount).2⟩
    · cases h
      exact Or.inl ⟨rfl, rfl⟩
  · split at h
    · cases h
    · dsimp only at h
      split at h
      · cases h
      · cases h
        cases hstate'
  · cases h
    exact Or.inl ⟨rfl, rfl⟩

/-- A call that enters PENDING has the objects of its rule checked. -/
theorem Transits.checked_of_pending (ht : Transits conf d s evt s' effects)
    (hstate : s.state ≠ .pending) (hstate' : s'.state = .pending) :
    ∀ objects ∈ effects.filterMap Effect.checked?, objects = s'.rule.objectRequests := by
  cases ht with
  | started => simp [Effect.checked?]
  | _ => simp_all [routed]

variable {id : SessionId} {random : UInt32}
  {trace : List (Transition.Step (NrSession α) (Dispatcher α × Event α)
    (Outcome (NrSession α) α))}

theorem asksForStored_of_run (hrun : Runs conf id random trace s) : s.Requested :=
  hrun.invariant
    (fun _ _ _ _ hs hstep => hs.transits (transits_of_processEvent (next_of_machine hstep)))
    nofun

/-- The call that enters PENDING asks for a check. -/
theorem Transits.exists_checked_of_pending (ht : Transits conf d s evt s' effects)
    (hstate : s.state ≠ .pending) (hstate' : s'.state = .pending) :
    effects.filterMap Effect.checked? ≠ [] := by
  cases ht with
  | started => simp [Effect.checked?]
  | _ => simp_all [routed]

/-- A session that waits in PENDING has asked for a check. -/
theorem asked_ne_nil_of_run (hrun : Runs conf id random trace s) (hstate : s.state = .pending) :
    asked trace ≠ [] := by
  induction hrun with
  | nil => cases hstate
  | @snoc t u tr input o hrun hstep ih =>
      have hnext := next_of_machine hstep
      rw [asked_snoc, askedAfter]
      by_cases hpending : t.state = .pending
      · rw [if_pos hpending]
        exact List.append_ne_nil_of_left_ne_nil (ih hpending) _
      · rw [if_neg hpending, List.nil_append]
        exact (transits_of_processEvent hnext).exists_checked_of_pending hpending hstate

/-- In every run in which the check is repeated only for a CREATE without objects, all its
requests are the same. -/
theorem sameRequests_of_run (hrun : Runs conf id random trace s)
    (hbare : ∀ st ∈ trace, st.pre.RepeatsCheck st.input.2 → st.pre.CreateIsBare) :
    SameRequests trace s := by
  induction hrun with
  | nil => exact nofun
  | @snoc t u tr input o hrun hstep ih =>
      have hnext := next_of_machine hstep
      have hsame := ih fun st hst => hbare st (List.mem_append_left _ hst)
      have hbare := hbare _ (List.mem_append_right _ List.mem_cons_self)
      intro hstate' objects hobjects
      rw [asked_snoc, askedAfter] at hobjects
      by_cases hstate : t.state = .pending
      · rw [if_pos hstate, List.mem_append] at hobjects
        rcases next_of_pending hstate hnext hstate' with
          ⟨rfl, heffects⟩ | ⟨hrepeats, c, hc, hrule, hnew⟩
        · rcases hobjects with hbefore | hnow
          · exact hsame hstate objects hbefore
          · simp [heffects] at hnow
        · rcases hobjects with hbefore | hnow
          · -- without objects there are no keys that could be other ones
            rcases asksForStored_of_run hrun hstate with ⟨c', newKey, hc', hrequests⟩
            have hnone : c.body.mspecObjects = [] := hbare hrepeats c hc
            have hnone' : c'.body.mspecObjects = [] := hbare hrepeats c' hc'
            rw [hsame hstate objects hbefore, hrule, hrequests, hnone']
            simp only [AuctionRule.resetRequestObjects, hnone, ObjectList.setFresh]
          · exact hnew objects hnow
      · rw [if_neg hstate, List.nil_append] at hobjects
        exact (transits_of_processEvent hnext).checked_of_pending hstate hstate' objects hobjects

/-- A check that is repeated with new keys, for the same objects, has no objects. -/
theorem CreateIsBare.of_sameRequests {input : Dispatcher α × Event α}
    {o : Outcome (NrSession α) α} (hrun : Runs conf id random trace s)
    (hstep : machine (processEvent conf) s input = (o, some s'))
    (hrepeats : s.RepeatsCheck input.2) (hfresh : s.FreshKeys input.1)
    (hsame : SameRequests trace s)
    (hsame' : SameRequests (trace ++ [⟨s, input, o, s'⟩]) s') : s.CreateIsBare := by
  have hstate : s.state = .pending := hrepeats.1
  have hretry := next_of_machine hstep
  rw [hrepeats.processEvent_eq] at hretry
  rcases next_of_retryCheck hretry hrepeats.2.2 with ⟨hstate', c, hc, hrule, _⟩
  rcases List.exists_mem_of_ne_nil _ (asked_ne_nil_of_run hrun hstate) with ⟨before, hbefore⟩
  -- the request made before is for the rule as it was, and for the rule as it is now
  have hthen : before = s.rule.objectRequests := hsame hstate before hbefore
  have hnow : before = s'.rule.objectRequests := by
    refine hsame' (hstate'.trans hstate) before ?_
    rw [asked_snoc, askedAfter, if_pos hstate]
    exact List.mem_append_left _ hbefore
  have hrequests : s'.rule.objectRequests =
      ObjectList.setFresh input.1.newKey c.body.mspecObjects OrderedMap.empty := by
    rw [hrule]
    rfl
  intro c' hc'
  cases hc.symm.trans hc'
  by_contra hobjects
  have hkey := ObjectList.hasKey_setFresh_zero input.1.newKey hobjects OrderedMap.empty
  rw [← hrequests, ← hnow, hthen, hfresh 0] at hkey
  cases hkey

/-- With keys that are new, all requests are the same throughout a run if and only if the
check is never repeated for a CREATE with objects. -/
theorem sameRequests_iff_of_run (hrun : Runs conf id random trace s)
    (hfresh : ∀ st ∈ trace, st.pre.RepeatsCheck st.input.2 → st.pre.FreshKeys st.input.1) :
    (∀ before t, before <+: trace → Runs conf id random before t → SameRequests before t) ↔
      ∀ st ∈ trace, st.pre.RepeatsCheck st.input.2 → st.pre.CreateIsBare := by
  constructor
  · intro hsame
    induction hrun with
    | nil => exact fun _ hst => absurd hst List.not_mem_nil
    | @snoc t u tr input o hrun hstep ih =>
        have hbefore : ∀ before t', before <+: tr → Runs conf id random before t' →
            SameRequests before t' :=
          fun before t' hbefore => hsame before t' (hbefore.trans (List.prefix_append _ _))
        intro st hst hrepeats
        rcases List.mem_append.mp hst with hst | hst
        · exact ih (fun st hst => hfresh st (List.mem_append_left _ hst)) hbefore st hst hrepeats
        · cases List.mem_singleton.mp hst
          exact CreateIsBare.of_sameRequests hrun hstep hrepeats
            (hfresh _ (List.mem_append_right _ List.mem_cons_self) hrepeats)
            (hbefore tr t List.prefix_rfl hrun)
            (hsame _ u List.prefix_rfl (hrun.snoc hstep))
  · intro hbare before t hbefore hrun'
    exact sameRequests_of_run hrun' fun st hst => hbare st (hbefore.subset hst)

/-- All requests made for a CREATE in a run are the same. -/
def AlwaysSameRequests (α : Type) (conf : AnslpConfig) : Prop :=
  ∀ id random trace (s : NrSession α), Runs conf id random trace s → SameRequests trace s

end NrSession

/-! ### A CREATE with an object -/

namespace Checked

open Sample hiding conf

/-- A node that installs rules. -/
def conf : AnslpConfig :=
  { Sample.conf with installAuctionRules := true }

/-- A forwarder that has the object of a CREATE checked. -/
def forwarder : NfSession RawIpap :=
  { (((NfSession.new 1).configured conf).numbered Bystander.create 30).accepted surroundings
      Bystander.create flow with
    stateTimer := 1
    state := .pendingCheck }

/-- A responder that does. -/
def responder : NrSession RawIpap :=
  { (NrSession.new conf 1 0).accepted conf surroundings ⟨Bystander.create.ntlpMsg, true⟩
      Bystander.create 30 with
    createCounter := 1
    stateTimer := 1
    state := .pending }

/-- The first step of the responder. -/
def start : Transition.Step (NrSession RawIpap) (Dispatcher RawIpap × Event RawIpap)
    (Outcome (NrSession RawIpap) RawIpap) where
  pre := NrSession.new conf 1 0
  input := (surroundings, .msg ⟨Bystander.create.ntlpMsg, true⟩)
  output := (NrSession.new conf 1 0).processEvent conf surroundings
    (.msg ⟨Bystander.create.ntlpMsg, true⟩)
  post := responder

theorem runs_forwarder : ∃ trace, NfSession.Runs conf 1 trace forwarder :=
  ⟨_, run_snoc_of_next (d := surroundings) (.nil (s := NfSession.new 1))
    (rfl : (NfSession.processEvent conf _ _ (.msg ⟨Bystander.create.ntlpMsg, true⟩)).next? =
      some forwarder)⟩

theorem runs_responder : NrSession.Runs conf 1 0 [start] responder :=
  run_snoc_of_next .nil (rfl : start.output.next? = some responder)

/-- The objects of the reply to the check: the object is kept. -/
def kept : ObjectList RawIpap :=
  OrderedMap.empty.insert 0 object

/-- The responder, its rule handed to the installer. -/
def installingResponder : NrSession RawIpap :=
  { responder with createCounter := 0, state := .pendingInstalling }

/-- The second step of the responder. -/
def reply : Transition.Step (NrSession RawIpap) (Dispatcher RawIpap × Event RawIpap)
    (Outcome (NrSession RawIpap) RawIpap) where
  pre := responder
  input := (surroundings, .apiCheck kept)
  output := responder.processEvent conf surroundings (.apiCheck kept)
  post := installingResponder

theorem runs_installingResponder :
    NrSession.Runs conf 1 0 [start, reply] installingResponder :=
  run_snoc_of_next runs_responder (rfl : reply.output.next? = some installingResponder)

/-- The responder in AUCTIONING, the object installed. -/
def upResponder : NrSession RawIpap :=
  { installingResponder with
    rule := installingResponder.rule.setReponseObjects surroundings.newKey kept
    state := .auctioning }

theorem runs_upResponder : ∃ trace, NrSession.Runs conf 1 0 trace upResponder :=
  ⟨_, run_snoc_of_next (d := surroundings) runs_installingResponder
    (rfl : (NrSession.processEvent conf _ _ (.apiInstall kept)).next? = some upResponder)⟩

/-- A reply without the only object makes the loop leave the map. -/
theorem not_alwaysKeepsChecked : ¬ AlwaysKeepsChecked RawIpap conf := by
  intro h
  rcases runs_forwarder with ⟨trace, hrun⟩
  rcases h.1 1 trace forwarder hrun rfl surroundings OrderedMap.empty with ⟨s', hleft, _⟩
  cases hleft

/-- A CREATE for three objects. -/
def several : KindMsg .create RawIpap :=
  let request := { request with
    mspecObjects := ((OrderedMap.empty.insert 0 object).insert 1 object).insert 2 object }
  ((NiSession.new conf 1 0).setUp surroundings request).buildCreateMessage
    (NiSession.requestedMri request) request

/-- The forwarder that has them checked. -/
def choosing : NfSession RawIpap :=
  { (((NfSession.new 1).configured conf).numbered several 30).accepted surroundings several
      flow with
    stateTimer := 1
    state := .pendingCheck }

/-- The reply to the check, without the second object. -/
def chosen : ObjectList RawIpap :=
  (OrderedMap.empty.insert 0 object).insert 2 object

/-- The first and the third object are kept. -/
theorem keepsChecked_choosing : ∃ trace, NfSession.Runs conf 1 trace choosing ∧
    choosing.rule.objectRequests.size = 3 ∧
    (choosing.processEvent conf surroundings (.apiCheck chosen)).KeepsChecked NfSession.rule
      choosing chosen := by
  have hrun := run_snoc_of_next (d := surroundings) (u := choosing) (.nil (s := NfSession.new 1))
    (rfl : (NfSession.processEvent conf _ _ (.msg ⟨several.ntlpMsg, true⟩)).next? =
      some choosing)
  refine ⟨_, hrun, rfl, ((keepsChecked_iff_of_run conf).1 1 _ choosing hrun rfl surroundings
    chosen).mpr ⟨?_, ?_⟩⟩
  · rintro e ⟨⟩
    rfl
  · exact List.isChain_cons_cons.mpr ⟨by decide, List.isChain_cons_cons.mpr ⟨by decide,
      List.isChain_singleton _⟩⟩

/-- The surroundings when the timer expires: other keys are generated. -/
def later : Dispatcher RawIpap :=
  { surroundings with newKey := fun i => BitVec.ofNat 128 (i + 1) }

/-- The check that is repeated has another key for the object. -/
theorem not_alwaysSameRequests : ¬ NrSession.AlwaysSameRequests RawIpap conf := by
  intro h
  have hrun := run_snoc_of_next (d := later) runs_responder
    (rfl : (responder.processEvent conf later (.timer 1)).next? = some _)
  have hsame := h 1 0 _ _ hrun rfl responder.rule.objectRequests (by
    rw [NrSession.asked_snoc]
    exact List.mem_append_left _ List.mem_cons_self)
  have hkey := congrArg (fun objects => ObjectList.hasKey objects 0) hsame
  cases hkey

/-- The responder that waits for the check of a CREATE without objects. -/
def bare : NrSession RawIpap :=
  { (NrSession.new conf 1 0).accepted conf surroundings arrival create 30 with
    createCounter := 1
    stateTimer := 1
    state := .pending }

/-- It asks twice, for the same objects: none. -/
theorem sameRequests_bare : ∃ trace, ∃ s : NrSession RawIpap, NrSession.Runs conf 1 0 trace s ∧
    (NrSession.asked trace).length = 2 ∧ NrSession.SameRequests trace s := by
  have hbare := run_snoc_of_next (d := surroundings) (u := bare)
    (.nil (s := NrSession.new conf 1 0)) (rfl : (NrSession.processEvent conf _ _
      (.msg arrival)).next? = some bare)
  have hagain := run_snoc_of_next (d := later) (u := { bare with createCounter := 2 }) hbare
    (rfl : (bare.processEvent conf later (.timer 1)).next? = some _)
  refine ⟨_, _, hagain, rfl, ?_⟩
  refine (NrSession.sameRequests_iff_of_run hagain ?_).mpr ?_ _ _ List.prefix_rfl hagain
  · intro st hst _ i
    rcases List.mem_append.mp hst with hst | hst
    · cases List.mem_singleton.mp hst
      rfl
    · cases List.mem_singleton.mp hst
      rfl
  · intro st hst hrepeats c hc
    rcases List.mem_append.mp hst with hst | hst
    · cases List.mem_singleton.mp hst
      cases hrepeats.1
    · cases List.mem_singleton.mp hst
      cases hc
      rfl

end Checked
end Anslp
