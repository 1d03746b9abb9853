import Mathlib.Data.Rat.Floor
import Mathlib.Tactic.FieldSimp
import Mathlib.Tactic.Linarith
import Anslp.Lib.Rounding
import Anslp.Session.Safety

/-!
# Refresh intervals

The interval after which an initiator refreshes its session.  It is computed from the
lifetime the user asks for, and again when the RESPONSE brings another lifetime, each time
with numbers that may not fit their types.

Main results:

- Theorems {lit}`NiSession.intervalFor_eq_ceil` and {lit}`timeoutFor_eq_ceil`: the exact values.
- Theorem {lit}`NiSession.computesIntervals_iff`: the requests for which a new session
  computes an interval and a timeout.
- Theorem {lit}`NiSession.refreshesInTime_of_run`: the runs in which a session that is up is
  refreshed before its lifetime is over.

Current gaps:

- Quotients are those of exact numbers; the rounding of floating-point division is left out.
-/

namespace Anslp

/-! ## Intervals of a request -/

/-- The response timeout for a random number: the refresh interval times a factor between a
half and one and a half, rounded up. -/
def timeoutFor (rand : Nat) (r : UInt32) : Nat :=
  ((rand % 1000 + 500) * r.toNat + 999) / 1000

/-- The surroundings in which the timeout is computed from a random number. -/
def Dispatcher.drawing {α : Type} (d : Dispatcher α) (rand : Nat) : Dispatcher α :=
  { d with randomTimeout := timeoutFor rand }

theorem timeoutFor_eq_ceil (rand : Nat) (r : UInt32) :
    timeoutFor rand r = ⌈(((rand % 1000 : ℕ) : ℚ) / 1000 + 1 / 2) * r.toNat⌉₊ := by
  have hquotient : (((rand % 1000 : ℕ) : ℚ) / 1000 + 1 / 2) * r.toNat =
      (((rand % 1000 + 500) * r.toNat : ℕ) : ℚ) / (1000 : ℕ) := by
    push_cast
    ring
  rw [hquotient, Rounding.ceil_natCast_div (by decide), timeoutFor]

theorem one_le_timeoutFor (rand : Nat) {r : UInt32} (h : 0 < r) : 1 ≤ timeoutFor rand r := by
  rw [UInt32.lt_iff_toNat_lt] at h
  have hfactor := Nat.mul_le_mul (Nat.le_add_left 500 (rand % 1000)) h
  rw [timeoutFor, Nat.le_div_iff_mul_le (by decide)]
  simp only [UInt32.toNat_zero] at hfactor
  omega

/-- The timeout fits its type exactly if the interval is not too large. -/
theorem timeoutFor_lt_iff (rand : Nat) (r : UInt32) :
    timeoutFor rand r < 2 ^ 31 ↔ r.toNat ≤ 1000 * (2 ^ 31 - 1) / (rand % 1000 + 500) := by
  rw [timeoutFor, Nat.div_lt_iff_lt_mul (by decide), Nat.le_div_iff_mul_le (by omega),
    Nat.mul_comm r.toNat]
  omega

namespace NiSession

variable {α : Type} {d : Dispatcher α} {s s' : NiSession α} {evt : Event α}
  {effects : List (Effect α)} {lifetime maxRetries : UInt32}

theorem intervalFor_eq_ceil (lifetime maxRetries : UInt32) :
    intervalFor lifetime maxRetries =
      ⌈(lifetime.toNat : ℚ) / ((maxRetries.toNat + 1 / 2) * (3 / 2))⌉₊ := by
  have hquotient : (lifetime.toNat : ℚ) / ((maxRetries.toNat + 1 / 2) * (3 / 2)) =
      ((4 * lifetime.toNat : ℕ) : ℚ) / (3 * (2 * maxRetries.toNat + 1) : ℕ) := by
    push_cast
    field_simp
    ring
  rw [hquotient, Rounding.ceil_natCast_div (by omega), intervalFor]

/-- A request whose intervals fit their types: it has a lifetime, and that is not too long for
the number of retries and the random number. -/
theorem not_unfit_drawing_iff (d : Dispatcher α) (rand : Nat) (s : NiSession α)
    (e : ApiCreateEvent α) :
    ¬ s.Unfit (d.drawing rand) e ↔ s.requestedLifetime e ≠ 0 ∧
      4 * (s.requestedLifetime e).toNat ≤ 3 * (2 * s.maxRetries.toNat + 1) *
        (1000 * (2 ^ 31 - 1) / (rand % 1000 + 500)) := by
  have hlarge : 1000 * (2 ^ 31 - 1) / (rand % 1000 + 500) < 2 ^ 32 := by
    rw [Nat.div_lt_iff_lt_mul (by omega)]
    omega
  rw [← Rounding.add_pred_div_le_iff (by omega)]
  simp only [Unfit, not_or, Nat.not_le]
  refine and_congr_right fun _ => ?_
  change intervalFor _ _ < _ ∧ timeoutFor rand _ < _ ↔ intervalFor _ _ ≤ _
  rw [timeoutFor_lt_iff, UInt32.toNat_ofNat']
  constructor
  · rintro ⟨hr, ht⟩
    rwa [Nat.mod_eq_of_lt hr] at ht
  · intro hle
    have hr := hle.trans_lt hlarge
    exact ⟨hr, by rwa [Nat.mod_eq_of_lt hr]⟩

/-- A call computes a refresh interval and a response timeout. -/
def ComputesIntervals (o : Outcome (NiSession α) α) : Prop :=
  ∃ s' effects, o = .next s' effects ∧ 0 < s'.refreshInterval ∧ 1 ≤ s'.responseTimeout

/-- A session set up for a request that fits has both. -/
theorem computesIntervals_of_fit {rand : Nat} {e : ApiCreateEvent α} (hstate : s.state = .close)
    (hfit : ¬ s.Unfit (d.drawing rand) e) :
    ComputesIntervals (s.processEvent (d.drawing rand) (.apiCreate e)) := by
  have hsetup := setupSession_of_fit hfit
  simp only [Unfit, not_or, Nat.not_le] at hfit
  rcases hfit with ⟨hlifetime, hr, ht⟩
  have hinterval : 0 < (s.setUp (d.drawing rand) e).refreshInterval := by
    rw [UInt32.lt_iff_toNat_lt, setUp, UInt32.toNat_ofNat', Nat.mod_eq_of_lt hr]
    exact Nat.pos_of_ne_zero (mt (intervalFor_eq_zero_iff _ _).mp hlifetime)
  have htimeout : 1 ≤ (s.setUp (d.drawing rand) e).responseTimeout := by
    rw [UInt32.le_iff_toNat_le, setUp, UInt32.toNat_ofNat',
      Nat.mod_eq_of_lt (ht.trans (by decide))]
    exact one_le_timeoutFor rand hinterval
  simp only [processEvent, hstate, handleStateClose, hsetup]
  split_ifs
  · exact ⟨_, _, rfl, hinterval, htimeout⟩
  · exact ⟨_, _, rfl, hinterval, htimeout⟩

/-- A new session computes a refresh interval and a response timeout for a request exactly if
the request has a lifetime that is not too long. -/
theorem computesIntervals_iff (conf : AnslpConfig) (id : SessionId) (random : UInt32)
    (d : Dispatcher α) (rand : Nat) (e : ApiCreateEvent α) :
    ComputesIntervals ((new conf id random).processEvent (d.drawing rand) (.apiCreate e)) ↔
      e.sessionLifetime ≠ 0 ∧
        4 * e.sessionLifetime.toNat ≤ 3 * (2 * conf.niMaxRetries.toNat + 1) *
          (1000 * (2 ^ 31 - 1) / (rand % 1000 + 500)) := by
  have hlifetime : (new conf id random : NiSession α).requestedLifetime e = e.sessionLifetime := by
    unfold requestedLifetime
    split_ifs with h
    · rfl
    · exact (not_not.mp h).symm
  have hfit := not_unfit_drawing_iff d rand (new conf id random) e
  rw [hlifetime] at hfit
  refine Iff.trans ⟨?_, computesIntervals_of_fit rfl⟩ hfit
  rintro ⟨s', effects, hnext, -⟩ hunfit
  rcases setupSession_of_unfit hunfit with ⟨f, hf⟩
  have hstate : (new conf id random : NiSession α).state = .close := rfl
  simp only [processEvent, hstate, handleStateClose, hf] at hnext
  cases hnext

/-- Every new session computes a refresh interval and a response timeout. -/
def AlwaysComputesIntervals (α : Type) : Prop :=
  ∀ conf id random (d : Dispatcher α) rand e,
    ComputesIntervals ((new conf id random).processEvent (d.drawing rand) (.apiCreate e))

/-! ## Intervals of a session that is up -/

/-- A session that is up is refreshed before its lifetime is over, unless it is torn down. -/
def RefreshesInTime (s : NiSession α) : Prop :=
  s.state = .auctioning → s.lifetime ≠ 0 →
    0 < s.refreshInterval ∧ s.refreshInterval < s.lifetime

/-- In every run a session that is up is refreshed before its lifetime is over. -/
def AlwaysRefreshesInTime (α : Type) (conf : AnslpConfig) : Prop :=
  ∀ id random trace (s : NiSession α), Runs conf id random trace s → s.RefreshesInTime

/-- The lifetimes of a RESPONSE from which a right interval follows: none, the one asked for
if it leaves room for a retry, or another one that is not lost in the computation. -/
def RefreshableWith (s : NiSession α) (lifetime : UInt32) : Prop :=
  lifetime ≠ 0 →
    if lifetime = s.lifetime then 2 ≤ lifetime ∧ 1 ≤ s.maxRetries
    else lifetime ≠ 1 ∧ lifetime ≠ 2147483648 ∧ lifetime ≠ 2147483649

/-- The RESPONSE to the CREATE brings such a lifetime. -/
def AnsweredRefreshably (s : NiSession α) (evt : Event α) : Prop :=
  ∀ e c r, evt = .msg e → s.state = .pending → s.lastCreateMsg = some c →
    e.anslpResponse? c = some r → r.body.isSuccess = true →
      s.RefreshableWith r.body.getSessionLifetime

/-- The interval of a request is below its lifetime if there is a second and a retry to
spare. -/
theorem intervalFor_lt_iff (h : lifetime ≠ 0) :
    intervalFor lifetime maxRetries < lifetime.toNat ↔ 2 ≤ lifetime ∧ 1 ≤ maxRetries := by
  have hpos : 0 < lifetime.toNat := by
    rw [ne_eq, ← UInt32.toNat_inj] at h
    exact Nat.pos_of_ne_zero h
  rw [intervalFor, Rounding.add_pred_div_lt_iff (by omega), UInt32.le_iff_toNat_le,
    UInt32.le_iff_toNat_le]
  simp only [UInt32.reduceToNat]
  constructor
  · intro hle
    constructor
    · by_contra hone
      have hlifetime : lifetime.toNat = 1 := by omega
      rw [hlifetime] at hle
      omega
    · by_contra hnone
      have hretries : maxRetries.toNat = 0 := by omega
      rw [hretries] at hle
      omega
  · rintro ⟨hlifetime, hretries⟩
    rcases Nat.exists_eq_add_of_le hlifetime with ⟨k, hk⟩
    have hfactor : 9 ≤ 3 * (2 * maxRetries.toNat + 1) := by omega
    have hk' := Nat.mul_le_mul_right k hfactor
    rw [hk, Nat.mul_add (3 * (2 * maxRetries.toNat + 1))]
    omega

/-- The interval of a lifetime from the network is right unless it is 0. -/
theorem scaled_lt_iff (h : lifetime ≠ 0) :
    0 < lifetime * 2 / 3 ∧ lifetime * 2 / 3 < lifetime ↔
      lifetime ≠ 1 ∧ lifetime ≠ 2147483648 ∧ lifetime ≠ 2147483649 := by
  have hbound := lifetime.toNat_lt
  simp only [ne_eq, ← UInt32.toNat_inj, UInt32.lt_iff_toNat_lt, UInt32.toNat_div,
    UInt32.toNat_mul, UInt32.reduceToNat] at h ⊢
  omega

/-- What each state knows of the interval: that of the request while the RESPONSE is waited
for, and from then on that it is right. -/
structure Paced (s : NiSession α) : Prop where
  pending : s.state = .pending → s.lifetime ≠ 0 ∧
    s.refreshInterval.toNat = intervalFor s.lifetime s.maxRetries
  up : s.state = .pendingInstalling ∨ s.state = .auctioning → s.lifetime ≠ 0 →
    0 < s.refreshInterval ∧ s.refreshInterval < s.lifetime

/-- After a RESPONSE of success the interval is right exactly for the lifetimes from which a
right one follows. -/
theorem Paced.responded_iff (h : s.Paced) (hstate : s.state = .pending) (d : Dispatcher α)
    (r : KindMsg .response α) :
    ((s.responded d r).lifetime ≠ 0 → 0 < (s.responded d r).refreshInterval ∧
        (s.responded d r).refreshInterval < (s.responded d r).lifetime) ↔
      s.RefreshableWith r.body.getSessionLifetime := by
  rcases h.pending hstate with ⟨hlifetime, hinterval⟩
  refine imp_congr_right fun hne => ?_
  simp only [responded]
  by_cases hsame : r.body.getSessionLifetime = s.lifetime
  · rw [if_pos hsame, if_neg (not_not.mpr hsame), hsame, ← intervalFor_lt_iff hlifetime,
      ← hinterval, UInt32.lt_iff_toNat_lt, UInt32.lt_iff_toNat_lt]
    refine and_iff_right ?_
    rw [hinterval]
    exact Nat.pos_of_ne_zero (mt (intervalFor_eq_zero_iff _ _).mp hlifetime)
  · rw [if_neg hsame, if_pos hsame]
    exact scaled_lt_iff hne

/-- Every step keeps what is known of the interval. -/
theorem Paced.of_next (h : s.Paced) (hanswered : s.AnsweredRefreshably evt)
    (hnext : s.processEvent d evt = .next s' effects) : s'.Paced := by
  have hsame : ∀ {t : NiSession α}, t.lifetime = s.lifetime →
      t.refreshInterval = s.refreshInterval → t.maxRetries = s.maxRetries →
      t.state = s.state → t.Paced := by
    intro t hlifetime hinterval hretries hstate
    constructor
    · rw [hlifetime, hinterval, hretries, hstate]
      exact h.pending
    · rw [hlifetime, hinterval, hstate]
      exact h.up
  have hdown : ∀ {t : NiSession α}, t.state = .close ∨ t.state = .pendingTeardown →
      t.Paced := by
    intro t hstate
    constructor
    · intro hpending
      rcases hstate with hs | hs <;> cases hs.symm.trans hpending
    · rintro (hup | hup) <;> rcases hstate with hs | hs <;> cases hs.symm.trans hup
  cases transits_of_processEvent hnext with
  | discarded | createRetried | responseRetried | refreshSent | refreshRetried | refreshed
  | biddingSent | biddingTaken | removalRetried => exact hsame rfl rfl rfl rfl
  | @created e told hstate =>
      have hfit : ¬ s.Unfit d e := by
        intro hunfit
        rcases undefined_of_unsafe (.create hstate hunfit) with ⟨f, hf⟩
        rw [hf] at hnext
        cases hnext
      simp only [Unfit, not_or, Nat.not_le] at hfit
      rcases hfit with ⟨hlifetime, hr, _⟩
      refine ⟨fun _ => ⟨hlifetime, ?_⟩, ?_⟩
      · exact (UInt32.toNat_ofNat' ..).trans (Nat.mod_eq_of_lt hr)
      · rintro (hs | hs) <;> cases hs
  | createdUntold hstate => exact hdown (Or.inl hstate)
  | failed | tornDown | uninstalled | closed | removed => exact hdown (Or.inl rfl)
  | removing => exact hdown (Or.inr rfl)
  | responded hstate hc hr hsuccess =>
      refine ⟨fun hpending => (by cases hpending), fun _ => ?_⟩
      exact (h.responded_iff hstate d _).mpr (hanswered _ _ _ rfl hstate hc hr hsuccess)
  | installed hstate =>
      exact ⟨fun hpending => (by cases hpending), fun _ => h.up (Or.inl hstate)⟩
  | tearingDown hstate =>
      refine ⟨fun hs => ?_, fun _ hlifetime => absurd rfl hlifetime⟩
      cases hstate.symm.trans hs

/-- In every run in which the RESPONSEs bring lifetimes from which a right interval follows,
a session that is up is refreshed before its lifetime is over. -/
theorem refreshesInTime_of_run (conf : AnslpConfig) (id : SessionId) (random : UInt32)
    (trace : List (Transition.Step (NiSession α) (Dispatcher α × Event α)
      (Outcome (NiSession α) α))) (s : NiSession α) (hrun : Runs conf id random trace s)
    (hanswered : ∀ st ∈ trace, st.pre.AnsweredRefreshably st.input.2) : s.RefreshesInTime := by
  have hnew : (new conf id random : NiSession α).Paced :=
    ⟨nofun, by rintro (hs | hs) <;> cases hs⟩
  have hpaced : s.Paced := by
    refine hrun.invariant_of_guarded (I := Paced) (G := fun s input =>
      s.AnsweredRefreshably input.2) ?_ hnew hanswered
    intro t input o u ht hguard hstep
    exact ht.of_next hguard (next_of_machine hstep)
  intro hstate
  exact hpaced.up (Or.inr hstate)

end NiSession

/-! ### Lifetimes that are too short -/

namespace ShortLifetime

open Sample RepeatedResponse

/-- A user asks for a session without a lifetime. -/
def withoutLifetime : ApiCreateEvent RawIpap :=
  { request with sessionLifetime := 0 }

/-- The assertion fails. -/
theorem not_alwaysComputesIntervals : ¬ NiSession.AlwaysComputesIntervals RawIpap := by
  intro h
  rcases h conf 1 0 surroundings 0 withoutLifetime with ⟨s', effects, hnext, _⟩
  cases hnext

/-- The RESPONSE that leaves a session one second. -/
def shortened : MsgEvent RawIpap :=
  ⟨create.ntlpMsg.createSuccessResponse 1, true⟩

/-- The initiator in AUCTIONING after it. -/
def short : NiSession RawIpap :=
  { up with
    lifetime := 1
    refreshInterval := 0 }

/-- The steps of the initiator: the request, the RESPONSE, and the installation. -/
def steps (response : MsgEvent RawIpap) (installing up : NiSession RawIpap) :
    List (Transition.Step (NiSession RawIpap) (Dispatcher RawIpap × Event RawIpap)
      (Outcome (NiSession RawIpap) RawIpap)) :=
  [⟨.new conf 1 0, (surroundings, .apiCreate request),
      (NiSession.new conf 1 0).processEvent surroundings (.apiCreate request), waiting⟩,
    ⟨waiting, (surroundings, .msg response),
      waiting.processEvent surroundings (.msg response), installing⟩,
    ⟨installing, (surroundings, .apiInstall OrderedMap.empty),
      installing.processEvent surroundings (.apiInstall OrderedMap.empty), up⟩]

theorem runs_steps {response : MsgEvent RawIpap} {installing up : NiSession RawIpap}
    (hresponse : (waiting.processEvent surroundings (.msg response)).next? = some installing)
    (hinstall : (installing.processEvent surroundings (.apiInstall OrderedMap.empty)).next? =
      some up) : NiSession.Runs conf 1 0 (steps response installing up) up :=
  run_snoc_of_next (run_snoc_of_next (run_snoc_of_next (d := surroundings)
    (.nil (s := NiSession.new conf 1 0)) (rfl : (NiSession.processEvent _ _
      (.apiCreate request)).next? = some waiting)) hresponse) hinstall

/-- The session is not refreshed in time. -/
theorem not_alwaysRefreshesInTime : ¬ NiSession.AlwaysRefreshesInTime RawIpap conf := by
  intro h
  have hrun : NiSession.Runs conf 1 0
      (steps shortened { installing with lifetime := 1, refreshInterval := 0 } short) short :=
    runs_steps rfl rfl
  have hlt := (h 1 0 _ short hrun rfl (by decide)).1
  exact absurd hlt (by decide)

/-- The session with the lifetime asked for is refreshed in time. -/
theorem refreshesInTime_up : up.RefreshesInTime := by
  refine NiSession.refreshesInTime_of_run conf 1 0 (steps response installing up) up
    (runs_steps rfl rfl) ?_
  intro st hst e c r hevt hstate hc hr hsuccess
  simp only [steps, List.mem_cons, List.not_mem_nil, or_false] at hst
  rcases hst with rfl | rfl | rfl
  · cases hevt
  · cases hevt
    cases hc
    cases hr
    intro _
    decide
  · cases hevt

end ShortLifetime
end Anslp
