import Anslp.Session.Timers

/-!
# The start of a responder

What a responder in CLOSE makes of a CREATE: it starts the session, or answers with exactly
one failure and stays as it was, without a timer.  Three CREATEs that pass the checks do
neither: one in a session that stored a CREATE before, which is deleted twice, one without a
path-coupled routing, whose error is not the one the handler catches, and one with an object
that cannot be read.

Main results:

- Theorem {lit}`NrSession.startsOrRejects_iff`: the CREATEs that start the session or are
  rejected.

Current gaps:

- None for the first CREATE of a responder.
-/

namespace Anslp

/-- Whether a routing is path-coupled. -/
def Mri.isPathcoupled : Mri → Bool
  | pathcoupled _ _ => true
  | other _ _ => false

/-- Whether a message is a RESPONSE that reports a failure. -/
def NtlpMsg.reportsFailure {α : Type} (m : NtlpMsg α) : Bool :=
  m.msg.any fun a => a.kind == .response && !a.isSuccess

@[simp]
theorem NtlpMsg.reportsFailure_permanentFailure {α : Type} (m : NtlpMsg α)
    (responseCode : UInt8) :
    (m.createResponse scPermanentFailure responseCode).reportsFailure = true := by
  have hfailure : (m.responseBody scPermanentFailure responseCode).isSuccessResponse = false :=
    m.isSuccessResponse_responseBody (by decide)
  rw [AnslpMsg.isSuccessResponse, m.kind_responseBody] at hfailure
  simp_all [reportsFailure, createResponse]

@[simp]
theorem NtlpMsg.reportsFailure_createSuccessResponse {α : Type} (m : NtlpMsg α)
    (sessionLifetime : UInt32) :
    (m.createSuccessResponse sessionLifetime).reportsFailure = false := by
  have hsuccess := m.isSuccessResponse_successBody sessionLifetime
  rw [AnslpMsg.isSuccessResponse, Bool.and_eq_true] at hsuccess
  simp [reportsFailure, createSuccessResponse, hsuccess.2]

/-- The failures that a list of effects reports. -/
def failures {α : Type} (effects : List (Effect α)) : List (NtlpMsg α) :=
  (effects.filterMap Effect.sent?).filter NtlpMsg.reportsFailure

namespace NrSession

open Session

variable {α : Type} {conf : AnslpConfig} {d : Dispatcher α} {s s' : NrSession α}
  {e : MsgEvent α} {c : KindMsg .create α}

/-- A call returns, and leaves the session closed if and only if it reports exactly one
failure; then it starts no timer. -/
def StartsOrRejects (s : NrSession α) (o : Outcome (NrSession α) α) : Prop :=
  ∃ s' effects, o = .next s' effects ∧ (s'.state = .close ↔ (failures effects).length = 1) ∧
    (s'.state = .close → s'.stateTimer = s.stateTimer ∧
      effects.filterMap Effect.started? = [])

/-- An answer of failure leaves the session as it was. -/
theorem startsOrRejects_of_failure {m : NtlpMsg α} (hstate : s'.state = .close)
    (htimer : s'.stateTimer = s.stateTimer) (hm : m.reportsFailure = true) :
    s.StartsOrRejects (.next s' [.sendMessage m]) :=
  ⟨s', _, rfl, by simp [hstate, failures, hm], fun _ => ⟨htimer, rfl⟩⟩

/-- A CREATE whose rule is saved starts the session, or fails if the installer refuses. -/
theorem startsOrRejects_respond (htimer : s'.stateTimer = s.stateTimer) :
    s.StartsOrRejects (s'.respond conf d c) := by
  unfold respond
  split
  · refine ⟨_, _, rfl, ?_, fun hclose => by cases hclose⟩
    simp [failures, List.filterMap_cons]
  · -- the rule is empty, so the response has no objects
    refine ⟨_, [.sendMessage (c.ntlpMsg.createSuccessResponse s'.lifetime),
      .startTimer (d.startTimer 0) s'.lifetime], rfl, ?_,
      fun hclose => by cases hclose⟩
    simp [failures, List.filterMap_cons]
  · refine ⟨_, _, rfl, ?_, fun _ => ⟨htimer, rfl⟩⟩
    simp [failures, List.filterMap_cons]

/-- A CREATE that passed the checks starts the session or is rejected exactly if its routing
is path-coupled and its objects can be read. -/
theorem startsOrRejects_initiate_iff (htimer : s'.stateTimer = s.stateTimer) :
    s.StartsOrRejects (s'.initiate conf d c) ↔
      c.ntlpMsg.routingInfo.isPathcoupled = true ∧ c.body.mspecReadable = true := by
  unfold initiate
  rw [saveAuctionRule_eq]
  split
  · rename_i mrm downstream hmri
    refine iff_of_false ?_ (by simp [hmri, Mri.isPathcoupled])
    rintro ⟨t, effects, heq, -⟩
    cases heq
  · rename_i flow downstream hmri
    by_cases hread : c.body.mspecReadable = true
    · rw [if_pos hread]
      refine iff_of_true ?_ ⟨by simp [hmri, Mri.isPathcoupled], hread⟩
      exact startsOrRejects_respond htimer
    · rw [if_neg hread]
      refine iff_of_false ?_ fun h => hread h.2
      rintro ⟨t, effects, heq, -⟩
      cases heq

/-- In CLOSE a CREATE starts the session or is rejected exactly if it fails the checks, or if
no CREATE was stored before and, once it is granted a lifetime, its routing is path-coupled
and its objects can be read. -/
theorem startsOrRejects_iff (conf : AnslpConfig) (d : Dispatcher α) (s : NrSession α)
    (hstate : s.state = .close) (e : MsgEvent α) (c : KindMsg .create α)
    (hc : e.ofKind? .create = some c) :
    s.StartsOrRejects (s.processEvent conf d (.msg e)) ↔
      ∀ lifetime,
        checkRequest d e c.body.getSessionLifetime s.maxLifetime = .ok lifetime →
          s.createMessage = none ∧ (lifetime > 0 →
            c.ntlpMsg.routingInfo.isPathcoupled = true ∧ c.body.mspecReadable = true) := by
  have hclose : s.processEvent conf d (.msg e) = s.handleStateClose conf d (.msg e) := by
    rw [processEvent, hstate]
  rw [hclose]
  cases hcheck : checkRequest d e c.body.getSessionLifetime s.maxLifetime with
  | error exp =>
      simp only [handleStateClose, hc, hcheck]
      refine iff_of_true ?_ (fun lifetime hok => by cases hok)
      refine startsOrRejects_of_failure hstate rfl ?_
      rcases checkRequest_eq_error_iff.mp hcheck with ⟨_, _, rfl⟩
      exact c.ntlpMsg.reportsFailure_permanentFailure _
  | ok lifetime =>
      by_cases hfirst : s.createMessage = none
      · simp only [handleStateClose, hc, hcheck, setLastCreateMessage, hfirst]
        by_cases hlifetime : lifetime > 0
        · rw [if_pos hlifetime, startsOrRejects_initiate_iff (by rfl)]
          constructor
          · rintro h _ ⟨⟩
            exact ⟨trivial, fun _ => h⟩
          · intro h
            exact (h lifetime rfl).2 hlifetime
        · rw [if_neg hlifetime]
          refine iff_of_true (startsOrRejects_of_failure hstate rfl (by simp)) ?_
          rintro _ ⟨⟩
          exact ⟨trivial, fun h => absurd h hlifetime⟩
      · -- the stored CREATE is deleted twice
        rw [handleStateClose_of_stored hc hcheck hfirst]
        refine iff_of_false ?_ fun h => hfirst (h lifetime rfl).1
        rintro ⟨t, effects, heq, -⟩
        cases heq

/-- In CLOSE every CREATE starts the session or is rejected. -/
def AlwaysStartsOrRejects (α : Type) (conf : AnslpConfig) : Prop :=
  ∀ (d : Dispatcher α) (s : NrSession α), s.state = .close → ∀ e c,
    e.ofKind? .create = some c → s.StartsOrRejects (s.processEvent conf d (.msg e))

end NrSession

/-! ### A routing that is not path-coupled -/

namespace OtherRouting

open Sample

/-- The sample CREATE with the routing of another method. -/
def other : KindMsg .create RawIpap :=
  { create with
    ntlpMsg := { create.ntlpMsg with routingInfo := .other 1 true } }

/-- The sample CREATE starts a session. -/
theorem startsOrRejects_create :
    (NrSession.new conf 1 0).StartsOrRejects
      ((NrSession.new conf 1 0).processEvent conf surroundings (.msg arrival)) := by
  refine (NrSession.startsOrRejects_iff conf surroundings (.new conf 1 0) rfl arrival create
    rfl).mpr ?_
  intro lifetime _
  exact ⟨rfl, fun _ => ⟨rfl, rfl⟩⟩

/-- The error for the other routing is not caught. -/
theorem not_alwaysStartsOrRejects : ¬ NrSession.AlwaysStartsOrRejects RawIpap conf := by
  intro h
  obtain ⟨s', effects, heq, -⟩ := h surroundings (.new conf 1 0) rfl ⟨other.ntlpMsg, true⟩ other
    rfl
  cases heq

end OtherRouting
end Anslp
