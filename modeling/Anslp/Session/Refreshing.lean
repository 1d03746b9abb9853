import Anslp.Session.Timers

/-!
# The REFRESH transactions of an initiator

An initiator in AUCTIONING sends a REFRESH when its REFRESH timer expires, and one without a
lifetime when its user tears the session down.  It sends the REFRESH again, a number of times,
when its response timer expires before the RESPONSE arrives.  Only for the first kind it starts
this timer, and counts the retries from 0.

Main results:

- Theorem {lit}`newest_iff_of_run`: when the next sequence number is newer than all before.
- Theorem {lit}`countedBy_refreshCounter`: an initiator that waits for a RESPONSE counts its
  retries.
- Theorem {lit}`begins_iff_of_run`: the REFRESHs that begin a transaction as they
  should.

Current gaps:

- None for an initiator in AUCTIONING.
-/

namespace Anslp
namespace NiSession

open Session

variable {α : Type} {d : Dispatcher α} {s s' : NiSession α} {evt : Event α}
  {effects : List (Effect α)} {c : KindMsg .refresh α}

/-! ## Sequence numbers -/

/-- A step of an initiator. -/
abbrev RunStep (α : Type) :=
  Transition.Step (NiSession α) (Dispatcher α × Event α) (Outcome (NiSession α) α)

/-- The sequence numbers given to messages in a run. -/
def numbers (trace : List (RunStep α)) : List UInt32 :=
  (trace.filter fun st => st.post.msn ≠ st.pre.msn).map fun st => st.post.msn

/-- A call gives the next number to a message, or none. -/
theorem Transits.msn_eq (ht : Transits d s evt s' effects) :
    s'.msn = s.msn ∨ s'.msn = s.msn + 1 := by
  cases ht with
  | created | createdUntold | tornDown | uninstalled | refreshSent | tearingDown | biddingSent =>
      exact Or.inr rfl
  | removing _ hends | closed _ hends => cases hends <;> exact Or.inl rfl
  | _ => exact Or.inl rfl

theorem numbers_snoc (trace : List (RunStep α)) (st : RunStep α) :
    numbers (trace ++ [st]) =
      numbers trace ++ if st.post.msn ≠ st.pre.msn then [st.post.msn] else [] := by
  unfold numbers
  rw [List.filter_append, List.map_append]
  by_cases hsame : st.post.msn = st.pre.msn <;> simp [hsame]

theorem length_numbers_le (trace : List (RunStep α)) :
    (numbers trace).length ≤ trace.length := by
  rw [numbers, List.length_map]
  exact List.length_filter_le _ _

section Numbers

variable {conf : AnslpConfig} {id : SessionId} {random : UInt32} {trace : List (RunStep α)}

/-- The numbers given in a run follow its random number one by one. -/
theorem numbers_of_run (hrun : Runs conf id random trace s) :
    s.msn = random + UInt32.ofNat (numbers trace).length ∧
      ∀ m, m ∈ numbers trace ↔
        ∃ k, 0 < k ∧ k ≤ (numbers trace).length ∧ m = random + UInt32.ofNat k := by
  induction hrun with
  | nil =>
      refine ⟨(UInt32.add_zero random).symm, fun m => ?_⟩
      constructor
      · exact fun hm => absurd hm List.not_mem_nil
      · rintro ⟨k, hpos, hle, _⟩
        exact absurd hle (Nat.not_le_of_lt hpos)
  | @snoc t u tr input o hrun hstep ih =>
      have hmsn := (transits_of_processEvent (next_of_machine hstep)).msn_eq
      rw [numbers_snoc]
      by_cases hsame : u.msn = t.msn
      · rw [if_neg (not_not.mpr hsame), List.append_nil, hsame]
        exact ih
      · rw [if_pos hsame, List.length_append, List.length_singleton]
        have hnext : u.msn = random + UInt32.ofNat ((numbers tr).length + 1) := by
          rw [hmsn.resolve_left hsame, ih.1, UInt32.ofNat_add, UInt32.add_assoc]
          rfl
        refine ⟨hnext, fun m => ?_⟩
        rw [List.mem_append, List.mem_singleton, ih.2]
        constructor
        · rintro (⟨k, hpos, hle, hk⟩ | rfl)
          · exact ⟨k, hpos, by omega, hk⟩
          · exact ⟨_, Nat.succ_pos _, Nat.le_refl _, hnext⟩
        · rintro ⟨k, hpos, hle, hk⟩
          by_cases hlast : k = (numbers tr).length + 1
          · exact Or.inr (by rw [hk, hlast, hnext])
          · exact Or.inl ⟨k, hpos, by omega, hk⟩

/-- The next number is newer than all before unless half of the numbers are used up. -/
theorem newest_iff_of_run (hrun : Runs conf id random trace s) :
    (∀ m ∈ numbers trace, isGreaterThan (s.msn + 1) m = true) ↔
      (numbers trace).length < 2 ^ 31 := by
  rcases numbers_of_run hrun with ⟨hmsn, hnumbers⟩
  have hrandom := random.toNat_lt
  constructor
  · intro h
    by_contra hlong
    -- the number that is half of them behind
    have hhalf := h (random + UInt32.ofNat ((numbers trace).length + 1 - 2 ^ 31))
      ((hnumbers _).mpr ⟨_, by omega, by omega, rfl⟩)
    rw [isGreaterThan_iff, hmsn] at hhalf
    simp only [UInt32.toNat_sub, UInt32.toNat_add, UInt32.toNat_ofNat', UInt32.toNat_one] at hhalf
    omega
  · intro hshort m hm
    rcases (hnumbers m).mp hm with ⟨k, hpos, hle, rfl⟩
    rw [isGreaterThan_iff, hmsn]
    simp only [UInt32.toNat_sub, UInt32.toNat_add, UInt32.toNat_ofNat', UInt32.toNat_one]
    omega

end Numbers

/-! ## Waiting for the RESPONSE -/

/-- An initiator that waits for the RESPONSE to a REFRESH: it repeats this REFRESH with a new
timer, or leaves AUCTIONING. -/
def refreshing (c : KindMsg .refresh α) :
    Transition.Retrying (NiSession α) (Dispatcher α × Event α) (Outcome (NiSession α) α) where
  sys := machine processEvent
  waits s := s.state = .auctioning ∧ s.lastRefreshMsg = some c
  silent s input := input.2 ≠ .apiTeardown ∧ input.2 ≠ .timer s.refreshTimer ∧
    ∀ e, input.2 = .msg e → e.anslpResponse? c = none
  expires s input := input.2.expired? = some s.responseTimer
  repeats _ x := x.1.sent = [c.ntlpMsg] ∧ ∃ s', x.2 = some s' ∧ s'.state = .auctioning ∧
    s'.lastRefreshMsg = some c ∧ s'.responseTimer ∈ x.1.effects.filterMap Effect.started?
  givesUp _ x := x.1.sent = [] ∧ ∀ s', x.2 = some s' → s'.state ≠ .auctioning
  idles s x := (∀ m ∈ x.1.sent, ∀ a, m.msg = some a → a.kind ≠ .refresh) ∧
    ∀ s', x.2 = some s' → s'.state = .auctioning ∧ s'.lastRefreshMsg = some c ∧
      s'.responseTimer = s.responseTimer

theorem retryRefresh_of_lt (hc : s.lastRefreshMsg = some c)
    (hcount : s.refreshCounter < s.maxRetries) :
    s.retryRefresh d = .next
      { s with refreshCounter := s.refreshCounter + 1, responseTimer := d.startTimer 0 }
      [.sendMessage c.ntlpMsg, .startTimer (d.startTimer 0) s.responseTimeout] := by
  rw [retryRefresh, if_pos hcount, hc]

/-- Giving up sends nothing and leaves AUCTIONING. -/
theorem retryRefresh_of_not_lt (hcount : ¬ s.refreshCounter < s.maxRetries) :
    (s.retryRefresh d).sent = [] ∧ ∀ s', (s.retryRefresh d).next? = some s' →
      s'.maxRetries = s.maxRetries ∧ s'.state ≠ .auctioning := by
  rw [retryRefresh, if_neg hcount]
  unfold removeOrClose
  dsimp only
  split
  · exact ⟨rfl, fun s' hs' => by cases hs'⟩
  · split_ifs
    · split
      · exact ⟨rfl, fun s' hs' => by cases hs'⟩
      · refine ⟨rfl, fun s' hs' => ?_⟩
        cases hs'
        exact ⟨rfl, fun hup => by cases hup⟩
    · refine ⟨rfl, fun s' hs' => ?_⟩
      cases hs'
      exact ⟨rfl, fun hup => by cases hup⟩

/-- What a call leaves as it is that has nothing to do with the REFRESH. -/
structure KeepsWaiting (s s' : NiSession α) : Prop where
  state : s'.state = s.state
  lastRefreshMsg : s'.lastRefreshMsg = s.lastRefreshMsg
  responseTimer : s'.responseTimer = s.responseTimer
  refreshCounter : s'.refreshCounter = s.refreshCounter
  maxRetries : s'.maxRetries = s.maxRetries

theorem keepsWaiting_of_other (hstate : s.state = .auctioning) (hc : s.lastRefreshMsg = some c)
    (hsilent : (refreshing c).silent s (d, evt)) (hother : evt.expired? ≠ some s.responseTimer) :
    (∀ m ∈ (s.processEvent d evt).sent, ∀ a, m.msg = some a → a.kind ≠ .refresh) ∧
      ∀ s', (s.processEvent d evt).next? = some s' → s.KeepsWaiting s' := by
  have hsame : (∀ m ∈ (Outcome.next s ([] : List (Effect α))).sent,
      ∀ a, m.msg = some a → a.kind ≠ .refresh) ∧
        ∀ s', (Outcome.next s ([] : List (Effect α))).next? = some s' → s.KeepsWaiting s' := by
    refine ⟨fun m hm => absurd hm List.not_mem_nil, fun s' hs' => ?_⟩
    cases hs'
    exact ⟨rfl, rfl, rfl, rfl, rfl⟩
  rcases hsilent with ⟨hteardown, hrefresh, hresponse⟩
  simp only [processEvent, hstate]
  unfold handleStateAuctioning
  split
  · exact hsame
  · rename_i id
    rw [if_neg fun hid : id = s.refreshTimer => hrefresh (congrArg Event.timer hid),
      if_neg fun hid : id = s.responseTimer => hother (congrArg some hid)]
    exact hsame
  · exact absurd rfl hteardown
  · unfold processApiBidding
    split
    · exact ⟨fun m hm => absurd hm List.not_mem_nil, fun s' hs' => by cases hs'⟩
    · refine ⟨fun m hm a ha => ?_, fun s' hs' => ?_⟩
      · cases List.mem_singleton.mp hm
        cases ha
        rw [AnslpMsg.kind_setMspecObjects]
        intro hkind
        cases hkind
      · cases hs'
        exact ⟨rfl, rfl, rfl, rfl, rfl⟩
  · rename_i e
    split
    · unfold processBidding
      split
      · exact ⟨fun m hm => absurd hm List.not_mem_nil, fun s' hs' => by cases hs'⟩
      · refine ⟨fun m hm => absurd hm List.not_mem_nil, fun s' hs' => ?_⟩
        cases hs'
        exact ⟨rfl, rfl, rfl, rfl, rfl⟩
    · rw [hc]
      dsimp only
      rw [hresponse e rfl]
      exact hsame
  · rw [hc, if_neg (by simp)]
    exact hsame

theorem processEvent_responseTimer (hstate : s.state = .auctioning)
    (hsilent : (refreshing c).silent s (d, .timer s.responseTimer)) :
    s.processEvent d (.timer s.responseTimer) = s.retryRefresh d := by
  have hne : ¬ s.responseTimer = s.refreshTimer := fun heq =>
    hsilent.2.1 (congrArg Event.timer heq)
  simp only [processEvent, hstate, handleStateAuctioning, if_neg hne, if_true]

/-- An initiator that waits for a RESPONSE counts its retries. -/
theorem countedBy_refreshCounter (c : KindMsg .refresh α) (maxRetries : UInt32) :
    (refreshing c).CountedBy (fun s => s.refreshCounter.toNat) maxRetries.toNat
      fun s => s.maxRetries = maxRetries := by
  apply countedBy_of_machine rfl fun _ _ => rfl
  · rintro s d rfl ⟨hstate, hc⟩ hsilent hcount
    have hnext := (processEvent_responseTimer hstate hsilent).trans (retryRefresh_of_lt hc hcount)
    rw [machine, hnext]
    refine ⟨⟨rfl, _, rfl, hstate, hc, List.mem_cons_self⟩, fun s' hs' => ?_⟩
    cases hs'
    exact ⟨rfl, rfl⟩
  · rintro s d rfl ⟨hstate, _⟩ hsilent hcount
    rcases retryRefresh_of_not_lt (d := d) hcount with ⟨hsent, hleft⟩
    rw [machine, processEvent_responseTimer hstate hsilent]
    refine ⟨⟨hsent, fun s' hs' => (hleft s' hs').2⟩, fun s' hs' => ?_⟩
    exact ⟨(hleft s' hs').1, fun hwaits => (hleft s' hs').2 hwaits.1⟩
  · rintro s d evt rfl ⟨hstate, hc⟩ hsilent hother
    rcases keepsWaiting_of_other hstate hc hsilent hother with ⟨hsent, hkeeps⟩
    refine ⟨⟨hsent, fun s' hs' => ?_⟩, fun s' hs' => ?_⟩
    · have hkept := hkeeps s' hs'
      exact ⟨hkept.state.trans hstate, hkept.lastRefreshMsg.trans hc, hkept.responseTimer⟩
    · exact ⟨(hkeeps s' hs').maxRetries, (hkeeps s' hs').refreshCounter⟩

/-! ## Transactions -/

/-- The events in AUCTIONING that begin a transaction. -/
def StartsRefresh (s : NiSession α) (evt : Event α) : Prop :=
  s.state = .auctioning ∧ (evt = .timer s.refreshTimer ∨ evt = .apiTeardown)

/-- A transaction begins as it should: a REFRESH is sent that is newer than all messages
before, no retry is counted yet, the response timer is a new one, and without a RESPONSE all
retries are used. -/
structure BeginsTransaction (before : List UInt32) (c : KindMsg .refresh α) (s' : NiSession α)
    (effects : List (Effect α)) : Prop where
  state : s'.state = .auctioning
  stored : s'.lastRefreshMsg = some c
  sent : effects.filterMap Effect.sent? = [c.ntlpMsg]
  newest : ∀ m ∈ before, isGreaterThan c.body.getMsgSequenceNumber m = true
  counter : s'.refreshCounter = 0
  timer : s'.responseTimer ∈ effects.filterMap Effect.started?
  retried : (refreshing c).RetriesExactly s'.maxRetries.toNat s'

/-- A call that begins a transaction as it should. -/
def Begins (before : List UInt32) (o : Outcome (NiSession α) α) : Prop :=
  ∃ c s' effects, o = .next s' effects ∧ BeginsTransaction before c s' effects

theorem getMsgSequenceNumber_buildRefreshMessage (s : NiSession α) (mri : Mri) :
    (s.buildRefreshMessage mri).body.getMsgSequenceNumber = s.msn + 1 :=
  AnslpMsg.getMsgSequenceNumber_setMsgSequenceNumber _ _

/-- The expiry of the REFRESH timer begins a transaction as it should if its number is newer
than all before. -/
theorem begins_refreshTimer_iff {before : List UInt32} (hstored : s.Stored)
    (hstate : s.state = .auctioning) :
    Begins before (s.processEvent d (.timer s.refreshTimer)) ↔
      ∀ m ∈ before, isGreaterThan (s.msn + 1) m = true := by
  have hrouting := hstored.routing (by rw [hstate]; exact nofun)
  rcases Option.isSome_iff_exists.mp hrouting with ⟨mri, hmri⟩
  have hmsn := s.getMsgSequenceNumber_buildRefreshMessage mri
  simp only [processEvent, hstate, handleStateAuctioning, if_true, processRefreshTimer, hmri]
  constructor
  · rintro ⟨c, s', effects, hnext, hbegins⟩
    cases hnext
    cases hbegins.stored
    rw [← hmsn]
    exact hbegins.newest
  · intro hnewest
    rw [← hmsn] at hnewest
    exact ⟨_, _, _, rfl, rfl, rfl, rfl, hnewest, rfl, List.mem_cons_self,
      (countedBy_refreshCounter _ _).retriesExactly rfl (Or.inl rfl)⟩

/-- A teardown starts no timer. -/
theorem not_begins_apiTeardown {before : List UInt32} (hstate : s.state = .auctioning) :
    ¬ Begins before (s.processEvent d .apiTeardown) := by
  simp only [processEvent, hstate, handleStateAuctioning, processTeardown]
  rintro ⟨c, s', effects, hnext, hbegins⟩
  split at hnext
  · cases hnext
  · cases hnext
    exact absurd hbegins.timer List.not_mem_nil

/-! ## All runs -/

/-- In every run all transactions begin as they should. -/
def AlwaysBegins (α : Type) (conf : AnslpConfig) : Prop :=
  ∀ id random trace (s : NiSession α), Runs conf id random trace s → ∀ d evt,
    s.StartsRefresh evt → Begins (numbers trace) (s.processEvent d evt)

/-- In a run a transaction begins as it should exactly if the REFRESH timer has expired and
less than half of the sequence numbers are used up. -/
theorem begins_iff_of_run (conf : AnslpConfig) :
    ∀ id random trace (s : NiSession α), Runs conf id random trace s → ∀ d evt,
      s.StartsRefresh evt → (Begins (numbers trace) (s.processEvent d evt) ↔
        evt = .timer s.refreshTimer ∧ (numbers trace).length < 2 ^ 31) := by
  rintro id random trace s hrun d evt ⟨hstate, rfl | rfl⟩
  · rw [begins_refreshTimer_iff (stored_of_run hrun) hstate, newest_iff_of_run hrun]
    exact (and_iff_right rfl).symm
  · exact iff_of_false (not_begins_apiTeardown hstate) fun h => by cases h.1

end NiSession

/-! ### A user who tears the session down -/

namespace TornDownByUser

open Sample RepeatedResponse

/-- The REFRESH for the teardown is sent without a timer. -/
theorem not_alwaysBegins : ¬ NiSession.AlwaysBegins RawIpap conf := by
  intro h
  rcases runs_up with ⟨trace, hrun, _⟩
  exact NiSession.not_begins_apiTeardown rfl
    (h 1 0 trace up hrun surroundings .apiTeardown ⟨rfl, Or.inr rfl⟩)

/-- The first REFRESH of the session begins a transaction as it should. -/
theorem begins_up : ∃ trace, NiSession.Runs conf 1 0 trace up ∧
    NiSession.Begins (NiSession.numbers trace) (up.processEvent surroundings (.timer 1)) := by
  rcases runs_up with ⟨trace, hrun, hlength⟩
  have hle := NiSession.length_numbers_le trace
  refine ⟨trace, hrun, (NiSession.begins_iff_of_run conf 1 0 trace up hrun surroundings (.timer 1)
    ⟨rfl, Or.inl rfl⟩).mpr ⟨rfl, ?_⟩⟩
  omega

end TornDownByUser
end Anslp
