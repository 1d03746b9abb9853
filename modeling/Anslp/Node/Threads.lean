import Anslp.Node.Process

/-!
# Dispatcher threads

Several threads share one session manager.  A call of {lit}`dispatcher::process` is no
critical section: looking a session up, creating it, letting it process the event under its
lock, testing whether it is final and removing it are steps of their own, and those of other
threads may come in between.

Main results:

- Theorem {lit}`Threads.isSafe_of_run`: the runs in which each identifier has one live
  session and no session is lost.

Current gaps:

- None for interleavings of the sections listed; a section runs as a whole.
-/

namespace Anslp

open SessionManager

/-- Where a thread stands in a call. -/
inductive Pc (α : Type)
  | idle
  | lookUp (n : NodeEvent α)
  | create (n : NodeEvent α)
  | run (n : NodeEvent α) (addr : Nat)
  | test (addr : Nat)
  | remove (sid : SessionId)

/-- The session manager, and where the threads stand. -/
structure Threads (α : Type) where
  manager : SessionManager α
  pc : Nat → Pc α

/-- One thread takes a step; an idle one with a new event. -/
structure Turn (α : Type) where
  thread : Nat
  env : Surroundings α
  event : NodeEvent α

namespace Threads

variable {α : Type}

/-- No sessions, and all threads idle. -/
def start : Threads α :=
  ⟨SessionManager.empty, fun _ => .idle⟩

/-- A thread takes up an event.  A query for routing state is accepted, and a message that
could not be read is answered, without a session. -/
def takeUp (n : NodeEvent α) : Except Fault (Pc α × List (Effect α)) :=
  match n.evt with
  | .routingStateCheck mri =>
      match n.sid with
      | none => .error .nullPointer
      | some sid => .ok (.idle, [.receiveAnswer sid mri])
  | .msg e =>
      match e.ntlpMsg.msg with
      | none => .ok (.idle, [.sendMessage (e.ntlpMsg.createResponse scProtocolError 0)])
      | some _ => .ok (.lookUp n, [])
  | _ => .ok (.lookUp n, [])

/-- The locked part of a call: the session processes the event.  A thread that cannot get the
lock waits for it. -/
def processLocked (conf : AnslpConfig) (d : Dispatcher α) (m : SessionManager α)
    (n : NodeEvent α) (addr : Nat) :
    Except Fault (SessionManager α × Pc α × List (Effect α)) := do
  let s ← m.deref (some addr)
  match m.acquire addr with
  | .error _ => .ok (m, .run n addr, [])
  | .ok m' =>
      match s.processEvent conf d n.evt with
      | .undefined f => .error f
      | .thrown _ s' effects => .ok (m'.update addr s', .remove s'.getId, effects)
      | .next s' effects => .ok ((m'.update addr s').release addr, .test addr, effects)

/-- The next step of a thread. -/
def takeStep (conf : AnslpConfig) (m : SessionManager α) (turn : Turn α) :
    Pc α → Except Fault (SessionManager α × Pc α × List (Effect α))
  | .idle => do
      let (pc, effects) ← takeUp turn.event
      .ok (m, pc, effects)
  | .lookUp n =>
      match n.sid.bind m.getSession with
      | some addr => .ok (m, .run n addr, [])
      | none => .ok (m, .create n, [])
  | .create n => do
      let (m, addr) ← m.createSession conf turn.env n
      match addr with
      | some addr => .ok (m, .run n addr, [])
      | none => .ok (m, .idle, [])
  | .run n addr => processLocked conf turn.env.dispatcher m n addr
  | .test addr => do
      let s ← m.deref (some addr)
      .ok (m, if s.isFinal then .remove s.getId else .idle, [])
  | .remove sid => do
      let (_, m) ← m.removeSession sid
      .ok (m, .idle, [])

/-- The threads as a transition system: one step of one thread after the other. -/
def interleaving (conf : AnslpConfig) : Transition.System (Threads α) (Turn α)
    (Except Fault (List (Effect α))) :=
  fun t turn =>
    match takeStep conf t.manager turn (t.pc turn.thread) with
    | .ok (m, pc, effects) => (.ok effects, some ⟨m, Function.update t.pc turn.thread pc⟩)
    | .error f => (.error f, none)

/-! ## What is to hold -/

/-- A session object that is in use: neither on the list of done sessions nor deleted. -/
def IsLive (m : SessionManager α) (addr : Nat) (s : AnySession α) : Prop :=
  m.sessions[addr]? = some s ∧ some addr ∉ m.sessionDone ∧ addr ∉ m.deleted

/-- Each identifier has at most one live session. -/
def SingleLive (m : SessionManager α) : Prop :=
  ∀ addr addr' s s', IsLive m addr s → IsLive m addr' s' → s.getId = s'.getId → addr = addr'

/-- A session that is not final is in the table, unless its handler threw: then it is aborted,
and keeps its lock. -/
def NothingLost (m : SessionManager α) : Prop :=
  ∀ addr s, m.sessions[addr]? = some s → s.isFinal = false → addr ∉ m.locked →
    m.sessionTable.find? s.getId = some addr

/-- The removal of a session that is not in the table returns NULL, and leaves the table and
the list of done sessions. -/
def RemovesNothing (m : SessionManager α) (sid : SessionId) : Prop :=
  ∃ m', m.removeSession sid = .ok (none, m') ∧
    m'.sessionTable = m.sessionTable ∧ m'.sessionDone = m.sessionDone

/-- In every run of the threads each identifier has at most one live session, no session is
lost, and the removal of a session that is not in the table does nothing. -/
def AlwaysSafe (α : Type) (conf : AnslpConfig) : Prop :=
  ∀ trace (t : Threads α), Transition.Run (interleaving conf) start trace t →
    SingleLive t.manager ∧ NothingLost t.manager ∧
      ∀ sid, t.manager.sessionTable.find? sid = none → RemovesNothing t.manager sid

/-- The events that start a session. -/
def Starts : Event α → Prop
  | .apiCreate _ => True
  | .msg e => (e.ofKind? .create).isSome = true
  | _ => False

/-- A step that finds what the steps before it found: a session is created for an identifier
only while there is none in the table, a session started again is in the table, and the
session removed is final or was aborted. -/
def IsOrderly (t : Threads α) (turn : Turn α) : Prop :=
  match t.pc turn.thread with
  | .create n => Starts n.evt → ∀ sid, n.sid = some sid →
      t.manager.sessionTable.find? sid = none
  | .run n addr => Starts n.evt → ∃ sid, t.manager.sessionTable.find? sid = some addr
  | .remove sid => ∀ addr s, t.manager.sessionTable.find? sid = some addr →
      t.manager.sessions[addr]? = some s → s.isFinal = true ∨ addr ∈ t.manager.locked
  | _ => True

/-! ## Orderly runs -/

/-- Each session object is in one place, and those that are not final and not aborted are in
the table. -/
structure IsGuarded (m : SessionManager α) : Prop where
  owned : m.Owned
  kept : ∀ addr s, m.sessions[addr]? = some s → s.isFinal = false → addr ∉ m.locked →
    ∃ sid, m.sessionTable.find? sid = some addr

variable {conf : AnslpConfig} {d : Dispatcher α} {m m' : SessionManager α} {n : NodeEvent α}
  {addr : Nat} {evt : Event α} {effects : List (Effect α)} {pc : Pc α}

theorem isGuarded_empty : IsGuarded (SessionManager.empty : SessionManager α) where
  owned := owned_empty
  kept := fun _ _ h => by simp [SessionManager.empty] at h

/-- A live session is in the table under its own identifier. -/
theorem IsGuarded.find?_of_isLive (h : IsGuarded m) {s : AnySession α} (hlive : IsLive m addr s) :
    m.sessionTable.find? s.getId = some addr := by
  rcases hlive with ⟨hs, hdone, hdeleted⟩
  rcases h.owned.cover addr (List.getElem?_eq_some_iff.mp hs).1 with ⟨sid, hsid⟩ | hrest
  · obtain ⟨t, ht, hid⟩ := h.owned.table sid addr hsid
    cases hs.symm.trans ht
    rwa [hid]
  · rcases hrest with hrest | hrest
    · exact absurd hrest hdone
    · exact absurd hrest hdeleted

theorem IsGuarded.singleLive (h : IsGuarded m) : SingleLive m := by
  intro addr addr' s s' hs hs' hid
  have hfind := h.find?_of_isLive hs
  rw [hid, h.find?_of_isLive hs'] at hfind
  exact (Option.some.inj hfind).symm

theorem IsGuarded.nothingLost (h : IsGuarded m) : NothingLost m := by
  intro addr s hs hfinal hlocked
  rcases h.kept addr s hs hfinal hlocked with ⟨sid, hsid⟩
  obtain ⟨t, ht, hid⟩ := h.owned.table sid addr hsid
  cases hs.symm.trans ht
  rwa [hid]

/-- A session that is not in the table is not found by a removal. -/
theorem removeSession_of_find?_eq_none {sid : SessionId}
    (hnone : m.sessionTable.find? sid = none) : m.removeSession sid = .error .nullPointer := by
  simp only [removeSession, hnone, deref, bind, Except.bind]

/-- A final session stays final unless the event starts one. -/
theorem isFinal_of_processEvent {s s' : AnySession α} (hfinal : s.isFinal = true)
    (hstarts : ¬ Starts evt) (hnext : s.processEvent conf d evt = .next s' effects) :
    s'.isFinal = true := by
  cases s with
  | ni s =>
      have hclosed : s.state = .close := of_decide_eq_true hfinal
      simp only [AnySession.processEvent, NiSession.processEvent, hclosed] at hnext
      unfold NiSession.handleStateClose at hnext
      split at hnext
      · exact absurd trivial hstarts
      · cases hnext
        exact hfinal
  | nf s =>
      have hclosed : s.state = .close := of_decide_eq_true hfinal
      simp only [AnySession.processEvent, NfSession.processEvent, hclosed] at hnext
      unfold NfSession.handleStateClose at hnext
      split at hnext
      · split at hnext
        · cases hnext
        · rename_i hc
          exact absurd (Option.isSome_iff_exists.mpr ⟨_, hc⟩) hstarts
      · cases hnext
  | nr s =>
      have hclosed : s.state = .close := of_decide_eq_true hfinal
      simp only [AnySession.processEvent, NrSession.processEvent, hclosed] at hnext
      unfold NrSession.handleStateClose at hnext
      split at hnext
      · split at hnext
        · cases hnext
          exact hfinal
        · rename_i hc
          exact absurd (Option.isSome_iff_exists.mpr ⟨_, hc⟩) hstarts
      · cases hnext
        exact hfinal

/-- Adding a session under an identifier that is not used. -/
theorem IsGuarded.addSession (h : IsGuarded m) {s : AnySession α}
    (hunused : m.sessionTable.find? s.getId = none) : IsGuarded (m.addSession s).1 where
  owned := h.owned.addSession hunused
  kept := by
    intro addr t ht hfinal hlocked
    simp only [SessionManager.addSession, OrderedMap.find?_insert toNat_injective]
    rw [SessionManager.addSession] at ht
    rcases Nat.lt_or_ge addr m.sessions.length with hlt | hge
    · rw [List.getElem?_append_left hlt] at ht
      rcases h.kept addr t ht hfinal hlocked with ⟨sid, hsid⟩
      refine ⟨sid, ?_⟩
      rw [if_neg, hsid]
      rintro rfl
      rw [hunused] at hsid
      cases hsid
    · have haddr : addr = m.sessions.length := by
        have hlt := (List.getElem?_eq_some_iff.mp ht).1
        rw [List.length_append, List.length_singleton] at hlt
        omega
      exact ⟨s.getId, by rw [if_pos rfl, haddr]⟩

/-- Creating a session for an event, while there is none in the table. -/
theorem IsGuarded.createSession (h : IsGuarded m) {env : Surroundings α} {found : Option Nat}
    (hunused : Starts n.evt → ∀ sid, n.sid = some sid → m.sessionTable.find? sid = none)
    (hcreate : m.createSession conf env n = .ok (m', found)) : IsGuarded m' := by
  obtain ⟨sid, evt, haddressed⟩ := n
  cases evt with
  | apiCreate e =>
      simp only [SessionManager.createSession, createNiSession, bind, Except.bind] at hcreate
      cases hid : createUniqueId m.sessionTable env.draw (m.sessionTable.size + 1) with
      | none =>
          rw [hid] at hcreate
          cases hcreate
      | some id =>
          rw [hid] at hcreate
          cases hcreate
          exact h.addSession (s := .ni (NiSession.new conf id env.random))
            (createUniqueId_unused hid)
  | msg e =>
      cases hc : e.ofKind? .create with
      | none =>
          simp only [SessionManager.createSession, hc] at hcreate
          cases hcreate
          exact h
      | some c =>
          have hsome : sid = some e.ntlpMsg.sid := haddressed
          subst hsome
          have hnone := hunused (Option.isSome_iff_exists.mpr ⟨c, hc⟩) _ rfl
          simp only [SessionManager.createSession, hc] at hcreate
          split_ifs at hcreate
          · cases hcreate
            exact h.addSession (s := .nr (NrSession.new conf e.ntlpMsg.sid env.random)) hnone
          · cases hcreate
            exact h.addSession (s := .nf (NfSession.new e.ntlpMsg.sid)) hnone
  | _ =>
      cases hcreate
      exact h

/-- The session at an address changes, and it is in the table, final or locked then. -/
theorem IsGuarded.update (h : IsGuarded m) {s s' : AnySession α}
    (hs : m.sessions[addr]? = some s) (hid : s'.getId = s.getId) {locked : List Nat}
    (hkept : s'.isFinal = false → addr ∉ locked → ∃ sid, m.sessionTable.find? sid = some addr)
    (hlocked : ∀ addr' ∈ m.locked, addr' ∈ locked) :
    IsGuarded { m.update addr s' with locked := locked } where
  owned := (h.owned.update hs hid).withLocked locked
  kept := by
    intro addr' t ht hfinal hopen
    by_cases hsame : addr' = addr
    · subst hsame
      have hlt := (List.getElem?_eq_some_iff.mp hs).1
      cases (List.getElem?_set_self hlt).symm.trans ht
      exact hkept hfinal hopen
    · exact h.kept addr' t ((List.getElem?_set_ne (Ne.symm hsame)).symm.trans ht) hfinal
        fun hmem => hopen (hlocked addr' hmem)

/-- Processing an event under the lock, when a session that is started again is in the
table. -/
theorem IsGuarded.processLocked (h : IsGuarded m)
    (hstored : Starts n.evt → ∃ sid, m.sessionTable.find? sid = some addr)
    (hprocess : Threads.processLocked conf d m n addr = .ok (m', pc, effects)) : IsGuarded m' := by
  simp only [Threads.processLocked, bind, Except.bind] at hprocess
  split at hprocess
  · cases hprocess
  · rename_i s hderef
    have hs : m.sessions[addr]? = some s := by
      unfold deref at hderef
      dsimp only at hderef
      split_ifs at hderef
      split at hderef
      · cases hderef
        assumption
      · cases hderef
    unfold acquire at hprocess
    by_cases hlocked : addr ∈ m.locked
    · rw [if_pos hlocked] at hprocess
      cases hprocess
      exact h
    · rw [if_neg hlocked] at hprocess
      dsimp only at hprocess
      split at hprocess
      · cases hprocess
      · rename_i exp s' effects' hthrown
        cases hprocess
        have hid : s'.getId = s.getId :=
          AnySession.getId_of_processEvent (by rw [hthrown]; rfl)
        exact h.update hs hid (fun _ hopen => absurd List.mem_cons_self hopen)
          fun _ => List.mem_cons_of_mem addr
      · rename_i s' effects' hnext
        cases hprocess
        have hid : s'.getId = s.getId :=
          AnySession.getId_of_processEvent (by rw [hnext]; rfl)
        have hrelease : (({ m with locked := addr :: m.locked } : SessionManager α).update addr
            s').release addr = { m.update addr s' with locked := m.locked } := by
          simp [release, SessionManager.update]
        rw [hrelease]
        refine h.update hs hid (fun hopen _ => ?_) fun _ hmem => hmem
        by_cases hstarts : Starts n.evt
        · exact hstored hstarts
        · refine h.kept addr s hs ?_ hlocked
          by_contra hfinal
          have hfinal' := isFinal_of_processEvent (Bool.of_not_eq_false hfinal) hstarts hnext
          rw [hopen] at hfinal'
          cases hfinal'

/-- The removal of a session that is final or was aborted. -/
theorem IsGuarded.removeSession (h : IsGuarded m) {sid : SessionId} {found : Option Nat}
    (hended : ∀ addr s, m.sessionTable.find? sid = some addr → m.sessions[addr]? = some s →
      s.isFinal = true ∨ addr ∈ m.locked)
    (hremove : m.removeSession sid = .ok (found, m')) : IsGuarded m' := by
  cases hfind : m.sessionTable.find? sid with
  | none =>
      rw [removeSession_of_find?_eq_none hfind] at hremove
      cases hremove
  | some addr =>
      obtain ⟨m₁, hremove', howned, hsessions, htable, hlocked, _⟩ := h.owned.removeSession hfind
      cases hremove'.symm.trans hremove
      refine ⟨howned, fun addr' s hs hfinal hopen => ?_⟩
      rw [hsessions] at hs
      rw [hlocked] at hopen
      rcases h.kept addr' s hs hfinal hopen with ⟨sid', hsid'⟩
      refine ⟨sid', ?_⟩
      rw [htable, OrderedMap.find?_erase toNat_injective, if_neg, hsid']
      rintro rfl
      rcases hended addr' s hsid' hs with hfinal' | hmem
      · rw [hfinal] at hfinal'
        cases hfinal'
      · exact hopen hmem

/-- An orderly step keeps the manager guarded. -/
theorem IsGuarded.step {t t' : Threads α} {turn : Turn α}
    {o : Except Fault (List (Effect α))} (h : IsGuarded t.manager) (horderly : t.IsOrderly turn)
    (hstep : interleaving conf t turn = (o, some t')) : IsGuarded t'.manager := by
  unfold interleaving at hstep
  unfold IsOrderly at horderly
  split at hstep
  · rename_i m pc effects htake
    cases hstep
    dsimp only
    cases hpc : t.pc turn.thread with
    | idle =>
        simp only [hpc, takeStep, bind, Except.bind] at htake
        split at htake
        · cases htake
        · cases htake
          exact h
    | lookUp n =>
        simp only [hpc, takeStep] at htake
        split at htake <;> cases htake <;> exact h
    | create n =>
        simp only [hpc, takeStep, bind, Except.bind] at htake
        rw [hpc] at horderly
        split at htake
        · cases htake
        · rename_i created hcreate
          obtain ⟨m₁, found⟩ := created
          have hguarded := h.createSession horderly hcreate
          cases found <;> cases htake <;> exact hguarded
    | run n addr =>
        simp only [hpc, takeStep] at htake
        rw [hpc] at horderly
        exact h.processLocked horderly htake
    | test addr =>
        simp only [hpc, takeStep, bind, Except.bind] at htake
        split at htake
        · cases htake
        · cases htake
          exact h
    | remove sid =>
        simp only [hpc, takeStep, bind, Except.bind] at htake
        rw [hpc] at horderly
        split at htake
        · cases htake
        · rename_i removed hremove
          cases htake
          exact h.removeSession horderly hremove
  · cases hstep

/-- In the runs whose steps are orderly each identifier has at most one live session and no
session is lost.  The removal of a session that is not in the table never does nothing: a null
pointer is used as a session. -/
theorem isSafe_of_run (conf : AnslpConfig) :
    ∀ trace (t : Threads α), Transition.Run (interleaving conf) start trace t →
      ((∀ st ∈ trace, st.pre.IsOrderly st.input) →
        SingleLive t.manager ∧ NothingLost t.manager) ∧
      ∀ sid, t.manager.sessionTable.find? sid = none →
        t.manager.removeSession sid = .error .nullPointer ∧ ¬ RemovesNothing t.manager sid := by
  intro trace t hrun
  constructor
  · intro horderly
    have hguarded : IsGuarded t.manager :=
      hrun.invariant_of_guarded (I := fun t => IsGuarded t.manager) (G := IsOrderly)
        (fun t turn o t' ht hturn hstep => ht.step hturn hstep) isGuarded_empty horderly
    exact ⟨hguarded.singleLive, hguarded.nothingLost⟩
  · intro sid hnone
    have hremove := removeSession_of_find?_eq_none hnone
    refine ⟨hremove, ?_⟩
    rintro ⟨m', hok, _⟩
    rw [hremove] at hok
    cases hok

end Threads

/-! ### Two CREATEs of one session -/

namespace TwoCreates

open Sample Threads

/-- The CREATE arrives at its responder. -/
def creation : NodeEvent RawIpap :=
  ⟨some 1, .msg arrival, Event.isAddressed_msg arrival⟩

/-- A thread takes a step; an idle one takes the CREATE up. -/
def turn (thread : Nat) : Turn RawIpap :=
  ⟨thread, FailingInstaller.calm, creation⟩

/-- The manager with one new session. -/
def first : SessionManager RawIpap :=
  (SessionManager.empty.createNrSession conf 1 0).1

/-- The manager with one new session in the table, and another one that lost its place. -/
def created : SessionManager RawIpap where
  sessions := [.nr (NrSession.new conf 1 0), .nr (NrSession.new conf 1 0)]
  sessionTable := (OrderedMap.empty.insert 1 0).insert 1 1
  sessionDone := []
  deleted := []
  locked := []

/-- A thread takes a step of a run. -/
theorem run_turn {trace : List (Transition.Step (Threads RawIpap) (Turn RawIpap)
      (Except Fault (List (Effect RawIpap))))} {t : Threads RawIpap} (thread : Nat)
    (m : SessionManager RawIpap) (pc : Pc RawIpap)
    (hrun : Transition.Run (interleaving conf) start trace t)
    (hstep : takeStep conf t.manager (turn thread) (t.pc thread) = .ok (m, pc, [])) :
    Transition.Run (interleaving conf) start
      (trace ++ [⟨t, turn thread, .ok [], ⟨m, Function.update t.pc thread pc⟩⟩])
      ⟨m, Function.update t.pc thread pc⟩ := by
  refine hrun.snoc ?_
  simp only [interleaving, turn] at hstep ⊢
  rw [hstep]

/-- Both threads take the CREATE up, but the second one looks the session up only after the first
one has created it. -/
theorem run_orderly : ∃ trace pc, Transition.Run (interleaving conf) start trace ⟨first, pc⟩ ∧
    ∀ st ∈ trace, st.pre.IsOrderly st.input := by
  have htaken := run_turn 1 _ (.lookUp creation)
    (run_turn 0 _ (.lookUp creation) .nil rfl) rfl
  have hmissed := run_turn 0 _ (.create creation) htaken rfl
  have hcreated := run_turn 0 first (.run creation 0) hmissed rfl
  have hfound := run_turn 1 first (.run creation 0) hcreated rfl
  refine ⟨_, _, hfound, fun st hst => ?_⟩
  simp only [List.nil_append, List.cons_append, List.mem_cons, List.not_mem_nil, or_false] at hst
  rcases hst with rfl | rfl | rfl | rfl | rfl
  · exact trivial
  · exact trivial
  · exact trivial
  · exact fun _ _ _ => rfl
  · exact trivial

/-- Both threads look the session up before either of them creates it. -/
theorem run_created :
    ∃ trace pc, Transition.Run (interleaving conf) start trace ⟨created, pc⟩ := by
  have htaken := run_turn 1 _ (.lookUp creation)
    (run_turn 0 _ (.lookUp creation) .nil rfl) rfl
  have hmissed := run_turn 1 _ (.create creation)
    (run_turn 0 _ (.create creation) htaken rfl) rfl
  have hcreated := run_turn 1 created (.run creation 1)
    (run_turn 0 first (.run creation 0) hmissed rfl) rfl
  exact ⟨_, _, hcreated⟩

/-- Two sessions have one identifier. -/
theorem not_alwaysSafe : ¬ AlwaysSafe RawIpap conf := by
  intro h
  rcases run_created with ⟨trace, pc, hrun⟩
  have hsingle := (h trace _ hrun).1
  have hfirst : IsLive created 0 (.nr (NrSession.new conf 1 0)) :=
    ⟨rfl, List.not_mem_nil, List.not_mem_nil⟩
  have hsecond : IsLive created 1 (.nr (NrSession.new conf 1 0)) :=
    ⟨rfl, List.not_mem_nil, List.not_mem_nil⟩
  exact absurd (hsingle 0 1 _ _ hfirst hsecond rfl) Nat.zero_ne_one

/-- In this order the two threads create one session. -/
theorem singleLive_orderly : SingleLive first ∧ NothingLost first := by
  rcases run_orderly with ⟨trace, pc, hrun, horderly⟩
  exact (isSafe_of_run conf trace _ hrun).1 horderly

end TwoCreates
end Anslp
