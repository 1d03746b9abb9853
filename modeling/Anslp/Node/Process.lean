import Anslp.Node.SessionManager

/-!
# The dispatcher of a node

What {lit}`dispatcher::process` does with an event: it finds or creates a session, lets it
process the event under its lock, and removes it when it is final or threw.

Main results:

- Theorem {lit}`isTidy_of_run`: the table, the list of done sessions and the deleted
  sessions stay apart in every run whose handlers return, and every call returns.
- Theorem {lit}`locked_eq_iff`: the calls that leave the locks as they were.

Current gaps:

- None for one call at a time; {lit}`Threads` has several.
-/

namespace Anslp

/-! ## Events of a node -/

/-- An event bears the identifier of its message; a request to create a session bears
none. -/
def Event.IsAddressed {α : Type} (evt : Event α) (sid : Option SessionId) : Prop :=
  match evt with
  | .msg e => sid = some e.ntlpMsg.sid
  | .routingStateCheck _ => sid.isSome = true
  | .apiCreate _ => sid = none
  | _ => True

theorem Event.isAddressed_msg {α : Type} (e : MsgEvent α) :
    (Event.msg e).IsAddressed (some e.ntlpMsg.sid) :=
  rfl

/-- An event with the identifier of the session it is for. -/
structure NodeEvent (α : Type) where
  sid : Option SessionId
  evt : Event α
  isAddressed : evt.IsAddressed sid

/-- What a call draws from its surroundings: the answers to the session, the identifiers
drawn for a new one, and a random sequence number. -/
structure Surroundings (α : Type) where
  dispatcher : Dispatcher α
  draw : Nat → SessionId
  random : UInt32

namespace SessionManager

variable {α : Type}

/-! ## Processing -/

/-- Create a session for an event, if it is one that starts a session. -/
def createSession (conf : AnslpConfig) (env : Surroundings α) (m : SessionManager α)
    (n : NodeEvent α) : Except Fault (SessionManager α × Option Nat) :=
  match n.evt with
  | .apiCreate _ => do
      let (m, addr) ← m.createNiSession conf env.draw env.random
      .ok (m, some addr)
  | .msg e =>
      match e.ofKind? .create with
      | none => .ok (m, none)
      | some _ =>
          match n.sid with
          | none => .error .nullPointer
          | some sid =>
              let (m, addr) :=
                if e.forThisNode || conf.nfEdge then m.createNrSession conf sid env.random
                else m.createNfSession sid
              .ok (m, some addr)
  | _ => .ok (m, none)

/-- The session for an event: the one stored under its identifier, or a new one. -/
def selectSession (conf : AnslpConfig) (env : Surroundings α) (m : SessionManager α)
    (n : NodeEvent α) : Except Fault (SessionManager α × Option Nat) :=
  match n.sid.bind m.getSession with
  | some addr => .ok (m, some addr)
  | none => m.createSession conf env n

/-- Let a session process an event under its lock.  A session that throws is removed, and
keeps its lock; one that is final afterwards is removed. -/
def processIn (conf : AnslpConfig) (d : Dispatcher α) (m : SessionManager α) (addr : Nat)
    (evt : Event α) : Except Fault (SessionManager α × List (Effect α)) := do
  let s ← m.deref (some addr)
  let m ← m.acquire addr
  match s.processEvent conf d evt with
  | .undefined f => .error f
  | .thrown _ s' effects =>
      let (_, m) ← (m.update addr s').removeSession s'.getId
      .ok (m, effects)
  | .next s' effects =>
      let m := (m.update addr s').release addr
      if s'.isFinal then
        let (_, m) ← m.removeSession s'.getId
        .ok (m, effects)
      else .ok (m, effects)

/-- Hand an event to its session; without one it is discarded. -/
def dispatch (conf : AnslpConfig) (env : Surroundings α) (m : SessionManager α)
    (n : NodeEvent α) : Except Fault (SessionManager α × List (Effect α)) := do
  let (m, addr) ← m.selectSession conf env n
  match addr with
  | none => .ok (m, [])
  | some addr => m.processIn conf env.dispatcher addr n.evt

/-- Process an event.  A query for routing state is accepted, and a message that could not
be read is answered, without a session. -/
def process (conf : AnslpConfig) (env : Surroundings α) (m : SessionManager α)
    (n : NodeEvent α) : Except Fault (SessionManager α × List (Effect α)) :=
  match n.evt with
  | .routingStateCheck mri =>
      match n.sid with
      | none => .error .nullPointer
      | some sid => .ok (m, [.receiveAnswer sid mri])
  | .msg e =>
      match e.ntlpMsg.msg with
      | none => .ok (m, [.sendMessage (e.ntlpMsg.createResponse scProtocolError 0)])
      | some _ => m.dispatch conf env n
  | _ => m.dispatch conf env n

/-! ## Runs whose handlers return -/

/-- Between two events: each session is in one place, there is room on the list of done
sessions, the sessions in the table are not final, and no lock is held. -/
structure IsSound (m : SessionManager α) : Prop where
  owned : m.Owned
  doneLength : m.sessionDone.length ≤ doneSessionListSize
  isOpen : ∀ sid addr s, m.sessionTable.find? sid = some addr → m.sessions[addr]? = some s →
    s.isFinal = false
  locked : m.locked = []

/-- Before a session in the table processes an event: the same but for this session, which
may be new. -/
structure IsReady (m : SessionManager α) (addr : Nat) : Prop where
  owned : m.Owned
  doneLength : m.sessionDone.length ≤ doneSessionListSize
  stored : ∃ sid, m.sessionTable.find? sid = some addr
  isOpen : ∀ sid addr' s, m.sessionTable.find? sid = some addr' → addr' ≠ addr →
    m.sessions[addr']? = some s → s.isFinal = false
  locked : m.locked = []

variable {conf : AnslpConfig} {env : Surroundings α} {d : Dispatcher α} {m m' : SessionManager α}
  {n : NodeEvent α} {addr : Nat} {evt : Event α}

theorem isSound_empty : (empty : SessionManager α).IsSound where
  owned := owned_empty
  doneLength := Nat.zero_le _
  isOpen := fun _ _ _ h => by simp [empty] at h
  locked := rfl

theorem IsSound.isReady_of_find? (h : m.IsSound) {sid : SessionId}
    (haddr : m.sessionTable.find? sid = some addr) : m.IsReady addr where
  owned := h.owned
  doneLength := h.doneLength
  stored := ⟨sid, haddr⟩
  isOpen := fun sid' addr' s hfind _ hs => h.isOpen sid' addr' s hfind hs
  locked := h.locked

theorem IsSound.isReady_addSession (h : m.IsSound) {s : AnySession α}
    (hunused : m.sessionTable.find? s.getId = none) :
    (m.addSession s).1.IsReady (m.addSession s).2 where
  owned := h.owned.addSession hunused
  doneLength := h.doneLength
  stored := ⟨s.getId, OrderedMap.find?_insert_self _ _ _⟩
  isOpen := by
    intro sid addr' t hfind hne ht
    rw [addSession, OrderedMap.find?_insert toNat_injective] at hfind
    split_ifs at hfind with hsid
    · exact absurd (Option.some.inj hfind).symm hne
    · rw [addSession, List.getElem?_append_left (h.owned.lt_length hfind)] at ht
      exact h.isOpen sid addr' t hfind ht
  locked := h.locked

/-- The handler of the selected session returns. -/
def Returns (conf : AnslpConfig) (env : Surroundings α) (m : SessionManager α)
    (n : NodeEvent α) : Prop :=
  ∀ m' addr s, m.selectSession conf env n = .ok (m', some addr) →
    m'.deref (some addr) = .ok s →
    ∃ s' effects, s.processEvent conf env.dispatcher n.evt = .next s' effects

/-- A session that returns is kept if it is not final, and moved to the list of done
sessions otherwise. -/
theorem IsReady.processIn (h : m.IsReady addr)
    (hreturns : ∀ s, m.deref (some addr) = .ok s →
      ∃ s' effects, s.processEvent conf d evt = .next s' effects) :
    ∃ m' effects, m.processIn conf d addr evt = .ok (m', effects) ∧ m'.IsSound := by
  obtain ⟨sid, hsid⟩ := h.stored
  obtain ⟨s, hderef, hs, hid⟩ := h.owned.deref hsid
  obtain ⟨s', effects, hnext⟩ := hreturns s hderef
  have hid' : s'.getId = s.getId := AnySession.getId_of_processEvent (by rw [hnext]; rfl)
  have hacquire : m.acquire addr = .ok { m with locked := [addr] } := by
    simp [acquire, h.locked]
  -- the manager after the session has changed and given its lock back
  let m₁ : SessionManager α := { m.update addr s' with locked := [] }
  have hm₁ : (({ m with locked := [addr] } : SessionManager α).update addr s').release addr =
      m₁ := by
    simp [m₁, release, update]
  have howned : m₁.Owned := (h.owned.update hs hid').withLocked []
  have hlt := h.owned.lt_length hsid
  have hothers : ∀ sid' addr' t, m₁.sessionTable.find? sid' = some addr' → addr' ≠ addr →
      m₁.sessions[addr']? = some t → t.isFinal = false := by
    intro sid' addr' t hfind hne ht
    exact h.isOpen sid' addr' t hfind hne ((List.getElem?_set_ne (Ne.symm hne)).symm.trans ht)
  have hself : m₁.sessions[addr]? = some s' := List.getElem?_set_self hlt
  simp only [SessionManager.processIn, hderef, hacquire, hnext, bind, Except.bind, hm₁]
  split_ifs with hfinal
  · have hstored : m₁.sessionTable.find? s'.getId = some addr := by
      rw [hid', hid]
      exact hsid
    obtain ⟨m₂, hremove, howned₂, hsessions, htable, hlocked, hlength⟩ :=
      howned.removeSession hstored
    rw [hremove]
    refine ⟨m₂, effects, rfl, howned₂, hlength h.doneLength, ?_, hlocked⟩
    intro sid' addr' t hfind ht
    rw [htable, OrderedMap.find?_erase toNat_injective] at hfind
    split_ifs at hfind with hne
    rw [hsessions] at ht
    refine hothers sid' addr' t hfind (fun haddr => hne ?_) ht
    -- the session is in the table under its own identifier only
    obtain ⟨t', ht', hid''⟩ := howned.table sid' addr' hfind
    rw [haddr, hself] at ht'
    cases ht'
    exact hid''.symm
  · refine ⟨m₁, effects, rfl, howned, h.doneLength, ?_, rfl⟩
    intro sid' addr' t hfind ht
    by_cases hne : addr' = addr
    · rw [hne, hself] at ht
      cases ht
      exact Bool.eq_false_iff.mpr hfinal
    · exact hothers sid' addr' t hfind hne ht

theorem IsSound.createSession (h : m.IsSound)
    (hdraw : DistinctKeys env.draw (m.sessionTable.size + 1))
    (hnone : n.sid.bind m.getSession = none) :
    ∃ m' addr, m.createSession conf env n = .ok (m', addr) ∧
      (addr = none → m' = m) ∧ ∀ a, addr = some a → m'.IsReady a := by
  obtain ⟨sid, evt, hsid⟩ := n
  cases evt with
  | apiCreate e =>
      obtain ⟨id, hid⟩ := Option.isSome_iff_exists.mp
        (createUniqueId_isSome hdraw (Nat.lt_succ_self m.sessionTable.size))
      simp only [SessionManager.createSession, createNiSession, hid, bind, Except.bind]
      refine ⟨_, _, rfl, nofun, ?_⟩
      rintro a ⟨⟩
      exact h.isReady_addSession (s := .ni (NiSession.new conf id env.random))
        (createUniqueId_unused hid)
  | msg e =>
      cases hc : e.ofKind? .create with
      | none =>
          simp only [SessionManager.createSession, hc]
          exact ⟨m, none, rfl, fun _ => rfl, nofun⟩
      | some c =>
          have hsome : sid = some e.ntlpMsg.sid := hsid
          subst hsome
          simp only [SessionManager.createSession, hc]
          split_ifs
          · refine ⟨_, _, rfl, nofun, ?_⟩
            rintro a ⟨⟩
            exact h.isReady_addSession (s := .nr (NrSession.new conf e.ntlpMsg.sid env.random))
              hnone
          · refine ⟨_, _, rfl, nofun, ?_⟩
            rintro a ⟨⟩
            exact h.isReady_addSession (s := .nf (NfSession.new e.ntlpMsg.sid)) hnone
  | _ => exact ⟨m, none, rfl, fun _ => rfl, nofun⟩

/-- The session selected is ready, or there is none and nothing has changed. -/
theorem IsSound.selectSession (h : m.IsSound) (conf : AnslpConfig) (n : NodeEvent α)
    (hdraw : DistinctKeys env.draw (m.sessionTable.size + 1)) :
    ∃ m' addr, m.selectSession conf env n = .ok (m', addr) ∧
      (addr = none → m' = m) ∧ ∀ a, addr = some a → m'.IsReady a := by
  unfold SessionManager.selectSession
  cases hfind : n.sid.bind m.getSession with
  | none => exact h.createSession hdraw hfind
  | some addr =>
      obtain ⟨sid, _, haddr⟩ := Option.bind_eq_some_iff.mp hfind
      refine ⟨m, some addr, rfl, fun _ => rfl, ?_⟩
      rintro a ⟨⟩
      exact h.isReady_of_find? haddr

theorem IsSound.dispatch (h : m.IsSound) (hreturns : m.Returns conf env n)
    (hdraw : DistinctKeys env.draw (m.sessionTable.size + 1)) :
    ∃ m' effects, m.dispatch conf env n = .ok (m', effects) ∧ m'.IsSound := by
  obtain ⟨m', addr, hselect, hnone, hready⟩ := h.selectSession conf n hdraw
  simp only [SessionManager.dispatch, hselect, bind, Except.bind]
  cases addr with
  | none => exact ⟨m', [], rfl, hnone rfl ▸ h⟩
  | some addr => exact (hready addr rfl).processIn fun s hs => hreturns m' addr s hselect hs

/-- Processing an event keeps the manager sound. -/
theorem IsSound.process (h : m.IsSound) (hreturns : m.Returns conf env n)
    (hdraw : DistinctKeys env.draw (m.sessionTable.size + 1)) :
    ∃ m' effects, m.process conf env n = .ok (m', effects) ∧ m'.IsSound := by
  have hdispatch := h.dispatch hreturns hdraw
  unfold SessionManager.process
  split
  · rename_i mri hevt
    have hsome := n.isAddressed
    rw [hevt] at hsome
    obtain ⟨sid, hsid⟩ := Option.isSome_iff_exists.mp hsome
    rw [hsid]
    exact ⟨m, _, rfl, h⟩
  · split
    · exact ⟨m, _, rfl, h⟩
    · exact hdispatch
  · exact hdispatch

/-! ## Runs of a node -/

/-- A node as a transition system: it goes on as long as calls return. -/
def node (conf : AnslpConfig) : Transition.System (SessionManager α)
    (Surroundings α × NodeEvent α) (Except Fault (List (Effect α))) :=
  fun m input =>
    match m.process conf input.1 input.2 with
    | .ok (m', effects) => (.ok effects, some m')
    | .error f => (.error f, none)

/-- What the calls of a run may rely on: handlers return, and the identifiers drawn are
distinct. -/
def IsFair (conf : AnslpConfig) (m : SessionManager α)
    (input : Surroundings α × NodeEvent α) : Prop :=
  m.Returns conf input.1 input.2 ∧ DistinctKeys input.1.draw (m.sessionTable.size + 1)

/-- After a call: the table holds sessions that are not final, each under its own
identifier; the table, the list of done sessions and the deleted sessions are disjoint;
there is room on the list; and no session was deleted twice. -/
structure IsTidy (m : SessionManager α) : Prop where
  table : ∀ sid addr, m.sessionTable.find? sid = some addr →
    ∃ s, m.sessions[addr]? = some s ∧ s.getId = sid ∧ s.isFinal = false
  tableDone : ∀ sid addr, m.sessionTable.find? sid = some addr → some addr ∉ m.sessionDone
  tableDeleted : ∀ sid addr, m.sessionTable.find? sid = some addr → addr ∉ m.deleted
  doneDeleted : ∀ addr, some addr ∈ m.sessionDone → addr ∉ m.deleted
  doneLength : m.sessionDone.length ≤ doneSessionListSize
  deletedNodup : m.deleted.Nodup

theorem IsSound.isTidy (h : m.IsSound) : m.IsTidy where
  table := fun sid addr haddr => by
    obtain ⟨s, hs, hid⟩ := h.owned.table sid addr haddr
    exact ⟨s, hs, hid, h.isOpen sid addr s haddr hs⟩
  tableDone := h.owned.tableDone
  tableDeleted := h.owned.tableDeleted
  doneDeleted := fun addr haddr => by
    obtain ⟨_, heq, _, hnew⟩ := h.owned.done _ haddr
    cases heq
    exact hnew
  doneLength := h.doneLength
  deletedNodup := h.owned.deletedNodup

theorem isSound_of_run {trace : List (Transition.Step (SessionManager α)
      (Surroundings α × NodeEvent α) (Except Fault (List (Effect α))))}
    (hrun : Transition.Run (node conf) empty trace m)
    (hfair : ∀ st ∈ trace, st.pre.IsFair conf st.input) : m.IsSound := by
  refine hrun.invariant_of_guarded (I := IsSound) (G := IsFair conf) ?_ isSound_empty hfair
  intro t input o u ht hguard hstep
  obtain ⟨m', effects, hprocess, hsound⟩ := ht.process hguard.1 hguard.2
  simp only [node, hprocess, Prod.mk.injEq, Option.some.injEq] at hstep
  exact hstep.2 ▸ hsound

/-- In every run whose handlers return the manager is tidy after each call, and the next
call uses and deletes no deleted session: it returns. -/
theorem isTidy_of_run {trace : List (Transition.Step (SessionManager α)
      (Surroundings α × NodeEvent α) (Except Fault (List (Effect α))))}
    (hrun : Transition.Run (node conf) empty trace m)
    (hfair : ∀ st ∈ trace, st.pre.IsFair conf st.input) :
    m.IsTidy ∧ ∀ env n, m.IsFair conf (env, n) →
      ∃ m' effects, m.process conf env n = .ok (m', effects) := by
  have hsound := isSound_of_run hrun hfair
  refine ⟨hsound.isTidy, fun env n hnext => ?_⟩
  obtain ⟨m', effects, hprocess, _⟩ := hsound.process hnext.1 hnext.2
  exact ⟨m', effects, hprocess⟩

/-! ## Locks -/

theorem locked_of_storeSessionAsdone {s : Option Nat} (h : m.storeSessionAsdone s = .ok m') :
    m'.locked = m.locked := by
  simp only [storeSessionAsdone, bind, Except.bind] at h
  split_ifs at h
  · split at h
    · cases h
    · rename_i m₁ hdelete
      cases h
      unfold saveDelete at hdelete
      split at hdelete
      · cases hdelete
        rfl
      · split_ifs at hdelete
        cases hdelete
        rfl
  · cases h
    rfl

theorem locked_of_removeSession {sid : SessionId} {s : Option Nat}
    (h : m.removeSession sid = .ok (s, m')) : m'.locked = m.locked := by
  simp only [removeSession, bind, Except.bind] at h
  split at h
  · cases h
  · split at h
    · cases h
    · rename_i hstore
      cases h
      have hkept := locked_of_storeSessionAsdone hstore
      exact hkept

theorem locked_of_selectSession {addr : Option Nat}
    (h : m.selectSession conf env n = .ok (m', addr)) : m'.locked = m.locked := by
  unfold selectSession at h
  split at h
  · cases h
    rfl
  · unfold createSession at h
    split at h
    · simp only [createNiSession, bind, Except.bind] at h
      split at h
      · cases h
      · rename_i hcreate
        cases h
        split at hcreate
        · cases hcreate
          rfl
        · cases hcreate
    · split at h
      · cases h
        rfl
      · split at h
        · cases h
        · split_ifs at h <;> cases h <;> rfl
    · cases h
      rfl

/-- The event is handed to a session. -/
def IsHandled (n : NodeEvent α) : Prop :=
  match n.evt with
  | .routingStateCheck _ => False
  | .msg e => e.ntlpMsg.msg.isSome = true
  | _ => True

/-- The session for an event throws. -/
def Throws (conf : AnslpConfig) (env : Surroundings α) (m : SessionManager α)
    (n : NodeEvent α) : Prop :=
  IsHandled n ∧ ∃ m' addr s exp s' effects,
    m.selectSession conf env n = .ok (m', some addr) ∧ m'.deref (some addr) = .ok s ∧
      s.processEvent conf env.dispatcher n.evt = .thrown exp s' effects

/-- A session keeps its lock exactly when it throws. -/
theorem locked_of_processIn {effects : List (Effect α)}
    (h : m.processIn conf d addr evt = .ok (m', effects)) :
    m'.locked = m.locked ↔ ¬ ∃ s exp s' effects, m.deref (some addr) = .ok s ∧
      s.processEvent conf d evt = .thrown exp s' effects := by
  simp only [processIn, bind, Except.bind] at h
  split at h
  · cases h
  · rename_i s hderef
    split at h
    · cases h
    · rename_i m₁ hacquire
      unfold acquire at hacquire
      split_ifs at hacquire with hlocked
      cases hacquire
      split at h
      · cases h
      · rename_i exp s' effects' hthrown
        split at h
        · cases h
        · rename_i hremove
          cases h
          have hkept : _ = addr :: m.locked := locked_of_removeSession hremove
          refine iff_of_false (fun heq => ?_) (not_not_intro ⟨s, exp, s', effects, hderef, hthrown⟩)
          rw [hkept] at heq
          exact absurd (congrArg List.length heq) (Nat.succ_ne_self _)
      · rename_i s' effects' hnext
        refine iff_of_true ?_ ?_
        · split_ifs at h
          · split at h
            · cases h
            · rename_i hremove
              cases h
              have hkept := locked_of_removeSession hremove
              exact hkept.trans (List.erase_cons_head ..)
          · cases h
            exact List.erase_cons_head ..
        · rintro ⟨t, exp, t', effects'', hderef', hthrown⟩
          rw [hderef] at hderef'
          cases hderef'
          rw [hnext] at hthrown
          cases hthrown

theorem locked_of_dispatch {effects : List (Effect α)} (hhandled : IsHandled n)
    (h : m.dispatch conf env n = .ok (m', effects)) :
    m'.locked = m.locked ↔ ¬ m.Throws conf env n := by
  simp only [dispatch, bind, Except.bind] at h
  split at h
  · cases h
  · rename_i selected hselect
    obtain ⟨m₁, addr⟩ := selected
    have hkept := locked_of_selectSession hselect
    cases addr with
    | none =>
        cases h
        refine iff_of_true hkept ?_
        rintro ⟨_, _, addr, _, _, _, _, hselect', _⟩
        rw [hselect] at hselect'
        cases hselect'
    | some addr =>
        rw [← hkept, locked_of_processIn h]
        refine not_congr ⟨?_, ?_⟩
        · rintro ⟨s, exp, s', effects', hderef, hthrown⟩
          exact ⟨hhandled, m₁, addr, s, exp, s', effects', hselect, hderef, hthrown⟩
        · rintro ⟨_, m₂, addr', s, exp, s', effects', hselect', hderef, hthrown⟩
          rw [hselect] at hselect'
          cases hselect'
          exact ⟨s, exp, s', effects', hderef, hthrown⟩

/-- A call that returns leaves the locks as they were exactly when no handler throws. -/
theorem locked_eq_iff {effects : List (Effect α)}
    (h : m.process conf env n = .ok (m', effects)) :
    m'.locked = m.locked ↔ ¬ m.Throws conf env n := by
  unfold process at h
  split at h
  · rename_i hevt
    refine iff_of_true ?_ (fun hthrows => ?_)
    · split at h
      · cases h
      · cases h
        rfl
    · have hhandled := hthrows.1
      rw [IsHandled, hevt] at hhandled
      exact hhandled
  · rename_i e hevt
    split at h
    · rename_i hnone
      cases h
      refine iff_of_true rfl (fun hthrows => ?_)
      have hhandled := hthrows.1
      simp only [IsHandled, hevt, hnone] at hhandled
      cases hhandled
    · rename_i hsome
      refine locked_of_dispatch ?_ h
      simp only [IsHandled, hevt, hsome, Option.isSome_some]
  · rename_i hcheck hmsg
    refine locked_of_dispatch ?_ h
    unfold IsHandled
    split
    · exact absurd ‹_› (hcheck _)
    · exact absurd ‹_› (hmsg _)
    · trivial

/-- Every call that returns leaves the locks as they were. -/
def KeepsLocks (α : Type) (conf : AnslpConfig) : Prop :=
  ∀ (env : Surroundings α) (m m' : SessionManager α) n effects,
    m.process conf env n = .ok (m', effects) → m'.locked = m.locked

end SessionManager

/-! ### A request to create a session, and an installer that fails -/

namespace FailingInstaller

open Sample SessionManager

/-- A user asks for a session. -/
def creation : NodeEvent RawIpap :=
  ⟨none, .apiCreate request, rfl⟩

/-- The surroundings of a node where nothing fails. -/
def calm : Surroundings RawIpap :=
  ⟨surroundings, fun i => BitVec.ofNat 128 (i + 1), 0⟩

/-- The node with the session created, its CREATE sent. -/
def waiting : SessionManager RawIpap where
  sessions := [.ni { (NiSession.new conf 1 0).created surroundings request with state := .pending }]
  sessionTable := OrderedMap.empty.insert 1 0
  sessionDone := []
  deleted := []
  locked := []

theorem process_creation : ∃ effects, process conf calm empty creation = .ok (waiting, effects) :=
  ⟨_, rfl⟩

theorem isFair_creation : (empty : SessionManager RawIpap).IsFair conf (calm, creation) := by
  constructor
  · intro m' addr s hselect hderef
    have hselected : selectSession conf calm empty creation =
        .ok ((addSession empty (.ni (NiSession.new conf 1 0))).1, some 0) := rfl
    rw [hselected] at hselect
    cases hselect
    have hfound : ((addSession empty (.ni (NiSession.new conf 1 0))).1 :
        SessionManager RawIpap).deref (some 0) = .ok (.ni (NiSession.new conf 1 0)) := rfl
    rw [hfound] at hderef
    cases hderef
    exact ⟨_, _, rfl⟩
  · intro i j hi hj _
    have hsize : (empty : SessionManager RawIpap).sessionTable.size = 0 := rfl
    omega

/-- GIST reports that the responder cannot be reached. -/
def unreached : NodeEvent RawIpap :=
  ⟨some 1, .noNextNodeFound, trivial⟩

/-- The node with the session ended, out of the table and on the list of done sessions. -/
def done : SessionManager RawIpap where
  sessions := [.ni { (NiSession.new conf 1 0).created surroundings request with state := .close }]
  sessionTable := OrderedMap.empty
  sessionDone := [some 0]
  deleted := []
  locked := []

theorem process_unreached : ∃ effects, process conf calm waiting unreached = .ok (done, effects) :=
  ⟨_, rfl⟩

theorem isFair_unreached : waiting.IsFair conf (calm, unreached) := by
  constructor
  · intro m' addr s hselect hderef
    have hselected : selectSession conf calm waiting unreached = .ok (waiting, some 0) := rfl
    rw [hselected] at hselect
    cases hselect
    have hfound : waiting.deref (some 0) = .ok (.ni
        { (NiSession.new conf 1 0).created surroundings request with state := .pending }) := rfl
    rw [hfound] at hderef
    cases hderef
    exact ⟨_, _, rfl⟩
  · intro i j hi hj heq
    have hsize : waiting.sessionTable.size = 1 := rfl
    have hwords : (i + 1) % 2 ^ 128 = (j + 1) % 2 ^ 128 := by
      simpa [calm] using congrArg BitVec.toNat heq
    omega

/-- The node is tidy after a session was created and removed. -/
theorem isTidy_done :
    done.IsTidy ∧ ∀ env n, done.IsFair conf (env, n) →
      ∃ m' effects, done.process conf env n = .ok (m', effects) := by
  rcases process_creation with ⟨effects, hcreation⟩
  rcases process_unreached with ⟨effects', hunreached⟩
  have hcreated : node conf empty (calm, creation) = (.ok effects, some waiting) := by
    simp only [node, hcreation]
  have hremoved : node conf waiting (calm, unreached) = (.ok effects', some done) := by
    simp only [node, hunreached]
  refine isTidy_of_run ((Transition.Run.nil.snoc hcreated).snoc hremoved) fun st hst => ?_
  simp only [List.nil_append, List.cons_append, List.mem_cons, List.not_mem_nil, or_false] at hst
  rcases hst with rfl | rfl
  · exact isFair_creation
  · exact isFair_unreached

/-- The RESPONSE to the CREATE arrives, and its objects cannot be handed over. -/
def response : NodeEvent RawIpap :=
  ⟨some 1, .msg ⟨create.ntlpMsg.createSuccessResponse 30, true⟩, rfl⟩

/-- The surroundings of a node where the installer refuses responses. -/
def failing : Surroundings RawIpap :=
  { calm with dispatcher :=
      { surroundings with responseError _ _ := some ⟨scPermanentFailure, failInternalError⟩ } }

/-- The lock of the session is held afterwards. -/
theorem not_keepsLocks : ¬ KeepsLocks RawIpap conf := by
  intro h
  have hprocess : ((waiting.process conf failing response).toOption.map fun r => r.1.locked) =
      some [0] := rfl
  cases hresult : waiting.process conf failing response with
  | error f =>
      rw [hresult] at hprocess
      cases hprocess
  | ok r =>
      rw [hresult] at hprocess
      have hlocked : r.1.locked = [0] := Option.some.inj hprocess
      have hkept := h failing waiting r.1 response r.2 hresult
      rw [hlocked] at hkept
      cases hkept

/-- Creating the session throws nothing and leaves the locks. -/
theorem locked_waiting :
    waiting.locked = (empty : SessionManager RawIpap).locked ↔
      ¬ (empty : SessionManager RawIpap).Throws conf calm creation := by
  obtain ⟨effects, hprocess⟩ := process_creation
  exact locked_eq_iff hprocess

end FailingInstaller
end Anslp
