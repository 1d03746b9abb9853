import Anslp.Node.Process
import Anslp.Session.Sending

/-!
# The sessions of a node

Seen from outside a node is a map from identifiers to the sessions that are open.  An event
concerns one of them, and what becomes of this session depends on nothing else: the table,
the addresses, the list of done sessions and the locks do not show.

Main results:

- Theorem {lit}`SessionManager.Owned.reacts`: an event changes the session it concerns, as
  this session alone would change, and no other one.
- Theorem {lit}`SessionManager.followed_of_run`: in every run a session is what its own
  events have made of it.
- Theorem {lit}`SessionManager.bears_of_run`: the messages that are sent bear the identifier
  of the session that the event concerns.

Current gaps:

- None for calls that come back.
-/

namespace Anslp

/-! ## Sessions of any role -/

namespace Outcome

variable {σ τ α : Type} {f : σ → τ} {o : Outcome σ α} {t : τ} {effects : List (Effect α)}

theorem effects_map : (o.map f).effects = o.effects := by
  cases o <;> rfl

theorem sent_map : (o.map f).sent = o.sent := by
  rw [sent, effects_map, sent]

theorem map_eq_next (h : o.map f = .next t effects) : ∃ s, o = .next s effects ∧ f s = t := by
  cases o with
  | next s us =>
      cases h
      exact ⟨s, rfl, rfl⟩
  | thrown | undefined => cases h

end Outcome

namespace AnySession

variable {α : Type} {conf : AnslpConfig} {d : Dispatcher α} {s s' : AnySession α}
  {evt : Event α} {effects : List (Effect α)}

/-- The messages that a session stores are for it and have a property. -/
def Stores (Q : AnslpMsg α → Prop) : AnySession α → Prop
  | ni s => s.Stores Q
  | nf s => s.Stores Q
  | nr s => s.Stores Q

/-- All messages that a session sends are for it and have the property. -/
theorem Stores.sendsOnly {Q : AnslpMsg α → Prop} (hQ : AnslpMsg.KeptBySessions Q)
    (h : s.Stores Q) (hevt : evt.Carries Q s.getId) :
    (s.processEvent conf d evt).SendsOnly Q s.getId := by
  cases s with
  | ni s =>
      rw [processEvent, Outcome.SendsOnly, Outcome.sent_map]
      exact NiSession.Stores.sendsOnly hQ h
  | nf s =>
      rw [processEvent, Outcome.SendsOnly, Outcome.sent_map]
      exact NfSession.Stores.sendsOnly hQ h hevt
  | nr s =>
      rw [processEvent, Outcome.SendsOnly, Outcome.sent_map]
      exact NrSession.Stores.sendsOnly hQ h hevt

/-- All messages that it stores do so, too. -/
theorem Stores.of_next {Q : AnslpMsg α → Prop} (hQ : AnslpMsg.KeptBySessions Q) (h : s.Stores Q)
    (hevt : evt.Carries Q s.getId) (hnext : s.processEvent conf d evt = .next s' effects) :
    s'.Stores Q := by
  cases s with
  | ni s =>
      rcases Outcome.map_eq_next hnext with ⟨t, ht, rfl⟩
      exact NiSession.Stores.transits hQ h (NiSession.transits_of_processEvent ht)
  | nf s =>
      rcases Outcome.map_eq_next hnext with ⟨t, ht, rfl⟩
      exact (NfSession.Stores.transits hQ h hevt (NfSession.transits_of_processEvent ht)).1
  | nr s =>
      rcases Outcome.map_eq_next hnext with ⟨t, ht, rfl⟩
      exact (NrSession.Stores.transits hQ h hevt (NrSession.transits_of_processEvent ht)).1

end AnySession

/-! ## One session -/

/-- The open sessions of a node by their identifiers. -/
abbrev Sessions (α : Type) : Type :=
  SessionId → Option (AnySession α)

namespace Sessions

variable {α : Type}

/-- The session that an event starts, if there is none. -/
def start (conf : AnslpConfig) (env : Surroundings α) (n : NodeEvent α) (sid : SessionId) :
    Option (AnySession α) :=
  match n.evt with
  | .apiCreate _ => some (.ni (NiSession.new conf sid env.random))
  | .msg e =>
      if (e.ofKind? .create).isNone then none
      else if e.forThisNode || conf.nfEdge then some (.nr (NrSession.new conf sid env.random))
      else some (.nf (NfSession.new sid))
  | _ => none

/-- A session that is final is not kept. -/
def kept (s : AnySession α) : Option (AnySession α) :=
  if s.isFinal then none else some s

/-- The session that is left after a call: none if it is final or was aborted. -/
def after : Outcome (AnySession α) α → Option (AnySession α)
  | .next s _ => kept s
  | .thrown _ _ _ | .undefined _ => none

/-- What an event that is handed to a session makes of it. -/
def handle (conf : AnslpConfig) (env : Surroundings α) (n : NodeEvent α) (sid : SessionId)
    (s : Option (AnySession α)) : Option (AnySession α) × List (Effect α) :=
  match s <|> start conf env n sid with
  | none => (none, [])
  | some s =>
      let o := s.processEvent conf env.dispatcher n.evt
      (after o, o.effects)

/-- What an event makes of the session it concerns. -/
def react (conf : AnslpConfig) (env : Surroundings α) (n : NodeEvent α) (sid : SessionId)
    (s : Option (AnySession α)) : Option (AnySession α) × List (Effect α) :=
  match n.evt with
  | .routingStateCheck mri => (s, [.receiveAnswer sid mri])
  | .msg e =>
      if e.ntlpMsg.msg.isNone then
        (s, [.sendMessage (e.ntlpMsg.createResponse scProtocolError 0)])
      else handle conf env n sid s
  | _ => handle conf env n sid s

/-- What the session does with an event that is handed to it is defined. -/
def Defined (conf : AnslpConfig) (env : Surroundings α) (n : NodeEvent α) (sid : SessionId)
    (s : Option (AnySession α)) : Prop :=
  SessionManager.IsHandled n → ∀ t, (s <|> start conf env n sid) = some t →
    ∀ f, t.processEvent conf env.dispatcher n.evt ≠ .undefined f

variable {conf : AnslpConfig} {env : Surroundings α} {n : NodeEvent α} {sid : SessionId}
  {s : Option (AnySession α)}

/-- Whatever can be read is handed to the session, but for a query for routing state. -/
theorem react_eq_handle (hroute : ∀ mri, n.evt ≠ .routingStateCheck mri)
    (hbody : ∀ e, n.evt = .msg e → e.ntlpMsg.msg.isSome = true) :
    react conf env n sid s = handle conf env n sid s := by
  unfold react
  split
  · exact absurd ‹_› (hroute _)
  · rename_i e hevt
    rw [if_neg]
    simp [Option.isSome_iff_ne_none.mp (hbody e hevt)]
  · rfl

theorem isHandled_of_body (hroute : ∀ mri, n.evt ≠ .routingStateCheck mri)
    (hbody : ∀ e, n.evt = .msg e → e.ntlpMsg.msg.isSome = true) :
    SessionManager.IsHandled n := by
  unfold SessionManager.IsHandled
  split
  · exact absurd ‹_› (hroute _)
  · rename_i e hevt
    exact hbody e hevt
  · trivial

end Sessions

/-! ## The table -/

namespace SessionManager

variable {α : Type} {conf : AnslpConfig} {env : Surroundings α} {d : Dispatcher α}
  {m m' : SessionManager α} {n : NodeEvent α} {sid : SessionId} {addr : Nat}
  {s s' : AnySession α} {evt : Event α} {effects : List (Effect α)}

/-- The sessions in the table. -/
def opened (m : SessionManager α) : Sessions α :=
  fun sid => (m.getSession sid).bind fun addr => m.sessions[addr]?

/-- The session that an event concerns: the one whose identifier it bears, or is drawn. -/
def target? (env : Surroundings α) (m : SessionManager α) (n : NodeEvent α) :
    Option SessionId :=
  match n.evt with
  | .apiCreate _ => createUniqueId m.sessionTable env.draw (m.sessionTable.size + 1)
  | _ => n.sid

theorem opened_of_find? (haddr : m.sessionTable.find? sid = some addr) :
    m.opened sid = m.sessions[addr]? := by
  rw [opened, getSession, haddr]
  rfl

theorem opened_of_unused (h : m.sessionTable.find? sid = none) : m.opened sid = none := by
  rw [opened, getSession, h]
  rfl

theorem opened_empty : (empty : SessionManager α).opened = fun _ => none := by
  funext sid
  simp [opened, getSession, empty]

/-- Two identifiers are never those of one session. -/
theorem Owned.ne_addr (h : m.Owned) {sid' : SessionId} {addr' : Nat} (hne : sid' ≠ sid)
    (haddr : m.sessionTable.find? sid = some addr)
    (haddr' : m.sessionTable.find? sid' = some addr') : addr' ≠ addr := by
  intro heq
  subst heq
  rcases h.table sid _ haddr with ⟨s, hs, hid⟩
  rcases h.table sid' _ haddr' with ⟨s', hs', hid'⟩
  rw [hs] at hs'
  cases hs'
  exact hne (hid'.symm.trans hid)

theorem Owned.opened_update (h : m.Owned) (haddr : m.sessionTable.find? sid = some addr) :
    (m.update addr s').opened = Function.update m.opened sid (some s') := by
  funext sid'
  by_cases hsid : sid' = sid
  · subst hsid
    have hlt := h.lt_length haddr
    rw [Function.update_self, opened_of_find? (m := m.update addr s') haddr]
    exact List.getElem?_set_self hlt
  · rw [Function.update_of_ne hsid]
    cases haddr' : m.sessionTable.find? sid' with
    | none =>
        rw [opened_of_unused haddr', opened_of_unused (m := m.update addr s') haddr']
    | some addr' =>
        rw [opened_of_find? haddr', opened_of_find? (m := m.update addr s') haddr']
        exact List.getElem?_set_ne (h.ne_addr hsid haddr haddr').symm

theorem opened_erase (hsessions : m'.sessions = m.sessions)
    (htable : m'.sessionTable = m.sessionTable.erase sid) :
    m'.opened = Function.update m.opened sid none := by
  funext sid'
  rw [opened, getSession, htable, OrderedMap.find?_erase toNat_injective, hsessions]
  by_cases hsid : sid' = sid
  · subst hsid
    rw [Function.update_self, if_pos rfl]
    rfl
  · rw [Function.update_of_ne hsid, if_neg hsid]
    rfl

theorem Owned.opened_addSession (h : m.Owned) :
    (m.addSession s).1.opened = Function.update m.opened s.getId (some s) := by
  funext sid
  have hfind : (m.addSession s).1.sessionTable.find? sid =
      if sid = s.getId then some m.sessions.length else m.sessionTable.find? sid :=
    OrderedMap.find?_insert toNat_injective _ _ _ _
  by_cases hsid : sid = s.getId
  · subst hsid
    rw [if_pos rfl] at hfind
    rw [Function.update_self, opened_of_find? hfind]
    exact List.getElem?_concat_length
  · rw [if_neg hsid] at hfind
    rw [Function.update_of_ne hsid]
    cases haddr : m.sessionTable.find? sid with
    | none => rw [opened_of_unused haddr, opened_of_unused (hfind.trans haddr)]
    | some addr =>
        rw [opened_of_find? haddr, opened_of_find? (hfind.trans haddr)]
        exact List.getElem?_append_left (h.lt_length haddr)

/-! ## One event -/

/-- A session that is called is left as the call leaves it, and the others as they are. -/
theorem Owned.opened_processIn (h : m.Owned) (haddr : m.sessionTable.find? sid = some addr)
    (hs : m.opened sid = some s)
    (hprocess : m.processIn conf d addr evt = .ok (m', effects)) :
    m'.Owned ∧ effects = (s.processEvent conf d evt).effects ∧
      m'.opened = Function.update m.opened sid (Sessions.after (s.processEvent conf d evt)) ∧
      ∀ f, s.processEvent conf d evt ≠ .undefined f := by
  rcases h.deref haddr with ⟨t, hderef, ht, hid⟩
  rw [opened_of_find? haddr, ht] at hs
  cases hs
  have hretire : ∀ {s' : AnySession α} {locked : List Nat} {x : Option Nat},
      s'.getId = s.getId →
      ({ m.update addr s' with locked := locked } : SessionManager α).removeSession s'.getId =
        .ok (x, m') →
      m'.Owned ∧ m'.opened = Function.update m.opened sid none := by
    intro s' locked x hid' hremove
    have howned : ({ m.update addr s' with locked := locked } : SessionManager α).Owned :=
      (h.update ht hid').withLocked locked
    rw [hid', hid] at hremove
    rcases howned.removeSession haddr with ⟨m₂, hremove', howned₂, hsessions, htable, _⟩
    cases hremove.symm.trans hremove'
    have hupdate : ({ m.update addr s' with locked := locked } : SessionManager α).opened =
        Function.update m.opened sid (some s') := h.opened_update haddr
    refine ⟨howned₂, ?_⟩
    rw [opened_erase hsessions htable, hupdate, Function.update_idem]
  unfold SessionManager.processIn acquire at hprocess
  simp only [hderef, bind, Except.bind] at hprocess
  split_ifs at hprocess with hlocked
  dsimp only at hprocess
  cases ho : s.processEvent conf d evt with
  | undefined f =>
      rw [ho] at hprocess
      cases hprocess
  | thrown exp s' us =>
      rw [ho] at hprocess
      dsimp only at hprocess
      split at hprocess
      · cases hprocess
      · rename_i r hremove
        cases hprocess
        have hid' : s'.getId = s.getId := AnySession.getId_of_processEvent (by rw [ho]; rfl)
        have hleft := hretire hid' hremove
        exact ⟨hleft.1, rfl, hleft.2, fun f hf => by cases hf⟩
  | next s' us =>
      have hid' : s'.getId = s.getId := AnySession.getId_of_processEvent (by rw [ho]; rfl)
      rw [ho] at hprocess
      dsimp only at hprocess
      split_ifs at hprocess with hfinal
      · split at hprocess
        · cases hprocess
        · rename_i r hremove
          cases hprocess
          have hleft := hretire hid' hremove
          rw [Sessions.after, Sessions.kept, if_pos hfinal]
          exact ⟨hleft.1, rfl, hleft.2, fun f hf => by cases hf⟩
      · cases hprocess
        rw [Sessions.after, Sessions.kept, if_neg hfinal]
        exact ⟨(h.update ht hid').withLocked _, rfl, h.opened_update haddr,
          fun f hf => by cases hf⟩

/-- A session that has just been added is called. -/
theorem Owned.opened_processIn_new (h : m.Owned) (hnew : m.sessionTable.find? s.getId = none)
    (hprocess : (m.addSession s).1.processIn conf d (m.addSession s).2 evt =
      .ok (m', effects)) :
    m'.Owned ∧ effects = (s.processEvent conf d evt).effects ∧
      m'.opened =
        Function.update m.opened s.getId (Sessions.after (s.processEvent conf d evt)) ∧
      ∀ f, s.processEvent conf d evt ≠ .undefined f := by
  have hadded := h.opened_addSession (s := s)
  have haddr : (m.addSession s).1.sessionTable.find? s.getId = some (m.addSession s).2 :=
    OrderedMap.find?_insert_self _ _ _
  have hs : (m.addSession s).1.opened s.getId = some s := by
    rw [hadded, Function.update_self]
  rcases (h.addSession hnew).opened_processIn haddr hs hprocess with
    ⟨howned, heffects, hleft, hdefined⟩
  rw [hadded, Function.update_idem] at hleft
  exact ⟨howned, heffects, hleft, hdefined⟩

/-- After an event: the session it concerns is as this session alone would be, what was done
is what this session does, and all others are as they were. -/
structure Reacts (conf : AnslpConfig) (env : Surroundings α) (m : SessionManager α)
    (n : NodeEvent α) (m' : SessionManager α) (effects : List (Effect α)) : Prop where
  owned : m'.Owned
  concerned : ∀ sid, m.target? env n = some sid →
    m'.opened sid = (Sessions.react conf env n sid (m.opened sid)).1 ∧
      effects = (Sessions.react conf env n sid (m.opened sid)).2
  other : ∀ sid, m.target? env n ≠ some sid → m'.opened sid = m.opened sid
  nobody : m.target? env n = none → effects = []
  isDefined : ∀ sid, m.target? env n = some sid →
    Sessions.Defined conf env n sid (m.opened sid)

/-- One session has changed. -/
theorem Reacts.of_update (howned : m'.Owned) (htarget : m.target? env n = some sid)
    (hleft : m'.opened =
      Function.update m.opened sid (Sessions.react conf env n sid (m.opened sid)).1)
    (heffects : effects = (Sessions.react conf env n sid (m.opened sid)).2)
    (hdefined : Sessions.Defined conf env n sid (m.opened sid)) :
    m.Reacts conf env n m' effects where
  owned := howned
  concerned := by
    intro sid' htarget'
    cases htarget.symm.trans htarget'
    exact ⟨by rw [hleft, Function.update_self], heffects⟩
  other := by
    intro sid' hne
    have hsid : sid' ≠ sid := by
      rintro rfl
      exact hne htarget
    rw [hleft, Function.update_of_ne hsid]
  nobody := by
    intro hnone
    cases htarget.symm.trans hnone
  isDefined := by
    intro sid' htarget'
    cases htarget.symm.trans htarget'
    exact hdefined

/-- No session has changed. -/
theorem Reacts.of_unchanged (howned : m.Owned)
    (hconcerned : ∀ sid, m.target? env n = some sid →
      Sessions.react conf env n sid (m.opened sid) = (m.opened sid, effects) ∧
        Sessions.Defined conf env n sid (m.opened sid))
    (hnobody : m.target? env n = none → effects = []) : m.Reacts conf env n m effects where
  owned := howned
  concerned := by
    intro sid htarget
    rw [(hconcerned sid htarget).1]
    exact ⟨rfl, rfl⟩
  other := fun _ _ => rfl
  nobody := hnobody
  isDefined := fun sid htarget => (hconcerned sid htarget).2

theorem target?_of_sid (h : n.sid = some sid) : m.target? env n = some sid := by
  unfold target?
  split
  · rename_i e hevt
    have hnone := n.isAddressed
    rw [hevt, h] at hnone
    cases hnone
  · exact h

/-- An event for a session in the table. -/
theorem Owned.reacts_stored (h : m.Owned) (hsid : n.sid = some sid)
    (haddr : m.sessionTable.find? sid = some addr)
    (hhanded : ∀ sid s, Sessions.react conf env n sid s = Sessions.handle conf env n sid s)
    (hprocess : m.processIn conf env.dispatcher addr n.evt = .ok (m', effects)) :
    m.Reacts conf env n m' effects := by
  rcases h.deref haddr with ⟨s, _, hs, _⟩
  have hopened : m.opened sid = some s := (opened_of_find? haddr).trans hs
  rcases h.opened_processIn haddr hopened hprocess with ⟨howned, heffects, hleft, hdefined⟩
  apply Reacts.of_update howned (target?_of_sid hsid)
  · rw [hhanded, hopened]
    exact hleft
  · rw [hhanded, hopened]
    exact heffects
  · rw [hopened]
    rintro _ t ⟨⟩
    exact hdefined

/-- An event that starts a session. -/
theorem Owned.reacts_started (h : m.Owned) (htarget : m.target? env n = some s.getId)
    (hnew : m.sessionTable.find? s.getId = none)
    (hstart : Sessions.start conf env n s.getId = some s)
    (hhanded : ∀ sid s, Sessions.react conf env n sid s = Sessions.handle conf env n sid s)
    (hprocess : (m.addSession s).1.processIn conf env.dispatcher (m.addSession s).2 n.evt =
      .ok (m', effects)) : m.Reacts conf env n m' effects := by
  have hhandle : Sessions.handle conf env n s.getId none =
      (Sessions.after (s.processEvent conf env.dispatcher n.evt),
        (s.processEvent conf env.dispatcher n.evt).effects) := by
    rw [Sessions.handle, hstart]
    rfl
  rcases h.opened_processIn_new hnew hprocess with ⟨howned, heffects, hleft, hdefined⟩
  apply Reacts.of_update howned htarget
  · rw [hhanded, opened_of_unused hnew, hhandle]
    exact hleft
  · rw [hhanded, opened_of_unused hnew, hhandle]
    exact heffects
  · rw [opened_of_unused hnew]
    intro _ t ht
    cases ht.symm.trans hstart
    exact hdefined

/-- An event for which there is no session, and that starts none. -/
theorem Owned.reacts_discarded (h : m.Owned) (hnone : n.sid.bind m.getSession = none)
    (hstart : ∀ sid, Sessions.start conf env n sid = none)
    (htarget : m.target? env n = n.sid)
    (hhanded : ∀ sid s, Sessions.react conf env n sid s = Sessions.handle conf env n sid s) :
    m.Reacts conf env n m [] := by
  apply Reacts.of_unchanged h
  · intro sid hsid
    rw [htarget] at hsid
    rw [hsid] at hnone
    rw [hhanded, opened_of_unused hnone, Sessions.handle, Sessions.Defined, hstart]
    refine ⟨rfl, ?_⟩
    intro _ t ht
    cases ht
  · exact fun _ => rfl

/-- An event that is handed to a session. -/
theorem Owned.reacts_dispatch (h : m.Owned)
    (hhanded : ∀ sid s, Sessions.react conf env n sid s = Sessions.handle conf env n sid s)
    (hdispatch : m.dispatch conf env n = .ok (m', effects)) : m.Reacts conf env n m' effects := by
  unfold SessionManager.dispatch selectSession at hdispatch
  cases hfind : n.sid.bind m.getSession with
  | some addr =>
      rw [hfind] at hdispatch
      rcases Option.bind_eq_some_iff.mp hfind with ⟨sid, hsid, haddr⟩
      exact h.reacts_stored hsid haddr hhanded hdispatch
  | none =>
      rw [hfind] at hdispatch
      rcases n with ⟨sid, evt, hsid⟩
      cases evt with
      | apiCreate e =>
          simp only [createSession, createNiSession] at hdispatch
          cases hid : createUniqueId m.sessionTable env.draw (m.sessionTable.size + 1) with
          | none =>
              rw [hid] at hdispatch
              cases hdispatch
          | some id =>
              rw [hid] at hdispatch
              exact h.reacts_started (s := .ni (NiSession.new conf id env.random)) hid
                (createUniqueId_unused hid) rfl hhanded hdispatch
      | msg e =>
          cases hsid
          simp only [createSession] at hdispatch
          cases hc : e.ofKind? .create with
          | none =>
              rw [hc] at hdispatch
              cases hdispatch
              apply h.reacts_discarded hfind _ rfl hhanded
              intro sid
              simp [Sessions.start, hc]
          | some c =>
              rw [hc] at hdispatch
              dsimp only at hdispatch
              split_ifs at hdispatch with hrole
              · apply h.reacts_started (s := .nr (NrSession.new conf e.ntlpMsg.sid env.random))
                  rfl hfind _ hhanded hdispatch
                simp [Sessions.start, hc, hrole, AnySession.getId, NrSession.new]
              · apply h.reacts_started (s := .nf (NfSession.new e.ntlpMsg.sid))
                  rfl hfind _ hhanded hdispatch
                simp [Sessions.start, hc, hrole, AnySession.getId, NfSession.new]
      | _ =>
          cases hdispatch
          exact h.reacts_discarded hfind (fun _ => rfl) rfl hhanded

/-- An event changes the session it concerns, as this session alone would change, and no
other one. -/
theorem Owned.reacts (h : m.Owned) (hprocess : m.process conf env n = .ok (m', effects)) :
    m.Reacts conf env n m' effects := by
  unfold SessionManager.process at hprocess
  split at hprocess
  · rename_i mri hevt
    split at hprocess
    · cases hprocess
    · rename_i sid hsid
      cases hprocess
      apply Reacts.of_unchanged h
      · intro sid' htarget
        cases (target?_of_sid hsid).symm.trans htarget
        refine ⟨by simp only [Sessions.react, hevt], ?_⟩
        intro hhandled
        rw [IsHandled, hevt] at hhandled
        exact hhandled.elim
      · intro hnone
        cases (target?_of_sid hsid).symm.trans hnone
  · rename_i e hevt
    have hsid : n.sid = some e.ntlpMsg.sid := by
      have haddressed := n.isAddressed
      rw [hevt] at haddressed
      exact haddressed
    split at hprocess
    · rename_i hmsg
      cases hprocess
      apply Reacts.of_unchanged h
      · intro sid' htarget
        refine ⟨by simp only [Sessions.react, hevt, hmsg, Option.isNone_none, if_true], ?_⟩
        intro hhandled
        simp only [IsHandled, hevt, hmsg] at hhandled
        cases hhandled
      · intro hnone
        cases (target?_of_sid hsid).symm.trans hnone
    · rename_i a hmsg
      apply h.reacts_dispatch _ hprocess
      intro sid s
      simp only [Sessions.react, hevt, hmsg, Option.isNone_some, Bool.false_eq_true, if_false]
  · rename_i hroute hmsg
    apply h.reacts_dispatch _ hprocess
    intro sid s
    unfold Sessions.react
    split
    · exact absurd ‹_› (hroute _)
    · exact absurd ‹_› (hmsg _)
    · rfl

/-! ## All runs -/

/-- A recorded step of a node. -/
abbrev NodeStep (α : Type) :=
  Transition.Step (SessionManager α) (Surroundings α × NodeEvent α)
    (Except Fault (List (Effect α)))

/-- The session with an identifier after one more step: it reacts to what concerns it. -/
def follow (conf : AnslpConfig) (sid : SessionId) (s : Option (AnySession α))
    (x : NodeStep α) : Option (AnySession α) :=
  if x.pre.target? x.input.1 x.input.2 = some sid then
    (Sessions.react conf x.input.1 x.input.2 sid s).1
  else s

variable {trace : List (NodeStep α)}

theorem owned_of_run (hrun : Transition.Run (node conf) empty trace m) : m.Owned := by
  refine hrun.invariant (I := Owned) ?_ owned_empty
  intro t input output u ht hstep
  unfold node at hstep
  split at hstep
  · rename_i m' effects hprocess
    cases hstep
    exact (ht.reacts hprocess).owned
  · cases hstep

/-- Every step of a run is the reaction of one session. -/
theorem reacts_of_mem (hrun : Transition.Run (node conf) empty trace m) {x : NodeStep α}
    (hx : x ∈ trace) : ∃ effects, x.output = .ok effects ∧
      x.pre.Reacts conf x.input.1 x.input.2 x.post effects := by
  rcases hrun.pre_of_mem hx with ⟨_, _, _, hbefore, hstep⟩
  unfold node at hstep
  split at hstep
  · rename_i m' effects hprocess
    rcases Prod.mk.inj hstep with ⟨houtput, hpost⟩
    cases hpost
    exact ⟨effects, houtput.symm, (owned_of_run hbefore).reacts hprocess⟩
  · cases (Prod.mk.inj hstep).2

/-- In every run of a node a session is what the events that concern it have made of it, in
their order and from no session on; and what such an event does is what this session does. -/
theorem followed_of_run (hrun : Transition.Run (node conf) empty trace m) (sid : SessionId) :
    m.opened sid = trace.foldl (follow conf sid) none ∧
      ∀ x ∈ trace, x.pre.target? x.input.1 x.input.2 = some sid →
        x.output = .ok (Sessions.react conf x.input.1 x.input.2 sid (x.pre.opened sid)).2 := by
  constructor
  · refine hrun.trace_induction (P := fun trace m => m.opened sid =
      trace.foldl (follow conf sid) none) ?_ ?_
    · rw [opened_empty]
      rfl
    · intro trace m input output m' hrun ih hstep
      rw [List.foldl_append, ← ih]
      have hmem : (⟨m, input, output, m'⟩ : NodeStep α) ∈ trace ++ [⟨m, input, output, m'⟩] :=
        List.mem_append_right _ (List.mem_singleton_self _)
      rcases reacts_of_mem (hrun.snoc hstep) hmem with ⟨effects, _, hreacts⟩
      rw [List.foldl_cons, List.foldl_nil, follow]
      split_ifs with htarget
      · exact (hreacts.concerned sid htarget).1
      · exact hreacts.other sid htarget
  · intro x hx htarget
    rcases reacts_of_mem hrun hx with ⟨effects, houtput, hreacts⟩
    rw [houtput, (hreacts.concerned sid htarget).2]

end SessionManager

/-! ## What sessions keep -/

namespace Sessions

variable {α : Type} {conf : AnslpConfig} {env : Surroundings α} {n : NodeEvent α}
  {sid : SessionId} {s : Option (AnySession α)} {t : AnySession α} {I : AnySession α → Prop}
  {P : Effect α → Prop}

/-- An event leaves a session with a property, if it is left open, and all that is done for the
event has another one. -/
structure Keeps (conf : AnslpConfig) (env : Surroundings α) (n : NodeEvent α) (sid : SessionId)
    (I : AnySession α → Prop) (P : Effect α → Prop) : Prop where
  start : ∀ t, Sessions.start conf env n sid = some t → I t
  next : SessionManager.IsHandled n → ∀ t t' effects, I t →
    t.processEvent conf env.dispatcher n.evt = .next t' effects → t'.isFinal = false → I t'
  does : SessionManager.IsHandled n → ∀ t, I t →
    ∀ effect ∈ (t.processEvent conf env.dispatcher n.evt).effects, P effect
  unread : ∀ e, n.evt = .msg e → P (.sendMessage (e.ntlpMsg.createResponse scProtocolError 0))
  routed : ∀ mri, P (.receiveAnswer sid mri)

theorem Keeps.handle (hkeeps : Keeps conf env n sid I P) (hhandled : SessionManager.IsHandled n)
    (h : ∀ t, s = some t → I t) :
    (∀ t, (Sessions.handle conf env n sid s).1 = some t → I t) ∧
      ∀ effect ∈ (Sessions.handle conf env n sid s).2, P effect := by
  have hlive : ∀ t, (s <|> Sessions.start conf env n sid) = some t → I t := by
    cases s with
    | none => exact hkeeps.start
    | some t => exact h
  unfold Sessions.handle
  split
  · refine ⟨?_, List.forall_mem_nil _⟩
    intro t ht
    cases ht
  · rename_i t ht
    refine ⟨?_, hkeeps.does hhandled t (hlive t ht)⟩
    intro u hu
    cases ho : t.processEvent conf env.dispatcher n.evt with
    | next t' effects =>
        rw [ho] at hu
        simp only [after, kept] at hu
        split_ifs at hu with hfinal
        cases hu
        exact hkeeps.next hhandled t u effects (hlive t ht) ho (Bool.eq_false_iff.mpr hfinal)
    | thrown | undefined =>
        rw [ho] at hu
        cases hu

theorem Keeps.react (hkeeps : Keeps conf env n sid I P) (h : ∀ t, s = some t → I t) :
    (∀ t, (Sessions.react conf env n sid s).1 = some t → I t) ∧
      ∀ effect ∈ (Sessions.react conf env n sid s).2, P effect := by
  unfold Sessions.react
  split
  · exact ⟨h, List.forall_mem_singleton.mpr (hkeeps.routed _)⟩
  · rename_i e hevt
    split_ifs with hmsg
    · exact ⟨h, List.forall_mem_singleton.mpr (hkeeps.unread e hevt)⟩
    · apply hkeeps.handle _ h
      simpa [SessionManager.IsHandled, hevt, Option.isSome_iff_ne_none] using hmsg
  · rename_i hroute hmsg
    apply hkeeps.handle _ h
    unfold SessionManager.IsHandled
    split
    · exact absurd ‹_› (hroute _)
    · exact absurd ‹_› (hmsg _)
    · trivial

end Sessions

/-- A session bears an identifier, and what it stores is for it and has a property. -/
structure AnySession.Bears {α : Type} (Q : AnslpMsg α → Prop) (sid : SessionId)
    (t : AnySession α) : Prop where
  id : t.getId = sid
  stores : t.Stores Q

namespace Sessions

variable {α : Type} {conf : AnslpConfig} {env : Surroundings α} {n : NodeEvent α}
  {sid : SessionId} {t : AnySession α} {Q : AnslpMsg α → Prop}

theorem bears_start (h : start conf env n sid = some t) : t.Bears Q sid := by
  unfold start at h
  split at h
  · cases h
    exact ⟨rfl, NiSession.stores_new _ _ _⟩
  · split_ifs at h
    · cases h
      exact ⟨rfl, NrSession.stores_new _ _ _⟩
    · cases h
      exact ⟨rfl, NfSession.stores_new _⟩
  · cases h

/-- What is sent is for the session of the event and has the property. -/
theorem keeps_bears (hQ : AnslpMsg.KeptBySessions Q)
    (haddressed : ∀ e, n.evt = .msg e → e.ntlpMsg.sid = sid)
    (hbody : ∀ e a, n.evt = .msg e → e.ntlpMsg.msg = some a → Q a) :
    Keeps conf env n sid (AnySession.Bears Q sid)
      fun effect => ∀ m, effect.sent? = some m → m.Carries Q sid := by
  have hcarries : SessionManager.IsHandled n → n.evt.Carries Q sid := by
    intro hhandled e hevt
    rw [SessionManager.IsHandled, hevt] at hhandled
    rcases Option.isSome_iff_exists.mp hhandled with ⟨a, ha⟩
    exact ⟨haddressed e hevt, a, ha, hbody e a hevt ha⟩
  refine ⟨fun _ => bears_start, ?_, ?_, ?_, ?_⟩
  · intro hhandled t t' effects ht hnext _
    have hid : t'.getId = t.getId := AnySession.getId_of_processEvent (by rw [hnext]; rfl)
    exact ⟨hid.trans ht.id, ht.stores.of_next hQ (ht.id ▸ hcarries hhandled) hnext⟩
  · intro hhandled t ht effect heffect m hm
    rw [← ht.id]
    exact ht.stores.sendsOnly hQ (ht.id ▸ hcarries hhandled) m
      (List.mem_filterMap.mpr ⟨effect, heffect, hm⟩)
  · intro e hevt m hm
    cases hm
    exact ⟨haddressed e hevt, _, rfl, hQ.response _ _ _⟩
  · intro mri m hm
    cases hm

end Sessions

namespace SessionManager

variable {α : Type} {conf : AnslpConfig} {env : Surroundings α} {m m' : SessionManager α}
  {n : NodeEvent α} {sid : SessionId} {effects : List (Effect α)} {trace : List (NodeStep α)}
  {Q : AnslpMsg α → Prop}

/-- The message of an event bears the identifier of the session that it concerns. -/
theorem sid_of_target? (htarget : m.target? env n = some sid) :
    ∀ e, n.evt = .msg e → e.ntlpMsg.sid = sid := by
  intro e hevt
  have haddressed := n.isAddressed
  rw [hevt] at haddressed
  rw [target?_of_sid haddressed] at htarget
  exact Option.some.inj htarget

/-- What the session that an event concerns keeps, all sessions keep. -/
theorem Reacts.kept (hreacts : m.Reacts conf env n m' effects)
    {I : SessionId → AnySession α → Prop} {P : SessionId → Effect α → Prop}
    (hkeeps : ∀ sid, m.target? env n = some sid → Sessions.Keeps conf env n sid (I sid) (P sid))
    (h : ∀ sid t, m.opened sid = some t → I sid t) :
    (∀ sid t, m'.opened sid = some t → I sid t) ∧
      ∀ effect ∈ effects, ∃ sid, m.target? env n = some sid ∧ P sid effect := by
  constructor
  · intro sid
    by_cases htarget : m.target? env n = some sid
    · rw [(hreacts.concerned sid htarget).1]
      exact ((hkeeps sid htarget).react (h sid)).1
    · rw [hreacts.other sid htarget]
      exact h sid
  · intro effect heffect
    cases htarget : m.target? env n with
    | none =>
        rw [hreacts.nobody htarget] at heffect
        cases heffect
    | some sid =>
        rw [(hreacts.concerned sid htarget).2] at heffect
        exact ⟨sid, rfl, ((hkeeps sid htarget).react (h sid)).2 effect heffect⟩

/-- Every session is in one place and bears the identifier it is stored under. -/
structure Bears (Q : AnslpMsg α → Prop) (m : SessionManager α) : Prop where
  owned : m.Owned
  opened : ∀ sid t, m.opened sid = some t → t.Bears Q sid

theorem bears_empty : (empty : SessionManager α).Bears Q where
  owned := owned_empty
  opened sid t ht := by
    rw [opened_empty] at ht
    cases ht

/-- An event keeps this, and what is sent for it bears the identifier of the session that it
concerns. -/
theorem Bears.reacts (hQ : AnslpMsg.KeptBySessions Q) (h : m.Bears Q)
    (hbody : ∀ e a, n.evt = .msg e → e.ntlpMsg.msg = some a → Q a)
    (hreacts : m.Reacts conf env n m' effects) :
    m'.Bears Q ∧ ∀ msg ∈ effects.filterMap Effect.sent?,
      ∃ sid, m.target? env n = some sid ∧ msg.Carries Q sid := by
  rcases hreacts.kept (fun sid htarget =>
    Sessions.keeps_bears hQ (sid_of_target? htarget) hbody) h.opened with ⟨hopened, hdone⟩
  refine ⟨⟨hreacts.owned, hopened⟩, ?_⟩
  intro msg hmsg
  rcases List.mem_filterMap.mp hmsg with ⟨effect, heffect, hsent⟩
  rcases hdone effect heffect with ⟨sid, htarget, hcarries⟩
  exact ⟨sid, htarget, hcarries msg hsent⟩

/-- Every session is in one place and bears the identifier it is stored under. -/
abbrev BearsOwn (m : SessionManager α) : Prop :=
  m.Bears fun _ => True

theorem BearsOwn.reacts (h : m.BearsOwn) (hreacts : m.Reacts conf env n m' effects) :
    m'.BearsOwn ∧ ∀ msg ∈ effects.filterMap Effect.sent?,
      ∃ sid, m.target? env n = some sid ∧ msg.IsOf sid := by
  rcases Bears.reacts AnslpMsg.keptBySessions_true h (fun _ _ _ _ => trivial) hreacts with
    ⟨hleft, hsent⟩
  refine ⟨hleft, ?_⟩
  intro msg hmsg
  rcases hsent msg hmsg with ⟨sid, htarget, hcarries⟩
  exact ⟨sid, htarget, hcarries.isOf⟩

theorem bearsOwn_of_run (hrun : Transition.Run (node conf) empty trace m) : m.BearsOwn := by
  refine hrun.invariant (I := BearsOwn) ?_ bears_empty
  intro t input output u ht hstep
  unfold node at hstep
  split at hstep
  · rename_i m' effects hprocess
    cases hstep
    exact (ht.reacts (ht.owned.reacts hprocess)).1
  · cases hstep

/-- In every run each message that a node sends has a body and bears the identifier of the
session that the event concerns. -/
theorem bears_of_run (hrun : Transition.Run (node conf) empty trace m) {x : NodeStep α}
    (hx : x ∈ trace) {effects : List (Effect α)} (houtput : x.output = .ok effects) :
    ∀ m ∈ effects.filterMap Effect.sent?,
      ∃ sid, x.pre.target? x.input.1 x.input.2 = some sid ∧ m.IsOf sid := by
  rcases hrun.pre_of_mem hx with ⟨before, _, _, hbefore, _⟩
  rcases reacts_of_mem hrun hx with ⟨effects', houtput', hreacts⟩
  cases houtput.symm.trans houtput'
  exact ((bearsOwn_of_run hbefore).reacts hreacts).2

end SessionManager

/-! ### A session that a user asked for -/

namespace RequestedSession

open Sample SessionManager FailingInstaller

theorem run_waiting : ∃ effects : List (Effect RawIpap),
    process conf calm empty creation = .ok (waiting, effects) ∧
      Transition.Run (node conf) empty [⟨empty, (calm, creation), .ok effects, waiting⟩]
        waiting := by
  rcases process_creation with ⟨effects, hprocess⟩
  have hstep : node conf empty (calm, creation) = (.ok effects, some waiting) := by
    simp only [node, hprocess]
  exact ⟨effects, hprocess, .snoc .nil hstep⟩

/-- The session is what the request has made of it. -/
theorem followed_waiting : ∃ trace : List (NodeStep RawIpap),
    Transition.Run (node conf) empty trace waiting ∧
      waiting.opened 1 = trace.foldl (follow conf 1) none ∧
      ∀ x ∈ trace, x.pre.target? x.input.1 x.input.2 = some 1 →
        x.output = .ok (Sessions.react conf x.input.1 x.input.2 1 (x.pre.opened 1)).2 := by
  rcases run_waiting with ⟨effects, _, hrun⟩
  exact ⟨_, hrun, followed_of_run hrun 1⟩

/-- What is sent for the request bears the identifier that was drawn. -/
theorem bears_creation : ∃ effects : List (Effect RawIpap),
    process conf calm empty creation = .ok (waiting, effects) ∧
      ∀ m ∈ effects.filterMap Effect.sent?,
        ∃ sid, empty.target? calm creation = some sid ∧ m.IsOf sid := by
  rcases run_waiting with ⟨effects, hprocess, hrun⟩
  exact ⟨effects, hprocess, bears_of_run hrun (List.mem_singleton_self _) rfl⟩

end RequestedSession
end Anslp
