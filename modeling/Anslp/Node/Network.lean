import Anslp.Node.Provenance
import Anslp.Node.Sessions

/-!
# A network of nodes

Any number of nodes, each with its table of sessions, and the messages between them.  A node
may be the initiator of one session, a forwarder of a second and the responder of a third;
messages are routed in any way, are lost, delayed and delivered again.

The messages of one session follow a path.  What the nodes do for this session is a run of its
path alone, so that all that is true of the runs of a path is true of each session of the
network.

Main results:

- Theorem {lit}`Chain.system_of_react`: what a node of the path makes of an event is what the
  session there makes of it.
- Theorem {lit}`Network.pathRun_of_run`: every run of the network shows a run of the path of
  each session.
- Theorem {lit}`Network.requested_of_session`: what is checked or installed for a session was
  requested for this session.

Current gaps:

- None for the events of the sessions; the threads of a node are the concern of {lit}`Threads`.
-/

namespace Anslp

/-! ## What is open on a path -/

namespace Chain

variable {α : Type} {n : Nat} {conf : AnslpConfig} {confs : Place n → AnslpConfig}
  {sid : SessionId} {c : Chain α n}
  {env : Surroundings α} {x : NodeEvent α} {p : Place n}

/-- The session at a place, unless it has ended. -/
def open? (c : Chain α n) : Place n → Option (AnySession α)
  | .ni => Sessions.kept (.ni c.ni)
  | .nf i => Sessions.kept (.nf (c.nfs i))
  | .nr => Sessions.kept (.nr c.nr)

theorem open?_start (p : Place n) : (start confs sid : Chain α n).open? p = none := by
  cases p <;> rfl

/-- The event may start the session of its place only: the initiator's user asks for one, a
CREATE is passed on by the forwarders and ends at the responder. -/
def Suits (conf : AnslpConfig) (p : Place n) : Event α → Prop
  | .apiCreate _ => p = .ni
  | .msg e =>
      match p with
      | .ni => e.ofKind? .create = none
      | .nf _ => (e.forThisNode || conf.nfEdge) = false
      | .nr => (e.forThisNode || conf.nfEdge) = true
  | _ => True

/-- A new session at a place. -/
def fresh (conf : AnslpConfig) (sid : SessionId) (random : UInt32) : Place n → AnySession α
  | .ni => .ni (.new conf sid random)
  | .nf _ => .nf (.new sid)
  | .nr => .nr (.new conf sid random)

theorem start_of_suits (hsuits : Suits conf p x.evt) :
    Sessions.start conf env x sid =
      if starts p x.evt then some (fresh conf sid env.random p) else none := by
  rcases x with ⟨xsid, evt, haddressed⟩
  cases evt with
  | apiCreate e =>
      cases hsuits
      rfl
  | msg e =>
      cases p with
      | ni =>
          have hnone : e.ofKind? .create = none := hsuits
          simp [Sessions.start, starts, hnone]
      | nf i =>
          have hrole : (e.forThisNode || conf.nfEdge) = false := hsuits
          cases hc : e.ofKind? .create <;> simp [Sessions.start, starts, fresh, hrole, hc]
      | nr =>
          have hrole : (e.forThisNode || conf.nfEdge) = true := hsuits
          cases hc : e.ofKind? .create <;> simp [Sessions.start, starts, fresh, hrole, hc]
  | _ => cases p <;> rfl

/-- The messages among what was done, on their way. -/
def posted (p : Place n) (effects : List (Effect α)) : List (Place n × NtlpMsg α) :=
  (effects.filterMap Effect.sent?).map fun m => (p.hop m, m)

section

variable {σ : Type} (wrap : σ → AnySession α) {isFinal : σ → Bool} {new s t : σ}
  (process : σ → Outcome σ α) (put : σ → Chain α n)

/-- A call of a session does what the session does alone, and leaves what it leaves. -/
theorem call_of_live (hprocess : ∀ s, (wrap s).processEvent conf env.dispatcher x.evt =
      (process s).map wrap)
    (hfinal : ∀ s, (wrap s).isFinal = isFinal s) (hnew : isFinal new = true)
    (ht : (Sessions.kept (wrap s) <|> Sessions.start conf env x sid) = some (wrap t))
    (hlive : live isFinal new s p x.evt = some t)
    (hdefined : ∀ f, (wrap t).processEvent conf env.dispatcher x.evt ≠ .undefined f) :
    ∃ u, c.call p isFinal new s x.evt process put =
        ((Sessions.handle conf env x sid (Sessions.kept (wrap s))).2,
          some { put u with
            mail := c.mail ++
              posted p (Sessions.handle conf env x sid (Sessions.kept (wrap s))).2 }) ∧
      Sessions.kept (wrap u) = (Sessions.handle conf env x sid (Sessions.kept (wrap s))).1 := by
  simp only [call, hlive, Sessions.handle, ht, hprocess]
  rw [hprocess] at hdefined
  cases ho : process t with
  | undefined f => exact absurd (by rw [ho]; rfl) (hdefined f)
  | next u effects => exact ⟨u, rfl, rfl⟩
  | thrown exp u effects =>
      refine ⟨new, rfl, ?_⟩
      rw [Sessions.kept, hfinal, if_pos hnew]
      rfl

/-- The same of any call: without a session the event is discarded. -/
theorem call_of_handle (hprocess : ∀ s, (wrap s).processEvent conf env.dispatcher x.evt =
      (process s).map wrap)
    (hfinal : ∀ s, (wrap s).isFinal = isFinal s) (hnew : isFinal new = true)
    (hstart : Sessions.start conf env x sid = if starts p x.evt then some (wrap new) else none)
    (hput : put s = c) (hsession : isFinal s = false → x.evt.forSession = true)
    (hdefined : ∀ t, (Sessions.kept (wrap s) <|> Sessions.start conf env x sid) = some t →
      ∀ f, t.processEvent conf env.dispatcher x.evt ≠ .undefined f) :
    ∃ u, c.call p isFinal new s x.evt process put =
        ((Sessions.handle conf env x sid (Sessions.kept (wrap s))).2,
          some { put u with
            mail := c.mail ++
              posted p (Sessions.handle conf env x sid (Sessions.kept (wrap s))).2 }) ∧
      Sessions.kept (wrap u) = (Sessions.handle conf env x sid (Sessions.kept (wrap s))).1 := by
  by_cases hs : isFinal s = true
  · have hkept : Sessions.kept (wrap s) = none := by
      rw [Sessions.kept, hfinal, if_pos hs]
    by_cases hstarts : starts p x.evt = true
    · have hfresh : (Sessions.kept (wrap s) <|> Sessions.start conf env x sid) =
          some (wrap new) := by
        rw [hkept, hstart, if_pos hstarts]
        rfl
      apply call_of_live wrap process put hprocess hfinal hnew hfresh ?_ (hdefined _ hfresh)
      rw [live, if_pos hs, if_pos hstarts]
    · refine ⟨s, ?_, ?_⟩
      · simp only [call, live, if_pos hs, if_neg hstarts, Sessions.handle, hkept, hstart, hput]
        exact congrArg (fun mail => (([] : List (Effect α)), some { c with mail := mail }))
          (List.append_nil c.mail).symm
      · simp only [Sessions.handle, hkept, hstart, if_neg hstarts]
        rfl
  · have hopen : (Sessions.kept (wrap s) <|> Sessions.start conf env x sid) = some (wrap s) := by
      rw [Sessions.kept, hfinal, if_neg hs]
      rfl
    apply call_of_live wrap process put hprocess hfinal hnew hopen ?_ (hdefined _ hopen)
    rw [live, if_neg hs, if_pos (hsession (Bool.eq_false_iff.mpr hs))]

end

/-- Any event but a query for routing state is an event of the session at its place. -/
theorem system_of_not_routing {d : Dispatcher α} {random : UInt32} {evt : Event α}
    (h : ∀ mri, evt ≠ .routingStateCheck mri) :
    system confs sid c ⟨p, d, random, evt⟩ =
      match p with
      | .ni => c.stepNi confs sid d random evt
      | .nf i => c.stepNf confs sid i d evt
      | .nr => c.stepNr confs sid d random evt := by
  unfold system
  split
  · rename_i mri hroute
    exact absurd hroute (h mri)
  · rfl

/-- A node makes of an event what the session at its place makes of it. -/
theorem system_of_react (hsuits : Suits (confs p) p x.evt)
    (hcreate : ∀ e, x.evt = .apiCreate e → c.open? p = none)
    (hbody : ∀ e, x.evt = .msg e → e.ntlpMsg.msg.isSome = true)
    (hdefined : Sessions.Defined (confs p) env x sid (c.open? p)) :
    ∃ c', system confs sid c ⟨p, env.dispatcher, env.random, x.evt⟩ =
        ((Sessions.react (confs p) env x sid (c.open? p)).2, some c') ∧
      c'.open? = Function.update c.open? p (Sessions.react (confs p) env x sid (c.open? p)).1 ∧
      c'.mail = c.mail ++ posted p (Sessions.react (confs p) env x sid (c.open? p)).2 := by
  by_cases hroute : ∃ mri, x.evt = .routingStateCheck mri
  · rcases hroute with ⟨mri, hevt⟩
    refine ⟨c, ?_, ?_, ?_⟩
    · simp only [system, Sessions.react, hevt]
    · simp only [Sessions.react, hevt, Function.update_eq_self]
    · simp only [Sessions.react, hevt]
      exact (List.append_nil c.mail).symm
  · have hnot : ∀ mri, x.evt ≠ .routingStateCheck mri := not_exists.mp hroute
    rw [Sessions.react_eq_handle hnot hbody, system_of_not_routing hnot]
    have hdef := hdefined (Sessions.isHandled_of_body hnot hbody)
    have hsession : c.open? p ≠ none → x.evt.forSession = true := by
      intro hopen
      cases hevt : x.evt with
      | routingStateCheck mri => exact absurd hevt (hnot mri)
      | apiCreate e => exact absurd (hcreate e hevt) hopen
      | _ => rfl
    have hlive : ∀ s : AnySession α, s.isFinal = false → Sessions.kept s ≠ none := by
      intro s hs
      rw [Sessions.kept, hs]
      exact Option.some_ne_none s
    have hstart : Sessions.start (confs p) env x sid =
        if starts p x.evt then some (fresh (confs p) sid env.random p) else none :=
      start_of_suits hsuits
    cases p with
    | ni =>
        rcases call_of_handle (c := c) (p := .ni) AnySession.ni
            (fun s => s.processEvent env.dispatcher x.evt) (fun s => { c with ni := s })
            (fun _ => rfl) (fun _ => rfl) rfl hstart rfl
            (fun hs => hsession (hlive (.ni c.ni) hs)) hdef with ⟨u, hcall, hkept⟩
        refine ⟨_, hcall, ?_, rfl⟩
        rw [show c.open? .ni = Sessions.kept (.ni c.ni) from rfl, ← hkept]
        funext q
        cases q <;> rfl
    | nf i =>
        rcases call_of_handle (c := c) (p := .nf i) AnySession.nf
            (fun s => s.processEvent (confs (.nf i)) env.dispatcher x.evt)
            (fun s => { c with nfs := Function.update c.nfs i s })
            (fun _ => rfl) (fun _ => rfl) rfl hstart (by rw [Function.update_eq_self])
            (fun hs => hsession (hlive (.nf (c.nfs i)) hs)) hdef with ⟨u, hcall, hkept⟩
        refine ⟨_, hcall, ?_, rfl⟩
        rw [show c.open? (.nf i) = Sessions.kept (.nf (c.nfs i)) from rfl, ← hkept]
        funext q
        by_cases hq : q = .nf i
        · subst hq
          rw [Function.update_self]
          exact congrArg (fun s => Sessions.kept (.nf s)) (Function.update_self i u c.nfs)
        · rw [Function.update_of_ne hq]
          cases q with
          | ni | nr => rfl
          | nf j =>
              have hj : j ≠ i := by
                rintro rfl
                exact hq rfl
              exact congrArg (fun s => Sessions.kept (.nf s)) (Function.update_of_ne hj u c.nfs)
    | nr =>
        rcases call_of_handle (c := c) (p := .nr) AnySession.nr
            (fun s => s.processEvent (confs .nr) env.dispatcher x.evt) (fun s => { c with nr := s })
            (fun _ => rfl) (fun _ => rfl) rfl hstart rfl
            (fun hs => hsession (hlive (.nr c.nr) hs)) hdef with ⟨u, hcall, hkept⟩
        refine ⟨_, hcall, ?_, rfl⟩
        rw [show c.open? .nr = Sessions.kept (.nr c.nr) from rfl, ← hkept]
        funext q
        cases q <;> rfl

end Chain

/-! ## The network -/

/-- All nodes, each with its sessions, and all messages sent so far with the nodes they are
for. -/
structure Network (ν α : Type) where
  nodes : ν → SessionManager α
  mail : List (ν × NtlpMsg α)

/-- An event at one node. -/
structure Occurrence (ν α : Type) where
  node : ν
  env : Surroundings α
  event : NodeEvent α

/-- The path of a session: the node at each of its places. -/
structure Route (ν : Type) (n : Nat) where
  node : Place n → ν
  place? : ν → Option (Place n)
  place?_eq_some : ∀ v p, place? v = some p ↔ node p = v

namespace Route

variable {ν : Type} {n : Nat} (r : Route ν n)

@[simp]
theorem place?_node (p : Place n) : r.place? (r.node p) = some p :=
  (r.place?_eq_some _ _).mpr rfl

theorem node_injective : Function.Injective r.node := by
  intro p q h
  have hsome := r.place?_node p
  rw [h, place?_node] at hsome
  exact (Option.some.inj hsome).symm

end Route

namespace Network

variable {ν α : Type} {n : Nat}

/-- No node has a session. -/
def start : Network ν α where
  nodes := fun _ => .empty
  mail := []

/-- One event at one node after the other.  {lit}`hop` is the node that a message sent from
another one is for: messages are routed by what lies under this protocol.  Each node has its own
configuration. -/
def system [DecidableEq ν] (conf : ν → AnslpConfig) (hop : ν → NtlpMsg α → ν) :
    Transition.System (Network ν α) (Occurrence ν α) (List (Effect α)) :=
  fun w x =>
    match (w.nodes x.node).process (conf x.node) x.env x.event with
    | .error _ => ([], none)
    | .ok (m, effects) =>
        (effects, some
          { nodes := Function.update w.nodes x.node m
            mail := w.mail ++ (effects.filterMap Effect.sent?).map fun m => (hop x.node m, m) })

/-- A recorded step of a network. -/
abbrev NetworkStep (ν α : Type) :=
  Transition.Step (Network ν α) (Occurrence ν α) (List (Effect α))

/-- The session that the event of a step concerns. -/
def target? (x : NetworkStep ν α) : Option SessionId :=
  (x.pre.nodes x.input.node).target? x.input.env x.input.event

/-- A step suits the session it concerns: its messages are delivered where they were sent to,
the event is one that may start the session at its place, and none but the initiator draws
its identifier. -/
structure Serves (conf : ν → AnslpConfig) (r : Route ν n) (x : NetworkStep ν α) : Prop where
  delivered : ∀ e, x.input.event.evt = .msg e → (x.input.node, e.ntlpMsg) ∈ x.pre.mail
  suits : ∀ p, r.node p = x.input.node → Chain.Suits (conf x.input.node) p x.input.event.evt
  drawn : ∀ e, x.input.event.evt = .apiCreate e → r.node .ni = x.input.node
  proper : IsProper x.input.env.dispatcher x.input.event.evt

/-- What a step shows of a session: an event at a place of its path, and what is done there. -/
def shown (r : Route ν n) (sid : SessionId) (x : NetworkStep ν α) :
    Option (Move α n × List (Effect α)) :=
  if target? x = some sid then
    (r.place? x.input.node).map fun p =>
      (⟨p, x.input.env.dispatcher, x.input.env.random, x.input.event.evt⟩, x.output)
  else none

/-- What the network shows of a session: what is open at each place of its path, and nothing
elsewhere, and its messages. -/
structure Shows (w : Network ν α) (r : Route ν n) (sid : SessionId) (c : Chain α n) : Prop where
  sessions : ∀ p, (w.nodes (r.node p)).opened sid = c.open? p
  elsewhere : ∀ v, r.place? v = none → (w.nodes v).opened sid = none
  mail : w.mail.filter (fun x => x.2.sid = sid) = c.mail.map fun x => (r.node x.1, x.2)

/-- The nodes keep their sessions apart, and all messages have a body. -/
structure IsSound (w : Network ν α) : Prop where
  nodes : ∀ v, (w.nodes v).BearsOwn
  body : ∀ x ∈ w.mail, x.2.msg.isSome = true

variable {conf : ν → AnslpConfig} {hop : ν → NtlpMsg α → ν} {r : Route ν n} {sid : SessionId}
  {w w' : Network ν α} {c : Chain α n} {x : NetworkStep ν α}

theorem isSound_start : (start : Network ν α).IsSound where
  nodes _ := SessionManager.bears_empty
  body := List.forall_mem_nil _

theorem shows_start : (start : Network ν α).Shows r sid (.start (conf ∘ r.node) sid) where
  sessions p := by
    rw [Chain.open?_start, start, SessionManager.opened_empty]
  elsewhere v _ := by rw [start, SessionManager.opened_empty]
  mail := rfl

/-- A step of the network is the reaction of one session at one node. -/
structure IsReaction (conf : ν → AnslpConfig) (hop : ν → NtlpMsg α → ν) (x : NetworkStep ν α) :
    Prop where
  reacts : (x.pre.nodes x.input.node).Reacts (conf x.input.node) x.input.env x.input.event
    (x.post.nodes x.input.node) x.output
  nodes : ∀ v, v ≠ x.input.node → x.post.nodes v = x.pre.nodes v
  mail : x.post.mail = x.pre.mail ++
    (x.output.filterMap Effect.sent?).map fun m => (hop x.input.node m, m)

theorem isReaction [DecidableEq ν] (hsound : x.pre.IsSound)
    (hstep : system conf hop x.pre x.input = (x.output, some x.post)) :
    IsReaction conf hop x := by
  rcases x with ⟨w, input, output, w'⟩
  dsimp only at hsound hstep
  unfold system at hstep
  split at hstep
  · cases (Prod.mk.inj hstep).2
  · rename_i m effects hprocess
    cases hstep
    refine ⟨?_, ?_, rfl⟩
    · dsimp only
      rw [Function.update_self]
      exact (hsound.nodes input.node).owned.reacts hprocess
    · intro v hv
      exact Function.update_of_ne hv m w.nodes

/-- What is sent in a step is for the session it concerns. -/
theorem IsReaction.isOf (h : IsReaction conf hop x) (hsound : x.pre.IsSound) :
    ∀ m ∈ x.output.filterMap Effect.sent?, ∃ sid, target? x = some sid ∧ m.IsOf sid :=
  ((hsound.nodes x.input.node).reacts h.reacts).2

theorem IsReaction.isSound (h : IsReaction conf hop x) (hsound : x.pre.IsSound) :
    x.post.IsSound where
  nodes v := by
    by_cases hv : v = x.input.node
    · rw [hv]
      exact ((hsound.nodes x.input.node).reacts h.reacts).1
    · rw [h.nodes v hv]
      exact hsound.nodes v
  body := by
    rw [h.mail]
    intro y hy
    rcases List.mem_append.mp hy with hy | hy
    · exact hsound.body y hy
    · rcases List.mem_map.mp hy with ⟨m, hm, rfl⟩
      rcases h.isOf hsound m hm with ⟨_, _, hof⟩
      exact hof.body

/-- A step for another session shows nothing. -/
theorem IsReaction.opened_of_ne (h : IsReaction conf hop x) (htarget : target? x ≠ some sid)
    (v : ν) : (x.post.nodes v).opened sid = (x.pre.nodes v).opened sid := by
  by_cases hv : v = x.input.node
  · rw [hv]
    exact h.reacts.other sid htarget
  · rw [h.nodes v hv]

/-- What one step adds to the messages of a session. -/
theorem IsReaction.filter_mail (h : IsReaction conf hop x) (hsound : x.pre.IsSound) :
    x.post.mail.filter (fun y => y.2.sid = sid) =
      x.pre.mail.filter (fun y => y.2.sid = sid) ++
        if target? x = some sid then
          (x.output.filterMap Effect.sent?).map fun m => (hop x.input.node m, m)
        else [] := by
  rw [h.mail, List.filter_append]
  congr 1
  split_ifs with htarget
  · apply List.filter_eq_self.mpr
    intro y hy
    rcases List.mem_map.mp hy with ⟨m, hm, rfl⟩
    rcases h.isOf hsound m hm with ⟨sid', htarget', hof⟩
    cases htarget.symm.trans htarget'
    exact decide_eq_true hof.sid
  · apply List.filter_eq_nil_iff.mpr
    intro y hy
    rcases List.mem_map.mp hy with ⟨m, hm, rfl⟩
    rcases h.isOf hsound m hm with ⟨sid', htarget', hof⟩
    intro hsid
    exact htarget (htarget'.trans (congrArg some (hof.sid.symm.trans (of_decide_eq_true hsid))))

/-- A message of a session lies where the path of the session has it. -/
theorem Shows.mem_mail (h : w.Shows r sid c) {v : ν} {m : NtlpMsg α} (hm : (v, m) ∈ w.mail)
    (hsid : m.sid = sid) : ∃ p, r.node p = v ∧ (p, m) ∈ c.mail := by
  have hmem : (v, m) ∈ w.mail.filter (fun y => y.2.sid = sid) :=
    List.mem_filter.mpr ⟨hm, decide_eq_true hsid⟩
  rw [h.mail] at hmem
  rcases List.mem_map.mp hmem with ⟨y, hy, heq⟩
  cases heq
  exact ⟨y.1, rfl, hy⟩

/-- The message of an event is one of the session that the event concerns. -/
theorem sid_of_target? (htarget : target? x = some sid) {e : MsgEvent α}
    (he : x.input.event.evt = .msg e) : e.ntlpMsg.sid = sid :=
  SessionManager.sid_of_target? htarget e he

/-- An event that concerns the session at a node outside its path changes nothing, and only a
query for routing state is answered. -/
theorem Shows.react_of_elsewhere (h : x.pre.Shows r sid c) (htarget : target? x = some sid)
    (hserves : Serves conf r x) (hplace : r.place? x.input.node = none) :
    (Sessions.react (conf x.input.node) x.input.env x.input.event sid none).1 = none ∧
      ∀ effect ∈ (Sessions.react (conf x.input.node) x.input.env x.input.event sid none).2,
        ∃ mri, effect = .receiveAnswer sid mri := by
  have hnowhere : ∀ p, r.node p ≠ x.input.node := by
    intro p hp
    rw [← hp, r.place?_node] at hplace
    cases hplace
  cases hevt : x.input.event.evt with
  | apiCreate e => exact absurd (hserves.drawn e hevt) (hnowhere .ni)
  | msg e =>
      rcases h.mem_mail (hserves.delivered e hevt) (sid_of_target? htarget hevt) with ⟨p, hp, _⟩
      exact absurd hp (hnowhere p)
  | routingStateCheck mri =>
      unfold Sessions.react
      rw [hevt]
      exact ⟨rfl, List.forall_mem_singleton.mpr ⟨mri, rfl⟩⟩
  | _ =>
      unfold Sessions.react Sessions.handle Sessions.start
      rw [hevt]
      exact ⟨rfl, List.forall_mem_nil _⟩

/-- What a step does for a session at a node outside its path. -/
theorem Shows.output_of_elsewhere (h : x.pre.Shows r sid c) (hreaction : IsReaction conf hop x)
    (htarget : target? x = some sid) (hserves : Serves conf r x)
    (hplace : r.place? x.input.node = none) :
    (x.post.nodes x.input.node).opened sid = none ∧
      ∀ effect ∈ x.output, ∃ mri, effect = .receiveAnswer sid mri := by
  have hconcerned := hreaction.reacts.concerned sid htarget
  have hreact := h.react_of_elsewhere htarget hserves hplace
  rw [h.elsewhere _ hplace] at hconcerned
  rw [hconcerned.1, hconcerned.2]
  exact hreact

/-- A step that shows nothing. -/
theorem Shows.of_silent (h : x.pre.Shows r sid c) (hreaction : IsReaction conf hop x)
    (hsound : x.pre.IsSound) (hserves : target? x = some sid → Serves conf r x)
    (hshown : shown r sid x = none) : x.post.Shows r sid c := by
  by_cases htarget : target? x = some sid
  · have hplace : r.place? x.input.node = none := by
      rw [shown, if_pos htarget] at hshown
      exact Option.map_eq_none_iff.mp hshown
    rcases h.output_of_elsewhere hreaction htarget (hserves htarget) hplace with
      ⟨hleft, houtput⟩
    have hsent : x.output.filterMap Effect.sent? = [] := by
      apply List.filterMap_eq_nil_iff.mpr
      intro effect heffect
      rcases houtput effect heffect with ⟨mri, rfl⟩
      rfl
    have hopened : ∀ v, (x.post.nodes v).opened sid = (x.pre.nodes v).opened sid := by
      intro v
      by_cases hv : v = x.input.node
      · rw [hv, hleft, h.elsewhere _ hplace]
      · rw [hreaction.nodes v hv]
    refine ⟨?_, ?_, ?_⟩
    · intro p
      rw [hopened, h.sessions p]
    · intro v hv
      rw [hopened, h.elsewhere v hv]
    · rw [hreaction.filter_mail hsound, hsent, ← h.mail]
      simp
  · refine ⟨?_, ?_, ?_⟩
    · intro p
      rw [hreaction.opened_of_ne htarget, h.sessions p]
    · intro v hv
      rw [hreaction.opened_of_ne htarget, h.elsewhere v hv]
    · rw [hreaction.filter_mail hsound, if_neg htarget, List.append_nil, h.mail]

/-- A step at a place of the path is a step of the path. -/
theorem Shows.of_shown (hhop : ∀ p m, m.sid = sid → hop (r.node p) m = r.node (p.hop m))
    (h : x.pre.Shows r sid c) (hreaction : IsReaction conf hop x) (hsound : x.pre.IsSound)
    (htarget : target? x = some sid) (hserves : Serves conf r x) {p : Place n}
    (hplace : r.node p = x.input.node) :
    ∃ c', Chain.system (conf ∘ r.node) sid c
        ⟨p, x.input.env.dispatcher, x.input.env.random, x.input.event.evt⟩ =
          (x.output, some c') ∧ x.post.Shows r sid c' := by
  have hopen : (x.pre.nodes x.input.node).opened sid = c.open? p := hplace ▸ h.sessions p
  have hconcerned := hreaction.reacts.concerned sid htarget
  have hdefined := hreaction.reacts.isDefined sid htarget
  rw [hopen] at hconcerned hdefined
  have hcreate : ∀ e, x.input.event.evt = .apiCreate e → c.open? p = none := by
    intro e he
    have hunused : (x.pre.nodes x.input.node).sessionTable.find? sid = none := by
      rw [target?, SessionManager.target?, he] at htarget
      exact SessionManager.createUniqueId_unused htarget
    rw [← hopen]
    exact SessionManager.opened_of_unused hunused
  have hbody : ∀ e, x.input.event.evt = .msg e → e.ntlpMsg.msg.isSome = true :=
    fun e he => hsound.body _ (hserves.delivered e he)
  have hconf : (conf ∘ r.node) p = conf x.input.node := congrArg conf hplace
  have hsuits := hserves.suits p hplace
  rw [← hconf] at hsuits hconcerned hdefined
  rcases Chain.system_of_react hsuits hcreate hbody hdefined with
    ⟨c', hsystem, hopened, hmail⟩
  refine ⟨c', ?_, ?_, ?_, ?_⟩
  · rw [hsystem, hconcerned.2]
  · intro q
    rw [hopened]
    by_cases hq : q = p
    · rw [hq, Function.update_self, hplace, hconcerned.1]
    · have hne : r.node q ≠ x.input.node :=
        fun heq => hq (r.node_injective (heq.trans hplace.symm))
      rw [Function.update_of_ne hq, hreaction.nodes _ hne, h.sessions q]
  · intro v hv
    have hne : v ≠ x.input.node := by
      rintro rfl
      rw [← hplace, r.place?_node] at hv
      cases hv
    rw [hreaction.nodes v hne, h.elsewhere v hv]
  · rw [hreaction.filter_mail hsound, if_pos htarget, h.mail, hmail, List.map_append,
      ← hconcerned.2, Chain.posted, List.map_map, ← hplace]
    congr 1
    apply List.map_congr_left
    intro m hm
    rcases hreaction.isOf hsound m hm with ⟨sid', htarget', hof⟩
    cases htarget.symm.trans htarget'
    exact Prod.ext (hhop p m hof.sid) rfl

/-- A step that shows a move of the path is this move, and its message was sent before. -/
theorem shown_step [DecidableEq ν]
    (hhop : ∀ p m, m.sid = sid → hop (r.node p) m = r.node (p.hop m)) (x : NetworkStep ν α)
    (c : Chain α n) (move : Move α n) (output : List (Effect α))
    (hR : x.pre.IsSound ∧ x.pre.Shows r sid c) (hG : target? x = some sid → Serves conf r x)
    (hstep : system conf hop x.pre x.input = (x.output, some x.post))
    (hshown : shown r sid x = some (move, output)) :
    ∃ c', Chain.system (conf ∘ r.node) sid c move = (output, some c') ∧
      (x.post.IsSound ∧ x.post.Shows r sid c') ∧
      (∀ e, move.evt = .msg e → (move.place, e.ntlpMsg) ∈ c.mail) ∧
      IsProper move.d move.evt := by
  have hreaction := isReaction hR.1 hstep
  rw [shown] at hshown
  split_ifs at hshown with htarget
  rcases Option.map_eq_some_iff.mp hshown with ⟨p, hp, heq⟩
  cases heq
  have hplace := (r.place?_eq_some _ _).mp hp
  have hs := hG htarget
  rcases hR.2.of_shown hhop hreaction hR.1 htarget hs hplace with ⟨c', hsystem, hshows⟩
  refine ⟨c', hsystem, ⟨hreaction.isSound hR.1, hshows⟩, ?_, hs.proper⟩
  intro e he
  rcases hR.2.mem_mail (hs.delivered e he) (sid_of_target? htarget he) with ⟨q, hq, hmem⟩
  cases r.node_injective (hq.trans hplace.symm)
  exact hmem

/-- A run of the network, with the run of the path of a session that it shows. -/
theorem simulated_of_run [DecidableEq ν]
    (hhop : ∀ p m, m.sid = sid → hop (r.node p) m = r.node (p.hop m))
    {trace : List (NetworkStep ν α)} (hrun : Transition.Run (system conf hop) start trace w)
    (hserves : ∀ x ∈ trace, target? x = some sid → Serves conf r x) :
    ∃ trace' c, Chain.PathRun (conf ∘ r.node) sid trace' c ∧ (w.IsSound ∧ w.Shows r sid c) ∧
      trace'.map (fun x => (x.input, x.output)) = trace.filterMap (shown r sid) := by
  have hsilent : ∀ (x : NetworkStep ν α) (c : Chain α n), x.pre.IsSound ∧ x.pre.Shows r sid c →
      (target? x = some sid → Serves conf r x) →
      system conf hop x.pre x.input = (x.output, some x.post) → shown r sid x = none →
      x.post.IsSound ∧ x.post.Shows r sid c := by
    intro x c hR hG hstep hshown
    have hreaction := isReaction hR.1 hstep
    exact ⟨hreaction.isSound hR.1, hR.2.of_silent hreaction hR.1 hG hshown⟩
  rcases hrun.simulated (Chain.system (conf ∘ r.node) sid)
    (fun _ w c => w.IsSound ∧ w.Shows r sid c)
    (fun x => target? x = some sid → Serves conf r x)
    (fun x => (∀ e, x.input.evt = .msg e → (x.input.place, e.ntlpMsg) ∈ x.pre.mail) ∧
      IsProper x.input.d x.input.evt) (shown r sid) (fun _ => hsilent)
    (fun _ => shown_step hhop) ⟨isSound_start, shows_start⟩ hserves with
    ⟨trace', c, hpath, hR, hmet, hmap⟩
  exact ⟨trace', c, ⟨hpath, fun x hx => (hmet x hx).1, fun x hx => (hmet x hx).2⟩, hR, hmap⟩

/-- In every run of a network, whatever happens in its other sessions: what is done for a
session, whose messages follow a path, is a run of this path. -/
theorem pathRun_of_run [DecidableEq ν]
    (hhop : ∀ p m, m.sid = sid → hop (r.node p) m = r.node (p.hop m))
    {trace : List (NetworkStep ν α)} (hrun : Transition.Run (system conf hop) start trace w)
    (hserves : ∀ x ∈ trace, target? x = some sid → Serves conf r x) :
    ∃ trace' c, Chain.PathRun (conf ∘ r.node) sid trace' c ∧ w.Shows r sid c ∧
      trace'.map (fun x => (x.input, x.output)) = trace.filterMap (shown r sid) := by
  rcases simulated_of_run hhop hrun hserves with ⟨trace', c, hpath, hR, hmap⟩
  exact ⟨trace', c, hpath, hR.2, hmap⟩

/-! ## Sessions do not mix -/

/-- The user of the initiator requested an object when the session was drawn. -/
def Requested (r : Route ν n) (sid : SessionId) (trace : List (NetworkStep ν α))
    (o : MspecObject α) : Prop :=
  ∃ y ∈ trace, target? y = some sid ∧ r.node .ni = y.input.node ∧
    ∃ e, y.input.event.evt = .apiCreate e ∧ o ∈ e.mspecObjects.values

/-- What a step of the path of a session shows was a step of the network. -/
theorem requested_of_shown {trace : List (NetworkStep ν α)}
    {trace' : List (Chain.PathStep α n)} {o : MspecObject α}
    (hmap : trace'.map (fun x => (x.input, x.output)) = trace.filterMap (shown r sid))
    (h : Chain.Requested trace' o) : Requested r sid trace o := by
  rcases h with ⟨y, hy, e, hplace, hevt, ho⟩
  have hmem : (y.input, y.output) ∈ trace.filterMap (shown r sid) :=
    hmap ▸ List.mem_map_of_mem hy
  rcases List.mem_filterMap.mp hmem with ⟨x, hx, hshown⟩
  rw [shown] at hshown
  split_ifs at hshown with htarget
  rcases Option.map_eq_some_iff.mp hshown with ⟨p, hp, heq⟩
  rcases Prod.mk.inj heq with ⟨hmove, _⟩
  rw [← hmove] at hplace hevt
  exact ⟨x, hx, htarget, hplace ▸ (r.place?_eq_some _ _).mp hp, e, hevt, ho⟩

/-- In every run of a network each object that some node hands to its installer for a session
is one that the user of the initiator requested for this session. -/
theorem requested_of_session [DecidableEq ν]
    (hhop : ∀ p m, m.sid = sid → hop (r.node p) m = r.node (p.hop m))
    {before later : List (NetworkStep ν α)}
    (hrun : Transition.Run (system conf hop) start (before ++ x :: later) w)
    (hserves : ∀ y ∈ before ++ x :: later, target? y = some sid → Serves conf r y)
    (htarget : target? x = some sid) {o : MspecObject α}
    (ho : (∃ objects, .check objects ∈ x.output ∧ o ∈ objects.values) ∨
      ∃ rule, .installAuctionRules rule ∈ x.output ∧ o ∈ rule.objectRequests.values) :
    Requested r sid (before ++ [x]) o := by
  rw [← List.singleton_append, ← List.append_assoc] at hrun hserves
  rcases hrun.of_append with ⟨w', hprefix⟩
  have hserves' : ∀ y ∈ before ++ [x], target? y = some sid → Serves conf r y :=
    fun y hy => hserves y (List.mem_append_left _ hy)
  rcases hprefix.last with ⟨hbefore, hstep, _⟩
  rcases simulated_of_run hhop hbefore (fun y hy => hserves' y (List.mem_append_left _ hy)) with
    ⟨_, c, _, hR, _⟩
  have hserved := hserves' x (List.mem_append_right _ (List.mem_singleton_self x)) htarget
  rcases simulated_of_run hhop hprefix hserves' with ⟨trace', c', hpath, _, hmap⟩
  cases hplace : r.place? x.input.node with
  | none =>
      have houtput := (hR.2.output_of_elsewhere (isReaction hR.1 hstep) htarget hserved hplace).2
      rcases ho with ⟨objects, hcheck, _⟩ | ⟨rule, hinstall, _⟩
      · rcases houtput _ hcheck with ⟨_, heq⟩
        cases heq
      · rcases houtput _ hinstall with ⟨_, heq⟩
        cases heq
  | some p =>
      have hshown : shown r sid x =
          some (⟨p, x.input.env.dispatcher, x.input.env.random, x.input.event.evt⟩,
            x.output) := by
        rw [shown, if_pos htarget, hplace]
        rfl
      apply requested_of_shown hmap
      rw [List.filterMap_append, List.filterMap_cons_some hshown] at hmap
      rcases List.eq_nil_or_concat trace' with rfl | ⟨before', x', rfl⟩
      · simp at hmap
      · rw [List.concat_eq_append] at hpath hmap ⊢
        rw [List.map_append] at hmap
        rcases List.append_inj' hmap rfl with ⟨_, hlast⟩
        rcases Prod.mk.inj (List.cons.inj hlast).1 with ⟨_, houtput⟩
        have hfrom := Chain.from_of_run hpath
        rw [houtput] at hfrom
        rcases ho with ⟨objects, hcheck, ho⟩ | ⟨rule, hinstall, ho⟩
        · exact Chain.requested_of_sources (hfrom _ hcheck o ho)
        · exact Chain.requested_of_sources (hfrom _ hinstall o ho)

end Network

/-! ### Two nodes, one session on each -/

namespace TwoNodes

open Sample hiding conf request create arrival
open Checked LostResponse Bystander AuctionedObject FailingInstaller

/-- Both nodes are configured alike. -/
abbrev nodeConfs : Bool → AnslpConfig :=
  fun _ => conf

/-- The session between the two nodes. -/
def route : Route Bool 0 where
  node
    | .ni => false
    | .nr => true
    | .nf i => i.elim0
  place? v := if v then some .nr else some .ni
  place?_eq_some v p := by
    cases p with
    | nf i => exact i.elim0
    | ni | nr => cases v <;> simp

/-- Messages go to the second node, and back to the first one. -/
def hop (_ : Bool) (m : NtlpMsg RawIpap) : Bool :=
  m.routingInfo.getDownstream

theorem hop_node (p : Place 0) (m : NtlpMsg RawIpap) (_ : m.sid = 1) :
    hop (route.node p) m = route.node (p.hop m) := by
  cases p with
  | nf i => exact i.elim0
  | ni | nr => cases hm : m.routingInfo.getDownstream <;> simp [hop, Place.hop, hm] <;> rfl

theorem isAddressed_request : (Event.apiCreate AuctionedObject.request).IsAddressed none :=
  rfl

/-- A user of the first node asks for the session. -/
def creation : NodeEvent RawIpap :=
  ⟨none, .apiCreate AuctionedObject.request, isAddressed_request⟩

/-- Its CREATE arrives at the second node. -/
def arriving : NodeEvent RawIpap :=
  ⟨some 1, .msg AuctionedObject.arrival, Event.isAddressed_msg _⟩

/-- A node with one session. -/
def single (s : AnySession RawIpap) : SessionManager RawIpap :=
  ⟨[s], OrderedMap.empty.insert 1 0, [], [], []⟩

/-- The CREATE is sent. -/
def sent : Network Bool RawIpap where
  nodes := Function.update (fun _ => .empty) false (single (.ni AuctionedObject.sent.ni))
  mail := [(true, create.ntlpMsg)]

/-- The responder has the object checked. -/
def checking : Network Bool RawIpap where
  nodes := Function.update sent.nodes true (single (.nr responder))
  mail := sent.mail

theorem run_checking : ∃ effects : List (Effect RawIpap),
    Transition.Run (Network.system nodeConfs hop) .start
      ([⟨.start, ⟨false, calm, creation⟩, effects, sent⟩] ++
        [⟨sent, ⟨true, calm, arriving⟩, [.check objects, .startTimer 1 30], checking⟩])
      checking := by
  have hstart : Transition.Run (Network.system nodeConfs hop) .start [] .start := .nil
  have hsent := hstart.snoc
    (rfl : Network.system nodeConfs hop .start ⟨false, calm, creation⟩ = (_, some sent))
  have hchecking := hsent.snoc
    (rfl : Network.system nodeConfs hop sent ⟨true, calm, arriving⟩ =
      ([.check objects, .startTimer 1 30], some checking))
  exact ⟨_, hchecking⟩

theorem serves_creation {effects : List (Effect RawIpap)} :
    Network.Serves nodeConfs route ⟨.start, ⟨false, calm, creation⟩, effects, sent⟩ where
  delivered _ h := by cases h
  suits p hp := by
    cases p with
    | ni => exact rfl
    | nf i => exact i.elim0
    | nr => cases hp
  drawn _ _ := rfl
  proper := isProper_surroundings (fun _ h => by cases h) fun _ h => by cases h

theorem serves_arriving {effects : List (Effect RawIpap)} :
    Network.Serves nodeConfs route ⟨sent, ⟨true, calm, arriving⟩, effects, checking⟩ where
  delivered _ h := by
    cases h
    exact List.mem_singleton_self _
  suits p hp := by
    cases p with
    | ni => cases hp
    | nf i => exact i.elim0
    | nr => exact rfl
  drawn _ h := by cases h
  proper := isProper_arrival

/-- What the two nodes do is a run of the path. -/
theorem pathRun_twoNodes : ∃ trace trace' c,
    Transition.Run (Network.system nodeConfs hop) .start trace checking ∧
      Chain.PathRun (nodeConfs ∘ route.node) 1 trace' c ∧ checking.Shows route 1 c ∧
      trace'.map (fun x => (x.input, x.output)) = trace.filterMap (Network.shown route 1) := by
  rcases run_checking with ⟨effects, hrun⟩
  rcases Network.pathRun_of_run hop_node hrun (List.forall_mem_cons.mpr
    ⟨fun _ => serves_creation, List.forall_mem_singleton.mpr fun _ => serves_arriving⟩) with
    ⟨trace', c, hpath⟩
  exact ⟨_, trace', c, hrun, hpath⟩

/-- The object that the responder has checked was requested at the first node. -/
theorem requested_twoNodes : ∃ before : List (Network.NetworkStep Bool RawIpap),
    Transition.Run (Network.system nodeConfs hop) .start
      (before ++ [⟨sent, ⟨true, calm, arriving⟩, [.check objects, .startTimer 1 30], checking⟩])
      checking ∧
    Network.Requested route 1
      (before ++ [⟨sent, ⟨true, calm, arriving⟩, [.check objects, .startTimer 1 30], checking⟩])
      object := by
  rcases run_checking with ⟨effects, hrun⟩
  exact ⟨_, hrun, Network.requested_of_session hop_node hrun (List.forall_mem_cons.mpr
    ⟨fun _ => serves_creation, List.forall_mem_singleton.mpr fun _ => serves_arriving⟩) rfl
    (Or.inl ⟨objects, List.mem_cons_self, List.mem_singleton_self object⟩)⟩

end TwoNodes
end Anslp
