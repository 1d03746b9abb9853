import Anslp.Node.Mapper
import Anslp.Node.Network

/-!
# A network on the wire

Any number of nodes, each with its table of sessions, and between them nothing but what is
handed to GIST: the bytes of messages, with their session and their routing.  The messages are
routed in any way, are lost, delayed and delivered again.  A node goes on as long as its calls
are defined, the building of its messages among them.  {lit}`missing` says what becomes of a
message that lacks an object of its class, such as a RESPONSE that reports an error: without a
number its building is not defined.

Main results:

- Theorem {lit}`Wire.arrives_of_run`: whatever is delivered is read as the message that was
  sent.
- Theorem {lit}`Wire.isSuccess_of_run`: with defined calls only, every RESPONSE that is sent
  reports success.
- Theorem {lit}`Wire.staysWithin_of_run`: no object gets from one session into another one, and
  none is invented.
- Theorem {lit}`Wire.networkRun_of_run`: every run on the wire is a run of the network of
  messages.

Current gaps:

- A message is handed to GIST as a whole; fragmentation is not modelled.
-/

namespace Anslp

/-! ## Lists of results -/

section

variable {ε β γ : Type} {f : β → Except ε γ} {R : β → γ → Prop} {xs : List β} {ys : List γ}

/-- Results that are computed one by one are those of the elements. -/
theorem forall₂_of_mapM (h : xs.mapM f = .ok ys) :
    List.Forall₂ (fun x y => f x = .ok y) xs ys := by
  induction xs generalizing ys with
  | nil =>
      cases h
      exact .nil
  | cons x xs ih =>
      rw [List.mapM_cons] at h
      cases hx : f x with
      | error e =>
          rw [hx] at h
          cases h
      | ok y =>
          cases hrest : xs.mapM f with
          | error e =>
              rw [hx, hrest] at h
              cases h
          | ok rest =>
              rw [hx, hrest] at h
              cases h
              exact .cons hx (ih hrest)

theorem exists_of_mem_right (h : List.Forall₂ R xs ys) : ∀ y ∈ ys, ∃ x ∈ xs, R x y := by
  induction h with
  | nil => exact List.forall_mem_nil _
  | @cons x y xs ys hxy _ ih =>
      refine List.forall_mem_cons.mpr ⟨⟨x, List.mem_cons_self, hxy⟩, ?_⟩
      intro z hz
      rcases ih z hz with ⟨u, hu, hrel⟩
      exact ⟨u, List.mem_cons_of_mem _ hu, hrel⟩

theorem exists_of_mem_left (h : List.Forall₂ R xs ys) : ∀ x ∈ xs, ∃ y ∈ ys, R x y :=
  exists_of_mem_right h.flip

end

/-! ## Where the objects of any session come from -/

/-- An event from the sources of a session: its message, what is installed, what is bid and
what is requested. -/
structure Event.ComesFrom {α : Type} (S : Sources α) (own : MspecObject α → Prop)
    (evt : Event α) : Prop where
  message : evt.From S own
  bid : evt.BidsFrom S
  decoded : evt.IsDecoded
  create : ∀ e, evt = .apiCreate e →
    ∀ a, (∀ o ∈ a.mspecObjects, o ∈ e.mspecObjects.values) → S.create a

namespace AnySession

variable {α : Type} {S T : Sources α} {own own' : MspecObject α → Prop} {conf : AnslpConfig}
  {d : Dispatcher α} {s s' : AnySession α} {evt : Event α} {effects : List (Effect α)}

/-- What a session stores is from the sources. -/
def From (S : Sources α) (own : MspecObject α → Prop) : AnySession α → Prop
  | ni s => s.From S own
  | nf s => s.From S own
  | nr s => s.From S own

theorem From.mono (hs : s.From S own) (h : S.Le T) (hown : ∀ o, own o → own' o) :
    s.From T own' := by
  cases s with
  | ni s => exact NiSession.From.mono hs h hown
  | nf s => exact NfSession.From.mono hs h hown
  | nr s => exact NrSession.From.mono hs h hown

/-- The CREATEs that an initiator sends for the request of a user are made for it. -/
theorem sendsCreates (hevt : evt.ComesFrom S own) (s : NiSession α) :
    NiSession.SendsCreates S evt (s.processEvent d evt).effects := by
  intro e m a he hm ha _
  have hsent : m ∈ (s.processEvent d evt).sent := List.mem_filterMap.mpr ⟨_, hm, rfl⟩
  rw [he] at hsent
  exact hevt.create e he a (NiSession.objects_of_sent hsent ha)

theorem From.of_next (h : s.From S own) (hevt : evt.ComesFrom S own)
    (hnext : s.processEvent conf d evt = .next s' effects) (hopen : s'.isFinal = false) :
    s'.From S own := by
  cases s with
  | ni s =>
      rcases Outcome.map_eq_next hnext with ⟨t, ht, rfl⟩
      have hsends := sendsCreates (d := d) hevt s
      rw [ht] at hsends
      exact NiSession.From.transits h hevt.message hsends (NiSession.transits_of_processEvent ht)
        (of_decide_eq_false hopen)
  | nf s =>
      rcases Outcome.map_eq_next hnext with ⟨t, ht, rfl⟩
      exact NfSession.From.transits h hevt.message hevt.decoded
        (NfSession.transits_of_processEvent ht)
  | nr s =>
      rcases Outcome.map_eq_next hnext with ⟨t, ht, rfl⟩
      exact NrSession.From.transits h hevt.message (NrSession.transits_of_processEvent ht)

/-- All that a session does is from the sources. -/
theorem From.doesOnly (h : s.From S own) (hevt : evt.ComesFrom S own)
    (hown : ∀ o, own o → S.installed o) :
    ∀ effect ∈ (s.processEvent conf d evt).effects, effect.From S own := by
  cases s with
  | ni s =>
      rw [processEvent, Outcome.effects_map]
      exact NiSession.From.doesOnly h hevt.message hevt.bid (sendsCreates hevt s)
  | nf s =>
      rw [processEvent, Outcome.effects_map]
      exact NfSession.From.doesOnly h hevt.message hevt.decoded hown
  | nr s =>
      rw [processEvent, Outcome.effects_map]
      exact NrSession.From.doesOnly h hevt.message hevt.bid hown

end AnySession

namespace Sessions

variable {α : Type} {conf : AnslpConfig} {env : Surroundings α} {n : NodeEvent α}
  {sid : SessionId} {t : AnySession α} {S : Sources α} {own : MspecObject α → Prop}
  {I J : AnySession α → Prop} {P R : Effect α → Prop}

theorem from_start (h : start conf env n sid = some t) : t.From S own := by
  unfold start at h
  split at h
  · cases h
    exact NiSession.from_new _ _ _
  · split_ifs at h
    · cases h
      exact NrSession.from_new _ _ _
    · cases h
      exact NfSession.from_new _
  · cases h

/-- An event from the sources leaves a session with what is from the sources. -/
theorem keeps_from (hevt : n.evt.ComesFrom S own) (hown : ∀ o, own o → S.installed o) :
    Keeps conf env n sid (AnySession.From S own) (Effect.From S own) where
  start _ := from_start
  next _ _ _ _ h := h.of_next hevt
  does _ _ h := h.doesOnly hevt hown
  unread _ _ := NtlpMsg.from_createResponse _ _ _
  routed _ := trivial

theorem Keeps.and (h : Keeps conf env n sid I P) (h' : Keeps conf env n sid J R) :
    Keeps conf env n sid (fun t => I t ∧ J t) fun effect => P effect ∧ R effect where
  start t ht := ⟨h.start t ht, h'.start t ht⟩
  next hhandled t t' effects ht hnext hopen :=
    ⟨h.next hhandled t t' effects ht.1 hnext hopen, h'.next hhandled t t' effects ht.2 hnext hopen⟩
  does hhandled t ht effect heffect :=
    ⟨h.does hhandled t ht.1 effect heffect, h'.does hhandled t ht.2 effect heffect⟩
  unread e he := ⟨h.unread e he, h'.unread e he⟩
  routed mri := ⟨h.routed mri, h'.routed mri⟩

end Sessions

/-! ## The network -/

/-- All nodes, each with its sessions, and all that was handed to GIST so far, with the nodes
it is for. -/
structure Wire (ν α : Type) where
  nodes : ν → SessionManager α
  mail : List (ν × SendMessage)

/-- The objects that an installer or a user hands to a session. -/
def Event.handedIn {α : Type} : Event α → List (MspecObject α)
  | .apiCreate e => e.mspecObjects.values
  | .apiInstall objects => objects.values
  | .apiBidding e => e.mspecObjects.values
  | _ => []

namespace Wire

open GistkaMapper

/-- A node takes a message out of its queue. -/
structure Input (ν α : Type) where
  node : ν
  env : Surroundings α
  message : QueuedMsg α

/-- A recorded step of a network. -/
abbrev WireStep (ν α : Type) :=
  Transition.Step (Wire ν α) (Input ν α) (List (Effect α))

section

variable {ν α : Type}

/-- No node has a session. -/
def start : Wire ν α where
  nodes := fun _ => .empty
  mail := []

/-- A user or an installer has handed an event to a session. -/
def Handed (trace : List (WireStep ν α)) (sid : SessionId) (P : ν → Event α → Prop) : Prop :=
  ∃ x ∈ trace, ∃ n, x.input.message = .event n ∧
    (x.pre.nodes x.input.node).target? x.input.env n = some sid ∧ P x.input.node n.evt

/-- A user requested an object when the session was drawn. -/
def Requested (trace : List (WireStep ν α)) (sid : SessionId) (o : MspecObject α) : Prop :=
  Handed trace sid fun _ evt => ∃ e, evt = .apiCreate e ∧ o ∈ e.mspecObjects.values

/-- The installer of a node reported that it installed an object for the session. -/
def InstalledAt (trace : List (WireStep ν α)) (v : ν) (sid : SessionId) (o : MspecObject α) :
    Prop :=
  Handed trace sid fun u evt => u = v ∧ ∃ objects, evt = .apiInstall objects ∧ o ∈ objects.values

/-- A user bid an object in the session. -/
def Bid (trace : List (WireStep ν α)) (sid : SessionId) (o : MspecObject α) : Prop :=
  Handed trace sid fun _ evt => ∃ e, evt = .apiBidding e ∧ o ∈ e.mspecObjects.values

end

variable {ν α : Type} [IpapMessage α]

/-- One message at one node after the other.  {lit}`hop` is the node that GIST takes a message
to.  Each node has its own configuration. -/
def system [DecidableEq ν] (conf : ν → AnslpConfig) (missing : Option Nat)
    (hop : ν → SendMessage → ν) :
    Transition.System (Wire ν α) (Input ν α) (List (Effect α)) :=
  fun w x =>
    match mapToEvent x.message with
    | .error _ => ([], none)
    | .ok none => ([], some w)
    | .ok (some n) =>
        match (w.nodes x.node).process (conf x.node) x.env n with
        | .error _ => ([], none)
        | .ok (m, effects) =>
            match (effects.filterMap Effect.sent?).mapM (createApiMsg missing) with
            | .error _ => ([], none)
            | .ok sent =>
                (effects, some
                  { nodes := Function.update w.nodes x.node m
                    mail := w.mail ++ sent.map fun s => (hop x.node s, s) })

/-- A step of a closed network: GIST delivers what some node handed to it for this node, users
and installers send no messages of the protocol, and the header of an object has room for the
length of what they hand in. -/
structure Genuine (x : WireStep ν α) : Prop where
  delivered : ∀ m data, x.input.message = .api m → m.subtype = .recvMessage →
    m.data = some data → ∃ s, (x.input.node, s) ∈ x.pre.mail ∧ Delivers m s
  queued : ∀ n e, x.input.message = .event n → n.evt ≠ .msg e
  fits : ∀ n, x.input.message = .event n → ∀ o ∈ n.evt.handedIn, Fits o

/-- What the steps so far allow the objects of a session to be. -/
def sources (trace : List (WireStep ν α)) (sid : SessionId) : Sources α where
  create b := ∀ o ∈ b.mspecObjects, Fits o ∧ Requested trace sid o
  installed o := Fits o ∧ ∃ v, InstalledAt trace v sid o
  bid o := Fits o ∧ Bid trace sid o

/-- What an installer has installed for a session at its node. -/
def own (trace : List (WireStep ν α)) (v : ν) (sid : SessionId) (o : MspecObject α) : Prop :=
  Fits o ∧ InstalledAt trace v sid o

/-! ## More steps allow more -/

section

variable {trace : List (WireStep ν α)} {x : WireStep ν α} {sid : SessionId} {v : ν}
  {o : MspecObject α} {P : ν → Event α → Prop}

omit [IpapMessage α] in
theorem Handed.later (h : Handed trace sid P) : Handed (trace ++ [x]) sid P := by
  rcases h with ⟨y, hy, hhanded⟩
  exact ⟨y, List.mem_append_left _ hy, hhanded⟩

omit [IpapMessage α] in
theorem Handed.last {n : NodeEvent α} (hn : x.input.message = .event n)
    (htarget : (x.pre.nodes x.input.node).target? x.input.env n = some sid)
    (h : P x.input.node n.evt) : Handed (trace ++ [x]) sid P :=
  ⟨x, List.mem_append_right _ (List.mem_singleton_self x), n, hn, htarget, h⟩

theorem sources_le (trace : List (WireStep ν α)) (x : WireStep ν α) (sid : SessionId) :
    (sources trace sid).Le (sources (trace ++ [x]) sid) where
  create _ h o ho := ⟨(h o ho).1, (h o ho).2.later⟩
  installed _ h := by
    rcases h with ⟨hfits, v, hv⟩
    exact ⟨hfits, v, hv.later⟩
  bid _ h := ⟨h.1, h.2.later⟩

theorem own_later (h : own trace v sid o) : own (trace ++ [x]) v sid o :=
  ⟨h.1, h.2.later⟩

theorem installed_of_own (h : own trace v sid o) : (sources trace sid).installed o :=
  ⟨h.1, v, h.2⟩

theorem requested_of_sources (h : (sources trace sid).Requested o) : Requested trace sid o := by
  rcases h with ⟨b, hb, ho⟩
  exact (hb o ho).2

omit [IpapMessage α] in
/-- A class that writes no IPAP message objects is built without any. -/
theorem mspecObjects_of_isLaidOut {a : AnslpMsg α} (h : a.IsLaidOut)
    (hwrites : AnslpMsg.writesIpaps a.kind = false) : a.mspecObjects = [] := by
  rcases h with ⟨v, hview, _, hipaps⟩ | ⟨htrue, _⟩
  · rw [hview.mspecObjects, hipaps hwrites]
    rfl
  · cases hwrites.symm.trans htrue

/-- The objects of all that is sent fit. -/
theorem fits_of_from {a : AnslpMsg α} (hsendable : a.Sendable)
    (hfrom : a.From (sources trace sid)) : ∀ o ∈ a.mspecObjects, Fits o := by
  intro o ho
  cases hkind : a.kind with
  | create =>
      rw [AnslpMsg.From, hkind] at hfrom
      rcases hfrom with ⟨b, hb, hcopy⟩
      exact (hb o (hcopy.objects ▸ ho)).1
  | response =>
      rw [AnslpMsg.From, hkind] at hfrom
      exact (hfrom o ho).1
  | bidding =>
      rw [AnslpMsg.From, hkind] at hfrom
      exact (hfrom o ho).1
  | refresh | notify =>
      rw [mspecObjects_of_isLaidOut hsendable.built.laidOut (by rw [hkind]; rfl)] at ho
      cases ho

end

/-! ## One step -/

section

variable [DecidableEq ν] {conf : ν → AnslpConfig} {missing : Option Nat}
  {hop : ν → SendMessage → ν} {w w' : Wire ν α} {input : Input ν α} {output : List (Effect α)}

/-- A node processes the event that its message is mapped to. -/
theorem processes_of_event {n : NodeEvent α} (hmap : mapToEvent input.message = .ok (some n))
    (hstep : system conf missing hop w input = (output, some w')) :
    ∃ m sent, (w.nodes input.node).process (conf input.node) input.env n = .ok (m, output) ∧
      (output.filterMap Effect.sent?).mapM (createApiMsg missing) = .ok sent ∧
      w' = { nodes := Function.update w.nodes input.node m
             mail := w.mail ++ sent.map fun s => (hop input.node s, s) } := by
  rw [system, hmap] at hstep
  dsimp only at hstep
  split at hstep
  · cases hstep
  · rename_i m effects hprocess
    split at hstep
    · cases hstep
    · rename_i sent hsent
      cases hstep
      exact ⟨m, sent, hprocess, hsent, rfl⟩

/-- A step does nothing, or a node processes an event and hands over what is sent for it. -/
theorem step_cases (hstep : system conf missing hop w input = (output, some w')) :
    (output = [] ∧ w' = w) ∨
      ∃ n m sent, mapToEvent input.message = .ok (some n) ∧
        (w.nodes input.node).process (conf input.node) input.env n = .ok (m, output) ∧
        (output.filterMap Effect.sent?).mapM (createApiMsg missing) = .ok sent ∧
        w' = { nodes := Function.update w.nodes input.node m
               mail := w.mail ++ sent.map fun s => (hop input.node s, s) } := by
  cases hmap : mapToEvent input.message with
  | error e =>
      rw [system, hmap] at hstep
      cases hstep
  | ok event =>
      cases event with
      | none =>
          rw [system, hmap] at hstep
          cases hstep
          exact .inl ⟨rfl, rfl⟩
      | some n =>
          rcases processes_of_event hmap hstep with ⟨m, sent, hprocessed⟩
          exact .inr ⟨n, m, sent, rfl, hprocessed⟩

end

end Wire

theorem Event.comesFrom_of_isPlain {α : Type} {S : Sources α} {own : MspecObject α → Prop}
    {evt : Event α} (h : evt.IsPlain) : evt.ComesFrom S own := by
  cases evt with
  | timer | routeChangedBad | noNextNodeFound | routingStateCheck =>
      exact ⟨trivial, trivial, trivial, fun _ he => by cases he⟩
  | _ => exact h.elim

/-! ## All runs -/

namespace Wire

open GistkaMapper

variable {ν α : Type} [IpapMessage α] {conf : ν → AnslpConfig} {missing : Option Nat}
  {hop : ν → SendMessage → ν} {trace : List (WireStep ν α)} {x : WireStep ν α} {w w' : Wire ν α}
  {sid : SessionId}

/-- What is known after the steps of a run: what a session stores is its own, may be sent and
comes from its sources, as does all that was sent; and all that is on its way was sent. -/
structure Sound (missing : Option Nat) (hop : ν → SendMessage → ν) (trace : List (WireStep ν α))
    (w : Wire ν α) : Prop where
  owned : ∀ v, (w.nodes v).Owned
  sessions : ∀ v sid t, (w.nodes v).opened sid = some t →
    t.Bears AnslpMsg.Sendable sid ∧ t.From (sources trace sid) (own trace v sid)
  sent : ∀ x ∈ trace, ∀ m, .sendMessage m ∈ x.output → m.Carries AnslpMsg.Sendable m.sid ∧
    m.From (sources trace m.sid) ∧ ∃ s, createApiMsg missing m = .ok s
  mail : ∀ v s, (v, s) ∈ w.mail → ∃ x ∈ trace, ∃ m, .sendMessage m ∈ x.output ∧
    createApiMsg missing m = .ok s ∧ hop x.input.node s = v

theorem sound_start : Sound missing hop [] (start : Wire ν α) where
  owned _ := SessionManager.owned_empty
  sessions v sid t ht := by
    rw [start, SessionManager.opened_empty] at ht
    cases ht
  sent _ hx := by cases hx
  mail _ _ h := by cases h

/-- A message that was sent is read wherever it is delivered. -/
theorem Sound.reads [LawfulIpapMessage α] (h : Sound missing hop trace w) (hx : x ∈ trace)
    {m : NtlpMsg α} (hm : .sendMessage m ∈ x.output) {s : SendMessage}
    (hok : createApiMsg missing m = .ok s) {apimsg : ApiMsg} (hdelivers : Delivers apimsg s) :
    mapToEvent (.api apimsg) = .ok (some (arrival m apimsg.siiHandle apimsg.finalHop)) := by
  rcases h.sent x hx m hm with ⟨hcarries, hfrom, _⟩
  apply mapToEvent_of_delivers _ hok hdelivers
  intro a ha
  rcases hcarries.body with ⟨b, hb, hsendable⟩
  cases ha.symm.trans hb
  exact ⟨hsendable.built, fits_of_from hsendable (hfrom a ha)⟩

/-- Whatever is delivered is mapped to the event of a message that was sent. -/
theorem Sound.arrives [LawfulIpapMessage α] (h : Sound missing hop trace w) {v : ν}
    {s : SendMessage} (hs : (v, s) ∈ w.mail) {apimsg : ApiMsg} (hdelivers : Delivers apimsg s) :
    ∃ x ∈ trace, ∃ m, .sendMessage m ∈ x.output ∧ hop x.input.node s = v ∧
      mapToEvent (.api apimsg) = .ok (some (arrival m apimsg.siiHandle apimsg.finalHop)) := by
  rcases h.mail v s hs with ⟨x, hx, m, hm, hok, hhop⟩
  exact ⟨x, hx, m, hm, hhop, h.reads hx hm hok hdelivers⟩

/-- The event of a step is from the sources of the session it concerns, and its message, if it
has one, could be sent again. -/
theorem Sound.comesFrom [LawfulIpapMessage α] (h : Sound missing hop trace x.pre)
    (hgenuine : Genuine x) {n : NodeEvent α} (hmap : mapToEvent x.input.message = .ok (some n))
    (htarget : (x.pre.nodes x.input.node).target? x.input.env n = some sid) :
    n.evt.ComesFrom (sources (trace ++ [x]) sid) (own (trace ++ [x]) x.input.node sid) ∧
      ∀ e a, n.evt = .msg e → e.ntlpMsg.msg = some a → a.Sendable := by
  rcases mapToEvent_cases hmap with hqueued | hplain | ⟨m, data, hq, hsubtype, hdata, hdecoded⟩
  · have hfits := hgenuine.fits n hqueued
    refine ⟨⟨?_, ?_, ?_, ?_⟩, fun e a he _ => absurd he (hgenuine.queued n e hqueued)⟩
    · cases hevt : n.evt with
      | msg e => exact absurd hevt (hgenuine.queued n e hqueued)
      | apiInstall objects =>
          rw [hevt] at hfits
          exact fun o ho => ⟨hfits o ho, .last hqueued htarget ⟨rfl, objects, hevt, ho⟩⟩
      | _ => trivial
    · cases hevt : n.evt with
      | apiBidding e =>
          rw [hevt] at hfits
          exact fun o ho => ⟨hfits o ho, .last hqueued htarget ⟨e, hevt, ho⟩⟩
      | _ => trivial
    · cases hevt : n.evt with
      | msg e => exact absurd hevt (hgenuine.queued n e hqueued)
      | _ => trivial
    · intro e hevt a ha o ho
      rw [hevt] at hfits
      exact ⟨hfits o (ha o ho), .last hqueued htarget ⟨e, hevt, ha o ho⟩⟩
  · refine ⟨Event.comesFrom_of_isPlain hplain, ?_⟩
    intro e a he
    rw [he] at hplain
    exact hplain.elim
  · rcases hgenuine.delivered m data hq hsubtype hdata with ⟨s, hs, hdelivers⟩
    rcases h.arrives hs hdelivers with ⟨y, hy, msg, hmsg, _, harrival⟩
    rw [hq, harrival] at hmap
    cases hmap
    rcases h.sent y hy msg hmsg with ⟨hcarries, hfrom, _⟩
    have hsid : msg.sid = sid := by
      have hnamed : (x.pre.nodes x.input.node).target? x.input.env
          (arrival msg m.siiHandle m.finalHop) = some msg.sid := SessionManager.target?_of_sid rfl
      exact Option.some.inj (hnamed.symm.trans htarget)
    subst hsid
    refine ⟨⟨?_, trivial, hdecoded, fun _ he => by cases he⟩, ?_⟩
    · exact fun a ha => (hfrom a ha).mono (sources_le trace x msg.sid)
    · intro e a he ha
      cases he
      rcases hcarries.body with ⟨b, hb, hsendable⟩
      cases (show msg.msg = some a from ha).symm.trans hb
      exact hsendable

/-- The session that a step concerns. -/
def target? (x : WireStep ν α) : Option SessionId :=
  match mapToEvent x.input.message with
  | .ok (some n) => (x.pre.nodes x.input.node).target? x.input.env n
  | _ => none

theorem target?_of_mapToEvent {n : NodeEvent α} (h : mapToEvent x.input.message = .ok (some n)) :
    target? x = (x.pre.nodes x.input.node).target? x.input.env n := by
  rw [target?, h]

/-! ### What is known later -/

theorem Sound.session_later (h : Sound missing hop trace w) (x : WireStep ν α) {v : ν}
    {t : AnySession α} (ht : (w.nodes v).opened sid = some t) :
    t.Bears AnslpMsg.Sendable sid ∧
      t.From (sources (trace ++ [x]) sid) (own (trace ++ [x]) v sid) := by
  rcases h.sessions v sid t ht with ⟨hbears, hfrom⟩
  exact ⟨hbears, hfrom.mono (sources_le trace x sid) fun _ => own_later⟩

theorem Sound.sent_later (h : Sound missing hop trace w) (x : WireStep ν α) {y : WireStep ν α}
    (hy : y ∈ trace) {m : NtlpMsg α} (hm : .sendMessage m ∈ y.output) :
    m.Carries AnslpMsg.Sendable m.sid ∧ m.From (sources (trace ++ [x]) m.sid) ∧
      ∃ s, createApiMsg missing m = .ok s := by
  rcases h.sent y hy m hm with ⟨hcarries, hfrom, hok⟩
  exact ⟨hcarries, hfrom.mono (sources_le trace x m.sid), hok⟩

theorem Sound.mail_later (h : Sound missing hop trace w) (x : WireStep ν α) {v : ν}
    {s : SendMessage} (hs : (v, s) ∈ w.mail) :
    ∃ y ∈ trace ++ [x], ∃ m, .sendMessage m ∈ y.output ∧ createApiMsg missing m = .ok s ∧
      hop y.input.node s = v := by
  rcases h.mail v s hs with ⟨y, hy, hsent⟩
  exact ⟨y, List.mem_append_left _ hy, hsent⟩

/-- A step without an effect leaves what is known. -/
theorem Sound.of_quiet (h : Sound missing hop trace x.pre) (houtput : x.output = [])
    (hpost : x.post = x.pre) : Sound missing hop (trace ++ [x]) x.post := by
  rw [hpost]
  refine ⟨h.owned, fun _ _ _ => h.session_later x, ?_, fun _ _ => h.mail_later x⟩
  intro y hy m hm
  rcases List.mem_append.mp hy with hy | hy
  · exact h.sent_later x hy hm
  · rw [List.mem_singleton.mp hy, houtput] at hm
    cases hm

omit [IpapMessage α] in
theorem eq_sendMessage_of_sent? {effect : Effect α} {m : NtlpMsg α}
    (h : effect.sent? = some m) : effect = .sendMessage m := by
  cases effect with
  | sendMessage m' =>
      cases h
      rfl
  | _ => cases h

/-- What a session keeps that processes the event of a step, and what it does. -/
theorem Sound.kept [LawfulIpapMessage α] (h : Sound missing hop trace x.pre) (hgenuine : Genuine x)
    {n : NodeEvent α} {m : SessionManager α} (hmap : mapToEvent x.input.message = .ok (some n))
    (hprocess : (x.pre.nodes x.input.node).process (conf x.input.node) x.input.env n =
      .ok (m, x.output)) :
    (∀ sid t, m.opened sid = some t → t.Bears AnslpMsg.Sendable sid ∧
      t.From (sources (trace ++ [x]) sid) (own (trace ++ [x]) x.input.node sid)) ∧
    ∀ effect ∈ x.output, ∃ sid, target? x = some sid ∧
      (∀ m, effect.sent? = some m → m.Carries AnslpMsg.Sendable sid) ∧
        effect.From (sources (trace ++ [x]) sid) (own (trace ++ [x]) x.input.node sid) := by
  have hreacts := (h.owned x.input.node).reacts hprocess
  rw [target?_of_mapToEvent hmap]
  apply hreacts.kept
  · intro sid htarget
    rcases h.comesFrom hgenuine hmap htarget with ⟨hfrom, hbody⟩
    exact (Sessions.keeps_bears AnslpMsg.keptBySessions_sendable
      (SessionManager.sid_of_target? htarget) hbody).and
        (Sessions.keeps_from hfrom fun _ => installed_of_own)
  · intro sid t ht
    exact h.session_later x ht

/-- A step of a closed network leaves what is known, and all that it does is from the sources of
the session that it concerns. -/
theorem Sound.step [DecidableEq ν] [LawfulIpapMessage α] (h : Sound missing hop trace x.pre)
    (hgenuine : Genuine x)
    (hstep : system conf missing hop x.pre x.input = (x.output, some x.post)) :
    Sound missing hop (trace ++ [x]) x.post ∧ ∀ effect ∈ x.output, ∃ sid, target? x = some sid ∧
      effect.From (sources (trace ++ [x]) sid) (own (trace ++ [x]) x.input.node sid) := by
  rcases step_cases hstep with ⟨houtput, hpost⟩ | ⟨n, m, sent, hmap, hprocess, hsent, hpost⟩
  · refine ⟨h.of_quiet houtput hpost, ?_⟩
    rw [houtput]
    exact List.forall_mem_nil _
  · rcases h.kept hgenuine hmap hprocess with ⟨hopened, hdone⟩
    have hresults := forall₂_of_mapM hsent
    refine ⟨⟨?_, ?_, ?_, ?_⟩, ?_⟩
    · intro v
      rw [hpost]
      by_cases hv : v = x.input.node
      · subst hv
        simp only [Function.update_self]
        exact ((h.owned _).reacts hprocess).owned
      · simp only [Function.update_of_ne hv]
        exact h.owned v
    · intro v sid t ht
      rw [hpost] at ht
      by_cases hv : v = x.input.node
      · subst hv
        simp only [Function.update_self] at ht
        exact hopened sid t ht
      · simp only [Function.update_of_ne hv] at ht
        exact h.session_later x ht
    · intro y hy msg hmsg
      rcases List.mem_append.mp hy with hy | hy
      · exact h.sent_later x hy hmsg
      · rw [List.mem_singleton.mp hy] at hmsg
        rcases hdone _ hmsg with ⟨sid, _, hcarries, hfrom⟩
        have hmine := hcarries msg rfl
        cases hmine.sid
        rcases exists_of_mem_left hresults msg (List.mem_filterMap.mpr ⟨_, hmsg, rfl⟩) with
          ⟨s, _, hok⟩
        exact ⟨hmine, hfrom, s, hok⟩
    · intro v s hs
      rw [hpost] at hs
      rcases List.mem_append.mp hs with hs | hs
      · exact h.mail_later x hs
      · rcases List.mem_map.mp hs with ⟨s', hs', heq⟩
        cases heq
        rcases exists_of_mem_right hresults s hs' with ⟨msg, hmsg, hok⟩
        rcases List.mem_filterMap.mp hmsg with ⟨effect, heffect, hsent?⟩
        cases eq_sendMessage_of_sent? hsent?
        exact ⟨x, List.mem_append_right _ (List.mem_singleton_self x), msg, heffect, hok, rfl⟩
    · intro effect heffect
      rcases hdone effect heffect with ⟨sid, htarget, _, hfrom⟩
      exact ⟨sid, htarget, hfrom⟩

theorem sound_of_run [DecidableEq ν] [LawfulIpapMessage α]
    (hrun : Transition.Run (system conf missing hop) start trace w)
    (hgenuine : ∀ x ∈ trace, Genuine x) : Sound missing hop trace w := by
  refine hrun.trace_induction
    (P := fun trace w => (∀ x ∈ trace, Genuine x) → Sound missing hop trace w)
    (fun _ => sound_start) ?_ hgenuine
  intro trace w input output w' _ ih hstep hall
  have hlast := hall ⟨w, input, output, w'⟩
    (List.mem_append_right _ (List.mem_singleton_self _))
  have hbefore := ih fun y hy => hall y (List.mem_append_left _ hy)
  exact (Sound.step hbefore hlast hstep).1

/-- In every run of a closed network: whatever GIST delivers of a message that was handed to it,
with whatever handle and flag, is mapped to the event of a message that some node has sent to
this node, and it is read in full. -/
theorem arrives_of_run [DecidableEq ν] [LawfulIpapMessage α]
    (hrun : Transition.Run (system conf missing hop) start trace w)
    (hgenuine : ∀ x ∈ trace, Genuine x) {v : ν} {s : SendMessage}
    (hs : (v, s) ∈ w.mail) {apimsg : ApiMsg} (hdelivers : Delivers apimsg s) :
    ∃ x ∈ trace, ∃ m, .sendMessage m ∈ x.output ∧ hop x.input.node s = v ∧
      mapToEvent (.api apimsg) = .ok (some (arrival m apimsg.siiHandle apimsg.finalHop)) :=
  (sound_of_run hrun hgenuine).arrives hs hdelivers

/-- In every run of a closed network whose calls are all defined by the language, each RESPONSE
that is sent reports success: one that reports an error has no lifetime to write. -/
theorem isSuccess_of_run [DecidableEq ν] [LawfulIpapMessage α]
    (hrun : Transition.Run (system conf none hop) start trace w)
    (hgenuine : ∀ x ∈ trace, Genuine x) (hx : x ∈ trace) {m : NtlpMsg α}
    (hm : .sendMessage m ∈ x.output) {a : AnslpMsg α} (ha : m.msg = some a)
    (hkind : a.kind = .response) : a.isSuccess = true := by
  rcases (sound_of_run hrun hgenuine).sent x hx m hm with ⟨hcarries, _, s, hok⟩
  rcases hcarries.body with ⟨b, hb, hsendable⟩
  cases ha.symm.trans hb
  exact isSuccess_of_createApiMsg hok ha hsendable hkind

omit [IpapMessage α] in
/-- What is done with objects of a session: those to check and to install were requested, those
to remove were installed at this node, those that the user is told of were installed at some
node, and those that an auction takes as a bid were bid by a user, all in this session. -/
def StaysWithin (trace : List (WireStep ν α)) (v : ν) (sid : SessionId) : Effect α → Prop
  | .check objects => ∀ o ∈ objects.values, Requested trace sid o
  | .installAuctionRules rule => ∀ o ∈ rule.objectRequests.values, Requested trace sid o
  | .removeAuctionRules rule => ∀ o ∈ rule.objectResponses.values, InstalledAt trace v sid o
  | .sendResponse rule => ∀ o ∈ rule.objectRequests.values, ∃ u, InstalledAt trace u sid o
  | .auctionInteraction _ rule => ∀ o ∈ rule.objectRequests.values, Bid trace sid o
  | _ => True

theorem staysWithin_of_from {v : ν} {effect : Effect α}
    (h : effect.From (sources trace sid) (own trace v sid)) : StaysWithin trace v sid effect := by
  cases effect with
  | check objects => exact fun o ho => requested_of_sources (h o ho)
  | installAuctionRules rule => exact fun o ho => requested_of_sources (h o ho)
  | removeAuctionRules rule => exact fun o ho => (h o ho).2
  | sendResponse rule => exact fun o ho => (h o ho).2
  | auctionInteraction server rule => exact fun o ho => (h o ho).2
  | sendMessage | startTimer | reportAsyncEvent | enqueue | receiveAnswer => trivial

/-- In every run of a closed network, whatever the ways of its messages: no object gets from one
session into another one, and none is invented on the way. -/
theorem staysWithin_of_run [DecidableEq ν] [LawfulIpapMessage α]
    {before later : List (WireStep ν α)}
    (hrun : Transition.Run (system conf missing hop) start (before ++ x :: later) w)
    (hgenuine : ∀ y ∈ before ++ x :: later, Genuine y) :
    ∀ effect ∈ x.output, ∃ sid, target? x = some sid ∧
      StaysWithin (before ++ [x]) x.input.node sid effect := by
  rw [← List.singleton_append, ← List.append_assoc] at hrun hgenuine
  rcases hrun.of_append with ⟨w', hprefix⟩
  rcases hprefix.last with ⟨hbefore, hstep, _⟩
  have hall : ∀ y ∈ before ++ [x], Genuine y := fun y hy =>
    hgenuine y (List.mem_append_left _ hy)
  have hsound := sound_of_run hbefore fun y hy => hall y (List.mem_append_left _ hy)
  intro effect heffect
  rcases (hsound.step (hall x (List.mem_append_right _ (List.mem_singleton_self x))) hstep).2
    effect heffect with ⟨sid, htarget, hfrom⟩
  exact ⟨sid, htarget, staysWithin_of_from hfrom⟩

/-! ## The network of messages -/

/-- What a step shows: the event that its message is mapped to. -/
def shown (x : WireStep ν α) : Option (Occurrence ν α × List (Effect α)) :=
  match mapToEvent x.input.message with
  | .ok (some n) => some (⟨x.input.node, x.input.env, n⟩, x.output)
  | _ => none

/-- The node that a message is for: the one that GIST takes its bytes to. -/
def hopOf (missing : Option Nat) (hop : ν → SendMessage → ν) (v : ν) (m : NtlpMsg α) : ν :=
  match createApiMsg missing m with
  | .ok s => hop v s
  | .error _ => v

/-- The same sessions, and the bytes of the same messages. -/
structure Represents (missing : Option Nat) (w : Wire ν α) (u : Network ν α) : Prop where
  nodes : u.nodes = w.nodes
  mail : List.Forall₂ (fun a b => a.1 = b.1 ∧ createApiMsg missing a.2 = .ok b.2) u.mail w.mail

/-- The message of an event was sent to its node, with some handle of a link. -/
def Received (y : Network.NetworkStep ν α) : Prop :=
  ∀ e, y.input.event.evt = .msg e → ∃ m, (y.input.node, m) ∈ y.pre.mail ∧
    e.ntlpMsg = { m with siiHandle := e.ntlpMsg.siiHandle }

/-- What is known of a network of messages next to one on the wire. -/
structure Refines (missing : Option Nat) (hop : ν → SendMessage → ν)
    (trace : List (WireStep ν α)) (w : Wire ν α) (u : Network ν α) : Prop where
  sound : Sound missing hop trace w
  represents : w.Represents missing u
  sent : ∀ a ∈ u.mail, ∃ x ∈ trace, .sendMessage a.2 ∈ x.output

theorem refines_start : Refines missing hop [] (start : Wire ν α) .start where
  sound := sound_start
  represents := ⟨rfl, .nil⟩
  sent := List.forall_mem_nil _

/-- The message that is read out of what is delivered is one that was sent. -/
theorem Refines.received [LawfulIpapMessage α] {u : Network ν α}
    (h : Refines missing hop trace x.pre u) (hgenuine : Genuine x) {n : NodeEvent α}
    (hmap : mapToEvent x.input.message = .ok (some n)) {e : MsgEvent α} (he : n.evt = .msg e) :
    ∃ m, (x.input.node, m) ∈ u.mail ∧ e.ntlpMsg = { m with siiHandle := e.ntlpMsg.siiHandle } := by
  rcases mapToEvent_cases hmap with hqueued | hplain | ⟨m, data, hq, hsubtype, hdata, _⟩
  · exact absurd he (hgenuine.queued n e hqueued)
  · rw [he] at hplain
    exact hplain.elim
  · rcases hgenuine.delivered m data hq hsubtype hdata with ⟨s, hs, hdelivers⟩
    rcases exists_of_mem_right h.represents.mail _ hs with ⟨⟨v, msg⟩, hmem, hv, hok⟩
    rcases h.sent _ hmem with ⟨y, hy, hsent⟩
    have hread := h.sound.reads hy hsent hok hdelivers
    rw [hq, hread] at hmap
    cases hmap
    cases he
    cases hv
    exact ⟨msg, hmem, rfl⟩

/-- What a node makes of an event is what it makes of it in the network of messages. -/
theorem Refines.of_processed [DecidableEq ν] {u : Network ν α} {n : NodeEvent α}
    {m : SessionManager α} {sent : List SendMessage} (h : Refines missing hop trace x.pre u)
    (hsound : Sound missing hop (trace ++ [x]) x.post)
    (hprocess : (x.pre.nodes x.input.node).process (conf x.input.node) x.input.env n =
      .ok (m, x.output))
    (hsent : (x.output.filterMap Effect.sent?).mapM (createApiMsg missing) = .ok sent)
    (hpost : x.post =
      { nodes := Function.update x.pre.nodes x.input.node m
        mail := x.pre.mail ++ sent.map fun s => (hop x.input.node s, s) }) :
    ∃ u', Network.system conf (hopOf missing hop) u ⟨x.input.node, x.input.env, n⟩ =
        (x.output, some u') ∧ Refines missing hop (trace ++ [x]) x.post u' := by
  refine ⟨{ nodes := Function.update u.nodes x.input.node m
            mail := u.mail ++ (x.output.filterMap Effect.sent?).map fun a =>
              (hopOf missing hop x.input.node a, a) }, ?_, hsound, ⟨?_, ?_⟩, ?_⟩
  · simp only [Network.system, h.represents.nodes, hprocess]
  · rw [hpost, h.represents.nodes]
  · rw [hpost]
    refine List.rel_append h.represents.mail ?_
    rw [List.forall₂_map_left_iff, List.forall₂_map_right_iff]
    refine (forall₂_of_mapM hsent).imp ?_
    intro a s hok
    exact ⟨by rw [hopOf, hok], hok⟩
  · intro a ha
    rcases List.mem_append.mp ha with ha | ha
    · rcases h.sent a ha with ⟨y, hy, hmem⟩
      exact ⟨y, List.mem_append_left _ hy, hmem⟩
    · rcases List.mem_map.mp ha with ⟨b, hb, rfl⟩
      rcases List.mem_filterMap.mp hb with ⟨effect, heffect, hsent?⟩
      cases eq_sendMessage_of_sent? hsent?
      exact ⟨x, List.mem_append_right _ (List.mem_singleton_self x), heffect⟩

/-- A step without an event shows nothing. -/
theorem Refines.of_quiet [DecidableEq ν] [LawfulIpapMessage α] {u : Network ν α}
    (h : Refines missing hop trace x.pre u) (hgenuine : Genuine x)
    (hstep : system conf missing hop x.pre x.input = (x.output, some x.post))
    (hshown : shown x = none) : Refines missing hop (trace ++ [x]) x.post u := by
  have hsound := (h.sound.step hgenuine hstep).1
  rcases step_cases hstep with ⟨_, hpost⟩ | ⟨n, m, sent, hmap, _⟩
  · refine ⟨hsound, hpost ▸ h.represents, ?_⟩
    intro a ha
    rcases h.sent a ha with ⟨y, hy, hsent⟩
    exact ⟨y, List.mem_append_left _ hy, hsent⟩
  · rw [shown, hmap] at hshown
    cases hshown

/-- A step with an event is a step of the network of messages. -/
theorem Refines.simulates [DecidableEq ν] [LawfulIpapMessage α] {u : Network ν α}
    {i : Occurrence ν α} {effects : List (Effect α)} (h : Refines missing hop trace x.pre u)
    (hgenuine : Genuine x)
    (hstep : system conf missing hop x.pre x.input = (x.output, some x.post))
    (hshown : shown x = some (i, effects)) :
    ∃ u', Network.system conf (hopOf missing hop) u i = (effects, some u') ∧
      Refines missing hop (trace ++ [x]) x.post u' ∧ Received ⟨u, i, effects, u'⟩ := by
  have hsound := (h.sound.step hgenuine hstep).1
  unfold shown at hshown
  split at hshown
  · rename_i n hmap
    cases hshown
    rcases processes_of_event hmap hstep with ⟨m, sent, hprocess, hsent, hpost⟩
    rcases h.of_processed hsound hprocess hsent hpost with ⟨u', hsystem, hrefines⟩
    exact ⟨u', hsystem, hrefines, fun e he => h.received hgenuine hmap he⟩
  · cases hshown

/-- Every run of a closed network on the wire is a run of the network of messages: the nodes
have the same sessions, what was handed to GIST is what was sent there, and each message that
a node processes there was sent to it. -/
theorem networkRun_of_run [DecidableEq ν] [LawfulIpapMessage α]
    (hrun : Transition.Run (system conf missing hop) start trace w)
    (hgenuine : ∀ x ∈ trace, Genuine x) :
    ∃ trace' u, Transition.Run (Network.system conf (hopOf missing hop)) .start trace' u ∧
      w.Represents missing u ∧ (∀ y ∈ trace', Received y) ∧
      trace'.map (fun y => (y.input, y.output)) = trace.filterMap shown := by
  rcases hrun.simulated (Network.system conf (hopOf missing hop)) (Refines missing hop) Genuine
    Received shown (fun _ _ _ => Refines.of_quiet) (fun _ _ _ _ _ => Refines.simulates)
    refines_start hgenuine with ⟨trace', u, hrun', hrefines, hreceived, hmap⟩
  exact ⟨trace', u, hrun', hrefines.represents, hreceived, hmap⟩

end Wire
/-! ### Two nodes on the wire -/

namespace TwoNodes

open Sample hiding conf request create arrival
open Checked LostResponse Bystander AuctionedObject FailingInstaller
open GistkaMapper Wire

/-- Messages go to the second node, and back to the first one. -/
def takenTo (_ : Bool) (s : SendMessage) : Bool :=
  s.mri.getDownstream

/-- The bytes of the CREATE: its number, its lifetime, how often it is refreshed, its hop count
and its object. -/
def createBytes : List UInt8 :=
  [1, 0, 0, 0,
    0, 247, 0, 1, 0, 0, 0, 1,
    0, 248, 0, 1, 0, 0, 0, 30,
    0, 245, 0, 1, 0, 0, 0, 2,
    0, 246, 0, 1, 0, 0, 0, 10,
    0, 249, 0, 1, 0, 0, 0, 4]

/-- The bytes of the RESPONSE: the number of the CREATE, that it succeeded, the lifetime and the
object. -/
def responseBytes : List UInt8 :=
  [2, 0, 0, 0,
    0, 247, 0, 1, 0, 0, 0, 1,
    0, 244, 0, 1, 2, 1, 0, 0,
    0, 248, 0, 1, 0, 0, 0, 30,
    0, 249, 0, 1, 0, 0, 0, 4]

theorem length_createBytes : createBytes.length < 2 ^ 32 := by
  decide

theorem length_responseBytes : responseBytes.length < 2 ^ 32 := by
  decide

/-- What is handed to GIST for a message of the session. -/
def handed (data : NslpData) (m : NtlpMsg RawIpap) : SendMessage where
  data := data
  nslpMsgHandle := 0
  nslpId := 34
  sid := ⟨0, 0, 0, 1⟩
  mri := m.routingInfo
  siiHandle := m.siiHandle
  reliable := true
  secure := false
  timeout := 5
  ipTtl := 100
  ntlpHopCount := 10

def handedCreate : SendMessage :=
  handed ⟨createBytes, length_createBytes⟩ create.ntlpMsg

def handedResponse : SendMessage :=
  handed ⟨responseBytes, length_responseBytes⟩ response.ntlpMsg

/-- The CREATE as it is delivered. -/
def delivered : ApiMsg where
  subtype := .recvMessage
  sid := some handedCreate.sid
  data := some handedCreate.data
  adjacencyCheck := false
  mri := handedCreate.mri
  siiHandle := 0
  finalHop := true
  msgstatus := .other

theorem isAddressed_apiCheck : (Event.apiCheck objects).IsAddressed (some 1) :=
  trivial

theorem isAddressed_apiInstall : (Event.apiInstall objects).IsAddressed (some 1) :=
  trivial

/-- The installer of the second node has checked the object. -/
def checked : NodeEvent RawIpap :=
  ⟨some 1, .apiCheck objects, isAddressed_apiCheck⟩

/-- It has installed the object. -/
def installed : NodeEvent RawIpap :=
  ⟨some 1, .apiInstall objects, isAddressed_apiInstall⟩

/-- The bytes of the CREATE are handed over. -/
def wireSent : Wire Bool RawIpap :=
  ⟨sent.nodes, [(true, handedCreate)]⟩

def wireChecking : Wire Bool RawIpap :=
  ⟨checking.nodes, wireSent.mail⟩

def wireInstalling : Wire Bool RawIpap :=
  ⟨Function.update checking.nodes true (single (.nr AuctionedObject.installing.nr)),
    wireSent.mail⟩

/-- The bytes of the RESPONSE are handed over. -/
def wireAnswered : Wire Bool RawIpap :=
  ⟨Function.update wireInstalling.nodes true (single (.nr up)),
    wireSent.mail ++ [(false, handedResponse)]⟩

/-- A step with what is done in it. -/
def taken (w : Wire Bool RawIpap) (v : Bool) (message : QueuedMsg RawIpap)
    (w' : Wire Bool RawIpap) : WireStep Bool RawIpap where
  pre := w
  input := ⟨v, calm, message⟩
  output := (Wire.system nodeConfs none takenTo w ⟨v, calm, message⟩).1
  post := w'

def creating : WireStep Bool RawIpap :=
  taken .start false (.event creation) wireSent

def arrives : WireStep Bool RawIpap :=
  taken wireSent true (.api delivered) wireChecking

def installs : WireStep Bool RawIpap :=
  taken wireChecking true (.event checked) wireInstalling

def answers : WireStep Bool RawIpap :=
  taken wireInstalling true (.event installed) wireAnswered

theorem run_wire : Transition.Run (Wire.system nodeConfs none takenTo) .start
    [creating, arrives, installs, answers] wireAnswered := by
  have hstart : Transition.Run (Wire.system nodeConfs none takenTo) (.start : Wire Bool RawIpap) []
      .start := .nil
  have hsent := hstart.snoc
    (rfl : Wire.system nodeConfs none takenTo .start creating.input =
      (creating.output, some wireSent))
  have hchecking := hsent.snoc
    (rfl : Wire.system nodeConfs none takenTo wireSent arrives.input =
      (arrives.output, some wireChecking))
  have hinstalling := hchecking.snoc
    (rfl : Wire.system nodeConfs none takenTo wireChecking installs.input =
      (installs.output, some wireInstalling))
  exact hinstalling.snoc
    (rfl : Wire.system nodeConfs none takenTo wireInstalling answers.input =
      (answers.output, some wireAnswered))

theorem fits_object : Fits object := by
  change 8 ≤ 4 + 4 * 4095
  decide

/-- The events that are handed in are no messages, and their objects fit. -/
theorem genuine_event {w w' : Wire Bool RawIpap} {v : Bool} {n : NodeEvent RawIpap}
    (hmsg : ∀ e, n.evt ≠ .msg e) (hobjects : ∀ o ∈ n.evt.handedIn, o = object) :
    Genuine (taken w v (.event n) w') where
  delivered _ _ h := by cases h
  queued _ e h := by
    cases h
    exact hmsg e
  fits _ h o ho := by
    cases h
    rw [hobjects o ho]
    exact fits_object

theorem delivers_create : Delivers delivered handedCreate where
  subtype := rfl
  sid := rfl
  data := rfl
  mri := rfl

theorem genuine_arrives : Genuine arrives where
  delivered _ _ h _ _ := by
    cases h
    exact ⟨handedCreate, List.mem_singleton_self _, delivers_create⟩
  queued _ _ h := by cases h
  fits _ h := by cases h

theorem genuine_wire : ∀ x ∈ [creating, arrives, installs, answers], Genuine x := by
  refine List.forall_mem_cons.mpr ⟨?_, List.forall_mem_cons.mpr ⟨genuine_arrives,
    List.forall_mem_cons.mpr ⟨?_, List.forall_mem_singleton.mpr ?_⟩⟩⟩
  · exact genuine_event (fun _ h => by cases h) fun _ => List.mem_singleton.mp
  · exact genuine_event (fun _ h => by cases h) fun _ h => by cases h
  · exact genuine_event (fun _ h => by cases h) fun _ => List.mem_singleton.mp

/-- The CREATE is read wherever it is delivered again. -/
theorem arrives_twoNodes : ∃ x ∈ [creating, arrives, installs, answers],
    ∃ m : NtlpMsg RawIpap, .sendMessage m ∈ x.output ∧ takenTo x.input.node handedCreate = true ∧
      mapToEvent (.api delivered) = .ok (some (GistkaMapper.arrival m 0 true)) :=
  Wire.arrives_of_run run_wire genuine_wire List.mem_cons_self delivers_create

/-- The RESPONSE reports success. -/
theorem isSuccess_twoNodes : .sendMessage response.ntlpMsg ∈ answers.output ∧
    response.body.isSuccess = true := by
  have hsent : .sendMessage response.ntlpMsg ∈ answers.output := List.mem_cons_self
  have hanswers : answers ∈ [creating, arrives, installs, answers] :=
    List.mem_append_right [creating, arrives, installs] (List.mem_singleton_self _)
  exact ⟨hsent, Wire.isSuccess_of_run run_wire genuine_wire hanswers hsent response.msg_eq
    response.kind_eq⟩

/-- The object that the responder has installed was requested at the first node. -/
theorem staysWithin_twoNodes : Requested ([creating, arrives] ++ [installs]) 1 object := by
  have hrun : Transition.Run (Wire.system nodeConfs none takenTo) .start
      ([creating, arrives] ++ installs :: [answers]) wireAnswered := run_wire
  have hrule : .installAuctionRules responder.rule ∈ installs.output := List.mem_cons_self
  have htarget : target? installs = some 1 := rfl
  rcases Wire.staysWithin_of_run hrun genuine_wire _ hrule with ⟨sid, hsid, hwithin⟩
  rw [htarget] at hsid
  rw [Option.some.inj hsid]
  exact hwithin object (List.mem_singleton_self object)

/-- The same sessions are open when the messages themselves are sent. -/
theorem networkRun_twoNodes : ∃ trace u,
    Transition.Run (Network.system nodeConfs (hopOf none takenTo)) .start trace u ∧
      wireAnswered.Represents none u ∧ (∀ y ∈ trace, Received y) ∧
      trace.map (fun y => (y.input, y.output)) =
        [creating, arrives, installs, answers].filterMap shown :=
  Wire.networkRun_of_run run_wire genuine_wire

end TwoNodes
end Anslp
