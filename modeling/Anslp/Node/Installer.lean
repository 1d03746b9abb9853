import Anslp.Lib.Queue
import Anslp.Msg.SessionId
import Anslp.Node.Provenance
import Anslp.Node.Sessions
import Anslp.Session.RuleCopy
import Anslp.Session.RuleRemoval

/-!
# The installer of a node

What the calls of the sessions become for the auction manager beside the node: events in its
queue.  The definitions follow {lit}`auction_rule_installer` with its two kinds,
{lit}`FastQueue`, and the calls of {lit}`dispatcher` between the sessions and the installer.
The queue of C functions that {lit}`FastQueue` wraps is a parameter.

The manager may only be asked to remove a session that it was asked to add before.

Main results:

- Theorem {lit}`AuctionNode.removed_of_run`: in every run the manager takes a removal out of
  its queue only after the addition of the same objects for the same session.

Current gaps:

- None for the events of the installer; the auction manager itself is another program.
-/

namespace Anslp

open Numerals

/-! ## Any session -/

namespace AnySession

variable {α : Type} {conf : AnslpConfig} {d : Dispatcher α} {s s' : AnySession α}
  {evt : Event α} {effects : List (Effect α)} {latest : Option (ObjectList α)}

/-- The objects that a session has handed over and may remove. -/
def held : AnySession α → Option (ObjectList α)
  | ni s => s.held
  | nf s => s.held
  | nr s => s.held

/-- A session keeps to what it holds. -/
theorem keepsTo (s : AnySession α) :
    ∀ effect ∈ (s.processEvent conf d evt).effects, effect.KeepsTo s.held := by
  cases s with
  | ni s =>
      rw [processEvent, Outcome.effects_map]
      exact NiSession.keepsTo
  | nf s =>
      rw [processEvent, Outcome.effects_map]
      exact NfSession.keepsTo
  | nr s =>
      rw [processEvent, Outcome.effects_map]
      exact NrSession.keepsTo

/-- What a session holds after a call was handed over last. -/
theorem backs_of_next (h : Backs latest s.held)
    (hnext : s.processEvent conf d evt = .next s' effects) :
    Backs (latestOf latest effects) s'.held := by
  cases s with
  | ni s =>
      rcases Outcome.map_eq_next hnext with ⟨t, ht, rfl⟩
      exact NiSession.backs_of_transits h (NiSession.transits_of_processEvent ht)
  | nf s =>
      rcases Outcome.map_eq_next hnext with ⟨t, ht, rfl⟩
      exact NfSession.backs_of_transits h (NfSession.transits_of_processEvent ht)
  | nr s =>
      rcases Outcome.map_eq_next hnext with ⟨t, ht, rfl⟩
      exact NrSession.backs_of_transits h (NrSession.transits_of_processEvent ht)

/-- A call that returns has handed over only what was taken. -/
theorem accepts_of_next (hnext : s.processEvent conf d evt = .next s' effects) :
    ∀ effect ∈ effects, effect.Accepted d s.getId := by
  cases s with
  | ni s =>
      rcases Outcome.map_eq_next hnext with ⟨t, ht, rfl⟩
      exact NiSession.accepts_of_processEvent ht
  | nf s =>
      rcases Outcome.map_eq_next hnext with ⟨t, ht, rfl⟩
      exact NfSession.accepts_of_processEvent ht
  | nr s =>
      rcases Outcome.map_eq_next hnext with ⟨t, ht, rfl⟩
      exact NrSession.accepts_of_processEvent ht

end AnySession

namespace Sessions

variable {α : Type} {conf : AnslpConfig} {env : Surroundings α} {n : NodeEvent α}
  {sid : SessionId} {s : Option (AnySession α)} {t : AnySession α}
  {latest : Option (ObjectList α)} {effect : Effect α}

/-- A new session holds nothing. -/
theorem held_start (h : start conf env n sid = some t) : t.held = none := by
  unfold start at h
  split at h
  · cases h
    rfl
  · split_ifs at h
    · cases h
      rfl
    · cases h
      rfl
  · cases h

/-- The session to which an event is handed holds what the open one does. -/
theorem held_of_live (h : (s <|> start conf env n sid) = some t) :
    t.held = s.bind AnySession.held := by
  cases s with
  | none => exact held_start h
  | some u =>
      cases h
      rfl

/-- A reaction hands nothing over, or is that of a session. -/
theorem react_cases (h : effect ∈ (react conf env n sid s).2) :
    effect.handedOver? = none ∧ (∀ held, effect.KeepsTo held) ∨
      effect ∈ (handle conf env n sid s).2 := by
  unfold react at h
  split at h
  · cases List.mem_singleton.mp h
    exact .inl ⟨rfl, fun _ => trivial⟩
  · split_ifs at h
    · cases List.mem_singleton.mp h
      exact .inl ⟨rfl, fun _ => trivial⟩
    · exact .inr h
  · exact .inr h

/-- A session keeps to what it holds. -/
theorem keepsTo_react (h : effect ∈ (react conf env n sid s).2) :
    effect.KeepsTo (s.bind AnySession.held) := by
  rcases react_cases h with ⟨_, hkeeps⟩ | h
  · exact hkeeps _
  · unfold handle at h
    split at h
    · cases h
    · rename_i t ht
      rw [← held_of_live ht]
      exact t.keepsTo effect h

/-- What a session holds that is still open was handed over last, and what it has handed over
was taken. -/
theorem backs_react (hid : ∀ t, s = some t → t.getId = sid)
    (hbacks : Backs latest (s.bind AnySession.held))
    (h : (react conf env n sid s).1 = some t) :
    Backs (latestOf latest (react conf env n sid s).2) t.held ∧
      ∀ effect ∈ (react conf env n sid s).2, effect.Accepted env.dispatcher sid := by
  have hquiet : ∀ {u : Effect α}, u.handedOver? = none → s = some t →
      Backs (latestOf latest [u]) t.held ∧
        ∀ effect ∈ [u], effect.Accepted env.dispatcher sid := by
    rintro u hu rfl
    constructor
    · rw [latestOf_eq_of_forall (List.forall_mem_singleton.mpr hu)]
      exact hbacks
    · exact List.forall_mem_singleton.mpr (Effect.accepted_of_handedOver? hu)
  have hlive : ∀ t, (s <|> start conf env n sid) = some t → t.getId = sid := by
    cases s with
    | none => exact fun t ht => (bears_start (Q := fun _ => True) ht).id
    | some t => exact hid
  have hhandle : (handle conf env n sid s).1 = some t →
      Backs (latestOf latest (handle conf env n sid s).2) t.held ∧
        ∀ effect ∈ (handle conf env n sid s).2, effect.Accepted env.dispatcher sid := by
    intro h
    unfold handle at h ⊢
    split at h
    · cases h
    · rename_i u hu
      rw [← held_of_live hu] at hbacks
      dsimp only at h
      cases ho : u.processEvent conf env.dispatcher n.evt with
      | next u' effects =>
          rw [ho, after, kept] at h
          split_ifs at h
          cases h
          refine ⟨AnySession.backs_of_next hbacks ho, ?_⟩
          rw [← hlive u hu]
          exact AnySession.accepts_of_next ho
      | thrown | undefined =>
          rw [ho] at h
          cases h
  unfold react at h ⊢
  split at h
  · exact hquiet rfl h
  · split_ifs at h ⊢
    · exact hquiet rfl h
    · exact hhandle h
  · exact hhandle h

end Sessions

/-! ## The queue of the manager -/

/-- The types of the events that an installer makes. -/
inductive AnslpEventType
  | createSession
  | createCheckSession
  | auctionInteraction
  | removeSession
deriving DecidableEq, Repr

/-- An event for the manager, about some objects of a session. -/
structure AnslpEvent (α : Type) where
  type : AnslpEventType
  objects : ObjectList α
  sessionId : Text

namespace AnslpEvent

variable {α : Type}

/-- An event without objects. -/
def new (type : AnslpEventType) (sessionId : Text) : AnslpEvent α :=
  ⟨type, OrderedMap.empty, sessionId⟩

/-- Put an object under a key; an object that was there is deleted. -/
def setObject (evt : AnslpEvent α) (key : MspecRuleKey) (o : MspecObject α) : AnslpEvent α :=
  { evt with objects := evt.objects.insert key o }

/-- The loop that puts copies of some objects into an event. -/
def setObjects (evt : AnslpEvent α) (objects : ObjectList α) : AnslpEvent α :=
  objects.entries.foldl (fun evt e => evt.setObject e.1 e.2) evt

theorem foldl_setObject (es : List (MspecRuleKey × MspecObject α)) (evt : AnslpEvent α) :
    es.foldl (fun evt e => evt.setObject e.1 e.2) evt =
      { evt with objects := es.foldl (fun m e => m.insert e.1 e.2) evt.objects } := by
  induction es generalizing evt with
  | nil => rfl
  | cons e es ih => exact ih _

/-- An event gets all the objects, under their keys. -/
theorem setObjects_new (type : AnslpEventType) (sessionId : Text) (objects : ObjectList α) :
    (new type sessionId).setObjects objects = ⟨type, objects, sessionId⟩ := by
  rw [setObjects, foldl_setObject]
  have hall : (OrderedMap.empty : ObjectList α).insertAll objects = objects := by
    apply OrderedMap.eq_of_find? ObjectList.toNat_injective
    intro key
    simp [OrderedMap.find?_insertAll]
  exact congrArg (fun m => (⟨type, m, sessionId⟩ : AnslpEvent α)) hall

end AnslpEvent

/-- The queue of the manager: the queue behind it, and whether it is shut down. -/
structure FastQueue (Q : Type) where
  queue : Q
  shutdownflag : Bool

namespace FastQueue

variable {Q α : Type} [QueueOps Q (AnslpEvent α)]

/-- A new queue. -/
def new : FastQueue Q :=
  ⟨QueueOps.create, false⟩

/-- Add an event, unless the queue is shut down or fails for a reason of its own. -/
def enqueue (q : FastQueue Q) (fails : Bool) (evt : AnslpEvent α) (exp : Bool) :
    Bool × FastQueue Q :=
  if q.shutdownflag || fails then (false, q)
  else (true, { q with queue := QueueOps.enqueue q.queue evt exp })

/-- Take the first event, if there is one. -/
def dequeue (q : FastQueue Q) : Option (AnslpEvent α) × FastQueue Q :=
  ((QueueOps.dequeue q.queue).1, { q with queue := (QueueOps.dequeue q.queue).2 })

/-- Let no more events in. -/
def shutdown (q : FastQueue Q) : FastQueue Q :=
  { q with shutdownflag := true }

end FastQueue

/-! ## The installer -/

def scSignalingSessionFailures : UInt8 := 6
def sigfailWrongConfMessage : UInt8 := 7

/-- The error of a call that cannot be handed on, or is not for this node. -/
def installerError : RequestError :=
  ⟨scSignalingSessionFailures, sigfailWrongConfMessage⟩

/-- The kinds of installers: one that does nothing, and one that makes an event of each call
the configuration allows. -/
inductive AuctionRuleInstaller
  | nop
  | netauct (installAuctionRules isAuctioneer : Bool)

namespace AuctionRuleInstaller

variable {Q α : Type} [QueueOps Q (AnslpEvent α)]

/-- The installer that a node starts with. -/
def startup (conf : AnslpConfig) (isAuctioneer hasQueue : Bool) : AuctionRuleInstaller :=
  if hasQueue then
    if isAuctioneer || conf.installAuctionRules then .netauct conf.installAuctionRules isAuctioneer
    else .nop
  else .nop

/-- Put an event into the queue. -/
def put (fails : Bool) (q : FastQueue Q) (evt : AnslpEvent α) :
    Except RequestError (FastQueue Q) :=
  match q.enqueue fails evt false with
  | (true, q) => .ok q
  | (false, _) => .error installerError

def check (fails : Bool) (q : FastQueue Q) (sessionId : Text) (missingObjects : ObjectList α) :
    AuctionRuleInstaller → Except RequestError (FastQueue Q)
  | .nop => .ok q
  | .netauct installAuctionRules _ =>
      if installAuctionRules then
        put fails q ((AnslpEvent.new .createCheckSession sessionId).setObjects missingObjects)
      else .ok q

def handleCreateSession (fails : Bool) (q : FastQueue Q) (sessionId : Text)
    (rule : AuctionRule α) : Except RequestError (FastQueue Q) :=
  put fails q ((AnslpEvent.new .createSession sessionId).setObjects rule.copy.objectRequests)

def create (fails : Bool) (q : FastQueue Q) (sessionId : Text) (rule : AuctionRule α) :
    AuctionRuleInstaller → Except RequestError (FastQueue Q)
  | .nop => .ok q
  | .netauct installAuctionRules _ =>
      if installAuctionRules then handleCreateSession fails q sessionId rule else .ok q

def putResponse (fails : Bool) (q : FastQueue Q) (sessionId : Text) (rule : AuctionRule α) :
    AuctionRuleInstaller → Except RequestError (FastQueue Q)
  | .nop => .ok q
  | .netauct _ isAuctioneer =>
      if isAuctioneer then handleCreateSession fails q sessionId rule else .error installerError

def handleRemoveSession (fails : Bool) (q : FastQueue Q) (sessionId : Text)
    (rule : AuctionRule α) : Except RequestError (FastQueue Q) :=
  put fails q ((AnslpEvent.new .removeSession sessionId).setObjects rule.objectRequests)

def remove (fails : Bool) (q : FastQueue Q) (sessionId : Text) (rule : AuctionRule α) :
    AuctionRuleInstaller → Except RequestError (FastQueue Q)
  | .nop => .ok q
  | .netauct installAuctionRules isAuctioneer =>
      if installAuctionRules || isAuctioneer then handleRemoveSession fails q sessionId rule
      else .ok q

def auctionInteraction (fails : Bool) (q : FastQueue Q) (sessionId : Text)
    (rule : AuctionRule α) : AuctionRuleInstaller → Except RequestError (FastQueue Q)
  | .nop => .ok q
  | .netauct _ _ =>
      put fails q ((AnslpEvent.new .auctionInteraction sessionId).setObjects
        rule.copy.objectRequests)

/-! ## The calls of the sessions -/

/-- What an effect of a session is for the installer. -/
def perform (inst : AuctionRuleInstaller) (fails : Bool) (sid : SessionId) (q : FastQueue Q) :
    Effect α → Except RequestError (FastQueue Q)
  | .check objects => inst.check fails q sid.toString objects
  | .installAuctionRules rule => inst.create fails q sid.toString rule
  | .removeAuctionRules rule => inst.remove fails q sid.toString rule
  | .auctionInteraction _ rule => inst.auctionInteraction fails q sid.toString rule
  | .sendResponse rule => inst.putResponse fails q sid.toString rule
  | _ => .ok q

/-- The queue after an effect; a call that is refused leaves it as it is. -/
def performed (inst : AuctionRuleInstaller) (fails : Bool) (sid : SessionId) (q : FastQueue Q)
    (effect : Effect α) : FastQueue Q :=
  match inst.perform fails sid q effect with
  | .ok q => q
  | .error _ => q

/-- The queue after some effects. -/
def performAll (inst : AuctionRuleInstaller) (fails : Bool) (sid : SessionId)
    (q : FastQueue Q) (effects : List (Effect α)) : FastQueue Q :=
  effects.foldl (inst.performed fails sid) q

/-- The error of a call. -/
def refusal : Except RequestError (FastQueue Q) → Option RequestError
  | .ok _ => none
  | .error exp => some exp

/-- The sessions get the answers of the installer. -/
def answers (inst : AuctionRuleInstaller) (fails : Bool) (q : FastQueue Q) (d : Dispatcher α) :
    Dispatcher α :=
  { d with
    checkError := fun sid objects => refusal (inst.check fails q sid.toString objects)
    installError := fun sid rule => refusal (inst.create fails q sid.toString rule)
    removeError := fun sid rule => refusal (inst.remove fails q sid.toString rule)
    interactionError := fun sid rule =>
      refusal (inst.auctionInteraction fails q sid.toString rule)
    responseError := fun sid rule => refusal (inst.putResponse fails q sid.toString rule) }

end AuctionRuleInstaller

/-! ## A node with its installer -/

/-- The sessions of a node and the queue of the manager. -/
structure AuctionNode (Q α : Type) where
  manager : SessionManager α
  queue : FastQueue Q

/-- What happens at a node: an event for a session, while the queue may fail; the manager
takes an event; the queue is shut down. -/
inductive AuctionInput (α : Type)
  | event (env : Surroundings α) (fails : Bool) (n : NodeEvent α)
  | dequeue
  | shutdown

namespace AuctionNode

variable {Q α : Type} [QueueOps Q (AnslpEvent α)]

/-- Nothing has happened. -/
def start : AuctionNode Q α :=
  ⟨.empty, .new⟩

/-- A node as a transition system; what is seen are the events that the manager takes. -/
def system (conf : AnslpConfig) (inst : AuctionRuleInstaller) :
    Transition.System (AuctionNode Q α) (AuctionInput α) (Option (AnslpEvent α)) :=
  fun w input =>
    match input with
    | .event env fails n =>
        let env := { env with dispatcher := inst.answers fails w.queue env.dispatcher }
        match w.manager.process conf env n with
        | .error _ => (none, none)
        | .ok (m, effects) =>
            let queue :=
              match w.manager.target? env n with
              | some sid => inst.performAll fails sid w.queue effects
              | none => w.queue
            (none, some ⟨m, queue⟩)
    | .dequeue => (w.queue.dequeue.1, some { w with queue := w.queue.dequeue.2 })
    | .shutdown => (none, some { w with queue := w.queue.shutdown })

/-- The events that the manager has taken. -/
def taken (trace : List (Transition.Step (AuctionNode Q α) (AuctionInput α)
    (Option (AnslpEvent α)))) : List (AnslpEvent α) :=
  trace.filterMap fun x => x.output

end AuctionNode

/-! ## Additions and removals -/

section

variable {Q α : Type} [QueueOps Q (AnslpEvent α)] {sid : SessionId} {text : Text}
  {q q₀ : FastQueue Q} {contents : Q → List (AnslpEvent α)} {evt : AnslpEvent α}
  {effect : Effect α} {effects : List (Effect α)} {es before : List (AnslpEvent α)}
  {held : Option (ObjectList α)} {inst : AuctionRuleInstaller} {fails : Bool}

/-- The objects of the last addition for a session, after one more event. -/
def addedAfter (text : Text) (latest : Option (ObjectList α)) (evt : AnslpEvent α) :
    Option (ObjectList α) :=
  if evt.type = .createSession ∧ evt.sessionId = text then some evt.objects else latest

/-- The objects of the last addition for a session. -/
def latestAdded (text : Text) (es : List (AnslpEvent α)) : Option (ObjectList α) :=
  es.foldl (addedAfter text) none

theorem latestAdded_snoc :
    latestAdded text (es ++ [evt]) = addedAfter text (latestAdded text es) evt := by
  rw [latestAdded, List.foldl_append]
  rfl

/-- Each removal is one of the objects that were added last. -/
def IsOrdered (es : List (AnslpEvent α)) : Prop :=
  ∀ before evt after, es = before ++ evt :: after → evt.type = .removeSession →
    latestAdded evt.sessionId before = some evt.objects

theorem isOrdered_nil : IsOrdered ([] : List (AnslpEvent α)) := by
  intro before evt after hsplit
  simp at hsplit

theorem IsOrdered.snoc (h : IsOrdered es)
    (hevt : evt.type = .removeSession → latestAdded evt.sessionId es = some evt.objects) :
    IsOrdered (es ++ [evt]) := by
  intro before evt' after hsplit hremove
  rcases List.eq_nil_or_concat after with rfl | ⟨after', last, rfl⟩
  · rcases List.append_inj' hsplit rfl with ⟨rfl, hlast⟩
    rcases List.cons.inj hlast with ⟨rfl, _⟩
    exact hevt hremove
  · rw [List.concat_eq_append, ← List.cons_append, ← List.append_assoc] at hsplit
    exact h _ _ _ (List.append_inj' hsplit rfl).1 hremove

namespace FastQueue

/-- One event more at the end. -/
def append (q : FastQueue Q) (evt : AnslpEvent α) : FastQueue Q :=
  { q with queue := QueueOps.enqueue q.queue evt false }

theorem append_contents (hfifo : QueueOps.IsFifo contents) :
    before ++ contents (q.append evt).queue = before ++ contents q.queue ++ [evt] := by
  rw [append, hfifo.enqueue, List.append_assoc]

end FastQueue

namespace AuctionRuleInstaller

/-- Additions become events. -/
def adds : AuctionRuleInstaller → Bool
  | .nop => false
  | .netauct installAuctionRules _ => installAuctionRules

/-- Removals become events. -/
def removes : AuctionRuleInstaller → Bool
  | .nop => false
  | .netauct installAuctionRules isAuctioneer => installAuctionRules || isAuctioneer

theorem put_eq : put fails q evt =
    if q.shutdownflag || fails then .error installerError else .ok (q.append evt) := by
  unfold put FastQueue.enqueue
  split_ifs <;> simp_all [FastQueue.append]

/-- What an effect makes of the queue. -/
inductive Performed (inst : AuctionRuleInstaller) (fails : Bool) (sid : SessionId)
    (q : FastQueue Q) : Effect α → FastQueue Q → Prop
  | refused {effect : Effect α} {exp : RequestError}
      (hrefused : inst.perform fails sid q effect = .error exp) :
      Performed inst fails sid q effect q
  | idle {effect : Effect α} (hidle : inst.adds = false ∨ effect.handedOver? = none) :
      Performed inst fails sid q effect q
  | added {effect : Effect α} {rule : AuctionRule α} (hrule : effect.handedOver? = some rule) :
      Performed inst fails sid q effect
        (q.append ⟨.createSession, rule.objectRequests, sid.toString⟩)
  | removed {rule : AuctionRule α} (hremoves : inst.removes = true) :
      Performed inst fails sid q (.removeAuctionRules rule)
        (q.append ⟨.removeSession, rule.objectRequests, sid.toString⟩)
  | other {effect : Effect α} {evt : AnslpEvent α} (hquiet : effect.handedOver? = none)
      (hadds : evt.type ≠ .createSession) (hremoves : evt.type ≠ .removeSession) :
      Performed inst fails sid q effect (q.append evt)

/-- An event that is put is at the end of the queue. -/
theorem append_of_put {q' : FastQueue Q} (h : put fails q evt = .ok q') : q' = q.append evt := by
  rw [put_eq] at h
  split_ifs at h
  cases h
  rfl

theorem perform_nop : perform .nop fails sid q effect = .ok q := by
  cases effect <;> rfl

theorem performed_cases :
    Performed inst fails sid q effect (inst.performed fails sid q effect) := by
  cases hperform : inst.perform fails sid q effect with
  | error exp =>
      rw [performed, hperform]
      exact .refused hperform
  | ok q' =>
      rw [performed, hperform]
      cases inst with
      | nop =>
          rw [perform_nop] at hperform
          cases hperform
          exact .idle (.inl rfl)
      | netauct installAuctionRules isAuctioneer =>
          cases effect with
          | check objects =>
              simp only [perform, check, AnslpEvent.setObjects_new] at hperform
              split_ifs at hperform
              · rw [append_of_put hperform]
                exact .other rfl (by simp) (by simp)
              · cases hperform
                exact .idle (.inr rfl)
          | installAuctionRules rule =>
              simp only [perform, create, handleCreateSession, AnslpEvent.setObjects_new,
                AuctionRule.copy_eq] at hperform
              split_ifs at hperform with hadds
              · rw [append_of_put hperform]
                exact .added rfl
              · cases hperform
                exact .idle (.inl (Bool.eq_false_of_not_eq_true hadds))
          | sendResponse rule =>
              simp only [perform, putResponse, handleCreateSession, AnslpEvent.setObjects_new,
                AuctionRule.copy_eq] at hperform
              split_ifs at hperform
              rw [append_of_put hperform]
              exact .added rfl
          | removeAuctionRules rule =>
              simp only [perform, remove, handleRemoveSession, AnslpEvent.setObjects_new]
                at hperform
              split_ifs at hperform with hremoves
              · rw [append_of_put hperform]
                exact .removed hremoves
              · cases hperform
                exact .idle (.inr rfl)
          | auctionInteraction server rule =>
              simp only [perform, auctionInteraction, AnslpEvent.setObjects_new] at hperform
              rw [append_of_put hperform]
              exact .other rfl (by simp) (by simp)
          | _ =>
              cases hperform
              exact .idle (.inr rfl)

namespace Performed

variable {q' : FastQueue Q}

theorem shutdownflag (h : Performed inst fails sid q effect q') :
    q'.shutdownflag = q.shutdownflag := by
  cases h <;> rfl

section

variable (hfifo : QueueOps.IsFifo contents)

include hfifo

/-- The objects of the last addition change only for the session of the call. -/
theorem latestAdded_of_ne (h : Performed inst fails sid q effect q') (hne : sid.toString ≠ text) :
    latestAdded text (before ++ contents q'.queue) =
      latestAdded text (before ++ contents q.queue) := by
  cases h with
  | refused | idle => rfl
  | added | removed =>
      rw [FastQueue.append_contents hfifo, latestAdded_snoc, addedAfter, if_neg]
      simp [hne]
  | other _ hadds =>
      rw [FastQueue.append_contents hfifo, latestAdded_snoc, addedAfter, if_neg]
      simp [hadds]

/-- While something is held it is what was added last. -/
theorem backs (h : Performed inst fails sid q effect q') (hkeeps : effect.KeepsTo held)
    (hbacks : Backs (latestAdded sid.toString (before ++ contents q.queue)) held) :
    Backs (latestAdded sid.toString (before ++ contents q'.queue)) held := by
  cases h with
  | refused | idle => exact hbacks
  | added hrule =>
      rw [FastQueue.append_contents hfifo, latestAdded_snoc, addedAfter, if_pos ⟨rfl, rfl⟩]
      intro objects hobjects
      cases effect with
      | installAuctionRules rule | sendResponse rule =>
          cases hrule
          rcases hkeeps with hnone | hsome
          · cases hnone.symm.trans hobjects
          · exact hsome.symm.trans hobjects
      | _ => cases hrule
  | removed | other =>
      rw [FastQueue.append_contents hfifo, latestAdded_snoc, addedAfter, if_neg]
      · exact hbacks
      · simp_all

/-- A removal is one of what was added last. -/
theorem isOrdered (h : Performed inst fails sid q effect q')
    (hinst : inst.removes = true → inst.adds = true) (hkeeps : effect.KeepsTo held)
    (hbacks : inst.adds = true → Backs (latestAdded sid.toString (before ++ contents q.queue)) held)
    (hordered : IsOrdered (before ++ contents q.queue)) :
    IsOrdered (before ++ contents q'.queue) := by
  cases h with
  | refused | idle => exact hordered
  | added =>
      rw [FastQueue.append_contents hfifo]
      exact hordered.snoc (by simp)
  | removed hremoves =>
      rw [FastQueue.append_contents hfifo]
      exact hordered.snoc fun _ => hbacks (hinst hremoves) _ hkeeps
  | other _ _ hremoves =>
      rw [FastQueue.append_contents hfifo]
      exact hordered.snoc fun hremove => absurd hremove hremoves

/-- What is handed over and taken is added. -/
theorem latestAdded_eq (h : Performed inst fails sid q effect q') (hadds : inst.adds = true)
    (htaken : effect.handedOver? = none ∨
      ∀ exp, inst.perform fails sid q effect ≠ .error exp) :
    latestAdded sid.toString (before ++ contents q'.queue) =
      effect.latestAfter (latestAdded sid.toString (before ++ contents q.queue)) := by
  cases h with
  | refused hrefused =>
      rcases htaken with hquiet | htaken
      · rw [Effect.latestAfter, hquiet]
      · exact absurd hrefused (htaken _)
  | idle hidle =>
      rcases hidle with hidle | hquiet
      · rw [hadds] at hidle
        cases hidle
      · rw [Effect.latestAfter, hquiet]
  | added hrule =>
      rw [FastQueue.append_contents hfifo, latestAdded_snoc, addedAfter, if_pos ⟨rfl, rfl⟩,
        Effect.latestAfter, hrule]
  | removed =>
      rw [FastQueue.append_contents hfifo, latestAdded_snoc, addedAfter, if_neg (by simp)]
      rfl
  | other hquiet hadds =>
      rw [FastQueue.append_contents hfifo, latestAdded_snoc, addedAfter,
        if_neg (by simp [hadds]), Effect.latestAfter, hquiet]

end

end Performed

/-- What a session may hand over now it may hand over after its other calls. -/
theorem perform_ne_error {d : Dispatcher α}
    (haccepted : effect.Accepted (inst.answers fails q₀ d) sid)
    (hflag : q.shutdownflag = q₀.shutdownflag) :
    effect.handedOver? = none ∨ ∀ exp, inst.perform fails sid q effect ≠ .error exp := by
  cases effect with
  | installAuctionRules rule =>
      right
      intro exp hrefused
      cases inst with
      | nop => cases hrefused
      | netauct installAuctionRules isAuctioneer =>
          simp only [Effect.Accepted, answers, perform, create, handleCreateSession, put_eq,
            hflag] at haccepted hrefused
          split_ifs at haccepted hrefused
          cases haccepted
  | sendResponse rule =>
      right
      intro exp hrefused
      cases inst with
      | nop => cases hrefused
      | netauct installAuctionRules isAuctioneer =>
          simp only [Effect.Accepted, answers, perform, putResponse, handleCreateSession, put_eq,
            hflag] at haccepted hrefused
          split_ifs at haccepted hrefused
          · cases haccepted
          · cases haccepted
  | _ => exact .inl rfl

/-! ### Several effects -/

section

variable (hfifo : QueueOps.IsFifo contents)

include hfifo

theorem latestAdded_performAll_of_ne (hne : sid.toString ≠ text) :
    latestAdded text (before ++ contents (inst.performAll fails sid q effects).queue) =
      latestAdded text (before ++ contents q.queue) := by
  induction effects generalizing q with
  | nil => rfl
  | cons effect effects ih => exact ih.trans (performed_cases.latestAdded_of_ne hfifo hne)

theorem isOrdered_performAll (hinst : inst.removes = true → inst.adds = true)
    (hkeeps : ∀ effect ∈ effects, effect.KeepsTo held)
    (hbacks : inst.adds = true → Backs (latestAdded sid.toString (before ++ contents q.queue)) held)
    (hordered : IsOrdered (before ++ contents q.queue)) :
    IsOrdered (before ++ contents (inst.performAll fails sid q effects).queue) := by
  induction effects generalizing q with
  | nil => exact hordered
  | cons effect effects ih =>
      rw [List.forall_mem_cons] at hkeeps
      apply ih hkeeps.2
      · exact fun hadds => performed_cases.backs hfifo hkeeps.1 (hbacks hadds)
      · exact performed_cases.isOrdered hfifo hinst hkeeps.1 hbacks hordered

theorem latestAdded_performAll {d : Dispatcher α} (hadds : inst.adds = true)
    (haccepted : ∀ effect ∈ effects, effect.Accepted (inst.answers fails q₀ d) sid)
    (hflag : q.shutdownflag = q₀.shutdownflag) :
    latestAdded sid.toString (before ++ contents (inst.performAll fails sid q effects).queue) =
      latestOf (latestAdded sid.toString (before ++ contents q.queue)) effects := by
  induction effects generalizing q with
  | nil => rfl
  | cons effect effects ih =>
      rw [List.forall_mem_cons] at haccepted
      have hone : latestAdded sid.toString
            (before ++ contents (inst.performed fails sid q effect).queue) =
          effect.latestAfter (latestAdded sid.toString (before ++ contents q.queue)) :=
        performed_cases.latestAdded_eq hfifo hadds (perform_ne_error haccepted.1 hflag)
      rw [latestOf, List.foldl_cons, ← hone]
      exact ih haccepted.2 (performed_cases.shutdownflag.trans hflag)

end

end AuctionRuleInstaller

/-! ## All runs -/

namespace AuctionNode

variable {conf : AnslpConfig} {w w' : AuctionNode Q α} {env : Surroundings α} {n : NodeEvent α}
  {m : SessionManager α} {past : List (AnslpEvent α)} {d : Dispatcher α}

/-- What the manager has taken and what is in its queue is in order, and an open session holds
what was added last for it. -/
structure Tracks (contents : Q → List (AnslpEvent α)) (inst : AuctionRuleInstaller)
    (past : List (AnslpEvent α)) (w : AuctionNode Q α) : Prop where
  bears : w.manager.BearsOwn
  ordered : IsOrdered (past ++ contents w.queue.queue)
  backs : inst.adds = true → ∀ sid,
    Backs (latestAdded sid.toString (past ++ contents w.queue.queue))
      ((w.manager.opened sid).bind AnySession.held)

theorem tracks_start (hfifo : QueueOps.IsFifo contents) :
    Tracks contents inst [] (start : AuctionNode Q α) where
  bears := SessionManager.bears_empty
  ordered := by
    rw [start, FastQueue.new, hfifo.create]
    exact isOrdered_nil
  backs := by
    intro _ sid
    apply backs_of_none
    rw [start, SessionManager.opened_empty]
    rfl

theorem toString_ne {sid sid' : SessionId} (h : sid ≠ sid') : sid.toString ≠ sid'.toString := by
  intro heq
  have hread := SessionId.ofString_toString sid
  rw [heq, SessionId.ofString_toString] at hread
  cases hread
  exact h rfl

/-- An event for a session. -/
theorem Tracks.event (h : Tracks contents inst past w) (hfifo : QueueOps.IsFifo contents)
    (hinst : inst.removes = true → inst.adds = true)
    (henv : env.dispatcher = inst.answers fails w.queue d)
    (hprocess : w.manager.process conf env n = .ok (m, effects)) :
    Tracks contents inst past ⟨m, match w.manager.target? env n with
      | some sid => inst.performAll fails sid w.queue effects
      | none => w.queue⟩ := by
  have hreacts := h.bears.owned.reacts hprocess
  have hbears := (h.bears.reacts hreacts).1
  cases htarget : w.manager.target? env n with
  | none =>
      refine ⟨hbears, h.ordered, ?_⟩
      intro hadds sid
      dsimp only
      rw [hreacts.other sid (by simp [htarget])]
      exact h.backs hadds sid
  | some sid =>
      rcases hreacts.concerned sid htarget with ⟨hopened, heffects⟩
      subst heffects
      refine ⟨hbears, ?_, ?_⟩
      · apply AuctionRuleInstaller.isOrdered_performAll hfifo hinst
        · exact fun effect heffect => Sessions.keepsTo_react heffect
        · exact fun hadds => h.backs hadds sid
        · exact h.ordered
      · intro hadds sid'
        dsimp only
        by_cases hsid : sid = sid'
        · subst hsid
          rw [hopened]
          cases hleft : (Sessions.react conf env n sid (w.manager.opened sid)).1 with
          | none => exact backs_of_none rfl
          | some t =>
              rcases Sessions.backs_react (fun t ht => (h.bears.opened sid t ht).id)
                (h.backs hadds sid) hleft with
                ⟨hbacks, haccepted⟩
              rw [henv] at haccepted
              rw [AuctionRuleInstaller.latestAdded_performAll hfifo hadds haccepted rfl]
              exact hbacks
        · rw [AuctionRuleInstaller.latestAdded_performAll_of_ne hfifo (toString_ne hsid),
            hreacts.other sid' (by simp [htarget, hsid])]
          exact h.backs hadds sid'

/-- The manager takes an event. -/
theorem Tracks.dequeue (h : Tracks contents inst past w) (hfifo : QueueOps.IsFifo contents) :
    Tracks contents inst (past ++ w.queue.dequeue.1.toList)
      { w with queue := w.queue.dequeue.2 } := by
  have hall : past ++ w.queue.dequeue.1.toList ++ contents w.queue.dequeue.2.queue =
      past ++ contents w.queue.queue := by
    rw [List.append_assoc]
    exact congrArg (past ++ ·) (hfifo.dequeue_append _)
  refine ⟨h.bears, ?_, ?_⟩
  · rw [hall]
    exact h.ordered
  · intro hadds sid
    rw [hall]
    exact h.backs hadds sid

omit [QueueOps Q (AnslpEvent α)] in
theorem taken_snoc {trace : List (Transition.Step (AuctionNode Q α) (AuctionInput α)
      (Option (AnslpEvent α)))} {input : AuctionInput α} {output : Option (AnslpEvent α)} :
    taken (trace ++ [⟨w, input, output, w'⟩]) = taken trace ++ output.toList := by
  rw [taken, List.filterMap_append]
  cases output <;> rfl

theorem tracks_of_run {trace : List (Transition.Step (AuctionNode Q α) (AuctionInput α)
      (Option (AnslpEvent α)))} (hfifo : QueueOps.IsFifo contents)
    (hinst : inst.removes = true → inst.adds = true)
    (hrun : Transition.Run (system conf inst) start trace w) :
    Tracks contents inst (taken trace) w := by
  refine hrun.trace_induction (P := fun trace w => Tracks contents inst (taken trace) w)
    (tracks_start hfifo) ?_
  intro trace w input output w' _ ih hstep
  rw [taken_snoc]
  cases input with
  | event env fails n =>
      simp only [system] at hstep
      split at hstep
      · cases hstep
      · rename_i m effects hprocess
        cases hstep
        rw [Option.toList_none, List.append_nil]
        exact ih.event hfifo hinst rfl hprocess
  | dequeue =>
      rcases Prod.mk.inj hstep with ⟨houtput, hpost⟩
      cases hpost
      rw [← houtput]
      exact ih.dequeue hfifo
  | shutdown =>
      cases hstep
      rw [Option.toList_none, List.append_nil]
      exact ⟨ih.bears, ih.ordered, ih.backs⟩

/-- In every run the manager takes a removal out of its queue only after an addition for the
same session, and the last one was of the same objects: if an auctioneer may install. -/
theorem removed_of_run {trace : List (Transition.Step (AuctionNode Q α) (AuctionInput α)
      (Option (AnslpEvent α)))} {isAuctioneer hasQueue : Bool}
    (hfifo : QueueOps.IsFifo contents)
    (hauctioneer : isAuctioneer = true → conf.installAuctionRules = true)
    (hrun : Transition.Run (system conf (.startup conf isAuctioneer hasQueue)) start trace w)
    {before after : List (AnslpEvent α)} {evt : AnslpEvent α}
    (htaken : taken trace = before ++ evt :: after) (hremove : evt.type = .removeSession) :
    latestAdded evt.sessionId before = some evt.objects := by
  have hinst : (AuctionRuleInstaller.startup conf isAuctioneer hasQueue).removes = true →
      (AuctionRuleInstaller.startup conf isAuctioneer hasQueue).adds = true := by
    unfold AuctionRuleInstaller.startup
    split_ifs
    · rw [AuctionRuleInstaller.removes, AuctionRuleInstaller.adds, Bool.or_eq_true]
      exact fun h => h.elim (fun h => h) hauctioneer
    · simp [AuctionRuleInstaller.removes]
    · simp [AuctionRuleInstaller.removes]
  apply (tracks_of_run hfifo hinst hrun).ordered before evt (after ++ contents w.queue.queue) _
    hremove
  rw [htaken, List.append_assoc, List.cons_append]

end AuctionNode
end

/-! ### A responder whose session times out -/

namespace RemovedObject

open Checked AuctionedObject AuctionNode
open Sample hiding conf request create arrival

/-- A node whose queue is two lists. -/
abbrev ManagedNode : Type :=
  AuctionNode (ListQueue (AnslpEvent RawIpap)) RawIpap

/-- The surroundings of the node. -/
def env : Surroundings RawIpap :=
  ⟨surroundings, fun i => BitVec.ofNat 128 (i + 1), 0⟩

/-- The node with this session, and with these events in the queue of the manager. -/
def node (s : NrSession RawIpap) (es : List (AnslpEvent RawIpap)) : ManagedNode where
  manager :=
    { sessions := [.nr s]
      sessionTable := OrderedMap.empty.insert 1 0
      sessionDone := []
      deleted := []
      locked := [] }
  queue := ⟨⟨[], es⟩, false⟩

/-- The manager is asked to check the object, to add it and to remove it. -/
def about (type : AnslpEventType) : AnslpEvent RawIpap :=
  ⟨type, objects, SessionId.toString 1⟩

/-- The session, its lifetime over. -/
def ending : NrSession RawIpap :=
  { up with state := .pendingTeardown }

/-- What happens to the session. -/
def happens (evt : Event RawIpap) (haddressed : evt.IsAddressed (some 1)) :
    AuctionInput RawIpap :=
  .event env false ⟨some 1, evt, haddressed⟩

/-- The node, with an installer that makes events. -/
abbrev sys : Transition.System (ManagedNode) (AuctionInput RawIpap)
    (Option (AnslpEvent RawIpap)) :=
  system conf (.startup conf false true)

/-- The events are in the queue. -/
theorem run_ending : ∃ trace, Transition.Run sys start trace
    (node ending [about .createCheckSession, about .createSession, about .removeSession]) ∧
    taken trace = [] := by
  have hchecking : sys start (happens (.msg arrival) rfl) =
      (none, some (node responder [about .createCheckSession])) := rfl
  have hinstalling : sys (node responder [about .createCheckSession])
      (happens (.apiCheck objects) trivial) =
        (none, some (node installing.nr [about .createCheckSession, about .createSession])) := rfl
  have hup : sys (node installing.nr [about .createCheckSession, about .createSession])
      (happens (.apiInstall objects) trivial) =
        (none, some (node up [about .createCheckSession, about .createSession])) := rfl
  have hending : sys (node up [about .createCheckSession, about .createSession])
      (happens (.timer 1) trivial) =
        (none, some (node ending
          [about .createCheckSession, about .createSession, about .removeSession])) := rfl
  exact ⟨_, (((Transition.Run.nil.snoc hchecking).snoc hinstalling).snoc hup).snoc hending, rfl⟩

/-- The manager takes one event more. -/
theorem taken_next {trace : List (Transition.Step (ManagedNode) (AuctionInput RawIpap)
      (Option (AnslpEvent RawIpap)))} {w w' : ManagedNode}
    {evt : AnslpEvent RawIpap} (hrun : Transition.Run sys start trace w)
    (hstep : sys w .dequeue = (some evt, some w')) :
    ∃ trace', Transition.Run sys start trace' w' ∧ taken trace' = taken trace ++ [evt] :=
  ⟨_, hrun.snoc hstep, taken_snoc⟩

/-- It takes the removal after the addition. -/
theorem removed_object : ∃ (trace : List (Transition.Step (ManagedNode)
      (AuctionInput RawIpap) (Option (AnslpEvent RawIpap)))) (w : ManagedNode),
    Transition.Run sys start trace w ∧
      taken trace = [about .createCheckSession, about .createSession, about .removeSession] ∧
      latestAdded (SessionId.toString 1) [about .createCheckSession, about .createSession] =
        some objects := by
  rcases run_ending with ⟨trace, hrun, htaken⟩
  rcases taken_next hrun (rfl : _ = (some (about .createCheckSession),
    some (node ending [about .createSession, about .removeSession]))) with
    ⟨trace₁, hcheck, htaken₁⟩
  rcases taken_next hcheck (rfl : _ = (some (about .createSession),
    some (node ending [about .removeSession]))) with ⟨trace₂, hadd, htaken₂⟩
  rcases taken_next hadd (rfl : _ = (some (about .removeSession), some (node ending []))) with
    ⟨trace₃, hremove, htaken₃⟩
  rw [htaken₂, htaken₁, htaken] at htaken₃
  have hall : taken trace₃ =
      [about .createCheckSession, about .createSession] ++ about .removeSession :: [] := htaken₃
  exact ⟨trace₃, _, hremove, hall,
    removed_of_run ListQueue.isFifo_contents (fun h => by cases h) hremove hall rfl⟩

end RemovedObject
end Anslp
