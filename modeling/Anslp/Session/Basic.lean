import Anslp.Lib.Transition
import Anslp.Msg.Ntlp
import Anslp.Msg.RawIpap
import Anslp.Session.Rule

/-!
# Sessions and their surroundings

What the state machines of the initiator, of a forwarder and of a responder have in
common: the events they process, what a dispatcher answers while they do, the effects
they have, and the ways a call of {lit}`process_event` can end.  The definitions follow
{lit}`session`, {lit}`events`, {lit}`anslp_timers`, and the parts of {lit}`dispatcher`
that sessions call.

A call that throws leaves the state of the session as it was; the dispatcher aborts the
session then.  A call whose behaviour is undefined has no result at all.

Main results:

- Theorem {lit}`checkRequest_eq_error_iff`: the requests that fail the checks of lifetime
  and authorization.

Current gaps:

- Times are compared nowhere; a timer is the number that {lit}`start_timer` returned.
-/

namespace Anslp

/-! ## Events -/

/-- A message received from the network. -/
structure MsgEvent (α : Type) where
  ntlpMsg : NtlpMsg α
  forThisNode : Bool

/-- The request of a user to create a session. -/
structure ApiCreateEvent (α : Type) where
  sessionId : String
  sourceAddr : HostAddress
  destAddr : HostAddress
  sourcePort : UInt16
  destPort : UInt16
  protocol : UInt8
  sessionLifetime : UInt32
  selAuctEntities : UInt32
  mspecObjects : ObjectList α
  hasReturnQueue : Bool

/-- The request of a user to send a bid. -/
structure ApiBiddingEvent (α : Type) where
  mspecObjects : ObjectList α
  hasReturnQueue : Bool

/-- An event for a session. -/
inductive Event (α : Type)
  | networkNotification
  | routeChangedBad
  | noNextNodeFound
  | routingStateCheck (mri : Mri)
  | msg (e : MsgEvent α)
  | timer (id : Nat)
  | apiCreate (e : ApiCreateEvent α)
  | apiCheck (mspecObjects : ObjectList α)
  | apiInstall (mspecObjects : ObjectList α)
  | apiRemove (mspecObjects : ObjectList α)
  | apiRefresh
  | apiNotify
  | apiResponse
  | apiBidding (e : ApiBiddingEvent α)
  | apiTeardown

/-- What holds for the timer of an expiry holds for the timers of the event. -/
theorem Event.forall_timer {α : Type} {P : Nat → Prop} {id : Nat} (h : P id) :
    ∀ id', (timer id : Event α) = timer id' → P id' := by
  rintro _ ⟨⟩
  exact h

/-- A message whose body is of a class. -/
structure KindMsg (kind : MsgKind) (α : Type) where
  ntlpMsg : NtlpMsg α
  body : AnslpMsg α
  msg_eq : ntlpMsg.msg = some body
  kind_eq : body.kind = kind

namespace MsgEvent

variable {α : Type}

/-- The message of an event, if its body is of a class. -/
def ofKind? (e : MsgEvent α) (kind : MsgKind) : Option (KindMsg kind α) :=
  match h : e.ntlpMsg.msg with
  | some body => if hk : body.kind = kind then some ⟨e.ntlpMsg, body, h, hk⟩ else none
  | none => none

def getMri (e : MsgEvent α) : Mri :=
  e.ntlpMsg.routingInfo

/-- The RESPONSE of an event, if it has the sequence number of a message sent before. -/
def anslpResponse? {kind : MsgKind} (e : MsgEvent α) (request : KindMsg kind α) :
    Option (KindMsg .response α) :=
  (e.ofKind? .response).filter fun r =>
    request.body.hasMsgSequenceNumber && r.body.hasMsgSequenceNumber &&
      r.body.isResponseTo request.body

variable {e : MsgEvent α} {kind : MsgKind}

theorem ntlpMsg_of_ofKind? {c : KindMsg kind α} (h : e.ofKind? kind = some c) :
    c.ntlpMsg = e.ntlpMsg := by
  unfold ofKind? at h
  split at h
  · split_ifs at h
    cases h
    rfl
  · cases h

/-- The body of a message is of one class. -/
theorem ofKind?_eq_none_of_ne {kind' : MsgKind} {c : KindMsg kind α}
    (h : e.ofKind? kind = some c) (hne : kind ≠ kind') : e.ofKind? kind' = none := by
  have hbody : e.ntlpMsg.msg = some c.body := ntlpMsg_of_ofKind? h ▸ c.msg_eq
  unfold ofKind?
  split
  · rename_i body hsome
    cases hsome.symm.trans hbody
    exact dif_neg fun hkind => hne (c.kind_eq.symm.trans hkind)
  · rfl

theorem of_anslpResponse? {c : KindMsg kind α} {r : KindMsg .response α}
    (h : e.anslpResponse? c = some r) :
    e.ofKind? .response = some r ∧ c.body.hasMsgSequenceNumber = true ∧
      r.body.hasMsgSequenceNumber = true ∧
      r.body.getMsgSequenceNumber = c.body.getMsgSequenceNumber := by
  obtain ⟨hr, htest⟩ := Option.filter_eq_some_iff.mp h
  simp only [Bool.and_eq_true, AnslpMsg.isResponseTo, beq_iff_eq] at htest
  exact ⟨hr, htest.1.1, htest.1.2, htest.2⟩

end MsgEvent

/-! ## Dispatcher -/

/-- The configuration of a node, as far as sessions read it. -/
structure AnslpConfig where
  niResponseTimeout : UInt32
  niMaxRetries : UInt32
  niMsgHopCount : UInt32
  nfMaxSessionLifetime : UInt32
  nrMaxSessionLifetime : UInt32
  nrMaxRetries : UInt32
  nrResponseTimeout : UInt32
  installAuctionRules : Bool
  nfEdge : Bool

/-- What the surroundings of a session answer during one call: the authorization, the
errors that the installer throws, the identifiers of the timers started and the keys
generated, both in their order, and the timeout computed from a random number for a
refresh interval. -/
structure Dispatcher (α : Type) where
  isAuthorized : MsgEvent α → Bool
  checkError : SessionId → ObjectList α → Option RequestError
  installError : SessionId → AuctionRule α → Option RequestError
  removeError : SessionId → AuctionRule α → Option RequestError
  interactionError : SessionId → AuctionRule α → Option RequestError
  responseError : SessionId → AuctionRule α → Option RequestError
  startTimer : Nat → Nat
  newKey : Nat → MspecRuleKey
  randomTimeout : UInt32 → Nat

/-- A message put into the queue of a user. -/
inductive QueueMessage
  | addAnslpSession (requestId : String) (sid : SessionId)
  | anslpEvent (sid : SessionId)
deriving DecidableEq, Repr

/-- What a session does to its surroundings. -/
inductive Effect (α : Type)
  | sendMessage (m : NtlpMsg α)
  | startTimer (id : Nat) (seconds : UInt32)
  | reportAsyncEvent (text : String)
  | check (objects : ObjectList α)
  | installAuctionRules (rule : AuctionRule α)
  | removeAuctionRules (rule : AuctionRule α)
  | auctionInteraction (server : Bool) (rule : AuctionRule α)
  | sendResponse (rule : AuctionRule α)
  | enqueue (m : QueueMessage)
  | receiveAnswer (sid : SessionId) (mri : Mri)

/-- The message an effect sends. -/
@[simp]
def Effect.sent? {α : Type} : Effect α → Option (NtlpMsg α)
  | sendMessage m => some m
  | _ => none

/-- Undefined behaviour: a failed assertion, a null pointer used as an object, a function
that ends without a result, an iterator that leaves its map, a number converted to a type
without room for it, an object used or deleted after it was deleted; or a loop or a wait
that does not end. -/
inductive Fault
  | assertion
  | nullPointer
  | noResult
  | iterator
  | conversion
  | deleted
  | endless
deriving DecidableEq, Repr

/-- How a call of {lit}`process_event` ends. -/
inductive Outcome (σ α : Type)
  | next (s : σ) (effects : List (Effect α))
  | thrown (e : RequestError) (s : σ) (effects : List (Effect α))
  | undefined (f : Fault)

namespace Outcome

variable {σ α : Type}

/-- The session after a call that returned. -/
def next? : Outcome σ α → Option σ
  | next s _ => some s
  | _ => none

/-- The session after a call that returned or threw. -/
def left? : Outcome σ α → Option σ
  | next s _ => some s
  | thrown _ s _ => some s
  | undefined _ => none

/-- What the call did to its surroundings. -/
def effects : Outcome σ α → List (Effect α)
  | next _ effects => effects
  | thrown _ _ effects => effects
  | undefined _ => []

/-- The messages the call sent. -/
def sent (o : Outcome σ α) : List (NtlpMsg α) :=
  o.effects.filterMap Effect.sent?

/-- The outcome for a session that is part of another one. -/
def map {τ : Type} (f : σ → τ) : Outcome σ α → Outcome τ α
  | next s effects => next (f s) effects
  | thrown e s effects => thrown e (f s) effects
  | undefined u => undefined u

/-- Continue with the effects of what happened before. -/
def after (effects : List (Effect α)) : Outcome σ α → Outcome σ α
  | next s effects' => next s (effects ++ effects')
  | thrown e s effects' => thrown e s (effects ++ effects')
  | undefined f => undefined f

theorem left?_map {τ : Type} (f : σ → τ) (o : Outcome σ α) :
    (o.map f).left? = o.left?.map f := by
  cases o <;> rfl

theorem after_nil (o : Outcome σ α) : o.after [] = o := by
  cases o <;> rfl

end Outcome

/-- A state machine as a transition system: it goes on as long as calls return. -/
def machine {σ α : Type} (processEvent : Dispatcher α → σ → Event α → Outcome σ α) :
    Transition.System σ (Dispatcher α × Event α) (Outcome σ α) :=
  fun s input => (processEvent input.1 s input.2, (processEvent input.1 s input.2).next?)

/-- A recorded step of a machine is a call that returned. -/
theorem next_of_machine {σ α : Type} {processEvent : Dispatcher α → σ → Event α → Outcome σ α}
    {s s' : σ} {input : Dispatcher α × Event α} {o : Outcome σ α}
    (h : machine processEvent s input = (o, some s')) :
    processEvent input.1 s input.2 = .next s' o.effects := by
  obtain ⟨ho, hs'⟩ := Prod.mk.inj h
  rw [ho] at hs'
  cases o with
  | next t effects =>
      cases hs'
      exact ho
  | thrown exp t effects => cases hs'
  | undefined f => cases hs'

/-- A call that returns extends a run of the machine. -/
theorem run_snoc_of_next {σ α : Type} {processEvent : Dispatcher α → σ → Event α → Outcome σ α}
    {s t u : σ} {trace : List (Transition.Step σ (Dispatcher α × Event α) (Outcome σ α))}
    {d : Dispatcher α} {evt : Event α} (hrun : Transition.Run (machine processEvent) s trace t)
    (h : (processEvent d t evt).next? = some u) :
    Transition.Run (machine processEvent) s
      (trace ++ [⟨t, (d, evt), processEvent d t evt, u⟩]) u :=
  hrun.snoc (Prod.ext rfl h)

/-- A counter below its bound does not overflow. -/
theorem toNat_add_one_of_lt {count bound : UInt32} (h : count < bound) :
    (count + 1).toNat = count.toNat + 1 := by
  rw [UInt32.toNat_add, UInt32.toNat_one]
  exact Nat.mod_eq_of_lt (Nat.lt_of_le_of_lt (UInt32.lt_iff_toNat_lt.mp h) bound.toNat_lt)

/-! ## Checks of a session -/

/-- The roles of a session. -/
inductive SessionType
  | initiator
  | forwarder
  | receiver
deriving DecidableEq, Repr

/-- Selections of auctioning entities. -/
def smeAll : UInt32 := 1
def smeAny : UInt32 := 2
def smeFirst : UInt32 := 3
def smeLast : UInt32 := 4
def smeFirstLast : UInt32 := 5

namespace Session

variable {α : Type}

/-- Whether a lifetime is small enough; too large a one is overridden by the largest. -/
def checkLifetime (lifetime maxLifetime : UInt32) : Bool :=
  decide (lifetime ≤ maxLifetime)

/-- The error thrown for a message that is not authorized. -/
def authorizationError : RequestError :=
  ⟨scPermanentFailure, failAuthenticationFailed⟩

/-- The error thrown without a path-coupled routing. -/
def mriError : RequestError :=
  ⟨scPermanentFailure, failConfigurationFailed⟩

/-- The lifetime of a CREATE or REFRESH after the checks before it is processed: the
lifetime is checked first, and one that is overridden leaves the authorization
unchecked. -/
def checkRequest (d : Dispatcher α) (e : MsgEvent α) (lifetime maxLifetime : UInt32) :
    Except RequestError UInt32 :=
  if checkLifetime lifetime maxLifetime then
    if d.isAuthorized e then .ok lifetime else .error authorizationError
  else .ok maxLifetime

/-- A request fails the checks exactly when its lifetime is small enough and it is not
authorized. -/
theorem checkRequest_eq_error_iff {d : Dispatcher α} {e : MsgEvent α}
    {lifetime maxLifetime : UInt32} {exp : RequestError} :
    checkRequest d e lifetime maxLifetime = .error exp ↔
      lifetime ≤ maxLifetime ∧ d.isAuthorized e = false ∧ exp = authorizationError := by
  by_cases hle : lifetime ≤ maxLifetime
  · cases hauthorized : d.isAuthorized e with
    | true => simp [checkRequest, checkLifetime, hle, hauthorized]
    | false =>
        simp only [checkRequest, checkLifetime, hle, hauthorized, decide_true, if_true,
          Bool.false_eq_true, if_false, Except.error.injEq, true_and]
        exact eq_comm
  · simp [checkRequest, checkLifetime, hle]

/-- A lifetime that is too large is overridden, whoever asks for it. -/
theorem checkRequest_of_not_le {d : Dispatcher α} {e : MsgEvent α}
    {lifetime maxLifetime : UInt32} (h : ¬ lifetime ≤ maxLifetime) :
    checkRequest d e lifetime maxLifetime = .ok maxLifetime := by
  simp [checkRequest, checkLifetime, h]

/-- Whether a session of a role takes part for a selection of auctioning entities. -/
def checkParticipating (type : SessionType) (sme : UInt32) : Bool :=
  match type with
  | .initiator => sme == smeAll || sme == smeAny || sme == smeFirst || sme == smeFirstLast
  | .forwarder => sme == smeAll || sme == smeAny
  | .receiver => sme == smeAll || sme == smeAny || sme == smeFirstLast || sme == smeLast

/-- What became of the request to check the objects of a rule. -/
inductive CheckResult
  | participating
  | notParticipating
  | error (e : RequestError)

/-- The effects of the request. -/
def CheckResult.effects (objects : ObjectList α) : CheckResult → List (Effect α)
  | .notParticipating => []
  | _ => [.check objects]

/-- Ask the installer to check the objects of a rule, if the session takes part and the
node installs rules. -/
def checkRule (conf : AnslpConfig) (d : Dispatcher α) (type : SessionType) (sid : SessionId)
    (sme : UInt32) (objects : ObjectList α) : CheckResult :=
  if checkParticipating type sme && conf.installAuctionRules then
    match d.checkError sid objects with
    | some e => .error e
    | none => .participating
  else .notParticipating

theorem checkError_of_checkRule {conf : AnslpConfig} {d : Dispatcher α} {type : SessionType}
    {sid : SessionId} {sme : UInt32} {objects : ObjectList α} {exp : RequestError}
    (h : checkRule conf d type sid sme objects = .error exp) :
    d.checkError sid objects = some exp := by
  unfold checkRule at h
  split_ifs at h
  cases hexp : d.checkError sid objects with
  | none =>
      rw [hexp] at h
      cases h
  | some e =>
      rw [hexp] at h
      cases h
      rfl

theorem of_checkRule_notParticipating {conf : AnslpConfig} {d : Dispatcher α}
    {type : SessionType} {sid : SessionId} {sme : UInt32} {objects : ObjectList α}
    (h : checkRule conf d type sid sme objects = .notParticipating) :
    (checkParticipating type sme && conf.installAuctionRules) = false := by
  unfold checkRule at h
  split_ifs at h with hparticipating
  · split at h <;> cases h
  · exact Bool.eq_false_iff.mpr hparticipating

/-- The rule of a bidding is handed to the auction; an error of the installer escapes. -/
def interact {σ : Type} (d : Dispatcher α) (sid : SessionId) (server : Bool) (s : σ)
    (bidding : AnslpMsg α) : Outcome σ α :=
  match bidding.getMspecObjects with
  | .error _ => .undefined .nullPointer
  | .ok objects =>
      let toPost := AuctionRule.ofRequestObjects d.newKey objects
      match d.interactionError sid toPost with
      | some e => .thrown e s [.auctionInteraction server toPost]
      | none => .next s [.auctionInteraction server toPost]

end Session

/-! ## A sample node -/

namespace Sample

/-- A node that allows three retries and installs no rules. -/
def conf : AnslpConfig where
  niResponseTimeout := 2
  niMaxRetries := 3
  niMsgHopCount := 10
  nfMaxSessionLifetime := 60
  nrMaxSessionLifetime := 60
  nrMaxRetries := 3
  nrResponseTimeout := 2
  installAuctionRules := false
  nfEdge := false

/-- Surroundings without errors. -/
def surroundings : Dispatcher RawIpap where
  isAuthorized _ := true
  checkError _ _ := none
  installError _ _ := none
  removeError _ _ := none
  interactionError _ _ := none
  responseError _ _ := none
  startTimer i := i + 1
  newKey i := BitVec.ofNat 128 i
  randomTimeout r := r.toNat

/-- A user asks for a session of 30 seconds. -/
def request : ApiCreateEvent RawIpap where
  sessionId := "request"
  sourceAddr := 1
  destAddr := 2
  sourcePort := 0
  destPort := 0
  protocol := 0
  sessionLifetime := 30
  selAuctEntities := smeAny
  mspecObjects := OrderedMap.empty
  hasReturnQueue := true

/-- An object to auction. -/
def object : MspecObject RawIpap :=
  ⟨.mandatory, ⟨[0, 0, 0, 4], RawIpap.four_le_length_new, RawIpap.declaredLength_new⟩⟩

end Sample
end Anslp
