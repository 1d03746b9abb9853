import Anslp.Session.Basic

/-!
# The session of a forwarder

The state machine of {lit}`nf_session`.

Main results:

- Theorem {lit}`transits_of_processEvent`: every call of {lit}`process_event` that
  returns makes one of the transitions of the table.
- Theorem {lit}`ended_processEvent`: the ways a call can end.

Current gaps:

- Log statements are left out.
-/

namespace Anslp

/-- The states of a forwarder. -/
inductive NfState
  | close
  | pendingCheck
  | pending
  | pendingInstalling
  | auctioning
  | pendingTeardown
deriving DecidableEq, Repr

/-- The session of a forwarder. -/
structure NfSession (α : Type) where
  id : SessionId
  state : NfState
  lifetime : UInt32
  maxLifetime : UInt32
  responseTimeout : UInt32
  stateTimer : Nat
  responseTimer : Nat
  niMri : Option Mri
  nrMri : Option Mri
  createMessage : Option (KindMsg .create α)
  refreshMessage : Option (KindMsg .refresh α)
  responseMessage : Option (KindMsg .response α)
  rule : AuctionRule α
  msn : UInt32

namespace NfSession

variable {α : Type}

open Session

/-- A new session. -/
def new (id : SessionId) : NfSession α where
  id := id
  state := .close
  lifetime := 0
  maxLifetime := 0
  responseTimeout := 0
  stateTimer := 0
  responseTimer := 0
  niMri := none
  nrMri := none
  createMessage := none
  refreshMessage := none
  responseMessage := none
  rule := AuctionRule.empty
  msn := 0

/-- Whether the session has ended. -/
def isFinal (s : NfSession α) : Bool :=
  s.state = .close

/-! ## Parts of the handlers -/

/-- The CREATE that is passed on: the smaller lifetime, the sequence number, selection and
hop count of the one received, and the given objects. -/
def buildCreateMessage (s : NfSession α) (nrMri : Mri) (c : AnslpMsg α)
    (missingObjects : List (MspecObject α)) : NtlpMsg α :=
  let lifetime :=
    if s.lifetime ≤ c.getSessionLifetime then s.lifetime else c.getSessionLifetime
  let create := (((AnslpMsg.new .create).setSessionLifetime lifetime).setMsgSequenceNumber
    c.getMsgSequenceNumber).setSelectionAuctioningEntities c.getSelectionAuctioningEntities
  let create := create.setMessageHopCount c.getMessageHopCount
  ⟨s.id, some (create.setMspecObjects missingObjects), nrMri, 0⟩

/-- The REFRESH without a lifetime that tears down what was set up downstream. -/
def buildTeardownMessage (s : NfSession α) (nrMri : Mri) : NtlpMsg α :=
  let refresh := (AnslpMsg.new .refresh).setSessionLifetime 0
  ⟨s.id, some (refresh.setMsgSequenceNumber (s.msn + 1)), nrMri, 0⟩

/-- The RESPONSE for the initiator: the one received with the objects installed here. -/
def buildResponse (s : NfSession α) (r : KindMsg .response α) : NtlpMsg α :=
  ⟨s.id, some (r.body.setMspecObjects s.rule.objectResponses.values), r.ntlpMsg.routingInfo, 0⟩

/-- What the rule of a CREATE leads to: the installer checks it, or the CREATE is passed
on at once. -/
def checkOrPass (conf : AnslpConfig) (d : Dispatcher α) (s : NfSession α) (nrMri : Mri)
    (c : KindMsg .create α) (missingObjects : List (MspecObject α)) :
    Outcome (NfSession α) α :=
  match checkRule conf d .forwarder s.id c.body.getSelectionAuctioningEntities
      s.rule.objectRequests with
  | .participating =>
      .next { s with stateTimer := d.startTimer 0, state := .pendingCheck }
        [.check s.rule.objectRequests, .startTimer (d.startTimer 0) s.lifetime]
  | .notParticipating =>
      .next { s with stateTimer := d.startTimer 0, state := .pending }
        [.sendMessage (s.buildCreateMessage nrMri c.body missingObjects),
          .startTimer (d.startTimer 0) s.lifetime]
  | .error exp =>
      .next { s with state := .close }
        [.check s.rule.objectRequests, .sendMessage (c.ntlpMsg.createErrorResponse exp)]

/-- Process a CREATE that sets the session up, or sets it up again. -/
def processStateClose (conf : AnslpConfig) (d : Dispatcher α) (s : NfSession α)
    (c : KindMsg .create α) : Outcome (NfSession α) α :=
  let s := { s with createMessage := some c }
  match c.ntlpMsg.routingInfo with
  | .other _ _ =>
      .next { s with state := .close } [.sendMessage (c.ntlpMsg.createErrorResponse mriError)]
  | .pathcoupled flow downstream =>
      if !downstream then .undefined .assertion
      else
        let mri := Mri.pathcoupled flow downstream
        let s := { s with nrMri := some mri, niMri := some mri.invertDirection }
        match c.body.getMspecObjects with
        | .error _ => .undefined .nullPointer
        | .ok missingObjects =>
            let rule := s.rule.resetRequestObjects d.newKey missingObjects
            { s with rule := rule }.checkOrPass conf d mri c missingObjects

/-- Remove the installed rule and wait for this to be confirmed; without installed objects
close at once. -/
def removeOrClose (d : Dispatcher α) (s : NfSession α) (seconds : UInt32) :
    Outcome (NfSession α) α :=
  if s.rule.getNumberMspecResponseObjects > 0 then
    match d.removeError s.id s.rule with
    | some e => .thrown e s [.removeAuctionRules s.rule]
    | none =>
        .next { s with stateTimer := d.startTimer 0, state := .pendingTeardown }
          [.removeAuctionRules s.rule, .startTimer (d.startTimer 0) seconds]
  else .next { s with stateTimer := 0, state := .close } []

/-- A bidding for this node goes to the auction, any other one is passed on. -/
def processBidding (d : Dispatcher α) (s : NfSession α) (e : MsgEvent α)
    (b : KindMsg .bidding α) : Outcome (NfSession α) α :=
  if e.forThisNode then interact d s.id true s b.body
  else .next s [.sendMessage b.ntlpMsg.copyForForwarding]

/-! ## Handlers -/

/-- CLOSE: a CREATE starts the session.  For any other event the function has no
result. -/
def handleStateClose (conf : AnslpConfig) (d : Dispatcher α) (s : NfSession α)
    (evt : Event α) : Outcome (NfSession α) α :=
  match evt with
  | .msg e =>
      match e.ofKind? .create with
      | none => .undefined .noResult
      | some c =>
          let s := { s with
            maxLifetime := conf.nfMaxSessionLifetime
            responseTimeout := conf.nfMaxSessionLifetime }
          match checkRequest d e c.body.getSessionLifetime s.maxLifetime with
          | .error exp => .next s [.sendMessage (c.ntlpMsg.createErrorResponse exp)]
          | .ok lifetime =>
              if lifetime = 0 then .next s []
              else
                { s with
                  lifetime := lifetime
                  msn := c.body.getMsgSequenceNumber }.processStateClose conf d c
  | _ => .undefined .noResult

/-- A CREATE while another one is pending: the initiator gives up, sends it again, or
replaces it.  Only in PENDING_CHECK a repeated one is not passed on. -/
def processPendingCreate (conf : AnslpConfig) (d : Dispatcher α) (s : NfSession α)
    (e : MsgEvent α) (c : KindMsg .create α) : Outcome (NfSession α) α :=
  match s.createMessage with
  | none => .undefined .assertion
  | some previous =>
      if !d.isAuthorized e then
        .next s [.sendMessage (c.ntlpMsg.createErrorResponse authorizationError)]
      else if c.body.getMsgSequenceNumber > previous.body.getMsgSequenceNumber
          ∧ c.body.getSessionLifetime = 0 then
        .next { s with stateTimer := 0, state := .close }
          [.sendMessage c.ntlpMsg.copyForForwarding]
      else if c.body.getMsgSequenceNumber = previous.body.getMsgSequenceNumber then
        .next { s with stateTimer := d.startTimer 0 }
          ((if s.state = .pendingCheck then [] else [.sendMessage c.ntlpMsg.copyForForwarding])
            ++ [.startTimer (d.startTimer 0) s.responseTimeout])
      else
        { s with
          lifetime := c.body.getSessionLifetime
          msn := c.body.getMsgSequenceNumber }.processStateClose conf d c

/-- No answer from downstream: the pending CREATE is answered with an error. -/
def giveUp (s : NfSession α) : Outcome (NfSession α) α :=
  match s.createMessage with
  | none => .undefined .assertion
  | some latest =>
      .next { s with state := .close }
        [.sendMessage (latest.ntlpMsg.createResponse scPermanentFailure failNrNotReached)]

/-- PENDING_CHECK: the reply to the check is waited for. -/
def handleStatePendingCheck (conf : AnslpConfig) (d : Dispatcher α) (s : NfSession α)
    (evt : Event α) : Outcome (NfSession α) α :=
  match evt with
  | .msg e =>
      match e.ofKind? .create with
      | some c => s.processPendingCreate conf d e c
      | none => .next s []
  | .noNextNodeFound => s.giveUp
  | .timer id => if id = s.stateTimer then s.giveUp else .next s []
  | .apiCheck mspecObjects =>
      match s.createMessage, s.nrMri with
      | some previous, some nrMri =>
          match previous.body.getMspecObjects with
          | .error _ => .undefined .nullPointer
          | .ok missingObjects =>
              match s.rule.objectRequests.eraseMissing mspecObjects with
              | none => .undefined .iterator
              | some objectRequests =>
                  .next { s with
                      rule := { s.rule with objectRequests := objectRequests }
                      stateTimer := d.startTimer 0
                      state := .pending }
                    [.sendMessage (s.buildCreateMessage nrMri previous.body missingObjects),
                      .startTimer (d.startTimer 0) s.lifetime]
      | _, _ => .undefined .assertion
  | _ => .next s []

/-- PENDING on the RESPONSE to the CREATE. -/
def processResponse (d : Dispatcher α) (s : NfSession α) (r : KindMsg .response α) :
    Outcome (NfSession α) α :=
  if r.body.isSuccess then
    let s := { s with responseTimer := d.startTimer 0, responseMessage := some r }
    let started := Effect.startTimer (d.startTimer 0) s.responseTimeout
    match d.installError s.id s.rule with
    | some e => .thrown e s [started, .installAuctionRules s.rule]
    | none =>
        .next { s with stateTimer := d.startTimer 1, state := .pendingInstalling }
          [started, .installAuctionRules s.rule,
            .startTimer (d.startTimer 1) s.responseTimeout]
  else
    .next { s with stateTimer := 0, state := .close }
      [.sendMessage r.ntlpMsg.copyForForwarding]

/-- PENDING: the RESPONSE from downstream is waited for. -/
def handleStatePending (conf : AnslpConfig) (d : Dispatcher α) (s : NfSession α)
    (evt : Event α) : Outcome (NfSession α) α :=
  match evt with
  | .noNextNodeFound => s.giveUp
  | .timer id => if id = s.stateTimer then s.giveUp else .next s []
  | .msg e =>
      match e.ofKind? .create with
      | some c => s.processPendingCreate conf d e c
      | none =>
          match s.createMessage with
          | none => .undefined .assertion
          | some c =>
              match e.anslpResponse? c with
              | some r => s.processResponse d r
              | none => .next s []
  -- the test for a RESPONSE looks at the stored CREATE for every other event, too
  | _ => if s.createMessage.isNone then .undefined .assertion else .next s []

/-- PENDING_INSTALLING on the reply to the installation. -/
def processInstall (d : Dispatcher α) (s : NfSession α) (r : KindMsg .response α)
    (mspecObjects : ObjectList α) : Outcome (NfSession α) α :=
  if s.rule.getNumberMspecRequestObjects = mspecObjects.size then
    let s := { s with rule := s.rule.setReponseObjects d.newKey mspecObjects }
    .next { s with stateTimer := d.startTimer 0, state := .auctioning }
      [.sendMessage (s.buildResponse r), .startTimer (d.startTimer 0) s.lifetime]
  else
    let s := { s with stateTimer := 0, lifetime := 0 }
    let removal :=
      if s.rule.getNumberMspecResponseObjects > 0 then [.removeAuctionRules s.rule] else []
    match if s.rule.getNumberMspecResponseObjects > 0 then d.removeError s.id s.rule
        else none with
    | some e => .thrown e s removal
    | none =>
        match s.nrMri with
        | none => .undefined .assertion
        | some nrMri =>
            .next { s with msn := s.msn + 1, state := .close }
              (removal ++ [.sendMessage (s.buildTeardownMessage nrMri),
                .sendMessage (r.ntlpMsg.createResponse scPermanentFailure failInternalError)])

/-- PENDING_INSTALLING: the reply to the installation is waited for. -/
def handleStatePendingInstalling (conf : AnslpConfig) (d : Dispatcher α) (s : NfSession α)
    (evt : Event α) : Outcome (NfSession α) α :=
  match evt with
  | .msg e =>
      match e.ofKind? .create with
      | some c => s.processPendingCreate conf d e c
      | none => .next s []
  | .noNextNodeFound => s.giveUp
  | .timer id => if id = s.stateTimer then s.giveUp else .next s []
  | .apiInstall mspecObjects =>
      match s.responseMessage with
      | none => .undefined .assertion
      | some r => s.processInstall d r mspecObjects
  | _ => .next s []

/-- AUCTIONING on a REFRESH. -/
def processRefresh (d : Dispatcher α) (s : NfSession α) (e : MsgEvent α)
    (c : KindMsg .refresh α) : Outcome (NfSession α) α :=
  match checkRequest d e c.body.getSessionLifetime s.maxLifetime with
  | .error exp => .next s [.sendMessage (c.ntlpMsg.createErrorResponse exp)]
  | .ok lifetime =>
      if !isGreaterThan c.body.getMsgSequenceNumber s.msn then
        -- a duplicate
        .next s []
      else
        -- without a lifetime the sequence number is not stored
        .next { s with
            lifetime := lifetime
            msn := if lifetime > 0 then c.body.getMsgSequenceNumber else s.msn
            refreshMessage := some c
            responseTimer := d.startTimer 0 }
          [.sendMessage c.ntlpMsg.copyForForwarding,
            .startTimer (d.startTimer 0) s.responseTimeout]

/-- AUCTIONING on the RESPONSE to a REFRESH. -/
def processRefreshResponse (d : Dispatcher α) (s : NfSession α) (r : KindMsg .response α) :
    Outcome (NfSession α) α :=
  if r.body.isSuccess ∧ s.lifetime ≠ 0 then
    .next { s with stateTimer := d.startTimer 0 }
      [.sendMessage r.ntlpMsg.copyForForwarding, .startTimer (d.startTimer 0) s.lifetime]
  else
    ({ s with stateTimer := 0 }.removeOrClose d s.responseTimeout).after
      [.sendMessage r.ntlpMsg.copyForForwarding]

/-- AUCTIONING: the session is up. -/
def handleStateAuctioning (d : Dispatcher α) (s : NfSession α) (evt : Event α) :
    Outcome (NfSession α) α :=
  match evt with
  | .msg e =>
      match e.ofKind? .refresh with
      | some c => s.processRefresh d e c
      | none =>
          match e.ofKind? .bidding with
          | some b => s.processBidding d e b
          | none =>
              match s.refreshMessage with
              | none => .undefined .assertion
              | some c =>
                  match e.anslpResponse? c with
                  | some r => s.processRefreshResponse d r
                  | none => .next s []
  | .noNextNodeFound => { s with stateTimer := 0 }.removeOrClose d s.lifetime
  | .timer id =>
      if id = s.responseTimer then { s with stateTimer := 0 }.removeOrClose d s.lifetime
      else if id = s.stateTimer then { s with responseTimer := 0 }.removeOrClose d s.lifetime
      else .next s []
  | .routeChangedBad => s.removeOrClose d s.responseTimeout
  -- the test for a RESPONSE looks at the stored REFRESH for every other event, too
  | _ => if s.refreshMessage.isNone then .undefined .assertion else .next s []

/-- PENDING_TEARDOWN: the reply to the removal is waited for. -/
def handleStatePendingTeardown (d : Dispatcher α) (s : NfSession α) (evt : Event α) :
    Outcome (NfSession α) α :=
  match evt with
  | .msg e =>
      match e.ofKind? .refresh with
      | some _ => .next s []
      | none =>
          match e.ofKind? .bidding with
          | some b => s.processBidding d e b
          | none => .next s []
  | .timer id => if id = s.stateTimer then .next { s with state := .close } [] else .next s []
  | .apiRemove _ => .next { s with stateTimer := 0, state := .close } []
  | _ => .next s []

/-- Process an event in the state the session is in. -/
def processEvent (conf : AnslpConfig) (d : Dispatcher α) (s : NfSession α) (evt : Event α) :
    Outcome (NfSession α) α :=
  match s.state with
  | .close => s.handleStateClose conf d evt
  | .pendingCheck => s.handleStatePendingCheck conf d evt
  | .pending => s.handleStatePending conf d evt
  | .pendingInstalling => s.handleStatePendingInstalling conf d evt
  | .auctioning => s.handleStateAuctioning d evt
  | .pendingTeardown => s.handleStatePendingTeardown d evt

/-! ## The transition table -/

/-- The session in CLOSE takes its limits from the configuration. -/
def configured (conf : AnslpConfig) (s : NfSession α) : NfSession α :=
  { s with
    maxLifetime := conf.nfMaxSessionLifetime
    responseTimeout := conf.nfMaxSessionLifetime }

/-- The session with the lifetime and the sequence number of a CREATE. -/
def numbered (s : NfSession α) (c : KindMsg .create α) (lifetime : UInt32) : NfSession α :=
  { s with lifetime := lifetime, msn := c.body.getMsgSequenceNumber }

/-- The session with the routing and the objects of a CREATE. -/
def accepted (d : Dispatcher α) (s : NfSession α) (c : KindMsg .create α) (flow : Flow) :
    NfSession α :=
  { s with
    createMessage := some c
    nrMri := some (.pathcoupled flow true)
    niMri := some (.pathcoupled flow false)
    rule := s.rule.resetRequestObjects d.newKey c.body.mspecObjects }

/-- What processing a CREATE that sets the session up does. -/
inductive SetUp (conf : AnslpConfig) (d : Dispatcher α) (s : NfSession α)
    (c : KindMsg .create α) : NfSession α → List (Effect α) → Prop
  /-- To CLOSE: the routing is not path-coupled. -/
  | notPathcoupled {mrm : UInt8} {downstream : Bool}
      (hmri : c.ntlpMsg.routingInfo = .other mrm downstream) :
      SetUp conf d s c { s with createMessage := some c, state := .close }
        [.sendMessage (c.ntlpMsg.createErrorResponse mriError)]
  /-- To PENDING_CHECK: the installer is asked to check. -/
  | checking {flow : Flow} (hread : c.body.mspecReadable = true)
      (hchecked : checkRule conf d .forwarder s.id c.body.getSelectionAuctioningEntities
        (s.accepted d c flow).rule.objectRequests = .participating) :
      SetUp conf d s c
        { s.accepted d c flow with stateTimer := d.startTimer 0, state := .pendingCheck }
        [.check (s.accepted d c flow).rule.objectRequests,
          .startTimer (d.startTimer 0) s.lifetime]
  /-- To PENDING: the CREATE is passed on. -/
  | passed {flow : Flow} (hread : c.body.mspecReadable = true)
      (hmri : c.ntlpMsg.routingInfo = .pathcoupled flow true)
      (hidle : checkRule conf d .forwarder s.id c.body.getSelectionAuctioningEntities
        (s.accepted d c flow).rule.objectRequests = .notParticipating) :
      SetUp conf d s c { s.accepted d c flow with stateTimer := d.startTimer 0, state := .pending }
        [.sendMessage (s.buildCreateMessage (.pathcoupled flow true) c.body c.body.mspecObjects),
          .startTimer (d.startTimer 0) s.lifetime]
  /-- To CLOSE: the installer refuses to check. -/
  | refused {flow : Flow} {exp : RequestError} (hread : c.body.mspecReadable = true)
      (hexp : d.checkError s.id (s.accepted d c flow).rule.objectRequests = some exp)
      (hmri : c.ntlpMsg.routingInfo = .pathcoupled flow true)
      (hrefused : checkRule conf d .forwarder s.id c.body.getSelectionAuctioningEntities
        (s.accepted d c flow).rule.objectRequests = .error exp) :
      SetUp conf d s c { s.accepted d c flow with state := .close }
        [.check (s.accepted d c flow).rule.objectRequests,
          .sendMessage (c.ntlpMsg.createErrorResponse exp)]

/-- The states in which a CREATE is pending. -/
def IsPending (s : NfSession α) : Prop :=
  s.state = .pendingCheck ∨ s.state = .pending ∨ s.state = .pendingInstalling

/-- The CREATE of an event sets the session up, at first or again. -/
inductive SetsUp (conf : AnslpConfig) (d : Dispatcher α) (s : NfSession α) :
    MsgEvent α → KindMsg .create α → Prop
  | created {e : MsgEvent α} {c : KindMsg .create α} {lifetime : UInt32}
      (hstate : s.state = .close) (hc : e.ofKind? .create = some c)
      (hcheck : checkRequest d e c.body.getSessionLifetime conf.nfMaxSessionLifetime =
        .ok lifetime) (hlifetime : lifetime ≠ 0) : SetsUp conf d s e c
  | replaced {e : MsgEvent α} {c previous : KindMsg .create α} (hstate : s.IsPending)
      (hc : e.ofKind? .create = some c) (hprevious : s.createMessage = some previous)
      (hauthorized : d.isAuthorized e = true)
      (habandoned : ¬ (c.body.getMsgSequenceNumber > previous.body.getMsgSequenceNumber ∧
        c.body.getSessionLifetime = 0))
      (hmsn : c.body.getMsgSequenceNumber ≠ previous.body.getMsgSequenceNumber) :
      SetsUp conf d s e c

/-- Why a session in AUCTIONING ends, what comes before its end, and how long it waits for
the removal. -/
inductive Ends (s : NfSession α) : Event α → List (Effect α) → NfSession α → UInt32 → Prop
  | noNextNode : Ends s .noNextNodeFound [] { s with stateTimer := 0 } s.lifetime
  | responseTimeout {id : Nat} (hid : id = s.responseTimer) :
      Ends s (.timer id) [] { s with stateTimer := 0 } s.lifetime
  | timeout {id : Nat} (hid : id = s.stateTimer) :
      Ends s (.timer id) [] { s with responseTimer := 0 } s.lifetime
  | badRoute : Ends s .routeChangedBad [] s s.responseTimeout
  | response {e : MsgEvent α} {c : KindMsg .refresh α} {r : KindMsg .response α}
      (hc : s.refreshMessage = some c) (hr : e.anslpResponse? c = some r)
      (hdone : ¬ (r.body.isSuccess = true ∧ s.lifetime ≠ 0)) :
      Ends s (.msg e) [.sendMessage r.ntlpMsg.copyForForwarding] { s with stateTimer := 0 }
        s.responseTimeout

/-- The timers whose expiry the handler of the state reacts to. -/
def Consults (s : NfSession α) (id : Nat) : Prop :=
  match s.state with
  | .close => False
  | .auctioning => id = s.responseTimer ∨ id = s.stateTimer
  | _ => id = s.stateTimer

/-- What a call that returns does. -/
inductive Transits (conf : AnslpConfig) (d : Dispatcher α) (s : NfSession α) :
    Event α → NfSession α → List (Effect α) → Prop
  /-- An event that is discarded. -/
  | discarded {evt : Event α} (hstate : s.state ≠ .close)
      (hignored : ∀ id, evt = .timer id → ¬ s.Consults id) : Transits conf d s evt s []
  /-- CLOSE: a CREATE that fails the checks. -/
  | createRejected {e : MsgEvent α} {c : KindMsg .create α} {exp : RequestError}
      (hstate : s.state = .close) (hc : e.ofKind? .create = some c)
      (hcheck : checkRequest d e c.body.getSessionLifetime conf.nfMaxSessionLifetime =
        .error exp) :
      Transits conf d s (.msg e) (s.configured conf)
        [.sendMessage (c.ntlpMsg.createErrorResponse exp)]
  /-- CLOSE: a CREATE without a lifetime. -/
  | createWithoutLifetime {e : MsgEvent α} {c : KindMsg .create α}
      (hstate : s.state = .close) (hc : e.ofKind? .create = some c) :
      Transits conf d s (.msg e) (s.configured conf) []
  /-- CLOSE: a CREATE sets the session up. -/
  | created {e : MsgEvent α} {c : KindMsg .create α} {lifetime : UInt32} {s' : NfSession α}
      {effects : List (Effect α)} (hstate : s.state = .close)
      (hc : e.ofKind? .create = some c)
      (hcheck : checkRequest d e c.body.getSessionLifetime conf.nfMaxSessionLifetime =
        .ok lifetime) (hlifetime : lifetime ≠ 0)
      (hsetUp : SetUp conf d ((s.configured conf).numbered c lifetime) c s' effects) :
      Transits conf d s (.msg e) s' effects
  /-- Pending: a CREATE without authorization. -/
  | pendingRejected {e : MsgEvent α} {c : KindMsg .create α} (hstate : s.IsPending)
      (hc : e.ofKind? .create = some c) (hauthorized : d.isAuthorized e = false) :
      Transits conf d s (.msg e) s
        [.sendMessage (c.ntlpMsg.createErrorResponse authorizationError)]
  /-- Pending to CLOSE: the initiator gives up. -/
  | abandoned {e : MsgEvent α} {c previous : KindMsg .create α} (hstate : s.IsPending)
      (hc : e.ofKind? .create = some c) (hlifetime : c.body.getSessionLifetime = 0)
      (hprevious : s.createMessage = some previous) (hauthorized : d.isAuthorized e = true)
      (hmsn : c.body.getMsgSequenceNumber > previous.body.getMsgSequenceNumber) :
      Transits conf d s (.msg e) { s with stateTimer := 0, state := .close }
        [.sendMessage c.ntlpMsg.copyForForwarding]
  /-- Pending: the initiator sends its CREATE again. -/
  | repeated {e : MsgEvent α} {c previous : KindMsg .create α} {passedOn : List (Effect α)}
      (hstate : s.IsPending) (hc : e.ofKind? .create = some c)
      (hpassedOn : passedOn = if s.state = .pendingCheck then [] else
        [.sendMessage c.ntlpMsg.copyForForwarding])
      (hprevious : s.createMessage = some previous) (hauthorized : d.isAuthorized e = true)
      (hmsn : c.body.getMsgSequenceNumber = previous.body.getMsgSequenceNumber) :
      Transits conf d s (.msg e) { s with stateTimer := d.startTimer 0 }
        (passedOn ++ [.startTimer (d.startTimer 0) s.responseTimeout])
  /-- Pending: a CREATE that replaces the one before. -/
  | replaced {e : MsgEvent α} {c : KindMsg .create α} {s' : NfSession α}
      {effects : List (Effect α)} (hstate : s.IsPending) (hc : e.ofKind? .create = some c)
      (hsetUp : SetUp conf d (s.numbered c c.body.getSessionLifetime) c s' effects)
      (hsets : s.SetsUp conf d e c) : Transits conf d s (.msg e) s' effects
  /-- Pending to CLOSE: nothing is heard from downstream. -/
  | givenUp {evt : Event α} {c : KindMsg .create α} (hstate : s.IsPending)
      (hc : s.createMessage = some c)
      (hevt : evt = .noNextNodeFound ∨ evt = .timer s.stateTimer) :
      Transits conf d s evt { s with state := .close }
        [.sendMessage (c.ntlpMsg.createResponse scPermanentFailure failNrNotReached)]
  /-- PENDING_CHECK to PENDING: the CREATE is passed on. -/
  | checked {mspecObjects objectRequests : ObjectList α} {c : KindMsg .create α} {nrMri : Mri}
      (hstate : s.state = .pendingCheck) (hc : s.createMessage = some c)
      (hmri : s.nrMri = some nrMri)
      (herase : s.rule.objectRequests.eraseMissing mspecObjects = some objectRequests) :
      Transits conf d s (.apiCheck mspecObjects)
        { s with
          rule := { s.rule with objectRequests := objectRequests }
          stateTimer := d.startTimer 0
          state := .pending }
        [.sendMessage (s.buildCreateMessage nrMri c.body c.body.mspecObjects),
          .startTimer (d.startTimer 0) s.lifetime]
  /-- PENDING to PENDING_INSTALLING: success downstream. -/
  | responded {e : MsgEvent α} {c : KindMsg .create α} {r : KindMsg .response α}
      (hstate : s.state = .pending) (hc : s.createMessage = some c)
      (hr : e.anslpResponse? c = some r) (hsuccess : r.body.isSuccess = true) :
      Transits conf d s (.msg e)
        { s with
          responseTimer := d.startTimer 0
          responseMessage := some r
          stateTimer := d.startTimer 1
          state := .pendingInstalling }
        [.startTimer (d.startTimer 0) s.responseTimeout, .installAuctionRules s.rule,
          .startTimer (d.startTimer 1) s.responseTimeout]
  /-- PENDING to CLOSE: failure downstream. -/
  | refused {e : MsgEvent α} {c : KindMsg .create α} {r : KindMsg .response α}
      (hstate : s.state = .pending) (hc : s.createMessage = some c)
      (hr : e.anslpResponse? c = some r) (hfailure : r.body.isSuccess = false) :
      Transits conf d s (.msg e) { s with stateTimer := 0, state := .close }
        [.sendMessage r.ntlpMsg.copyForForwarding]
  /-- PENDING_INSTALLING to AUCTIONING: all requested objects are installed. -/
  | installed {mspecObjects : ObjectList α} {r : KindMsg .response α}
      (hstate : s.state = .pendingInstalling) (hr : s.responseMessage = some r)
      (hcount : s.rule.getNumberMspecRequestObjects = mspecObjects.size) :
      Transits conf d s (.apiInstall mspecObjects)
        { s with
          rule := s.rule.setReponseObjects d.newKey mspecObjects
          stateTimer := d.startTimer 0
          state := .auctioning }
        [.sendMessage (({ s with rule := s.rule.setReponseObjects d.newKey mspecObjects }
            : NfSession α).buildResponse r), .startTimer (d.startTimer 0) s.lifetime]
  /-- PENDING_INSTALLING to CLOSE: some object is not installed. -/
  | installFailed {mspecObjects : ObjectList α} {r : KindMsg .response α} {nrMri : Mri}
      {removal : List (Effect α)} (hstate : s.state = .pendingInstalling)
      (hr : s.responseMessage = some r) (hmri : s.nrMri = some nrMri)
      (hcount : s.rule.getNumberMspecRequestObjects ≠ mspecObjects.size)
      (hremoval : removal =
        if s.rule.getNumberMspecResponseObjects > 0 then [.removeAuctionRules s.rule] else [])
      (hremoved : s.rule.getNumberMspecResponseObjects > 0 →
        d.removeError s.id s.rule = none) :
      Transits conf d s (.apiInstall mspecObjects)
        { s with stateTimer := 0, lifetime := 0, msn := s.msn + 1, state := .close }
        (removal ++ [.sendMessage (s.buildTeardownMessage nrMri),
          .sendMessage (r.ntlpMsg.createResponse scPermanentFailure failInternalError)])
  /-- AUCTIONING: a REFRESH that fails the checks. -/
  | refreshRejected {e : MsgEvent α} {c : KindMsg .refresh α} {exp : RequestError}
      (hstate : s.state = .auctioning) (hc : e.ofKind? .refresh = some c)
      (hcheck : checkRequest d e c.body.getSessionLifetime s.maxLifetime = .error exp) :
      Transits conf d s (.msg e) s [.sendMessage (c.ntlpMsg.createErrorResponse exp)]
  /-- AUCTIONING: a REFRESH is passed on. -/
  | refreshed {e : MsgEvent α} {c : KindMsg .refresh α} {lifetime : UInt32}
      (hstate : s.state = .auctioning) (hc : e.ofKind? .refresh = some c)
      (hcheck : checkRequest d e c.body.getSessionLifetime s.maxLifetime = .ok lifetime)
      (hmsn : isGreaterThan c.body.getMsgSequenceNumber s.msn = true) :
      Transits conf d s (.msg e)
        { s with
          lifetime := lifetime
          msn := if lifetime > 0 then c.body.getMsgSequenceNumber else s.msn
          refreshMessage := some c
          responseTimer := d.startTimer 0 }
        [.sendMessage c.ntlpMsg.copyForForwarding,
          .startTimer (d.startTimer 0) s.responseTimeout]
  /-- AUCTIONING: the RESPONSE to a REFRESH is passed on. -/
  | responsePassed {e : MsgEvent α} {c : KindMsg .refresh α} {r : KindMsg .response α}
      (hstate : s.state = .auctioning) (hc : s.refreshMessage = some c)
      (hr : e.anslpResponse? c = some r) :
      Transits conf d s (.msg e) { s with stateTimer := d.startTimer 0 }
        [.sendMessage r.ntlpMsg.copyForForwarding, .startTimer (d.startTimer 0) s.lifetime]
  /-- AUCTIONING to PENDING_TEARDOWN: the rule is to be removed. -/
  | removing {evt : Event α} {before : List (Effect α)} {s₁ : NfSession α} {seconds : UInt32}
      (hstate : s.state = .auctioning) (hends : s.Ends evt before s₁ seconds)
      (hinstalled : s.rule.getNumberMspecResponseObjects > 0) :
      Transits conf d s evt { s₁ with stateTimer := d.startTimer 0, state := .pendingTeardown }
        (before ++ [.removeAuctionRules s₁.rule, .startTimer (d.startTimer 0) seconds])
  /-- AUCTIONING to CLOSE: there is nothing to remove. -/
  | closed {evt : Event α} {before : List (Effect α)} {s₁ : NfSession α} {seconds : UInt32}
      (hstate : s.state = .auctioning) (hends : s.Ends evt before s₁ seconds)
      (hbare : ¬ s.rule.getNumberMspecResponseObjects > 0) :
      Transits conf d s evt { s₁ with stateTimer := 0, state := .close } before
  /-- AUCTIONING or PENDING_TEARDOWN: a bidding is handed to the auction. -/
  | biddingTaken {e : MsgEvent α} {rule : AuctionRule α}
      (hstate : s.state = .auctioning ∨ s.state = .pendingTeardown) :
      Transits conf d s (.msg e) s [.auctionInteraction true rule]
  /-- AUCTIONING or PENDING_TEARDOWN: a bidding is passed on. -/
  | biddingPassed {e : MsgEvent α} {b : KindMsg .bidding α}
      (hstate : s.state = .auctioning ∨ s.state = .pendingTeardown)
      (hb : e.ofKind? .bidding = some b) (hnode : e.forThisNode = false) :
      Transits conf d s (.msg e) s [.sendMessage b.ntlpMsg.copyForForwarding]
  /-- PENDING_TEARDOWN to CLOSE: the time for the removal is over. -/
  | removalTimedOut {id : Nat} (hstate : s.state = .pendingTeardown)
      (hid : id = s.stateTimer) : Transits conf d s (.timer id) { s with state := .close } []
  /-- PENDING_TEARDOWN to CLOSE: the rule is removed. -/
  | removed {mspecObjects : ObjectList α} (hstate : s.state = .pendingTeardown) :
      Transits conf d s (.apiRemove mspecObjects) { s with stateTimer := 0, state := .close } []

/-- What a call that throws has done: the installer refused. -/
inductive Throws (d : Dispatcher α) (s : NfSession α) :
    Event α → NfSession α → List (Effect α) → Prop
  /-- PENDING: success downstream, but nothing can be installed. -/
  | installing {e : MsgEvent α} {c : KindMsg .create α} {r : KindMsg .response α}
      (hstate : s.state = .pending) (hc : s.createMessage = some c)
      (hr : e.anslpResponse? c = some r) (hsuccess : r.body.isSuccess = true) :
      Throws d s (.msg e)
        { s with responseTimer := d.startTimer 0, responseMessage := some r }
        [.startTimer (d.startTimer 0) s.responseTimeout, .installAuctionRules s.rule]
  /-- PENDING_INSTALLING: some object is not installed, and the others cannot be removed. -/
  | installFailed {mspecObjects : ObjectList α} {removal : List (Effect α)}
      (hstate : s.state = .pendingInstalling)
      (hcount : s.rule.getNumberMspecRequestObjects ≠ mspecObjects.size)
      (hremoval : removal =
        if s.rule.getNumberMspecResponseObjects > 0 then [.removeAuctionRules s.rule] else []) :
      Throws d s (.apiInstall mspecObjects) { s with stateTimer := 0, lifetime := 0 } removal
  /-- AUCTIONING: the rule cannot be removed. -/
  | removing {evt : Event α} {before : List (Effect α)} {s₁ : NfSession α} {seconds : UInt32}
      (hstate : s.state = .auctioning) (hends : s.Ends evt before s₁ seconds) :
      Throws d s evt s₁ (before ++ [.removeAuctionRules s₁.rule])
  /-- AUCTIONING or PENDING_TEARDOWN: the auction takes no bidding. -/
  | bidding {e : MsgEvent α} {rule : AuctionRule α}
      (hstate : s.state = .auctioning ∨ s.state = .pendingTeardown) :
      Throws d s (.msg e) s [.auctionInteraction true rule]

/-- What each state relies on: while a CREATE is pending it is stored, with objects that
could be read, as is the routing downstream, and while its rule is installed also the
RESPONSE to it. -/
structure Stored (s : NfSession α) : Prop where
  create : s.IsPending → ∃ c, s.createMessage = some c ∧ c.body.mspecReadable = true
  nrMri : s.IsPending → s.nrMri.isSome = true
  response : s.state = .pendingInstalling → s.responseMessage.isSome = true

/-- The events that are tested for being the RESPONSE to a REFRESH. -/
def IsTested : Event α → Prop
  | .msg e => e.ofKind? .refresh = none ∧ e.ofKind? .bidding = none
  | .noNextNodeFound | .timer _ | .routeChangedBad => False
  | _ => True

/-- The events that make a call undefined in a state where all is stored. -/
inductive Unsafe (conf : AnslpConfig) (d : Dispatcher α) (s : NfSession α) : Event α → Prop
  /-- CLOSE: an event that is not a CREATE. -/
  | noCreate {evt : Event α} (hstate : s.state = .close)
      (hevt : ∀ e c, evt = .msg e → e.ofKind? .create ≠ some c) : Unsafe conf d s evt
  /-- A CREATE that comes from downstream. -/
  | upstream {e : MsgEvent α} {c : KindMsg .create α} {flow : Flow} (hsets : s.SetsUp conf d e c)
      (hmri : c.ntlpMsg.routingInfo = .pathcoupled flow false) : Unsafe conf d s (.msg e)
  /-- A CREATE with an object that is taken for an IPAP message object. -/
  | create {e : MsgEvent α} {c : KindMsg .create α} {flow : Flow} (hsets : s.SetsUp conf d e c)
      (hmri : c.ntlpMsg.routingInfo = .pathcoupled flow true)
      (hread : c.body.mspecReadable = false) : Unsafe conf d s (.msg e)
  /-- PENDING_CHECK: a reply to the check that makes the loop leave the map. -/
  | check {mspecObjects : ObjectList α} (hstate : s.state = .pendingCheck)
      (hodd : s.rule.objectRequests.leadingMissing mspecObjects % 2 = 1) :
      Unsafe conf d s (.apiCheck mspecObjects)
  /-- AUCTIONING: an event tested for being the RESPONSE to a REFRESH before there is one. -/
  | noRefresh {evt : Event α} (hstate : s.state = .auctioning) (hevt : IsTested evt)
      (hrefresh : s.refreshMessage = none) : Unsafe conf d s evt
  /-- AUCTIONING or PENDING_TEARDOWN: a bidding with an object that is taken for an IPAP
  message object. -/
  | bidding {e : MsgEvent α} {b : KindMsg .bidding α}
      (hstate : s.state = .auctioning ∨ s.state = .pendingTeardown)
      (hrefresh : e.ofKind? .refresh = none) (hb : e.ofKind? .bidding = some b)
      (hnode : e.forThisNode = true) (hread : b.body.mspecReadable = false) :
      Unsafe conf d s (.msg e)

/-- How a call ends. -/
inductive Ended (conf : AnslpConfig) (d : Dispatcher α) (s : NfSession α) (evt : Event α) :
    Outcome (NfSession α) α → Prop
  | next {s' : NfSession α} {effects : List (Effect α)}
      (h : Transits conf d s evt s' effects) : Ended conf d s evt (.next s' effects)
  | thrown {exp : RequestError} {s' : NfSession α} {effects : List (Effect α)}
      (h : Throws d s evt s' effects) : Ended conf d s evt (.thrown exp s' effects)
  | undefined {f : Fault} (h : ¬ s.Stored ∨ s.Unsafe conf d evt) :
      Ended conf d s evt (.undefined f)

variable {conf : AnslpConfig} {d : Dispatcher α} {s s' : NfSession α} {evt : Event α}
  {effects : List (Effect α)}

theorem Stored.createMessage_ne_none (h : s.Stored) (hstate : s.IsPending) :
    s.createMessage ≠ none := by
  obtain ⟨c, hc, _⟩ := h.create hstate
  rw [hc]
  exact Option.some_ne_none c

/-- Processing a CREATE that sets the session up, seen from the call it is part of. -/
theorem ended_processStateClose {s₁ : NfSession α} {e : MsgEvent α} {c : KindMsg .create α}
    (hsets : s.SetsUp conf d e c)
    (htransits : ∀ s' effects, SetUp conf d s₁ c s' effects →
      Transits conf d s (.msg e) s' effects) :
    Ended conf d s (.msg e) (s₁.processStateClose conf d c) := by
  unfold processStateClose
  dsimp only
  split
  · exact .next (htransits _ _ (.notPathcoupled ‹_›))
  · rename_i flow downstream hmri
    cases downstream with
    | false => exact .undefined (Or.inr (.upstream hsets hmri))
    | true =>
        rw [AnslpMsg.getMspecObjects_eq]
        simp only [Bool.not_true, Bool.false_eq_true, if_false]
        split_ifs with hread
        · dsimp only
          unfold checkOrPass
          split
          · exact .next (htransits _ _ (.checking hread ‹_›))
          · exact .next (htransits _ _ (.passed hread hmri ‹_›))
          · rename_i exp hexp
            exact .next (htransits _ _
              (.refused hread (checkError_of_checkRule hexp) hmri hexp))
        · exact .undefined (Or.inr (.create hsets hmri (Bool.eq_false_iff.mpr hread)))

theorem ended_handleStateClose (hstate : s.state = .close) :
    Ended conf d s evt (s.handleStateClose conf d evt) := by
  unfold handleStateClose
  split
  · rename_i e
    split
    · rename_i hc
      refine .undefined (Or.inr (.noCreate hstate fun e' c' he => ?_))
      cases he
      rw [hc]
      exact nofun
    · rename_i c hc
      dsimp only
      split
      · rename_i exp hcheck
        exact .next (.createRejected hstate hc hcheck)
      · rename_i lifetime hcheck
        split_ifs with hlifetime
        · exact .next (.createWithoutLifetime hstate hc)
        · exact ended_processStateClose (.created hstate hc hcheck hlifetime)
            fun s' effects h => .created hstate hc hcheck hlifetime h
  · rename_i hmsg
    exact .undefined (Or.inr (.noCreate hstate fun e c he => absurd he (hmsg e)))

theorem consults_iff_of_isPending {id : Nat} (hstate : s.IsPending) :
    s.Consults id ↔ id = s.stateTimer := by
  rcases hstate with hstate | hstate | hstate <;> rw [Consults, hstate]

theorem consults_iff_of_auctioning {id : Nat} (hstate : s.state = .auctioning) :
    s.Consults id ↔ id = s.responseTimer ∨ id = s.stateTimer := by
  rw [Consults, hstate]

theorem consults_iff_of_pendingTeardown {id : Nat} (hstate : s.state = .pendingTeardown) :
    s.Consults id ↔ id = s.stateTimer := by
  rw [Consults, hstate]

theorem IsPending.ne_close (h : s.IsPending) : s.state ≠ .close := by
  rcases h with h | h | h <;> rw [h] <;> exact nofun

theorem ended_processPendingCreate {e : MsgEvent α} {c : KindMsg .create α}
    (hstate : s.IsPending) (hc : e.ofKind? .create = some c) :
    Ended conf d s (.msg e) (s.processPendingCreate conf d e c) := by
  unfold processPendingCreate
  split
  · rename_i hnone
    exact .undefined (Or.inl fun hstored => hstored.createMessage_ne_none hstate hnone)
  · rename_i previous hprevious
    split_ifs with hrejected habandoned hmsn hcheck
    · exact .next (.pendingRejected hstate hc (by simpa using hrejected))
    · exact .next (.abandoned hstate hc habandoned.2 hprevious (by simpa using hrejected)
        habandoned.1)
    · have hauthorized : d.isAuthorized e = true := by simpa using hrejected
      exact .next (.repeated hstate hc (if_pos hcheck).symm hprevious hauthorized hmsn)
    · have hauthorized : d.isAuthorized e = true := by simpa using hrejected
      exact .next (.repeated hstate hc (if_neg hcheck).symm hprevious hauthorized hmsn)
    · have hsets : s.SetsUp conf d e c :=
        .replaced hstate hc hprevious (by simpa using hrejected) habandoned hmsn
      exact ended_processStateClose hsets fun s' effects h => .replaced hstate hc h hsets

/-- A CREATE is processed in the same way in all states in which another one is pending. -/
theorem processEvent_of_isPending {e : MsgEvent α} {c : KindMsg .create α}
    (hstate : s.IsPending) (hc : e.ofKind? .create = some c) :
    s.processEvent conf d (.msg e) = s.processPendingCreate conf d e c := by
  rcases hstate with hstate | hstate | hstate
  · simp only [processEvent, hstate, handleStatePendingCheck, hc]
  · simp only [processEvent, hstate, handleStatePending, hc]
  · simp only [processEvent, hstate, handleStatePendingInstalling, hc]

theorem ended_giveUp (hstate : s.IsPending)
    (hevt : evt = .noNextNodeFound ∨ evt = .timer s.stateTimer) :
    Ended conf d s evt s.giveUp := by
  unfold giveUp
  split
  · rename_i hnone
    exact .undefined (Or.inl fun hstored => hstored.createMessage_ne_none hstate hnone)
  · rename_i latest hlatest
    exact .next (.givenUp hstate hlatest hevt)

theorem ended_handleStatePendingCheck (hstate : s.state = .pendingCheck) :
    Ended conf d s evt (s.handleStatePendingCheck conf d evt) := by
  have hpending : s.IsPending := Or.inl hstate
  unfold handleStatePendingCheck
  split
  · split
    · exact ended_processPendingCreate hpending ‹_›
    · exact .next (.discarded hpending.ne_close nofun)
  · exact ended_giveUp hpending (Or.inl rfl)
  · split_ifs with hid
    · exact ended_giveUp hpending (Or.inr (hid ▸ rfl))
    · exact .next (.discarded hpending.ne_close
        (Event.forall_timer ((consults_iff_of_isPending hpending).not.mpr ‹_›)))
  · split
    · rename_i previous nrMri hprevious hmri
      rw [AnslpMsg.getMspecObjects_eq]
      split_ifs with hread
      · dsimp only
        split
        · rename_i herase
          exact .undefined (Or.inr (.check hstate
            ((ObjectList.eraseMissing_eq_none_iff _ _).mp herase)))
        · rename_i objectRequests herase
          exact .next (.checked hstate hprevious hmri herase)
      · refine .undefined (Or.inl fun hstored => hread ?_)
        obtain ⟨c, hsome, hread'⟩ := hstored.create hpending
        rw [hprevious] at hsome
        cases hsome
        exact hread'
    · rename_i hnone
      refine .undefined (Or.inl fun hstored => ?_)
      obtain ⟨c, hc, _⟩ := hstored.create hpending
      obtain ⟨nrMri, hmri⟩ := Option.isSome_iff_exists.mp (hstored.nrMri hpending)
      exact hnone c nrMri hc hmri
  · rename_i htimer _
    exact .next (.discarded hpending.ne_close fun id h => absurd h (htimer id))

theorem ended_processResponse {e : MsgEvent α} {c : KindMsg .create α}
    {r : KindMsg .response α} (hstate : s.state = .pending) (hc : s.createMessage = some c)
    (hr : e.anslpResponse? c = some r) :
    Ended conf d s (.msg e) (s.processResponse d r) := by
  unfold processResponse
  split_ifs with hsuccess
  · dsimp only
    split
    · exact .thrown (.installing hstate hc hr hsuccess)
    · exact .next (.responded hstate hc hr hsuccess)
  · exact .next (.refused hstate hc hr (Bool.eq_false_iff.mpr hsuccess))

theorem ended_handleStatePending (hstate : s.state = .pending) :
    Ended conf d s evt (s.handleStatePending conf d evt) := by
  have hpending : s.IsPending := Or.inr (Or.inl hstate)
  unfold handleStatePending
  split
  · exact ended_giveUp hpending (Or.inl rfl)
  · split_ifs with hid
    · exact ended_giveUp hpending (Or.inr (hid ▸ rfl))
    · exact .next (.discarded hpending.ne_close
        (Event.forall_timer ((consults_iff_of_isPending hpending).not.mpr ‹_›)))
  · split
    · exact ended_processPendingCreate hpending ‹_›
    · split
      · rename_i hnone
        exact .undefined (Or.inl fun hstored => hstored.createMessage_ne_none hpending hnone)
      · rename_i c hc
        split
        · exact ended_processResponse hstate hc ‹_›
        · exact .next (.discarded hpending.ne_close nofun)
  · rename_i htimer _
    split_ifs with hnone
    · exact .undefined (Or.inl fun hstored =>
        hstored.createMessage_ne_none hpending (Option.isNone_iff_eq_none.mp hnone))
    · exact .next (.discarded hpending.ne_close fun id h => absurd h (htimer id))

theorem ended_processInstall {r : KindMsg .response α} {mspecObjects : ObjectList α}
    (hstate : s.state = .pendingInstalling) (hr : s.responseMessage = some r) :
    Ended conf d s (.apiInstall mspecObjects) (s.processInstall d r mspecObjects) := by
  unfold processInstall
  split_ifs with hcount
  · exact .next (.installed hstate hr hcount)
  · dsimp only
    split
    · exact .thrown (.installFailed hstate hcount rfl)
    · rename_i hremoved
      split
      · rename_i hnone
        refine .undefined (Or.inl fun hstored => ?_)
        have hsome := hstored.nrMri (Or.inr (Or.inr hstate))
        rw [hnone] at hsome
        cases hsome
      · rename_i nrMri hmri
        exact .next (.installFailed hstate hr hmri hcount rfl
          fun hinstalled => (if_pos hinstalled).symm.trans hremoved)

theorem ended_handleStatePendingInstalling (hstate : s.state = .pendingInstalling) :
    Ended conf d s evt (s.handleStatePendingInstalling conf d evt) := by
  have hpending : s.IsPending := Or.inr (Or.inr hstate)
  unfold handleStatePendingInstalling
  split
  · split
    · exact ended_processPendingCreate hpending ‹_›
    · exact .next (.discarded hpending.ne_close nofun)
  · exact ended_giveUp hpending (Or.inl rfl)
  · split_ifs with hid
    · exact ended_giveUp hpending (Or.inr (hid ▸ rfl))
    · exact .next (.discarded hpending.ne_close
        (Event.forall_timer ((consults_iff_of_isPending hpending).not.mpr ‹_›)))
  · split
    · rename_i hnone
      refine .undefined (Or.inl fun hstored => ?_)
      have hsome := hstored.response hstate
      rw [hnone] at hsome
      cases hsome
    · exact ended_processInstall hstate ‹_›
  · rename_i htimer _
    exact .next (.discarded hpending.ne_close fun id h => absurd h (htimer id))

theorem ended_removeOrClose {before : List (Effect α)} {s₁ : NfSession α} {seconds : UInt32}
    (hstate : s.state = .auctioning) (hends : s.Ends evt before s₁ seconds) :
    Ended conf d s evt ((s₁.removeOrClose d seconds).after before) := by
  have hrule : s₁.rule = s.rule := by cases hends <;> rfl
  unfold removeOrClose
  split_ifs with hinstalled
  · split
    · exact .thrown (.removing hstate hends)
    · exact .next (.removing hstate hends (hrule ▸ hinstalled))
  · simp only [Outcome.after, List.append_nil]
    exact .next (.closed hstate hends (hrule ▸ hinstalled))

theorem ended_removeOrClose_nil {s₁ : NfSession α} {seconds : UInt32}
    (hstate : s.state = .auctioning) (hends : s.Ends evt [] s₁ seconds) :
    Ended conf d s evt (s₁.removeOrClose d seconds) := by
  rw [← Outcome.after_nil (removeOrClose _ _ _)]
  exact ended_removeOrClose hstate hends

theorem ended_processBidding {e : MsgEvent α} {b : KindMsg .bidding α}
    (hstate : s.state = .auctioning ∨ s.state = .pendingTeardown)
    (hrefresh : e.ofKind? .refresh = none) (hb : e.ofKind? .bidding = some b) :
    Ended conf d s (.msg e) (s.processBidding d e b) := by
  unfold processBidding
  split_ifs with hnode
  · rw [interact, AnslpMsg.getMspecObjects_eq]
    split_ifs with hread
    · dsimp only
      split
      · exact .thrown (.bidding hstate)
      · exact .next (.biddingTaken hstate)
    · exact .undefined (Or.inr (.bidding hstate hrefresh hb hnode (Bool.eq_false_iff.mpr hread)))
  · exact .next (.biddingPassed hstate hb (Bool.eq_false_iff.mpr hnode))

theorem ended_processRefresh {e : MsgEvent α} {c : KindMsg .refresh α}
    (hstate : s.state = .auctioning) (hc : e.ofKind? .refresh = some c) :
    Ended conf d s (.msg e) (s.processRefresh d e c) := by
  unfold processRefresh
  split
  · rename_i exp hcheck
    exact .next (.refreshRejected hstate hc hcheck)
  · rename_i lifetime hcheck
    by_cases hmsn : isGreaterThan c.body.getMsgSequenceNumber s.msn = true
    · rw [hmsn]
      exact .next (.refreshed hstate hc hcheck hmsn)
    · rw [Bool.eq_false_iff.mpr hmsn]
      exact .next (.discarded (by rw [hstate]; exact nofun) nofun)

theorem ended_handleStateAuctioning (hstate : s.state = .auctioning) :
    Ended conf d s evt (s.handleStateAuctioning d evt) := by
  have hopen : s.state ≠ .close := by rw [hstate]; exact nofun
  unfold handleStateAuctioning
  split
  · rename_i e
    split
    · exact ended_processRefresh hstate ‹_›
    · rename_i hrefresh
      split
      · exact ended_processBidding (Or.inl hstate) hrefresh ‹_›
      · rename_i hbidding
        split
        · exact .undefined (Or.inr (.noRefresh hstate ⟨hrefresh, hbidding⟩ ‹_›))
        · rename_i c hc
          split
          · rename_i r hr
            unfold processRefreshResponse
            split_ifs with hdone
            · exact .next (.responsePassed hstate hc hr)
            · exact ended_removeOrClose hstate (.response hc hr hdone)
          · exact .next (.discarded hopen nofun)
  · exact ended_removeOrClose_nil hstate .noNextNode
  · split_ifs with hid hid'
    · exact ended_removeOrClose_nil hstate (.responseTimeout hid)
    · exact ended_removeOrClose_nil hstate (.timeout hid')
    · exact .next (.discarded hopen (Event.forall_timer
        ((consults_iff_of_auctioning hstate).not.mpr (not_or.mpr ⟨hid, hid'⟩))))
  · exact ended_removeOrClose_nil hstate .badRoute
  · rename_i hmsg hnext htimer hroute
    split_ifs with hnone
    · refine .undefined (Or.inr (.noRefresh hstate ?_ (Option.isNone_iff_eq_none.mp hnone)))
      cases evt with
      | msg e => exact absurd rfl (hmsg e)
      | noNextNodeFound => exact absurd rfl hnext
      | timer id => exact absurd rfl (htimer id)
      | routeChangedBad => exact absurd rfl hroute
      | _ => trivial
    · exact .next (.discarded hopen fun id h => absurd h (htimer id))

theorem ended_handleStatePendingTeardown (hstate : s.state = .pendingTeardown) :
    Ended conf d s evt (s.handleStatePendingTeardown d evt) := by
  have hopen : s.state ≠ .close := by rw [hstate]; exact nofun
  unfold handleStatePendingTeardown
  split
  · split
    · exact .next (.discarded hopen nofun)
    · rename_i hrefresh
      split
      · exact ended_processBidding (Or.inr hstate) hrefresh ‹_›
      · exact .next (.discarded hopen nofun)
  · split_ifs with hid
    · exact .next (.removalTimedOut hstate hid)
    · exact .next (.discarded hopen (Event.forall_timer
        ((consults_iff_of_pendingTeardown hstate).not.mpr hid)))
  · exact .next (.removed hstate)
  · rename_i htimer _
    exact .next (.discarded hopen fun id h => absurd h (htimer id))

/-- Every call makes a transition of the table, throws, or is undefined for a reason. -/
theorem ended_processEvent (conf : AnslpConfig) (d : Dispatcher α) (s : NfSession α)
    (evt : Event α) : Ended conf d s evt (s.processEvent conf d evt) := by
  unfold processEvent
  split
  · exact ended_handleStateClose ‹_›
  · exact ended_handleStatePendingCheck ‹_›
  · exact ended_handleStatePending ‹_›
  · exact ended_handleStatePendingInstalling ‹_›
  · exact ended_handleStateAuctioning ‹_›
  · exact ended_handleStatePendingTeardown ‹_›

/-- Every call that returns makes a transition of the table. -/
theorem transits_of_processEvent (h : s.processEvent conf d evt = .next s' effects) :
    Transits conf d s evt s' effects := by
  have hended := ended_processEvent conf d s evt
  rw [h] at hended
  cases hended
  assumption

theorem SetUp.id_eq {c : KindMsg .create α} (h : SetUp conf d s c s' effects) : s'.id = s.id := by
  cases h <;> rfl

theorem Transits.id_eq (ht : Transits conf d s evt s' effects) : s'.id = s.id := by
  cases ht with
  | created _ _ _ _ hsetUp => exact hsetUp.id_eq
  | replaced _ _ hsetUp => exact hsetUp.id_eq
  | removing _ hends | closed _ hends => cases hends <;> rfl
  | _ => rfl

theorem Throws.id_eq (h : Throws d s evt s' effects) : s'.id = s.id := by
  cases h with
  | removing _ hends => cases hends <;> rfl
  | _ => rfl

theorem Throws.state_eq (h : Throws d s evt s' effects) : s'.state = s.state := by
  cases h with
  | removing _ hends => cases hends <;> rfl
  | _ => rfl

/-- Before AUCTIONING a call that throws has sent nothing. -/
theorem Throws.sent_eq_nil (h : Throws d s evt s' effects) (hstate : s.state ≠ .auctioning) :
    effects.filterMap Effect.sent? = [] := by
  cases h with
  | installing | bidding => rfl
  | installFailed _ _ hremoval =>
      subst hremoval
      split_ifs <;> rfl
  | removing hs => exact absurd hs hstate

/-- A session keeps its identifier. -/
theorem id_of_processEvent (h : (s.processEvent conf d evt).left? = some s') : s'.id = s.id := by
  have hended := ended_processEvent conf d s evt
  generalize s.processEvent conf d evt = o at h hended
  cases hended with
  | next ht =>
      cases h
      exact ht.id_eq
  | thrown hthrows =>
      cases h
      exact hthrows.id_eq
  | undefined => cases h

end NfSession
end Anslp
