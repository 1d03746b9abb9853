import Anslp.Session.Basic

/-!
# The session of an initiator

The state machine of {lit}`ni_session`.

Main results:

- Theorem {lit}`ended_processEvent`: the ways a call can end.
- Theorem {lit}`transits_of_processEvent`: every call of {lit}`process_event` that
  returns makes one of the transitions of the table.

Current gaps:

- Log statements are left out.
-/

namespace Anslp

/-- The states of an initiator. -/
inductive NiState
  | close
  | pending
  | pendingInstalling
  | auctioning
  | pendingTeardown
deriving DecidableEq, Repr

/-- The session of an initiator. -/
structure NiSession (α : Type) where
  id : SessionId
  state : NiState
  routingInfo : Option Mri
  lastCreateMsg : Option (KindMsg .create α)
  lastRefreshMsg : Option (KindMsg .refresh α)
  lastAuctionInstallRule : Option (AuctionRule α)
  lifetime : UInt32
  refreshInterval : UInt32
  responseTimeout : UInt32
  createCounter : UInt32
  refreshCounter : UInt32
  teardownCounter : UInt32
  maxRetries : UInt32
  responseTimer : Nat
  refreshTimer : Nat
  rule : Option (AuctionRule α)
  msn : UInt32
  msgHopCount : UInt32

namespace NiSession

variable {α : Type}

open Session

/-- A new session with a random sequence number. -/
def new (conf : AnslpConfig) (id : SessionId) (random : UInt32) : NiSession α where
  id := id
  state := .close
  routingInfo := none
  lastCreateMsg := none
  lastRefreshMsg := none
  lastAuctionInstallRule := none
  lifetime := 0
  refreshInterval := 20
  responseTimeout := conf.niResponseTimeout
  createCounter := 0
  refreshCounter := 0
  teardownCounter := 0
  maxRetries := conf.niMaxRetries
  responseTimer := 0
  refreshTimer := 0
  rule := some AuctionRule.empty
  msn := random
  msgHopCount := conf.niMsgHopCount

/-- Whether the session has ended. -/
def isFinal (s : NiSession α) : Bool :=
  s.state = .close

/-! ## Messages built -/

/-- The body of a CREATE for the request of a user. -/
def createBody (s : NiSession α) (e : ApiCreateEvent α) : AnslpMsg α :=
  let lifetime := if s.lifetime ≤ e.sessionLifetime then s.lifetime else e.sessionLifetime
  let create := (((AnslpMsg.new .create).setSessionLifetime lifetime).setMsgSequenceNumber
    (s.msn + 1)).setSelectionAuctioningEntities e.selAuctEntities
  (create.setMessageHopCount s.msgHopCount).setMspecObjects e.mspecObjects.values

theorem kind_createBody (s : NiSession α) (e : ApiCreateEvent α) :
    (s.createBody e).kind = .create :=
  AnslpMsg.kind_setMspecObjects _ _

/-- The fixed objects of a CREATE for the request of a user. -/
def createBodies (s : NiSession α) (e : ApiCreateEvent α) : FixedType → Option (Body α)
  | .sessionLifetime =>
      some (.sessionLifetime
        (if s.lifetime ≤ e.sessionLifetime then s.lifetime else e.sessionLifetime))
  | .msgSequenceNumber => some (.msgSequenceNumber (s.msn + 1))
  | .selectionAuctioningEntities => some (.selectionAuctioningEntities e.selAuctEntities)
  | .messageHopCount => some (.messageHopCount s.msgHopCount)
  | _ => none

theorem contents_createBody (s : NiSession α) (e : ApiCreateEvent α)
    (hlen : e.mspecObjects.values.length ≤ maxIpaps) :
    (s.createBody e).Contents (s.createBodies e) e.mspecObjects.values := by
  have hlifetime := (AnslpMsg.contents_new (α := α) .create).setFixed (t := .sessionLifetime)
    (b := .sessionLifetime
      (if s.lifetime ≤ e.sessionLifetime then s.lifetime else e.sessionLifetime)) rfl
  have hmsn := hlifetime.setFixed (b := .msgSequenceNumber (s.msn + 1)) rfl
  have hselection := hmsn.setFixed (b := .selectionAuctioningEntities e.selAuctEntities) rfl
  have hhops := hselection.setFixed (b := .messageHopCount s.msgHopCount) rfl
  have hall := hhops.setMspecObjects e.mspecObjects.values (by simpa using hlen)
  refine hall.congr fun t => ?_
  cases t <;> rfl

/-- The CREATE for the request of a user. -/
def buildCreateMessage (s : NiSession α) (mri : Mri) (e : ApiCreateEvent α) :
    KindMsg .create α :=
  ⟨⟨s.id, some (s.createBody e), mri, 0⟩, s.createBody e, rfl, s.kind_createBody e⟩

/-- The body of a REFRESH. -/
def refreshBody (s : NiSession α) : AnslpMsg α :=
  ((AnslpMsg.new .refresh).setSessionLifetime s.lifetime).setMsgSequenceNumber (s.msn + 1)

/-- The REFRESH with the lifetime of the session and the next sequence number. -/
def buildRefreshMessage (s : NiSession α) (mri : Mri) : KindMsg .refresh α :=
  ⟨⟨s.id, some s.refreshBody, mri, 0⟩, s.refreshBody, rfl, rfl⟩

/-- A bidding of the user, with the next sequence number. -/
def buildBiddingMessage (s : NiSession α) (mri : Mri) (e : ApiBiddingEvent α) : NtlpMsg α :=
  let bidding := (AnslpMsg.new .bidding).setMsgSequenceNumber (s.msn + 1)
  ⟨s.id, some (bidding.setMspecObjects e.mspecObjects.values), mri, 0⟩

/-! ## Parts of the handlers -/

/-- The routing for the flow of a request. -/
def requestedMri (e : ApiCreateEvent α) : Mri :=
  .pathcoupled
    { sourceAddress := e.sourceAddr
      sourcePrefix := 32
      sourcePort := e.sourcePort
      destAddress := e.destAddr
      destPrefix := 32
      destPort := e.destPort
      protocol := e.protocol
      flowLabel := 0
      trafficClass := 0
      spi := 0 }
    true

/-- The lifetime for a request; one of 0 stands for the lifetime the session has. -/
def requestedLifetime (s : NiSession α) (e : ApiCreateEvent α) : UInt32 :=
  if e.sessionLifetime ≠ 0 then e.sessionLifetime else s.lifetime

/-- The lifetime divided by one and a half times the number of retries and a half, rounded
up. -/
def intervalFor (lifetime maxRetries : UInt32) : Nat :=
  (4 * lifetime.toNat + (3 * (2 * maxRetries.toNat + 1) - 1)) / (3 * (2 * maxRetries.toNat + 1))

/-- Initialize the session with the parameters of a request. -/
def setupSession (d : Dispatcher α) (s : NiSession α) (e : ApiCreateEvent α) :
    Except Fault (NiSession α) :=
  let s := { s with
    routingInfo := some (requestedMri e)
    lifetime := s.requestedLifetime e }
  let r := intervalFor s.lifetime s.maxRetries
  if 2 ^ 32 ≤ r then .error .conversion
  else if r = 0 then .error .assertion
  else
    let t := d.randomTimeout (UInt32.ofNat r)
    if 2 ^ 31 ≤ t then .error .conversion
    else .ok { s with refreshInterval := UInt32.ofNat r, responseTimeout := UInt32.ofNat t }

/-- Send a REFRESH without a lifetime and close. -/
def tearDown (s : NiSession α) (before after : List (Effect α)) : Outcome (NiSession α) α :=
  let s := { s with lifetime := 0, lastCreateMsg := none }
  match s.routingInfo with
  | none => .undefined .assertion
  | some mri =>
      .next { s with msn := s.msn + 1, state := .close }
        (before ++ .sendMessage (s.buildRefreshMessage mri).ntlpMsg :: after)

/-- Uninstall what was requested for the last RESPONSE, send a REFRESH without a lifetime
and close. -/
def uninstall (d : Dispatcher α) (s : NiSession α) (after : List (Effect α)) :
    Outcome (NiSession α) α :=
  match s.lastAuctionInstallRule with
  | none => .undefined .nullPointer
  | some rule =>
      if rule.getNumberMspecResponseObjects > 0 then
        match d.removeError s.id rule with
        | some exp =>
            .thrown exp { s with lifetime := 0, lastCreateMsg := none } [.removeAuctionRules rule]
        | none => s.tearDown [.removeAuctionRules rule] after
      else s.tearDown [] after

/-- Remove the installed rule and wait for this to be confirmed; without installed objects
close at once. -/
def removeOrClose (d : Dispatcher α) (s : NiSession α) : Outcome (NiSession α) α :=
  let s := { s with teardownCounter := 0 }
  match s.rule with
  | none => .undefined .nullPointer
  | some rule =>
      if rule.getNumberMspecResponseObjects > 0 then
        match d.removeError s.id rule with
        | some exp => .thrown exp s [.removeAuctionRules rule]
        | none =>
            .next { s with responseTimer := d.startTimer 0, state := .pendingTeardown }
              [.removeAuctionRules rule, .startTimer (d.startTimer 0) s.responseTimeout]
      else .next { s with responseTimer := 0, state := .close } []

/-- A bidding of the user is sent. -/
def processApiBidding (s : NiSession α) (e : ApiBiddingEvent α) : Outcome (NiSession α) α :=
  match s.routingInfo with
  | none => .undefined .nullPointer
  | some mri =>
      .next { s with msn := s.msn + 1 } [.sendMessage (s.buildBiddingMessage mri e)]

/-- A bidding received goes to the auction; an error of the installer is caught and
logged. -/
def processBidding (d : Dispatcher α) (s : NiSession α) (bidding : AnslpMsg α) :
    Outcome (NiSession α) α :=
  match bidding.getMspecObjects with
  | .error _ => .undefined .nullPointer
  | .ok objects =>
      .next s [.auctionInteraction false (AuctionRule.ofRequestObjects d.newKey objects)]

/-! ## Handlers -/

/-- CLOSE: the request of a user starts the session. -/
def handleStateClose (d : Dispatcher α) (s : NiSession α) (evt : Event α) :
    Outcome (NiSession α) α :=
  match evt with
  | .apiCreate e =>
      match s.setupSession d e with
      | .error f => .undefined f
      | .ok s =>
          let create := s.buildCreateMessage (requestedMri e) e
          let s := { s with
            msn := s.msn + 1
            lastCreateMsg := some create
            responseTimer := d.startTimer 0 }
          let effects :=
            [.sendMessage create.ntlpMsg, .startTimer (d.startTimer 0) s.responseTimeout]
          if e.hasReturnQueue then
            .next { s with state := .pending }
              (effects ++ [.enqueue (.addAnslpSession e.sessionId s.id)])
          else .next s effects
  | _ => .next s []

/-- PENDING on a timeout: send the CREATE again, or give up. -/
def retryCreate (d : Dispatcher α) (s : NiSession α) : Outcome (NiSession α) α :=
  if s.createCounter < s.maxRetries then
    match s.lastCreateMsg with
    | none => .undefined .assertion
    | some c =>
        .next { s with createCounter := s.createCounter + 1, responseTimer := d.startTimer 0 }
          [.sendMessage c.ntlpMsg, .startTimer (d.startTimer 0) s.responseTimeout]
  else
    .next { s with state := .close }
      [.reportAsyncEvent "got no response for our Create Message"]

/-- PENDING on the RESPONSE to the CREATE. -/
def processResponse (d : Dispatcher α) (s : NiSession α) (r : KindMsg .response α) :
    Outcome (NiSession α) α :=
  if r.body.isSuccess then
    let lifetime := r.body.getSessionLifetime
    let s := { s with
      responseTimer := d.startTimer 0
      lifetime := lifetime
      refreshInterval := if lifetime ≠ s.lifetime then lifetime * 2 / 3 else s.refreshInterval
      createCounter := 0 }
    match r.body.getMspecObjects with
    | .error _ => .undefined .nullPointer
    | .ok objects =>
        let rule := AuctionRule.ofRequestObjects d.newKey objects
        let s := { s with lastAuctionInstallRule := some rule }
        let effects := [.reportAsyncEvent "CREATE session initiated",
          .startTimer (d.startTimer 0) s.responseTimeout, .sendResponse rule]
        match d.responseError s.id rule with
        | some exp => .thrown exp s effects
        | none => .next { s with state := .pendingInstalling } effects
  else
    .next { s with state := .close } [.reportAsyncEvent "cannot initiate Create session"]

/-- PENDING: the RESPONSE to the CREATE is waited for. -/
def handleStatePending (d : Dispatcher α) (s : NiSession α) (evt : Event α) :
    Outcome (NiSession α) α :=
  match evt with
  | .timer id => if id = s.responseTimer then s.retryCreate d else .next s []
  | .noNextNodeFound => .next { s with state := .close } []
  | .apiTeardown => s.tearDown [] []
  | .msg e =>
      match s.lastCreateMsg with
      | none => .undefined .assertion
      | some c =>
          match e.anslpResponse? c with
          | some r => s.processResponse d r
          | none => .next s []
  -- the test for a RESPONSE looks at the stored CREATE for every other event, too
  | _ => if s.lastCreateMsg.isNone then .undefined .assertion else .next s []

/-- PENDING_INSTALLING on a timeout: hand over the objects again, or give up. -/
def retryResponse (d : Dispatcher α) (s : NiSession α) : Outcome (NiSession α) α :=
  if s.createCounter < s.maxRetries then
    match s.lastAuctionInstallRule with
    | none => .undefined .nullPointer
    | some rule =>
        let s := { s with createCounter := s.createCounter + 1 }
        match d.responseError s.id rule with
        | some exp => .thrown exp s [.sendResponse rule]
        | none =>
            .next { s with responseTimer := d.startTimer 0 }
              [.sendResponse rule, .startTimer (d.startTimer 0) s.responseTimeout]
  else
    { s with rule := none }.uninstall d
      [.reportAsyncEvent "got no response for our Create Message"]

/-- PENDING_INSTALLING: the reply of the installer is waited for. -/
def handleStatePendingInstalling (d : Dispatcher α) (s : NiSession α) (evt : Event α) :
    Outcome (NiSession α) α :=
  match evt with
  | .timer id => if id = s.responseTimer then s.retryResponse d else .next s []
  | .apiTeardown => s.uninstall d []
  | .apiInstall mspecObjects =>
      match s.lastAuctionInstallRule with
      | none => .undefined .nullPointer
      | some rule =>
          if rule.getNumberMspecRequestObjects = mspecObjects.size then
            .next { s with
                rule := some (rule.setReponseObjects d.newKey mspecObjects)
                createCounter := 0
                responseTimer := 0
                refreshTimer := d.startTimer 0
                state := .auctioning }
              [.startTimer (d.startTimer 0) s.refreshInterval]
          else { s with rule := none }.uninstall d []
  | _ => .next s []

/-- AUCTIONING: the session is to be refreshed. -/
def processRefreshTimer (d : Dispatcher α) (s : NiSession α) : Outcome (NiSession α) α :=
  match s.routingInfo with
  | none => .undefined .assertion
  | some mri =>
      let refresh := s.buildRefreshMessage mri
      .next { s with
          msn := s.msn + 1
          lastRefreshMsg := some refresh
          refreshCounter := 0
          responseTimer := d.startTimer 0 }
        [.sendMessage refresh.ntlpMsg, .startTimer (d.startTimer 0) s.responseTimeout]

/-- AUCTIONING on a response timeout: send the REFRESH again, or give up. -/
def retryRefresh (d : Dispatcher α) (s : NiSession α) : Outcome (NiSession α) α :=
  if s.refreshCounter < s.maxRetries then
    match s.lastRefreshMsg with
    | none => .undefined .assertion
    | some c =>
        .next { s with refreshCounter := s.refreshCounter + 1, responseTimer := d.startTimer 0 }
          [.sendMessage c.ntlpMsg, .startTimer (d.startTimer 0) s.responseTimeout]
  else
    (s.removeOrClose d).after [.reportAsyncEvent "got no response to our REFRESH message"]

/-- AUCTIONING on a teardown by the user: the REFRESH for it is sent, and the session waits
for the RESPONSE. -/
def processTeardown (s : NiSession α) : Outcome (NiSession α) α :=
  let s := { s with lifetime := 0 }
  match s.routingInfo with
  | none => .undefined .assertion
  | some mri =>
      let refresh := s.buildRefreshMessage mri
      .next { s with msn := s.msn + 1, lastRefreshMsg := some refresh }
        [.sendMessage refresh.ntlpMsg]

/-- AUCTIONING on the RESPONSE to a REFRESH. -/
def processRefreshResponse (d : Dispatcher α) (s : NiSession α) (r : KindMsg .response α) :
    Outcome (NiSession α) α :=
  if r.body.isSuccess then
    let reported := Effect.reportAsyncEvent "REFRESH successful"
    let s := { s with responseTimer := 0 }
    if s.lifetime = 0 then (s.removeOrClose d).after [reported]
    else
      .next { s with refreshTimer := d.startTimer 0, refreshCounter := 0 }
        [reported, .startTimer (d.startTimer 0) s.refreshInterval]
  else (s.removeOrClose d).after [.reportAsyncEvent "REFRESH session died"]

/-- AUCTIONING: the session is up. -/
def handleStateAuctioning (d : Dispatcher α) (s : NiSession α) (evt : Event α) :
    Outcome (NiSession α) α :=
  match evt with
  | .apiInstall _ => .next s []
  | .timer id =>
      if id = s.refreshTimer then s.processRefreshTimer d
      else if id = s.responseTimer then s.retryRefresh d
      else .next s []
  | .apiTeardown => s.processTeardown
  | .apiBidding e => s.processApiBidding e
  | .msg e =>
      match e.ofKind? .bidding with
      | some b => s.processBidding d b.body
      | none =>
          match s.lastRefreshMsg with
          | none => .undefined .assertion
          | some c =>
              match e.anslpResponse? c with
              | some r => s.processRefreshResponse d r
              | none => .next s []
  -- the test for a RESPONSE looks at the stored REFRESH for every other event, too
  | _ => if s.lastRefreshMsg.isNone then .undefined .assertion else .next s []

/-- PENDING_TEARDOWN on a timeout: remove the rule again, or give up. -/
def retryRemoval (d : Dispatcher α) (s : NiSession α) : Outcome (NiSession α) α :=
  if s.teardownCounter < s.maxRetries then
    match s.rule with
    | none => .undefined .nullPointer
    | some rule =>
        let s := { s with teardownCounter := s.teardownCounter + 1 }
        match d.removeError s.id rule with
        | some exp => .thrown exp s [.removeAuctionRules rule]
        | none =>
            .next { s with responseTimer := d.startTimer 0 }
              [.removeAuctionRules rule, .startTimer (d.startTimer 0) s.responseTimeout]
  else .next { s with state := .close } []

/-- PENDING_TEARDOWN: the reply to the removal is waited for. -/
def handleStatePendingTeardown (d : Dispatcher α) (s : NiSession α) (evt : Event α) :
    Outcome (NiSession α) α :=
  match evt with
  | .apiBidding e => s.processApiBidding e
  | .msg e =>
      match e.ofKind? .bidding with
      | some b => s.processBidding d b.body
      | none => .next s []
  | .timer id => if id = s.responseTimer then s.retryRemoval d else .next s []
  | .apiRemove _ => .next { s with responseTimer := 0, state := .close } []
  | _ => .next s []

/-- Process an event in the state the session is in. -/
def processEvent (d : Dispatcher α) (s : NiSession α) (evt : Event α) :
    Outcome (NiSession α) α :=
  match s.state with
  | .close => s.handleStateClose d evt
  | .pending => s.handleStatePending d evt
  | .pendingInstalling => s.handleStatePendingInstalling d evt
  | .auctioning => s.handleStateAuctioning d evt
  | .pendingTeardown => s.handleStatePendingTeardown d evt

/-! ## The transition table -/

/-- The session with another lifetime. -/
def withLifetime (s : NiSession α) (lifetime : UInt32) : NiSession α :=
  { s with lifetime := lifetime }

/-- The session with the parameters of a request. -/
def setUp (d : Dispatcher α) (s : NiSession α) (e : ApiCreateEvent α) : NiSession α :=
  let r := UInt32.ofNat (intervalFor (s.requestedLifetime e) s.maxRetries)
  { s with
    routingInfo := some (requestedMri e)
    lifetime := s.requestedLifetime e
    refreshInterval := r
    responseTimeout := UInt32.ofNat (d.randomTimeout r) }

/-- The session set up for a request, with the CREATE for it. -/
def created (d : Dispatcher α) (s : NiSession α) (e : ApiCreateEvent α) : NiSession α :=
  { s.setUp d e with
    msn := s.msn + 1
    lastCreateMsg := some ((s.setUp d e).buildCreateMessage (requestedMri e) e)
    responseTimer := d.startTimer 0 }

/-- The session after a successful RESPONSE to its CREATE. -/
def responded (d : Dispatcher α) (s : NiSession α) (r : KindMsg .response α) : NiSession α :=
  { s with
    responseTimer := d.startTimer 0
    lifetime := r.body.getSessionLifetime
    refreshInterval :=
      if r.body.getSessionLifetime ≠ s.lifetime then r.body.getSessionLifetime * 2 / 3
      else s.refreshInterval
    createCounter := 0
    lastAuctionInstallRule := some (AuctionRule.ofRequestObjects d.newKey r.body.mspecObjects) }

/-- Why a session in AUCTIONING ends, and what comes before its end. -/
inductive Ends (s : NiSession α) : Event α → List (Effect α) → NiSession α → Prop
  | timeout {id : Nat} (hid : id = s.responseTimer) (hcount : ¬ s.refreshCounter < s.maxRetries) :
      Ends s (.timer id) [.reportAsyncEvent "got no response to our REFRESH message"] s
  | tornDown {e : MsgEvent α} {c : KindMsg .refresh α} {r : KindMsg .response α}
      (hc : s.lastRefreshMsg = some c) (hr : e.anslpResponse? c = some r)
      (hsuccess : r.body.isSuccess = true) (hlifetime : s.lifetime = 0) :
      Ends s (.msg e) [.reportAsyncEvent "REFRESH successful"] { s with responseTimer := 0 }
  | died {e : MsgEvent α} {c : KindMsg .refresh α} {r : KindMsg .response α}
      (hc : s.lastRefreshMsg = some c) (hr : e.anslpResponse? c = some r)
      (hfailure : r.body.isSuccess = false) :
      Ends s (.msg e) [.reportAsyncEvent "REFRESH session died"] s

/-- The timers whose expiry the handler of the state reacts to. -/
def Consults (s : NiSession α) (id : Nat) : Prop :=
  match s.state with
  | .close => False
  | .auctioning => id = s.refreshTimer ∨ id = s.responseTimer
  | _ => id = s.responseTimer

/-- What a call that returns does. -/
inductive Transits (d : Dispatcher α) (s : NiSession α) :
    Event α → NiSession α → List (Effect α) → Prop
  /-- An event that is discarded. -/
  | discarded {evt : Event α} (hignored : ∀ id, evt = .timer id → ¬ s.Consults id) :
      Transits d s evt s []
  /-- CLOSE to PENDING: a CREATE is sent for a request. -/
  | created {e : ApiCreateEvent α} {told : List (Effect α)} (hstate : s.state = .close)
      (hqueue : e.hasReturnQueue = true)
      (htold : told = [.enqueue (.addAnslpSession e.sessionId s.id)]) :
      Transits d s (.apiCreate e) { s.created d e with state := .pending }
        ([.sendMessage ((s.withLifetime (s.requestedLifetime e)).buildCreateMessage
            (requestedMri e) e).ntlpMsg,
          .startTimer (d.startTimer 0) (s.created d e).responseTimeout] ++ told)
  /-- CLOSE: a CREATE is sent, but there is nobody to tell. -/
  | createdUntold {e : ApiCreateEvent α} (hstate : s.state = .close) :
      Transits d s (.apiCreate e) (s.created d e)
        [.sendMessage ((s.withLifetime (s.requestedLifetime e)).buildCreateMessage
            (requestedMri e) e).ntlpMsg,
          .startTimer (d.startTimer 0) (s.created d e).responseTimeout]
  /-- PENDING: the CREATE is sent again. -/
  | createRetried {id : Nat} {c : KindMsg .create α} (hstate : s.state = .pending)
      (hc : s.lastCreateMsg = some c) (hid : id = s.responseTimer)
      (hcount : s.createCounter < s.maxRetries) :
      Transits d s (.timer id)
        { s with createCounter := s.createCounter + 1, responseTimer := d.startTimer 0 }
        [.sendMessage c.ntlpMsg, .startTimer (d.startTimer 0) s.responseTimeout]
  /-- PENDING to CLOSE: no RESPONSE, a refusal, or nobody to reach. -/
  | failed {evt : Event α} {reported : List (Effect α)} (hstate : s.state = .pending)
      (hreported : ∀ effect ∈ reported, ∃ text, effect = .reportAsyncEvent text) :
      Transits d s evt { s with state := .close } reported
  /-- PENDING to CLOSE: the user tears the session down. -/
  | tornDown {mri : Mri} (hstate : s.state = .pending) (hmri : s.routingInfo = some mri) :
      Transits d s .apiTeardown
        { s with lifetime := 0, lastCreateMsg := none, msn := s.msn + 1, state := .close }
        [.sendMessage ((s.withLifetime 0).buildRefreshMessage mri).ntlpMsg]
  /-- PENDING to PENDING_INSTALLING: the objects of the RESPONSE are handed over. -/
  | responded {e : MsgEvent α} {c : KindMsg .create α} {r : KindMsg .response α}
      (hstate : s.state = .pending) (hc : s.lastCreateMsg = some c)
      (hr : e.anslpResponse? c = some r) (hsuccess : r.body.isSuccess = true) :
      Transits d s (.msg e) { s.responded d r with state := .pendingInstalling }
        [.reportAsyncEvent "CREATE session initiated",
          .startTimer (d.startTimer 0) s.responseTimeout,
          .sendResponse (AuctionRule.ofRequestObjects d.newKey r.body.mspecObjects)]
  /-- PENDING_INSTALLING: the objects are handed over again. -/
  | responseRetried {id : Nat} {rule : AuctionRule α} (hstate : s.state = .pendingInstalling)
      (hrule : s.lastAuctionInstallRule = some rule) (hid : id = s.responseTimer)
      (hcount : s.createCounter < s.maxRetries) :
      Transits d s (.timer id)
        { s with createCounter := s.createCounter + 1, responseTimer := d.startTimer 0 }
        [.sendResponse rule, .startTimer (d.startTimer 0) s.responseTimeout]
  /-- PENDING_INSTALLING to AUCTIONING: all objects are installed. -/
  | installed {mspecObjects : ObjectList α} {rule : AuctionRule α}
      (hstate : s.state = .pendingInstalling) (hrule : s.lastAuctionInstallRule = some rule) :
      Transits d s (.apiInstall mspecObjects)
        { s with
          rule := some (rule.setReponseObjects d.newKey mspecObjects)
          createCounter := 0
          responseTimer := 0
          refreshTimer := d.startTimer 0
          state := .auctioning }
        [.startTimer (d.startTimer 0) s.refreshInterval]
  /-- PENDING_INSTALLING to CLOSE: what was handed over is uninstalled. -/
  | uninstalled {evt : Event α} {rule : AuctionRule α} {own : Option (AuctionRule α)} {mri : Mri}
      {removal reported : List (Effect α)} (hstate : s.state = .pendingInstalling)
      (hrule : s.lastAuctionInstallRule = some rule) (hmri : s.routingInfo = some mri)
      (hremoval : removal =
        if rule.getNumberMspecResponseObjects > 0 then [.removeAuctionRules rule] else [])
      (hreported : ∀ effect ∈ reported, ∃ text, effect = .reportAsyncEvent text) :
      Transits d s evt
        { s with
          rule := own
          lifetime := 0
          lastCreateMsg := none
          msn := s.msn + 1
          state := .close }
        (removal ++ .sendMessage
          ((s.withLifetime 0).buildRefreshMessage mri).ntlpMsg :: reported)
  /-- AUCTIONING: a REFRESH is sent. -/
  | refreshSent {id : Nat} {mri : Mri} (hstate : s.state = .auctioning)
      (hmri : s.routingInfo = some mri) (hid : id = s.refreshTimer) :
      Transits d s (.timer id)
        { s with
          msn := s.msn + 1
          lastRefreshMsg := some (s.buildRefreshMessage mri)
          refreshCounter := 0
          responseTimer := d.startTimer 0 }
        [.sendMessage (s.buildRefreshMessage mri).ntlpMsg,
          .startTimer (d.startTimer 0) s.responseTimeout]
  /-- AUCTIONING: the REFRESH is sent again. -/
  | refreshRetried {id : Nat} {c : KindMsg .refresh α} (hstate : s.state = .auctioning)
      (hc : s.lastRefreshMsg = some c) (hid : id = s.responseTimer)
      (hcount : s.refreshCounter < s.maxRetries) :
      Transits d s (.timer id)
        { s with refreshCounter := s.refreshCounter + 1, responseTimer := d.startTimer 0 }
        [.sendMessage c.ntlpMsg, .startTimer (d.startTimer 0) s.responseTimeout]
  /-- AUCTIONING: the user tears the session down. -/
  | tearingDown {mri : Mri} (hstate : s.state = .auctioning) (hmri : s.routingInfo = some mri) :
      Transits d s .apiTeardown
        { s with
          lifetime := 0
          msn := s.msn + 1
          lastRefreshMsg :=
            some ((s.withLifetime 0).buildRefreshMessage mri) }
        [.sendMessage ((s.withLifetime 0).buildRefreshMessage mri).ntlpMsg]
  /-- AUCTIONING: the REFRESH is confirmed. -/
  | refreshed {e : MsgEvent α} (hstate : s.state = .auctioning) :
      Transits d s (.msg e)
        { s with responseTimer := 0, refreshTimer := d.startTimer 0, refreshCounter := 0 }
        [.reportAsyncEvent "REFRESH successful",
          .startTimer (d.startTimer 0) s.refreshInterval]
  /-- AUCTIONING to PENDING_TEARDOWN: the rule is to be removed. -/
  | removing {evt : Event α} {before : List (Effect α)} {s₁ : NiSession α} {rule : AuctionRule α}
      (hstate : s.state = .auctioning) (hends : s.Ends evt before s₁)
      (hrule : s.rule = some rule) (hinstalled : rule.getNumberMspecResponseObjects > 0) :
      Transits d s evt
        { s₁ with
          teardownCounter := 0
          responseTimer := d.startTimer 0
          state := .pendingTeardown }
        (before ++
          [.removeAuctionRules rule, .startTimer (d.startTimer 0) s₁.responseTimeout])
  /-- AUCTIONING to CLOSE: there is nothing to remove. -/
  | closed {evt : Event α} {before : List (Effect α)} {s₁ : NiSession α} {rule : AuctionRule α}
      (hstate : s.state = .auctioning) (hends : s.Ends evt before s₁)
      (hrule : s.rule = some rule) (hbare : ¬ rule.getNumberMspecResponseObjects > 0) :
      Transits d s evt { s₁ with teardownCounter := 0, responseTimer := 0, state := .close }
        before
  /-- AUCTIONING or PENDING_TEARDOWN: a bidding of the user is sent. -/
  | biddingSent {e : ApiBiddingEvent α} {mri : Mri}
      (hstate : s.state = .auctioning ∨ s.state = .pendingTeardown)
      (hmri : s.routingInfo = some mri) :
      Transits d s (.apiBidding e) { s with msn := s.msn + 1 }
        [.sendMessage (s.buildBiddingMessage mri e)]
  /-- AUCTIONING or PENDING_TEARDOWN: a bidding is handed to the auction. -/
  | biddingTaken {e : MsgEvent α} {rule : AuctionRule α}
      (hstate : s.state = .auctioning ∨ s.state = .pendingTeardown) :
      Transits d s (.msg e) s [.auctionInteraction false rule]
  /-- PENDING_TEARDOWN: the removal is asked for again. -/
  | removalRetried {id : Nat} {rule : AuctionRule α} (hstate : s.state = .pendingTeardown)
      (hrule : s.rule = some rule) (hid : id = s.responseTimer)
      (hcount : s.teardownCounter < s.maxRetries) :
      Transits d s (.timer id)
        { s with teardownCounter := s.teardownCounter + 1, responseTimer := d.startTimer 0 }
        [.removeAuctionRules rule, .startTimer (d.startTimer 0) s.responseTimeout]
  /-- PENDING_TEARDOWN to CLOSE: all retries were in vain, or the rule is removed. -/
  | removed {evt : Event α} {responseTimer : Nat} (hstate : s.state = .pendingTeardown) :
      Transits d s evt { s with responseTimer := responseTimer, state := .close } []

/-- What each state relies on: the routing is stored while the session is open, the CREATE
until it is answered, and the rule from the answer on. -/
structure Stored (s : NiSession α) : Prop where
  routing : s.state ≠ .close → s.routingInfo.isSome = true
  create : s.state = .pending → s.lastCreateMsg.isSome = true
  installRule : s.state = .pendingInstalling → s.lastAuctionInstallRule.isSome = true
  rule : s.state = .auctioning ∨ s.state = .pendingTeardown → s.rule.isSome = true

/-- The events that are tested for being the RESPONSE to a REFRESH. -/
def IsTested : Event α → Prop
  | .msg e => e.ofKind? .bidding = none
  | .apiInstall _ | .timer _ | .apiTeardown | .apiBidding _ => False
  | _ => True

/-- The lifetime for a request is 0, or the intervals for it do not fit their types. -/
def Unfit (d : Dispatcher α) (s : NiSession α) (e : ApiCreateEvent α) : Prop :=
  let r := intervalFor (s.requestedLifetime e) s.maxRetries
  s.requestedLifetime e = 0 ∨ 2 ^ 32 ≤ r ∨ 2 ^ 31 ≤ d.randomTimeout (UInt32.ofNat r)

/-- The events that make a call undefined in a state where all is stored. -/
inductive Unsafe (d : Dispatcher α) (s : NiSession α) : Event α → Prop
  /-- CLOSE: a request without a lifetime in a session that has none, or with one for which
  the intervals do not fit their types. -/
  | create {e : ApiCreateEvent α} (hstate : s.state = .close) (hunfit : s.Unfit d e) :
      Unsafe d s (.apiCreate e)
  /-- PENDING: a successful RESPONSE with an object that is taken for an IPAP message
  object. -/
  | response {e : MsgEvent α} {c : KindMsg .create α} {r : KindMsg .response α}
      (hstate : s.state = .pending) (hc : s.lastCreateMsg = some c)
      (hr : e.anslpResponse? c = some r) (hsuccess : r.body.isSuccess = true)
      (hread : r.body.mspecReadable = false) : Unsafe d s (.msg e)
  /-- AUCTIONING: a response timeout that is to send the REFRESH again before there is
  one. -/
  | timer {id : Nat} (hstate : s.state = .auctioning) (hrefresh : id ≠ s.refreshTimer)
      (hid : id = s.responseTimer) (hcount : s.refreshCounter < s.maxRetries)
      (hnone : s.lastRefreshMsg = none) : Unsafe d s (.timer id)
  /-- AUCTIONING: an event tested for being the RESPONSE to a REFRESH before there is one. -/
  | noRefresh {evt : Event α} (hstate : s.state = .auctioning) (hevt : IsTested evt)
      (hnone : s.lastRefreshMsg = none) : Unsafe d s evt
  /-- AUCTIONING or PENDING_TEARDOWN: a bidding with an object that is taken for an IPAP
  message object. -/
  | bidding {e : MsgEvent α} {b : KindMsg .bidding α}
      (hstate : s.state = .auctioning ∨ s.state = .pendingTeardown)
      (hb : e.ofKind? .bidding = some b) (hread : b.body.mspecReadable = false) :
      Unsafe d s (.msg e)

/-- How a call ends. -/
inductive Ended (d : Dispatcher α) (s : NiSession α) (evt : Event α) :
    Outcome (NiSession α) α → Prop
  | next {s' : NiSession α} {effects : List (Effect α)}
      (h : Transits d s evt s' effects) : Ended d s evt (.next s' effects)
  | thrown {exp : RequestError} {s' : NiSession α} {effects : List (Effect α)}
      (hid : s'.id = s.id) (hstate : s'.state = s.state) : Ended d s evt (.thrown exp s' effects)
  | undefined {f : Fault} (h : ¬ s.Stored ∨ s.Unsafe d evt) : Ended d s evt (.undefined f)

variable {d : Dispatcher α} {s s' : NiSession α} {evt : Event α} {effects : List (Effect α)}

theorem intervalFor_eq_zero_iff (lifetime maxRetries : UInt32) :
    intervalFor lifetime maxRetries = 0 ↔ lifetime = 0 := by
  rw [intervalFor, Nat.div_eq_zero_iff, ← UInt32.toNat_inj, UInt32.toNat_zero]
  omega

theorem setupSession_of_unfit {e : ApiCreateEvent α} (h : s.Unfit d e) :
    ∃ f, s.setupSession d e = .error f := by
  unfold setupSession
  dsimp only
  by_cases hr : 2 ^ 32 ≤ intervalFor (s.requestedLifetime e) s.maxRetries
  · exact ⟨_, if_pos hr⟩
  by_cases hzero : intervalFor (s.requestedLifetime e) s.maxRetries = 0
  · exact ⟨_, by rw [if_neg hr, if_pos hzero]⟩
  have ht : 2 ^ 31 ≤ d.randomTimeout
      (UInt32.ofNat (intervalFor (s.requestedLifetime e) s.maxRetries)) := by
    rcases h with h | h | h
    · exact absurd ((intervalFor_eq_zero_iff _ _).mpr h) hzero
    · exact absurd h hr
    · exact h
  exact ⟨_, by rw [if_neg hr, if_neg hzero, if_pos ht]⟩

theorem setupSession_of_fit {e : ApiCreateEvent α} (h : ¬ s.Unfit d e) :
    s.setupSession d e = .ok (s.setUp d e) := by
  simp only [Unfit, not_or] at h
  obtain ⟨hzero, hr, ht⟩ := h
  have hzero' := (not_congr (intervalFor_eq_zero_iff _ s.maxRetries)).mpr hzero
  unfold setupSession
  dsimp only
  rw [if_neg hr, if_neg hzero', if_neg ht]
  rfl

theorem not_consults_of_close {id : Nat} (hstate : s.state = .close) : ¬ s.Consults id := by
  rw [Consults, hstate]
  exact fun h => h

theorem consults_iff_of_waiting {id : Nat}
    (hstate : s.state = .pending ∨ s.state = .pendingInstalling ∨ s.state = .pendingTeardown) :
    s.Consults id ↔ id = s.responseTimer := by
  rcases hstate with hstate | hstate | hstate <;> rw [Consults, hstate]

theorem consults_iff_of_auctioning {id : Nat} (hstate : s.state = .auctioning) :
    s.Consults id ↔ id = s.refreshTimer ∨ id = s.responseTimer := by
  rw [Consults, hstate]

/-- While the session waits for a RESPONSE or for the installer, only one timer counts. -/
theorem ended_otherTimer {id : Nat}
    (hstate : s.state = .pending ∨ s.state = .pendingInstalling ∨ s.state = .pendingTeardown)
    (hid : id ≠ s.responseTimer) : Ended d s (.timer id) (.next s []) :=
  .next (.discarded (Event.forall_timer ((consults_iff_of_waiting hstate).not.mpr hid)))

theorem ended_handleStateClose (hstate : s.state = .close) :
    Ended d s evt (s.handleStateClose d evt) := by
  unfold handleStateClose
  split
  · rename_i e
    by_cases hunfit : s.Unfit d e
    · obtain ⟨f, hf⟩ := setupSession_of_unfit hunfit
      rw [hf]
      exact .undefined (Or.inr (.create hstate hunfit))
    · rw [setupSession_of_fit hunfit]
      dsimp only
      split_ifs with hqueue
      · exact .next (.created hstate hqueue rfl)
      · exact .next (.createdUntold hstate)
  · exact .next (.discarded fun _ _ => not_consults_of_close hstate)

theorem Stored.routingInfo_ne_none (h : s.Stored) (hstate : s.state ≠ .close) :
    s.routingInfo ≠ none :=
  Option.isSome_iff_ne_none.mp (h.routing hstate)

theorem not_stored_of_lastCreateMsg (hstate : s.state = .pending)
    (hnone : s.lastCreateMsg = none) : ¬ s.Stored := fun hstored =>
  Option.isSome_iff_ne_none.mp (hstored.create hstate) hnone

theorem ended_retryCreate {id : Nat} (hstate : s.state = .pending) (hid : id = s.responseTimer) :
    Ended d s (.timer id) (s.retryCreate d) := by
  unfold retryCreate
  split_ifs with hcount
  · split
    · exact .undefined (Or.inl (not_stored_of_lastCreateMsg hstate ‹_›))
    · exact .next (.createRetried hstate ‹_› hid hcount)
  · exact .next (.failed hstate (by simp))

theorem ended_processResponse {e : MsgEvent α} {c : KindMsg .create α}
    {r : KindMsg .response α} (hstate : s.state = .pending) (hc : s.lastCreateMsg = some c)
    (hr : e.anslpResponse? c = some r) : Ended d s (.msg e) (s.processResponse d r) := by
  unfold processResponse
  split_ifs with hsuccess
  · dsimp only
    rw [AnslpMsg.getMspecObjects_eq]
    by_cases hread : r.body.mspecReadable = true
    · rw [if_pos hread]
      dsimp only
      split
      · exact .thrown rfl rfl
      · exact .next (.responded hstate hc hr hsuccess)
    · rw [if_neg hread]
      exact .undefined (Or.inr (.response hstate hc hr hsuccess (Bool.eq_false_iff.mpr hread)))
  · exact .next (.failed hstate (by simp))

theorem ended_handleStatePending (hstate : s.state = .pending) :
    Ended d s evt (s.handleStatePending d evt) := by
  have hopen : s.state ≠ .close := by rw [hstate]; exact nofun
  unfold handleStatePending
  split
  · split_ifs with hid
    · exact ended_retryCreate hstate hid
    · exact ended_otherTimer (Or.inl hstate) hid
  · exact .next (.failed hstate nofun)
  · unfold tearDown
    dsimp only
    split
    · exact .undefined (Or.inl fun hstored => hstored.routingInfo_ne_none hopen ‹_›)
    · exact .next (.tornDown hstate ‹_›)
  · split
    · exact .undefined (Or.inl (not_stored_of_lastCreateMsg hstate ‹_›))
    · rename_i c hc
      split
      · exact ended_processResponse hstate hc ‹_›
      · exact .next (.discarded nofun)
  · rename_i htimer _ _ _
    split_ifs with hnone
    · exact .undefined (Or.inl
        (not_stored_of_lastCreateMsg hstate (Option.isNone_iff_eq_none.mp hnone)))
    · exact .next (.discarded fun id h => absurd h (htimer id))

/-- Uninstalling, in a session that may have dropped its own rule before. -/
theorem ended_uninstall {own : Option (AuctionRule α)} {reported : List (Effect α)}
    (hstate : s.state = .pendingInstalling)
    (hreported : ∀ effect ∈ reported, ∃ text, effect = .reportAsyncEvent text) :
    Ended d s evt ({ s with rule := own }.uninstall d reported) := by
  have hopen : s.state ≠ .close := by rw [hstate]; exact nofun
  unfold uninstall
  split
  · exact .undefined (Or.inl fun hstored =>
      Option.isSome_iff_ne_none.mp (hstored.installRule hstate) ‹_›)
  · rename_i rule hrule
    dsimp only at hrule
    split_ifs with hinstalled
    · split
      · exact .thrown rfl rfl
      · unfold tearDown
        dsimp only
        split
        · exact .undefined (Or.inl fun hstored => hstored.routingInfo_ne_none hopen ‹_›)
        · exact .next (.uninstalled hstate hrule ‹_› (if_pos hinstalled).symm hreported)
    · unfold tearDown
      dsimp only
      split
      · exact .undefined (Or.inl fun hstored => hstored.routingInfo_ne_none hopen ‹_›)
      · exact .next (.uninstalled hstate hrule ‹_› (if_neg hinstalled).symm hreported)

theorem not_stored_of_lastAuctionInstallRule (hstate : s.state = .pendingInstalling)
    (hnone : s.lastAuctionInstallRule = none) : ¬ s.Stored := fun hstored =>
  Option.isSome_iff_ne_none.mp (hstored.installRule hstate) hnone

theorem ended_retryResponse {id : Nat} (hstate : s.state = .pendingInstalling)
    (hid : id = s.responseTimer) : Ended d s (.timer id) (s.retryResponse d) := by
  unfold retryResponse
  split_ifs with hcount
  · split
    · exact .undefined (Or.inl (not_stored_of_lastAuctionInstallRule hstate ‹_›))
    · dsimp only
      split
      · exact .thrown rfl rfl
      · exact .next (.responseRetried hstate ‹_› hid hcount)
  · exact ended_uninstall hstate (by simp)

theorem ended_handleStatePendingInstalling (hstate : s.state = .pendingInstalling) :
    Ended d s evt (s.handleStatePendingInstalling d evt) := by
  unfold handleStatePendingInstalling
  split
  · split_ifs with hid
    · exact ended_retryResponse hstate hid
    · exact ended_otherTimer (Or.inr (Or.inl hstate)) hid
  · exact ended_uninstall hstate nofun
  · split
    · exact .undefined (Or.inl (not_stored_of_lastAuctionInstallRule hstate ‹_›))
    · split_ifs
      · exact .next (.installed hstate ‹_›)
      · exact ended_uninstall hstate nofun
  · rename_i htimer _ _
    exact .next (.discarded fun id h => absurd h (htimer id))

theorem ended_removeOrClose {before : List (Effect α)} {s₁ : NiSession α}
    (hstate : s.state = .auctioning) (hends : s.Ends evt before s₁) :
    Ended d s evt ((s₁.removeOrClose d).after before) := by
  have hid₁ : s₁.id = s.id := by cases hends <;> rfl
  have hstate₁ : s₁.state = s.state := by cases hends <;> rfl
  have hrule₁ : s₁.rule = s.rule := by cases hends <;> rfl
  unfold removeOrClose
  dsimp only
  split
  · rename_i hnone
    exact .undefined (Or.inl fun hstored =>
      Option.isSome_iff_ne_none.mp (hstored.rule (Or.inl hstate)) (hrule₁ ▸ hnone))
  · rename_i rule hrule
    split_ifs with hinstalled
    · split
      · exact .thrown hid₁ hstate₁
      · exact .next (.removing hstate hends (hrule₁ ▸ hrule) hinstalled)
    · simp only [Outcome.after, List.append_nil]
      exact .next (.closed hstate hends (hrule₁ ▸ hrule) hinstalled)

theorem ended_processApiBidding {e : ApiBiddingEvent α}
    (hstate : s.state = .auctioning ∨ s.state = .pendingTeardown) :
    Ended d s (.apiBidding e) (s.processApiBidding e) := by
  have hopen : s.state ≠ .close := by rcases hstate with h | h <;> rw [h] <;> exact nofun
  unfold processApiBidding
  split
  · exact .undefined (Or.inl fun hstored => hstored.routingInfo_ne_none hopen ‹_›)
  · exact .next (.biddingSent hstate ‹_›)

theorem ended_processBidding {e : MsgEvent α} {b : KindMsg .bidding α}
    (hstate : s.state = .auctioning ∨ s.state = .pendingTeardown)
    (hb : e.ofKind? .bidding = some b) : Ended d s (.msg e) (s.processBidding d b.body) := by
  unfold processBidding
  rw [AnslpMsg.getMspecObjects_eq]
  split_ifs with hread
  · exact .next (.biddingTaken hstate)
  · exact .undefined (Or.inr (.bidding hstate hb (Bool.eq_false_iff.mpr hread)))

theorem ended_retryRefresh {id : Nat} (hstate : s.state = .auctioning)
    (hrefresh : id ≠ s.refreshTimer) (hid : id = s.responseTimer) :
    Ended d s (.timer id) (s.retryRefresh d) := by
  unfold retryRefresh
  split_ifs with hcount
  · split
    · exact .undefined (Or.inr (.timer hstate hrefresh hid hcount ‹_›))
    · exact .next (.refreshRetried hstate ‹_› hid hcount)
  · exact ended_removeOrClose hstate (.timeout hid hcount)

theorem ended_processRefreshResponse {e : MsgEvent α} {c : KindMsg .refresh α}
    {r : KindMsg .response α} (hstate : s.state = .auctioning) (hc : s.lastRefreshMsg = some c)
    (hr : e.anslpResponse? c = some r) : Ended d s (.msg e) (s.processRefreshResponse d r) := by
  unfold processRefreshResponse
  split_ifs with hsuccess
  · dsimp only
    split_ifs with hlifetime
    · exact ended_removeOrClose hstate (.tornDown hc hr hsuccess hlifetime)
    · exact .next (.refreshed hstate)
  · exact ended_removeOrClose hstate (.died hc hr (Bool.eq_false_iff.mpr hsuccess))

theorem ended_handleStateAuctioning (hstate : s.state = .auctioning) :
    Ended d s evt (s.handleStateAuctioning d evt) := by
  have hopen : s.state ≠ .close := by rw [hstate]; exact nofun
  unfold handleStateAuctioning
  split
  · exact .next (.discarded nofun)
  · split_ifs with hrefresh hid
    · unfold processRefreshTimer
      split
      · exact .undefined (Or.inl fun hstored => hstored.routingInfo_ne_none hopen ‹_›)
      · exact .next (.refreshSent hstate ‹_› hrefresh)
    · exact ended_retryRefresh hstate hrefresh hid
    · rename_i hrefresh hid
      exact .next (.discarded (Event.forall_timer
        ((consults_iff_of_auctioning hstate).not.mpr (not_or.mpr ⟨hrefresh, hid⟩))))
  · unfold processTeardown
    dsimp only
    split
    · exact .undefined (Or.inl fun hstored => hstored.routingInfo_ne_none hopen ‹_›)
    · exact .next (.tearingDown hstate ‹_›)
  · exact ended_processApiBidding (Or.inl hstate)
  · split
    · exact ended_processBidding (Or.inl hstate) ‹_›
    · rename_i hbidding
      split
      · exact .undefined (Or.inr (.noRefresh hstate hbidding ‹_›))
      · rename_i c hc
        split
        · exact ended_processRefreshResponse hstate hc ‹_›
        · exact .next (.discarded nofun)
  · rename_i hinstall htimer hteardown hbidding hmsg
    split_ifs with hnone
    · refine .undefined (Or.inr (.noRefresh hstate ?_ (Option.isNone_iff_eq_none.mp hnone)))
      cases evt with
      | apiInstall m => exact absurd rfl (hinstall m)
      | timer id => exact absurd rfl (htimer id)
      | apiTeardown => exact absurd rfl hteardown
      | apiBidding e => exact absurd rfl (hbidding e)
      | msg e => exact absurd rfl (hmsg e)
      | _ => trivial
    · exact .next (.discarded fun id h => absurd h (htimer id))

theorem ended_retryRemoval {id : Nat} (hstate : s.state = .pendingTeardown)
    (hid : id = s.responseTimer) : Ended d s (.timer id) (s.retryRemoval d) := by
  unfold retryRemoval
  split_ifs with hcount
  · split
    · exact .undefined (Or.inl fun hstored =>
        Option.isSome_iff_ne_none.mp (hstored.rule (Or.inr hstate)) ‹_›)
    · dsimp only
      split
      · exact .thrown rfl rfl
      · exact .next (.removalRetried hstate ‹_› hid hcount)
  · exact .next (.removed hstate)

theorem ended_handleStatePendingTeardown (hstate : s.state = .pendingTeardown) :
    Ended d s evt (s.handleStatePendingTeardown d evt) := by
  unfold handleStatePendingTeardown
  split
  · exact ended_processApiBidding (Or.inr hstate)
  · split
    · exact ended_processBidding (Or.inr hstate) ‹_›
    · exact .next (.discarded nofun)
  · split_ifs with hid
    · exact ended_retryRemoval hstate hid
    · exact ended_otherTimer (Or.inr (Or.inr hstate)) hid
  · exact .next (.removed hstate)
  · rename_i htimer _
    exact .next (.discarded fun id h => absurd h (htimer id))

/-- Every call makes a transition of the table, throws, or is undefined for a reason. -/
theorem ended_processEvent (d : Dispatcher α) (s : NiSession α) (evt : Event α) :
    Ended d s evt (s.processEvent d evt) := by
  unfold processEvent
  split
  · exact ended_handleStateClose ‹_›
  · exact ended_handleStatePending ‹_›
  · exact ended_handleStatePendingInstalling ‹_›
  · exact ended_handleStateAuctioning ‹_›
  · exact ended_handleStatePendingTeardown ‹_›

/-- Every call that returns makes a transition of the table. -/
theorem transits_of_processEvent (h : s.processEvent d evt = .next s' effects) :
    Transits d s evt s' effects := by
  have hended := ended_processEvent d s evt
  rw [h] at hended
  cases hended
  assumption

theorem Transits.id_eq (ht : Transits d s evt s' effects) : s'.id = s.id := by
  cases ht with
  | removing _ hends | closed _ hends => cases hends <;> rfl
  | _ => rfl

/-- A session keeps its identifier. -/
theorem id_of_processEvent (h : (s.processEvent d evt).left? = some s') : s'.id = s.id := by
  have hended := ended_processEvent d s evt
  generalize s.processEvent d evt = o at h hended
  cases hended with
  | next ht =>
      cases h
      exact ht.id_eq
  | thrown hid =>
      cases h
      exact hid
  | undefined => cases h

end NiSession

/-- The CREATE sent for the sample request. -/
def Sample.create : KindMsg .create RawIpap :=
  ((NiSession.new conf 1 0).setUp surroundings request).buildCreateMessage
    (NiSession.requestedMri request) request

theorem Sample.isDecoded_create : create.body.IsDecoded :=
  (NiSession.contents_createBody _ _ (Nat.zero_le _)).isDecoded (Nat.two_pow_pos 30)

/-- This CREATE arrives. -/
def Sample.arrival : MsgEvent RawIpap :=
  ⟨create.ntlpMsg, true⟩

end Anslp
