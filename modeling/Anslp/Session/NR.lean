import Anslp.Session.Basic

/-!
# The session of a responder

The state machine of {lit}`nr_session`.

Main results:

- Theorem {lit}`transits_of_processEvent`: every call of {lit}`process_event` that
  returns makes one of the transitions of the table.

Current gaps:

- Log statements are left out.
-/

namespace Anslp

/-- The states of a responder. -/
inductive NrState
  | close
  | pending
  | pendingInstalling
  | auctioning
  | pendingTeardown
deriving DecidableEq, Repr

/-- The session of a responder. -/
structure NrSession (α : Type) where
  id : SessionId
  state : NrState
  routingInfo : Option Mri
  lifetime : UInt32
  maxLifetime : UInt32
  responseTimeout : UInt32
  createCounter : UInt32
  maxRetries : UInt32
  stateTimer : Nat
  createMessage : Option (KindMsg .create α)
  rule : AuctionRule α
  msn : UInt32
  msnBidding : UInt32

namespace NrSession

variable {α : Type}

open Session

/-- A new session with a random sequence number for its biddings. -/
def new (conf : AnslpConfig) (id : SessionId) (random : UInt32) : NrSession α where
  id := id
  state := .close
  routingInfo := none
  lifetime := 0
  maxLifetime := conf.nrMaxSessionLifetime
  responseTimeout := 0
  createCounter := 0
  maxRetries := conf.nrMaxRetries
  stateTimer := 0
  createMessage := none
  rule := AuctionRule.empty
  msn := 0
  msnBidding := random

/-- Whether the session has ended. -/
def isFinal (s : NrSession α) : Bool :=
  s.state = .close

/-! ## Parts of the handlers -/

/-- Store a copy of the CREATE.  One that is stored already is deleted twice. -/
def setLastCreateMessage (s : NrSession α) (c : KindMsg .create α) :
    Except Fault (NrSession α) :=
  match s.createMessage with
  | some _ => .error .deleted
  | none => .ok { s with createMessage := some c }

/-- Save the objects of a CREATE as the requests of the rule. -/
def saveAuctionRule (d : Dispatcher α) (s : NrSession α) (create : AnslpMsg α) :
    Except Escape (NrSession α) := do
  let missingObjects ← create.getMspecObjects
  .ok { s with rule := s.rule.resetRequestObjects d.newKey missingObjects }

/-- The check of the rule that follows. -/
def checkSaved (conf : AnslpConfig) (d : Dispatcher α) (s : NrSession α)
    (create : AnslpMsg α) : CheckResult :=
  checkRule conf d .receiver s.id create.getSelectionAuctioningEntities s.rule.objectRequests

/-- A bidding of the user, with the next sequence number. -/
def buildBiddingMessage (s : NrSession α) (mri : Mri) (e : ApiBiddingEvent α) : NtlpMsg α :=
  let bidding := (AnslpMsg.new .bidding).setMsgSequenceNumber (s.msnBidding + 1)
  ⟨s.id, some (bidding.setMspecObjects e.mspecObjects.values), mri.invertDirection, 0⟩

/-- A bidding of the user is sent, and the user is told. -/
def processApiBidding (s : NrSession α) (e : ApiBiddingEvent α) : Outcome (NrSession α) α :=
  match s.routingInfo with
  | none => .undefined .assertion
  | some mri =>
      .next { s with msnBidding := s.msnBidding + 1 }
        (.sendMessage (s.buildBiddingMessage mri e) ::
          if e.hasReturnQueue then [.enqueue (.anslpEvent s.id)] else [])

/-- The response that reports success and the objects installed here. -/
def buildSuccessResponse (s : NrSession α) (m : NtlpMsg α) (lifetime : UInt32) : NtlpMsg α :=
  { m.createSuccessResponse lifetime with
    msg := some ((m.successBody lifetime).setMspecObjects s.rule.objectResponses.values) }

/-- Remove the installed rule and wait for this to be confirmed; without installed objects
close at once. -/
def removeOrClose (conf : AnslpConfig) (d : Dispatcher α) (s : NrSession α) :
    Outcome (NrSession α) α :=
  if s.rule.getNumberMspecResponseObjects > 0 then
    match d.removeError s.id s.rule with
    | some e => .thrown e s [.removeAuctionRules s.rule]
    | none =>
        .next { s with stateTimer := d.startTimer 0, state := .pendingTeardown }
          [.removeAuctionRules s.rule, .startTimer (d.startTimer 0) conf.nrResponseTimeout]
  else .next { s with stateTimer := 0, state := .close } []

/-- What the saved rule of a CREATE leads to: the installer checks it, or the node does not
take part and answers at once. -/
def respond (conf : AnslpConfig) (d : Dispatcher α) (s : NrSession α)
    (c : KindMsg .create α) : Outcome (NrSession α) α :=
  match s.checkSaved conf d c.body with
  | .participating =>
      .next { s with
          createCounter := s.createCounter + 1
          stateTimer := d.startTimer 0
          state := .pending }
        [.check s.rule.objectRequests, .startTimer (d.startTimer 0) s.lifetime]
  | .notParticipating =>
      let s := { s with rule := AuctionRule.empty }
      .next { s with stateTimer := d.startTimer 0, state := .auctioning }
        [.sendMessage (s.buildSuccessResponse c.ntlpMsg s.lifetime),
          .startTimer (d.startTimer 0) s.lifetime]
  | .error _ =>
      .next { s with state := .close }
        [.check s.rule.objectRequests,
          .sendMessage (c.ntlpMsg.createResponse scPermanentFailure failConfigurationFailed)]

/-- A CREATE that passed the checks initiates the session. -/
def initiate (conf : AnslpConfig) (d : Dispatcher α) (s : NrSession α)
    (c : KindMsg .create α) : Outcome (NrSession α) α :=
  match c.ntlpMsg.routingInfo with
  | .other _ _ =>
      -- not the error that is caught
      .thrown mriError s []
  | .pathcoupled _ _ =>
      match s.saveAuctionRule d c.body with
      | .error _ => .undefined .nullPointer
      | .ok s => s.respond conf d c

/-! ## Handlers -/

/-- CLOSE: a CREATE starts the session. -/
def handleStateClose (conf : AnslpConfig) (d : Dispatcher α) (s : NrSession α)
    (evt : Event α) : Outcome (NrSession α) α :=
  match evt with
  | .msg e =>
      match e.ofKind? .create with
      | none => .next s []
      | some c =>
          let s := { s with
            routingInfo := some e.getMri
            responseTimeout := conf.nrResponseTimeout }
          match checkRequest d e c.body.getSessionLifetime s.maxLifetime with
          | .error exp => .next s [.sendMessage (c.ntlpMsg.createErrorResponse exp)]
          | .ok lifetime =>
              match s.setLastCreateMessage c with
              | .error f => .undefined f
              | .ok s =>
                  if lifetime > 0 then
                    { s with
                      lifetime := lifetime
                      msn := c.body.getMsgSequenceNumber }.initiate conf d c
                  else
                    .next s [.sendMessage
                      (c.ntlpMsg.createResponse scPermanentFailure failConfigurationFailed)]
  | _ => .next s []

/-- PENDING on a timeout: ask for the check again, or give up. -/
def retryCheck (conf : AnslpConfig) (d : Dispatcher α) (s : NrSession α) :
    Outcome (NrSession α) α :=
  match s.createMessage with
  | none => .undefined .assertion
  | some c =>
      if s.createCounter < s.maxRetries then
        let s := { s with createCounter := s.createCounter + 1 }
        match s.saveAuctionRule d c.body with
        | .error _ => .undefined .nullPointer
        | .ok s =>
            match s.checkSaved conf d c.body with
            | .error e => .thrown e s [.check s.rule.objectRequests]
            | result =>
                .next { s with stateTimer := d.startTimer 0 }
                  (result.effects s.rule.objectRequests ++
                    [.startTimer (d.startTimer 0) s.lifetime])
      else
        .next { s with state := .close }
          [.sendMessage (c.ntlpMsg.createResponse scPermanentFailure failInternalError)]

/-- PENDING: the reply to the check is waited for. -/
def handleStatePending (conf : AnslpConfig) (d : Dispatcher α) (s : NrSession α)
    (evt : Event α) : Outcome (NrSession α) α :=
  match evt with
  | .noNextNodeFound => s.retryCheck conf d
  | .timer id => if id = s.stateTimer then s.retryCheck conf d else .next s []
  | .apiCheck mspecObjects =>
      match s.rule.objectRequests.eraseMissing mspecObjects with
      | none => .undefined .iterator
      | some objectRequests =>
          let s := { s with
            rule := { s.rule with objectRequests := objectRequests }
            createCounter := 0 }
          match d.installError s.id s.rule with
          | some e => .thrown e s [.installAuctionRules s.rule]
          | none =>
              .next { s with stateTimer := d.startTimer 0, state := .pendingInstalling }
                [.installAuctionRules s.rule, .startTimer (d.startTimer 0) s.lifetime]
  | _ => .next s []

/-- PENDING_INSTALLING: the reply to the installation is waited for. -/
def handleStatePendingInstalling (conf : AnslpConfig) (d : Dispatcher α) (s : NrSession α)
    (evt : Event α) : Outcome (NrSession α) α :=
  match evt with
  | .timer id =>
      if id = s.stateTimer then
        if s.createCounter < s.maxRetries then
          let s := { s with createCounter := s.createCounter + 1 }
          match d.installError s.id s.rule with
          | some e => .thrown e s [.installAuctionRules s.rule]
          | none =>
              .next { s with stateTimer := d.startTimer 0 }
                [.installAuctionRules s.rule, .startTimer (d.startTimer 0) s.lifetime]
        else
          match s.createMessage with
          | none => .undefined .assertion
          | some c =>
              .next { s with state := .close }
                [.sendMessage (c.ntlpMsg.createResponse scPermanentFailure failInternalError)]
      else .next s []
  | .apiInstall mspecObjects =>
      match s.createMessage with
      | none => .undefined .assertion
      | some c =>
          if s.rule.getNumberMspecRequestObjects = mspecObjects.size then
            let s := { s with rule := s.rule.setReponseObjects d.newKey mspecObjects }
            .next { s with stateTimer := d.startTimer 0, state := .auctioning }
              [.sendMessage (s.buildSuccessResponse c.ntlpMsg s.lifetime),
                .startTimer (d.startTimer 0) s.lifetime]
          else
            let s := { s with lifetime := 0 }
            if s.rule.getNumberMspecResponseObjects > 0 then
              match d.removeError s.id s.rule with
              | some e => .thrown e s [.removeAuctionRules s.rule]
              | none =>
                  .next { s with stateTimer := d.startTimer 0, state := .pendingTeardown }
                    [.removeAuctionRules s.rule,
                      .sendMessage
                        (c.ntlpMsg.createResponse scPermanentFailure failInternalError),
                      .startTimer (d.startTimer 0) conf.nrResponseTimeout]
            else
              .next { s with stateTimer := d.startTimer 0, state := .pendingTeardown }
                [.sendMessage (c.ntlpMsg.createResponse scPermanentFailure failInternalError),
                  .startTimer (d.startTimer 0) conf.nrResponseTimeout]
  | _ => .next s []

/-- AUCTIONING on a REFRESH. -/
def processRefresh (conf : AnslpConfig) (d : Dispatcher α) (s : NrSession α) (e : MsgEvent α)
    (c : KindMsg .refresh α) : Outcome (NrSession α) α :=
  match checkRequest d e c.body.getSessionLifetime s.maxLifetime with
  | .error exp => .next s [.sendMessage (c.ntlpMsg.createErrorResponse exp)]
  | .ok lifetime =>
      if !isGreaterThan c.body.getMsgSequenceNumber s.msn then
        -- a duplicate
        .next s []
      else if lifetime > 0 then
        .next { s with
            lifetime := lifetime
            msn := c.body.getMsgSequenceNumber
            stateTimer := d.startTimer 0 }
          [.sendMessage (c.ntlpMsg.createSuccessResponse lifetime),
            .startTimer (d.startTimer 0) lifetime]
      else
        (s.removeOrClose conf d).after
          [.sendMessage (c.ntlpMsg.createSuccessResponse lifetime)]

/-- AUCTIONING: the session is up. -/
def handleStateAuctioning (conf : AnslpConfig) (d : Dispatcher α) (s : NrSession α)
    (evt : Event α) : Outcome (NrSession α) α :=
  match evt with
  | .msg e =>
      match e.ofKind? .refresh with
      | some c => s.processRefresh conf d e c
      | none =>
          match e.ofKind? .bidding with
          | some b =>
              if e.forThisNode then interact d s.id true s b.body else .next s []
          | none => .next s []
  | .apiBidding e => s.processApiBidding e
  | .timer id =>
      if id = s.stateTimer then
        (s.removeOrClose conf d).after [.reportAsyncEvent "session timed out"]
      else .next s []
  | _ => .next s []

/-- PENDING_TEARDOWN: the reply to the removal is waited for. -/
def handleStatePendingTeardown (conf : AnslpConfig) (d : Dispatcher α) (s : NrSession α)
    (evt : Event α) : Outcome (NrSession α) α :=
  match evt with
  | .timer id =>
      if id = s.stateTimer then
        if s.createCounter < s.maxRetries then
          let s := { s with createCounter := s.createCounter + 1 }
          match d.removeError s.id s.rule with
          | some e => .thrown e s [.removeAuctionRules s.rule]
          | none =>
              .next { s with stateTimer := d.startTimer 0 }
                [.removeAuctionRules s.rule,
                  .startTimer (d.startTimer 0) conf.nrResponseTimeout]
        else .next { s with state := .close } []
      else .next s []
  | .apiBidding e => s.processApiBidding e
  | .apiRemove _ => .next { s with stateTimer := 0, state := .close } []
  | _ => .next s []

/-- Process an event in the state the session is in. -/
def processEvent (conf : AnslpConfig) (d : Dispatcher α) (s : NrSession α) (evt : Event α) :
    Outcome (NrSession α) α :=
  match s.state with
  | .close => s.handleStateClose conf d evt
  | .pending => s.handleStatePending conf d evt
  | .pendingInstalling => s.handleStatePendingInstalling conf d evt
  | .auctioning => s.handleStateAuctioning conf d evt
  | .pendingTeardown => s.handleStatePendingTeardown conf d evt

/-! ## The transition table -/

/-- The session after the checks of a CREATE in CLOSE: its routing is stored. -/
def routed (conf : AnslpConfig) (s : NrSession α) (e : MsgEvent α) : NrSession α :=
  { s with routingInfo := some e.getMri, responseTimeout := conf.nrResponseTimeout }

/-- The session with an accepted CREATE and its objects as the requests of the rule. -/
def accepted (conf : AnslpConfig) (d : Dispatcher α) (s : NrSession α) (e : MsgEvent α)
    (c : KindMsg .create α) (lifetime : UInt32) : NrSession α :=
  { s.routed conf e with
    createMessage := some c
    lifetime := lifetime
    msn := c.body.getMsgSequenceNumber
    rule := s.rule.resetRequestObjects d.newKey c.body.mspecObjects }

/-- Why a session in AUCTIONING ends, and what comes before its end. -/
inductive Ends (d : Dispatcher α) (s : NrSession α) : Event α → List (Effect α) → Prop
  | refresh {e : MsgEvent α} {c : KindMsg .refresh α} {lifetime : UInt32}
      (hc : e.ofKind? .refresh = some c)
      (hcheck : checkRequest d e c.body.getSessionLifetime s.maxLifetime = .ok lifetime)
      (hmsn : isGreaterThan c.body.getMsgSequenceNumber s.msn = true)
      (hlifetime : ¬ lifetime > 0) :
      Ends d s (.msg e) [.sendMessage (c.ntlpMsg.createSuccessResponse lifetime)]
  | timeout {id : Nat} (hid : id = s.stateTimer) :
      Ends d s (.timer id) [.reportAsyncEvent "session timed out"]

/-- The timer whose expiry the handler of the state reacts to. -/
def Consults (s : NrSession α) (id : Nat) : Prop :=
  s.state ≠ .close ∧ id = s.stateTimer

/-- What a call that returns does. -/
inductive Transits (conf : AnslpConfig) (d : Dispatcher α) (s : NrSession α) :
    Event α → NrSession α → List (Effect α) → Prop
  /-- An event that is discarded. -/
  | discarded {evt : Event α} (hignored : ∀ id, evt = .timer id → ¬ s.Consults id) :
      Transits conf d s evt s []
  /-- CLOSE: a CREATE that fails the checks. -/
  | createRejected {e : MsgEvent α} {c : KindMsg .create α} {exp : RequestError}
      (hstate : s.state = .close) (hc : e.ofKind? .create = some c)
      (hcheck : checkRequest d e c.body.getSessionLifetime s.maxLifetime = .error exp) :
      Transits conf d s (.msg e) (s.routed conf e)
        [.sendMessage (c.ntlpMsg.createErrorResponse exp)]
  /-- CLOSE: a CREATE without a lifetime. -/
  | createWithoutLifetime {e : MsgEvent α} {c : KindMsg .create α}
      (hstate : s.state = .close) (hc : e.ofKind? .create = some c)
      (hcheck : checkRequest d e c.body.getSessionLifetime s.maxLifetime = .ok 0)
      (hfirst : s.createMessage = none) :
      Transits conf d s (.msg e) { s.routed conf e with createMessage := some c }
        [.sendMessage (c.ntlpMsg.createResponse scPermanentFailure failConfigurationFailed)]
  /-- CLOSE to PENDING: the installer is asked to check. -/
  | started {e : MsgEvent α} {c : KindMsg .create α} {lifetime : UInt32}
      (hstate : s.state = .close) (hc : e.ofKind? .create = some c)
      (hcheck : checkRequest d e c.body.getSessionLifetime s.maxLifetime = .ok lifetime)
      (hlifetime : lifetime > 0) (hread : c.body.mspecReadable = true)
      (hfirst : s.createMessage = none) :
      Transits conf d s (.msg e)
        { s.accepted conf d e c lifetime with
          createCounter := s.createCounter + 1
          stateTimer := d.startTimer 0
          state := .pending }
        [.check (s.accepted conf d e c lifetime).rule.objectRequests,
          .startTimer (d.startTimer 0) lifetime]
  /-- CLOSE to AUCTIONING: the node does not take part. -/
  | startedIdle {e : MsgEvent α} {c : KindMsg .create α} {lifetime : UInt32}
      (hstate : s.state = .close) (hc : e.ofKind? .create = some c)
      (hcheck : checkRequest d e c.body.getSessionLifetime s.maxLifetime = .ok lifetime)
      (hlifetime : lifetime > 0) (hread : c.body.mspecReadable = true)
      (hfirst : s.createMessage = none)
      (hidle : (s.accepted conf d e c lifetime).checkSaved conf d c.body = .notParticipating)
      (hmri : ∃ flow downstream, c.ntlpMsg.routingInfo = .pathcoupled flow downstream) :
      Transits conf d s (.msg e)
        { s.accepted conf d e c lifetime with
          rule := AuctionRule.empty
          stateTimer := d.startTimer 0
          state := .auctioning }
        [.sendMessage (c.ntlpMsg.createSuccessResponse lifetime),
          .startTimer (d.startTimer 0) lifetime]
  /-- CLOSE: the installer refuses to check. -/
  | startFailed {e : MsgEvent α} {c : KindMsg .create α} {lifetime : UInt32}
      {exp : RequestError} (hstate : s.state = .close) (hc : e.ofKind? .create = some c)
      (hcheck : checkRequest d e c.body.getSessionLifetime s.maxLifetime = .ok lifetime)
      (hlifetime : lifetime > 0) (hread : c.body.mspecReadable = true)
      (hfirst : s.createMessage = none)
      (hrefused : (s.accepted conf d e c lifetime).checkSaved conf d c.body = .error exp)
      (hmri : ∃ flow downstream, c.ntlpMsg.routingInfo = .pathcoupled flow downstream) :
      Transits conf d s (.msg e) { s.accepted conf d e c lifetime with state := .close }
        [.check (s.accepted conf d e c lifetime).rule.objectRequests,
          .sendMessage (c.ntlpMsg.createResponse scPermanentFailure failConfigurationFailed)]
  /-- PENDING: the check is asked for again. -/
  | checkRetried {evt : Event α} {c : KindMsg .create α} {result : CheckResult}
      (hstate : s.state = .pending) (hc : s.createMessage = some c)
      (hcount : s.createCounter < s.maxRetries) (hread : c.body.mspecReadable = true) :
      Transits conf d s evt
        { s with
          createCounter := s.createCounter + 1
          rule := s.rule.resetRequestObjects d.newKey c.body.mspecObjects
          stateTimer := d.startTimer 0 }
        (result.effects (s.rule.resetRequestObjects d.newKey c.body.mspecObjects).objectRequests
          ++ [.startTimer (d.startTimer 0) s.lifetime])
  /-- PENDING or PENDING_INSTALLING to CLOSE: all retries were in vain. -/
  | givenUp {evt : Event α} {c : KindMsg .create α}
      (hstate : s.state = .pending ∨ s.state = .pendingInstalling)
      (hc : s.createMessage = some c) (hcount : ¬ s.createCounter < s.maxRetries)
      (hevt : evt = .timer s.stateTimer ∨ s.state = .pending ∧ evt = .noNextNodeFound) :
      Transits conf d s evt { s with state := .close }
        [.sendMessage (c.ntlpMsg.createResponse scPermanentFailure failInternalError)]
  /-- PENDING to PENDING_INSTALLING: the checked objects are to be installed. -/
  | checked {mspecObjects objectRequests : ObjectList α} (hstate : s.state = .pending)
      (herase : s.rule.objectRequests.eraseMissing mspecObjects = some objectRequests) :
      Transits conf d s (.apiCheck mspecObjects)
        { s with
          rule := { s.rule with objectRequests := objectRequests }
          createCounter := 0
          stateTimer := d.startTimer 0
          state := .pendingInstalling }
        [.installAuctionRules { s.rule with objectRequests := objectRequests },
          .startTimer (d.startTimer 0) s.lifetime]
  /-- PENDING_INSTALLING: the installation is asked for again. -/
  | installRetried {id : Nat} (hstate : s.state = .pendingInstalling)
      (hcount : s.createCounter < s.maxRetries) (hid : id = s.stateTimer) :
      Transits conf d s (.timer id)
        { s with createCounter := s.createCounter + 1, stateTimer := d.startTimer 0 }
        [.installAuctionRules s.rule, .startTimer (d.startTimer 0) s.lifetime]
  /-- PENDING_INSTALLING to AUCTIONING: all requested objects are installed. -/
  | installed {mspecObjects : ObjectList α} {c : KindMsg .create α}
      (hstate : s.state = .pendingInstalling) (hc : s.createMessage = some c)
      (hcount : s.rule.getNumberMspecRequestObjects = mspecObjects.size) :
      Transits conf d s (.apiInstall mspecObjects)
        { s with
          rule := s.rule.setReponseObjects d.newKey mspecObjects
          stateTimer := d.startTimer 0
          state := .auctioning }
        [.sendMessage (({ s with rule := s.rule.setReponseObjects d.newKey mspecObjects }
            : NrSession α).buildSuccessResponse c.ntlpMsg s.lifetime),
          .startTimer (d.startTimer 0) s.lifetime]
  /-- PENDING_INSTALLING to PENDING_TEARDOWN: some object is not installed. -/
  | installFailed {mspecObjects : ObjectList α} {c : KindMsg .create α}
      {removal : List (Effect α)} (hstate : s.state = .pendingInstalling)
      (hc : s.createMessage = some c)
      (hcount : s.rule.getNumberMspecRequestObjects ≠ mspecObjects.size)
      (hremoval : removal =
        if s.rule.getNumberMspecResponseObjects > 0 then [.removeAuctionRules s.rule] else [])
      (hremoved : s.rule.getNumberMspecResponseObjects > 0 →
        d.removeError s.id s.rule = none) :
      Transits conf d s (.apiInstall mspecObjects)
        { s with lifetime := 0, stateTimer := d.startTimer 0, state := .pendingTeardown }
        (removal ++
          [.sendMessage (c.ntlpMsg.createResponse scPermanentFailure failInternalError),
            .startTimer (d.startTimer 0) conf.nrResponseTimeout])
  /-- AUCTIONING: a REFRESH that fails the checks. -/
  | refreshRejected {e : MsgEvent α} {c : KindMsg .refresh α} {exp : RequestError}
      (hstate : s.state = .auctioning) (hc : e.ofKind? .refresh = some c)
      (hcheck : checkRequest d e c.body.getSessionLifetime s.maxLifetime = .error exp) :
      Transits conf d s (.msg e) s [.sendMessage (c.ntlpMsg.createErrorResponse exp)]
  /-- AUCTIONING: a REFRESH with a new lifetime. -/
  | refreshed {e : MsgEvent α} {c : KindMsg .refresh α} {lifetime : UInt32}
      (hstate : s.state = .auctioning) (hc : e.ofKind? .refresh = some c)
      (hcheck : checkRequest d e c.body.getSessionLifetime s.maxLifetime = .ok lifetime)
      (hmsn : isGreaterThan c.body.getMsgSequenceNumber s.msn = true) (hlifetime : lifetime > 0) :
      Transits conf d s (.msg e)
        { s with
          lifetime := lifetime
          msn := c.body.getMsgSequenceNumber
          stateTimer := d.startTimer 0 }
        [.sendMessage (c.ntlpMsg.createSuccessResponse lifetime),
          .startTimer (d.startTimer 0) lifetime]
  /-- AUCTIONING to PENDING_TEARDOWN: the rule is to be removed. -/
  | removing {evt : Event α} {before : List (Effect α)} (hstate : s.state = .auctioning)
      (hends : s.Ends d evt before) (hinstalled : s.rule.getNumberMspecResponseObjects > 0) :
      Transits conf d s evt
        { s with stateTimer := d.startTimer 0, state := .pendingTeardown }
        (before ++ [.removeAuctionRules s.rule,
          .startTimer (d.startTimer 0) conf.nrResponseTimeout])
  /-- AUCTIONING to CLOSE: there is nothing to remove. -/
  | closed {evt : Event α} {before : List (Effect α)} (hstate : s.state = .auctioning)
      (hends : s.Ends d evt before) (hbare : ¬ s.rule.getNumberMspecResponseObjects > 0) :
      Transits conf d s evt { s with stateTimer := 0, state := .close } before
  /-- AUCTIONING: a bidding is handed to the auction. -/
  | biddingPassed {e : MsgEvent α} {rule : AuctionRule α} (hstate : s.state = .auctioning) :
      Transits conf d s (.msg e) s [.auctionInteraction true rule]
  /-- AUCTIONING or PENDING_TEARDOWN: a bidding of the user is sent. -/
  | biddingSent {e : ApiBiddingEvent α} {mri : Mri} {told : List (Effect α)}
      (hstate : s.state = .auctioning ∨ s.state = .pendingTeardown)
      (htold : told = if e.hasReturnQueue then [.enqueue (.anslpEvent s.id)] else []) :
      Transits conf d s (.apiBidding e) { s with msnBidding := s.msnBidding + 1 }
        (.sendMessage (s.buildBiddingMessage mri e) :: told)
  /-- PENDING_TEARDOWN: the removal is asked for again. -/
  | removalRetried {id : Nat} (hstate : s.state = .pendingTeardown) (hid : id = s.stateTimer)
      (hcount : s.createCounter < s.maxRetries) :
      Transits conf d s (.timer id)
        { s with createCounter := s.createCounter + 1, stateTimer := d.startTimer 0 }
        [.removeAuctionRules s.rule, .startTimer (d.startTimer 0) conf.nrResponseTimeout]
  /-- PENDING_TEARDOWN to CLOSE: all retries were in vain. -/
  | removalGivenUp {id : Nat} (hstate : s.state = .pendingTeardown) (hid : id = s.stateTimer)
      (hcount : ¬ s.createCounter < s.maxRetries) :
      Transits conf d s (.timer id) { s with state := .close } []
  /-- PENDING_TEARDOWN to CLOSE: the rule is removed. -/
  | removed {mspecObjects : ObjectList α} (hstate : s.state = .pendingTeardown) :
      Transits conf d s (.apiRemove mspecObjects) { s with stateTimer := 0, state := .close } []

/-- What each state relies on: the CREATE is stored until its rule is installed, with
objects that could be read, and the routing is stored from then on. -/
structure Stored (s : NrSession α) : Prop where
  create : s.state = .pending ∨ s.state = .pendingInstalling →
    ∃ c, s.createMessage = some c ∧ c.body.mspecReadable = true
  routing : s.state ≠ .close → s.routingInfo.isSome = true

/-- The events that make a call undefined in a state where all is stored. -/
inductive Unsafe (d : Dispatcher α) (s : NrSession α) : Event α → Prop
  /-- CLOSE: a CREATE that passes the checks in a session that has stored one. -/
  | stored {e : MsgEvent α} {c : KindMsg .create α} {lifetime : UInt32}
      (hstate : s.state = .close) (hc : e.ofKind? .create = some c)
      (hcheck : checkRequest d e c.body.getSessionLifetime s.maxLifetime = .ok lifetime)
      (hsome : s.createMessage ≠ none) : Unsafe d s (.msg e)
  /-- CLOSE: an accepted CREATE with an object that is taken for an IPAP message object. -/
  | create {e : MsgEvent α} {c : KindMsg .create α} {lifetime : UInt32} {flow : Flow}
      {downstream : Bool} (hstate : s.state = .close) (hc : e.ofKind? .create = some c)
      (hcheck : checkRequest d e c.body.getSessionLifetime s.maxLifetime = .ok lifetime)
      (hlifetime : lifetime > 0) (hmri : c.ntlpMsg.routingInfo = .pathcoupled flow downstream)
      (hread : c.body.mspecReadable = false) : Unsafe d s (.msg e)
  /-- PENDING: a reply to the check that makes the loop leave the map. -/
  | check {mspecObjects : ObjectList α} (hstate : s.state = .pending)
      (hodd : s.rule.objectRequests.leadingMissing mspecObjects % 2 = 1) :
      Unsafe d s (.apiCheck mspecObjects)
  /-- AUCTIONING: a bidding with an object that is taken for an IPAP message object. -/
  | bidding {e : MsgEvent α} {b : KindMsg .bidding α} (hstate : s.state = .auctioning)
      (hrefresh : e.ofKind? .refresh = none) (hb : e.ofKind? .bidding = some b)
      (hnode : e.forThisNode = true) (hread : b.body.mspecReadable = false) :
      Unsafe d s (.msg e)

/-- How a call ends. -/
inductive Ended (conf : AnslpConfig) (d : Dispatcher α) (s : NrSession α) (evt : Event α) :
    Outcome (NrSession α) α → Prop
  | next {s' : NrSession α} {effects : List (Effect α)}
      (h : Transits conf d s evt s' effects) : Ended conf d s evt (.next s' effects)
  | thrown {exp : RequestError} {s' : NrSession α} {effects : List (Effect α)}
      (hid : s'.id = s.id) (hstate : s'.state = s.state)
      (hsent : s.state ≠ .auctioning → effects.filterMap Effect.sent? = []) :
      Ended conf d s evt (.thrown exp s' effects)
  | undefined {f : Fault} (h : ¬ s.Stored ∨ s.Unsafe d evt) : Ended conf d s evt (.undefined f)

variable {conf : AnslpConfig} {d : Dispatcher α} {s s' : NrSession α} {evt : Event α}
  {effects : List (Effect α)}

/-- A second CREATE that passes the checks has the first one deleted twice. -/
theorem handleStateClose_of_stored {e : MsgEvent α} {c : KindMsg .create α} {lifetime : UInt32}
    (hc : e.ofKind? .create = some c)
    (hcheck : checkRequest d e c.body.getSessionLifetime s.maxLifetime = .ok lifetime)
    (hsome : s.createMessage ≠ none) :
    s.handleStateClose conf d (.msg e) = .undefined .deleted := by
  obtain ⟨stored, hstored⟩ := Option.ne_none_iff_exists'.mp hsome
  simp only [handleStateClose, hc, hcheck, setLastCreateMessage, hstored]

theorem saveAuctionRule_eq (d : Dispatcher α) (s : NrSession α) (create : AnslpMsg α) :
    s.saveAuctionRule d create = if create.mspecReadable then
      .ok { s with rule := s.rule.resetRequestObjects d.newKey create.mspecObjects }
    else .error .undefined := by
  rw [saveAuctionRule, AnslpMsg.getMspecObjects_eq]
  split_ifs <;> rfl

theorem ended_handleStateClose (hstate : s.state = .close) :
    Ended conf d s evt (s.handleStateClose conf d evt) := by
  unfold handleStateClose
  split
  · rename_i e
    split
    · exact .next (.discarded nofun)
    · rename_i c hc
      dsimp only
      split
      · rename_i exp hcheck
        exact .next (.createRejected hstate hc hcheck)
      · rename_i lifetime hcheck
        cases hfirst : s.createMessage with
        | some stored =>
            simp only [setLastCreateMessage]
            exact .undefined (Or.inr (.stored hstate hc hcheck (by simp [hfirst])))
        | none =>
            simp only [setLastCreateMessage]
            split_ifs with hlifetime
            · unfold initiate
              split
              · exact .thrown rfl rfl fun _ => rfl
              · rename_i flow downstream hmri
                rw [saveAuctionRule_eq]
                split_ifs with hread
                · simp only [respond]
                  split
                  · exact .next (.started hstate hc hcheck hlifetime hread hfirst)
                  · rename_i hidle
                    exact .next (.startedIdle hstate hc hcheck hlifetime hread hfirst hidle
                      ⟨flow, downstream, hmri⟩)
                  · rename_i exp hrefused
                    exact .next (.startFailed hstate hc hcheck hlifetime hread hfirst hrefused
                      ⟨flow, downstream, hmri⟩)
                · exact .undefined (Or.inr (.create hstate hc hcheck hlifetime hmri
                    (Bool.eq_false_iff.mpr hread)))
            · have hzero : lifetime = 0 := by
                simpa only [gt_iff_lt, UInt32.lt_iff_toNat_lt, UInt32.reduceToNat,
                  Nat.pos_iff_ne_zero, ne_eq, not_not, ← UInt32.toNat_inj] using hlifetime
              exact .next (.createWithoutLifetime hstate hc (hzero ▸ hcheck) hfirst)
  · exact .next (.discarded fun _ _ hs => hs.1 hstate)

theorem ended_retryCheck (hstate : s.state = .pending)
    (hevt : evt = .timer s.stateTimer ∨ evt = .noNextNodeFound) :
    Ended conf d s evt (s.retryCheck conf d) := by
  unfold retryCheck
  split
  · rename_i hc
    refine .undefined (Or.inl fun hstored => ?_)
    obtain ⟨c, hsome, _⟩ := hstored.create (Or.inl hstate)
    rw [hc] at hsome
    cases hsome
  · rename_i c hc
    split_ifs with hcount
    · dsimp only
      rw [saveAuctionRule_eq]
      split_ifs with hread
      · dsimp only
        split
        · exact .thrown rfl rfl fun _ => rfl
        · exact .next (.checkRetried hstate hc hcount hread)
      · refine .undefined (Or.inl fun hstored => hread ?_)
        obtain ⟨c', hsome, hread'⟩ := hstored.create (Or.inl hstate)
        rw [hc] at hsome
        cases hsome
        exact hread'
    · exact .next (.givenUp (Or.inl hstate) hc hcount (hevt.imp_right fun h => ⟨hstate, h⟩))

theorem ended_handleStatePending (hstate : s.state = .pending) :
    Ended conf d s evt (s.handleStatePending conf d evt) := by
  unfold handleStatePending
  split
  · exact ended_retryCheck hstate (Or.inr rfl)
  · split_ifs with hid
    · exact ended_retryCheck hstate (Or.inl (hid ▸ rfl))
    · exact .next (.discarded (Event.forall_timer fun hs => hid hs.2))
  · rename_i mspecObjects
    split
    · rename_i herase
      exact .undefined (Or.inr (.check hstate
        ((ObjectList.eraseMissing_eq_none_iff _ _).mp herase)))
    · rename_i objectRequests herase
      dsimp only
      split
      · exact .thrown rfl rfl fun _ => rfl
      · exact .next (.checked hstate herase)
  · rename_i htimer _
    exact .next (.discarded fun id h => absurd h (htimer id))

theorem Stored.createMessage_ne_none (h : s.Stored) (hstate : s.state = .pendingInstalling) :
    s.createMessage ≠ none := by
  obtain ⟨c, hc, _⟩ := h.create (Or.inr hstate)
  rw [hc]
  exact Option.some_ne_none c

theorem ended_handleStatePendingInstalling (hstate : s.state = .pendingInstalling) :
    Ended conf d s evt (s.handleStatePendingInstalling conf d evt) := by
  unfold handleStatePendingInstalling
  split
  · split_ifs with hid hcount
    · dsimp only
      split
      · exact .thrown rfl rfl fun _ => rfl
      · exact .next (.installRetried hstate hcount hid)
    · split
      · rename_i hc
        exact .undefined (Or.inl fun hstored => hstored.createMessage_ne_none hstate hc)
      · rename_i c hc
        exact .next (.givenUp (Or.inr hstate) hc hcount (Or.inl (hid ▸ rfl)))
    · exact .next (.discarded (Event.forall_timer fun hs => hid hs.2))
  · split
    · rename_i hc
      exact .undefined (Or.inl fun hstored => hstored.createMessage_ne_none hstate hc)
    · rename_i c hc
      split_ifs with hcount
      · exact .next (.installed hstate hc hcount)
      · dsimp only
        split_ifs with hinstalled
        · split
          · exact .thrown rfl rfl fun _ => rfl
          · exact .next (.installFailed hstate hc hcount (if_pos hinstalled).symm fun _ => ‹_›)
        · exact .next (.installFailed hstate hc hcount (if_neg hinstalled).symm
            fun h => absurd h hinstalled)
  · rename_i htimer _
    exact .next (.discarded fun id h => absurd h (htimer id))

theorem ended_removeOrClose {before : List (Effect α)} (hstate : s.state = .auctioning)
    (hends : s.Ends d evt before) :
    Ended conf d s evt ((s.removeOrClose conf d).after before) := by
  unfold removeOrClose
  split_ifs with hinstalled
  · split
    · exact .thrown rfl rfl fun hne => absurd hstate hne
    · exact .next (.removing hstate hends hinstalled)
  · simp only [Outcome.after, List.append_nil]
    exact .next (.closed hstate hends hinstalled)

theorem ended_processRefresh {e : MsgEvent α} {c : KindMsg .refresh α}
    (hstate : s.state = .auctioning) (hc : e.ofKind? .refresh = some c) :
    Ended conf d s (.msg e) (s.processRefresh conf d e c) := by
  unfold processRefresh
  split
  · rename_i exp hcheck
    exact .next (.refreshRejected hstate hc hcheck)
  · rename_i lifetime hcheck
    split_ifs with hmsn hlifetime
    · exact .next (.discarded nofun)
    · exact .next (.refreshed hstate hc hcheck (by simpa using hmsn) hlifetime)
    · exact ended_removeOrClose hstate (.refresh hc hcheck (by simpa using hmsn) hlifetime)

theorem ended_processApiBidding {e : ApiBiddingEvent α}
    (hstate : s.state = .auctioning ∨ s.state = .pendingTeardown) :
    Ended conf d s (.apiBidding e) (s.processApiBidding e) := by
  unfold processApiBidding
  split
  · rename_i hmri
    refine .undefined (Or.inl fun hstored => ?_)
    have hsome := hstored.routing (by rcases hstate with h | h <;> rw [h] <;> exact nofun)
    rw [hmri] at hsome
    cases hsome
  · exact .next (.biddingSent hstate rfl)

theorem ended_handleStateAuctioning (hstate : s.state = .auctioning) :
    Ended conf d s evt (s.handleStateAuctioning conf d evt) := by
  unfold handleStateAuctioning
  split
  · rename_i e
    split
    · rename_i c hc
      exact ended_processRefresh hstate hc
    · rename_i hrefresh
      split
      · rename_i b hb
        split_ifs with hnode
        · rw [interact, AnslpMsg.getMspecObjects_eq]
          split_ifs with hread
          · dsimp only
            split
            · exact .thrown rfl rfl fun hne => absurd hstate hne
            · exact .next (.biddingPassed hstate)
          · exact .undefined (Or.inr (.bidding hstate hrefresh hb hnode
              (Bool.eq_false_iff.mpr hread)))
        · exact .next (.discarded nofun)
      · exact .next (.discarded nofun)
  · exact ended_processApiBidding (Or.inl hstate)
  · split_ifs with hid
    · exact ended_removeOrClose hstate (.timeout hid)
    · exact .next (.discarded (Event.forall_timer fun hs => hid hs.2))
  · rename_i htimer
    exact .next (.discarded fun id h => absurd h (htimer id))

theorem ended_handleStatePendingTeardown (hstate : s.state = .pendingTeardown) :
    Ended conf d s evt (s.handleStatePendingTeardown conf d evt) := by
  unfold handleStatePendingTeardown
  split
  · split_ifs with hid hcount
    · dsimp only
      split
      · exact .thrown rfl rfl fun _ => rfl
      · exact .next (.removalRetried hstate hid hcount)
    · exact .next (.removalGivenUp hstate hid hcount)
    · exact .next (.discarded (Event.forall_timer fun hs => hid hs.2))
  · exact ended_processApiBidding (Or.inr hstate)
  · exact .next (.removed hstate)
  · rename_i htimer _ _
    exact .next (.discarded fun id h => absurd h (htimer id))

/-- Every call makes a transition of the table, throws, or is undefined for a reason. -/
theorem ended_processEvent (conf : AnslpConfig) (d : Dispatcher α) (s : NrSession α)
    (evt : Event α) : Ended conf d s evt (s.processEvent conf d evt) := by
  unfold processEvent
  split
  · exact ended_handleStateClose ‹_›
  · exact ended_handleStatePending ‹_›
  · exact ended_handleStatePendingInstalling ‹_›
  · exact ended_handleStateAuctioning ‹_›
  · exact ended_handleStatePendingTeardown ‹_›

/-- Every call that returns makes a transition of the table. -/
theorem transits_of_processEvent (h : s.processEvent conf d evt = .next s' effects) :
    Transits conf d s evt s' effects := by
  have hended := ended_processEvent conf d s evt
  rw [h] at hended
  cases hended
  assumption

theorem Transits.id_eq (ht : Transits conf d s evt s' effects) : s'.id = s.id := by
  cases ht <;> rfl

/-- A session keeps its identifier. -/
theorem id_of_processEvent (h : (s.processEvent conf d evt).left? = some s') : s'.id = s.id := by
  have hended := ended_processEvent conf d s evt
  generalize s.processEvent conf d evt = o at h hended
  cases hended with
  | next ht =>
      cases h
      exact ht.id_eq
  | thrown hid =>
      cases h
      exact hid
  | undefined => cases h

end NrSession
end Anslp
