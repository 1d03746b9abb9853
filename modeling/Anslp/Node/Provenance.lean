import Anslp.Node.PathInvariant
import Anslp.Session.Checking
import Anslp.Session.Provenance

/-!
# Where the objects of a path come from

No node of a path invents an object.  Whatever an installer is asked to check or to install,
the user of the initiator requested it; whatever the user of the initiator is told, the
installer of a forwarder or of the responder reported it; and whatever an auction takes as a
bid, a user at one end of the path made it.

Main results:

- Theorem {lit}`Chain.requested_of_run`: where the CREATEs and the objects to check and to
  install come from.
- Theorem {lit}`Chain.installed_of_run`: where the objects come from that are handed to the
  user of the initiator, and those that an installer is to remove.
- Theorem {lit}`Chain.bid_of_run`: where the bids come from that an auction takes.

Current gaps:

- None for paths of any length; what an installer makes of the objects is left open.
-/

namespace Anslp

namespace Chain

variable {α : Type} {n : Nat} {conf : Place n → AnslpConfig} {sid : SessionId} {c : Chain α n}
  {trace : List (PathStep α n)} {x : PathStep α n} {o : MspecObject α}

/-- The initiator sent a CREATE for a request of its user, with objects requested. -/
def Created (trace : List (PathStep α n)) (b : AnslpMsg α) : Prop :=
  ∃ x ∈ trace, ∃ e m, x.input.place = .ni ∧ x.input.evt = .apiCreate e ∧
    .sendMessage m ∈ x.output ∧ m.msg = some b ∧ b.kind = .create ∧
    ∀ o ∈ b.mspecObjects, o ∈ e.mspecObjects.values

/-- The user of the initiator requested an object. -/
def Requested (trace : List (PathStep α n)) (o : MspecObject α) : Prop :=
  ∃ x ∈ trace, ∃ e, x.input.place = .ni ∧ x.input.evt = .apiCreate e ∧ o ∈ e.mspecObjects.values

/-- The installer of a node reported that it installed an object. -/
def InstalledAt (trace : List (PathStep α n)) (p : Place n) (o : MspecObject α) : Prop :=
  ∃ x ∈ trace, ∃ objects, x.input.place = p ∧ x.input.evt = .apiInstall objects ∧
    o ∈ objects.values

/-- The installer of a forwarder or of the responder reported that it installed an object. -/
def InstalledBeyond (trace : List (PathStep α n)) (o : MspecObject α) : Prop :=
  ∃ p, p ≠ .ni ∧ InstalledAt trace p o

/-- A user bid an object, at the initiator or at the responder. -/
def Bid (trace : List (PathStep α n)) (o : MspecObject α) : Prop :=
  ∃ x ∈ trace, ∃ e, (x.input.place = .ni ∨ x.input.place = .nr) ∧
    x.input.evt = .apiBidding e ∧ o ∈ e.mspecObjects.values

/-- What the steps so far allow the objects on the path to be. -/
def sources (trace : List (PathStep α n)) : Sources α where
  create := Created trace
  installed := InstalledBeyond trace
  bid := Bid trace

/-! ## More steps allow more -/

theorem mem_later {P : PathStep α n → Prop} (h : ∃ y ∈ trace, P y) : ∃ y ∈ trace ++ [x], P y := by
  rcases h with ⟨y, hy, hp⟩
  exact ⟨y, List.mem_append_left _ hy, hp⟩

theorem mem_last {P : PathStep α n → Prop} (h : P x) : ∃ y ∈ trace ++ [x], P y :=
  ⟨x, List.mem_append_right _ (List.mem_singleton_self x), h⟩

theorem InstalledBeyond.later (h : InstalledBeyond trace o) :
    InstalledBeyond (trace ++ [x]) o := by
  rcases h with ⟨p, hp, hinstalled⟩
  exact ⟨p, hp, mem_later hinstalled⟩

end Chain

/-- Sources that allow more. -/
structure Sources.Le {α : Type} (S T : Sources α) : Prop where
  create : ∀ b, S.create b → T.create b
  installed : ∀ o, S.installed o → T.installed o
  bid : ∀ o, S.bid o → T.bid o

section

variable {α : Type} {S T : Sources α} {own own' : MspecObject α → Prop}

theorem Sources.Le.requested (h : S.Le T) {o : MspecObject α} (ho : S.Requested o) :
    T.Requested o := by
  rcases ho with ⟨b, hb, ho⟩
  exact ⟨b, h.create b hb, ho⟩

theorem AnslpMsg.From.mono {a : AnslpMsg α} (ha : a.From S) (h : S.Le T) : a.From T := by
  unfold AnslpMsg.From at ha ⊢
  split at ha
  · rcases ha with ⟨b, hb, hcopy⟩
    exact ⟨b, h.create b hb, hcopy⟩
  · exact fun o ho => h.installed o (ha o ho)
  · exact fun o ho => h.bid o (ha o ho)
  · trivial
  · trivial

theorem NtlpMsg.From.mono {m : NtlpMsg α} (hm : m.From S) (h : S.Le T) : m.From T :=
  fun a ha => (hm a ha).mono h

theorem Effect.From.mono {effect : Effect α} (he : effect.From S own) (h : S.Le T)
    (hown : ∀ o, own o → own' o) : effect.From T own' := by
  cases effect with
  | sendMessage m => exact NtlpMsg.From.mono he h
  | check objects => exact fun o ho => h.requested (he o ho)
  | installAuctionRules rule => exact fun o ho => h.requested (he o ho)
  | removeAuctionRules rule => exact fun o ho => hown o (he o ho)
  | auctionInteraction server rule => exact fun o ho => h.bid o (he o ho)
  | sendResponse rule => exact fun o ho => h.installed o (he o ho)
  | startTimer | reportAsyncEvent | enqueue | receiveAnswer => trivial

theorem NiSession.From.mono {s : NiSession α} (hs : s.From S own) (h : S.Le T)
    (hown : ∀ o, own o → own' o) : s.From T own' where
  create := fun c hc => (hs.create c hc).mono h
  handedOver := fun rule hrule =>
    ⟨fun o ho => h.installed o ((hs.handedOver rule hrule).1 o ho),
      fun o ho => hown o ((hs.handedOver rule hrule).2 o ho)⟩
  rule := fun rule hrule o ho => hown o (hs.rule rule hrule o ho)

theorem NfSession.From.mono {s : NfSession α} (hs : s.From S own) (h : S.Le T)
    (hown : ∀ o, own o → own' o) : s.From T own' where
  create := fun c hc => (hs.create c hc).mono h
  decoded := hs.decoded
  response := fun r hr => (hs.response r hr).mono h
  requests := fun o ho => h.requested (hs.requests o ho)
  responses := fun o ho => hown o (hs.responses o ho)

theorem NrSession.From.mono {s : NrSession α} (hs : s.From S own) (h : S.Le T)
    (hown : ∀ o, own o → own' o) : s.From T own' where
  create := fun c hc => (hs.create c hc).mono h
  requests := fun o ho => h.requested (hs.requests o ho)
  responses := fun o ho => hown o (hs.responses o ho)

end

namespace Chain

variable {α : Type} {n : Nat} {conf : Place n → AnslpConfig} {sid : SessionId} {c : Chain α n}
  {trace : List (PathStep α n)} {x : PathStep α n} {o : MspecObject α}

theorem sources_le (trace : List (PathStep α n)) (x : PathStep α n) :
    (sources trace).Le (sources (trace ++ [x])) where
  create := fun _ h => mem_later h
  installed := fun _ h => h.later
  bid := fun _ h => mem_later h

theorem installedAt_later (p : Place n) :
    ∀ o, InstalledAt trace p o → InstalledAt (trace ++ [x]) p o :=
  fun _ h => mem_later h

/-! ## What each node knows -/

/-- All that is stored, done and on its way is from the sources. -/
def sourceKnowledge (α : Type) (n : Nat) : Knowledge α n where
  ni trace s := s.state ≠ .close → s.From (sources trace) (InstalledAt trace .ni)
  nf trace i s := s.From (sources trace) (InstalledAt trace (.nf i))
  nr trace s := s.From (sources trace) (InstalledAt trace .nr)
  mail trace _ m := m.From (sources trace)
  effect trace p effect := effect.From (sources trace) (InstalledAt trace p)

/-- The event of a step is from the sources with this step. -/
theorem from_of_calls {σ : Type} {p : Place n} {session : Chain α n → σ} {o : Outcome σ α}
    (hcalls : (sourceKnowledge α n).Calls trace x p session o) :
    x.input.evt.From (sources (trace ++ [x])) (InstalledAt (trace ++ [x]) p) := by
  cases hevt : x.input.evt with
  | msg e => exact NtlpMsg.From.mono (hcalls.arrives e hevt) (sources_le trace x)
  | apiInstall objects => exact fun o ho => mem_last ⟨objects, hcalls.place, hevt, ho⟩
  | _ => trivial

/-- So is a bid at one end of the path. -/
theorem bidsFrom_of_place (hplace : x.input.place = .ni ∨ x.input.place = .nr) :
    x.input.evt.BidsFrom (sources (trace ++ [x])) := by
  cases hevt : x.input.evt with
  | apiBidding e => exact fun o ho => mem_last ⟨e, hplace, hevt, ho⟩
  | _ => trivial

/-- What is installed at another node than the initiator is installed beyond it. -/
theorem installedBeyond_of_installedAt {p : Place n} (hp : p ≠ .ni) :
    ∀ o, InstalledAt trace p o → (sources trace).installed o :=
  fun _ h => ⟨p, hp, h⟩

/-- A call that does only what is from the sources leaves what is known. -/
theorem leaves_of_doesOnly {σ : Type} {p : Place n} {known : σ → Prop} {o : Outcome σ α}
    (hnext : ∀ t effects, o = .next t effects → known t)
    (hdoes : o.DoesOnly (Effect.From (sources trace) (InstalledAt trace p))) :
    (sourceKnowledge α n).Leaves trace p known o where
  next := hnext
  sent := by
    intro m hm
    rcases List.mem_filterMap.mp hm with ⟨effect, heffect, hsent⟩
    have hfrom := hdoes effect heffect
    cases effect with
    | sendMessage m' =>
        cases hsent
        exact hfrom
    | _ => cases hsent
  effects := hdoes

/-- The CREATEs of an initiator are made for the requests of its user. -/
theorem sendsCreates_of_calls {s : NiSession α}
    (hcalls : (sourceKnowledge α n).Calls trace x .ni Chain.ni
      (s.processEvent x.input.d x.input.evt)) :
    NiSession.SendsCreates (sources (trace ++ [x])) x.input.evt
      (s.processEvent x.input.d x.input.evt).effects := by
  intro e m a hevt hm ha hkind
  refine mem_last ⟨e, m, hcalls.place, hevt, hcalls.effects ▸ hm, ha, hkind, ?_⟩
  have hsent : m ∈ (s.processEvent x.input.d x.input.evt).sent :=
    List.mem_filterMap.mpr ⟨_, hm, rfl⟩
  rw [hevt] at hsent
  exact NiSession.objects_of_sent hsent ha

theorem sourceKnowledge_kept (α : Type) (n : Nat) (conf : Place n → AnslpConfig) :
    (sourceKnowledge α n).Kept conf where
  later_ni := fun _ x _ h hopen => (h hopen).mono (sources_le _ x) (installedAt_later _)
  later_nf := fun _ x _ _ h => h.mono (sources_le _ x) (installedAt_later _)
  later_nr := fun _ x _ h => h.mono (sources_le _ x) (installedAt_later _)
  later_mail := fun _ x _ _ h => NtlpMsg.From.mono h (sources_le _ x)
  later_effect := fun _ x _ _ h => Effect.From.mono h (sources_le _ x) (installedAt_later _)
  new_ni := fun _ _ _ _ => NiSession.from_new _ _ _
  new_nf := fun _ _ _ => NfSession.from_new _
  new_nr := fun _ _ _ => NrSession.from_new _ _ _
  answer := fun _ _ _ _ => trivial
  step_ni := by
    intro trace x s hs hnew hcalls
    have hfrom : s.From (sources (trace ++ [x])) (InstalledAt (trace ++ [x]) .ni) := by
      by_cases hopen : s.state = .close
      · rcases hnew hopen with ⟨sid, random, rfl⟩
        exact NiSession.from_new _ _ _
      · exact (hs hopen).mono (sources_le _ x) (installedAt_later _)
    have hevt := from_of_calls hcalls
    have hsends := sendsCreates_of_calls hcalls
    refine leaves_of_doesOnly (fun t effects hnext hopen => ?_)
      (hfrom.doesOnly hevt (bidsFrom_of_place (Or.inl hcalls.place)) hsends)
    rw [hnext] at hsends
    exact hfrom.transits hevt hsends (NiSession.transits_of_processEvent hnext) hopen
  step_nf := by
    intro trace x i s hs _ hcalls
    have hfrom : s.From (sources (trace ++ [x])) (InstalledAt (trace ++ [x]) (.nf i)) :=
      hs.mono (sources_le _ x) (installedAt_later _)
    have hevt := from_of_calls hcalls
    have hdecoded : x.input.evt.IsDecoded := by
      cases hx : x.input.evt with
      | msg e => exact fun a ha => hcalls.proper.decoded e a hx ha
      | _ => trivial
    refine leaves_of_doesOnly (fun t effects hnext => ?_)
      (hfrom.doesOnly hevt hdecoded (installedBeyond_of_installedAt (by simp)))
    exact hfrom.transits hevt hdecoded (NfSession.transits_of_processEvent hnext)
  step_nr := by
    intro trace x s hs _ hcalls
    have hfrom : s.From (sources (trace ++ [x])) (InstalledAt (trace ++ [x]) .nr) :=
      hs.mono (sources_le _ x) (installedAt_later _)
    have hevt := from_of_calls hcalls
    refine leaves_of_doesOnly (fun t effects hnext => ?_)
      (hfrom.doesOnly hevt (bidsFrom_of_place (Or.inr hcalls.place))
        (installedBeyond_of_installedAt (by simp)))
    exact hfrom.transits hevt (NrSession.transits_of_processEvent hnext)

/-! ## All runs -/

variable {before later : List (PathStep α n)}

/-- What a step of a run has sent and done is from what happened until then. -/
theorem from_of_run (hrun : PathRun conf sid (before ++ x :: later) c) :
    ∀ effect ∈ x.output,
      effect.From (sources (before ++ [x])) (InstalledAt (before ++ [x]) x.input.place) := by
  have hsplit : before ++ x :: later = before ++ [x] ++ later := by
    rw [List.append_assoc, List.singleton_append]
  rw [hsplit] at hrun
  rcases hrun.of_append with ⟨c', hprefix⟩
  exact (Knowledge.holds_of_run (sourceKnowledge_kept α n conf) hprefix).effects x
    (List.mem_append_right _ (List.mem_singleton_self x))

theorem requested_of_sources (h : (sources trace).Requested o) : Requested trace o := by
  rcases h with ⟨b, ⟨x, hx, e, m, hplace, hevt, _, _, _, hobjects⟩, ho⟩
  exact ⟨x, hx, e, hplace, hevt, hobjects o ho⟩

/-- A step asks the installer to check an object or to install it. -/
def HandsToInstaller (x : PathStep α n) (o : MspecObject α) : Prop :=
  (∃ objects, .check objects ∈ x.output ∧ o ∈ objects.values) ∨
    ∃ rule, .installAuctionRules rule ∈ x.output ∧ o ∈ rule.objectRequests.values

/-- In every run, with any number of forwarders and with messages that are lost, delayed or
delivered more than once: each CREATE that is sent is a copy of one that the initiator sent
before for a request of its user, and each object to be checked or installed at some node is
one of such a request. -/
theorem requested_of_run (hrun : PathRun conf sid (before ++ x :: later) c) :
    (∀ m a, .sendMessage m ∈ x.output → m.msg = some a → a.kind = .create →
      ∃ b, Created (before ++ [x]) b ∧ a.CopyOf b) ∧
    ∀ o, HandsToInstaller x o → Requested (before ++ [x]) o := by
  have hfrom := from_of_run hrun
  constructor
  · intro m a hm ha hkind
    have hsent := hfrom _ hm a ha
    rw [AnslpMsg.From, hkind] at hsent
    exact hsent
  · rintro o (⟨objects, hcheck, ho⟩ | ⟨rule, hinstall, ho⟩)
    · exact requested_of_sources (hfrom _ hcheck o ho)
    · exact requested_of_sources (hfrom _ hinstall o ho)

/-- In every such run the objects that the initiator hands to its user are objects that the
installer of another node reported, and the objects that a node has removed are objects that
its own installer reported. -/
theorem installed_of_run (hrun : PathRun conf sid (before ++ x :: later) c) :
    (∀ rule, .sendResponse rule ∈ x.output →
      ∀ o ∈ rule.objectRequests.values, InstalledBeyond (before ++ [x]) o) ∧
    ∀ rule, .removeAuctionRules rule ∈ x.output →
      ∀ o ∈ rule.objectResponses.values, InstalledAt (before ++ [x]) x.input.place o := by
  have hfrom := from_of_run hrun
  exact ⟨fun _ hrule => hfrom _ hrule, fun _ hrule => hfrom _ hrule⟩

/-- In every such run the objects that a node hands to an auction were bid before by the user
at one of the ends. -/
theorem bid_of_run (hrun : PathRun conf sid (before ++ x :: later) c) {server : Bool}
    {rule : AuctionRule α} (hrule : .auctionInteraction server rule ∈ x.output) :
    ∀ o ∈ rule.objectRequests.values, Bid (before ++ [x]) o :=
  from_of_run hrun _ hrule

end Chain

/-! ### An object that is auctioned -/

namespace AuctionedObject

open Sample hiding conf request create arrival
open Checked LostResponse Bystander

/-- Both nodes are configured alike. -/
abbrev placeConfs : Place 0 → AnslpConfig :=
  fun _ => conf

/-- The object, as it is requested, checked, installed and bid. -/
def objects : ObjectList RawIpap :=
  OrderedMap.empty.insert 0 object

/-- A user asks for a session with this object. -/
def request : ApiCreateEvent RawIpap :=
  { Sample.request with mspecObjects := objects }

/-- The CREATE arrives. -/
def arrival : MsgEvent RawIpap :=
  ⟨create.ntlpMsg, true⟩

/-- The CREATE is sent. -/
def sent : Chain RawIpap 0 :=
  { Chain.start placeConfs 1 with
    ni := { (NiSession.new conf 1 0).created surroundings request with state := .pending }
    mail := [(.nr, create.ntlpMsg)] }

/-- The responder has the object checked. -/
def checking : Chain RawIpap 0 :=
  { sent with nr := responder }

/-- It has the object installed. -/
def installing : Chain RawIpap 0 :=
  { checking with nr := { responder with createCounter := 0, state := .pendingInstalling } }

/-- The responder, its rule installed. -/
def up : NrSession RawIpap :=
  { installing.nr with
    rule := responder.rule.setReponseObjects surroundings.newKey objects
    state := .auctioning }

/-- The RESPONSE with the object. -/
def response : KindMsg .response RawIpap where
  ntlpMsg := up.buildSuccessResponse create.ntlpMsg 30
  body := (create.ntlpMsg.successBody 30).setMspecObjects [object]
  msg_eq := rfl
  kind_eq := rfl

/-- It is on its way. -/
def answered : Chain RawIpap 0 :=
  { sent with nr := up, mail := sent.mail ++ [(.ni, response.ntlpMsg)] }

/-- The rule with the object that it reports, or that is bid. -/
def reported : AuctionRule RawIpap :=
  .ofRequestObjects surroundings.newKey [object]

/-- The initiator hands the object to its user. -/
def handedOver : Chain RawIpap 0 :=
  { answered with
    ni := { answered.ni.responded surroundings response with state := .pendingInstalling } }

/-- The initiator is up. -/
def confirmed : Chain RawIpap 0 :=
  { handedOver with
    ni :=
      { handedOver.ni with
        rule := some (reported.setReponseObjects surroundings.newKey objects)
        responseTimer := 0
        refreshTimer := 1
        state := .auctioning } }

/-- The responder bids. -/
def bidding : NtlpMsg RawIpap :=
  up.buildBiddingMessage (NiSession.requestedMri request) ⟨objects, true⟩

/-- Its bid is on its way. -/
def bid : Chain RawIpap 0 :=
  { confirmed with
    nr := { up with msnBidding := up.msnBidding + 1 }
    mail := confirmed.mail ++ [(.ni, bidding)] }

theorem isProper_msg {e : MsgEvent RawIpap} {a : AnslpMsg RawIpap}
    (hmsg : e.ntlpMsg.msg = some a) (hdecoded : a.IsDecoded)
    (hcreate : a.kind = .create → a.hasMsgSequenceNumber = true) :
    IsProper surroundings (.msg e) where
  decoded := by
    rintro e b ⟨⟩ hb
    cases hmsg.symm.trans hb
    exact hdecoded
  create := by
    rintro e c ⟨⟩ hc
    have hbody := MsgEvent.ntlpMsg_of_ofKind? hc ▸ c.msg_eq
    cases hmsg.symm.trans hbody
    exact hcreate c.kind_eq
  failure := by
    intro sid objects exp h
    cases h
  newKey := by
    intro objects h
    cases h

theorem isProper_install : IsProper surroundings (.apiInstall objects) where
  decoded := by
    intro e a h
    cases h
  create := by
    intro e c h
    cases h
  failure := by
    intro sid objects exp h
    cases h
  newKey := by
    rintro _ ⟨⟩ i j hi hj _
    cases Nat.lt_one_iff.mp hi
    cases Nat.lt_one_iff.mp hj
    rfl

theorem isProper_arrival : IsProper surroundings (.msg arrival) := by
  apply isProper_msg create.msg_eq
  · exact (NiSession.contents_createBody _ _ (by decide)).isDecoded (by decide)
  · intro _
    rfl

theorem isProper_response : IsProper surroundings (.msg ⟨response.ntlpMsg, true⟩) := by
  apply isProper_msg response.msg_eq
  · exact ((create.ntlpMsg.contents_successBody 30).setMspecObjects [object]
      (by decide)).isDecoded (by decide)
  · intro hkind
    cases hkind

theorem isProper_bidding : IsProper surroundings (.msg ⟨bidding, true⟩) := by
  apply isProper_msg rfl
  · exact (((AnslpMsg.contents_new .bidding).setFixed
      (b := .msgSequenceNumber (up.msnBidding + 1)) rfl).setMspecObjects [object]
      (by decide)).isDecoded (by decide)
  · intro hkind
    cases hkind

theorem pathRun_checking : ∃ trace, Chain.PathRun placeConfs 1 trace checking := by
  have hsent := Chain.PathRun.nil.snoc
    (rfl : Chain.system placeConfs 1 (.start placeConfs 1) (move .ni (.apiCreate request)) =
      (_, some sent))
    (isProper_surroundings (fun _ h => by cases h) fun _ h => by cases h)
    fun _ h => by cases h
  have hchecking := hsent.snoc
    (rfl : Chain.system placeConfs 1 sent (move .nr (.msg arrival)) = (_, some checking))
    isProper_arrival fun _ h => by
      cases h
      exact List.mem_cons_self
  exact ⟨_, hchecking⟩

/-- The installer is asked to install what the user requested. -/
theorem requested_object : ∃ (before : List (Chain.PathStep RawIpap 0))
    (x : Chain.PathStep RawIpap 0), Chain.PathRun placeConfs 1 (before ++ [x]) installing ∧
      Chain.HandsToInstaller x object ∧ Chain.Requested (before ++ [x]) object := by
  rcases pathRun_checking with ⟨trace, hchecking⟩
  have hrun := hchecking.snoc
    (rfl : Chain.system placeConfs 1 checking (move .nr (.apiCheck objects)) =
      ([.installAuctionRules responder.rule, .startTimer 1 30], some installing))
    (isProper_surroundings (fun _ h => by cases h) fun _ h => by cases h) fun _ h => by cases h
  have hhands : Chain.HandsToInstaller (n := 0) ⟨checking, move .nr (.apiCheck objects),
      [.installAuctionRules responder.rule, .startTimer 1 30], installing⟩ object :=
    Or.inr ⟨responder.rule, List.mem_cons_self, List.mem_singleton_self object⟩
  exact ⟨trace, _, hrun, hhands, (Chain.requested_of_run hrun).2 object hhands⟩

theorem pathRun_answered : ∃ trace, Chain.PathRun placeConfs 1 trace answered := by
  rcases pathRun_checking with ⟨trace, hchecking⟩
  have hinstalling := hchecking.snoc
    (rfl : Chain.system placeConfs 1 checking (move .nr (.apiCheck objects)) = (_, some installing))
    (isProper_surroundings (fun _ h => by cases h) fun _ h => by cases h) fun _ h => by cases h
  have hup := hinstalling.snoc
    (rfl : Chain.system placeConfs 1 installing (move .nr (.apiInstall objects)) =
      (_, some answered))
    isProper_install fun _ h => by cases h
  exact ⟨_, hup⟩

/-- The user is told what the installer of the responder reported. -/
theorem installedBeyond_object : ∃ (before : List (Chain.PathStep RawIpap 0))
    (x : Chain.PathStep RawIpap 0), Chain.PathRun placeConfs 1 (before ++ [x]) handedOver ∧
      .sendResponse reported ∈ x.output ∧ object ∈ reported.objectRequests.values ∧
      Chain.InstalledBeyond (before ++ [x]) object := by
  rcases pathRun_answered with ⟨trace, hanswered⟩
  have hrun := hanswered.snoc
    (rfl : Chain.system placeConfs 1 answered (move .ni (.msg ⟨response.ntlpMsg, true⟩)) =
      ([.reportAsyncEvent "CREATE session initiated", .startTimer 1 6, .sendResponse reported],
        some handedOver))
    isProper_response fun _ h => by
      cases h
      exact List.mem_cons_of_mem _ List.mem_cons_self
  have htold : Effect.sendResponse reported ∈ [.reportAsyncEvent "CREATE session initiated",
      .startTimer 1 6, .sendResponse reported] :=
    List.mem_cons_of_mem _ (List.mem_cons_of_mem _ List.mem_cons_self)
  have hobject : object ∈ reported.objectRequests.values := List.mem_singleton_self object
  exact ⟨trace, _, hrun, htold, hobject, (Chain.installed_of_run hrun).1 _ htold object hobject⟩

theorem pathRun_bid : ∃ trace, Chain.PathRun placeConfs 1 trace bid := by
  rcases pathRun_answered with ⟨trace, hanswered⟩
  have hhandedOver := hanswered.snoc
    (rfl : Chain.system placeConfs 1 answered (move .ni (.msg ⟨response.ntlpMsg, true⟩)) =
      (_, some handedOver))
    isProper_response fun _ h => by
      cases h
      exact List.mem_cons_of_mem _ List.mem_cons_self
  have hconfirmed := hhandedOver.snoc
    (rfl : Chain.system placeConfs 1 handedOver (move .ni (.apiInstall objects)) =
      (_, some confirmed))
    isProper_install fun _ h => by cases h
  have hbid := hconfirmed.snoc
    (rfl : Chain.system placeConfs 1 confirmed (move .nr (.apiBidding ⟨objects, true⟩)) =
      (_, some bid))
    (isProper_surroundings (fun _ h => by cases h) fun _ h => by cases h) fun _ h => by cases h
  exact ⟨_, hbid⟩

/-- The initiator takes a bid of the user of the responder. -/
theorem bid_object : ∃ (before : List (Chain.PathStep RawIpap 0))
    (x : Chain.PathStep RawIpap 0), Chain.PathRun placeConfs 1 (before ++ [x]) bid ∧
      .auctionInteraction false reported ∈ x.output ∧ object ∈ reported.objectRequests.values ∧
      Chain.Bid (before ++ [x]) object := by
  rcases pathRun_bid with ⟨trace, hbid⟩
  have hrun := hbid.snoc
    (rfl : Chain.system placeConfs 1 bid (move .ni (.msg ⟨bidding, true⟩)) =
      ([.auctionInteraction false reported], some bid))
    isProper_bidding fun _ h => by
      cases h
      exact List.mem_cons_of_mem _ (List.mem_cons_of_mem _ List.mem_cons_self)
  have hobject : object ∈ reported.objectRequests.values := List.mem_singleton_self object
  exact ⟨trace, _, hrun, List.mem_cons_self, hobject,
    Chain.bid_of_run hrun List.mem_cons_self object hobject⟩

end AuctionedObject
end Anslp
