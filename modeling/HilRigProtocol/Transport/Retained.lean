/-
  What becomes of the reliable item in one step.

  The item is published with its bytes, goes through its stages with these bytes, and is
  released by an acknowledgement, by its failure or with its session. No step replaces
  one item by another.
-/
import HilRigProtocol.Transport.RecoveryBarrier

namespace HilRigProtocol.Transport

/-! ## Frames that concern the item -/

namespace Receive

/-- The frame acknowledges the retained reliable frame. A message in order proves to a
    host that its CONFIRM was accepted. -/
def acknowledges (root : Root) (frame : Frame) : Bool :=
  frame.sessionIdentifier == root.session.sessionIdentifier
    && match root.session.retainedReliableFrameType with
      | .initiate =>
          frame.type == .response
            && frame.acknowledgementSequence == root.session.retainedTransmitSequence
      | .response =>
          frame.type == .confirm
            && frame.acknowledgementSequence == root.session.retainedTransmitSequence
      | .confirm =>
          frame.type == .ack
              && frame.acknowledgementSequence == root.session.retainedTransmitSequence
            || frame.type == .applicationMessage
              && frame.sequence == root.session.expectedReceiveSequence
      | .applicationMessage =>
          frame.type == .ack
            && frame.acknowledgementSequence == root.session.retainedTransmitSequence
      | _ => false

/-- The frame is the one that the retained handshake frame answers, once more. -/
def asksAgain (root : Root) (frame : Frame) : Bool :=
  frame.sessionIdentifier == root.session.sessionIdentifier
    && frame.sequence == root.session.lastAcceptedReceiveSequence
    && match root.session.retainedReliableFrameType with
      | .response => frame.type == .initiate
      | .confirm => frame.type == .response
      | _ => false

end Receive

section
variable [Target]

/-- The call resolves a frame with the property. -/
def Receive.resolves (root : Root) (call : Call) (meets : Root → Frame → Bool) : Prop :=
  ∃ body frame, Receive.offered root call = some body ∧
    decodeFrameView body root.codecScratchSize root.base.config.maxApplicationMessageSize =
      (.ok, frame, .valid) ∧ meets root frame = true

namespace Endpoint

variable (s : Setup)

/-! ## The item -/

/-- The next stage of an item that stays. -/
inductive StageMove (e : Endpoint) (call : Call) (stage : Stage) : Stage → Prop
  | same : StageMove e call stage stage
  | shown {size : Nat} {frame : Frame} : call = .peekOutput (some size) →
      e.selection s = .reliable → s.item e.activity = some ⟨frame, stage⟩ →
      (encodedFrame frame).length ≤ size → StageMove e call stage stage.peek
  | committed {nowMs : UInt32} : call = .commitOutput nowMs → stage.pinned = true →
      StageMove e call stage (stage.commit nowMs)
  | asked : Receive.resolves (e.toRoot s) call Receive.asksAgain →
      StageMove e call stage (s.retry stage)
  | expired {nowMs : UInt32} {operatingMode : OperatingMode} :
      call = .process nowMs operatingMode → Expired s nowMs stage →
      StageMove e call stage (s.retry stage)

/-- The session is given up, and its RESET waits. -/
def LeavesReset (e e' : Endpoint) : Prop :=
  ∃ id, e.activity.identifier = some id ∧ e'.activity = .recovering (some ⟨id, false⟩)

/-- The session ends by the caller, with the link, or by what the peer sent. -/
def Ends (e : Endpoint) (call : Call) (e' : Endpoint) : Prop :=
  call = .reset ∨ call.reportsLinkLoss = true ∨
    (∃ body, e.offered call = some body ∧ (e.classifyBody s body).1 = .incompatible ∧
      LeavesReset e e') ∨
    Receive.offersReset (e.toRoot s) call ∧ e.activity.identifier.isSome ∧
      (e'.activity = .waitingForInitiate ∨
        s.role = .host ∧ e'.activity = .initiatePending e.cursor)

/-- What becomes of the item. -/
inductive Fate (e : Endpoint) (call : Call) (item : Item) (e' : Endpoint) : Prop
  | kept {stage : Stage} : StageMove s e call item.stage stage →
      s.item e'.activity = some ⟨item.frame, stage⟩ →
      e'.activity.identifier = e.activity.identifier → e'.lastFailure = e.lastFailure →
      Fate e call item e'
  | acknowledged : Receive.resolves (e.toRoot s) call Receive.acknowledges →
      item.stage.acceptsAck = true → s.item e'.activity = none →
      e'.activity.identifier = e.activity.identifier →
      e'.lastFailure = e.lastFailure ∨ e'.lastFailure = .none → Fate e call item e'
  | failed {nowMs : UInt32} {operatingMode : OperatingMode} :
      call = .process nowMs operatingMode → (timeout s nowMs item.stage).state = .exhausted →
      LeavesReset e e' → s.item e'.activity = none → e'.lastFailure = .delivery →
      Fate e call item e'
  | ended : Ends s e call e' → s.item e'.activity = none →
      e'.lastFailure = .localReset ∨ e'.lastFailure = .linkLost ∨ e'.lastFailure = .protocol →
      Fate e call item e'

variable {s}

theorem resolves_toRoot {e : Endpoint} {call : Call} {body : List UInt8} {frame : Frame}
    {meets : Root → Frame → Bool} (hbody : e.offered call = some body)
    (hdecode : Decodes s body frame) (hmeets : meets (e.toRoot s) frame = true) :
    Receive.resolves (e.toRoot s) call meets :=
  ⟨body, frame, by rw [offered_toRoot, hbody], hdecode, hmeets⟩

/-- A frame that is taken moves the item on, or releases it. -/
theorem takes_fate {e e₀ e' : Endpoint} {call : Call} {item : Item} {body : List UInt8}
    {frame : Frame} (hactivity : e₀.activity = e.activity)
    (hfailure : e₀.lastFailure = e.lastFailure) (hitem : s.item e.activity = some item)
    (hbody : e.offered call = some body) (hdecode : Decodes s body frame)
    (h : Takes s e₀ frame e') : Fate s e call item e'.release := by
  cases h with
  | duplicate ha _ =>
      exact .kept .same (by rw [← hitem, ← hactivity]; rfl) (by rw [← hactivity]; rfl) hfailure
  | repeatDue hdue _ =>
      exact .kept .same (by rw [← hitem, ← hactivity]; rfl) (by rw [← hactivity]; rfl) hfailure
  | @repeatInitiate received stage ha htype hseq =>
      rw [hactivity] at ha
      rw [ha] at hitem
      cases hitem
      refine .kept (.asked (resolves_toRoot hbody hdecode ?_)) rfl (by rw [ha]; rfl) hfailure
      unfold Receive.asksAgain toRoot toSession
      rw [ha, htype, hseq]
      simp [Activity.identifier, Setup.accepted, Setup.item, Setup.responseFrame]
  | @repeatResponse received stage ha htype hseq =>
      rw [hactivity] at ha
      rw [ha] at hitem
      cases hitem
      refine .kept (.asked (resolves_toRoot hbody hdecode ?_)) rfl (by rw [ha]; rfl) hfailure
      unfold Receive.asksAgain toRoot toSession
      rw [ha, htype, hseq]
      simp [Activity.identifier, Setup.accepted, Setup.item, Setup.confirmFrame]
  | @repeatAck x ha _ _ =>
      rw [hactivity] at ha
      rw [ha] at hitem
      exact .kept .same hitem (by rw [ha]; rfl) hfailure
  | adopt ha _ _ _ =>
      rw [hactivity] at ha
      rw [ha] at hitem
      cases hitem
  | @response stage ha htype hack hseq =>
      rw [hactivity] at ha
      rw [ha] at hitem
      cases hitem
      refine .acknowledged (resolves_toRoot hbody hdecode ?_) hack rfl (by rw [ha]; rfl)
        (Or.inl hfailure)
      unfold Receive.acknowledges toRoot toSession
      rw [ha, htype, hseq]
      simp [Activity.identifier, Setup.item, Setup.initiateFrame]
  | @confirm received stage ha htype hseq hack hsame hfull =>
      rw [hactivity] at ha
      rw [ha] at hitem
      cases hitem
      refine .acknowledged (resolves_toRoot hbody hdecode ?_) hack rfl (by rw [ha]; rfl)
        (Or.inr rfl)
      unfold Receive.acknowledges toRoot toSession
      rw [ha, htype, hsame]
      simp [Activity.identifier, Setup.item, Setup.responseFrame]
  | @confirmAck received stage ha htype hack hsame hfull =>
      rw [hactivity] at ha
      rw [ha] at hitem
      cases hitem
      refine .acknowledged (resolves_toRoot hbody hdecode ?_) hack rfl (by rw [ha]; rfl)
        (Or.inr rfl)
      unfold Receive.acknowledges toRoot toSession
      rw [ha, htype, hsame]
      simp [Activity.identifier, Setup.item, Setup.confirmFrame]
  | @prove received stage ha htype hseq hack hfull =>
      rw [hactivity] at ha
      rw [ha] at hitem
      cases hitem
      refine .acknowledged (resolves_toRoot hbody hdecode ?_) hack rfl (by rw [ha]; rfl)
        (Or.inr rfl)
      unfold Receive.acknowledges toRoot toSession
      rw [ha, htype, hseq]
      simp [Activity.identifier, Setup.item, Setup.confirmFrame, Setup.accepted]
  | @delivery x payload stage ha htype hout hack hsame hfull =>
      rw [hactivity] at ha
      rw [ha, item_established, hout] at hitem
      cases hitem
      refine .acknowledged (resolves_toRoot hbody hdecode ?_) hack rfl (by rw [ha]; rfl)
        (Or.inl hfailure)
      unfold Receive.acknowledges toRoot toSession
      rw [ha, htype, hsame]
      simp [Activity.identifier, Setup.item, hout, Application.applicationFrame]
  | @message x ha htype _ _ _ =>
      rw [hactivity] at ha
      rw [ha] at hitem
      exact .kept .same hitem (by rw [ha]; rfl) hfailure

theorem advances_fields {e e' : Endpoint} (h : Advances s e e') :
    s.item e'.activity = s.item e.activity ∧ e'.lastFailure = e.lastFailure := by
  rcases h with rfl | ⟨ha, rfl⟩
  · exact ⟨rfl, rfl⟩
  · unfold beginEstablishment
    rw [ha]
    split_ifs <;> exact ⟨rfl, rfl⟩

theorem identifier_of_item {a : Activity} {item : Item} (h : s.item a = some item) :
    ∃ id, a.identifier = some id := by
  cases a <;> first | exact ⟨_, rfl⟩ | cases h

/-- The endpoint after a RESET of the peer. -/
theorem activity_begun (e₀ : Endpoint) :
    ((e₀.abandon (.recovering none) .protocol).2.beginEstablishment s).activity =
        .waitingForInitiate ∨
      s.role = .host ∧
        ((e₀.abandon (.recovering none) .protocol).2.beginEstablishment s).activity =
          .initiatePending e₀.cursor := by
  have hcursor := (abandon_record e₀ (.recovering none) .protocol).1
  unfold beginEstablishment
  split_ifs with hhost
  · exact Or.inr ⟨hhost, by rw [← hcursor]⟩
  · exact Or.inl rfl

/-- A session that is given up by what the peer sent. -/
theorem ends_reject {e e₀ : Endpoint} {call : Call} {body : List UInt8} {id : UInt64}
    (hactivity : e₀.activity = e.activity) (hid : e.activity.identifier = some id)
    (hbody : e.offered call = some body)
    (hincompatible : (e.classifyBody s body).1 = .incompatible)
    (hpending : ∀ reset, e₀.activity ≠ .recovering (some reset)) :
    Ends s e call e₀.rejectSession.2 := by
  have ha := activity_rejectSession hpending
  rw [hactivity, hid] at ha
  exact Or.inr (Or.inr (Or.inl ⟨body, hbody, hincompatible, id, hid, ha⟩))

/-- A session that the peer gave up. -/
theorem ends_peer {e e₀ : Endpoint} {call : Call} {body : List UInt8} {frame : Frame}
    (hactivity : e₀.activity = e.activity) (hcursor : e₀.cursor = e.cursor)
    (hbody : e.offered call = some body) (hdecode : Decodes s body frame)
    (hcurrent : e₀.activity.identifier = some frame.sessionIdentifier)
    (htype : frame.type = .reset) :
    Ends s e call ((e₀.abandon (.recovering none) .protocol).2.beginEstablishment s) := by
  have hbegun := @activity_begun _ s e₀
  rw [hcursor] at hbegun
  rw [hactivity] at hcurrent
  refine Or.inr (Or.inr (Or.inr ⟨⟨body, frame, ?_, hdecode, htype, ?_⟩, ?_, hbegun⟩))
  · rw [offered_toRoot, hbody]
  · show frame.sessionIdentifier = e.activity.identifier.getD sessionSeedInvalid
    rw [hcurrent]
    rfl
  · rw [hcurrent]
    rfl

theorem receipt_fate {e e₀ e' : Endpoint} {call : Call} {item : Item}
    (hactivity : e₀.activity = e.activity) (hcursor : e₀.cursor = e.cursor)
    (hfailure : e₀.lastFailure = e.lastFailure) (hitem : s.item e.activity = some item)
    (hclass : ∀ body, (e₀.classifyBody s body).1 = (e.classifyBody s body).1)
    (h : Receipt s e₀ (e.offered call) e') : Fate s e call item e' := by
  obtain ⟨id, hid⟩ := identifier_of_item hitem
  cases h with
  | idle hsame _ =>
      have hkept := hsame.activity.trans hactivity
      exact .kept .same (by rw [hkept, hitem]) (by rw [hkept])
        (hsame.lastFailure.trans hfailure)
  | take hbody _ hdecode _ htakes =>
      exact takes_fate hactivity hfailure hitem hbody hdecode htakes
  | reject hbody hincompatible hpending =>
      rw [hclass] at hincompatible
      refine .ended (ends_reject hactivity hid hbody hincompatible hpending) ?_
        (Or.inr (Or.inr (rejectSession_record hpending).2.1))
      rw [activity_rejectSession hpending]
      rfl
  | reset hbody hdecode hcurrent htype =>
      have hadvances : Advances s (e₀.abandon (.recovering none) .protocol).2
          ((e₀.abandon (.recovering none) .protocol).2.beginEstablishment s) :=
        Or.inr ⟨(abandon_fields _ _ _).1, rfl⟩
      obtain ⟨hnone, hkept⟩ := advances_fields hadvances
      refine .ended (ends_peer hactivity hcursor hbody hdecode hcurrent htype) ?_
        (Or.inr (Or.inr ?_))
      · rw [hnone, (abandon_fields _ _ _).1]
        rfl
      · rw [hkept, (abandon_record _ _ _).2.1]

theorem fate_advances {e e₁ e' : Endpoint} {call : Call} {item : Item}
    (hitem : s.item e.activity = some item) (h : Fate s e call item e₁)
    (hadvances : Advances s e₁ e') : Fate s e call item e' := by
  obtain ⟨hsame, hfailure⟩ := advances_fields hadvances
  obtain ⟨id, hid⟩ := identifier_of_item hitem
  cases h with
  | kept hmove hkept hidentifier hlast =>
      have hnot : e₁.activity ≠ .recovering none := by
        intro ha
        rw [ha] at hkept
        cases hkept
      rw [advances_bound hadvances hnot]
      exact .kept hmove hkept hidentifier hlast
  | acknowledged hresolves hack hnone hidentifier hlast =>
      have hnot : e₁.activity ≠ .recovering none := by
        intro ha
        rw [ha, hid] at hidentifier
        cases hidentifier
      rw [advances_bound hadvances hnot]
      exact .acknowledged hresolves hack hnone hidentifier hlast
  | failed hcall hexhausted hleaves hnone hlast =>
      obtain ⟨id', hid', ha⟩ := hleaves
      rw [advances_bound hadvances (by rw [ha]; simp)]
      exact .failed hcall hexhausted ⟨id', hid', ha⟩ hnone hlast
  | ended hends hnone hlast =>
      rw [← hfailure] at hlast
      refine .ended ?_ (hsame.trans hnone) hlast
      rcases hends with hreset | hlost | ⟨body, hbody, hclass, hleaves⟩ | hpeer
      · exact Or.inl hreset
      · exact Or.inr (Or.inl hlost)
      · obtain ⟨id', hid', ha⟩ := hleaves
        rw [advances_bound hadvances (by rw [ha]; simp)]
        exact Or.inr (Or.inr (Or.inl ⟨body, hbody, hclass, id', hid', ha⟩))
      · obtain ⟨hoffers, hsome, hbegun⟩ := hpeer
        have hnot : e₁.activity ≠ .recovering none := by
          intro ha
          rw [ha] at hbegun
          rcases hbegun with hother | ⟨_, hother⟩ <;> cases hother
        rw [advances_bound hadvances hnot]
        exact Or.inr (Or.inr (Or.inr ⟨hoffers, hsome, hbegun⟩))

theorem tick_fate {e e₀ e' : Endpoint} {nowMs : UInt32} {operatingMode : OperatingMode}
    {item : Item} (hactivity : e₀.activity = e.activity) (hfailure : e₀.lastFailure = e.lastFailure)
    (hitem : s.item e.activity = some item) (h : Tick s e₀ nowMs e') :
    Fate s e (.process nowMs operatingMode) item e' := by
  have hitem' : s.item e₀.activity = some item := by rw [hactivity, hitem]
  obtain ⟨id, hid⟩ := identifier_of_item hitem
  have hrecovery : ∀ e₁ : Endpoint, e₁.activity = e₀.activity →
      (e₁.beginLocalRecovery .delivery).2.activity = .recovering (some ⟨id, false⟩) := by
    intro e₁ ha
    rw [activity_beginLocalRecovery, ha, hactivity, hid]
    rfl
  cases h with
  | idle => exact .kept .same hitem' (by rw [hactivity]) hfailure
  | initiate ha | response ha | confirm ha =>
      rw [ha] at hitem'
      cases hitem'
  | retry hsome hexpired _ =>
      rw [hitem'] at hsome
      cases hsome
      refine .kept (.expired rfl hexpired) ?_ ?_ hfailure
      · rw [item_mapStage, hitem']
        rfl
      · rw [identifier_mapStage, hactivity]
  | @hold id' x payload stage ha hout _ _ =>
      rw [ha, item_established, hout] at hitem'
      cases hitem'
      have hkept : s.item (e₀.activity.mapStage (timeout s nowMs)) =
          some ⟨Application.applicationFrame id' x.nextTransmit payload, timeout s nowMs stage⟩ := by
        rw [item_mapStage, ha, item_established, hout]
        rfl
      by_cases hexpired : Expired s nowMs stage
      · rw [timeout_expired hexpired] at hkept
        exact .kept (.expired rfl hexpired) hkept (by rw [identifier_mapStage, hactivity]) hfailure
      · rw [timeout_waits hexpired] at hkept
        exact .kept .same hkept (by rw [identifier_mapStage, hactivity]) hfailure
  | @fail id' x payload stage ha hout hexhausted _ =>
      rw [ha, item_established, hout] at hitem'
      cases hitem'
      have ha' := hrecovery { e₀ with events := e₀.events.push failedEvent } rfl
      refine .failed rfl hexhausted ⟨id, hid, ha'⟩ ?_ (abandon_record _ _ _).2.1
      rw [ha']
      rfl
  | lose _ hsome hexhausted =>
      rw [hitem'] at hsome
      cases hsome
      refine .failed rfl hexhausted ⟨id, hid, hrecovery e₀ rfl⟩ ?_ (abandon_record _ _ _).2.1
      rw [hrecovery e₀ rfl]
      rfl

theorem item_peekControl (a : Activity) :
    s.item a.peekControl = s.item a ∧ a.peekControl.identifier = a.identifier := by
  cases a <;> exact ⟨rfl, rfl⟩

theorem item_commitControl (a : Activity) :
    s.item a.commitControl = s.item a ∧ a.commitControl.identifier = a.identifier := by
  cases a <;> exact ⟨rfl, rfl⟩

/-- What a step makes of the item. -/
theorem deed_fate {e e' : Endpoint} {call : Call} {item : Item}
    (hitem : s.item e.activity = some item) (h : Deed s e call e') : Fate s e call item e' := by
  cases h with
  | idle => exact .kept .same hitem rfl rfl
  | readEvent => exact .kept .same hitem rfl rfl
  | work _ hwork =>
      obtain ⟨hactivity, hcursor, hfailure, _⟩ := recorded_fields e call
      cases hwork with
      | receipt hreceipt hadvances =>
          refine fate_advances hitem (receipt_fate hactivity hcursor hfailure hitem ?_ hreceipt)
            hadvances
          intro body
          rw [classifyBody_recorded]
      | tick hcall htick =>
          subst hcall
          exact tick_fate hactivity hfailure hitem htick
  | @showReliable size other hcall hsel hsome hsize =>
      rw [hitem] at hsome
      cases hsome
      refine .kept (.shown hcall hsel hitem hsize) ?_ (identifier_mapStage _ _) rfl
      rw [item_mapStage, hitem]
      rfl
  | showControl =>
      obtain ⟨hkept, hidentifier⟩ := @item_peekControl _ s e.activity
      exact .kept .same (hkept.trans hitem) hidentifier rfl
  | commitReliable hcall hsome hpinned =>
      rw [hitem] at hsome
      cases hsome
      refine .kept (.committed hcall hpinned) ?_ (identifier_mapStage _ _) rfl
      rw [item_mapStage, hitem]
      rfl
  | commitControl =>
      obtain ⟨hkept, hidentifier⟩ := @item_commitControl _ s e.activity
      exact .kept .same (hkept.trans hitem) hidentifier rfl
  | submit _ _ _ ha hfree =>
      rw [ha, item_established, hfree] at hitem
      cases hitem
  | readMessage _ ha =>
      rw [ha] at hitem
      exact .kept .same hitem (by rw [ha]; rfl) rfl
  | reset hcall =>
      refine .ended (Or.inl hcall) ?_ (Or.inl rfl)
      unfold Endpoint.reset
      cases e.activity <;> rfl
  | observe _ ha =>
      rw [ha] at hitem
      cases hitem
  | disconnect hcall =>
      refine .ended (Or.inr (Or.inl (by rw [hcall]; rfl))) ?_ (Or.inr (Or.inl ?_))
      · rw [(abandon_fields _ _ _).1]
        rfl
      · exact (abandon_record _ _ _).2.1
  | connect _ hlink =>
      cases ha : e.activity with
      | disconnected =>
          rw [ha] at hitem
          cases hitem
      | _ =>
          rw [ha] at hlink
          cases hlink

/-! ## A new item -/

/-- How an endpoint without an item gets one. -/
inductive Birth (e : Endpoint) (call : Call) (item : Item) (e' : Endpoint) : Prop
  | handshake {nowMs : UInt32} {operatingMode : OperatingMode} :
      call = .process nowMs operatingMode → e.activity.sessionState = .connecting →
      item.stage = .ready → e'.activity.sessionState = .connecting →
      e'.activity.identifier = e.activity.identifier → Birth e call item e'
  | message {payload : List UInt8} {id : UInt64} {x : Exchange} :
      call = .submitApplicationData payload → e.activity = .established id x →
      item = ⟨Application.applicationFrame id x.nextTransmit payload, .ready⟩ →
      e'.activity = .established id { x with outgoing := some (payload, .ready) } →
      Birth e call item e'

theorem takes_birth {e e' : Endpoint} {frame : Frame} (hnone : s.item e.activity = none)
    (h : Takes s e frame e') : s.item e'.activity = none := by
  cases h with
  | duplicate | repeatDue => exact hnone
  | repeatInitiate ha | repeatResponse ha =>
      rw [ha] at hnone
      cases hnone
  | repeatAck ha | message ha =>
      rw [ha] at hnone
      exact hnone
  | adopt | response | confirm | confirmAck | prove | delivery => rfl

theorem receipt_birth {e e' : Endpoint} {offered : Option (List UInt8)}
    (hnone : s.item e.activity = none) (h : Receipt s e offered e') :
    s.item e'.activity = none := by
  cases h with
  | idle hsame _ => rw [hsame.activity, hnone]
  | @take _ _ e₁ _ _ _ _ htakes =>
      show s.item e₁.activity = none
      exact takes_birth hnone htakes
  | reject _ _ hbarrier =>
      rw [activity_rejectSession hbarrier]
      rfl
  | reset =>
      unfold beginEstablishment
      split_ifs <;> rfl

/-- Items come from `Process` and `Submit_Application_Data` only. -/
theorem deed_birth {e e' : Endpoint} {call : Call} {item : Item}
    (hnone : s.item e.activity = none) (hitem : s.item e'.activity = some item)
    (h : Deed s e call e') : Birth e call item e' := by
  cases h with
  | idle | readEvent =>
      rw [hnone] at hitem
      cases hitem
  | work _ hwork =>
      obtain ⟨hactivity, _⟩ := recorded_fields e call
      have hnone' : s.item (e.recorded call).activity = none := by rw [hactivity, hnone]
      cases hwork with
      | receipt hreceipt hadvances =>
          rw [(advances_fields hadvances).1, receipt_birth hnone' hreceipt] at hitem
          cases hitem
      | tick hcall htick =>
          cases htick with
          | idle =>
              rw [hnone'] at hitem
              cases hitem
          | initiate ha | response ha | confirm ha =>
              cases hitem
              rw [hactivity] at ha
              exact .handshake hcall (by rw [ha]; rfl) rfl rfl (by rw [ha]; rfl)
          | retry hsome | lose _ hsome =>
              rw [hnone'] at hsome
              cases hsome
          | hold ha hout =>
              rw [ha, item_established, hout] at hnone'
              cases hnone'
          | fail =>
              rw [activity_beginLocalRecovery] at hitem
              cases hitem
  | showReliable _ _ hsome | commitReliable _ hsome =>
      rw [hnone] at hsome
      cases hsome
  | showControl =>
      rw [show s.item e.activity.peekControl = none from (item_peekControl _).1.trans hnone] at hitem
      cases hitem
  | commitControl =>
      rw [show s.item e.activity.commitControl = none from
        (item_commitControl _).1.trans hnone] at hitem
      cases hitem
  | submit hcall _ _ ha =>
      cases hitem
      exact .message hcall ha rfl rfl
  | readMessage _ ha =>
      rw [ha] at hnone
      cases hnone.symm.trans hitem
  | reset =>
      unfold Endpoint.reset at hitem
      cases ha : e.activity <;> rw [ha] at hitem <;> cases hitem
  | observe => cases hitem
  | disconnect =>
      rw [show s.item _ = none from by rw [(abandon_fields _ _ _).1]; rfl] at hitem
      cases hitem
  | connect =>
      unfold beginEstablishment at hitem
      split_ifs at hitem <;> cases hitem

/-! ## The control slot -/

variable (s) in
/-- What becomes of the control slot. -/
inductive ControlMove (e : Endpoint) (call : Call) (e' : Endpoint) : Prop
  | same : e'.activity.controlItem = e.activity.controlItem → ControlMove e call e'
  | shown {size : Nat} {item : ControlItem} : call = .peekOutput (some size) →
      e.selection s = .control → e.activity.controlItem = some item →
      (encodedFrame item.frame).length ≤ size →
      e'.activity.controlItem = some ⟨item.frame, true⟩ → ControlMove e call e'
  | committed {nowMs : UInt32} {item : ControlItem} : call = .commitOutput nowMs →
      e.activity.controlItem = some item → item.pinned = true →
      e'.activity.controlItem = none → ControlMove e call e'
  /-- A frame of the session is acknowledged. -/
  | acknowledged {body : List UInt8} {frame : Frame} {x : Exchange} :
      e.offered call = some body → Decodes s body frame →
      frame.type = .confirm ∨ frame.type = .applicationMessage →
      e.activity.controlItem = none → e'.activity = .established frame.sessionIdentifier x →
      x.lastReceived = frame.sequence → x.acknowledgement = some false → ControlMove e call e'
  | left : Ends s e call e' ∨ LeavesReset e e' →
      (e'.activity.controlItem = none ∨ ∃ id, e'.activity = .recovering (some ⟨id, false⟩)) →
      ControlMove e call e'

omit [Target] in
theorem controlItem_established (id : UInt64) (x : Exchange) :
    (Activity.established id x).controlItem =
      x.acknowledgement.map fun pinned => ⟨Handshake.controlFrame .ack id x.lastReceived, pinned⟩ :=
  rfl

omit [Target] in
theorem controlItem_mapStage (f : Stage → Stage) (a : Activity) :
    (a.mapStage f).controlItem = a.controlItem := by
  cases a <;> rfl

omit [Target] in
theorem controlItem_peekControl {a : Activity} {item : ControlItem}
    (h : a.controlItem = some item) : a.peekControl.controlItem = some ⟨item.frame, true⟩ := by
  cases a with
  | recovering reset =>
      cases reset with
      | none => cases h
      | some reset =>
          cases h
          rfl
  | established id x =>
      rw [controlItem_established, Option.map_eq_some_iff] at h
      obtain ⟨pinned, hack, rfl⟩ := h
      show (Activity.established id _).controlItem = _
      rw [controlItem_established, hack]
      rfl
  | _ => cases h

theorem advances_control {e e' : Endpoint} (h : Advances s e e') :
    e'.activity.controlItem = e.activity.controlItem := by
  rcases h with rfl | ⟨ha, rfl⟩
  · rfl
  · unfold beginEstablishment
    rw [ha]
    split_ifs <;> rfl

theorem takes_control {e e₀ e' : Endpoint} {call : Call} {body : List UInt8} {frame : Frame}
    (hactivity : e₀.activity = e.activity) (hbody : e.offered call = some body)
    (hdecode : Decodes s body frame) (h : Takes s e₀ frame e') :
    ControlMove s e call e'.release := by
  cases h with
  | duplicate | repeatDue => exact .same (by rw [← hactivity]; rfl)
  | repeatInitiate ha | repeatResponse ha | adopt ha | response ha =>
      rw [hactivity] at ha
      exact .same (by rw [ha]; rfl)
  | confirmAck ha =>
      rw [hactivity] at ha
      exact .same (by rw [ha]; rfl)
  | confirm ha htype =>
      rw [hactivity] at ha
      exact .acknowledged hbody hdecode (Or.inl htype) (by rw [ha]; rfl) rfl rfl rfl
  | prove ha htype =>
      rw [hactivity] at ha
      exact .acknowledged hbody hdecode (Or.inr htype) (by rw [ha]; rfl) rfl rfl rfl
  | delivery ha =>
      rw [hactivity] at ha
      exact .same (by rw [ha]; rfl)
  | @message x ha htype _ _ hfree =>
      rw [hactivity] at ha
      exact .acknowledged hbody hdecode (Or.inr htype)
        (by rw [ha, controlItem_established, hfree]; rfl) rfl rfl rfl
  | @repeatAck x ha hseq hkind =>
      rw [hactivity] at ha
      cases hack : x.acknowledgement with
      | some pinned =>
          refine .same ?_
          rw [ha, controlItem_established, hack]
          rfl
      | none =>
          have htype : frame.type = .confirm ∨ frame.type = .applicationMessage := by
            rcases hkind with ⟨hconfirm, _⟩ | ⟨hmessage, _⟩
            · exact Or.inl hconfirm
            · exact Or.inr hmessage
          exact .acknowledged hbody hdecode htype
            (by rw [ha, controlItem_established, hack]; rfl) rfl hseq.symm rfl

theorem receipt_control {e e₀ e' : Endpoint} {call : Call} (hactivity : e₀.activity = e.activity)
    (hcursor : e₀.cursor = e.cursor) (h : Receipt s e₀ (e.offered call) e') :
    ControlMove s e call e' := by
  cases h with
  | idle hsame _ => exact .same (by rw [hsame.activity, hactivity])
  | take hbody _ hdecode _ htakes => exact takes_control hactivity hbody hdecode htakes
  | reject _ _ hbarrier =>
      have ha := activity_rejectSession hbarrier
      rw [hactivity] at ha
      cases hid : e.activity.identifier with
      | none =>
          rw [hid] at ha
          refine .same ?_
          rw [ha]
          cases hother : e.activity with
          | recovering reset =>
              cases reset with
              | none => rfl
              | some reset => exact absurd (hactivity.trans hother) (hbarrier reset)
          | established =>
              rw [hother] at hid
              cases hid
          | _ => rfl
      | some id =>
          rw [hid] at ha
          exact .left (Or.inr ⟨id, hid, ha⟩) (Or.inr ⟨id, ha⟩)
  | reset hbody hdecode hcurrent htype =>
      refine .left (Or.inl (ends_peer hactivity hcursor hbody hdecode hcurrent htype)) ?_
      unfold beginEstablishment
      split_ifs <;> exact Or.inl rfl

theorem tick_control {e e₀ e' : Endpoint} {call : Call} {nowMs : UInt32}
    (hactivity : e₀.activity = e.activity) (h : Tick s e₀ nowMs e') : ControlMove s e call e' := by
  have hleaves : ∀ e₁ : Endpoint, e₁.activity = e₀.activity → (∃ item, s.item e₀.activity = some item) →
      ControlMove s e call (e₁.beginLocalRecovery .delivery).2 := by
    rintro e₁ hsame ⟨item, hitem⟩
    obtain ⟨id, hid⟩ := identifier_of_item hitem
    have ha := activity_beginLocalRecovery e₁ .delivery
    rw [hsame, hid] at ha
    rw [hactivity] at hid
    exact .left (Or.inr ⟨id, hid, ha⟩) (Or.inr ⟨id, ha⟩)
  cases h with
  | idle => exact .same (by rw [hactivity])
  | initiate ha | response ha | confirm ha =>
      rw [hactivity] at ha
      exact .same (by rw [ha]; rfl)
  | retry | hold => exact .same (by rw [controlItem_mapStage, hactivity])
  | @fail id x payload stage ha hout =>
      refine hleaves _ rfl ⟨⟨Application.applicationFrame id x.nextTransmit payload, stage⟩, ?_⟩
      rw [ha, item_established, hout]
      rfl
  | lose _ hitem => exact hleaves _ rfl ⟨_, hitem⟩

theorem control_advances {e e₁ e' : Endpoint} {call : Call} (h : ControlMove s e call e₁)
    (hadvances : Advances s e₁ e') : ControlMove s e call e' := by
  have hkept := advances_control hadvances
  rcases hadvances with rfl | ⟨ha, _⟩
  · exact h
  have hnone : e₁.activity.controlItem = none := by
    rw [ha]
    rfl
  have hnot : ¬ LeavesReset e e₁ := by
    rintro ⟨_, _, hother⟩
    rw [ha] at hother
    cases hother
  cases h with
  | same hsame => exact .same (hkept.trans hsame)
  | shown _ _ _ _ hsome =>
      rw [hnone] at hsome
      cases hsome
  | committed hcall hitem hpinned _ => exact .committed hcall hitem hpinned (hkept.trans hnone)
  | acknowledged _ _ _ _ hother =>
      rw [ha] at hother
      cases hother
  | left hwhy _ =>
      refine .left ?_ (Or.inl (hkept.trans hnone))
      rcases hwhy with (hreset | hlost | ⟨_, _, _, hleaves⟩ | hpeer) | hleaves
      · exact Or.inl (Or.inl hreset)
      · exact Or.inl (Or.inr (Or.inl hlost))
      · exact absurd hleaves hnot
      · obtain ⟨_, _, hother | ⟨_, hother⟩⟩ := hpeer <;>
          (rw [ha] at hother; cases hother)
      · exact absurd hleaves hnot

/-- What a step makes of the control slot. -/
theorem deed_control {e e' : Endpoint} {call : Call} (h : Deed s e call e') :
    ControlMove s e call e' := by
  cases h with
  | idle | readEvent => exact .same rfl
  | work _ hwork =>
      obtain ⟨hactivity, hcursor, _⟩ := recorded_fields e call
      cases hwork with
      | receipt hreceipt hadvances =>
          exact control_advances (receipt_control hactivity hcursor hreceipt) hadvances
      | tick _ htick => exact tick_control hactivity htick
  | showReliable | commitReliable => exact .same (controlItem_mapStage _ _)
  | @showControl size item hcall hsel hitem hsize =>
      refine .shown hcall hsel hitem hsize ?_
      exact controlItem_peekControl hitem
  | @commitControl nowMs item hcall _ hitem hpinned =>
      refine .committed hcall hitem hpinned ?_
      show e.activity.commitControl.controlItem = none
      cases e.activity <;> rfl
  | submit _ _ _ ha | readMessage _ ha => exact .same (by rw [ha]; rfl)
  | reset hcall =>
      refine .left (Or.inl (Or.inl hcall)) ?_
      show e.reset.activity.controlItem = none ∨ ∃ id, e.reset.activity = _
      unfold Endpoint.reset
      dsimp only
      cases e.activity with
      | disconnected => exact Or.inl rfl
      | waitingForInitiate => exact Or.inl rfl
      | recovering reset =>
          cases reset with
          | none => exact Or.inl rfl
          | some reset => exact Or.inr ⟨reset.identifier, rfl⟩
      | initiatePending id | waitingForResponse id | responsePending id | waitingForConfirm id
      | confirmPending id | waitingForConfirmAck id | established id => exact Or.inr ⟨id, rfl⟩
  | observe _ ha => exact .same (by rw [ha]; rfl)
  | disconnect hcall =>
      refine .left (Or.inl (Or.inr (Or.inl (by rw [hcall]; rfl)))) (Or.inl ?_)
      rw [(abandon_fields _ _ _).1]
      rfl
  | connect _ hlink =>
      refine .same ?_
      unfold beginEstablishment
      cases ha : e.activity with
      | disconnected => split_ifs <;> rfl
      | _ =>
          rw [ha] at hlink
          cases hlink

/-! ## Identities -/

variable (s) in
/-- What becomes of the bound identity and of the host's cursor. -/
inductive Naming (e e' : Endpoint) : Prop
  | same : e'.activity.identifier = e.activity.identifier → e'.cursor = e.cursor → Naming e e'
  | none : e'.activity.identifier = none → e'.cursor = e.cursor → Naming e e'
  | adopted : s.role = .rig → e'.cursor = e.cursor → Naming e e'
  | begun : s.role = .host → e'.activity = .initiatePending e.cursor →
      e'.cursor = Session.successorIdentifier e.cursor → Naming e e'

theorem takes_naming {e e' : Endpoint} (hwf : e.activity.Wf s) {frame : Frame}
    (h : Takes s e frame e') : Naming s e e'.release := by
  cases h with
  | adopt ha =>
      rw [ha] at hwf
      exact .adopted hwf rfl
  | duplicate | repeatDue => exact .same rfl rfl
  | repeatInitiate ha | repeatResponse ha | repeatAck ha | response ha | confirm ha
  | confirmAck ha | prove ha | delivery ha | message ha => exact .same (by rw [ha]; rfl) rfl

theorem advances_naming {e e₁ e' : Endpoint} (h : Naming s e e₁) (hcursor : e₁.cursor = e.cursor)
    (hadvances : Advances s e₁ e') : Naming s e e' := by
  rcases hadvances with rfl | ⟨_, rfl⟩
  · exact h
  · unfold beginEstablishment
    split_ifs with hhost
    · exact .begun hhost (by rw [← hcursor]) (by rw [← hcursor])
    · exact .none rfl hcursor

theorem receipt_naming {e e₁ e' : Endpoint} (hwf : e.activity.Wf s)
    {offered : Option (List UInt8)} (h : Receipt s e offered e₁) (hadvances : Advances s e₁ e') :
    Naming s e e' := by
  cases h with
  | idle hsame _ =>
      exact advances_naming (.same (by rw [hsame.activity]) hsame.cursor) hsame.cursor hadvances
  | @take _ _ e₂ _ _ _ _ htakes =>
      have hcursor : e₂.cursor = e.cursor := by
        cases htakes <;> rfl
      exact advances_naming (takes_naming hwf htakes) hcursor hadvances
  | reject _ _ hbarrier =>
      have hcursor := (rejectSession_record hbarrier).1
      refine advances_naming (.none ?_ hcursor) hcursor hadvances
      rw [activity_rejectSession hbarrier]
      rfl
  | reset =>
      have hnot : ((e.abandon (.recovering none) .protocol).2.beginEstablishment s).activity ≠
          .recovering none := by
        unfold beginEstablishment
        split_ifs <;> simp
      have hcursor := (abandon_record e (.recovering none) .protocol).1
      rw [advances_bound hadvances hnot]
      unfold beginEstablishment
      split_ifs with hhost
      · exact .begun hhost (by rw [← hcursor]) (by rw [← hcursor])
      · exact .none rfl hcursor

theorem tick_naming {e e' : Endpoint} {nowMs : UInt32} (h : Tick s e nowMs e') : Naming s e e' := by
  cases h with
  | idle => exact .same rfl rfl
  | initiate ha | response ha | confirm ha => exact .same (by rw [ha]; rfl) rfl
  | retry | hold => exact .same (identifier_mapStage _ _) rfl
  | fail | lose =>
      refine .none ?_ (abandon_record _ _ _).1
      rw [activity_beginLocalRecovery]
      rfl

/-- A host names a session after its cursor, and moves the cursor on. -/
theorem deed_naming {e e' : Endpoint} {call : Call} (hwf : e.activity.Wf s)
    (h : Deed s e call e') : Naming s e e' := by
  cases h with
  | idle | readEvent => exact .same rfl rfl
  | work _ hwork =>
      obtain ⟨hactivity, hcursor, _⟩ := recorded_fields e call
      have hnaming : Naming s (e.recorded call) e' := by
        cases hwork with
        | receipt hreceipt hadvances =>
            exact receipt_naming (by rw [hactivity]; exact hwf) hreceipt hadvances
        | tick _ htick => exact tick_naming htick
      cases hnaming with
      | same hid hsame => exact .same (hid.trans (by rw [hactivity])) (hsame.trans hcursor)
      | none hid hsame => exact .none hid (hsame.trans hcursor)
      | adopted hrole hsame => exact .adopted hrole (hsame.trans hcursor)
      | begun hrole ha hnext => exact .begun hrole (by rw [ha, hcursor]) (by rw [hnext, hcursor])
  | showReliable | commitReliable => exact .same (identifier_mapStage _ _) rfl
  | showControl => exact .same (@item_peekControl _ s _).2 rfl
  | commitControl => exact .same (@item_commitControl _ s _).2 rfl
  | submit _ _ _ ha | readMessage _ ha => exact .same (by rw [ha]; rfl) rfl
  | reset =>
      refine .none ?_ rfl
      show e.reset.activity.identifier = none
      unfold Endpoint.reset
      cases e.activity <;> rfl
  | observe => exact .none rfl rfl
  | disconnect =>
      refine .none ?_ ((abandon_record _ _ _).1.trans (publish_record _ _).1)
      rw [(abandon_fields _ _ _).1]
      rfl
  | connect =>
      obtain ⟨hcursor, _⟩ := publish_record e (Session.linkEvent .connected)
      unfold beginEstablishment
      split_ifs with hhost
      · exact .begun hhost (by rw [← hcursor]) (by rw [← hcursor])
      · exact .none rfl hcursor

/-- A host's cursor is behind the identity of its session. -/
def Successive (s : Setup) (e : Endpoint) : Prop :=
  s.role = .host → ∀ id, e.activity.identifier = some id →
    e.cursor = Session.successorIdentifier id

theorem successive_initial (s : Setup) : Successive s (Endpoint.initial s) := by
  rintro _ id hid
  cases hid

theorem successive_step {e : Endpoint} {call : Call} (hwf : e.Wf s) (h : Successive s e)
    (hatomic : Atomic s e call) : Successive s (e.step s call).2 := by
  intro hhost id hid
  cases deed_naming hwf.activity (step_deed hwf hatomic) with
  | same hsame hcursor =>
      rw [hcursor]
      exact h hhost id (hsame ▸ hid)
  | none hnone _ =>
      rw [hnone] at hid
      cases hid
  | adopted hrole _ =>
      rw [hhost] at hrole
      cases hrole
  | begun _ ha hcursor =>
      rw [ha] at hid
      cases hid
      exact hcursor

omit [Target] in
theorem successorIdentifier_ne (id : UInt64) : Session.successorIdentifier id ≠ id := by
  unfold Session.successorIdentifier
  split_ifs with hlast
  · rw [hlast]
    decide
  · simp

theorem leavesReset_ended {e e' : Endpoint} (h : LeavesReset e e') :
    SessionEnded (e.toRoot s) (e'.toRoot s) := by
  obtain ⟨id, hid, ha⟩ := h
  refine ⟨if_pos (by rw [hid]; rfl), Or.inl ?_⟩
  exact if_neg (by rw [ha]; simp [Activity.identifier])

/-- What the caller or the link does not end ends for every observer. -/
theorem ends_ended {e e' : Endpoint} {call : Call} (hcursor : Successive s e)
    (h : Ends s e call e') (hreset : call ≠ .reset) (hlink : call.reportsLinkLoss = false) :
    SessionEnded (e.toRoot s) (e'.toRoot s) := by
  rcases h with hcall | hlost | ⟨_, _, _, hleaves⟩ | ⟨_, hsome, hbegun⟩
  · exact absurd hcall hreset
  · rw [hlink] at hlost
    cases hlost
  · exact leavesReset_ended hleaves
  · obtain ⟨id, hid⟩ := Option.isSome_iff_exists.mp hsome
    refine ⟨if_pos (by rw [hid]; rfl), ?_⟩
    rcases hbegun with ha | ⟨hhost, ha⟩
    · exact Or.inl (if_neg (by rw [ha]; simp [Activity.identifier]))
    · refine Or.inr ?_
      show e'.activity.identifier.getD _ ≠ e.activity.identifier.getD _
      rw [ha, hid, hcursor hhost id hid]
      exact successorIdentifier_ne id

end Endpoint

end

end HilRigProtocol.Transport
