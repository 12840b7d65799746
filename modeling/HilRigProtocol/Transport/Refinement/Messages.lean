/-
  What the handlers of application messages and of their acknowledgements answer on
  the root of an endpoint.
-/
import HilRigProtocol.Transport.Refinement.Handlers

namespace HilRigProtocol.Transport

theorem Stage.pinned_iff (stage : Stage) :
    stage.pinned = true ↔ stage.state = .peeked ∨ stage.state = .retransmitPeeked := by
  cases stage <;> simp [Stage.pinned, Stage.state]

theorem Stage.acceptsAck_iff (stage : Stage) :
    stage.acceptsAck = true ↔ stage.state = .awaitingAck ∨ stage.state = .retransmitReady := by
  cases stage <;> simp [Stage.acceptsAck, Stage.state]

theorem Stage.ackResult_eq_blocked {stage : Stage} {same : Bool}
    (h : stage.ackResult same = .blockedByPinnedRetry) :
    stage.state = .retransmitPeeked ∧ same = true := by
  unfold Stage.ackResult at h
  split_ifs at h with h1 h2 h3
  exact ⟨h3, h1⟩

theorem Stage.ackResult_eq_unexpected {stage : Stage} {same : Bool}
    (h : stage.ackResult same = .unexpected) :
    ¬ (stage.state = .retransmitPeeked ∧ same = true) := by
  rintro ⟨hstate, rfl⟩
  cases stage <;> cases hstate
  cases h

section
variable [Target] {s : Setup}

/-! ## Proof of establishment -/

/-- A message in order proves to the host that CONFIRM was accepted. -/
theorem tryComplete_waiting {e : Endpoint} (h : e.Wf s) {frame : Frame} {id : UInt64}
    {received : UInt16} {stage : Stage} (ha : e.activity = .waitingForConfirmAck id received stage)
    (hcurrent : e.activity.identifier = some frame.sessionIdentifier)
    (htype : frame.type = .applicationMessage)
    (hframe : frame.Wf s.config.maxApplicationMessageSize) :
    Handshake.tryCompleteHostFromApplication (e.toRoot s) frame =
      if sequenceAfter received frame.sequence ≠ .expected then (.ok, .incompatible, e.toRoot s)
      else if stage.pinned then (.capacityExhausted, .notApplicable, e.toRoot s)
      else if stage.acceptsAck then
        if e.events.full then (.capacityExhausted, .notApplicable, e.toRoot s)
        else (.ok, .accepted, (e.establish (s.hostEstablished id received)).toRoot s)
      else (.ok, .incompatible, e.toRoot s) := by
  have hid : (e.toRoot s).session.sessionIdentifier = frame.sessionIdentifier := by
    simp [Endpoint.toRoot, Endpoint.toSession, hcurrent]
  have hi : s.item e.activity = some ⟨s.confirmFrame id received, stage⟩ := by
    rw [ha]
    rfl
  have hrole : s.role = .host := by
    have := h.activity
    rw [ha] at this
    exact this.1
  have happlicable : ¬ ((e.toRoot s).session.role ≠ .host ∨
      (e.toRoot s).session.state ≠ .connecting ∨
      (e.toRoot s).session.handshakePhase ≠ .waitingForConfirmAck) := by
    simp [Endpoint.toRoot, Endpoint.toSession, ha, hrole, Activity.sessionState, Activity.phase]
  obtain ⟨hne, hle, hack⟩ := hframe.message htype
  have hshape : ¬ (frame.payload.length = 0 ∨
      frame.payload.length > (e.toRoot s).base.config.maxApplicationMessageSize ∨
      frame.acknowledgementSequence ≠ 0) := by
    have hmax : (e.toRoot s).base.config.maxApplicationMessageSize =
      s.config.maxApplicationMessageSize := rfl
    rw [hmax]
    simp [hne, hack, Nat.not_lt.mpr hle]
  have hstate : (e.toRoot s).session.reliableState = stage.state := by
    simp [Endpoint.toRoot, Endpoint.toSession, hi]
  have htypeRetained : (e.toRoot s).session.retainedReliableFrameType = .confirm := by
    simp [Endpoint.toRoot, Endpoint.toSession, hi, Setup.confirmFrame]
  have hretained : (e.toRoot s).session.retainedTransmitSequence = s.firstSequence + 1 := by
    simp [Endpoint.toRoot, Endpoint.toSession, hi, Setup.confirmFrame]
  have hresult : s.sequenceResult e.activity frame.sequence =
      sequenceAfter received frame.sequence := by
    rw [ha]
    rfl
  unfold Handshake.tryCompleteHostFromApplication
  rw [if_neg (by simp [htype]), handshake_validateRoot h]
  with_reducible conv_lhs => whnf
  rw [if_neg (by simp), if_neg happlicable, if_neg (by simp [hid]), if_neg hshape,
    classifySequence_toRoot, hresult]
  with_reducible conv_lhs => whnf
  rw [if_neg (by simp)]
  by_cases hexpected : ¬ sequenceAfter received frame.sequence ≠ .expected
  · rw [if_neg hexpected, if_neg hexpected, if_neg (by simp [htypeRetained]), hstate]
    by_cases hpinned : stage.pinned = true
    · rw [if_pos hpinned, if_pos ((Stage.pinned_iff stage).mp hpinned)]
    · have hfree : ¬ (stage.state = .peeked ∨ stage.state = .retransmitPeeked) :=
        fun hp => hpinned ((Stage.pinned_iff stage).mpr hp)
      rw [if_neg hpinned, if_neg hfree]
      by_cases haccepts : stage.acceptsAck = true
      · have hawaiting : ¬ (stage.state ≠ .awaitingAck ∧ stage.state ≠ .retransmitReady) := by
          rcases (Stage.acceptsAck_iff stage).mp haccepts with hs | hs <;> simp [hs]
        have hmatched : stage.ackResult (s.firstSequence + 1 == s.firstSequence + 1) =
            .matched := by
          simp [Stage.ackResult, haccepts]
        have hcomplete : Handshake.completeAcknowledgement (e.toRoot s) (s.firstSequence + 1)
            .confirm = _ :=
          completeAcknowledgement_toRoot h.activity hi hmatched
        rw [if_pos haccepts, if_neg hawaiting, checkCapacity_refines h.events]
        with_reducible conv_lhs => whnf
        by_cases hfull : e.events.full = true
        · rw [if_pos hfull, if_pos (by simp), if_pos hfull]
        · rw [if_neg hfull, if_neg (by simp), if_neg hfull, hretained, hcomplete]
          with_reducible conv_lhs => whnf
          rw [if_neg (by simp), setHostEstablished_toRoot hrole ha haccepts]
          with_reducible conv_lhs => whnf
          rw [publishEstablishedEvent_toRoot (by simpa using hfull) h.events]
          rfl
      · have hother : stage.state ≠ .awaitingAck ∧ stage.state ≠ .retransmitReady := by
          constructor
          · exact fun hs => haccepts ((Stage.acceptsAck_iff stage).mpr (Or.inl hs))
          · exact fun hs => haccepts ((Stage.acceptsAck_iff stage).mpr (Or.inr hs))
        rw [if_neg haccepts, if_pos hother]
  · rw [if_pos (not_not.mp hexpected), if_pos (not_not.mp hexpected)]

theorem tryComplete_other {e : Endpoint} (h : e.Wf s) {frame : Frame}
    (htype : frame.type = .applicationMessage)
    (hphase : e.activity.phase ≠ .waitingForConfirmAck) :
    Handshake.tryCompleteHostFromApplication (e.toRoot s) frame =
      (.ok, .notApplicable, e.toRoot s) := by
  unfold Handshake.tryCompleteHostFromApplication
  rw [if_neg (by simp [htype]), handshake_validateRoot h]
  with_reducible conv_lhs => whnf
  rw [if_neg (by simp), if_pos (by exact Or.inr (Or.inr hphase))]

/-! ## Application messages -/

theorem application_publishAcknowledgement {e : Endpoint} (h : e.Wf s) {id : UInt64}
    (hid : e.activity.identifier = some id) (sequence : UInt16) :
    Application.publishAcknowledgement (e.toRoot s) sequence =
      Handshake.publishAcknowledgement (e.toRoot s) sequence := by
  have hsession : (e.toRoot s).session.sessionIdentifier = id := by
    simp [Endpoint.toRoot, Endpoint.toSession, hid]
  have hencode : encodeFrame (Handshake.controlFrame .ack id sequence)
      (e.toRoot s).base.config.maxApplicationMessageSize (e.toRoot s).codecScratchSize
      controlOutputCapacity = (.ok, encodedFrame (Handshake.controlFrame .ack id sequence)) :=
    encodeFrame_control s rfl (validateFrame_controlFrame (Or.inl rfl)
      (identifier_wf h.activity hid) _)
  unfold Application.publishAcknowledgement Handshake.publishAcknowledgement
    Handshake.publishControl
  rw [hsession, hencode]
  rfl

/-- The root after a message in order has been taken. -/
def messageRoot (root : Root) (frame : Frame) : Root :=
  { root with
    session :=
      { acceptedSession root.session frame.sequence with
        lastAcceptedReceiveFrameType := .applicationMessage
        lastAcceptedReceiveAcknowledgementSequence := 0 }
    receivedMessage := frame.payload
    receivedMessagePending := 1 }

theorem messageRoot_toRoot {e : Endpoint} {frame : Frame} {id : UInt64} {x : Exchange}
    (ha : e.activity = .established id x) (hack : x.acknowledgement = none) :
    messageRoot (acknowledgingRoot s e id frame.sequence) frame =
      ({ e with activity := .established id (x.receive frame) } : Endpoint).toRoot s := by
  obtain ⟨activity, cursor, mode, modeValid, failure, abandoned, diagnostic, intake, events⟩ := e
  obtain ⟨lastReceived, messageReceived, nextTransmit, outgoing, acknowledgement, unread⟩ := x
  cases ha
  cases hack
  cases outgoing with
  | none => rfl
  | some outgoing => rfl

section
variable {e : Endpoint} {frame : Frame} {x : Exchange}

/-- A repeated message is acknowledged once more. -/
theorem application_acknowledges_again (h : e.Wf s)
    (ha : e.activity = .established frame.sessionIdentifier x)
    (hr : sequenceAfter x.lastReceived frame.sequence = .duplicate) :
    Application.publishAcknowledgement (e.toRoot s) frame.sequence =
      (.ok, (e.accept s frame .repeatAck).toRoot s) := by
  have haccept : e.accept s frame .repeatAck =
      { e with
        activity := .established frame.sessionIdentifier
          { x with acknowledgement := some (x.acknowledgement.getD false) } } := by
    unfold Endpoint.accept
    rw [ha]
  rw [sequenceAfter_eq_duplicate hr, application_publishAcknowledgement h (by rw [ha]; rfl),
    publishAcknowledgement_again h ha, haccept]

/-- The acknowledgement of the message before is still to go out. -/
theorem application_acknowledges_late (h : e.Wf s)
    (ha : e.activity = .established frame.sessionIdentifier x)
    (hr : sequenceAfter x.lastReceived frame.sequence = .expected) {pinned : Bool}
    (hx : x.acknowledgement = some pinned) :
    Application.publishAcknowledgement (e.toRoot s) frame.sequence =
      (.capacityExhausted, e.toRoot s) := by
  have hcurrent : e.activity.identifier = some frame.sessionIdentifier := by
    rw [ha]
    rfl
  have hcontrol : e.activity.controlItem = some ⟨Handshake.controlFrame .ack
      frame.sessionIdentifier x.lastReceived, pinned⟩ := by
    rw [ha]
    simp [Activity.controlItem, hx]
  have hdiffers : ¬ Handshake.controlFrame .ack frame.sessionIdentifier x.lastReceived =
      Handshake.controlFrame .ack frame.sessionIdentifier frame.sequence := by
    rw [sequenceAfter_eq_expected hr]
    simp [Handshake.controlFrame]
  rw [application_publishAcknowledgement h hcurrent, publishAcknowledgement_toRoot h hcurrent,
    hcontrol]
  dsimp only
  rw [if_neg hdiffers]

/-- The slot is free for the acknowledgement of a new message. -/
theorem application_acknowledges_new (h : e.Wf s)
    (ha : e.activity = .established frame.sessionIdentifier x)
    (hx : x.acknowledgement = none) :
    Application.publishAcknowledgement (e.toRoot s) frame.sequence =
      (.ok, acknowledgingRoot s e frame.sessionIdentifier frame.sequence) := by
  have hcurrent : e.activity.identifier = some frame.sessionIdentifier := by
    rw [ha]
    rfl
  have hcontrol : e.activity.controlItem = none := by
    rw [ha]
    simp [Activity.controlItem, hx]
  rw [application_publishAcknowledgement h hcurrent, publishAcknowledgement_toRoot h hcurrent,
    hcontrol]

/-- An application message in an established session. -/
theorem handleReceivedFrame_established (h : e.Wf s)
    (ha : e.activity = .established frame.sessionIdentifier x)
    (htype : frame.type = .applicationMessage)
    (hframe : frame.Wf s.config.maxApplicationMessageSize) :
    Application.handleReceivedFrame (e.toRoot s) frame =
      match sequenceAfter x.lastReceived frame.sequence with
      | .duplicate =>
          if x.messageReceived then
            (.ok, .duplicate, (e.accept s frame .repeatAck).toRoot s)
          else (.ok, .incompatible, e.toRoot s)
      | .expected =>
          if x.unread.isNone && x.acknowledgement.isNone then
            (.ok, .accepted, (e.accept s frame .acceptMessage).toRoot s)
          else (.capacityExhausted, .incompatible, e.toRoot s)
      | _ => (.ok, .incompatible, e.toRoot s) := by
  have hid : (e.toRoot s).session.sessionIdentifier = frame.sessionIdentifier := by
    simp [Endpoint.toRoot, Endpoint.toSession, ha, Activity.identifier]
  have hestablished : Application.sessionIsEstablished (e.toRoot s) = true := by
    rw [sessionIsEstablished_toRoot h.activity, ha]
  obtain ⟨hne, hle, hack⟩ := hframe.message htype
  have hshape : ¬ (frame.payload.length = 0 ∨
      frame.payload.length > (e.toRoot s).base.config.maxApplicationMessageSize ∨
      frame.acknowledgementSequence ≠ 0) := by
    have hmax : (e.toRoot s).base.config.maxApplicationMessageSize =
      s.config.maxApplicationMessageSize := rfl
    rw [hmax]
    simp [hne, hack, Nat.not_lt.mpr hle]
  have hresult : s.sequenceResult e.activity frame.sequence =
      sequenceAfter x.lastReceived frame.sequence := by
    rw [ha]
    unfold Setup.sequenceResult Setup.accepted
    dsimp only
    split_ifs <;> rfl
  unfold Application.handleReceivedFrame
  rw [if_neg (by simp [htype]), if_neg (by simp [hasRequiredStorage_toRoot,
      receivedMessageMetadataIsValid_toRoot h.activity]), if_neg (by simp [hestablished]),
    if_neg hshape, if_neg (by simp [hid]), classifySequence_toRoot, hresult]
  with_reducible conv_lhs => whnf
  rw [if_neg (by simp)]
  cases hr : sequenceAfter x.lastReceived frame.sequence with
  | stale => rw [if_neg (by simp), if_pos (by simp)]
  | incompatible => rw [if_neg (by simp), if_pos (by simp)]
  | duplicate =>
      rw [if_pos rfl]
      cases hm : x.messageReceived with
      | false =>
          rw [if_pos]
          · rfl
          · left
            have hfinal : s.finalFrameType ≠ .applicationMessage := by
              unfold Setup.finalFrameType
              split_ifs <;> simp
            simpa [Endpoint.toRoot, Endpoint.toSession, ha, Setup.accepted, hm] using hfinal
      | true =>
          rw [if_neg, application_acknowledges_again h ha hr]
          · rfl
          · simp [Endpoint.toRoot, Endpoint.toSession, ha, Setup.accepted, hm]
  | expected =>
      rw [if_neg (by simp), if_neg (by simp)]
      cases hunread : x.unread with
      | some payload =>
          rw [if_pos (by simp [Endpoint.toRoot, ha, Activity.unread, hunread])]
          rfl
      | none =>
          rw [if_neg (by simp [Endpoint.toRoot, ha, Activity.unread, hunread])]
          cases hx : x.acknowledgement with
          | some pinned =>
              rw [application_acknowledges_late h ha hr hx]
              rfl
          | none =>
              have haccept : e.accept s frame .acceptMessage =
                  { e with activity := .established frame.sessionIdentifier (x.receive frame) } := by
                unfold Endpoint.accept
                rw [ha]
              have hsequence := @acceptSequence_eq
                (acknowledgingRoot s e frame.sessionIdentifier frame.sequence).session
                frame.sequence ((classifySequence_toRoot e frame.sequence).trans
                  (congrArg _ (hresult.trans hr)))
              rw [application_acknowledges_new h ha hx]
              with_reducible conv_lhs => whnf
              rw [if_neg (by simp), hsequence]
              with_reducible conv_lhs => whnf
              rw [if_neg (by simp), haccept, ← messageRoot_toRoot ha hx]
              rfl

end

theorem handleReceivedFrame_other {e : Endpoint} (h : e.Wf s) {frame : Frame}
    (htype : frame.type = .applicationMessage)
    (hestablished : Application.sessionIsEstablished (e.toRoot s) = false) :
    Application.handleReceivedFrame (e.toRoot s) frame = (.ok, .incompatible, e.toRoot s) := by
  unfold Application.handleReceivedFrame
  rw [if_neg (by simp [htype]), if_neg (by simp [hasRequiredStorage_toRoot,
    receivedMessageMetadataIsValid_toRoot h.activity]), if_pos (by simp [hestablished])]

/-! ## Acknowledgements of a message -/

theorem deliveredRoot_toRoot {e : Endpoint} {id : UInt64} {x : Exchange} {payload : List UInt8}
    {stage : Stage} (ha : e.activity = .established id x)
    (hout : x.outgoing = some (payload, stage)) (haccepts : stage.acceptsAck = true) :
    { acknowledgedRoot (e.toRoot s) with submittedMessage := [], submittedMessagePending := 0 } =
      ({ e with
        activity := .established id
          { x with outgoing := none, nextTransmit := x.nextTransmit + 1 } } :
            Endpoint).toRoot s := by
  obtain ⟨activity, cursor, mode, modeValid, failure, abandoned, diagnostic, intake, events⟩ := e
  obtain ⟨lastReceived, messageReceived, nextTransmit, outgoing, acknowledgement, unread⟩ := x
  cases ha
  cases hout
  cases stage with
  | awaitingAck retries ms => rfl
  | retransmitReady retries ms => rfl
  | _ => cases haccepts

theorem publishDeliveryEvent_toRoot {e : Endpoint} (hfull : e.events.full = false)
    (h : e.events.Wf) (activity : Activity) :
    Application.publishDeliveryEvent (({ e with activity := activity } : Endpoint).toRoot s)
        .deliveryConfirmed .ok .none =
      (.ok, (e.deliver activity).toRoot s) := by
  have hpublish := @publish_refines _ s ({ e with activity := activity } : Endpoint) h
    Endpoint.deliveredEvent rfl
  have hnext : ({ e with activity := activity } : Endpoint).publish Endpoint.deliveredEvent =
      (.ok, e.deliver activity) :=
    if_neg (show ¬ e.events.full = true by simp [hfull])
  rw [hnext] at hpublish
  exact hpublish

/-- What the handler returns for an acknowledgement of a retained message. -/
def acknowledgementAnswer (s : Setup) (e : Endpoint) (frame : Frame) :
    HandshakeAckResult → Status × ApplicationAckResult × Root
  | .unexpected => (.ok, .stale, e.toRoot s)
  | .blockedByPinnedRetry => (.capacityExhausted, .stale, e.toRoot s)
  | .matched =>
      if e.events.full then (.capacityExhausted, .stale, e.toRoot s)
      else (.ok, .accepted, (e.accept s frame .acceptDelivery).toRoot s)

theorem handleAcknowledgement_answers {e : Endpoint} (h : e.Wf s) {frame : Frame} {x : Exchange}
    {payload : List UInt8} {stage : Stage}
    (ha : e.activity = .established frame.sessionIdentifier x)
    (hout : x.outgoing = some (payload, stage)) (htype : frame.type = .ack) :
    Answers s e frame ApplicationAckResult.stale .incompatible
      (.ofAck (stage.ackResult (frame.acknowledgementSequence == x.nextTransmit))
        .acceptDelivery .reject)
      (Application.handleAcknowledgement (e.toRoot s) frame) := by
  have hcurrent : e.activity.identifier = some frame.sessionIdentifier := by
    rw [ha]
    rfl
  have hid : (e.toRoot s).session.sessionIdentifier = frame.sessionIdentifier := by
    simp [Endpoint.toRoot, Endpoint.toSession, hcurrent]
  have hi : s.item e.activity = some ⟨Application.applicationFrame frame.sessionIdentifier
      x.nextTransmit payload, stage⟩ := by
    rw [ha]
    simp [Setup.item, hout]
  have hne : payload ≠ [] := by
    have hx := h.activity
    rw [ha] at hx
    exact (hx.2.outgoing payload stage hout).1.1
  have hretained : (e.toRoot s).session.retainedReliableFrameType = .applicationMessage := by
    simp [Endpoint.toRoot, Endpoint.toSession, hi, Application.applicationFrame]
  have hstate : (e.toRoot s).session.reliableState = stage.state := by
    simp [Endpoint.toRoot, Endpoint.toSession, hi]
  have hsequence : (e.toRoot s).session.retainedTransmitSequence = x.nextTransmit := by
    simp [Endpoint.toRoot, Endpoint.toSession, hi, Application.applicationFrame]
  have hguards : ¬ (¬ Application.hasRequiredStorage (e.toRoot s) = true ∨
      ((e.toRoot s).session.retainedReliableFrameType ≠ .applicationMessage ∨
        (e.toRoot s).submittedMessagePending = 0 ∨ (e.toRoot s).submittedMessage.length = 0) ∨
      ¬ Application.sessionIsEstablished (e.toRoot s) = true) := by
    rw [sessionIsEstablished_toRoot h.activity, hretained, hasRequiredStorage_toRoot, ha]
    simp [Endpoint.toRoot, ha, Activity.submitted, hout, hne]
  have hclassify : (e.toRoot s).session.classifyAcknowledgement frame.acknowledgementSequence =
      (.ok, if stage.ackResult (frame.acknowledgementSequence == x.nextTransmit) = .matched then
        .matched else .staleOrUnexpected) :=
    session_classifyAcknowledgement_toRoot hi frame.acknowledgementSequence
  have hvalue : Application.handleAcknowledgement (e.toRoot s) frame =
      acknowledgementAnswer s e frame
        (stage.ackResult (frame.acknowledgementSequence == x.nextTransmit)) := by
    unfold Application.handleAcknowledgement
    rw [if_neg (by simp [htype]), if_neg hguards, if_neg (by simp [hid]), hclassify]
    with_reducible conv_lhs => whnf
    rw [if_neg (by simp), hstate, hsequence]
    cases hack : stage.ackResult (frame.acknowledgementSequence == x.nextTransmit) with
    | unexpected =>
        have hother := Stage.ackResult_eq_unexpected hack
        rw [beq_iff_eq] at hother
        rw [if_pos (by simp), if_neg hother]
        rfl
    | blockedByPinnedRetry =>
        have hblocked := Stage.ackResult_eq_blocked hack
        rw [beq_iff_eq] at hblocked
        rw [if_pos (by simp), if_pos hblocked]
        rfl
    | matched =>
        dsimp only [acknowledgementAnswer]
        rw [if_neg (by simp), checkCapacity_refines h.events]
        by_cases hfull : e.events.full = true
        · rw [if_pos hfull, if_pos (by simp)]
          exact (if_pos hfull).symm
        · have haccept : e.accept s frame .acceptDelivery = e.deliver (.established
              frame.sessionIdentifier
                { x with outgoing := none, nextTransmit := x.nextTransmit + 1 }) := by
            unfold Endpoint.accept
            rw [ha]
          have hacknowledged := @acceptAcknowledgement_eq (e.toRoot s)
            frame.acknowledgementSequence (hasStorage_toRoot e)
            (reliability_stateIsValid h.activity) (session_classifyAcknowledgement_matched hi hack)
          have hdelivered := @publishDeliveryEvent_toRoot _ s e (by simpa using hfull) h.events
            (.established frame.sessionIdentifier
              { x with outgoing := none, nextTransmit := x.nextTransmit + 1 })
          rw [if_neg hfull, if_neg (by simp), hacknowledged, hretained]
          rw [if_neg (by simp), deliveredRoot_toRoot ha hout (Stage.ackResult_eq_matched hack).2]
          rw [hdelivered, haccept]
          exact (if_neg hfull).symm
  rw [hvalue]
  cases stage.ackResult (frame.acknowledgementSequence == x.nextTransmit) with
  | unexpected => rfl
  | blockedByPinnedRetry => exact ⟨rfl, rfl⟩
  | matched =>
      dsimp only [Verdict.ofAck, acknowledgementAnswer]
      unfold Answers Endpoint.available
      cases e.events.full with
      | true => exact ⟨rfl, rfl⟩
      | false => exact ⟨rfl, by simp, by simp, rfl⟩

end

end HilRigProtocol.Transport
