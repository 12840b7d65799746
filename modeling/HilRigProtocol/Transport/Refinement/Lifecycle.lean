/-
  The session lifecycle on the root of an endpoint: cleanup, abandonment,
  establishment, explicit reset and link notifications.
-/
import HilRigProtocol.Transport.EndpointWf
import HilRigProtocol.Transport.Refinement.Application

namespace HilRigProtocol.Transport

/-- What the cleanup of session-scoped work leaves of a root. -/
def clearedRoot (root : Root) : Root :=
  { root with
    parser := root.parser.reset
    submittedMessage := []
    submittedMessagePending := 0
    receivedMessage := []
    receivedMessagePending := 0
    receiveProtocolErrorPending := 0
    session.sessionIdentifier := sessionSeedInvalid
    session.sessionIdentifierValid := 0
    session.completedConfirmSequence := 0
    session.completedConfirmSequenceValid := 0
    session.handshakePhase := .inactive
    session.nextTransmitSequence := root.session.initialReliableSequence
    session.expectedReceiveSequence := root.session.initialReliableSequence
    session.lastAcceptedReceiveSequence := 0
    session.acceptedReceiveSequenceValid := 0
    session.lastAcceptedReceiveFrameType := .invalid
    session.lastAcceptedReceiveAcknowledgementSequence := 0
    session.reliableState := .idle
    session.retainedReliableFrameType := .invalid
    session.retainedTransmitSequence := 0
    session.retransmissionsCommitted := 0
    session.reliableLastCommittedMs := 0
    session.lastValidReceiveMs := 0
    encodedOutput := []
    controlOutput := []
    controlOutputState := .idle
    outputSelection := .none
    recoveryResetPending := 0
    recoveryResetSessionIdentifier := sessionSeedInvalid }

theorem clearScopedWork_eq {root : Root} (h : Reliability.hasStorage root = true) :
    Session.clearScopedWork root = (.ok, clearedRoot root) := by
  have hreset : Output.reset root =
      (.ok, { ControlOutput.reset (Reliability.clearMetadata root) with
        outputSelection := .none }) := by
    rw [Output.reset, Reliability.reset, if_neg (by simp [h])]
  unfold Session.clearScopedWork
  rw [hreset]
  rfl

/-- The failures for which the profile abandons a session. -/
def IsAbandonment (failure : Failure) : Prop :=
  failure = .linkLost ∨ failure = .protocol ∨ failure = .delivery

theorem resetStatusForFailure_eq {failure : Failure} (h : IsAbandonment failure) :
    Session.resetStatusForFailure failure = some (Endpoint.resetEvent failure).status ∧
      failure.isListed = true := by
  rcases h with rfl | rfl | rfl <;> exact ⟨rfl, rfl⟩

theorem abandon_status (e : Endpoint) (next : Activity) (failure : Failure) :
    (e.abandon next failure).1 = if e.events.full then .capacityExhausted else .ok := by
  unfold Endpoint.abandon Endpoint.publish
  simp only
  split_ifs <;> rfl

theorem validateFrame_controlFrame {frameType : FrameType} {id : UInt64} {sequence : UInt16}
    (htype : frameType = .ack ∨ (frameType = .reset ∧ sequence = 0))
    (hid : sessionIdentifierIsValid id = true) (n : Nat) :
    validateFrame (Handshake.controlFrame frameType id sequence) n = .ok := by
  have h0 := ne_seedInvalid_of_isValid hid
  rcases htype with rfl | ⟨rfl, rfl⟩ <;>
    simp [validateFrame, Handshake.controlFrame, frameTypeValid, h0]

section
variable [Target] {s : Setup}

/-! ## Events -/

/-- The root of an endpoint with the link in another state. -/
def withLink (s : Setup) (e : Endpoint) (linkState : LinkState) : Root :=
  Session.setLinkState
    { e.toRoot s with session.linkStateObserved := 1 } linkState

/-- An event is published whatever the link is. -/
theorem publish_withLink {e : Endpoint} (h : e.events.Wf) (linkState : LinkState) {event : Event}
    (hevent : Events.valueIsValid event = true) :
    Events.publish (withLink s e linkState) event =
      let (status, next) := e.publish event
      (status, withLink s next linkState) := by
  have hvalid : Events.stateIsValid (withLink s e linkState) = true :=
    @events_stateIsValid _ s e h
  unfold Events.publish Endpoint.publish Events.validateState
  rw [if_neg (by simp [hevent]), if_neg (by simp [hvalid])]
  simp only
  rw [if_neg (by simp)]
  by_cases hfull : e.events.full = true
  · rw [if_pos hfull, if_pos (by exact EventRing.full_iff.mp hfull)]
  · rw [if_neg hfull, if_neg (by exact fun hc => hfull (EventRing.full_iff.mpr hc))]
    rfl

theorem publish_refines {e : Endpoint} (h : e.events.Wf) {event : Event}
    (hevent : Events.valueIsValid event = true) :
    Events.publish (e.toRoot s) event =
      let (status, next) := e.publish event
      (status, next.toRoot s) := by
  unfold Events.publish Endpoint.publish
  rw [if_neg (by simp [hevent]), events_validateState h]
  simp only
  rw [if_neg (by simp)]
  by_cases hfull : e.events.full = true
  · rw [if_pos hfull, if_pos (by exact EventRing.full_iff.mp hfull)]
  · rw [if_neg hfull, if_neg (by exact fun hc => hfull (EventRing.full_iff.mpr hc))]
    rfl

theorem checkCapacity_refines {e : Endpoint} (h : e.events.Wf) :
    Events.checkCapacity (e.toRoot s) =
      (if e.events.full then .capacityExhausted else .ok, e.toRoot s) := by
  unfold Events.checkCapacity
  rw [events_validateState h]
  simp only
  rw [if_neg (by simp)]
  by_cases hfull : e.events.full = true
  · rw [if_pos hfull, if_pos (by exact EventRing.full_iff.mp hfull)]
  · rw [if_neg hfull, if_neg (by exact fun hc => hfull (EventRing.full_iff.mpr hc))]

/-! ## Abandonment -/

/-- The activity of an abandoned session, by the link. -/
def abandonedActivity (linkState : LinkState) : Activity :=
  if linkState = .disconnected then .disconnected true else .recovering none

theorem withLink_connected {e : Endpoint} (h : e.activity.linkState = .connected) :
    withLink s e .connected = e.toRoot s := by
  obtain ⟨activity, cursor, mode, modeValid, failure, abandoned, diagnostic, intake, events⟩ := e
  cases activity with
  | disconnected observed => cases h
  | _ => rfl

/-- The end of `Session.abandon`: the result of publishing its event. -/
def finishAbandon (result : Status × Root) : Status × Root :=
  if result.1 = .internalError then (.internalError, result.2)
  else if result.1 = .capacityExhausted then (.capacityExhausted, result.2)
  else if result.1 ≠ .ok then Session.enterFault result.2
  else (.ok, result.2)

theorem abandon_withLink {e : Endpoint} (h : e.Wf s) {linkState : LinkState}
    (hlink : linkState = .disconnected ∨ linkState = .connected) {failure : Failure}
    (hfailure : IsAbandonment failure) :
    Session.abandon (withLink s e linkState) failure =
      let (status, next) := e.abandon (abandonedActivity linkState) failure
      (status, next.toRoot s) := by
  obtain ⟨hstatus, hlisted⟩ := resetStatusForFailure_eq hfailure
  have hvalid : Session.abandonRootIsValid (withLink s e linkState) = true := by
    have hconfirm : Session.completedConfirmMetadataIsValid (withLink s e linkState) = true :=
      completedConfirmMetadataIsValid_toRoot h.activity
    unfold Session.abandonRootIsValid
    rw [hconfirm]
    rcases hlink with rfl | rfl <;>
      simp [withLink, Session.setLinkState, Endpoint.toRoot, Endpoint.toSession, s.role_isListed,
        Activity.sessionState_isListed, LinkState.isListed]
  have hclear : Session.clearScopedWork (withLink s e linkState) =
      (.ok, clearedRoot (withLink s e linkState)) :=
    clearScopedWork_eq (hasStorage_toRoot e)
  have hid : ((withLink s e linkState).session.sessionIdentifierValid == 1
      && sessionIdentifierIsValid (withLink s e linkState).session.sessionIdentifier) =
        e.activity.identifier.isSome := by
    cases hid : e.activity.identifier with
    | none => simp [withLink, Session.setLinkState, Endpoint.toRoot, Endpoint.toSession, hid]
    | some id =>
        simp [withLink, Session.setLinkState, Endpoint.toRoot, Endpoint.toSession, hid,
          identifier_wf h.activity hid]
  unfold Session.abandon
  rw [hstatus]
  simp only
  rw [if_neg (by simp [hvalid]), hclear, hid]
  simp only
  rw [if_neg (by simp), if_neg (by exact fun hf => Activity.sessionState_ne_fault _ hf)]
  -- The published event is the last change, on the root of the abandoned endpoint.
  set next : Endpoint :=
    { e with
      activity := abandonedActivity linkState
      lastFailure := failure
      abandoned := e.activity.identifier.or e.abandoned
      intake := .filling []
      diagnosticPending := false } with hnext
  have hpublish : Events.publish (next.toRoot s) (Endpoint.resetEvent failure) =
      let (status, published) := next.publish (Endpoint.resetEvent failure)
      (status, published.toRoot s) :=
    @publish_refines _ s next h.events _ (resetEvent_valid hlisted)
  have hroot : ∀ root : Root, root = next.toRoot s →
      finishAbandon (Events.publish root (Endpoint.resetEvent failure)) =
        let (status, next) := e.abandon (abandonedActivity linkState) failure
        (status, next.toRoot s) := by
    rintro root rfl
    rw [hpublish]
    unfold finishAbandon Endpoint.abandon Endpoint.publish
    simp only [← hnext]
    by_cases hfull : e.events.full = true
    · simp [hnext, hfull]
    · simp [hnext, hfull]
  apply hroot
  rw [hnext]
  cases hid : e.activity.identifier with
  | none => rcases hlink with rfl | rfl <;> rfl
  | some id =>
      have hsession : (withLink s e linkState).session.sessionIdentifier = id := by
        simp [withLink, Session.setLinkState, Endpoint.toRoot, Endpoint.toSession, hid]
      rw [hsession]
      rcases hlink with rfl | rfl <;> rfl

/-- On a connected link the session is abandoned for recovery. -/
theorem abandon_refines {e : Endpoint} (h : e.Wf s) (hlink : e.activity.linkState = .connected)
    {failure : Failure} (hfailure : IsAbandonment failure) :
    Session.abandon (e.toRoot s) failure =
      let (status, next) := e.abandon (.recovering none) failure
      (status, next.toRoot s) := by
  have := abandon_withLink h (Or.inr rfl) hfailure
  rwa [withLink_connected hlink] at this

/-! ## Establishment -/

/-- Nothing of an earlier session is left: the endpoint recovers or has just been
    connected, and its input is empty. -/
theorem scopedWorkIsClear_toRoot {e : Endpoint} {linkState : LinkState}
    (ha : e.activity = .recovering none ∨ e.activity.linkState = .disconnected)
    (hintake : e.intake = .filling []) (hdiagnostic : e.diagnosticPending = false) :
    Session.scopedWorkIsClear (withLink s e linkState) = true := by
  obtain ⟨activity, cursor, mode, modeValid, failure, abandoned, diagnostic, intake, events⟩ := e
  subst hintake hdiagnostic
  rcases ha with rfl | hlink
  · rfl
  · cases activity with
    | disconnected observed => rfl
    | _ => cases hlink

theorem beginEstablishment_withLink {e : Endpoint} (h : e.Wf s)
    (ha : e.activity = .recovering none ∨ e.activity.linkState = .disconnected)
    (hintake : e.intake = .filling []) (hdiagnostic : e.diagnosticPending = false) :
    Session.beginEstablishment (withLink s e .connected) =
      (.ok, (e.beginEstablishment s).toRoot s) := by
  have hvalid : Session.establishmentRootIsValid (withLink s e .connected) = true := by
    have hconfirm : Session.completedConfirmMetadataIsValid (withLink s e .connected) = true :=
      completedConfirmMetadataIsValid_toRoot h.activity
    have habandoned : Session.recentlyAbandonedMetadataIsValid (withLink s e .connected) = true :=
      @recentlyAbandonedMetadataIsValid_toRoot _ s e h.abandoned
    unfold Session.establishmentRootIsValid
    rw [hconfirm, habandoned]
    simp [withLink, Session.setLinkState, Endpoint.toRoot, Endpoint.toSession, s.role_isListed,
      Activity.sessionState_isListed, LinkState.isListed]
  have hclear := @scopedWorkIsClear_toRoot _ s e .connected ha hintake hdiagnostic
  have hcursor := h.cursor_host
  have hrig := h.cursor_rig
  have hmode := h.operatingMode
  obtain ⟨activity, cursor, mode, modeValid, failure, abandoned, diagnostic, intake, events⟩ := e
  subst hintake hdiagnostic
  unfold Session.beginEstablishment
  rw [if_neg (by simp [hvalid])]
  have hstate : ¬ ((withLink s ⟨activity, cursor, mode, modeValid, failure, abandoned, false,
      .filling [], events⟩ .connected).session.state ≠ .disconnected ∧
      (withLink s ⟨activity, cursor, mode, modeValid, failure, abandoned, false,
      .filling [], events⟩ .connected).session.state ≠ .recovering) := by
    rintro ⟨h1, h2⟩
    rcases ha with rfl | hlink
    · exact h2 rfl
    · cases activity with
      | disconnected observed => exact h1 rfl
      | _ => cases hlink
  rw [if_neg hstate, if_neg (by rintro (h1 | h1) <;> simp [withLink, Session.setLinkState] at h1),
    if_neg (by simp [hclear])]
  unfold Endpoint.beginEstablishment
  rcases s.role_cases with hrole | hrole
  · rw [if_pos (by exact hrole), if_pos hrole,
      if_neg (by exact fun hc => hc (hcursor hrole))]
    rcases ha with rfl | hlink
    · rfl
    · cases activity with
      | disconnected observed => rfl
      | _ => cases hlink
  · have hnot : ¬ s.role = .host := by rw [hrole]; simp
    rw [if_neg (by exact hnot), if_neg hnot, if_neg (by exact fun hc => hc (hrig hrole))]
    rcases ha with rfl | hlink
    · rfl
    · cases activity with
      | disconnected observed => rfl
      | _ => cases hlink

theorem beginEstablishment_refines {e : Endpoint} (h : e.Wf s) (ha : e.activity = .recovering none)
    (hintake : e.intake = .filling []) (hdiagnostic : e.diagnosticPending = false) :
    Session.beginEstablishment (e.toRoot s) = (.ok, (e.beginEstablishment s).toRoot s) := by
  have := beginEstablishment_withLink h (Or.inl ha) hintake hdiagnostic
  rwa [withLink_connected (by rw [ha]; rfl)] at this

/-! ## Control frames -/

/-- A control frame is published when the slot is free, whatever else the root holds. -/
theorem publishControl_idle {root : Root} (s : Setup) (hconfig : root.base.config = s.config)
    (hscratch : root.codecScratchSize = s.config.maxApplicationMessageSize + rawOverhead)
    (hidle : root.controlOutputState = .idle) (hempty : root.controlOutput = [])
    {frameType : FrameType} {id : UInt64} {sequence : UInt16}
    (htype : frameType = .ack ∨ (frameType = .reset ∧ sequence = 0))
    (hid : sessionIdentifierIsValid id = true) :
    Handshake.publishControl root frameType id sequence =
      (.ok,
        { root with
          controlOutput := encodedFrame (Handshake.controlFrame frameType id sequence)
          controlOutputState := .ready }) := by
  have hencode := @encodeFrame_control _ s (Handshake.controlFrame frameType id sequence) rfl
    (validateFrame_controlFrame htype hid _)
  have hpos := length_encodedFrame_pos (Handshake.controlFrame frameType id sequence)
  have hlen := @length_encodedFrame_of_payload_nil (Handshake.controlFrame frameType id sequence) rfl
  have hvalid : ControlOutput.stateIsValid root = true := by
    simp [ControlOutput.stateIsValid, hidle, hempty]
  rw [← hscratch, ← hconfig] at hencode
  unfold Handshake.publishControl
  rw [hencode]
  dsimp only
  rw [if_neg (by simp), ControlOutput.publishEncoded,
    if_neg (by simp only [controlOutputCapacity]; omega), ControlOutput.validateState,
    if_neg (by simp [hvalid])]
  dsimp only
  rw [if_neg (by simp), if_pos hidle]

theorem publishControl_toRoot {e : Endpoint} (hc : e.activity.controlItem = none)
    {frameType : FrameType} {id : UInt64} {sequence : UInt16}
    (htype : frameType = .ack ∨ (frameType = .reset ∧ sequence = 0))
    (hid : sessionIdentifierIsValid id = true) :
    Handshake.publishControl (e.toRoot s) frameType id sequence =
      (.ok,
        { e.toRoot s with
          controlOutput := encodedFrame (Handshake.controlFrame frameType id sequence)
          controlOutputState := .ready }) :=
  publishControl_idle s rfl rfl (by simp [Endpoint.toRoot, hc]) (by simp [Endpoint.toRoot, hc])
    htype hid

theorem publishReset_toRoot {e : Endpoint} (hc : e.activity.controlItem = none) {id : UInt64}
    (hid : sessionIdentifierIsValid id = true) :
    Handshake.publishReset (e.toRoot s) id =
      (.ok,
        { e.toRoot s with
          controlOutput := encodedFrame (Handshake.controlFrame .reset id 0)
          controlOutputState := .ready }) := by
  rw [Handshake.publishReset, if_neg (by simp [hid]),
    publishControl_toRoot hc (Or.inr ⟨rfl, rfl⟩) hid]

/-- A session on a connected link is left for recovery, and its peer is told. -/
theorem beginLocalRecovery_refines {e : Endpoint} (h : e.Wf s)
    (hlink : e.activity.linkState = .connected) {failure : Failure}
    (hfailure : IsAbandonment failure) :
    Handshake.beginLocalRecovery (e.toRoot s) failure =
      let (status, next) := e.beginLocalRecovery failure
      (status, next.toRoot s) := by
  have hstatus : (e.abandon (.recovering none) failure).1 = .ok ∨
      (e.abandon (.recovering none) failure).1 = .capacityExhausted := by
    rw [abandon_status]
    split_ifs <;> simp
  have hcases : ¬ ((e.abandon (.recovering none) failure).1 ≠ .ok ∧
      (e.abandon (.recovering none) failure).1 ≠ .capacityExhausted) := by
    rintro ⟨h1, h2⟩
    rcases hstatus with hs | hs
    · exact h1 hs
    · exact h2 hs
  unfold Handshake.beginLocalRecovery
  rw [abandon_refines h hlink hfailure]
  simp only
  rw [if_neg hcases]
  cases hid : e.activity.identifier with
  | none =>
      rw [if_neg (by simp [Endpoint.toRoot, Endpoint.toSession, hid])]
      simp [Endpoint.beginLocalRecovery, hid]
  | some id =>
      have hwf := identifier_wf h.activity hid
      have hsession : (e.toRoot s).session.sessionIdentifier = id := by
        simp [Endpoint.toRoot, Endpoint.toSession, hid]
      have hnone : (e.abandon (.recovering none) failure).2.activity.controlItem = none := by
        unfold Endpoint.abandon Endpoint.publish
        split_ifs <;> rfl
      rw [if_pos (by simp [hlink, hwf, Endpoint.toRoot, Endpoint.toSession, hid]), hsession,
        publishReset_toRoot hnone hwf]
      simp only
      rw [if_neg (show ¬ Status.ok ≠ .ok by simp)]
      unfold Endpoint.beginLocalRecovery
      rw [hid]
      unfold Endpoint.abandon Endpoint.publish
      simp only
      split_ifs <;> rfl

/-! ## Link notifications -/

/-- A change of the link state, after its checks. -/
theorem notifyLinkState_change {e : Endpoint} (h : e.Wf s) {linkState : LinkState}
    (hlink : linkState = .disconnected ∨ linkState = .connected)
    (hchange : ¬ (e.activity.observed = true ∧ e.activity.linkState = linkState))
    (hfirst : ¬ (e.activity.observed = false ∧ linkState = .disconnected)) :
    Session.notifyLinkState (e.toRoot s) linkState =
      let (linkStatus, published) := e.publish (Session.linkEvent linkState)
      let (transitionStatus, root) :=
        if linkState = .disconnected then
          let (status, root) := Session.abandon (withLink s published linkState) .linkLost
          (status, Session.clearRecentlyAbandoned root)
        else Session.beginEstablishment (withLink s published linkState)
      if transitionStatus = .internalError then (.internalError, root)
      else if linkStatus = .capacityExhausted ∨ transitionStatus = .capacityExhausted then
        (.capacityExhausted, root)
      else if transitionStatus ≠ .ok then Session.enterFault root
      else (.ok, root) := by
  have hobserved : ((e.toRoot s).session.linkStateObserved != 0) = e.activity.observed := by
    cases ho : e.activity.observed <;> simp [Endpoint.toRoot, Endpoint.toSession, ho]
  have hnotify := notifyRootIsValid_toRoot h.activity
  have hevent : Events.valueIsValid (Session.linkEvent linkState) = true := by
    rcases hlink with rfl | rfl <;> rfl
  have hpublish : Session.publishLinkEvent (Session.setLinkState
      { e.toRoot s with session.linkStateObserved := 1 } linkState) linkState =
        let (status, next) := e.publish (Session.linkEvent linkState)
        (status, withLink s next linkState) := publish_withLink h.events linkState hevent
  unfold Session.notifyLinkState
  rw [if_neg (by rcases hlink with rfl | rfl <;> simp), if_neg (not_fault_toRoot _),
    if_neg (by simp [hnotify])]
  simp only [hobserved]
  rw [if_neg (by exact hchange), if_neg (by simpa using hfirst), hpublish]
  unfold Endpoint.publish
  by_cases hfull : e.events.full = true
  · simp only [if_pos hfull]
    rw [if_neg (by simp), if_neg (by simp)]
  · simp only [if_neg hfull]
    rw [if_neg (by simp), if_neg (by simp)]

theorem notifyLinkState_lost {e : Endpoint} (h : e.Wf s)
    (hlink : e.activity.linkState = .connected) :
    Session.notifyLinkState (e.toRoot s) .disconnected =
      let (status, next) := e.notifyLinkState s .disconnected
      (status, next.toRoot s) := by
  have hobserved : e.activity.observed = true := by
    cases ha : e.activity with
    | disconnected observed => simp [ha, Activity.linkState] at hlink
    | _ => rfl
  have hstep : e.notifyLinkState s .disconnected =
      let (linkStatus, published) := e.publish (Session.linkEvent .disconnected)
      let (resetStatus, abandoned) := published.abandon (.disconnected true) .linkLost
      (Endpoint.bothOk linkStatus resetStatus, { abandoned with abandoned := none }) := by
    obtain ⟨activity, cursor, mode, modeValid, failure, abandoned, diagnostic, intake,
      events⟩ := e
    cases activity with
    | disconnected observed => cases hlink
    | _ => rfl
  have habandon := @abandon_withLink _ s _
    (@Endpoint.wf_publish _ s e h (Session.linkEvent .disconnected) rfl) .disconnected (Or.inl rfl)
    .linkLost (Or.inl rfl)
  rw [notifyLinkState_change h (Or.inl rfl) (by simp [hlink]) (by simp [hobserved]), hstep]
  dsimp only
  rw [if_pos rfl, habandon]
  dsimp only
  rw [abandon_status, abandon_status, Endpoint.publish_status]
  have hforget : Session.clearRecentlyAbandoned
      (((e.publish (Session.linkEvent .disconnected)).2.abandon
        (abandonedActivity .disconnected) .linkLost).2.toRoot s) =
      ({ ((e.publish (Session.linkEvent .disconnected)).2.abandon (.disconnected true)
        .linkLost).2 with abandoned := none } : Endpoint).toRoot s := rfl
  rw [hforget]
  cases e.events.full <;>
    cases (e.publish (Session.linkEvent .disconnected)).2.events.full <;> rfl

theorem notifyLinkState_found {e : Endpoint} (h : e.Wf s)
    (hlink : e.activity.linkState = .disconnected) :
    Session.notifyLinkState (e.toRoot s) .connected =
      let (status, next) := e.notifyLinkState s .connected
      (status, next.toRoot s) := by
  obtain ⟨hintake, hdiagnostic⟩ := h.disconnected hlink
  obtain ⟨hactivity, hi, hd⟩ := Endpoint.publish_fields e (Session.linkEvent .connected)
  have hstep : e.notifyLinkState s .connected =
      let (linkStatus, published) := e.publish (Session.linkEvent .connected)
      (linkStatus, published.beginEstablishment s) := by
    obtain ⟨activity, cursor, mode, modeValid, failure, abandoned, diagnostic, intake,
      events⟩ := e
    cases activity with
    | disconnected observed => rfl
    | _ => cases hlink
  have hbegin := @beginEstablishment_withLink _ s _
    (@Endpoint.wf_publish _ s e h (Session.linkEvent .connected) rfl)
    (Or.inr (by rw [hactivity, hlink])) (by rw [hi, hintake]) (by rw [hd, hdiagnostic])
  rw [notifyLinkState_change h (Or.inr rfl) (by simp [hlink]) (by simp), hstep]
  dsimp only
  rw [if_neg (show ¬ LinkState.connected = .disconnected by simp), hbegin]
  dsimp only
  rw [Endpoint.publish_status]
  cases e.events.full <;> rfl

theorem notifyLinkState_refines {e : Endpoint} (h : e.Wf s) (linkState : LinkState) :
    Session.notifyLinkState (e.toRoot s) linkState =
      let (status, next) := e.notifyLinkState s linkState
      (status, next.toRoot s) := by
  have hnotify := notifyRootIsValid_toRoot h.activity
  have hsame : ∀ linkState : LinkState, linkState = .disconnected ∨ linkState = .connected →
      e.activity.observed = true → e.activity.linkState = linkState →
      Session.notifyLinkState (e.toRoot s) linkState = (.ok, e.toRoot s) := by
    intro linkState hlisted hobserved hlink
    rw [Session.notifyLinkState, if_neg (by rcases hlisted with rfl | rfl <;> simp),
      if_neg (not_fault_toRoot _), if_neg (by simp [hnotify])]
    rw [if_pos ⟨by simp [Endpoint.toRoot, Endpoint.toSession, hobserved], hlink⟩]
  cases linkState with
  | unlisted raw =>
      rw [Session.notifyLinkState, if_pos (by simp)]
      cases e.activity <;> rfl
  | disconnected =>
      by_cases hlink : e.activity.linkState = .disconnected
      · cases ha : e.activity with
        | disconnected observed =>
            cases observed with
            | true =>
                rw [hsame _ (Or.inl rfl) (by rw [ha]; rfl) hlink]
                unfold Endpoint.notifyLinkState
                rw [ha]
            | false =>
                rw [Session.notifyLinkState, if_neg (by simp), if_neg (not_fault_toRoot _),
                  if_neg (by simp [hnotify])]
                unfold Endpoint.notifyLinkState
                obtain ⟨activity, cursor, mode, modeValid, failure, abandoned, diagnostic, intake,
                  events⟩ := e
                cases ha
                rfl
        | _ => rw [ha] at hlink; cases hlink
      · exact notifyLinkState_lost h (Endpoint.linkState_connected hlink)
  | connected =>
      by_cases hlink : e.activity.linkState = .disconnected
      · exact notifyLinkState_found h hlink
      · have hconnected := Endpoint.linkState_connected hlink
        cases ha : e.activity with
        | disconnected observed => rw [ha] at hlink; exact absurd rfl hlink
        | _ =>
            rw [hsame _ (Or.inr rfl) (by rw [ha]; rfl) hconnected]
            unfold Endpoint.notifyLinkState
            rw [ha]

/-! ## Explicit reset -/

theorem resetNotification_toRoot {e : Endpoint} (h : e.activity.Wf s) :
    Profile.resetNotification (e.toRoot s) = e.activity.notification := by
  have hconfirm := completedConfirmMetadataIsValid_toRoot h
  have hrole := s.role_isListed
  unfold Profile.resetNotification Profile.hasTrustworthyPendingRecoveryReset
    Profile.hasTrustworthyActiveSession Activity.notification
  rw [hconfirm]
  obtain ⟨activity, cursor, mode, modeValid, failure, abandoned, diagnostic, intake, events⟩ := e
  cases activity with
  | recovering reset =>
      cases reset with
      | none => simp [Endpoint.toRoot, Endpoint.toSession, Activity.recoveryReset,
          Activity.identifier]
      | some reset =>
          have hid := h reset rfl
          have hpos := length_encodedFrame_pos (Handshake.controlFrame .reset reset.identifier 0)
          have hlen := @length_encodedFrame_of_payload_nil
            (Handshake.controlFrame .reset reset.identifier 0) rfl
          have hle : (encodedFrame (Handshake.controlFrame .reset reset.identifier 0)).length
              ≤ controlOutputCapacity :=
            hlen.trans (by decide)
          cases hpin : reset.pinned <;>
            simp [Endpoint.toRoot, Endpoint.toSession, Activity.recoveryReset, Setup.item,
              Activity.identifier, Activity.controlItem, Activity.linkState, Activity.observed,
              Activity.sessionState, Activity.phase, hid, hrole, hpos, hle, hpin]
  | disconnected observed => simp [Endpoint.toRoot, Endpoint.toSession, Activity.recoveryReset,
      Activity.identifier, Activity.linkState]
  | waitingForInitiate => simp [Endpoint.toRoot, Endpoint.toSession, Activity.recoveryReset,
      Activity.identifier]
  | established id x =>
      have hid := identifier_wf h rfl
      simp [Endpoint.toRoot, Endpoint.toSession, Activity.recoveryReset, Activity.identifier,
        Activity.linkState, Activity.observed, Activity.sessionState, Activity.phase,
        Profile.phaseIsBoundHandshake, hrole, hid]
  | _ =>
      have hid := identifier_wf h rfl
      simp [Endpoint.toRoot, Endpoint.toSession, Activity.recoveryReset, Activity.identifier,
        Activity.linkState, Activity.observed, Activity.sessionState, Activity.phase,
        Profile.phaseIsBoundHandshake, hrole, hid]

/-- Everything but the identity that is told to the peer. -/
def resetSilently (e : Endpoint) : Endpoint :=
  { e with
    activity :=
      if e.activity.linkState = .disconnected then e.activity else .recovering none
    lastFailure := .localReset
    intake := .filling []
    diagnosticPending := false
    events := e.events.clear }

theorem explicitReset_toRoot {e : Endpoint} (h : e.Wf s) :
    Session.explicitReset (e.toRoot s) = (.ok, (resetSilently e).toRoot s) := by
  have hclear : Session.clearScopedWork (e.toRoot s) = (.ok, clearedRoot (e.toRoot s)) :=
    clearScopedWork_eq (hasStorage_toRoot e)
  have habandoned : Session.recentlyAbandonedMetadataIsValid (clearedRoot (e.toRoot s)) = true :=
    @recentlyAbandonedMetadataIsValid_toRoot _ s e h.abandoned
  have hcursor := h.cursor_host
  have hrig := h.cursor_rig
  unfold Session.explicitReset
  rw [hclear]
  dsimp only
  rw [if_pos habandoned]
  -- With the role and the activity known, every retained field computes.
  obtain ⟨role, config, firstSequence, regions, role_cases, h1, h2, h3, h4, h5, h6, h7, h8⟩ := s
  obtain ⟨activity, cursor, mode, modeValid, failure, abandoned, diagnostic, intake, events⟩ := e
  refine (if_neg ?_).trans ?_
  · rintro (hc | hc)
    · exact hc rfl
    · apply hc
      rcases role_cases with rfl | rfl
      · have hvalid := hcursor rfl
        cases activity with
        | disconnected observed => exact hvalid
        | _ => exact hvalid
      · cases activity with
        | disconnected observed => rfl
        | _ => rfl
  · rcases role_cases with rfl | rfl
    · cases activity with
      | disconnected observed => cases observed <;> rfl
      | _ => rfl
    · cases hrig rfl
      cases activity with
      | disconnected observed => cases observed <;> rfl
      | _ => rfl

theorem reset_refines {e : Endpoint} (h : e.Wf s) :
    Profile.reset (e.toRoot s) = (.ok, e.reset.toRoot s) := by
  have hnotification := resetNotification_toRoot h.activity
  unfold Profile.reset
  rw [hnotification, explicitReset_toRoot h]
  dsimp only
  rw [if_neg (show ¬ Status.ok ≠ .ok by simp)]
  cases hn : e.activity.notification with
  | none =>
      unfold Endpoint.reset resetSilently
      rw [hn]
      rfl
  | some id =>
      have hid := Endpoint.notification_wf h.activity hn
      have hlink : ¬ e.activity.linkState = .disconnected := by
        intro hl
        cases ha : e.activity <;> rw [ha] at hl hn <;> cases hl
        cases hn
      have hnone : (resetSilently e).activity.controlItem = none := by
        unfold resetSilently
        dsimp only
        rw [if_neg hlink]
        rfl
      have hpublish := @publishReset_toRoot _ s
        ({ resetSilently e with abandoned := some id } : Endpoint) hnone id hid
      dsimp only
      erw [hpublish]
      dsimp only
      rw [if_neg (show ¬ Status.ok ≠ .ok by simp)]
      unfold Endpoint.reset resetSilently
      rw [hn, if_neg hlink, if_neg hlink]
      rfl

end

end HilRigProtocol.Transport
