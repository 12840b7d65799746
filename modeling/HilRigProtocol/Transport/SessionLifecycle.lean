/-
  The session lifecycle (`transport_session_mvp.c`): initialization, establishment
  attempts, abandonment, explicit reset, fault entry and link notifications.
-/
import HilRigProtocol.Transport.Output
import HilRigProtocol.Transport.Parser

namespace HilRigProtocol.Transport.Session

/-- `HIL_TRANSPORT_MVP_Session_Set_Link_State` -/
def setLinkState (root : Root) (linkState : LinkState) : Root :=
  { root with base.linkState := linkState, session.linkState := linkState }

/-- `HIL_TRANSPORT_MVP_Session_Set_State` -/
def setState (root : Root) (state : SessionState) : Root :=
  { root with base.sessionState := state, session.state := state }

/-- `HIL_TRANSPORT_MVP_Session_Set_Failure` -/
def setFailure (root : Root) (failure : Failure) : Root :=
  { root with base.lastFailure := failure, session.lastFailure := failure }

/-- `HIL_TRANSPORT_MVP_Session_Set_Fault` -/
def setFault (root : Root) : Root := setFailure (setState root .fault) .internal

/-- `HIL_TRANSPORT_MVP_Session_Completed_Confirm_Metadata_Is_Valid` -/
def completedConfirmMetadataIsValid (root : Root) : Bool :=
  if root.session.completedConfirmSequenceValid > 1 then false
  else if root.session.completedConfirmSequenceValid = 0 then
    decide (root.session.completedConfirmSequence = 0)
  else
    root.base.role == .host && root.session.role == .host
      && root.base.sessionState == .established && root.session.state == .established
      && root.session.handshakePhase == .established
      && root.session.sessionIdentifierValid == 1
      && sessionIdentifierIsValid root.session.sessionIdentifier

/-- `HIL_TRANSPORT_MVP_Session_Clear_Recently_Abandoned` -/
def clearRecentlyAbandoned (root : Root) : Root :=
  { root with
    recentlyAbandonedSessionIdentifier := sessionSeedInvalid
    recentlyAbandonedSessionIdentifierValid := 0 }

/-- `HIL_TRANSPORT_MVP_Session_Recently_Abandoned_Metadata_Is_Valid`, and its copy in
    the receive module. -/
def recentlyAbandonedMetadataIsValid (root : Root) : Bool :=
  if root.recentlyAbandonedSessionIdentifierValid > 1 then false
  else if root.recentlyAbandonedSessionIdentifierValid = 0 then
    decide (root.recentlyAbandonedSessionIdentifier = sessionSeedInvalid)
  else sessionIdentifierIsValid root.recentlyAbandonedSessionIdentifier

/-- `HIL_TRANSPORT_MVP_Session_Clear_Scoped_Work` -/
def clearScopedWork (root : Root) : Status × Root :=
  let (outputStatus, root) := Output.reset root
  let root :=
    { root with
      parser := root.parser.reset
      submittedMessage := []
      submittedMessagePending := 0
      receivedMessage := []
      receivedMessagePending := 0
      receiveProtocolErrorPending := 0
      session.sessionIdentifier := sessionSeedInvalid
      session.sessionIdentifierValid := 0
      session.completedConfirmSequence := 0
      session.completedConfirmSequenceValid := 0
      session.handshakePhase := .inactive
      session.nextTransmitSequence := root.session.initialReliableSequence
      session.expectedReceiveSequence := root.session.initialReliableSequence
      session.lastAcceptedReceiveSequence := 0
      session.acceptedReceiveSequenceValid := 0
      session.lastAcceptedReceiveFrameType := .invalid
      session.lastAcceptedReceiveAcknowledgementSequence := 0
      session.reliableState := .idle
      session.retainedReliableFrameType := .invalid
      session.retainedTransmitSequence := 0
      session.retransmissionsCommitted := 0
      session.reliableLastCommittedMs := 0
      session.lastValidReceiveMs := 0
      encodedOutput := []
      controlOutput := []
      controlOutputState := .idle
      outputSelection := .none
      recoveryResetPending := 0
      recoveryResetSessionIdentifier := sessionSeedInvalid }
  if outputStatus ≠ .ok then (.internalError, root) else (.ok, root)

/-- `HIL_TRANSPORT_MVP_Session_Record_Invariant_Failure` and
    `HIL_TRANSPORT_MVP_Session_Enter_Fault`. -/
def enterFault (root : Root) : Status × Root :=
  (.internalError, setFault (clearScopedWork root).2)

/-- `HIL_TRANSPORT_MVP_Session_Reset_Status_For_Failure` -/
def resetStatusForFailure : Failure → Option Status
  | .linkLost => some .notReady
  | .protocol => some .notReady
  | .connectionTimeout => some .timeout
  | .delivery => some .deliveryFailed
  | .capacity => some .capacityExhausted
  | _ => none

/-- The event of `HIL_TRANSPORT_MVP_Session_Publish_Link_Event`. -/
def linkEvent (linkState : LinkState) : Event where
  type := .linkStateChanged
  status := .ok
  failure := if linkState = .disconnected then .linkLost else .none
  requiredCapacity := 0

/-- `HIL_TRANSPORT_MVP_Session_Publish_Link_Event` -/
def publishLinkEvent (root : Root) (linkState : LinkState) : Status × Root :=
  Events.publish root (linkEvent linkState)

/-- The seed rule of `Session_Init` and of `Init`: a host needs a usable seed, a rig
    none. -/
def seedIsInvalid (role : Role) (sessionSeed : UInt64) : Bool :=
  (role == .host && (sessionSeed == sessionSeedInvalid || sessionSeed == sessionSeedReserved))
    || (role == .rig && sessionSeed != sessionSeedInvalid)

/-- `HIL_TRANSPORT_MVP_Session_Init` -/
def init (role : Role) (sessionSeed : UInt64) (initialReliableSequence : UInt16) :
    Status × Option Session :=
  if role ≠ .host ∧ role ≠ .rig then (.invalidArgument, none)
  else if seedIsInvalid role sessionSeed then (.invalidArgument, none)
  else
    (.ok, some
      { role := role
        linkState := .disconnected
        linkStateObserved := 0
        state := .disconnected
        handshakePhase := .inactive
        sessionIdentifier := 0
        sessionIdentifierValid := 0
        completedConfirmSequence := 0
        completedConfirmSequenceValid := 0
        nextHostSessionIdentifier := sessionSeed
        initialReliableSequence := initialReliableSequence
        nextTransmitSequence := initialReliableSequence
        expectedReceiveSequence := initialReliableSequence
        retainedTransmitSequence := 0
        retainedReliableFrameType := .invalid
        lastAcceptedReceiveSequence := 0
        acceptedReceiveSequenceValid := 0
        lastAcceptedReceiveFrameType := .invalid
        lastAcceptedReceiveAcknowledgementSequence := 0
        reliableState := .idle
        retransmissionsCommitted := 0
        reliableLastCommittedMs := 0
        lastValidReceiveMs := 0
        lastFailure := .none })

/-- The first check of `Begin_Establishment`: the public and the private view agree
    and hold listed values. -/
def establishmentRootIsValid (root : Root) : Bool :=
  let session := root.session
  session.role.isListed && root.base.role == session.role
    && session.linkState.isListed && root.base.linkState == session.linkState
    && decide (session.linkStateObserved ≤ 1)
    && session.state.isListed && root.base.sessionState == session.state
    && root.base.lastFailure == session.lastFailure
    && recentlyAbandonedMetadataIsValid root && completedConfirmMetadataIsValid root

/-- The clean-state check of `Begin_Establishment`: nothing of an earlier session is
    left. -/
def scopedWorkIsClear (root : Root) : Bool :=
  let session := root.session
  session.handshakePhase == .inactive
    && session.sessionIdentifier == sessionSeedInvalid
    && session.sessionIdentifierValid == 0
    && session.completedConfirmSequence == 0
    && session.completedConfirmSequenceValid == 0
    && session.reliableState == .idle
    && session.retainedReliableFrameType == .invalid
    && session.retainedTransmitSequence == 0
    && session.retransmissionsCommitted == 0
    && session.reliableLastCommittedMs == 0 && root.encodedOutput.length == 0
    && root.controlOutputState == .idle
    && root.controlOutput.length == 0
    && root.outputSelection == .none
    && root.submittedMessage.length == 0 && root.submittedMessagePending == 0
    && root.receivedMessage.length == 0 && root.receivedMessagePending == 0
    && root.receiveProtocolErrorPending == 0
    && root.parser.accumulated.length == 0 && root.parser.bodyReady == 0
    && root.parser.discarding == 0 && session.lastAcceptedReceiveSequence == 0
    && session.acceptedReceiveSequenceValid == 0
    && session.lastAcceptedReceiveFrameType == .invalid
    && session.lastAcceptedReceiveAcknowledgementSequence == 0
    && session.lastValidReceiveMs == 0

/-- The cursor after one identity is consumed; it skips the two reserved values. -/
def successorIdentifier (cursor : UInt64) : UInt64 :=
  if cursor = sessionSeedReserved - 1 then 1 else cursor + 1

/-- `HIL_TRANSPORT_MVP_Session_Begin_Establishment` -/
def beginEstablishment (root : Root) : Status × Root :=
  if ¬ establishmentRootIsValid root then enterFault root
  else if root.session.state ≠ .disconnected ∧ root.session.state ≠ .recovering then
    (.notReady, root)
  else if root.session.linkStateObserved = 0 ∨ root.session.linkState ≠ .connected then
    (.notReady, root)
  else if ¬ scopedWorkIsClear root then enterFault root
  else
    let root :=
      { root with
        session.nextTransmitSequence := root.session.initialReliableSequence
        session.expectedReceiveSequence := root.session.initialReliableSequence
        session.lastAcceptedReceiveSequence := 0
        session.acceptedReceiveSequenceValid := 0
        session.lastAcceptedReceiveFrameType := .invalid
        session.lastAcceptedReceiveAcknowledgementSequence := 0 }
    if root.session.role = .host then
      if ¬ sessionIdentifierIsValid root.session.nextHostSessionIdentifier then enterFault root
      else
        let cursor := root.session.nextHostSessionIdentifier
        let root :=
          { root with
            session.sessionIdentifier := cursor
            session.sessionIdentifierValid := 1
            session.nextHostSessionIdentifier := successorIdentifier cursor
            session.handshakePhase := .initiatePending }
        (.ok, setState root .connecting)
    else if root.session.nextHostSessionIdentifier ≠ sessionSeedInvalid then enterFault root
    else
      (.ok, setState { root with session.handshakePhase := .waitingForInitiate } .connecting)

/-- The consistency check of `HIL_TRANSPORT_MVP_Session_Abandon`. -/
def abandonRootIsValid (root : Root) : Bool :=
  let session := root.session
  session.role.isListed && root.base.role == session.role
    && decide (session.linkStateObserved ≤ 1)
    && root.base.lastFailure == session.lastFailure
    && root.base.sessionState == session.state
    && root.base.linkState == session.linkState
    && session.state.isListed && session.linkState.isListed
    && completedConfirmMetadataIsValid root

/-- `HIL_TRANSPORT_MVP_Session_Abandon` -/
def abandon (root : Root) (failure : Failure) : Status × Root :=
  match resetStatusForFailure failure with
  | none => (.invalidArgument, root)
  | some associatedStatus =>
      if ¬ abandonRootIsValid root then enterFault root
      else
        let abandonedSessionIdentifier := root.session.sessionIdentifier
        let abandonedSessionIdentifierValid :=
          root.session.sessionIdentifierValid == 1
            && sessionIdentifierIsValid abandonedSessionIdentifier
        let (status, root) := clearScopedWork root
        if status ≠ .ok then (.internalError, setFault root)
        else if root.session.state = .fault then (.internalError, setFailure root .internal)
        else
          let root :=
            if abandonedSessionIdentifierValid then
              { root with
                recentlyAbandonedSessionIdentifier := abandonedSessionIdentifier
                recentlyAbandonedSessionIdentifierValid := 1 }
            else root
          let root := setFailure root failure
          let root :=
            setState root
              (if root.session.linkState = .disconnected then .disconnected else .recovering)
          let (eventStatus, root) :=
            Events.publish root
              { type := .sessionReset, status := associatedStatus, failure := failure,
                requiredCapacity := 0 }
          if eventStatus = .internalError then (.internalError, root)
          else if eventStatus = .capacityExhausted then (.capacityExhausted, root)
          else if eventStatus ≠ .ok then enterFault root
          else (.ok, root)

/-- `HIL_TRANSPORT_MVP_Session_Explicit_Reset` -/
def explicitReset (root : Root) : Status × Root :=
  let (cleanupStatus, root) := clearScopedWork root
  let root := if recentlyAbandonedMetadataIsValid root then root else clearRecentlyAbandoned root
  let root := Events.reset root
  let root :=
    { root with
      session.linkStateObserved := if root.session.linkStateObserved ≠ 0 then 1 else 0 }
  let retainedRoleIsValid := root.base.role == .host || root.base.role == .rig
  let retainedLinkIsValid :=
    root.base.linkState == .disconnected || root.base.linkState == .connected
  let root :=
    if retainedRoleIsValid then
      { root with
        session.role := root.base.role
        session.nextHostSessionIdentifier :=
          if root.base.role = .rig then sessionSeedInvalid
          else root.session.nextHostSessionIdentifier }
    else root
  let root := if retainedLinkIsValid then setLinkState root root.base.linkState else root
  let retainedSetupIsValid :=
    retainedRoleIsValid && retainedLinkIsValid
      && (root.base.role == .rig
        || sessionIdentifierIsValid root.session.nextHostSessionIdentifier)
  if cleanupStatus ≠ .ok ∨ ¬ retainedSetupIsValid then (.internalError, setFault root)
  else
    let root := setFailure root .localReset
    (.ok,
      setState root (if root.base.linkState = .disconnected then .disconnected else .recovering))

/-- The consistency check of `HIL_TRANSPORT_MVP_Session_Notify_Link_State`. -/
def notifyRootIsValid (root : Root) : Bool :=
  let session := root.session
  session.role.isListed && root.base.role == session.role
    && root.base.linkState.isListed && root.base.linkState == session.linkState
    && decide (session.linkStateObserved ≤ 1)
    && root.base.sessionState.isListed && root.base.sessionState == session.state
    && root.base.lastFailure == session.lastFailure
    && completedConfirmMetadataIsValid root

/-- `HIL_TRANSPORT_MVP_Session_Notify_Link_State` -/
def notifyLinkState (root : Root) (linkState : LinkState) : Status × Root :=
  if linkState ≠ .disconnected ∧ linkState ≠ .connected then (.invalidArgument, root)
  else if root.base.sessionState = .fault ∨ root.session.state = .fault then
    let root := setLinkState { root with session.linkStateObserved := 1 } linkState
    if linkState = .disconnected then
      let (cleanupStatus, root) := clearScopedWork root
      (cleanupStatus, setFault (clearRecentlyAbandoned root))
    else (.ok, setFault root)
  else if ¬ notifyRootIsValid root then enterFault root
  else
    let wasObserved := root.session.linkStateObserved != 0
    let previousLinkState := root.session.linkState
    if wasObserved ∧ previousLinkState = linkState then (.ok, root)
    else
      let root := setLinkState { root with session.linkStateObserved := 1 } linkState
      if ¬ wasObserved ∧ linkState = .disconnected then (.ok, clearRecentlyAbandoned root)
      else
        let (linkEventStatus, root) := publishLinkEvent root linkState
        if linkEventStatus = .internalError then enterFault root
        else if linkEventStatus ≠ .ok ∧ linkEventStatus ≠ .capacityExhausted then enterFault root
        else
          let (transitionStatus, root) :=
            if linkState = .disconnected then
              let (status, root) := abandon root .linkLost
              (status, clearRecentlyAbandoned root)
            else beginEstablishment root
          if transitionStatus = .internalError then (.internalError, root)
          else if linkEventStatus = .capacityExhausted ∨ transitionStatus = .capacityExhausted then
            (.capacityExhausted, root)
          else if transitionStatus ≠ .ok then enterFault root
          else (.ok, root)

end HilRigProtocol.Transport.Session
