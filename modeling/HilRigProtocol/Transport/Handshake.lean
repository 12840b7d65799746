/-
  The session handshake (`transport_handshake_mvp.c`).
-/
import HilRigProtocol.Transport.FrameCodec
import HilRigProtocol.Transport.SessionLifecycle

namespace HilRigProtocol.Transport

/-- `HIL_Transport_Mvp_Handshake_Frame_Result_T` -/
inductive HandshakeFrameResult
  | accepted
  | duplicate
  | stale
  | incompatible
  deriving DecidableEq, Repr, Inhabited

/-- `HIL_Transport_Mvp_Handshake_Application_Proof_Result_T` -/
inductive ApplicationProofResult
  | notApplicable
  | accepted
  | stale
  | incompatible
  deriving DecidableEq, Repr, Inhabited

/-- `HIL_Transport_Mvp_Handshake_Ack_Result_T` -/
inductive HandshakeAckResult
  | unexpected
  | matched
  | blockedByPinnedRetry
  deriving DecidableEq, Repr, Inhabited

namespace Handshake

/-- The checks of `HIL_TRANSPORT_MVP_Handshake_Validate_Root`. -/
def rootIsValid (root : Root) : Bool :=
  let session := root.session
  session.role.isListed && root.base.role == session.role
    && session.linkState.isListed && root.base.linkState == session.linkState
    && session.state.isListed && root.base.sessionState == session.state
    && root.base.lastFailure == session.lastFailure
    && session.handshakePhase.isListed
    && decide (session.sessionIdentifierValid ≤ 1)
    && Session.completedConfirmMetadataIsValid root

/-- `HIL_TRANSPORT_MVP_Handshake_Validate_Root` -/
def validateRoot (root : Root) : Status × Root :=
  if ¬ rootIsValid root then Session.enterFault root else (.ok, root)

/-- `HIL_TRANSPORT_MVP_Handshake_Frame_Is_Exact_Duplicate` -/
def frameIsExactDuplicate (session : Session) (frame : Frame) : Bool :=
  session.acceptedReceiveSequenceValid != 0
    && frame.sequence == session.lastAcceptedReceiveSequence
    && frame.type == session.lastAcceptedReceiveFrameType
    && frame.acknowledgementSequence == session.lastAcceptedReceiveAcknowledgementSequence

/-- `HIL_TRANSPORT_MVP_Handshake_Record_Accepted_Frame` -/
def recordAcceptedFrame (session : Session) (frame : Frame) : Session :=
  { session with
    lastAcceptedReceiveFrameType := frame.type
    lastAcceptedReceiveAcknowledgementSequence := frame.acknowledgementSequence }

/-- `HIL_TRANSPORT_MVP_Handshake_Set_Established` -/
def setEstablished (root : Root) : Root :=
  { root with
    base.sessionState := .established
    session.state := .established
    session.handshakePhase := .established
    base.lastFailure := .none
    session.lastFailure := .none }

/-- `HIL_TRANSPORT_MVP_Handshake_Set_Host_Established` -/
def setHostEstablished (root : Root) (completedConfirmSequence : UInt16) : Root :=
  let root := setEstablished root
  { root with
    session.completedConfirmSequence := completedConfirmSequence
    session.completedConfirmSequenceValid := 1 }

/-- The event of `HIL_TRANSPORT_MVP_Handshake_Publish_Established_Event`. -/
def establishedEvent : Event where
  type := .sessionEstablished
  status := .ok
  failure := .none
  requiredCapacity := 0

/-- `HIL_TRANSPORT_MVP_Handshake_Publish_Established_Event` -/
def publishEstablishedEvent (root : Root) : Status × Root := Events.publish root establishedEvent

/-- `HIL_TRANSPORT_MVP_Handshake_Is_Duplicate_Final_Host_Acknowledgement` -/
def isDuplicateFinalHostAcknowledgement (root : Root) (frame : Frame) : Bool :=
  frame.type == .ack
    && Session.completedConfirmMetadataIsValid root
    && root.base.role == .host && root.session.role == .host
    && root.base.sessionState == .established && root.session.state == .established
    && root.session.handshakePhase == .established
    && root.session.completedConfirmSequenceValid == 1
    && root.session.sessionIdentifierValid == 1
    && frame.sessionIdentifier == root.session.sessionIdentifier
    && frame.acknowledgementSequence == root.session.completedConfirmSequence

/-- `HIL_TRANSPORT_MVP_Handshake_Classify_Acknowledgement` -/
def classifyAcknowledgement (root : Root) (frame : Frame) (expectedType : FrameType) :
    Status × HandshakeAckResult :=
  if root.session.retainedReliableFrameType ≠ expectedType then (.ok, .unexpected)
  else
    let (status, acknowledgementResult) :=
      root.session.classifyAcknowledgement frame.acknowledgementSequence
    if status ≠ .ok then (status, .unexpected)
    else if acknowledgementResult = .matched then (.ok, .matched)
    else if root.session.reliableState = .retransmitPeeked
        ∧ frame.acknowledgementSequence = root.session.retainedTransmitSequence then
      (.ok, .blockedByPinnedRetry)
    else (.ok, .unexpected)

/-- `HIL_TRANSPORT_MVP_Handshake_Complete_Acknowledgement` -/
def completeAcknowledgement (root : Root) (acknowledgementSequence : UInt16)
    (expectedType : FrameType) : Status × Root :=
  let (status, completedType, outcome, root) :=
    Reliability.acceptAcknowledgement root acknowledgementSequence
  if status ≠ .ok then (status, root)
  else if outcome ≠ .acknowledged ∨ completedType ≠ expectedType then Session.enterFault root
  else (.ok, root)

/-- `HIL_TRANSPORT_MVP_Handshake_Handle_Duplicate_Response_Work` -/
def handleDuplicateResponseWork (root : Root) (expectedResponseType : FrameType) :
    Status × Root :=
  if root.session.reliableState = .idle then (.ok, root)
  else
    let (status, _, root) := Reliability.requestRetransmission root expectedResponseType
    (status, root)

section
variable [Target]

/-- `HIL_TRANSPORT_MVP_Handshake_Publish_Reliable` -/
def publishReliable (root : Root) (frameType : FrameType) (acknowledgementSequence : UInt16)
    (nextPhase : HandshakePhase) : Status × Root :=
  let (status, sequence) := root.session.reserveSequence
  if status ≠ .ok then (status, root)
  else
    let frame : Frame :=
      { type := frameType
        sessionIdentifier := root.session.sessionIdentifier
        sequence := sequence
        acknowledgementSequence := acknowledgementSequence
        payload := [] }
    let (status, encoded) :=
      encodeFrame frame root.base.config.maxApplicationMessageSize root.codecScratchSize
        root.encodedOutputCapacity
    if status ≠ .ok then (status, root)
    else
      let (status, root) := Reliability.publishEncoded root frameType sequence encoded
      if status ≠ .ok then (status, root)
      else (.ok, { root with session.handshakePhase := nextPhase })

/-- The frame of `HIL_TRANSPORT_MVP_Handshake_Publish_Control`. -/
def controlFrame (frameType : FrameType) (sessionIdentifier : UInt64)
    (acknowledgementSequence : UInt16) : Frame where
  type := frameType
  sessionIdentifier := sessionIdentifier
  sequence := 0
  acknowledgementSequence := acknowledgementSequence
  payload := []

/-- `HIL_TRANSPORT_MVP_Handshake_Publish_Control` -/
def publishControl (root : Root) (frameType : FrameType) (sessionIdentifier : UInt64)
    (acknowledgementSequence : UInt16) : Status × Root :=
  let (status, encodedControl) :=
    encodeFrame (controlFrame frameType sessionIdentifier acknowledgementSequence)
      root.base.config.maxApplicationMessageSize root.codecScratchSize controlOutputCapacity
  if status ≠ .ok then (status, root) else ControlOutput.publishEncoded root encodedControl

/-- `HIL_TRANSPORT_MVP_Handshake_Publish_Acknowledgement` -/
def publishAcknowledgement (root : Root) (sequence : UInt16) : Status × Root :=
  let (status, root) := publishControl root .ack root.session.sessionIdentifier sequence
  if status = .notReady then (.capacityExhausted, root) else (status, root)

/-- `HIL_TRANSPORT_MVP_Handshake_Handle_Host_Response` -/
def handleHostResponse (root : Root) (frame : Frame) : Status × HandshakeFrameResult × Root :=
  if frame.sessionIdentifier ≠ root.session.sessionIdentifier then (.ok, .incompatible, root)
  else
    let (status, sequenceResult) := root.session.classifySequence frame.sequence
    if status ≠ .ok then (status, .incompatible, root)
    else if sequenceResult = .duplicate then
      if ¬ frameIsExactDuplicate root.session frame then (.ok, .incompatible, root)
      else if root.session.handshakePhase = .confirmPending
          ∨ root.session.handshakePhase = .waitingForConfirmAck then
        let (status, root) := handleDuplicateResponseWork root .confirm
        if status ≠ .ok then (status, .incompatible, root) else (.ok, .duplicate, root)
      else (.ok, .stale, root)
    else if sequenceResult = .stale then (.ok, .stale, root)
    else if sequenceResult ≠ .expected then (.ok, .incompatible, root)
    else if root.session.handshakePhase ≠ .waitingForResponse then (.ok, .stale, root)
    else
      let (status, acknowledgementResult) := classifyAcknowledgement root frame .initiate
      if status ≠ .ok then (status, .incompatible, root)
      else if acknowledgementResult = .blockedByPinnedRetry then
        (.capacityExhausted, .incompatible, root)
      else if acknowledgementResult ≠ .matched then (.ok, .incompatible, root)
      else
        let (status, root) := completeAcknowledgement root frame.acknowledgementSequence .initiate
        if status ≠ .ok then (status, .incompatible, root)
        else
          let (status, session) := root.session.acceptSequence frame.sequence
          if status ≠ .ok then
            let (status, root) := Session.enterFault root
            (status, .incompatible, root)
          else
            let session := recordAcceptedFrame session frame
            (.ok, .accepted,
              { root with session := { session with handshakePhase := .confirmPending } })

/-- `HIL_TRANSPORT_MVP_Handshake_Handle_Host_Ack` -/
def handleHostAck (root : Root) (frame : Frame) : Status × HandshakeFrameResult × Root :=
  if frame.sessionIdentifier ≠ root.session.sessionIdentifier then (.ok, .incompatible, root)
  else if root.session.handshakePhase ≠ .waitingForConfirmAck then (.ok, .stale, root)
  else
    let (status, acknowledgementResult) := classifyAcknowledgement root frame .confirm
    if status ≠ .ok then (status, .incompatible, root)
    else if acknowledgementResult = .blockedByPinnedRetry then
      (.capacityExhausted, .incompatible, root)
    else if acknowledgementResult ≠ .matched then (.ok, .stale, root)
    else
      let (status, root) := Events.checkCapacity root
      if status ≠ .ok then (status, .incompatible, root)
      else
        let completedConfirmSequence := root.session.retainedTransmitSequence
        let (status, root) := completeAcknowledgement root frame.acknowledgementSequence .confirm
        if status ≠ .ok then (status, .incompatible, root)
        else
          let root := setHostEstablished root completedConfirmSequence
          let (status, root) := publishEstablishedEvent root
          if status ≠ .ok then
            let (status, root) := Session.enterFault root
            (status, .incompatible, root)
          else (.ok, .accepted, root)

/-- `HIL_TRANSPORT_MVP_Handshake_Try_Complete_Host_From_Application` -/
def tryCompleteHostFromApplication (root : Root) (frame : Frame) :
    Status × ApplicationProofResult × Root :=
  if frame.type ≠ .applicationMessage then (.invalidArgument, .notApplicable, root)
  else
    let (status, root) := validateRoot root
    if status ≠ .ok then (.internalError, .notApplicable, root)
    else if root.session.role ≠ .host ∨ root.session.state ≠ .connecting
        ∨ root.session.handshakePhase ≠ .waitingForConfirmAck then
      (.ok, .notApplicable, root)
    else if frame.sessionIdentifier ≠ root.session.sessionIdentifier then
      (.ok, .incompatible, root)
    else if frame.payload.length = 0
        ∨ frame.payload.length > root.base.config.maxApplicationMessageSize
        ∨ frame.acknowledgementSequence ≠ 0 then
      (.ok, .incompatible, root)
    else
      let (status, sequenceResult) := root.session.classifySequence frame.sequence
      if status ≠ .ok then
        let (status, root) := Session.enterFault root
        (status, .notApplicable, root)
      -- The last accepted sequence is the RESPONSE's: only the next one proves acceptance.
      else if sequenceResult ≠ .expected then (.ok, .incompatible, root)
      else if root.session.retainedReliableFrameType ≠ .confirm then
        let (status, root) := Session.enterFault root
        (status, .notApplicable, root)
      else if root.session.reliableState = .peeked
          ∨ root.session.reliableState = .retransmitPeeked then
        (.capacityExhausted, .notApplicable, root)
      else if root.session.reliableState ≠ .awaitingAck
          ∧ root.session.reliableState ≠ .retransmitReady then
        (.ok, .incompatible, root)
      else
        let (status, root) := Events.checkCapacity root
        if status ≠ .ok then (status, .notApplicable, root)
        else
          let completedConfirmSequence := root.session.retainedTransmitSequence
          let (status, root) :=
            completeAcknowledgement root root.session.retainedTransmitSequence .confirm
          if status ≠ .ok then (status, .notApplicable, root)
          else
            let root := setHostEstablished root completedConfirmSequence
            let (status, root) := publishEstablishedEvent root
            if status ≠ .ok then
              let (status, root) := Session.enterFault root
              (status, .notApplicable, root)
            else (.ok, .accepted, root)

/-- `HIL_TRANSPORT_MVP_Handshake_Handle_Rig_Initiate` -/
def handleRigInitiate (root : Root) (frame : Frame) : Status × HandshakeFrameResult × Root :=
  if ¬ sessionIdentifierIsValid frame.sessionIdentifier ∨ frame.acknowledgementSequence ≠ 0 then
    (.ok, .incompatible, root)
  else if root.session.sessionIdentifierValid ≠ 0
      ∧ frame.sessionIdentifier ≠ root.session.sessionIdentifier then
    (.ok, .incompatible, root)
  else
    let (status, sequenceResult) := root.session.classifySequence frame.sequence
    if status ≠ .ok then (status, .incompatible, root)
    else if sequenceResult = .duplicate then
      if ¬ frameIsExactDuplicate root.session frame then (.ok, .incompatible, root)
      else if root.session.handshakePhase = .responsePending
          ∨ root.session.handshakePhase = .waitingForConfirm then
        let (status, root) := handleDuplicateResponseWork root .response
        if status ≠ .ok then (status, .incompatible, root) else (.ok, .duplicate, root)
      else (.ok, .stale, root)
    else if sequenceResult = .stale then (.ok, .stale, root)
    else if sequenceResult ≠ .expected then (.ok, .incompatible, root)
    else if root.session.linkState ≠ .connected ∨ root.session.state ≠ .connecting
        ∨ root.session.handshakePhase ≠ .waitingForInitiate then
      (.ok, .stale, root)
    else
      let root :=
        { root with
          session.sessionIdentifier := frame.sessionIdentifier
          session.sessionIdentifierValid := 1 }
      let (status, session) := root.session.acceptSequence frame.sequence
      if status ≠ .ok then
        let (status, root) := Session.enterFault root
        (status, .incompatible, root)
      else
        let session := recordAcceptedFrame session frame
        (.ok, .accepted,
          { root with session := { session with handshakePhase := .responsePending } })

/-- `HIL_TRANSPORT_MVP_Handshake_Handle_Rig_Confirm` -/
def handleRigConfirm (root : Root) (frame : Frame) : Status × HandshakeFrameResult × Root :=
  if frame.sessionIdentifier ≠ root.session.sessionIdentifier then (.ok, .incompatible, root)
  else
    let (status, sequenceResult) := root.session.classifySequence frame.sequence
    if status ≠ .ok then (status, .incompatible, root)
    else if sequenceResult = .duplicate then
      if ¬ frameIsExactDuplicate root.session frame then (.ok, .incompatible, root)
      else if root.session.handshakePhase = .established then
        let (status, root) := publishAcknowledgement root frame.sequence
        if status ≠ .ok then (status, .incompatible, root) else (.ok, .duplicate, root)
      else (.ok, .stale, root)
    else if sequenceResult = .stale then (.ok, .stale, root)
    else if sequenceResult ≠ .expected then (.ok, .incompatible, root)
    else if root.session.handshakePhase ≠ .waitingForConfirm then (.ok, .stale, root)
    else
      let (status, acknowledgementResult) := classifyAcknowledgement root frame .response
      if status ≠ .ok then (status, .incompatible, root)
      else if acknowledgementResult = .blockedByPinnedRetry then
        (.capacityExhausted, .incompatible, root)
      else if acknowledgementResult ≠ .matched then (.ok, .incompatible, root)
      else
        let (status, root) := Events.checkCapacity root
        if status ≠ .ok then (status, .incompatible, root)
        else
          let (status, root) := publishAcknowledgement root frame.sequence
          if status ≠ .ok then (status, .incompatible, root)
          else
            let (status, root) :=
              completeAcknowledgement root frame.acknowledgementSequence .response
            if status ≠ .ok then (status, .incompatible, root)
            else
              let (status, session) := root.session.acceptSequence frame.sequence
              if status ≠ .ok then
                let (status, root) := Session.enterFault root
                (status, .incompatible, root)
              else
                let root :=
                  setEstablished { root with session := recordAcceptedFrame session frame }
                let (status, root) := publishEstablishedEvent root
                if status ≠ .ok then
                  let (status, root) := Session.enterFault root
                  (status, .incompatible, root)
                else (.ok, .accepted, root)

/-- `HIL_TRANSPORT_MVP_Handshake_Handle_Reset` -/
def handleReset (root : Root) (frame : Frame) : Status × HandshakeFrameResult × Root :=
  if frame.sequence ≠ 0 ∨ frame.acknowledgementSequence ≠ 0
      ∨ ¬ sessionIdentifierIsValid frame.sessionIdentifier then
    (.ok, .incompatible, root)
  else if root.session.sessionIdentifierValid = 0 then (.ok, .stale, root)
  else if frame.sessionIdentifier ≠ root.session.sessionIdentifier then (.ok, .incompatible, root)
  else
    let (status, root) := Session.abandon root .protocol
    if status ≠ .ok ∧ status ≠ .capacityExhausted then (status, .incompatible, root)
    -- The peer's RESET is the synchronization signal, so the replacement starts here.
    else if root.session.linkState = .connected then
      let (establishmentStatus, root) := Session.beginEstablishment root
      if establishmentStatus ≠ .ok then (establishmentStatus, .incompatible, root)
      else (status, .accepted, root)
    else (status, .accepted, root)

/-- The check that `HIL_TRANSPORT_MVP_Handshake_Process` makes in a PENDING phase. -/
def pendingPhaseIsValid (root : Root) : Bool :=
  root.session.linkState == .connected && root.session.state == .connecting
    && root.session.sessionIdentifierValid != 0
    && sessionIdentifierIsValid root.session.sessionIdentifier

/-- `HIL_TRANSPORT_MVP_Handshake_Process`; the time is not used. -/
def process (root : Root) : Status × Root :=
  if root.base.sessionState = .fault ∨ root.session.state = .fault then (.internalError, root)
  else
    let (status, root) := validateRoot root
    if status ≠ .ok then (status, root)
    else if (root.session.handshakePhase = .initiatePending
          ∨ root.session.handshakePhase = .responsePending
          ∨ root.session.handshakePhase = .confirmPending)
        ∧ ¬ pendingPhaseIsValid root then
      Session.enterFault root
    else
      match root.session.handshakePhase with
      | .initiatePending =>
          if root.session.role ≠ .host then Session.enterFault root
          else publishReliable root .initiate 0 .waitingForResponse
      | .responsePending =>
          if root.session.role ≠ .rig then Session.enterFault root
          else
            publishReliable root .response root.session.lastAcceptedReceiveSequence
              .waitingForConfirm
      | .confirmPending =>
          if root.session.role ≠ .host then Session.enterFault root
          else
            publishReliable root .confirm root.session.lastAcceptedReceiveSequence
              .waitingForConfirmAck
      | _ => (.ok, root)

/-- `HIL_TRANSPORT_MVP_Handshake_Handle_Frame` -/
def handleFrame (root : Root) (frame : Frame) : Status × HandshakeFrameResult × Root :=
  if root.base.sessionState = .fault ∨ root.session.state = .fault then
    (.internalError, .incompatible, root)
  else
    let (status, root) := validateRoot root
    if status ≠ .ok then (.internalError, .incompatible, root)
    else if frame.payload.length ≠ 0 then (.ok, .incompatible, root)
    else if frame.type = .reset then handleReset root frame
    else if root.session.role = .host then
      if frame.type = .response then handleHostResponse root frame
      else if frame.type = .ack ∧ frame.sequence = 0 then handleHostAck root frame
      else (.ok, .incompatible, root)
    else if root.session.role = .rig then
      if frame.type = .initiate then handleRigInitiate root frame
      else if frame.type = .confirm then handleRigConfirm root frame
      else (.ok, .incompatible, root)
    else
      let (status, root) := Session.enterFault root
      (status, .incompatible, root)

/-- `HIL_TRANSPORT_MVP_Handshake_Publish_Reset` -/
def publishReset (root : Root) (sessionIdentifier : UInt64) : Status × Root :=
  if ¬ sessionIdentifierIsValid sessionIdentifier then (.invalidArgument, root)
  else publishControl root .reset sessionIdentifier 0

/-- `HIL_TRANSPORT_MVP_Handshake_Begin_Local_Recovery` -/
def beginLocalRecovery (root : Root) (failure : Failure) : Status × Root :=
  let failedSessionIdentifier := root.session.sessionIdentifier
  let failedSessionIdentifierValid :=
    root.session.linkState == .connected && root.session.sessionIdentifierValid != 0
      && sessionIdentifierIsValid failedSessionIdentifier
  let (abandonStatus, root) := Session.abandon root failure
  if abandonStatus ≠ .ok ∧ abandonStatus ≠ .capacityExhausted then (abandonStatus, root)
  -- A full event queue must not suppress recovery on the wire.
  else if failedSessionIdentifierValid then
    let (resetStatus, root) := publishReset root failedSessionIdentifier
    if resetStatus ≠ .ok then Session.enterFault root
    else
      (abandonStatus,
        { root with
          recoveryResetPending := 1
          recoveryResetSessionIdentifier := failedSessionIdentifier })
  else (abandonStatus, root)

end

end Handshake

end HilRigProtocol.Transport
