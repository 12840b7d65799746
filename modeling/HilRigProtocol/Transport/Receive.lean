/-
  Transactional reception (`transport_receive_mvp.c`).
-/
import HilRigProtocol.Transport.Application

namespace HilRigProtocol.Transport

/-- `HIL_Transport_Mvp_Receive_Body_Action_T` -/
inductive BodyAction
  | consume
  | retain
  | alreadyReleased
  deriving DecidableEq, Repr, Inhabited

namespace Receive

/-- `HIL_TRANSPORT_MVP_Receive_Fault` -/
def receiveFault (root : Root) : Status × BodyAction × Root :=
  (.internalError, .alreadyReleased, (Session.enterFault root).2)

/-- The event of `HIL_TRANSPORT_MVP_Receive_Publish_Protocol_Error`. -/
def protocolErrorEvent : Event where
  type := .protocolError
  status := .notReady
  failure := .protocol
  requiredCapacity := 0

/-- `HIL_TRANSPORT_MVP_Receive_Publish_Protocol_Error` -/
def publishProtocolError (root : Root) : Status × Root :=
  let (status, root) := Events.publish root protocolErrorEvent
  if status ≠ .ok ∧ status ≠ .capacityExhausted then Session.enterFault root else (status, root)

/-- `HIL_TRANSPORT_MVP_Receive_Process_Pending_Error` -/
def processPendingError (root : Root) : Status × Root :=
  if root.receiveProtocolErrorPending = 0 then (.ok, root)
  else
    let (status, root) := publishProtocolError root
    if status = .ok then (status, { root with receiveProtocolErrorPending := 0 })
    else (status, root)

/-- `HIL_TRANSPORT_MVP_Receive_Try_Advance_Recovery` -/
def tryAdvanceRecovery (root : Root) : Status × Root :=
  if root.session.state ≠ .recovering ∨ root.base.sessionState ≠ .recovering then (.ok, root)
  -- The RESET barrier and everything the abandoned session still owns come first.
  else if root.recoveryResetPending ≠ 0 ∨ root.controlOutputState ≠ .idle
      ∨ root.controlOutput.length ≠ 0 ∨ root.outputSelection ≠ .none
      ∨ root.receiveProtocolErrorPending ≠ 0 ∨ root.parser.bodyReady ≠ 0
      ∨ root.parser.accumulated.length ≠ 0 ∨ root.parser.discarding ≠ 0 then
    (.ok, root)
  else Session.beginEstablishment root

/-- `HIL_TRANSPORT_MVP_Receive_Reject_Retained_Body` -/
def rejectRetainedBody (root : Root) : Status × BodyAction × Root :=
  let (status, root) := publishProtocolError root
  if status = .ok then (.ok, .consume, root)
  else if status = .capacityExhausted then (status, .retain, root)
  else receiveFault root

/-- `HIL_TRANSPORT_MVP_Receive_Reject_Obsolete_Body` -/
def rejectObsoleteBody (root : Root) : Status × BodyAction × Root :=
  let (status, root) := publishProtocolError root
  if status = .ok then (.ok, .consume, root)
  -- The body must not be reinterpreted later; only its diagnostic is kept.
  else if status = .capacityExhausted then
    (status, .consume, { root with receiveProtocolErrorPending := 1 })
  else receiveFault root

/-- `HIL_TRANSPORT_MVP_Receive_Frame_Is_Recently_Abandoned` -/
def frameIsRecentlyAbandoned (root : Root) (frame : Frame) : Bool :=
  root.recentlyAbandonedSessionIdentifierValid != 0
    && frame.sessionIdentifier == root.recentlyAbandonedSessionIdentifier
    && (root.session.sessionIdentifierValid == 0
      || frame.sessionIdentifier != root.session.sessionIdentifier)

/-- `HIL_TRANSPORT_MVP_Receive_Rig_Is_Waiting_Unbound_For_Initiate` -/
def rigIsWaitingUnboundForInitiate (root : Root) : Bool :=
  root.session.role == .rig && root.session.state == .connecting
    && root.session.handshakePhase == .waitingForInitiate
    && root.session.sessionIdentifierValid == 0
    && root.session.sessionIdentifier == sessionSeedInvalid

/-- `HIL_TRANSPORT_MVP_Receive_Frame_Has_Incompatible_Session_Identifier` -/
def frameHasIncompatibleSessionIdentifier (root : Root) (frame : Frame) : Bool :=
  root.session.sessionIdentifierValid != 0
    && frame.sessionIdentifier != root.session.sessionIdentifier

section
variable [Target]

/-- The checks of `HIL_TRANSPORT_MVP_Receive_Validate_Root` before the parser is
    looked at. -/
def rootIsValid (root : Root) : Bool :=
  decide (root.receiveProtocolErrorPending ≤ 1) && decide (root.recoveryResetPending ≤ 1)
    && Session.recentlyAbandonedMetadataIsValid root
    && Session.completedConfirmMetadataIsValid root
    && root.base.role.isListed && root.session.role == root.base.role
    && root.base.linkState.isListed && root.session.linkState == root.base.linkState
    && (root.base.sessionState.isListed && root.base.sessionState != .fault)
    && root.session.state == root.base.sessionState
    && root.session.lastFailure == root.base.lastFailure
    && root.base.config.maxApplicationMessageSize != 0
    && root.base.config.maxEncodedFrameSize != 0 && root.regions.codecScratch != 0
    && decide (root.base.config.maxApplicationMessageSize ≤ Target.sizeMax - rawOverhead)
    && decide (root.codecScratchSize ≥ root.base.config.maxApplicationMessageSize + rawOverhead)
    && root.parser.scratchBufferSize == root.base.config.maxEncodedFrameSize - 1

/-- `HIL_TRANSPORT_MVP_Receive_Validate_Root` -/
def validateRoot (root : Root) : Status × Root :=
  if root.base.sessionState = .fault ∨ root.session.state = .fault then (.internalError, root)
  else if ¬ rootIsValid root then Session.enterFault root
  else
    let (parserStatus, _) := root.parser.peekBody
    if parserStatus ≠ .ok ∧ parserStatus ≠ .notReady then Session.enterFault root
    else if root.receiveProtocolErrorPending ≠ 0
        ∧ (parserStatus = .ok ∨ root.parser.accumulated.length ≠ 0
          ∨ root.parser.discarding ≠ 0) then
      Session.enterFault root
    else (.ok, root)

/-- The check of `Abandon_Incompatible_Session` on a pending recovery RESET. -/
def pendingResetIsValid (root : Root) : Bool :=
  root.recoveryResetPending == 1
    && root.base.sessionState == .recovering && root.session.state == .recovering
    && root.session.linkState == .connected && root.base.linkState == .connected
    && root.controlOutputState != .idle
    && sessionIdentifierIsValid root.recoveryResetSessionIdentifier

/-- `HIL_TRANSPORT_MVP_Receive_Abandon_Incompatible_Session` -/
def abandonIncompatibleSession (root : Root) : Status × BodyAction × Root :=
  let (eventStatus, root) := publishProtocolError root
  -- A pending recovery RESET is a barrier: a second abandonment would clear it.
  if root.recoveryResetPending ≠ 0 then
    if ¬ pendingResetIsValid root then receiveFault root
    else if eventStatus = .ok then (.ok, .consume, root)
    else if eventStatus = .capacityExhausted then
      (.capacityExhausted, .consume, { root with receiveProtocolErrorPending := 1 })
    else receiveFault root
  else
    let (recoveryStatus, root) := Handshake.beginLocalRecovery root .protocol
    if eventStatus = .internalError ∨ recoveryStatus = .internalError then receiveFault root
    else if eventStatus ≠ .ok ∧ eventStatus ≠ .capacityExhausted then receiveFault root
    else if recoveryStatus ≠ .ok ∧ recoveryStatus ≠ .capacityExhausted then receiveFault root
    else
      let root :=
        if eventStatus = .capacityExhausted then { root with receiveProtocolErrorPending := 1 }
        else root
      if eventStatus = .capacityExhausted ∨ recoveryStatus = .capacityExhausted then
        (.capacityExhausted, .alreadyReleased, root)
      else (.ok, .alreadyReleased, root)

/-- `HIL_TRANSPORT_MVP_Receive_Dispatch_Handshake_Frame` -/
def dispatchHandshakeFrame (root : Root) (frame : Frame) : Status × BodyAction × Root :=
  let (status, result, root) := Handshake.handleFrame root frame
  if status = .capacityExhausted then
    (status, if root.parser.bodyReady ≠ 0 then .retain else .alreadyReleased, root)
  else if status ≠ .ok then receiveFault root
  else
    match result with
    | .accepted | .duplicate =>
        (.ok, if root.parser.bodyReady ≠ 0 then .consume else .alreadyReleased, root)
    | .stale => rejectRetainedBody root
    | .incompatible => abandonIncompatibleSession root

/-- `HIL_TRANSPORT_MVP_Receive_Dispatch_Acknowledgement` -/
def dispatchAcknowledgement (root : Root) (frame : Frame) : Status × BodyAction × Root :=
  if root.session.retainedReliableFrameType = .applicationMessage then
    let (status, applicationResult, root) := Application.handleAcknowledgement root frame
    if status = .capacityExhausted then (status, .retain, root)
    else if status ≠ .ok then receiveFault root
    else
      match applicationResult with
      | .accepted => (.ok, .consume, root)
      | .stale => rejectRetainedBody root
      | .incompatible => abandonIncompatibleSession root
  -- Once established, only the exact ACK that completed CONFIRM may be repeated.
  else if root.base.sessionState = .established ∧ root.session.state = .established then
    if Handshake.isDuplicateFinalHostAcknowledgement root frame then (.ok, .consume, root)
    else rejectRetainedBody root
  else dispatchHandshakeFrame root frame

/-- The `APPLICATION_MESSAGE` case of `HIL_TRANSPORT_MVP_Receive_Dispatch_Frame`. -/
def dispatchApplicationFrame (root : Root) (frame : Frame) : Status × BodyAction × Root :=
  let (status, proofResult, root) := Handshake.tryCompleteHostFromApplication root frame
  if status = .capacityExhausted then (status, .retain, root)
  else if status ≠ .ok then receiveFault root
  else if proofResult = .stale then rejectRetainedBody root
  else if proofResult = .incompatible then abandonIncompatibleSession root
  else
    let (status, applicationResult, root) := Application.handleReceivedFrame root frame
    if status = .capacityExhausted then (status, .retain, root)
    else if status ≠ .ok then receiveFault root
    else
      match applicationResult with
      | .accepted | .duplicate => (.ok, .consume, root)
      | .stale => rejectRetainedBody root
      | .incompatible => abandonIncompatibleSession root

/-- `HIL_TRANSPORT_MVP_Receive_Dispatch_Frame` -/
def dispatchFrame (root : Root) (frame : Frame) : Status × BodyAction × Root :=
  if frameIsRecentlyAbandoned root frame then rejectObsoleteBody root
  -- An unbound rig has no session to abandon.
  else if rigIsWaitingUnboundForInitiate root ∧ frame.type ≠ .initiate then
    rejectObsoleteBody root
  else if frameHasIncompatibleSessionIdentifier root frame then abandonIncompatibleSession root
  else
    match frame.type with
    | .initiate | .response | .confirm | .reset => dispatchHandshakeFrame root frame
    | .ack => dispatchAcknowledgement root frame
    | .applicationMessage => dispatchApplicationFrame root frame
    | _ => receiveFault root

/-- `HIL_TRANSPORT_MVP_Receive_Decode_Retained_Body` -/
def decodeRetainedBody (root : Root) : Status × BodyAction × Root :=
  let (status, encodedBody) := root.parser.peekBody
  if status ≠ .ok then receiveFault root
  else
    let (status, frame, decodeResult) :=
      decodeFrameView encodedBody root.codecScratchSize root.base.config.maxApplicationMessageSize
    if status = .messageTooLarge then rejectRetainedBody root
    else if status ≠ .ok then receiveFault root
    else
      match decodeResult with
      | .valid => dispatchFrame root frame
      | .malformed | .integrityInvalid => rejectRetainedBody root
      | .sessionIncompatible =>
          if root.session.sessionIdentifierValid ≠ 0 then abandonIncompatibleSession root
          else rejectRetainedBody root

/-- `HIL_TRANSPORT_MVP_Receive_Process_Retained_Body` -/
def processRetainedBody (root : Root) : Status × Root :=
  let (status, action, root) := decodeRetainedBody root
  match action with
  | .retain => (status, root)
  | .alreadyReleased => (status, root)
  | .consume =>
      let (parserStatus, parser) := root.parser.consumeBody
      if parserStatus ≠ .ok then Session.enterFault root
      else (status, { root with parser := parser })

/-- The loop of `HIL_TRANSPORT_MVP_Receive_Bytes` on the bytes from `bytes_consumed`
    on: the status, the number of bytes it consumes and the root. A pass that goes
    on consumes at least one byte, so the number of bytes is enough `fuel`. -/
def receiveLoop : Nat → Root → List UInt8 → Status × Nat × Root
  | 0, root, _ => (.ok, 0, root)
  | _ + 1, root, [] => (.ok, 0, root)
  | fuel + 1, root, byte :: rest =>
      let data := byte :: rest
      let (parserResult, parser, acceptedSize) := root.parser.pushBytes data
      let root := { root with parser := parser }
      match parserResult with
      | .needMoreData | .discarding =>
          if acceptedSize ≠ data.length then
            let (status, root) := Session.enterFault root
            (status, acceptedSize, root)
          else (.ok, acceptedSize, root)
      | .bodyReady =>
          let (status, root) := processRetainedBody root
          if status ≠ .ok then (status, acceptedSize, root)
          else
            let (status, root) := tryAdvanceRecovery root
            if status ≠ .ok then (status, acceptedSize, root)
            else
              let (status, consumed, root) := receiveLoop fuel root (data.drop acceptedSize)
              (status, acceptedSize + consumed, root)
      | .discardedBody =>
          let root := { root with receiveProtocolErrorPending := 1 }
          let (status, root) := processPendingError root
          if status ≠ .ok then (status, acceptedSize, root)
          else
            let (status, root) := tryAdvanceRecovery root
            if status ≠ .ok then (status, acceptedSize, root)
            else
              let (status, consumed, root) := receiveLoop fuel root (data.drop acceptedSize)
              (status, acceptedSize + consumed, root)
      | .error =>
          let (status, root) := Session.enterFault root
          (status, acceptedSize, root)

/-- `HIL_TRANSPORT_MVP_Receive_Bytes` with at most `fuel` passes of its loop. -/
def receiveBytesWithin (fuel : Nat) (root : Root) (data : List UInt8) : Status × Nat × Root :=
  let (status, root) := validateRoot root
  if status ≠ .ok then (status, 0, root)
  else if root.base.linkState = .disconnected then (.notReady, 0, root)
  else
    let (status, root) := processPendingError root
    if status ≠ .ok then (status, 0, root)
    else
      let (status, root) :=
        if root.parser.bodyReady ≠ 0 then processRetainedBody root else (.ok, root)
      if status ≠ .ok then (status, 0, root)
      else
        let (status, root) := tryAdvanceRecovery root
        if status ≠ .ok then (status, 0, root)
        else receiveLoop fuel root data

/-- `HIL_TRANSPORT_MVP_Receive_Bytes`: the status, `bytes_consumed` and the root. -/
def receiveBytes (root : Root) (data : List UInt8) : Status × Nat × Root :=
  receiveBytesWithin data.length root data

end

end Receive

end HilRigProtocol.Transport
