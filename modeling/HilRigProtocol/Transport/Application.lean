/-
  Application-message delivery (`transport_application_mvp.c`).
-/
import HilRigProtocol.Transport.Handshake

namespace HilRigProtocol.Transport

/-- `HIL_Transport_Mvp_Application_Ack_Result_T` -/
inductive ApplicationAckResult
  | stale
  | accepted
  | incompatible
  deriving DecidableEq, Repr, Inhabited

/-- `HIL_Transport_Mvp_Application_Frame_Result_T` -/
inductive ApplicationFrameResult
  | accepted
  | duplicate
  | stale
  | incompatible
  deriving DecidableEq, Repr, Inhabited

namespace Application

/-- `HIL_TRANSPORT_MVP_Application_Session_Is_Established` -/
def sessionIsEstablished (root : Root) : Bool :=
  root.base.sessionState == .established && root.session.state == .established
    && root.session.handshakePhase == .established
    && root.session.sessionIdentifierValid != 0
    && sessionIdentifierIsValid root.session.sessionIdentifier

/-- `HIL_TRANSPORT_MVP_Application_Received_Message_Metadata_Is_Valid` -/
def receivedMessageMetadataIsValid (root : Root) : Bool :=
  if root.receivedMessagePending > 1
      ∨ root.receivedMessage.length > root.base.config.maxApplicationMessageSize then false
  else if root.receivedMessagePending = 0 then decide (root.receivedMessage.length = 0)
  else decide (root.receivedMessage.length ≠ 0)

/-- `HIL_TRANSPORT_MVP_Application_Publish_Delivery_Event` -/
def publishDeliveryEvent (root : Root) (eventType : EventType) (status : Status)
    (failure : Failure) : Status × Root :=
  Events.publish root
    { type := eventType, status := status, failure := failure, requiredCapacity := 0 }

/-- `HIL_TRANSPORT_MVP_Application_Get_Pending_Status` -/
def getPendingStatus (root : Root) : Status × UInt8 × Root :=
  if ¬ receivedMessageMetadataIsValid root then
    let (status, root) := Session.enterFault root
    (status, 0, root)
  else (.ok, root.receivedMessagePending, root)

section
variable [Target]

/-- `HIL_TRANSPORT_MVP_Application_Has_Required_Storage` -/
def hasRequiredStorage (root : Root) : Bool :=
  root.regions.submittedMessage != 0 && root.regions.encodedOutput != 0
    && root.regions.receivedMessage != 0 && root.regions.codecScratch != 0
    && root.encodedOutputCapacity != 0
    && root.base.config.maxApplicationMessageSize != 0
    && root.base.config.maxEncodedFrameSize == root.encodedOutputCapacity
    && decide (root.base.config.maxApplicationMessageSize ≤ Target.sizeMax - rawOverhead)
    && decide (root.codecScratchSize ≥ root.base.config.maxApplicationMessageSize + rawOverhead)

/-- `HIL_TRANSPORT_MVP_Application_Publish_Acknowledgement` -/
def publishAcknowledgement (root : Root) (sequence : UInt16) : Status × Root :=
  let (status, encodedControl) :=
    encodeFrame (Handshake.controlFrame .ack root.session.sessionIdentifier sequence)
      root.base.config.maxApplicationMessageSize root.codecScratchSize controlOutputCapacity
  if status ≠ .ok then (status, root)
  else
    let (status, root) := ControlOutput.publishEncoded root encodedControl
    if status = .notReady then (.capacityExhausted, root) else (status, root)

/-- The frame of `HIL_TRANSPORT_MVP_Application_Submit`. -/
def applicationFrame (sessionIdentifier : UInt64) (sequence : UInt16) (payload : List UInt8) :
    Frame where
  type := .applicationMessage
  sessionIdentifier := sessionIdentifier
  sequence := sequence
  acknowledgementSequence := 0
  payload := payload

/-- `HIL_TRANSPORT_MVP_Application_Submit` -/
def submit (root : Root) (payload : List UInt8) : Status × Root :=
  if payload.length = 0 then (.invalidArgument, root)
  else if ¬ sessionIsEstablished root then (.notReady, root)
  else if ¬ hasRequiredStorage root then Session.enterFault root
  else if payload.length > root.base.config.maxApplicationMessageSize then
    (.messageTooLarge, root)
  else if root.submittedMessagePending ≠ 0 ∨ root.submittedMessage.length ≠ 0
      ∨ root.session.reliableState ≠ .idle then
    (.capacityExhausted, root)
  else
    let (status, sequence) := root.session.reserveSequence
    if status = .notReady then (.capacityExhausted, root)
    else if status ≠ .ok then Session.enterFault root
    else
      let (status, encoded) :=
        encodeFrame (applicationFrame root.session.sessionIdentifier sequence payload)
          root.base.config.maxApplicationMessageSize root.codecScratchSize
          root.encodedOutputCapacity
      if status ≠ .ok then Session.enterFault root
      else
        let (status, root) :=
          Reliability.publishEncoded root .applicationMessage sequence encoded
        if status = .notReady then (.capacityExhausted, root)
        else if status ≠ .ok then Session.enterFault root
        else
          (.ok, { root with submittedMessage := payload, submittedMessagePending := 1 })

/-- `HIL_TRANSPORT_MVP_Application_Handle_Acknowledgement` -/
def handleAcknowledgement (root : Root) (frame : Frame) :
    Status × ApplicationAckResult × Root :=
  if frame.type ≠ .ack then (.invalidArgument, .stale, root)
  else if ¬ hasRequiredStorage root
      ∨ (root.session.retainedReliableFrameType ≠ .applicationMessage
        ∨ root.submittedMessagePending = 0 ∨ root.submittedMessage.length = 0)
      ∨ ¬ sessionIsEstablished root then
    let (status, root) := Session.enterFault root
    (status, .stale, root)
  else if frame.sessionIdentifier ≠ root.session.sessionIdentifier then
    (.ok, .incompatible, root)
  else
    let (status, acknowledgementResult) :=
      root.session.classifyAcknowledgement frame.acknowledgementSequence
    if status ≠ .ok then
      let (status, root) := Session.enterFault root
      (status, .stale, root)
    else if acknowledgementResult ≠ .matched then
      if root.session.reliableState = .retransmitPeeked
          ∧ frame.acknowledgementSequence = root.session.retainedTransmitSequence then
        (.capacityExhausted, .stale, root)
      else (.ok, .stale, root)
    else
      let (status, root) := Events.checkCapacity root
      if status ≠ .ok then (status, .stale, root)
      else
        let (status, completedType, outcome, root) :=
          Reliability.acceptAcknowledgement root frame.acknowledgementSequence
        if status ≠ .ok ∨ outcome ≠ .acknowledged ∨ completedType ≠ .applicationMessage then
          let (status, root) := Session.enterFault root
          (status, .stale, root)
        else
          let root := { root with submittedMessage := [], submittedMessagePending := 0 }
          let (status, root) := publishDeliveryEvent root .deliveryConfirmed .ok .none
          if status ≠ .ok then
            let (status, root) := Session.enterFault root
            (status, .stale, root)
          else (.ok, .accepted, root)

/-- `HIL_TRANSPORT_MVP_Application_Handle_Received_Frame`. The payload is copied to
    `received_message` before the ACK is encoded; the copy is owned only once the
    size and the flag are set. -/
def handleReceivedFrame (root : Root) (frame : Frame) :
    Status × ApplicationFrameResult × Root :=
  if frame.type ≠ .applicationMessage then (.invalidArgument, .incompatible, root)
  else if ¬ hasRequiredStorage root ∨ ¬ receivedMessageMetadataIsValid root then
    let (status, root) := Session.enterFault root
    (status, .incompatible, root)
  else if ¬ sessionIsEstablished root then (.ok, .incompatible, root)
  else if frame.payload.length = 0
      ∨ frame.payload.length > root.base.config.maxApplicationMessageSize
      ∨ frame.acknowledgementSequence ≠ 0 then
    let (status, root) := Session.enterFault root
    (status, .incompatible, root)
  else if frame.sessionIdentifier ≠ root.session.sessionIdentifier then
    (.ok, .incompatible, root)
  else
    let (status, sequenceResult) := root.session.classifySequence frame.sequence
    if status ≠ .ok then
      let (status, root) := Session.enterFault root
      (status, .incompatible, root)
    else if sequenceResult = .duplicate then
      if root.session.lastAcceptedReceiveFrameType ≠ .applicationMessage
          ∨ root.session.lastAcceptedReceiveAcknowledgementSequence ≠ 0 then
        (.ok, .incompatible, root)
      else
        let (status, root) := publishAcknowledgement root frame.sequence
        if status ≠ .ok then (status, .incompatible, root) else (.ok, .duplicate, root)
    else if sequenceResult ≠ .expected then (.ok, .incompatible, root)
    else if root.receivedMessagePending ≠ 0 then (.capacityExhausted, .incompatible, root)
    else
      let (status, root) := publishAcknowledgement root frame.sequence
      if status ≠ .ok then (status, .incompatible, root)
      else
        let (status, session) := root.session.acceptSequence frame.sequence
        if status ≠ .ok then
          let (status, root) := Session.enterFault root
          (status, .incompatible, root)
        else
          (.ok, .accepted,
            { root with
              session :=
                { session with
                  lastAcceptedReceiveFrameType := .applicationMessage
                  lastAcceptedReceiveAcknowledgementSequence := 0 }
              receivedMessage := frame.payload
              receivedMessagePending := 1 })

/-- `HIL_TRANSPORT_MVP_Application_Read`: the status, `message_size`, the bytes copied
    and the root. -/
def read (root : Root) (outBuffer : Option Nat) : Status × Nat × List UInt8 × Root :=
  if ¬ hasRequiredStorage root ∨ ¬ receivedMessageMetadataIsValid root then
    let (status, root) := Session.enterFault root
    (status, 0, [], root)
  else if root.receivedMessagePending = 0 then (.notReady, 0, [], root)
  else if ¬ sessionIsEstablished root then
    let (status, root) := Session.enterFault root
    (status, 0, [], root)
  else
    let messageSize := root.receivedMessage.length
    match outBuffer with
    | none => (.bufferTooSmall, messageSize, [], root)
    | some outBufferSize =>
        if outBufferSize < messageSize then (.bufferTooSmall, messageSize, [], root)
        else
          (.ok, messageSize, root.receivedMessage,
            { root with receivedMessage := [], receivedMessagePending := 0 })

/-- `HIL_TRANSPORT_MVP_Application_Handle_Retry_Exhaustion` -/
def handleRetryExhaustion (root : Root) : Status × Root :=
  if ¬ hasRequiredStorage root
      ∨ (root.session.reliableState ≠ .exhausted
        ∨ root.session.retainedReliableFrameType ≠ .applicationMessage
        ∨ root.submittedMessagePending = 0 ∨ root.submittedMessage.length = 0) then
    Session.enterFault root
  else
    let (status, root) := publishDeliveryEvent root .deliveryFailed .deliveryFailed .delivery
    if status = .capacityExhausted then (status, root)
    else if status ≠ .ok then Session.enterFault root
    else
      let (status, root) := Handshake.beginLocalRecovery root .delivery
      if status = .internalError then (status, root)
      else if status ≠ .ok ∧ status ≠ .capacityExhausted then Session.enterFault root
      else (.deliveryFailed, root)

end

end Application

end HilRigProtocol.Transport
