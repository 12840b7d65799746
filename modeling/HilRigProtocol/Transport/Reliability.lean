/-
  The one-item reliable output (`transport_reliability_mvp.c`).
-/
import HilRigProtocol.Transport.Events
import HilRigProtocol.Transport.SessionSequence

namespace HilRigProtocol.Transport

/-- `HIL_Transport_Mvp_Reliability_Outcome_T` -/
inductive ReliabilityOutcome
  | noChange
  | retransmitReady
  | acknowledged
  | retriesExhausted
  deriving DecidableEq, Repr, Inhabited

namespace Reliability

/-- `HIL_TRANSPORT_MVP_Reliability_Is_Reliable_Type` -/
def isReliableType (frameType : FrameType) : Bool :=
  frameType == .initiate || frameType == .response || frameType == .confirm
    || frameType == .applicationMessage

/-- `HIL_TRANSPORT_MVP_Reliability_Has_Storage` -/
def hasStorage (root : Root) : Bool :=
  root.regions.encodedOutput != 0 && root.encodedOutputCapacity != 0
    && root.encodedOutputCapacity == root.base.config.maxEncodedFrameSize

/-- `HIL_TRANSPORT_MVP_Reliability_Clear_Metadata` -/
def clearMetadata (root : Root) : Root :=
  { root with
    session.reliableState := .idle
    session.retainedReliableFrameType := .invalid
    session.retainedTransmitSequence := 0
    session.retransmissionsCommitted := 0
    session.reliableLastCommittedMs := 0
    encodedOutput := [] }

/-- The checks of `HIL_TRANSPORT_MVP_Reliability_Validate_State`. -/
def stateIsValid (root : Root) : Bool :=
  let session := root.session
  let state := session.reliableState
  let maxRetries := root.base.config.maxRetries
  if ¬ state.isListed ∨ session.retransmissionsCommitted > maxRetries then false
  else if state = .idle then
    decide (root.encodedOutput.length = 0 ∧ session.retainedReliableFrameType = .invalid
      ∧ session.retainedTransmitSequence = 0 ∧ session.retransmissionsCommitted = 0
      ∧ session.reliableLastCommittedMs = 0)
  else if root.encodedOutput.length = 0 ∨ root.encodedOutput.length > root.encodedOutputCapacity
      ∨ ¬ isReliableType session.retainedReliableFrameType
      ∨ session.retainedTransmitSequence ≠ session.nextTransmitSequence then false
  else if (state = .ready ∨ state = .peeked)
      ∧ (session.retransmissionsCommitted ≠ 0 ∨ session.reliableLastCommittedMs ≠ 0) then false
  else if (state = .retransmitReady ∨ state = .retransmitPeeked)
      ∧ session.retransmissionsCommitted ≥ maxRetries then false
  else if state = .exhausted ∧ session.retransmissionsCommitted ≠ maxRetries then false
  else true

/-- `HIL_TRANSPORT_MVP_Reliability_Validate_State` -/
def validateState (root : Root) : Status × Root :=
  if ¬ stateIsValid root then recordInvariantFailure root else (.ok, root)

/-- `HIL_TRANSPORT_MVP_Reliability_Publish_Encoded`; `encoded` is what the caller
    left in `encoded_output`. -/
def publishEncoded (root : Root) (frameType : FrameType) (sequence : UInt16)
    (encoded : List UInt8) : Status × Root :=
  if ¬ hasStorage root then (.invalidArgument, root)
  else
    let (status, root) := validateState root
    if status ≠ .ok then (status, root)
    else if root.session.reliableState ≠ .idle then (.notReady, root)
    else if encoded.length = 0 ∨ encoded.length > root.encodedOutputCapacity
        ∨ ¬ isReliableType frameType ∨ sequence ≠ root.session.nextTransmitSequence then
      (.invalidArgument, root)
    else
      (.ok,
        { root with
          session.retainedReliableFrameType := frameType
          session.retainedTransmitSequence := sequence
          session.retransmissionsCommitted := 0
          session.reliableLastCommittedMs := 0
          encodedOutput := encoded
          session.reliableState := .ready })

/-- `HIL_TRANSPORT_MVP_Reliability_Peek_Output`: the status, `output_size`, the
    bytes copied and the root. `outBuffer` is the capacity of the caller's buffer,
    or `none` for NULL. -/
def peekOutput (root : Root) (outBuffer : Option Nat) : Status × Nat × List UInt8 × Root :=
  if ¬ hasStorage root then (.invalidArgument, 0, [], root)
  else
    let (status, root) := validateState root
    if status ≠ .ok then (status, 0, [], root)
    else if root.session.reliableState = .idle ∨ root.session.reliableState = .awaitingAck
        ∨ root.session.reliableState = .exhausted then
      (.notReady, 0, [], root)
    else
      let outputSize := root.encodedOutput.length
      match outBuffer with
      | none => (.bufferTooSmall, outputSize, [], root)
      | some outBufferSize =>
          if outBufferSize < outputSize then (.bufferTooSmall, outputSize, [], root)
          else
            let reliableState :=
              if root.session.reliableState = .ready then .peeked
              else if root.session.reliableState = .retransmitReady then .retransmitPeeked
              else root.session.reliableState
            (.ok, outputSize, root.encodedOutput,
              { root with session.reliableState := reliableState })

/-- `HIL_TRANSPORT_MVP_Reliability_Commit_Output` -/
def commitOutput (root : Root) (nowMs : UInt32) : Status × Root :=
  if ¬ hasStorage root then (.invalidArgument, root)
  else
    let (status, root) := validateState root
    if status ≠ .ok then (status, root)
    else if root.session.reliableState ≠ .peeked
        ∧ root.session.reliableState ≠ .retransmitPeeked then
      (.notReady, root)
    else
      let retransmissionsCommitted :=
        if root.session.reliableState = .retransmitPeeked then
          root.session.retransmissionsCommitted + 1
        else root.session.retransmissionsCommitted
      (.ok,
        { root with
          session.retransmissionsCommitted := retransmissionsCommitted
          session.reliableLastCommittedMs := nowMs
          session.reliableState := .awaitingAck })

/-- `HIL_TRANSPORT_MVP_Reliability_Accept_Acknowledgement`: the status, the
    completed frame type, the outcome and the root. -/
def acceptAcknowledgement (root : Root) (acknowledgementSequence : UInt16) :
    Status × FrameType × ReliabilityOutcome × Root :=
  if ¬ hasStorage root then (.invalidArgument, .invalid, .noChange, root)
  else
    let (status, root) := validateState root
    if status ≠ .ok then (status, .invalid, .noChange, root)
    else
      let (status, classification) :=
        root.session.classifyAcknowledgement acknowledgementSequence
      if status ≠ .ok then
        let (status, root) := recordInvariantFailure root
        (status, .invalid, .noChange, root)
      else if classification ≠ .matched then (.ok, .invalid, .noChange, root)
      else
        let completedFrameType := root.session.retainedReliableFrameType
        let nextTransmitSequence := root.session.retainedTransmitSequence + 1
        (.ok, completedFrameType, .acknowledged,
          clearMetadata { root with session.nextTransmitSequence := nextTransmitSequence })

/-- The common tail of `Process_Pending` and `Request_Retransmission`: one more
    retry when the allowance has one, else exhaustion. -/
def allowRetryOrExhaust (root : Root) : Status × ReliabilityOutcome × Root :=
  if root.session.retransmissionsCommitted < root.base.config.maxRetries then
    (.ok, .retransmitReady, { root with session.reliableState := .retransmitReady })
  else (.ok, .retriesExhausted, { root with session.reliableState := .exhausted })

/-- `HIL_TRANSPORT_MVP_Reliability_Process_Pending` -/
def processPending (root : Root) (nowMs : UInt32) : Status × ReliabilityOutcome × Root :=
  if ¬ hasStorage root then (.invalidArgument, .noChange, root)
  else
    let (status, root) := validateState root
    if status ≠ .ok then (status, .noChange, root)
    else if root.session.reliableState ≠ .awaitingAck
        ∨ root.base.config.retransmitTimeoutMs = 0 then
      (.ok, .noChange, root)
    else if nowMs - root.session.reliableLastCommittedMs
        < root.base.config.retransmitTimeoutMs then
      (.ok, .noChange, root)
    else allowRetryOrExhaust root

/-- `HIL_TRANSPORT_MVP_Reliability_Request_Retransmission` -/
def requestRetransmission (root : Root) (expectedFrameType : FrameType) :
    Status × ReliabilityOutcome × Root :=
  if ¬ hasStorage root ∨ ¬ isReliableType expectedFrameType then
    (.invalidArgument, .noChange, root)
  else
    let (status, root) := validateState root
    if status ≠ .ok then (status, .noChange, root)
    else if root.session.reliableState = .idle then (.ok, .noChange, root)
    else if root.session.retainedReliableFrameType ≠ expectedFrameType then
      let (status, root) := recordInvariantFailure root
      (status, .noChange, root)
    else if root.session.reliableState ≠ .awaitingAck then (.ok, .noChange, root)
    else allowRetryOrExhaust root

/-- `HIL_TRANSPORT_MVP_Reliability_Reset` -/
def reset (root : Root) : Status × Root :=
  if ¬ hasStorage root then (.invalidArgument, root) else (.ok, clearMetadata root)

/-- `HIL_TRANSPORT_MVP_Reliability_Get_Pending_Status`: the status, `output_pending`
    and `delivery_pending`. -/
def getPendingStatus (root : Root) : Status × Bool × Bool × Root :=
  if ¬ hasStorage root then (.invalidArgument, false, false, root)
  else
    let (status, root) := validateState root
    if status ≠ .ok then (status, false, false, root)
    else
      let state := root.session.reliableState
      (.ok,
        decide (state = .ready ∨ state = .peeked ∨ state = .retransmitReady
          ∨ state = .retransmitPeeked),
        decide (state ≠ .idle), root)

end Reliability

end HilRigProtocol.Transport
