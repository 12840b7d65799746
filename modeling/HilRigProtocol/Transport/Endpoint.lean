/-
  The abstract endpoint: what one side of a session can be, without the mirrors,
  flags and counters that the root keeps of it.

  An `Activity` names the part of the session the endpoint is in and carries only
  what that part has: a rig that waits for INITIATE has no identity, a retained
  CONFIRM exists in one phase, an acknowledgement is always for the last frame
  accepted. `Endpoint.toRoot` spells an endpoint out as the root of the code; the
  mirrored and the derived fields are computed there. That every reachable root is
  of this form is proved in `Refinement`.
-/
import HilRigProtocol.Transport.FrameRoundTrip
import HilRigProtocol.Transport.Profile

namespace HilRigProtocol.Transport

/-- What `Init` fixes for good. The bounds are what it checks. -/
structure Setup [Target] where
  role : Role
  config : Config
  /-- The sequence of INITIATE or RESPONSE, as the session keeps it. -/
  firstSequence : UInt16
  regions : Regions
  role_cases : role = .host ∨ role = .rig
  submittedMessage_ne : regions.submittedMessage ≠ 0
  encodedOutput_ne : regions.encodedOutput ≠ 0
  codecScratch_ne : regions.codecScratch ≠ 0
  receivedMessage_ne : regions.receivedMessage ≠ 0
  message_pos : 0 < config.maxApplicationMessageSize
  rawSize_le : config.maxApplicationMessageSize + rawOverhead ≤ Target.sizeMax
  frameSize_ge : config.maxApplicationMessageSize + rawOverhead
    + (config.maxApplicationMessageSize + rawOverhead + 253) / 254 + 1
      ≤ config.maxEncodedFrameSize
  frameSize_le : config.maxEncodedFrameSize ≤ Target.sizeMax

/-! ## The reliable item -/

/-- Where the retained reliable item stands. -/
inductive Stage
  | ready
  | peeked
  | awaitingAck (retries : UInt8) (committedMs : UInt32)
  | retransmitReady (retries : UInt8) (committedMs : UInt32)
  | retransmitPeeked (retries : UInt8) (committedMs : UInt32)
  | exhausted (retries : UInt8) (committedMs : UInt32)
  deriving DecidableEq, Repr

namespace Stage

def state : Stage → ReliableState
  | ready => .ready
  | peeked => .peeked
  | awaitingAck _ _ => .awaitingAck
  | retransmitReady _ _ => .retransmitReady
  | retransmitPeeked _ _ => .retransmitPeeked
  | exhausted _ _ => .exhausted

def retries : Stage → UInt8
  | ready | peeked => 0
  | awaitingAck retries _ | retransmitReady retries _ | retransmitPeeked retries _
  | exhausted retries _ => retries

def committedMs : Stage → UInt32
  | ready | peeked => 0
  | awaitingAck _ ms | retransmitReady _ ms | retransmitPeeked _ ms | exhausted _ ms => ms

/-- The caller has been shown the bytes and has not committed them. -/
def pinned : Stage → Bool
  | peeked | retransmitPeeked _ _ => true
  | _ => false

/-- There are bytes for the caller. -/
def outputPending : Stage → Bool
  | ready | peeked | retransmitReady _ _ | retransmitPeeked _ _ => true
  | _ => false

/-- An acknowledgement can complete the item. -/
def acceptsAck : Stage → Bool
  | awaitingAck _ _ | retransmitReady _ _ => true
  | _ => false

/-- The retry counter is within the allowance. -/
def Wf (maxRetries : UInt8) : Stage → Prop
  | ready | peeked => True
  | awaitingAck retries _ => retries ≤ maxRetries
  | retransmitReady retries _ | retransmitPeeked retries _ => retries < maxRetries
  | exhausted retries _ => retries = maxRetries

end Stage

/-- The retained reliable frame and where it stands. -/
structure Item where
  frame : Frame
  stage : Stage

/-- The frame in the control slot; `pinned` when the caller has been shown it. -/
structure ControlItem where
  frame : Frame
  pinned : Bool

/-- The last frame accepted from the peer in this session. -/
structure Accepted where
  sequence : UInt16
  type : FrameType
  acknowledgementSequence : UInt16

/-! ## The activity -/

/-- A recovery RESET that has not been committed. -/
structure RecoveryReset where
  identifier : UInt64
  pinned : Bool
  deriving DecidableEq, Repr

/-- What an established session holds. An acknowledgement in the control slot is for
    `lastReceived`. -/
structure Exchange where
  lastReceived : UInt16
  /-- The last accepted frame was an application message, not the handshake's. -/
  messageReceived : Bool
  nextTransmit : UInt16
  outgoing : Option (List UInt8 × Stage)
  acknowledgement : Option Bool
  unread : Option (List UInt8)
  deriving DecidableEq, Repr

/-- What an endpoint is doing. `received` is the sequence of the last frame accepted
    in the session. -/
inductive Activity
  | disconnected (observed : Bool)
  | recovering (reset : Option RecoveryReset)
  | waitingForInitiate
  | initiatePending (identifier : UInt64)
  | waitingForResponse (identifier : UInt64) (stage : Stage)
  | responsePending (identifier : UInt64) (received : UInt16)
  | waitingForConfirm (identifier : UInt64) (received : UInt16) (stage : Stage)
  | confirmPending (identifier : UInt64) (received : UInt16)
  | waitingForConfirmAck (identifier : UInt64) (received : UInt16) (stage : Stage)
  | established (identifier : UInt64) (exchange : Exchange)
  deriving DecidableEq, Repr

namespace Activity

def linkState : Activity → LinkState
  | disconnected _ => .disconnected
  | _ => .connected

def observed : Activity → Bool
  | disconnected observed => observed
  | _ => true

def sessionState : Activity → SessionState
  | disconnected _ => .disconnected
  | recovering _ => .recovering
  | established _ _ => .established
  | _ => .connecting

def phase : Activity → HandshakePhase
  | disconnected _ | recovering _ => .inactive
  | waitingForInitiate => .waitingForInitiate
  | initiatePending _ => .initiatePending
  | waitingForResponse _ _ => .waitingForResponse
  | responsePending _ _ => .responsePending
  | waitingForConfirm _ _ _ => .waitingForConfirm
  | confirmPending _ _ => .confirmPending
  | waitingForConfirmAck _ _ _ => .waitingForConfirmAck
  | established _ _ => .established

def identifier : Activity → Option UInt64
  | disconnected _ | recovering _ | waitingForInitiate => none
  | initiatePending id | waitingForResponse id _ | responsePending id _
  | waitingForConfirm id _ _ | confirmPending id _ | waitingForConfirmAck id _ _
  | established id _ => some id

def recoveryReset : Activity → Option RecoveryReset
  | recovering reset => reset
  | _ => none

def unread : Activity → Option (List UInt8)
  | established _ x => x.unread
  | _ => none

def submitted : Activity → Option (List UInt8)
  | established _ x => x.outgoing.map Prod.fst
  | _ => none

/-- The control item of an activity. -/
def controlItem : Activity → Option ControlItem
  | .recovering reset =>
      reset.map fun reset => ⟨Handshake.controlFrame .reset reset.identifier 0, reset.pinned⟩
  | .established id x =>
      x.acknowledgement.map fun pinned => ⟨Handshake.controlFrame .ack id x.lastReceived, pinned⟩
  | _ => none

end Activity

/-! ## The frames that an endpoint holds -/

section
variable [Target]

namespace Setup

variable (s : Setup)

def initiateFrame (id : UInt64) : Frame where
  type := .initiate
  sessionIdentifier := id
  sequence := s.firstSequence
  acknowledgementSequence := 0
  payload := []

def responseFrame (id : UInt64) (received : UInt16) : Frame where
  type := .response
  sessionIdentifier := id
  sequence := s.firstSequence
  acknowledgementSequence := received
  payload := []

def confirmFrame (id : UInt64) (received : UInt16) : Frame where
  type := .confirm
  sessionIdentifier := id
  sequence := s.firstSequence + 1
  acknowledgementSequence := received
  payload := []

/-- The frame of the peer that completed the handshake, as its receiver records it. -/
def finalFrameType : FrameType := if s.role = .host then .response else .confirm

/-- The reliable item of an activity. -/
def item : Activity → Option Item
  | .waitingForResponse id stage => some ⟨s.initiateFrame id, stage⟩
  | .waitingForConfirm id received stage => some ⟨s.responseFrame id received, stage⟩
  | .waitingForConfirmAck id received stage => some ⟨s.confirmFrame id received, stage⟩
  | .established id x =>
      x.outgoing.map fun outgoing =>
        ⟨Application.applicationFrame id x.nextTransmit outgoing.1, outgoing.2⟩
  | _ => none

/-- The last frame accepted in the session of an activity. -/
def accepted : Activity → Option Accepted
  | .responsePending _ received | .waitingForConfirm _ received _ => some ⟨received, .initiate, 0⟩
  | .confirmPending _ received | .waitingForConfirmAck _ received _ =>
      some ⟨received, .response, s.firstSequence⟩
  | .established _ x =>
      if x.messageReceived then some ⟨x.lastReceived, .applicationMessage, 0⟩
      else some ⟨x.lastReceived, s.finalFrameType, s.firstSequence⟩
  | _ => none

def nextTransmit : Activity → UInt16
  | .confirmPending _ _ | .waitingForConfirmAck _ _ _ => s.firstSequence + 1
  | .established _ x => x.nextTransmit
  | _ => s.firstSequence

/-- The sequence of the CONFIRM that an established host sent. -/
def completedConfirm : Activity → Option UInt16
  | .established _ _ => if s.role = .host then some (s.firstSequence + 1) else none
  | _ => none

end Setup

end

/-! ## Input and events -/

/-- What the parser holds. -/
inductive Intake
  | filling (bytes : List UInt8)
  | ready (body : List UInt8)
  | discarding
  deriving DecidableEq, Repr

/-- A complete body waits to be resolved. -/
def Intake.isReady : Intake → Bool
  | ready _ => true
  | _ => false

def Intake.accumulated : Intake → List UInt8
  | filling bytes | ready bytes => bytes
  | discarding => []

def Intake.toParser (capacity : Nat) (intake : Intake) : Parser where
  scratchBufferSize := capacity
  accumulated := intake.accumulated
  bodyReady := match intake with | ready _ => 1 | _ => 0
  discarding := match intake with | discarding => 1 | _ => 0

/-- The event FIFO; entries outside the window of `count` are stale. -/
structure EventRing where
  queue : Fin 4 → Event
  readIndex : Nat
  count : Nat

namespace EventRing

def slot (ring : EventRing) (offset : Nat) : Fin 4 := Fin.ofNat 4 (ring.readIndex + offset)

def full (ring : EventRing) : Bool := ring.count == eventQueueCapacity

def push (ring : EventRing) (event : Event) : EventRing where
  queue := Function.update ring.queue (ring.slot ring.count) event
  readIndex := ring.readIndex
  count := ring.count + 1

/-- The ring after its first entry is read. -/
def pop (ring : EventRing) : EventRing where
  queue := ring.queue
  readIndex := if ring.count = 1 then 0 else (ring.readIndex + 1) % eventQueueCapacity
  count := ring.count - 1

def clear (ring : EventRing) : EventRing where
  queue := ring.queue
  readIndex := 0
  count := 0

/-- The unread events, oldest first. -/
def contents (ring : EventRing) : List Event :=
  (List.range ring.count).map fun offset => ring.queue (ring.slot offset)

structure Wf (ring : EventRing) : Prop where
  readIndex_lt : ring.readIndex < eventQueueCapacity
  count_le : ring.count ≤ eventQueueCapacity
  valid : ∀ offset < ring.count, Events.valueIsValid (ring.queue (ring.slot offset)) = true

end EventRing

/-! ## The endpoint -/

/-- One side of a session. `abandoned` is the identity of the session abandoned last. -/
structure Endpoint where
  activity : Activity
  cursor : UInt64
  operatingMode : OperatingMode
  operatingModeValid : Bool
  lastFailure : Failure
  abandoned : Option UInt64
  diagnosticPending : Bool
  intake : Intake
  events : EventRing

/-! ## Well-formed endpoints -/

section
variable [Target]

/-- A payload that fits the configured message buffers. -/
def Setup.PayloadWf (s : Setup) (payload : List UInt8) : Prop :=
  payload ≠ [] ∧ payload.length ≤ s.config.maxApplicationMessageSize

structure Exchange.Wf (s : Setup) (x : Exchange) : Prop where
  outgoing : ∀ payload stage, x.outgoing = some (payload, stage) →
    s.PayloadWf payload ∧ stage.Wf s.config.maxRetries
  unread : ∀ payload, x.unread = some payload → s.PayloadWf payload
  /-- At most one of the two outputs is pinned. -/
  one_pin : ∀ payload stage, x.outgoing = some (payload, stage) → stage.pinned = true →
    x.acknowledgement ≠ some true

/-- The role fits, identities are usable, counters and sizes are within bounds. -/
def Activity.Wf (s : Setup) : Activity → Prop
  | .disconnected _ => True
  | .recovering reset =>
      ∀ r, reset = some r → sessionIdentifierIsValid r.identifier = true
  | .waitingForInitiate => s.role = .rig
  | .initiatePending id => s.role = .host ∧ sessionIdentifierIsValid id = true
  | .waitingForResponse id stage =>
      s.role = .host ∧ sessionIdentifierIsValid id = true ∧ stage.Wf s.config.maxRetries
  | .responsePending id _ => s.role = .rig ∧ sessionIdentifierIsValid id = true
  | .waitingForConfirm id _ stage =>
      s.role = .rig ∧ sessionIdentifierIsValid id = true ∧ stage.Wf s.config.maxRetries
  | .confirmPending id _ => s.role = .host ∧ sessionIdentifierIsValid id = true
  | .waitingForConfirmAck id _ stage =>
      s.role = .host ∧ sessionIdentifierIsValid id = true ∧ stage.Wf s.config.maxRetries
  | .established id x => sessionIdentifierIsValid id = true ∧ x.Wf s

def Intake.Wf (capacity : Nat) : Intake → Prop
  | .filling bytes => bytes.length ≤ capacity
  | .ready body => body ≠ [] ∧ body.length ≤ capacity
  | .discarding => True

structure Endpoint.Wf (s : Setup) (e : Endpoint) : Prop where
  activity : e.activity.Wf s
  cursor_host : s.role = .host → sessionIdentifierIsValid e.cursor = true
  cursor_rig : s.role = .rig → e.cursor = sessionSeedInvalid
  operatingMode : e.operatingMode.isListed = true
  lastFailure : e.lastFailure.isListed = true
  abandoned : ∀ id, e.abandoned = some id → sessionIdentifierIsValid id = true
  intake : e.intake.Wf (s.config.maxEncodedFrameSize - 1)
  /-- A deferred diagnostic stops all input. -/
  diagnostic : e.diagnosticPending = true → e.intake = .filling []
  disconnected : e.activity.linkState = .disconnected →
    e.intake = .filling [] ∧ e.diagnosticPending = false
  events : e.events.Wf

end

namespace Endpoint

section
variable [Target]

/-- The session record of an endpoint. -/
def toSession (s : Setup) (e : Endpoint) : Session where
  role := s.role
  linkState := e.activity.linkState
  linkStateObserved := if e.activity.observed then 1 else 0
  state := e.activity.sessionState
  handshakePhase := e.activity.phase
  sessionIdentifier := e.activity.identifier.getD sessionSeedInvalid
  sessionIdentifierValid := if e.activity.identifier.isSome then 1 else 0
  completedConfirmSequence := (s.completedConfirm e.activity).getD 0
  completedConfirmSequenceValid := if (s.completedConfirm e.activity).isSome then 1 else 0
  nextHostSessionIdentifier := e.cursor
  initialReliableSequence := s.firstSequence
  nextTransmitSequence := s.nextTransmit e.activity
  expectedReceiveSequence :=
    (s.accepted e.activity).elim s.firstSequence fun accepted => accepted.sequence + 1
  retainedTransmitSequence := (s.item e.activity).elim 0 fun item => item.frame.sequence
  retainedReliableFrameType := (s.item e.activity).elim .invalid fun item => item.frame.type
  lastAcceptedReceiveSequence := (s.accepted e.activity).elim 0 Accepted.sequence
  acceptedReceiveSequenceValid := if (s.accepted e.activity).isSome then 1 else 0
  lastAcceptedReceiveFrameType := (s.accepted e.activity).elim .invalid Accepted.type
  lastAcceptedReceiveAcknowledgementSequence :=
    (s.accepted e.activity).elim 0 Accepted.acknowledgementSequence
  reliableState := (s.item e.activity).elim .idle fun item => item.stage.state
  retransmissionsCommitted := (s.item e.activity).elim 0 fun item => item.stage.retries
  reliableLastCommittedMs := (s.item e.activity).elim 0 fun item => item.stage.committedMs
  lastValidReceiveMs := 0
  lastFailure := e.lastFailure

/-- The root of an endpoint. -/
def toRoot (s : Setup) (e : Endpoint) : Root where
  base :=
    { config := s.config
      role := s.role
      linkState := e.activity.linkState
      sessionState := e.activity.sessionState
      operatingMode := e.operatingMode
      operatingModeValid := if e.operatingModeValid then 1 else 0
      lastFailure := e.lastFailure }
  session := e.toSession s
  parser := e.intake.toParser (s.config.maxEncodedFrameSize - 1)
  regions := s.regions
  submittedMessage := e.activity.submitted.getD []
  submittedMessagePending := if e.activity.submitted.isSome then 1 else 0
  encodedOutput := (s.item e.activity).elim [] fun item => encodedFrame item.frame
  encodedOutputCapacity := s.config.maxEncodedFrameSize
  outputSelection :=
    if (s.item e.activity).elim false fun item => item.stage.pinned then .reliable
    else if (e.activity.controlItem).elim false ControlItem.pinned then .control
    else .none
  controlOutput := (e.activity.controlItem).elim [] fun item => encodedFrame item.frame
  controlOutputState :=
    (e.activity.controlItem).elim .idle fun item => if item.pinned then .peeked else .ready
  recoveryResetPending := if e.activity.recoveryReset.isSome then 1 else 0
  recoveryResetSessionIdentifier :=
    e.activity.recoveryReset.elim sessionSeedInvalid RecoveryReset.identifier
  recentlyAbandonedSessionIdentifier := e.abandoned.getD sessionSeedInvalid
  recentlyAbandonedSessionIdentifierValid := if e.abandoned.isSome then 1 else 0
  codecScratchSize := s.config.maxApplicationMessageSize + rawOverhead
  receivedMessage := e.activity.unread.getD []
  receivedMessagePending := if e.activity.unread.isSome then 1 else 0
  receiveProtocolErrorPending := if e.diagnosticPending then 1 else 0
  eventQueue := e.events.queue
  eventReadIndex := e.events.readIndex
  eventCount := e.events.count

end

end Endpoint

end HilRigProtocol.Transport
