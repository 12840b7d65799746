/-
  Public and private data types of the Transport MVP profile
  (`transport_types.h`, `transport_types_mvp.h`, `transport_internal.h`,
  `transport_parser.h`).

  A C enumeration is an inductive type with one more constructor, `unlisted`,
  for a value that no enumerator names: the profile checks its own fields for
  such values before it uses them. Fixed-width integers are `UInt8` … `UInt64`.
  `size_t` is `Nat`; the functions that compare with `SIZE_MAX` read it from
  `Target`.

  A buffer together with its valid byte count (`encoded_output` and
  `encoded_output_size`, …) is the list of its valid bytes, and the count is the
  length of that list. Bytes past the count are never read by any operation. The
  decode scratch keeps nothing between calls and has no field here, only its
  size.
-/
import Mathlib.Algebra.GroupWithZero.Nat
import Mathlib.Data.List.Basic
import Mathlib.Data.Nat.Notation

namespace HilRigProtocol.Transport

/-- What the compilation target fixes: `SIZE_MAX`, `UINTPTR_MAX`, and the object
    sizes and the alignment that `Init` uses. -/
class Target where
  sizeMax : Nat
  uintptrMax : Nat
  sizeofRoot : Nat
  sizeofContext : Nat
  sizeofConfig : Nat
  sizeofStorage : Nat
  workspaceAlignment : Nat

/-- A target with 64-bit pointers, for runs on fixed inputs. -/
@[reducible] def Target.lp64 : Target where
  sizeMax := 0xFFFFFFFFFFFFFFFF
  uintptrMax := 0xFFFFFFFFFFFFFFFF
  sizeofRoot := 600
  sizeofContext := 24
  sizeofConfig := 40
  sizeofStorage := 16
  workspaceAlignment := 16

/-! ## Public types -/

/-- `HIL_Transport_Status_T` -/
inductive Status
  | ok
  | invalidArgument
  | bufferTooSmall
  | unsupportedConfiguration
  | messageTooLarge
  | capacityExhausted
  | deliveryFailed
  | timeout
  | notReady
  | notImplemented
  | internalError
  | unlisted (raw : UInt32)
  deriving DecidableEq, Repr, Inhabited

/-- `HIL_Transport_Role_T` -/
inductive Role
  | host
  | rig
  | unlisted (raw : UInt32)
  deriving DecidableEq, Repr, Inhabited

/-- `HIL_Transport_Link_State_T` -/
inductive LinkState
  | disconnected
  | connected
  | unlisted (raw : UInt32)
  deriving DecidableEq, Repr, Inhabited

/-- `HIL_Transport_Operating_Mode_T` -/
inductive OperatingMode
  | normal
  | bulkTransfer
  | quietRealTime
  | unlisted (raw : UInt32)
  deriving DecidableEq, Repr, Inhabited

/-- `HIL_Transport_Session_State_T` -/
inductive SessionState
  | disconnected
  | connecting
  | established
  | recovering
  | fault
  | unlisted (raw : UInt32)
  deriving DecidableEq, Repr, Inhabited

/-- `HIL_Transport_Failure_T` -/
inductive Failure
  | none
  | linkLost
  | connectionTimeout
  | delivery
  | protocol
  | capacity
  | localReset
  | internal
  | unlisted (raw : UInt32)
  deriving DecidableEq, Repr, Inhabited

/-- `HIL_Transport_Event_Type_T` -/
inductive EventType
  | none
  | sessionEstablished
  | sessionReset
  | deliveryConfirmed
  | deliveryFailed
  | protocolError
  | capacityExhausted
  | linkStateChanged
  | unlisted (raw : UInt32)
  deriving DecidableEq, Repr, Inhabited

/-! The range checks `first enumerator <= x <= last enumerator`. -/

def Status.isListed : Status → Bool
  | .unlisted _ => false
  | _ => true

def Role.isListed : Role → Bool
  | .unlisted _ => false
  | _ => true

def LinkState.isListed : LinkState → Bool
  | .unlisted _ => false
  | _ => true

def OperatingMode.isListed : OperatingMode → Bool
  | .unlisted _ => false
  | _ => true

def SessionState.isListed : SessionState → Bool
  | .unlisted _ => false
  | _ => true

def Failure.isListed : Failure → Bool
  | .unlisted _ => false
  | _ => true

def EventType.isListed : EventType → Bool
  | .unlisted _ => false
  | _ => true

/-- `HIL_Transport_Event_T` -/
structure Event where
  type : EventType
  status : Status
  failure : Failure
  requiredCapacity : Nat
  deriving DecidableEq, Repr, Inhabited

/-- `HIL_Transport_Config_T` -/
structure Config where
  maxApplicationMessageSize : Nat
  maxEncodedFrameSize : Nat
  sessionSeed : UInt64
  initialReliableSequence : UInt16
  connectionTimeoutMs : UInt32
  retransmitTimeoutMs : UInt32
  maxRetries : UInt8
  deriving DecidableEq, Repr, Inhabited

/-- `HIL_Transport_Status_Snapshot_T` -/
structure StatusSnapshot where
  role : Role
  linkState : LinkState
  sessionState : SessionState
  operatingMode : OperatingMode
  operatingModeValid : UInt8
  outputPending : Bool
  applicationMessagePending : UInt8
  eventPending : Bool
  reliableDeliveryPending : Bool
  lastFailure : Failure
  deriving DecidableEq, Repr, Inhabited

/-- `HIL_TRANSPORT_SESSION_SEED_INVALID` -/
def sessionSeedInvalid : UInt64 := 0

/-- `HIL_TRANSPORT_SESSION_SEED_RESERVED` -/
def sessionSeedReserved : UInt64 := 0xFFFFFFFFFFFFFFFF

/-- `…_Session_Identifier_Is_Valid`: neither of the two reserved identities. -/
def sessionIdentifierIsValid (sessionIdentifier : UInt64) : Bool :=
  sessionIdentifier != sessionSeedInvalid && sessionIdentifier != sessionSeedReserved

/-! ## Private enumerations of the MVP profile -/

/-- `HIL_Transport_Mvp_Handshake_Phase_T` -/
inductive HandshakePhase
  | inactive
  | waitingForInitiate
  | initiatePending
  | waitingForResponse
  | responsePending
  | waitingForConfirm
  | confirmPending
  | waitingForConfirmAck
  | established
  | unlisted (raw : UInt32)
  deriving DecidableEq, Repr, Inhabited

def HandshakePhase.isListed : HandshakePhase → Bool
  | .unlisted _ => false
  | _ => true

/-- `HIL_Transport_Mvp_Frame_Type_T`; the constructors stand in the order of
    their wire values 0x00 … 0x06. -/
inductive FrameType
  | invalid
  | initiate
  | response
  | confirm
  | applicationMessage
  | ack
  | reset
  | unlisted (raw : UInt8)
  deriving DecidableEq, Repr, Inhabited

/-- The wire byte of a frame type. -/
def FrameType.toByte : FrameType → UInt8
  | .invalid => 0x00
  | .initiate => 0x01
  | .response => 0x02
  | .confirm => 0x03
  | .applicationMessage => 0x04
  | .ack => 0x05
  | .reset => 0x06
  | .unlisted raw => raw

/-- The cast of a wire byte to `HIL_Transport_Mvp_Frame_Type_T`. -/
def FrameType.ofByte (byte : UInt8) : FrameType :=
  if byte = 0x00 then .invalid
  else if byte = 0x01 then .initiate
  else if byte = 0x02 then .response
  else if byte = 0x03 then .confirm
  else if byte = 0x04 then .applicationMessage
  else if byte = 0x05 then .ack
  else if byte = 0x06 then .reset
  else .unlisted byte

/-- `HIL_Transport_Mvp_Reliable_State_T` -/
inductive ReliableState
  | idle
  | ready
  | peeked
  | awaitingAck
  | retransmitReady
  | retransmitPeeked
  | exhausted
  | unlisted (raw : UInt32)
  deriving DecidableEq, Repr, Inhabited

def ReliableState.isListed : ReliableState → Bool
  | .unlisted _ => false
  | _ => true

/-- `HIL_Transport_Mvp_Control_Output_State_T` -/
inductive ControlOutputState
  | idle
  | ready
  | peeked
  | unlisted (raw : UInt32)
  deriving DecidableEq, Repr, Inhabited

/-- `HIL_Transport_Mvp_Output_Selection_T` -/
inductive OutputSelection
  | none
  | reliable
  | control
  | unlisted (raw : UInt32)
  deriving DecidableEq, Repr, Inhabited

def OutputSelection.isListed : OutputSelection → Bool
  | .unlisted _ => false
  | _ => true

/-- `HIL_Transport_Mvp_Rx_Sequence_Result_T` -/
inductive RxSequenceResult
  | expected
  | duplicate
  | stale
  | incompatible
  deriving DecidableEq, Repr, Inhabited

/-- `HIL_Transport_Mvp_Ack_Result_T` -/
inductive AckResult
  | matched
  | staleOrUnexpected
  deriving DecidableEq, Repr, Inhabited

/-- `HIL_Transport_Mvp_Decode_Result_T` -/
inductive DecodeResult
  | valid
  | malformed
  | integrityInvalid
  | sessionIncompatible
  deriving DecidableEq, Repr, Inhabited

/-! ## Private records of the MVP profile -/

/-- `HIL_Transport_Mvp_Frame_T`; `payload` is NULL exactly when it is empty. -/
structure Frame where
  type : FrameType
  sessionIdentifier : UInt64
  sequence : UInt16
  acknowledgementSequence : UInt16
  payload : List UInt8
  deriving DecidableEq, Repr, Inhabited

/-- `( HIL_Transport_Mvp_Frame_T ){ 0 }` -/
def Frame.zero : Frame where
  type := .invalid
  sessionIdentifier := 0
  sequence := 0
  acknowledgementSequence := 0
  payload := []

/-- `HIL_Transport_Internal_State_T` -/
structure InternalState where
  config : Config
  role : Role
  linkState : LinkState
  sessionState : SessionState
  operatingMode : OperatingMode
  operatingModeValid : UInt8
  lastFailure : Failure
  deriving DecidableEq, Repr, Inhabited

/-- `HIL_Transport_Mvp_Session_T` -/
structure Session where
  role : Role
  linkState : LinkState
  linkStateObserved : UInt8
  state : SessionState
  handshakePhase : HandshakePhase
  sessionIdentifier : UInt64
  sessionIdentifierValid : UInt8
  completedConfirmSequence : UInt16
  completedConfirmSequenceValid : UInt8
  nextHostSessionIdentifier : UInt64
  initialReliableSequence : UInt16
  nextTransmitSequence : UInt16
  expectedReceiveSequence : UInt16
  retainedTransmitSequence : UInt16
  retainedReliableFrameType : FrameType
  lastAcceptedReceiveSequence : UInt16
  acceptedReceiveSequenceValid : UInt8
  lastAcceptedReceiveFrameType : FrameType
  lastAcceptedReceiveAcknowledgementSequence : UInt16
  reliableState : ReliableState
  retransmissionsCommitted : UInt8
  reliableLastCommittedMs : UInt32
  lastValidReceiveMs : UInt32
  lastFailure : Failure
  deriving DecidableEq, Repr, Inhabited

/-- `HIL_Transport_Parser_T`; `accumulated` is the first `accumulated_size` bytes
    of the scratch buffer. -/
structure Parser where
  scratchBufferSize : Nat
  accumulated : List UInt8
  bodyReady : UInt8
  discarding : UInt8
  deriving DecidableEq, Repr, Inhabited

/-- Where `Init` puts the five byte regions of the workspace; 0 is NULL. -/
structure Regions where
  submittedMessage : Nat
  encodedOutput : Nat
  parserScratch : Nat
  codecScratch : Nat
  receivedMessage : Nat
  deriving DecidableEq, Repr, Inhabited

/-- `HIL_TRANSPORT_MVP_CONTROL_OUTPUT_CAPACITY` -/
def controlOutputCapacity : Nat := 20

/-- `HIL_TRANSPORT_MVP_EVENT_QUEUE_CAPACITY` -/
def eventQueueCapacity : Nat := 4

/-- `HIL_Transport_Mvp_Root_T` -/
structure Root where
  base : InternalState
  session : Session
  parser : Parser
  regions : Regions
  submittedMessage : List UInt8
  submittedMessagePending : UInt8
  encodedOutput : List UInt8
  encodedOutputCapacity : Nat
  outputSelection : OutputSelection
  controlOutput : List UInt8
  controlOutputState : ControlOutputState
  recoveryResetPending : UInt8
  recoveryResetSessionIdentifier : UInt64
  recentlyAbandonedSessionIdentifier : UInt64
  recentlyAbandonedSessionIdentifierValid : UInt8
  codecScratchSize : Nat
  receivedMessage : List UInt8
  receivedMessagePending : UInt8
  receiveProtocolErrorPending : UInt8
  eventQueue : Fin 4 → Event
  eventReadIndex : Nat
  eventCount : Nat

/-- The event queue has slots to take an offset in. -/
instance instNeZeroEventQueue : NeZero 4 := ⟨by decide⟩

end HilRigProtocol.Transport
