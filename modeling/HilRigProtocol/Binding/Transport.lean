/-
  The Python Transport over a native endpoint (`transport.py`, `transport_types.py`,
  `errors.py`, `hil_rig_protocol_ffi.c`).

  A member of a Python enumeration is the enumerator of the C enumeration with its number,
  and the numbers of both sides are written out. A method takes Python values of any type, as
  far as the method can tell them apart, and returns a value or raises an exception; the
  native object goes through the calls that it makes. Threads are numbered.
-/
import HilRigProtocol.Transport.Profile

namespace HilRigProtocol.Binding

open HilRigProtocol.Transport

/-! ## Exceptions -/

/-- The subclasses of `TransportError`. -/
inductive ErrorClass
  | configuration
  | creation
  | binding
  | closed
  | ownership
  | internal
  deriving DecidableEq, Repr

/-- What a method raises. `foreign` comes from an argument itself; the last case has the
    fields of a `TransportError`. -/
inductive Raised
  | typeError (message : String)
  | valueError (message : String)
  | bufferError (message : String)
  | memoryError (message : String)
  | foreign (type message : String)
  | transportError (errorClass : ErrorClass) (message : String) (status : Option Status)
      (bytesConsumed : Option Nat)
  deriving DecidableEq, Repr

/-- The exceptions that blame the native side, not the caller. -/
def Raised.mistrusts : Raised → Bool
  | .transportError .binding _ _ _ | .transportError .internal _ _ _
  | .transportError .creation _ _ _ => true
  | _ => false

/-! ## Enumerations -/

/-- The number of a `HIL_Transport_Status_T`. -/
def statusNumber : Status → Nat
  | .ok => 0
  | .invalidArgument => 1
  | .bufferTooSmall => 2
  | .unsupportedConfiguration => 3
  | .messageTooLarge => 4
  | .capacityExhausted => 5
  | .deliveryFailed => 6
  | .timeout => 7
  | .notReady => 8
  | .notImplemented => 9
  | .internalError => 10
  | .unlisted raw => raw.toNat

/-- `TransportStatus` -/
def transportStatus : Nat → Option Status
  | 0 => some .ok
  | 1 => some .invalidArgument
  | 2 => some .bufferTooSmall
  | 3 => some .unsupportedConfiguration
  | 4 => some .messageTooLarge
  | 5 => some .capacityExhausted
  | 6 => some .deliveryFailed
  | 7 => some .timeout
  | 8 => some .notReady
  | 9 => some .notImplemented
  | 10 => some .internalError
  | _ => none

/-- The `name` of a member of `TransportStatus`. -/
def statusName : Status → String
  | .ok => "OK"
  | .invalidArgument => "INVALID_ARGUMENT"
  | .bufferTooSmall => "BUFFER_TOO_SMALL"
  | .unsupportedConfiguration => "UNSUPPORTED_CONFIGURATION"
  | .messageTooLarge => "MESSAGE_TOO_LARGE"
  | .capacityExhausted => "CAPACITY_EXHAUSTED"
  | .deliveryFailed => "DELIVERY_FAILED"
  | .timeout => "TIMEOUT"
  | .notReady => "NOT_READY"
  | .notImplemented => "NOT_IMPLEMENTED"
  | .internalError => "INTERNAL_ERROR"
  | .unlisted _ => ""

/-- The number of a `HIL_Transport_Role_T`. -/
def roleNumber : Role → Nat
  | .host => 0
  | .rig => 1
  | .unlisted raw => raw.toNat

/-- `Role` -/
def pythonRole : Nat → Option Role
  | 0 => some .host
  | 1 => some .rig
  | _ => none

/-- The number of a `HIL_Transport_Link_State_T`. -/
def linkStateNumber : LinkState → Nat
  | .disconnected => 0
  | .connected => 1
  | .unlisted raw => raw.toNat

/-- `LinkState` -/
def pythonLinkState : Nat → Option LinkState
  | 0 => some .disconnected
  | 1 => some .connected
  | _ => none

/-- The number of a `HIL_Transport_Operating_Mode_T`. -/
def operatingModeNumber : OperatingMode → Nat
  | .normal => 0
  | .bulkTransfer => 1
  | .quietRealTime => 2
  | .unlisted raw => raw.toNat

/-- `OperatingMode` -/
def pythonOperatingMode : Nat → Option OperatingMode
  | 0 => some .normal
  | 1 => some .bulkTransfer
  | 2 => some .quietRealTime
  | _ => none

/-- The number of a `HIL_Transport_Session_State_T`. -/
def sessionStateNumber : SessionState → Nat
  | .disconnected => 0
  | .connecting => 1
  | .established => 2
  | .recovering => 3
  | .fault => 4
  | .unlisted raw => raw.toNat

/-- `SessionState` -/
def pythonSessionState : Nat → Option SessionState
  | 0 => some .disconnected
  | 1 => some .connecting
  | 2 => some .established
  | 3 => some .recovering
  | 4 => some .fault
  | _ => none

/-- The number of a `HIL_Transport_Failure_T`. -/
def failureNumber : Failure → Nat
  | .none => 0
  | .linkLost => 1
  | .connectionTimeout => 2
  | .delivery => 3
  | .protocol => 4
  | .capacity => 5
  | .localReset => 6
  | .internal => 7
  | .unlisted raw => raw.toNat

/-- `Failure` -/
def pythonFailure : Nat → Option Failure
  | 0 => some .none
  | 1 => some .linkLost
  | 2 => some .connectionTimeout
  | 3 => some .delivery
  | 4 => some .protocol
  | 5 => some .capacity
  | 6 => some .localReset
  | 7 => some .internal
  | _ => none

/-- The number of a `HIL_Transport_Event_Type_T`. -/
def eventTypeNumber : EventType → Nat
  | .none => 0
  | .sessionEstablished => 1
  | .sessionReset => 2
  | .deliveryConfirmed => 3
  | .deliveryFailed => 4
  | .protocolError => 5
  | .capacityExhausted => 6
  | .linkStateChanged => 7
  | .unlisted raw => raw.toNat

/-- `EventType` -/
def pythonEventType : Nat → Option EventType
  | 0 => some .none
  | 1 => some .sessionEstablished
  | 2 => some .sessionReset
  | 3 => some .deliveryConfirmed
  | 4 => some .deliveryFailed
  | 5 => some .protocolError
  | 6 => some .capacityExhausted
  | 7 => some .linkStateChanged
  | _ => none

/-! ## Values -/

/-- A Python argument. A member of an enumeration is a listed enumerator. The buffer protocol
    of `raising` raises this exception, as that of a released memoryview does; one that
    raises a `TypeError` counts as `other`, which has no buffer protocol. -/
inductive Argument
  | int (value : Int)
  | linkState (member : { state : LinkState // state.isListed = true })
  | operatingMode (member : { mode : OperatingMode // mode.isListed = true })
  | buffer (data : List UInt8) (cContiguous : Bool)
  | raising (type message : String)
  | other

/-- `TransportSnapshot` -/
structure TransportSnapshot where
  role : Role
  linkState : LinkState
  sessionState : SessionState
  operatingMode : Option OperatingMode
  outputPending : Bool
  applicationMessagePending : Bool
  eventPending : Bool
  reliableDeliveryPending : Bool
  lastFailure : Failure
  deriving DecidableEq, Repr

/-- What a method returns. `none` is Python's `None`, and `transport` the object itself. -/
inductive Returned
  | none
  | false
  | transport
  | status (status : Status)
  | receive (status : Status) (bytesConsumed : Nat)
  | bytes (data : List UInt8)
  | event (event : Event)
  | snapshot (snapshot : TransportSnapshot)
  deriving DecidableEq, Repr

/-- `TransportConfig`, within the ranges that its construction checks. -/
structure TransportConfig [Target] where
  maxApplicationMessageSize : Nat
  maxEncodedFrameSize : Nat
  sessionSeed : Option UInt64
  initialReliableSequence : UInt16
  connectionTimeoutMs : UInt32
  retransmitTimeoutMs : UInt32
  maxRetries : UInt8
  message_pos : 1 ≤ maxApplicationMessageSize
  message_le : maxApplicationMessageSize ≤ Target.sizeMax
  frame_pos : 1 ≤ maxEncodedFrameSize
  frame_le : maxEncodedFrameSize ≤ Target.sizeMax

/-! ## The native object -/

/-- `HIL_Python_Transport_T` -/
structure Native where
  context : Context
  workspace : Nat
  workspaceSize : Nat

section
variable [Target]

/-- An adapter function on a live object: it forwards to the public function of its name. -/
def Native.call (native : Native) (call : Call) : Response × Native :=
  match Profile.rootFromContext native.context with
  | none => (.ofStatus .invalidArgument, native)
  | some root =>
      let (response, root) := step root call
      (response, { native with context := { native.context with implementation := some root } })

/-! ## Checks of arguments and results -/

end

/-- `_validate_now_ms` -/
def validateNowMs : Argument → Except Raised UInt32
  | .int nowMs =>
      if nowMs < 0 ∨ nowMs > 4294967295 then
        .error (.valueError "now_ms must be in the range 0..4294967295")
      else .ok (UInt32.ofNat nowMs.toNat)
  | _ => .error (.typeError "now_ms must be an int")

/-- `_borrow_buffer` -/
def borrowBuffer : Argument → Except Raised (List UInt8)
  | .buffer data cContiguous =>
      if cContiguous then .ok data else .error (.bufferError "data must be C-contiguous")
  | .raising type message => .error (.foreign type message)
  | _ => .error (.typeError "data must support the buffer protocol")

/-- A `TransportBindingError` -/
def bindingError {α : Type} (message : String) (status : Option Status) : Except Raised α :=
  .error (.transportError .binding message status none)

/-- `_operation_status` -/
def operationStatus (value : Nat) (operation : String) (allowed : List Status)
    (bytesConsumed : Option Nat) : Except Raised Status :=
  match transportStatus value with
  | none => bindingError (operation ++ " returned unknown Transport status " ++ toString value) none
  | some status =>
      if status = .internalError then
        .error (.transportError .internal
          ("native Transport reported an internal error during " ++ operation) (some status)
          bytesConsumed)
      else if status = .invalidArgument then
        bindingError (operation ++ " returned INVALID_ARGUMENT after Python-side validation")
          (some status)
      else if status ∉ allowed then
        bindingError (operation ++ " returned undocumented status " ++ statusName status)
          (some status)
      else .ok status

/-- `_enum_value` -/
def enumValue {α : Type} (enumType : Nat → Option α) (value : Nat) (fieldName : String) :
    Except Raised α :=
  match enumType value with
  | some member => .ok member
  | none =>
      bindingError ("native " ++ fieldName ++ " contains unknown value " ++ toString value) none

/-- `_native_bool` -/
def nativeBool (value : Nat) (fieldName : String) : Except Raised Bool :=
  if value ≠ 0 ∧ value ≠ 1 then
    bindingError ("native " ++ fieldName ++ " must be exactly zero or one, got " ++ toString value)
      none
  else .ok (value ≠ 0)

/-! ## The methods -/

/-- A `Transport`. `nativeHandle` is `None` once it is closed. -/
structure Transport [Target] where
  role : Role
  config : TransportConfig
  ownerThread : Nat
  nativeHandle : Option Native

/-- The methods that use the native object, with their arguments. -/
inductive Method
  | reset
  | notifyLinkState (linkState nowMs : Argument)
  | submitApplicationData (data : Argument)
  | receiveBytes (data : Argument)
  | process (nowMs operatingMode : Argument)
  | peekOutput
  | commitOutput (nowMs : Argument)
  | readApplicationData
  | readEvent
  | getStatus

/-- A method call. `enter` and `exit` are those of a `with` block; `reduce` is `__reduce__` or
    `__reduce_ex__`. -/
inductive Request
  | close
  | enter
  | exit
  | copy
  | deepcopy
  | reduce
  | method (method : Method)

section
variable [Target]

/-- `reset` on a live object. -/
def reset (native : Native) : Except Raised Returned × Native :=
  let (response, native) := native.call .reset
  (.status <$> operationStatus (statusNumber response.status) "reset" [.ok] none, native)

/-- `notify_link_state` on a live object. -/
def notifyLinkState (native : Native) (linkState nowMs : Argument) :
    Except Raised Returned × Native :=
  match linkState with
  | .linkState member =>
      match validateNowMs nowMs with
      | .error raised => (.error raised, native)
      | .ok nowMs =>
          let (response, native) := native.call (.notifyLinkState member.1 nowMs)
          (.status <$> operationStatus (statusNumber response.status) "notify_link_state"
            [.ok, .capacityExhausted] none, native)
  | _ => (.error (.typeError "link_state must be a LinkState"), native)

/-- `submit_application_data` on a live object. -/
def submitApplicationData (native : Native) (data : Argument) : Except Raised Returned × Native :=
  match borrowBuffer data with
  | .error raised => (.error raised, native)
  | .ok data =>
      if data.length = 0 then
        (.error (.valueError "empty Application messages are not supported by the MVP"), native)
      else
        let (response, native) := native.call (.submitApplicationData data)
        (.status <$> operationStatus (statusNumber response.status) "submit_application_data"
          [.ok, .notReady, .messageTooLarge, .capacityExhausted] none, native)

/-- `receive_bytes` on a live object. -/
def receiveBytes (native : Native) (data : Argument) : Except Raised Returned × Native :=
  match borrowBuffer data with
  | .error raised => (.error raised, native)
  | .ok data =>
      let (response, native) := native.call (.receiveBytes data)
      let bytesConsumed := response.size
      let result := do
        if bytesConsumed > data.length then
          bindingError "receive_bytes reported consumption beyond the offered buffer" none
        else
          let status ← operationStatus (statusNumber response.status) "receive_bytes"
            [.ok, .notReady, .capacityExhausted] (some bytesConsumed)
          if status = .ok ∧ bytesConsumed ≠ data.length then
            bindingError "receive_bytes returned OK without consuming the complete offered buffer"
              (some status)
          else if status = .notReady ∧ bytesConsumed ≠ 0 then
            bindingError "receive_bytes returned NOT_READY with nonzero consumption" (some status)
          else .ok (.receive status bytesConsumed)
      (result, native)

/-- `process` on a live object. -/
def process (native : Native) (nowMs operatingMode : Argument) : Except Raised Returned × Native :=
  match validateNowMs nowMs with
  | .error raised => (.error raised, native)
  | .ok nowMs =>
      match operatingMode with
      | .operatingMode member =>
          let (response, native) := native.call (.process nowMs member.1)
          (.status <$> operationStatus (statusNumber response.status) "process"
            [.ok, .notReady, .capacityExhausted, .deliveryFailed] none, native)
      | _ => (.error (.typeError "operating_mode must be an OperatingMode"), native)

/-- `peek_output` on a live object: a size query, then a copy of that size. -/
def peekOutput (config : TransportConfig) (native : Native) : Except Raised Returned × Native :=
  let (query, native) := native.call (.peekOutput none)
  match operationStatus (statusNumber query.status) "peek_output query"
    [.notReady, .bufferTooSmall] none with
  | .error raised => (.error raised, native)
  | .ok queryStatus =>
      let requiredSize := query.size
      if queryStatus = .notReady then
        if requiredSize ≠ 0 then
          (bindingError "peek_output returned NOT_READY with a nonzero required size"
            (some queryStatus), native)
        else (.ok .none, native)
      else if requiredSize = 0 then
        (bindingError "peek_output reported BUFFER_TOO_SMALL with a zero required size"
          (some queryStatus), native)
      else if requiredSize > config.maxEncodedFrameSize then
        (bindingError "peek_output required size exceeds the configured encoded-frame limit"
          (some queryStatus), native)
      else
        let (copy, native) := native.call (.peekOutput (some requiredSize))
        match operationStatus (statusNumber copy.status) "peek_output copy" [.ok] none with
        | .error raised => (.error raised, native)
        | .ok status =>
            if copy.size ≠ requiredSize then
              (bindingError "peek_output size changed between query and copy" (some status),
                native)
            else (.ok (.bytes copy.bytes), native)

/-- `commit_output` on a live object. -/
def commitOutput (native : Native) (nowMs : Argument) : Except Raised Returned × Native :=
  match validateNowMs nowMs with
  | .error raised => (.error raised, native)
  | .ok nowMs =>
      let (response, native) := native.call (.commitOutput nowMs)
      (.status <$> operationStatus (statusNumber response.status) "commit_output" [.ok, .notReady]
        none, native)

/-- `read_application_data` on a live object: a size query, then a copy of that size. -/
def readApplicationData (config : TransportConfig) (native : Native) :
    Except Raised Returned × Native :=
  let (query, native) := native.call (.readApplicationData none)
  match operationStatus (statusNumber query.status) "read_application_data query"
    [.ok, .notReady, .bufferTooSmall] none with
  | .error raised => (.error raised, native)
  | .ok queryStatus =>
      let requiredSize := query.size
      if queryStatus = .notReady then
        if requiredSize ≠ 0 then
          (bindingError "read_application_data returned NOT_READY with a nonzero size"
            (some queryStatus), native)
        else (.ok .none, native)
      else if queryStatus = .ok then
        if requiredSize ≠ 0 then
          (bindingError "read_application_data query returned OK with a nonzero size"
            (some queryStatus), native)
        else (.ok (.bytes []), native)
      else if requiredSize > config.maxApplicationMessageSize then
        (bindingError
          "read_application_data required size exceeds the configured message limit"
          (some queryStatus), native)
      else
        -- An empty message is copied to a buffer of one byte, with capacity zero.
        let (copy, native) := native.call (.readApplicationData (some requiredSize))
        match operationStatus (statusNumber copy.status) "read_application_data copy" [.ok]
          none with
        | .error raised => (.error raised, native)
        | .ok status =>
            if copy.size ≠ requiredSize then
              (bindingError "read_application_data size changed between query and consume"
                (some status), native)
            else if copy.size = 0 then (.ok (.bytes []), native)
            else (.ok (.bytes copy.bytes), native)

/-- The fields of an event, as `read_event` converts them. -/
def convertEvent (event : Event) : Except Raised Event := do
  let type ← enumValue pythonEventType (eventTypeNumber event.type) "event type"
  if type = .none then bindingError "native read_event returned the NONE sentinel" none
  else
    let status ← enumValue transportStatus (statusNumber event.status) "event status"
    let failure ← enumValue pythonFailure (failureNumber event.failure) "event failure"
    .ok { type, status, failure, requiredCapacity := event.requiredCapacity }

/-- `read_event` on a live object; the native event is zero before the call. -/
def readEvent (native : Native) : Except Raised Returned × Native :=
  let (response, native) := native.call .readEvent
  let result := do
    let status ← operationStatus (statusNumber response.status) "read_event" [.ok, .notReady] none
    if status = .notReady then .ok .none
    else Returned.event <$> convertEvent (response.event.getD Profile.zeroEvent)
  (result, native)

/-- The fields of a snapshot, as `get_status` converts them. -/
def convertSnapshot (native : StatusSnapshot) : Except Raised TransportSnapshot := do
  let operatingModeValid ← nativeBool native.operatingModeValid.toNat "operating_mode_valid"
  let operatingMode ←
    if operatingModeValid then
      some <$> enumValue pythonOperatingMode (operatingModeNumber native.operatingMode)
        "snapshot operating_mode"
    else pure none
  let role ← enumValue pythonRole (roleNumber native.role) "snapshot role"
  let linkState ← enumValue pythonLinkState (linkStateNumber native.linkState)
    "snapshot link_state"
  let sessionState ← enumValue pythonSessionState (sessionStateNumber native.sessionState)
    "snapshot session_state"
  let outputPending ← nativeBool native.outputPending.toNat "output_pending"
  let applicationMessagePending ← nativeBool native.applicationMessagePending.toNat
    "application_message_pending"
  let eventPending ← nativeBool native.eventPending.toNat "event_pending"
  let reliableDeliveryPending ← nativeBool native.reliableDeliveryPending.toNat
    "reliable_delivery_pending"
  let lastFailure ← enumValue pythonFailure (failureNumber native.lastFailure)
    "snapshot last_failure"
  .ok { role, linkState, sessionState, operatingMode, outputPending, applicationMessagePending,
        eventPending, reliableDeliveryPending, lastFailure }

/-- The snapshot whose bytes are all zero. -/
def zeroSnapshot : StatusSnapshot where
  role := .host
  linkState := .disconnected
  sessionState := .disconnected
  operatingMode := .normal
  operatingModeValid := 0
  outputPending := false
  applicationMessagePending := 0
  eventPending := false
  reliableDeliveryPending := false
  lastFailure := .none

/-- `get_status` on a live object; the native snapshot is zero before the call. -/
def getStatus (native : Native) : Except Raised Returned × Native :=
  let (response, native) := native.call .getStatus
  let result := do
    let _ ← operationStatus (statusNumber response.status) "get_status" [.ok] none
    Returned.snapshot <$> convertSnapshot (response.snapshot.getD zeroSnapshot)
  (result, native)

namespace Transport

/-- `_require_owner` -/
def requireOwner (transport : Transport) (thread : Nat) : Except Raised Unit :=
  if thread ≠ transport.ownerThread then
    .error (.transportError .ownership
      "Transport native lifetime may only be used by its creating thread" none none)
  else .ok ()

/-- `_require_open_owner` -/
def requireOpenOwner (transport : Transport) (thread : Nat) : Except Raised Native :=
  match transport.nativeHandle with
  | none => .error (.transportError .closed "Transport is closed" none none)
  | some native => do
      transport.requireOwner thread
      .ok native

/-- `close` -/
def close (transport : Transport) (thread : Nat) : Except Raised Returned × Transport :=
  match transport.nativeHandle with
  | none => (.ok .none, transport)
  | some _ =>
      match transport.requireOwner thread with
      | .error raised => (.error raised, transport)
      | .ok _ => (.ok .none, { transport with nativeHandle := none })

/-- `__enter__` -/
def enter (transport : Transport) (thread : Nat) : Except Raised Returned :=
  (fun _ => .transport) <$> transport.requireOpenOwner thread

/-- `__exit__` -/
def exit (transport : Transport) (thread : Nat) : Except Raised Returned × Transport :=
  let (result, transport) := transport.close thread
  ((fun _ => .false) <$> result, transport)

/-- What a method does with the native object. -/
def onNative (config : TransportConfig) (native : Native) :
    Method → Except Raised Returned × Native
  | .reset => reset native
  | .notifyLinkState linkState nowMs => notifyLinkState native linkState nowMs
  | .submitApplicationData data => submitApplicationData native data
  | .receiveBytes data => receiveBytes native data
  | .process nowMs operatingMode => process native nowMs operatingMode
  | .peekOutput => peekOutput config native
  | .commitOutput nowMs => commitOutput native nowMs
  | .readApplicationData => readApplicationData config native
  | .readEvent => readEvent native
  | .getStatus => getStatus native

/-- One method call on a thread. -/
def perform (transport : Transport) (request : Nat × Request) :
    Except Raised Returned × Transport :=
  match request.2 with
  | .close => transport.close request.1
  | .enter => (transport.enter request.1, transport)
  | .exit => transport.exit request.1
  | .copy => (.error (.typeError "Transport instances cannot be copied"), transport)
  | .deepcopy => (.error (.typeError "Transport instances cannot be deep-copied"), transport)
  | .reduce => (.error (.typeError "Transport instances cannot be pickled"), transport)
  | .method method =>
      match transport.requireOpenOwner request.1 with
      | .error raised => (.error raised, transport)
      | .ok native =>
          let (result, native) := onNative transport.config native method
          (result, { transport with nativeHandle := some native })

end Transport

end

end HilRigProtocol.Binding
