/-
  Data types of the Application codec (`application_types.h`,
  `application_status.h`, the message headers, `application_message.h`).

  A field of a C enumeration is the integer it holds: the decoders cast any wire
  byte to the enumeration, the validators compare it with `<` and `>`, so a value
  that no enumerator names is an ordinary value here. The enumerators are named
  constants. The message type alone is an inductive type, because it selects the
  member of the body union.

  A pointer with an element count is a `Counted` array. Callers' buffers are
  distinct and not NULL; a span or a record array inside a message may be NULL.
-/
import Mathlib.Data.Vector.Basic
import Mathlib.Data.Nat.Notation

namespace HilRigProtocol.Application

/-- What the compilation target fixes: `SIZE_MAX`, the sizes of the two record
    structures and the alignment of decode storage. The two bounds say that 255
    records with the longest payloads can be addressed, which they can on every
    target with a 32-bit or wider `size_t`. -/
class Target where
  sizeMax : Nat
  sizeofLogicalOperation : Nat
  sizeofCapturedRecord : Nat
  decodeStorageAlignment : Nat
  alignment_pos : 0 < decodeStorageAlignment
  operations_addressable :
    255 * sizeofLogicalOperation + decodeStorageAlignment + 0x1000000 ≤ sizeMax
  records_addressable :
    255 * sizeofCapturedRecord + decodeStorageAlignment + 0x1000000 ≤ sizeMax

/-- A target with 64-bit pointers, for runs on fixed inputs. -/
@[reducible] def Target.lp64 : Target where
  sizeMax := 0xFFFFFFFFFFFFFFFF
  sizeofLogicalOperation := 24
  sizeofCapturedRecord := 24
  decodeStorageAlignment := 16
  alignment_pos := by decide
  operations_addressable := by decide
  records_addressable := by decide

/-- `HIL_Application_Status_T` without `OK`. -/
inductive Status
  | invalidArgument
  | uninitialized
  | bufferTooSmall
  | invalidMessageType
  | invalidSubtype
  | malformedMessage
  | truncatedMessage
  | invalidLength
  | invalidCount
  | unsupportedMessage
  | inconsistentTestId
  | inconsistentTick
  | incompleteData
  | validationFailed
  | notImplemented
  | internalError
  | versionMismatch
  deriving DecidableEq, Repr, Inhabited

/-- Why a call does not return `OK`: its status, or an access outside the bytes or
    the storage it was given, for which an unchecked size that wraps stands too. -/
inductive Failure
  | status (s : Status)
  | outOfBounds
  deriving DecidableEq, Repr, Inhabited

/-- The outcome of a call: what it publishes with `OK`, or its failure. -/
abbrev Result (α : Type) : Type := Except Failure α

/-- The call returns the status `s`. -/
def fail {α : Type} (s : Status) : Result α := .error (.status s)

theorem bind_eq_ok {α β : Type} {x : Result α} {f : α → Result β} {b : β} :
    (x >>= f) = .ok b ↔ ∃ a, x = .ok a ∧ f a = .ok b := by
  cases x with
  | error failure => simp [bind, Except.bind]
  | ok a => simp [bind, Except.bind]

@[simp] theorem ok_bind {α β : Type} (a : α) (f : α → Result β) :
    ((.ok a : Result α) >>= f) = f a := rfl

@[simp] theorem error_bind {α β : Type} (failure : Failure) (f : α → Result β) :
    ((.error failure : Result α) >>= f) = .error failure := rfl

@[simp] theorem fail_ne_ok {α : Type} (s : Status) (a : α) : (fail s : Result α) ≠ .ok a := nofun

/-- `HIL_Application_Config_T` -/
structure Config where
  maxEncodedMessageSize : Nat
  maxVariableDataSize : Nat
  maxExpectedTickCount : UInt32
  deriving DecidableEq, Repr

/-- `HIL_Application_Context_T` -/
structure Context where
  config : Config
  initialized : UInt8
  deriving DecidableEq, Repr

/-! ## Arrays, spans and enumerations -/

/-- A pointer and an element count below `limit`: NULL with some count, or an
    array of as many elements. -/
inductive Counted (α : Type) (limit : Nat)
  | null (count : Nat) (fits : count < limit)
  | array (elements : List α) (fits : elements.length < limit)

namespace Counted

variable {α : Type} {limit : Nat}

/-- The count that stands next to the pointer. -/
def count : Counted α limit → Nat
  | null count _ => count
  | array elements _ => elements.length

/-- The elements behind the pointer. -/
def elements : Counted α limit → List α
  | null _ _ => []
  | array elements _ => elements

/-- Whether the pointer is NULL. -/
def isNull : Counted α limit → Bool
  | null _ _ => true
  | array _ _ => false

/-- What `memcpy` reads at the pointer: `count` elements, none of them through NULL. -/
def contents : Counted α limit → Result (List α)
  | null count _ => if count = 0 then .ok [] else .error .outOfBounds
  | array elements _ => .ok elements

theorem count_lt (xs : Counted α limit) : xs.count < limit := by
  cases xs with
  | null count fits => exact fits
  | array elements fits => exact fits

theorem contents_eq {xs : Counted α limit} (h : ¬ (xs.count ≠ 0 ∧ xs.isNull)) :
    xs.contents = .ok xs.elements ∧ xs.elements.length = xs.count := by
  cases xs with
  | null count fits =>
      have hzero : count = 0 := by simpa [Counted.count, isNull] using h
      exact ⟨if_pos hzero, hzero.symm⟩
  | array elements fits => exact ⟨rfl, rfl⟩

/-- The array that a decoder builds from `n` elements: NULL when there are none. -/
def ofVector {n : Nat} (xs : List.Vector α n) (fits : n < limit) : Counted α limit :=
  if n = 0 then null 0 (Nat.zero_lt_of_lt fits)
  else array xs.toList (by rw [xs.toList_length]; exact fits)

end Counted

/-- `HIL_Application_Byte_Span_T` -/
abbrev ByteSpan : Type := Counted UInt8 65536

/-- A one-byte length is one of a span. -/
theorem byte_fits (size : UInt8) : size.toNat < 65536 := Nat.lt_trans size.toNat_lt (by decide)

/-- `HIL_Application_Test_Id_T` -/
abbrev TestId : Type := List.Vector UInt8 16

/-! ## System Information -/

/-- `HIL_Application_System_Info_Request_T` -/
structure SystemInfoRequest where
  requestFirmwareGitHash : UInt8
  query : Int
  applicationProtocolMajor : UInt16
  applicationProtocolMinor : UInt16
  applicationProtocolPatch : UInt16

/-- `HIL_Application_System_Info_Response_T` -/
structure SystemInfoResponse where
  applicationProtocolMajor : UInt16
  applicationProtocolMinor : UInt16
  applicationProtocolPatch : UInt16
  firmwareVersionMajor : UInt16
  firmwareVersionMinor : UInt16
  firmwareVersionPatch : UInt16
  firmwareGitHash : ByteSpan
  diagnosticData : ByteSpan

/-! ## Test Configuration -/

/-- `HIL_Application_Digital_Input_Config_T` -/
structure DigitalInputConfig where
  enabled : UInt8
  voltageLevel : Int

/-- `HIL_Application_Digital_Output_Config_T` -/
structure DigitalOutputConfig where
  enabled : UInt8
  voltageLevel : Int
  initialHigh : UInt8

/-- `HIL_Application_Analog_Input_Config_T` -/
structure AnalogInputConfig where
  enabled : UInt8

/-- `HIL_Application_Analog_Output_Config_T` -/
structure AnalogOutputConfig where
  enabled : UInt8

/-- `HIL_Application_Pwm_Input_Config_T` -/
structure PwmInputConfig where
  enabled : UInt8
  voltageLevel : Int

/-- `HIL_Application_Pwm_Output_Config_T` -/
structure PwmOutputConfig where
  enabled : UInt8
  voltageLevel : Int
  initialPeriodNanoseconds : UInt32
  initialDutyCyclePermyriad : UInt16

/-- `HIL_Application_Can_Config_T` -/
structure CanConfig where
  enabled : UInt8
  bitRate : UInt32
  filterId : UInt16
  filterMask : UInt16

/-- `HIL_Application_Spi_Config_T` -/
structure SpiConfig where
  enabled : UInt8
  bitRate : UInt32
  role : Int
  dataWidth : Int
  bitOrder : Int
  clockPolarity : Int
  clockPhase : Int

/-- `HIL_Application_Uart_Config_T` -/
structure UartConfig where
  enabled : UInt8
  baudRate : UInt32
  electricalMode : Int
  wordLength : Int
  parity : Int
  stopBits : Int
  rxEnabled : UInt8
  txEnabled : UInt8

/-- `HIL_Application_I2c_Config_T` -/
structure I2cConfig where
  enabled : UInt8
  bitRate : UInt32
  role : Int
  ownAddress7bit : UInt16
  voltageLevel : Int
  pullUp : Int

/-- `HIL_Application_Test_Configuration_T` -/
structure TestConfiguration where
  tickDurationUs : UInt32
  expectedTickCount : UInt32
  flags : UInt32
  digitalIn : List.Vector DigitalInputConfig 10
  digitalOut : List.Vector DigitalOutputConfig 10
  analogIn : List.Vector AnalogInputConfig 2
  analogOut : List.Vector AnalogOutputConfig 6
  pwmIn : List.Vector PwmInputConfig 2
  pwmOut : List.Vector PwmOutputConfig 2
  can : List.Vector CanConfig 2
  spi : List.Vector SpiConfig 2
  uart : List.Vector UartConfig 2
  i2c : List.Vector I2cConfig 2
  extensionData : ByteSpan

/-! ## Instructions and results -/

/-- `HIL_Application_Pwm_Output_Value_T` and `HIL_Application_Pwm_Input_Value_T` -/
structure PwmValue where
  periodNanoseconds : UInt32
  dutyCyclePermyriad : UInt16

/-- `HIL_Application_Test_Instruction_T` -/
structure TestInstruction where
  tickNumber : UInt32
  digitalOutputs : List.Vector UInt8 10
  analogOutputs : List.Vector UInt32 6
  pwmOutputs : List.Vector PwmValue 2

/-- `HIL_Application_Logical_Operation_T` and `HIL_Application_Captured_Record_T`,
    which have the same fields; the span is `payload` in one and `data` in the
    other. -/
structure Record where
  peripheralType : Int
  channel : UInt8
  payload : ByteSpan

/-- `HIL_Application_Update_Instruction_T`; the count is that of `operations`. -/
structure UpdateInstruction where
  tickNumber : UInt32
  flags : UInt8
  operations : Counted Record 256

/-- `HIL_Application_Test_Result_T` -/
structure TestResult where
  tickNumber : UInt32
  digitalInputs : List.Vector UInt8 10
  analogInputs : List.Vector UInt32 2
  pwmInputs : List.Vector PwmValue 2
  condition : Int
  problemDetail : UInt32

/-- `HIL_Application_Variable_Test_Result_T`; the count is that of `records`. -/
structure VariableTestResult where
  tickNumber : UInt32
  condition : Int
  flags : UInt8
  problemDetail : UInt32
  records : Counted Record 256

/-! ## Controls, responses and errors -/

/-- `HIL_Application_Execution_Control_T` -/
structure ExecutionControl where
  command : Int
  flags : UInt32

/-- `HIL_Application_Global_Control_T` -/
structure GlobalControl where
  command : Int
  flags : UInt32

/-- `HIL_Application_Finalize_Test_Upload_T` -/
structure FinalizeTestUpload where
  flags : UInt32

/-- `HIL_Application_Response_T` -/
structure Response where
  scope : Int
  outcome : Int
  reason : Int
  tickNumber : UInt32
  controlCommand : Int
  globalControlCommand : Int
  detail : UInt32

/-- `HIL_Application_Error_T` -/
structure Error where
  category : Int
  recoverable : UInt8
  hasTickNumber : UInt8
  tickNumber : UInt32
  detail : UInt32
  diagnosticData : ByteSpan

/-! ## Rig Status and Run Report -/

/-- `HIL_Application_Rig_Status_T` -/
structure RigStatus where
  schemaVersion : UInt16
  origin : Int
  state : Int
  flags : UInt32
  failureSource : Int
  failureStage : Int
  failureReason : Int

/-- `HIL_Application_Run_Isr_Timing_T` -/
structure RunIsrTiming where
  sampleCount : UInt32
  totalCycles : UInt64
  minimumCycles : UInt32
  maximumCycles : UInt32
  maximumBoundary : UInt32

/-- `HIL_Application_Run_Instruction_Buffer_T` -/
structure RunInstructionBuffer where
  sampleCount : UInt32
  minimumUnreadBytes : UInt32
  minimumBoundary : UInt32

/-- `HIL_Application_Run_Result_Buffer_T` -/
structure RunResultBuffer where
  committedRecordCount : UInt32
  committedBytes : UInt32
  peakPendingBytes : UInt32
  peakPendingBoundary : UInt32
  reserveFailureCount : UInt32
  commitFailureCount : UInt32

/-- `HIL_Application_Run_Flash_Statistics_T` -/
structure RunFlashStatistics where
  resultPagesDrained : UInt32
  resultBytesDrained : UInt64
  resultDrainTotalCycles : UInt64
  resultDrainMaximumCycles : UInt32
  instructionPagesRefilled : UInt32
  instructionBytesRefilled : UInt64
  instructionRefillTotalCycles : UInt64
  instructionRefillMaximumCycles : UInt32
  instructionPublishSampleCount : UInt32
  instructionPublishTotalCycles : UInt64
  instructionPublishMaximumCycles : UInt32
  serviceGapSampleCount : UInt32
  serviceGapTotalCycles : UInt64
  serviceGapMaximumCycles : UInt32
  refillDrainContentionCount : UInt32

/-- `HIL_Application_Run_Report_T` -/
structure RunReport where
  schemaVersion : UInt16
  runOutcome : Int
  executionOutcome : Int
  resultStatus : Int
  failureSource : Int
  failureStage : Int
  failureReason : Int
  validSections : UInt32
  expectedTickCount : UInt32
  tickPeriodUs : UInt32
  lastCompletedBoundary : UInt32
  resultTicksEmitted : UInt32
  isrTiming : RunIsrTiming
  instructionBuffer : RunInstructionBuffer
  resultBuffer : RunResultBuffer
  flash : RunFlashStatistics
  extensionData : ByteSpan

/-! ## Endpoint-defined containers -/

/-- `HIL_Application_Arbitrary_Control_T` -/
structure ArbitraryControl where
  controlId : UInt32
  value : UInt32

/-- `HIL_Application_Arbitrary_Data_T` -/
structure ArbitraryData where
  dataId : UInt32
  payload : ByteSpan

/-! ## Messages -/

/-- The defined values of `HIL_Application_Message_Type_T`. -/
inductive MessageType
  | systemInfoRequest
  | systemInfoResponse
  | testConfiguration
  | testInstruction
  | executionControl
  | globalControl
  | updateInstruction
  | finalizeTestUpload
  | testResult
  | variableTestResult
  | runReport
  | response
  | error
  | rigStatus
  | arbitraryControl
  | arbitraryData
  deriving DecidableEq, Repr, Inhabited

namespace MessageType

/-- The enumerator's number. -/
def value : MessageType → UInt8
  | systemInfoRequest => 1
  | systemInfoResponse => 2
  | testConfiguration => 16
  | testInstruction => 17
  | executionControl => 19
  | globalControl => 20
  | updateInstruction => 21
  | finalizeTestUpload => 22
  | testResult => 32
  | variableTestResult => 34
  | runReport => 35
  | response => 48
  | error => 49
  | rigStatus => 50
  | arbitraryControl => 64
  | arbitraryData => 65

/-- `HIL_APPLICATION_Message_Type_Is_Defined`: the type that a wire byte names. -/
def ofByte? (byte : UInt8) : Option MessageType :=
  if byte = 1 then some systemInfoRequest
  else if byte = 2 then some systemInfoResponse
  else if byte = 16 then some testConfiguration
  else if byte = 17 then some testInstruction
  else if byte = 19 then some executionControl
  else if byte = 20 then some globalControl
  else if byte = 32 then some testResult
  else if byte = 21 then some updateInstruction
  else if byte = 22 then some finalizeTestUpload
  else if byte = 35 then some runReport
  else if byte = 34 then some variableTestResult
  else if byte = 48 then some response
  else if byte = 50 then some rigStatus
  else if byte = 49 then some error
  else if byte = 64 then some arbitraryControl
  else if byte = 65 then some arbitraryData
  else none

end MessageType

/-- The union `body` of `HIL_Application_Message_T`, with the type that selects
    its member. -/
inductive Body
  | systemInfoRequest (data : SystemInfoRequest)
  | systemInfoResponse (data : SystemInfoResponse)
  | testConfiguration (data : TestConfiguration)
  | testInstruction (data : TestInstruction)
  | updateInstruction (data : UpdateInstruction)
  | finalizeTestUpload (data : FinalizeTestUpload)
  | executionControl (data : ExecutionControl)
  | globalControl (data : GlobalControl)
  | testResult (data : TestResult)
  | variableTestResult (data : VariableTestResult)
  | response (data : Response)
  | error (data : Error)
  | rigStatus (data : RigStatus)
  | runReport (data : RunReport)
  | arbitraryControl (data : ArbitraryControl)
  | arbitraryData (data : ArbitraryData)

/-- The message type of a body. -/
def Body.type : Body → MessageType
  | systemInfoRequest _ => .systemInfoRequest
  | systemInfoResponse _ => .systemInfoResponse
  | testConfiguration _ => .testConfiguration
  | testInstruction _ => .testInstruction
  | updateInstruction _ => .updateInstruction
  | finalizeTestUpload _ => .finalizeTestUpload
  | executionControl _ => .executionControl
  | globalControl _ => .globalControl
  | testResult _ => .testResult
  | variableTestResult _ => .variableTestResult
  | response _ => .response
  | error _ => .error
  | rigStatus _ => .rigStatus
  | runReport _ => .runReport
  | arbitraryControl _ => .arbitraryControl
  | arbitraryData _ => .arbitraryData

/-- `HIL_Application_Message_T`; the type is that of the body. -/
structure Message where
  subtype : Int
  hasTestId : UInt8
  testId : TestId
  body : Body

/-- The caller's decode storage: whether its pointer is NULL, and its size. The
    address is a multiple of `decodeStorageAlignment`. -/
structure Storage where
  isNull : Bool
  capacity : Nat
  deriving DecidableEq, Repr

end HilRigProtocol.Application
