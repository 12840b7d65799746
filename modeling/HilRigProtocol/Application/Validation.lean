/-
  Structural validation of typed message bodies (`application_validation.c`, and the
  two validators of `application_arbitrary.c`).

  A validator returns `.ok ()` or the first failing check's status, in source order.
  Context and body pointers are never NULL here.
-/
import HilRigProtocol.Application.Fields

namespace HilRigProtocol.Application

open Library Library.Reader

/-! ## Enumerators -/

-- `HIL_Application_Peripheral_Type_T`
namespace Peripheral
abbrev digitalInput : Int := 1
abbrev digitalOutput : Int := 2
abbrev analogInput : Int := 3
abbrev analogOutput : Int := 4
abbrev pwmInput : Int := 5
abbrev pwmOutput : Int := 6
abbrev uart : Int := 16
abbrev spi : Int := 17
abbrev i2c : Int := 18
abbrev can : Int := 19
end Peripheral

-- `HIL_Application_Peripheral_Config_Voltage_Level_T`
namespace PeripheralConfig
abbrev voltageInvalid : Int := 0
abbrev v3V3 : Int := 1
abbrev v5V : Int := 2
abbrev v12V : Int := 3
abbrev v24V : Int := 4
end PeripheralConfig

-- `HIL_Application_Bus_Role_T`
namespace BusRole
abbrev invalid : Int := 0
abbrev master : Int := 1
abbrev slave : Int := 2
end BusRole

-- `HIL_Application_Result_Condition_T`
namespace ResultCondition
abbrev ok : Int := 0
abbrev partialData : Int := 1
abbrev executionProblem : Int := 2
end ResultCondition

-- `HIL_Application_Response_Scope_T`
namespace ResponseScope
abbrev testConfiguration : Int := 1
abbrev tick : Int := 2
abbrev completeTest : Int := 3
abbrev executionControl : Int := 4
abbrev globalControl : Int := 5
end ResponseScope

-- `HIL_Application_Rig_State_T`, the two ends of the range and `IDLE`.
namespace RigState
abbrev initialising : Int := 1
abbrev idle : Int := 2
abbrev fault : Int := 11
end RigState

-- `HIL_Application_Failure_Source_T`, `…_Stage_T` and `…_Reason_T`: `NONE` and the
-- last source and stage.
namespace FailureOrigin
abbrev sourceNone : Int := 0
abbrev sourceExecutionTimer : Int := 6
abbrev stageNone : Int := 0
abbrev stageCleanup : Int := 6
abbrev reasonNone : Int := 0
end FailureOrigin

-- The three outcome enumerations of a Run Report.
namespace RunReportOutcome
abbrev runSuccess : Int := 1
abbrev runAborted : Int := 3
abbrev executionNotStarted : Int := 1
abbrev executionComplete : Int := 2
abbrev executionAborted : Int := 4
abbrev resultComplete : Int := 1
abbrev resultPartial : Int := 2
abbrev resultUnavailable : Int := 3
end RunReportOutcome

/-- `HIL_APPLICATION_VALID_TICK_PERIODS_US` -/
def validTickPeriodsUs : List UInt32 := [10000, 1000, 100, 10]

/-- `HIL_APPLICATION_ABSOLUTE_MAX_TICK_COUNT` -/
def absoluteMaxTickCount : UInt32 := 1000000

/-! ## Spans and scalars -/

/-- `HIL_APPLICATION_Byte_Span_validate` -/
def byteSpanValidate (span : ByteSpan) (maxAllowedSize : Nat) : Result Unit :=
  if span.count > maxAllowedSize then fail .validationFailed
  else if span.count ≠ 0 ∧ span.isNull then fail .validationFailed
  else .ok ()

/-- `HIL_APPLICATION_Byte_Span_U8_validate` -/
def byteSpanU8Validate (context : Context) (span : ByteSpan) : Result Unit :=
  byteSpanValidate span
    (if context.config.maxVariableDataSize < 255 then context.config.maxVariableDataSize else 255)

/-- `HIL_APPLICATION_Boolean_Is_Valid` -/
def booleanIsValid (value : UInt8) : Bool := value ≤ 1

/-- `HIL_APPLICATION_Pwm_Value_Is_Valid` -/
def pwmValueIsValid (periodNanoseconds : UInt32) (dutyCyclePermyriad : UInt16) : Bool :=
  dutyCyclePermyriad ≤ 10000 && (periodNanoseconds != 0 || dutyCyclePermyriad == 0)

/-- `HIL_APPLICATION_Config_Voltage_Is_Valid` -/
def configVoltageIsValid (voltage : Int) : Bool :=
  voltage == PeripheralConfig.v3V3 || voltage == PeripheralConfig.v5V
    || voltage == PeripheralConfig.v12V || voltage == PeripheralConfig.v24V

/-- `HIL_APPLICATION_Bus_Role_Is_Valid` -/
def busRoleIsValid (role : Int) : Bool := role == BusRole.master || role == BusRole.slave

/-- `OK` when the condition holds, `VALIDATION_FAILED` when not. -/
def okIf (condition : Bool) : Result Unit := if condition then .ok () else fail .validationFailed

/-- The loops that validate every element of an array. -/
def validateEach {α : Type} (validator : α → Result Unit) : List α → Result Unit
  | [] => .ok ()
  | x :: xs => do
      validator x
      validateEach validator xs

/-! ## Test Configuration -/

/-- `HIL_APPLICATION_Digital_Input_Config_validate` -/
def digitalInputConfigValidate (data : DigitalInputConfig) : Result Unit :=
  if ¬ booleanIsValid data.enabled then fail .validationFailed
  else if data.enabled = 0 then okIf (data.voltageLevel == PeripheralConfig.voltageInvalid)
  else okIf (configVoltageIsValid data.voltageLevel)

/-- `HIL_APPLICATION_Digital_Output_Config_validate` -/
def digitalOutputConfigValidate (data : DigitalOutputConfig) : Result Unit :=
  if ¬ booleanIsValid data.enabled ∨ ¬ booleanIsValid data.initialHigh then fail .validationFailed
  else if data.enabled = 0 then
    okIf (data.voltageLevel == PeripheralConfig.voltageInvalid && data.initialHigh == 0)
  else okIf (configVoltageIsValid data.voltageLevel)

/-- `HIL_APPLICATION_Analog_Input_Config_validate` -/
def analogInputConfigValidate (data : AnalogInputConfig) : Result Unit :=
  okIf (booleanIsValid data.enabled)

/-- `HIL_APPLICATION_Analog_Output_Config_validate` -/
def analogOutputConfigValidate (data : AnalogOutputConfig) : Result Unit :=
  okIf (booleanIsValid data.enabled)

/-- `HIL_APPLICATION_Pwm_Input_Config_validate` -/
def pwmInputConfigValidate (data : PwmInputConfig) : Result Unit :=
  if ¬ booleanIsValid data.enabled then fail .validationFailed
  else if data.enabled = 0 then okIf (data.voltageLevel == PeripheralConfig.voltageInvalid)
  else okIf (configVoltageIsValid data.voltageLevel)

/-- `HIL_APPLICATION_Pwm_Output_Config_validate` -/
def pwmOutputConfigValidate (data : PwmOutputConfig) : Result Unit :=
  if ¬ booleanIsValid data.enabled then fail .validationFailed
  else if data.enabled = 0 then
    okIf (data.voltageLevel == PeripheralConfig.voltageInvalid
      && data.initialPeriodNanoseconds == 0 && data.initialDutyCyclePermyriad == 0)
  else if ¬ configVoltageIsValid data.voltageLevel ∨ data.initialDutyCyclePermyriad > 10000
      ∨ (data.initialPeriodNanoseconds = 0 ∧ data.initialDutyCyclePermyriad ≠ 0) then
    fail .validationFailed
  else .ok ()

/-- `HIL_APPLICATION_Can_Config_validate` -/
def canConfigValidate (data : CanConfig) : Result Unit :=
  if ¬ booleanIsValid data.enabled then fail .validationFailed
  else if data.enabled = 0 then
    okIf (data.bitRate == 0 && data.filterId == 0 && data.filterMask == 0)
  else if data.bitRate = 0 ∨ data.filterId > 0x07ff ∨ data.filterMask > 0x07ff then
    fail .validationFailed
  else .ok ()

/-- `HIL_APPLICATION_Spi_Config_validate`. Each of the four settings has two
    enumerators, 1 and 2, and `INVALID`, 0. -/
def spiConfigValidate (data : SpiConfig) : Result Unit :=
  if ¬ booleanIsValid data.enabled then fail .validationFailed
  else if data.enabled = 0 then
    okIf (data.bitRate == 0 && data.role == BusRole.invalid && data.dataWidth == 0
      && data.bitOrder == 0 && data.clockPolarity == 0 && data.clockPhase == 0)
  else if data.bitRate = 0 ∨ ¬ busRoleIsValid data.role
      ∨ (data.dataWidth ≠ 1 ∧ data.dataWidth ≠ 2) ∨ (data.bitOrder ≠ 1 ∧ data.bitOrder ≠ 2)
      ∨ (data.clockPolarity ≠ 1 ∧ data.clockPolarity ≠ 2)
      ∨ (data.clockPhase ≠ 1 ∧ data.clockPhase ≠ 2) then
    fail .validationFailed
  else .ok ()

/-- `HIL_APPLICATION_Uart_Config_validate`. Electrical mode and parity have the
    enumerators 1 to 3, word length and stop bits 1 and 2, and `INVALID` is 0. -/
def uartConfigValidate (data : UartConfig) : Result Unit :=
  if ¬ booleanIsValid data.enabled ∨ ¬ booleanIsValid data.rxEnabled
      ∨ ¬ booleanIsValid data.txEnabled then
    fail .validationFailed
  else if data.enabled = 0 then
    okIf (data.baudRate == 0 && data.electricalMode == 0 && data.wordLength == 0
      && data.parity == 0 && data.stopBits == 0 && data.rxEnabled == 0 && data.txEnabled == 0)
  else if data.baudRate = 0
      ∨ (data.electricalMode ≠ 1 ∧ data.electricalMode ≠ 2 ∧ data.electricalMode ≠ 3)
      ∨ (data.wordLength ≠ 1 ∧ data.wordLength ≠ 2)
      ∨ (data.parity ≠ 1 ∧ data.parity ≠ 2 ∧ data.parity ≠ 3)
      ∨ (data.stopBits ≠ 1 ∧ data.stopBits ≠ 2)
      ∨ (data.rxEnabled = 0 ∧ data.txEnabled = 0) then
    fail .validationFailed
  else .ok ()

/-- `HIL_APPLICATION_I2c_Config_validate` -/
def i2cConfigValidate (data : I2cConfig) : Result Unit :=
  if ¬ booleanIsValid data.enabled then fail .validationFailed
  else if data.enabled = 0 then
    okIf (data.bitRate == 0 && data.role == BusRole.invalid && data.ownAddress7bit == 0
      && data.voltageLevel == 0 && data.pullUp == 0)
  else fail .notImplemented

/-- `HIL_APPLICATION_Test_Configuration_validate` -/
def testConfigurationValidate (context : Context) (data : TestConfiguration) : Result Unit :=
  if context.initialized = 0 then fail .uninitialized
  else if data.expectedTickCount = 0
      ∨ data.expectedTickCount > context.config.maxExpectedTickCount ∨ data.flags ≠ 0 then
    fail .validationFailed
  else if ¬ validTickPeriodsUs.contains data.tickDurationUs then fail .validationFailed
  else do
    byteSpanU8Validate context data.extensionData
    validateEach digitalInputConfigValidate data.digitalIn.toList
    validateEach digitalOutputConfigValidate data.digitalOut.toList
    validateEach analogInputConfigValidate data.analogIn.toList
    validateEach analogOutputConfigValidate data.analogOut.toList
    validateEach pwmInputConfigValidate data.pwmIn.toList
    validateEach pwmOutputConfigValidate data.pwmOut.toList
    validateEach canConfigValidate data.can.toList
    validateEach spiConfigValidate data.spi.toList
    validateEach uartConfigValidate data.uart.toList
    validateEach i2cConfigValidate data.i2c.toList

/-! ## System Information -/

/-- `HIL_APPLICATION_System_Info_Request_validate` -/
def systemInfoRequestValidate (context : Context) (data : SystemInfoRequest) : Result Unit :=
  if context.initialized = 0 then fail .uninitialized
  else if data.requestFirmwareGitHash > 1 ∨ data.query ≠ 1
      ∨ data.applicationProtocolMajor > 255 ∨ data.applicationProtocolMinor > 255 then
    fail .validationFailed
  else .ok ()

/-- `HIL_APPLICATION_System_Info_Response_validate` -/
def systemInfoResponseValidate (context : Context) (data : SystemInfoResponse) : Result Unit :=
  if context.initialized = 0 then fail .uninitialized
  else if data.applicationProtocolMajor > 255 ∨ data.applicationProtocolMinor > 255 then
    fail .validationFailed
  else do
    byteSpanU8Validate context data.firmwareGitHash
    byteSpanU8Validate context data.diagnosticData

/-! ## Fixed instructions and results -/

/-- `HIL_APPLICATION_Test_Instructions_validate` -/
def testInstructionsValidate (context : Context) (data : TestInstruction) : Result Unit :=
  if context.initialized = 0 then fail .uninitialized
  else if data.tickNumber ≥ context.config.maxExpectedTickCount then fail .validationFailed
  else do
    validateEach (fun high => okIf (booleanIsValid high)) data.digitalOutputs.toList
    validateEach (fun (pwm : PwmValue) =>
      okIf (pwmValueIsValid pwm.periodNanoseconds pwm.dutyCyclePermyriad)) data.pwmOutputs.toList

/-- The three defined result conditions. -/
def resultConditionIsDefined (condition : Int) : Bool :=
  condition == ResultCondition.ok || condition == ResultCondition.partialData
    || condition == ResultCondition.executionProblem

/-- `HIL_APPLICATION_Test_Result_validate` -/
def testResultValidate (context : Context) (data : TestResult) : Result Unit :=
  if context.initialized = 0 then fail .uninitialized
  else if data.tickNumber ≥ context.config.maxExpectedTickCount then fail .validationFailed
  else do
    validateEach (fun high => okIf (booleanIsValid high)) data.digitalInputs.toList
    validateEach (fun (pwm : PwmValue) =>
      okIf (pwmValueIsValid pwm.periodNanoseconds pwm.dutyCyclePermyriad)) data.pwmInputs.toList
    okIf (resultConditionIsDefined data.condition)

/-! ## Records -/

/-- `HIL_APPLICATION_Digital_Bank_Payload_validate` -/
def digitalBankPayloadValidate (channel : UInt8) (span : ByteSpan) : Result Unit :=
  if channel ≠ 0 ∨ span.count ≠ 2 then fail .validationFailed
  else do
    let (mask, _) ← read readU16Le span.elements
    okIf (mask &&& 0xFC00 == 0)

/-- `HIL_APPLICATION_Pwm_Payload_validate` -/
def pwmPayloadValidate (channel : UInt8) (maxChannels : Nat) (span : ByteSpan) : Result Unit :=
  if channel.toNat ≥ maxChannels ∨ span.count ≠ 6 then fail .validationFailed
  else do
    let (periodNs, rest) ← read readU32Le span.elements
    let (duty, _) ← read readU16Le rest
    okIf (pwmValueIsValid periodNs duty)

/-- The loop of `HIL_APPLICATION_Can_Payload_validate`, with `frames` frames left. -/
def canFramesValidate : (frames : Nat) → (data : List UInt8) → Result Unit
  | 0, _ => .ok ()
  | frames + 1, data => do
      let (canId, _) ← read readU16Le data
      let dlc ← byteAt data 2
      let res ← byteAt data 11
      if canId > 0x7FF ∨ dlc > 8 ∨ res ≠ 0 then fail .validationFailed
      else canFramesValidate frames (data.drop 12)

/-- `HIL_APPLICATION_Can_Payload_validate` -/
def canPayloadValidate (channel : UInt8) (span : ByteSpan) : Result Unit :=
  if channel ≥ 2 ∨ span.count % 12 ≠ 0 then fail .validationFailed
  else canFramesValidate (span.count / 12) span.elements

/-- The loop over the packet lengths of an SPI payload, which are the front of
    `lengths`; the sum of those it has passed is `total`. -/
def spiPacketLengthSum : (packets : Nat) → (lengths : List UInt8) → (total : Nat) → Result Nat
  | 0, _, total => .ok total
  | packets + 1, lengths, total => do
      let packetLength ← byteAt lengths 0
      if packetLength = 0 then fail .validationFailed
      else do
        let total ← addSize16 total packetLength.toNat
        spiPacketLengthSum packets (lengths.drop 1) total

/-- The `SPI` case of `HIL_APPLICATION_Logical_Operation_Fields_validate` -/
def spiPayloadValidate (channel : UInt8) (span : ByteSpan) : Result Unit :=
  if channel ≥ 2 then fail .validationFailed
  else do
    let packetCount ← byteAt span.elements 0
    if packetCount = 0 ∨ span.count ≤ 1 + packetCount.toNat then fail .validationFailed
    else do
      let withoutCount ← subSize span.count 1
      let expectedDataLength ← subSize withoutCount packetCount.toNat
      let total ← spiPacketLengthSum packetCount.toNat (span.elements.drop 1) 0
      okIf (total == expectedDataLength)

/-- `HIL_APPLICATION_Record_Pair_Mark`: marks `channel` of `peripheralType`, which has
    no mark yet. -/
def recordPairMark (seen : List UInt16) (peripheralType : Int) (channel : UInt8) :
    Result (List UInt16) :=
  if peripheralType < 0 ∨ peripheralType ≥ seen.length ∨ channel ≥ 16 then fail .validationFailed
  else
    let mask : UInt16 := 1 <<< channel.toUInt16
    match seen[peripheralType.toNat]? with
    | none => .error .outOfBounds
    | some marks =>
        if marks &&& mask ≠ 0 then fail .validationFailed
        else .ok (seen.set peripheralType.toNat (marks ||| mask))

/-- `seen_peripheral_channels` before the first record. -/
def noneSeen : List UInt16 := List.replicate 20 0

/-- `HIL_APPLICATION_Logical_Operation_Fields_validate` -/
def logicalOperationFieldsValidate (context : Context) (operation : Record) : Result Unit :=
  let channel := operation.channel
  let payload := operation.payload
  if byteSpanValidate payload context.config.maxVariableDataSize ≠ .ok () ∨ payload.count = 0 then
    fail .validationFailed
  else if operation.peripheralType = Peripheral.digitalOutput then
    digitalBankPayloadValidate channel payload
  else if operation.peripheralType = Peripheral.analogOutput then
    okIf (channel < 6 && payload.count == 4)
  else if operation.peripheralType = Peripheral.pwmOutput then
    pwmPayloadValidate channel 2 payload
  else if operation.peripheralType = Peripheral.uart then okIf (channel < 2)
  else if operation.peripheralType = Peripheral.spi then spiPayloadValidate channel payload
  else if operation.peripheralType = Peripheral.can then canPayloadValidate channel payload
  else if operation.peripheralType = Peripheral.i2c then fail .notImplemented
  else fail .validationFailed

/-- `HIL_APPLICATION_Captured_Record_Fields_validate` -/
def capturedRecordFieldsValidate (context : Context) (record : Record) : Result Unit :=
  let channel := record.channel
  let data := record.payload
  if byteSpanValidate data context.config.maxVariableDataSize ≠ .ok () ∨ data.count = 0 then
    fail .validationFailed
  else if record.peripheralType = Peripheral.digitalInput then
    digitalBankPayloadValidate channel data
  else if record.peripheralType = Peripheral.analogInput then
    okIf (channel < 2 && data.count == 4)
  else if record.peripheralType = Peripheral.pwmInput then pwmPayloadValidate channel 2 data
  else if record.peripheralType = Peripheral.uart then okIf (channel < 2)
  else if record.peripheralType = Peripheral.spi then okIf (channel < 2)
  else if record.peripheralType = Peripheral.can then canPayloadValidate channel data
  else if record.peripheralType = Peripheral.i2c then fail .notImplemented
  else fail .validationFailed

/-- The record loop of the two validators, which marks each pair and then checks the
    fields. -/
def recordsValidate (fieldsValidate : Record → Result Unit) (seen : List UInt16) :
    List Record → Result Unit
  | [] => .ok ()
  | record :: records => do
      let seen ← recordPairMark seen record.peripheralType record.channel
      fieldsValidate record
      recordsValidate fieldsValidate seen records

/-- `HIL_APPLICATION_Update_Instruction_validate` -/
def updateInstructionValidate (context : Context) (data : UpdateInstruction) : Result Unit :=
  if context.initialized = 0 then fail .uninitialized
  else if data.tickNumber ≥ context.config.maxExpectedTickCount then fail .validationFailed
  else if data.flags > 1 then fail .validationFailed
  else if data.operations.count = 0 ∨ data.operations.isNull then fail .validationFailed
  else recordsValidate (logicalOperationFieldsValidate context) noneSeen data.operations.elements

/-- `HIL_APPLICATION_Variable_Test_Result_validate` -/
def variableTestResultValidate (context : Context) (data : VariableTestResult) : Result Unit :=
  if context.initialized = 0 then fail .uninitialized
  else if data.tickNumber ≥ context.config.maxExpectedTickCount then fail .validationFailed
  else if data.flags > 1 then fail .validationFailed
  else if ¬ resultConditionIsDefined data.condition then fail .validationFailed
  else if data.condition = ResultCondition.ok ∧ data.problemDetail ≠ 0 then fail .validationFailed
  else if data.records.count ≠ 0 ∧ data.records.isNull then fail .invalidArgument
  else recordsValidate (capturedRecordFieldsValidate context) noneSeen data.records.elements

/-! ## Controls, responses and errors -/

/-- `HIL_APPLICATION_Execution_Control_validate`: `START` or `ABORT`, no flags. -/
def executionControlValidate (context : Context) (data : ExecutionControl) : Result Unit :=
  if context.initialized = 0 then fail .uninitialized
  else if data.command ≠ 1 ∧ data.command ≠ 2 then fail .validationFailed
  else if data.flags ≠ 0 then fail .validationFailed
  else .ok ()

/-- `HIL_APPLICATION_Global_Control_validate`: `RESET_APPLICATION` or `GET_STATUS`, no
    flags. -/
def globalControlValidate (context : Context) (data : GlobalControl) : Result Unit :=
  if context.initialized = 0 then fail .uninitialized
  else if data.command ≠ 1 ∧ data.command ≠ 2 then fail .validationFailed
  else if data.flags ≠ 0 then fail .validationFailed
  else .ok ()

/-- `HIL_APPLICATION_Finalize_Test_Upload_validate` -/
def finalizeTestUploadValidate (context : Context) (data : FinalizeTestUpload) : Result Unit :=
  if context.initialized = 0 then fail .uninitialized
  else okIf (data.flags == 0)

/-- `HIL_APPLICATION_Response_validate` -/
def responseValidate (context : Context) (data : Response) : Result Unit :=
  if context.initialized = 0 then fail .uninitialized
  else if data.scope ≠ ResponseScope.testConfiguration ∧ data.scope ≠ ResponseScope.tick
      ∧ data.scope ≠ ResponseScope.completeTest ∧ data.scope ≠ ResponseScope.executionControl
      ∧ data.scope ≠ ResponseScope.globalControl then
    fail .validationFailed
  else if data.outcome ≠ 1 ∧ data.outcome ≠ 2 ∧ data.outcome ≠ 3 ∧ data.outcome ≠ 4 then
    fail .validationFailed
  else if data.reason < 0 ∨ data.reason > 9 then fail .validationFailed
  else if data.controlCommand ≠ 0 ∧ data.controlCommand ≠ 1 ∧ data.controlCommand ≠ 2 then
    fail .validationFailed
  else if data.globalControlCommand ≠ 0 ∧ data.globalControlCommand ≠ 1
      ∧ data.globalControlCommand ≠ 2 then
    fail .validationFailed
  else .ok ()

/-- `HIL_APPLICATION_Error_validate` -/
def errorValidate (context : Context) (data : Error) : Result Unit :=
  if context.initialized = 0 then fail .uninitialized
  else if data.category < 1 ∨ data.category > 6 ∨ ¬ booleanIsValid data.recoverable
      ∨ ¬ booleanIsValid data.hasTickNumber then
    fail .validationFailed
  else if data.hasTickNumber = 0 ∧ data.tickNumber ≠ 0 then fail .inconsistentTick
  else if data.hasTickNumber = 1 ∧ data.tickNumber ≥ context.config.maxExpectedTickCount then
    fail .inconsistentTick
  else byteSpanU8Validate context data.diagnosticData

/-! ## Rig Status and Run Report -/

/-- The enumerators of `HIL_Application_Failure_Reason_T`. -/
def failureReasons : List Int :=
  [0x0, 0x1, 0x2, 0x10, 0x11, 0x12, 0x20, 0x21, 0x22, 0x23, 0x24, 0x25, 0x30, 0x31,
   0x40, 0x41, 0x42, 0x43, 0x44, 0x45, 0x46, 0x47, 0x50, 0x51, 0x52, 0x53, 0x54, 0x55, 0x56,
   0x60, 0x61, 0x62, 0x63, 0x64, 0x65, 0x70]

/-- `HIL_APPLICATION_Failure_validate` -/
def failureValidate (source stage reason : Int) : Result Unit :=
  if source < FailureOrigin.sourceNone ∨ source > FailureOrigin.sourceExecutionTimer
      ∨ stage < FailureOrigin.stageNone ∨ stage > FailureOrigin.stageCleanup then
    fail .validationFailed
  else if ¬ failureReasons.contains reason then fail .validationFailed
  else if reason = FailureOrigin.reasonNone then
    okIf (source == FailureOrigin.sourceNone && stage == FailureOrigin.stageNone)
  else okIf (source != FailureOrigin.sourceNone && stage != FailureOrigin.stageNone)

/-- `HIL_APPLICATION_RIG_STATUS_READY_FOR_NEW_TEST` -/
def readyForNewTest : UInt32 := 0x01

/-- `HIL_APPLICATION_RIG_STATUS_RESET_PERMITTED` -/
def resetPermitted : UInt32 := 0x04

/-- `HIL_APPLICATION_Rig_Status_validate` -/
def rigStatusValidate (context : Context) (data : RigStatus) : Result Unit :=
  if context.initialized = 0 then fail .uninitialized
  else if data.schemaVersion ≠ 1 then fail .unsupportedMessage
  else if (data.origin ≠ 1 ∧ data.origin ≠ 2) ∨ data.state < RigState.initialising
      ∨ data.state > RigState.fault ∨ data.flags &&& ~~~ 0x0f ≠ 0 then
    fail .validationFailed
  else if data.flags &&& readyForNewTest ≠ 0
      ∧ (data.state ≠ RigState.idle ∨ data.flags ≠ readyForNewTest ||| resetPermitted
        ∨ data.failureReason ≠ FailureOrigin.reasonNone) then
    fail .validationFailed
  else failureValidate data.failureSource data.failureStage data.failureReason

-- `HIL_Application_Run_Report_Section_T`
namespace RunReportValid
def terminal : UInt32 := 0x1
def lastCompletedBoundary : UInt32 := 0x2
def isrTiming : UInt32 := 0x4
def instructionBuffer : UInt32 := 0x8
def resultBuffer : UInt32 := 0x10
def flashThroughput : UInt32 := 0x20
end RunReportValid

/-- The section and sample-count checks of `HIL_APPLICATION_Run_Report_validate` on the
    four diagnostic sections. -/
def runReportSectionsAreValid (data : RunReport) : Bool :=
  let isr := data.isrTiming
  let instructions := data.instructionBuffer
  let results := data.resultBuffer
  let flash := data.flash
  let absent (section_ : UInt32) : Bool := data.validSections &&& section_ == 0
  !(absent RunReportValid.isrTiming
      && (isr.sampleCount.toUInt64 ||| isr.totalCycles ||| isr.minimumCycles.toUInt64
        ||| isr.maximumCycles.toUInt64 ||| isr.maximumBoundary.toUInt64) != 0)
    && !(decide (isr.maximumBoundary > data.expectedTickCount))
    && !(absent RunReportValid.instructionBuffer
      && (instructions.sampleCount ||| instructions.minimumUnreadBytes
        ||| instructions.minimumBoundary) != 0)
    && !(decide (instructions.minimumBoundary > data.expectedTickCount))
    && !(absent RunReportValid.resultBuffer
      && (results.committedRecordCount ||| results.committedBytes ||| results.peakPendingBytes
        ||| results.peakPendingBoundary ||| results.reserveFailureCount
        ||| results.commitFailureCount) != 0)
    && !(decide (results.peakPendingBoundary > data.expectedTickCount))
    && !(absent RunReportValid.flashThroughput
      && (flash.resultPagesDrained.toUInt64 ||| flash.resultBytesDrained
        ||| flash.resultDrainTotalCycles ||| flash.resultDrainMaximumCycles.toUInt64
        ||| flash.instructionPagesRefilled.toUInt64 ||| flash.instructionBytesRefilled
        ||| flash.instructionRefillTotalCycles ||| flash.instructionRefillMaximumCycles.toUInt64
        ||| flash.instructionPublishSampleCount.toUInt64 ||| flash.instructionPublishTotalCycles
        ||| flash.instructionPublishMaximumCycles.toUInt64
        ||| flash.serviceGapSampleCount.toUInt64 ||| flash.serviceGapTotalCycles
        ||| flash.serviceGapMaximumCycles.toUInt64
        ||| flash.refillDrainContentionCount.toUInt64) != 0)
    && !(isr.sampleCount == 0
      && (isr.totalCycles ||| isr.minimumCycles.toUInt64 ||| isr.maximumCycles.toUInt64
        ||| isr.maximumBoundary.toUInt64) != 0)
    && !(instructions.sampleCount == 0
      && (instructions.minimumUnreadBytes ||| instructions.minimumBoundary) != 0)
    && !(flash.resultPagesDrained == 0
      && (flash.resultBytesDrained ||| flash.resultDrainTotalCycles
        ||| flash.resultDrainMaximumCycles.toUInt64) != 0)
    && !(flash.instructionPagesRefilled == 0
      && (flash.instructionBytesRefilled ||| flash.instructionRefillTotalCycles
        ||| flash.instructionRefillMaximumCycles.toUInt64) != 0)
    && !(flash.instructionPublishSampleCount == 0
      && (flash.instructionPublishTotalCycles
        ||| flash.instructionPublishMaximumCycles.toUInt64) != 0)
    && !(flash.serviceGapSampleCount == 0
      && (flash.serviceGapTotalCycles ||| flash.serviceGapMaximumCycles.toUInt64) != 0)

/-- `HIL_APPLICATION_Run_Report_validate` -/
def runReportValidate (context : Context) (data : RunReport) : Result Unit :=
  if context.initialized = 0 then fail .uninitialized
  else if data.schemaVersion ≠ 1 then fail .unsupportedMessage
  else if data.runOutcome < RunReportOutcome.runSuccess
      ∨ data.runOutcome > RunReportOutcome.runAborted
      ∨ data.executionOutcome < RunReportOutcome.executionNotStarted
      ∨ data.executionOutcome > RunReportOutcome.executionAborted
      ∨ data.resultStatus < RunReportOutcome.resultComplete
      ∨ data.resultStatus > RunReportOutcome.resultUnavailable
      ∨ data.validSections &&& ~~~ 0x3f ≠ 0
      ∨ data.validSections &&& RunReportValid.terminal = 0
      ∨ data.expectedTickCount = 0 ∨ data.expectedTickCount > absoluteMaxTickCount
      ∨ data.resultTicksEmitted > data.expectedTickCount then
    fail .validationFailed
  else if ¬ validTickPeriodsUs.contains data.tickPeriodUs then fail .validationFailed
  else do
    failureValidate data.failureSource data.failureStage data.failureReason
    if data.runOutcome = RunReportOutcome.runSuccess
        ∧ (data.executionOutcome ≠ RunReportOutcome.executionComplete
          ∨ data.resultStatus ≠ RunReportOutcome.resultComplete
          ∨ data.resultTicksEmitted ≠ data.expectedTickCount
          ∨ data.failureReason ≠ FailureOrigin.reasonNone) then
      fail .validationFailed
    else if data.runOutcome ≠ RunReportOutcome.runSuccess
        ∧ data.failureReason = FailureOrigin.reasonNone then
      fail .validationFailed
    else if (data.resultStatus = RunReportOutcome.resultComplete
          ∧ data.resultTicksEmitted ≠ data.expectedTickCount)
        ∨ (data.resultStatus = RunReportOutcome.resultPartial
          ∧ (data.resultTicksEmitted = 0 ∨ data.resultTicksEmitted ≥ data.expectedTickCount)) then
      fail .validationFailed
    else if data.executionOutcome = RunReportOutcome.executionNotStarted
        ∧ (data.validSections ≠ RunReportValid.terminal ∨ data.resultTicksEmitted ≠ 0) then
      fail .validationFailed
    else if data.validSections &&& RunReportValid.lastCompletedBoundary = 0
        ∧ data.lastCompletedBoundary ≠ 0 then
      fail .validationFailed
    else if data.validSections &&& RunReportValid.lastCompletedBoundary ≠ 0
        ∧ (data.lastCompletedBoundary > data.expectedTickCount
          ∨ (data.executionOutcome = RunReportOutcome.executionComplete
            ∧ data.lastCompletedBoundary ≠ data.expectedTickCount)) then
      fail .validationFailed
    else if ¬ runReportSectionsAreValid data then fail .validationFailed
    else byteSpanU8Validate context data.extensionData

/-! ## Endpoint-defined containers -/

/-- `HIL_APPLICATION_Arbitrary_Control_validate` -/
def arbitraryControlValidate (context : Context) (_data : ArbitraryControl) : Result Unit :=
  if context.initialized = 0 then fail .uninitialized else .ok ()

/-- `HIL_APPLICATION_Arbitrary_Data_validate` -/
def arbitraryDataValidate (context : Context) (data : ArbitraryData) : Result Unit :=
  if context.initialized = 0 then fail .uninitialized
  else if data.payload.count > context.config.maxVariableDataSize
      ∨ (data.payload.count ≠ 0 ∧ data.payload.isNull) then
    fail .validationFailed
  else .ok ()

end HilRigProtocol.Application
