/-
  Payload encoders (`application_encoding.c`, and the two encoders of
  `application_arbitrary.c`).

  An encoder returns the bytes it stores at `payload`, in offset order, and the size
  that it reports. It decides whether they fit before it stores any of them.
-/
import HilRigProtocol.Application.Size

namespace HilRigProtocol.Application

section
variable [Target]

/-- `HIL_APPLICATION_Byte_Span_encode`: the bytes it stores, as many as it reports. -/
def byteSpanEncode (data : ByteSpan) (payloadCapacity : Nat) : Result (List UInt8) :=
  if data.count ≠ 0 ∧ data.isNull then fail .invalidArgument
  else do
    let requiredSize ← checked .invalidLength (checkedAddSize 1 data.count)
    if payloadCapacity < requiredSize then fail .bufferTooSmall
    else if data.count > 255 then fail .invalidLength
    else do
      let bytes ← data.contents
      .ok (UInt8.ofNat data.count :: bytes)

/-! ## System Information -/

/-- `HIL_APPLICATION_System_Info_Request_encode` -/
def systemInfoRequestEncode (data : SystemInfoRequest) (maxPayloadSize : Nat) :
    Result (List UInt8 × Nat) :=
  if data.applicationProtocolMajor ≠ protocolVersionMajor
      ∨ data.applicationProtocolMinor ≠ protocolVersionMinor
      ∨ data.applicationProtocolPatch ≠ protocolVersionPatch then
    fail .versionMismatch
  else if maxPayloadSize < systemInfoRequestFixedEncodeSize then fail .bufferTooSmall
  else if data.requestFirmwareGitHash > 1 ∨ data.query ≠ 1 then fail .validationFailed
  else do
    let wireQuery ← checked .validationFailed (enumToU8 data.query)
    .ok ([data.requestFirmwareGitHash, wireQuery]
        ++ encodeU16Le data.applicationProtocolMajor
        ++ encodeU16Le data.applicationProtocolMinor
        ++ encodeU16Le data.applicationProtocolPatch, systemInfoRequestFixedEncodeSize)

/-- `HIL_APPLICATION_System_Info_Response_encode` -/
def systemInfoResponseEncode (data : SystemInfoResponse) (maxPayloadSize : Nat) :
    Result (List UInt8 × Nat) :=
  if data.applicationProtocolMajor ≠ protocolVersionMajor
      ∨ data.applicationProtocolMinor ≠ protocolVersionMinor
      ∨ data.applicationProtocolPatch ≠ protocolVersionPatch then
    fail .versionMismatch
  else if maxPayloadSize < systemInfoResponseFixedEncodeSize + data.firmwareGitHash.count
      + data.diagnosticData.count then
    fail .bufferTooSmall
  else do
    let versions := encodeU16Le data.applicationProtocolMajor
      ++ encodeU16Le data.applicationProtocolMinor ++ encodeU16Le data.applicationProtocolPatch
      ++ encodeU16Le data.firmwareVersionMajor ++ encodeU16Le data.firmwareVersionMinor
      ++ encodeU16Le data.firmwareVersionPatch
    let diagnostic ← byteSpanEncode data.diagnosticData (maxPayloadSize - versions.length)
    let gitHash ← byteSpanEncode data.firmwareGitHash
      (maxPayloadSize - (versions ++ diagnostic).length)
    let payload := versions ++ diagnostic ++ gitHash
    .ok (payload, payload.length)

/-! ## Test Configuration -/

/-- The check that an encoder makes of its running total. -/
def ofSize (expected : Nat) (bytes : List UInt8) : Result (List UInt8) :=
  if bytes.length ≠ expected then fail .internalError else .ok bytes

/-- `HIL_APPLICATION_Config_Enum_encode` -/
def configEnumEncode (value : Int) : Result UInt8 := checked .validationFailed (enumToU8 value)

/-- `HIL_APPLICATION_Digital_Input_Config_encode` -/
def digitalInputConfigEncode (data : DigitalInputConfig) : Result (List UInt8) := do
  let voltageLevel ← configEnumEncode data.voltageLevel
  .ok [data.enabled, voltageLevel]

/-- `HIL_APPLICATION_Digital_Output_Config_encode` -/
def digitalOutputConfigEncode (data : DigitalOutputConfig) : Result (List UInt8) := do
  let voltageLevel ← configEnumEncode data.voltageLevel
  .ok [data.enabled, voltageLevel, data.initialHigh]

/-- `HIL_APPLICATION_Analog_Input_Config_encode` -/
def analogInputConfigEncode (data : AnalogInputConfig) : Result (List UInt8) := .ok [data.enabled]

/-- `HIL_APPLICATION_Analog_Output_Config_encode` -/
def analogOutputConfigEncode (data : AnalogOutputConfig) : Result (List UInt8) :=
  .ok [data.enabled]

/-- `HIL_APPLICATION_Pwm_Input_Config_encode` -/
def pwmInputConfigEncode (data : PwmInputConfig) : Result (List UInt8) := do
  let voltageLevel ← configEnumEncode data.voltageLevel
  .ok [data.enabled, voltageLevel]

/-- `HIL_APPLICATION_Pwm_Output_Config_encode` -/
def pwmOutputConfigEncode (data : PwmOutputConfig) : Result (List UInt8) := do
  let voltageLevel ← configEnumEncode data.voltageLevel
  ofSize 8 ([data.enabled, voltageLevel] ++ encodeU32Le data.initialPeriodNanoseconds
    ++ encodeU16Le data.initialDutyCyclePermyriad)

/-- `HIL_APPLICATION_Can_Config_encode` -/
def canConfigEncode (data : CanConfig) : Result (List UInt8) :=
  ofSize 9 ([data.enabled] ++ encodeU32Le data.bitRate ++ encodeU16Le data.filterId
    ++ encodeU16Le data.filterMask)

/-- `HIL_APPLICATION_Spi_Config_encode` -/
def spiConfigEncode (data : SpiConfig) : Result (List UInt8) := do
  let role ← configEnumEncode data.role
  let dataWidth ← configEnumEncode data.dataWidth
  let bitOrder ← configEnumEncode data.bitOrder
  let clockPolarity ← configEnumEncode data.clockPolarity
  let clockPhase ← configEnumEncode data.clockPhase
  ofSize 10 ([data.enabled] ++ encodeU32Le data.bitRate
    ++ [role, dataWidth, bitOrder, clockPolarity, clockPhase])

/-- `HIL_APPLICATION_Uart_Config_encode` -/
def uartConfigEncode (data : UartConfig) : Result (List UInt8) := do
  let electricalMode ← configEnumEncode data.electricalMode
  let wordLength ← configEnumEncode data.wordLength
  let parity ← configEnumEncode data.parity
  let stopBits ← configEnumEncode data.stopBits
  ofSize 11 ([data.enabled] ++ encodeU32Le data.baudRate
    ++ [electricalMode, wordLength, parity, stopBits, data.rxEnabled, data.txEnabled])

/-- `HIL_APPLICATION_I2c_Config_encode` -/
def i2cConfigEncode (data : I2cConfig) : Result (List UInt8) := do
  let role ← configEnumEncode data.role
  let voltageLevel ← configEnumEncode data.voltageLevel
  let pullUp ← configEnumEncode data.pullUp
  ofSize 10 ([data.enabled] ++ encodeU32Le data.bitRate ++ [role]
    ++ encodeU16Le data.ownAddress7bit ++ [voltageLevel, pullUp])

/-- `HIL_APPLICATION_ENCODE_CONFIG_ARRAY` -/
def encodeConfigArray {α : Type} (encoder : α → Result (List UInt8)) :
    List α → Result (List UInt8)
  | [] => .ok []
  | x :: xs => do
      let bytes ← encoder x
      let rest ← encodeConfigArray encoder xs
      .ok (bytes ++ rest)

/-- `HIL_APPLICATION_Test_Configuration_encode` -/
def testConfigurationEncode (data : TestConfiguration) (maxPayloadSize : Nat) :
    Result (List UInt8 × Nat) := do
  let requiredSize ← testConfigurationSize data
  if maxPayloadSize < requiredSize then fail .bufferTooSmall
  else do
    let digitalIn ← encodeConfigArray digitalInputConfigEncode data.digitalIn.toList
    let digitalOut ← encodeConfigArray digitalOutputConfigEncode data.digitalOut.toList
    let analogIn ← encodeConfigArray analogInputConfigEncode data.analogIn.toList
    let analogOut ← encodeConfigArray analogOutputConfigEncode data.analogOut.toList
    let pwmIn ← encodeConfigArray pwmInputConfigEncode data.pwmIn.toList
    let pwmOut ← encodeConfigArray pwmOutputConfigEncode data.pwmOut.toList
    let can ← encodeConfigArray canConfigEncode data.can.toList
    let spi ← encodeConfigArray spiConfigEncode data.spi.toList
    let uart ← encodeConfigArray uartConfigEncode data.uart.toList
    let i2c ← encodeConfigArray i2cConfigEncode data.i2c.toList
    let fixed := encodeU32Le data.tickDurationUs ++ encodeU32Le data.expectedTickCount
      ++ encodeU32Le data.flags ++ digitalIn ++ digitalOut ++ analogIn ++ analogOut ++ pwmIn
      ++ pwmOut ++ can ++ spi ++ uart ++ i2c
    let extension ← byteSpanEncode data.extensionData (maxPayloadSize - fixed.length)
    let payload ← ofSize requiredSize (fixed ++ extension)
    .ok (payload, payload.length)

/-! ## Instructions and results -/

/-- The wire form of a PWM period and duty cycle. -/
def pwmValueEncode (data : PwmValue) : List UInt8 :=
  encodeU32Le data.periodNanoseconds ++ encodeU16Le data.dutyCyclePermyriad

/-- `HIL_APPLICATION_Test_Instructions_encode` -/
def testInstructionsEncode (data : TestInstruction) (maxPayloadSize : Nat) :
    Result (List UInt8 × Nat) :=
  if maxPayloadSize < testInstructionFixedPayloadSize then fail .bufferTooSmall
  else do
    let payload ← ofSize testInstructionFixedPayloadSize
      (encodeU32Le data.tickNumber ++ data.digitalOutputs.toList
        ++ data.analogOutputs.toList.flatMap encodeU32Le
        ++ data.pwmOutputs.toList.flatMap pwmValueEncode)
    .ok (payload, payload.length)

/-- `HIL_APPLICATION_Aligned_Record_encode` -/
def alignedRecordEncode (record : Record) : Result (List UInt8) := do
  let wirePeriph ← checked .validationFailed (enumToU8 record.peripheralType)
  let bytes ← record.payload.contents
  .ok ([wirePeriph, record.channel] ++ encodeU16Le (UInt16.ofNat record.payload.count) ++ bytes
    ++ List.replicate (align4Padding record.payload.count) 0)

/-- The record loop of the two variable-length encoders. -/
def alignedRecordsEncode : List Record → Result (List UInt8)
  | [] => .ok []
  | record :: records => do
      let bytes ← alignedRecordEncode record
      let rest ← alignedRecordsEncode records
      .ok (bytes ++ rest)

/-- `HIL_APPLICATION_Update_Instruction_encode` -/
def updateInstructionEncode (data : UpdateInstruction) (maxPayloadSize : Nat) :
    Result (List UInt8 × Nat) := do
  let requiredSize ← updateInstructionSize data
  if maxPayloadSize < requiredSize then fail .bufferTooSmall
  else do
    let header := encodeU32Le data.tickNumber ++ [UInt8.ofNat data.operations.count, data.flags]
      ++ encodeU16Le 0
    let records ← alignedRecordsEncode data.operations.elements
    let payload ← ofSize requiredSize (header ++ records)
    .ok (payload, payload.length)

/-- `HIL_APPLICATION_Test_Result_encode` -/
def testResultEncode (data : TestResult) (maxPayloadSize : Nat) : Result (List UInt8 × Nat) :=
  if maxPayloadSize < testResultFixedPayloadSize then fail .bufferTooSmall
  else do
    let wireCondition ← checked .validationFailed (enumToU8 data.condition)
    let payload ← ofSize testResultFixedPayloadSize
      (encodeU32Le data.tickNumber ++ data.digitalInputs.toList
        ++ data.analogInputs.toList.flatMap encodeU32Le
        ++ data.pwmInputs.toList.flatMap pwmValueEncode
        ++ [wireCondition] ++ encodeU32Le data.problemDetail)
    .ok (payload, payload.length)

/-- `HIL_APPLICATION_Variable_Test_Result_encode` -/
def variableTestResultEncode (data : VariableTestResult) (maxPayloadSize : Nat) :
    Result (List UInt8 × Nat) := do
  let requiredSize ← variableTestResultSize data
  if maxPayloadSize < requiredSize then fail .bufferTooSmall
  else do
    let wireCondition ← checked .validationFailed (enumToU8 data.condition)
    let header := encodeU32Le data.tickNumber
      ++ [UInt8.ofNat data.records.count, wireCondition, data.flags, 0]
      ++ encodeU32Le data.problemDetail
    let records ← alignedRecordsEncode data.records.elements
    let payload ← ofSize requiredSize (header ++ records)
    .ok (payload, payload.length)

/-! ## Controls, responses and errors -/

/-- `HIL_APPLICATION_Execution_Control_encode` -/
def executionControlEncode (data : ExecutionControl) (maxPayloadSize : Nat) :
    Result (List UInt8 × Nat) :=
  if maxPayloadSize < controlFixedEncodeSize then fail .bufferTooSmall
  else do
    let wireCommand ← checked .validationFailed (enumToU8 data.command)
    let payload := [wireCommand] ++ encodeU32Le data.flags
    .ok (payload, payload.length)

/-- `HIL_APPLICATION_Global_Control_encode` -/
def globalControlEncode (data : GlobalControl) (maxPayloadSize : Nat) :
    Result (List UInt8 × Nat) :=
  if maxPayloadSize < controlFixedEncodeSize then fail .bufferTooSmall
  else do
    let wireCommand ← checked .validationFailed (enumToU8 data.command)
    let payload := [wireCommand] ++ encodeU32Le data.flags
    .ok (payload, payload.length)

/-- `HIL_APPLICATION_Finalize_Test_Upload_encode` -/
def finalizeTestUploadEncode (context : Context) (data : FinalizeTestUpload)
    (maxPayloadSize : Nat) : Result (List UInt8 × Nat) :=
  if maxPayloadSize < wireU32Size then fail .bufferTooSmall
  else do
    finalizeTestUploadValidate context data
    .ok (encodeU32Le data.flags, wireU32Size)

/-- `HIL_APPLICATION_Response_encode` -/
def responseEncode (context : Context) (data : Response) (maxPayloadSize : Nat) :
    Result (List UInt8 × Nat) := do
  responseValidate context data
  if maxPayloadSize < responseFixedPayloadSize then fail .bufferTooSmall
  else do
    let wireScope ← checked .validationFailed (enumToU8 data.scope)
    let wireOutcome ← checked .validationFailed (enumToU8 data.outcome)
    let wireReason ← checked .validationFailed (enumToU8 data.reason)
    let wireControlCommand ← checked .validationFailed (enumToU8 data.controlCommand)
    let wireGlobalControlCommand ← checked .validationFailed (enumToU8 data.globalControlCommand)
    let payload ← ofSize responseFixedPayloadSize
      ([wireScope, wireOutcome, wireReason] ++ encodeU32Le data.tickNumber
        ++ [wireControlCommand, wireGlobalControlCommand] ++ encodeU32Le data.detail)
    .ok (payload, payload.length)

/-- `HIL_APPLICATION_Error_encode` -/
def errorEncode (context : Context) (data : Error) (maxPayloadSize : Nat) :
    Result (List UInt8 × Nat) := do
  errorValidate context data
  let payloadSize ← checked .invalidLength
    (checkedAddSize errorFixedPayloadSize data.diagnosticData.count)
  if maxPayloadSize < payloadSize then fail .bufferTooSmall
  else do
    let wireCategory ← checked .validationFailed (enumToU8 data.category)
    let fields ← ofSize 11 ([wireCategory, data.recoverable, data.hasTickNumber]
      ++ encodeU32Le data.tickNumber ++ encodeU32Le data.detail)
    let span ← byteSpanEncode data.diagnosticData (maxPayloadSize - fields.length)
    let payload ← ofSize payloadSize (fields ++ span)
    .ok (payload, payloadSize)

/-! ## Rig Status and Run Report -/

/-- `HIL_APPLICATION_Rig_Status_encode` -/
def rigStatusEncode (context : Context) (data : RigStatus) (capacity : Nat) :
    Result (List UInt8 × Nat) := do
  rigStatusValidate context data
  if capacity < rigStatusPayloadSize then fail .bufferTooSmall
  else do
    let origin ← checked .validationFailed (enumToU8 data.origin)
    let state ← checked .validationFailed (enumToU8 data.state)
    let source ← checked .validationFailed (enumToU8 data.failureSource)
    let stage ← checked .validationFailed (enumToU8 data.failureStage)
    .ok (encodeU16Le data.schemaVersion ++ [origin, state] ++ encodeU32Le data.flags
      ++ [source, stage] ++ encodeU16Le (UInt16.ofInt data.failureReason), rigStatusPayloadSize)

/-- The wire form of the timing section of a Run Report. -/
def runIsrTimingEncode (data : RunIsrTiming) : List UInt8 :=
  encodeU32Le data.sampleCount ++ encodeU64Le data.totalCycles ++ encodeU32Le data.minimumCycles
    ++ encodeU32Le data.maximumCycles ++ encodeU32Le data.maximumBoundary

/-- The wire form of the instruction-buffer section. -/
def runInstructionBufferEncode (data : RunInstructionBuffer) : List UInt8 :=
  encodeU32Le data.sampleCount ++ encodeU32Le data.minimumUnreadBytes
    ++ encodeU32Le data.minimumBoundary

/-- The wire form of the result-buffer section. -/
def runResultBufferEncode (data : RunResultBuffer) : List UInt8 :=
  encodeU32Le data.committedRecordCount ++ encodeU32Le data.committedBytes
    ++ encodeU32Le data.peakPendingBytes ++ encodeU32Le data.peakPendingBoundary
    ++ encodeU32Le data.reserveFailureCount ++ encodeU32Le data.commitFailureCount

/-- The wire form of the flash section. -/
def runFlashStatisticsEncode (data : RunFlashStatistics) : List UInt8 :=
  encodeU32Le data.resultPagesDrained ++ encodeU64Le data.resultBytesDrained
    ++ encodeU64Le data.resultDrainTotalCycles ++ encodeU32Le data.resultDrainMaximumCycles
    ++ encodeU32Le data.instructionPagesRefilled ++ encodeU64Le data.instructionBytesRefilled
    ++ encodeU64Le data.instructionRefillTotalCycles
    ++ encodeU32Le data.instructionRefillMaximumCycles
    ++ encodeU32Le data.instructionPublishSampleCount
    ++ encodeU64Le data.instructionPublishTotalCycles
    ++ encodeU32Le data.instructionPublishMaximumCycles
    ++ encodeU32Le data.serviceGapSampleCount ++ encodeU64Le data.serviceGapTotalCycles
    ++ encodeU32Le data.serviceGapMaximumCycles ++ encodeU32Le data.refillDrainContentionCount

/-- `HIL_APPLICATION_Run_Report_encode`. The byte at offset 7 and the two at 10 are
    reserved. -/
def runReportEncode (context : Context) (data : RunReport) (capacity : Nat) :
    Result (List UInt8 × Nat) := do
  let size ← runReportSize context data
  if capacity < size then fail .bufferTooSmall
  else do
    let runOutcome ← checked .validationFailed (enumToU8 data.runOutcome)
    let executionOutcome ← checked .validationFailed (enumToU8 data.executionOutcome)
    let resultStatus ← checked .validationFailed (enumToU8 data.resultStatus)
    let failureSource ← checked .validationFailed (enumToU8 data.failureSource)
    let failureStage ← checked .validationFailed (enumToU8 data.failureStage)
    let extension ← data.extensionData.contents
    .ok (encodeU16Le data.schemaVersion
      ++ [runOutcome, executionOutcome, resultStatus, failureSource, failureStage, 0]
      ++ encodeU16Le (UInt16.ofInt data.failureReason) ++ encodeU16Le 0
      ++ encodeU32Le data.validSections ++ encodeU32Le data.expectedTickCount
      ++ encodeU32Le data.tickPeriodUs ++ encodeU32Le data.lastCompletedBoundary
      ++ encodeU32Le data.resultTicksEmitted ++ runIsrTimingEncode data.isrTiming
      ++ runInstructionBufferEncode data.instructionBuffer
      ++ runResultBufferEncode data.resultBuffer ++ runFlashStatisticsEncode data.flash
      ++ [UInt8.ofNat data.extensionData.count] ++ extension, size)

/-! ## Endpoint-defined containers -/

/-- `HIL_APPLICATION_Arbitrary_Control_encode` -/
def arbitraryControlEncode (data : ArbitraryControl) (capacity : Nat) :
    Result (List UInt8 × Nat) :=
  if capacity < arbitraryControlPayloadSize then fail .bufferTooSmall
  else .ok (encodeU32Le data.controlId ++ encodeU32Le data.value, arbitraryControlPayloadSize)

/-- `HIL_APPLICATION_Arbitrary_Data_encode` -/
def arbitraryDataEncode (context : Context) (data : ArbitraryData) (capacity : Nat) :
    Result (List UInt8 × Nat) := do
  let payloadSize ← arbitraryDataSize context data
  if capacity < payloadSize then fail .bufferTooSmall
  else do
    let bytes ← data.payload.contents
    .ok (encodeU32Le data.dataId ++ encodeU16Le (UInt16.ofNat data.payload.count) ++ bytes,
      payloadSize)

/-- `HIL_APPLICATION_Body_Encode` -/
def bodyEncode (context : Context) (body : Body) (payloadCapacity : Nat) :
    Result (List UInt8 × Nat) :=
  match body with
  | .runReport data => runReportEncode context data payloadCapacity
  | .rigStatus data => rigStatusEncode context data payloadCapacity
  | .systemInfoRequest data => systemInfoRequestEncode data payloadCapacity
  | .systemInfoResponse data => systemInfoResponseEncode data payloadCapacity
  | .testConfiguration data => testConfigurationEncode data payloadCapacity
  | .testInstruction data => testInstructionsEncode data payloadCapacity
  | .updateInstruction data => updateInstructionEncode data payloadCapacity
  | .finalizeTestUpload data => finalizeTestUploadEncode context data payloadCapacity
  | .executionControl data => executionControlEncode data payloadCapacity
  | .globalControl data => globalControlEncode data payloadCapacity
  | .testResult data => testResultEncode data payloadCapacity
  | .variableTestResult data => variableTestResultEncode data payloadCapacity
  | .response data => responseEncode context data payloadCapacity
  | .error data => errorEncode context data payloadCapacity
  | .arbitraryControl data => arbitraryControlEncode data payloadCapacity
  | .arbitraryData data => arbitraryDataEncode context data payloadCapacity

end

end HilRigProtocol.Application
