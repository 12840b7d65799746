/-
  Payload scanners and decoders (`application_decoding.c`, and the scanner and the
  decoders of `application_arbitrary.c`).

  A function sees the payload bytes only. Where the source keeps an offset into them,
  the definitions keep the bytes from there on; an offset that moves past the end, which
  would make the next size subtraction wrap, counts as an access out of bounds, and so
  does every other size that the source computes without a check and that would wrap. A
  decoder stores spans and record arrays in the caller's storage, and `store` is the bound
  of each such write.
-/
import HilRigProtocol.Application.Size

namespace HilRigProtocol.Application

open Library Library.Reader

/-- What a decoder publishes: the value, the payload bytes it took and the storage bytes
    it used. -/
structure Decoded (α : Type) where
  data : α
  consumed : Nat
  used : Nat

/-- A write of `size` bytes at `offset` of the decode storage. -/
def store (storage : Storage) (offset size : Nat) : Result Unit :=
  if size ≠ 0 ∧ (storage.isNull ∨ storage.capacity < offset + size) then .error .outOfBounds
  else .ok ()

/-- A span before a decoder fills it. -/
def emptySpan : ByteSpan := .null 0 (by decide)

/-- `HIL_APPLICATION_Fixed_Body_Validate_Size`. The types with a variable-length body have
    scanners of their own. -/
def fixedBodyValidateSize (type : MessageType) (payloadSize : Nat) : Result Unit :=
  let sized (expectedSize : Nat) : Result Unit :=
    if payloadSize = expectedSize then .ok () else fail .malformedMessage
  match type with
  | .systemInfoRequest => sized systemInfoRequestFixedEncodeSize
  | .testInstruction => sized testInstructionFixedPayloadSize
  | .executionControl => sized controlFixedEncodeSize
  | .globalControl => sized controlFixedEncodeSize
  | .finalizeTestUpload => sized wireU32Size
  | .testResult => sized testResultFixedPayloadSize
  | .response => sized responseFixedPayloadSize
  | .rigStatus => sized rigStatusPayloadSize
  | .arbitraryControl => sized arbitraryControlPayloadSize
  | .testConfiguration => fail .invalidArgument
  | .updateInstruction => fail .invalidArgument
  | .variableTestResult => fail .invalidArgument
  | .systemInfoResponse => fail .invalidArgument
  | .error => fail .invalidArgument
  | .runReport => fail .invalidArgument
  | .arbitraryData => fail .invalidArgument

section
variable [Target]

/-- `HIL_APPLICATION_Byte_Span_decode` into the storage from `offset` on, whose capacity
    the caller subtracts: the span, the storage bytes it takes, and what follows it in the
    payload. -/
def byteSpanDecode (storage : Storage) (offset : Nat) (payload : List UInt8) :
    Result (ByteSpan × Nat × List UInt8) := do
  let capacity ← subSize storage.capacity offset
  if payload.length < 1 then fail .malformedMessage
  else do
    let (spanSize, rest) ← read byte payload
    let requiredEncoded ← checked .invalidLength (checkedAddSize 1 spanSize.toNat)
    if payload.length < requiredEncoded then fail .malformedMessage
    else if spanSize.toNat > capacity then fail .bufferTooSmall
    else if spanSize ≠ 0 ∧ storage.isNull then fail .bufferTooSmall
    else do
      let (bytes, rest) ← read (vector byte spanSize.toNat) rest
      store storage offset spanSize.toNat
      .ok (.ofVector bytes (byte_fits spanSize), spanSize.toNat, rest)

/-! ## System Information -/

/-- The fields of a System Information Request, in offset order. -/
def systemInfoRequestFields : Reader SystemInfoRequest := do
  let requestFirmwareGitHash ← byte
  let query ← readEnum
  let applicationProtocolMajor ← readU16Le
  let applicationProtocolMinor ← readU16Le
  let applicationProtocolPatch ← readU16Le
  pure
    { requestFirmwareGitHash, query, applicationProtocolMajor, applicationProtocolMinor,
      applicationProtocolPatch }

/-- `HIL_APPLICATION_System_Info_Request_decode` -/
def systemInfoRequestDecode (payload : List UInt8) : Result (Decoded SystemInfoRequest) := do
  fixedBodyValidateSize .systemInfoRequest payload.length
  let (data, _) ← read systemInfoRequestFields payload
  .ok { data, consumed := systemInfoRequestFixedEncodeSize, used := 0 }

/-- `HIL_APPLICATION_System_Info_Response_Scan` -/
def systemInfoResponseScan (context : Context) (payload : List UInt8) : Result Nat :=
  if payload.length < systemInfoResponseFixedEncodeSize then fail .malformedMessage
  else do
    let (_, rest) ← read (vector byte 12) payload
    let (diagnosticSize, rest) ← read byte rest
    if rest.length < diagnosticSize.toNat then fail .malformedMessage
    else if diagnosticSize.toNat > context.config.maxVariableDataSize then fail .validationFailed
    else do
      let (_, rest) ← read (vector byte diagnosticSize.toNat) rest
      if rest.length < 1 then fail .malformedMessage
      else do
        let (gitHashSize, rest) ← read byte rest
        if rest.length < gitHashSize.toNat then fail .malformedMessage
        else if gitHashSize.toNat > context.config.maxVariableDataSize then fail .validationFailed
        else do
          let (_, rest) ← read (vector byte gitHashSize.toNat) rest
          if rest.length ≠ 0 then fail .malformedMessage
          else checked .malformedMessage (checkedAddSize diagnosticSize.toNat gitHashSize.toNat)

/-- The six version fields of a System Information Response; the spans come after them. -/
def systemInfoResponseFields : Reader SystemInfoResponse := do
  let applicationProtocolMajor ← readU16Le
  let applicationProtocolMinor ← readU16Le
  let applicationProtocolPatch ← readU16Le
  let firmwareVersionMajor ← readU16Le
  let firmwareVersionMinor ← readU16Le
  let firmwareVersionPatch ← readU16Le
  pure
    { applicationProtocolMajor, applicationProtocolMinor, applicationProtocolPatch,
      firmwareVersionMajor, firmwareVersionMinor, firmwareVersionPatch,
      firmwareGitHash := emptySpan, diagnosticData := emptySpan }

/-- `HIL_APPLICATION_System_Info_Response_decode` -/
def systemInfoResponseDecode (context : Context) (payload : List UInt8) (storage : Storage) :
    Result (Decoded SystemInfoResponse) := do
  let decodedTotal ← systemInfoResponseScan context payload
  if decodedTotal > storage.capacity then fail .bufferTooSmall
  else do
    let (fields, rest) ← read systemInfoResponseFields payload
    let (diagnosticData, diagnosticUsed, rest) ← byteSpanDecode storage 0 rest
    let (firmwareGitHash, gitHashUsed, rest) ← byteSpanDecode storage diagnosticUsed rest
    let used ← addSize diagnosticUsed gitHashUsed
    .ok { data := { fields with diagnosticData, firmwareGitHash }
          consumed := payload.length - rest.length
          used }

/-! ## Test Configuration -/

/-- `HIL_APPLICATION_Digital_Input_Config_decode` -/
def digitalInputConfigDecode : Reader DigitalInputConfig := do
  let enabled ← byte
  let voltageLevel ← readEnum
  pure { enabled, voltageLevel }

/-- `HIL_APPLICATION_Digital_Output_Config_decode` -/
def digitalOutputConfigDecode : Reader DigitalOutputConfig := do
  let enabled ← byte
  let voltageLevel ← readEnum
  let initialHigh ← byte
  pure { enabled, voltageLevel, initialHigh }

/-- `HIL_APPLICATION_Analog_Input_Config_decode` -/
def analogInputConfigDecode : Reader AnalogInputConfig := do
  let enabled ← byte
  pure { enabled }

/-- `HIL_APPLICATION_Analog_Output_Config_decode` -/
def analogOutputConfigDecode : Reader AnalogOutputConfig := do
  let enabled ← byte
  pure { enabled }

/-- `HIL_APPLICATION_Pwm_Input_Config_decode` -/
def pwmInputConfigDecode : Reader PwmInputConfig := do
  let enabled ← byte
  let voltageLevel ← readEnum
  pure { enabled, voltageLevel }

/-- `HIL_APPLICATION_Pwm_Output_Config_decode` -/
def pwmOutputConfigDecode : Reader PwmOutputConfig := do
  let enabled ← byte
  let voltageLevel ← readEnum
  let initialPeriodNanoseconds ← readU32Le
  let initialDutyCyclePermyriad ← readU16Le
  pure { enabled, voltageLevel, initialPeriodNanoseconds, initialDutyCyclePermyriad }

/-- `HIL_APPLICATION_Can_Config_decode` -/
def canConfigDecode : Reader CanConfig := do
  let enabled ← byte
  let bitRate ← readU32Le
  let filterId ← readU16Le
  let filterMask ← readU16Le
  pure { enabled, bitRate, filterId, filterMask }

/-- `HIL_APPLICATION_Spi_Config_decode` -/
def spiConfigDecode : Reader SpiConfig := do
  let enabled ← byte
  let bitRate ← readU32Le
  let role ← readEnum
  let dataWidth ← readEnum
  let bitOrder ← readEnum
  let clockPolarity ← readEnum
  let clockPhase ← readEnum
  pure { enabled, bitRate, role, dataWidth, bitOrder, clockPolarity, clockPhase }

/-- `HIL_APPLICATION_Uart_Config_decode` -/
def uartConfigDecode : Reader UartConfig := do
  let enabled ← byte
  let baudRate ← readU32Le
  let electricalMode ← readEnum
  let wordLength ← readEnum
  let parity ← readEnum
  let stopBits ← readEnum
  let rxEnabled ← byte
  let txEnabled ← byte
  pure { enabled, baudRate, electricalMode, wordLength, parity, stopBits, rxEnabled, txEnabled }

/-- `HIL_APPLICATION_I2c_Config_decode` -/
def i2cConfigDecode : Reader I2cConfig := do
  let enabled ← byte
  let bitRate ← readU32Le
  let role ← readEnum
  let ownAddress7bit ← readU16Le
  let voltageLevel ← readEnum
  let pullUp ← readEnum
  pure { enabled, bitRate, role, ownAddress7bit, voltageLevel, pullUp }

/-- `HIL_APPLICATION_TEST_CONFIG_EXTENSION_LENGTH_OFFSET` -/
def testConfigExtensionLengthOffset : Nat := 170

/-- The fixed fields of a Test Configuration, in offset order
    (`HIL_APPLICATION_DECODE_CONFIG_ARRAY` for each array). -/
def testConfigurationFields : Reader TestConfiguration := do
  let tickDurationUs ← readU32Le
  let expectedTickCount ← readU32Le
  let flags ← readU32Le
  let digitalIn ← vector digitalInputConfigDecode 10
  let digitalOut ← vector digitalOutputConfigDecode 10
  let analogIn ← vector analogInputConfigDecode 2
  let analogOut ← vector analogOutputConfigDecode 6
  let pwmIn ← vector pwmInputConfigDecode 2
  let pwmOut ← vector pwmOutputConfigDecode 2
  let can ← vector canConfigDecode 2
  let spi ← vector spiConfigDecode 2
  let uart ← vector uartConfigDecode 2
  let i2c ← vector i2cConfigDecode 2
  pure
    { tickDurationUs, expectedTickCount, flags, digitalIn, digitalOut, analogIn, analogOut,
      pwmIn, pwmOut, can, spi, uart, i2c, extensionData := emptySpan }

/-- `HIL_APPLICATION_Test_Configuration_decode` -/
def testConfigurationDecode (context : Context) (payload : List UInt8) (storage : Storage) :
    Result (Decoded TestConfiguration) :=
  if payload.length < testConfigFixedPayloadSize then fail .malformedMessage
  else do
    let extensionSize ← byteAt payload testConfigExtensionLengthOffset
    let requiredPayloadSize ← checked .invalidLength
      (checkedAddSize testConfigFixedPayloadSize extensionSize.toNat)
    if payload.length ≠ requiredPayloadSize then fail .malformedMessage
    else if extensionSize.toNat > context.config.maxVariableDataSize then fail .validationFailed
    else do
      let (fields, rest) ← read testConfigurationFields payload
      if payload.length - rest.length ≠ testConfigExtensionLengthOffset then fail .internalError
      else do
        let (extensionData, used, rest) ← byteSpanDecode storage 0 rest
        .ok { data := { fields with extensionData }
              consumed := payload.length - rest.length
              used }

/-- A span that stays where its `size` bytes stand in the payload, and what follows them.
    It is NULL when it is empty. -/
def spanInPayload (size : UInt8) (payload : List UInt8) : Result (ByteSpan × List UInt8) := do
  let (bytes, rest) ← read (vector byte size.toNat) payload
  .ok (.ofVector bytes (byte_fits size), rest)

/-- `HIL_APPLICATION_Test_Configuration_Encoded_Validate` -/
def testConfigurationEncodedValidate (context : Context) (payload : List UInt8) : Result Nat :=
  if payload.length < testConfigFixedPayloadSize then fail .malformedMessage
  else do
    let extensionSize ← byteAt payload testConfigExtensionLengthOffset
    let requiredPayloadSize ← checked .invalidLength
      (checkedAddSize testConfigFixedPayloadSize extensionSize.toNat)
    if payload.length ≠ requiredPayloadSize then fail .malformedMessage
    else if extensionSize.toNat > context.config.maxVariableDataSize then fail .validationFailed
    else do
      let (fields, rest) ← read testConfigurationFields payload
      if payload.length - rest.length ≠ testConfigExtensionLengthOffset then fail .internalError
      else do
        let (extensionData, _) ← spanInPayload extensionSize (rest.drop 1)
        testConfigurationValidate context { fields with extensionData }
        .ok extensionSize.toNat

/-! ## Fixed instructions and results -/

/-- The wire order of a PWM period and duty cycle. -/
def pwmValueDecode : Reader PwmValue := do
  let periodNanoseconds ← readU32Le
  let dutyCyclePermyriad ← readU16Le
  pure { periodNanoseconds, dutyCyclePermyriad }

/-- The fields of a Test Instruction, in offset order. -/
def testInstructionFields : Reader TestInstruction := do
  let tickNumber ← readU32Le
  let digitalOutputs ← vector byte 10
  let analogOutputs ← vector readU32Le 6
  let pwmOutputs ← vector pwmValueDecode 2
  pure { tickNumber, digitalOutputs, analogOutputs, pwmOutputs }

/-- `HIL_APPLICATION_Test_Instructions_decode` -/
def testInstructionsDecode (payload : List UInt8) : Result (Decoded TestInstruction) := do
  fixedBodyValidateSize .testInstruction payload.length
  let (data, rest) ← read testInstructionFields payload
  if payload.length - rest.length ≠ testInstructionFixedPayloadSize then fail .internalError
  else .ok { data, consumed := payload.length - rest.length, used := 0 }

/-- The fields of a Test Result, in offset order. -/
def testResultFields : Reader TestResult := do
  let tickNumber ← readU32Le
  let digitalInputs ← vector byte 10
  let analogInputs ← vector readU32Le 2
  let pwmInputs ← vector pwmValueDecode 2
  let condition ← readEnum
  let problemDetail ← readU32Le
  pure { tickNumber, digitalInputs, analogInputs, pwmInputs, condition, problemDetail }

/-- `HIL_APPLICATION_Test_Result_decode` -/
def testResultDecode (payload : List UInt8) : Result (Decoded TestResult) := do
  fixedBodyValidateSize .testResult payload.length
  let (data, rest) ← read testResultFields payload
  if payload.length - rest.length ≠ testResultFixedPayloadSize then fail .internalError
  else .ok { data, consumed := payload.length - rest.length, used := 0 }

/-! ## Records -/

/-- The four bytes in front of a record's data. -/
structure RecordHeader where
  peripheralType : Int
  channel : UInt8
  payloadLength : UInt16

/-- The fields of a record header, in offset order. -/
def recordHeader : Reader RecordHeader := do
  let peripheralType ← readEnum
  let channel ← byte
  let payloadLength ← readU16Le
  pure { peripheralType, channel, payloadLength }

/-- A record with the header's type and channel and as many data bytes as it says. -/
def RecordHeader.record (header : RecordHeader)
    (data : List.Vector UInt8 header.payloadLength.toNat) : Record where
  peripheralType := header.peripheralType
  channel := header.channel
  payload := .ofVector data header.payloadLength.toNat_lt

/-- The loop of `HIL_APPLICATION_Aligned_Records_Scan`, with `recordCount` records left;
    the message type selects `fieldsValidate`. -/
def alignedRecordsScan (context : Context) (fieldsValidate : Record → Result Unit) :
    (recordCount : Nat) → (seen : List UInt16) → (totalPayload : Nat) → (payload : List UInt8) →
      Result Nat
  | 0, _, totalPayload, payload =>
      if payload.length ≠ 0 then fail .malformedMessage else .ok totalPayload
  | recordCount + 1, seen, totalPayload, payload =>
      if payload.length < recordHeaderSize then fail .malformedMessage
      else do
        let (header, payload) ← read recordHeader payload
        if header.payloadLength = 0 then fail .malformedMessage
        else if header.payloadLength.toNat > context.config.maxVariableDataSize then
          fail .validationFailed
        else if payload.length < header.payloadLength.toNat then fail .malformedMessage
        else do
          let (data, payload) ← read (vector byte header.payloadLength.toNat) payload
          let seen ← recordPairMark seen header.peripheralType header.channel
          fieldsValidate (header.record data)
          if payload.length < align4Padding header.payloadLength.toNat then fail .malformedMessage
          else do
            let (padding, payload) ←
              read (vector byte (align4Padding header.payloadLength.toNat)) payload
            if padding.toList.any (· ≠ 0) then fail .malformedMessage
            else do
              let totalPayload ← checked .invalidLength
                (checkedAddSize totalPayload header.payloadLength.toNat)
              alignedRecordsScan context fieldsValidate recordCount seen totalPayload payload

/-- The size of a record array and of the data behind it, as both scanners compute it. -/
def recordStorageSize (recordSize recordCount totalPayload : Nat) : Result Nat :=
  checked .invalidLength do
    let structArraySize ← checkedMulSize recordCount recordSize
    let alignedStructArraySize ← alignUpSize structArraySize Target.decodeStorageAlignment
    checkedAddSize alignedStructArraySize totalPayload

/-- The record loop of the two decoders: record `index` goes to its place in the array,
    its data behind the `copied` bytes of those before it. -/
def alignedRecordsDecode (storage : Storage) (recordSize poolOffset : Nat) :
    (recordCount : Nat) → (index copied : Nat) → (payload : List UInt8) →
      Result (List.Vector Record recordCount × Nat × List UInt8)
  | 0, _, copied, payload => .ok (.nil, copied, payload)
  | recordCount + 1, index, copied, payload => do
      let (header, payload) ← read recordHeader payload
      store storage (index * recordSize) recordSize
      store storage (poolOffset + copied) header.payloadLength.toNat
      let (data, payload) ← read (vector byte header.payloadLength.toNat) payload
      let (_, payload) ← read (vector byte (align4Padding header.payloadLength.toNat)) payload
      let copied ← addSize copied header.payloadLength.toNat
      let (records, copied, payload) ← alignedRecordsDecode storage recordSize poolOffset
        recordCount (index + 1) copied payload
      .ok (.cons (header.record data) records, copied, payload)

/-! ## Update Instruction -/

/-- The eight bytes in front of the records of an Update Instruction. -/
structure UpdateInstructionHeader where
  tickNumber : UInt32
  operationCount : UInt8
  flags : UInt8
  reserved : UInt16

/-- The fields of that header, in offset order. -/
def updateInstructionHeader : Reader UpdateInstructionHeader := do
  let tickNumber ← readU32Le
  let operationCount ← byte
  let flags ← byte
  let reserved ← readU16Le
  pure { tickNumber, operationCount, flags, reserved }

/-- `HIL_APPLICATION_Update_Instruction_Scan` -/
def updateInstructionScan (context : Context) (payload : List UInt8) : Result Nat :=
  if payload.length < updateInstructionHeaderSize then fail .malformedMessage
  else do
    let (header, rest) ← read updateInstructionHeader payload
    if header.reserved ≠ 0 then fail .malformedMessage
    else if header.tickNumber ≥ context.config.maxExpectedTickCount then fail .validationFailed
    else if header.flags > 1 then fail .validationFailed
    else if header.operationCount = 0 then fail .validationFailed
    else do
      let totalPayload ← alignedRecordsScan context (logicalOperationFieldsValidate context)
        header.operationCount.toNat noneSeen 0 rest
      recordStorageSize Target.sizeofLogicalOperation header.operationCount.toNat totalPayload

/-- `HIL_APPLICATION_Update_Instruction_decode` -/
def updateInstructionDecode (context : Context) (payload : List UInt8) (storage : Storage) :
    Result (Decoded UpdateInstruction) := do
  let requiredStorage ← updateInstructionScan context payload
  if requiredStorage > storage.capacity then fail .bufferTooSmall
  else if requiredStorage ≠ 0 ∧ storage.isNull then fail .invalidArgument
  else do
    let (header, rest) ← read updateInstructionHeader payload
    let structArraySize ← mulSize header.operationCount.toNat Target.sizeofLogicalOperation
    let poolOffset ← checked .internalError
      (alignUpSize structArraySize Target.decodeStorageAlignment)
    let (operations, copied, rest) ← alignedRecordsDecode storage Target.sizeofLogicalOperation
      poolOffset header.operationCount.toNat 0 0 rest
    if rest.length ≠ 0 then fail .internalError
    else do
      let used ← addSize poolOffset copied
      .ok { data := { tickNumber := header.tickNumber
                      flags := header.flags
                      operations := .ofVector operations header.operationCount.toNat_lt }
            consumed := payload.length - rest.length
            used }

/-! ## Variable Test Result -/

/-- The twelve bytes in front of the records of a Variable Test Result. -/
structure VariableTestResultHeader where
  tickNumber : UInt32
  recordCount : UInt8
  condition : Int
  flags : UInt8
  reserved : UInt8
  problemDetail : UInt32

/-- The fields of that header, in offset order. -/
def variableTestResultHeader : Reader VariableTestResultHeader := do
  let tickNumber ← readU32Le
  let recordCount ← byte
  let condition ← readEnum
  let flags ← byte
  let reserved ← byte
  let problemDetail ← readU32Le
  pure { tickNumber, recordCount, condition, flags, reserved, problemDetail }

/-- `HIL_APPLICATION_Variable_Test_Result_Scan` -/
def variableTestResultScan (context : Context) (payload : List UInt8) : Result Nat :=
  if payload.length < variableTestResultHeaderSize then fail .malformedMessage
  else do
    let (header, rest) ← read variableTestResultHeader payload
    if header.reserved ≠ 0 then fail .malformedMessage
    else if header.tickNumber ≥ context.config.maxExpectedTickCount then fail .validationFailed
    else if header.flags > 1 then fail .validationFailed
    else if ¬ resultConditionIsDefined header.condition then fail .validationFailed
    else if header.condition = ResultCondition.ok ∧ header.problemDetail ≠ 0 then
      fail .validationFailed
    else if header.recordCount = 0 then
      if payload.length ≠ variableTestResultHeaderSize then fail .malformedMessage else .ok 0
    else do
      let totalPayload ← alignedRecordsScan context (capturedRecordFieldsValidate context)
        header.recordCount.toNat noneSeen 0 rest
      recordStorageSize Target.sizeofCapturedRecord header.recordCount.toNat totalPayload

/-- `HIL_APPLICATION_Variable_Test_Result_decode` -/
def variableTestResultDecode (context : Context) (payload : List UInt8) (storage : Storage) :
    Result (Decoded VariableTestResult) := do
  let requiredStorage ← variableTestResultScan context payload
  if requiredStorage > storage.capacity then fail .bufferTooSmall
  else if requiredStorage ≠ 0 ∧ storage.isNull then fail .invalidArgument
  else do
    let (header, rest) ← read variableTestResultHeader payload
    let fields (records : Counted Record 256) : VariableTestResult :=
      { tickNumber := header.tickNumber, condition := header.condition, flags := header.flags
        problemDetail := header.problemDetail, records }
    if header.recordCount = 0 then
      .ok { data := fields (.null 0 (by decide))
            consumed := payload.length - rest.length
            used := 0 }
    else do
      let structArraySize ← mulSize header.recordCount.toNat Target.sizeofCapturedRecord
      let poolOffset ← checked .internalError
        (alignUpSize structArraySize Target.decodeStorageAlignment)
      let (records, copied, rest) ← alignedRecordsDecode storage Target.sizeofCapturedRecord
        poolOffset header.recordCount.toNat 0 0 rest
      if rest.length ≠ 0 then fail .internalError
      else do
        let used ← addSize poolOffset copied
        .ok { data := fields (.ofVector records header.recordCount.toNat_lt)
              consumed := payload.length - rest.length
              used }

/-! ## Controls, responses and errors -/

/-- The fields of an Execution Control, in offset order. -/
def executionControlFields : Reader ExecutionControl := do
  let command ← readEnum
  let flags ← readU32Le
  pure { command, flags }

/-- `HIL_APPLICATION_Execution_Control_decode` -/
def executionControlDecode (payload : List UInt8) : Result (Decoded ExecutionControl) := do
  fixedBodyValidateSize .executionControl payload.length
  let (data, rest) ← read executionControlFields payload
  .ok { data, consumed := payload.length - rest.length, used := 0 }

/-- The fields of a Global Control, in offset order. -/
def globalControlFields : Reader GlobalControl := do
  let command ← readEnum
  let flags ← readU32Le
  pure { command, flags }

/-- `HIL_APPLICATION_Global_Control_decode` -/
def globalControlDecode (payload : List UInt8) : Result (Decoded GlobalControl) := do
  fixedBodyValidateSize .globalControl payload.length
  let (data, rest) ← read globalControlFields payload
  .ok { data, consumed := payload.length - rest.length, used := 0 }

/-- The field of a Finalize Test Upload. -/
def finalizeTestUploadFields : Reader FinalizeTestUpload := do
  let flags ← readU32Le
  pure { flags }

/-- `HIL_APPLICATION_Finalize_Test_Upload_decode` -/
def finalizeTestUploadDecode (payload : List UInt8) : Result (Decoded FinalizeTestUpload) := do
  fixedBodyValidateSize .finalizeTestUpload payload.length
  let (data, _) ← read finalizeTestUploadFields payload
  .ok { data, consumed := wireU32Size, used := 0 }

/-- The fields of a Response, in offset order. -/
def responseFields : Reader Response := do
  let scope ← readEnum
  let outcome ← readEnum
  let reason ← readEnum
  let tickNumber ← readU32Le
  let controlCommand ← readEnum
  let globalControlCommand ← readEnum
  let detail ← readU32Le
  pure { scope, outcome, reason, tickNumber, controlCommand, globalControlCommand, detail }

/-- `HIL_APPLICATION_Response_decode` -/
def responseDecode (payload : List UInt8) : Result (Decoded Response) := do
  fixedBodyValidateSize .response payload.length
  let (data, rest) ← read responseFields payload
  if payload.length - rest.length ≠ responseFixedPayloadSize then fail .internalError
  else .ok { data, consumed := payload.length - rest.length, used := 0 }

/-- `HIL_APPLICATION_ERROR_DIAGNOSTIC_LENGTH_OFFSET` -/
def errorDiagnosticLengthOffset : Nat := 11

/-- `HIL_APPLICATION_Error_Scan` -/
def errorScan (context : Context) (payload : List UInt8) : Result Nat :=
  if payload.length < errorFixedPayloadSize then fail .malformedMessage
  else do
    let diagnosticSize ← byteAt payload errorDiagnosticLengthOffset
    let completeSize ← checked .invalidLength
      (checkedAddSize errorFixedPayloadSize diagnosticSize.toNat)
    if payload.length < completeSize then fail .malformedMessage
    else if payload.length ≠ completeSize then fail .malformedMessage
    else if diagnosticSize.toNat > context.config.maxVariableDataSize then fail .validationFailed
    else .ok diagnosticSize.toNat

/-- The fields of an Error in front of its span, in offset order. -/
def errorFields : Reader Error := do
  let category ← readEnum
  let recoverable ← byte
  let hasTickNumber ← byte
  let tickNumber ← readU32Le
  let detail ← readU32Le
  pure { category, recoverable, hasTickNumber, tickNumber, detail, diagnosticData := emptySpan }

/-- `HIL_APPLICATION_Error_decode` -/
def errorDecode (context : Context) (payload : List UInt8) (storage : Storage) :
    Result (Decoded Error) := do
  let requiredStorage ← errorScan context payload
  if requiredStorage > storage.capacity then fail .bufferTooSmall
  else do
    let (fields, rest) ← read errorFields payload
    if payload.length - rest.length ≠ errorDiagnosticLengthOffset then fail .internalError
    else do
      let (diagnosticData, used, rest) ← byteSpanDecode storage 0 rest
      if rest.length ≠ 0 then fail .internalError
      else .ok { data := { fields with diagnosticData }, consumed := payload.length, used }

/-! ## Rig Status and Run Report -/

/-- Two bytes cast to an enumeration. -/
def readU16Enum : Reader Int := do
  let value ← readU16Le
  pure (value.toNat : Int)

/-- The fields of a Rig Status, in offset order. -/
def rigStatusFields : Reader RigStatus := do
  let schemaVersion ← readU16Le
  let origin ← readEnum
  let state ← readEnum
  let flags ← readU32Le
  let failureSource ← readEnum
  let failureStage ← readEnum
  let failureReason ← readU16Enum
  pure { schemaVersion, origin, state, flags, failureSource, failureStage, failureReason }

/-- `HIL_APPLICATION_Rig_Status_decode` -/
def rigStatusDecode (payload : List UInt8) : Result (Decoded RigStatus) :=
  if payload.length ≠ rigStatusPayloadSize then fail .malformedMessage
  else do
    let (data, _) ← read rigStatusFields payload
    if data.schemaVersion ≠ 1 then fail .unsupportedMessage
    else .ok { data, consumed := payload.length, used := 0 }

/-- `HIL_APPLICATION_RUN_REPORT_EXTENSION_LENGTH_OFFSET` -/
def runReportExtensionLengthOffset : Nat := 176

/-- `HIL_APPLICATION_Run_Report_scan` -/
def runReportScan (context : Context) (payload : List UInt8) : Result Nat :=
  if context.initialized = 0 then fail .uninitialized
  else if payload.length < runReportFixedPayloadSize then fail .malformedMessage
  else do
    let extensionSize ← byteAt payload runReportExtensionLengthOffset
    let total ← checked .malformedMessage
      (checkedAddSize runReportFixedPayloadSize extensionSize.toNat)
    if payload.length ≠ total then fail .malformedMessage
    else do
      let (schemaVersion, _) ← read readU16Le payload
      if schemaVersion ≠ 1 then fail .unsupportedMessage
      else if extensionSize.toNat > context.config.maxVariableDataSize then fail .validationFailed
      else .ok extensionSize.toNat

/-- The timing section of a Run Report, in offset order. -/
def runIsrTimingDecode : Reader RunIsrTiming := do
  let sampleCount ← readU32Le
  let totalCycles ← readU64Le
  let minimumCycles ← readU32Le
  let maximumCycles ← readU32Le
  let maximumBoundary ← readU32Le
  pure { sampleCount, totalCycles, minimumCycles, maximumCycles, maximumBoundary }

/-- The instruction-buffer section, in offset order. -/
def runInstructionBufferDecode : Reader RunInstructionBuffer := do
  let sampleCount ← readU32Le
  let minimumUnreadBytes ← readU32Le
  let minimumBoundary ← readU32Le
  pure { sampleCount, minimumUnreadBytes, minimumBoundary }

/-- The result-buffer section, in offset order. -/
def runResultBufferDecode : Reader RunResultBuffer := do
  let committedRecordCount ← readU32Le
  let committedBytes ← readU32Le
  let peakPendingBytes ← readU32Le
  let peakPendingBoundary ← readU32Le
  let reserveFailureCount ← readU32Le
  let commitFailureCount ← readU32Le
  pure
    { committedRecordCount, committedBytes, peakPendingBytes, peakPendingBoundary,
      reserveFailureCount, commitFailureCount }

/-- The flash section, in offset order. -/
def runFlashStatisticsDecode : Reader RunFlashStatistics := do
  let resultPagesDrained ← readU32Le
  let resultBytesDrained ← readU64Le
  let resultDrainTotalCycles ← readU64Le
  let resultDrainMaximumCycles ← readU32Le
  let instructionPagesRefilled ← readU32Le
  let instructionBytesRefilled ← readU64Le
  let instructionRefillTotalCycles ← readU64Le
  let instructionRefillMaximumCycles ← readU32Le
  let instructionPublishSampleCount ← readU32Le
  let instructionPublishTotalCycles ← readU64Le
  let instructionPublishMaximumCycles ← readU32Le
  let serviceGapSampleCount ← readU32Le
  let serviceGapTotalCycles ← readU64Le
  let serviceGapMaximumCycles ← readU32Le
  let refillDrainContentionCount ← readU32Le
  pure
    { resultPagesDrained, resultBytesDrained, resultDrainTotalCycles, resultDrainMaximumCycles,
      instructionPagesRefilled, instructionBytesRefilled, instructionRefillTotalCycles,
      instructionRefillMaximumCycles, instructionPublishSampleCount,
      instructionPublishTotalCycles, instructionPublishMaximumCycles, serviceGapSampleCount,
      serviceGapTotalCycles, serviceGapMaximumCycles, refillDrainContentionCount }

/-- The fields of a Run Report in front of its extension, in offset order, and the
    reserved byte at offset 7 and reserved word at 10. -/
def runReportFields : Reader (RunReport × UInt8 × UInt16) := do
  let schemaVersion ← readU16Le
  let runOutcome ← readEnum
  let executionOutcome ← readEnum
  let resultStatus ← readEnum
  let failureSource ← readEnum
  let failureStage ← readEnum
  let reserved7 ← byte
  let failureReason ← readU16Enum
  let reserved10 ← readU16Le
  let validSections ← readU32Le
  let expectedTickCount ← readU32Le
  let tickPeriodUs ← readU32Le
  let lastCompletedBoundary ← readU32Le
  let resultTicksEmitted ← readU32Le
  let isrTiming ← runIsrTimingDecode
  let instructionBuffer ← runInstructionBufferDecode
  let resultBuffer ← runResultBufferDecode
  let flash ← runFlashStatisticsDecode
  pure ({ schemaVersion, runOutcome, executionOutcome, resultStatus, failureSource, failureStage,
          failureReason, validSections, expectedTickCount, tickPeriodUs, lastCompletedBoundary,
          resultTicksEmitted, isrTiming, instructionBuffer, resultBuffer, flash,
          extensionData := emptySpan }, reserved7, reserved10)

/-- `HIL_APPLICATION_Run_Report_parse` -/
def runReportParse (context : Context) (payload : List UInt8) : Result RunReport := do
  let _ ← runReportScan context payload
  let ((fields, reserved7, reserved10), rest) ← read runReportFields payload
  if reserved7 ≠ 0 ∨ reserved10 ≠ 0 then fail .validationFailed
  else do
    let (extensionSize, rest) ← read byte rest
    let (extension, _) ← read (vector byte extensionSize.toNat) rest
    let data := { fields with
      extensionData := .ofVector extension (byte_fits extensionSize) }
    runReportValidate context data
    .ok data

/-- `HIL_APPLICATION_Run_Report_decode` -/
def runReportDecode (context : Context) (payload : List UInt8) (storage : Storage) :
    Result (Decoded RunReport) := do
  let required ← runReportScan context payload
  if required > storage.capacity ∨ (required ≠ 0 ∧ storage.isNull) then fail .bufferTooSmall
  else do
    let data ← runReportParse context payload
    store storage 0 required
    .ok { data, consumed := payload.length, used := required }

/-! ## Endpoint-defined containers -/

/-- The fields of an Arbitrary Control, in offset order. -/
def arbitraryControlFields : Reader ArbitraryControl := do
  let controlId ← readU32Le
  let value ← readU32Le
  pure { controlId, value }

/-- `HIL_APPLICATION_Arbitrary_Control_decode` -/
def arbitraryControlDecode (payload : List UInt8) : Result (Decoded ArbitraryControl) :=
  if payload.length ≠ arbitraryControlPayloadSize then fail .malformedMessage
  else do
    let (data, _) ← read arbitraryControlFields payload
    .ok { data, consumed := payload.length, used := 0 }

/-- The six bytes in front of the payload of an Arbitrary Data. -/
def arbitraryDataPrefix : Reader (UInt32 × UInt16) := do
  let dataId ← readU32Le
  let length ← readU16Le
  pure (dataId, length)

/-- `HIL_APPLICATION_Arbitrary_Data_scan` -/
def arbitraryDataScan (context : Context) (payload : List UInt8) : Result Nat :=
  if payload.length < arbitraryDataPrefixSize then fail .malformedMessage
  else do
    let ((_, length), _) ← read arbitraryDataPrefix payload
    let expectedSize ← checked .malformedMessage
      (checkedAddSize arbitraryDataPrefixSize length.toNat)
    if payload.length ≠ expectedSize then fail .malformedMessage
    else if length.toNat > context.config.maxVariableDataSize then fail .validationFailed
    else .ok length.toNat

/-- `HIL_APPLICATION_Arbitrary_Data_decode` -/
def arbitraryDataDecode (context : Context) (payload : List UInt8) (storage : Storage) :
    Result (Decoded ArbitraryData) := do
  let requiredStorage ← arbitraryDataScan context payload
  if requiredStorage > storage.capacity ∨ (requiredStorage ≠ 0 ∧ storage.isNull) then
    fail .bufferTooSmall
  else do
    let ((dataId, length), rest) ← read arbitraryDataPrefix payload
    let (bytes, _) ← read (vector byte length.toNat) rest
    store storage 0 requiredStorage
    .ok { data := { dataId, payload := .ofVector bytes length.toNat_lt }
          consumed := payload.length
          used := requiredStorage }

end

end HilRigProtocol.Application
