/-
  The public codec (`application.c`). Its output pointers are not NULL: what a call
  leaves behind them is part of its outcome.
-/
import HilRigProtocol.Application.Envelope

namespace HilRigProtocol.Application

open Library Library.Reader

/-! ## Contexts -/

/-- `HIL_APPLICATION_MIN_COMPLETE_MESSAGE_SIZE` -/
def minCompleteMessageSize : Nat := headerSizeBytes + 5

/-- `HIL_APPLICATION_ABSOLUTE_MAX_MESSAGE_SIZE` -/
def absoluteMaxMessageSize : Nat := 65535

/-- `HIL_APPLICATION_ABSOLUTE_MAX_VARIABLE_DATA_SIZE` -/
def absoluteMaxVariableDataSize : Nat := 65535

/-- `HIL_APPLICATION_DEFAULT_MAX_MESSAGE_SIZE` -/
def defaultMaxMessageSize : Nat := 4096

/-- `HIL_APPLICATION_Default_Config` -/
def defaultConfig : Config where
  maxEncodedMessageSize := defaultMaxMessageSize
  maxVariableDataSize := absoluteMaxVariableDataSize
  maxExpectedTickCount := absoluteMaxTickCount

/-- `HIL_APPLICATION_Init`. A context that it rejects is left uninitialized. -/
def init (config : Config) : Result Context :=
  if config.maxEncodedMessageSize < minCompleteMessageSize then fail .bufferTooSmall
  else if config.maxEncodedMessageSize > absoluteMaxMessageSize then fail .invalidLength
  else if config.maxVariableDataSize > absoluteMaxVariableDataSize then fail .invalidCount
  else if config.maxExpectedTickCount > absoluteMaxTickCount then fail .invalidLength
  else .ok { config, initialized := 1 }

/-! ## Typed messages -/

/-- The switch of `HIL_APPLICATION_Validate_Message`. -/
def bodyValidate (context : Context) : Body → Result Unit
  | .runReport data => runReportValidate context data
  | .rigStatus data => rigStatusValidate context data
  | .systemInfoRequest data => systemInfoRequestValidate context data
  | .systemInfoResponse data => systemInfoResponseValidate context data
  | .testConfiguration data => testConfigurationValidate context data
  | .testInstruction data => testInstructionsValidate context data
  | .updateInstruction data => updateInstructionValidate context data
  | .finalizeTestUpload data => finalizeTestUploadValidate context data
  | .executionControl data => executionControlValidate context data
  | .globalControl data => globalControlValidate context data
  | .testResult data => testResultValidate context data
  | .variableTestResult data => variableTestResultValidate context data
  | .response data => responseValidate context data
  | .error data => errorValidate context data
  | .arbitraryControl data => arbitraryControlValidate context data
  | .arbitraryData data => arbitraryDataValidate context data

/-- `HIL_APPLICATION_Validate_Message` -/
def validateMessage (context : Context) (message : Message) : Result Unit :=
  if context.initialized = 0 then fail .uninitialized
  else do
    validateCommonMessageFields message
    bodyValidate context message.body

section
variable [Target]

/-- `HIL_APPLICATION_Encoded_Size` -/
def encodedSize (context : Context) (message : Message) : Result Nat :=
  if context.initialized = 0 then fail .uninitialized
  else do
    validateCommonMessageFields message
    let size ← bodySize context message.body
    if size > 65535 then fail .invalidLength
    else do
      let totalSize ← checked .invalidLength (checkedAddSize headerSizeBytes size)
      if totalSize > context.config.maxEncodedMessageSize then fail .bufferTooSmall
      else .ok totalSize

/-- What `HIL_APPLICATION_Encode_Message` leaves behind: its result, `*output_size`, and
    the front of `out_buffer` that this size covers. -/
structure EncodeOutcome where
  result : Result Unit
  outputSize : Nat
  encodedMessage : List UInt8

/-- The bytes that `HIL_APPLICATION_Encode_Message` stores when it succeeds, and the size
    that it reports for them. -/
def encodeInternal (context : Context) (message : Message) (outBufferSize : Nat) :
    Result (List UInt8 × Nat) :=
  if context.initialized = 0 then fail .uninitialized
  else do
    validateMessage context message
    if outBufferSize < headerSizeBytes then fail .bufferTooSmall
    else do
      let header ← headerEncoding message outBufferSize
      let configuredPayloadCapacity := context.config.maxEncodedMessageSize - headerSizeBytes
      let payloadCapacity :=
        if outBufferSize - headerSizeBytes > configuredPayloadCapacity then
          configuredPayloadCapacity
        else outBufferSize - headerSizeBytes
      let (payload, payloadSize) ← bodyEncode context message.body payloadCapacity
      if payloadSize > payloadCapacity ∨ payloadSize > 65535 then fail .invalidLength
      else do
        let totalSize ← checked .invalidLength (checkedAddSize headerSizeBytes payloadSize)
        if totalSize > context.config.maxEncodedMessageSize then fail .bufferTooSmall
        else .ok (header.take (headerSizeBytes - 2) ++ encodeU16Le (UInt16.ofNat payloadSize)
          ++ payload, totalSize)

/-- `HIL_APPLICATION_Encode_Message` -/
def encodeMessage (context : Context) (message : Message) (outBufferSize : Nat) :
    EncodeOutcome :=
  match encodeInternal context message outBufferSize with
  | .ok (encodedMessage, outputSize) => { result := .ok (), outputSize, encodedMessage }
  | .error failure => { result := .error failure, outputSize := 0, encodedMessage := [] }

/-! ## Encoded messages -/

/-- A decoder of one family, as a decoder of bodies. -/
def Decoded.toBody {α : Type} (body : α → Body) (decoded : Decoded α) : Decoded Body where
  data := body decoded.data
  consumed := decoded.consumed
  used := decoded.used

/-- `HIL_APPLICATION_Body_Decode` -/
def bodyDecode (context : Context) (type : MessageType) (payload : List UInt8)
    (storage : Storage) : Result (Decoded Body) :=
  match type with
  | .runReport => (runReportDecode context payload storage).map (·.toBody .runReport)
  | .rigStatus => (rigStatusDecode payload).map (·.toBody .rigStatus)
  | .systemInfoRequest => (systemInfoRequestDecode payload).map (·.toBody .systemInfoRequest)
  | .systemInfoResponse =>
      (systemInfoResponseDecode context payload storage).map (·.toBody .systemInfoResponse)
  | .testConfiguration =>
      (testConfigurationDecode context payload storage).map (·.toBody .testConfiguration)
  | .testInstruction => (testInstructionsDecode payload).map (·.toBody .testInstruction)
  | .updateInstruction =>
      (updateInstructionDecode context payload storage).map (·.toBody .updateInstruction)
  | .finalizeTestUpload => (finalizeTestUploadDecode payload).map (·.toBody .finalizeTestUpload)
  | .executionControl => (executionControlDecode payload).map (·.toBody .executionControl)
  | .globalControl => (globalControlDecode payload).map (·.toBody .globalControl)
  | .testResult => (testResultDecode payload).map (·.toBody .testResult)
  | .variableTestResult =>
      (variableTestResultDecode context payload storage).map (·.toBody .variableTestResult)
  | .response => (responseDecode payload).map (·.toBody .response)
  | .error => (errorDecode context payload storage).map (·.toBody .error)
  | .arbitraryControl => (arbitraryControlDecode payload).map (·.toBody .arbitraryControl)
  | .arbitraryData =>
      (arbitraryDataDecode context payload storage).map (·.toBody .arbitraryData)

/-- The payload of a message whose envelope says how long it is: the checks on the
    complete size that decoding, sizing and validation share. -/
def payloadOf (envelope : Envelope) (encodedMessage : List UInt8) : Result (List UInt8) := do
  let totalSize ← checked .invalidLength
    (checkedAddSize headerSizeBytes envelope.payloadLength.toNat)
  if totalSize > encodedMessage.length then fail .truncatedMessage
  else if totalSize ≠ encodedMessage.length then fail .malformedMessage
  else .ok (encodedMessage.drop headerSizeBytes)

/-- `HIL_APPLICATION_Decode_Internal`: the message and the storage that it uses. -/
def decodeInternal (context : Context) (encodedMessage : List UInt8) (storage : Storage) :
    Result (Message × Nat) := do
  let envelope ← headerDecoding encodedMessage
  let payload ← payloadOf envelope encodedMessage
  let body ← bodyDecode context envelope.type payload storage
  let message : Message := { subtype := envelope.subtype, hasTestId := envelope.hasTestId
                             testId := envelope.testId, body := body.data }
  if body.consumed ≠ payload.length then fail .malformedMessage
  else do
    validateDiscoveryEnvelopeBody envelope body.data
    validateMessage context message
    .ok (message, body.used)

/-- What `HIL_APPLICATION_Decode_Message` leaves behind: its result, the message (`none`
    when its type is `INVALID`) and `*used_decoded_size`. -/
structure DecodeOutcome where
  result : Result Unit
  outMessage : Option Message
  usedDecodedSize : Nat

/-- `HIL_APPLICATION_Decode_Message` -/
def decodeMessage (context : Context) (encodedMessage : List UInt8) (storage : Storage) :
    DecodeOutcome :=
  let rejected (failure : Failure) : DecodeOutcome :=
    { result := .error failure, outMessage := none, usedDecodedSize := 0 }
  if context.initialized = 0 then rejected (.status .uninitialized)
  else if storage.capacity ≠ 0 ∧ storage.isNull then rejected (.status .invalidArgument)
  else if encodedMessage.length > context.config.maxEncodedMessageSize then
    rejected (.status .invalidLength)
  else
    match decodeInternal context encodedMessage storage with
    | .ok (message, used) =>
        { result := .ok (), outMessage := some message, usedDecodedSize := used }
    | .error failure => rejected failure

/-- `HIL_APPLICATION_Validate_Discovery_Storage_Envelope` -/
def validateDiscoveryStorageEnvelope (envelope : Envelope) (payload : List UInt8) :
    Result Unit :=
  if envelope.type = .systemInfoRequest then
    if payload.length ≠ systemInfoRequestFixedEncodeSize then fail .malformedMessage
    else do
      let (major, _) ← read readU16Le (payload.drop 2)
      let (minor, _) ← read readU16Le (payload.drop 4)
      validateDiscoveryVersion envelope major minor
  else if envelope.type = .systemInfoResponse then
    if payload.length < 4 then fail .malformedMessage
    else do
      let (major, _) ← read readU16Le payload
      let (minor, _) ← read readU16Le (payload.drop 2)
      validateDiscoveryVersion envelope major minor
  else .ok ()

/-- `HIL_APPLICATION_TEST_CONFIG_I2C_OFFSET` -/
def testConfigI2cOffset : Nat := 150

/-- `HIL_APPLICATION_TEST_CONFIG_I2C_RECORD_SIZE` -/
def testConfigI2cRecordSize : Nat := 10

/-- The `TEST_CONFIGURATION` case of `HIL_APPLICATION_Decode_Storage_Size`. -/
def testConfigurationStorageSize (context : Context) (payload : List UInt8) : Result Nat :=
  if payload.length < testConfigFixedPayloadSize then fail .malformedMessage
  else do
    let extensionSize ← byteAt payload testConfigExtensionLengthOffset
    let requiredPayloadSize ← checked .invalidLength
      (checkedAddSize testConfigFixedPayloadSize extensionSize.toNat)
    if payload.length ≠ requiredPayloadSize then fail .malformedMessage
    else if extensionSize.toNat > context.config.maxVariableDataSize then fail .validationFailed
    else do
      let enabled0 ← byteAt payload testConfigI2cOffset
      let enabled1 ← byteAt payload (testConfigI2cOffset + testConfigI2cRecordSize)
      if enabled0 = 1 ∨ enabled1 = 1 then fail .notImplemented
      else .ok extensionSize.toNat

/-- The switch of `HIL_APPLICATION_Decode_Storage_Size`. -/
def payloadStorageSize (context : Context) (envelope : Envelope) (payload : List UInt8) :
    Result Nat :=
  match envelope.type with
  | .runReport => runReportScan context payload
  | .systemInfoRequest => do
      fixedBodyValidateSize envelope.type payload.length
      validateDiscoveryStorageEnvelope envelope payload
      .ok 0
  | .rigStatus | .testInstruction | .executionControl | .globalControl | .finalizeTestUpload
  | .testResult | .arbitraryControl => do
      fixedBodyValidateSize envelope.type payload.length
      .ok 0
  | .response => do
      fixedBodyValidateSize envelope.type payload.length
      let scope ← byteAt payload 0
      if envelope.hasTestId ≠ (if (scope.toNat : Int) = ResponseScope.globalControl then 0 else 1)
        then fail .inconsistentTestId
      else .ok 0
  | .testConfiguration => testConfigurationStorageSize context payload
  | .systemInfoResponse => do
      let size ← systemInfoResponseScan context payload
      validateDiscoveryStorageEnvelope envelope payload
      .ok size
  | .updateInstruction => updateInstructionScan context payload
  | .variableTestResult => variableTestResultScan context payload
  | .error => errorScan context payload
  | .arbitraryData => arbitraryDataScan context payload

/-- `HIL_APPLICATION_Decode_Storage_Size` -/
def decodeStorageSize (context : Context) (encodedMessage : List UInt8) : Result Nat :=
  if context.initialized = 0 then fail .uninitialized
  else if encodedMessage.length > context.config.maxEncodedMessageSize then fail .invalidLength
  else do
    let envelope ← headerDecoding encodedMessage
    let payload ← payloadOf envelope encodedMessage
    payloadStorageSize context envelope payload

/-! ## Validation without decode storage -/

/-- `HIL_APPLICATION_Validate_Encoded_System_Info_Response` -/
def validateEncodedSystemInfoResponse (context : Context) (envelope : Envelope)
    (payload : List UInt8) : Result Unit := do
  let (fields, rest) ← read systemInfoResponseFields payload
  let (diagnosticSize, rest) ← read byte rest
  let (diagnosticData, rest) ← spanInPayload diagnosticSize rest
  let (gitHashSize, rest) ← read byte rest
  let total ← addSize (payload.length - rest.length) gitHashSize.toNat
  if total ≠ payload.length then fail .malformedMessage
  else do
    let (firmwareGitHash, _) ← spanInPayload gitHashSize rest
    let data := { fields with diagnosticData, firmwareGitHash }
    validateDiscoveryEnvelopeBody envelope (.systemInfoResponse data)
    systemInfoResponseValidate context data

/-- `HIL_APPLICATION_Validate_Encoded_Error` -/
def validateEncodedError (context : Context) (envelope : Envelope) (payload : List UInt8) :
    Result Unit := do
  let (fields, rest) ← read errorFields payload
  let (diagnosticSize, rest) ← read byte rest
  let (diagnosticData, _) ← spanInPayload diagnosticSize rest
  if fields.hasTickNumber = 1 ∧ envelope.hasTestId = 0 then fail .inconsistentTestId
  else errorValidate context { fields with diagnosticData }

/-- The last part of `HIL_APPLICATION_Validate_Encoded_Message`, for the types whose bodies
    need no decode storage. -/
def validateEncodedFixed (context : Context) (envelope : Envelope) (payload : List UInt8) :
    Result Unit := do
  let body ← bodyDecode context envelope.type payload { isNull := true, capacity := 0 }
  let message : Message := { subtype := envelope.subtype, hasTestId := envelope.hasTestId
                             testId := envelope.testId, body := body.data }
  if body.consumed ≠ payload.length then fail .malformedMessage
  else do
    validateDiscoveryEnvelopeBody envelope body.data
    validateMessage context message

/-- The part of `HIL_APPLICATION_Validate_Encoded_Message` that depends on the type, for a
    message that `HIL_APPLICATION_Decode_Storage_Size` accepts. -/
def validateEncodedPayload (context : Context) (envelope : Envelope) (payload : List UInt8)
    (requiredDecodeStorage : Nat) : Result Nat :=
  match envelope.type with
  | .testConfiguration => testConfigurationEncodedValidate context payload
  | .systemInfoResponse => do
      validateEncodedSystemInfoResponse context envelope payload
      .ok requiredDecodeStorage
  | .runReport => do
      let _ ← runReportParse context payload
      .ok requiredDecodeStorage
  | .error => do
      validateEncodedError context envelope payload
      .ok requiredDecodeStorage
  | .updateInstruction | .variableTestResult | .arbitraryData => .ok requiredDecodeStorage
  | .systemInfoRequest | .testInstruction | .executionControl | .globalControl
  | .finalizeTestUpload | .testResult | .response | .rigStatus | .arbitraryControl => do
      validateEncodedFixed context envelope payload
      .ok requiredDecodeStorage

/-- `HIL_APPLICATION_Validate_Encoded_Message`: the storage that decoding would need. The
    payload size that the source takes from the envelope is that of the bytes behind the
    header, since `HIL_APPLICATION_Decode_Storage_Size` compares the two. -/
def validateEncodedMessage (context : Context) (encodedMessage : List UInt8) : Result Nat :=
  if context.initialized = 0 then fail .uninitialized
  else if encodedMessage.length > context.config.maxEncodedMessageSize then fail .invalidLength
  else do
    let requiredDecodeStorage ← decodeStorageSize context encodedMessage
    let envelope ← headerDecoding encodedMessage
    validateEncodedPayload context envelope (encodedMessage.drop headerSizeBytes)
      requiredDecodeStorage

end

end HilRigProtocol.Application
