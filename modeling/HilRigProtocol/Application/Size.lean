/-
  Payload sizes of typed message bodies (`application_size.c`, and
  `HIL_APPLICATION_Arbitrary_Data_size`). The envelope is not counted.
-/
import HilRigProtocol.Application.Validation

namespace HilRigProtocol.Application

/-! ## Versions and fixed sizes -/

/-- `HIL_RIG_PROTOCOL_VERSION_MAJOR` -/
def protocolVersionMajor : UInt16 := 0

/-- `HIL_RIG_PROTOCOL_VERSION_MINOR` -/
def protocolVersionMinor : UInt16 := 4

/-- `HIL_RIG_PROTOCOL_VERSION_PATCH` -/
def protocolVersionPatch : UInt16 := 0

/-- `HIL_APPLICATION_SYSTEM_INFO_REQUEST_FIXED_ENCODE_SIZE` -/
def systemInfoRequestFixedEncodeSize : Nat := 8

/-- `HIL_APPLICATION_SYSTEM_INFO_RESPONSE_FIXED_ENCODE_SIZE` -/
def systemInfoResponseFixedEncodeSize : Nat := 14

/-- `HIL_APPLICATION_CONTROL_FIXED_ENCODE_SIZE` -/
def controlFixedEncodeSize : Nat := 5

/-- `HIL_APPLICATION_TEST_CONFIG_FIXED_PAYLOAD_SIZE` -/
def testConfigFixedPayloadSize : Nat := 171

/-- `HIL_APPLICATION_TEST_INSTRUCTION_FIXED_PAYLOAD_SIZE` -/
def testInstructionFixedPayloadSize : Nat := 50

/-- `HIL_APPLICATION_TEST_RESULT_FIXED_PAYLOAD_SIZE` -/
def testResultFixedPayloadSize : Nat := 39

/-- `HIL_APPLICATION_RECORD_HEADER_SIZE` -/
def recordHeaderSize : Nat := 4

/-- `HIL_APPLICATION_UPDATE_INSTRUCTION_HEADER_SIZE` -/
def updateInstructionHeaderSize : Nat := 8

/-- `HIL_APPLICATION_VARIABLE_TEST_RESULT_HEADER_SIZE` -/
def variableTestResultHeaderSize : Nat := 12

/-- `HIL_APPLICATION_RESPONSE_FIXED_PAYLOAD_SIZE` -/
def responseFixedPayloadSize : Nat := 13

/-- `HIL_APPLICATION_ERROR_FIXED_PAYLOAD_SIZE` -/
def errorFixedPayloadSize : Nat := 12

/-- `HIL_APPLICATION_RIG_STATUS_PAYLOAD_SIZE` -/
def rigStatusPayloadSize : Nat := 12

/-- `HIL_APPLICATION_RUN_REPORT_FIXED_PAYLOAD_SIZE` -/
def runReportFixedPayloadSize : Nat := 177

/-- `HIL_APPLICATION_ARBITRARY_CONTROL_PAYLOAD_SIZE` -/
def arbitraryControlPayloadSize : Nat := 8

/-- `HIL_APPLICATION_ARBITRARY_DATA_PREFIX_SIZE` -/
def arbitraryDataPrefixSize : Nat := 6

/-- `HIL_APPLICATION_WIRE_U32_SIZE`, the whole body of a Finalize Test Upload. -/
def wireU32Size : Nat := 4

section
variable [Target]

/-! ## System Information -/

/-- `HIL_APPLICATION_System_Info_Request_size` -/
def systemInfoRequestSize (context : Context) (data : SystemInfoRequest) : Result Nat :=
  if data.applicationProtocolMajor ≠ protocolVersionMajor
      ∨ data.applicationProtocolMinor ≠ protocolVersionMinor
      ∨ data.applicationProtocolPatch ≠ protocolVersionPatch then
    fail .versionMismatch
  else do
    systemInfoRequestValidate context data
    .ok systemInfoRequestFixedEncodeSize

/-- `HIL_APPLICATION_System_Info_Response_size` -/
def systemInfoResponseSize (context : Context) (data : SystemInfoResponse) : Result Nat :=
  if data.applicationProtocolMajor ≠ protocolVersionMajor
      ∨ data.applicationProtocolMinor ≠ protocolVersionMinor
      ∨ data.applicationProtocolPatch ≠ protocolVersionPatch then
    fail .versionMismatch
  else do
    systemInfoResponseValidate context data
    checked .invalidLength (checkedAddSize systemInfoResponseFixedEncodeSize
      (data.firmwareGitHash.count + data.diagnosticData.count))

/-! ## Configuration, instructions and results -/

/-- `HIL_APPLICATION_Test_Configuration_size` -/
def testConfigurationSize (data : TestConfiguration) : Result Nat :=
  if data.extensionData.count > 255 then fail .validationFailed
  else checked .invalidLength (checkedAddSize testConfigFixedPayloadSize data.extensionData.count)

/-- `HIL_APPLICATION_Test_Instructions_size` -/
def testInstructionsSize (_data : TestInstruction) : Result Nat :=
  .ok testInstructionFixedPayloadSize

/-- `HIL_APPLICATION_Aligned_Record_size` -/
def alignedRecordSize (span : ByteSpan) (runningTotal : Nat) : Result Nat :=
  if span.count ≠ 0 ∧ span.isNull then fail .invalidArgument
  else checked .invalidLength do
    let recordWireSize ← checkedAddSize recordHeaderSize span.count
    let recordWireSize ← checkedAddSize recordWireSize (align4Padding span.count)
    checkedAddSize runningTotal recordWireSize

/-- The record loop of the two variable-length size functions. -/
def alignedRecordsSize : List Record → (runningTotal : Nat) → Result Nat
  | [], runningTotal => .ok runningTotal
  | record :: records, runningTotal => do
      let runningTotal ← alignedRecordSize record.payload runningTotal
      alignedRecordsSize records runningTotal

/-- `HIL_APPLICATION_Update_Instruction_size` -/
def updateInstructionSize (data : UpdateInstruction) : Result Nat :=
  if data.operations.count ≠ 0 ∧ data.operations.isNull then fail .invalidArgument
  else alignedRecordsSize data.operations.elements updateInstructionHeaderSize

/-- `HIL_APPLICATION_Test_Result_size` -/
def testResultSize (_data : TestResult) : Result Nat := .ok testResultFixedPayloadSize

/-- `HIL_APPLICATION_Variable_Test_Result_size` -/
def variableTestResultSize (data : VariableTestResult) : Result Nat :=
  if data.records.count ≠ 0 ∧ data.records.isNull then fail .invalidArgument
  else alignedRecordsSize data.records.elements variableTestResultHeaderSize

/-! ## Controls, responses and errors -/

/-- `HIL_APPLICATION_Execution_Control_size` -/
def executionControlSize (context : Context) (data : ExecutionControl) : Result Nat := do
  executionControlValidate context data
  .ok controlFixedEncodeSize

/-- `HIL_APPLICATION_Global_Control_size` -/
def globalControlSize (context : Context) (data : GlobalControl) : Result Nat := do
  globalControlValidate context data
  .ok controlFixedEncodeSize

/-- `HIL_APPLICATION_Finalize_Test_Upload_size` -/
def finalizeTestUploadSize (context : Context) (data : FinalizeTestUpload) : Result Nat := do
  finalizeTestUploadValidate context data
  .ok wireU32Size

/-- `HIL_APPLICATION_Response_size` -/
def responseSize (context : Context) (data : Response) : Result Nat := do
  responseValidate context data
  .ok responseFixedPayloadSize

/-- `HIL_APPLICATION_Error_size` -/
def errorSize (context : Context) (data : Error) : Result Nat := do
  errorValidate context data
  checked .invalidLength (checkedAddSize errorFixedPayloadSize data.diagnosticData.count)

/-- `HIL_APPLICATION_Rig_Status_size` -/
def rigStatusSize (context : Context) (data : RigStatus) : Result Nat := do
  rigStatusValidate context data
  .ok rigStatusPayloadSize

/-- `HIL_APPLICATION_Run_Report_size` -/
def runReportSize (context : Context) (data : RunReport) : Result Nat := do
  runReportValidate context data
  checked .invalidLength (checkedAddSize runReportFixedPayloadSize data.extensionData.count)

/-- The `ARBITRARY_CONTROL` case of `HIL_APPLICATION_Body_Size`. -/
def arbitraryControlSize (context : Context) (data : ArbitraryControl) : Result Nat := do
  arbitraryControlValidate context data
  .ok arbitraryControlPayloadSize

/-- `HIL_APPLICATION_Arbitrary_Data_size` -/
def arbitraryDataSize (context : Context) (data : ArbitraryData) : Result Nat := do
  arbitraryDataValidate context data
  checked .invalidLength (checkedAddSize arbitraryDataPrefixSize data.payload.count)

/-- `HIL_APPLICATION_Body_Size` -/
def bodySize (context : Context) : Body → Result Nat
  | .runReport data => runReportSize context data
  | .rigStatus data => rigStatusSize context data
  | .systemInfoRequest data => systemInfoRequestSize context data
  | .systemInfoResponse data => systemInfoResponseSize context data
  | .testConfiguration data => testConfigurationSize data
  | .testInstruction data => testInstructionsSize data
  | .updateInstruction data => updateInstructionSize data
  | .finalizeTestUpload data => finalizeTestUploadSize context data
  | .executionControl data => executionControlSize context data
  | .globalControl data => globalControlSize context data
  | .testResult data => testResultSize data
  | .variableTestResult data => variableTestResultSize data
  | .response data => responseSize context data
  | .error data => errorSize context data
  | .arbitraryControl data => arbitraryControlSize context data
  | .arbitraryData data => arbitraryDataSize context data

end

end HilRigProtocol.Application
