/-
  The common 23-byte envelope (`application_message.c`).
-/
import HilRigProtocol.Application.Encoding
import HilRigProtocol.Application.Decoding

namespace HilRigProtocol.Application

open Library Library.Reader

-- `HIL_Application_Message_Subtype_T`
namespace MessageSubtype
abbrev none : Int := 0
abbrev basic : Int := 1
end MessageSubtype

/-- `HIL_Application_Envelope_T` -/
structure Envelope where
  protocolMajor : UInt8
  protocolMinor : UInt8
  hasTestId : UInt8
  testId : TestId
  type : MessageType
  subtype : Int
  payloadLength : UInt16

/-- The two System Information types, whose messages cross protocol versions. -/
def MessageType.isDiscovery (type : MessageType) : Bool :=
  type == .systemInfoRequest || type == .systemInfoResponse

/-- `HIL_APPLICATION_Subtype_Is_Representable` -/
def subtypeIsRepresentable (subtype : Int) : Bool :=
  subtype == MessageSubtype.none || subtype == MessageSubtype.basic

/-- `HIL_APPLICATION_Test_Id_Is_Zero` -/
def testIdIsZero (testId : TestId) : Bool := testId.toList.all (· == 0)

/-- `HIL_APPLICATION_Validate_Envelope_Syntax`, for a type that is defined. -/
def validateEnvelopeSyntax (type : MessageType) (subtype : Int) : Result Unit :=
  if ¬ subtypeIsRepresentable subtype then fail .invalidSubtype
  else if type.isDiscovery then
    if subtype ≠ MessageSubtype.basic then fail .invalidSubtype else .ok ()
  else if subtype ≠ MessageSubtype.none then fail .invalidSubtype
  else .ok ()

/-- The types whose messages belong to a test. -/
def MessageType.needsTestId : MessageType → Bool
  | testConfiguration => true
  | testInstruction => true
  | updateInstruction => true
  | finalizeTestUpload => true
  | executionControl => true
  | testResult => true
  | runReport => true
  | variableTestResult => true
  | _ => false

/-- `HIL_APPLICATION_Validate_Envelope_Fields`, for a type that is defined. -/
def validateEnvelopeFields (type : MessageType) (subtype : Int) (hasTestId : UInt8) :
    Result Unit := do
  validateEnvelopeSyntax type subtype
  if hasTestId > 1 then fail .inconsistentTestId
  else if type.isDiscovery ∨ type = .globalControl then
    if hasTestId = 0 then .ok () else fail .inconsistentTestId
  else if type.needsTestId then
    if hasTestId = 1 then .ok () else fail .inconsistentTestId
  else .ok ()

/-- The Test ID rules that depend on the body. -/
def validateBodyTestId (hasTestId : UInt8) : Body → Result Unit
  | .rigStatus data =>
      if data.flags &&& readyForNewTest ≠ 0 ∧ hasTestId ≠ 0 then fail .inconsistentTestId
      else .ok ()
  | .response data =>
      if hasTestId ≠ (if data.scope = ResponseScope.globalControl then 0 else 1) then
        fail .inconsistentTestId
      else .ok ()
  | .error data =>
      if data.hasTickNumber = 1 ∧ hasTestId = 0 then fail .inconsistentTestId else .ok ()
  | _ => .ok ()

/-- `HIL_APPLICATION_Validate_Common_Message_Fields` -/
def validateCommonMessageFields (message : Message) : Result Unit := do
  validateEnvelopeFields message.body.type message.subtype message.hasTestId
  validateBodyTestId message.hasTestId message.body

/-- `HIL_APPLICATION_Header_Encoding`; the payload length is patched in afterwards. -/
def headerEncoding (message : Message) (destCapacity : Nat) : Result (List UInt8) :=
  if destCapacity < headerSizeBytes then fail .bufferTooSmall
  else do
    validateCommonMessageFields message
    let wireSubtype ← checked .validationFailed (enumToU8 message.subtype)
    .ok ([protocolVersionMajor.toUInt8, protocolVersionMinor.toUInt8, message.hasTestId]
      ++ (if message.hasTestId = 1 then message.testId.toList else List.replicate 16 0)
      ++ [message.body.type.value, wireSubtype] ++ encodeU16Le 0)

/-- `HIL_APPLICATION_Header_Decoding` -/
def headerDecoding (encodedMessage : List UInt8) : Result Envelope :=
  if encodedMessage.length < headerSizeBytes then fail .truncatedMessage
  else do
    let (protocolMajor, rest) ← read byte encodedMessage
    let (protocolMinor, rest) ← read byte rest
    let (hasTestId, rest) ← read byte rest
    if hasTestId > 1 then fail .malformedMessage
    else do
      let (testId, rest) ← read (vector byte 16) rest
      if hasTestId = 0 ∧ ¬ testIdIsZero testId then fail .inconsistentTestId
      else do
        let (wireType, rest) ← read byte rest
        let (subtype, rest) ← read readEnum rest
        let (payloadLength, _) ← read readU16Le rest
        let type ← checked .invalidMessageType (MessageType.ofByte? wireType)
        validateEnvelopeFields type subtype hasTestId
        if ¬ type.isDiscovery ∧ (protocolMajor ≠ protocolVersionMajor.toUInt8
            ∨ protocolMinor ≠ protocolVersionMinor.toUInt8) then
          fail .versionMismatch
        else .ok { protocolMajor, protocolMinor, hasTestId, testId, type, subtype, payloadLength }

/-- The comparison of `HIL_APPLICATION_Validate_Discovery_Envelope_Body`. -/
def validateDiscoveryVersion (envelope : Envelope) (major minor : UInt16) : Result Unit :=
  if major = envelope.protocolMajor.toUInt16 ∧ minor = envelope.protocolMinor.toUInt16 then .ok ()
  else fail .malformedMessage

/-- `HIL_APPLICATION_Validate_Discovery_Envelope_Body` -/
def validateDiscoveryEnvelopeBody (envelope : Envelope) : Body → Result Unit
  | .systemInfoRequest data =>
      validateDiscoveryVersion envelope data.applicationProtocolMajor data.applicationProtocolMinor
  | .systemInfoResponse data =>
      validateDiscoveryVersion envelope data.applicationProtocolMajor data.applicationProtocolMinor
  | _ => .ok ()

end HilRigProtocol.Application
