/-
  The MVP frame codec (`transport_frame_codec_mvp.c`): 14 header bytes, the
  payload and a CRC-32, in COBS with one zero byte at the end.

  Buffers are distinct objects, so the NULL and overlap checks never fire. The raw
  scratch is written in full before it is read, in every call, and is not a part
  of the result.
-/
import HilRigProtocol.Transport.Cobs
import HilRigProtocol.Transport.Crc

namespace HilRigProtocol.Transport

/-- `HIL_TRANSPORT_MVP_HEADER_SIZE` -/
def headerSize : Nat := 14

/-- `HIL_TRANSPORT_MVP_CRC_SIZE` -/
def crcSize : Nat := 4

/-- `HIL_TRANSPORT_MVP_RAW_OVERHEAD` -/
def rawOverhead : Nat := 18

/-- `HIL_TRANSPORT_MVP_PROTOCOL_VERSION` -/
def protocolVersion : UInt8 := 0x01

/-- `HIL_TRANSPORT_MVP_Write_U16_LE` -/
def writeU16LE (value : UInt16) : List UInt8 :=
  [(value &&& 0x00FF).toUInt8, (value >>> 8).toUInt8]

/-- `HIL_TRANSPORT_MVP_Write_U32_LE` -/
def writeU32LE (value : UInt32) : List UInt8 :=
  [(value &&& 0x000000FF).toUInt8, ((value >>> 8) &&& 0x000000FF).toUInt8,
   ((value >>> 16) &&& 0x000000FF).toUInt8, (value >>> 24).toUInt8]

/-- The loop of `HIL_TRANSPORT_MVP_Write_U64_LE`, `count` bytes from here. -/
def writeU64LELoop : Nat → UInt64 → List UInt8
  | 0, _ => []
  | count + 1, value => (value &&& 0xFF).toUInt8 :: writeU64LELoop count (value >>> 8)

/-- `HIL_TRANSPORT_MVP_Write_U64_LE` -/
def writeU64LE (value : UInt64) : List UInt8 := writeU64LELoop 8 value

/-- `HIL_TRANSPORT_MVP_Read_U16_LE` -/
def readU16LE (input : List UInt8) : UInt16 :=
  (input.getD 0 0).toUInt16 ||| ((input.getD 1 0).toUInt16 <<< 8)

/-- `HIL_TRANSPORT_MVP_Read_U32_LE` -/
def readU32LE (input : List UInt8) : UInt32 :=
  (input.getD 0 0).toUInt32 ||| ((input.getD 1 0).toUInt32 <<< 8)
    ||| ((input.getD 2 0).toUInt32 <<< 16) ||| ((input.getD 3 0).toUInt32 <<< 24)

/-- The loop of `HIL_TRANSPORT_MVP_Read_U64_LE`, from `index` on. -/
def readU64LELoop : Nat → UInt64 → UInt64 → List UInt8 → UInt64
  | 0, _, value, _ => value
  | _ + 1, _, value, [] => value
  | count + 1, index, value, byte :: rest =>
      readU64LELoop count (index + 1) (value ||| (byte.toUInt64 <<< (index * 8))) rest

/-- `HIL_TRANSPORT_MVP_Read_U64_LE` -/
def readU64LE (input : List UInt8) : UInt64 := readU64LELoop 8 0 0 input

/-- `HIL_TRANSPORT_MVP_Frame_Type_Valid` -/
def frameTypeValid : FrameType → Bool
  | .invalid => false
  | .unlisted _ => false
  | _ => true

/-- `HIL_TRANSPORT_MVP_Validate_Frame` -/
def validateFrame (frame : Frame) (maximumApplicationMessageSize : Nat) : Status :=
  if ¬ frameTypeValid frame.type ∨ frame.sessionIdentifier = sessionSeedInvalid then
    .invalidArgument
  else if frame.type = .applicationMessage then
    if frame.acknowledgementSequence ≠ 0 then .invalidArgument
    else if frame.payload.length = 0 then .invalidArgument
    else if frame.payload.length > maximumApplicationMessageSize then .messageTooLarge
    else .ok
  else if frame.payload.length ≠ 0 then .invalidArgument
  else
    match frame.type with
    | .initiate => if frame.acknowledgementSequence = 0 then .ok else .invalidArgument
    | .response => .ok
    | .confirm => .ok
    | .ack => if frame.sequence = 0 then .ok else .invalidArgument
    | .reset =>
        if frame.sequence = 0 ∧ frame.acknowledgementSequence = 0 then .ok else .invalidArgument
    | _ => .invalidArgument

section
variable [Target]

/-- The loop of `HIL_TRANSPORT_MVP_Exact_Cobs_Size` on the bytes from `index` on. -/
def exactCobsSizeLoop (size : Nat) (nonzeroRun : UInt8) : List UInt8 → Status × Nat
  | [] => (.ok, size)
  | byte :: rest =>
      if size = Target.sizeMax then (.unsupportedConfiguration, 0)
      else if byte = 0 then exactCobsSizeLoop (size + 1) 0 rest
      else if nonzeroRun + 1 = 254 ∧ rest ≠ [] then
        if size + 1 = Target.sizeMax then (.unsupportedConfiguration, 0)
        else exactCobsSizeLoop (size + 2) 0 rest
      else exactCobsSizeLoop (size + 1) (nonzeroRun + 1) rest

/-- `HIL_TRANSPORT_MVP_Exact_Cobs_Size` -/
def exactCobsSize (raw : List UInt8) : Status × Nat :=
  if raw = [] then (.invalidArgument, 0) else exactCobsSizeLoop 1 0 raw

/-- `HIL_TRANSPORT_MVP_Max_Encoded_Size` -/
def maxEncodedSize (maximumApplicationMessageSize : Nat) : Nat :=
  if maximumApplicationMessageSize = 0
      ∨ maximumApplicationMessageSize > Target.sizeMax - rawOverhead then 0
  else
    let (status, cobsSize) := cobsMaxEncodedSize (maximumApplicationMessageSize + rawOverhead)
    if status ≠ .ok then 0
    else if cobsSize = Target.sizeMax then 0
    else cobsSize + 1

/-- The header and the payload that `HIL_TRANSPORT_MVP_Encode_Frame` writes at the
    start of the raw scratch. -/
def rawBody (frame : Frame) : List UInt8 :=
  protocolVersion :: frame.type.toByte :: writeU64LE frame.sessionIdentifier
    ++ writeU16LE frame.sequence ++ writeU16LE frame.acknowledgementSequence ++ frame.payload

/-- The raw scratch of `HIL_TRANSPORT_MVP_Encode_Frame` up to `raw_size`. -/
def rawFrame (frame : Frame) : List UInt8 :=
  rawBody frame ++ writeU32LE (crc32Compute (rawBody frame))

/-- `HIL_TRANSPORT_MVP_Encode_Frame`: the status and the bytes of `out_buffer` up to
    `output_size`. -/
def encodeFrame (frame : Frame) (maximumApplicationMessageSize rawScratchSize outBufferSize : Nat) :
    Status × List UInt8 :=
  let status := validateFrame frame maximumApplicationMessageSize
  if status ≠ .ok then (status, [])
  else if frame.payload.length > Target.sizeMax - rawOverhead then (.unsupportedConfiguration, [])
  else if rawScratchSize < rawOverhead + frame.payload.length then (.bufferTooSmall, [])
  else
    let raw := rawFrame frame
    let (status, cobsSize) := exactCobsSize raw
    if status ≠ .ok then (status, [])
    else if cobsSize = Target.sizeMax ∨ outBufferSize < cobsSize + 1 then (.bufferTooSmall, [])
    else
      let (status, produced) := cobsEncode raw cobsSize
      if status ≠ .ok then (status, [])
      else if produced.length ≠ cobsSize then (.internalError, [])
      else (.ok, produced ++ [0])

/-- The fields that `HIL_TRANSPORT_MVP_Decode_Frame_View` reads from the raw scratch. -/
def candidateFrame (raw : List UInt8) : Frame where
  type := FrameType.ofByte (raw.getD 1 0)
  sessionIdentifier := readU64LE (raw.drop 2)
  sequence := readU16LE (raw.drop 10)
  acknowledgementSequence := readU16LE (raw.drop 12)
  payload := (raw.drop headerSize).take (raw.length - rawOverhead)

/-- `HIL_TRANSPORT_MVP_Decode_Frame_View`: the status, the frame and the
    classification. The payload of the frame points into the raw scratch. -/
def decodeFrameView (encodedBody : List UInt8) (rawScratchSize maximumApplicationMessageSize : Nat) :
    Status × Frame × DecodeResult :=
  if encodedBody = [] ∨ rawScratchSize = 0 then (.invalidArgument, .zero, .malformed)
  else if maximumApplicationMessageSize > Target.sizeMax - rawOverhead then
    (.unsupportedConfiguration, .zero, .malformed)
  else if rawScratchSize < maximumApplicationMessageSize + rawOverhead then
    (.bufferTooSmall, .zero, .malformed)
  else
    let (status, raw) := cobsDecode encodedBody rawScratchSize
    if status = .internalError then (.ok, .zero, .malformed)
    -- The scratch holds the largest valid frame, so an overflow is malformed input.
    else if status = .bufferTooSmall then (.ok, .zero, .malformed)
    else if status ≠ .ok then (status, .zero, .malformed)
    else if raw.length < rawOverhead then (.ok, .zero, .malformed)
    else
      let expectedCrc := readU32LE (raw.drop (raw.length - crcSize))
      let actualCrc := crc32Compute (raw.take (raw.length - crcSize))
      if expectedCrc ≠ actualCrc then (.ok, .zero, .integrityInvalid)
      else if raw.getD 0 0 ≠ protocolVersion then (.ok, .zero, .sessionIncompatible)
      else if ¬ frameTypeValid (FrameType.ofByte (raw.getD 1 0)) then (.ok, .zero, .malformed)
      else
        let candidate := candidateFrame raw
        let status := validateFrame candidate maximumApplicationMessageSize
        if status = .messageTooLarge then (.messageTooLarge, .zero, .malformed)
        else if status ≠ .ok then (.ok, .zero, .malformed)
        else (.ok, candidate, .valid)

end

end HilRigProtocol.Transport
