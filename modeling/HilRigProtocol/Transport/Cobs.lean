/-
  COBS framing: the vendored encoder and decoder (`third_party/cobs/cobs.c`) and
  the wrappers around them (`transport_cobs.c`).

  The destination buffer is the list of the bytes written so far. The encoder
  writes a code byte after the bytes it counts, so its destination is in two
  parts: `done`, everything before `dst_code_write_ptr`, and `block`, everything
  after the byte that pointer reserves. Buffers are distinct objects, so the
  NULL and overlap checks of the wrappers never fire.
-/
import HilRigProtocol.Transport.Types

namespace HilRigProtocol.Transport

/-! ## The vendored encoder -/

/-- The pointers of the encoder: `dst_code_write_ptr` is at `done.length` and
    `dst_write_ptr` at `done.length + 1 + block.length`. -/
structure CobsEncodeState where
  done : List UInt8
  block : List UInt8
  searchLen : UInt8
  outBufferOverflow : Bool
  deriving DecidableEq, Repr

/-- `dst_write_ptr - dst_buf_start_ptr` -/
def CobsEncodeState.writeOffset (st : CobsEncodeState) : Nat :=
  st.done.length + 1 + st.block.length

/-- `*dst_code_write_ptr = search_len; dst_code_write_ptr = dst_write_ptr++; search_len = 1` -/
def CobsEncodeState.closeBlock (st : CobsEncodeState) : CobsEncodeState :=
  { st with done := st.done ++ st.searchLen :: st.block, block := [], searchLen := 1 }

/-- `*dst_write_ptr++ = src_byte; search_len++` -/
def CobsEncodeState.push (st : CobsEncodeState) (srcByte : UInt8) : CobsEncodeState :=
  { st with block := st.block ++ [srcByte], searchLen := st.searchLen + 1 }

/-- The loop of the encoder on the bytes from `src_read_ptr` on. -/
def cobsEncodeLoop (dstLen : Nat) (st : CobsEncodeState) : List UInt8 → CobsEncodeState
  | [] => st
  | srcByte :: rest =>
      if st.writeOffset ≥ dstLen then { st with outBufferOverflow := true }
      else if srcByte = 0 then cobsEncodeLoop dstLen st.closeBlock rest
      else if rest = [] then st.push srcByte
      else if (st.push srcByte).searchLen = 0xFF then
        cobsEncodeLoop dstLen (st.push srcByte).closeBlock rest
      else cobsEncodeLoop dstLen (st.push srcByte) rest

/-- `cobs_encode_result` with the bytes written; `out_len` is their number. -/
structure CobsEncodeResult where
  out : List UInt8
  outBufferOverflow : Bool
  deriving DecidableEq, Repr

/-- `HIL_TRANSPORT_THIRD_PARTY_COBS_Encode` -/
def thirdPartyCobsEncode (dstLen : Nat) (src : List UInt8) : CobsEncodeResult :=
  let st := cobsEncodeLoop dstLen
    { done := [], block := [], searchLen := 1, outBufferOverflow := false } src
  if st.done.length ≥ dstLen then { out := st.done.take dstLen, outBufferOverflow := true }
  else { out := st.done ++ st.searchLen :: st.block, outBufferOverflow := st.outBufferOverflow }

/-! ## The vendored decoder -/

/-- `dst_write_ptr` is at `out.length`; the flags are the bits of `result.status`. -/
structure CobsDecodeState where
  out : List UInt8
  zeroByteInInput : Bool
  outBufferOverflow : Bool
  inputTooShort : Bool
  deriving DecidableEq, Repr

/-- The copy of one block of the decoder: `len_code` bytes, cut to what is left of
    the input and of the output. The result is `len_code` after the cuts. -/
def cobsDecodeBlock (dstLen : Nat) (st : CobsDecodeState) (lenCode : Nat) (src : List UInt8) :
    CobsDecodeState × Nat :=
  let inputTooShort := st.inputTooShort || decide (lenCode > src.length)
  let lenCode := min lenCode src.length
  let outBufferOverflow := st.outBufferOverflow || decide (lenCode > dstLen - st.out.length)
  let lenCode := min lenCode (dstLen - st.out.length)
  let copied := src.take lenCode
  ({ out := st.out ++ copied
     zeroByteInInput := st.zeroByteInInput || copied.any (· == 0)
     outBufferOverflow := outBufferOverflow
     inputTooShort := inputTooShort }, lenCode)

/-- The loop of the decoder; every pass consumes at least the code byte, so the
    length of the input is enough `fuel`. -/
def cobsDecodeLoop (dstLen : Nat) : Nat → CobsDecodeState → List UInt8 → CobsDecodeState
  | 0, st, _ => st
  | _ + 1, st, [] => st
  | fuel + 1, st, code :: src =>
      if code = 0 then { st with zeroByteInInput := true }
      else
        let next := cobsDecodeBlock dstLen st (code.toNat - 1) src
        let src := src.drop next.2
        if src = [] then next.1
        else if next.2 = 0xFE then cobsDecodeLoop dstLen fuel next.1 src
        else if next.1.out.length ≥ dstLen then { next.1 with outBufferOverflow := true }
        else cobsDecodeLoop dstLen fuel { next.1 with out := next.1.out ++ [0] } src

/-- `HIL_TRANSPORT_THIRD_PARTY_COBS_Decode` -/
def thirdPartyCobsDecode (dstLen : Nat) (src : List UInt8) : CobsDecodeState :=
  cobsDecodeLoop dstLen src.length
    { out := [], zeroByteInInput := false, outBufferOverflow := false, inputTooShort := false } src

/-! ## The wrappers -/

section
variable [Target]

/-- `HIL_TRANSPORT_COBS_Max_Encoded_Size` -/
def cobsMaxEncodedSize (inputSize : Nat) : Status × Nat :=
  if inputSize = 0 then (.ok, 1)
  else if inputSize > Target.sizeMax - 253 then (.unsupportedConfiguration, 0)
  else
    let blockCount := (inputSize + 253) / 254
    if inputSize > Target.sizeMax - blockCount then (.unsupportedConfiguration, 0)
    else (.ok, inputSize + blockCount)

end

/-- `HIL_TRANSPORT_COBS_Encode` -/
def cobsEncode (input : List UInt8) (outputSize : Nat) : Status × List UInt8 :=
  if input = [] ∨ outputSize = 0 then (.invalidArgument, [])
  else
    let result := thirdPartyCobsEncode outputSize input
    if result.outBufferOverflow then (.bufferTooSmall, [])
    else (.ok, result.out)

/-- `HIL_TRANSPORT_COBS_Decode` -/
def cobsDecode (input : List UInt8) (outputSize : Nat) : Status × List UInt8 :=
  if input = [] ∨ outputSize = 0 then (.invalidArgument, [])
  else
    let result := thirdPartyCobsDecode outputSize input
    if result.outBufferOverflow then (.bufferTooSmall, [])
    else if result.zeroByteInInput ∨ result.inputTooShort then (.internalError, [])
    else (.ok, result.out)

end HilRigProtocol.Transport
