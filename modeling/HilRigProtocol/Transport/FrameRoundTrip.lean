/-
  The frame codec round trip through the stream.

  `encodedFrame` is the byte string that `encodeFrame` writes: the COBS code of the
  raw frame and a zero. It has no other zero (`encodeFrame_eq`), so the parser finds
  exactly one body in it (`Parser.pushBytes_delimited`), and the decoder reads the frame back
  (`decodeFrameView_cobsCode`). Nothing is claimed about damaged frames here.
-/
import HilRigProtocol.Library.LittleEndian
import HilRigProtocol.Transport.CobsRefines
import HilRigProtocol.Transport.Parser

namespace HilRigProtocol.Transport

open Library

/-! ## Fields -/

theorem writeU16LE_eq (value : UInt16) : writeU16LE value = toLe 2 value.toNat := by
  simp only [writeU16LE, toLe, List.cons.injEq, and_true]
  constructor <;> apply UInt8.toNat_inj.mp
  · simp [and_lowByte]
  · simp [Nat.shiftRight_eq_div_pow]

theorem writeU32LE_eq (value : UInt32) : writeU32LE value = toLe 4 value.toNat := by
  simp only [writeU32LE, toLe, List.cons.injEq, and_true]
  refine ⟨?_, ?_, ?_, ?_⟩ <;> apply UInt8.toNat_inj.mp
  · simp [and_lowByte]
  · simp [and_lowByte, Nat.shiftRight_eq_div_pow]
  · simp [and_lowByte, Nat.shiftRight_eq_div_pow, Nat.div_div_eq_div_mul]
  · simp [Nat.shiftRight_eq_div_pow, Nat.div_div_eq_div_mul]

theorem writeU64LELoop_eq (count : Nat) (value : UInt64) :
    writeU64LELoop count value = toLe count value.toNat := by
  induction count generalizing value with
  | zero => rfl
  | succ count ih =>
      simp only [writeU64LELoop, toLe, ih, List.cons.injEq]
      constructor
      · apply UInt8.toNat_inj.mp
        simp [and_lowByte]
      · simp [Nat.shiftRight_eq_div_pow]

theorem toNat_readU16LE (input : List UInt8) (h : 2 ≤ input.length) :
    (readU16LE input).toNat = ofLe (input.take 2) := by
  obtain ⟨a, b, rest, rfl⟩ : ∃ a b rest, input = a :: b :: rest := by
    match input, h with
    | a :: b :: rest, _ => exact ⟨a, b, rest, rfl⟩
  have ha := a.toNat_lt
  have hb := b.toNat_lt
  simp only [readU16LE, ofLe, List.getD_cons_zero, List.getD_cons_succ, UInt16.toNat_or,
    UInt16.toNat_shiftLeft, UInt8.toNat_toUInt16, List.take]
  rw [show (UInt16.toNat 8 % 16) = 8 from rfl, Nat.mod_eq_of_lt (by rw [Nat.shiftLeft_eq]; omega),
    or_shiftLeft_eq_add ha]
  omega

theorem toNat_readU32LE (input : List UInt8) (h : 4 ≤ input.length) :
    (readU32LE input).toNat = ofLe (input.take 4) := by
  obtain ⟨a, b, c, d, rest, rfl⟩ : ∃ a b c d rest, input = a :: b :: c :: d :: rest := by
    match input, h with
    | a :: b :: c :: d :: rest, _ => exact ⟨a, b, c, d, rest, rfl⟩
  have ha := a.toNat_lt
  have hb := b.toNat_lt
  have hc := c.toNat_lt
  have hd := d.toNat_lt
  simp only [readU32LE, ofLe, List.getD_cons_zero, List.getD_cons_succ, UInt32.toNat_or,
    UInt32.toNat_shiftLeft, UInt8.toNat_toUInt32, List.take]
  rw [show (UInt32.toNat 8 % 32) = 8 from rfl, show (UInt32.toNat 16 % 32) = 16 from rfl,
    show (UInt32.toNat 24 % 32) = 24 from rfl,
    Nat.mod_eq_of_lt (show b.toNat <<< 8 < 2 ^ 32 by rw [Nat.shiftLeft_eq]; omega),
    Nat.mod_eq_of_lt (show c.toNat <<< 16 < 2 ^ 32 by rw [Nat.shiftLeft_eq]; omega),
    Nat.mod_eq_of_lt (show d.toNat <<< 24 < 2 ^ 32 by rw [Nat.shiftLeft_eq]; omega),
    or_shiftLeft_eq_add ha, or_shiftLeft_eq_add (v := a.toNat + b.toNat * 2 ^ 8) (by omega),
    or_shiftLeft_eq_add (v := a.toNat + b.toNat * 2 ^ 8 + c.toNat * 2 ^ 16) (by omega)]
  omega

theorem toNat_readU64LELoop (count index : Nat) (value : UInt64) (input : List UInt8)
    (hsize : index + count = 8) (hlen : count ≤ input.length) (hvalue : value.toNat < 256 ^ index) :
    (readU64LELoop count (UInt64.ofNat index) value input).toNat =
      value.toNat + 256 ^ index * ofLe (input.take count) := by
  induction count generalizing index value input with
  | zero => simp [readU64LELoop, ofLe]
  | succ count ih =>
      cases input with
      | nil => simp at hlen
      | cons byte rest =>
          have hbyte := byte.toNat_lt
          have hshift : (UInt64.ofNat index * 8).toNat = 8 * index := by
            rw [UInt64.toNat_mul, UInt64.toNat_ofNat_of_lt' (by simp [UInt64.size]; omega)]
            simp
            omega
          have hpow : 256 ^ index = 2 ^ (8 * index) := by rw [Nat.pow_mul]
          have hnext : (value ||| byte.toUInt64 <<< (UInt64.ofNat index * 8)).toNat =
              value.toNat + byte.toNat * 256 ^ index := by
            have hfit : byte.toNat * 2 ^ (8 * index) < 2 ^ 64 := by
              calc byte.toNat * 2 ^ (8 * index) < 2 ^ 8 * 2 ^ (8 * index) :=
                    Nat.mul_lt_mul_of_pos_right hbyte (Nat.two_pow_pos _)
                _ = 2 ^ (8 + 8 * index) := by rw [Nat.pow_add]
                _ ≤ 2 ^ 64 := Nat.pow_le_pow_right (by omega) (by omega)
            rw [UInt64.toNat_or, UInt64.toNat_shiftLeft, hshift, UInt8.toNat_toUInt64,
              Nat.mod_eq_of_lt (show 8 * index < 64 by omega), Nat.shiftLeft_eq,
              Nat.mod_eq_of_lt hfit, ← Nat.shiftLeft_eq, or_shiftLeft_eq_add (by rwa [← hpow]), hpow]
          have hnextLt : (value ||| byte.toUInt64 <<< (UInt64.ofNat index * 8)).toNat
              < 256 ^ (index + 1) := by
            rw [hnext, Nat.pow_succ]
            have : byte.toNat * 256 ^ index ≤ 255 * 256 ^ index :=
              Nat.mul_le_mul_right _ (by omega)
            omega
          have hindex : UInt64.ofNat index + 1 = UInt64.ofNat (index + 1) := by simp
          simp only [readU64LELoop, List.take_succ_cons, ofLe]
          rw [hindex, ih (index + 1) _ rest (by omega) (by simpa using hlen) hnextLt, hnext,
            Nat.pow_succ]
          ring

theorem readU16LE_append (value : UInt16) (rest : List UInt8) :
    readU16LE (writeU16LE value ++ rest) = value := by
  apply UInt16.toNat_inj.mp
  rw [toNat_readU16LE _ (by simp [writeU16LE_eq]), writeU16LE_eq,
    List.take_left' (length_toLe _ _), ofLe_toLe 2 _ value.toNat_lt]

theorem readU32LE_append (value : UInt32) (rest : List UInt8) :
    readU32LE (writeU32LE value ++ rest) = value := by
  apply UInt32.toNat_inj.mp
  rw [toNat_readU32LE _ (by simp [writeU32LE_eq]), writeU32LE_eq,
    List.take_left' (length_toLe _ _), ofLe_toLe 4 _ value.toNat_lt]

theorem readU64LE_append (value : UInt64) (rest : List UInt8) :
    readU64LE (writeU64LE value ++ rest) = value := by
  apply UInt64.toNat_inj.mp
  have := toNat_readU64LELoop 8 0 0 (writeU64LE value ++ rest) rfl
    (by simp [writeU64LE, writeU64LELoop_eq]) (by decide)
  rw [readU64LE, show (0 : UInt64) = UInt64.ofNat 0 from rfl] at *
  rw [this, writeU64LE, writeU64LELoop_eq, List.take_left' (length_toLe _ _),
    ofLe_toLe 8 _ value.toNat_lt]
  simp

/-- The wire byte of a frame type that a frame may have names that type. -/
theorem ofByte_toByte {frameType : FrameType} (h : frameTypeValid frameType = true) :
    FrameType.ofByte frameType.toByte = frameType := by
  cases frameType <;> first | rfl | cases h

/-! ## The raw frame -/

@[simp] theorem length_rawBody (frame : Frame) :
    (rawBody frame).length = frame.payload.length + headerSize := by
  simp [rawBody, writeU64LE, writeU64LELoop_eq, writeU16LE_eq, headerSize]
  omega

@[simp] theorem length_rawFrame (frame : Frame) :
    (rawFrame frame).length = frame.payload.length + rawOverhead := by
  simp [rawFrame, writeU32LE_eq, headerSize, rawOverhead]

theorem rawFrame_ne_nil (frame : Frame) : rawFrame frame ≠ [] := by
  intro h
  have := length_rawFrame frame
  simp [h, rawOverhead] at this

theorem frameTypeValid_of_validateFrame {frame : Frame} {maximumApplicationMessageSize : Nat}
    (h : validateFrame frame maximumApplicationMessageSize = .ok) :
    frameTypeValid frame.type = true := by
  unfold validateFrame at h
  by_contra hinvalid
  rw [if_pos (Or.inl hinvalid)] at h
  cases h

/-- A frame that passes the checks has a payload within the configured maximum. -/
theorem length_payload_le_of_validateFrame {frame : Frame} {maximumApplicationMessageSize : Nat}
    (h : validateFrame frame maximumApplicationMessageSize = .ok) :
    frame.payload.length ≤ maximumApplicationMessageSize := by
  unfold validateFrame at h
  split_ifs at h <;> omega

/-- The fields that the decoder reads from a raw frame are the frame's. -/
theorem candidateFrame_rawFrame {frame : Frame} (h : frameTypeValid frame.type = true) :
    candidateFrame (rawFrame frame) = frame := by
  have htype : FrameType.ofByte ((rawFrame frame).getD 1 0) = frame.type := ofByte_toByte h
  have hid : readU64LE ((rawFrame frame).drop 2) = frame.sessionIdentifier := by
    rw [show (rawFrame frame).drop 2 = writeU64LE frame.sessionIdentifier ++
      (rawFrame frame).drop 10 from rfl]
    exact readU64LE_append _ _
  have hsequence : readU16LE ((rawFrame frame).drop 10) = frame.sequence := by
    rw [show (rawFrame frame).drop 10 = writeU16LE frame.sequence ++
      (rawFrame frame).drop 12 from rfl]
    exact readU16LE_append _ _
  have hack : readU16LE ((rawFrame frame).drop 12) = frame.acknowledgementSequence := by
    rw [show (rawFrame frame).drop 12 = writeU16LE frame.acknowledgementSequence ++
      (rawFrame frame).drop headerSize from rfl]
    exact readU16LE_append _ _
  have hpayload : ((rawFrame frame).drop headerSize).take
      ((rawFrame frame).length - rawOverhead) = frame.payload := by
    rw [show (rawFrame frame).drop headerSize = frame.payload ++
      writeU32LE (crc32Compute (rawBody frame)) from rfl]
    exact List.take_left' (by simp)
  unfold candidateFrame
  rw [htype, hid, hsequence, hack, hpayload]

/-- The bytes that `encodeFrame` writes for a frame. -/
def encodedFrame (frame : Frame) : List UInt8 := cobsCode (rawFrame frame) ++ [0]

/-- Room for the encoded form of any payload of the configured maximum is room for
    the encoded form of a frame that passes the checks. -/
theorem length_encodedFrame_le {frame : Frame} {n : Nat} (h : frame.payload.length ≤ n) :
    (encodedFrame frame).length ≤ n + rawOverhead + (n + rawOverhead + 253) / 254 + 1 := by
  have := length_cobsCode_le (rawFrame_ne_nil frame)
  simp only [length_rawFrame, encodedFrame, List.length_append, List.length_singleton] at this ⊢
  omega

theorem length_encodedFrame_pos (frame : Frame) : 0 < (encodedFrame frame).length := by
  simp [encodedFrame]

/-- A frame without payload fits the control slot. -/
theorem length_encodedFrame_of_payload_nil {frame : Frame} (h : frame.payload = []) :
    (encodedFrame frame).length ≤ 20 := by
  have := @length_encodedFrame_le frame 0 (by simp [h])
  simpa [rawOverhead] using this

/-! ## Encoding and decoding -/

section
variable [Target]

/-- With room for the raw and for the encoded form, a frame that passes the checks
    is encoded. -/
theorem encodeFrame_eq {frame : Frame}
    {maximumApplicationMessageSize rawScratchSize outBufferSize : Nat}
    (hvalid : validateFrame frame maximumApplicationMessageSize = .ok)
    (hraw : rawOverhead + frame.payload.length ≤ rawScratchSize)
    (hrawMax : rawScratchSize ≤ Target.sizeMax)
    (hout : (encodedFrame frame).length ≤ outBufferSize)
    (houtMax : outBufferSize ≤ Target.sizeMax) :
    encodeFrame frame maximumApplicationMessageSize rawScratchSize outBufferSize =
      (.ok, encodedFrame frame) := by
  have hlen : (encodedFrame frame).length = (cobsCode (rawFrame frame)).length + 1 := by
    simp [encodedFrame]
  have hsize := exactCobsSize_eq (rawFrame_ne_nil frame) (by omega)
  have hcode := cobsEncode_eq (rawFrame_ne_nil frame) (Nat.le_refl _)
  unfold encodeFrame
  simp only [hvalid, hsize, hcode]
  rw [if_neg (by simp), if_neg (by omega), if_neg (by omega), if_neg (by simp),
    if_neg (by omega), if_neg (by simp), if_neg (by simp)]
  rfl

/-- The decoder reads a frame that passes the checks back from its COBS code. -/
theorem decodeFrameView_cobsCode {frame : Frame}
    {rawScratchSize maximumApplicationMessageSize : Nat}
    (hvalid : validateFrame frame maximumApplicationMessageSize = .ok)
    (hscratch : maximumApplicationMessageSize + rawOverhead ≤ rawScratchSize)
    (hscratchMax : rawScratchSize ≤ Target.sizeMax) :
    decodeFrameView (cobsCode (rawFrame frame)) rawScratchSize maximumApplicationMessageSize =
      (.ok, frame, .valid) := by
  have htype := frameTypeValid_of_validateFrame hvalid
  have hpayload := length_payload_le_of_validateFrame hvalid
  have hover : rawOverhead = 18 := rfl
  have hraw : cobsDecode (cobsCode (rawFrame frame)) rawScratchSize = (.ok, rawFrame frame) :=
    cobsDecode_cobsCode (rawFrame_ne_nil frame) (by rw [length_rawFrame]; omega)
  have hcrcAt : (rawFrame frame).length - crcSize = (rawBody frame).length := by
    simp [crcSize, headerSize, rawOverhead]
  have hcrc : readU32LE ((rawFrame frame).drop ((rawFrame frame).length - crcSize)) =
      crc32Compute ((rawFrame frame).take ((rawFrame frame).length - crcSize)) := by
    rw [hcrcAt, rawFrame, List.drop_left, List.take_left]
    have := readU32LE_append (crc32Compute (rawBody frame)) []
    rwa [List.append_nil] at this
  have hversion : (rawFrame frame).getD 0 0 = protocolVersion := rfl
  have htypeByte : FrameType.ofByte ((rawFrame frame).getD 1 0) = frame.type :=
    ofByte_toByte htype
  unfold decodeFrameView
  simp only [hraw, candidateFrame_rawFrame htype, hvalid, htypeByte, hversion, hcrc]
  rw [if_neg (by simp [cobsCode_ne_nil]; omega), if_neg (by omega), if_neg (by omega)]
  simp [htype]

end

/-! ## The stream -/

namespace Parser

/-- A parser of capacity `capacity` that holds `bytes` of an unfinished body. -/
def holding (capacity : Nat) (bytes : List UInt8) : Parser where
  scratchBufferSize := capacity
  accumulated := bytes
  bodyReady := 0
  discarding := 0

theorem stateIsValid_holding {capacity : Nat} {bytes : List UInt8} (hpos : 0 < capacity)
    (h : bytes.length ≤ capacity) : (holding capacity bytes).stateIsValid = true := by
  simp [stateIsValid, holding, h]
  omega

/-- A nonzero byte that fits is kept. -/
theorem pushByte_holding {capacity : Nat} {bytes : List UInt8} {byte : UInt8}
    (h : bytes.length < capacity) (hbyte : byte ≠ 0) :
    (holding capacity bytes).pushByte byte =
      (.needMoreData, holding capacity (bytes ++ [byte])) := by
  have hvalid := stateIsValid_holding (Nat.zero_lt_of_lt h) (Nat.le_of_lt h)
  unfold pushByte
  rw [if_neg (by simp [hvalid])]
  simp [holding, hbyte, Nat.ne_of_lt h]

/-- A run of nonzero bytes that fits is kept, and no body is ready. -/
theorem pushBytesLoop_holding {capacity : Nat} (data : List UInt8) (bytes rest : List UInt8)
    (hdata : (0 : UInt8) ∉ data) (h : bytes.length + data.length ≤ capacity) :
    pushBytesLoop .needMoreData (holding capacity bytes) (data ++ rest) =
      let (result, parser, consumed) :=
        pushBytesLoop .needMoreData (holding capacity (bytes ++ data)) rest
      (result, parser, data.length + consumed) := by
  induction data generalizing bytes with
  | nil => simp
  | cons byte data ih =>
      have hbyte : byte ≠ 0 := fun heq => hdata (by simp [heq])
      simp only [List.length_cons] at h
      rw [List.cons_append, pushBytesLoop, pushByte_holding (by omega) hbyte]
      simp only
      rw [ih (bytes ++ [byte]) (fun hmem => hdata (List.mem_cons_of_mem _ hmem)) (by simp; omega)]
      simp [Nat.add_right_comm]

/-- Before its delimiter is pushed, an unfinished body is only accumulated. -/
theorem pushBytes_front {capacity : Nat} {front : List UInt8} (hpos : 0 < capacity)
    (hfront : (0 : UInt8) ∉ front) (h : front.length ≤ capacity) :
    (holding capacity []).pushBytes front =
      (.needMoreData, holding capacity front, front.length) := by
  have hvalid := @stateIsValid_holding capacity [] hpos (by simp)
  have := pushBytesLoop_holding front [] [] hfront (by simpa using h)
  rw [List.append_nil] at this
  unfold pushBytes
  rw [if_neg (by simp [hvalid]), if_neg (by simp [holding]), this]
  simp [pushBytesLoop]

/-- The delimiter ends the body: it is ready, and every byte is consumed. -/
theorem pushBytes_delimited {capacity : Nat} {body : List UInt8} (hne : body ≠ [])
    (hbody : (0 : UInt8) ∉ body) (h : body.length ≤ capacity) :
    (holding capacity []).pushBytes (body ++ [0]) =
      (.bodyReady, { holding capacity body with bodyReady := 1 }, body.length + 1) := by
  have hpos : 0 < body.length := List.length_pos_of_ne_nil hne
  have hvalid := @stateIsValid_holding capacity [] (Nat.lt_of_lt_of_le hpos h) (by simp)
  have hvalid' := stateIsValid_holding (Nat.lt_of_lt_of_le hpos h) h
  have hpush : (holding capacity body).pushByte 0 =
      (.bodyReady, { holding capacity body with bodyReady := 1 }) := by
    unfold pushByte
    rw [if_neg (by simp [hvalid'])]
    simp [holding, hne]
  unfold pushBytes
  rw [if_neg (by simp [hvalid]), if_neg (by simp [holding]),
    pushBytesLoop_holding body [] [0] hbody (by simpa using h), List.nil_append, pushBytesLoop,
    hpush]

end Parser

/-- The round trip. The output of the encoder has one zero byte, the last one; an
    empty parser with room for the body has no body ready before that byte and one
    with it, all bytes being consumed; and the decoder returns the frame. -/
theorem frame_stream_roundTrip [Target] {frame : Frame}
    {maximumApplicationMessageSize encodeScratchSize outBufferSize bodyCapacity
      decodeScratchSize : Nat}
    (hvalid : validateFrame frame maximumApplicationMessageSize = .ok)
    (hencode : rawOverhead + frame.payload.length ≤ encodeScratchSize)
    (hencodeMax : encodeScratchSize ≤ Target.sizeMax)
    (hout : (encodedFrame frame).length ≤ outBufferSize)
    (houtMax : outBufferSize ≤ Target.sizeMax)
    (hcapacity : (encodedFrame frame).length ≤ bodyCapacity + 1)
    (hdecode : maximumApplicationMessageSize + rawOverhead ≤ decodeScratchSize)
    (hdecodeMax : decodeScratchSize ≤ Target.sizeMax) :
    ∃ body : List UInt8,
      encodeFrame frame maximumApplicationMessageSize encodeScratchSize outBufferSize =
        (.ok, body ++ [0]) ∧
      (0 : UInt8) ∉ body ∧
      (∀ front, front <+: body →
        (Parser.holding bodyCapacity []).pushBytes front =
          (.needMoreData, Parser.holding bodyCapacity front, front.length)) ∧
      (Parser.holding bodyCapacity []).pushBytes (body ++ [0]) =
        (.bodyReady, { Parser.holding bodyCapacity body with bodyReady := 1 },
          (body ++ [0]).length) ∧
      decodeFrameView body decodeScratchSize maximumApplicationMessageSize =
        (.ok, frame, .valid) := by
  have hlen : (encodedFrame frame).length = (cobsCode (rawFrame frame)).length + 1 := by
    simp [encodedFrame]
  have hne := cobsCode_ne_nil (rawFrame frame)
  have hzero := zero_not_mem_cobsCode (rawFrame frame)
  have hpos := List.length_pos_of_ne_nil hne
  have hfit : (cobsCode (rawFrame frame)).length ≤ bodyCapacity := by omega
  refine ⟨cobsCode (rawFrame frame), encodeFrame_eq hvalid hencode hencodeMax hout houtMax,
    hzero, ?_, ?_, decodeFrameView_cobsCode hvalid hdecode hdecodeMax⟩
  · intro front hfront
    exact Parser.pushBytes_front (by omega) (fun hmem => hzero (hfront.subset hmem))
      (le_trans hfront.length_le hfit)
  · rw [List.length_append]
    exact Parser.pushBytes_delimited hne hzero hfit

/-- An application frame with a zero byte in its payload, in buffers that are just
    large enough. -/
theorem frame_stream_roundTrip_application :
    ∃ body : List UInt8,
      @encodeFrame .lp64 ⟨.applicationMessage, 7, 0xFFFF, 0, [1, 0, 2]⟩ 3 21 23 =
        (.ok, body ++ [0]) ∧
      (0 : UInt8) ∉ body ∧
      (∀ front, front <+: body →
        (Parser.holding 22 []).pushBytes front =
          (.needMoreData, Parser.holding 22 front, front.length)) ∧
      (Parser.holding 22 []).pushBytes (body ++ [0]) =
        (.bodyReady, { Parser.holding 22 body with bodyReady := 1 }, (body ++ [0]).length) ∧
      @decodeFrameView .lp64 body 21 3 =
        (.ok, ⟨.applicationMessage, 7, 0xFFFF, 0, [1, 0, 2]⟩, .valid) :=
  @frame_stream_roundTrip .lp64 ⟨.applicationMessage, 7, 0xFFFF, 0, [1, 0, 2]⟩ 3 21 23 22 21
    (by decide) (by decide) (by decide) (@length_encodedFrame_le _ 3 (by decide)) (by decide)
    (@length_encodedFrame_le _ 3 (by decide)) (by decide) (by decide)

end HilRigProtocol.Transport
