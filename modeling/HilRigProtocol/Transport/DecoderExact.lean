/-
  The decoder accepts exactly the format.

  `classify` says what a body is, by the format alone: its COBS code is undone
  without any bound, and the first check that fails names the class. The decoder
  computes it on every body (`decodeFrameView_eq`), so nothing but a frame of the
  format is accepted, and the raw bytes of an accepted frame are the ones that the
  encoder writes for it (`rawFrame_candidateFrame`).
-/
import HilRigProtocol.Transport.FrameRoundTrip
import HilRigProtocol.Transport.Receive

namespace HilRigProtocol.Transport

open Library

/-! ## The format -/

/-- The sequence, acknowledgement and payload rules of the frame types. -/
def Frame.FieldRules (frame : Frame) : Prop :=
  match frame.type with
  | .initiate => frame.acknowledgementSequence = 0 ∧ frame.payload = []
  | .response | .confirm => frame.payload = []
  | .applicationMessage => frame.acknowledgementSequence = 0 ∧ frame.payload ≠ []
  | .ack => frame.sequence = 0 ∧ frame.payload = []
  | .reset => frame.sequence = 0 ∧ frame.acknowledgementSequence = 0 ∧ frame.payload = []
  | _ => False

instance (frame : Frame) : Decidable frame.FieldRules := by
  unfold Frame.FieldRules
  split <;> infer_instance

/-- The size of a frame with at most `n` bytes of payload. -/
def RawSizeWf (n : Nat) (raw : List UInt8) : Prop :=
  rawOverhead ≤ raw.length ∧ raw.length ≤ n + rawOverhead

/-- The CRC at the end is that of the bytes before it. -/
def RawCrcWf (raw : List UInt8) : Prop :=
  readU32LE (raw.drop (raw.length - crcSize)) = crc32Compute (raw.take (raw.length - crcSize))

def RawVersionWf (raw : List UInt8) : Prop := raw.getD 0 0 = protocolVersion

/-- A defined type, a session, and the rules of the type. -/
def RawFieldsWf (raw : List UInt8) : Prop :=
  frameTypeValid (candidateFrame raw).type = true ∧
    (candidateFrame raw).sessionIdentifier ≠ sessionSeedInvalid ∧ (candidateFrame raw).FieldRules

instance (n : Nat) (raw : List UInt8) : Decidable (RawSizeWf n raw) :=
  inferInstanceAs (Decidable (_ ∧ _))

instance (raw : List UInt8) : Decidable (RawCrcWf raw) := inferInstanceAs (Decidable (_ = _))

instance (raw : List UInt8) : Decidable (RawVersionWf raw) := inferInstanceAs (Decidable (_ = _))

instance (raw : List UInt8) : Decidable (RawFieldsWf raw) := inferInstanceAs (Decidable (_ ∧ _))

/-- The raw bytes of a frame with at most `n` bytes of payload. -/
structure RawWf (n : Nat) (raw : List UInt8) : Prop where
  size : RawSizeWf n raw
  crc : RawCrcWf raw
  version : RawVersionWf raw
  fields : RawFieldsWf raw

/-- The class of a body with the raw bytes `raw`, by the first check that fails; a frame
    comes only with a valid one. -/
def classifyRaw (n : Nat) (raw : List UInt8) : Frame × DecodeResult :=
  if ¬ RawSizeWf n raw then (.zero, .malformed)
  else if ¬ RawCrcWf raw then (.zero, .integrityInvalid)
  else if ¬ RawVersionWf raw then (.zero, .sessionIncompatible)
  else if ¬ RawFieldsWf raw then (.zero, .malformed)
  else (candidateFrame raw, .valid)

/-- The class of a body. -/
def classify (n : Nat) (body : List UInt8) : Frame × DecodeResult :=
  (Cobs.decode body).elim (.zero, .malformed) (classifyRaw n)

theorem classifyRaw_valid_iff {n : Nat} {raw : List UInt8} :
    (classifyRaw n raw).2 = .valid ↔ RawWf n raw := by
  unfold classifyRaw
  constructor
  · intro h
    split_ifs at h with hsize hcrc hversion hfields
    exact ⟨hsize, hcrc, hversion, hfields⟩
  · rintro ⟨hsize, hcrc, hversion, hfields⟩
    rw [if_neg (not_not.mpr hsize), if_neg (not_not.mpr hcrc), if_neg (not_not.mpr hversion),
      if_neg (not_not.mpr hfields)]

theorem classify_valid_iff {n : Nat} {body : List UInt8} :
    (classify n body).2 = .valid ↔ ∃ raw, Cobs.decode body = some raw ∧ RawWf n raw := by
  unfold classify
  cases hdecode : Cobs.decode body with
  | none => simp
  | some raw => simp [classifyRaw_valid_iff]

/-! ## The field checks -/

/-- What the codec checks of a frame, by its parts. -/
theorem validateFrame_ok_iff {frame : Frame} {n : Nat} (h : frame.payload.length ≤ n) :
    validateFrame frame n = .ok ↔
      frameTypeValid frame.type = true ∧ frame.sessionIdentifier ≠ sessionSeedInvalid ∧
        frame.FieldRules := by
  obtain ⟨type, id, sequence, acknowledgementSequence, payload⟩ := frame
  have hlong : ¬ payload.length > n := Nat.not_lt.mpr h
  by_cases hid : id = sessionSeedInvalid
  · simp [validateFrame, hid]
  cases type with
  | applicationMessage =>
      by_cases hack : acknowledgementSequence = 0 <;> by_cases hpayload : payload = [] <;>
        simp [validateFrame, frameTypeValid, Frame.FieldRules, hid, hack, hpayload, hlong]
  | _ =>
      by_cases hsequence : sequence = 0 <;> by_cases hack : acknowledgementSequence = 0 <;>
        by_cases hpayload : payload = [] <;>
        simp [validateFrame, frameTypeValid, Frame.FieldRules, hid, hsequence, hack, hpayload]

/-- A payload that fits is never too large. -/
theorem validateFrame_ne_messageTooLarge {frame : Frame} {n : Nat}
    (h : frame.payload.length ≤ n) : validateFrame frame n ≠ .messageTooLarge := by
  unfold validateFrame
  intro hlarge
  split_ifs at hlarge
  · omega
  all_goals
    split at hlarge <;> cases hlarge

theorem length_candidateFrame_payload {n : Nat} {raw : List UInt8} (h : RawSizeWf n raw) :
    (candidateFrame raw).payload.length ≤ n := by
  have hpayload := List.length_take_le (raw.length - rawOverhead) (raw.drop headerSize)
  have hsize := h.2
  show ((raw.drop headerSize).take (raw.length - rawOverhead)).length ≤ n
  omega

/-! ## The decoder -/

section
variable [Target]

/-- Nothing of the configuration can stop the decoder of an endpoint. -/
theorem decodeFrameView_scratch {body : List UInt8} {n : Nat} (hbody : body ≠ [])
    (hmax : n + rawOverhead ≤ Target.sizeMax) :
    ¬ (body = [] ∨ n + rawOverhead = 0) ∧ ¬ n > Target.sizeMax - rawOverhead := by
  have hpos : rawOverhead = 18 := rfl
  refine ⟨?_, by omega⟩
  rintro (hnil | hzero)
  · exact hbody hnil
  · omega

/-- Bytes of the right size are classified by the remaining checks. -/
theorem decodeFrameView_of_raw {body raw : List UInt8} {n : Nat} (hbody : body ≠ [])
    (hmax : n + rawOverhead ≤ Target.sizeMax)
    (hraw : cobsDecode body (n + rawOverhead) = (.ok, raw)) (hsize : RawSizeWf n raw) :
    decodeFrameView body (n + rawOverhead) n = (.ok, classifyRaw n raw) := by
  obtain ⟨hscratch, hsupported⟩ := decodeFrameView_scratch hbody hmax
  have hpayload := length_candidateFrame_payload hsize
  have hlarge := validateFrame_ne_messageTooLarge hpayload
  have hfields := validateFrame_ok_iff hpayload
  unfold decodeFrameView classifyRaw
  rw [if_neg hscratch, if_neg hsupported, if_neg (Nat.lt_irrefl _), hraw]
  dsimp only
  rw [if_neg (by simp), if_neg (by simp), if_neg (by simp), if_neg (Nat.not_lt.mpr hsize.1),
    if_neg (not_not.mpr hsize)]
  by_cases hcrc : RawCrcWf raw
  · rw [if_neg (by exact not_not.mpr hcrc), if_neg (not_not.mpr hcrc)]
    by_cases hversion : RawVersionWf raw
    · rw [if_neg (by exact not_not.mpr hversion), if_neg (not_not.mpr hversion)]
      by_cases htype : frameTypeValid (candidateFrame raw).type = true
      · rw [if_neg (by exact not_not.mpr htype), if_neg hlarge]
        by_cases hrules : RawFieldsWf raw
        · rw [if_neg (not_not.mpr (hfields.mpr hrules)), if_neg (not_not.mpr hrules)]
        · rw [if_pos (fun hok => hrules (hfields.mp hok)), if_pos hrules]
      · rw [if_pos (by exact htype), if_pos (fun hrules : RawFieldsWf raw => htype hrules.1)]
    · rw [if_pos (by exact hversion), if_pos hversion]
  · rw [if_pos (by exact hcrc), if_pos hcrc]

/-- The decoder reports what the format says. -/
theorem decodeFrameView_eq {body : List UInt8} {n : Nat} (hbody : body ≠ [])
    (hmax : n + rawOverhead ≤ Target.sizeMax) :
    decodeFrameView body (n + rawOverhead) n = (.ok, classify n body) := by
  obtain ⟨hscratch, hsupported⟩ := decodeFrameView_scratch hbody hmax
  have hpos : 0 < n + rawOverhead := Nat.add_pos_right n (by decide)
  obtain ⟨hsome, hnone⟩ := cobsDecode_eq hbody hpos
  -- An input that is not decodable and one that is too large are both malformed.
  have hmalformed : (cobsDecode body (n + rawOverhead) = (.bufferTooSmall, []) ∨
      cobsDecode body (n + rawOverhead) = (.internalError, [])) →
      decodeFrameView body (n + rawOverhead) n = (.ok, .zero, .malformed) := by
    intro hstatus
    unfold decodeFrameView
    rw [if_neg hscratch, if_neg hsupported, if_neg (Nat.lt_irrefl _)]
    rcases hstatus with hstatus | hstatus
    · rw [hstatus]
      rfl
    · rw [hstatus]
      rfl
  unfold classify
  cases hdecode : Cobs.decode body with
  | none => exact hmalformed (hnone hdecode)
  | some raw =>
      have hraw := hsome raw hdecode
      show _ = (Status.ok, classifyRaw n raw)
      by_cases hfits : raw.length ≤ n + rawOverhead
      · rw [if_pos hfits] at hraw
        by_cases hsize : rawOverhead ≤ raw.length
        · exact decodeFrameView_of_raw hbody hmax hraw ⟨hsize, hfits⟩
        · unfold decodeFrameView classifyRaw
          rw [if_neg hscratch, if_neg hsupported, if_neg (Nat.lt_irrefl _), hraw]
          dsimp only
          rw [if_neg (by simp), if_neg (by simp), if_neg (by simp),
            if_pos (Nat.not_le.mp hsize), if_pos (fun h => hsize h.1)]
      · rw [if_neg hfits] at hraw
        rw [hmalformed (Or.inl hraw), classifyRaw, if_pos (fun h => hfits h.2)]

end

/-! ## Serializing again -/

theorem toByte_ofByte (byte : UInt8) : (FrameType.ofByte byte).toByte = byte := by
  unfold FrameType.ofByte
  split_ifs with h0 h1 h2 h3 h4 h5 h6
  · exact h0.symm
  · exact h1.symm
  · exact h2.symm
  · exact h3.symm
  · exact h4.symm
  · exact h5.symm
  · exact h6.symm
  · rfl

theorem writeU16LE_readU16LE {input : List UInt8} (h : 2 ≤ input.length) :
    writeU16LE (readU16LE input) = input.take 2 := by
  have hlen : (input.take 2).length = 2 := List.length_take_of_le h
  have := toLe_ofLe (input.take 2)
  rw [hlen] at this
  rw [writeU16LE_eq, toNat_readU16LE input h, this]

theorem writeU32LE_readU32LE {input : List UInt8} (h : 4 ≤ input.length) :
    writeU32LE (readU32LE input) = input.take 4 := by
  have hlen : (input.take 4).length = 4 := List.length_take_of_le h
  have := toLe_ofLe (input.take 4)
  rw [hlen] at this
  rw [writeU32LE_eq, toNat_readU32LE input h, this]

theorem writeU64LE_readU64LE {input : List UInt8} (h : 8 ≤ input.length) :
    writeU64LE (readU64LE input) = input.take 8 := by
  have hlen : (input.take 8).length = 8 := List.length_take_of_le h
  have hbytes := toLe_ofLe (input.take 8)
  have hread : (readU64LE input).toNat = ofLe (input.take 8) := by
    have := toNat_readU64LELoop 8 0 0 input rfl h (by decide)
    simpa [readU64LE] using this
  rw [hlen] at hbytes
  rw [writeU64LE, writeU64LELoop_eq, hread, hbytes]

/-- Read in pieces of 8, 2 and 2 bytes and the rest, a byte string is put together again. -/
theorem take_pieces (bytes : List UInt8) (m : Nat) :
    bytes.take 8 ++ (bytes.drop 8).take 2 ++ (bytes.drop 10).take 2 ++ (bytes.drop 12).take m =
      bytes.take (12 + m) := by
  rw [show 12 + m = 8 + (2 + (2 + m)) by omega, List.take_add, List.take_add, List.take_add,
    List.drop_drop, List.drop_drop]
  simp

/-- The fields and the payload of an accepted frame are all that precedes its CRC. -/
theorem rawBody_candidateFrame {n : Nat} {raw : List UInt8} (hsize : RawSizeWf n raw)
    (hversion : RawVersionWf raw) :
    rawBody (candidateFrame raw) = raw.take (raw.length - crcSize) := by
  have hlen : 18 ≤ raw.length := hsize.1
  match raw, hlen, hversion with
  | version :: typeByte :: rest, hlen, hversion =>
    simp only [List.length_cons] at hlen
    have hversion : version = protocolVersion := hversion
    have hid := @writeU64LE_readU64LE rest (by omega)
    have hsequence := @writeU16LE_readU16LE (rest.drop 8) (by rw [List.length_drop]; omega)
    have hack := @writeU16LE_readU16LE (rest.drop 10) (by rw [List.length_drop]; omega)
    have hpieces := take_pieces rest (rest.length + 2 - rawOverhead)
    have hend : rest.length + 2 - crcSize = 12 + (rest.length + 2 - rawOverhead) + 2 := by
      simp only [crcSize, rawOverhead]
      omega
    show protocolVersion :: (FrameType.ofByte typeByte).toByte :: writeU64LE (readU64LE rest)
        ++ writeU16LE (readU16LE (rest.drop 8)) ++ writeU16LE (readU16LE (rest.drop 10))
        ++ (rest.drop 12).take (rest.length + 2 - rawOverhead) =
      (version :: typeByte :: rest).take (rest.length + 2 - crcSize)
    rw [hid, hsequence, hack, toByte_ofByte, ← hversion, hend, List.take_succ_cons,
      List.take_succ_cons, ← hpieces]
    rfl

/-- The encoder writes the raw bytes of an accepted frame again. -/
theorem rawFrame_candidateFrame {n : Nat} {raw : List UInt8} (h : RawWf n raw) :
    rawFrame (candidateFrame raw) = raw := by
  have hlen : 18 ≤ raw.length := h.size.1
  have hcrc : readU32LE (raw.drop (raw.length - crcSize)) =
      crc32Compute (raw.take (raw.length - crcSize)) := h.crc
  have hdrop : (raw.drop (raw.length - crcSize)).length = 4 := by
    rw [List.length_drop, crcSize]
    omega
  have hwrite := @writeU32LE_readU32LE (raw.drop (raw.length - crcSize)) (le_of_eq hdrop.symm)
  rw [List.take_of_length_le (le_of_eq hdrop)] at hwrite
  rw [rawFrame, rawBody_candidateFrame h.size h.version, ← hcrc, hwrite, List.take_append_drop]

/-! ## The characterization -/

theorem classify_zero {n : Nat} {body : List UInt8} (h : (classify n body).2 ≠ .valid) :
    (classify n body).1 = .zero := by
  unfold classify classifyRaw at *
  cases hdecode : Cobs.decode body with
  | none => rfl
  | some raw =>
      rw [hdecode] at h
      simp only [Option.elim_some] at h ⊢
      split_ifs at h ⊢
      · exact absurd rfl h
      all_goals rfl

/-- Of every body the decoder reports what the format says, and its own status is OK.
    The frame is zeroed unless the body is valid. The raw bytes of a valid body are
    those that the encoder writes for its frame, and the receiver never faults on what
    the decoder returns. -/
theorem decoder_exact [Target] {body : List UInt8} {n : Nat} (hbody : body ≠ [])
    (hmax : n + rawOverhead ≤ Target.sizeMax) :
    decodeFrameView body (n + rawOverhead) n = (.ok, classify n body) ∧
      ((classify n body).2 = .valid ↔ ∃ raw, Cobs.decode body = some raw ∧ RawWf n raw) ∧
      ((classify n body).2 ≠ .valid → (classify n body).1 = .zero) ∧
      (∀ raw, Cobs.decode body = some raw → RawWf n raw →
        (classify n body).1 = candidateFrame raw ∧ rawFrame (classify n body).1 = raw) ∧
      ∀ root : Root, root.parser.peekBody = (.ok, body) →
        root.codecScratchSize = n + rawOverhead →
        root.base.config.maxApplicationMessageSize = n →
        Receive.decodeRetainedBody root =
          match (classify n body).2 with
          | .valid => Receive.dispatchFrame root (classify n body).1
          | .malformed | .integrityInvalid => Receive.rejectRetainedBody root
          | .sessionIncompatible =>
              if root.session.sessionIdentifierValid ≠ 0 then
                Receive.abandonIncompatibleSession root
              else Receive.rejectRetainedBody root := by
  have hdecode := decodeFrameView_eq hbody hmax
  refine ⟨hdecode, classify_valid_iff, classify_zero, ?_, ?_⟩
  · intro raw hraw hwf
    have hframe : (classify n body).1 = candidateFrame raw := by
      unfold classify classifyRaw
      rw [hraw]
      simp only [Option.elim_some]
      rw [if_neg (not_not.mpr hwf.size), if_neg (not_not.mpr hwf.crc),
        if_neg (not_not.mpr hwf.version), if_neg (not_not.mpr hwf.fields)]
    rw [hframe]
    exact ⟨rfl, rawFrame_candidateFrame hwf⟩
  · intro root hpeek hscratch hconfig
    unfold Receive.decodeRetainedBody
    rw [hpeek]
    dsimp only
    rw [if_neg (by simp), hscratch, hconfig, hdecode]
    dsimp only
    rw [if_neg (by simp)]
    cases (classify n body).2 <;> rfl

/-- The raw bytes of an application message with a zero byte in it, in a body. -/
theorem decoder_exact_application :
    @decodeFrameView .lp64 (cobsCode (rawFrame ⟨.applicationMessage, 7, 0xFFFF, 0, [1, 0, 2]⟩))
        (3 + rawOverhead) 3 =
      (.ok, classify 3 (cobsCode (rawFrame ⟨.applicationMessage, 7, 0xFFFF, 0, [1, 0, 2]⟩))) ∧
      classify 3 (cobsCode (rawFrame ⟨.applicationMessage, 7, 0xFFFF, 0, [1, 0, 2]⟩)) =
        (⟨.applicationMessage, 7, 0xFFFF, 0, [1, 0, 2]⟩, .valid) :=
  ⟨(@decoder_exact .lp64 _ 3 (cobsCode_ne_nil _) (by decide)).1, by decide +kernel⟩

end HilRigProtocol.Transport
