/-
  Round trips of complete messages.

  Encoding a message and decoding the bytes gives its canonical form, in as much storage
  as the sizing pass counts for them. Decoding bytes and encoding the message gives the
  bytes, unless they are a discovery message of another protocol version, which this codec
  decodes and does not write. Both rest on two facts: what is encoded is on the wire for
  the canonical message, and a message is on the wire in one way.
-/
import HilRigProtocol.Application.CanonicalForms

namespace HilRigProtocol.Application

open Library Library.Reader

/-! ## Envelopes -/

/-- The version that the envelope shows: that of the body in a discovery message. -/
def Body.version : Body → UInt8 × UInt8
  | .systemInfoRequest data =>
      (data.applicationProtocolMajor.toUInt8, data.applicationProtocolMinor.toUInt8)
  | .systemInfoResponse data =>
      (data.applicationProtocolMajor.toUInt8, data.applicationProtocolMinor.toUInt8)
  | _ => (protocolVersionMajor.toUInt8, protocolVersionMinor.toUInt8)

/-- The envelope of a message. -/
def Message.envelope (message : Message) (payloadLength : UInt16) : Envelope where
  protocolMajor := message.body.version.1
  protocolMinor := message.body.version.2
  hasTestId := message.hasTestId
  testId := message.canonical.testId
  type := message.body.type
  subtype := message.subtype
  payloadLength := payloadLength

theorem version_of_native {body : Body} (h : ¬ body.ForeignVersion) :
    body.version = (protocolVersionMajor.toUInt8, protocolVersionMinor.toUInt8) := by
  cases body with
  | systemInfoRequest data =>
      dsimp only [Body.ForeignVersion] at h
      push Not at h
      dsimp only [Body.version]
      rw [h.1, h.2.1]
  | systemInfoResponse data =>
      dsimp only [Body.ForeignVersion] at h
      push Not at h
      dsimp only [Body.version]
      rw [h.1, h.2.1]
  | _ => rfl

theorem checked_of_common {message : Message} (h : validateCommonMessageFields message = .ok ())
    (payloadLength : UInt16) : (message.envelope payloadLength).Checked := by
  unfold validateCommonMessageFields at h
  rw [bind_eq_ok] at h
  obtain ⟨⟨⟩, hfields, -⟩ := h
  exact hfields

/-- The Test ID bytes of a header are those of the canonical message. -/
theorem testId_encoded {message : Message} (h : ¬ message.hasTestId > 1) :
    (if message.hasTestId = 1 then message.testId.toList else List.replicate 16 0)
      = message.canonical.testId.toList := by
  dsimp only [Message.canonical]
  by_cases habsent : message.hasTestId = 0
  · rw [if_neg (by rw [habsent]; decide), if_pos habsent]
    rfl
  · have hpresent : message.hasTestId = 1 := by
      rw [gt_iff_lt, UInt8.lt_iff_toNat_lt, UInt8.toNat_one] at h
      rw [← UInt8.toNat_inj, UInt8.toNat_zero] at habsent
      rw [← UInt8.toNat_inj, UInt8.toNat_one]
      omega
    rw [if_pos hpresent, if_neg habsent]

/-- The header, with the payload length patched in, is that of the envelope. -/
theorem header_encoded {message : Message} (hversion : ¬ message.body.ForeignVersion)
    {capacity : Nat} {header : List UInt8} (h : headerEncoding message capacity = .ok header)
    (payloadLength : UInt16) :
    (message.envelope payloadLength).Form
      (header.take (headerSizeBytes - 2) ++ encodeU16Le payloadLength) := by
  simp only [headerEncoding, guard_eq_ok, bind_eq_ok, checked_eq_ok, Except.ok.injEq] at h
  obtain ⟨-, _, hcommon, wireSubtype, hwire, rfl⟩ := h
  have hchecked := checked_of_common hcommon payloadLength
  have hnative := version_of_native hversion
  refine ⟨hchecked, fun habsent => ?_, fun _ => Prod.mk.inj hnative, wireSubtype, hwire, ?_⟩
  · dsimp only [Message.envelope, Message.canonical] at habsent ⊢
    rw [if_pos habsent]
    rfl
  · rw [testId_encoded hchecked.hasTestId_le, List.take_left' ?_]
    · dsimp only [Message.envelope]
      rw [hnative]
    · simp only [List.length_append, List.Vector.toList_length, List.length_cons, List.length_nil]
      rfl

/-! ## What is encoded -/

section
variable [Target] {context : Context} {message : Message}

omit [Target] in
/-- The Test ID rules see the contents of the body only. -/
theorem common_canonical (message : Message) :
    validateCommonMessageFields message.canonical = validateCommonMessageFields message := by
  obtain ⟨subtype, hasTestId, testId, body⟩ := message
  cases body <;> rfl

omit [Target] in
/-- The versions in a body of this version are those of its envelope. -/
theorem discovery_of_native (h : ¬ message.body.ForeignVersion) (payloadLength : UInt16) :
    validateDiscoveryEnvelopeBody (message.envelope payloadLength) message.body.canonical
      = .ok () := by
  obtain ⟨subtype, hasTestId, testId, body⟩ := message
  cases body with
  | systemInfoRequest data =>
      dsimp only [Body.ForeignVersion] at h
      push Not at h
      dsimp only [validateDiscoveryEnvelopeBody, Body.canonical, Message.envelope, Body.version]
      rw [validateDiscoveryVersion, h.1, h.2.1]
      rfl
  | systemInfoResponse data =>
      dsimp only [Body.ForeignVersion] at h
      push Not at h
      dsimp only [validateDiscoveryEnvelopeBody, Body.canonical, Message.envelope, Body.version]
      rw [validateDiscoveryVersion, h.1, h.2.1]
      rfl
  | _ => rfl

/-- What comes out of the encoder is on the wire for the canonical message. -/
theorem onWire_of_encode (hinit : Initialized context) {capacity outputSize : Nat}
    {encodedMessage : List UInt8}
    (h : encodeInternal context message capacity = .ok (encodedMessage, outputSize)) :
    (∃ envelope payload, message.canonical.OnWire context encodedMessage envelope payload)
      ∧ outputSize = encodedMessage.length
      ∧ encodedMessage.length ≤ context.config.maxEncodedMessageSize := by
  simp only [encodeInternal, guard_eq_ok, bind_eq_ok, checked_eq_ok] at h
  obtain ⟨-, _, hvalid, -, header, hheader, ⟨payload, size⟩, hencode, -, total, htotal, hmax, h⟩ := h
  obtain ⟨rfl, rfl⟩ := Prod.mk.inj (Except.ok.inj h)
  obtain ⟨hcommon, hbody⟩ := validateMessage_eq_ok hvalid
  have hversion : ¬ message.body.ForeignVersion := by
    intro hversion
    rw [(foreignVersion_fails hversion).2] at hencode
    exact fail_ne_ok _ _ hencode
  obtain ⟨bytes, -, hwants⟩ := body_exact hinit hbody hversion
  obtain ⟨rfl, rfl⟩ := Prod.mk.inj (hwants.of_ok hencode).1
  have hform := header_encoded hversion hheader (UInt16.ofNat payload.length)
  have hpayload := body_encoded hinit hbody hencode
  obtain ⟨rfl, -⟩ := checkedAddSize_eq_some.mp htotal
  have habsolute := hinit.maxMessage
  have hlimit : absoluteMaxMessageSize = 65535 := rfl
  have hsize : (UInt16.ofNat payload.length).toNat = payload.length :=
    UInt16.toNat_ofNat_of_lt' (by show payload.length < 65536; omega)
  have hlength := congrArg (· + payload.length) hform.length_eq
  rw [← List.length_append] at hlength
  obtain ⟨hdecoded, hframed⟩ := framed_iff.mpr ⟨_, hform, rfl, hsize.symm⟩
  refine ⟨⟨message.envelope (UInt16.ofNat payload.length), payload, hdecoded, hframed, rfl,
    type_canonical message.body, hpayload, discovery_of_native hversion _, ?_⟩, hlength.symm,
    hlength.le.trans (Nat.not_lt.mp hmax)⟩
  unfold validateMessage
  rw [if_neg hinit.initialized, common_canonical, hcommon, ok_bind]
  exact valid_canonical hinit hbody hpayload

/-! ## One wire form -/

omit [Target] in
theorem eq_replicate_of_testIdIsZero {testId : TestId} (h : testIdIsZero testId) :
    testId = List.Vector.replicate 16 0 := by
  refine List.Vector.toList_injective ?_
  show testId.toList = List.replicate 16 0
  rw [List.eq_replicate_iff]
  refine ⟨testId.toList_length, fun byte hbyte => ?_⟩
  exact eq_of_beq (List.all_eq_true.mp h byte hbyte)

variable {encodedMessage payload : List UInt8} {envelope : Envelope}

/-- A message on the wire is canonical. -/
theorem Message.OnWire.canonical (h : message.OnWire context encodedMessage envelope payload) :
    message.canonical = message := by
  obtain ⟨header, hform, -⟩ := framed_iff.mp ⟨h.header, h.framed⟩
  have hbody := h.body.canonical
  have habsent : message.hasTestId = 0 → message.testId = List.Vector.replicate 16 0 := by
    rw [h.fields]
    exact fun habsent => eq_replicate_of_testIdIsZero (hform.absent habsent)
  obtain ⟨subtype, hasTestId, testId, body⟩ := message
  dsimp only [Message.canonical] at hbody habsent ⊢
  rw [hbody]
  split
  case isTrue h => rw [habsent h]
  case isFalse => rfl

omit [Target] in
theorem version_of_validate {major minor : UInt16}
    (h : validateDiscoveryVersion envelope major minor = .ok ()) :
    envelope.protocolMajor = major.toUInt8 ∧ envelope.protocolMinor = minor.toUInt8 := by
  unfold validateDiscoveryVersion at h
  split at h
  case isTrue hsame =>
    rw [hsame.1, hsame.2]
    exact ⟨(UInt8.toUInt8_toUInt16 _).symm, (UInt8.toUInt8_toUInt16 _).symm⟩
  case isFalse => exact absurd h (fail_ne_ok _ _)

omit [Target] in
/-- The version in a header that is accepted. -/
theorem Envelope.Form.version_eq {header : List UInt8} {body : Body} (h : envelope.Form header)
    (htype : body.type = envelope.type)
    (hdiscovery : validateDiscoveryEnvelopeBody envelope body = .ok ()) :
    envelope.protocolMajor = body.version.1 ∧ envelope.protocolMinor = body.version.2 := by
  have hversion := h.version
  rw [← htype] at hversion
  cases body with
  | systemInfoRequest data => exact version_of_validate hdiscovery
  | systemInfoResponse data => exact version_of_validate hdiscovery
  | _ => exact hversion Bool.false_ne_true

/-- The envelope on the wire is that of the message. -/
theorem Message.OnWire.envelope_eq (h : message.OnWire context encodedMessage envelope payload) :
    envelope = message.envelope (UInt16.ofNat payload.length) := by
  obtain ⟨header, hform, -, hlength⟩ := framed_iff.mp ⟨h.header, h.framed⟩
  obtain ⟨hmajor, hminor⟩ := hform.version_eq h.type h.discovery
  have hfields := h.fields
  rw [← h.canonical] at hfields
  unfold Message.envelope
  rw [hlength, UInt16.ofNat_toNat, ← hmajor, ← hminor, h.type, hfields, h.fields]
  rfl

/-- The bytes of a message are determined by it. -/
theorem Message.OnWire.unique (h : message.OnWire context encodedMessage envelope payload)
    {otherMessage otherPayload : List UInt8} {otherEnvelope : Envelope}
    (other : message.OnWire context otherMessage otherEnvelope otherPayload) :
    encodedMessage = otherMessage := by
  obtain ⟨header, hform, hbytes, -⟩ := framed_iff.mp ⟨h.header, h.framed⟩
  obtain ⟨otherHeader, hotherForm, hotherBytes, -⟩ := framed_iff.mp ⟨other.header, other.framed⟩
  obtain rfl := h.body.unique other.body
  obtain rfl := h.envelope_eq.trans other.envelope_eq.symm
  obtain ⟨wireSubtype, hwire, hlayout⟩ := hform.layout
  obtain ⟨otherSubtype, hotherWire, hotherLayout⟩ := hotherForm.layout
  obtain rfl := Option.some.inj (hwire.symm.trans hotherWire)
  rw [hbytes, hotherBytes, hlayout, hotherLayout]

/-- A message of this version on the wire is what encoding it gives. -/
theorem Message.OnWire.encode_wants (hinit : Initialized context)
    (hlength : encodedMessage.length ≤ context.config.maxEncodedMessageSize)
    (h : message.OnWire context encodedMessage envelope payload)
    (hversion : ¬ message.body.ForeignVersion) :
    Wants id (.status .bufferTooSmall) encodedMessage.length
      (encodedMessage, encodedMessage.length) (encodeInternal context message) := by
  obtain ⟨-, hbody⟩ := validateMessage_eq_ok h.valid
  obtain ⟨bytes, -, hbytes⟩ := body_exact hinit hbody hversion
  have hpayload := body_encoded hinit hbody (hbytes.of_le (Nat.le_refl _))
  rw [h.body.canonical] at hpayload
  obtain rfl := hpayload.unique h.body
  obtain ⟨header, hform, rfl, -⟩ := framed_iff.mp ⟨h.header, h.framed⟩
  rw [List.length_append, hform.length_eq] at hlength
  obtain ⟨encoded, -, hencoded⟩ := encodeInternal_wants hinit h.valid hbytes hlength
  obtain ⟨⟨otherEnvelope, otherPayload, hother⟩, -⟩ :=
    onWire_of_encode hinit (hencoded.of_le (Nat.le_refl _))
  rw [h.canonical] at hother
  rw [← hother.unique h]
  exact hencoded

/-- What a call publishes is on the wire. -/
theorem onWire_of_decodeMessage (hinit : Initialized context) {storage : Storage}
    (hdecode : (decodeMessage context encodedMessage storage).outMessage = some message) :
    encodedMessage.length ≤ context.config.maxEncodedMessageSize
      ∧ ∃ envelope payload, message.OnWire context encodedMessage envelope payload := by
  rcases decodeMessage_cases context encodedMessage storage with
    ⟨failure, hrejected⟩ | ⟨hlength, usable, decoded, used, rfl, haccepted, hdecoded⟩
  · rw [hrejected] at hdecode
    exact absurd hdecode (by simp)
  · rw [hdecoded] at hdecode
    obtain rfl := Option.some.inj hdecode
    exact ⟨hlength, (onWire_of_decode hinit haccepted).1⟩

end

/-! ## Bytes without a field -/

/-- The reserved bytes of a payload. -/
def reservedBytes : MessageType → List UInt8 → List UInt8
  | .updateInstruction, payload => (payload.drop 6).take 2
  | .variableTestResult, payload => (payload.drop 7).take 1
  | .runReport, payload => (payload.drop 7).take 1 ++ (payload.drop 10).take 2
  | _, _ => []

/-- The records of a payload with their padding. -/
def recordBytes : MessageType → List UInt8 → List UInt8
  | .updateInstruction, payload => payload.drop updateInstructionHeaderSize
  | .variableTestResult, payload => payload.drop variableTestResultHeaderSize
  | _, _ => []

/-- The bytes that carry no field of the message are zero: those of an absent Test ID, the
    reserved ones, and the padding, which the grammar of the records spells out. -/
structure UnusedBytesZero (context : Context) (message : Message) (encodedMessage : List UInt8) :
    Prop where
  absent : message.hasTestId = 0 → (encodedMessage.drop 3).take 16 = List.replicate 16 0
  reserved : ∀ byte ∈ reservedBytes message.body.type (encodedMessage.drop headerSizeBytes),
    byte = 0
  padding : ∃ records, Each (WireRecord.Form context.config.maxVariableDataSize) records
    (recordBytes message.body.type (encodedMessage.drop headerSizeBytes))

section
variable {context : Context} {payload : List UInt8}

theorem reserved_zero {body : Body} (h : body.Payload context payload) :
    ∀ byte ∈ reservedBytes body.type payload, byte = 0 := by
  cases body with
  | updateInstruction data =>
      obtain ⟨records, hpayload, -⟩ := h
      obtain ⟨forms, -, rfl⟩ := hpayload.layout
      exact List.forall_mem_cons.mpr ⟨rfl, List.forall_mem_singleton.mpr rfl⟩
  | variableTestResult data =>
      obtain ⟨condition, records, hpayload, -⟩ := h
      obtain ⟨forms, -, rfl⟩ := hpayload.layout
      exact List.forall_mem_singleton.mpr rfl
  | runReport data =>
      obtain ⟨front, extension_, ⟨_, _, _, _, _, _, -, -, -, -, -, -, rfl⟩, -, -, -, rfl⟩ := h
      exact List.forall_mem_cons.mpr ⟨rfl, List.forall_mem_cons.mpr ⟨rfl,
        List.forall_mem_singleton.mpr rfl⟩⟩
  | _ => exact fun byte hbyte => absurd hbyte List.not_mem_nil

theorem exists_records {body : Body} (h : body.Payload context payload) :
    ∃ records, Each (WireRecord.Form context.config.maxVariableDataSize) records
      (recordBytes body.type payload) := by
  cases body with
  | updateInstruction data =>
      obtain ⟨records, hpayload, -⟩ := h
      obtain ⟨forms, heach, rfl⟩ := hpayload.layout
      exact ⟨records, heach⟩
  | variableTestResult data =>
      obtain ⟨condition, records, hpayload, -⟩ := h
      obtain ⟨forms, heach, rfl⟩ := hpayload.layout
      exact ⟨records, heach⟩
  | _ => exact ⟨[], each_nil.mpr rfl⟩

variable [Target]

theorem Message.OnWire.unusedBytesZero {message : Message} {encodedMessage : List UInt8}
    {envelope : Envelope} (h : message.OnWire context encodedMessage envelope payload) :
    UnusedBytesZero context message encodedMessage := by
  have hdrop := (payloadOf_iff.mp h.framed).2
  refine ⟨fun habsent => ?_, ?_, ?_⟩
  · obtain ⟨header, hform, rfl, -⟩ := framed_iff.mp ⟨h.header, h.framed⟩
    obtain ⟨wireSubtype, -, rfl⟩ := hform.layout
    rw [h.fields] at habsent
    rw [eq_replicate_of_testIdIsZero (hform.absent habsent)]
    rfl
  · rw [← hdrop]
    exact reserved_zero h.body
  · rw [← hdrop]
    exact exists_records h.body

end

/-! ## The round trips -/

section
variable [Target]

/-- For an initialized context and a message that `HIL_APPLICATION_Encode_Message` encodes:
    `HIL_APPLICATION_Decode_Storage_Size` finds the storage that its bytes take, and with any
    storage of at least that size decoding uses as much and publishes the message with its
    contents, an absent Test ID being zero and the pointer of an empty array NULL. -/
theorem codec_round_trip {config : Config} {context : Context}
    (hinit : init config = .ok context) {message : Message} {outBufferSize : Nat}
    (hencode : (encodeMessage context message outBufferSize).result = .ok ()) :
    let encoded := encodeMessage context message outBufferSize
    encoded.outputSize = encoded.encodedMessage.length
      ∧ ∃ size, decodeStorageSize context encoded.encodedMessage = .ok size ∧
        ∀ storage : Storage, (storage.isNull → storage.capacity = 0) → size ≤ storage.capacity →
          decodeMessage context encoded.encodedMessage storage
            = { result := .ok (), outMessage := some message.canonical
                usedDecodedSize := size } := by
  have hcontext := initialized_of_init hinit
  unfold encodeMessage at hencode ⊢
  cases hencoded : encodeInternal context message outBufferSize with
  | error failure =>
      rw [hencoded] at hencode
      exact absurd hencode (by simp)
  | ok encoded =>
      obtain ⟨⟨envelope, payload, hwire⟩, hsize, hlength⟩ := onWire_of_encode hcontext hencoded
      refine ⟨hsize, _, hwire.decodeStorageSize_eq hcontext hlength, fun storage hstorage hroom => ?_⟩
      obtain ⟨usable, rfl⟩ : ∃ usable : UsableStorage, usable.1 = storage :=
        ⟨⟨storage, hstorage⟩, rfl⟩
      exact decodeMessage_of_ok hcontext hlength ((hwire.decode_wants hcontext).of_le hroom)

omit [Target] in
/-- An Update Instruction with one UART record of three bytes takes 35 bytes of storage. -/
theorem codec_round_trip_uart :
    let message : Message :=
      { subtype := 0, hasTestId := 1, testId := List.Vector.replicate 16 7
        body := .updateInstruction { tickNumber := 5, flags := 1
                                     operations := .array [{ peripheralType := 16, channel := 0
                                                             payload := .array [1, 2, 3]
                                                               (by decide) }] (by decide) } }
    @decodeMessage .lp64 ⟨defaultConfig, 1⟩
        (@encodeMessage .lp64 ⟨defaultConfig, 1⟩ message 64).encodedMessage ⟨false, 35⟩
      = { result := .ok (), outMessage := some message.canonical, usedDecodedSize := 35 } := by
  intro message
  obtain ⟨-, size, hsize, hdecode⟩ := @codec_round_trip .lp64 defaultConfig ⟨defaultConfig, 1⟩ rfl
    message 64 (by decide +kernel)
  have h : @decodeStorageSize .lp64 ⟨defaultConfig, 1⟩
      (@encodeMessage .lp64 ⟨defaultConfig, 1⟩ message 64).encodedMessage = .ok 35 := by
    decide +kernel
  obtain rfl : size = 35 := Except.ok.inj (hsize.symm.trans h)
  exact hdecode ⟨false, 35⟩ (by decide) (by decide)

/-- For an initialized context and bytes from which `HIL_APPLICATION_Decode_Message`
    publishes a message: encoding it gives these bytes, unless it is a discovery message of
    another version; no other bytes decode to it; and every byte that carries no field of
    it is zero. -/
theorem decoding_canonical {config : Config} {context : Context}
    (hinit : init config = .ok context) {encodedMessage : List UInt8} {storage : Storage}
    {message : Message}
    (hdecode : (decodeMessage context encodedMessage storage).outMessage = some message) :
    (¬ message.body.ForeignVersion → ∀ outBufferSize, encodedMessage.length ≤ outBufferSize →
      encodeMessage context message outBufferSize
        = { result := .ok (), outputSize := encodedMessage.length, encodedMessage })
    ∧ (∀ otherMessage otherStorage,
        (decodeMessage context otherMessage otherStorage).outMessage = some message →
          otherMessage = encodedMessage)
    ∧ UnusedBytesZero context message encodedMessage := by
  have hcontext := initialized_of_init hinit
  obtain ⟨hlength, envelope, payload, hwire⟩ := onWire_of_decodeMessage hcontext hdecode
  refine ⟨fun hversion outBufferSize hroom => ?_, fun otherMessage otherStorage hother => ?_,
    hwire.unusedBytesZero⟩
  · unfold encodeMessage
    rw [(hwire.encode_wants hcontext hlength hversion).of_le hroom]
  · obtain ⟨-, _, _, hotherWire⟩ := onWire_of_decodeMessage hcontext hother
    exact hotherWire.unique hwire

omit [Target] in
/-- The bytes of that Update Instruction, decoded and encoded. -/
theorem decoding_canonical_uart :
    let encodedMessage : List UInt8 := [0, 4, 1] ++ List.replicate 16 7 ++ [21, 0, 16, 0]
      ++ [5, 0, 0, 0, 1, 1, 0, 0, 16, 0, 3, 0, 65, 66, 67, 0]
    ∃ message, (@decodeMessage .lp64 ⟨defaultConfig, 1⟩ encodedMessage ⟨false, 64⟩).outMessage
        = some message
      ∧ @encodeMessage .lp64 ⟨defaultConfig, 1⟩ message 64
        = { result := .ok (), outputSize := 39, encodedMessage } := by
  intro encodedMessage
  obtain ⟨message, hdecode⟩ : ∃ message, (@decodeMessage .lp64 ⟨defaultConfig, 1⟩ encodedMessage
      ⟨false, 64⟩).outMessage = some message :=
    Option.isSome_iff_exists.mp (by decide +kernel)
  have hversion : (@decodeMessage .lp64 ⟨defaultConfig, 1⟩ encodedMessage
      ⟨false, 64⟩).outMessage.all fun message => ¬ message.body.ForeignVersion := by
    decide +kernel
  rw [hdecode, Option.all_some, decide_eq_true_iff] at hversion
  exact ⟨message, hdecode, (@decoding_canonical .lp64 defaultConfig ⟨defaultConfig, 1⟩ rfl
    encodedMessage ⟨false, 64⟩ message hdecode).1 hversion 64 (by decide)⟩

end

end HilRigProtocol.Application
