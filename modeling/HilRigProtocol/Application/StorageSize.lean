/-
  The storage that decoding takes.

  `Message.OnWire` is the grammar of a complete message: its envelope, its payload, and
  the checks that come after the body decoder. `HIL_APPLICATION_Decode_Internal` accepts
  exactly this grammar where the storage has room, and `HIL_APPLICATION_Decode_Storage_Size`
  finds the same room from the payload bytes alone.
-/
import HilRigProtocol.Application.Decoders
import HilRigProtocol.Application.EncodedSize

namespace HilRigProtocol.Application

open Library Library.Reader

section
variable [Target]

/-! ## Messages -/

/-- The message that an envelope and a body make. -/
def Envelope.message (envelope : Envelope) (body : Body) : Message where
  subtype := envelope.subtype
  hasTestId := envelope.hasTestId
  testId := envelope.testId
  body := body

/-- The bytes hold the message: its envelope, then a payload of its body. -/
structure Message.OnWire (context : Context) (message : Message) (encodedMessage : List UInt8)
    (envelope : Envelope) (payload : List UInt8) : Prop where
  header : headerDecoding encodedMessage = .ok envelope
  framed : payloadOf envelope encodedMessage = .ok payload
  fields : message = envelope.message message.body
  type : message.body.type = envelope.type
  body : message.body.Payload context payload
  discovery : validateDiscoveryEnvelopeBody envelope message.body = .ok ()
  valid : validateMessage context message = .ok ()

/-- A decoded message is on the wire, and uses the storage of its body. -/
theorem onWire_of_decode {context : Context} (hinit : Initialized context)
    {encodedMessage : List UInt8} {storage : UsableStorage} {message : Message} {used : Nat}
    (h : decodeInternal context encodedMessage storage.1 = .ok (message, used)) :
    (∃ envelope payload, message.OnWire context encodedMessage envelope payload)
      ∧ used = message.body.storage := by
  unfold decodeInternal at h
  rw [bind_eq_ok] at h
  obtain ⟨envelope, hheader, h⟩ := h
  rw [bind_eq_ok] at h
  obtain ⟨payload, hframed, h⟩ := h
  rw [bind_eq_ok] at h
  obtain ⟨body, hbody, h⟩ := h
  dsimp only at h
  split at h
  case isTrue => exact absurd h (fail_ne_ok _ _)
  rw [bind_eq_ok] at h
  obtain ⟨⟨⟩, hdiscovery, h⟩ := h
  rw [bind_eq_ok] at h
  obtain ⟨⟨⟩, hvalid, h⟩ := h
  obtain ⟨rfl, rfl⟩ := Prod.mk.inj (Except.ok.inj h)
  obtain ⟨⟨htype, hpayload⟩, hparts⟩ :=
    (bodyDecode_decodes hinit envelope.type payload).sound storage body hbody
  exact ⟨⟨envelope, payload, hheader, hframed, rfl, htype, hpayload, hdiscovery, hvalid⟩,
    by rw [hparts]⟩

/-- A message on the wire decodes wherever the storage has room for its body. -/
theorem Message.OnWire.decode_wants {context : Context} (hinit : Initialized context)
    {encodedMessage payload : List UInt8} {envelope : Envelope} {message : Message}
    (h : message.OnWire context encodedMessage envelope payload) :
    Wants UsableStorage.room (.status .bufferTooSmall) message.body.storage
      (message, message.body.storage)
      fun storage => decodeInternal context encodedMessage storage.1 := by
  have hbody := (bodyDecode_decodes hinit envelope.type payload).complete message.body
    ⟨h.type, h.body⟩
  have hmessage : validateMessage context (envelope.message message.body) = .ok () := by
    rw [← h.fields]
    exact h.valid
  intro storage
  dsimp only
  unfold decodeInternal
  rw [h.header, ok_bind, h.framed, ok_bind]
  by_cases hroom : message.body.storage ≤ storage.room
  · rw [if_pos hroom, hbody.of_le hroom, ok_bind]
    dsimp only
    rw [if_neg (not_not.mpr rfl), h.discovery, ok_bind]
    dsimp only [Envelope.message] at hmessage
    rw [hmessage, ok_bind]
    exact congrArg (fun decoded => Except.ok (decoded, message.body.storage)) h.fields.symm
  · rw [if_neg hroom, hbody.of_lt (Nat.not_le.mp hroom)]
    rfl

/-- Decoding wants the storage that it reports. -/
theorem decodeInternal_tight {context : Context} (hinit : Initialized context)
    (encodedMessage : List UInt8) :
    Tight UsableStorage.room (.status .bufferTooSmall) Prod.snd
      fun storage => decodeInternal context encodedMessage storage.1 := by
  rintro storage ⟨message, used⟩ h
  obtain ⟨⟨envelope, payload, hwire⟩, rfl⟩ := onWire_of_decode hinit h
  exact hwire.decode_wants hinit

/-! ## The sizing pass -/

omit [Target] in
theorem mem_of_validateEach {α : Type} {validator : α → Result Unit} :
    ∀ {xs : List α}, validateEach validator xs = .ok () → ∀ x ∈ xs, validator x = .ok ()
  | [], _ => by simp
  | x :: xs, h => by
      rw [validateEach, bind_eq_ok] at h
      obtain ⟨⟨⟩, hx, h⟩ := h
      intro y hy
      rcases List.mem_cons.mp hy with rfl | hy
      · exact hx
      · exact mem_of_validateEach h y hy

omit [Target] in
/-- Sizing reads the two version words of a request where decoding reads them. -/
theorem systemInfoRequest_discovery {envelope : Envelope} {data : SystemInfoRequest}
    {payload : List UInt8} (htype : envelope.type = .systemInfoRequest)
    (h : data.Form payload) :
    validateDiscoveryStorageEnvelope envelope payload
      = validateDiscoveryVersion envelope data.applicationProtocolMajor
          data.applicationProtocolMinor := by
  have hlen := h.length_eq
  obtain ⟨wireQuery, -, hpayload⟩ := h
  have hmajor : payload.drop 2 = encodeU16Le data.applicationProtocolMajor
      ++ (encodeU16Le data.applicationProtocolMinor
        ++ encodeU16Le data.applicationProtocolPatch) := by
    rw [hpayload]
    rfl
  have hminor : payload.drop 4 = encodeU16Le data.applicationProtocolMinor
      ++ encodeU16Le data.applicationProtocolPatch := by
    rw [hpayload]
    rfl
  unfold validateDiscoveryStorageEnvelope
  rw [if_pos htype, if_neg (not_not.mpr hlen), hmajor, read_append reads_u16 rfl, ok_bind]
  dsimp only
  rw [hminor, read_append reads_u16 rfl, ok_bind]

omit [Target] in
theorem systemInfoResponse_discovery {envelope : Envelope} {data : SystemInfoResponse}
    {front rest : List UInt8} (htype : envelope.type = .systemInfoResponse)
    (h : data.Form front) :
    validateDiscoveryStorageEnvelope envelope (front ++ rest)
      = validateDiscoveryVersion envelope data.applicationProtocolMajor
          data.applicationProtocolMinor := by
  have hlen := h.length_eq
  have hrequest : envelope.type ≠ .systemInfoRequest := by
    rw [htype]
    decide
  unfold validateDiscoveryStorageEnvelope
  rw [if_neg hrequest, if_pos htype,
    if_neg (by rw [List.length_append]; omega)]
  rw [h]
  simp only [List.append_assoc]
  rw [read_append reads_u16 rfl, ok_bind]
  dsimp only
  rw [List.drop_left' (length_encodeU16Le _), read_append reads_u16 rfl, ok_bind]

omit [Target] in
/-- The scope of a response is its first byte. -/
theorem response_scope {data : Response} {payload : List UInt8} (h : data.Form payload) :
    ∃ scope, byteAt payload 0 = .ok scope ∧ (scope.toNat : Int) = data.scope := by
  obtain ⟨scope, _, _, _, _, hscope, -, -, -, -, rfl⟩ := h
  exact ⟨scope, rfl, (enumToU8_eq_some.mp hscope).symm⟩

omit [Target] in
theorem validateBodyTestId_of_common {message : Message}
    (h : validateCommonMessageFields message = .ok ()) :
    validateBodyTestId message.hasTestId message.body = .ok () := by
  unfold validateCommonMessageFields at h
  rw [bind_eq_ok] at h
  obtain ⟨⟨⟩, -, h⟩ := h
  exact h

omit [Target] in
theorem response_testId {hasTestId : UInt8} {data : Response}
    (h : validateBodyTestId hasTestId (.response data) = .ok ()) :
    hasTestId = if data.scope = ResponseScope.globalControl then 0 else 1 := by
  by_contra hne
  rw [validateBodyTestId, if_pos hne] at h
  exact fail_ne_ok _ _ h

omit [Target] in
/-- The types whose payload size says everything. -/
theorem fixedBodyValidateSize_eq (type : MessageType) {size : Nat} {payload : List UInt8}
    (h : payload.length = size)
    (htype : fixedBodyValidateSize type payload.length
      = if payload.length = size then .ok () else fail .malformedMessage) :
    fixedBodyValidateSize type payload.length = .ok () := by
  rw [htype, if_pos h]

/-- Sizing a message on the wire: the storage of its body. -/
theorem Message.OnWire.payloadStorageSize_eq {context : Context} (hinit : Initialized context)
    {encodedMessage payload : List UInt8} {envelope : Envelope} {message : Message}
    (h : message.OnWire context encodedMessage envelope payload) :
    payloadStorageSize context envelope payload = .ok message.body.storage := by
  obtain ⟨-, -, hfields, htype, hbody, hdiscovery, hvalid⟩ := h
  obtain ⟨hcommon, hvalid⟩ := validateMessage_eq_ok hvalid
  have htestId := validateBodyTestId_of_common hcommon
  have hhas : message.hasTestId = envelope.hasTestId := by
    rw [hfields]
    rfl
  rw [hhas] at htestId
  generalize message.body = body at htype hbody hdiscovery hvalid htestId
  unfold payloadStorageSize
  cases body with
  | systemInfoRequest data =>
      have hsize := fixedBodyValidateSize_eq .systemInfoRequest hbody.length_eq rfl
      rw [← htype]
      dsimp only [Body.type]
      rw [hsize, ok_bind, systemInfoRequest_discovery htype.symm hbody]
      exact congrArg (· >>= fun _ => _) hdiscovery
  | systemInfoResponse data =>
      have hscan := systemInfoResponseScan_payload hbody
      obtain ⟨front, diagnostic, gitHash, hfront, -, -, -, -, hpayload⟩ := hbody
      rw [← htype]
      dsimp only [Body.type]
      rw [hscan, ok_bind, hpayload, systemInfoResponse_discovery htype.symm hfront]
      exact congrArg (· >>= fun _ => _) hdiscovery
  | testConfiguration data =>
      obtain ⟨-, -, -, -, -, -, -, -, -, -, hi2c⟩ := testConfigurationValidate_eq_ok hvalid
      rw [← htype]
      refine testConfigurationStorageSize_payload hbody fun config hconfig henabled => ?_
      have hoff := (i2cConfigValidate_eq_ok (mem_of_validateEach hi2c config hconfig)).1
      rw [henabled] at hoff
      exact absurd hoff (by decide)
  | response data =>
      obtain ⟨scope, hscope, hdata⟩ := response_scope hbody
      have hsize := fixedBodyValidateSize_eq .response hbody.length_eq rfl
      rw [← htype]
      dsimp only [Body.type]
      rw [hsize, ok_bind, hscope, ok_bind, hdata, if_neg (not_not.mpr (response_testId htestId))]
      rfl
  | testInstruction data =>
      have hsize := fixedBodyValidateSize_eq .testInstruction hbody.length_eq rfl
      rw [← htype]
      exact congrArg (· >>= fun _ => _) hsize
  | finalizeTestUpload data =>
      have hsize := fixedBodyValidateSize_eq .finalizeTestUpload hbody.length_eq rfl
      rw [← htype]
      exact congrArg (· >>= fun _ => _) hsize
  | executionControl data =>
      have hsize := fixedBodyValidateSize_eq .executionControl hbody.length_eq rfl
      rw [← htype]
      exact congrArg (· >>= fun _ => _) hsize
  | globalControl data =>
      have hsize := fixedBodyValidateSize_eq .globalControl hbody.length_eq rfl
      rw [← htype]
      exact congrArg (· >>= fun _ => _) hsize
  | testResult data =>
      have hsize := fixedBodyValidateSize_eq .testResult hbody.length_eq rfl
      rw [← htype]
      exact congrArg (· >>= fun _ => _) hsize
  | rigStatus data =>
      have hsize := fixedBodyValidateSize_eq .rigStatus hbody.1.length_eq rfl
      rw [← htype]
      exact congrArg (· >>= fun _ => _) hsize
  | arbitraryControl data =>
      have hsize := fixedBodyValidateSize_eq .arbitraryControl hbody.length_eq rfl
      rw [← htype]
      exact congrArg (· >>= fun _ => _) hsize
  | updateInstruction data =>
      rw [← htype]
      exact updateInstructionScan_payload hbody
  | variableTestResult data =>
      rw [← htype]
      exact variableTestResultScan_payload hbody
  | error data =>
      rw [← htype]
      exact errorScan_payload hbody
  | runReport data =>
      rw [← htype]
      exact runReportScan_payload hinit hbody
  | arbitraryData data =>
      rw [← htype]
      exact arbitraryDataScan_payload hbody

/-! ## Decoding calls -/

section
variable {context : Context} {encodedMessage : List UInt8} {message : Message} {used : Nat}

/-- Behind its guards a call leaves what `HIL_APPLICATION_Decode_Internal` finds. -/
theorem decodeMessage_of_ok (hinit : Initialized context)
    (hlength : encodedMessage.length ≤ context.config.maxEncodedMessageSize)
    {storage : UsableStorage}
    (h : decodeInternal context encodedMessage storage.1 = .ok (message, used)) :
    decodeMessage context encodedMessage storage.1
      = { result := .ok (), outMessage := some message, usedDecodedSize := used } := by
  have husable : ¬ (storage.1.capacity ≠ 0 ∧ storage.1.isNull) := fun h => h.1 (storage.2 h.2)
  unfold decodeMessage
  dsimp only
  rw [if_neg hinit.initialized, if_neg husable, if_neg (Nat.not_lt.mpr hlength), h]

theorem decodeMessage_of_error (hinit : Initialized context)
    (hlength : encodedMessage.length ≤ context.config.maxEncodedMessageSize)
    {storage : UsableStorage} {failure : Failure}
    (h : decodeInternal context encodedMessage storage.1 = .error failure) :
    decodeMessage context encodedMessage storage.1
      = { result := .error failure, outMessage := none, usedDecodedSize := 0 } := by
  have husable : ¬ (storage.1.capacity ≠ 0 ∧ storage.1.isNull) := fun h => h.1 (storage.2 h.2)
  unfold decodeMessage
  dsimp only
  rw [if_neg hinit.initialized, if_neg husable, if_neg (Nat.not_lt.mpr hlength), h]

/-- A call fails and publishes nothing, or its storage is usable and the bytes are decoded. -/
theorem decodeMessage_cases (context : Context) (encodedMessage : List UInt8)
    (storage : Storage) :
    (∃ failure, decodeMessage context encodedMessage storage
        = { result := .error failure, outMessage := none, usedDecodedSize := 0 })
      ∨ encodedMessage.length ≤ context.config.maxEncodedMessageSize
        ∧ ∃ (usable : UsableStorage) (message : Message) (used : Nat), usable.1 = storage
          ∧ decodeInternal context encodedMessage usable.1 = .ok (message, used)
          ∧ decodeMessage context encodedMessage storage
            = { result := .ok (), outMessage := some message, usedDecodedSize := used } := by
  unfold decodeMessage
  dsimp only
  split
  case isTrue => exact .inl ⟨_, rfl⟩
  split
  case isTrue => exact .inl ⟨_, rfl⟩
  case isFalse husable =>
  split
  case isTrue => exact .inl ⟨_, rfl⟩
  case isFalse hlength =>
  have hnull : storage.isNull → storage.capacity = 0 := by
    intro hnull
    by_contra hcapacity
    exact husable ⟨hcapacity, hnull⟩
  cases hdecode : decodeInternal context encodedMessage storage with
  | error failure => exact .inl ⟨failure, rfl⟩
  | ok decoded =>
      exact .inr ⟨Nat.not_lt.mp hlength, ⟨storage, hnull⟩, decoded.1, decoded.2, rfl, hdecode, rfl⟩

/-- Sizing a message on the wire that is not over the configured bound. -/
theorem Message.OnWire.decodeStorageSize_eq (hinit : Initialized context)
    (hlength : encodedMessage.length ≤ context.config.maxEncodedMessageSize)
    {payload : List UInt8} {envelope : Envelope}
    (h : message.OnWire context encodedMessage envelope payload) :
    decodeStorageSize context encodedMessage = .ok message.body.storage := by
  unfold decodeStorageSize
  rw [if_neg hinit.initialized, if_neg (Nat.not_lt.mpr hlength), h.header, ok_bind, h.framed,
    ok_bind, h.payloadStorageSize_eq hinit]

end

/-! ## The threshold -/

/-- For an initialized context and bytes that `HIL_APPLICATION_Decode_Message` accepts with
    some storage: `HIL_APPLICATION_Decode_Storage_Size` returns the size from which on every
    storage is enough, and of which exactly so much is used; below it decoding reports
    `BUFFER_TOO_SMALL` and publishes neither a message nor a size. -/
theorem decode_storage_size_tight {config : Config} {context : Context}
    (hinit : init config = .ok context) {encodedMessage : List UInt8} {storage : Storage}
    (hdecode : (decodeMessage context encodedMessage storage).result = .ok ()) :
    ∃ size, decodeStorageSize context encodedMessage = .ok size ∧
      ∀ storage : Storage, (storage.isNull → storage.capacity = 0) →
        (size ≤ storage.capacity →
          (decodeMessage context encodedMessage storage).result = .ok ()
            ∧ (decodeMessage context encodedMessage storage).usedDecodedSize = size)
        ∧ (storage.capacity < size →
          decodeMessage context encodedMessage storage
            = { result := fail .bufferTooSmall, outMessage := none, usedDecodedSize := 0 }) := by
  have hcontext := initialized_of_init hinit
  rcases decodeMessage_cases context encodedMessage storage with
    ⟨failure, hrejected⟩ | ⟨hlength, usable, message, used, rfl, haccepted, -⟩
  · rw [hrejected] at hdecode
    exact absurd hdecode nofun
  obtain ⟨⟨envelope, payload, hwire⟩, rfl⟩ := onWire_of_decode hcontext haccepted
  have hwants := decodeInternal_tight hcontext encodedMessage usable _ haccepted
  refine ⟨_, hwire.decodeStorageSize_eq hcontext hlength, fun storage hstorage => ?_⟩
  obtain ⟨usable, rfl⟩ : ∃ usable : UsableStorage, usable.1 = storage :=
    ⟨⟨storage, hstorage⟩, rfl⟩
  constructor
  · intro hroom
    rw [decodeMessage_of_ok hcontext hlength (hwants.of_le hroom)]
    exact ⟨rfl, rfl⟩
  · intro hroom
    exact decodeMessage_of_error hcontext hlength (hwants.of_lt hroom)

omit [Target] in
/-- An Update Instruction with one UART record of three bytes decodes into 35 bytes: one
    operation and its padding, then the data. One byte less is too small. -/
theorem decode_storage_size_tight_uart :
    let encodedMessage : List UInt8 := [0, 4, 1] ++ List.replicate 16 7 ++ [21, 0, 16, 0]
      ++ [5, 0, 0, 0, 1, 1, 0, 0, 16, 0, 3, 0, 65, 66, 67, 0]
    @decodeStorageSize .lp64 ⟨defaultConfig, 1⟩ encodedMessage = .ok 35
      ∧ (@decodeMessage .lp64 ⟨defaultConfig, 1⟩ encodedMessage ⟨false, 35⟩).result = .ok ()
      ∧ (@decodeMessage .lp64 ⟨defaultConfig, 1⟩ encodedMessage ⟨false, 35⟩).usedDecodedSize = 35
      ∧ @decodeMessage .lp64 ⟨defaultConfig, 1⟩ encodedMessage ⟨false, 34⟩
        = { result := fail .bufferTooSmall, outMessage := none, usedDecodedSize := 0 } := by
  intro encodedMessage
  obtain ⟨size, hsize, hroom⟩ := @decode_storage_size_tight .lp64 defaultConfig
    ⟨defaultConfig, 1⟩ rfl encodedMessage ⟨false, 64⟩ (by decide +kernel)
  have h : @decodeStorageSize .lp64 ⟨defaultConfig, 1⟩ encodedMessage = .ok 35 := by
    decide +kernel
  obtain rfl : size = 35 := Except.ok.inj (hsize.symm.trans h)
  obtain ⟨haccepted, hused⟩ := (hroom ⟨false, 35⟩ (by decide)).1 (by decide)
  exact ⟨h, haccepted, hused, (hroom ⟨false, 34⟩ (by decide)).2 (by decide)⟩

end

end HilRigProtocol.Application
