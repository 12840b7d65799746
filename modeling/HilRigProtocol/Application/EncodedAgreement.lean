/-
  Validating encoded bytes against decoding them.

  `HIL_APPLICATION_Validate_Encoded_Message` makes the checks of
  `HIL_APPLICATION_Decode_Message` without storage, in the order of the sizing pass. On
  the payloads of a family the two sequences of checks are the same, and on all others
  both end in the scan, except that sizing a Test Configuration refuses an enabled I2C
  channel before the checks that typed validation makes in front of it.
-/
import HilRigProtocol.Application.BoundedParsing
import HilRigProtocol.Application.EnvelopeForm

namespace HilRigProtocol.Application

open Library Library.Reader

section
variable [Target]

/-! ## What the scans accept -/

omit [Target] in
/-- The span whose length byte stands at `n`. -/
theorem exists_span {payload : List UInt8} {n : Nat} {size : UInt8}
    (hat : byteAt payload n = .ok size) (hlen : n + 1 + size.toNat ≤ payload.length) :
    ∃ span form, SpanForm span form ∧ span.count = size.toNat
      ∧ payload.drop n = form ++ payload.drop (n + 1 + size.toNat) := by
  obtain ⟨_, rfl, hdrop⟩ := (read_eq_ok reads_byte).mp (read_byteAt.mpr hat)
  have hbytes : ((payload.drop (n + 1)).take size.toNat).length = size.toNat := by
    rw [List.length_take, List.length_drop]
    omega
  have htail := (List.take_append_drop size.toNat (payload.drop (n + 1))).symm
  rw [List.drop_drop] at htail
  refine ⟨_, _, ⟨size, ⟨_, hbytes⟩, rfl, rfl⟩, count_ofVector _ _, ?_⟩
  rw [hdrop]
  exact congrArg (List.cons size) htail

omit [Target] in
/-- The fields in front of a span. -/
theorem exists_front {α : Type} {r : Reader α} {w : α → List UInt8 → Prop} {n : Nat}
    (hr : Reads r w) (htakes : Takes r n) {payload : List UInt8} (hlen : n ≤ payload.length) :
    ∃ fields front, w fields front ∧ payload = front ++ payload.drop n := by
  obtain ⟨fields, hread⟩ := read_takes htakes hlen
  obtain ⟨front, hfront, hpayload⟩ := (read_eq_ok hr).mp hread
  exact ⟨fields, front, hfront, hpayload⟩

theorem exists_errorPayload {context : Context} {payload : List UInt8} {required : Nat}
    (h : errorScan context payload = .ok required) :
    ∃ data : Error, data.Payload context payload := by
  have hfixed : errorFixedPayloadSize = 12 := rfl
  have hoffset : errorDiagnosticLengthOffset = 11 := rfl
  obtain ⟨size, hat, hlen, hmax⟩ := errorScan_eq_ok h
  obtain ⟨fields, front, ⟨-, hfront⟩, hpayload⟩ :=
    @exists_front _ _ _ _ reads_error takes_error payload (by omega)
  obtain ⟨span, form, hspan, hcount, hdrop⟩ := exists_span hat (by omega)
  have hend : payload.drop (errorDiagnosticLengthOffset + 1 + size.toNat) = [] :=
    List.drop_eq_nil_of_le (by omega)
  rw [hend, List.append_nil] at hdrop
  exact ⟨{ fields with diagnosticData := span }, front, form, hfront, hspan, hcount.trans_le hmax,
    hdrop ▸ hpayload⟩

theorem exists_systemInfoResponsePayload {context : Context} {payload : List UInt8}
    {required : Nat} (h : systemInfoResponseScan context payload = .ok required) :
    ∃ data : SystemInfoResponse, data.Payload context payload := by
  obtain ⟨diagnosticSize, gitHashSize, hdiagnosticAt, hgitHashAt, hlen, hdiagnosticMax,
    hgitHashMax⟩ := systemInfoResponseScan_eq_ok h
  obtain ⟨fields, front, ⟨-, -, hfront⟩, hpayload⟩ := @exists_front _ _ _ _
    reads_systemInfoResponse takes_systemInfoResponse payload (by omega)
  obtain ⟨diagnostic, diagnosticForm, hdiagnostic, hdiagnosticCount, hdiagnosticDrop⟩ :=
    exists_span hdiagnosticAt (by omega)
  obtain ⟨gitHash, gitHashForm, hgitHash, hgitHashCount, hgitHashDrop⟩ :=
    exists_span hgitHashAt (by omega)
  have hend : payload.drop (13 + diagnosticSize.toNat + 1 + gitHashSize.toNat) = [] :=
    List.drop_eq_nil_of_le (by omega)
  rw [hend, List.append_nil] at hgitHashDrop
  refine ⟨{ fields with diagnosticData := diagnostic, firmwareGitHash := gitHash }, front,
    diagnosticForm, gitHashForm, hfront, hdiagnostic, hgitHash,
    hdiagnosticCount.trans_le hdiagnosticMax, hgitHashCount.trans_le hgitHashMax, ?_⟩
  rw [← hgitHashDrop, ← hdiagnosticDrop]
  exact hpayload

theorem exists_arbitraryDataPayload {context : Context} {payload : List UInt8} {required : Nat}
    (h : arbitraryDataScan context payload = .ok required) :
    ∃ data : ArbitraryData, data.Payload context payload := by
  obtain ⟨dataId, length, rest, hread, hrest, rfl⟩ := arbitraryDataScan_eq_ok h
  obtain ⟨_, rfl, rfl⟩ := (read_eq_ok reads_arbitraryDataPrefix).mp hread
  have hmax : ¬ length.toNat > context.config.maxVariableDataSize := by
    intro hgt
    rw [arbitraryDataScan_front, if_neg (not_not.mpr hrest), if_pos hgt] at h
    exact fail_ne_ok _ _ h
  exact ⟨⟨dataId, .ofVector ⟨rest, hrest⟩ length.toNat_lt⟩, length, ⟨rest, hrest⟩, rfl,
    Nat.not_lt.mp hmax, rfl⟩

theorem exists_updateInstructionPayload {context : Context} {payload : List UInt8}
    {required : Nat} (h : updateInstructionScan context payload = .ok required) :
    ∃ data : UpdateInstruction, data.Payload context payload := by
  obtain ⟨tickNumber, flags, records, hpayload, -⟩ := (updateInstructionScan_iff _ _ _).mp h
  exact ⟨⟨tickNumber, flags, wireRecords records hpayload.countable⟩, records, hpayload, rfl⟩

theorem exists_variableTestResultPayload {context : Context} {payload : List UInt8}
    {required : Nat} (h : variableTestResultScan context payload = .ok required) :
    ∃ data : VariableTestResult, data.Payload context payload := by
  obtain ⟨tickNumber, condition, flags, problemDetail, records, hpayload, -⟩ :=
    (variableTestResultScan_iff _ _ _).mp h
  exact ⟨⟨tickNumber, condition.toNat, flags, problemDetail,
    wireRecords records hpayload.countable⟩, condition, records, hpayload, rfl, rfl⟩

/-- The storage of every body that comes off the wire can be addressed. -/
theorem Body.Payload.storage_le {context : Context} {body : Body} {payload : List UInt8}
    (h : body.Payload context payload) : body.storage ≤ Target.sizeMax := by
  cases body with
  | systemInfoResponse data =>
      obtain ⟨_, _, _, -, hdiagnostic, hgitHash, -⟩ := h
      have hdiagnosticLe := hdiagnostic.form_eq.2.1
      have hgitHashLe := hgitHash.form_eq.2.1
      refine le_sizeMax ?_
      dsimp only [Body.storage]
      omega
  | testConfiguration data =>
      obtain ⟨_, _, -, hspan, -⟩ := h
      exact le_sizeMax (hspan.form_eq.2.1.trans (by decide))
  | updateInstruction data =>
      obtain ⟨records, hpayload, hdata⟩ := h
      dsimp only [Body.storage]
      rw [UpdateInstruction.storage, hdata, recordsStorage_wireRecords]
      exact recordStorage_le hpayload.countable Target.operations_addressable
  | variableTestResult data =>
      obtain ⟨condition, records, hpayload, -, hdata⟩ := h
      dsimp only [Body.storage]
      rw [VariableTestResult.storage, hdata, recordsStorage_wireRecords]
      exact recordStorage_le hpayload.countable Target.records_addressable
  | error data =>
      obtain ⟨_, _, -, hspan, -⟩ := h
      exact le_sizeMax (hspan.form_eq.2.1.trans (by decide))
  | runReport data =>
      obtain ⟨_, _, -, hspan, -⟩ := h
      exact le_sizeMax (hspan.form_eq.2.1.trans (by decide))
  | arbitraryData data =>
      obtain ⟨length, bytes, hdata, -⟩ := h
      have hlength := length.toNat_lt
      dsimp only [Body.storage]
      rw [hdata, count_ofVector]
      exact le_sizeMax (by omega)
  | _ => exact Nat.zero_le _

/-! ## Both calls behind the envelope -/

/-- The part of `HIL_APPLICATION_Decode_Internal` behind the envelope. -/
def decodePayload (context : Context) (envelope : Envelope) (payload : List UInt8)
    (storage : Storage) : Result Nat := do
  let body ← bodyDecode context envelope.type payload storage
  if body.consumed ≠ payload.length then fail .malformedMessage
  else do
    validateDiscoveryEnvelopeBody envelope body.data
    validateMessage context (envelope.message body.data)
    .ok body.used

/-- `HIL_APPLICATION_Validate_Encoded_Message` behind the envelope. -/
def validatePayload (context : Context) (envelope : Envelope) (payload : List UInt8) :
    Result Nat := do
  let requiredDecodeStorage ← payloadStorageSize context envelope payload
  validateEncodedPayload context envelope payload requiredDecodeStorage

theorem decodeInternal_payload (context : Context) (encodedMessage : List UInt8)
    (storage : Storage) :
    (decodeInternal context encodedMessage storage).map Prod.snd
      = headerDecoding encodedMessage >>= fun envelope =>
        payloadOf envelope encodedMessage >>= fun payload =>
          decodePayload context envelope payload storage := by
  unfold decodeInternal
  cases headerDecoding encodedMessage with
  | error failure => rfl
  | ok envelope =>
  rw [ok_bind, ok_bind]
  cases payloadOf envelope encodedMessage with
  | error failure => rfl
  | ok payload =>
  rw [ok_bind, ok_bind, decodePayload]
  cases bodyDecode context envelope.type payload storage with
  | error failure => rfl
  | ok body =>
  rw [ok_bind, ok_bind]
  dsimp only
  split
  case isTrue => rfl
  case isFalse =>
  cases validateDiscoveryEnvelopeBody envelope body.data with
  | error failure => rfl
  | ok _ =>
  rw [ok_bind, ok_bind]
  dsimp only [Envelope.message]
  cases validateMessage context { subtype := envelope.subtype, hasTestId := envelope.hasTestId
                                  testId := envelope.testId, body := body.data } with
  | error failure => rfl
  | ok _ => rfl

theorem payloadOf_eq_drop {envelope : Envelope} {encodedMessage payload : List UInt8}
    (h : payloadOf envelope encodedMessage = .ok payload) :
    payload = encodedMessage.drop headerSizeBytes := by
  unfold payloadOf at h
  rw [bind_eq_ok] at h
  obtain ⟨total, -, h⟩ := h
  split at h
  case isTrue => exact absurd h (fail_ne_ok _ _)
  split at h
  case isTrue => exact absurd h (fail_ne_ok _ _)
  exact (Except.ok.inj h).symm

theorem validateEncodedMessage_payload {context : Context} (hinit : Initialized context)
    {encodedMessage : List UInt8}
    (hlength : encodedMessage.length ≤ context.config.maxEncodedMessageSize) :
    validateEncodedMessage context encodedMessage
      = headerDecoding encodedMessage >>= fun envelope =>
        payloadOf envelope encodedMessage >>= fun payload =>
          validatePayload context envelope payload := by
  unfold validateEncodedMessage decodeStorageSize
  rw [if_neg hinit.initialized, if_neg (Nat.not_lt.mpr hlength), if_neg hinit.initialized,
    if_neg (Nat.not_lt.mpr hlength)]
  cases headerDecoding encodedMessage with
  | error failure => rfl
  | ok envelope =>
  rw [ok_bind, ok_bind]
  cases hpayload : payloadOf envelope encodedMessage with
  | error failure => rfl
  | ok payload =>
  rw [ok_bind, ok_bind, payloadOf_eq_drop hpayload]
  rfl

section
variable {context : Context} {envelope : Envelope} {payload : List UInt8}

omit [Target] in
theorem validateMessage_checked (hinit : Initialized context) (hchecked : envelope.Checked)
    {body : Body} (htype : body.type = envelope.type) :
    validateMessage context (envelope.message body)
      = validateBodyTestId envelope.hasTestId body >>= fun _ => bodyValidate context body := by
  unfold Envelope.Checked at hchecked
  rw [validateMessage, if_neg hinit.initialized, validateCommonMessageFields]
  dsimp only [Envelope.message]
  rw [htype, hchecked, ok_bind]

/-- With room for everything, decoding ends in the checks of the typed body. -/
theorem decodePayload_eq (hinit : Initialized context) (hchecked : envelope.Checked)
    {storage : UsableStorage} (hroom : Target.sizeMax ≤ storage.room) {body : Body}
    (htype : body.type = envelope.type) (hbody : body.Payload context payload) :
    decodePayload context envelope payload storage.1
      = validateDiscoveryEnvelopeBody envelope body >>= fun _ =>
        validateBodyTestId envelope.hasTestId body >>= fun _ =>
        bodyValidate context body >>= fun _ => .ok body.storage := by
  have hwants := (bodyDecode_decodes hinit envelope.type payload).complete body ⟨htype, hbody⟩
  unfold decodePayload
  rw [hwants.of_le (hbody.storage_le.trans hroom), ok_bind]
  dsimp only
  rw [if_neg (not_not.mpr rfl), validateMessage_checked hinit hchecked htype]
  cases validateDiscoveryEnvelopeBody envelope body with
  | error failure => rfl
  | ok _ =>
  cases validateBodyTestId envelope.hasTestId body <;> rfl

/-! ## Bodies of fixed size -/

/-- The types with a fixed size use no storage. -/
theorem storage_of_fixed {body : Body} {size : Nat}
    (h : fixedBodyValidateSize body.type size = .ok ()) : body.storage = 0 := by
  cases body with
  | systemInfoResponse data => exact absurd h (fail_ne_ok _ _)
  | testConfiguration data => exact absurd h (fail_ne_ok _ _)
  | updateInstruction data => exact absurd h (fail_ne_ok _ _)
  | variableTestResult data => exact absurd h (fail_ne_ok _ _)
  | error data => exact absurd h (fail_ne_ok _ _)
  | runReport data => exact absurd h (fail_ne_ok _ _)
  | arbitraryData data => exact absurd h (fail_ne_ok _ _)
  | _ => rfl

/-- A type whose body needs no storage is validated by decoding it, so the two agree as
    soon as the sizing pass agrees. -/
theorem fixed_agrees (hinit : Initialized context) {storage : UsableStorage}
    (hbody : ∀ storage, bodyDecode context envelope.type payload storage
      = bodyDecode context envelope.type payload { isNull := true, capacity := 0 })
    (hvalidate : ∀ size, validateEncodedPayload context envelope payload size
      = validateEncodedFixed context envelope payload >>= fun _ => .ok size)
    (hfails : ∀ failure, fixedBodyValidateSize envelope.type payload.length = .error failure →
      payloadStorageSize context envelope payload = .error failure
        ∧ bodyDecode context envelope.type payload storage.1 = .error failure)
    (hfits : fixedBodyValidateSize envelope.type payload.length = .ok () →
      payloadStorageSize context envelope payload = .ok 0
        ∨ ∃ failure, payloadStorageSize context envelope payload = .error failure
          ∧ decodePayload context envelope payload storage.1 = .error failure) :
    validatePayload context envelope payload
      = decodePayload context envelope payload storage.1 := by
  unfold validatePayload
  cases hsize : fixedBodyValidateSize envelope.type payload.length with
  | error failure =>
      obtain ⟨hsized, hdecode⟩ := hfails failure hsize
      rw [hsized, decodePayload, hdecode]
      rfl
  | ok _ =>
      obtain hsized | ⟨failure, hsized, hdecode⟩ := hfits hsize
      · rw [hsized, ok_bind, hvalidate, validateEncodedFixed, ← hbody storage.1, decodePayload]
        cases hdecoded : bodyDecode context envelope.type payload storage.1 with
        | error failure => rfl
        | ok decoded =>
            obtain ⟨⟨htype, -⟩, hparts⟩ := (bodyDecode_decodes hinit envelope.type payload).sound
              storage decoded hdecoded
            rw [← htype] at hsize
            have hused : decoded.used = 0 := by
              rw [hparts]
              exact storage_of_fixed hsize
            rw [ok_bind, ok_bind]
            dsimp only
            split
            case isTrue => rfl
            case isFalse =>
              rw [hused]
              cases validateDiscoveryEnvelopeBody envelope decoded.data with
              | error failure => rfl
              | ok _ => rfl
      · rw [hsized, hdecode]
        rfl

/-- The types that are sized by their length alone. -/
theorem plain_agrees (hinit : Initialized context) {storage : UsableStorage}
    (hbody : ∀ storage, bodyDecode context envelope.type payload storage
      = bodyDecode context envelope.type payload { isNull := true, capacity := 0 })
    (hvalidate : ∀ size, validateEncodedPayload context envelope payload size
      = validateEncodedFixed context envelope payload >>= fun _ => .ok size)
    (hsized : payloadStorageSize context envelope payload
      = fixedBodyValidateSize envelope.type payload.length >>= fun _ => .ok 0)
    (hfails : ∀ failure, fixedBodyValidateSize envelope.type payload.length = .error failure →
      bodyDecode context envelope.type payload storage.1 = .error failure) :
    validatePayload context envelope payload
      = decodePayload context envelope payload storage.1 := by
  refine fixed_agrees hinit hbody hvalidate (fun failure h => ?_) fun h => .inl ?_
  · rw [hsized, h]
    exact ⟨rfl, hfails failure h⟩
  · rw [hsized, h]
    rfl

omit [Target] in
/-- A payload of the right size is the fixed fields of some value. -/
theorem exists_fixed {α : Type} {r : Reader α} {w : α → List UInt8 → Prop} {n : Nat}
    (hr : Reads r w) (htakes : Takes r n) (hlen : payload.length = n) :
    ∃ fields, w fields payload := by
  obtain ⟨fields, front, hfront, hpayload⟩ := exists_front hr htakes (Nat.le_of_eq hlen.symm)
  rw [List.drop_eq_nil_of_le (Nat.le_of_eq hlen), List.append_nil] at hpayload
  exact ⟨fields, hpayload ▸ hfront⟩

/-! ## Bodies with spans -/

omit [Target] in
/-- Reading a span in place: its length byte, and then as many bytes. -/
theorem SpanForm.inPlace {span : ByteSpan} {form : List UInt8} (h : SpanForm span form) :
    ∃ size bytes, size.toNat = span.count ∧ bytes.length = span.count
      ∧ (∀ rest, read byte (form ++ rest) = .ok (size, bytes ++ rest))
      ∧ ∀ rest, spanInPayload size (bytes ++ rest) = .ok (span, rest) := by
  obtain ⟨size, bytes, rfl, rfl⟩ := h
  refine ⟨size, bytes.toList, (count_ofVector _ _).symm, ?_, fun rest => ?_, fun rest => ?_⟩
  · rw [bytes.toList_length, count_ofVector]
  · exact read_append reads_byte rfl
  · rw [spanInPayload, read_append (reads_bytes _) rfl, ok_bind]

theorem validateEncodedSystemInfoResponse_payload {data : SystemInfoResponse}
    (h : data.Payload context payload) :
    validateEncodedSystemInfoResponse context envelope payload
      = validateDiscoveryEnvelopeBody envelope (.systemInfoResponse data) >>= fun _ =>
        systemInfoResponseValidate context data := by
  obtain ⟨front, diagnosticForm, gitHashForm, hfront, hdiagnostic, hgitHash, -, -, rfl⟩ := h
  have hdiagnosticLe := hdiagnostic.form_eq.2.1
  have hgitHashLe := hgitHash.form_eq.2.1
  have hfrontLen := hfront.length_eq
  have hdiagnosticLen := hdiagnostic.length_eq
  have hgitHashLen := hgitHash.length_eq
  have hread : read systemInfoResponseFields (front ++ (diagnosticForm ++ gitHashForm))
      = .ok ({ data with firmwareGitHash := emptySpan, diagnosticData := emptySpan },
        diagnosticForm ++ gitHashForm) :=
    read_append reads_systemInfoResponse ⟨rfl, rfl, hfront⟩
  obtain ⟨_, _, -, -, hdiagnosticSize, hdiagnosticBytes⟩ := hdiagnostic.inPlace
  obtain ⟨gitHashSize, gitHash, hsize, hgitHashBytesLen, hgitHashSize, hgitHashBytes⟩ :=
    hgitHash.inPlace
  have hlastSize := hgitHashSize []
  have hlast := hgitHashBytes []
  rw [List.append_nil] at hlastSize hlast
  rw [List.append_nil] at hlastSize
  have htotal : (front ++ (diagnosticForm ++ gitHashForm)).length - gitHash.length
      + gitHashSize.toNat = (front ++ (diagnosticForm ++ gitHashForm)).length := by
    rw [hsize, hgitHashBytesLen, List.length_append, List.length_append]
    omega
  unfold validateEncodedSystemInfoResponse
  rw [hread, ok_bind]
  dsimp only
  rw [hdiagnosticSize, ok_bind]
  dsimp only
  rw [hdiagnosticBytes, ok_bind]
  dsimp only
  rw [hlastSize, ok_bind]
  dsimp only
  rw [addSize_of_le (le_sizeMax (by
    rw [htotal, List.length_append, List.length_append]
    omega)), ok_bind, if_neg (not_not.mpr htotal), hlast, ok_bind]

omit [Target] in
theorem validateEncodedError_payload {data : Error} (h : data.Payload context payload) :
    validateEncodedError context envelope payload
      = validateBodyTestId envelope.hasTestId (.error data) >>= fun _ =>
        errorValidate context data := by
  obtain ⟨front, form, hfront, hspan, -, rfl⟩ := h
  have hread : read errorFields (front ++ form)
      = .ok ({ data with diagnosticData := emptySpan }, form) :=
    read_append reads_error ⟨rfl, hfront⟩
  obtain ⟨_, _, -, -, hsize, hbytes⟩ := hspan.inPlace
  have hlastSize := hsize []
  have hlast := hbytes []
  rw [List.append_nil] at hlastSize hlast
  rw [List.append_nil] at hlastSize
  unfold validateEncodedError
  rw [hread, ok_bind]
  dsimp only
  rw [hlastSize, ok_bind]
  dsimp only
  rw [hlast, ok_bind]
  dsimp only [validateBodyTestId]
  split
  case isTrue => rfl
  case isFalse => rfl

/-! ## Record families and endpoint data -/

omit [Target] in
theorem UpdateInstruction.Payload.valid (hinit : Initialized context) {data : UpdateInstruction}
    (h : data.Payload context payload) : updateInstructionValidate context data = .ok () := by
  obtain ⟨records, hpayload, hdata⟩ := h
  have hnonempty := hpayload.nonempty
  refine (updateInstructionValidate_iff hinit).mpr ⟨hpayload.tick_lt, hpayload.flags_le, ?_, ?_⟩
  · have hnull := notNull_wireRecords records hpayload.countable
    rw [hdata]
    rw [count_wireRecords] at hnull ⊢
    rintro (hzero | hisNull)
    · omega
    · exact hnull ⟨by omega, hisNull⟩
  · rw [hdata, elements_wireRecords]
    exact (recordsValidate_wire (fun record => validRecord_of_logicalOperation) records).mpr
      ⟨hpayload.valid, hpayload.distinct⟩

omit [Target] in
theorem VariableTestResult.Payload.valid (hinit : Initialized context)
    {data : VariableTestResult} (h : data.Payload context payload) :
    variableTestResultValidate context data = .ok () := by
  obtain ⟨condition, records, hpayload, hcondition, hdata⟩ := h
  refine (variableTestResultValidate_iff hinit).mpr ⟨hpayload.tick_lt, hpayload.flags_le, ?_, ?_,
    ?_, ?_⟩
  · rw [hcondition]
    exact (resultConditionIsDefined_iff condition).mpr hpayload.condition_le
  · rw [hcondition]
    rintro ⟨hok, hdetail⟩
    exact hdetail (hpayload.detail (condition_ok_iff.mp hok))
  · rw [hdata]
    exact notNull_wireRecords records hpayload.countable
  · rw [hdata, elements_wireRecords]
    exact (recordsValidate_wire (fun record => validRecord_of_capturedRecord) records).mpr
      ⟨hpayload.valid, hpayload.distinct⟩

omit [Target] in
theorem ArbitraryData.Payload.valid (hinit : Initialized context) {data : ArbitraryData}
    (h : data.Payload context payload) : arbitraryDataValidate context data = .ok () := by
  obtain ⟨length, bytes, hdata, hmax, -⟩ := h
  unfold arbitraryDataValidate
  rw [if_neg hinit.initialized, hdata, if_neg]
  rintro (hgt | hnull)
  · rw [count_ofVector] at hgt
    omega
  · exact notNull_ofVector bytes length.toNat_lt hnull

/-! ## All families -/

/-- A type whose payloads have a scan: both calls end in its failure, and what it accepts is
    the payload of a body. -/
theorem scanned_agrees (hinit : Initialized context) (hchecked : envelope.Checked)
    {storage : UsableStorage} (hroom : Target.sizeMax ≤ storage.room) (scan : Result Nat)
    (hfails : ∀ failure, scan = .error failure →
      payloadStorageSize context envelope payload = .error failure
        ∧ bodyDecode context envelope.type payload storage.1 = .error failure)
    (hbody : ∀ size, scan = .ok size → ∃ body : Body, body.type = envelope.type
      ∧ body.Payload context payload
      ∧ validatePayload context envelope payload
        = validateDiscoveryEnvelopeBody envelope body >>= fun _ =>
          validateBodyTestId envelope.hasTestId body >>= fun _ =>
          bodyValidate context body >>= fun _ => .ok body.storage) :
    validatePayload context envelope payload
      = decodePayload context envelope payload storage.1 := by
  cases hscan : scan with
  | error failure =>
      obtain ⟨hsize, hdecode⟩ := hfails failure hscan
      rw [validatePayload, hsize, decodePayload, hdecode]
      rfl
  | ok size =>
      obtain ⟨body, htype, hpayload, hvalidate⟩ := hbody size hscan
      rw [hvalidate, decodePayload_eq hinit hchecked hroom htype hpayload]

omit [Target] in
theorem ne_size_of_error {size length : Nat} {failure : Failure}
    (h : (if length = size then .ok () else fail .malformedMessage : Result Unit)
      = .error failure) :
    length ≠ size ∧ failure = .status .malformedMessage := by
  by_cases hlength : length = size
  · rw [if_pos hlength] at h
    cases h
  · rw [if_neg hlength] at h
    exact ⟨hlength, (Except.error.inj h).symm⟩

/-- The types that are sized by their length alone have it checked first when they are
    decoded. -/
theorem bodyDecode_of_length {type : MessageType} {storage : Storage} {failure : Failure}
    (hplain : type ∈ [.testInstruction, .executionControl, .globalControl, .finalizeTestUpload,
      .testResult, .rigStatus, .arbitraryControl])
    (h : fixedBodyValidateSize type payload.length = .error failure) :
    bodyDecode context type payload storage = .error failure := by
  cases type with
  | testInstruction =>
      dsimp only [bodyDecode]
      rw [testInstructionsDecode, h]
      rfl
  | executionControl =>
      dsimp only [bodyDecode]
      rw [executionControlDecode, h]
      rfl
  | globalControl =>
      dsimp only [bodyDecode]
      rw [globalControlDecode, h]
      rfl
  | finalizeTestUpload =>
      dsimp only [bodyDecode]
      rw [finalizeTestUploadDecode, h]
      rfl
  | testResult =>
      dsimp only [bodyDecode]
      rw [testResultDecode, h]
      rfl
  | rigStatus =>
      obtain ⟨hlen, rfl⟩ := ne_size_of_error h
      dsimp only [bodyDecode]
      rw [rigStatusDecode, if_pos hlen]
      rfl
  | arbitraryControl =>
      obtain ⟨hlen, rfl⟩ := ne_size_of_error h
      dsimp only [bodyDecode]
      rw [arbitraryControlDecode, if_pos hlen]
      rfl
  | _ => exact absurd hplain (by decide)

/-- Sizing a System Info Request makes the version check that typed validation makes. -/
theorem systemInfoRequest_agrees (hinit : Initialized context) (hchecked : envelope.Checked)
    {storage : UsableStorage} (hroom : Target.sizeMax ≤ storage.room)
    (htype : envelope.type = .systemInfoRequest) :
    validatePayload context envelope payload
      = decodePayload context envelope payload storage.1 := by
  obtain ⟨protocolMajor, protocolMinor, hasTestId, testId, type, subtype, payloadLength⟩ := envelope
  obtain rfl : type = .systemInfoRequest := htype
  refine fixed_agrees hinit (fun _ => rfl) (fun _ => rfl) (fun failure h => ⟨?_, ?_⟩)
    fun hfits => ?_
  · exact congrArg (· >>= fun _ => _) h
  · dsimp only [bodyDecode]
    rw [systemInfoRequestDecode, h]
    rfl
  · have hlen : payload.length = systemInfoRequestFixedEncodeSize := by
      by_contra hne
      exact fail_ne_ok _ _ ((if_neg hne).symm.trans hfits)
    obtain ⟨data, hdata⟩ := exists_fixed reads_systemInfoRequest takes_systemInfoRequest hlen
    have hdiscovery := @systemInfoRequest_discovery
      ⟨protocolMajor, protocolMinor, hasTestId, testId, .systemInfoRequest, subtype,
        payloadLength⟩ data payload rfl hdata
    have hdecode := @decodePayload_eq _ _ _ payload hinit hchecked storage hroom
      (.systemInfoRequest data) rfl hdata
    dsimp only [payloadStorageSize] at hfits ⊢
    rw [hfits, ok_bind, hdiscovery, hdecode, validateDiscoveryEnvelopeBody]
    cases validateDiscoveryVersion _ data.applicationProtocolMajor
        data.applicationProtocolMinor with
    | error failure => exact .inr ⟨failure, rfl, rfl⟩
    | ok _ => exact .inl rfl

/-- Sizing a Response makes the test ID check that typed validation makes. -/
theorem response_agrees (hinit : Initialized context) (hchecked : envelope.Checked)
    {storage : UsableStorage} (hroom : Target.sizeMax ≤ storage.room)
    (htype : envelope.type = .response) :
    validatePayload context envelope payload
      = decodePayload context envelope payload storage.1 := by
  obtain ⟨protocolMajor, protocolMinor, hasTestId, testId, type, subtype, payloadLength⟩ := envelope
  obtain rfl : type = .response := htype
  refine fixed_agrees hinit (fun _ => rfl) (fun _ => rfl) (fun failure h => ⟨?_, ?_⟩)
    fun hfits => ?_
  · exact congrArg (· >>= fun _ => _) h
  · dsimp only [bodyDecode]
    rw [responseDecode, h]
    rfl
  · have hlen : payload.length = responseFixedPayloadSize := by
      by_contra hne
      exact fail_ne_ok _ _ ((if_neg hne).symm.trans hfits)
    obtain ⟨data, hdata⟩ := exists_fixed reads_response takes_response hlen
    obtain ⟨scope, hscope, hvalue⟩ := response_scope hdata
    have hdecode := @decodePayload_eq _ _ _ payload hinit hchecked storage hroom
      (.response data) rfl hdata
    dsimp only [payloadStorageSize] at hfits ⊢
    rw [hfits, ok_bind, hscope, ok_bind, hvalue, hdecode]
    dsimp only [validateDiscoveryEnvelopeBody, validateBodyTestId]
    by_cases hid : hasTestId ≠ if data.scope = ResponseScope.globalControl then 0 else 1
    · rw [if_pos hid, if_pos hid]
      exact .inr ⟨_, rfl, rfl⟩
    · rw [if_neg hid]
      exact .inl rfl

theorem updateInstruction_agrees (hinit : Initialized context) (hchecked : envelope.Checked)
    {storage : UsableStorage} (hroom : Target.sizeMax ≤ storage.room)
    (htype : envelope.type = .updateInstruction) :
    validatePayload context envelope payload
      = decodePayload context envelope payload storage.1 := by
  obtain ⟨protocolMajor, protocolMinor, hasTestId, testId, type, subtype, payloadLength⟩ := envelope
  obtain rfl : type = .updateInstruction := htype
  refine scanned_agrees hinit hchecked hroom (updateInstructionScan context payload)
    (fun failure h => ⟨h, ?_⟩) fun size h => ?_
  · dsimp only [bodyDecode]
    rw [updateInstructionDecode, h]
    rfl
  · obtain ⟨data, hdata⟩ := exists_updateInstructionPayload h
    refine ⟨.updateInstruction data, rfl, hdata, ?_⟩
    unfold validatePayload
    dsimp only [payloadStorageSize, validateEncodedPayload, validateDiscoveryEnvelopeBody,
      validateBodyTestId, bodyValidate]
    rw [updateInstructionScan_payload hdata, hdata.valid hinit]
    rfl

theorem variableTestResult_agrees (hinit : Initialized context) (hchecked : envelope.Checked)
    {storage : UsableStorage} (hroom : Target.sizeMax ≤ storage.room)
    (htype : envelope.type = .variableTestResult) :
    validatePayload context envelope payload
      = decodePayload context envelope payload storage.1 := by
  obtain ⟨protocolMajor, protocolMinor, hasTestId, testId, type, subtype, payloadLength⟩ := envelope
  obtain rfl : type = .variableTestResult := htype
  refine scanned_agrees hinit hchecked hroom (variableTestResultScan context payload)
    (fun failure h => ⟨h, ?_⟩) fun size h => ?_
  · dsimp only [bodyDecode]
    rw [variableTestResultDecode, h]
    rfl
  · obtain ⟨data, hdata⟩ := exists_variableTestResultPayload h
    refine ⟨.variableTestResult data, rfl, hdata, ?_⟩
    unfold validatePayload
    dsimp only [payloadStorageSize, validateEncodedPayload, validateDiscoveryEnvelopeBody,
      validateBodyTestId, bodyValidate]
    rw [variableTestResultScan_payload hdata, hdata.valid hinit]
    rfl

theorem arbitraryData_agrees (hinit : Initialized context) (hchecked : envelope.Checked)
    {storage : UsableStorage} (hroom : Target.sizeMax ≤ storage.room)
    (htype : envelope.type = .arbitraryData) :
    validatePayload context envelope payload
      = decodePayload context envelope payload storage.1 := by
  obtain ⟨protocolMajor, protocolMinor, hasTestId, testId, type, subtype, payloadLength⟩ := envelope
  obtain rfl : type = .arbitraryData := htype
  refine scanned_agrees hinit hchecked hroom (arbitraryDataScan context payload)
    (fun failure h => ⟨h, ?_⟩) fun size h => ?_
  · dsimp only [bodyDecode]
    rw [arbitraryDataDecode, h]
    rfl
  · obtain ⟨data, hdata⟩ := exists_arbitraryDataPayload h
    refine ⟨.arbitraryData data, rfl, hdata, ?_⟩
    unfold validatePayload
    dsimp only [payloadStorageSize, validateEncodedPayload, validateDiscoveryEnvelopeBody,
      validateBodyTestId, bodyValidate]
    rw [arbitraryDataScan_payload hdata, hdata.valid hinit]
    rfl

theorem systemInfoResponse_agrees (hinit : Initialized context) (hchecked : envelope.Checked)
    {storage : UsableStorage} (hroom : Target.sizeMax ≤ storage.room)
    (htype : envelope.type = .systemInfoResponse) :
    validatePayload context envelope payload
      = decodePayload context envelope payload storage.1 := by
  obtain ⟨protocolMajor, protocolMinor, hasTestId, testId, type, subtype, payloadLength⟩ := envelope
  obtain rfl : type = .systemInfoResponse := htype
  refine scanned_agrees hinit hchecked hroom (systemInfoResponseScan context payload)
    (fun failure h => ⟨?_, ?_⟩) fun size h => ?_
  · dsimp only [payloadStorageSize]
    rw [h]
    rfl
  · dsimp only [bodyDecode]
    rw [systemInfoResponseDecode, h]
    rfl
  · obtain ⟨data, hdata⟩ := exists_systemInfoResponsePayload h
    refine ⟨.systemInfoResponse data, rfl, hdata, ?_⟩
    unfold validatePayload
    dsimp only [payloadStorageSize, validateEncodedPayload]
    rw [systemInfoResponseScan_payload hdata, ok_bind,
      validateEncodedSystemInfoResponse_payload hdata]
    obtain ⟨front, diagnostic, gitHash, hfront, -, -, -, -, rfl⟩ := hdata
    rw [systemInfoResponse_discovery rfl hfront]
    dsimp only [validateDiscoveryEnvelopeBody, validateBodyTestId, bodyValidate]
    cases validateDiscoveryVersion _ data.applicationProtocolMajor
        data.applicationProtocolMinor with
    | error failure => rfl
    | ok _ => rfl

theorem error_agrees (hinit : Initialized context) (hchecked : envelope.Checked)
    {storage : UsableStorage} (hroom : Target.sizeMax ≤ storage.room)
    (htype : envelope.type = .error) :
    validatePayload context envelope payload
      = decodePayload context envelope payload storage.1 := by
  obtain ⟨protocolMajor, protocolMinor, hasTestId, testId, type, subtype, payloadLength⟩ := envelope
  obtain rfl : type = .error := htype
  refine scanned_agrees hinit hchecked hroom (errorScan context payload)
    (fun failure h => ⟨h, ?_⟩) fun size h => ?_
  · dsimp only [bodyDecode]
    rw [errorDecode, h]
    rfl
  · obtain ⟨data, hdata⟩ := exists_errorPayload h
    refine ⟨.error data, rfl, hdata, ?_⟩
    unfold validatePayload
    dsimp only [payloadStorageSize, validateEncodedPayload, validateDiscoveryEnvelopeBody,
      bodyValidate]
    rw [errorScan_payload hdata, ok_bind, validateEncodedError_payload hdata]
    cases validateBodyTestId hasTestId (.error data) with
    | error failure => rfl
    | ok _ => rfl

/-- A Run Report is sized by its scan and then parsed; its typed validation adds nothing. -/
theorem runReport_agrees (hinit : Initialized context) (hchecked : envelope.Checked)
    {storage : UsableStorage} (hroom : Target.sizeMax ≤ storage.room)
    (htype : envelope.type = .runReport) :
    validatePayload context envelope payload
      = decodePayload context envelope payload storage.1 := by
  obtain ⟨protocolMajor, protocolMinor, hasTestId, testId, type, subtype, payloadLength⟩ := envelope
  obtain rfl : type = .runReport := htype
  unfold validatePayload
  dsimp only [payloadStorageSize, validateEncodedPayload]
  cases hscan : runReportScan context payload with
  | error failure =>
      rw [decodePayload]
      dsimp only [bodyDecode]
      rw [runReportDecode, hscan]
      rfl
  | ok required =>
      rw [ok_bind]
      cases hparse : runReportParse context payload with
      | error failure =>
          obtain ⟨size, -, -, -, rfl⟩ := runReportScan_eq_ok hscan
          have hsize := size.toNat_lt
          have hfits : size.toNat ≤ storage.room :=
            (le_sizeMax (by omega)).trans hroom
          rw [decodePayload]
          dsimp only [bodyDecode]
          rw [runReportDecode, hscan, ok_bind, if_neg, hparse]
          · rfl
          · rintro (hgt | ⟨hne, hisNull⟩)
            · exact Nat.not_lt.mpr hfits hgt
            · exact hne (zero_of_null hfits hisNull)
      | ok data =>
          have hdata := (runReportParse_iff hinit).mp hparse
          obtain rfl := Except.ok.inj ((runReportScan_payload hinit hdata).symm.trans hscan)
          have hdecode := @decodePayload_eq _ _ _ payload hinit hchecked storage hroom
            (.runReport data) rfl hdata
          obtain ⟨_, _, -, -, -, hvalid, -⟩ := hdata
          rw [hdecode]
          dsimp only [validateDiscoveryEnvelopeBody, validateBodyTestId, bodyValidate]
          rw [hvalid]
          rfl

/-- Behind an envelope that does not announce a Test Configuration, validation ends as
    decoding does. -/
theorem validatePayload_agrees (hinit : Initialized context) (hchecked : envelope.Checked)
    {storage : UsableStorage} (hroom : Target.sizeMax ≤ storage.room)
    (htype : envelope.type ≠ .testConfiguration) :
    validatePayload context envelope payload
      = decodePayload context envelope payload storage.1 := by
  obtain ⟨protocolMajor, protocolMinor, hasTestId, testId, type, subtype, payloadLength⟩ := envelope
  cases type with
  | testInstruction | executionControl | globalControl | finalizeTestUpload | testResult
  | rigStatus | arbitraryControl =>
      exact plain_agrees hinit (fun _ => rfl) (fun _ => rfl) rfl
        fun _ h => bodyDecode_of_length (by simp) h
  | systemInfoRequest => exact systemInfoRequest_agrees hinit hchecked hroom rfl
  | response => exact response_agrees hinit hchecked hroom rfl
  | updateInstruction => exact updateInstruction_agrees hinit hchecked hroom rfl
  | variableTestResult => exact variableTestResult_agrees hinit hchecked hroom rfl
  | arbitraryData => exact arbitraryData_agrees hinit hchecked hroom rfl
  | systemInfoResponse => exact systemInfoResponse_agrees hinit hchecked hroom rfl
  | error => exact error_agrees hinit hchecked hroom rfl
  | runReport => exact runReport_agrees hinit hchecked hroom rfl
  | testConfiguration => exact absurd rfl htype

end

end

end HilRigProtocol.Application
