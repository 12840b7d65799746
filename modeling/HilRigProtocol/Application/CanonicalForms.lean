/-
  Canonical messages and what the encoders write.

  Two messages with the same content may differ in bits that no byte carries: the pointer
  of an empty span or record array, and the Test ID that is absent. The canonical message
  has NULL and zero there, and is the one that decoding publishes. For a valid body the
  encoder writes a payload of the canonical body.
-/
import HilRigProtocol.Application.EncodedAgreement

namespace HilRigProtocol.Application

open Library Library.Reader

/-! ## Canonical messages -/

section
variable {α : Type} {limit : Nat}

/-- The array with this content that a decoder builds: NULL when it is empty. -/
def Counted.canonical (xs : Counted α limit) : Counted α limit :=
  if xs.count = 0 then .null 0 (Nat.zero_lt_of_lt xs.count_lt) else xs

theorem count_canonical (xs : Counted α limit) : xs.canonical.count = xs.count := by
  unfold Counted.canonical
  split
  case isTrue h => exact h.symm
  case isFalse => rfl

theorem canonical_ofVector {n : Nat} (xs : List.Vector α n) (fits : n < limit) :
    (Counted.ofVector xs fits).canonical = Counted.ofVector xs fits := by
  rw [Counted.canonical, count_ofVector]
  split
  case isTrue h =>
    rw [Counted.ofVector, if_pos h]
  case isFalse => rfl

/-- An array that may be read is the one built from its elements, up to the pointer. -/
theorem canonical_eq_ofVector {xs : Counted α limit} (h : ¬ (xs.count ≠ 0 ∧ xs.isNull)) :
    xs.canonical = .ofVector ⟨xs.elements, (Counted.contents_eq h).2⟩ xs.count_lt := by
  unfold Counted.canonical Counted.ofVector
  split
  case isTrue => rfl
  case isFalse hne =>
    cases xs with
    | null count fits => exact absurd ⟨hne, rfl⟩ h
    | array elements fits => rfl

end

/-- The body with its spans and record arrays in canonical form. -/
def Body.canonical : Body → Body
  | .systemInfoResponse data =>
      .systemInfoResponse { data with firmwareGitHash := data.firmwareGitHash.canonical
                                      diagnosticData := data.diagnosticData.canonical }
  | .testConfiguration data =>
      .testConfiguration { data with extensionData := data.extensionData.canonical }
  | .updateInstruction data =>
      .updateInstruction { data with operations := data.operations.canonical }
  | .variableTestResult data =>
      .variableTestResult { data with records := data.records.canonical }
  | .error data => .error { data with diagnosticData := data.diagnosticData.canonical }
  | .runReport data => .runReport { data with extensionData := data.extensionData.canonical }
  | .arbitraryData data => .arbitraryData { data with payload := data.payload.canonical }
  | body => body

/-- The message with the same content that a decoder publishes. -/
def Message.canonical (message : Message) : Message where
  subtype := message.subtype
  hasTestId := message.hasTestId
  testId := if message.hasTestId = 0 then List.Vector.replicate 16 0 else message.testId
  body := message.body.canonical

theorem type_canonical (body : Body) : body.canonical.type = body.type := by
  cases body <;> rfl

/-! ## What decoders publish -/

section
variable {context : Context} {payload : List UInt8}

theorem SpanForm.canonical {span : ByteSpan} {form : List UInt8} (h : SpanForm span form) :
    span.canonical = span := by
  obtain ⟨size, bytes, rfl, -⟩ := h
  exact canonical_ofVector _ _

theorem canonical_wireRecords (records : List WireRecord) (fits : records.length < 256) :
    (wireRecords records fits).canonical = wireRecords records fits :=
  canonical_ofVector _ _

/-- A body off the wire is canonical. -/
theorem Body.Payload.canonical {body : Body} (h : body.Payload context payload) :
    body.canonical = body := by
  cases body with
  | systemInfoResponse data =>
      obtain ⟨_, _, _, -, hdiagnostic, hgitHash, -⟩ := h
      dsimp only [Body.canonical]
      rw [hdiagnostic.canonical, hgitHash.canonical]
  | testConfiguration data =>
      obtain ⟨_, _, -, hspan, -⟩ := h
      dsimp only [Body.canonical]
      rw [hspan.canonical]
  | updateInstruction data =>
      obtain ⟨records, hpayload, hdata⟩ := h
      dsimp only [Body.canonical]
      rw [hdata, canonical_wireRecords, ← hdata]
  | variableTestResult data =>
      obtain ⟨condition, records, hpayload, -, hdata⟩ := h
      dsimp only [Body.canonical]
      rw [hdata, canonical_wireRecords, ← hdata]
  | error data =>
      obtain ⟨_, _, -, hspan, -⟩ := h
      dsimp only [Body.canonical]
      rw [hspan.canonical]
  | runReport data =>
      obtain ⟨_, _, -, hspan, -⟩ := h
      dsimp only [Body.canonical]
      rw [hspan.canonical]
  | arbitraryData data =>
      obtain ⟨length, bytes, hdata, -⟩ := h
      dsimp only [Body.canonical]
      rw [hdata, canonical_ofVector, ← hdata]
  | _ => rfl

/-! ## What encoders write -/

theorem guard_eq_ok {α : Type} {c : Prop} [Decidable c] {s : Status} {r : Result α} {a : α} :
    (if c then fail s else r) = .ok a ↔ ¬ c ∧ r = .ok a := by
  split
  case isTrue h => simp [h, fail]
  case isFalse h => simp [h]

variable {capacity size : Nat}

theorem systemInfoRequest_encoded {data : SystemInfoRequest}
    (h : systemInfoRequestEncode data capacity = .ok (payload, size)) : data.Form payload := by
  simp only [systemInfoRequestEncode, guard_eq_ok, bind_eq_ok, checked_eq_ok, Except.ok.injEq,
    Prod.mk.injEq] at h
  obtain ⟨-, -, -, wireQuery, hquery, rfl, -⟩ := h
  exact ⟨wireQuery, hquery, rfl⟩

theorem testInstructions_encoded {data : TestInstruction}
    (h : testInstructionsEncode data capacity = .ok (payload, size)) : data.Form payload := by
  simp only [testInstructionsEncode, guard_eq_ok, bind_eq_ok, ofSize_eq_ok, Except.ok.injEq,
    Prod.mk.injEq] at h
  obtain ⟨-, _, ⟨rfl, -⟩, rfl, -⟩ := h
  rfl

theorem testResult_encoded {data : TestResult}
    (h : testResultEncode data capacity = .ok (payload, size)) : data.Form payload := by
  simp only [testResultEncode, guard_eq_ok, bind_eq_ok, checked_eq_ok, ofSize_eq_ok,
    Except.ok.injEq, Prod.mk.injEq] at h
  obtain ⟨-, wireCondition, hcondition, _, ⟨rfl, -⟩, rfl, -⟩ := h
  exact ⟨wireCondition, hcondition, rfl⟩

theorem executionControl_encoded {data : ExecutionControl}
    (h : executionControlEncode data capacity = .ok (payload, size)) : data.Form payload := by
  simp only [executionControlEncode, guard_eq_ok, bind_eq_ok, checked_eq_ok, Except.ok.injEq,
    Prod.mk.injEq] at h
  obtain ⟨-, wireCommand, hcommand, rfl, -⟩ := h
  exact ⟨wireCommand, hcommand, rfl⟩

theorem globalControl_encoded {data : GlobalControl}
    (h : globalControlEncode data capacity = .ok (payload, size)) : data.Form payload := by
  simp only [globalControlEncode, guard_eq_ok, bind_eq_ok, checked_eq_ok, Except.ok.injEq,
    Prod.mk.injEq] at h
  obtain ⟨-, wireCommand, hcommand, rfl, -⟩ := h
  exact ⟨wireCommand, hcommand, rfl⟩

theorem finalizeTestUpload_encoded {data : FinalizeTestUpload}
    (h : finalizeTestUploadEncode context data capacity = .ok (payload, size)) :
    data.Form payload := by
  simp only [finalizeTestUploadEncode, guard_eq_ok, bind_eq_ok, Except.ok.injEq,
    Prod.mk.injEq] at h
  obtain ⟨-, _, -, rfl, -⟩ := h
  rfl

theorem response_encoded {data : Response}
    (h : responseEncode context data capacity = .ok (payload, size)) : data.Form payload := by
  simp only [responseEncode, guard_eq_ok, bind_eq_ok, checked_eq_ok, ofSize_eq_ok,
    Except.ok.injEq, Prod.mk.injEq] at h
  obtain ⟨_, -, -, scope, hscope, outcome, houtcome, reason, hreason, control, hcontrol,
    globalControl, hglobal, _, ⟨rfl, -⟩, rfl, -⟩ := h
  exact ⟨scope, outcome, reason, control, globalControl, hscope, houtcome, hreason, hcontrol,
    hglobal, rfl⟩

theorem arbitraryControl_encoded {data : ArbitraryControl}
    (h : arbitraryControlEncode data capacity = .ok (payload, size)) : data.Form payload := by
  simp only [arbitraryControlEncode, guard_eq_ok, Except.ok.injEq, Prod.mk.injEq] at h
  exact h.2.1.symm

/-- A failure reason that is defined is a 16-bit word. -/
theorem failureReason_word {source stage reason : Int}
    (h : failureValidate source stage reason = .ok ()) :
    reason = ((UInt16.ofInt reason).toNat : Int) := by
  simp only [failureValidate, guard_eq_ok] at h
  have hwords : ∀ reason ∈ failureReasons, reason = ((UInt16.ofInt reason).toNat : Int) := by
    decide
  exact hwords reason (List.contains_iff_mem.mp (not_not.mp h.2.1))

theorem rigStatus_encoded {data : RigStatus}
    (h : rigStatusEncode context data capacity = .ok (payload, size)) :
    data.Form payload ∧ data.schemaVersion = 1 := by
  simp only [rigStatusEncode, guard_eq_ok, bind_eq_ok, checked_eq_ok, Except.ok.injEq,
    Prod.mk.injEq] at h
  obtain ⟨_, hvalid, -, origin, horigin, state, hstate, source, hsource, stage, hstage, rfl, -⟩ := h
  obtain ⟨-, -, hfailure⟩ := rigStatusValidate_eq_ok hvalid
  refine ⟨⟨origin, state, source, stage, _, horigin, hstate, hsource, hstage,
    failureReason_word hfailure, rfl⟩, ?_⟩
  simp only [rigStatusValidate, guard_eq_ok] at hvalid
  exact not_not.mp hvalid.2.1

/-- A span whose length is a byte, on the wire. -/
theorem form_of_contents {span : ByteSpan} {bytes : List UInt8}
    (hnull : ¬ (span.count ≠ 0 ∧ span.isNull)) (hle : span.count ≤ 255)
    (h : span.contents = .ok bytes) :
    SpanForm span.canonical (UInt8.ofNat span.count :: bytes) := by
  obtain ⟨hcontents, hlen⟩ := Counted.contents_eq hnull
  obtain rfl := Except.ok.inj (hcontents.symm.trans h)
  have hsize : (UInt8.ofNat span.count).toNat = span.count :=
    UInt8.toNat_ofNat_of_lt' (Nat.lt_succ_of_le hle)
  refine ⟨UInt8.ofNat span.count, ⟨span.elements, hlen.trans hsize.symm⟩, ?_, rfl⟩
  rw [canonical_eq_ofVector hnull]
  refine ofVector_congr ?_ _ _
  rfl

section
variable [Target]

/-- A span is encoded as its canonical form. -/
theorem form_of_byteSpanEncode {span : ByteSpan} {form : List UInt8}
    (h : byteSpanEncode span capacity = .ok form) : SpanForm span.canonical form := by
  simp only [byteSpanEncode, guard_eq_ok, bind_eq_ok] at h
  obtain ⟨hnull, required, -, -, hle, bytes, hbytes, h⟩ := h
  obtain rfl := Except.ok.inj h
  exact form_of_contents hnull (Nat.not_lt.mp hle) hbytes

theorem systemInfoResponse_encoded {data : SystemInfoResponse}
    (hvalid : systemInfoResponseValidate context data = .ok ())
    (h : systemInfoResponseEncode data capacity = .ok (payload, size)) :
    (Body.systemInfoResponse data).canonical.Payload context payload := by
  simp only [systemInfoResponseEncode, guard_eq_ok, bind_eq_ok, Except.ok.injEq,
    Prod.mk.injEq] at h
  obtain ⟨-, -, diagnostic, hdiagnostic, gitHash, hgitHash, rfl, -⟩ := h
  simp only [systemInfoResponseValidate, guard_eq_ok, bind_eq_ok] at hvalid
  obtain ⟨-, -, _, hgitHashValid, hdiagnosticValid⟩ := hvalid
  have hgitHashMax := (byteSpanU8Validate_eq_ok hgitHashValid).2.1
  have hdiagnosticMax := (byteSpanU8Validate_eq_ok hdiagnosticValid).2.1
  rw [← count_canonical] at hgitHashMax hdiagnosticMax
  exact ⟨_, diagnostic, gitHash, rfl, form_of_byteSpanEncode hdiagnostic,
    form_of_byteSpanEncode hgitHash, hdiagnosticMax, hgitHashMax, List.append_assoc _ _ _⟩

theorem testConfiguration_encoded {data : TestConfiguration}
    (hvalid : testConfigurationValidate context data = .ok ())
    (h : testConfigurationEncode data capacity = .ok (payload, size)) :
    (Body.testConfiguration data).canonical.Payload context payload := by
  simp only [testConfigurationEncode, guard_eq_ok, bind_eq_ok, ofSize_eq_ok, Except.ok.injEq,
    Prod.mk.injEq] at h
  obtain ⟨_, -, -, digitalIn, hdigitalIn, digitalOut, hdigitalOut, analogIn, hanalogIn, analogOut,
    hanalogOut, pwmIn, hpwmIn, pwmOut, hpwmOut, can, hcan, spi, hspi, uart, huart, i2c, hi2c,
    extension_, hextension, _, ⟨rfl, -⟩, rfl, -⟩ := h
  have hmax := (byteSpanU8Validate_eq_ok (testConfigurationValidate_eq_ok hvalid).1).2.1
  rw [← count_canonical] at hmax
  exact ⟨_, extension_, ⟨digitalIn, digitalOut, analogIn, analogOut, pwmIn, pwmOut, can, spi, uart,
    i2c, hdigitalIn, hdigitalOut, hanalogIn, hanalogOut, hpwmIn, hpwmOut, hcan, hspi, huart, hi2c,
    rfl⟩, form_of_byteSpanEncode hextension, hmax, rfl⟩

theorem error_encoded {data : Error} (h : errorEncode context data capacity = .ok (payload, size)) :
    (Body.error data).canonical.Payload context payload := by
  simp only [errorEncode, guard_eq_ok, bind_eq_ok, checked_eq_ok, ofSize_eq_ok, Except.ok.injEq,
    Prod.mk.injEq] at h
  obtain ⟨_, hvalid, _, -, -, wireCategory, hcategory, _, ⟨rfl, -⟩, span, hspan, _, ⟨rfl, -⟩, rfl,
    -⟩ := h
  obtain ⟨-, hspanValid⟩ := errorValidate_eq_ok hvalid
  have hmax := (byteSpanU8Validate_eq_ok hspanValid).2.1
  rw [← count_canonical] at hmax
  exact ⟨_, span, ⟨wireCategory, hcategory, rfl⟩, form_of_byteSpanEncode hspan, hmax, rfl⟩

omit [Target] in
@[simp] theorem byteSpanValidate_canonical (span : ByteSpan) (maxAllowedSize : Nat) :
    byteSpanValidate span.canonical maxAllowedSize = byteSpanValidate span maxAllowedSize := by
  unfold Counted.canonical
  split
  case isTrue h =>
    unfold byteSpanValidate
    rw [h]
    rfl
  case isFalse => rfl

omit [Target] in
@[simp] theorem byteSpanU8Validate_canonical (span : ByteSpan) :
    byteSpanU8Validate context span.canonical = byteSpanU8Validate context span :=
  byteSpanValidate_canonical span _

theorem runReport_encoded {data : RunReport}
    (h : runReportEncode context data capacity = .ok (payload, size)) :
    (Body.runReport data).canonical.Payload context payload := by
  simp only [runReportEncode, runReportSize, guard_eq_ok, bind_eq_ok, checked_eq_ok,
    Except.ok.injEq, Prod.mk.injEq] at h
  obtain ⟨_, ⟨_, hvalid, -⟩, -, runOutcome, hrun, executionOutcome, hexecution, resultStatus,
    hresult, source, hsource, stage, hstage, bytes, hbytes, rfl, -⟩ := h
  obtain ⟨-, -, -, hfailure, hspan⟩ := runReportValidate_eq_ok hvalid
  obtain ⟨hle, hmax, hnull⟩ := byteSpanU8Validate_eq_ok hspan
  rw [← count_canonical] at hmax
  refine ⟨_, _, ⟨runOutcome, executionOutcome, resultStatus, source, stage, _, hrun, hexecution,
    hresult, hsource, hstage, failureReason_word hfailure, rfl⟩,
    form_of_contents hnull hle hbytes, hmax, ?_, ?_⟩
  · rw [← hvalid]
    unfold runReportValidate
    dsimp only
    rw [byteSpanU8Validate_canonical]
    rfl
  · simp only [List.append_assoc]
    rfl

theorem arbitraryData_encoded {data : ArbitraryData}
    (h : arbitraryDataEncode context data capacity = .ok (payload, size)) :
    (Body.arbitraryData data).canonical.Payload context payload := by
  simp only [arbitraryDataEncode, arbitraryDataSize, guard_eq_ok, bind_eq_ok, checked_eq_ok,
    Except.ok.injEq, Prod.mk.injEq] at h
  obtain ⟨_, ⟨_, hvalid, -⟩, -, bytes, hbytes, rfl, -⟩ := h
  simp only [arbitraryDataValidate, guard_eq_ok, not_or] at hvalid
  obtain ⟨-, ⟨hmax, hnull⟩, -⟩ := hvalid
  obtain ⟨hcontents, hlen⟩ := Counted.contents_eq hnull
  obtain rfl := Except.ok.inj (hcontents.symm.trans hbytes)
  have hsize : (UInt16.ofNat data.payload.count).toNat = data.payload.count :=
    UInt16.toNat_ofNat_of_lt' data.payload.count_lt
  refine ⟨UInt16.ofNat data.payload.count, ⟨data.payload.elements, hlen.trans hsize.symm⟩, ?_, ?_,
    rfl⟩
  · refine (canonical_eq_ofVector hnull).trans (ofVector_congr ?_ _ _)
    rfl
  · rw [hsize]
    exact Nat.not_lt.mp hmax

omit [Target] in
/-- A record array that may be read holds the records of the wire. -/
theorem canonical_eq_wireRecords {records : Counted Record 256} {wires : List WireRecord}
    (hnull : ¬ (records.count ≠ 0 ∧ records.isNull))
    (hmap : wires.map WireRecord.toRecord = records.elements) (fits : wires.length < 256) :
    records.canonical = wireRecords wires fits := by
  refine (canonical_eq_ofVector hnull).trans (ofVector_congr ?_ _ _)
  exact hmap.symm

theorem updateInstruction_encoded (hinit : Initialized context) {data : UpdateInstruction}
    (hvalid : updateInstructionValidate context data = .ok ())
    (h : updateInstructionEncode data capacity = .ok (payload, size)) :
    (Body.updateInstruction data).canonical.Payload context payload := by
  obtain ⟨records, hmap, hpayload⟩ := updatePayload_of_encode hinit hvalid h
  obtain ⟨-, -, hsome, -⟩ := (updateInstructionValidate_iff hinit).mp hvalid
  have hnull : ¬ (data.operations.count ≠ 0 ∧ data.operations.isNull) := fun h => hsome (.inr h.2)
  exact ⟨records, hpayload, canonical_eq_wireRecords hnull hmap _⟩

theorem variableTestResult_encoded (hinit : Initialized context) {data : VariableTestResult}
    (hvalid : variableTestResultValidate context data = .ok ())
    (h : variableTestResultEncode data capacity = .ok (payload, size)) :
    (Body.variableTestResult data).canonical.Payload context payload := by
  obtain ⟨condition, records, hcondition, hmap, hpayload⟩ :=
    variablePayload_of_encode hinit hvalid h
  obtain ⟨-, -, -, -, hnull, -⟩ := (variableTestResultValidate_iff hinit).mp hvalid
  exact ⟨condition, records, hpayload, hcondition, canonical_eq_wireRecords hnull hmap _⟩

/-- What the encoder writes for a valid body is a payload of its canonical form. -/
theorem body_encoded (hinit : Initialized context) {body : Body}
    (hvalid : bodyValidate context body = .ok ())
    (h : bodyEncode context body capacity = .ok (payload, size)) :
    body.canonical.Payload context payload := by
  cases body with
  | systemInfoRequest data => exact systemInfoRequest_encoded h
  | systemInfoResponse data => exact systemInfoResponse_encoded hvalid h
  | testConfiguration data => exact testConfiguration_encoded hvalid h
  | testInstruction data => exact testInstructions_encoded h
  | updateInstruction data => exact updateInstruction_encoded hinit hvalid h
  | finalizeTestUpload data => exact finalizeTestUpload_encoded h
  | executionControl data => exact executionControl_encoded h
  | globalControl data => exact globalControl_encoded h
  | testResult data => exact testResult_encoded h
  | variableTestResult data => exact variableTestResult_encoded hinit hvalid h
  | response data => exact response_encoded h
  | error data => exact error_encoded h
  | rigStatus data => exact rigStatus_encoded h
  | runReport data => exact runReport_encoded h
  | arbitraryControl data => exact arbitraryControl_encoded h
  | arbitraryData data => exact arbitraryData_encoded h

omit [Target] in
/-- The canonical form of a valid body is valid. -/
theorem valid_canonical (hinit : Initialized context) {body : Body}
    (hvalid : bodyValidate context body = .ok ())
    (hpayload : body.canonical.Payload context payload) :
    bodyValidate context body.canonical = .ok () := by
  cases body with
  | systemInfoResponse data =>
      dsimp only [bodyValidate, Body.canonical]
      unfold systemInfoResponseValidate
      rw [byteSpanU8Validate_canonical, byteSpanU8Validate_canonical]
      exact hvalid
  | testConfiguration data =>
      dsimp only [bodyValidate, Body.canonical]
      unfold testConfigurationValidate
      rw [byteSpanU8Validate_canonical]
      exact hvalid
  | error data =>
      dsimp only [bodyValidate, Body.canonical]
      unfold errorValidate
      rw [byteSpanU8Validate_canonical]
      exact hvalid
  | updateInstruction data => exact UpdateInstruction.Payload.valid hinit hpayload
  | variableTestResult data => exact VariableTestResult.Payload.valid hinit hpayload
  | arbitraryData data => exact ArbitraryData.Payload.valid hinit hpayload
  | runReport data =>
      obtain ⟨_, _, -, -, -, hreport, -⟩ := hpayload
      exact hreport
  | _ => exact hvalid

end

/-! ## One payload -/

theorem SpanForm.unique {span : ByteSpan} {p q : List UInt8} (hp : SpanForm span p)
    (hq : SpanForm span q) : p = q :=
  hp.form_eq.1.trans hq.form_eq.1.symm

theorem TestConfiguration.Form.unique {data : TestConfiguration} {p q : List UInt8}
    (hp : data.Form p) (hq : data.Form q) : p = q := by
  obtain ⟨_, _, _, _, _, _, _, _, _, _, hdigitalIn, hdigitalOut, hanalogIn, hanalogOut, hpwmIn,
    hpwmOut, hcan, hspi, huart, hi2c, rfl⟩ := hp
  obtain ⟨_, _, _, _, _, _, _, _, _, _, hdigitalIn', hdigitalOut', hanalogIn', hanalogOut', hpwmIn',
    hpwmOut', hcan', hspi', huart', hi2c', rfl⟩ := hq
  rw [Except.ok.inj (hdigitalIn.symm.trans hdigitalIn'),
    Except.ok.inj (hdigitalOut.symm.trans hdigitalOut'),
    Except.ok.inj (hanalogIn.symm.trans hanalogIn'),
    Except.ok.inj (hanalogOut.symm.trans hanalogOut'), Except.ok.inj (hpwmIn.symm.trans hpwmIn'),
    Except.ok.inj (hpwmOut.symm.trans hpwmOut'), Except.ok.inj (hcan.symm.trans hcan'),
    Except.ok.inj (hspi.symm.trans hspi'), Except.ok.inj (huart.symm.trans huart'),
    Except.ok.inj (hi2c.symm.trans hi2c')]

theorem RunReport.Form.unique {data : RunReport} {reserved7 : UInt8} {reserved10 : UInt16}
    {p q : List UInt8} (hp : data.Form reserved7 reserved10 p)
    (hq : data.Form reserved7 reserved10 q) : p = q := by
  obtain ⟨_, _, _, _, _, reason, hrun, hexecution, hresult, hsource, hstage, hreason, rfl⟩ := hp
  obtain ⟨_, _, _, _, _, reason', hrun', hexecution', hresult', hsource', hstage', hreason', rfl⟩ :=
    hq
  have hsame : reason = reason' := by
    rw [hreason, Int.natCast_inj] at hreason'
    exact UInt16.toNat_inj.mp hreason'
  rw [Option.some.inj (hrun.symm.trans hrun'), Option.some.inj (hexecution.symm.trans hexecution'),
    Option.some.inj (hresult.symm.trans hresult'), Option.some.inj (hsource.symm.trans hsource'),
    Option.some.inj (hstage.symm.trans hstage'), hsame]

/-- A record array has one wire form. -/
theorem unique_forms {maxDataSize : Nat} {records records' : List WireRecord}
    {fits : records.length < 256} {fits' : records'.length < 256}
    (hsame : wireRecords records fits = wireRecords records' fits') {forms forms' : List UInt8}
    (h : Each (WireRecord.Form maxDataSize) records forms)
    (h' : Each (WireRecord.Form maxDataSize) records' forms') :
    records.length = records'.length ∧ forms = forms' := by
  have hcount := congrArg Counted.count hsame
  have helements := congrArg Counted.elements hsame
  rw [count_wireRecords, count_wireRecords] at hcount
  rw [elements_wireRecords, elements_wireRecords] at helements
  have hforms := (each_form_iff.mp h).2
  rw [helements] at hforms
  exact ⟨hcount, Except.ok.inj (hforms.symm.trans (each_form_iff.mp h').2)⟩

/-- A body has one payload. -/
theorem Body.Payload.unique {body : Body} {p q : List UInt8} (hp : body.Payload context p)
    (hq : body.Payload context q) : p = q := by
  cases body with
  | systemInfoRequest data =>
      obtain ⟨_, hquery, rfl⟩ := hp
      obtain ⟨_, hquery', rfl⟩ := hq
      rw [Option.some.inj (hquery.symm.trans hquery')]
  | systemInfoResponse data =>
      obtain ⟨_, _, _, hfront, hdiagnostic, hgitHash, -, -, rfl⟩ := hp
      obtain ⟨_, _, _, hfront', hdiagnostic', hgitHash', -, -, rfl⟩ := hq
      rw [hfront.trans hfront'.symm, hdiagnostic.unique hdiagnostic', hgitHash.unique hgitHash']
  | testConfiguration data =>
      obtain ⟨_, _, hfront, hspan, -, rfl⟩ := hp
      obtain ⟨_, _, hfront', hspan', -, rfl⟩ := hq
      rw [hfront.unique hfront', hspan.unique hspan']
  | testInstruction data => exact hp.trans hq.symm
  | updateInstruction data =>
      obtain ⟨records, hpayload, hdata⟩ := hp
      obtain ⟨records', hpayload', hdata'⟩ := hq
      obtain ⟨forms, heach, rfl⟩ := hpayload.layout
      obtain ⟨forms', heach', rfl⟩ := hpayload'.layout
      obtain ⟨hlen, hforms⟩ := unique_forms (hdata.symm.trans hdata') heach heach'
      rw [hlen, hforms]
  | finalizeTestUpload data => exact hp.trans hq.symm
  | executionControl data =>
      obtain ⟨_, hcommand, rfl⟩ := hp
      obtain ⟨_, hcommand', rfl⟩ := hq
      rw [Option.some.inj (hcommand.symm.trans hcommand')]
  | globalControl data =>
      obtain ⟨_, hcommand, rfl⟩ := hp
      obtain ⟨_, hcommand', rfl⟩ := hq
      rw [Option.some.inj (hcommand.symm.trans hcommand')]
  | testResult data =>
      obtain ⟨_, hcondition, rfl⟩ := hp
      obtain ⟨_, hcondition', rfl⟩ := hq
      rw [Option.some.inj (hcondition.symm.trans hcondition')]
  | variableTestResult data =>
      obtain ⟨condition, records, hpayload, hcondition, hdata⟩ := hp
      obtain ⟨condition', records', hpayload', hcondition', hdata'⟩ := hq
      obtain ⟨forms, heach, rfl⟩ := hpayload.layout
      obtain ⟨forms', heach', rfl⟩ := hpayload'.layout
      obtain ⟨hlen, hforms⟩ := unique_forms (hdata.symm.trans hdata') heach heach'
      have hsame : condition = condition' := by
        rw [hcondition, Int.natCast_inj] at hcondition'
        exact UInt8.toNat_inj.mp hcondition'
      rw [hlen, hforms, hsame]
  | response data =>
      obtain ⟨_, _, _, _, _, hscope, houtcome, hreason, hcontrol, hglobal, rfl⟩ := hp
      obtain ⟨_, _, _, _, _, hscope', houtcome', hreason', hcontrol', hglobal', rfl⟩ := hq
      rw [Option.some.inj (hscope.symm.trans hscope'),
        Option.some.inj (houtcome.symm.trans houtcome'),
        Option.some.inj (hreason.symm.trans hreason'),
        Option.some.inj (hcontrol.symm.trans hcontrol'),
        Option.some.inj (hglobal.symm.trans hglobal')]
  | error data =>
      obtain ⟨_, _, ⟨_, hcategory, rfl⟩, hspan, -, rfl⟩ := hp
      obtain ⟨_, _, ⟨_, hcategory', rfl⟩, hspan', -, rfl⟩ := hq
      rw [Option.some.inj (hcategory.symm.trans hcategory'), hspan.unique hspan']
  | rigStatus data =>
      obtain ⟨⟨_, _, _, _, reason, horigin, hstate, hsource, hstage, hreason, rfl⟩, -⟩ := hp
      obtain ⟨⟨_, _, _, _, reason', horigin', hstate', hsource', hstage', hreason', rfl⟩, -⟩ := hq
      have hsame : reason = reason' := by
        rw [hreason, Int.natCast_inj] at hreason'
        exact UInt16.toNat_inj.mp hreason'
      rw [Option.some.inj (horigin.symm.trans horigin'), Option.some.inj (hstate.symm.trans hstate'),
        Option.some.inj (hsource.symm.trans hsource'), Option.some.inj (hstage.symm.trans hstage'),
        hsame]
  | runReport data =>
      obtain ⟨_, _, hfront, hspan, -, -, rfl⟩ := hp
      obtain ⟨_, _, hfront', hspan', -, -, rfl⟩ := hq
      rw [hfront.unique hfront', hspan.unique hspan']
  | arbitraryControl data => exact hp.trans hq.symm
  | arbitraryData data =>
      obtain ⟨length, bytes, hdata, -, rfl⟩ := hp
      obtain ⟨length', bytes', hdata', -, rfl⟩ := hq
      have hcount := congrArg Counted.count (hdata.symm.trans hdata')
      have helements := congrArg Counted.elements (hdata.symm.trans hdata')
      rw [count_ofVector, count_ofVector] at hcount
      rw [elements_ofVector, elements_ofVector] at helements
      rw [helements, UInt16.toNat_inj.mp hcount]

end

end HilRigProtocol.Application
