/-
  Calls that stay within bounds.

  A fault is an access outside the bytes or the storage of a call, a size that wraps
  without a check, or `INTERNAL_ERROR`. A call is `Contained` when it does not end in
  one. The readers take a fixed number of bytes, the validators of typed bodies are
  contained whatever the body is, if its pointers are not dangling.
-/
import HilRigProtocol.Application.Records
import HilRigProtocol.Library.Avoids

namespace HilRigProtocol.Application

open Library Library.Reader

/-- The failures that no input may cause. -/
def Failure.IsFault : Failure → Prop
  | .outOfBounds => True
  | .status s => s = .internalError

/-- The call does not end in a fault. -/
abbrev Contained {α : Type} (r : Result α) : Prop := Avoids Failure.IsFault r

/-- The call fails with `VALIDATION_FAILED` only. -/
abbrev OnlyInvalid {α : Type} (r : Result α) : Prop :=
  Avoids (fun failure => failure ≠ .status .validationFailed) r

/-! ## Rules -/

section
variable {α β : Type}

@[simp] theorem avoids_fail {bad : Failure → Prop} {s : Status} :
    Avoids bad (fail s : Result α) ↔ ¬ bad (.status s) := by
  constructor
  · intro h
    exact h _ rfl
  · intro h
    exact Avoids.error h

@[simp] theorem isFault_status {s : Status} :
    (Failure.status s).IsFault ↔ s = .internalError := Iff.rfl

theorem contained_ok (a : α) : Contained (.ok a : Result α) := Avoids.ok a

theorem contained_fail {s : Status} (h : s ≠ .internalError) : Contained (fail s : Result α) :=
  avoids_fail.mpr h

theorem OnlyInvalid.contained {r : Result α} (h : OnlyInvalid r) : Contained r := by
  refine h.mono fun failure hfault => ?_
  rintro rfl
  exact absurd hfault (by simp)

@[simp] theorem onlyInvalid_okIf (condition : Bool) : OnlyInvalid (okIf condition) := by
  simp [okIf]

@[simp] theorem contained_okIf (condition : Bool) : Contained (okIf condition) :=
  (onlyInvalid_okIf condition).contained

theorem contained_guard {c : Prop} [Decidable c] {s : Status} {y : Result α}
    (hs : s ≠ .internalError) (hy : ¬ c → Contained y) :
    Contained (if c then fail s else y) :=
  .ite (fun _ => contained_fail hs) hy

theorem contained_checked {s : Status} (hs : s ≠ .internalError) (x : Option α) :
    Contained (checked s x) := by
  cases x with
  | none => exact contained_fail hs
  | some a => exact contained_ok a

/-- A step that succeeds. -/
theorem contained_bind_ok {x : Result α} {a : α} {f : α → Result β} (hx : x = .ok a)
    (hf : Contained (f a)) : Contained (x >>= f) := by
  rw [hx]
  exact hf

theorem Contained.ne_outOfBounds {r : Result α} (h : Contained r) : r ≠ .error .outOfBounds :=
  fun hr => h _ hr trivial

end

/-! ## Readers -/

theorem takes_u16 : Takes readU16Le 2 :=
  takes_byte.bind fun _ => takes_byte.bind fun _ => takes_pure _

theorem takes_u32 : Takes readU32Le 4 :=
  takes_byte.bind fun _ => takes_byte.bind fun _ => takes_byte.bind fun _ =>
    takes_byte.bind fun _ => takes_pure _

theorem takes_u64 : Takes readU64Le 8 :=
  takes_u32.bind fun _ => takes_u32.bind fun _ => takes_pure _

theorem takes_enum : Takes readEnum 1 := takes_byte.bind fun _ => takes_pure _

theorem takes_bytes (n : Nat) : Takes (vector byte n) n := by
  have h := takes_byte.vector n
  rw [Nat.mul_one] at h
  exact h

/-- A reader that has the bytes it takes in front of it. -/
theorem read_takes {α : Type} {r : Reader α} {n : Nat} (h : Takes r n) {payload : List UInt8}
    (hlen : n ≤ payload.length) :
    ∃ value, read r payload = .ok (value, payload.drop n) := by
  obtain ⟨value, hvalue⟩ := h payload hlen
  refine ⟨value, ?_⟩
  unfold read
  rw [hvalue]

theorem byteAt_of_lt {payload : List UInt8} {offset : Nat} (h : offset < payload.length) :
    ∃ b, byteAt payload offset = .ok b := by
  refine ⟨payload[offset], ?_⟩
  unfold byteAt
  rw [List.getElem?_eq_getElem h]

/-! ## Validators -/

@[simp] theorem onlyInvalid_byteSpanValidate (span : ByteSpan) (maxAllowedSize : Nat) :
    OnlyInvalid (byteSpanValidate span maxAllowedSize) := by
  simp [byteSpanValidate]

theorem onlyInvalid_byteSpanU8Validate (context : Context) (span : ByteSpan) :
    OnlyInvalid (byteSpanU8Validate context span) :=
  onlyInvalid_byteSpanValidate span _

@[simp] theorem contained_byteSpanU8Validate (context : Context) (span : ByteSpan) :
    Contained (byteSpanU8Validate context span) :=
  (onlyInvalid_byteSpanU8Validate context span).contained

theorem avoids_validateEach {α : Type} {bad : Failure → Prop} {validator : α → Result Unit}
    (h : ∀ x, Avoids bad (validator x)) (xs : List α) :
    Avoids bad (validateEach validator xs) := by
  induction xs with
  | nil => exact .ok ()
  | cons x xs ih => exact (h x).bind fun _ _ => ih

theorem contained_each {α : Type} {validator : α → Result Unit}
    (h : ∀ x, OnlyInvalid (validator x)) (xs : List α) : Contained (validateEach validator xs) :=
  OnlyInvalid.contained (avoids_validateEach h xs)

theorem onlyInvalid_digitalInputConfigValidate (data : DigitalInputConfig) :
    OnlyInvalid (digitalInputConfigValidate data) := by
  simp [digitalInputConfigValidate]

theorem onlyInvalid_digitalOutputConfigValidate (data : DigitalOutputConfig) :
    OnlyInvalid (digitalOutputConfigValidate data) := by
  simp [digitalOutputConfigValidate]

theorem onlyInvalid_analogInputConfigValidate (data : AnalogInputConfig) :
    OnlyInvalid (analogInputConfigValidate data) :=
  onlyInvalid_okIf _

theorem onlyInvalid_analogOutputConfigValidate (data : AnalogOutputConfig) :
    OnlyInvalid (analogOutputConfigValidate data) :=
  onlyInvalid_okIf _

theorem onlyInvalid_pwmInputConfigValidate (data : PwmInputConfig) :
    OnlyInvalid (pwmInputConfigValidate data) := by
  simp [pwmInputConfigValidate]

theorem onlyInvalid_pwmOutputConfigValidate (data : PwmOutputConfig) :
    OnlyInvalid (pwmOutputConfigValidate data) := by
  simp [pwmOutputConfigValidate]

theorem onlyInvalid_canConfigValidate (data : CanConfig) :
    OnlyInvalid (canConfigValidate data) := by
  simp [canConfigValidate]

theorem onlyInvalid_spiConfigValidate (data : SpiConfig) :
    OnlyInvalid (spiConfigValidate data) := by
  simp [spiConfigValidate]

theorem onlyInvalid_uartConfigValidate (data : UartConfig) :
    OnlyInvalid (uartConfigValidate data) := by
  simp [uartConfigValidate]

theorem contained_i2cConfigValidate (data : I2cConfig) : Contained (i2cConfigValidate data) := by
  simp [i2cConfigValidate, (onlyInvalid_okIf _).contained]

theorem contained_testConfigurationValidate (context : Context) (data : TestConfiguration) :
    Contained (testConfigurationValidate context data) := by
  unfold testConfigurationValidate
  refine contained_guard (by decide) fun _ => contained_guard (by decide) fun _ =>
    contained_guard (by decide) fun _ => ?_
  refine (contained_byteSpanU8Validate _ _).bind fun _ _ => ?_
  refine (contained_each onlyInvalid_digitalInputConfigValidate _).bind fun _ _ => ?_
  refine (contained_each onlyInvalid_digitalOutputConfigValidate _).bind fun _ _ => ?_
  refine (contained_each onlyInvalid_analogInputConfigValidate _).bind fun _ _ => ?_
  refine (contained_each onlyInvalid_analogOutputConfigValidate _).bind fun _ _ => ?_
  refine (contained_each onlyInvalid_pwmInputConfigValidate _).bind fun _ _ => ?_
  refine (contained_each onlyInvalid_pwmOutputConfigValidate _).bind fun _ _ => ?_
  refine (contained_each onlyInvalid_canConfigValidate _).bind fun _ _ => ?_
  refine (contained_each onlyInvalid_spiConfigValidate _).bind fun _ _ => ?_
  refine (contained_each onlyInvalid_uartConfigValidate _).bind fun _ _ => ?_
  exact avoids_validateEach contained_i2cConfigValidate _

theorem contained_systemInfoRequestValidate (context : Context) (data : SystemInfoRequest) :
    Contained (systemInfoRequestValidate context data) := by
  simp [systemInfoRequestValidate]

theorem contained_systemInfoResponseValidate (context : Context) (data : SystemInfoResponse) :
    Contained (systemInfoResponseValidate context data) := by
  unfold systemInfoResponseValidate
  refine contained_guard (by decide) fun _ => contained_guard (by decide) fun _ => ?_
  exact (contained_byteSpanU8Validate _ _).bind fun _ _ => contained_byteSpanU8Validate _ _

theorem contained_testInstructionsValidate (context : Context) (data : TestInstruction) :
    Contained (testInstructionsValidate context data) := by
  unfold testInstructionsValidate
  refine contained_guard (by decide) fun _ => contained_guard (by decide) fun _ => ?_
  exact (contained_each (fun _ => onlyInvalid_okIf _) _).bind fun _ _ =>
    contained_each (fun _ => onlyInvalid_okIf _) _

theorem contained_testResultValidate (context : Context) (data : TestResult) :
    Contained (testResultValidate context data) := by
  unfold testResultValidate
  refine contained_guard (by decide) fun _ => contained_guard (by decide) fun _ => ?_
  refine (contained_each (fun _ => onlyInvalid_okIf _) _).bind fun _ _ => ?_
  exact (contained_each (fun _ => onlyInvalid_okIf _) _).bind fun _ _ => contained_okIf _

theorem contained_executionControlValidate (context : Context) (data : ExecutionControl) :
    Contained (executionControlValidate context data) := by
  simp [executionControlValidate]

theorem contained_globalControlValidate (context : Context) (data : GlobalControl) :
    Contained (globalControlValidate context data) := by
  simp [globalControlValidate]

theorem contained_finalizeTestUploadValidate (context : Context) (data : FinalizeTestUpload) :
    Contained (finalizeTestUploadValidate context data) := by
  simp [finalizeTestUploadValidate]

theorem contained_responseValidate (context : Context) (data : Response) :
    Contained (responseValidate context data) := by
  simp [responseValidate]

theorem contained_errorValidate (context : Context) (data : Error) :
    Contained (errorValidate context data) := by
  simp [errorValidate]

@[simp] theorem contained_failureValidate (source stage reason : Int) :
    Contained (failureValidate source stage reason) := by
  simp [failureValidate]

theorem contained_rigStatusValidate (context : Context) (data : RigStatus) :
    Contained (rigStatusValidate context data) := by
  simp [rigStatusValidate]

theorem contained_runReportValidate (context : Context) (data : RunReport) :
    Contained (runReportValidate context data) := by
  unfold runReportValidate
  refine contained_guard (by decide) fun _ => contained_guard (by decide) fun _ =>
    contained_guard (by decide) fun _ => contained_guard (by decide) fun _ => ?_
  refine (contained_failureValidate _ _ _).bind fun _ _ => ?_
  refine contained_guard (by decide) fun _ => contained_guard (by decide) fun _ =>
    contained_guard (by decide) fun _ => contained_guard (by decide) fun _ =>
    contained_guard (by decide) fun _ => contained_guard (by decide) fun _ =>
    contained_guard (by decide) fun _ => ?_
  exact contained_byteSpanU8Validate _ _

theorem contained_arbitraryControlValidate (context : Context) (data : ArbitraryControl) :
    Contained (arbitraryControlValidate context data) := by
  simp [arbitraryControlValidate]

theorem contained_arbitraryDataValidate (context : Context) (data : ArbitraryData) :
    Contained (arbitraryDataValidate context data) := by
  simp [arbitraryDataValidate]

/-! ## Records -/

theorem contained_digitalBankPayloadValidate (channel : UInt8) {span : ByteSpan}
    (hspan : span.elements.length = span.count) :
    Contained (digitalBankPayloadValidate channel span) := by
  unfold digitalBankPayloadValidate
  refine contained_guard (by decide) fun h => ?_
  obtain ⟨mask, hmask⟩ := @read_takes _ _ _ takes_u16 span.elements (by omega)
  exact contained_bind_ok hmask (contained_okIf _)

theorem contained_pwmPayloadValidate (channel : UInt8) (maxChannels : Nat) {span : ByteSpan}
    (hspan : span.elements.length = span.count) :
    Contained (pwmPayloadValidate channel maxChannels span) := by
  unfold pwmPayloadValidate
  refine contained_guard (by decide) fun h => ?_
  obtain ⟨periodNs, hperiod⟩ := @read_takes _ _ _ takes_u32 span.elements (by omega)
  obtain ⟨duty, hduty⟩ := @read_takes _ _ _ takes_u16 (span.elements.drop 4)
    (by rw [List.length_drop]; omega)
  exact contained_bind_ok hperiod (contained_bind_ok hduty (contained_okIf _))

/-- The frames that are left are there. -/
theorem contained_canFramesValidate {frames : Nat} {data : List UInt8}
    (h : 12 * frames ≤ data.length) : Contained (canFramesValidate frames data) := by
  induction frames generalizing data with
  | zero => exact contained_ok ()
  | succ frames ih =>
      obtain ⟨canId, hcanId⟩ := @read_takes _ _ _ takes_u16 data (by omega)
      obtain ⟨dlc, hdlc⟩ := @byteAt_of_lt data 2 (by omega)
      obtain ⟨res, hres⟩ := @byteAt_of_lt data 11 (by omega)
      refine contained_bind_ok hcanId (contained_bind_ok hdlc (contained_bind_ok hres ?_))
      refine contained_guard (by decide) fun _ => ih ?_
      rw [List.length_drop]
      omega

theorem contained_canPayloadValidate (channel : UInt8) {span : ByteSpan}
    (hspan : span.elements.length = span.count) :
    Contained (canPayloadValidate channel span) := by
  unfold canPayloadValidate
  exact contained_guard (by decide) fun _ => contained_canFramesValidate (by omega)

/-- The packet lengths that are left are there, and their sum fits 16 bits. -/
theorem contained_spiPacketLengthSum {packets : Nat} {lengths : List UInt8} {total : Nat}
    (h : packets ≤ lengths.length) (htotal : total + 255 * packets ≤ 0xFFFF) :
    Contained (spiPacketLengthSum packets lengths total) := by
  induction packets generalizing lengths total with
  | zero => exact contained_ok total
  | succ packets ih =>
      obtain ⟨packetLength, hlength⟩ := @byteAt_of_lt lengths 0 (by omega)
      have hlt := packetLength.toNat_lt
      refine contained_bind_ok hlength (contained_guard (by decide) fun _ => ?_)
      refine contained_bind_ok (addSize16_of_le (by omega)) (ih ?_ (by omega))
      rw [List.length_drop]
      omega

theorem contained_spiPayloadValidate (channel : UInt8) {span : ByteSpan}
    (hspan : span.elements.length = span.count) (hcount : span.count ≠ 0) :
    Contained (spiPayloadValidate channel span) := by
  unfold spiPayloadValidate
  refine contained_guard (by decide) fun _ => ?_
  obtain ⟨packetCount, hpackets⟩ := @byteAt_of_lt span.elements 0 (by omega)
  have hlt := packetCount.toNat_lt
  refine contained_bind_ok hpackets (contained_guard (by decide) fun h => ?_)
  refine contained_bind_ok (subSize_of_le (by omega))
    (contained_bind_ok (subSize_of_le (by omega)) ?_)
  refine (contained_spiPacketLengthSum ?_ (by omega)).bind fun _ _ => contained_okIf _
  rw [List.length_drop]
  omega

/-- The mark table has an entry for every type that passes its bound. -/
theorem contained_recordPairMark (seen : List UInt16) (peripheralType : Int) (channel : UInt8) :
    Contained (recordPairMark seen peripheralType channel) := by
  unfold recordPairMark
  refine contained_guard (by decide) fun h => ?_
  have hindex : peripheralType.toNat < seen.length := by omega
  dsimp only
  rw [List.getElem?_eq_getElem hindex]
  exact contained_guard (by decide) fun _ => contained_ok _

/-- What the two field validators check first. -/
theorem spanInMemory {span : ByteSpan} {maxAllowedSize : Nat}
    (h : ¬ (byteSpanValidate span maxAllowedSize ≠ .ok () ∨ span.count = 0)) :
    span.elements.length = span.count ∧ span.count ≠ 0 := by
  rw [not_or, not_not, byteSpanValidate_eq_ok] at h
  exact ⟨(Counted.contents_eq h.1.2).2, h.2⟩

theorem contained_logicalOperationFieldsValidate (context : Context) (operation : Record) :
    Contained (logicalOperationFieldsValidate context operation) := by
  unfold logicalOperationFieldsValidate
  refine contained_guard (by decide) fun h => ?_
  obtain ⟨hspan, hcount⟩ := spanInMemory h
  refine .ite (fun _ => contained_digitalBankPayloadValidate _ hspan) fun _ => ?_
  refine .ite (fun _ => contained_okIf _) fun _ => ?_
  refine .ite (fun _ => contained_pwmPayloadValidate _ _ hspan) fun _ => ?_
  refine .ite (fun _ => contained_okIf _) fun _ => ?_
  refine .ite (fun _ => contained_spiPayloadValidate _ hspan hcount) fun _ => ?_
  refine .ite (fun _ => contained_canPayloadValidate _ hspan) fun _ => ?_
  exact contained_guard (by decide) fun _ => contained_fail (by decide)

theorem contained_capturedRecordFieldsValidate (context : Context) (record : Record) :
    Contained (capturedRecordFieldsValidate context record) := by
  unfold capturedRecordFieldsValidate
  refine contained_guard (by decide) fun h => ?_
  obtain ⟨hspan, hcount⟩ := spanInMemory h
  refine .ite (fun _ => contained_digitalBankPayloadValidate _ hspan) fun _ => ?_
  refine .ite (fun _ => contained_okIf _) fun _ => ?_
  refine .ite (fun _ => contained_pwmPayloadValidate _ _ hspan) fun _ => ?_
  refine .ite (fun _ => contained_okIf _) fun _ => ?_
  refine .ite (fun _ => contained_okIf _) fun _ => ?_
  refine .ite (fun _ => contained_canPayloadValidate _ hspan) fun _ => ?_
  exact contained_guard (by decide) fun _ => contained_fail (by decide)

theorem contained_recordsValidate {fieldsValidate : Record → Result Unit}
    (h : ∀ record, Contained (fieldsValidate record)) (seen : List UInt16)
    (records : List Record) : Contained (recordsValidate fieldsValidate seen records) := by
  induction records generalizing seen with
  | nil => exact contained_ok ()
  | cons record records ih =>
      exact (contained_recordPairMark _ _ _).bind fun seen _ => (h record).bind fun _ _ => ih seen

theorem contained_updateInstructionValidate (context : Context) (data : UpdateInstruction) :
    Contained (updateInstructionValidate context data) := by
  unfold updateInstructionValidate
  refine contained_guard (by decide) fun _ => contained_guard (by decide) fun _ =>
    contained_guard (by decide) fun _ => contained_guard (by decide) fun _ => ?_
  exact contained_recordsValidate (contained_logicalOperationFieldsValidate context) _ _

theorem contained_variableTestResultValidate (context : Context) (data : VariableTestResult) :
    Contained (variableTestResultValidate context data) := by
  unfold variableTestResultValidate
  refine contained_guard (by decide) fun _ => contained_guard (by decide) fun _ =>
    contained_guard (by decide) fun _ => contained_guard (by decide) fun _ =>
    contained_guard (by decide) fun _ => contained_guard (by decide) fun _ => ?_
  exact contained_recordsValidate (contained_capturedRecordFieldsValidate context) _ _

end HilRigProtocol.Application
