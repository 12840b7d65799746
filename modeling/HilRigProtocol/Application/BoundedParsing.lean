/-
  Parsing arbitrary bytes stays within bounds.

  Every step of the three entry points is contained: each read by the length check in
  front of it, each size by what the scan before it established, each write by the
  comparison of the scanned size with the capacity. A scan and the decoder behind it read
  the same bytes twice, so a decoder may rely on every check of its scan.
-/
import HilRigProtocol.Application.Containment
import HilRigProtocol.Application.StorageSize

namespace HilRigProtocol.Application

open Library Library.Reader

/-! ## Reading -/

section
variable {α β : Type}

/-- Reading a value for which there are enough bytes. -/
theorem contained_read {r : Reader α} {n : Nat} (h : Takes r n) {payload : List UInt8}
    {f : α × List UInt8 → Result β} (hlen : n ≤ payload.length)
    (hf : ∀ value rest, rest = payload.drop n → rest.length + n = payload.length →
      Contained (f (value, rest))) : Contained (read r payload >>= f) := by
  obtain ⟨value, hvalue⟩ := read_takes h hlen
  refine contained_bind_ok hvalue (hf value _ rfl ?_)
  rw [List.length_drop]
  omega

/-- Looking at a byte that is there. -/
theorem contained_byteAt {payload : List UInt8} {offset : Nat} {f : UInt8 → Result β}
    (h : offset < payload.length)
    (hf : ∀ b, byteAt payload offset = .ok b → Contained (f b)) :
    Contained (byteAt payload offset >>= f) := by
  obtain ⟨b, hb⟩ := byteAt_of_lt h
  exact contained_bind_ok hb (hf b hb)

end

/-- What a reader that succeeds leaves. -/
theorem rest_of_read {α : Type} {r : Reader α} {n : Nat} (h : Takes r n)
    {payload rest : List UInt8} {value : α} (hlen : n ≤ payload.length)
    (hread : read r payload = .ok (value, rest)) : rest = payload.drop n := by
  obtain ⟨_, hvalue⟩ := read_takes h hlen
  rw [hvalue] at hread
  exact (Prod.mk.inj (Except.ok.inj hread)).2.symm

/-- The byte at `n` is the first of those from there on. -/
theorem read_byteAt {payload : List UInt8} {n : Nat} {b : UInt8} :
    read byte (payload.drop n) = .ok (b, payload.drop (n + 1)) ↔ byteAt payload n = .ok b := by
  rw [read_eq_ok reads_byte, byteAt_eq_ok, ← List.head?_drop, ← List.drop_drop]
  cases payload.drop n with
  | nil => simp
  | cons c cs => simp [eq_comm]

theorem takes_digitalInputConfig : Takes digitalInputConfigDecode 2 :=
  takes_byte.bind fun _ => takes_enum.bind fun _ => takes_pure _

theorem takes_digitalOutputConfig : Takes digitalOutputConfigDecode 3 :=
  takes_byte.bind fun _ => takes_enum.bind fun _ => takes_byte.bind fun _ => takes_pure _

theorem takes_analogInputConfig : Takes analogInputConfigDecode 1 :=
  takes_byte.bind fun _ => takes_pure _

theorem takes_analogOutputConfig : Takes analogOutputConfigDecode 1 :=
  takes_byte.bind fun _ => takes_pure _

theorem takes_pwmInputConfig : Takes pwmInputConfigDecode 2 :=
  takes_byte.bind fun _ => takes_enum.bind fun _ => takes_pure _

theorem takes_pwmOutputConfig : Takes pwmOutputConfigDecode 8 :=
  takes_byte.bind fun _ => takes_enum.bind fun _ => takes_u32.bind fun _ =>
    takes_u16.bind fun _ => takes_pure _

theorem takes_canConfig : Takes canConfigDecode 9 :=
  takes_byte.bind fun _ => takes_u32.bind fun _ => takes_u16.bind fun _ =>
    takes_u16.bind fun _ => takes_pure _

theorem takes_spiConfig : Takes spiConfigDecode 10 :=
  takes_byte.bind fun _ => takes_u32.bind fun _ => takes_enum.bind fun _ =>
    takes_enum.bind fun _ => takes_enum.bind fun _ => takes_enum.bind fun _ =>
    takes_enum.bind fun _ => takes_pure _

theorem takes_uartConfig : Takes uartConfigDecode 11 :=
  takes_byte.bind fun _ => takes_u32.bind fun _ => takes_enum.bind fun _ =>
    takes_enum.bind fun _ => takes_enum.bind fun _ => takes_enum.bind fun _ =>
    takes_byte.bind fun _ => takes_byte.bind fun _ => takes_pure _

theorem takes_i2cConfig : Takes i2cConfigDecode 10 :=
  takes_byte.bind fun _ => takes_u32.bind fun _ => takes_enum.bind fun _ =>
    takes_u16.bind fun _ => takes_enum.bind fun _ => takes_enum.bind fun _ => takes_pure _

theorem takes_testConfiguration : Takes testConfigurationFields testConfigExtensionLengthOffset :=
  takes_u32.bind fun _ => takes_u32.bind fun _ => takes_u32.bind fun _ =>
    (takes_digitalInputConfig.vector 10).bind fun _ =>
    (takes_digitalOutputConfig.vector 10).bind fun _ =>
    (takes_analogInputConfig.vector 2).bind fun _ =>
    (takes_analogOutputConfig.vector 6).bind fun _ =>
    (takes_pwmInputConfig.vector 2).bind fun _ => (takes_pwmOutputConfig.vector 2).bind fun _ =>
    (takes_canConfig.vector 2).bind fun _ => (takes_spiConfig.vector 2).bind fun _ =>
    (takes_uartConfig.vector 2).bind fun _ => (takes_i2cConfig.vector 2).bind fun _ =>
    takes_pure _

theorem takes_systemInfoRequest :
    Takes systemInfoRequestFields systemInfoRequestFixedEncodeSize :=
  takes_byte.bind fun _ => takes_enum.bind fun _ => takes_u16.bind fun _ =>
    takes_u16.bind fun _ => takes_u16.bind fun _ => takes_pure _

theorem takes_systemInfoResponse : Takes systemInfoResponseFields 12 :=
  takes_u16.bind fun _ => takes_u16.bind fun _ => takes_u16.bind fun _ =>
    takes_u16.bind fun _ => takes_u16.bind fun _ => takes_u16.bind fun _ => takes_pure _

theorem takes_pwmValue : Takes pwmValueDecode 6 :=
  takes_u32.bind fun _ => takes_u16.bind fun _ => takes_pure _

theorem takes_testInstruction : Takes testInstructionFields testInstructionFixedPayloadSize :=
  takes_u32.bind fun _ => (takes_bytes 10).bind fun _ => (takes_u32.vector 6).bind fun _ =>
    (takes_pwmValue.vector 2).bind fun _ => takes_pure _

theorem takes_testResult : Takes testResultFields testResultFixedPayloadSize :=
  takes_u32.bind fun _ => (takes_bytes 10).bind fun _ => (takes_u32.vector 2).bind fun _ =>
    (takes_pwmValue.vector 2).bind fun _ => takes_enum.bind fun _ => takes_u32.bind fun _ =>
    takes_pure _

theorem takes_recordHeader : Takes recordHeader recordHeaderSize :=
  takes_enum.bind fun _ => takes_byte.bind fun _ => takes_u16.bind fun _ => takes_pure _

theorem takes_updateInstructionHeader :
    Takes updateInstructionHeader updateInstructionHeaderSize :=
  takes_u32.bind fun _ => takes_byte.bind fun _ => takes_byte.bind fun _ =>
    takes_u16.bind fun _ => takes_pure _

theorem takes_variableTestResultHeader :
    Takes variableTestResultHeader variableTestResultHeaderSize :=
  takes_u32.bind fun _ => takes_byte.bind fun _ => takes_enum.bind fun _ =>
    takes_byte.bind fun _ => takes_byte.bind fun _ => takes_u32.bind fun _ => takes_pure _

theorem takes_executionControl : Takes executionControlFields controlFixedEncodeSize :=
  takes_enum.bind fun _ => takes_u32.bind fun _ => takes_pure _

theorem takes_globalControl : Takes globalControlFields controlFixedEncodeSize :=
  takes_enum.bind fun _ => takes_u32.bind fun _ => takes_pure _

theorem takes_finalizeTestUpload : Takes finalizeTestUploadFields wireU32Size :=
  takes_u32.bind fun _ => takes_pure _

theorem takes_response : Takes responseFields responseFixedPayloadSize :=
  takes_enum.bind fun _ => takes_enum.bind fun _ => takes_enum.bind fun _ =>
    takes_u32.bind fun _ => takes_enum.bind fun _ => takes_enum.bind fun _ =>
    takes_u32.bind fun _ => takes_pure _

theorem takes_error : Takes errorFields errorDiagnosticLengthOffset :=
  takes_enum.bind fun _ => takes_byte.bind fun _ => takes_byte.bind fun _ =>
    takes_u32.bind fun _ => takes_u32.bind fun _ => takes_pure _

theorem takes_u16Enum : Takes readU16Enum 2 := takes_u16.bind fun _ => takes_pure _

theorem takes_rigStatus : Takes rigStatusFields rigStatusPayloadSize :=
  takes_u16.bind fun _ => takes_enum.bind fun _ => takes_enum.bind fun _ =>
    takes_u32.bind fun _ => takes_enum.bind fun _ => takes_enum.bind fun _ =>
    takes_u16Enum.bind fun _ => takes_pure _

theorem takes_runIsrTiming : Takes runIsrTimingDecode 24 :=
  takes_u32.bind fun _ => takes_u64.bind fun _ => takes_u32.bind fun _ =>
    takes_u32.bind fun _ => takes_u32.bind fun _ => takes_pure _

theorem takes_runInstructionBuffer : Takes runInstructionBufferDecode 12 :=
  takes_u32.bind fun _ => takes_u32.bind fun _ => takes_u32.bind fun _ => takes_pure _

theorem takes_runResultBuffer : Takes runResultBufferDecode 24 :=
  takes_u32.bind fun _ => takes_u32.bind fun _ => takes_u32.bind fun _ =>
    takes_u32.bind fun _ => takes_u32.bind fun _ => takes_u32.bind fun _ => takes_pure _

theorem takes_runFlashStatistics : Takes runFlashStatisticsDecode 84 :=
  takes_u32.bind fun _ => takes_u64.bind fun _ => takes_u64.bind fun _ =>
    takes_u32.bind fun _ => takes_u32.bind fun _ => takes_u64.bind fun _ =>
    takes_u64.bind fun _ => takes_u32.bind fun _ => takes_u32.bind fun _ =>
    takes_u64.bind fun _ => takes_u32.bind fun _ => takes_u32.bind fun _ =>
    takes_u64.bind fun _ => takes_u32.bind fun _ => takes_u32.bind fun _ => takes_pure _

theorem takes_runReport : Takes runReportFields runReportExtensionLengthOffset :=
  takes_u16.bind fun _ => takes_enum.bind fun _ => takes_enum.bind fun _ =>
    takes_enum.bind fun _ => takes_enum.bind fun _ => takes_enum.bind fun _ =>
    takes_byte.bind fun _ => takes_u16Enum.bind fun _ => takes_u16.bind fun _ =>
    takes_u32.bind fun _ => takes_u32.bind fun _ => takes_u32.bind fun _ =>
    takes_u32.bind fun _ => takes_u32.bind fun _ => takes_runIsrTiming.bind fun _ =>
    takes_runInstructionBuffer.bind fun _ => takes_runResultBuffer.bind fun _ =>
    takes_runFlashStatistics.bind fun _ => takes_pure _

theorem takes_arbitraryControl : Takes arbitraryControlFields arbitraryControlPayloadSize :=
  takes_u32.bind fun _ => takes_u32.bind fun _ => takes_pure _

theorem takes_arbitraryDataPrefix : Takes arbitraryDataPrefix arbitraryDataPrefixSize :=
  takes_u32.bind fun _ => takes_u16.bind fun _ => takes_pure _

/-! ## Fixed bodies -/

theorem contained_fixedBodyValidateSize {type : MessageType} {size : Nat} :
    Contained (fixedBodyValidateSize type size) := by
  cases type <;> simp [fixedBodyValidateSize]

/-- A body of fixed fields: the size check, and then the reader of as many bytes. -/
theorem contained_fixed {α β : Type} {fields : Reader α} {size : Nat} (h : Takes fields size)
    {payload : List UInt8} {next : α × List UInt8 → Result β}
    (hnext : ∀ value rest, rest.length + size = payload.length → payload.length = size →
      Contained (next (value, rest))) :
    Contained ((if payload.length = size then (.ok () : Result Unit) else fail .malformedMessage)
      >>= fun _ => read fields payload >>= next) := by
  refine Avoids.bind (by simp) fun _ hsize => ?_
  split at hsize
  case isTrue hlen =>
    exact contained_read h (Nat.le_of_eq hlen.symm) fun value rest _ hrest =>
      hnext value rest hrest hlen
  case isFalse => exact absurd hsize (fail_ne_ok _ _)

theorem contained_systemInfoRequestDecode (payload : List UInt8) :
    Contained (systemInfoRequestDecode payload) :=
  contained_fixed takes_systemInfoRequest fun _ _ _ _ => contained_ok _

theorem contained_testInstructionsDecode (payload : List UInt8) :
    Contained (testInstructionsDecode payload) := by
  refine contained_fixed takes_testInstruction fun _ rest hrest hlen => ?_
  dsimp only
  rw [if_neg (by omega)]
  exact contained_ok _

theorem contained_testResultDecode (payload : List UInt8) :
    Contained (testResultDecode payload) := by
  refine contained_fixed takes_testResult fun _ rest hrest hlen => ?_
  dsimp only
  rw [if_neg (by omega)]
  exact contained_ok _

theorem contained_executionControlDecode (payload : List UInt8) :
    Contained (executionControlDecode payload) :=
  contained_fixed takes_executionControl fun _ _ _ _ => contained_ok _

theorem contained_globalControlDecode (payload : List UInt8) :
    Contained (globalControlDecode payload) :=
  contained_fixed takes_globalControl fun _ _ _ _ => contained_ok _

theorem contained_finalizeTestUploadDecode (payload : List UInt8) :
    Contained (finalizeTestUploadDecode payload) :=
  contained_fixed takes_finalizeTestUpload fun _ _ _ _ => contained_ok _

theorem contained_responseDecode (payload : List UInt8) :
    Contained (responseDecode payload) := by
  refine contained_fixed takes_response fun _ rest hrest hlen => ?_
  dsimp only
  rw [if_neg (by omega)]
  exact contained_ok _

theorem contained_rigStatusDecode (payload : List UInt8) :
    Contained (rigStatusDecode payload) := by
  unfold rigStatusDecode
  refine contained_guard (by decide) fun hlen => ?_
  refine contained_read takes_rigStatus (by omega) fun data _ _ _ => ?_
  exact contained_guard (by decide) fun _ => contained_ok _

theorem contained_arbitraryControlDecode (payload : List UInt8) :
    Contained (arbitraryControlDecode payload) := by
  unfold arbitraryControlDecode
  refine contained_guard (by decide) fun hlen => ?_
  exact contained_read takes_arbitraryControl (by omega) fun _ _ _ _ => contained_ok _

/-! ## Spans -/

/-- A span that stays in the payload. -/
theorem contained_spanInPayload {β : Type} {size : UInt8} {payload : List UInt8}
    {f : ByteSpan × List UInt8 → Result β} (hlen : size.toNat ≤ payload.length)
    (hf : ∀ span, Contained (f (span, payload.drop size.toNat))) :
    Contained (spanInPayload size payload >>= f) := by
  obtain ⟨bytes, hbytes⟩ := read_takes (takes_bytes size.toNat) hlen
  refine contained_bind_ok (a := (.ofVector bytes (byte_fits size), _)) ?_
    (hf _)
  unfold spanInPayload
  rw [hbytes, ok_bind]

theorem contained_validateDiscoveryVersion (envelope : Envelope) (major minor : UInt16) :
    Contained (validateDiscoveryVersion envelope major minor) := by
  simp [validateDiscoveryVersion]

theorem contained_validateDiscoveryEnvelopeBody (envelope : Envelope) (body : Body) :
    Contained (validateDiscoveryEnvelopeBody envelope body) := by
  cases body <;> simp [validateDiscoveryEnvelopeBody, contained_validateDiscoveryVersion]

section
variable [Target]

theorem contained_byteSpanDecode {storage : UsableStorage} {offset : Nat}
    (h : offset ≤ storage.1.capacity) (payload : List UInt8) :
    Contained (byteSpanDecode storage.1 offset payload) := by
  unfold byteSpanDecode
  refine contained_bind_ok (subSize_of_le h) (contained_guard (by decide) fun hlen => ?_)
  refine contained_read takes_byte (by omega) fun size rest _ hrest => ?_
  have hlt := size.toNat_lt
  refine contained_bind_ok (checked_eq_ok.mpr (checkedAddSize_of_le (le_sizeMax (by omega)))) ?_
  refine contained_guard (by decide) fun hshort => contained_guard (by decide) fun hroom =>
    contained_guard (by decide) fun _ => ?_
  refine contained_read (takes_bytes _) (by omega) fun bytes _ _ _ => ?_
  have hcapacity : storage.room = storage.1.capacity := rfl
  exact contained_bind_ok (store_ok storage (by omega)) (contained_ok _)

/-- A span that was decoded fits behind the offset. -/
theorem used_of_byteSpanDecode {storage : Storage} {offset used : Nat} {payload rest : List UInt8}
    {span : ByteSpan} (h : byteSpanDecode storage offset payload = .ok (span, used, rest)) :
    used ≤ 255 ∧ offset + used ≤ storage.capacity := by
  unfold byteSpanDecode at h
  rw [bind_eq_ok] at h
  obtain ⟨capacity, hcapacity, h⟩ := h
  unfold subSize at hcapacity
  split at hcapacity
  case isFalse => exact absurd hcapacity nofun
  case isTrue hoffset =>
  obtain rfl := Except.ok.inj hcapacity
  split at h
  case isTrue => exact absurd h (fail_ne_ok _ _)
  rw [bind_eq_ok] at h
  obtain ⟨⟨size, _⟩, -, h⟩ := h
  rw [bind_eq_ok] at h
  obtain ⟨_, -, h⟩ := h
  split at h
  case isTrue => exact absurd h (fail_ne_ok _ _)
  split at h
  case isTrue => exact absurd h (fail_ne_ok _ _)
  case isFalse hfits =>
  split at h
  case isTrue => exact absurd h (fail_ne_ok _ _)
  rw [bind_eq_ok] at h
  obtain ⟨⟨_, _⟩, -, h⟩ := h
  rw [bind_eq_ok] at h
  obtain ⟨⟨⟩, -, h⟩ := h
  simp only [Except.ok.injEq, Prod.mk.injEq] at h
  obtain ⟨-, rfl, -⟩ := h
  have hlt := size.toNat_lt
  omega

/-! ## System Information Responses -/

theorem contained_systemInfoResponseScan (context : Context) (payload : List UInt8) :
    Contained (systemInfoResponseScan context payload) := by
  unfold systemInfoResponseScan
  refine contained_guard (by decide) fun hlen => ?_
  have hfixed : systemInfoResponseFixedEncodeSize = 14 := rfl
  refine contained_read (takes_bytes 12) (by omega) fun _ rest _ hrest => ?_
  refine contained_read takes_byte (by omega) fun diagnosticSize rest _ hrest => ?_
  refine contained_guard (by decide) fun hdiagnostic => contained_guard (by decide) fun _ => ?_
  refine contained_read (takes_bytes _) (by omega) fun _ rest _ hrest => ?_
  refine contained_guard (by decide) fun hshort => ?_
  refine contained_read takes_byte (by omega) fun gitHashSize rest _ hrest => ?_
  refine contained_guard (by decide) fun hgitHash => contained_guard (by decide) fun _ => ?_
  refine contained_read (takes_bytes _) (by omega) fun _ rest _ hrest => ?_
  exact contained_guard (by decide) fun _ => contained_checked (by decide) _

/-- The two length bytes that the scan found, and the size that they make. -/
theorem systemInfoResponseScan_eq_ok {context : Context} {payload : List UInt8} {total : Nat}
    (h : systemInfoResponseScan context payload = .ok total) :
    ∃ diagnosticSize gitHashSize, byteAt payload 12 = .ok diagnosticSize
      ∧ byteAt payload (13 + diagnosticSize.toNat) = .ok gitHashSize
      ∧ payload.length = 14 + diagnosticSize.toNat + gitHashSize.toNat
      ∧ diagnosticSize.toNat ≤ context.config.maxVariableDataSize
      ∧ gitHashSize.toNat ≤ context.config.maxVariableDataSize := by
  unfold systemInfoResponseScan at h
  have hfixed : systemInfoResponseFixedEncodeSize = 14 := rfl
  split at h
  case isTrue => exact absurd h (fail_ne_ok _ _)
  case isFalse hlen =>
  rw [bind_eq_ok] at h
  obtain ⟨⟨_, fields⟩, hfields, h⟩ := h
  obtain rfl := rest_of_read (takes_bytes 12) (by omega) hfields
  rw [bind_eq_ok] at h
  obtain ⟨⟨diagnosticSize, afterSize⟩, hdiagnostic, h⟩ := h
  dsimp only at h
  obtain rfl := rest_of_read takes_byte (by rw [List.length_drop]; omega) hdiagnostic
  rw [List.drop_drop] at hdiagnostic h
  split at h
  case isTrue => exact absurd h (fail_ne_ok _ _)
  case isFalse hdiagnosticLen =>
  rw [List.length_drop] at hdiagnosticLen
  split at h
  case isTrue => exact absurd h (fail_ne_ok _ _)
  case isFalse hdiagnosticMax =>
  rw [bind_eq_ok] at h
  obtain ⟨⟨_, afterDiagnostic⟩, hbytes, h⟩ := h
  dsimp only at h
  obtain rfl := rest_of_read (takes_bytes _) (by rw [List.length_drop]; omega) hbytes
  rw [List.drop_drop] at h
  split at h
  case isTrue => exact absurd h (fail_ne_ok _ _)
  case isFalse hshort =>
  rw [List.length_drop] at hshort
  rw [bind_eq_ok] at h
  obtain ⟨⟨gitHashSize, afterSize⟩, hgitHash, h⟩ := h
  dsimp only at h
  obtain rfl := rest_of_read takes_byte (by rw [List.length_drop]; omega) hgitHash
  rw [List.drop_drop] at hgitHash h
  split at h
  case isTrue => exact absurd h (fail_ne_ok _ _)
  case isFalse hgitHashLen =>
  rw [List.length_drop] at hgitHashLen
  split at h
  case isTrue => exact absurd h (fail_ne_ok _ _)
  case isFalse hgitHashMax =>
  rw [bind_eq_ok] at h
  obtain ⟨⟨_, rest⟩, hbytes, h⟩ := h
  dsimp only at h
  obtain rfl := rest_of_read (takes_bytes _) (by rw [List.length_drop]; omega) hbytes
  rw [List.drop_drop] at h
  split at h
  case isTrue => exact absurd h (fail_ne_ok _ _)
  case isFalse hend =>
  rw [List.length_drop] at hend
  exact ⟨diagnosticSize, gitHashSize, read_byteAt.mp hdiagnostic, read_byteAt.mp hgitHash,
    by omega, Nat.not_lt.mp hdiagnosticMax, Nat.not_lt.mp hgitHashMax⟩

theorem contained_systemInfoResponseDecode (context : Context) (payload : List UInt8)
    (storage : UsableStorage) :
    Contained (systemInfoResponseDecode context payload storage.1) := by
  unfold systemInfoResponseDecode
  refine (contained_systemInfoResponseScan context payload).bind fun total hscan => ?_
  obtain ⟨_, _, -, -, hlen, -⟩ := systemInfoResponseScan_eq_ok hscan
  refine contained_guard (by decide) fun _ => ?_
  refine contained_read takes_systemInfoResponse (by omega) fun _ rest _ _ => ?_
  refine (contained_byteSpanDecode (Nat.zero_le _) _).bind fun diagnostic hdiagnostic => ?_
  obtain ⟨hdiagnosticLe, hdiagnosticRoom⟩ := used_of_byteSpanDecode hdiagnostic
  refine (contained_byteSpanDecode (by omega) _).bind fun gitHash hgitHash => ?_
  obtain ⟨hgitHashLe, -⟩ := used_of_byteSpanDecode hgitHash
  exact contained_bind_ok (addSize_of_le (le_sizeMax (by omega))) (contained_ok _)

theorem contained_validateEncodedSystemInfoResponse {context : Context} {envelope : Envelope}
    {payload : List UInt8} {total : Nat}
    (hscan : systemInfoResponseScan context payload = .ok total) :
    Contained (validateEncodedSystemInfoResponse context envelope payload) := by
  obtain ⟨diagnosticSize, gitHashSize, hdiagnostic, hgitHash, hlen, -⟩ :=
    systemInfoResponseScan_eq_ok hscan
  have hdiagnosticLt := diagnosticSize.toNat_lt
  have hgitHashLt := gitHashSize.toNat_lt
  unfold validateEncodedSystemInfoResponse
  refine contained_read takes_systemInfoResponse (by omega) fun fields rest hrest _ => ?_
  rw [hrest]
  refine contained_bind_ok (read_byteAt.mpr hdiagnostic) ?_
  refine contained_spanInPayload (by rw [List.length_drop]; omega) fun diagnostic => ?_
  rw [List.drop_drop]
  refine contained_bind_ok (read_byteAt.mpr hgitHash) ?_
  dsimp only
  rw [List.length_drop]
  refine contained_bind_ok (addSize_of_le (le_sizeMax (by omega))) ?_
  refine contained_guard (by decide) fun _ => ?_
  refine contained_spanInPayload (by rw [List.length_drop]; omega) fun gitHash => ?_
  refine (contained_validateDiscoveryEnvelopeBody _ _).bind fun _ _ => ?_
  exact contained_systemInfoResponseValidate _ _

/-! ## Test Configurations -/

theorem contained_testConfigurationStorageSize (context : Context) (payload : List UInt8) :
    Contained (testConfigurationStorageSize context payload) := by
  have hfixed : testConfigFixedPayloadSize = 171 := rfl
  have hoffset : testConfigExtensionLengthOffset = 170 := rfl
  have hi2c : testConfigI2cOffset = 150 := rfl
  have hrecord : testConfigI2cRecordSize = 10 := rfl
  unfold testConfigurationStorageSize
  refine contained_guard (by decide) fun hlen => ?_
  refine contained_byteAt (by omega) fun extensionSize _ => ?_
  refine (contained_checked (by decide) _).bind fun _ _ => ?_
  refine contained_guard (by decide) fun _ => contained_guard (by decide) fun _ => ?_
  refine contained_byteAt (by omega) fun _ _ => contained_byteAt (by omega) fun _ _ => ?_
  exact contained_guard (by decide) fun _ => contained_ok _

theorem contained_testConfigurationDecode (context : Context) (payload : List UInt8)
    (storage : UsableStorage) :
    Contained (testConfigurationDecode context payload storage.1) := by
  have hfixed : testConfigFixedPayloadSize = 171 := rfl
  have hoffset : testConfigExtensionLengthOffset = 170 := rfl
  unfold testConfigurationDecode
  refine contained_guard (by decide) fun hlen => ?_
  refine contained_byteAt (by omega) fun extensionSize _ => ?_
  refine (contained_checked (by decide) _).bind fun _ _ => ?_
  refine contained_guard (by decide) fun _ => contained_guard (by decide) fun _ => ?_
  refine contained_read takes_testConfiguration (by omega) fun _ rest _ hrest => ?_
  dsimp only
  rw [if_neg (by omega)]
  exact (contained_byteSpanDecode (Nat.zero_le _) _).bind fun _ _ => contained_ok _

theorem contained_testConfigurationEncodedValidate (context : Context) (payload : List UInt8) :
    Contained (testConfigurationEncodedValidate context payload) := by
  have hfixed : testConfigFixedPayloadSize = 171 := rfl
  have hoffset : testConfigExtensionLengthOffset = 170 := rfl
  unfold testConfigurationEncodedValidate
  refine contained_guard (by decide) fun hlen => ?_
  refine contained_byteAt (by omega) fun extensionSize _ => ?_
  refine (contained_checked (by decide) _).bind fun total htotal => ?_
  rw [checked_eq_ok] at htotal
  obtain ⟨rfl, -⟩ := checkedAddSize_eq_some.mp htotal
  refine contained_guard (by decide) fun hsize => contained_guard (by decide) fun _ => ?_
  refine contained_read takes_testConfiguration (by omega) fun _ rest _ hrest => ?_
  dsimp only
  rw [if_neg (by omega)]
  refine contained_spanInPayload (by rw [List.length_drop]; omega) fun extension => ?_
  exact (contained_testConfigurationValidate _ _).bind fun _ _ => contained_ok _

/-! ## Errors -/

theorem contained_errorScan (context : Context) (payload : List UInt8) :
    Contained (errorScan context payload) := by
  have hfixed : errorFixedPayloadSize = 12 := rfl
  have hoffset : errorDiagnosticLengthOffset = 11 := rfl
  unfold errorScan
  refine contained_guard (by decide) fun hlen => ?_
  refine contained_byteAt (by omega) fun diagnosticSize _ => ?_
  refine (contained_checked (by decide) _).bind fun _ _ => ?_
  exact contained_guard (by decide) fun _ => contained_guard (by decide) fun _ =>
    contained_guard (by decide) fun _ => contained_ok _

/-- What the scan guarantees of the span. -/
theorem errorScan_eq_ok {context : Context} {payload : List UInt8} {required : Nat}
    (h : errorScan context payload = .ok required) :
    ∃ diagnosticSize, byteAt payload errorDiagnosticLengthOffset = .ok diagnosticSize
      ∧ payload.length = errorFixedPayloadSize + diagnosticSize.toNat
      ∧ diagnosticSize.toNat ≤ context.config.maxVariableDataSize := by
  unfold errorScan at h
  split at h
  case isTrue => exact absurd h (fail_ne_ok _ _)
  rw [bind_eq_ok] at h
  obtain ⟨diagnosticSize, hsize, h⟩ := h
  rw [bind_eq_ok] at h
  obtain ⟨total, htotal, h⟩ := h
  rw [checked_eq_ok] at htotal
  obtain ⟨rfl, -⟩ := checkedAddSize_eq_some.mp htotal
  split at h
  case isTrue => exact absurd h (fail_ne_ok _ _)
  split at h
  case isTrue => exact absurd h (fail_ne_ok _ _)
  case isFalse hlen =>
  split at h
  case isTrue => exact absurd h (fail_ne_ok _ _)
  case isFalse hmax => exact ⟨diagnosticSize, hsize, not_not.mp hlen, Nat.not_lt.mp hmax⟩

theorem contained_errorDecode (context : Context) (payload : List UInt8)
    (storage : UsableStorage) : Contained (errorDecode context payload storage.1) := by
  have hfixed : errorFixedPayloadSize = 12 := rfl
  have hoffset : errorDiagnosticLengthOffset = 11 := rfl
  unfold errorDecode
  refine (contained_errorScan context payload).bind fun required hscan => ?_
  obtain ⟨diagnosticSize, hat, hlen, -⟩ := errorScan_eq_ok hscan
  refine contained_guard (by decide) fun _ => ?_
  refine contained_read takes_error (by omega) fun _ rest hdrop hrest => ?_
  dsimp only
  rw [if_neg (by omega)]
  refine (contained_byteSpanDecode (Nat.zero_le _) _).bind ?_
  rintro ⟨diagnostic, used, behind⟩ hdiagnostic
  -- the length byte that the decoder reads is the one that the scan checked
  obtain ⟨form, hspan, hform, -⟩ := form_of_byteSpanDecode hdiagnostic
  have hsize : diagnosticSize.toNat = diagnostic.count := by
    rw [← hspan.toNat_count]
    rw [byteAt_eq_ok, ← List.head?_drop, ← hdrop, hform, hspan.form_eq.1] at hat
    exact congrArg UInt8.toNat (Option.some.inj hat).symm
  have hend : behind.length = 0 := by
    have happend := congrArg List.length hform
    rw [List.length_append, hspan.length_eq] at happend
    omega
  dsimp only
  rw [if_neg (not_not.mpr hend)]
  exact contained_ok _

theorem contained_validateEncodedError {context : Context} {envelope : Envelope}
    {payload : List UInt8} {required : Nat} (hscan : errorScan context payload = .ok required) :
    Contained (validateEncodedError context envelope payload) := by
  have hfixed : errorFixedPayloadSize = errorDiagnosticLengthOffset + 1 := rfl
  obtain ⟨diagnosticSize, hat, hlen, -⟩ := errorScan_eq_ok hscan
  unfold validateEncodedError
  refine contained_read takes_error (by omega) fun _ rest hrest _ => ?_
  rw [hrest]
  refine contained_bind_ok (read_byteAt.mpr hat) ?_
  refine contained_spanInPayload (by rw [List.length_drop]; omega) fun diagnostic => ?_
  exact contained_guard (by decide) fun _ => contained_errorValidate _ _

/-! ## Run Reports -/

theorem contained_runReportScan (context : Context) (payload : List UInt8) :
    Contained (runReportScan context payload) := by
  have hfixed : runReportFixedPayloadSize = 177 := rfl
  have hoffset : runReportExtensionLengthOffset = 176 := rfl
  unfold runReportScan
  refine contained_guard (by decide) fun _ => contained_guard (by decide) fun hlen => ?_
  refine contained_byteAt (by omega) fun extensionSize _ => ?_
  refine (contained_checked (by decide) _).bind fun _ _ => ?_
  refine contained_guard (by decide) fun _ => ?_
  refine contained_read takes_u16 (by omega) fun schemaVersion _ _ _ => ?_
  exact contained_guard (by decide) fun _ => contained_guard (by decide) fun _ => contained_ok _

theorem contained_runReportParse (context : Context) (payload : List UInt8) :
    Contained (runReportParse context payload) := by
  have hfixed : runReportFixedPayloadSize = runReportExtensionLengthOffset + 1 := rfl
  unfold runReportParse
  refine (contained_runReportScan context payload).bind fun required hscan => ?_
  obtain ⟨extensionSize, hat, hlen, -, -⟩ := runReportScan_eq_ok hscan
  refine contained_read takes_runReport (by omega) fun _ rest hrest _ => ?_
  refine contained_guard (by decide) fun _ => ?_
  rw [hrest]
  refine contained_bind_ok (read_byteAt.mpr hat) ?_
  refine contained_read (takes_bytes _) (by rw [List.length_drop]; omega) fun extension _ _ _ => ?_
  exact (contained_runReportValidate _ _).bind fun _ _ => contained_ok _

theorem contained_runReportDecode (context : Context) (payload : List UInt8)
    (storage : UsableStorage) : Contained (runReportDecode context payload storage.1) := by
  unfold runReportDecode
  refine (contained_runReportScan context payload).bind fun required _ => ?_
  refine contained_guard (by decide) fun hroom => ?_
  refine (contained_runReportParse context payload).bind fun _ _ => ?_
  rw [not_or] at hroom
  exact contained_bind_ok (store_ok storage (by rw [Nat.zero_add]; exact Nat.not_lt.mp hroom.1))
    (contained_ok _)

/-! ## Endpoint-defined data -/

theorem contained_arbitraryDataScan (context : Context) (payload : List UInt8) :
    Contained (arbitraryDataScan context payload) := by
  unfold arbitraryDataScan
  refine contained_guard (by decide) fun hlen => ?_
  refine contained_read takes_arbitraryDataPrefix (by omega) fun front _ _ _ => ?_
  refine (contained_checked (by decide) _).bind fun _ _ => ?_
  exact contained_guard (by decide) fun _ => contained_guard (by decide) fun _ => contained_ok _

/-- The length that the scan found, with as many bytes behind it. -/
theorem arbitraryDataScan_eq_ok {context : Context} {payload : List UInt8} {required : Nat}
    (h : arbitraryDataScan context payload = .ok required) :
    ∃ dataId length rest, read arbitraryDataPrefix payload = .ok ((dataId, length), rest)
      ∧ rest.length = length.toNat ∧ required = length.toNat := by
  unfold arbitraryDataScan at h
  split at h
  case isTrue => exact absurd h (fail_ne_ok _ _)
  case isFalse hshort =>
  rw [bind_eq_ok] at h
  obtain ⟨⟨⟨dataId, length⟩, rest⟩, hread, h⟩ := h
  have hrest := congrArg List.length
    (rest_of_read takes_arbitraryDataPrefix (by omega) hread)
  rw [List.length_drop] at hrest
  dsimp only at h
  rw [bind_eq_ok] at h
  obtain ⟨total, htotal, h⟩ := h
  rw [checked_eq_ok] at htotal
  obtain ⟨rfl, -⟩ := checkedAddSize_eq_some.mp htotal
  split at h
  case isTrue => exact absurd h (fail_ne_ok _ _)
  case isFalse hlen =>
  split at h
  case isTrue => exact absurd h (fail_ne_ok _ _)
  exact ⟨dataId, length, rest, hread, by omega, (Except.ok.inj h).symm⟩

theorem contained_arbitraryDataDecode (context : Context) (payload : List UInt8)
    (storage : UsableStorage) : Contained (arbitraryDataDecode context payload storage.1) := by
  unfold arbitraryDataDecode
  refine (contained_arbitraryDataScan context payload).bind fun required hscan => ?_
  obtain ⟨dataId, length, rest, hread, hrest, rfl⟩ := arbitraryDataScan_eq_ok hscan
  refine contained_guard (by decide) fun hroom => ?_
  rw [not_or] at hroom
  refine contained_bind_ok hread ?_
  refine contained_read (takes_bytes _) (Nat.le_of_eq hrest.symm) fun bytes _ _ _ => ?_
  exact contained_bind_ok (store_ok storage (by rw [Nat.zero_add]; exact Nat.not_lt.mp hroom.1))
    (contained_ok _)

/-! ## Records -/

/-- One round of the loop reads a header, as many data bytes as it says, and the padding. -/
theorem contained_alignedRecordsScan {context : Context} {fieldsValidate : Record → Result Unit}
    (h : ∀ record, Contained (fieldsValidate record)) {recordCount : Nat} {seen : List UInt16}
    {totalPayload : Nat} {payload : List UInt8} :
    Contained (alignedRecordsScan context fieldsValidate recordCount seen totalPayload payload) := by
  induction recordCount generalizing seen totalPayload payload with
  | zero => exact contained_guard (by decide) fun _ => contained_ok _
  | succ recordCount ih =>
      unfold alignedRecordsScan
      refine contained_guard (by decide) fun hlen => ?_
      refine contained_read takes_recordHeader (by omega) fun header rest _ _ => ?_
      refine contained_guard (by decide) fun _ => contained_guard (by decide) fun _ =>
        contained_guard (by decide) fun hdata => ?_
      refine contained_read (takes_bytes _) (by omega) fun data rest _ _ => ?_
      refine (contained_recordPairMark _ _ _).bind fun seen _ => (h _).bind fun _ _ => ?_
      refine contained_guard (by decide) fun hpadding => ?_
      refine contained_read (takes_bytes _) (by omega) fun padding rest _ _ => ?_
      refine contained_guard (by decide) fun _ => ?_
      exact (contained_checked (by decide) _).bind fun _ _ => ih

theorem contained_updateInstructionScan (context : Context) (payload : List UInt8) :
    Contained (updateInstructionScan context payload) := by
  unfold updateInstructionScan
  refine contained_guard (by decide) fun hlen => ?_
  refine contained_read takes_updateInstructionHeader (by omega) fun header rest _ _ => ?_
  refine contained_guard (by decide) fun _ => contained_guard (by decide) fun _ =>
    contained_guard (by decide) fun _ => contained_guard (by decide) fun _ => ?_
  exact (contained_alignedRecordsScan (contained_logicalOperationFieldsValidate context)).bind
    fun _ _ => contained_checked (by decide) _

theorem contained_variableTestResultScan (context : Context) (payload : List UInt8) :
    Contained (variableTestResultScan context payload) := by
  unfold variableTestResultScan
  refine contained_guard (by decide) fun hlen => ?_
  refine contained_read takes_variableTestResultHeader (by omega) fun header rest _ _ => ?_
  refine contained_guard (by decide) fun _ => contained_guard (by decide) fun _ =>
    contained_guard (by decide) fun _ => contained_guard (by decide) fun _ =>
    contained_guard (by decide) fun _ => ?_
  refine .ite (fun _ => contained_guard (by decide) fun _ => contained_ok _) fun _ => ?_
  exact (contained_alignedRecordsScan (contained_capturedRecordFieldsValidate context)).bind
    fun _ _ => contained_checked (by decide) _

omit [Target] in
/-- A decoder on a payload that it accepts given the room. -/
theorem contained_of_wants {α : Type} {need : Nat} {x : α} {op : UsableStorage → Result α}
    (h : Wants UsableStorage.room (.status .bufferTooSmall) need x op) (storage : UsableStorage) :
    Contained (op storage) := by
  rw [h storage]
  exact .ite (fun _ => contained_ok _) fun _ => contained_fail (by decide)

/-- The decoder loop has no checks of its own: the scan has made them all. -/
theorem contained_updateInstructionDecode (context : Context) (payload : List UInt8)
    (storage : UsableStorage) :
    Contained (updateInstructionDecode context payload storage.1) := by
  cases hscan : updateInstructionScan context payload with
  | error failure =>
      have hfault := contained_updateInstructionScan context payload failure hscan
      unfold updateInstructionDecode
      rw [hscan]
      exact Avoids.error hfault
  | ok required =>
      obtain ⟨tickNumber, flags, records, hpayload, -⟩ :=
        (updateInstructionScan_iff _ _ _).mp hscan
      have hdata : UpdateInstruction.Payload context
          ⟨tickNumber, flags, wireRecords records hpayload.countable⟩ payload :=
        ⟨records, hpayload, rfl⟩
      exact contained_of_wants (updateInstructionDecode_wants hdata) storage

theorem contained_variableTestResultDecode (context : Context) (payload : List UInt8)
    (storage : UsableStorage) :
    Contained (variableTestResultDecode context payload storage.1) := by
  cases hscan : variableTestResultScan context payload with
  | error failure =>
      have hfault := contained_variableTestResultScan context payload failure hscan
      unfold variableTestResultDecode
      rw [hscan]
      exact Avoids.error hfault
  | ok required =>
      obtain ⟨tickNumber, condition, flags, problemDetail, records, hpayload, -⟩ :=
        (variableTestResultScan_iff _ _ _).mp hscan
      have hdata : VariableTestResult.Payload context ⟨tickNumber, condition.toNat, flags,
          problemDetail, wireRecords records hpayload.countable⟩ payload :=
        ⟨condition, records, hpayload, rfl, rfl⟩
      exact contained_of_wants (variableTestResultDecode_wants hdata) storage

/-! ## Messages -/

omit [Target] in
theorem contained_validateEnvelopeFields (type : MessageType) (subtype : Int)
    (hasTestId : UInt8) : Contained (validateEnvelopeFields type subtype hasTestId) := by
  have hsyntax : Contained (validateEnvelopeSyntax type subtype) := by
    simp [validateEnvelopeSyntax]
  unfold validateEnvelopeFields
  refine hsyntax.bind fun _ _ => ?_
  simp

omit [Target] in
theorem contained_validateCommonMessageFields (message : Message) :
    Contained (validateCommonMessageFields message) := by
  refine (contained_validateEnvelopeFields _ _ _).bind fun _ _ => ?_
  cases message.body <;> simp [validateBodyTestId]

omit [Target] in
theorem contained_validateMessage (context : Context) (message : Message) :
    Contained (validateMessage context message) := by
  unfold validateMessage
  refine contained_guard (by decide) fun _ => ?_
  refine (contained_validateCommonMessageFields message).bind fun _ _ => ?_
  cases message.body with
  | systemInfoRequest data => exact contained_systemInfoRequestValidate context data
  | systemInfoResponse data => exact contained_systemInfoResponseValidate context data
  | testConfiguration data => exact contained_testConfigurationValidate context data
  | testInstruction data => exact contained_testInstructionsValidate context data
  | updateInstruction data => exact contained_updateInstructionValidate context data
  | finalizeTestUpload data => exact contained_finalizeTestUploadValidate context data
  | executionControl data => exact contained_executionControlValidate context data
  | globalControl data => exact contained_globalControlValidate context data
  | testResult data => exact contained_testResultValidate context data
  | variableTestResult data => exact contained_variableTestResultValidate context data
  | response data => exact contained_responseValidate context data
  | error data => exact contained_errorValidate context data
  | rigStatus data => exact contained_rigStatusValidate context data
  | runReport data => exact contained_runReportValidate context data
  | arbitraryControl data => exact contained_arbitraryControlValidate context data
  | arbitraryData data => exact contained_arbitraryDataValidate context data

omit [Target] in
theorem contained_headerDecoding (encodedMessage : List UInt8) :
    Contained (headerDecoding encodedMessage) := by
  have hheader : headerSizeBytes = 23 := rfl
  unfold headerDecoding
  refine contained_guard (by decide) fun hlen => ?_
  refine contained_read takes_byte (by omega) fun major rest _ _ => ?_
  refine contained_read takes_byte (by omega) fun minor rest _ _ => ?_
  refine contained_read takes_byte (by omega) fun hasTestId rest _ _ => ?_
  refine contained_guard (by decide) fun _ => ?_
  refine contained_read (takes_bytes 16) (by omega) fun testId rest _ _ => ?_
  refine contained_guard (by decide) fun _ => ?_
  refine contained_read takes_byte (by omega) fun wireType rest _ _ => ?_
  refine contained_read takes_enum (by omega) fun subtype rest _ _ => ?_
  refine contained_read takes_u16 (by omega) fun payloadLength rest _ _ => ?_
  refine (contained_checked (by decide) _).bind fun type _ => ?_
  refine (contained_validateEnvelopeFields _ _ _).bind fun _ _ => ?_
  exact contained_guard (by decide) fun _ => contained_ok _

theorem contained_payloadOf (envelope : Envelope) (encodedMessage : List UInt8) :
    Contained (payloadOf envelope encodedMessage) := by
  refine (contained_checked (by decide) _).bind fun _ _ => ?_
  exact contained_guard (by decide) fun _ => contained_guard (by decide) fun _ => contained_ok _

/-- The body decoder, into any storage that `HIL_APPLICATION_Decode_Message` takes. -/
theorem contained_bodyDecode (context : Context) (type : MessageType) (payload : List UInt8)
    (storage : UsableStorage) : Contained (bodyDecode context type payload storage.1) := by
  cases type with
  | systemInfoRequest => exact (contained_systemInfoRequestDecode payload).map _
  | systemInfoResponse => exact (contained_systemInfoResponseDecode context payload storage).map _
  | testConfiguration => exact (contained_testConfigurationDecode context payload storage).map _
  | testInstruction => exact (contained_testInstructionsDecode payload).map _
  | updateInstruction => exact (contained_updateInstructionDecode context payload storage).map _
  | finalizeTestUpload => exact (contained_finalizeTestUploadDecode payload).map _
  | executionControl => exact (contained_executionControlDecode payload).map _
  | globalControl => exact (contained_globalControlDecode payload).map _
  | testResult => exact (contained_testResultDecode payload).map _
  | variableTestResult =>
      exact (contained_variableTestResultDecode context payload storage).map _
  | response => exact (contained_responseDecode payload).map _
  | error => exact (contained_errorDecode context payload storage).map _
  | rigStatus => exact (contained_rigStatusDecode payload).map _
  | runReport => exact (contained_runReportDecode context payload storage).map _
  | arbitraryControl => exact (contained_arbitraryControlDecode payload).map _
  | arbitraryData => exact (contained_arbitraryDataDecode context payload storage).map _

theorem contained_decodeInternal (context : Context) (encodedMessage : List UInt8)
    (storage : UsableStorage) :
    Contained (decodeInternal context encodedMessage storage.1) := by
  unfold decodeInternal
  refine (contained_headerDecoding _).bind fun envelope _ => ?_
  refine (contained_payloadOf _ _).bind fun payload _ => ?_
  refine (contained_bodyDecode _ _ _ storage).bind fun body _ => ?_
  refine contained_guard (by decide) fun _ => ?_
  refine (contained_validateDiscoveryEnvelopeBody _ _).bind fun _ _ => ?_
  exact (contained_validateMessage _ _).bind fun _ _ => contained_ok _

/-! ## Sizing and validation -/

omit [Target] in
theorem contained_validateDiscoveryStorageEnvelope (envelope : Envelope) (payload : List UInt8) :
    Contained (validateDiscoveryStorageEnvelope envelope payload) := by
  have hfixed : systemInfoRequestFixedEncodeSize = 8 := rfl
  unfold validateDiscoveryStorageEnvelope
  refine .ite (fun _ => ?_) fun _ => .ite (fun _ => ?_) fun _ => contained_ok _
  · refine contained_guard (by decide) fun hlen => ?_
    refine contained_read takes_u16 (by rw [List.length_drop]; omega) fun major _ _ _ => ?_
    refine contained_read takes_u16 (by rw [List.length_drop]; omega) fun minor _ _ _ => ?_
    exact contained_validateDiscoveryVersion _ _ _
  · refine contained_guard (by decide) fun hlen => ?_
    refine contained_read takes_u16 (by omega) fun major _ _ _ => ?_
    refine contained_read takes_u16 (by rw [List.length_drop]; omega) fun minor _ _ _ => ?_
    exact contained_validateDiscoveryVersion _ _ _

omit [Target] in
theorem contained_fixedSize (type : MessageType) (size : Nat) :
    Contained (do fixedBodyValidateSize type size; .ok 0 : Result Nat) :=
  contained_fixedBodyValidateSize.bind fun _ _ => contained_ok _

theorem contained_payloadStorageSize (context : Context) (envelope : Envelope)
    (payload : List UInt8) : Contained (payloadStorageSize context envelope payload) := by
  have hresponse : responseFixedPayloadSize = 13 := rfl
  unfold payloadStorageSize
  cases envelope.type with
  | systemInfoRequest =>
      refine contained_fixedBodyValidateSize.bind fun _ _ => ?_
      exact (contained_validateDiscoveryStorageEnvelope _ _).bind fun _ _ => contained_ok _
  | systemInfoResponse =>
      refine (contained_systemInfoResponseScan context payload).bind fun _ _ => ?_
      exact (contained_validateDiscoveryStorageEnvelope _ _).bind fun _ _ => contained_ok _
  | response =>
      -- a response that has its size has a first byte
      refine contained_fixedBodyValidateSize.bind fun _ hsize => ?_
      have hlen : payload.length = responseFixedPayloadSize := by
        by_contra hne
        exact absurd hsize (by rw [fixedBodyValidateSize]; simp [hne])
      refine contained_byteAt (by omega) fun _ _ => ?_
      exact contained_guard (by decide) fun _ => contained_ok _
  | testConfiguration => exact contained_testConfigurationStorageSize context payload
  | updateInstruction => exact contained_updateInstructionScan context payload
  | variableTestResult => exact contained_variableTestResultScan context payload
  | error => exact contained_errorScan context payload
  | runReport => exact contained_runReportScan context payload
  | arbitraryData => exact contained_arbitraryDataScan context payload
  | testInstruction => exact contained_fixedSize _ _
  | finalizeTestUpload => exact contained_fixedSize _ _
  | executionControl => exact contained_fixedSize _ _
  | globalControl => exact contained_fixedSize _ _
  | testResult => exact contained_fixedSize _ _
  | rigStatus => exact contained_fixedSize _ _
  | arbitraryControl => exact contained_fixedSize _ _

theorem contained_decodeStorageSize (context : Context) (encodedMessage : List UInt8) :
    Contained (decodeStorageSize context encodedMessage) := by
  unfold decodeStorageSize
  refine contained_guard (by decide) fun _ => contained_guard (by decide) fun _ => ?_
  refine (contained_headerDecoding _).bind fun envelope _ => ?_
  refine (contained_payloadOf _ _).bind fun payload _ => ?_
  exact contained_payloadStorageSize _ _ _

/-- What sizing has established of a message: its envelope, and that the bytes behind the
    header are the payload that it sized. -/
theorem decodeStorageSize_eq_ok {context : Context} {encodedMessage : List UInt8} {size : Nat}
    (h : decodeStorageSize context encodedMessage = .ok size) :
    ∃ envelope, headerDecoding encodedMessage = .ok envelope
      ∧ (encodedMessage.drop headerSizeBytes).length = envelope.payloadLength.toNat
      ∧ payloadStorageSize context envelope (encodedMessage.drop headerSizeBytes) = .ok size := by
  unfold decodeStorageSize at h
  split at h
  case isTrue => exact absurd h (fail_ne_ok _ _)
  split at h
  case isTrue => exact absurd h (fail_ne_ok _ _)
  rw [bind_eq_ok] at h
  obtain ⟨envelope, hheader, h⟩ := h
  rw [bind_eq_ok] at h
  obtain ⟨payload, hframed, h⟩ := h
  unfold payloadOf at hframed
  rw [bind_eq_ok] at hframed
  obtain ⟨total, htotal, hframed⟩ := hframed
  rw [checked_eq_ok] at htotal
  obtain ⟨rfl, -⟩ := checkedAddSize_eq_some.mp htotal
  split at hframed
  case isTrue => exact absurd hframed (fail_ne_ok _ _)
  split at hframed
  case isTrue => exact absurd hframed (fail_ne_ok _ _)
  case isFalse hlen =>
  obtain rfl := Except.ok.inj hframed
  refine ⟨envelope, hheader, ?_, h⟩
  rw [List.length_drop]
  omega

theorem contained_validateEncodedFixed (context : Context) (envelope : Envelope)
    (payload : List UInt8) (required : Nat) :
    Contained (do validateEncodedFixed context envelope payload; .ok required : Result Nat) := by
  refine Avoids.bind ?_ fun _ _ => contained_ok _
  unfold validateEncodedFixed
  refine (contained_bodyDecode _ _ _ ⟨_, fun _ => rfl⟩).bind fun body _ => ?_
  refine contained_guard (by decide) fun _ => ?_
  refine (contained_validateDiscoveryEnvelopeBody _ _).bind fun _ _ => ?_
  exact contained_validateMessage _ _

/-- Validation relies on the scan that sized the payload. -/
theorem contained_validateEncodedPayload {context : Context} {envelope : Envelope}
    {payload : List UInt8} {required : Nat}
    (hsize : payloadStorageSize context envelope payload = .ok required) :
    Contained (validateEncodedPayload context envelope payload required) := by
  unfold payloadStorageSize at hsize
  unfold validateEncodedPayload
  cases htype : envelope.type with
  | testConfiguration => exact contained_testConfigurationEncodedValidate context payload
  | systemInfoResponse =>
      rw [htype] at hsize
      dsimp only at hsize
      rw [bind_eq_ok] at hsize
      obtain ⟨total, hscan, -⟩ := hsize
      exact (contained_validateEncodedSystemInfoResponse hscan).bind fun _ _ => contained_ok _
  | runReport => exact (contained_runReportParse context payload).bind fun _ _ => contained_ok _
  | error =>
      rw [htype] at hsize
      exact (contained_validateEncodedError hsize).bind fun _ _ => contained_ok _
  | updateInstruction => exact contained_ok _
  | variableTestResult => exact contained_ok _
  | arbitraryData => exact contained_ok _
  | systemInfoRequest => exact contained_validateEncodedFixed _ _ _ _
  | testInstruction => exact contained_validateEncodedFixed _ _ _ _
  | finalizeTestUpload => exact contained_validateEncodedFixed _ _ _ _
  | executionControl => exact contained_validateEncodedFixed _ _ _ _
  | globalControl => exact contained_validateEncodedFixed _ _ _ _
  | testResult => exact contained_validateEncodedFixed _ _ _ _
  | response => exact contained_validateEncodedFixed _ _ _ _
  | rigStatus => exact contained_validateEncodedFixed _ _ _ _
  | arbitraryControl => exact contained_validateEncodedFixed _ _ _ _

theorem contained_validateEncodedMessage (context : Context) (encodedMessage : List UInt8) :
    Contained (validateEncodedMessage context encodedMessage) := by
  unfold validateEncodedMessage
  refine contained_guard (by decide) fun _ => contained_guard (by decide) fun _ => ?_
  refine (contained_decodeStorageSize _ _).bind fun required hrequired => ?_
  obtain ⟨envelope, hheader, -, hsize⟩ := decodeStorageSize_eq_ok hrequired
  exact contained_bind_ok hheader (contained_validateEncodedPayload hsize)

/-! ## The entry points -/

theorem contained_decodeMessage (context : Context) (encodedMessage : List UInt8)
    (storage : Storage) : Contained (decodeMessage context encodedMessage storage).result := by
  unfold decodeMessage
  dsimp only
  by_cases hinit : context.initialized = 0
  · rw [if_pos hinit]
    exact contained_fail (by decide)
  by_cases hstorage : storage.capacity ≠ 0 ∧ storage.isNull
  · rw [if_neg hinit, if_pos hstorage]
    exact contained_fail (by decide)
  by_cases hlength : encodedMessage.length > context.config.maxEncodedMessageSize
  · rw [if_neg hinit, if_neg hstorage, if_pos hlength]
    exact contained_fail (by decide)
  rw [if_neg hinit, if_neg hstorage, if_neg hlength]
  have hnull : storage.isNull → storage.capacity = 0 := by
    intro hnull
    by_contra hcapacity
    exact hstorage ⟨hcapacity, hnull⟩
  have hdecode := contained_decodeInternal context encodedMessage ⟨storage, hnull⟩
  cases haccepted : decodeInternal context encodedMessage storage with
  | error failure => exact Avoids.error (hdecode failure haccepted)
  | ok decoded => exact contained_ok ()

/-- For every context and every byte string, decoding into any storage, sizing and
    validating end without an access outside the bytes or the storage, without a size that
    wraps, and without `INTERNAL_ERROR`. -/
theorem parsing_contained (context : Context) (encodedMessage : List UInt8) (storage : Storage) :
    Contained (decodeMessage context encodedMessage storage).result
      ∧ Contained (decodeStorageSize context encodedMessage)
      ∧ Contained (validateEncodedMessage context encodedMessage) :=
  ⟨contained_decodeMessage context encodedMessage storage,
    contained_decodeStorageSize context encodedMessage,
    contained_validateEncodedMessage context encodedMessage⟩

end

end HilRigProtocol.Application
