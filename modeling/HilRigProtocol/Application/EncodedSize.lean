/-
  The encoded size is an exact threshold. For a body that its validator accepts, the size
  function and the encoder of its family agree: the encoder stores as many bytes as the
  size function counts wherever there is room for them, and reports `BUFFER_TOO_SMALL`
  elsewhere; where the size function fails, so does the encoder.
-/
import HilRigProtocol.Application.AlignedRecords
import HilRigProtocol.Application.WireForms
import HilRigProtocol.Library.Capacity

namespace HilRigProtocol.Application

open Library

/-! ## Sizes and encoders -/

/-- An encoder and the size computed for it: it wants that many bytes of capacity and
    stores as many, or both fail with one status. -/
def Sized (size : Result Nat) (encode : Nat → Result (List UInt8 × Nat)) : Prop :=
  (∃ bytes, size = .ok bytes.length
    ∧ Wants id (.status .bufferTooSmall) bytes.length (bytes, bytes.length) encode)
  ∨ ∃ status, size = fail status ∧ ∀ capacity, encode capacity = fail status

/-- The first of the two: the size is the room that the encoder wants. -/
def Exact (size : Result Nat) (encode : Nat → Result (List UInt8 × Nat)) : Prop :=
  ∃ bytes, size = .ok bytes.length
    ∧ Wants id (.status .bufferTooSmall) bytes.length (bytes, bytes.length) encode

theorem Exact.of_eq {size : Result Nat} {encode : Nat → Result (List UInt8 × Nat)}
    (bytes : List UInt8) (total : Nat) (hlen : bytes.length = total) (hsize : size = .ok total)
    (h : ∀ capacity, encode capacity
      = if capacity < total then fail .bufferTooSmall else .ok (bytes, total)) :
    Exact size encode := by
  subst hlen
  exact ⟨bytes, hsize, Wants.of_guard h⟩

/-! ## Fields of valid bodies -/

theorem exists_enumToU8 (value : Int) (h : 0 ≤ value ∧ value ≤ 255) :
    ∃ wire, enumToU8 value = some wire := by
  unfold enumToU8
  rw [if_neg (by omega)]
  exact ⟨_, rfl⟩

/-- A validated enumerator has its byte. -/
theorem exists_configEnumEncode (value : Int) (h : 0 ≤ value ∧ value ≤ 255) :
    ∃ wire, configEnumEncode value = .ok wire := by
  obtain ⟨wire, hwire⟩ := exists_enumToU8 value h
  exact ⟨wire, by rw [configEnumEncode, hwire, checked]⟩

theorem byteSpanU8Validate_eq_ok {context : Context} {span : ByteSpan}
    (h : byteSpanU8Validate context span = .ok ()) :
    span.count ≤ 255 ∧ span.count ≤ context.config.maxVariableDataSize
      ∧ ¬ (span.count ≠ 0 ∧ span.isNull) := by
  unfold byteSpanU8Validate at h
  obtain ⟨hle, hnull⟩ := byteSpanValidate_eq_ok.mp h
  split at hle
  case isTrue => exact ⟨by omega, hle, hnull⟩
  case isFalse => exact ⟨hle, by omega, hnull⟩

variable [Target]

/-- The encoding of a span is its length byte and its bytes. -/
theorem byteSpanEncode_eq {span : ByteSpan} (hle : span.count ≤ 255)
    (hnull : ¬ (span.count ≠ 0 ∧ span.isNull)) (capacity : Nat) :
    byteSpanEncode span capacity = if capacity < 1 + span.count then fail .bufferTooSmall
      else .ok (UInt8.ofNat span.count :: span.elements) := by
  have hsize := checkedAddSize_of_le (le_sizeMax (show 1 + span.count ≤ 0x1000000 by omega))
  unfold byteSpanEncode
  rw [if_neg hnull, hsize, checked, ok_bind]
  split
  case isTrue => rfl
  case isFalse =>
    rw [if_neg (by omega), (Counted.contents_eq hnull).1, ok_bind]

/-! ## System Information -/

/-- A discovery message with a version triplet that is not the one of this codec. It is
    decoded, but neither measured nor encoded. -/
def Body.ForeignVersion : Body → Prop
  | .systemInfoRequest data =>
      data.applicationProtocolMajor ≠ protocolVersionMajor
        ∨ data.applicationProtocolMinor ≠ protocolVersionMinor
        ∨ data.applicationProtocolPatch ≠ protocolVersionPatch
  | .systemInfoResponse data =>
      data.applicationProtocolMajor ≠ protocolVersionMajor
        ∨ data.applicationProtocolMinor ≠ protocolVersionMinor
        ∨ data.applicationProtocolPatch ≠ protocolVersionPatch
  | _ => False

instance : DecidablePred Body.ForeignVersion
  | .systemInfoRequest _ => inferInstanceAs (Decidable (_ ∨ _))
  | .systemInfoResponse _ => inferInstanceAs (Decidable (_ ∨ _))
  | .testConfiguration _ | .testInstruction _ | .updateInstruction _ | .finalizeTestUpload _
  | .executionControl _ | .globalControl _ | .testResult _ | .variableTestResult _ | .response _
  | .error _ | .rigStatus _ | .runReport _ | .arbitraryControl _ | .arbitraryData _ => .isFalse id

omit [Target] in
theorem systemInfoRequest_exact {context : Context} {data : SystemInfoRequest}
    (hvalid : systemInfoRequestValidate context data = .ok ())
    (hversion : ¬ (Body.systemInfoRequest data).ForeignVersion) :
    Exact (systemInfoRequestSize context data) (systemInfoRequestEncode data) := by
  dsimp only [Body.ForeignVersion] at hversion
  have hfields : ¬ (data.requestFirmwareGitHash > 1 ∨ data.query ≠ 1) := by
    unfold systemInfoRequestValidate at hvalid
    split at hvalid
    case isTrue => exact absurd hvalid (fail_ne_ok _ _)
    split at hvalid
    case isTrue => exact absurd hvalid (fail_ne_ok _ _)
    case isFalse h => tauto
  have hquery : data.query = 1 := by tauto
  obtain ⟨wireQuery, hwire⟩ := exists_enumToU8 data.query (by omega)
  refine .of_eq ([data.requestFirmwareGitHash, wireQuery]
    ++ encodeU16Le data.applicationProtocolMajor ++ encodeU16Le data.applicationProtocolMinor
    ++ encodeU16Le data.applicationProtocolPatch) systemInfoRequestFixedEncodeSize
    rfl ?_ fun capacity => ?_
  · rw [systemInfoRequestSize, if_neg hversion, hvalid, ok_bind]
  · rw [systemInfoRequestEncode, if_neg hversion]
    split
    case isTrue => rfl
    case isFalse => rw [hwire, checked, ok_bind]

theorem systemInfoResponse_exact {context : Context} {data : SystemInfoResponse}
    (hvalid : systemInfoResponseValidate context data = .ok ())
    (hversion : ¬ (Body.systemInfoResponse data).ForeignVersion) :
    Exact (systemInfoResponseSize context data) (systemInfoResponseEncode data) := by
  dsimp only [Body.ForeignVersion] at hversion
  have hspans : byteSpanU8Validate context data.firmwareGitHash = .ok ()
      ∧ byteSpanU8Validate context data.diagnosticData = .ok () := by
    have h := hvalid
    unfold systemInfoResponseValidate at h
    split at h
    case isTrue => exact absurd h (fail_ne_ok _ _)
    split at h
    case isTrue => exact absurd h (fail_ne_ok _ _)
    rw [bind_eq_ok] at h
    obtain ⟨⟨⟩, hgitHash, hdiagnostic⟩ := h
    exact ⟨hgitHash, hdiagnostic⟩
  obtain ⟨hgitHash, -, hgitHashNull⟩ := byteSpanU8Validate_eq_ok hspans.1
  obtain ⟨hdiagnostic, -, hdiagnosticNull⟩ := byteSpanU8Validate_eq_ok hspans.2
  have hgitHashLen := (Counted.contents_eq hgitHashNull).2
  have hdiagnosticLen := (Counted.contents_eq hdiagnosticNull).2
  have hfixed : systemInfoResponseFixedEncodeSize = 14 := rfl
  let versions := encodeU16Le data.applicationProtocolMajor
    ++ encodeU16Le data.applicationProtocolMinor ++ encodeU16Le data.applicationProtocolPatch
    ++ encodeU16Le data.firmwareVersionMajor ++ encodeU16Le data.firmwareVersionMinor
    ++ encodeU16Le data.firmwareVersionPatch
  have hversions : versions.length = 12 := rfl
  have hlen : (versions
      ++ (UInt8.ofNat data.diagnosticData.count :: data.diagnosticData.elements)
      ++ (UInt8.ofNat data.firmwareGitHash.count :: data.firmwareGitHash.elements)).length
      = systemInfoResponseFixedEncodeSize
        + (data.firmwareGitHash.count + data.diagnosticData.count) := by
    simp only [List.length_append, List.length_cons, hversions]
    omega
  refine .of_eq _ _ hlen ?_ fun capacity => ?_
  · rw [systemInfoResponseSize, if_neg hversion, hvalid, ok_bind,
      checkedAddSize_of_le (le_sizeMax (by omega)), checked]
  · rw [systemInfoResponseEncode, if_neg hversion, Nat.add_assoc]
    split
    case isTrue => rfl
    case isFalse hroom =>
      dsimp only
      rw [byteSpanEncode_eq hdiagnostic hdiagnosticNull, if_neg (by
          show ¬ capacity - versions.length < _
          omega), ok_bind,
        byteSpanEncode_eq hgitHash hgitHashNull, if_neg (by
          rw [List.length_append, List.length_cons]
          show ¬ capacity - (versions.length + _) < _
          omega), ok_bind]
      rw [hlen]

/-! ## Test Configuration -/

omit [Target] in
/-- Every element that the validator accepts has an encoding of `width` bytes. -/
def EncodesValid {α : Type} (validator : α → Result Unit) (encoder : α → Result (List UInt8))
    (width : Nat) : Prop :=
  ∀ x, validator x = .ok () → ∃ bytes, encoder x = .ok bytes ∧ bytes.length = width

omit [Target] in
theorem EncodesValid.array {α : Type} {validator : α → Result Unit}
    {encoder : α → Result (List UInt8)} {width : Nat} (h : EncodesValid validator encoder width)
    {xs : List α} (hvalid : validateEach validator xs = .ok ()) :
    ∃ bytes, encodeConfigArray encoder xs = .ok bytes ∧ bytes.length = xs.length * width := by
  induction xs with
  | nil => exact ⟨[], rfl, by simp⟩
  | cons x xs ih =>
      rw [validateEach, bind_eq_ok] at hvalid
      obtain ⟨⟨⟩, hx, hxs⟩ := hvalid
      obtain ⟨bytes, hbytes, hwidth⟩ := h x hx
      obtain ⟨rest, hrest, hlen⟩ := ih hxs
      refine ⟨bytes ++ rest, by rw [encodeConfigArray, hbytes, ok_bind, hrest, ok_bind], ?_⟩
      rw [List.length_append, List.length_cons, Nat.succ_mul, hwidth, hlen, Nat.add_comm]

omit [Target] in
theorem ofSize_eq {expected : Nat} {bytes : List UInt8} (h : bytes.length = expected) :
    ofSize expected bytes = .ok bytes :=
  if_neg (not_not.mpr h)

omit [Target] in
theorem configVoltage_bound {voltage : Int} (h : configVoltageIsValid voltage) :
    0 ≤ voltage ∧ voltage ≤ 255 := by
  unfold configVoltageIsValid at h
  simp only [Bool.or_eq_true, beq_iff_eq] at h
  rcases h with ((rfl | rfl) | rfl) | rfl <;> decide

omit [Target] in
theorem digitalInputConfig_encodes :
    EncodesValid digitalInputConfigValidate digitalInputConfigEncode 2 := by
  intro data h
  unfold digitalInputConfigValidate at h
  have hvoltage : 0 ≤ data.voltageLevel ∧ data.voltageLevel ≤ 255 := by
    split at h
    case isTrue => exact absurd h (fail_ne_ok _ _)
    split at h
    case isTrue =>
      rw [beq_iff_eq.mp (okIf_eq_ok.mp h)]
      decide
    case isFalse => exact configVoltage_bound (okIf_eq_ok.mp h)
  obtain ⟨voltageLevel, hwire⟩ := exists_configEnumEncode data.voltageLevel hvoltage
  exact ⟨_, by rw [digitalInputConfigEncode, hwire, ok_bind], rfl⟩

omit [Target] in
theorem digitalOutputConfig_encodes :
    EncodesValid digitalOutputConfigValidate digitalOutputConfigEncode 3 := by
  intro data h
  unfold digitalOutputConfigValidate at h
  have hvoltage : 0 ≤ data.voltageLevel ∧ data.voltageLevel ≤ 255 := by
    split at h
    case isTrue => exact absurd h (fail_ne_ok _ _)
    split at h
    case isTrue =>
      have hinvalid := (Bool.and_eq_true_iff.mp (okIf_eq_ok.mp h)).1
      rw [beq_iff_eq.mp hinvalid]
      decide
    case isFalse => exact configVoltage_bound (okIf_eq_ok.mp h)
  obtain ⟨voltageLevel, hwire⟩ := exists_configEnumEncode data.voltageLevel hvoltage
  exact ⟨_, by rw [digitalOutputConfigEncode, hwire, ok_bind], rfl⟩

omit [Target] in
theorem analogInputConfig_encodes :
    EncodesValid analogInputConfigValidate analogInputConfigEncode 1 :=
  fun data _ => ⟨[data.enabled], rfl, rfl⟩

omit [Target] in
theorem analogOutputConfig_encodes :
    EncodesValid analogOutputConfigValidate analogOutputConfigEncode 1 :=
  fun data _ => ⟨[data.enabled], rfl, rfl⟩

omit [Target] in
theorem pwmInputConfig_encodes :
    EncodesValid pwmInputConfigValidate pwmInputConfigEncode 2 := by
  intro data h
  unfold pwmInputConfigValidate at h
  have hvoltage : 0 ≤ data.voltageLevel ∧ data.voltageLevel ≤ 255 := by
    split at h
    case isTrue => exact absurd h (fail_ne_ok _ _)
    split at h
    case isTrue =>
      rw [beq_iff_eq.mp (okIf_eq_ok.mp h)]
      decide
    case isFalse => exact configVoltage_bound (okIf_eq_ok.mp h)
  obtain ⟨voltageLevel, hwire⟩ := exists_configEnumEncode data.voltageLevel hvoltage
  exact ⟨_, by rw [pwmInputConfigEncode, hwire, ok_bind], rfl⟩

omit [Target] in
theorem pwmOutputConfig_encodes :
    EncodesValid pwmOutputConfigValidate pwmOutputConfigEncode 8 := by
  intro data h
  unfold pwmOutputConfigValidate at h
  have hvoltage : 0 ≤ data.voltageLevel ∧ data.voltageLevel ≤ 255 := by
    split at h
    case isTrue => exact absurd h (fail_ne_ok _ _)
    split at h
    case isTrue =>
      simp only [okIf_eq_ok, Bool.and_eq_true, beq_iff_eq] at h
      rw [h.1.1]
      decide
    case isFalse =>
      split at h
      case isTrue => exact absurd h (fail_ne_ok _ _)
      case isFalse hvalid => exact configVoltage_bound (by tauto)
  obtain ⟨voltageLevel, hwire⟩ := exists_configEnumEncode data.voltageLevel hvoltage
  exact ⟨_, by rw [pwmOutputConfigEncode, hwire, ok_bind, ofSize_eq (by simp)], by simp⟩

omit [Target] in
theorem canConfig_encodes : EncodesValid canConfigValidate canConfigEncode 9 := by
  intro data _
  exact ⟨_, by rw [canConfigEncode, ofSize_eq (by simp)], by simp⟩

omit [Target] in
theorem spiConfig_encodes : EncodesValid spiConfigValidate spiConfigEncode 10 := by
  intro data h
  have hfields : (0 ≤ data.role ∧ data.role ≤ 255) ∧ (0 ≤ data.dataWidth ∧ data.dataWidth ≤ 255)
      ∧ (0 ≤ data.bitOrder ∧ data.bitOrder ≤ 255)
      ∧ (0 ≤ data.clockPolarity ∧ data.clockPolarity ≤ 255)
      ∧ (0 ≤ data.clockPhase ∧ data.clockPhase ≤ 255) := by
    unfold spiConfigValidate at h
    split at h
    case isTrue => exact absurd h (fail_ne_ok _ _)
    split at h
    case isTrue =>
      simp only [okIf_eq_ok, Bool.and_eq_true, beq_iff_eq, BusRole.invalid] at h
      omega
    case isFalse =>
      split at h
      case isTrue => exact absurd h (fail_ne_ok _ _)
      case isFalse hvalid =>
        simp only [busRoleIsValid, BusRole.master, BusRole.slave, Bool.or_eq_true,
          beq_iff_eq] at hvalid
        omega
  obtain ⟨role, hrole⟩ := exists_configEnumEncode data.role hfields.1
  obtain ⟨dataWidth, hdataWidth⟩ := exists_configEnumEncode data.dataWidth hfields.2.1
  obtain ⟨bitOrder, hbitOrder⟩ := exists_configEnumEncode data.bitOrder hfields.2.2.1
  obtain ⟨clockPolarity, hclockPolarity⟩ :=
    exists_configEnumEncode data.clockPolarity hfields.2.2.2.1
  obtain ⟨clockPhase, hclockPhase⟩ := exists_configEnumEncode data.clockPhase hfields.2.2.2.2
  exact ⟨_, by rw [spiConfigEncode, hrole, ok_bind, hdataWidth, ok_bind, hbitOrder, ok_bind,
    hclockPolarity, ok_bind, hclockPhase, ok_bind, ofSize_eq (by simp)], by simp⟩

omit [Target] in
theorem uartConfig_encodes : EncodesValid uartConfigValidate uartConfigEncode 11 := by
  intro data h
  have hfields : (0 ≤ data.electricalMode ∧ data.electricalMode ≤ 255)
      ∧ (0 ≤ data.wordLength ∧ data.wordLength ≤ 255) ∧ (0 ≤ data.parity ∧ data.parity ≤ 255)
      ∧ (0 ≤ data.stopBits ∧ data.stopBits ≤ 255) := by
    unfold uartConfigValidate at h
    split at h
    case isTrue => exact absurd h (fail_ne_ok _ _)
    split at h
    case isTrue =>
      simp only [okIf_eq_ok, Bool.and_eq_true, beq_iff_eq] at h
      omega
    case isFalse =>
      split at h
      case isTrue => exact absurd h (fail_ne_ok _ _)
      case isFalse hvalid => omega
  obtain ⟨electricalMode, helectricalMode⟩ :=
    exists_configEnumEncode data.electricalMode hfields.1
  obtain ⟨wordLength, hwordLength⟩ := exists_configEnumEncode data.wordLength hfields.2.1
  obtain ⟨parity, hparity⟩ := exists_configEnumEncode data.parity hfields.2.2.1
  obtain ⟨stopBits, hstopBits⟩ := exists_configEnumEncode data.stopBits hfields.2.2.2
  exact ⟨_, by rw [uartConfigEncode, helectricalMode, ok_bind, hwordLength, ok_bind, hparity,
    ok_bind, hstopBits, ok_bind, ofSize_eq (by simp)], by simp⟩

omit [Target] in
/-- Only the configuration of an I2C channel that is off is valid. -/
theorem i2cConfigValidate_eq_ok {data : I2cConfig} (h : i2cConfigValidate data = .ok ()) :
    data.enabled = 0 ∧ data.role = 0 ∧ data.voltageLevel = 0 ∧ data.pullUp = 0 := by
  unfold i2cConfigValidate at h
  split at h
  case isTrue => exact absurd h (fail_ne_ok _ _)
  split at h
  case isTrue hoff =>
    simp only [okIf_eq_ok, Bool.and_eq_true, beq_iff_eq, BusRole.invalid] at h
    exact ⟨hoff, h.1.1.1.2, h.1.2, h.2⟩
  case isFalse => exact absurd h (fail_ne_ok _ _)

omit [Target] in
theorem i2cConfig_encodes : EncodesValid i2cConfigValidate i2cConfigEncode 10 := by
  intro data h
  obtain ⟨-, hrole, hvoltage, hpullUp⟩ := i2cConfigValidate_eq_ok h
  obtain ⟨role, hrole⟩ := exists_configEnumEncode data.role (by omega)
  obtain ⟨voltageLevel, hvoltage⟩ := exists_configEnumEncode data.voltageLevel (by omega)
  obtain ⟨pullUp, hpullUp⟩ := exists_configEnumEncode data.pullUp (by omega)
  exact ⟨_, by rw [i2cConfigEncode, hrole, ok_bind, hvoltage, ok_bind, hpullUp, ok_bind,
    ofSize_eq (by simp)], by simp⟩

omit [Target] in
/-- What the validator of a Test Configuration says of its arrays and its extension. -/
theorem testConfigurationValidate_eq_ok {context : Context} {data : TestConfiguration}
    (h : testConfigurationValidate context data = .ok ()) :
    byteSpanU8Validate context data.extensionData = .ok ()
      ∧ validateEach digitalInputConfigValidate data.digitalIn.toList = .ok ()
      ∧ validateEach digitalOutputConfigValidate data.digitalOut.toList = .ok ()
      ∧ validateEach analogInputConfigValidate data.analogIn.toList = .ok ()
      ∧ validateEach analogOutputConfigValidate data.analogOut.toList = .ok ()
      ∧ validateEach pwmInputConfigValidate data.pwmIn.toList = .ok ()
      ∧ validateEach pwmOutputConfigValidate data.pwmOut.toList = .ok ()
      ∧ validateEach canConfigValidate data.can.toList = .ok ()
      ∧ validateEach spiConfigValidate data.spi.toList = .ok ()
      ∧ validateEach uartConfigValidate data.uart.toList = .ok ()
      ∧ validateEach i2cConfigValidate data.i2c.toList = .ok () := by
  unfold testConfigurationValidate at h
  split at h
  case isTrue => exact absurd h (fail_ne_ok _ _)
  split at h
  case isTrue => exact absurd h (fail_ne_ok _ _)
  split at h
  case isTrue => exact absurd h (fail_ne_ok _ _)
  simp only [bind_eq_ok] at h
  obtain ⟨⟨⟩, hextension, ⟨⟩, hdigitalIn, ⟨⟩, hdigitalOut, ⟨⟩, hanalogIn, ⟨⟩, hanalogOut, ⟨⟩, hpwmIn,
    ⟨⟩, hpwmOut, ⟨⟩, hcan, ⟨⟩, hspi, ⟨⟩, huart, hi2c⟩ := h
  exact ⟨hextension, hdigitalIn, hdigitalOut, hanalogIn, hanalogOut, hpwmIn, hpwmOut, hcan, hspi,
    huart, hi2c⟩

theorem testConfiguration_exact {context : Context} {data : TestConfiguration}
    (hvalid : testConfigurationValidate context data = .ok ()) :
    Exact (testConfigurationSize data) (testConfigurationEncode data) := by
  obtain ⟨hextension, hdigitalIn, hdigitalOut, hanalogIn, hanalogOut, hpwmIn, hpwmOut, hcan, hspi,
    huart, hi2c⟩ := testConfigurationValidate_eq_ok hvalid
  obtain ⟨hle, -, hnull⟩ := byteSpanU8Validate_eq_ok hextension
  have hextensionLen := (Counted.contents_eq hnull).2
  obtain ⟨digitalIn, hdigitalIn, hdigitalInLen⟩ := digitalInputConfig_encodes.array hdigitalIn
  obtain ⟨digitalOut, hdigitalOut, hdigitalOutLen⟩ :=
    digitalOutputConfig_encodes.array hdigitalOut
  obtain ⟨analogIn, hanalogIn, hanalogInLen⟩ := analogInputConfig_encodes.array hanalogIn
  obtain ⟨analogOut, hanalogOut, hanalogOutLen⟩ := analogOutputConfig_encodes.array hanalogOut
  obtain ⟨pwmIn, hpwmIn, hpwmInLen⟩ := pwmInputConfig_encodes.array hpwmIn
  obtain ⟨pwmOut, hpwmOut, hpwmOutLen⟩ := pwmOutputConfig_encodes.array hpwmOut
  obtain ⟨can, hcan, hcanLen⟩ := canConfig_encodes.array hcan
  obtain ⟨spi, hspi, hspiLen⟩ := spiConfig_encodes.array hspi
  obtain ⟨uart, huart, huartLen⟩ := uartConfig_encodes.array huart
  obtain ⟨i2c, hi2c, hi2cLen⟩ := i2cConfig_encodes.array hi2c
  rw [List.Vector.toList_length] at hdigitalInLen hdigitalOutLen hanalogInLen hanalogOutLen
  rw [List.Vector.toList_length] at hpwmInLen hpwmOutLen hcanLen hspiLen huartLen hi2cLen
  let fixed := encodeU32Le data.tickDurationUs ++ encodeU32Le data.expectedTickCount
    ++ encodeU32Le data.flags ++ digitalIn ++ digitalOut ++ analogIn ++ analogOut ++ pwmIn
    ++ pwmOut ++ can ++ spi ++ uart ++ i2c
  have hfixed : fixed.length = 170 := by
    simp only [fixed, List.length_append, length_encodeU32Le]
    omega
  have hpayload : (fixed ++ (UInt8.ofNat data.extensionData.count :: data.extensionData.elements)
      ).length = testConfigFixedPayloadSize + data.extensionData.count := by
    rw [List.length_append, List.length_cons, hfixed, hextensionLen, testConfigFixedPayloadSize]
    omega
  have hsize : testConfigurationSize data
      = .ok (testConfigFixedPayloadSize + data.extensionData.count) := by
    have hmax : testConfigFixedPayloadSize + data.extensionData.count ≤ 0x1000000 := by
      rw [testConfigFixedPayloadSize]
      omega
    rw [testConfigurationSize, if_neg (by omega), checkedAddSize_of_le (le_sizeMax hmax), checked]
  refine .of_eq _ _ hpayload hsize fun capacity => ?_
  rw [testConfigurationEncode, hsize, ok_bind]
  split
  case isTrue => rfl
  case isFalse hroom =>
    rw [testConfigFixedPayloadSize] at hroom
    rw [hdigitalIn, ok_bind, hdigitalOut, ok_bind, hanalogIn, ok_bind, hanalogOut, ok_bind,
      hpwmIn, ok_bind, hpwmOut, ok_bind, hcan, ok_bind, hspi, ok_bind, huart, ok_bind, hi2c,
      ok_bind]
    show (byteSpanEncode data.extensionData (capacity - fixed.length) >>= _) = _
    rw [byteSpanEncode_eq hle hnull, if_neg (by omega), ok_bind, ofSize_eq hpayload, ok_bind,
      hpayload]

/-! ## Instructions and results -/

omit [Target] in
theorem testInstructions_exact (data : TestInstruction) :
    Exact (testInstructionsSize data) (testInstructionsEncode data) := by
  have hlen : (encodeU32Le data.tickNumber ++ data.digitalOutputs.toList
      ++ data.analogOutputs.toList.flatMap encodeU32Le
      ++ data.pwmOutputs.toList.flatMap pwmValueEncode).length
      = testInstructionFixedPayloadSize := by
    simp only [List.length_append, length_encodeU32Le, length_words, length_pwmValues,
      List.Vector.toList_length]
    rfl
  refine .of_eq _ _ hlen rfl fun capacity => ?_
  rw [testInstructionsEncode, ofSize_eq hlen, ok_bind, hlen]

omit [Target] in
/-- The records that a validator accepts have an encoding. -/
theorem exists_forms {fieldsValidate : Record → Result Unit} {maxDataSize : Nat}
    (hvalid : ∀ record, fieldsValidate record = .ok () → ValidRecord maxDataSize record)
    {records : List Record} {seen : List UInt16}
    (h : recordsValidate fieldsValidate seen records = .ok ()) :
    ∃ forms, alignedRecordsEncode records = .ok forms := by
  obtain ⟨wires, rfl, -⟩ := exists_wireRecords hvalid h
  exact exists_alignedRecordsEncode wires

theorem updateInstruction_exact {context : Context} (hinit : Initialized context)
    {data : UpdateInstruction} (hvalid : updateInstructionValidate context data = .ok ()) :
    Exact (updateInstructionSize data) (updateInstructionEncode data) := by
  obtain ⟨-, -, hsome, hrecords⟩ := (updateInstructionValidate_iff hinit).mp hvalid
  have hnull : ¬ (data.operations.count ≠ 0 ∧ data.operations.isNull) := by tauto
  obtain ⟨forms, hforms⟩ := exists_forms (fun record => validRecord_of_logicalOperation) hrecords
  refine .of_eq _ _ ?_ (updateInstructionSize_forms hnull hforms)
    (updateInstructionEncode_forms hnull hforms)
  simp [updateInstructionHeaderSize]
  omega

omit [Target] in
theorem testResultValidate_condition {context : Context} {data : TestResult}
    (h : testResultValidate context data = .ok ()) : resultConditionIsDefined data.condition := by
  unfold testResultValidate at h
  split at h
  case isTrue => exact absurd h (fail_ne_ok _ _)
  split at h
  case isTrue => exact absurd h (fail_ne_ok _ _)
  simp only [bind_eq_ok] at h
  obtain ⟨⟨⟩, -, ⟨⟩, -, hcondition⟩ := h
  exact okIf_eq_ok.mp hcondition

omit [Target] in
theorem testResult_exact {context : Context} {data : TestResult}
    (hvalid : testResultValidate context data = .ok ()) :
    Exact (testResultSize data) (testResultEncode data) := by
  obtain ⟨wireCondition, hcondition⟩ := exists_condition (testResultValidate_condition hvalid)
  have hlen : (encodeU32Le data.tickNumber ++ data.digitalInputs.toList
      ++ data.analogInputs.toList.flatMap encodeU32Le
      ++ data.pwmInputs.toList.flatMap pwmValueEncode
      ++ [wireCondition] ++ encodeU32Le data.problemDetail).length
      = testResultFixedPayloadSize := by
    simp only [List.length_append, length_encodeU32Le, length_words, length_pwmValues,
      List.Vector.toList_length]
    rfl
  refine .of_eq _ _ hlen rfl fun capacity => ?_
  rw [testResultEncode, enumToU8_eq_some.mpr hcondition, checked, ok_bind, ofSize_eq hlen, ok_bind,
    hlen]

theorem variableTestResult_exact {context : Context} (hinit : Initialized context)
    {data : VariableTestResult} (hvalid : variableTestResultValidate context data = .ok ()) :
    Exact (variableTestResultSize data) (variableTestResultEncode data) := by
  obtain ⟨-, -, hdefined, -, hnull, hrecords⟩ := (variableTestResultValidate_iff hinit).mp hvalid
  obtain ⟨condition, hcondition⟩ := exists_condition hdefined
  obtain ⟨forms, hforms⟩ := exists_forms (fun record => validRecord_of_capturedRecord) hrecords
  refine .of_eq _ _ ?_ (variableTestResultSize_forms hnull hforms)
    (variableTestResultEncode_forms hcondition hnull hforms)
  simp [variableTestResultHeaderSize]
  omega

/-! ## Controls, responses and errors -/

omit [Target] in
theorem executionControl_exact {context : Context} {data : ExecutionControl}
    (hvalid : executionControlValidate context data = .ok ()) :
    Exact (executionControlSize context data) (executionControlEncode data) := by
  have hcommand : 0 ≤ data.command ∧ data.command ≤ 255 := by
    unfold executionControlValidate at hvalid
    split at hvalid
    case isTrue => exact absurd hvalid (fail_ne_ok _ _)
    split at hvalid
    case isTrue => exact absurd hvalid (fail_ne_ok _ _)
    case isFalse => omega
  obtain ⟨wireCommand, hwire⟩ := exists_enumToU8 data.command hcommand
  refine .of_eq ([wireCommand] ++ encodeU32Le data.flags) controlFixedEncodeSize rfl ?_
    fun capacity => ?_
  · rw [executionControlSize, hvalid, ok_bind]
  · rw [executionControlEncode, hwire, checked, ok_bind]
    rfl

omit [Target] in
theorem globalControl_exact {context : Context} {data : GlobalControl}
    (hvalid : globalControlValidate context data = .ok ()) :
    Exact (globalControlSize context data) (globalControlEncode data) := by
  have hcommand : 0 ≤ data.command ∧ data.command ≤ 255 := by
    unfold globalControlValidate at hvalid
    split at hvalid
    case isTrue => exact absurd hvalid (fail_ne_ok _ _)
    split at hvalid
    case isTrue => exact absurd hvalid (fail_ne_ok _ _)
    case isFalse => omega
  obtain ⟨wireCommand, hwire⟩ := exists_enumToU8 data.command hcommand
  refine .of_eq ([wireCommand] ++ encodeU32Le data.flags) controlFixedEncodeSize rfl ?_
    fun capacity => ?_
  · rw [globalControlSize, hvalid, ok_bind]
  · rw [globalControlEncode, hwire, checked, ok_bind]
    rfl

omit [Target] in
theorem finalizeTestUpload_exact {context : Context} {data : FinalizeTestUpload}
    (hvalid : finalizeTestUploadValidate context data = .ok ()) :
    Exact (finalizeTestUploadSize context data) (finalizeTestUploadEncode context data) := by
  refine .of_eq (encodeU32Le data.flags) wireU32Size rfl ?_ fun capacity => ?_
  · rw [finalizeTestUploadSize, hvalid, ok_bind]
  · rw [finalizeTestUploadEncode, hvalid, ok_bind]

omit [Target] in
/-- The enumerators of a valid Response fit their bytes. -/
theorem responseValidate_eq_ok {context : Context} {data : Response}
    (h : responseValidate context data = .ok ()) :
    (0 ≤ data.scope ∧ data.scope ≤ 255) ∧ (0 ≤ data.outcome ∧ data.outcome ≤ 255)
      ∧ (0 ≤ data.reason ∧ data.reason ≤ 255)
      ∧ (0 ≤ data.controlCommand ∧ data.controlCommand ≤ 255)
      ∧ (0 ≤ data.globalControlCommand ∧ data.globalControlCommand ≤ 255) := by
  unfold responseValidate ResponseScope.testConfiguration ResponseScope.tick
    ResponseScope.completeTest ResponseScope.executionControl ResponseScope.globalControl at h
  split at h
  case isTrue => exact absurd h (fail_ne_ok _ _)
  split at h
  case isTrue => exact absurd h (fail_ne_ok _ _)
  split at h
  case isTrue => exact absurd h (fail_ne_ok _ _)
  split at h
  case isTrue => exact absurd h (fail_ne_ok _ _)
  split at h
  case isTrue => exact absurd h (fail_ne_ok _ _)
  split at h
  case isTrue => exact absurd h (fail_ne_ok _ _)
  case isFalse => omega

omit [Target] in
theorem response_exact {context : Context} {data : Response}
    (hvalid : responseValidate context data = .ok ()) :
    Exact (responseSize context data) (responseEncode context data) := by
  obtain ⟨hscope, houtcome, hreason, hcontrol, hglobal⟩ := responseValidate_eq_ok hvalid
  obtain ⟨wireScope, hscope⟩ := exists_enumToU8 data.scope hscope
  obtain ⟨wireOutcome, houtcome⟩ := exists_enumToU8 data.outcome houtcome
  obtain ⟨wireReason, hreason⟩ := exists_enumToU8 data.reason hreason
  obtain ⟨wireControl, hcontrol⟩ := exists_enumToU8 data.controlCommand hcontrol
  obtain ⟨wireGlobal, hglobal⟩ := exists_enumToU8 data.globalControlCommand hglobal
  refine .of_eq ([wireScope, wireOutcome, wireReason] ++ encodeU32Le data.tickNumber
    ++ [wireControl, wireGlobal] ++ encodeU32Le data.detail) responseFixedPayloadSize rfl ?_
    fun capacity => ?_
  · rw [responseSize, hvalid, ok_bind]
  · simp only [responseEncode, hvalid, hscope, houtcome, hreason, hcontrol, hglobal, checked,
      ok_bind]
    rw [ofSize_eq (by rfl)]
    rfl

omit [Target] in
theorem errorValidate_eq_ok {context : Context} {data : Error}
    (h : errorValidate context data = .ok ()) :
    (0 ≤ data.category ∧ data.category ≤ 255)
      ∧ byteSpanU8Validate context data.diagnosticData = .ok () := by
  unfold errorValidate at h
  split at h
  case isTrue => exact absurd h (fail_ne_ok _ _)
  split at h
  case isTrue => exact absurd h (fail_ne_ok _ _)
  case isFalse hfields =>
  split at h
  case isTrue => exact absurd h (fail_ne_ok _ _)
  split at h
  case isTrue => exact absurd h (fail_ne_ok _ _)
  exact ⟨by omega, h⟩

theorem error_exact {context : Context} {data : Error}
    (hvalid : errorValidate context data = .ok ()) :
    Exact (errorSize context data) (errorEncode context data) := by
  obtain ⟨hcategory, hspan⟩ := errorValidate_eq_ok hvalid
  obtain ⟨wireCategory, hcategory⟩ := exists_enumToU8 data.category hcategory
  obtain ⟨hle, -, hnull⟩ := byteSpanU8Validate_eq_ok hspan
  have hspanLen := (Counted.contents_eq hnull).2
  have hfixed : errorFixedPayloadSize = 12 := rfl
  have hsize := checkedAddSize_of_le
    (le_sizeMax (show errorFixedPayloadSize + data.diagnosticData.count ≤ 0x1000000 by omega))
  let fields := [wireCategory, data.recoverable, data.hasTickNumber]
    ++ encodeU32Le data.tickNumber ++ encodeU32Le data.detail
  have hfields : fields.length = 11 := rfl
  have hlen : (fields ++ (UInt8.ofNat data.diagnosticData.count :: data.diagnosticData.elements)
      ).length = errorFixedPayloadSize + data.diagnosticData.count := by
    rw [List.length_append, List.length_cons, hfields, hspanLen]
    omega
  refine .of_eq _ _ hlen (by rw [errorSize, hvalid, ok_bind, hsize, checked]) fun capacity => ?_
  rw [errorEncode, hvalid, ok_bind, hsize, checked, ok_bind]
  split
  case isTrue => rfl
  case isFalse hroom =>
    rw [hcategory, checked, ok_bind, ofSize_eq hfields, ok_bind, byteSpanEncode_eq hle hnull,
      if_neg (by omega), ok_bind, ofSize_eq hlen, ok_bind]

/-! ## Rig Status and Run Report -/

omit [Target] in
theorem failureValidate_eq_ok {source stage reason : Int}
    (h : failureValidate source stage reason = .ok ()) :
    (0 ≤ source ∧ source ≤ 255) ∧ (0 ≤ stage ∧ stage ≤ 255) := by
  unfold failureValidate FailureOrigin.sourceNone FailureOrigin.sourceExecutionTimer
    FailureOrigin.stageNone FailureOrigin.stageCleanup at h
  split at h
  case isTrue => exact absurd h (fail_ne_ok _ _)
  case isFalse => omega

omit [Target] in
theorem rigStatusValidate_eq_ok {context : Context} {data : RigStatus}
    (h : rigStatusValidate context data = .ok ()) :
    (0 ≤ data.origin ∧ data.origin ≤ 255) ∧ (0 ≤ data.state ∧ data.state ≤ 255)
      ∧ failureValidate data.failureSource data.failureStage data.failureReason = .ok () := by
  unfold rigStatusValidate RigState.initialising RigState.fault at h
  split at h
  case isTrue => exact absurd h (fail_ne_ok _ _)
  split at h
  case isTrue => exact absurd h (fail_ne_ok _ _)
  split at h
  case isTrue => exact absurd h (fail_ne_ok _ _)
  case isFalse hfields =>
  split at h
  case isTrue => exact absurd h (fail_ne_ok _ _)
  exact ⟨by omega, by omega, h⟩

omit [Target] in
theorem rigStatus_exact {context : Context} {data : RigStatus}
    (hvalid : rigStatusValidate context data = .ok ()) :
    Exact (rigStatusSize context data) (rigStatusEncode context data) := by
  obtain ⟨horigin, hstate, hfailure⟩ := rigStatusValidate_eq_ok hvalid
  obtain ⟨hsource, hstage⟩ := failureValidate_eq_ok hfailure
  obtain ⟨origin, horigin⟩ := exists_enumToU8 data.origin horigin
  obtain ⟨state, hstate⟩ := exists_enumToU8 data.state hstate
  obtain ⟨source, hsource⟩ := exists_enumToU8 data.failureSource hsource
  obtain ⟨stage, hstage⟩ := exists_enumToU8 data.failureStage hstage
  refine .of_eq (encodeU16Le data.schemaVersion ++ [origin, state] ++ encodeU32Le data.flags
    ++ [source, stage] ++ encodeU16Le (UInt16.ofInt data.failureReason)) rigStatusPayloadSize
    rfl ?_ fun capacity => ?_
  · rw [rigStatusSize, hvalid, ok_bind]
  · simp only [rigStatusEncode, hvalid, horigin, hstate, hsource, hstage, checked, ok_bind]

omit [Target] in
theorem runReportValidate_eq_ok {context : Context} {data : RunReport}
    (h : runReportValidate context data = .ok ()) :
    (0 ≤ data.runOutcome ∧ data.runOutcome ≤ 255)
      ∧ (0 ≤ data.executionOutcome ∧ data.executionOutcome ≤ 255)
      ∧ (0 ≤ data.resultStatus ∧ data.resultStatus ≤ 255)
      ∧ failureValidate data.failureSource data.failureStage data.failureReason = .ok ()
      ∧ byteSpanU8Validate context data.extensionData = .ok () := by
  unfold runReportValidate RunReportOutcome.runSuccess RunReportOutcome.runAborted
    RunReportOutcome.executionNotStarted RunReportOutcome.executionAborted
    RunReportOutcome.resultComplete RunReportOutcome.resultUnavailable at h
  split at h
  case isTrue => exact absurd h (fail_ne_ok _ _)
  split at h
  case isTrue => exact absurd h (fail_ne_ok _ _)
  split at h
  case isTrue => exact absurd h (fail_ne_ok _ _)
  case isFalse hfields =>
  split at h
  case isTrue => exact absurd h (fail_ne_ok _ _)
  rw [bind_eq_ok] at h
  obtain ⟨⟨⟩, hfailure, h⟩ := h
  split at h
  case isTrue => exact absurd h (fail_ne_ok _ _)
  split at h
  case isTrue => exact absurd h (fail_ne_ok _ _)
  split at h
  case isTrue => exact absurd h (fail_ne_ok _ _)
  split at h
  case isTrue => exact absurd h (fail_ne_ok _ _)
  split at h
  case isTrue => exact absurd h (fail_ne_ok _ _)
  split at h
  case isTrue => exact absurd h (fail_ne_ok _ _)
  split at h
  case isTrue => exact absurd h (fail_ne_ok _ _)
  exact ⟨by omega, by omega, by omega, hfailure, h⟩

theorem runReport_exact {context : Context} {data : RunReport}
    (hvalid : runReportValidate context data = .ok ()) :
    Exact (runReportSize context data) (runReportEncode context data) := by
  obtain ⟨hrun, hexecution, hresult, hfailure, hspan⟩ := runReportValidate_eq_ok hvalid
  obtain ⟨hsource, hstage⟩ := failureValidate_eq_ok hfailure
  obtain ⟨hle, -, hnull⟩ := byteSpanU8Validate_eq_ok hspan
  obtain ⟨hcontents, hspanLen⟩ := Counted.contents_eq hnull
  obtain ⟨runOutcome, hrun⟩ := exists_enumToU8 data.runOutcome hrun
  obtain ⟨executionOutcome, hexecution⟩ := exists_enumToU8 data.executionOutcome hexecution
  obtain ⟨resultStatus, hresult⟩ := exists_enumToU8 data.resultStatus hresult
  obtain ⟨source, hsource⟩ := exists_enumToU8 data.failureSource hsource
  obtain ⟨stage, hstage⟩ := exists_enumToU8 data.failureStage hstage
  have hsize : runReportSize context data
      = .ok (runReportFixedPayloadSize + data.extensionData.count) := by
    have hmax : runReportFixedPayloadSize + data.extensionData.count ≤ 0x1000000 := by
      rw [runReportFixedPayloadSize]
      omega
    rw [runReportSize, hvalid, ok_bind, checkedAddSize_of_le (le_sizeMax hmax), checked]
  let fixed := encodeU16Le data.schemaVersion
    ++ [runOutcome, executionOutcome, resultStatus, source, stage, 0]
    ++ encodeU16Le (UInt16.ofInt data.failureReason) ++ encodeU16Le 0
    ++ encodeU32Le data.validSections ++ encodeU32Le data.expectedTickCount
    ++ encodeU32Le data.tickPeriodUs ++ encodeU32Le data.lastCompletedBoundary
    ++ encodeU32Le data.resultTicksEmitted ++ runIsrTimingEncode data.isrTiming
    ++ runInstructionBufferEncode data.instructionBuffer
    ++ runResultBufferEncode data.resultBuffer ++ runFlashStatisticsEncode data.flash
    ++ [UInt8.ofNat data.extensionData.count]
  have hfixed : fixed.length = runReportFixedPayloadSize := by
    obtain ⟨hisr, hinstructions, hresults, hflash⟩ := length_runReportSections data
    simp only [fixed, List.length_append, List.length_cons, List.length_nil, length_encodeU16Le,
      length_encodeU32Le, hisr, hinstructions, hresults, hflash]
    rfl
  have hlen : (fixed ++ data.extensionData.elements).length
      = runReportFixedPayloadSize + data.extensionData.count := by
    rw [List.length_append, hfixed, hspanLen]
  refine .of_eq _ _ hlen hsize fun capacity => ?_
  rw [runReportEncode, hsize, ok_bind]
  split
  case isTrue => rfl
  case isFalse =>
    rw [hrun, checked, ok_bind, hexecution, checked, ok_bind, hresult, checked, ok_bind, hsource,
      checked, ok_bind, hstage, checked, ok_bind, hcontents, ok_bind]

/-! ## Endpoint-defined containers -/

omit [Target] in
theorem arbitraryControl_exact {context : Context} {data : ArbitraryControl}
    (hvalid : arbitraryControlValidate context data = .ok ()) :
    Exact (arbitraryControlSize context data) (arbitraryControlEncode data) := by
  refine .of_eq (encodeU32Le data.controlId ++ encodeU32Le data.value) arbitraryControlPayloadSize
    rfl ?_ fun capacity => rfl
  rw [arbitraryControlSize, hvalid, ok_bind]

theorem arbitraryData_exact {context : Context} {data : ArbitraryData}
    (hvalid : arbitraryDataValidate context data = .ok ()) :
    Exact (arbitraryDataSize context data) (arbitraryDataEncode context data) := by
  have hspan : ¬ (data.payload.count > context.config.maxVariableDataSize
      ∨ (data.payload.count ≠ 0 ∧ data.payload.isNull)) := by
    have h := hvalid
    unfold arbitraryDataValidate at h
    split at h
    case isTrue => exact absurd h (fail_ne_ok _ _)
    split at h
    case isTrue => exact absurd h (fail_ne_ok _ _)
    case isFalse hspan => exact hspan
  push Not at hspan
  obtain ⟨hcontents, hspanLen⟩ := Counted.contents_eq fun h => hspan.2 h.1 h.2
  have hcount := data.payload.count_lt
  have hsize : arbitraryDataSize context data
      = .ok (arbitraryDataPrefixSize + data.payload.count) := by
    have hmax : arbitraryDataPrefixSize + data.payload.count ≤ 0x1000000 := by
      rw [arbitraryDataPrefixSize]
      omega
    rw [arbitraryDataSize, hvalid, ok_bind, checkedAddSize_of_le (le_sizeMax hmax), checked]
  have hlen : (encodeU32Le data.dataId ++ encodeU16Le (UInt16.ofNat data.payload.count)
      ++ data.payload.elements).length = arbitraryDataPrefixSize + data.payload.count := by
    rw [List.length_append, hspanLen]
    rfl
  refine .of_eq _ _ hlen hsize fun capacity => ?_
  rw [arbitraryDataEncode, hsize, ok_bind, hcontents, ok_bind]

/-! ## Messages -/

/-- The size of a valid body of this version is the room that its encoder wants. -/
theorem body_exact {context : Context} (hinit : Initialized context) {body : Body}
    (hvalid : bodyValidate context body = .ok ()) (hversion : ¬ body.ForeignVersion) :
    Exact (bodySize context body) (bodyEncode context body) := by
  cases body with
  | runReport data => exact runReport_exact hvalid
  | rigStatus data => exact rigStatus_exact hvalid
  | systemInfoRequest data => exact systemInfoRequest_exact hvalid hversion
  | systemInfoResponse data => exact systemInfoResponse_exact hvalid hversion
  | testConfiguration data => exact testConfiguration_exact hvalid
  | testInstruction data => exact testInstructions_exact data
  | updateInstruction data => exact updateInstruction_exact hinit hvalid
  | finalizeTestUpload data => exact finalizeTestUpload_exact hvalid
  | executionControl data => exact executionControl_exact hvalid
  | globalControl data => exact globalControl_exact hvalid
  | testResult data => exact testResult_exact hvalid
  | variableTestResult data => exact variableTestResult_exact hinit hvalid
  | response data => exact response_exact hvalid
  | error data => exact error_exact hvalid
  | arbitraryControl data => exact arbitraryControl_exact hvalid
  | arbitraryData data => exact arbitraryData_exact hvalid

/-- A body of another version has neither a size nor an encoding. -/
theorem foreignVersion_fails {context : Context} {body : Body} (hversion : body.ForeignVersion) :
    bodySize context body = fail .versionMismatch
      ∧ ∀ capacity, bodyEncode context body capacity = fail .versionMismatch := by
  cases body with
  | systemInfoRequest data => exact ⟨if_pos hversion, fun capacity => if_pos hversion⟩
  | systemInfoResponse data => exact ⟨if_pos hversion, fun capacity => if_pos hversion⟩
  | _ => exact absurd hversion id

/-- For every body that its validator accepts, the size function and the encoder of its
    family agree. -/
theorem body_sized {context : Context} (hinit : Initialized context) {body : Body}
    (hvalid : bodyValidate context body = .ok ()) :
    Sized (bodySize context body) (bodyEncode context body) := by
  by_cases hversion : body.ForeignVersion
  · exact .inr ⟨_, foreignVersion_fails hversion⟩
  · exact .inl (body_exact hinit hvalid hversion)

omit [Target] in
theorem validateMessage_eq_ok {context : Context} {message : Message}
    (h : validateMessage context message = .ok ()) :
    validateCommonMessageFields message = .ok () ∧ bodyValidate context message.body = .ok () := by
  unfold validateMessage at h
  split at h
  case isTrue => exact absurd h (fail_ne_ok _ _)
  rw [bind_eq_ok] at h
  obtain ⟨⟨⟩, hcommon, hbody⟩ := h
  exact ⟨hcommon, hbody⟩

omit [Target] in
theorem subtype_of_common {message : Message}
    (h : validateCommonMessageFields message = .ok ()) :
    0 ≤ message.subtype ∧ message.subtype ≤ 255 := by
  unfold validateCommonMessageFields validateEnvelopeFields validateEnvelopeSyntax
    subtypeIsRepresentable MessageSubtype.none MessageSubtype.basic at h
  simp only [bind_eq_ok] at h
  obtain ⟨⟨⟩, ⟨⟨⟩, hsyntax, -⟩, -⟩ := h
  split at hsyntax
  case isTrue => exact absurd hsyntax (fail_ne_ok _ _)
  case isFalse hrepresentable =>
    simp only [Bool.or_eq_true, beq_iff_eq] at hrepresentable
    omega

omit [Target] in
/-- The header of a message with valid common fields. -/
theorem exists_header {message : Message}
    (h : validateCommonMessageFields message = .ok ()) :
    ∃ header, header.length = headerSizeBytes ∧ ∀ capacity, headerSizeBytes ≤ capacity →
      headerEncoding message capacity = .ok header := by
  obtain ⟨wireSubtype, hwire⟩ := exists_enumToU8 message.subtype (subtype_of_common h)
  have hid : (if message.hasTestId = 1 then message.testId.toList
      else List.replicate 16 0).length = 16 := by
    split
    case isTrue => exact message.testId.toList_length
    case isFalse => exact List.length_replicate
  refine ⟨[protocolVersionMajor.toUInt8, protocolVersionMinor.toUInt8, message.hasTestId]
    ++ (if message.hasTestId = 1 then message.testId.toList else List.replicate 16 0)
    ++ [message.body.type.value, wireSubtype] ++ encodeU16Le 0, ?_, fun capacity hcapacity => ?_⟩
  · simp only [List.length_append, hid, length_encodeU16Le, List.length_cons, List.length_nil]
    rfl
  · rw [headerEncoding, if_neg (Nat.not_lt.mpr hcapacity), h, ok_bind, hwire, checked, ok_bind]

/-- Where the size is within the configured bound, encoding wants it and stores as many
    bytes. -/
theorem encodeInternal_wants {context : Context} (hinit : Initialized context)
    {message : Message} (hvalid : validateMessage context message = .ok ())
    {payload : List UInt8}
    (hpayload : Wants id (.status .bufferTooSmall) payload.length (payload, payload.length)
      (bodyEncode context message.body))
    (hmax : headerSizeBytes + payload.length ≤ context.config.maxEncodedMessageSize) :
    ∃ encoded, encoded.length = headerSizeBytes + payload.length ∧
      Wants id (.status .bufferTooSmall) encoded.length (encoded, encoded.length)
        (encodeInternal context message) := by
  obtain ⟨header, hheader, hencoding⟩ := exists_header (validateMessage_eq_ok hvalid).1
  have habsolute := hinit.maxMessage
  have hsize : headerSizeBytes = 23 := rfl
  have hlimit : absoluteMaxMessageSize = 65535 := rfl
  have hlen : (header.take (headerSizeBytes - 2) ++ encodeU16Le (UInt16.ofNat payload.length)
      ++ payload).length = headerSizeBytes + payload.length := by
    rw [List.length_append, List.length_append, List.length_take, length_encodeU16Le]
    omega
  refine ⟨_, hlen, Wants.of_guard fun capacity => ?_⟩
  rw [hlen, encodeInternal, if_neg hinit.initialized, hvalid, ok_bind]
  dsimp only [id]
  by_cases hheaderRoom : capacity < headerSizeBytes
  · rw [if_pos hheaderRoom, if_pos (by omega)]
    rfl
  rw [if_neg hheaderRoom, hencoding capacity (by omega), ok_bind]
  generalize hroom : (if capacity - headerSizeBytes
      > context.config.maxEncodedMessageSize - headerSizeBytes then
    context.config.maxEncodedMessageSize - headerSizeBytes else capacity - headerSizeBytes) = room
  have hmin : payload.length ≤ room ↔ headerSizeBytes + payload.length ≤ capacity := by
    rw [← hroom]
    split <;> omega
  rw [hpayload room]
  dsimp only [id]
  by_cases hfits : payload.length ≤ room
  · rw [if_pos hfits, ok_bind, if_neg (by have := hmin.mp hfits; omega)]
    dsimp only
    rw [if_neg (by omega), checkedAddSize_of_le (le_sizeMax (by omega)), checked, ok_bind,
      if_neg (by omega)]
  · rw [if_neg hfits, if_pos (by have := mt hmin.mpr hfits; omega)]
    rfl

/-- Where the size function fails or its result is over the configured bound, so does
    every encoding. -/
theorem encodeInternal_fails {context : Context} (hinit : Initialized context)
    {message : Message} (hvalid : validateMessage context message = .ok ())
    (hpayload : ∀ capacity,
      headerSizeBytes + capacity ≤ context.config.maxEncodedMessageSize →
        ∃ status, bodyEncode context message.body capacity = fail status) (capacity : Nat) :
    ∃ status, encodeInternal context message capacity = fail status := by
  obtain ⟨header, -, hencoding⟩ := exists_header (validateMessage_eq_ok hvalid).1
  have hminimum := hinit.minMessage
  have hleast : minCompleteMessageSize = headerSizeBytes + 5 := rfl
  rw [encodeInternal, if_neg hinit.initialized, hvalid, ok_bind]
  by_cases hheaderRoom : capacity < headerSizeBytes
  · exact ⟨.bufferTooSmall, if_pos hheaderRoom⟩
  rw [if_neg hheaderRoom, hencoding capacity (by omega), ok_bind]
  dsimp only
  generalize hroom : (if capacity - headerSizeBytes
      > context.config.maxEncodedMessageSize - headerSizeBytes then
    context.config.maxEncodedMessageSize - headerSizeBytes else capacity - headerSizeBytes) = room
  have hle : headerSizeBytes + room ≤ context.config.maxEncodedMessageSize := by
    rw [← hroom]
    split <;> omega
  obtain ⟨status, hstatus⟩ := hpayload room hle
  exact ⟨status, by rw [hstatus]; rfl⟩

/-- `HIL_APPLICATION_Encoded_Size` of a valid message is the room that encoding it wants,
    and fails where every encoding does. -/
theorem encodedSize_sized {context : Context} (hinit : Initialized context)
    {message : Message} (hvalid : validateMessage context message = .ok ()) :
    (∃ encoded, encodedSize context message = .ok encoded.length
      ∧ encoded.length ≤ context.config.maxEncodedMessageSize
      ∧ Wants id (.status .bufferTooSmall) encoded.length (encoded, encoded.length)
        (encodeInternal context message))
    ∨ (∃ failure, encodedSize context message = .error failure)
      ∧ ∀ capacity, ∃ status, encodeInternal context message capacity = fail status := by
  have habsolute := hinit.maxMessage
  have hlimit : absoluteMaxMessageSize = 65535 := rfl
  obtain ⟨hcommon, hbody⟩ := validateMessage_eq_ok hvalid
  unfold encodedSize
  rw [if_neg hinit.initialized, hcommon, ok_bind]
  rcases body_sized hinit hbody with ⟨payload, hsize, hpayload⟩ | ⟨status, hsize, hfails⟩
  · rw [hsize, ok_bind]
    by_cases hmax : headerSizeBytes + payload.length ≤ context.config.maxEncodedMessageSize
    · obtain ⟨encoded, hlen, hencoded⟩ := encodeInternal_wants hinit hvalid hpayload hmax
      refine .inl ⟨encoded, ?_, by omega, hencoded⟩
      rw [if_neg (by omega), checkedAddSize_of_le (le_sizeMax (by omega)), checked, ok_bind,
        if_neg (by omega), hlen]
    · refine .inr ⟨?_, encodeInternal_fails hinit hvalid fun capacity hcapacity =>
        ⟨.bufferTooSmall, hpayload.of_lt (show capacity < payload.length by omega)⟩⟩
      by_cases hlong : payload.length > 65535
      · exact ⟨_, if_pos hlong⟩
      · have hheader : headerSizeBytes = 23 := rfl
        rw [if_neg hlong, checkedAddSize_of_le (le_sizeMax (by omega)), checked, ok_bind,
          if_pos (by omega)]
        exact ⟨_, rfl⟩
  · exact .inr ⟨⟨_, by rw [hsize]; rfl⟩,
      encodeInternal_fails hinit hvalid fun capacity _ => ⟨status, hfails capacity⟩⟩

/-! ## The threshold -/

/-- For an initialized context and a message that `HIL_APPLICATION_Validate_Message`
    accepts: the encoded size is the one with which every buffer that has room for it is
    written, smaller buffers are too small, and where there is no encoded size no buffer
    is written. -/
theorem encoded_size_threshold {config : Config} {context : Context}
    (hinit : init config = .ok context) {message : Message}
    (hvalid : validateMessage context message = .ok ()) :
    (∀ size, encodedSize context message = .ok size ↔
      ∀ outBufferSize, size ≤ outBufferSize →
        (encodeMessage context message outBufferSize).result = .ok ()
          ∧ (encodeMessage context message outBufferSize).outputSize = size)
    ∧ (∀ size, encodedSize context message = .ok size →
        size ≤ context.config.maxEncodedMessageSize
          ∧ ∀ outBufferSize, outBufferSize < size →
            (encodeMessage context message outBufferSize).result = fail .bufferTooSmall
              ∧ (encodeMessage context message outBufferSize).outputSize = 0)
    ∧ (∀ failure, encodedSize context message = .error failure → ∀ outBufferSize,
        (∃ status, (encodeMessage context message outBufferSize).result = fail status)
          ∧ (encodeMessage context message outBufferSize).outputSize = 0) := by
  have hcontext := initialized_of_init hinit
  rcases encodedSize_sized hcontext hvalid with
    ⟨encoded, hsize, hmax, hencoded⟩ | ⟨⟨failure, hsize⟩, hfails⟩
  · rw [hsize]
    have hwritten : ∀ capacity, encoded.length ≤ capacity →
        encodeMessage context message capacity
          = { result := .ok (), outputSize := encoded.length, encodedMessage := encoded } := by
      intro capacity hcapacity
      rw [encodeMessage, hencoded.of_le hcapacity]
    refine ⟨fun size => ⟨fun h capacity hcapacity => ?_, fun h => ?_⟩, fun size h => ?_, nofun⟩
    · obtain rfl := Except.ok.inj h
      rw [hwritten capacity hcapacity]
      exact ⟨rfl, rfl⟩
    · obtain ⟨-, hreported⟩ := h (max size encoded.length) (Nat.le_max_left _ _)
      rw [hwritten _ (Nat.le_max_right _ _)] at hreported
      exact congrArg Except.ok hreported
    · obtain rfl := Except.ok.inj h
      refine ⟨hmax, fun capacity hcapacity => ?_⟩
      rw [encodeMessage, hencoded.of_lt hcapacity]
      exact ⟨rfl, rfl⟩
  · rw [hsize]
    have hrejected : ∀ capacity, (∃ status, (encodeMessage context message capacity).result
        = fail status) ∧ (encodeMessage context message capacity).outputSize = 0 := by
      intro capacity
      obtain ⟨status, hstatus⟩ := hfails capacity
      rw [encodeMessage, hstatus]
      exact ⟨⟨status, rfl⟩, rfl⟩
    refine ⟨fun size => ⟨nofun, fun h => ?_⟩, nofun, fun _ _ => hrejected⟩
    obtain ⟨status, hstatus⟩ := (hrejected size).1
    rw [(h size (Nat.le_refl _)).1] at hstatus
    exact absurd hstatus.symm (fail_ne_ok _ _)

omit [Target] in
/-- An Update Instruction with one UART record of three bytes takes 39 bytes. -/
theorem encoded_size_threshold_uart :
    let message : Message :=
      { subtype := 0, hasTestId := 1, testId := List.Vector.replicate 16 7
        body := .updateInstruction { tickNumber := 5, flags := 1
                                     operations := .array [{ peripheralType := 16, channel := 0
                                                             payload := .array [1, 2, 3]
                                                               (by decide) }] (by decide) } }
    @encodedSize .lp64 ⟨defaultConfig, 1⟩ message = .ok 39
      ∧ (@encodeMessage .lp64 ⟨defaultConfig, 1⟩ message 64).outputSize = 39
      ∧ (@encodeMessage .lp64 ⟨defaultConfig, 1⟩ message 38).outputSize = 0 := by
  intro message
  obtain ⟨hsize, hsmaller, -⟩ := @encoded_size_threshold .lp64 defaultConfig ⟨defaultConfig, 1⟩
    rfl message (by decide +kernel)
  have h : @encodedSize .lp64 ⟨defaultConfig, 1⟩ message = .ok 39 := by decide +kernel
  exact ⟨h, ((hsize 39).mp h 64 (by decide)).2, ((hsmaller 39 h).2 38 (by decide)).2⟩

end HilRigProtocol.Application
