/-
  The wire forms of the fixed fields of every family.

  Each field reader of a decoder accepts exactly what the encoder of the same value
  writes. The forms are spelled as in the encoders; an enumerator takes its byte.
-/
import HilRigProtocol.Application.Encoding
import HilRigProtocol.Application.Decoding

namespace HilRigProtocol.Application

open Library Library.Reader

/-! ## Configurations -/

theorem ofSize_eq_ok {expected : Nat} {bytes form : List UInt8} :
    ofSize expected bytes = .ok form ↔ form = bytes ∧ bytes.length = expected := by
  unfold ofSize
  split
  case isTrue h => simp [h]
  case isFalse h =>
    rw [Except.ok.injEq, eq_comm]
    simp only [not_not.mp h, and_true]

theorem reads_digitalInputConfig : Reads digitalInputConfigDecode fun data form =>
    digitalInputConfigEncode data = .ok form := by
  refine (reads_byte.bind fun _ => reads_enum.bind fun _ => reads_pure _).congr ?_
  rintro ⟨enabled, voltageLevel⟩ form
  simp [digitalInputConfigEncode, configEnumEncode, bind_eq_ok, checked_eq_ok, @eq_comm _ form]

theorem reads_digitalOutputConfig : Reads digitalOutputConfigDecode fun data form =>
    digitalOutputConfigEncode data = .ok form := by
  refine (reads_byte.bind fun _ => reads_enum.bind fun _ => reads_byte.bind fun _ =>
    reads_pure _).congr ?_
  rintro ⟨enabled, voltageLevel, initialHigh⟩ form
  simp [digitalOutputConfigEncode, configEnumEncode, bind_eq_ok, checked_eq_ok, @eq_comm _ form]

theorem reads_analogInputConfig : Reads analogInputConfigDecode fun data form =>
    analogInputConfigEncode data = .ok form := by
  refine (reads_byte.bind fun _ => reads_pure _).congr ?_
  rintro ⟨enabled⟩ form
  simp [analogInputConfigEncode, @eq_comm _ form]

theorem reads_analogOutputConfig : Reads analogOutputConfigDecode fun data form =>
    analogOutputConfigEncode data = .ok form := by
  refine (reads_byte.bind fun _ => reads_pure _).congr ?_
  rintro ⟨enabled⟩ form
  simp [analogOutputConfigEncode, @eq_comm _ form]

theorem reads_pwmInputConfig : Reads pwmInputConfigDecode fun data form =>
    pwmInputConfigEncode data = .ok form := by
  refine (reads_byte.bind fun _ => reads_enum.bind fun _ => reads_pure _).congr ?_
  rintro ⟨enabled, voltageLevel⟩ form
  simp [pwmInputConfigEncode, configEnumEncode, bind_eq_ok, checked_eq_ok, @eq_comm _ form]

theorem reads_pwmOutputConfig : Reads pwmOutputConfigDecode fun data form =>
    pwmOutputConfigEncode data = .ok form := by
  refine (reads_byte.bind fun _ => reads_enum.bind fun _ => reads_u32.bind fun _ =>
    reads_u16.bind fun _ => reads_pure _).congr ?_
  rintro ⟨enabled, voltageLevel, period, dutyCycle⟩ form
  simp [pwmOutputConfigEncode, configEnumEncode, bind_eq_ok, checked_eq_ok, ofSize_eq_ok]

theorem reads_canConfig : Reads canConfigDecode fun data form =>
    canConfigEncode data = .ok form := by
  refine (reads_byte.bind fun _ => reads_u32.bind fun _ => reads_u16.bind fun _ =>
    reads_u16.bind fun _ => reads_pure _).congr ?_
  rintro ⟨enabled, bitRate, filterId, filterMask⟩ form
  simp [canConfigEncode, ofSize_eq_ok]

theorem reads_spiConfig : Reads spiConfigDecode fun data form =>
    spiConfigEncode data = .ok form := by
  refine (reads_byte.bind fun _ => reads_u32.bind fun _ => reads_enum.bind fun _ =>
    reads_enum.bind fun _ => reads_enum.bind fun _ => reads_enum.bind fun _ =>
    reads_enum.bind fun _ => reads_pure _).congr ?_
  rintro ⟨enabled, bitRate, role, dataWidth, bitOrder, clockPolarity, clockPhase⟩ form
  simp [spiConfigEncode, configEnumEncode, bind_eq_ok, checked_eq_ok, ofSize_eq_ok, and_assoc]

theorem reads_uartConfig : Reads uartConfigDecode fun data form =>
    uartConfigEncode data = .ok form := by
  refine (reads_byte.bind fun _ => reads_u32.bind fun _ => reads_enum.bind fun _ =>
    reads_enum.bind fun _ => reads_enum.bind fun _ => reads_enum.bind fun _ =>
    reads_byte.bind fun _ => reads_byte.bind fun _ => reads_pure _).congr ?_
  rintro ⟨enabled, baudRate, electricalMode, wordLength, parity, stopBits, rxEnabled, txEnabled⟩
    form
  simp [uartConfigEncode, configEnumEncode, bind_eq_ok, checked_eq_ok, ofSize_eq_ok, and_assoc]

theorem reads_i2cConfig : Reads i2cConfigDecode fun data form =>
    i2cConfigEncode data = .ok form := by
  refine (reads_byte.bind fun _ => reads_u32.bind fun _ => reads_enum.bind fun _ =>
    reads_u16.bind fun _ => reads_enum.bind fun _ => reads_enum.bind fun _ =>
    reads_pure _).congr ?_
  rintro ⟨enabled, bitRate, role, ownAddress, voltageLevel, pullUp⟩ form
  simp [i2cConfigEncode, configEnumEncode, bind_eq_ok, checked_eq_ok, ofSize_eq_ok, and_assoc]

theorem encodeConfigArray_iff {α : Type} {encoder : α → Result (List UInt8)} {xs : List α}
    {form : List UInt8} :
    Each (fun x e => encoder x = .ok e) xs form ↔ encodeConfigArray encoder xs = .ok form := by
  induction xs generalizing form with
  | nil => simp [each_nil, encodeConfigArray, eq_comm]
  | cons x xs ih =>
      rw [each_cons, encodeConfigArray]
      simp only [bind_eq_ok, ih, Except.ok.injEq]
      constructor
      · rintro ⟨front, back, hfront, hback, rfl⟩
        exact ⟨front, hfront, back, hback, rfl⟩
      · rintro ⟨front, hfront, back, hback, rfl⟩
        exact ⟨front, back, hfront, hback, rfl⟩

/-- The array macro writes what its reader accepts. -/
theorem reads_configArray {α : Type} {decoder : Reader α} {encoder : α → Result (List UInt8)}
    (h : Reads decoder fun data form => encoder data = .ok form) (n : Nat) :
    Reads (vector decoder n) fun data form => encodeConfigArray encoder data.toList = .ok form :=
  (h.vector n).congr fun _ _ => encodeConfigArray_iff

/-! ## Widths of configurations -/

theorem length_digitalInputConfig {data : DigitalInputConfig} {form : List UInt8}
    (h : digitalInputConfigEncode data = .ok form) : form.length = 2 := by
  simp only [digitalInputConfigEncode, bind_eq_ok, Except.ok.injEq] at h
  obtain ⟨_, -, rfl⟩ := h
  rfl

theorem length_digitalOutputConfig {data : DigitalOutputConfig} {form : List UInt8}
    (h : digitalOutputConfigEncode data = .ok form) : form.length = 3 := by
  simp only [digitalOutputConfigEncode, bind_eq_ok, Except.ok.injEq] at h
  obtain ⟨_, -, rfl⟩ := h
  rfl

theorem length_analogInputConfig {data : AnalogInputConfig} {form : List UInt8}
    (h : analogInputConfigEncode data = .ok form) : form.length = 1 := by
  obtain rfl := Except.ok.inj h
  rfl

theorem length_analogOutputConfig {data : AnalogOutputConfig} {form : List UInt8}
    (h : analogOutputConfigEncode data = .ok form) : form.length = 1 := by
  obtain rfl := Except.ok.inj h
  rfl

theorem length_pwmInputConfig {data : PwmInputConfig} {form : List UInt8}
    (h : pwmInputConfigEncode data = .ok form) : form.length = 2 := by
  simp only [pwmInputConfigEncode, bind_eq_ok, Except.ok.injEq] at h
  obtain ⟨_, -, rfl⟩ := h
  rfl

theorem length_pwmOutputConfig {data : PwmOutputConfig} {form : List UInt8}
    (h : pwmOutputConfigEncode data = .ok form) : form.length = 8 := by
  simp only [pwmOutputConfigEncode, bind_eq_ok, ofSize_eq_ok] at h
  obtain ⟨_, -, rfl, hlen⟩ := h
  exact hlen

theorem length_canConfig {data : CanConfig} {form : List UInt8}
    (h : canConfigEncode data = .ok form) : form.length = 9 := by
  obtain ⟨rfl, hlen⟩ := ofSize_eq_ok.mp h
  exact hlen

theorem length_spiConfig {data : SpiConfig} {form : List UInt8}
    (h : spiConfigEncode data = .ok form) : form.length = 10 := by
  simp only [spiConfigEncode, bind_eq_ok, ofSize_eq_ok] at h
  obtain ⟨_, -, _, -, _, -, _, -, _, -, rfl, hlen⟩ := h
  exact hlen

theorem length_uartConfig {data : UartConfig} {form : List UInt8}
    (h : uartConfigEncode data = .ok form) : form.length = 11 := by
  simp only [uartConfigEncode, bind_eq_ok, ofSize_eq_ok] at h
  obtain ⟨_, -, _, -, _, -, _, -, rfl, hlen⟩ := h
  exact hlen

theorem length_i2cConfig {data : I2cConfig} {form : List UInt8}
    (h : i2cConfigEncode data = .ok form) : form.length = 10 := by
  simp only [i2cConfigEncode, bind_eq_ok, ofSize_eq_ok] at h
  obtain ⟨_, -, _, -, _, -, rfl, hlen⟩ := h
  exact hlen

theorem length_configArray {α : Type} {encoder : α → Result (List UInt8)} {width n : Nat}
    (hwidth : ∀ {x form}, encoder x = .ok form → form.length = width) {xs : List.Vector α n}
    {form : List UInt8} (h : encodeConfigArray encoder xs.toList = .ok form) :
    form.length = n * width := by
  have heach := encodeConfigArray_iff.mpr h
  rw [heach.length_eq fun _ _ => hwidth, xs.toList_length]

/-! ## Test Configurations -/

/-- The fixed fields of a Test Configuration on the wire. -/
def TestConfiguration.Form (data : TestConfiguration) (form : List UInt8) : Prop :=
  ∃ digitalIn digitalOut analogIn analogOut pwmIn pwmOut can spi uart i2c,
    encodeConfigArray digitalInputConfigEncode data.digitalIn.toList = .ok digitalIn
      ∧ encodeConfigArray digitalOutputConfigEncode data.digitalOut.toList = .ok digitalOut
      ∧ encodeConfigArray analogInputConfigEncode data.analogIn.toList = .ok analogIn
      ∧ encodeConfigArray analogOutputConfigEncode data.analogOut.toList = .ok analogOut
      ∧ encodeConfigArray pwmInputConfigEncode data.pwmIn.toList = .ok pwmIn
      ∧ encodeConfigArray pwmOutputConfigEncode data.pwmOut.toList = .ok pwmOut
      ∧ encodeConfigArray canConfigEncode data.can.toList = .ok can
      ∧ encodeConfigArray spiConfigEncode data.spi.toList = .ok spi
      ∧ encodeConfigArray uartConfigEncode data.uart.toList = .ok uart
      ∧ encodeConfigArray i2cConfigEncode data.i2c.toList = .ok i2c
      ∧ form = encodeU32Le data.tickDurationUs ++ encodeU32Le data.expectedTickCount
        ++ encodeU32Le data.flags ++ digitalIn ++ digitalOut ++ analogIn ++ analogOut ++ pwmIn
        ++ pwmOut ++ can ++ spi ++ uart ++ i2c

theorem reads_testConfiguration : Reads testConfigurationFields fun data form =>
    data.extensionData = emptySpan ∧ data.Form form := by
  refine (reads_u32.bind fun _ => reads_u32.bind fun _ => reads_u32.bind fun _ =>
    (reads_configArray reads_digitalInputConfig 10).bind fun _ =>
    (reads_configArray reads_digitalOutputConfig 10).bind fun _ =>
    (reads_configArray reads_analogInputConfig 2).bind fun _ =>
    (reads_configArray reads_analogOutputConfig 6).bind fun _ =>
    (reads_configArray reads_pwmInputConfig 2).bind fun _ =>
    (reads_configArray reads_pwmOutputConfig 2).bind fun _ =>
    (reads_configArray reads_canConfig 2).bind fun _ =>
    (reads_configArray reads_spiConfig 2).bind fun _ =>
    (reads_configArray reads_uartConfig 2).bind fun _ =>
    (reads_configArray reads_i2cConfig 2).bind fun _ => reads_pure _).congr ?_
  rintro ⟨tickDuration, tickCount, flags, digitalIn, digitalOut, analogIn, analogOut, pwmIn, pwmOut,
    can, spi, uart, i2c, extensionData⟩ form
  by_cases hempty : extensionData = emptySpan <;>
    simp [TestConfiguration.Form, and_assoc, hempty]

/-- The fixed fields have 170 bytes, the I2C channels in the last twenty of them. -/
theorem TestConfiguration.Form.split {data : TestConfiguration} {form : List UInt8}
    (h : data.Form form) : ∃ front i2c, form = front ++ i2c ∧ front.length = 150
      ∧ encodeConfigArray i2cConfigEncode data.i2c.toList = .ok i2c ∧ i2c.length = 20 := by
  obtain ⟨digitalIn, digitalOut, analogIn, analogOut, pwmIn, pwmOut, can, spi, uart, i2c,
    hdigitalIn, hdigitalOut, hanalogIn, hanalogOut, hpwmIn, hpwmOut, hcan, hspi, huart, hi2c,
    rfl⟩ := h
  have hdigitalIn := length_configArray length_digitalInputConfig hdigitalIn
  have hdigitalOut := length_configArray length_digitalOutputConfig hdigitalOut
  have hanalogIn := length_configArray length_analogInputConfig hanalogIn
  have hanalogOut := length_configArray length_analogOutputConfig hanalogOut
  have hpwmIn := length_configArray length_pwmInputConfig hpwmIn
  have hpwmOut := length_configArray length_pwmOutputConfig hpwmOut
  have hcan := length_configArray length_canConfig hcan
  have hspi := length_configArray length_spiConfig hspi
  have huart := length_configArray length_uartConfig huart
  refine ⟨_, i2c, rfl, ?_, hi2c, length_configArray length_i2cConfig hi2c⟩
  simp only [List.length_append, length_encodeU32Le, hdigitalIn, hdigitalOut, hanalogIn, hanalogOut,
    hpwmIn, hpwmOut, hcan, hspi, huart]

theorem i2cConfig_front {data : I2cConfig} {form : List UInt8}
    (h : i2cConfigEncode data = .ok form) : ∃ rest, form = data.enabled :: rest := by
  simp only [i2cConfigEncode, bind_eq_ok, ofSize_eq_ok] at h
  obtain ⟨_, -, _, -, _, -, rfl, -⟩ := h
  exact ⟨_, rfl⟩

/-- Where the two enable bytes of the I2C channels stand. -/
theorem TestConfiguration.Form.i2c_enabled {data : TestConfiguration} {form : List UInt8}
    (h : data.Form form) : ∃ first second, data.i2c.toList = [first, second]
      ∧ form[150]? = some first.enabled ∧ form[160]? = some second.enabled := by
  obtain ⟨front, i2c, rfl, hfront, hi2c, -⟩ := h.split
  obtain ⟨first, second, hlist⟩ := List.length_eq_two.mp data.i2c.toList_length
  rw [hlist] at hi2c
  simp only [encodeConfigArray, bind_eq_ok, Except.ok.injEq] at hi2c
  obtain ⟨firstForm, hfirst, _, ⟨secondForm, hsecond, _, rfl, rfl⟩, rfl⟩ := hi2c
  have hlen := length_i2cConfig hfirst
  obtain ⟨firstRest, rfl⟩ := i2cConfig_front hfirst
  obtain ⟨secondRest, rfl⟩ := i2cConfig_front hsecond
  refine ⟨first, second, hlist, ?_, ?_⟩
  · rw [List.getElem?_append_right (by omega), hfront]
    rfl
  · rw [List.getElem?_append_right (by omega), hfront,
      List.getElem?_append_right (by omega), hlen]
    rfl

/-! ## System Information -/

/-- A System Information Request on the wire. -/
def SystemInfoRequest.Form (data : SystemInfoRequest) (form : List UInt8) : Prop :=
  ∃ wireQuery, enumToU8 data.query = some wireQuery ∧
    form = [data.requestFirmwareGitHash, wireQuery]
      ++ encodeU16Le data.applicationProtocolMajor ++ encodeU16Le data.applicationProtocolMinor
      ++ encodeU16Le data.applicationProtocolPatch

theorem reads_systemInfoRequest : Reads systemInfoRequestFields SystemInfoRequest.Form := by
  refine (reads_byte.bind fun _ => reads_enum.bind fun _ => reads_u16.bind fun _ =>
    reads_u16.bind fun _ => reads_u16.bind fun _ => reads_pure _).congr ?_
  rintro ⟨gitHash, query, major, minor, patch⟩ form
  simp [SystemInfoRequest.Form]

/-- The versions of a System Information Response, in front of its spans. -/
def SystemInfoResponse.Form (data : SystemInfoResponse) (form : List UInt8) : Prop :=
  form = encodeU16Le data.applicationProtocolMajor ++ encodeU16Le data.applicationProtocolMinor
    ++ encodeU16Le data.applicationProtocolPatch ++ encodeU16Le data.firmwareVersionMajor
    ++ encodeU16Le data.firmwareVersionMinor ++ encodeU16Le data.firmwareVersionPatch

theorem reads_systemInfoResponse : Reads systemInfoResponseFields fun data form =>
    data.firmwareGitHash = emptySpan ∧ data.diagnosticData = emptySpan ∧ data.Form form := by
  refine (reads_u16.bind fun _ => reads_u16.bind fun _ => reads_u16.bind fun _ =>
    reads_u16.bind fun _ => reads_u16.bind fun _ => reads_u16.bind fun _ =>
    reads_pure _).congr ?_
  rintro ⟨major, minor, patch, firmwareMajor, firmwareMinor, firmwarePatch, gitHash, diagnostic⟩ form
  simp [SystemInfoResponse.Form, and_assoc]

/-! ## Instructions and results -/

theorem reads_pwmValue : Reads pwmValueDecode fun data form => form = pwmValueEncode data := by
  refine (reads_u32.bind fun _ => reads_u16.bind fun _ => reads_pure _).congr ?_
  rintro ⟨period, dutyCycle⟩ form
  simp [pwmValueEncode]

theorem reads_flatMap {α : Type} {r : Reader α} {f : α → List UInt8}
    (h : Reads r fun x form => form = f x) (n : Nat) :
    Reads (vector r n) fun xs form => form = xs.toList.flatMap f :=
  (h.vector n).congr fun _ _ => each_eq

theorem length_pwmValues (values : List PwmValue) :
    (values.flatMap pwmValueEncode).length = values.length * 6 := by
  induction values with
  | nil => rfl
  | cons value values ih =>
      rw [List.flatMap_cons, List.length_append, ih, List.length_cons, pwmValueEncode,
        List.length_append, length_encodeU32Le, length_encodeU16Le]
      omega

theorem length_words (values : List UInt32) :
    (values.flatMap encodeU32Le).length = values.length * 4 := by
  induction values with
  | nil => rfl
  | cons value values ih =>
      rw [List.flatMap_cons, List.length_append, ih, List.length_cons, length_encodeU32Le]
      omega

/-- A Test Instruction on the wire. -/
def TestInstruction.Form (data : TestInstruction) (form : List UInt8) : Prop :=
  form = encodeU32Le data.tickNumber ++ data.digitalOutputs.toList
    ++ data.analogOutputs.toList.flatMap encodeU32Le
    ++ data.pwmOutputs.toList.flatMap pwmValueEncode

theorem reads_testInstruction : Reads testInstructionFields TestInstruction.Form := by
  refine (reads_u32.bind fun _ => (reads_bytes 10).bind fun _ =>
    (reads_flatMap reads_u32 6).bind fun _ => (reads_flatMap reads_pwmValue 2).bind fun _ =>
    reads_pure _).congr ?_
  rintro ⟨tickNumber, digitalOutputs, analogOutputs, pwmOutputs⟩ form
  simp [TestInstruction.Form]

/-- A Test Result on the wire. -/
def TestResult.Form (data : TestResult) (form : List UInt8) : Prop :=
  ∃ wireCondition, enumToU8 data.condition = some wireCondition ∧
    form = encodeU32Le data.tickNumber ++ data.digitalInputs.toList
      ++ data.analogInputs.toList.flatMap encodeU32Le
      ++ data.pwmInputs.toList.flatMap pwmValueEncode
      ++ [wireCondition] ++ encodeU32Le data.problemDetail

theorem reads_testResult : Reads testResultFields TestResult.Form := by
  refine (reads_u32.bind fun _ => (reads_bytes 10).bind fun _ =>
    (reads_flatMap reads_u32 2).bind fun _ => (reads_flatMap reads_pwmValue 2).bind fun _ =>
    reads_enum.bind fun _ => reads_u32.bind fun _ => reads_pure _).congr ?_
  rintro ⟨tickNumber, digitalInputs, analogInputs, pwmInputs, condition, problemDetail⟩ form
  simp [TestResult.Form]

/-! ## Controls, responses and errors -/

/-- An Execution Control on the wire. -/
def ExecutionControl.Form (data : ExecutionControl) (form : List UInt8) : Prop :=
  ∃ wireCommand, enumToU8 data.command = some wireCommand ∧
    form = [wireCommand] ++ encodeU32Le data.flags

theorem reads_executionControl : Reads executionControlFields ExecutionControl.Form := by
  refine (reads_enum.bind fun _ => reads_u32.bind fun _ => reads_pure _).congr ?_
  rintro ⟨command, flags⟩ form
  simp [ExecutionControl.Form]

/-- A Global Control on the wire. -/
def GlobalControl.Form (data : GlobalControl) (form : List UInt8) : Prop :=
  ∃ wireCommand, enumToU8 data.command = some wireCommand ∧
    form = [wireCommand] ++ encodeU32Le data.flags

theorem reads_globalControl : Reads globalControlFields GlobalControl.Form := by
  refine (reads_enum.bind fun _ => reads_u32.bind fun _ => reads_pure _).congr ?_
  rintro ⟨command, flags⟩ form
  simp [GlobalControl.Form]

/-- A Finalize Test Upload on the wire. -/
def FinalizeTestUpload.Form (data : FinalizeTestUpload) (form : List UInt8) : Prop :=
  form = encodeU32Le data.flags

theorem reads_finalizeTestUpload : Reads finalizeTestUploadFields FinalizeTestUpload.Form := by
  refine (reads_u32.bind fun _ => reads_pure _).congr ?_
  rintro ⟨flags⟩ form
  simp [FinalizeTestUpload.Form]

/-- A Response on the wire. -/
def Response.Form (data : Response) (form : List UInt8) : Prop :=
  ∃ wireScope wireOutcome wireReason wireControl wireGlobal,
    enumToU8 data.scope = some wireScope ∧ enumToU8 data.outcome = some wireOutcome
      ∧ enumToU8 data.reason = some wireReason
      ∧ enumToU8 data.controlCommand = some wireControl
      ∧ enumToU8 data.globalControlCommand = some wireGlobal
      ∧ form = [wireScope, wireOutcome, wireReason] ++ encodeU32Le data.tickNumber
        ++ [wireControl, wireGlobal] ++ encodeU32Le data.detail

theorem reads_response : Reads responseFields Response.Form := by
  refine (reads_enum.bind fun _ => reads_enum.bind fun _ => reads_enum.bind fun _ =>
    reads_u32.bind fun _ => reads_enum.bind fun _ => reads_enum.bind fun _ =>
    reads_u32.bind fun _ => reads_pure _).congr ?_
  rintro ⟨scope, outcome, reason, tickNumber, controlCommand, globalControlCommand, detail⟩ form
  simp [Response.Form, and_assoc]

/-- The fields of an Error in front of its span. -/
def Error.Form (data : Error) (form : List UInt8) : Prop :=
  ∃ wireCategory, enumToU8 data.category = some wireCategory ∧
    form = [wireCategory, data.recoverable, data.hasTickNumber]
      ++ encodeU32Le data.tickNumber ++ encodeU32Le data.detail

theorem reads_error : Reads errorFields fun data form =>
    data.diagnosticData = emptySpan ∧ data.Form form := by
  refine (reads_enum.bind fun _ => reads_byte.bind fun _ => reads_byte.bind fun _ =>
    reads_u32.bind fun _ => reads_u32.bind fun _ => reads_pure _).congr ?_
  rintro ⟨category, recoverable, hasTickNumber, tickNumber, detail, diagnosticData⟩ form
  by_cases hempty : diagnosticData = emptySpan <;> simp [Error.Form, hempty]

/-! ## Rig Status and Run Report -/

theorem reads_u16Enum : Reads readU16Enum fun value form =>
    ∃ word : UInt16, value = (word.toNat : Int) ∧ form = encodeU16Le word := by
  refine (reads_u16.bind fun _ => reads_pure _).congr ?_
  intro value form
  simp

/-- A Rig Status on the wire. -/
def RigStatus.Form (data : RigStatus) (form : List UInt8) : Prop :=
  ∃ origin state source stage, ∃ reason : UInt16,
    enumToU8 data.origin = some origin ∧ enumToU8 data.state = some state
      ∧ enumToU8 data.failureSource = some source ∧ enumToU8 data.failureStage = some stage
      ∧ data.failureReason = (reason.toNat : Int)
      ∧ form = encodeU16Le data.schemaVersion ++ [origin, state] ++ encodeU32Le data.flags
        ++ [source, stage] ++ encodeU16Le reason

theorem reads_rigStatus : Reads rigStatusFields RigStatus.Form := by
  refine (reads_u16.bind fun _ => reads_enum.bind fun _ => reads_enum.bind fun _ =>
    reads_u32.bind fun _ => reads_enum.bind fun _ => reads_enum.bind fun _ =>
    reads_u16Enum.bind fun _ => reads_pure _).congr ?_
  rintro ⟨schemaVersion, origin, state, flags, source, stage, reason⟩ form
  simp [RigStatus.Form, and_assoc]

theorem reads_runIsrTiming : Reads runIsrTimingDecode fun data form =>
    form = runIsrTimingEncode data := by
  refine (reads_u32.bind fun _ => reads_u64.bind fun _ => reads_u32.bind fun _ =>
    reads_u32.bind fun _ => reads_u32.bind fun _ => reads_pure _).congr ?_
  rintro ⟨sampleCount, total, minimum, maximum, boundary⟩ form
  simp [runIsrTimingEncode]

theorem reads_runInstructionBuffer : Reads runInstructionBufferDecode fun data form =>
    form = runInstructionBufferEncode data := by
  refine (reads_u32.bind fun _ => reads_u32.bind fun _ => reads_u32.bind fun _ =>
    reads_pure _).congr ?_
  rintro ⟨sampleCount, unread, boundary⟩ form
  simp [runInstructionBufferEncode]

theorem reads_runResultBuffer : Reads runResultBufferDecode fun data form =>
    form = runResultBufferEncode data := by
  refine (reads_u32.bind fun _ => reads_u32.bind fun _ => reads_u32.bind fun _ =>
    reads_u32.bind fun _ => reads_u32.bind fun _ => reads_u32.bind fun _ =>
    reads_pure _).congr ?_
  rintro ⟨records, bytes, pending, boundary, reserve, commit⟩ form
  simp [runResultBufferEncode]

theorem reads_runFlashStatistics : Reads runFlashStatisticsDecode fun data form =>
    form = runFlashStatisticsEncode data := by
  refine (reads_u32.bind fun _ => reads_u64.bind fun _ => reads_u64.bind fun _ =>
    reads_u32.bind fun _ => reads_u32.bind fun _ => reads_u64.bind fun _ =>
    reads_u64.bind fun _ => reads_u32.bind fun _ => reads_u32.bind fun _ =>
    reads_u64.bind fun _ => reads_u32.bind fun _ => reads_u32.bind fun _ =>
    reads_u64.bind fun _ => reads_u32.bind fun _ => reads_u32.bind fun _ =>
    reads_pure _).congr ?_
  rintro ⟨pages, bytes, drain, drainMax, refilled, refilledBytes, refill, refillMax, publishes,
    publish, publishMax, gaps, gap, gapMax, contention⟩ form
  simp [runFlashStatisticsEncode]

theorem length_runReportSections (data : RunReport) :
    (runIsrTimingEncode data.isrTiming).length = 24
      ∧ (runInstructionBufferEncode data.instructionBuffer).length = 12
      ∧ (runResultBufferEncode data.resultBuffer).length = 24
      ∧ (runFlashStatisticsEncode data.flash).length = 84 := by
  simp [runIsrTimingEncode, runInstructionBufferEncode, runResultBufferEncode,
    runFlashStatisticsEncode]

/-- The fixed fields of a Run Report on the wire, with its two reserved fields. -/
def RunReport.Form (data : RunReport) (reserved7 : UInt8) (reserved10 : UInt16)
    (form : List UInt8) : Prop :=
  ∃ runOutcome executionOutcome resultStatus source stage, ∃ reason : UInt16,
    enumToU8 data.runOutcome = some runOutcome
      ∧ enumToU8 data.executionOutcome = some executionOutcome
      ∧ enumToU8 data.resultStatus = some resultStatus
      ∧ enumToU8 data.failureSource = some source ∧ enumToU8 data.failureStage = some stage
      ∧ data.failureReason = (reason.toNat : Int)
      ∧ form = encodeU16Le data.schemaVersion
        ++ [runOutcome, executionOutcome, resultStatus, source, stage, reserved7]
        ++ encodeU16Le reason ++ encodeU16Le reserved10
        ++ encodeU32Le data.validSections ++ encodeU32Le data.expectedTickCount
        ++ encodeU32Le data.tickPeriodUs ++ encodeU32Le data.lastCompletedBoundary
        ++ encodeU32Le data.resultTicksEmitted ++ runIsrTimingEncode data.isrTiming
        ++ runInstructionBufferEncode data.instructionBuffer
        ++ runResultBufferEncode data.resultBuffer ++ runFlashStatisticsEncode data.flash

theorem reads_runReport : Reads runReportFields fun read form =>
    read.1.extensionData = emptySpan ∧ read.1.Form read.2.1 read.2.2 form := by
  refine (reads_u16.bind fun _ => reads_enum.bind fun _ => reads_enum.bind fun _ =>
    reads_enum.bind fun _ => reads_enum.bind fun _ => reads_enum.bind fun _ =>
    reads_byte.bind fun _ => reads_u16Enum.bind fun _ => reads_u16.bind fun _ =>
    reads_u32.bind fun _ => reads_u32.bind fun _ => reads_u32.bind fun _ =>
    reads_u32.bind fun _ => reads_u32.bind fun _ => reads_runIsrTiming.bind fun _ =>
    reads_runInstructionBuffer.bind fun _ => reads_runResultBuffer.bind fun _ =>
    reads_runFlashStatistics.bind fun _ => reads_pure _).congr ?_
  rintro ⟨⟨schemaVersion, runOutcome, executionOutcome, resultStatus, source, stage, reason,
    sections, tickCount, tickPeriod, boundary, emitted, isr, instructions, results, flash,
    extensionData⟩, reserved7, reserved10⟩ form
  by_cases hempty : extensionData = emptySpan <;> simp [RunReport.Form, and_assoc, hempty]

/-! ## Endpoint-defined containers -/

/-- An Arbitrary Control on the wire. -/
def ArbitraryControl.Form (data : ArbitraryControl) (form : List UInt8) : Prop :=
  form = encodeU32Le data.controlId ++ encodeU32Le data.value

theorem reads_arbitraryControl : Reads arbitraryControlFields ArbitraryControl.Form := by
  refine (reads_u32.bind fun _ => reads_u32.bind fun _ => reads_pure _).congr ?_
  rintro ⟨controlId, value⟩ form
  simp [ArbitraryControl.Form]

theorem reads_arbitraryDataPrefix : Reads arbitraryDataPrefix fun front form =>
    form = encodeU32Le front.1 ++ encodeU16Le front.2 := by
  refine (reads_u32.bind fun _ => reads_u16.bind fun _ => reads_pure _).congr ?_
  rintro ⟨dataId, length⟩ form
  simp

end HilRigProtocol.Application
