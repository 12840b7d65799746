/-
  Where validating encoded bytes and decoding them differ.

  Sizing a Test Configuration refuses an enabled I2C channel. Typed validation does so too,
  but it comes to the I2C channels last: with another defect in front, decoding reports
  that one. `HidesDefect` is exactly this case, and in all others the two calls agree.
-/
import HilRigProtocol.Application.EncodedAgreement

namespace HilRigProtocol.Application

open Library Library.Reader

section
variable [Target]

section
variable {context : Context} {envelope : Envelope} {payload : List UInt8}

/-! ## Test Configurations -/

/-- Some I2C channel is enabled, which nothing implements. -/
def TestConfiguration.EnablesI2c (data : TestConfiguration) : Prop :=
  ∃ config ∈ data.i2c.toList, config.enabled = 1

/-- What typed validation checks in front of an enabled I2C channel is in order. -/
structure TestConfiguration.ReachesI2c (context : Context) (data : TestConfiguration) : Prop where
  expectedTickCount : ¬ (data.expectedTickCount = 0
    ∨ data.expectedTickCount > context.config.maxExpectedTickCount ∨ data.flags ≠ 0)
  tickDurationUs : validTickPeriodsUs.contains data.tickDurationUs
  digitalIn : ∀ config ∈ data.digitalIn.toList, digitalInputConfigValidate config = .ok ()
  digitalOut : ∀ config ∈ data.digitalOut.toList, digitalOutputConfigValidate config = .ok ()
  analogIn : ∀ config ∈ data.analogIn.toList, analogInputConfigValidate config = .ok ()
  analogOut : ∀ config ∈ data.analogOut.toList, analogOutputConfigValidate config = .ok ()
  pwmIn : ∀ config ∈ data.pwmIn.toList, pwmInputConfigValidate config = .ok ()
  pwmOut : ∀ config ∈ data.pwmOut.toList, pwmOutputConfigValidate config = .ok ()
  can : ∀ config ∈ data.can.toList, canConfigValidate config = .ok ()
  spi : ∀ config ∈ data.spi.toList, spiConfigValidate config = .ok ()
  uart : ∀ config ∈ data.uart.toList, uartConfigValidate config = .ok ()
  i2c : data.i2c.head.enabled = 1 ∨ i2cConfigValidate data.i2c.head = .ok ()

section
variable {α : Type}

omit [Target] in
theorem validateEach_eq_ok {validator : α → Result Unit} {xs : List α} :
    validateEach validator xs = .ok () ↔ ∀ x ∈ xs, validator x = .ok () := by
  refine ⟨mem_of_validateEach, fun h => ?_⟩
  induction xs with
  | nil => rfl
  | cons x xs ih =>
      rw [List.forall_mem_cons] at h
      rw [validateEach, h.1, ok_bind, ih h.2]

omit [Target] in
/-- A step that fails with `VALIDATION_FAILED` only, in front of one that may fail otherwise. -/
theorem notImplemented_of_step {r : Result Unit} {f : Unit → Result Unit} (h : OnlyInvalid r) :
    r >>= f = fail .notImplemented ↔ r = .ok () ∧ f () = fail .notImplemented := by
  cases r with
  | ok _ => simp [ok_bind]
  | error failure =>
      have hinvalid : failure = .status .validationFailed := not_not.mp (h failure rfl)
      rw [hinvalid]
      simp [bind, Except.bind, fail]

omit [Target] in
theorem notImplemented_of_guard {c : Prop} [Decidable c] {r : Result α} :
    (if c then fail .validationFailed else r) = fail .notImplemented ↔
      ¬ c ∧ r = fail .notImplemented := by
  split
  case isTrue h => simp [h, fail]
  case isFalse h => simp [h]

end

omit [Target] in
theorem i2cConfigValidate_notImplemented {config : I2cConfig} :
    i2cConfigValidate config = fail .notImplemented ↔ config.enabled = 1 := by
  unfold i2cConfigValidate
  rw [notImplemented_of_guard]
  split
  case isTrue hoff =>
    constructor
    · rintro ⟨-, h⟩
      exact absurd (onlyInvalid_okIf _ _ h) (by simp)
    · intro h
      rw [hoff] at h
      exact absurd h (by decide)
  case isFalse hon =>
    have hvalid : ¬ ¬ booleanIsValid config.enabled ↔ config.enabled.toNat ≤ 1 := by
      rw [not_not, booleanIsValid, decide_eq_true_iff]
      rfl
    have hne : config.enabled.toNat ≠ 0 := fun h => hon (UInt8.toNat_inj.mp h)
    rw [hvalid, eq_self_iff_true, and_true, ← UInt8.toNat_inj]
    change _ ↔ config.enabled.toNat = 1
    omega

omit [Target] in
theorem validateI2c_notImplemented (configs : List.Vector I2cConfig 2) :
    validateEach i2cConfigValidate configs.toList = fail .notImplemented ↔
      (∃ config ∈ configs.toList, config.enabled = 1)
        ∧ (configs.head.enabled = 1 ∨ i2cConfigValidate configs.head = .ok ()) := by
  obtain ⟨first, rest, rfl⟩ := List.Vector.exists_eq_cons configs
  obtain ⟨second, rest, rfl⟩ := List.Vector.exists_eq_cons rest
  rw [List.Vector.head_cons, List.Vector.toList_cons, List.Vector.toList_cons,
    List.Vector.eq_nil rest, List.Vector.toList_nil]
  simp only [validateEach, List.mem_cons, List.not_mem_nil, or_false, exists_eq_or_imp,
    exists_eq_left]
  by_cases hfirst : first.enabled = 1
  · rw [i2cConfigValidate_notImplemented.mpr hfirst]
    exact ⟨fun _ => ⟨.inl hfirst, .inl hfirst⟩, fun _ => rfl⟩
  · rw [or_iff_right hfirst, or_iff_right hfirst]
    cases hvalid : i2cConfigValidate first with
    | error failure =>
        constructor
        · intro h
          exact absurd (i2cConfigValidate_notImplemented.mp (hvalid.trans h)) hfirst
        · rintro ⟨-, h⟩
          exact absurd h (by simp)
    | ok _ =>
        rw [ok_bind, ← i2cConfigValidate_notImplemented]
        cases i2cConfigValidate second with
        | error failure => exact ⟨fun h => ⟨h, rfl⟩, fun h => h.1⟩
        | ok _ => exact ⟨fun h => ⟨h, rfl⟩, fun h => h.1⟩

omit [Target] in
theorem testConfigurationValidate_notImplemented (hinit : Initialized context)
    {data : TestConfiguration} (hspan : byteSpanU8Validate context data.extensionData = .ok ()) :
    testConfigurationValidate context data = fail .notImplemented ↔
      data.EnablesI2c ∧ data.ReachesI2c context := by
  unfold testConfigurationValidate
  rw [if_neg hinit.initialized, notImplemented_of_guard, notImplemented_of_guard, hspan, ok_bind,
    notImplemented_of_step (avoids_validateEach onlyInvalid_digitalInputConfigValidate _),
    notImplemented_of_step (avoids_validateEach onlyInvalid_digitalOutputConfigValidate _),
    notImplemented_of_step (avoids_validateEach onlyInvalid_analogInputConfigValidate _),
    notImplemented_of_step (avoids_validateEach onlyInvalid_analogOutputConfigValidate _),
    notImplemented_of_step (avoids_validateEach onlyInvalid_pwmInputConfigValidate _),
    notImplemented_of_step (avoids_validateEach onlyInvalid_pwmOutputConfigValidate _),
    notImplemented_of_step (avoids_validateEach onlyInvalid_canConfigValidate _),
    notImplemented_of_step (avoids_validateEach onlyInvalid_spiConfigValidate _),
    notImplemented_of_step (avoids_validateEach onlyInvalid_uartConfigValidate _),
    validateI2c_notImplemented]
  simp only [validateEach_eq_ok]
  constructor
  · rintro ⟨hticks, hduration, hdigitalIn, hdigitalOut, hanalogIn, hanalogOut, hpwmIn, hpwmOut,
      hcan, hspi, huart, henabled, hfirst⟩
    exact ⟨henabled, hticks, not_not.mp hduration, hdigitalIn, hdigitalOut, hanalogIn, hanalogOut,
      hpwmIn, hpwmOut, hcan, hspi, huart, hfirst⟩
  · rintro ⟨henabled, h⟩
    exact ⟨h.expectedTickCount, not_not.mpr h.tickDurationUs, h.digitalIn, h.digitalOut,
      h.analogIn, h.analogOut, h.pwmIn, h.pwmOut, h.can, h.spi, h.uart, henabled, h.i2c⟩

/-- The size of a Test Configuration says whether it has a payload of the grammar, and
    sizing and decoding reject it alike where it has none. -/
theorem exists_testConfigurationPayload (context : Context) (payload : List UInt8) :
    (∃ data : TestConfiguration, data.Payload context payload)
      ∨ ∃ failure, testConfigurationStorageSize context payload = .error failure
        ∧ ∀ storage, testConfigurationDecode context payload storage = .error failure := by
  have hfixed : testConfigFixedPayloadSize = 171 := rfl
  have hoffset : testConfigExtensionLengthOffset = 170 := rfl
  unfold testConfigurationStorageSize testConfigurationDecode
  by_cases hshort : payload.length < testConfigFixedPayloadSize
  · rw [if_pos hshort]
    exact .inr ⟨_, rfl, fun storage => if_pos hshort⟩
  obtain ⟨size, hsize⟩ := @byteAt_of_lt payload testConfigExtensionLengthOffset (by omega)
  have hlt := size.toNat_lt
  have hadd := checkedAddSize_of_le
    (le_sizeMax (show testConfigFixedPayloadSize + size.toNat ≤ 0x1000000 by omega))
  rw [if_neg hshort, hsize, ok_bind, hadd, checked, ok_bind]
  by_cases hlen : payload.length ≠ testConfigFixedPayloadSize + size.toNat
  · rw [if_pos hlen]
    refine .inr ⟨_, rfl, fun storage => ?_⟩
    rw [if_neg hshort, ok_bind, hadd, checked, ok_bind, if_pos hlen]
    rfl
  by_cases hmax : size.toNat > context.config.maxVariableDataSize
  · rw [if_neg hlen, if_pos hmax]
    refine .inr ⟨_, rfl, fun storage => ?_⟩
    rw [if_neg hshort, ok_bind, hadd, checked, ok_bind, if_neg hlen, if_pos hmax]
    rfl
  left
  obtain ⟨fields, front, ⟨-, hfront⟩, hpayload⟩ :=
    @exists_front _ _ _ _ reads_testConfiguration takes_testConfiguration payload (by omega)
  obtain ⟨span, form, hspan, hcount, hdrop⟩ := exists_span hsize (by omega)
  have hend : payload.drop (testConfigExtensionLengthOffset + 1 + size.toNat) = [] :=
    List.drop_eq_nil_of_le (by omega)
  rw [hend, List.append_nil] at hdrop
  exact ⟨{ fields with extensionData := span }, front, form, hfront, hspan,
    hcount.trans_le (Nat.not_lt.mp hmax), hdrop ▸ hpayload⟩

theorem testConfigurationEncodedValidate_payload {data : TestConfiguration}
    (h : data.Payload context payload) :
    testConfigurationEncodedValidate context payload
      = testConfigurationValidate context data >>= fun _ => .ok data.extensionData.count := by
  obtain ⟨front, form, hfront, hspan, hmax, rfl⟩ := h
  have hle := hspan.form_eq.2.1
  have hfixed : testConfigFixedPayloadSize = 171 := rfl
  have hoffset : testConfigExtensionLengthOffset = 170 := rfl
  have hlen : (front ++ form).length = testConfigFixedPayloadSize + data.extensionData.count := by
    rw [List.length_append, hfront.length_eq, hspan.length_eq]
    omega
  have hread : read testConfigurationFields (front ++ form)
      = .ok ({ data with extensionData := emptySpan }, form) :=
    read_append reads_testConfiguration ⟨rfl, hfront⟩
  have hat := byteAt_span hspan hfront.length_eq
  unfold testConfigurationEncodedValidate
  rw [if_neg (by omega), hat, ok_bind, hspan.toNat_count,
    checkedAddSize_of_le (le_sizeMax (by omega)), checked, ok_bind, if_neg (by omega),
    if_neg (by omega), hread, ok_bind]
  dsimp only
  rw [if_neg (by rw [List.length_append, hfront.length_eq]; omega)]
  obtain ⟨size, bytes, hdata, rfl⟩ := hspan
  have hsize : UInt8.ofNat data.extensionData.count = size := by
    rw [hdata, count_ofVector, UInt8.ofNat_toNat]
  have hextension : spanInPayload size (bytes.toList ++ []) = .ok (data.extensionData, []) := by
    rw [spanInPayload, read_append (reads_bytes _) rfl, ok_bind, hdata]
  rw [hsize, List.drop_one, List.tail_cons, ← List.append_nil bytes.toList, hextension, ok_bind]

omit [Target] in
theorem SpanForm.valid {span : ByteSpan} {form : List UInt8} (h : SpanForm span form)
    (hmax : span.count ≤ context.config.maxVariableDataSize) :
    byteSpanU8Validate context span = .ok () := by
  obtain ⟨-, hle, hnull⟩ := h.form_eq
  refine byteSpanValidate_eq_ok.mpr ⟨?_, hnull⟩
  split
  case isTrue => exact hmax
  case isFalse => exact hle

section
variable {data : TestConfiguration}

/-- Where sizing refuses an enabled I2C channel, so does typed validation unless it meets
    another defect first. -/
theorem validatePayload_testConfiguration (htype : envelope.type = .testConfiguration)
    (hdata : data.Payload context payload) :
    (data.EnablesI2c → validatePayload context envelope payload = fail .notImplemented)
      ∧ (¬ data.EnablesI2c → validatePayload context envelope payload
        = testConfigurationValidate context data >>= fun _ => .ok data.extensionData.count) := by
  obtain ⟨first, second, hlist, hsize⟩ := testConfigurationStorageSize_eq hdata
  have henables : data.EnablesI2c ↔ first.enabled = 1 ∨ second.enabled = 1 := by
    rw [TestConfiguration.EnablesI2c, hlist]
    simp
  unfold validatePayload payloadStorageSize validateEncodedPayload
  rw [htype, henables]
  dsimp only
  rw [hsize]
  constructor
  · intro h
    rw [if_pos h]
    rfl
  · intro h
    rw [if_neg h, ok_bind, testConfigurationEncodedValidate_payload hdata]

theorem decodePayload_testConfiguration (hinit : Initialized context) (hchecked : envelope.Checked)
    {storage : UsableStorage} (hroom : Target.sizeMax ≤ storage.room)
    (htype : envelope.type = .testConfiguration) (hdata : data.Payload context payload) :
    decodePayload context envelope payload storage.1
      = testConfigurationValidate context data >>= fun _ => .ok data.extensionData.count :=
  @decodePayload_eq _ _ _ payload hinit hchecked storage hroom (.testConfiguration data)
    htype.symm hdata

omit [Target] in
theorem testConfigurationValidate_of_enables (henables : data.EnablesI2c) :
    testConfigurationValidate context data ≠ .ok () := by
  intro h
  obtain ⟨-, -, -, -, -, -, -, -, -, -, hi2c⟩ := testConfigurationValidate_eq_ok h
  obtain ⟨config, hconfig, henabled⟩ := henables
  have hoff := (i2cConfigValidate_eq_ok (mem_of_validateEach hi2c config hconfig)).1
  rw [henabled] at hoff
  exact absurd hoff (by decide)

end

/-- The payload is a Test Configuration with an enabled I2C channel and a defect that typed
    validation meets before it. -/
def Envelope.HidesDefect (envelope : Envelope) (context : Context) (payload : List UInt8) : Prop :=
  envelope.type = .testConfiguration ∧ ∃ data : TestConfiguration, data.Payload context payload
    ∧ data.EnablesI2c ∧ ¬ data.ReachesI2c context

theorem testConfiguration_agrees (hinit : Initialized context) (hchecked : envelope.Checked)
    {storage : UsableStorage} (hroom : Target.sizeMax ≤ storage.room)
    (htype : envelope.type = .testConfiguration) (h : ¬ envelope.HidesDefect context payload) :
    validatePayload context envelope payload
      = decodePayload context envelope payload storage.1 := by
  obtain ⟨data, hdata⟩ | ⟨failure, hsize, hdecode⟩ :=
    exists_testConfigurationPayload context payload
  · obtain ⟨hon, hoff⟩ := validatePayload_testConfiguration htype hdata
    rw [decodePayload_testConfiguration hinit hchecked hroom htype hdata]
    by_cases henables : data.EnablesI2c
    · have hreaches : data.ReachesI2c context := by
        by_contra hhidden
        exact h ⟨htype, data, hdata, henables, hhidden⟩
      obtain ⟨_, _, -, hspan, hmax, -⟩ := hdata
      rw [hon henables, (testConfigurationValidate_notImplemented hinit (hspan.valid hmax)).mpr
        ⟨henables, hreaches⟩]
      rfl
    · exact hoff henables
  · unfold validatePayload payloadStorageSize decodePayload
    rw [htype]
    dsimp only [bodyDecode]
    rw [hsize, hdecode]
    rfl

/-- Behind such an envelope the two calls report different statuses. -/
theorem Envelope.HidesDefect.differs (hinit : Initialized context) (hchecked : envelope.Checked)
    {storage : UsableStorage} (hroom : Target.sizeMax ≤ storage.room)
    (h : envelope.HidesDefect context payload) :
    validatePayload context envelope payload = fail .notImplemented
      ∧ ∃ failure, decodePayload context envelope payload storage.1 = .error failure
        ∧ failure ≠ .status .notImplemented := by
  obtain ⟨htype, data, hdata, henables, hhidden⟩ := h
  refine ⟨(validatePayload_testConfiguration htype hdata).1 henables, ?_⟩
  rw [decodePayload_testConfiguration hinit hchecked hroom htype hdata]
  obtain ⟨_, _, -, hspan, hmax, -⟩ := hdata
  cases hvalid : testConfigurationValidate context data with
  | ok _ => exact absurd hvalid (testConfigurationValidate_of_enables henables)
  | error failure =>
      refine ⟨failure, rfl, ?_⟩
      rintro rfl
      exact hhidden ((testConfigurationValidate_notImplemented hinit (hspan.valid hmax)).mp hvalid).2

end

/-! ## Messages -/

/-- Storage that no message fills. -/
def Storage.Unlimited (storage : Storage) : Prop :=
  storage.isNull = false ∧ Target.sizeMax ≤ storage.capacity

/-- The message fits, and its payload is a Test Configuration with an enabled I2C channel
    and a defect in front of it. -/
def HidesDefect (context : Context) (encodedMessage : List UInt8) : Prop :=
  encodedMessage.length ≤ context.config.maxEncodedMessageSize
    ∧ ∃ envelope : Envelope, ∃ header payload, envelope.Form header
      ∧ encodedMessage = header ++ payload ∧ payload.length = envelope.payloadLength.toNat
      ∧ envelope.HidesDefect context payload

section
variable {context : Context} {encodedMessage : List UInt8} {storage : UsableStorage}

theorem validateEncodedMessage_agrees (hinit : Initialized context)
    (hlength : encodedMessage.length ≤ context.config.maxEncodedMessageSize)
    (hroom : Target.sizeMax ≤ storage.room) (h : ¬ HidesDefect context encodedMessage) :
    validateEncodedMessage context encodedMessage
      = (decodeInternal context encodedMessage storage.1).map Prod.snd := by
  rw [validateEncodedMessage_payload hinit hlength, decodeInternal_payload]
  cases hheader : headerDecoding encodedMessage with
  | error failure => rfl
  | ok envelope =>
  rw [ok_bind, ok_bind]
  cases hframed : payloadOf envelope encodedMessage with
  | error failure => rfl
  | ok payload =>
  rw [ok_bind, ok_bind]
  obtain ⟨header, hform, hmessage, hsize⟩ := framed_iff.mp ⟨hheader, hframed⟩
  by_cases htype : envelope.type = .testConfiguration
  · exact testConfiguration_agrees hinit hform.checked hroom htype fun hhidden =>
      h ⟨hlength, envelope, header, payload, hform, hmessage, hsize, hhidden⟩
  · exact validatePayload_agrees hinit hform.checked hroom htype

theorem validateEncodedMessage_differs (hinit : Initialized context)
    (hroom : Target.sizeMax ≤ storage.room) (h : HidesDefect context encodedMessage) :
    validateEncodedMessage context encodedMessage = fail .notImplemented
      ∧ ∃ failure, (decodeInternal context encodedMessage storage.1).map Prod.snd = .error failure
        ∧ failure ≠ .status .notImplemented := by
  obtain ⟨hlength, envelope, header, payload, hform, hmessage, hsize, hhidden⟩ := h
  obtain ⟨hheader, hframed⟩ := framed_iff.mpr ⟨header, hform, hmessage, hsize⟩
  rw [validateEncodedMessage_payload hinit hlength, decodeInternal_payload, hheader, ok_bind,
    ok_bind, hframed, ok_bind, ok_bind]
  exact hhidden.differs hinit hform.checked hroom

/-- What `HIL_APPLICATION_Decode_Message` makes of bytes that are not too long. -/
theorem decodeMessage_internal (hinit : Initialized context)
    (hlength : encodedMessage.length ≤ context.config.maxEncodedMessageSize) :
    (decodeMessage context encodedMessage storage.1).result
        = (decodeInternal context encodedMessage storage.1).map (fun _ => ())
      ∧ ∀ decoded, decodeInternal context encodedMessage storage.1 = .ok decoded →
        (decodeMessage context encodedMessage storage.1).usedDecodedSize = decoded.2 := by
  cases hdecode : decodeInternal context encodedMessage storage.1 with
  | error failure =>
      rw [decodeMessage_of_error hinit hlength hdecode]
      exact ⟨rfl, fun decoded h => absurd h (by simp)⟩
  | ok decoded =>
      rw [decodeMessage_of_ok hinit hlength hdecode]
      exact ⟨rfl, fun other h => by rw [Except.ok.inj h]⟩

end

/-- For an initialized context, bytes and unlimited storage:
    `HIL_APPLICATION_Validate_Encoded_Message` returns the status of
    `HIL_APPLICATION_Decode_Message`, and on success the storage that decoding uses, except
    for the Test Configurations that hide a defect behind an enabled I2C channel. -/
theorem encoded_validation_agrees {config : Config} {context : Context}
    (hinit : init config = .ok context) (encodedMessage : List UInt8) {storage : Storage}
    (hstorage : storage.Unlimited) :
    ((validateEncodedMessage context encodedMessage).map (fun _ => ())
        = (decodeMessage context encodedMessage storage).result
      ∧ ∀ size, validateEncodedMessage context encodedMessage = .ok size →
        (decodeMessage context encodedMessage storage).usedDecodedSize = size)
      ↔ ¬ HidesDefect context encodedMessage := by
  have hcontext := initialized_of_init hinit
  obtain ⟨hnull, hroom⟩ := hstorage
  obtain ⟨usable, rfl⟩ : ∃ usable : UsableStorage, usable.1 = storage :=
    ⟨⟨storage, fun h => absurd h (by simp [hnull])⟩, rfl⟩
  by_cases hlength : encodedMessage.length ≤ context.config.maxEncodedMessageSize
  · obtain ⟨hresult, hused⟩ := @decodeMessage_internal _ _ _ usable hcontext hlength
    rw [hresult]
    constructor
    · rintro ⟨hstatus, -⟩ hhidden
      obtain ⟨hvalidate, failure, hdecode, hother⟩ :=
        validateEncodedMessage_differs hcontext hroom hhidden
      rw [hvalidate] at hstatus
      cases hdecoded : decodeInternal context encodedMessage usable.1 with
      | error other =>
          rw [hdecoded] at hstatus hdecode
          exact hother ((Except.error.inj hdecode).symm.trans (Except.error.inj hstatus).symm)
      | ok decoded =>
          rw [hdecoded] at hdecode
          exact absurd hdecode (by simp [Except.map])
    · intro hhidden
      rw [validateEncodedMessage_agrees hcontext hlength hroom hhidden]
      cases hdecode : decodeInternal context encodedMessage usable.1 with
      | error failure => exact ⟨rfl, fun size h => absurd h (by simp [Except.map])⟩
      | ok decoded => exact ⟨rfl, fun size h => (hused decoded hdecode).trans (Except.ok.inj h)⟩
  · have husable : ¬ (usable.1.capacity ≠ 0 ∧ usable.1.isNull) := fun h => h.1 (usable.2 h.2)
    have hlong : encodedMessage.length > context.config.maxEncodedMessageSize :=
      Nat.not_le.mp hlength
    have hvalidate : validateEncodedMessage context encodedMessage = fail .invalidLength := by
      unfold validateEncodedMessage
      rw [if_neg hcontext.initialized, if_pos hlong]
    rw [hvalidate]
    unfold decodeMessage
    dsimp only
    rw [if_neg hcontext.initialized, if_neg husable, if_pos hlong]
    exact ⟨fun _ hhidden => hlength hhidden.1, fun _ => ⟨rfl, fun size h => absurd h (by simp [fail])⟩⟩

omit [Target] in
/-- A Test Configuration without a tick duration whose first I2C channel is enabled: the
    validator reports `NOT_IMPLEMENTED`, and decoding `VALIDATION_FAILED`. -/
theorem encoded_validation_differs :
    let encodedMessage : List UInt8 := [0, 4, 1] ++ List.replicate 16 7 ++ [16, 0, 171, 0]
      ++ List.replicate 150 0 ++ [1] ++ List.replicate 20 0
    @validateEncodedMessage .lp64 ⟨defaultConfig, 1⟩ encodedMessage = fail .notImplemented
      ∧ (@decodeMessage .lp64 ⟨defaultConfig, 1⟩ encodedMessage
        ⟨false, 0xFFFFFFFFFFFFFFFF⟩).result = fail .validationFailed := by
  decide +kernel

omit [Target] in
/-- The same bytes: a message that hides its defect. -/
theorem encoded_validation_agrees_i2c :
    HidesDefect ⟨defaultConfig, 1⟩ ([0, 4, 1] ++ List.replicate 16 7 ++ [16, 0, 171, 0]
      ++ List.replicate 150 0 ++ [1] ++ List.replicate 20 0) := by
  by_contra hhidden
  have hagree := (@encoded_validation_agrees .lp64 defaultConfig ⟨defaultConfig, 1⟩ rfl _
    ⟨false, 0xFFFFFFFFFFFFFFFF⟩ ⟨rfl, Nat.le_refl _⟩).mpr hhidden
  exact absurd hagree.1 (by decide +kernel)

end

end HilRigProtocol.Application
