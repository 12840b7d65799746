/-
  What the two scanners of aligned records accept: a valid header and as many records of
  the grammar as it declares, with pairwise distinct pairs and valid data. The same
  payloads are the encodings of the typed bodies that the validators accept, and the
  storage that a scanner reports is the aligned record array with the data behind it.
-/
import HilRigProtocol.Application.Records
import HilRigProtocol.Application.Codec
import HilRigProtocol.Library.Layout

namespace HilRigProtocol.Application

open Library Library.Reader

/-! ## Initialized contexts -/

/-- What `HIL_APPLICATION_Init` guarantees of a context that it accepts. -/
structure Initialized (context : Context) : Prop where
  initialized : context.initialized ≠ 0
  minMessage : minCompleteMessageSize ≤ context.config.maxEncodedMessageSize
  maxMessage : context.config.maxEncodedMessageSize ≤ absoluteMaxMessageSize
  maxData : context.config.maxVariableDataSize ≤ absoluteMaxVariableDataSize

theorem initialized_of_init {config : Config} {context : Context}
    (h : init config = .ok context) : Initialized context := by
  unfold init at h
  split at h
  case isTrue => exact absurd h (fail_ne_ok _ _)
  split at h
  case isTrue => exact absurd h (fail_ne_ok _ _)
  split at h
  case isTrue => exact absurd h (fail_ne_ok _ _)
  split at h
  case isTrue => exact absurd h (fail_ne_ok _ _)
  rw [Except.ok.injEq] at h
  subst h
  exact ⟨nofun, by dsimp only; omega, by dsimp only; omega, by dsimp only; omega⟩

variable [Target]

/-! ## The payload grammars -/

/-- An Update Instruction payload: tick, count, flags and two zero bytes, then the
    declared number of records. -/
structure UpdatePayload (context : Context) (tickNumber : UInt32) (flags : UInt8)
    (records : List WireRecord) (payload : List UInt8) : Prop where
  tick_lt : tickNumber < context.config.maxExpectedTickCount
  flags_le : flags ≤ 1
  nonempty : 1 ≤ records.length
  countable : records.length < 256
  layout : ∃ forms, Each (WireRecord.Form context.config.maxVariableDataSize) records forms
    ∧ payload = toLe 4 tickNumber.toNat ++ [UInt8.ofNat records.length, flags, 0, 0] ++ forms
  distinct : (records.map WireRecord.pair).Nodup
  valid : ∀ record ∈ records, logicalOperationFieldsValidate context record.toRecord = .ok ()

/-- A Variable Test Result payload: tick, count, condition, flags, a zero byte and the
    problem detail, then the declared number of records, which may be none. -/
structure VariablePayload (context : Context) (tickNumber : UInt32) (condition flags : UInt8)
    (problemDetail : UInt32) (records : List WireRecord) (payload : List UInt8) : Prop where
  tick_lt : tickNumber < context.config.maxExpectedTickCount
  condition_le : condition ≤ 2
  detail : condition = 0 → problemDetail = 0
  flags_le : flags ≤ 1
  countable : records.length < 256
  layout : ∃ forms, Each (WireRecord.Form context.config.maxVariableDataSize) records forms
    ∧ payload = toLe 4 tickNumber.toNat ++ [UInt8.ofNat records.length, condition, flags, 0]
      ++ toLe 4 problemDetail.toNat ++ forms
  distinct : (records.map WireRecord.pair).Nodup
  valid : ∀ record ∈ records, capturedRecordFieldsValidate context record.toRecord = .ok ()

/-- A record array with elements of `recordSize` bytes, aligned, and the data behind it. -/
def recordStorage (recordSize : Nat) (records : List WireRecord) : Nat :=
  Layout.roundUp (records.length * recordSize) Target.decodeStorageAlignment
    + WireRecord.dataSize records

/-! ## Storage sizes -/

theorem alignUpSize_eq {size : Nat}
    (h : size + Target.decodeStorageAlignment ≤ Target.sizeMax) :
    alignUpSize size Target.decodeStorageAlignment
      = some (Layout.roundUp size Target.decodeStorageAlignment) := by
  have hpos := Target.alignment_pos
  rw [Layout.roundUp_eq size hpos]
  unfold alignUpSize
  rw [if_neg (by omega)]
  split
  case isTrue => rfl
  case isFalse => exact checkedAddSize_of_le (by omega)

omit [Target] in
theorem dataSize_le {records : List WireRecord} :
    WireRecord.dataSize records ≤ records.length * 65535 := by
  induction records with
  | nil => exact Nat.le_refl _
  | cons record records ih =>
      have hfits := record.fits
      simp only [WireRecord.dataSize, List.map_cons, List.sum_cons, List.length_cons] at ih ⊢
      omega

/-- The storage of a countable list of records can be addressed. -/
theorem recordStorage_le {recordSize : Nat} {records : List WireRecord}
    (hcount : records.length < 256)
    (h : 255 * recordSize + Target.decodeStorageAlignment + 0x1000000 ≤ Target.sizeMax) :
    recordStorage recordSize records ≤ Target.sizeMax := by
  have hdata := @dataSize_le records
  have harray : records.length * recordSize ≤ 255 * recordSize :=
    Nat.mul_le_mul_right recordSize (by omega)
  have hround := Layout.roundUp_lt (records.length * recordSize) Target.alignment_pos
  unfold recordStorage
  omega

/-- Both scanners can count their storage. -/
theorem recordStorageSize_eq {recordSize : Nat} {records : List WireRecord}
    (hcount : records.length < 256)
    (h : 255 * recordSize + Target.decodeStorageAlignment + 0x1000000 ≤ Target.sizeMax) :
    recordStorageSize recordSize records.length (WireRecord.dataSize records)
      = .ok (recordStorage recordSize records) := by
  have hstorage := recordStorage_le hcount h
  have harray : records.length * recordSize ≤ 255 * recordSize :=
    Nat.mul_le_mul_right recordSize (by omega)
  have hmul : checkedMulSize records.length recordSize = some (records.length * recordSize) := by
    unfold checkedMulSize
    rw [if_neg]
    rintro ⟨hne, hgt⟩
    have := (Nat.le_div_iff_mul_le (Nat.pos_of_ne_zero hne)).mpr
      (show records.length * recordSize ≤ Target.sizeMax by omega)
    omega
  unfold recordStorageSize
  rw [hmul, Option.bind_eq_bind, Option.bind_some, alignUpSize_eq (by omega), Option.bind_some,
    checkedAddSize_of_le hstorage]
  rfl

/-! ## Distinct pairs -/

omit [Target] in
/-- Started without marks, the validators' loop accepts valid records with distinct
    pairs. -/
theorem recordsValidate_wire {fieldsValidate : Record → Result Unit} {maxDataSize : Nat}
    (hvalid : ∀ record, fieldsValidate record = .ok () → ValidRecord maxDataSize record)
    (records : List WireRecord) :
    recordsValidate fieldsValidate noneSeen (records.map WireRecord.toRecord) = .ok () ↔
      (∀ record ∈ records, fieldsValidate record.toRecord = .ok ())
        ∧ (records.map WireRecord.pair).Nodup := by
  rw [recordsValidate_iff (by rfl) fun record _ h => (hvalid record h).inRange]
  have hpairs : (records.map WireRecord.toRecord).map
        (fun record => (record.peripheralType, record.channel))
      = (records.map WireRecord.pair).map
        (fun pair => ((pair.1.toNat : Int), pair.2)) := by
    simp only [List.map_map]
    rfl
  have hinj : Function.Injective fun pair : UInt8 × UInt8 => ((pair.1.toNat : Int), pair.2) := by
    rintro ⟨a, b⟩ ⟨c, d⟩ h
    simp only [Prod.mk.injEq, Int.natCast_inj, UInt8.toNat_inj] at h
    rw [h.1, h.2]
  rw [hpairs, List.nodup_map_iff hinj, List.forall_mem_map, List.forall_mem_map]
  simp only [not_marked_noneSeen, not_false_eq_true, implies_true, true_and]

omit [Target] in
/-- Records that the validators' loop accepts are records of the grammar. -/
theorem exists_wireRecords {fieldsValidate : Record → Result Unit} {maxDataSize : Nat}
    (hvalid : ∀ record, fieldsValidate record = .ok () → ValidRecord maxDataSize record)
    {records : List Record} {seen : List UInt16}
    (h : recordsValidate fieldsValidate seen records = .ok ()) :
    ∃ wires : List WireRecord, wires.map WireRecord.toRecord = records
      ∧ ∀ wire ∈ wires, 1 ≤ wire.data.length ∧ wire.data.length ≤ maxDataSize := by
  induction records generalizing seen with
  | nil => exact ⟨[], rfl, by simp⟩
  | cons record records ih =>
      rw [recordsValidate, bind_eq_ok] at h
      obtain ⟨seen', -, h⟩ := h
      rw [bind_eq_ok] at h
      obtain ⟨⟨⟩, hrecord, h⟩ := h
      obtain ⟨wires, rfl, hsizes⟩ := ih h
      obtain ⟨wire, rfl⟩ := exists_wireRecord (hvalid record hrecord)
      have hwire := hvalid _ hrecord
      refine ⟨wire :: wires, rfl, List.forall_mem_cons.mpr ⟨⟨?_, hwire.le⟩, hsizes⟩⟩
      exact Nat.pos_of_ne_zero hwire.pos

/-! ## Update Instructions -/

omit [Target] in
theorem reads_updateInstructionHeader : Reads updateInstructionHeader fun header form =>
    form = encodeU32Le header.tickNumber ++ [header.operationCount, header.flags]
      ++ encodeU16Le header.reserved := by
  refine (reads_u32.bind fun tickNumber => reads_byte.bind fun operationCount =>
    reads_byte.bind fun flags => reads_u16.bind fun reserved => reads_pure _).congr ?_
  rintro ⟨tickNumber, operationCount, flags, reserved⟩ form
  simp only [UpdateInstructionHeader.mk.injEq]
  constructor
  · rintro ⟨_, _, _, rfl, ⟨_, _, _, rfl, ⟨_, _, _, rfl, ⟨_, _, _, rfl, ⟨⟨rfl, rfl, rfl, rfl⟩, rfl⟩,
      rfl⟩, rfl⟩, rfl⟩, rfl⟩
    simp
  · rintro rfl
    exact ⟨tickNumber, _, _, rfl, ⟨operationCount, _, _, rfl, ⟨flags, _, _, rfl, ⟨reserved, _, _,
      rfl, ⟨⟨rfl, rfl, rfl, rfl⟩, rfl⟩, rfl⟩, rfl⟩, rfl⟩, by simp⟩

omit [Target] in
theorem read_updateInstructionHeader (tickNumber : UInt32) (operationCount flags : UInt8)
    (rest : List UInt8) :
    read updateInstructionHeader
        (toLe 4 tickNumber.toNat ++ [operationCount, flags, 0, 0] ++ rest)
      = .ok (⟨tickNumber, operationCount, flags, 0⟩, rest) := by
  refine read_append reads_updateInstructionHeader ?_
  rw [← encodeU32Le_eq]
  simp [encodeU16Le]

theorem updateInstructionScan_iff (context : Context) (payload : List UInt8) (size : Nat) :
    updateInstructionScan context payload = .ok size ↔
      ∃ tickNumber flags records, UpdatePayload context tickNumber flags records payload
        ∧ size = recordStorage Target.sizeofLogicalOperation records := by
  have haddressable := Target.operations_addressable
  unfold updateInstructionScan
  constructor
  · intro h
    split at h
    case isTrue => exact absurd h (fail_ne_ok _ _)
    rw [bind_eq_ok] at h
    obtain ⟨⟨header, rest⟩, hheader, h⟩ := h
    obtain ⟨_, rfl, rfl⟩ := (read_eq_ok reads_updateInstructionHeader).mp hheader
    dsimp only at h
    split at h
    case isTrue => exact absurd h (fail_ne_ok _ _)
    case isFalse hreserved =>
    split at h
    case isTrue => exact absurd h (fail_ne_ok _ _)
    case isFalse htick =>
    split at h
    case isTrue => exact absurd h (fail_ne_ok _ _)
    case isFalse hflags =>
    split at h
    case isTrue => exact absurd h (fail_ne_ok _ _)
    case isFalse hcount =>
    have hlt := header.operationCount.toNat_lt
    rw [bind_eq_ok] at h
    obtain ⟨totalPayload, hscan, h⟩ := h
    obtain ⟨records, hlen, heach, hvalid, rfl⟩ :=
      (alignedRecordsScan_iff (by omega)).mp hscan
    obtain ⟨hfields, hdistinct⟩ := (recordsValidate_wire
      (fun record => validRecord_of_logicalOperation) records).mp hvalid
    rw [← hlen, Nat.zero_add, recordStorageSize_eq (by omega) haddressable] at h
    refine ⟨header.tickNumber, header.flags, records, ⟨UInt32.not_le.mp htick,
      UInt8.not_lt.mp hflags, ?_, by omega, ⟨rest, heach, ?_⟩, hdistinct, hfields⟩,
      (Except.ok.inj h).symm⟩
    · have hne : header.operationCount.toNat ≠ 0 := fun h => hcount (UInt8.toNat_inj.mp h)
      omega
    · rw [hlen, UInt8.ofNat_toNat, show header.reserved = 0 by tauto, encodeU32Le_eq]
      simp [encodeU16Le]
  · rintro ⟨tickNumber, flags, records, hpayload, rfl⟩
    obtain ⟨forms, heach, rfl⟩ := hpayload.layout
    have hlength : (UInt8.ofNat records.length).toNat = records.length :=
      UInt8.toNat_ofNat_of_lt' hpayload.countable
    have hnonempty := hpayload.nonempty
    have hcountable := hpayload.countable
    rw [if_neg (by simp [updateInstructionHeaderSize]; omega), read_updateInstructionHeader,
      ok_bind]
    dsimp only
    rw [if_neg (by simp), if_neg (UInt32.not_le.mpr hpayload.tick_lt),
      if_neg (UInt8.not_lt.mpr hpayload.flags_le), if_neg (by
        intro h
        rw [h, UInt8.toNat_zero] at hlength
        omega), hlength]
    rw [(alignedRecordsScan_iff (by omega)).mpr ⟨records, rfl, heach, (recordsValidate_wire
      (fun record => validRecord_of_logicalOperation) records).mpr
        ⟨hpayload.valid, hpayload.distinct⟩, rfl⟩, ok_bind, Nat.zero_add,
      recordStorageSize_eq hcountable haddressable]

/-! ## Variable Test Results -/

omit [Target] in
theorem reads_variableTestResultHeader : Reads variableTestResultHeader fun header form =>
    ∃ condition, header.condition = (condition.toNat : Int) ∧
      form = encodeU32Le header.tickNumber
        ++ [header.recordCount, condition, header.flags, header.reserved]
        ++ encodeU32Le header.problemDetail := by
  refine (reads_u32.bind fun tickNumber => reads_byte.bind fun recordCount =>
    reads_enum.bind fun condition => reads_byte.bind fun flags => reads_byte.bind fun reserved =>
    reads_u32.bind fun problemDetail => reads_pure _).congr ?_
  rintro ⟨tickNumber, recordCount, condition, flags, reserved, problemDetail⟩ form
  simp only [VariableTestResultHeader.mk.injEq, enumToU8_eq_some]
  constructor
  · rintro ⟨_, _, _, rfl, ⟨_, _, _, rfl, ⟨_, _, _, ⟨byte, hbyte, rfl⟩, ⟨_, _, _, rfl, ⟨_, _, _, rfl,
      ⟨_, _, _, rfl, ⟨⟨rfl, rfl, rfl, rfl, rfl, rfl⟩, rfl⟩, rfl⟩, rfl⟩, rfl⟩, rfl⟩, rfl⟩, rfl⟩
    exact ⟨byte, hbyte, by simp⟩
  · rintro ⟨byte, hbyte, rfl⟩
    exact ⟨tickNumber, _, _, rfl, ⟨recordCount, _, _, rfl, ⟨condition, _, _, ⟨byte, hbyte, rfl⟩,
      ⟨flags, _, _, rfl, ⟨reserved, _, _, rfl, ⟨problemDetail, _, _, rfl,
      ⟨⟨rfl, rfl, rfl, rfl, rfl, rfl⟩, rfl⟩, rfl⟩, rfl⟩, rfl⟩, rfl⟩, rfl⟩, by simp⟩

omit [Target] in
theorem read_variableTestResultHeader (tickNumber : UInt32) (recordCount condition flags : UInt8)
    (problemDetail : UInt32) (rest : List UInt8) :
    read variableTestResultHeader (toLe 4 tickNumber.toNat ++ [recordCount, condition, flags, 0]
        ++ toLe 4 problemDetail.toNat ++ rest)
      = .ok (⟨tickNumber, recordCount, condition.toNat, flags, 0, problemDetail⟩, rest) := by
  rw [← encodeU32Le_eq, ← encodeU32Le_eq]
  exact read_append reads_variableTestResultHeader ⟨condition, rfl, rfl⟩

omit [Target] in
theorem resultConditionIsDefined_iff (condition : UInt8) :
    resultConditionIsDefined (condition.toNat : Int) ↔ condition ≤ 2 := by
  have hle : condition ≤ 2 ↔ condition.toNat ≤ 2 := Iff.rfl
  rw [hle]
  unfold resultConditionIsDefined ResultCondition.ok ResultCondition.partialData
    ResultCondition.executionProblem
  simp only [Bool.or_eq_true, beq_iff_eq]
  omega

omit [Target] in
theorem condition_ok_iff {condition : UInt8} :
    (condition.toNat : Int) = ResultCondition.ok ↔ condition = 0 := by
  rw [← UInt8.toNat_inj, UInt8.toNat_zero]
  exact Int.natCast_eq_zero

omit [Target] in
/-- A condition that is defined is a byte. -/
theorem exists_condition {condition : Int} (h : resultConditionIsDefined condition) :
    ∃ byte : UInt8, condition = (byte.toNat : Int) := by
  unfold resultConditionIsDefined at h
  simp only [Bool.or_eq_true, beq_iff_eq] at h
  rcases h with (rfl | rfl) | rfl
  · exact ⟨0, rfl⟩
  · exact ⟨1, rfl⟩
  · exact ⟨2, rfl⟩

theorem variableTestResultScan_iff (context : Context) (payload : List UInt8) (size : Nat) :
    variableTestResultScan context payload = .ok size ↔
      ∃ tickNumber condition flags problemDetail records,
        VariablePayload context tickNumber condition flags problemDetail records payload
          ∧ size = recordStorage Target.sizeofCapturedRecord records := by
  have haddressable := Target.records_addressable
  have hstorage : recordStorage Target.sizeofCapturedRecord [] = 0 := by
    have hlt := Layout.roundUp_eq 0 Target.alignment_pos
    simpa [recordStorage, WireRecord.dataSize] using hlt
  unfold variableTestResultScan
  constructor
  · intro h
    split at h
    case isTrue => exact absurd h (fail_ne_ok _ _)
    rw [bind_eq_ok] at h
    obtain ⟨⟨header, rest⟩, hheader, h⟩ := h
    obtain ⟨_, ⟨condition, hcondition, rfl⟩, rfl⟩ :=
      (read_eq_ok reads_variableTestResultHeader).mp hheader
    dsimp only at h
    rw [hcondition] at h
    split at h
    case isTrue => exact absurd h (fail_ne_ok _ _)
    case isFalse hreserved =>
    split at h
    case isTrue => exact absurd h (fail_ne_ok _ _)
    case isFalse htick =>
    split at h
    case isTrue => exact absurd h (fail_ne_ok _ _)
    case isFalse hflags =>
    split at h
    case isTrue => exact absurd h (fail_ne_ok _ _)
    case isFalse hdefined =>
    split at h
    case isTrue => exact absurd h (fail_ne_ok _ _)
    case isFalse hdetail =>
    have hzero : header.reserved = 0 := by tauto
    have hle : condition ≤ 2 := (resultConditionIsDefined_iff condition).mp (not_not.mp hdefined)
    have hproblem : condition = 0 → header.problemDetail = 0 := by
      rw [← condition_ok_iff]
      tauto
    -- A header that declares no records must be the whole payload.
    have hlayout : ∃ records : List WireRecord, records.length = header.recordCount.toNat
        ∧ Each (WireRecord.Form context.config.maxVariableDataSize) records rest
        ∧ recordsValidate (capturedRecordFieldsValidate context) noneSeen
          (records.map WireRecord.toRecord) = .ok ()
        ∧ size = recordStorage Target.sizeofCapturedRecord records := by
      split at h
      case isTrue hnone =>
        split at h
        case isTrue => exact absurd h (fail_ne_ok _ _)
        case isFalse hlen =>
          have hrest : rest.length = 0 := by
            simp [variableTestResultHeaderSize] at hlen
            omega
          refine ⟨[], by rw [hnone]; rfl, ?_, rfl, ?_⟩
          · rw [each_nil]
            exact List.length_eq_zero_iff.mp hrest
          · rw [hstorage]
            exact (Except.ok.inj h).symm
      case isFalse hsome =>
        have hlt := header.recordCount.toNat_lt
        rw [bind_eq_ok] at h
        obtain ⟨totalPayload, hscan, h⟩ := h
        obtain ⟨records, hlen, heach, hvalid, rfl⟩ :=
          (alignedRecordsScan_iff (by omega)).mp hscan
        rw [← hlen, Nat.zero_add, recordStorageSize_eq (by omega) haddressable] at h
        exact ⟨records, hlen, heach, hvalid, (Except.ok.inj h).symm⟩
    obtain ⟨records, hlen, heach, hvalid, rfl⟩ := hlayout
    obtain ⟨hfields, hdistinct⟩ := (recordsValidate_wire
      (fun record => validRecord_of_capturedRecord) records).mp hvalid
    have hlt := header.recordCount.toNat_lt
    refine ⟨header.tickNumber, condition, header.flags, header.problemDetail, records,
      ⟨UInt32.not_le.mp htick, hle, hproblem, UInt8.not_lt.mp hflags, by omega,
        ⟨rest, heach, ?_⟩, hdistinct, hfields⟩, rfl⟩
    rw [hlen, UInt8.ofNat_toNat, hzero, encodeU32Le_eq, encodeU32Le_eq]
  · rintro ⟨tickNumber, condition, flags, problemDetail, records, hpayload, rfl⟩
    obtain ⟨forms, heach, rfl⟩ := hpayload.layout
    have hlength : (UInt8.ofNat records.length).toNat = records.length :=
      UInt8.toNat_ofNat_of_lt' hpayload.countable
    have hcountable := hpayload.countable
    have hdefined := (resultConditionIsDefined_iff condition).mpr hpayload.condition_le
    have hdetail : ¬ ((condition.toNat : Int) = ResultCondition.ok ∧ problemDetail ≠ 0) := by
      rw [condition_ok_iff]
      exact fun h => h.2 (hpayload.detail h.1)
    rw [if_neg (by simp [variableTestResultHeaderSize]; omega), read_variableTestResultHeader,
      ok_bind]
    dsimp only
    rw [if_neg (by simp), if_neg (UInt32.not_le.mpr hpayload.tick_lt),
      if_neg (UInt8.not_lt.mpr hpayload.flags_le), if_neg (not_not.mpr hdefined),
      if_neg hdetail]
    cases records with
    | nil =>
        rw [each_nil] at heach
        rw [heach, hstorage, List.length_nil, if_pos (by decide), if_neg (by simp [variableTestResultHeaderSize])]
    | cons record records =>
        rw [if_neg (by
          intro h
          rw [h, UInt8.toNat_zero, List.length_cons] at hlength
          omega), hlength]
        rw [(alignedRecordsScan_iff (by omega)).mpr ⟨record :: records, rfl, heach,
          (recordsValidate_wire (fun record => validRecord_of_capturedRecord) _).mpr
            ⟨hpayload.valid, hpayload.distinct⟩, rfl⟩, ok_bind, Nat.zero_add,
          recordStorageSize_eq hcountable haddressable]

/-! ## Encodings of typed records -/

omit [Target] in
theorem length_alignedRecordsEncode {records : List Record} {forms : List UInt8}
    (h : alignedRecordsEncode records = .ok forms) : forms.length ≤ records.length * 65542 := by
  induction records generalizing forms with
  | nil =>
      rw [alignedRecordsEncode, Except.ok.injEq] at h
      rw [← h]
      exact Nat.le_refl _
  | cons record records ih =>
      rw [alignedRecordsEncode, bind_eq_ok] at h
      obtain ⟨front, hfront, h⟩ := h
      rw [bind_eq_ok] at h
      obtain ⟨back, hback, h⟩ := h
      rw [Except.ok.injEq] at h
      obtain ⟨-, hlen⟩ := length_alignedRecordEncode hfront
      have hcount := record.payload.count_lt
      have hpadding : align4Padding record.payload.count < 4 := (align4Padding_eq.mpr rfl).1
      have hheader : recordHeaderSize = 4 := rfl
      have hrest := ih hback
      rw [← h, List.length_append, List.length_cons, Nat.succ_mul]
      omega

omit [Target] in
/-- Records of the wire always have an encoding. -/
theorem exists_alignedRecordsEncode (records : List WireRecord) :
    ∃ forms, alignedRecordsEncode (records.map WireRecord.toRecord) = .ok forms := by
  induction records with
  | nil => exact ⟨[], rfl⟩
  | cons record records ih =>
      obtain ⟨forms, hforms⟩ := ih
      rw [List.map_cons, alignedRecordsEncode, alignedRecordEncode_toRecord, ok_bind, hforms,
        ok_bind]
      exact ⟨_, rfl⟩

/-- The size of a record list that can be encoded is the length of its encoding. -/
theorem alignedRecordsSize_forms {records : List Record} {forms : List UInt8} {headerSize : Nat}
    (hcount : records.length < 256) (hheader : headerSize ≤ 12)
    (hforms : alignedRecordsEncode records = .ok forms) :
    alignedRecordsSize records headerSize = .ok (headerSize + forms.length) := by
  have hlen := length_alignedRecordsEncode hforms
  have hmax := le_sizeMax (show headerSize + forms.length ≤ 0x1000000 by omega)
  exact (alignedRecordsSize_iff hforms (by omega)).mpr ⟨rfl, hmax⟩

theorem updateInstructionSize_forms {data : UpdateInstruction} {forms : List UInt8}
    (hnull : ¬ (data.operations.count ≠ 0 ∧ data.operations.isNull))
    (hforms : alignedRecordsEncode data.operations.elements = .ok forms) :
    updateInstructionSize data = .ok (updateInstructionHeaderSize + forms.length) := by
  have hcount := data.operations.count_lt
  have hlen := (Counted.contents_eq hnull).2
  unfold updateInstructionSize
  rw [if_neg hnull]
  exact alignedRecordsSize_forms (by omega) (by decide) hforms

/-- What the Update Instruction encoder writes, and how much room it wants. -/
theorem updateInstructionEncode_forms {data : UpdateInstruction} {forms : List UInt8}
    (hnull : ¬ (data.operations.count ≠ 0 ∧ data.operations.isNull))
    (hforms : alignedRecordsEncode data.operations.elements = .ok forms) (capacity : Nat) :
    updateInstructionEncode data capacity =
      if capacity < updateInstructionHeaderSize + forms.length then fail .bufferTooSmall
      else .ok (toLe 4 data.tickNumber.toNat
          ++ [UInt8.ofNat data.operations.count, data.flags, 0, 0] ++ forms,
        updateInstructionHeaderSize + forms.length) := by
  unfold updateInstructionEncode
  rw [updateInstructionSize_forms hnull hforms, ok_bind]
  split
  case isTrue => rfl
  case isFalse =>
    rw [hforms, ok_bind, ← encodeU32Le_eq]
    have hlen : (encodeU32Le data.tickNumber ++ [UInt8.ofNat data.operations.count, data.flags]
        ++ encodeU16Le 0 ++ forms).length = updateInstructionHeaderSize + forms.length := by
      simp [updateInstructionHeaderSize]
      omega
    unfold ofSize
    rw [if_neg (not_not.mpr hlen), ok_bind, hlen]
    simp [encodeU16Le]

theorem variableTestResultSize_forms {data : VariableTestResult} {forms : List UInt8}
    (hnull : ¬ (data.records.count ≠ 0 ∧ data.records.isNull))
    (hforms : alignedRecordsEncode data.records.elements = .ok forms) :
    variableTestResultSize data = .ok (variableTestResultHeaderSize + forms.length) := by
  have hcount := data.records.count_lt
  have hlen := (Counted.contents_eq hnull).2
  unfold variableTestResultSize
  rw [if_neg hnull]
  exact alignedRecordsSize_forms (by omega) (by decide) hforms

/-- What the Variable Test Result encoder writes, and how much room it wants. -/
theorem variableTestResultEncode_forms {data : VariableTestResult} {forms : List UInt8}
    {condition : UInt8} (hcondition : data.condition = (condition.toNat : Int))
    (hnull : ¬ (data.records.count ≠ 0 ∧ data.records.isNull))
    (hforms : alignedRecordsEncode data.records.elements = .ok forms) (capacity : Nat) :
    variableTestResultEncode data capacity =
      if capacity < variableTestResultHeaderSize + forms.length then fail .bufferTooSmall
      else .ok (toLe 4 data.tickNumber.toNat
          ++ [UInt8.ofNat data.records.count, condition, data.flags, 0]
          ++ toLe 4 data.problemDetail.toNat ++ forms,
        variableTestResultHeaderSize + forms.length) := by
  unfold variableTestResultEncode
  rw [variableTestResultSize_forms hnull hforms, ok_bind]
  split
  case isTrue => rfl
  case isFalse =>
    rw [enumToU8_eq_some.mpr hcondition, checked, ok_bind, hforms, ok_bind, ← encodeU32Le_eq,
      ← encodeU32Le_eq]
    have hlen : (encodeU32Le data.tickNumber
        ++ [UInt8.ofNat data.records.count, condition, data.flags, 0]
        ++ encodeU32Le data.problemDetail ++ forms).length
        = variableTestResultHeaderSize + forms.length := by
      simp [variableTestResultHeaderSize]
      omega
    unfold ofSize
    rw [if_neg (not_not.mpr hlen), ok_bind, hlen]

/-! ## Typed values behind a payload -/

omit [Target] in
theorem updateInstructionValidate_iff {context : Context} (hinit : Initialized context)
    {data : UpdateInstruction} :
    updateInstructionValidate context data = .ok () ↔
      data.tickNumber < context.config.maxExpectedTickCount ∧ data.flags ≤ 1
        ∧ ¬ (data.operations.count = 0 ∨ data.operations.isNull)
        ∧ recordsValidate (logicalOperationFieldsValidate context) noneSeen
          data.operations.elements = .ok () := by
  unfold updateInstructionValidate
  rw [if_neg hinit.initialized]
  constructor
  · intro h
    split at h
    case isTrue => exact absurd h (fail_ne_ok _ _)
    case isFalse htick =>
    split at h
    case isTrue => exact absurd h (fail_ne_ok _ _)
    case isFalse hflags =>
    split at h
    case isTrue => exact absurd h (fail_ne_ok _ _)
    case isFalse hsome =>
    exact ⟨UInt32.not_le.mp htick, UInt8.not_lt.mp hflags, hsome, h⟩
  · rintro ⟨htick, hflags, hsome, h⟩
    rw [if_neg (UInt32.not_le.mpr htick), if_neg (UInt8.not_lt.mpr hflags), if_neg hsome, h]

omit [Target] in
theorem variableTestResultValidate_iff {context : Context} (hinit : Initialized context)
    {data : VariableTestResult} :
    variableTestResultValidate context data = .ok () ↔
      data.tickNumber < context.config.maxExpectedTickCount ∧ data.flags ≤ 1
        ∧ resultConditionIsDefined data.condition
        ∧ ¬ (data.condition = ResultCondition.ok ∧ data.problemDetail ≠ 0)
        ∧ ¬ (data.records.count ≠ 0 ∧ data.records.isNull)
        ∧ recordsValidate (capturedRecordFieldsValidate context) noneSeen
          data.records.elements = .ok () := by
  unfold variableTestResultValidate
  rw [if_neg hinit.initialized]
  constructor
  · intro h
    split at h
    case isTrue => exact absurd h (fail_ne_ok _ _)
    case isFalse htick =>
    split at h
    case isTrue => exact absurd h (fail_ne_ok _ _)
    case isFalse hflags =>
    split at h
    case isTrue => exact absurd h (fail_ne_ok _ _)
    case isFalse hdefined =>
    split at h
    case isTrue => exact absurd h (fail_ne_ok _ _)
    case isFalse hdetail =>
    split at h
    case isTrue => exact absurd h (fail_ne_ok _ _)
    case isFalse hnull =>
    exact ⟨UInt32.not_le.mp htick, UInt8.not_lt.mp hflags, not_not.mp hdefined, hdetail, hnull, h⟩
  · rintro ⟨htick, hflags, hdefined, hdetail, hnull, h⟩
    rw [if_neg (UInt32.not_le.mpr htick), if_neg (UInt8.not_lt.mpr hflags),
      if_neg (not_not.mpr hdefined), if_neg hdetail, if_neg hnull, h]

/-- What the encoder writes for a valid Update Instruction is a payload of the grammar, with
    the records of the operations. -/
theorem updatePayload_of_encode {context : Context} (hinit : Initialized context)
    {data : UpdateInstruction} (hvalid : updateInstructionValidate context data = .ok ())
    {payload : List UInt8} {capacity size : Nat}
    (hencode : updateInstructionEncode data capacity = .ok (payload, size)) :
    ∃ records, records.map WireRecord.toRecord = data.operations.elements
      ∧ UpdatePayload context data.tickNumber data.flags records payload := by
  obtain ⟨htick, hflags, hsome, hrecords⟩ := (updateInstructionValidate_iff hinit).mp hvalid
  have hnull : ¬ (data.operations.count ≠ 0 ∧ data.operations.isNull) := by tauto
  have hcount := data.operations.count_lt
  have hlen := (Counted.contents_eq hnull).2
  obtain ⟨records, hmap, hsizes⟩ := exists_wireRecords
    (fun record => validRecord_of_logicalOperation) hrecords
  have hlength : records.length = data.operations.count := by
    rw [← hlen, ← hmap, List.length_map]
  rw [← hmap] at hrecords
  obtain ⟨hfields, hdistinct⟩ := (recordsValidate_wire
    (fun record => validRecord_of_logicalOperation) records).mp hrecords
  obtain ⟨forms, hforms⟩ := exists_alignedRecordsEncode records
  rw [updateInstructionEncode_forms hnull (hmap ▸ hforms)] at hencode
  split at hencode
  case isTrue => exact absurd hencode (fail_ne_ok _ _)
  case isFalse =>
    refine ⟨records, hmap, htick, hflags, by omega, by omega,
      ⟨forms, each_form_iff.mpr ⟨hsizes, hforms⟩, ?_⟩, hdistinct, hfields⟩
    rw [hlength]
    exact (Prod.mk.inj (Except.ok.inj hencode)).1.symm

/-- A payload of the grammar is what the encoder writes for a valid Update Instruction,
    and the other way round. -/
theorem updatePayload_iff {context : Context} (hinit : Initialized context)
    (payload : List UInt8) :
    (∃ tickNumber flags records, UpdatePayload context tickNumber flags records payload) ↔
      ∃ data, updateInstructionValidate context data = .ok ()
        ∧ ∃ capacity, updateInstructionEncode data capacity = .ok (payload, payload.length) := by
  constructor
  · rintro ⟨tickNumber, flags, records, hpayload⟩
    obtain ⟨forms, heach, hlayout⟩ := hpayload.layout
    obtain ⟨-, hforms⟩ := each_form_iff.mp heach
    have hnonempty := hpayload.nonempty
    let data : UpdateInstruction :=
      { tickNumber, flags
        operations := .array (records.map WireRecord.toRecord) (by
          rw [List.length_map]
          exact hpayload.countable) }
    have hcount : data.operations.count = records.length := List.length_map _
    have hnull : ¬ (data.operations.count ≠ 0 ∧ data.operations.isNull) := by
      simp [data, Counted.isNull]
    refine ⟨data, (updateInstructionValidate_iff hinit).mpr ⟨hpayload.tick_lt, hpayload.flags_le,
      ?_, ?_⟩, payload.length, ?_⟩
    · rw [hcount]
      simp only [data, Counted.isNull, Bool.false_eq_true, or_false]
      omega
    · exact (recordsValidate_wire (fun record => validRecord_of_logicalOperation) records).mpr
        ⟨hpayload.valid, hpayload.distinct⟩
    · have hlen : payload.length = updateInstructionHeaderSize + forms.length := by
        rw [hlayout]
        simp [updateInstructionHeaderSize, length_toLe]
        omega
      rw [updateInstructionEncode_forms hnull hforms, if_neg (by omega), hcount, ← hlen, hlayout]
  · rintro ⟨data, hvalid, capacity, hencode⟩
    obtain ⟨records, -, hpayload⟩ := updatePayload_of_encode hinit hvalid hencode
    exact ⟨data.tickNumber, data.flags, records, hpayload⟩

theorem variablePayload_of_encode {context : Context} (hinit : Initialized context)
    {data : VariableTestResult} (hvalid : variableTestResultValidate context data = .ok ())
    {payload : List UInt8} {capacity size : Nat}
    (hencode : variableTestResultEncode data capacity = .ok (payload, size)) :
    ∃ condition : UInt8, ∃ records, data.condition = condition.toNat
      ∧ records.map WireRecord.toRecord = data.records.elements
      ∧ VariablePayload context data.tickNumber condition data.flags data.problemDetail records
        payload := by
  obtain ⟨htick, hflags, hdefined, hdetail, hnull, hrecords⟩ :=
    (variableTestResultValidate_iff hinit).mp hvalid
  obtain ⟨condition, hcondition⟩ := exists_condition hdefined
  rw [hcondition] at hdefined hdetail
  have hcount := data.records.count_lt
  have hlen := (Counted.contents_eq hnull).2
  obtain ⟨records, hmap, hsizes⟩ := exists_wireRecords
    (fun record => validRecord_of_capturedRecord) hrecords
  have hlength : records.length = data.records.count := by
    rw [← hlen, ← hmap, List.length_map]
  rw [← hmap] at hrecords
  obtain ⟨hfields, hdistinct⟩ := (recordsValidate_wire
    (fun record => validRecord_of_capturedRecord) records).mp hrecords
  obtain ⟨forms, hforms⟩ := exists_alignedRecordsEncode records
  rw [variableTestResultEncode_forms hcondition hnull (hmap ▸ hforms)] at hencode
  split at hencode
  case isTrue => exact absurd hencode (fail_ne_ok _ _)
  case isFalse =>
    refine ⟨condition, records, hcondition, hmap, htick,
      (resultConditionIsDefined_iff condition).mp hdefined, ?_, hflags, by omega,
      ⟨forms, each_form_iff.mpr ⟨hsizes, hforms⟩, ?_⟩, hdistinct, hfields⟩
    · intro h
      by_contra hne
      exact hdetail ⟨condition_ok_iff.mpr h, hne⟩
    · rw [hlength]
      exact (Prod.mk.inj (Except.ok.inj hencode)).1.symm

/-- The same for a Variable Test Result. -/
theorem variablePayload_iff {context : Context} (hinit : Initialized context)
    (payload : List UInt8) :
    (∃ tickNumber condition flags problemDetail records,
        VariablePayload context tickNumber condition flags problemDetail records payload) ↔
      ∃ data, variableTestResultValidate context data = .ok ()
        ∧ ∃ capacity, variableTestResultEncode data capacity = .ok (payload, payload.length) := by
  constructor
  · rintro ⟨tickNumber, condition, flags, problemDetail, records, hpayload⟩
    obtain ⟨forms, heach, hlayout⟩ := hpayload.layout
    obtain ⟨-, hforms⟩ := each_form_iff.mp heach
    let data : VariableTestResult :=
      { tickNumber, condition := condition.toNat, flags, problemDetail
        records := .array (records.map WireRecord.toRecord) (by
          rw [List.length_map]
          exact hpayload.countable) }
    have hcount : data.records.count = records.length := List.length_map _
    have hnull : ¬ (data.records.count ≠ 0 ∧ data.records.isNull) := by
      simp [data, Counted.isNull]
    refine ⟨data, (variableTestResultValidate_iff hinit).mpr ⟨hpayload.tick_lt,
      hpayload.flags_le, (resultConditionIsDefined_iff condition).mpr hpayload.condition_le,
      ?_, hnull, ?_⟩, payload.length, ?_⟩
    · rintro ⟨hcondition, hdetail⟩
      exact hdetail (hpayload.detail (condition_ok_iff.mp hcondition))
    · exact (recordsValidate_wire (fun record => validRecord_of_capturedRecord) records).mpr
        ⟨hpayload.valid, hpayload.distinct⟩
    · have hlen : payload.length = variableTestResultHeaderSize + forms.length := by
        rw [hlayout]
        simp [variableTestResultHeaderSize, length_toLe]
        omega
      rw [variableTestResultEncode_forms rfl hnull hforms, if_neg (by omega), hcount, ← hlen,
        hlayout]
  · rintro ⟨data, hvalid, capacity, hencode⟩
    obtain ⟨condition, records, -, -, hpayload⟩ := variablePayload_of_encode hinit hvalid hencode
    exact ⟨data.tickNumber, condition, data.flags, data.problemDetail, records, hpayload⟩

/-! ## The two scanners -/

/-- For an initialized context the scanners accept exactly the payloads of the grammar,
    which are the encodings of the typed bodies that the validators accept, and report
    the storage of the aligned record array with the data behind it. -/
theorem aligned_records_grammar {config : Config} {context : Context}
    (hinit : init config = .ok context) (payload : List UInt8) :
    ((∀ size, updateInstructionScan context payload = .ok size ↔
        ∃ tickNumber flags records, UpdatePayload context tickNumber flags records payload
          ∧ size = recordStorage Target.sizeofLogicalOperation records)
      ∧ ((∃ size, updateInstructionScan context payload = .ok size) ↔
        ∃ data, updateInstructionValidate context data = .ok ()
          ∧ ∃ capacity, updateInstructionEncode data capacity = .ok (payload, payload.length)))
    ∧ (∀ size, variableTestResultScan context payload = .ok size ↔
        ∃ tickNumber condition flags problemDetail records,
          VariablePayload context tickNumber condition flags problemDetail records payload
            ∧ size = recordStorage Target.sizeofCapturedRecord records)
      ∧ ((∃ size, variableTestResultScan context payload = .ok size) ↔
        ∃ data, variableTestResultValidate context data = .ok ()
          ∧ ∃ capacity, variableTestResultEncode data capacity
            = .ok (payload, payload.length)) := by
  have hcontext := initialized_of_init hinit
  refine ⟨⟨updateInstructionScan_iff context payload, ?_⟩,
    variableTestResultScan_iff context payload, ?_⟩
  · rw [← updatePayload_iff hcontext]
    simp only [updateInstructionScan_iff]
    constructor
    · rintro ⟨size, tickNumber, flags, records, hpayload, -⟩
      exact ⟨tickNumber, flags, records, hpayload⟩
    · rintro ⟨tickNumber, flags, records, hpayload⟩
      exact ⟨_, tickNumber, flags, records, hpayload, rfl⟩
  · rw [← variablePayload_iff hcontext]
    simp only [variableTestResultScan_iff]
    constructor
    · rintro ⟨size, tickNumber, condition, flags, problemDetail, records, hpayload, -⟩
      exact ⟨tickNumber, condition, flags, problemDetail, records, hpayload⟩
    · rintro ⟨tickNumber, condition, flags, problemDetail, records, hpayload⟩
      exact ⟨_, tickNumber, condition, flags, problemDetail, records, hpayload, rfl⟩

omit [Target] in
/-- Two UART records of three and of four bytes: two array elements and seven data bytes. -/
theorem aligned_records_grammar_uart :
    ∃ tickNumber flags records,
      UpdatePayload ⟨defaultConfig, 1⟩ tickNumber flags records
        [5, 0, 0, 0, 2, 1, 0, 0, 16, 0, 3, 0, 65, 66, 67, 0, 16, 1, 4, 0, 68, 69, 70, 71]
      ∧ 55 = @recordStorage .lp64 Target.lp64.sizeofLogicalOperation records :=
  ((@aligned_records_grammar .lp64 defaultConfig ⟨defaultConfig, 1⟩ rfl _).1.1 55).mp
    (by decide +kernel)

end HilRigProtocol.Application
