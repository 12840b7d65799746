/-
  The record grammar: what `HIL_APPLICATION_Aligned_Records_Scan` accepts, and that it
  is what the record encoder writes.

  A record on the wire is a type byte, a channel byte, a 16-bit length, as many data
  bytes and zero bytes up to the next multiple of four. `WireRecord.Form` says so without
  the functions of the codec; `alignedRecordsScan_iff` and `alignedRecordsEncode_iff`
  connect it to the two loops. The marks of `HIL_APPLICATION_Record_Pair_Mark` are a set
  of pairs, so the validators' loop accepts exactly lists of valid records with pairwise
  distinct pairs (`recordsValidate_iff`).
-/
import HilRigProtocol.Application.Encoding
import HilRigProtocol.Application.Decoding

namespace HilRigProtocol.Application

open Library Library.Reader

/-! ## The grammar -/

/-- A record on the wire. Its length field has 16 bits. -/
structure WireRecord where
  peripheralType : UInt8
  channel : UInt8
  data : List UInt8
  fits : data.length < 65536

namespace WireRecord

/-- `form` is the record on the wire, with between one and `maxDataSize` data bytes and
    zeros up to a multiple of four. -/
def Form (maxDataSize : Nat) (record : WireRecord) (form : List UInt8) : Prop :=
  1 ≤ record.data.length ∧ record.data.length ≤ maxDataSize ∧
    ∃ padding, padding < 4 ∧ 4 ∣ record.data.length + padding ∧
      form = [record.peripheralType, record.channel] ++ toLe 2 record.data.length
        ++ record.data ++ List.replicate padding 0

/-- The pair that no two records of one message share. -/
def pair (record : WireRecord) : UInt8 × UInt8 := (record.peripheralType, record.channel)

/-- The typed record. -/
def toRecord (record : WireRecord) : Record where
  peripheralType := record.peripheralType.toNat
  channel := record.channel
  payload := .array record.data record.fits

/-- The data bytes of a list of records. -/
def dataSize (records : List WireRecord) : Nat := (records.map (·.data.length)).sum

end WireRecord

theorem align4Padding_eq {size padding : Nat} :
    padding < 4 ∧ 4 ∣ size + padding ↔ padding = align4Padding size := by
  unfold align4Padding
  omega

theorem encodeU16Le_ofNat {size : Nat} (h : size < 65536) :
    encodeU16Le (UInt16.ofNat size) = toLe 2 size := by
  rw [encodeU16Le_eq, UInt16.toNat_ofNat_of_lt' h]

/-- What the record encoder writes for a record of the grammar. -/
theorem alignedRecordEncode_toRecord (record : WireRecord) :
    alignedRecordEncode record.toRecord =
      .ok ([record.peripheralType, record.channel] ++ toLe 2 record.data.length ++ record.data
        ++ List.replicate (align4Padding record.data.length) 0) := by
  have htype : enumToU8 (record.peripheralType.toNat : Int) = some record.peripheralType :=
    enumToU8_eq_some.mpr rfl
  simp only [alignedRecordEncode, WireRecord.toRecord, htype, checked, ok_bind, Counted.contents,
    Counted.count, encodeU16Le_ofNat record.fits]

theorem form_iff {maxDataSize : Nat} {record : WireRecord} {form : List UInt8} :
    record.Form maxDataSize form ↔
      1 ≤ record.data.length ∧ record.data.length ≤ maxDataSize ∧
        alignedRecordEncode record.toRecord = .ok form := by
  unfold WireRecord.Form
  rw [alignedRecordEncode_toRecord]
  constructor
  · rintro ⟨hpos, hmax, padding, hlt, hdvd, rfl⟩
    rw [align4Padding_eq.mp ⟨hlt, hdvd⟩]
    exact ⟨hpos, hmax, rfl⟩
  · rintro ⟨hpos, hmax, hform⟩
    obtain ⟨hlt, hdvd⟩ := align4Padding_eq.mpr (rfl : align4Padding record.data.length = _)
    exact ⟨hpos, hmax, _, hlt, hdvd, (Except.ok.inj hform).symm⟩

theorem alignedRecordsEncode_iff {records : List WireRecord} {form : List UInt8} :
    alignedRecordsEncode (records.map WireRecord.toRecord) = .ok form ↔
      Each (fun record e => alignedRecordEncode record.toRecord = .ok e) records form := by
  induction records generalizing form with
  | nil =>
      rw [each_nil]
      simp [alignedRecordsEncode, eq_comm]
  | cons record records ih =>
      rw [each_cons, List.map_cons, alignedRecordsEncode]
      simp only [bind_eq_ok, ih, Except.ok.injEq]
      constructor
      · rintro ⟨front, hfront, back, hback, rfl⟩
        exact ⟨front, back, hfront, hback, rfl⟩
      · rintro ⟨front, back, hfront, hback, rfl⟩
        exact ⟨front, hfront, back, hback, rfl⟩

theorem each_form_iff {maxDataSize : Nat} {records : List WireRecord} {form : List UInt8} :
    Each (WireRecord.Form maxDataSize) records form ↔
      (∀ record ∈ records, 1 ≤ record.data.length ∧ record.data.length ≤ maxDataSize) ∧
        alignedRecordsEncode (records.map WireRecord.toRecord) = .ok form := by
  rw [alignedRecordsEncode_iff]
  induction records generalizing form with
  | nil => simp [each_nil]
  | cons record records ih =>
      simp only [each_cons, ih, form_iff, List.forall_mem_cons]
      constructor
      · rintro ⟨front, back, ⟨hpos, hmax, hfront⟩, ⟨hsizes, hback⟩, rfl⟩
        exact ⟨⟨⟨hpos, hmax⟩, hsizes⟩, front, back, hfront, hback, rfl⟩
      · rintro ⟨⟨⟨hpos, hmax⟩, hsizes⟩, front, back, hfront, hback, rfl⟩
        exact ⟨front, back, ⟨hpos, hmax, hfront⟩, ⟨hsizes, hback⟩, rfl⟩

/-! ## Record headers -/

theorem reads_recordHeader : Reads recordHeader fun header form =>
    ∃ type, header.peripheralType = (type.toNat : Int) ∧
      form = [type, header.channel] ++ encodeU16Le header.payloadLength := by
  refine (reads_enum.bind fun peripheralType => reads_byte.bind fun channel =>
    reads_u16.bind fun payloadLength => reads_pure _).congr ?_
  rintro ⟨peripheralType, channel, payloadLength⟩ form
  simp only [RecordHeader.mk.injEq, enumToU8_eq_some]
  constructor
  · rintro ⟨_, _, _, ⟨type, htype, rfl⟩, ⟨_, _, _, rfl, ⟨_, _, _, rfl, ⟨⟨rfl, rfl, rfl⟩, rfl⟩,
      rfl⟩, rfl⟩, rfl⟩
    exact ⟨type, htype, by simp⟩
  · rintro ⟨type, htype, rfl⟩
    exact ⟨peripheralType, _, _, ⟨type, htype, rfl⟩, ⟨channel, _, _, rfl, ⟨payloadLength, _, _,
      rfl, ⟨⟨rfl, rfl, rfl⟩, rfl⟩, rfl⟩, rfl⟩, by simp⟩

theorem ofVector_of_pos {α : Type} {n limit : Nat} (xs : List.Vector α n) (fits : n < limit)
    (h : n ≠ 0) : Counted.ofVector xs fits = .array xs.toList (by rw [xs.toList_length]; exact fits) :=
  if_neg h

/-- Zero bytes are the only ones that the padding check lets through. -/
theorem padding_zero {n : Nat} {padding : List.Vector UInt8 n} :
    ¬ padding.toList.any (· ≠ 0) ↔ padding.toList = List.replicate n 0 := by
  rw [List.eq_replicate_iff]
  simp [List.any_eq_true]

/-! ## Marked pairs -/

/-- `channel` of the type `peripheralType` has its mark. -/
def Marked (seen : List UInt16) (peripheralType : Nat) (channel : UInt8) : Prop :=
  ∃ marks, seen[peripheralType]? = some marks ∧ marks &&& (1 <<< channel.toUInt16) ≠ 0

/-- The types and channels that have a place among the marks. -/
def InRange (record : Record) : Prop :=
  0 ≤ record.peripheralType ∧ record.peripheralType < 20 ∧ record.channel < 16

theorem not_marked_noneSeen (peripheralType : Nat) (channel : UInt8) :
    ¬ Marked noneSeen peripheralType channel := by
  rintro ⟨marks, hmarks, hne⟩
  have hzero : marks = 0 := by
    have hmem := List.mem_of_getElem? hmarks
    exact List.eq_of_mem_replicate hmem
  rw [hzero, UInt16.zero_and] at hne
  exact hne rfl

/-- Two channels below 16 have the same bit only when they are the same. -/
theorem channelBit_and {c d : UInt8} (hc : c < 16) (hd : d < 16) :
    ((1 : UInt16) <<< c.toUInt16) &&& (1 <<< d.toUInt16) ≠ 0 ↔ c = d := by
  have hall : ∀ i j : Fin 16, (1 : UInt16) <<< (UInt8.ofNat i).toUInt16
      &&& (1 <<< (UInt8.ofNat j).toUInt16) ≠ 0 ↔ i = j := by decide
  have hc' : c.toNat < 16 := hc
  have hd' : d.toNat < 16 := hd
  have h := hall ⟨c.toNat, hc'⟩ ⟨d.toNat, hd'⟩
  simp only [UInt8.ofNat_toNat] at h
  exact h.trans (by rw [Fin.mk.injEq, UInt8.toNat_inj])

theorem and_or_ne_zero (a b m : UInt16) :
    (a ||| b) &&& m ≠ 0 ↔ a &&& m ≠ 0 ∨ b &&& m ≠ 0 := by
  have hdistrib : (a ||| b) &&& m = a &&& m ||| b &&& m := by
    apply UInt16.toBitVec_inj.mp
    simp [BitVec.and_or_distrib_right]
  have hzero : ∀ x y : UInt16, x ||| y = 0 ↔ x = 0 ∧ y = 0 := by
    intro x y
    simp only [← UInt16.toBitVec_inj, UInt16.toBitVec_or]
    exact BitVec.or_eq_zero_iff
  rw [hdistrib, ne_eq, hzero]
  exact not_and_or

/-- `HIL_APPLICATION_Record_Pair_Mark` adds one pair that had no mark. -/
theorem recordPairMark_eq_ok {seen seen' : List UInt16} {peripheralType : Int} {channel : UInt8}
    (hseen : seen.length = 20) :
    recordPairMark seen peripheralType channel = .ok seen' →
      (0 ≤ peripheralType ∧ peripheralType < 20 ∧ channel < 16)
        ∧ ¬ Marked seen peripheralType.toNat channel ∧ seen'.length = 20
        ∧ ∀ type other, other < 16 → (Marked seen' type other ↔
          Marked seen type other ∨ (type = peripheralType.toNat ∧ other = channel)) := by
  unfold recordPairMark
  split
  case isTrue h => simp
  case isFalse h =>
    have hrange : 0 ≤ peripheralType ∧ peripheralType < 20 ∧ channel < 16 := by
      have hchannel : ¬ channel ≥ 16 → channel < 16 := UInt8.not_le.mp
      rw [hseen] at h
      exact ⟨by omega, by omega, hchannel (by tauto)⟩
    obtain ⟨marks, hget⟩ : ∃ marks, seen[peripheralType.toNat]? = some marks :=
      ⟨_, List.getElem?_eq_getElem (by omega)⟩
    rw [hget]
    dsimp only
    split
    case isTrue hmark => simp
    case isFalse hmark =>
      intro hok
      rw [Except.ok.injEq] at hok
      subst hok
      refine ⟨hrange, ?_, by rw [List.length_set, hseen], ?_⟩
      · rintro ⟨marks', hmarks', hne⟩
        rw [hget, Option.some.injEq] at hmarks'
        rw [hmarks'] at hmark
        exact hmark hne
      · intro type other hother
        unfold Marked
        by_cases htype : type = peripheralType.toNat
        · rw [htype, List.getElem?_set_self (by omega), hget]
          simp only [Option.some.injEq, exists_eq_left', true_and]
          rw [and_or_ne_zero, channelBit_and hrange.2.2 hother, eq_comm (a := channel)]
        · rw [List.getElem?_set_ne (Ne.symm htype)]
          simp [htype]

theorem recordPairMark_ok {seen : List UInt16} {peripheralType : Int} {channel : UInt8}
    (hseen : seen.length = 20)
    (hrange : 0 ≤ peripheralType ∧ peripheralType < 20 ∧ channel < 16)
    (hmark : ¬ Marked seen peripheralType.toNat channel) :
    ∃ seen', recordPairMark seen peripheralType channel = .ok seen' := by
  obtain ⟨hpos, hlt, hchannel⟩ := hrange
  unfold recordPairMark
  rw [if_neg (by
    rintro (h | h | h)
    · omega
    · rw [hseen] at h
      omega
    · exact UInt8.not_le.mpr hchannel h)]
  obtain ⟨marks, hget⟩ : ∃ marks, seen[peripheralType.toNat]? = some marks :=
    ⟨_, List.getElem?_eq_getElem (by omega)⟩
  rw [hget]
  dsimp only
  rw [if_neg (by
    intro hne
    exact hmark ⟨_, hget, hne⟩)]
  exact ⟨_, rfl⟩

/-- The validators' record loop: valid records, no pair of which has a mark or stands
    twice. -/
theorem recordsValidate_iff {fieldsValidate : Record → Result Unit} {records : List Record}
    {seen : List UInt16} (hseen : seen.length = 20)
    (hrange : ∀ record ∈ records, fieldsValidate record = .ok () → InRange record) :
    recordsValidate fieldsValidate seen records = .ok () ↔
      (∀ record ∈ records, fieldsValidate record = .ok ())
        ∧ (∀ record ∈ records, ¬ Marked seen record.peripheralType.toNat record.channel)
        ∧ (records.map fun record => (record.peripheralType, record.channel)).Nodup := by
  induction records generalizing seen with
  | nil => simp [recordsValidate]
  | cons record records ih =>
      have htail : ∀ r ∈ records, fieldsValidate r = .ok () → InRange r :=
        fun r hr => hrange r (List.mem_cons_of_mem _ hr)
      simp only [recordsValidate, bind_eq_ok, List.forall_mem_cons, List.map_cons,
        List.nodup_cons]
      constructor
      · rintro ⟨seen', hmark, ⟨⟩, hvalid, hrest⟩
        obtain ⟨hin, hnot, hlen, hmarked⟩ := recordPairMark_eq_ok hseen hmark
        obtain ⟨hall, hunmarked, hnodup⟩ := (ih hlen htail).mp hrest
        refine ⟨⟨hvalid, hall⟩, ⟨hnot, fun r hr => ?_⟩, ?_, hnodup⟩
        · have hr' := htail r hr (hall r hr)
          exact fun h => hunmarked r hr ((hmarked _ _ hr'.2.2).mpr (.inl h))
        · intro hmem
          obtain ⟨r, hr, hpair⟩ := List.mem_map.mp hmem
          have hr' := htail r hr (hall r hr)
          refine hunmarked r hr ((hmarked _ _ hr'.2.2).mpr (.inr ?_))
          rw [(Prod.mk.inj hpair).1, (Prod.mk.inj hpair).2]
          exact ⟨rfl, rfl⟩
      · rintro ⟨⟨hvalid, hall⟩, ⟨hnot, hunmarked⟩, hfresh, hnodup⟩
        have hin := hrange record List.mem_cons_self hvalid
        obtain ⟨seen', hmark⟩ := recordPairMark_ok hseen hin hnot
        obtain ⟨-, -, hlen, hmarked⟩ := recordPairMark_eq_ok hseen hmark
        refine ⟨seen', hmark, (), hvalid, (ih hlen htail).mpr ⟨hall, fun r hr h => ?_, hnodup⟩⟩
        have hr' := htail r hr (hall r hr)
        rcases (hmarked _ _ hr'.2.2).mp h with hold | ⟨htype, hchannel⟩
        · exact hunmarked r hr hold
        · refine hfresh (List.mem_map.mpr ⟨r, hr, Prod.ext ?_ hchannel⟩)
          have h0 := hr'.1
          have h1 := hin.1
          dsimp only
          omega

/-! ## Records that carry valid data -/

theorem okIf_eq_ok {condition : Bool} : okIf condition = .ok () ↔ condition = true := by
  unfold okIf
  split <;> simp_all

theorem byteSpanValidate_eq_ok {span : ByteSpan} {maxAllowedSize : Nat} :
    byteSpanValidate span maxAllowedSize = .ok () ↔
      span.count ≤ maxAllowedSize ∧ ¬ (span.count ≠ 0 ∧ span.isNull) := by
  unfold byteSpanValidate
  split
  case isTrue h =>
    simp only [fail_ne_ok, false_iff]
    omega
  case isFalse h =>
    split
    case isTrue hnull => simp [hnull]
    case isFalse hnull => exact ⟨fun _ => ⟨by omega, hnull⟩, fun _ => rfl⟩

theorem channel_of_digitalBank {channel : UInt8} {span : ByteSpan}
    (h : digitalBankPayloadValidate channel span = .ok ()) : channel < 16 := by
  unfold digitalBankPayloadValidate at h
  split at h
  case isTrue => exact absurd h (fail_ne_ok _ _)
  case isFalse hne =>
    have hzero : channel = 0 := by tauto
    rw [hzero]
    decide

theorem channel_of_pwm {channel : UInt8} {span : ByteSpan}
    (h : pwmPayloadValidate channel 2 span = .ok ()) : channel < 16 := by
  unfold pwmPayloadValidate at h
  split at h
  case isTrue => exact absurd h (fail_ne_ok _ _)
  case isFalse hne =>
    have hlt : channel.toNat < 2 := by omega
    exact Nat.lt_trans hlt (by decide)

theorem channel_of_lt {channel bound : UInt8} (h : channel < bound) (hbound : bound ≤ 16) :
    channel < 16 :=
  UInt8.lt_of_lt_of_le h hbound

theorem channel_of_spi {channel : UInt8} {span : ByteSpan}
    (h : spiPayloadValidate channel span = .ok ()) : channel < 16 := by
  unfold spiPayloadValidate at h
  split at h
  case isTrue => exact absurd h (fail_ne_ok _ _)
  case isFalse hne => exact channel_of_lt (UInt8.not_le.mp hne) (by decide)

theorem channel_of_can {channel : UInt8} {span : ByteSpan}
    (h : canPayloadValidate channel span = .ok ()) : channel < 16 := by
  unfold canPayloadValidate at h
  split at h
  case isTrue => exact absurd h (fail_ne_ok _ _)
  case isFalse hne => exact channel_of_lt (UInt8.not_le.mp (by tauto)) (by decide)

theorem inRange_of_type {record : Record} {peripheralType : Int}
    (htype : record.peripheralType = peripheralType)
    (hrange : 0 ≤ peripheralType ∧ peripheralType < 20) (hchannel : record.channel < 16) :
    InRange record := by
  subst htype
  exact ⟨hrange.1, hrange.2, hchannel⟩

/-- What every valid record satisfies, whichever peripheral it is for. -/
structure ValidRecord (maxDataSize : Nat) (record : Record) : Prop where
  inRange : InRange record
  pos : record.payload.count ≠ 0
  le : record.payload.count ≤ maxDataSize
  notNull : ¬ (record.payload.count ≠ 0 ∧ record.payload.isNull)

theorem validRecord_of_logicalOperation {context : Context} {record : Record}
    (h : logicalOperationFieldsValidate context record = .ok ()) :
    ValidRecord context.config.maxVariableDataSize record := by
  unfold logicalOperationFieldsValidate at h
  dsimp only at h
  split at h
  case isTrue => exact absurd h (fail_ne_ok _ _)
  case isFalse hspan =>
    push Not at hspan
    obtain ⟨hle, hnull⟩ := byteSpanValidate_eq_ok.mp hspan.1
    refine ⟨?_, hspan.2, hle, hnull⟩
    split at h
    case isTrue htype => exact inRange_of_type htype (by decide) (channel_of_digitalBank h)
    split at h
    case isTrue htype =>
      have hchannel : record.channel < 6 := by simpa using (Bool.and_eq_true_iff.mp
        (okIf_eq_ok.mp h)).1
      exact inRange_of_type htype (by decide) (channel_of_lt hchannel (by decide))
    split at h
    case isTrue htype => exact inRange_of_type htype (by decide) (channel_of_pwm h)
    split at h
    case isTrue htype =>
      exact inRange_of_type htype (by decide) (channel_of_lt (by simpa using okIf_eq_ok.mp h) (by decide))
    split at h
    case isTrue htype => exact inRange_of_type htype (by decide) (channel_of_spi h)
    split at h
    case isTrue htype => exact inRange_of_type htype (by decide) (channel_of_can h)
    split at h
    case isTrue => exact absurd h (fail_ne_ok _ _)
    exact absurd h (fail_ne_ok _ _)

theorem validRecord_of_capturedRecord {context : Context} {record : Record}
    (h : capturedRecordFieldsValidate context record = .ok ()) :
    ValidRecord context.config.maxVariableDataSize record := by
  unfold capturedRecordFieldsValidate at h
  dsimp only at h
  split at h
  case isTrue => exact absurd h (fail_ne_ok _ _)
  case isFalse hspan =>
    push Not at hspan
    obtain ⟨hle, hnull⟩ := byteSpanValidate_eq_ok.mp hspan.1
    refine ⟨?_, hspan.2, hle, hnull⟩
    split at h
    case isTrue htype => exact inRange_of_type htype (by decide) (channel_of_digitalBank h)
    split at h
    case isTrue htype =>
      have hchannel : record.channel < 2 := by simpa using (Bool.and_eq_true_iff.mp
        (okIf_eq_ok.mp h)).1
      exact inRange_of_type htype (by decide) (channel_of_lt hchannel (by decide))
    split at h
    case isTrue htype => exact inRange_of_type htype (by decide) (channel_of_pwm h)
    split at h
    case isTrue htype =>
      exact inRange_of_type htype (by decide) (channel_of_lt (by simpa using okIf_eq_ok.mp h) (by decide))
    split at h
    case isTrue htype =>
      exact inRange_of_type htype (by decide) (channel_of_lt (by simpa using okIf_eq_ok.mp h) (by decide))
    split at h
    case isTrue htype => exact inRange_of_type htype (by decide) (channel_of_can h)
    split at h
    case isTrue => exact absurd h (fail_ne_ok _ _)
    exact absurd h (fail_ne_ok _ _)

/-- A valid record is one of the grammar. -/
theorem exists_wireRecord {maxDataSize : Nat} {record : Record}
    (h : ValidRecord maxDataSize record) : ∃ wire : WireRecord, wire.toRecord = record := by
  obtain ⟨peripheralType, channel, payload⟩ := record
  have hin := h.inRange
  have hpos := h.pos
  have hnull := h.notNull
  cases payload with
  | null count fits => exact absurd ⟨hpos, rfl⟩ hnull
  | array data fits =>
      refine ⟨⟨UInt8.ofNat peripheralType.toNat, channel, data, fits⟩, ?_⟩
      have h0 : 0 ≤ peripheralType := hin.1
      have h1 : peripheralType < 20 := hin.2.1
      have htype : ((UInt8.ofNat peripheralType.toNat).toNat : Int) = peripheralType := by
        rw [UInt8.toNat_ofNat']
        omega
      rw [WireRecord.toRecord, htype]

/-! ## Record sizes -/

section
variable [Target]

theorem le_sizeMax {size : Nat} (h : size ≤ 0x1000000) : size ≤ Target.sizeMax := by
  have := Target.operations_addressable
  omega

omit [Target] in
theorem length_alignedRecordEncode {record : Record} {form : List UInt8}
    (h : alignedRecordEncode record = .ok form) :
    ¬ (record.payload.count ≠ 0 ∧ record.payload.isNull)
      ∧ form.length = recordHeaderSize + record.payload.count + align4Padding record.payload.count := by
  unfold alignedRecordEncode at h
  rw [bind_eq_ok] at h
  obtain ⟨type, -, h⟩ := h
  rw [bind_eq_ok] at h
  obtain ⟨bytes, hbytes, h⟩ := h
  have hnull : ¬ (record.payload.count ≠ 0 ∧ record.payload.isNull) := by
    rintro ⟨hcount, hnull⟩
    cases hpayload : record.payload with
    | null count fits =>
        rw [hpayload] at hbytes hcount
        rw [Counted.contents, if_neg (by exact hcount)] at hbytes
        simp at hbytes
    | array data fits =>
        rw [hpayload] at hnull
        exact absurd hnull (by simp [Counted.isNull])
  obtain ⟨hcontents, hlen⟩ := Counted.contents_eq hnull
  rw [hcontents, Except.ok.injEq] at hbytes
  rw [Except.ok.injEq] at h
  refine ⟨hnull, ?_⟩
  rw [← h, ← hbytes]
  simp only [List.length_append, List.length_cons, List.length_nil, length_encodeU16Le, hlen,
    List.length_replicate, recordHeaderSize]

theorem alignedRecordSize_eq_ok {span : ByteSpan} {runningTotal size : Nat}
    (hnull : ¬ (span.count ≠ 0 ∧ span.isNull)) :
    alignedRecordSize span runningTotal = .ok size ↔
      size = runningTotal + (recordHeaderSize + span.count + align4Padding span.count)
        ∧ size ≤ Target.sizeMax := by
  have hcount := span.count_lt
  have hpadding : align4Padding span.count < 4 := (align4Padding_eq.mpr rfl).1
  have hmax : 0x1000000 ≤ Target.sizeMax := le_sizeMax (Nat.le_refl _)
  have hheader : recordHeaderSize = 4 := rfl
  unfold alignedRecordSize
  rw [if_neg hnull, checked_eq_ok, checkedAddSize_of_le (by omega), Option.bind_eq_bind,
    Option.bind_some, checkedAddSize_of_le (by omega), Option.bind_some, checkedAddSize_eq_some]
  omega

/-- The size that the record loop reports is the number of bytes the encoder's loop
    writes. -/
theorem alignedRecordsSize_iff {records : List Record} {form : List UInt8}
    {runningTotal size : Nat} (hform : alignedRecordsEncode records = .ok form)
    (htotal : runningTotal ≤ Target.sizeMax) :
    alignedRecordsSize records runningTotal = .ok size ↔
      size = runningTotal + form.length ∧ size ≤ Target.sizeMax := by
  induction records generalizing form runningTotal with
  | nil =>
      rw [alignedRecordsEncode, Except.ok.injEq] at hform
      rw [alignedRecordsSize, Except.ok.injEq, ← hform, List.length_nil]
      omega
  | cons record records ih =>
      rw [alignedRecordsEncode, bind_eq_ok] at hform
      obtain ⟨front, hfront, hform⟩ := hform
      rw [bind_eq_ok] at hform
      obtain ⟨back, hback, hform⟩ := hform
      rw [Except.ok.injEq] at hform
      obtain ⟨hnull, hlen⟩ := length_alignedRecordEncode hfront
      rw [alignedRecordsSize, bind_eq_ok, ← hform, List.length_append]
      constructor
      · rintro ⟨middle, hmiddle, hsize⟩
        obtain ⟨rfl, hle⟩ := (alignedRecordSize_eq_ok hnull).mp hmiddle
        obtain ⟨hsize, hmax⟩ := (ih hback hle).mp hsize
        exact ⟨by omega, hmax⟩
      · rintro ⟨hsize, hmax⟩
        have hle : runningTotal + front.length ≤ Target.sizeMax := by omega
        exact ⟨runningTotal + front.length,
          (alignedRecordSize_eq_ok hnull).mpr ⟨by omega, hle⟩,
          (ih hback hle).mpr ⟨by omega, hmax⟩⟩

end

/-! ## The scan -/

section
variable [Target] {context : Context} {fieldsValidate : Record → Result Unit}

omit [Target] in
/-- A record header and its data are the front of a record of the grammar. -/
theorem record_eq_toRecord {header : RecordHeader} {type : UInt8}
    (htype : header.peripheralType = (type.toNat : Int)) (hpos : header.payloadLength ≠ 0)
    (data : List.Vector UInt8 header.payloadLength.toNat)
    (fits : data.toList.length < 65536) :
    header.record data = WireRecord.toRecord ⟨type, header.channel, data.toList, fits⟩ := by
  have hne : header.payloadLength.toNat ≠ 0 := fun h => hpos (UInt16.toNat_inj.mp h)
  simp only [RecordHeader.record, WireRecord.toRecord, htype, ofVector_of_pos _ _ hne]

/-- One turn of the scan takes one record of the grammar off the payload. -/
theorem alignedRecordsScan_succ {recordCount : Nat} {seen : List UInt16}
    {totalPayload total : Nat} {payload : List UInt8}
    (h : alignedRecordsScan context fieldsValidate (recordCount + 1) seen totalPayload payload
      = .ok total) :
    ∃ record : WireRecord, ∃ form rest seen',
      record.Form context.config.maxVariableDataSize form ∧ payload = form ++ rest
        ∧ recordPairMark seen record.toRecord.peripheralType record.channel = .ok seen'
        ∧ fieldsValidate record.toRecord = .ok ()
        ∧ alignedRecordsScan context fieldsValidate recordCount seen'
          (totalPayload + record.data.length) rest = .ok total := by
  rw [alignedRecordsScan] at h
  split at h
  case isTrue => exact absurd h (fail_ne_ok _ _)
  rw [bind_eq_ok] at h
  obtain ⟨⟨header, afterHeader⟩, hheader, h⟩ := h
  obtain ⟨headerForm, ⟨type, htype, rfl⟩, rfl⟩ := (read_eq_ok reads_recordHeader).mp hheader
  dsimp only at h
  split at h
  case isTrue => exact absurd h (fail_ne_ok _ _)
  case isFalse hpos =>
  split at h
  case isTrue => exact absurd h (fail_ne_ok _ _)
  case isFalse hmax =>
  split at h
  case isTrue => exact absurd h (fail_ne_ok _ _)
  rw [bind_eq_ok] at h
  obtain ⟨⟨data, afterData⟩, hdata, h⟩ := h
  obtain ⟨_, rfl, rfl⟩ := (read_eq_ok (reads_bytes _)).mp hdata
  dsimp only at h
  rw [bind_eq_ok] at h
  obtain ⟨seen', hmark, h⟩ := h
  rw [bind_eq_ok] at h
  obtain ⟨⟨⟩, hvalid, h⟩ := h
  split at h
  case isTrue => exact absurd h (fail_ne_ok _ _)
  rw [bind_eq_ok] at h
  obtain ⟨⟨padding, rest⟩, hpadding, h⟩ := h
  obtain ⟨_, rfl, rfl⟩ := (read_eq_ok (reads_bytes _)).mp hpadding
  dsimp only at h
  split at h
  case isTrue => exact absurd h (fail_ne_ok _ _)
  case isFalse hzero =>
  rw [bind_eq_ok] at h
  obtain ⟨total', htotal, h⟩ := h
  rw [checked_eq_ok] at htotal
  obtain ⟨rfl, -⟩ := checkedAddSize_eq_some.mp htotal
  have hlen : data.toList.length = header.payloadLength.toNat := data.toList_length
  have fits : data.toList.length < 65536 := by
    rw [hlen]
    exact header.payloadLength.toNat_lt
  have hne : header.payloadLength.toNat ≠ 0 := fun h => hpos (UInt16.toNat_inj.mp h)
  rw [record_eq_toRecord htype hpos data fits] at hvalid
  have hform := form_iff.mpr ⟨show 1 ≤ data.toList.length by omega,
    show data.toList.length ≤ context.config.maxVariableDataSize by omega,
    alignedRecordEncode_toRecord ⟨type, header.channel, data.toList, fits⟩⟩
  refine ⟨_, _, rest, seen', hform, ?_, ?_, hvalid, ?_⟩
  · rw [padding_zero.mp hzero]
    simp only [hlen, encodeU16Le_eq, List.append_assoc]
  · rw [htype] at hmark
    exact hmark
  · rw [hlen]
    exact h

omit [Target] in
/-- How a record of the grammar is read: its header, its data and its padding. -/
theorem read_form {maxDataSize : Nat} {record : WireRecord} {form : List UInt8}
    (h : record.Form maxDataSize form) :
    ∃ header : RecordHeader, ∃ bytes : List.Vector UInt8 header.payloadLength.toNat,
      ∃ padding : List.Vector UInt8 (align4Padding header.payloadLength.toNat),
        header.payloadLength.toNat = record.data.length
          ∧ header.record bytes = record.toRecord
          ∧ ¬ padding.toList.any (· ≠ 0)
          ∧ ∀ rest, read recordHeader (form ++ rest)
            = .ok (header, bytes.toList ++ (padding.toList ++ rest)) := by
  obtain ⟨hpos, -, hform⟩ := form_iff.mp h
  rw [alignedRecordEncode_toRecord, Except.ok.injEq] at hform
  subst hform
  obtain ⟨type, channel, data, fits⟩ := record
  dsimp only at *
  have hlength : (UInt16.ofNat data.length).toNat = data.length := UInt16.toNat_ofNat_of_lt' fits
  generalize hheader : (⟨type.toNat, channel, UInt16.ofNat data.length⟩ : RecordHeader) = header
  have htype : header.peripheralType = (type.toNat : Int) := by rw [← hheader]
  have hchannel : header.channel = channel := by rw [← hheader]
  have hlen : header.payloadLength.toNat = data.length := by rw [← hheader, hlength]
  have hne : header.payloadLength ≠ 0 := by
    intro h
    rw [h, UInt16.toNat_zero] at hlen
    omega
  obtain ⟨bytes, rfl⟩ : ∃ bytes : List.Vector UInt8 header.payloadLength.toNat,
      bytes.toList = data :=
    ⟨⟨data, hlen.symm⟩, rfl⟩
  obtain ⟨padding, hpadding⟩ : ∃ padding : List.Vector UInt8
      (align4Padding header.payloadLength.toNat),
      padding.toList = List.replicate (align4Padding header.payloadLength.toNat) 0 :=
    ⟨⟨List.replicate _ 0, List.length_replicate⟩, rfl⟩
  refine ⟨header, bytes, padding, hlen, ?_, padding_zero.mpr hpadding, fun rest => ?_⟩
  · rw [record_eq_toRecord htype hne bytes fits, hchannel]
  · have hfront : [type, channel] ++ toLe 2 header.payloadLength.toNat
        = [type, header.channel] ++ encodeU16Le header.payloadLength := by
      rw [encodeU16Le_eq, hchannel]
    rw [← hlen, hfront, List.append_assoc, List.append_assoc, read_append reads_recordHeader
      ⟨type, htype, rfl⟩, hpadding]

/-- A record of the grammar takes the scan one turn further. -/
theorem alignedRecordsScan_form {recordCount : Nat} {seen seen' : List UInt16}
    {totalPayload : Nat} {record : WireRecord} {form rest : List UInt8}
    (hform : record.Form context.config.maxVariableDataSize form)
    (hmark : recordPairMark seen record.toRecord.peripheralType record.channel = .ok seen')
    (hvalid : fieldsValidate record.toRecord = .ok ())
    (haddressable : totalPayload + record.data.length ≤ Target.sizeMax) :
    alignedRecordsScan context fieldsValidate (recordCount + 1) seen totalPayload (form ++ rest)
      = alignedRecordsScan context fieldsValidate recordCount seen'
        (totalPayload + record.data.length) rest := by
  obtain ⟨hpos, hmax, hencode⟩ := form_iff.mp hform
  have hcapacity := (length_alignedRecordEncode hencode).2
  obtain ⟨header, bytes, padding, hlen, hrecord, hzero, hread⟩ := read_form hform
  have htype : header.peripheralType = record.toRecord.peripheralType :=
    congrArg Record.peripheralType hrecord
  have hchannel : header.channel = record.channel := congrArg Record.channel hrecord
  have hne : header.payloadLength ≠ 0 := by
    intro h
    rw [h, UInt16.toNat_zero] at hlen
    omega
  rw [alignedRecordsScan, if_neg (by
    rw [List.length_append, hcapacity]
    omega), hread rest, ok_bind]
  dsimp only
  rw [if_neg hne, if_neg (by omega),
    if_neg (by rw [List.length_append, bytes.toList_length]; omega),
    read_append (reads_bytes _) rfl, ok_bind]
  dsimp only
  rw [htype, hchannel, hmark, ok_bind, hrecord, hvalid, ok_bind,
    if_neg (by rw [List.length_append, padding.toList_length]; omega),
    read_append (reads_bytes _) rfl, ok_bind]
  dsimp only
  rw [if_neg hzero, hlen, checkedAddSize_of_le haddressable, checked, ok_bind]

/-- The scan accepts the records of the grammar that the validators' loop accepts, and
    reports their data bytes. -/
theorem alignedRecordsScan_iff {recordCount : Nat} {seen : List UInt16}
    {totalPayload total : Nat} {payload : List UInt8}
    (haddressable : totalPayload + recordCount * 65535 ≤ Target.sizeMax) :
    alignedRecordsScan context fieldsValidate recordCount seen totalPayload payload = .ok total ↔
      ∃ records : List WireRecord, records.length = recordCount
        ∧ Each (WireRecord.Form context.config.maxVariableDataSize) records payload
        ∧ recordsValidate fieldsValidate seen (records.map WireRecord.toRecord) = .ok ()
        ∧ total = totalPayload + WireRecord.dataSize records := by
  induction recordCount generalizing seen totalPayload payload with
  | zero =>
      rw [alignedRecordsScan]
      constructor
      · intro h
        split at h
        case isTrue => exact absurd h (fail_ne_ok _ _)
        case isFalse hnil =>
          refine ⟨[], rfl, ?_, rfl, (Except.ok.inj h).symm⟩
          rw [each_nil]
          exact List.length_eq_zero_iff.mp (by omega)
      · rintro ⟨records, hcount, heach, -, rfl⟩
        obtain rfl := List.length_eq_zero_iff.mp hcount
        rw [each_nil.mp heach]
        rfl
  | succ recordCount ih =>
      constructor
      · intro h
        obtain ⟨record, form, rest, seen', hform, rfl, hmark, hvalid, hrest⟩ :=
          alignedRecordsScan_succ h
        have hfits := record.fits
        obtain ⟨records, hcount, heach, hrecords, rfl⟩ := (ih (by omega)).mp hrest
        refine ⟨record :: records, by rw [List.length_cons, hcount], .cons hform heach, ?_, ?_⟩
        · rw [List.map_cons, recordsValidate]
          exact bind_eq_ok.mpr ⟨seen', hmark, bind_eq_ok.mpr ⟨(), hvalid, hrecords⟩⟩
        · simp only [WireRecord.dataSize, List.map_cons, List.sum_cons]
          omega
      · rintro ⟨records, hcount, heach, hrecords, rfl⟩
        cases records with
        | nil => exact absurd hcount (by simp)
        | cons record records =>
            rw [each_cons] at heach
            obtain ⟨form, rest, hform, heach, rfl⟩ := heach
            have hfits := record.fits
            rw [List.map_cons, recordsValidate, bind_eq_ok] at hrecords
            obtain ⟨seen', hmark, hrecords⟩ := hrecords
            rw [bind_eq_ok] at hrecords
            obtain ⟨⟨⟩, hvalid, hrecords⟩ := hrecords
            rw [alignedRecordsScan_form hform hmark hvalid (by omega)]
            refine (ih (by omega)).mpr ⟨records, by simpa using hcount, heach, hrecords, ?_⟩
            simp only [WireRecord.dataSize, List.map_cons, List.sum_cons]
            omega

end

end HilRigProtocol.Application
