/-
  What the decoders accept.

  `Decodes` gives a decoder its grammar: a call that succeeds has read a value of that
  form and reports the storage of its spans and records; on a payload of the form the
  call succeeds wherever the storage is that large, and reports `BUFFER_TOO_SMALL`
  elsewhere. Every family has one such statement, and so has the body decoder.
-/
import HilRigProtocol.Application.AlignedRecords
import HilRigProtocol.Application.WireForms
import HilRigProtocol.Library.Capacity

namespace HilRigProtocol.Application

open Library Library.Reader

/-! ## Storage -/

/-- A storage that `HIL_APPLICATION_Decode_Message` takes: a NULL pointer comes without
    capacity. -/
abbrev UsableStorage : Type := { storage : Storage // storage.isNull → storage.capacity = 0 }

/-- The capacity of the storage. -/
abbrev UsableStorage.room (storage : UsableStorage) : Nat := storage.1.capacity

/-- `decode` accepts the payload exactly as a value of the given form, and wants the
    storage that the value uses. -/
structure Decodes {α : Type} (payload : List UInt8) (decode : Storage → Result (Decoded α))
    (form : α → Prop) (used : α → Nat) : Prop where
  sound : ∀ storage : UsableStorage, ∀ decoded, decode storage.1 = .ok decoded →
    form decoded.data ∧ decoded = ⟨decoded.data, payload.length, used decoded.data⟩
  complete : ∀ data, form data →
    Wants UsableStorage.room (.status .bufferTooSmall) (used data)
      ⟨data, payload.length, used data⟩ fun storage => decode storage.1

/-- A decoder of one family, as a decoder of bodies. -/
theorem Decodes.map {α : Type} {payload : List UInt8} {decode : Storage → Result (Decoded α)}
    {form : α → Prop} {used : α → Nat} (h : Decodes payload decode form used) (body : α → Body)
    {bodyForm : Body → Prop} {bodyUsed : Body → Nat}
    (hform : ∀ b, bodyForm b ↔ ∃ data, form data ∧ b = body data)
    (hused : ∀ data, bodyUsed (body data) = used data) :
    Decodes payload (fun storage => (decode storage).map (·.toBody body)) bodyForm bodyUsed where
  sound storage decoded hdecode := by
    cases hfamily : decode storage.1 with
    | error failure =>
        rw [hfamily] at hdecode
        exact absurd hdecode (by simp [Except.map])
    | ok family =>
        rw [hfamily] at hdecode
        obtain rfl := Except.ok.inj hdecode
        obtain ⟨hdata, hparts⟩ := h.sound storage family hfamily
        refine ⟨(hform _).mpr ⟨family.data, hdata, rfl⟩, ?_⟩
        rw [hparts]
        simp only [Decoded.toBody, hused]
  complete b hb := by
    obtain ⟨data, hdata, rfl⟩ := (hform b).mp hb
    rw [hused]
    exact (h.complete data hdata).map (·.toBody body)

/-- Nothing fits behind a NULL pointer. -/
theorem zero_of_null {storage : UsableStorage} {size : Nat} (h : size ≤ storage.room)
    (hnull : storage.1.isNull) : size = 0 :=
  Nat.le_zero.mp (h.trans (Nat.le_of_eq (storage.2 hnull)))

theorem store_ok (storage : UsableStorage) {offset size : Nat}
    (h : offset + size ≤ storage.room) : store storage.1 offset size = .ok () := by
  unfold store
  rw [if_neg]
  rintro ⟨hsize, hnull | hfull⟩
  · have := zero_of_null h hnull
    omega
  · exact Nat.not_lt.mpr h hfull

/-! ## Spans -/

section
variable {α : Type} {limit : Nat}

theorem count_ofVector {n : Nat} (xs : List.Vector α n) (fits : n < limit) :
    (Counted.ofVector xs fits).count = n := by
  unfold Counted.ofVector
  split
  case isTrue h => exact h.symm
  case isFalse => exact xs.toList_length

theorem elements_ofVector {n : Nat} (xs : List.Vector α n) (fits : n < limit) :
    (Counted.ofVector xs fits).elements = xs.toList := by
  unfold Counted.ofVector
  split
  case isTrue h =>
    have hnil : xs.toList.length = 0 := xs.toList_length.trans h
    exact (List.length_eq_zero_iff.mp hnil).symm
  case isFalse => rfl

theorem notNull_ofVector {n : Nat} (xs : List.Vector α n) (fits : n < limit) :
    ¬ ((Counted.ofVector xs fits).count ≠ 0 ∧ (Counted.ofVector xs fits).isNull) := by
  rw [count_ofVector]
  rintro ⟨hne, hnull⟩
  rw [Counted.ofVector, if_neg hne] at hnull
  exact absurd hnull (by simp [Counted.isNull])

theorem ofVector_congr {m n : Nat} {xs : List.Vector α m} {ys : List.Vector α n}
    (h : xs.toList = ys.toList) (hm : m < limit) (hn : n < limit) :
    Counted.ofVector xs hm = Counted.ofVector ys hn := by
  have hlen : m = n := by rw [← xs.toList_length, h, ys.toList_length]
  subst hlen
  rw [List.Vector.toList_injective h]

end

/-- A span on the wire: a length byte and as many bytes. -/
def SpanForm (span : ByteSpan) (form : List UInt8) : Prop :=
  ∃ size : UInt8, ∃ bytes : List.Vector UInt8 size.toNat,
    span = .ofVector bytes (byte_fits size) ∧ form = size :: bytes.toList

theorem SpanForm.form_eq {span : ByteSpan} {form : List UInt8} (h : SpanForm span form) :
    form = UInt8.ofNat span.count :: span.elements ∧ span.count ≤ 255
      ∧ ¬ (span.count ≠ 0 ∧ span.isNull) := by
  obtain ⟨size, bytes, rfl, rfl⟩ := h
  have hsize := size.toNat_lt
  refine ⟨?_, ?_, notNull_ofVector _ _⟩
  · rw [count_ofVector, elements_ofVector, UInt8.ofNat_toNat]
  · rw [count_ofVector]
    omega

theorem SpanForm.length_eq {span : ByteSpan} {form : List UInt8} (h : SpanForm span form) :
    form.length = 1 + span.count := by
  obtain ⟨hform, -, hnull⟩ := h.form_eq
  rw [hform, List.length_cons, (Counted.contents_eq hnull).2, Nat.add_comm]

variable [Target]

theorem form_of_byteSpanDecode {storage : Storage} {offset used : Nat} {payload rest : List UInt8}
    {span : ByteSpan} (h : byteSpanDecode storage offset payload = .ok (span, used, rest)) :
    ∃ form, SpanForm span form ∧ payload = form ++ rest ∧ used = span.count := by
  unfold byteSpanDecode at h
  rw [bind_eq_ok] at h
  obtain ⟨capacity, -, h⟩ := h
  split at h
  case isTrue => exact absurd h (fail_ne_ok _ _)
  rw [bind_eq_ok] at h
  obtain ⟨⟨size, afterSize⟩, hsize, h⟩ := h
  obtain ⟨_, rfl, rfl⟩ := (read_eq_ok reads_byte).mp hsize
  rw [bind_eq_ok] at h
  obtain ⟨required, -, h⟩ := h
  split at h
  case isTrue => exact absurd h (fail_ne_ok _ _)
  split at h
  case isTrue => exact absurd h (fail_ne_ok _ _)
  split at h
  case isTrue => exact absurd h (fail_ne_ok _ _)
  rw [bind_eq_ok] at h
  obtain ⟨⟨bytes, afterBytes⟩, hbytes, h⟩ := h
  obtain ⟨_, rfl, rfl⟩ := (read_eq_ok (reads_bytes _)).mp hbytes
  rw [bind_eq_ok] at h
  obtain ⟨⟨⟩, -, h⟩ := h
  simp only [Except.ok.injEq, Prod.mk.injEq] at h
  obtain ⟨rfl, rfl, rfl⟩ := h
  exact ⟨_, ⟨size, bytes, rfl, rfl⟩, rfl, (count_ofVector _ _).symm⟩

/-- A span goes to the storage from `offset` on where it fits. -/
theorem byteSpanDecode_form {span : ByteSpan} {form rest : List UInt8} (h : SpanForm span form)
    (storage : UsableStorage) {offset : Nat} (hroom : offset ≤ storage.room) :
    byteSpanDecode storage.1 offset (form ++ rest) =
      if offset + span.count ≤ storage.room then .ok (span, span.count, rest)
      else fail .bufferTooSmall := by
  obtain ⟨size, bytes, rfl, rfl⟩ := h
  have hsize := size.toNat_lt
  have hcapacity : storage.room = storage.1.capacity := rfl
  rw [count_ofVector]
  unfold byteSpanDecode
  rw [subSize_of_le hroom, ok_bind, if_neg (by simp), show size :: bytes.toList ++ rest = [size] ++ (bytes.toList ++ rest) from rfl,
    read_append reads_byte rfl, ok_bind]
  dsimp only
  rw [checkedAddSize_of_le (le_sizeMax (by omega)), checked, ok_bind,
    if_neg (by simp only [List.length_append, List.length_cons, List.length_nil,
      bytes.toList_length]; omega)]
  by_cases hfits : offset + size.toNat ≤ storage.room
  · rw [if_pos hfits, if_neg (by omega)]
    rw [if_neg (by
      rintro ⟨hne, hisNull⟩
      have hpos : size.toNat ≠ 0 := fun h => hne (UInt8.toNat_inj.mp h)
      have := zero_of_null hfits hisNull
      omega), read_append (reads_bytes _) rfl, ok_bind]
    dsimp only
    rw [store_ok storage hfits, ok_bind]
  · rw [if_neg hfits, if_pos (by omega)]

/-- A span at the end of the payload, into the front of the storage. -/
theorem byteSpanDecode_last {span : ByteSpan} {form : List UInt8} (h : SpanForm span form)
    (storage : UsableStorage) (hroom : span.count ≤ storage.room) :
    byteSpanDecode storage.1 0 form = .ok (span, span.count, []) := by
  rw [← List.append_nil form, byteSpanDecode_form h storage (Nat.zero_le _), Nat.zero_add,
    if_pos hroom]

/-! ## Fixed families -/

omit [Target] in
/-- A family whose payload is its fields: `size` bytes, read as a whole. -/
theorem fixed_decodes {α : Type} {fields : Reader α} {wire : α → List UInt8 → Prop}
    (h : Reads fields wire) (size : Nat)
    (hwire : ∀ data form, wire data form → form.length = size) {payload : List UInt8}
    {next : α × List UInt8 → Result (Decoded α)} {form check : α → Prop}
    (hform : ∀ data, form data ↔ wire data payload ∧ check data)
    (hnext : ∀ data decoded, payload.length = size →
      (next (data, []) = .ok decoded ↔ check data ∧ decoded = ⟨data, size, 0⟩)) :
    Decodes payload
      (fun _ => (if payload.length = size then .ok () else fail .malformedMessage) >>=
        fun _ => read fields payload >>= next) form fun _ => 0 where
  sound _ decoded hdecode := by
    by_cases hlen : payload.length = size
    · rw [if_pos hlen, ok_bind, bind_eq_ok] at hdecode
      obtain ⟨⟨data, rest⟩, hdata, hdecode⟩ := hdecode
      obtain ⟨front, hfront, hpayload⟩ := (read_eq_ok h).mp hdata
      have hrest : rest = [] := by
        have := hwire data front hfront
        rw [hpayload, List.length_append, this] at hlen
        exact List.length_eq_zero_iff.mp (by omega)
      rw [hrest, List.append_nil] at hpayload
      rw [hrest] at hdecode
      obtain ⟨hcheck, rfl⟩ := (hnext data decoded hlen).mp hdecode
      exact ⟨(hform data).mpr ⟨hpayload ▸ hfront, hcheck⟩, by rw [hlen]⟩
    · rw [if_neg hlen] at hdecode
      exact absurd hdecode (fail_ne_ok _ _)
  complete data hdata storage := by
    obtain ⟨hfront, hcheck⟩ := (hform data).mp hdata
    have hlen := hwire data payload hfront
    have hread : read fields (payload ++ []) = .ok (data, []) := read_append h hfront
    rw [List.append_nil] at hread
    rw [if_pos (Nat.zero_le _), if_pos hlen, ok_bind, hread, ok_bind, hlen]
    exact (hnext data _ hlen).mpr ⟨hcheck, rfl⟩

omit [Target] in
/-- A family without a check between its size and its fields. -/
theorem plain_decodes {α : Type} {fields : Reader α} {wire : α → List UInt8 → Prop}
    (h : Reads fields wire) (size : Nat)
    (hwire : ∀ data form, wire data form → form.length = size) {payload : List UInt8}
    {next : α × List UInt8 → Result (Decoded α)}
    (hnext : ∀ data, payload.length = size → next (data, []) = .ok ⟨data, size, 0⟩) :
    Decodes payload
      (fun _ => (if payload.length = size then .ok () else fail .malformedMessage) >>=
        fun _ => read fields payload >>= next) (fun data => wire data payload) fun _ => 0 := by
  refine fixed_decodes h size hwire (fun _ => (and_iff_left trivial).symm) ?_
  intro data decoded hlen
  rw [hnext data hlen, Except.ok.injEq, true_and, eq_comm]

omit [Target] in
theorem SystemInfoRequest.Form.length_eq {data : SystemInfoRequest} {form : List UInt8}
    (h : data.Form form) : form.length = systemInfoRequestFixedEncodeSize := by
  obtain ⟨wireQuery, -, rfl⟩ := h
  rfl

omit [Target] in
theorem systemInfoRequestDecode_decodes (payload : List UInt8) :
    Decodes payload (fun _ => systemInfoRequestDecode payload) (fun data => data.Form payload)
      fun _ => 0 := by
  refine plain_decodes reads_systemInfoRequest systemInfoRequestFixedEncodeSize
    (fun _ _ h => h.length_eq) ?_
  intro data _
  rfl

omit [Target] in
theorem TestInstruction.Form.length_eq {data : TestInstruction} {form : List UInt8}
    (h : data.Form form) : form.length = testInstructionFixedPayloadSize := by
  rw [h]
  simp only [List.length_append, length_encodeU32Le, length_words, length_pwmValues,
    List.Vector.toList_length]
  rfl

omit [Target] in
theorem testInstructionsDecode_decodes (payload : List UInt8) :
    Decodes payload (fun _ => testInstructionsDecode payload) (fun data => data.Form payload)
      fun _ => 0 := by
  refine plain_decodes reads_testInstruction testInstructionFixedPayloadSize
    (fun _ _ h => h.length_eq) ?_
  intro data hlen
  dsimp only [List.length_nil, Nat.sub_zero]
  rw [if_neg (not_not.mpr hlen), hlen]

omit [Target] in
theorem TestResult.Form.length_eq {data : TestResult} {form : List UInt8}
    (h : data.Form form) : form.length = testResultFixedPayloadSize := by
  obtain ⟨wireCondition, -, rfl⟩ := h
  simp only [List.length_append, length_encodeU32Le, length_words, length_pwmValues,
    List.Vector.toList_length]
  rfl

omit [Target] in
theorem testResultDecode_decodes (payload : List UInt8) :
    Decodes payload (fun _ => testResultDecode payload) (fun data => data.Form payload)
      fun _ => 0 := by
  refine plain_decodes reads_testResult testResultFixedPayloadSize (fun _ _ h => h.length_eq) ?_
  intro data hlen
  dsimp only [List.length_nil, Nat.sub_zero]
  rw [if_neg (not_not.mpr hlen), hlen]

omit [Target] in
theorem ExecutionControl.Form.length_eq {data : ExecutionControl} {form : List UInt8}
    (h : data.Form form) : form.length = controlFixedEncodeSize := by
  obtain ⟨wireCommand, -, rfl⟩ := h
  rfl

omit [Target] in
theorem executionControlDecode_decodes (payload : List UInt8) :
    Decodes payload (fun _ => executionControlDecode payload) (fun data => data.Form payload)
      fun _ => 0 := by
  refine plain_decodes reads_executionControl controlFixedEncodeSize (fun _ _ h => h.length_eq) ?_
  intro data hlen
  dsimp only [List.length_nil, Nat.sub_zero]
  rw [hlen]

omit [Target] in
theorem GlobalControl.Form.length_eq {data : GlobalControl} {form : List UInt8}
    (h : data.Form form) : form.length = controlFixedEncodeSize := by
  obtain ⟨wireCommand, -, rfl⟩ := h
  rfl

omit [Target] in
theorem globalControlDecode_decodes (payload : List UInt8) :
    Decodes payload (fun _ => globalControlDecode payload) (fun data => data.Form payload)
      fun _ => 0 := by
  refine plain_decodes reads_globalControl controlFixedEncodeSize (fun _ _ h => h.length_eq) ?_
  intro data hlen
  dsimp only [List.length_nil, Nat.sub_zero]
  rw [hlen]

omit [Target] in
theorem FinalizeTestUpload.Form.length_eq {data : FinalizeTestUpload} {form : List UInt8}
    (h : data.Form form) : form.length = wireU32Size := by
  rw [h]
  rfl

omit [Target] in
theorem finalizeTestUploadDecode_decodes (payload : List UInt8) :
    Decodes payload (fun _ => finalizeTestUploadDecode payload) (fun data => data.Form payload)
      fun _ => 0 := by
  refine plain_decodes reads_finalizeTestUpload wireU32Size (fun _ _ h => h.length_eq) ?_
  intro data _
  rfl

omit [Target] in
theorem Response.Form.length_eq {data : Response} {form : List UInt8}
    (h : data.Form form) : form.length = responseFixedPayloadSize := by
  obtain ⟨_, _, _, _, _, -, -, -, -, -, rfl⟩ := h
  rfl

omit [Target] in
theorem responseDecode_decodes (payload : List UInt8) :
    Decodes payload (fun _ => responseDecode payload) (fun data => data.Form payload)
      fun _ => 0 := by
  refine plain_decodes reads_response responseFixedPayloadSize (fun _ _ h => h.length_eq) ?_
  intro data hlen
  dsimp only [List.length_nil, Nat.sub_zero]
  rw [if_neg (not_not.mpr hlen), hlen]

omit [Target] in
theorem RigStatus.Form.length_eq {data : RigStatus} {form : List UInt8}
    (h : data.Form form) : form.length = rigStatusPayloadSize := by
  obtain ⟨_, _, _, _, _, -, -, -, -, -, rfl⟩ := h
  rfl

omit [Target] in
theorem rigStatusDecode_decodes (payload : List UInt8) :
    Decodes payload (fun _ => rigStatusDecode payload)
      (fun data => data.Form payload ∧ data.schemaVersion = 1) fun _ => 0 := by
  have hdecode : rigStatusDecode payload
      = (if payload.length = rigStatusPayloadSize then .ok () else fail .malformedMessage) >>=
        fun _ => read rigStatusFields payload >>= fun field =>
          if field.1.schemaVersion ≠ 1 then fail .unsupportedMessage
          else .ok { data := field.1, consumed := payload.length, used := 0 } := by
    unfold rigStatusDecode
    by_cases hlen : payload.length = rigStatusPayloadSize
    · rw [if_neg (not_not.mpr hlen), if_pos hlen]
      rfl
    · rw [if_pos hlen, if_neg hlen]
      rfl
  rw [hdecode]
  refine fixed_decodes reads_rigStatus rigStatusPayloadSize (fun _ _ h => h.length_eq)
    (fun _ => Iff.rfl) ?_
  intro data decoded hlen
  dsimp only
  by_cases hschema : data.schemaVersion = 1
  · rw [if_neg (not_not.mpr hschema), Except.ok.injEq, hlen, eq_comm]
    exact (and_iff_right hschema).symm
  · rw [if_pos hschema]
    exact iff_of_false (fail_ne_ok _ _) fun h => hschema h.1

omit [Target] in
theorem ArbitraryControl.Form.length_eq {data : ArbitraryControl} {form : List UInt8}
    (h : data.Form form) : form.length = arbitraryControlPayloadSize := by
  rw [h]
  rfl

omit [Target] in
theorem arbitraryControlDecode_decodes (payload : List UInt8) :
    Decodes payload (fun _ => arbitraryControlDecode payload) (fun data => data.Form payload)
      fun _ => 0 := by
  have hdecode : arbitraryControlDecode payload
      = (if payload.length = arbitraryControlPayloadSize then .ok ()
          else fail .malformedMessage) >>=
        fun _ => read arbitraryControlFields payload >>= fun field =>
          .ok { data := field.1, consumed := payload.length, used := 0 } := by
    unfold arbitraryControlDecode
    by_cases hlen : payload.length = arbitraryControlPayloadSize
    · rw [if_neg (not_not.mpr hlen), if_pos hlen]
      rfl
    · rw [if_pos hlen, if_neg hlen]
      rfl
  rw [hdecode]
  refine plain_decodes reads_arbitraryControl arbitraryControlPayloadSize
    (fun _ _ h => h.length_eq) ?_
  intro data hlen
  rw [hlen]

/-! ## Errors -/

omit [Target] in
theorem byteAt_eq_ok {payload : List UInt8} {offset : Nat} {b : UInt8} :
    byteAt payload offset = .ok b ↔ payload[offset]? = some b := by
  unfold byteAt
  cases payload[offset]? with
  | none => simp
  | some c => simp

omit [Target] in
/-- The length byte of a span that stands behind `n` bytes. -/
theorem byteAt_span {span : ByteSpan} {front form : List UInt8} {n : Nat} (h : SpanForm span form)
    (hfront : front.length = n) :
    byteAt (front ++ form) n = .ok (UInt8.ofNat span.count) := by
  obtain ⟨hform, -, -⟩ := h.form_eq
  rw [byteAt_eq_ok, hform, ← hfront, List.getElem?_append_right (Nat.le_refl _), Nat.sub_self]
  rfl

omit [Target] in
theorem SpanForm.toNat_count {span : ByteSpan} {form : List UInt8} (h : SpanForm span form) :
    (UInt8.ofNat span.count).toNat = span.count := by
  obtain ⟨-, hle, -⟩ := h.form_eq
  exact UInt8.toNat_ofNat_of_lt' (Nat.lt_succ_of_le hle)

/-- An Error payload: its fields and its span. -/
def Error.Payload (context : Context) (data : Error) (payload : List UInt8) : Prop :=
  ∃ front span, data.Form front ∧ SpanForm data.diagnosticData span
    ∧ data.diagnosticData.count ≤ context.config.maxVariableDataSize ∧ payload = front ++ span

omit [Target] in
theorem Error.Form.length_eq {data : Error} {form : List UInt8} (h : data.Form form) :
    form.length = errorDiagnosticLengthOffset := by
  obtain ⟨wireCategory, -, rfl⟩ := h
  rfl

theorem errorScan_payload {context : Context} {data : Error} {payload : List UInt8}
    (h : data.Payload context payload) :
    errorScan context payload = .ok data.diagnosticData.count := by
  obtain ⟨front, span, hfront, hspan, hmax, rfl⟩ := h
  have hsize := hspan.toNat_count
  have hle := hspan.form_eq.2.1
  have hfixed : errorFixedPayloadSize = 12 := rfl
  have hoffset : errorDiagnosticLengthOffset = 11 := rfl
  have hlen : (front ++ span).length = errorFixedPayloadSize + data.diagnosticData.count := by
    rw [List.length_append, hfront.length_eq, hspan.length_eq]
    omega
  unfold errorScan
  rw [if_neg (by omega), byteAt_span hspan hfront.length_eq, ok_bind, hsize,
    checkedAddSize_of_le (le_sizeMax (by omega)), checked, ok_bind, if_neg (by omega),
    if_neg (by omega), if_neg (by omega)]

theorem errorDecode_decodes (context : Context) (payload : List UInt8) :
    Decodes payload (errorDecode context payload) (fun data => data.Payload context payload)
      fun data => data.diagnosticData.count where
  sound storage decoded h := by
    unfold errorDecode at h
    rw [bind_eq_ok] at h
    obtain ⟨required, hscan, h⟩ := h
    split at h
    case isTrue => exact absurd h (fail_ne_ok _ _)
    rw [bind_eq_ok] at h
    obtain ⟨⟨fields, rest⟩, hfields, h⟩ := h
    obtain ⟨front, ⟨-, hfront⟩, rfl⟩ := (read_eq_ok reads_error).mp hfields
    dsimp only at h
    split at h
    case isTrue => exact absurd h (fail_ne_ok _ _)
    rw [bind_eq_ok] at h
    obtain ⟨⟨diagnostic, used, rest⟩, hdiagnostic, h⟩ := h
    obtain ⟨span, hspan, rfl, rfl⟩ := form_of_byteSpanDecode hdiagnostic
    dsimp only at h
    split at h
    case isTrue => exact absurd h (fail_ne_ok _ _)
    case isFalse hrest =>
    obtain rfl : rest = [] := List.length_eq_zero_iff.mp (not_not.mp hrest)
    obtain rfl := Except.ok.inj h
    refine ⟨⟨front, span, hfront, hspan, ?_, by rw [List.append_nil]⟩, rfl⟩
    unfold errorScan at hscan
    split at hscan
    case isTrue => exact absurd hscan (fail_ne_ok _ _)
    rw [List.append_nil, byteAt_span hspan hfront.length_eq, ok_bind, hspan.toNat_count] at hscan
    rw [bind_eq_ok] at hscan
    obtain ⟨_, -, hscan⟩ := hscan
    split at hscan
    case isTrue => exact absurd hscan (fail_ne_ok _ _)
    split at hscan
    case isTrue => exact absurd hscan (fail_ne_ok _ _)
    split at hscan
    case isTrue => exact absurd hscan (fail_ne_ok _ _)
    case isFalse hmax => exact Nat.not_lt.mp hmax
  complete data h storage := by
    have hscan := errorScan_payload h
    obtain ⟨front, span, hfront, hspan, hmax, rfl⟩ := h
    have hread : read errorFields (front ++ span)
        = .ok ({ data with diagnosticData := emptySpan }, span) :=
      read_append reads_error ⟨rfl, hfront⟩
    dsimp only
    unfold errorDecode
    rw [hscan, ok_bind]
    by_cases hroom : data.diagnosticData.count ≤ storage.room
    · rw [if_pos hroom, if_neg (Nat.not_lt.mpr hroom), hread, ok_bind]
      dsimp only
      rw [if_neg (by rw [List.length_append, hfront.length_eq]; omega),
        byteSpanDecode_last hspan storage hroom, ok_bind]
      rfl
    · rw [if_neg hroom, if_pos (Nat.not_le.mp hroom)]
      rfl

/-! ## System Information Responses -/

omit [Target] in
theorem read_bytes_append {front rest : List UInt8} {n : Nat} (h : front.length = n) :
    read (vector byte n) (front ++ rest) = .ok (⟨front, h⟩, rest) :=
  read_append (reads_bytes n) rfl

/-- A System Information Response payload: its versions and its two spans. -/
def SystemInfoResponse.Payload (context : Context) (data : SystemInfoResponse)
    (payload : List UInt8) : Prop :=
  ∃ front diagnostic gitHash, data.Form front
    ∧ SpanForm data.diagnosticData diagnostic ∧ SpanForm data.firmwareGitHash gitHash
    ∧ data.diagnosticData.count ≤ context.config.maxVariableDataSize
    ∧ data.firmwareGitHash.count ≤ context.config.maxVariableDataSize
    ∧ payload = front ++ (diagnostic ++ gitHash)

omit [Target] in
theorem SystemInfoResponse.Form.length_eq {data : SystemInfoResponse} {form : List UInt8}
    (h : data.Form form) : form.length = 12 := by
  rw [h]
  rfl

/-- What the scan makes of versions and two spans. -/
theorem systemInfoResponseScan_spans {context : Context} {front diagnosticForm gitHashForm rest :
    List UInt8} {diagnostic gitHash : ByteSpan} (hfront : front.length = 12)
    (hdiagnostic : SpanForm diagnostic diagnosticForm) (hgitHash : SpanForm gitHash gitHashForm) :
    systemInfoResponseScan context (front ++ (diagnosticForm ++ (gitHashForm ++ rest))) =
      if diagnostic.count > context.config.maxVariableDataSize then fail .validationFailed
      else if gitHash.count > context.config.maxVariableDataSize then fail .validationFailed
      else if rest.length ≠ 0 then fail .malformedMessage
      else .ok (diagnostic.count + gitHash.count) := by
  obtain ⟨diagnosticSize, diagnosticBytes, rfl, rfl⟩ := hdiagnostic
  obtain ⟨gitHashSize, gitHashBytes, rfl, rfl⟩ := hgitHash
  have hd := diagnosticSize.toNat_lt
  have hg := gitHashSize.toNat_lt
  rw [count_ofVector, count_ofVector]
  unfold systemInfoResponseScan
  rw [if_neg (by simp [hfront, systemInfoResponseFixedEncodeSize]; omega),
    read_bytes_append hfront, ok_bind]
  dsimp only
  rw [show diagnosticSize :: diagnosticBytes.toList ++ (gitHashSize :: gitHashBytes.toList ++ rest)
      = [diagnosticSize] ++ (diagnosticBytes.toList ++ ([gitHashSize] ++ (gitHashBytes.toList
        ++ rest))) from rfl, read_append reads_byte rfl, ok_bind]
  dsimp only
  rw [if_neg (by simp)]
  split
  case isTrue => rfl
  case isFalse =>
    rw [read_append (reads_bytes _) rfl, ok_bind]
    dsimp only
    rw [if_neg (by simp), read_append reads_byte rfl, ok_bind]
    dsimp only
    rw [if_neg (by simp)]
    split
    case isTrue => rfl
    case isFalse =>
      rw [read_append (reads_bytes _) rfl, ok_bind]
      dsimp only
      rw [checkedAddSize_of_le (le_sizeMax (by omega)), checked]

theorem systemInfoResponseScan_payload {context : Context} {data : SystemInfoResponse}
    {payload : List UInt8} (h : data.Payload context payload) :
    systemInfoResponseScan context payload
      = .ok (data.diagnosticData.count + data.firmwareGitHash.count) := by
  obtain ⟨front, diagnostic, gitHash, hfront, hdiagnostic, hgitHash, hdmax, hgmax, rfl⟩ := h
  have hscan := @systemInfoResponseScan_spans _ context front diagnostic gitHash [] _ _
    hfront.length_eq hdiagnostic hgitHash
  rw [List.append_nil] at hscan
  rw [hscan, if_neg (by omega), if_neg (by omega), if_neg (by simp)]

theorem systemInfoResponseDecode_decodes (context : Context) (payload : List UInt8) :
    Decodes payload (systemInfoResponseDecode context payload)
      (fun data => data.Payload context payload)
      fun data => data.diagnosticData.count + data.firmwareGitHash.count where
  sound storage decoded h := by
    unfold systemInfoResponseDecode at h
    rw [bind_eq_ok] at h
    obtain ⟨total, hscan, h⟩ := h
    split at h
    case isTrue => exact absurd h (fail_ne_ok _ _)
    rw [bind_eq_ok] at h
    obtain ⟨⟨fields, rest⟩, hfields, h⟩ := h
    obtain ⟨front, ⟨-, -, hfront⟩, rfl⟩ := (read_eq_ok reads_systemInfoResponse).mp hfields
    dsimp only at h
    rw [bind_eq_ok] at h
    obtain ⟨⟨diagnostic, diagnosticUsed, afterDiagnostic⟩, hdecode, h⟩ := h
    obtain ⟨diagnosticForm, hdiagnostic, rfl, rfl⟩ := form_of_byteSpanDecode hdecode
    dsimp only at h
    rw [bind_eq_ok] at h
    obtain ⟨⟨gitHash, gitHashUsed, rest⟩, hdecode, h⟩ := h
    obtain ⟨gitHashForm, hgitHash, rfl, rfl⟩ := form_of_byteSpanDecode hdecode
    dsimp only at h
    rw [bind_eq_ok] at h
    obtain ⟨used, hused, h⟩ := h
    obtain rfl := addSize_eq hused
    obtain rfl := Except.ok.inj h
    rw [systemInfoResponseScan_spans hfront.length_eq hdiagnostic hgitHash] at hscan
    split at hscan
    case isTrue => exact absurd hscan (fail_ne_ok _ _)
    case isFalse hdmax =>
    split at hscan
    case isTrue => exact absurd hscan (fail_ne_ok _ _)
    case isFalse hgmax =>
    split at hscan
    case isTrue => exact absurd hscan (fail_ne_ok _ _)
    case isFalse hrest =>
    obtain rfl : rest = [] := List.length_eq_zero_iff.mp (not_not.mp hrest)
    exact ⟨⟨front, diagnosticForm, gitHashForm, hfront, hdiagnostic, hgitHash,
      Nat.not_lt.mp hdmax, Nat.not_lt.mp hgmax, by rw [List.append_nil]⟩, rfl⟩
  complete data h storage := by
    have hscan := systemInfoResponseScan_payload h
    obtain ⟨front, diagnostic, gitHash, hfront, hdiagnostic, hgitHash, -, -, rfl⟩ := h
    have hd := hdiagnostic.form_eq.2.1
    have hg := hgitHash.form_eq.2.1
    have hread : read systemInfoResponseFields (front ++ (diagnostic ++ gitHash))
        = .ok ({ data with firmwareGitHash := emptySpan, diagnosticData := emptySpan },
          diagnostic ++ gitHash) :=
      read_append reads_systemInfoResponse ⟨rfl, rfl, hfront⟩
    dsimp only
    unfold systemInfoResponseDecode
    rw [hscan, ok_bind]
    by_cases hroom : data.diagnosticData.count + data.firmwareGitHash.count ≤ storage.room
    · have hlast := @byteSpanDecode_form _ _ _ [] hgitHash storage data.diagnosticData.count
        (by omega)
      rw [List.append_nil, if_pos hroom] at hlast
      rw [if_pos hroom, if_neg (Nat.not_lt.mpr hroom), hread, ok_bind]
      dsimp only
      rw [byteSpanDecode_form hdiagnostic storage (Nat.zero_le _), if_pos (by omega), ok_bind]
      dsimp only
      rw [hlast, ok_bind]
      dsimp only
      rw [addSize_of_le (le_sizeMax (by omega)), ok_bind]
      rfl
    · rw [if_neg hroom, if_pos (Nat.not_le.mp hroom)]
      rfl

/-! ## Test Configurations -/

/-- A Test Configuration payload: its fixed fields and its extension. -/
def TestConfiguration.Payload (context : Context) (data : TestConfiguration)
    (payload : List UInt8) : Prop :=
  ∃ front extension_, data.Form front ∧ SpanForm data.extensionData extension_
    ∧ data.extensionData.count ≤ context.config.maxVariableDataSize
    ∧ payload = front ++ extension_

omit [Target] in
theorem TestConfiguration.Form.length_eq {data : TestConfiguration} {form : List UInt8}
    (h : data.Form form) : form.length = testConfigExtensionLengthOffset := by
  obtain ⟨front, i2c, rfl, hfront, -, hi2c⟩ := h.split
  rw [List.length_append, hfront, hi2c]
  rfl

theorem testConfigurationDecode_decodes (context : Context) (payload : List UInt8) :
    Decodes payload (testConfigurationDecode context payload)
      (fun data => data.Payload context payload) fun data => data.extensionData.count where
  sound storage decoded h := by
    unfold testConfigurationDecode at h
    split at h
    case isTrue => exact absurd h (fail_ne_ok _ _)
    rw [bind_eq_ok] at h
    obtain ⟨extensionSize, hsize, h⟩ := h
    rw [bind_eq_ok] at h
    obtain ⟨required, hrequired, h⟩ := h
    split at h
    case isTrue => exact absurd h (fail_ne_ok _ _)
    case isFalse hlen =>
    split at h
    case isTrue => exact absurd h (fail_ne_ok _ _)
    case isFalse hmax =>
    rw [bind_eq_ok] at h
    obtain ⟨⟨fields, rest⟩, hfields, h⟩ := h
    obtain ⟨front, ⟨-, hfront⟩, rfl⟩ := (read_eq_ok reads_testConfiguration).mp hfields
    dsimp only at h
    split at h
    case isTrue => exact absurd h (fail_ne_ok _ _)
    rw [bind_eq_ok] at h
    obtain ⟨⟨extension_, used, rest⟩, hdecode, h⟩ := h
    obtain ⟨span, hspan, rfl, rfl⟩ := form_of_byteSpanDecode hdecode
    obtain rfl := Except.ok.inj h
    rw [checked_eq_ok] at hrequired
    obtain ⟨rfl, -⟩ := checkedAddSize_eq_some.mp hrequired
    have hcount : extensionSize.toNat = extension_.count := by
      rw [← List.append_assoc] at hsize
      have hbyte := byteAt_eq_ok.mp hsize
      rw [List.getElem?_append_left (by
        rw [List.length_append, hfront.length_eq, hspan.length_eq]
        omega), ← byteAt_eq_ok, byteAt_span hspan hfront.length_eq] at hbyte
      rw [← Except.ok.inj hbyte, hspan.toNat_count]
    obtain rfl : rest = [] := by
      have hfixed : testConfigFixedPayloadSize = testConfigExtensionLengthOffset + 1 := rfl
      rw [List.length_append, List.length_append, hfront.length_eq, hspan.length_eq, hcount] at hlen
      exact List.length_eq_zero_iff.mp (by omega)
    rw [hcount] at hmax
    exact ⟨⟨front, span, hfront, hspan, Nat.not_lt.mp hmax, by rw [List.append_nil]⟩, rfl⟩
  complete data h storage := by
    obtain ⟨front, span, hfront, hspan, hmax, rfl⟩ := h
    have hle := hspan.form_eq.2.1
    have hfixed : testConfigFixedPayloadSize = 171 := rfl
    have hoffset : testConfigExtensionLengthOffset = 170 := rfl
    have hlen : (front ++ span).length = testConfigFixedPayloadSize + data.extensionData.count := by
      rw [List.length_append, hfront.length_eq, hspan.length_eq]
      omega
    have hread : read testConfigurationFields (front ++ span)
        = .ok ({ data with extensionData := emptySpan }, span) :=
      read_append reads_testConfiguration ⟨rfl, hfront⟩
    dsimp only
    unfold testConfigurationDecode
    rw [if_neg (by omega), byteAt_span hspan hfront.length_eq, ok_bind, hspan.toNat_count,
      checkedAddSize_of_le (le_sizeMax (by omega)), checked, ok_bind, if_neg (by omega),
      if_neg (by omega), hread, ok_bind]
    dsimp only
    rw [if_neg (by rw [List.length_append, hfront.length_eq]; omega)]
    by_cases hroom : data.extensionData.count ≤ storage.room
    · rw [if_pos hroom, byteSpanDecode_last hspan storage hroom, ok_bind]
      rfl
    · have hfull := @byteSpanDecode_form _ _ _ [] hspan storage 0 (Nat.zero_le _)
      rw [List.append_nil, Nat.zero_add, if_neg hroom] at hfull
      rw [if_neg hroom, hfull]
      rfl

/-- Sizing a Test Configuration looks at the two enable bytes of its I2C channels. -/
theorem testConfigurationStorageSize_eq {context : Context} {data : TestConfiguration}
    {payload : List UInt8} (h : data.Payload context payload) :
    ∃ first second, data.i2c.toList = [first, second]
      ∧ testConfigurationStorageSize context payload
        = if first.enabled = 1 ∨ second.enabled = 1 then fail .notImplemented
          else .ok data.extensionData.count := by
  obtain ⟨front, span, hfront, hspan, hmax, rfl⟩ := h
  have hle := hspan.form_eq.2.1
  have hfixed : testConfigFixedPayloadSize = 171 := rfl
  have hoffset : testConfigExtensionLengthOffset = 170 := rfl
  have hlen : (front ++ span).length = testConfigFixedPayloadSize + data.extensionData.count := by
    rw [List.length_append, hfront.length_eq, hspan.length_eq]
    omega
  obtain ⟨first, second, hlist, hfirst, hsecond⟩ := hfront.i2c_enabled
  have hbyte : ∀ {offset enabled}, offset < 170 → front[offset]? = some enabled →
      byteAt (front ++ span) offset = .ok enabled := by
    intro offset enabled hlt henabled
    rw [byteAt_eq_ok, List.getElem?_append_left (by rw [hfront.length_eq]; omega), henabled]
  have h0 : byteAt (front ++ span) testConfigI2cOffset = .ok first.enabled :=
    hbyte (by decide) hfirst
  have h1 : byteAt (front ++ span) (testConfigI2cOffset + testConfigI2cRecordSize)
      = .ok second.enabled :=
    hbyte (by decide) hsecond
  refine ⟨first, second, hlist, ?_⟩
  unfold testConfigurationStorageSize
  rw [if_neg (by omega), byteAt_span hspan hfront.length_eq, ok_bind, hspan.toNat_count,
    checkedAddSize_of_le (le_sizeMax (by omega)), checked, ok_bind, if_neg (by omega),
    if_neg (by omega), h0, ok_bind, h1, ok_bind]

theorem testConfigurationStorageSize_payload {context : Context} {data : TestConfiguration}
    {payload : List UInt8} (h : data.Payload context payload)
    (hi2c : ∀ config ∈ data.i2c.toList, config.enabled ≠ 1) :
    testConfigurationStorageSize context payload = .ok data.extensionData.count := by
  obtain ⟨first, second, hlist, hsize⟩ := testConfigurationStorageSize_eq h
  rw [hlist] at hi2c
  rw [hsize, if_neg]
  rintro (h | h)
  · exact hi2c first (by simp) h
  · exact hi2c second (by simp) h

/-! ## Run Reports -/

/-- A Run Report payload: its fixed fields, the reserved ones zero, and its extension. The
    decoder validates the report before it publishes it. -/
def RunReport.Payload (context : Context) (data : RunReport) (payload : List UInt8) : Prop :=
  ∃ front extension_, data.Form 0 0 front ∧ SpanForm data.extensionData extension_
    ∧ data.extensionData.count ≤ context.config.maxVariableDataSize
    ∧ runReportValidate context data = .ok () ∧ payload = front ++ extension_

omit [Target] in
theorem RunReport.Form.length_eq {data : RunReport} {reserved7 : UInt8} {reserved10 : UInt16}
    {form : List UInt8} (h : data.Form reserved7 reserved10 form) :
    form.length = runReportExtensionLengthOffset := by
  obtain ⟨runOutcome, executionOutcome, resultStatus, source, stage, reason, -, -, -, -, -, -,
    rfl⟩ := h
  obtain ⟨hisr, hinstructions, hresults, hflash⟩ := length_runReportSections data
  simp only [List.length_append, List.length_cons, List.length_nil, length_encodeU16Le,
    length_encodeU32Le, hisr, hinstructions, hresults, hflash]
  rfl

omit [Target] in
/-- The schema version is the first word of the payload. -/
theorem RunReport.Form.read_schemaVersion {data : RunReport} {reserved7 : UInt8}
    {reserved10 : UInt16} {form : List UInt8} (h : data.Form reserved7 reserved10 form)
    (rest : List UInt8) :
    ∃ after, read readU16Le (form ++ rest) = .ok (data.schemaVersion, after) := by
  obtain ⟨runOutcome, executionOutcome, resultStatus, source, stage, reason, -, -, -, -, -, -,
    rfl⟩ := h
  simp only [List.append_assoc]
  exact ⟨_, read_append reads_u16 rfl⟩

omit [Target] in
theorem schemaVersion_of_valid {context : Context} {data : RunReport}
    (h : runReportValidate context data = .ok ()) : data.schemaVersion = 1 := by
  unfold runReportValidate at h
  split at h
  case isTrue => exact absurd h (fail_ne_ok _ _)
  split at h
  case isTrue => exact absurd h (fail_ne_ok _ _)
  case isFalse hschema => exact not_not.mp hschema

theorem runReportScan_payload {context : Context} (hinit : Initialized context)
    {data : RunReport} {payload : List UInt8} (h : data.Payload context payload) :
    runReportScan context payload = .ok data.extensionData.count := by
  obtain ⟨front, span, hfront, hspan, hmax, hvalid, rfl⟩ := h
  have hle := hspan.form_eq.2.1
  have hfixed : runReportFixedPayloadSize = 177 := rfl
  have hoffset : runReportExtensionLengthOffset = 176 := rfl
  have hlen : (front ++ span).length = runReportFixedPayloadSize + data.extensionData.count := by
    rw [List.length_append, hfront.length_eq, hspan.length_eq]
    omega
  obtain ⟨after, hschema⟩ := hfront.read_schemaVersion span
  unfold runReportScan
  rw [if_neg hinit.initialized, if_neg (by omega), byteAt_span hspan hfront.length_eq, ok_bind,
    hspan.toNat_count, checkedAddSize_of_le (le_sizeMax (by omega)), checked, ok_bind,
    if_neg (by omega), hschema, ok_bind]
  dsimp only
  rw [if_neg (not_not.mpr (schemaVersion_of_valid hvalid)), if_neg (by omega)]

/-- What the scan guarantees of the extension. -/
theorem runReportScan_eq_ok {context : Context} {payload : List UInt8} {required : Nat}
    (h : runReportScan context payload = .ok required) :
    ∃ extensionSize, byteAt payload runReportExtensionLengthOffset = .ok extensionSize
      ∧ payload.length = runReportFixedPayloadSize + extensionSize.toNat
      ∧ extensionSize.toNat ≤ context.config.maxVariableDataSize
      ∧ required = extensionSize.toNat := by
  unfold runReportScan at h
  split at h
  case isTrue => exact absurd h (fail_ne_ok _ _)
  split at h
  case isTrue => exact absurd h (fail_ne_ok _ _)
  rw [bind_eq_ok] at h
  obtain ⟨extensionSize, hsize, h⟩ := h
  rw [bind_eq_ok] at h
  obtain ⟨total, htotal, h⟩ := h
  rw [checked_eq_ok] at htotal
  obtain ⟨rfl, -⟩ := checkedAddSize_eq_some.mp htotal
  split at h
  case isTrue => exact absurd h (fail_ne_ok _ _)
  case isFalse hlen =>
  rw [bind_eq_ok] at h
  obtain ⟨⟨schemaVersion, _⟩, -, h⟩ := h
  dsimp only at h
  split at h
  case isTrue => exact absurd h (fail_ne_ok _ _)
  split at h
  case isTrue => exact absurd h (fail_ne_ok _ _)
  case isFalse hmax =>
  exact ⟨extensionSize, hsize, not_not.mp hlen, Nat.not_lt.mp hmax, (Except.ok.inj h).symm⟩

/-- The parser reads exactly the payloads of the form. -/
theorem runReportParse_iff {context : Context} (hinit : Initialized context)
    {payload : List UInt8} {data : RunReport} :
    runReportParse context payload = .ok data ↔ data.Payload context payload := by
  constructor
  · intro h
    unfold runReportParse at h
    rw [bind_eq_ok] at h
    obtain ⟨required, hscan, h⟩ := h
    rw [bind_eq_ok] at h
    obtain ⟨⟨⟨fields, reserved7, reserved10⟩, rest⟩, hfields, h⟩ := h
    obtain ⟨front, ⟨-, hfront⟩, rfl⟩ := (read_eq_ok reads_runReport).mp hfields
    dsimp only at h hfront
    split at h
    case isTrue => exact absurd h (fail_ne_ok _ _)
    case isFalse hreserved =>
    rw [bind_eq_ok] at h
    obtain ⟨⟨extensionSize, afterSize⟩, hsize, h⟩ := h
    obtain ⟨_, rfl, rfl⟩ := (read_eq_ok reads_byte).mp hsize
    dsimp only at h
    rw [bind_eq_ok] at h
    obtain ⟨⟨bytes, rest⟩, hbytes, h⟩ := h
    obtain ⟨_, rfl, rfl⟩ := (read_eq_ok (reads_bytes _)).mp hbytes
    dsimp only at h
    rw [bind_eq_ok] at h
    obtain ⟨⟨⟩, hvalid, h⟩ := h
    obtain rfl := Except.ok.inj h
    obtain ⟨size, hbyte, hlen, hmax, -⟩ := runReportScan_eq_ok hscan
    have hsize : size = extensionSize := by
      rw [byteAt_eq_ok, List.getElem?_append_right (by rw [hfront.length_eq]), hfront.length_eq,
        Nat.sub_self] at hbyte
      exact (Option.some.inj hbyte).symm
    subst hsize
    obtain rfl : rest = [] := by
      have hfixed : runReportFixedPayloadSize = runReportExtensionLengthOffset + 1 := rfl
      simp only [List.length_append, hfront.length_eq, bytes.toList_length, List.length_cons,
        List.length_nil] at hlen
      exact List.length_eq_zero_iff.mp (by omega)
    have hzero : reserved7 = 0 ∧ reserved10 = 0 := by tauto
    rw [hzero.1, hzero.2] at hfront
    refine ⟨front, size :: bytes.toList, hfront, ⟨size, bytes, rfl, rfl⟩, ?_, hvalid, by simp⟩
    dsimp only
    rw [count_ofVector]
    exact hmax
  · intro h
    have hscan := runReportScan_payload hinit h
    obtain ⟨front, span, hfront, hspan, hmax, hvalid, rfl⟩ := h
    have hread : read runReportFields (front ++ span)
        = .ok (({ data with extensionData := emptySpan }, 0, 0), span) :=
      read_append reads_runReport ⟨rfl, hfront⟩
    obtain ⟨size, bytes, hdata, rfl⟩ := hspan
    unfold runReportParse
    rw [hscan, ok_bind, hread, ok_bind]
    dsimp only
    rw [if_neg (by simp), show size :: bytes.toList = [size] ++ (bytes.toList ++ []) by simp,
      read_append reads_byte rfl, ok_bind]
    dsimp only
    rw [read_append (reads_bytes _) rfl, ok_bind]
    dsimp only
    rw [← hdata, hvalid, ok_bind]

theorem runReportDecode_decodes {context : Context} (hinit : Initialized context)
    (payload : List UInt8) :
    Decodes payload (runReportDecode context payload) (fun data => data.Payload context payload)
      fun data => data.extensionData.count where
  sound storage decoded h := by
    unfold runReportDecode at h
    rw [bind_eq_ok] at h
    obtain ⟨required, hscan, h⟩ := h
    split at h
    case isTrue => exact absurd h (fail_ne_ok _ _)
    rw [bind_eq_ok] at h
    obtain ⟨data, hparse, h⟩ := h
    rw [bind_eq_ok] at h
    obtain ⟨⟨⟩, -, h⟩ := h
    obtain rfl := Except.ok.inj h
    have hpayload := (runReportParse_iff hinit).mp hparse
    rw [runReportScan_payload hinit hpayload, Except.ok.injEq] at hscan
    exact ⟨hpayload, by rw [hscan]⟩
  complete data h storage := by
    dsimp only
    unfold runReportDecode
    rw [runReportScan_payload hinit h, ok_bind]
    by_cases hroom : data.extensionData.count ≤ storage.room
    · rw [if_pos hroom, if_neg (by
        rintro (hgt | ⟨hne, hisNull⟩)
        · exact Nat.not_lt.mpr hroom hgt
        · exact hne (zero_of_null hroom hisNull)), (runReportParse_iff hinit).mpr h, ok_bind,
        store_ok storage (by rw [Nat.zero_add]; exact hroom), ok_bind]
    · rw [if_neg hroom, if_pos (Or.inl (Nat.not_le.mp hroom))]
      rfl

/-! ## Endpoint-defined data -/

/-- An Arbitrary Data payload: identifier, 16-bit length and as many bytes. -/
def ArbitraryData.Payload (context : Context) (data : ArbitraryData) (payload : List UInt8) :
    Prop :=
  ∃ length : UInt16, ∃ bytes : List.Vector UInt8 length.toNat,
    data.payload = .ofVector bytes length.toNat_lt
      ∧ length.toNat ≤ context.config.maxVariableDataSize
      ∧ payload = encodeU32Le data.dataId ++ encodeU16Le length ++ bytes.toList

/-- What the scan makes of a prefix and the bytes behind it. -/
theorem arbitraryDataScan_front {context : Context} (dataId : UInt32) (length : UInt16)
    (rest : List UInt8) :
    arbitraryDataScan context (encodeU32Le dataId ++ encodeU16Le length ++ rest) =
      if rest.length ≠ length.toNat then fail .malformedMessage
      else if length.toNat > context.config.maxVariableDataSize then fail .validationFailed
      else .ok length.toNat := by
  have hlength := length.toNat_lt
  have hsize : arbitraryDataPrefixSize = 6 := rfl
  have hread : read arbitraryDataPrefix (encodeU32Le dataId ++ encodeU16Le length ++ rest)
      = .ok ((dataId, length), rest) :=
    read_append reads_arbitraryDataPrefix rfl
  have hlen : (encodeU32Le dataId ++ encodeU16Le length ++ rest).length = 6 + rest.length := by
    simp only [List.length_append, length_encodeU32Le, length_encodeU16Le]
  unfold arbitraryDataScan
  rw [if_neg (by omega), hread, ok_bind]
  dsimp only
  rw [checkedAddSize_of_le (le_sizeMax (by omega)), checked, ok_bind, hlen, hsize]
  by_cases heq : rest.length = length.toNat
  · rw [if_neg (by omega), if_neg (not_not.mpr heq)]
  · rw [if_pos (by omega), if_pos heq]

theorem arbitraryDataScan_payload {context : Context} {data : ArbitraryData}
    {payload : List UInt8} (h : data.Payload context payload) :
    arbitraryDataScan context payload = .ok data.payload.count := by
  obtain ⟨length, bytes, hdata, hmax, rfl⟩ := h
  rw [arbitraryDataScan_front, if_neg (not_not.mpr bytes.toList_length),
    if_neg (Nat.not_lt.mpr hmax), hdata, count_ofVector]

theorem arbitraryDataDecode_decodes (context : Context) (payload : List UInt8) :
    Decodes payload (arbitraryDataDecode context payload)
      (fun data => data.Payload context payload) fun data => data.payload.count where
  sound storage decoded h := by
    unfold arbitraryDataDecode at h
    rw [bind_eq_ok] at h
    obtain ⟨required, hscan, h⟩ := h
    split at h
    case isTrue => exact absurd h (fail_ne_ok _ _)
    rw [bind_eq_ok] at h
    obtain ⟨⟨⟨dataId, length⟩, afterPrefix⟩, hprefix, h⟩ := h
    obtain ⟨_, rfl, rfl⟩ := (read_eq_ok reads_arbitraryDataPrefix).mp hprefix
    dsimp only at h hscan
    rw [bind_eq_ok] at h
    obtain ⟨⟨bytes, rest⟩, hbytes, h⟩ := h
    obtain ⟨_, rfl, rfl⟩ := (read_eq_ok (reads_bytes _)).mp hbytes
    dsimp only at h
    rw [bind_eq_ok] at h
    obtain ⟨⟨⟩, -, h⟩ := h
    obtain rfl := Except.ok.inj h
    rw [arbitraryDataScan_front] at hscan
    split at hscan
    case isTrue => exact absurd hscan (fail_ne_ok _ _)
    case isFalse hlen =>
    split at hscan
    case isTrue => exact absurd hscan (fail_ne_ok _ _)
    case isFalse hmax =>
    obtain rfl := Except.ok.inj hscan
    obtain rfl : rest = [] := by
      rw [List.length_append, bytes.toList_length] at hlen
      exact List.length_eq_zero_iff.mp (by omega)
    refine ⟨⟨length, bytes, rfl, Nat.not_lt.mp hmax, by rw [List.append_nil]⟩, ?_⟩
    dsimp only
    rw [count_ofVector]
  complete data h storage := by
    have hscan := arbitraryDataScan_payload h
    obtain ⟨length, bytes, hdata, hmax, rfl⟩ := h
    have hread : read arbitraryDataPrefix
        (encodeU32Le data.dataId ++ encodeU16Le length ++ bytes.toList)
        = .ok ((data.dataId, length), bytes.toList) :=
      read_append reads_arbitraryDataPrefix rfl
    dsimp only
    unfold arbitraryDataDecode
    rw [hscan, ok_bind]
    by_cases hroom : data.payload.count ≤ storage.room
    · rw [if_pos hroom, if_neg (by
        rintro (hgt | ⟨hne, hisNull⟩)
        · exact Nat.not_lt.mpr hroom hgt
        · exact hne (zero_of_null hroom hisNull)), hread, ok_bind]
      dsimp only
      rw [← List.append_nil bytes.toList, read_append (reads_bytes _) rfl, ok_bind]
      dsimp only
      rw [store_ok storage (by rw [Nat.zero_add]; exact hroom), ok_bind, ← hdata,
        List.append_nil]
    · rw [if_neg hroom, if_pos (Or.inl (Nat.not_le.mp hroom))]
      rfl

/-! ## Records -/

/-- The record loop of the decoders stores the records of the grammar in order. -/
theorem alignedRecordsDecode_forms {maxDataSize recordSize poolOffset : Nat}
    {records : List WireRecord} {forms : List UInt8} (storage : UsableStorage)
    (heach : Each (WireRecord.Form maxDataSize) records forms) {index copied : Nat}
    (harray : (index + records.length) * recordSize ≤ storage.room)
    (hpool : poolOffset + copied + WireRecord.dataSize records ≤ storage.room)
    (hsizes : copied + WireRecord.dataSize records ≤ Target.sizeMax) :
    ∃ values : List.Vector Record records.length,
      values.toList = records.map WireRecord.toRecord
        ∧ alignedRecordsDecode storage.1 recordSize poolOffset records.length index copied forms
          = .ok (values, copied + WireRecord.dataSize records, []) := by
  induction records generalizing forms index copied with
  | nil =>
      rw [each_nil] at heach
      exact ⟨.nil, rfl, by rw [heach]; rfl⟩
  | cons record records ih =>
      rw [each_cons] at heach
      obtain ⟨form, rest, hform, heach, rfl⟩ := heach
      have hsize : WireRecord.dataSize (record :: records)
          = record.data.length + WireRecord.dataSize records := rfl
      rw [hsize] at hpool hsizes ⊢
      rw [List.length_cons] at harray
      obtain ⟨header, bytes, padding, hlength, hrecord, -, hread⟩ := read_form hform
      have hplace : index * recordSize + recordSize ≤ storage.room := by
        refine Nat.le_trans ?_ harray
        rw [← Nat.succ_mul]
        exact Nat.mul_le_mul_right recordSize (by omega)
      obtain ⟨values, hvalues, hdecode⟩ := @ih rest heach (index + 1)
        (copied + header.payloadLength.toNat) (by
          rw [show index + 1 + records.length = index + (records.length + 1) by omega]
          exact harray) (by rw [hlength]; omega) (by rw [hlength]; omega)
      refine ⟨.cons (header.record bytes) values, ?_, ?_⟩
      · rw [List.Vector.toList_cons, hvalues, hrecord, List.map_cons]
      · show alignedRecordsDecode storage.1 recordSize poolOffset (records.length + 1) index copied
          (form ++ rest) = _
        rw [alignedRecordsDecode, hread rest, ok_bind]
        dsimp only
        rw [store_ok storage hplace, ok_bind, store_ok storage (by rw [hlength]; omega), ok_bind,
          read_append (reads_bytes _) rfl, ok_bind]
        dsimp only
        rw [read_append (reads_bytes _) rfl, ok_bind]
        dsimp only
        rw [addSize_of_le (by rw [hlength]; omega), ok_bind, hdecode, ok_bind, hlength,
          Nat.add_assoc]

/-- The record array that a decoder publishes. -/
def wireRecords (records : List WireRecord) (fits : records.length < 256) : Counted Record 256 :=
  .ofVector ⟨records.map WireRecord.toRecord, List.length_map _⟩ fits

omit [Target] in
theorem count_wireRecords (records : List WireRecord) (fits : records.length < 256) :
    (wireRecords records fits).count = records.length :=
  count_ofVector _ _

omit [Target] in
theorem elements_wireRecords (records : List WireRecord) (fits : records.length < 256) :
    (wireRecords records fits).elements = records.map WireRecord.toRecord :=
  elements_ofVector _ _

omit [Target] in
theorem notNull_wireRecords (records : List WireRecord) (fits : records.length < 256) :
    ¬ ((wireRecords records fits).count ≠ 0 ∧ (wireRecords records fits).isNull) :=
  notNull_ofVector _ _

/-- The storage that a record array with elements of `recordSize` bytes takes: the
    aligned array and the data behind it. -/
def recordsStorage (recordSize : Nat) (records : Counted Record 256) : Nat :=
  Layout.roundUp (records.count * recordSize) Target.decodeStorageAlignment
    + (records.elements.map (·.payload.count)).sum

theorem recordsStorage_wireRecords (recordSize : Nat) (records : List WireRecord)
    (fits : records.length < 256) :
    recordsStorage recordSize (wireRecords records fits) = recordStorage recordSize records := by
  rw [recordsStorage, recordStorage, count_wireRecords, elements_wireRecords, List.map_map]
  rfl

/-- Both decoders with as many records as their header declares. -/
theorem alignedRecordsDecode_wireRecords {maxDataSize recordSize poolOffset count : Nat}
    {records : List WireRecord} {forms : List UInt8} (storage : UsableStorage)
    (heach : Each (WireRecord.Form maxDataSize) records forms) (hcount : records.length = count)
    (harray : records.length * recordSize ≤ poolOffset)
    (hpool : poolOffset + WireRecord.dataSize records ≤ storage.room)
    (hsizes : WireRecord.dataSize records ≤ Target.sizeMax) :
    ∃ values : List.Vector Record count, values.toList = records.map WireRecord.toRecord
      ∧ alignedRecordsDecode storage.1 recordSize poolOffset count 0 0 forms
        = .ok (values, WireRecord.dataSize records, []) := by
  subst hcount
  obtain ⟨values, hvalues, hdecode⟩ := @alignedRecordsDecode_forms _ _ recordSize poolOffset _ _
    storage heach 0 0 (by rw [Nat.zero_add]; omega) (by omega) (by omega)
  rw [Nat.zero_add] at hdecode
  exact ⟨values, hvalues, hdecode⟩

/-- An Update Instruction payload of the grammar. -/
def UpdateInstruction.Payload (context : Context) (data : UpdateInstruction)
    (payload : List UInt8) : Prop :=
  ∃ records, ∃ h : UpdatePayload context data.tickNumber data.flags records payload,
    data.operations = wireRecords records h.countable

/-- The storage that an Update Instruction uses. -/
def UpdateInstruction.storage (data : UpdateInstruction) : Nat :=
  recordsStorage Target.sizeofLogicalOperation data.operations

theorem updateInstructionScan_payload {context : Context} {data : UpdateInstruction}
    {payload : List UInt8} (h : data.Payload context payload) :
    updateInstructionScan context payload = .ok data.storage := by
  obtain ⟨records, hpayload, hdata⟩ := h
  rw [UpdateInstruction.storage, hdata, recordsStorage_wireRecords]
  exact (updateInstructionScan_iff _ _ _).mpr ⟨_, _, records, hpayload, rfl⟩

theorem updateInstructionDecode_wants {context : Context} {data : UpdateInstruction}
    {payload : List UInt8} (h : data.Payload context payload) :
    Wants UsableStorage.room (.status .bufferTooSmall) data.storage
      ⟨data, payload.length, data.storage⟩
      fun storage => updateInstructionDecode context payload storage.1 := by
  have haddressable := Target.operations_addressable
  intro storage
  have hscan := updateInstructionScan_payload h
  obtain ⟨records, hpayload, hdata⟩ := h
  have hstorage : data.storage = recordStorage Target.sizeofLogicalOperation records := by
    rw [UpdateInstruction.storage, hdata, recordsStorage_wireRecords]
  have hcountable := hpayload.countable
  have hlength : (UInt8.ofNat records.length).toNat = records.length :=
    UInt8.toNat_ofNat_of_lt' hcountable
  obtain ⟨forms, heach, hlayout⟩ := hpayload.layout
  dsimp only
  unfold updateInstructionDecode
  rw [hscan, ok_bind]
  by_cases hroom : data.storage ≤ storage.room
  · have harray : records.length * Target.sizeofLogicalOperation
        ≤ 255 * Target.sizeofLogicalOperation :=
      Nat.mul_le_mul_right _ (by omega)
    have hfits := recordStorage_le hcountable haddressable
    obtain ⟨values, hvalues, hdecode⟩ := alignedRecordsDecode_wireRecords storage heach
      hlength.symm (Layout.le_roundUp _ Target.alignment_pos) (by
        rw [hstorage] at hroom
        exact hroom) (by unfold recordStorage at hfits; omega)
    have hoperations : ∀ fits, Counted.ofVector values fits = data.operations := by
      intro fits
      rw [hdata]
      exact ofVector_congr hvalues _ _
    have hmul : mulSize (UInt8.ofNat records.length).toNat Target.sizeofLogicalOperation
        = .ok (records.length * Target.sizeofLogicalOperation) := by
      rw [hlength]
      exact mulSize_of_le (by omega)
    have hread := read_updateInstructionHeader data.tickNumber (UInt8.ofNat records.length)
      data.flags forms
    rw [← hlayout] at hread
    rw [if_pos hroom, if_neg (Nat.not_lt.mpr hroom), if_neg (by
      rintro ⟨hne, hnull⟩
      exact hne (zero_of_null hroom hnull)), hread, ok_bind]
    dsimp only
    rw [hmul, ok_bind, alignUpSize_eq (by omega), checked, ok_bind, hdecode, ok_bind]
    dsimp only
    rw [if_neg (by simp), addSize_of_le hfits, ok_bind, hstorage, hoperations]
    rfl
  · rw [if_neg hroom, if_pos (Nat.not_le.mp hroom)]
    rfl

theorem updateInstructionDecode_decodes (context : Context) (payload : List UInt8) :
    Decodes payload (updateInstructionDecode context payload)
      (fun data => data.Payload context payload) UpdateInstruction.storage where
  sound storage decoded h := by
    have hscan := h
    unfold updateInstructionDecode at hscan
    rw [bind_eq_ok] at hscan
    obtain ⟨required, hscan, -⟩ := hscan
    obtain ⟨tickNumber, flags, records, hpayload, -⟩ := (updateInstructionScan_iff _ _ _).mp hscan
    have hdata : UpdateInstruction.Payload context
        ⟨tickNumber, flags, wireRecords records hpayload.countable⟩ payload :=
      ⟨records, hpayload, rfl⟩
    obtain ⟨rfl, -⟩ := (updateInstructionDecode_wants hdata).of_ok h
    exact ⟨hdata, rfl⟩
  complete _ h := updateInstructionDecode_wants h

/-- A Variable Test Result payload of the grammar. -/
def VariableTestResult.Payload (context : Context) (data : VariableTestResult)
    (payload : List UInt8) : Prop :=
  ∃ condition : UInt8, ∃ records, ∃ h : VariablePayload context data.tickNumber condition
      data.flags data.problemDetail records payload,
    data.condition = condition.toNat ∧ data.records = wireRecords records h.countable

/-- The storage that a Variable Test Result uses. -/
def VariableTestResult.storage (data : VariableTestResult) : Nat :=
  recordsStorage Target.sizeofCapturedRecord data.records

theorem variableTestResultScan_payload {context : Context} {data : VariableTestResult}
    {payload : List UInt8} (h : data.Payload context payload) :
    variableTestResultScan context payload = .ok data.storage := by
  obtain ⟨condition, records, hpayload, -, hdata⟩ := h
  rw [VariableTestResult.storage, hdata, recordsStorage_wireRecords]
  exact (variableTestResultScan_iff _ _ _).mpr ⟨_, _, _, _, records, hpayload, rfl⟩

theorem variableTestResultDecode_wants {context : Context} {data : VariableTestResult}
    {payload : List UInt8} (h : data.Payload context payload) :
    Wants UsableStorage.room (.status .bufferTooSmall) data.storage
      ⟨data, payload.length, data.storage⟩
      fun storage => variableTestResultDecode context payload storage.1 := by
  have haddressable := Target.records_addressable
  intro storage
  have hscan := variableTestResultScan_payload h
  obtain ⟨condition, records, hpayload, hcondition, hdata⟩ := h
  have hstorage : data.storage = recordStorage Target.sizeofCapturedRecord records := by
    rw [VariableTestResult.storage, hdata, recordsStorage_wireRecords]
  have hcountable := hpayload.countable
  have hlength : (UInt8.ofNat records.length).toNat = records.length :=
    UInt8.toNat_ofNat_of_lt' hcountable
  obtain ⟨forms, heach, hlayout⟩ := hpayload.layout
  dsimp only
  unfold variableTestResultDecode
  rw [hscan, ok_bind]
  by_cases hroom : data.storage ≤ storage.room
  · have hread := read_variableTestResultHeader data.tickNumber (UInt8.ofNat records.length)
      condition data.flags data.problemDetail forms
    rw [← hlayout] at hread
    rw [if_pos hroom, if_neg (Nat.not_lt.mpr hroom), if_neg (by
      rintro ⟨hne, hnull⟩
      exact hne (zero_of_null hroom hnull)), hread, ok_bind]
    dsimp only
    cases records with
    | nil =>
        have hzero : data.storage = 0 := by
          rw [hstorage, recordStorage, List.length_nil, Nat.zero_mul,
            Layout.roundUp_eq 0 Target.alignment_pos]
          rfl
        obtain rfl := each_nil.mp heach
        have hnone : data.records = .null 0 (by decide) := hdata
        rw [List.length_nil, if_pos (by decide), hzero, ← hcondition, ← hnone]
        rfl
    | cons record rest =>
        have harray : (record :: rest).length * Target.sizeofCapturedRecord
            ≤ 255 * Target.sizeofCapturedRecord :=
          Nat.mul_le_mul_right _ (by omega)
        have hfits := recordStorage_le hcountable haddressable
        obtain ⟨values, hvalues, hdecode⟩ := alignedRecordsDecode_wireRecords storage heach
          hlength.symm (Layout.le_roundUp _ Target.alignment_pos) (by
            rw [hstorage] at hroom
            exact hroom) (by unfold recordStorage at hfits; omega)
        have hrecords : ∀ fits, Counted.ofVector values fits = data.records := by
          intro fits
          rw [hdata]
          exact ofVector_congr hvalues _ _
        have hmul : mulSize (UInt8.ofNat (record :: rest).length).toNat
            Target.sizeofCapturedRecord
            = .ok ((record :: rest).length * Target.sizeofCapturedRecord) := by
          rw [hlength]
          exact mulSize_of_le (by omega)
        rw [if_neg (by
          intro hzero
          rw [hzero, UInt8.toNat_zero, List.length_cons] at hlength
          omega), hmul, ok_bind, alignUpSize_eq (by omega), checked, ok_bind, hdecode, ok_bind]
        dsimp only
        rw [if_neg (by simp), addSize_of_le hfits, ok_bind, hstorage, hrecords, ← hcondition]
        rfl
  · rw [if_neg hroom, if_pos (Nat.not_le.mp hroom)]
    rfl

theorem variableTestResultDecode_decodes (context : Context) (payload : List UInt8) :
    Decodes payload (variableTestResultDecode context payload)
      (fun data => data.Payload context payload) VariableTestResult.storage where
  sound storage decoded h := by
    have hscan := h
    unfold variableTestResultDecode at hscan
    rw [bind_eq_ok] at hscan
    obtain ⟨required, hscan, -⟩ := hscan
    obtain ⟨tickNumber, condition, flags, problemDetail, records, hpayload, -⟩ :=
      (variableTestResultScan_iff _ _ _).mp hscan
    have hdata : VariableTestResult.Payload context ⟨tickNumber, condition.toNat, flags,
        problemDetail, wireRecords records hpayload.countable⟩ payload :=
      ⟨condition, records, hpayload, rfl, rfl⟩
    obtain ⟨rfl, -⟩ := (variableTestResultDecode_wants hdata).of_ok h
    exact ⟨hdata, rfl⟩
  complete _ h := variableTestResultDecode_wants h

/-! ## Bodies -/

/-- The payloads of each family. -/
def Body.Payload (context : Context) (body : Body) (payload : List UInt8) : Prop :=
  match body with
  | .systemInfoRequest data => data.Form payload
  | .systemInfoResponse data => data.Payload context payload
  | .testConfiguration data => data.Payload context payload
  | .testInstruction data => data.Form payload
  | .updateInstruction data => data.Payload context payload
  | .finalizeTestUpload data => data.Form payload
  | .executionControl data => data.Form payload
  | .globalControl data => data.Form payload
  | .testResult data => data.Form payload
  | .variableTestResult data => data.Payload context payload
  | .response data => data.Form payload
  | .error data => data.Payload context payload
  | .rigStatus data => data.Form payload ∧ data.schemaVersion = 1
  | .runReport data => data.Payload context payload
  | .arbitraryControl data => data.Form payload
  | .arbitraryData data => data.Payload context payload

/-- The storage that the spans and records of a body use. -/
def Body.storage : Body → Nat
  | .systemInfoResponse data => data.diagnosticData.count + data.firmwareGitHash.count
  | .testConfiguration data => data.extensionData.count
  | .updateInstruction data => data.storage
  | .variableTestResult data => data.storage
  | .error data => data.diagnosticData.count
  | .runReport data => data.extensionData.count
  | .arbitraryData data => data.payload.count
  | _ => 0

/-- The body decoder accepts exactly the payloads of the bodies of its type. -/
theorem bodyDecode_decodes {context : Context} (hinit : Initialized context)
    (type : MessageType) (payload : List UInt8) :
    Decodes payload (bodyDecode context type payload)
      (fun body => body.type = type ∧ body.Payload context payload) Body.storage := by
  cases type with
  | systemInfoRequest =>
      refine (systemInfoRequestDecode_decodes payload).map .systemInfoRequest ?_ fun _ => rfl
      intro body
      cases body <;> simp [Body.type, Body.Payload]
  | systemInfoResponse =>
      refine (systemInfoResponseDecode_decodes context payload).map .systemInfoResponse ?_
        fun _ => rfl
      intro body
      cases body <;> simp [Body.type, Body.Payload]
  | testConfiguration =>
      refine (testConfigurationDecode_decodes context payload).map .testConfiguration ?_
        fun _ => rfl
      intro body
      cases body <;> simp [Body.type, Body.Payload]
  | testInstruction =>
      refine (testInstructionsDecode_decodes payload).map .testInstruction ?_ fun _ => rfl
      intro body
      cases body <;> simp [Body.type, Body.Payload]
  | updateInstruction =>
      refine (updateInstructionDecode_decodes context payload).map .updateInstruction ?_
        fun _ => rfl
      intro body
      cases body <;> simp [Body.type, Body.Payload]
  | finalizeTestUpload =>
      refine (finalizeTestUploadDecode_decodes payload).map .finalizeTestUpload ?_ fun _ => rfl
      intro body
      cases body <;> simp [Body.type, Body.Payload]
  | executionControl =>
      refine (executionControlDecode_decodes payload).map .executionControl ?_ fun _ => rfl
      intro body
      cases body <;> simp [Body.type, Body.Payload]
  | globalControl =>
      refine (globalControlDecode_decodes payload).map .globalControl ?_ fun _ => rfl
      intro body
      cases body <;> simp [Body.type, Body.Payload]
  | testResult =>
      refine (testResultDecode_decodes payload).map .testResult ?_ fun _ => rfl
      intro body
      cases body <;> simp [Body.type, Body.Payload]
  | variableTestResult =>
      refine (variableTestResultDecode_decodes context payload).map .variableTestResult ?_
        fun _ => rfl
      intro body
      cases body <;> simp [Body.type, Body.Payload]
  | response =>
      refine (responseDecode_decodes payload).map .response ?_ fun _ => rfl
      intro body
      cases body <;> simp [Body.type, Body.Payload]
  | error =>
      refine (errorDecode_decodes context payload).map .error ?_ fun _ => rfl
      intro body
      cases body <;> simp [Body.type, Body.Payload]
  | rigStatus =>
      refine (rigStatusDecode_decodes payload).map .rigStatus ?_ fun _ => rfl
      intro body
      cases body <;> simp [Body.type, Body.Payload]
  | runReport =>
      refine (runReportDecode_decodes hinit payload).map .runReport ?_ fun _ => rfl
      intro body
      cases body <;> simp [Body.type, Body.Payload]
  | arbitraryControl =>
      refine (arbitraryControlDecode_decodes payload).map .arbitraryControl ?_ fun _ => rfl
      intro body
      cases body <;> simp [Body.type, Body.Payload]
  | arbitraryData =>
      refine (arbitraryDataDecode_decodes context payload).map .arbitraryData ?_ fun _ => rfl
      intro body
      cases body <;> simp [Body.type, Body.Payload]

end HilRigProtocol.Application
