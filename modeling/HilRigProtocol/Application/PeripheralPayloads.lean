/-
  The payload grammars of the SPI and CAN operations.

  An SPI payload is a packet count, the length of each packet, and the bytes of the
  packets; a CAN payload is a sequence of 12-byte frames. The two validators accept these
  payloads and no others, for every length, and read nothing outside the span.
-/
import HilRigProtocol.Application.Containment
import HilRigProtocol.Application.Decoders

namespace HilRigProtocol.Application

open Library Library.Reader

/-! ## SPI -/

/-- `sizes` are the packet lengths of a payload: `count` of them, none empty. -/
structure PacketSizes (count : Nat) (sizes : List UInt8) : Prop where
  length_eq : sizes.length = count
  nonempty : ∀ size ∈ sizes, 1 ≤ size

/-- A packet count of at least one, that many nonempty packet lengths, and as many bytes
    as the lengths sum to. -/
def SpiForm (data : List UInt8) : Prop :=
  ∃ packetCount sizes packets, data = packetCount :: (sizes ++ packets) ∧ 1 ≤ packetCount
    ∧ PacketSizes packetCount.toNat sizes ∧ packets.length = (sizes.map UInt8.toNat).sum

theorem packetSizes_zero {sizes : List UInt8} : PacketSizes 0 sizes ↔ sizes = [] := by
  constructor
  · intro h
    exact List.length_eq_zero_iff.mp h.length_eq
  · rintro rfl
    exact ⟨rfl, by simp⟩

theorem packetSizes_cons {count : Nat} {size : UInt8} {sizes : List UInt8} :
    PacketSizes (count + 1) (size :: sizes) ↔ 1 ≤ size ∧ PacketSizes count sizes := by
  constructor
  · rintro ⟨hlen, hne⟩
    rw [List.length_cons] at hlen
    exact ⟨hne size List.mem_cons_self, by omega, fun s hs => hne s (List.mem_cons_of_mem _ hs)⟩
  · rintro ⟨hsize, hlen, hne⟩
    refine ⟨by rw [List.length_cons, hlen], fun s hs => ?_⟩
    cases List.mem_cons.mp hs with
    | inl h => exact h ▸ hsize
    | inr h => exact hne s h

/-- A packet is not empty, so a payload has more bytes than its packet lengths. -/
theorem PacketSizes.le_sum {count : Nat} {sizes : List UInt8} (h : PacketSizes count sizes) :
    count ≤ (sizes.map UInt8.toNat).sum := by
  induction sizes generalizing count with
  | nil => exact Nat.le_of_eq h.length_eq.symm
  | cons size sizes ih =>
      obtain ⟨count, rfl⟩ : ∃ n, count = n + 1 :=
        ⟨sizes.length, by rw [← h.length_eq, List.length_cons]⟩
      obtain ⟨hsize, hsizes⟩ := packetSizes_cons.mp h
      have hrest := ih hsizes
      have hpos : 1 ≤ size.toNat := hsize
      rw [List.map_cons, List.sum_cons]
      omega

/-- The loop sums the packet lengths in front of it, none of which is 0. -/
theorem spiPacketLengthSum_iff {packets total sum : Nat} {lengths : List UInt8}
    (htotal : total + 255 * packets ≤ 0xFFFF) :
    spiPacketLengthSum packets lengths total = .ok sum ↔
      ∃ sizes rest, lengths = sizes ++ rest ∧ PacketSizes packets sizes
        ∧ sum = total + (sizes.map UInt8.toNat).sum := by
  induction packets generalizing lengths total with
  | zero =>
      simp only [spiPacketLengthSum, Except.ok.injEq, packetSizes_zero]
      constructor
      · rintro rfl
        exact ⟨[], lengths, rfl, rfl, rfl⟩
      · rintro ⟨sizes, rest, -, rfl, rfl⟩
        rfl
  | succ packets ih =>
      cases lengths with
      | nil =>
          constructor
          · intro h
            exact absurd h (by simp [spiPacketLengthSum, byteAt])
          · rintro ⟨sizes, rest, happend, hsizes, -⟩
            obtain rfl := (List.append_eq_nil_iff.mp happend.symm).1
            exact absurd hsizes.length_eq (by simp)
      | cons size lengths =>
          have hlt := size.toNat_lt
          have hstep : spiPacketLengthSum (packets + 1) (size :: lengths) total
              = if size = 0 then fail .validationFailed
                else spiPacketLengthSum packets lengths (total + size.toNat) := by
            simp only [spiPacketLengthSum, byteAt, List.getElem?_cons_zero, ok_bind,
              addSize16_of_le (show total + size.toNat ≤ 0xFFFF by omega), List.drop_succ_cons,
              List.drop_zero]
          rw [hstep]
          by_cases hzero : size = 0
          · rw [if_pos hzero]
            constructor
            · intro h
              exact absurd h (fail_ne_ok _ _)
            · rintro ⟨sizes, rest, happend, hsizes, -⟩
              cases sizes with
              | nil => exact absurd hsizes.length_eq (by simp)
              | cons first sizes =>
                  obtain ⟨rfl, -⟩ := List.cons.inj happend
                  rw [hzero] at hsizes
                  exact absurd (packetSizes_cons.mp hsizes).1 (by decide)
          · have hpos : 1 ≤ size := by
              have hne : size.toNat ≠ 0 := fun h => hzero (UInt8.toNat_inj.mp h)
              exact Nat.one_le_iff_ne_zero.mpr hne
            rw [if_neg hzero, ih (by omega)]
            constructor
            · rintro ⟨sizes, rest, rfl, hsizes, rfl⟩
              refine ⟨size :: sizes, rest, rfl, packetSizes_cons.mpr ⟨hpos, hsizes⟩, ?_⟩
              rw [List.map_cons, List.sum_cons, Nat.add_assoc]
            · rintro ⟨sizes, rest, happend, hsizes, rfl⟩
              cases sizes with
              | nil => exact absurd hsizes.length_eq (by simp)
              | cons first sizes =>
                  obtain ⟨rfl, rfl⟩ := List.cons.inj happend
                  refine ⟨sizes, rest, rfl, (packetSizes_cons.mp hsizes).2, ?_⟩
                  rw [List.map_cons, List.sum_cons, Nat.add_assoc]

/-- The SPI case of the operation validator. -/
theorem spiPayloadValidate_iff {channel : UInt8} {data : List UInt8} {fits : data.length < 65536}
    (hchannel : channel < 2) :
    spiPayloadValidate channel (.array data fits) = .ok () ↔ SpiForm data := by
  unfold spiPayloadValidate
  rw [if_neg (UInt8.not_le.mpr hchannel)]
  cases data with
  | nil =>
      constructor
      · intro h
        exact absurd h (by simp [byteAt, Counted.elements])
      · rintro ⟨_, _, _, happend, -⟩
        exact absurd happend (by simp)
  | cons packetCount data =>
      have hlt := packetCount.toNat_lt
      have hcount : (Counted.array (packetCount :: data) fits).count = data.length + 1 := rfl
      have helements :
          (Counted.array (packetCount :: data) fits).elements = packetCount :: data := rfl
      rw [hcount, helements, show byteAt (packetCount :: data) 0 = .ok packetCount from rfl,
        ok_bind, List.drop_one, List.tail_cons]
      by_cases hshort : packetCount = 0 ∨ data.length + 1 ≤ 1 + packetCount.toNat
      · -- no packets, or no room for their bytes
        rw [if_pos hshort]
        constructor
        · intro h
          exact absurd h (fail_ne_ok _ _)
        · rintro ⟨_, sizes, packets, happend, hpackets, hsizes, hlength⟩
          obtain ⟨rfl, rfl⟩ := List.cons.inj happend
          have hsum := hsizes.le_sum
          have hpos : 1 ≤ packetCount.toNat := hpackets
          cases hshort with
          | inl hzero =>
              rw [hzero] at hpos
              exact absurd hpos (by decide)
          | inr hshort =>
              rw [List.length_append, hsizes.length_eq] at hshort
              omega
      · rw [if_neg hshort, subSize_of_le (by omega), ok_bind, subSize_of_le (by omega), ok_bind,
          bind_eq_ok]
        have hpackets : 1 ≤ packetCount := by
          have hne : packetCount.toNat ≠ 0 := fun h => hshort (.inl (UInt8.toNat_inj.mp h))
          exact Nat.one_le_iff_ne_zero.mpr hne
        simp only [spiPacketLengthSum_iff (show 0 + 255 * packetCount.toNat ≤ 0xFFFF by omega),
          okIf_eq_ok, beq_iff_eq]
        constructor
        · rintro ⟨sum, ⟨sizes, packets, rfl, hsizes, rfl⟩, hsum⟩
          refine ⟨packetCount, sizes, packets, rfl, hpackets, hsizes, ?_⟩
          rw [List.length_append, hsizes.length_eq] at hsum
          omega
        · rintro ⟨_, sizes, packets, happend, -, hsizes, hlength⟩
          obtain ⟨rfl, rfl⟩ := List.cons.inj happend
          refine ⟨_, ⟨sizes, packets, rfl, hsizes, rfl⟩, ?_⟩
          rw [List.length_append, hsizes.length_eq]
          omega

/-! ## CAN -/

/-- A frame that the validator accepts. -/
structure CanFrame where
  canId : UInt16
  dlc : UInt8
  data : List.Vector UInt8 8
  canId_le : canId ≤ 0x7FF
  dlc_le : dlc ≤ 8

/-- The twelve bytes of a frame: identifier, data length, data, and a reserved zero. -/
def CanFrame.form (frame : CanFrame) : List UInt8 :=
  encodeU16Le frame.canId ++ (frame.dlc :: (frame.data.toList ++ [0]))

/-- A sequence of one or more frames. -/
def CanForm (data : List UInt8) : Prop :=
  ∃ frames : List CanFrame, frames ≠ [] ∧ data = frames.flatMap CanFrame.form

theorem CanFrame.length_form (frame : CanFrame) : frame.form.length = 12 := by
  simp [CanFrame.form]

theorem length_canFrames (frames : List CanFrame) :
    (frames.flatMap CanFrame.form).length = 12 * frames.length := by
  induction frames with
  | nil => rfl
  | cons frame frames ih =>
      rw [List.flatMap_cons, List.length_append, frame.length_form, ih, List.length_cons]
      omega

/-- One round of the loop, on the twelve bytes of its frame. -/
theorem canFramesValidate_succ {frames : Nat} {id0 id1 dlc res : UInt8} {body rest : List UInt8}
    (hbody : body.length = 8) :
    canFramesValidate (frames + 1) (id0 :: id1 :: dlc :: (body ++ res :: rest))
      = if id0.toUInt16 ||| id1.toUInt16 <<< 8 > 0x7FF ∨ dlc > 8 ∨ res ≠ 0 then
          fail .validationFailed
        else canFramesValidate frames rest := by
  have hid : read readU16Le (id0 :: id1 :: dlc :: (body ++ res :: rest))
      = .ok (id0.toUInt16 ||| id1.toUInt16 <<< 8, dlc :: (body ++ res :: rest)) := rfl
  have hdlc : byteAt (id0 :: id1 :: dlc :: (body ++ res :: rest)) 2 = .ok dlc := rfl
  have hres : byteAt (id0 :: id1 :: dlc :: (body ++ res :: rest)) 11 = .ok res := by
    rw [byteAt_eq_ok]
    simp [hbody]
  have hdrop : (id0 :: id1 :: dlc :: (body ++ res :: rest)).drop 12 = rest := by
    simp [List.drop_append, hbody]
  rw [canFramesValidate, hid, ok_bind]
  dsimp only
  rw [hdlc, ok_bind, hres, ok_bind, hdrop]

/-- Twelve bytes at the front of a list. -/
theorem exists_twelve {data : List UInt8} (h : 12 ≤ data.length) :
    ∃ id0 id1 dlc body res rest, body.length = 8
      ∧ data = id0 :: id1 :: dlc :: (body ++ res :: rest) := by
  match data, h with
  | id0 :: id1 :: dlc :: tail, h =>
      have htail : 8 < tail.length := by simp at h; omega
      refine ⟨id0, id1, dlc, tail.take 8, tail[8], tail.drop 9, ?_, ?_⟩
      · rw [List.length_take]
        omega
      · rw [← List.drop_eq_getElem_cons htail, List.take_append_drop]

/-- The loop accepts as many frames as it is asked for. -/
theorem canFramesValidate_iff {count : Nat} {data : List UInt8} (h : data.length = 12 * count) :
    canFramesValidate count data = .ok () ↔
      ∃ frames : List CanFrame, frames.length = count ∧ data = frames.flatMap CanFrame.form := by
  induction count generalizing data with
  | zero =>
      obtain rfl := List.length_eq_zero_iff.mp h
      exact ⟨fun _ => ⟨[], rfl, rfl⟩, fun _ => rfl⟩
  | succ count ih =>
      obtain ⟨id0, id1, dlc, body, res, rest, hbody, rfl⟩ := @exists_twelve data (by omega)
      have hrest : rest.length = 12 * count := by
        simp only [List.length_cons, List.length_append, hbody] at h
        omega
      rw [canFramesValidate_succ hbody]
      constructor
      · intro hok
        split at hok
        case isTrue => exact absurd hok (fail_ne_ok _ _)
        case isFalse hvalid =>
        rw [not_or, not_or, not_not] at hvalid
        obtain ⟨hid, hdlc, rfl⟩ := hvalid
        obtain ⟨frames, hframes, rfl⟩ := (ih hrest).mp hok
        refine ⟨⟨_, dlc, ⟨body, hbody⟩, UInt16.not_lt.mp hid, UInt8.not_lt.mp hdlc⟩ :: frames,
          by rw [List.length_cons, hframes], ?_⟩
        rw [List.flatMap_cons, CanFrame.form, ← (encodeU16Le_iff id0 id1 _).mpr rfl]
        simp [List.Vector.toList]
      · rintro ⟨frames, hframes, hform⟩
        cases frames with
        | nil => exact absurd hframes (by simp)
        | cons frame frames =>
            have hsplit : [id0, id1] ++ (dlc :: (body ++ res :: rest))
                = encodeU16Le frame.canId
                  ++ (frame.dlc :: (frame.data.toList ++ 0 :: frames.flatMap CanFrame.form)) := by
              rw [List.flatMap_cons, CanFrame.form] at hform
              simpa using hform
            obtain ⟨hcanId, hafter⟩ := List.append_inj hsplit rfl
            obtain ⟨rfl, hbehind⟩ := List.cons.inj hafter
            obtain ⟨-, hend⟩ := List.append_inj hbehind
              (hbody.trans frame.data.toList_length.symm)
            obtain ⟨rfl, rfl⟩ := List.cons.inj hend
            have hid := (encodeU16Le_iff id0 id1 frame.canId).mp hcanId
            rw [if_neg (by
              rw [not_or, not_or, not_not, ← hid]
              exact ⟨UInt16.not_lt.mpr frame.canId_le, UInt8.not_lt.mpr frame.dlc_le, rfl⟩)]
            exact (ih hrest).mpr ⟨frames, Nat.succ.inj hframes, rfl⟩

/-- The CAN case of both field validators. -/
theorem canPayloadValidate_iff {channel : UInt8} {data : List UInt8} {fits : data.length < 65536}
    (hchannel : channel < 2) (hdata : data ≠ []) :
    canPayloadValidate channel (.array data fits) = .ok () ↔ CanForm data := by
  unfold canPayloadValidate
  have hcount : (Counted.array data fits).count = data.length := rfl
  have helements : (Counted.array data fits).elements = data := rfl
  rw [hcount, helements]
  have hpos := List.length_pos_iff.mpr hdata
  by_cases hwhole : data.length % 12 = 0
  · rw [if_neg (by
      rw [not_or, not_not]
      exact ⟨UInt8.not_le.mpr hchannel, hwhole⟩),
      canFramesValidate_iff (show data.length = 12 * (data.length / 12) by omega)]
    constructor
    · rintro ⟨frames, hframes, hform⟩
      refine ⟨frames, ?_, hform⟩
      rintro rfl
      exact hdata hform
    · rintro ⟨frames, -, hform⟩
      refine ⟨frames, ?_, hform⟩
      rw [hform, length_canFrames]
      omega
  · rw [if_pos (.inr hwhole)]
    constructor
    · intro h
      exact absurd h (fail_ne_ok _ _)
    · rintro ⟨frames, -, rfl⟩
      rw [length_canFrames] at hwhole
      omega

/-! ## The field validators -/

/-- A span that a field validator looks at. -/
theorem spanAccepted {context : Context} {data : List UInt8} {fits : data.length < 65536}
    (hmax : data.length ≤ context.config.maxVariableDataSize) (hdata : data ≠ []) :
    ¬ (byteSpanValidate (.array data fits) context.config.maxVariableDataSize ≠ .ok ()
      ∨ (Counted.array data fits).count = 0) := by
  rw [not_or, not_not, byteSpanValidate_eq_ok]
  refine ⟨⟨hmax, ?_⟩, ?_⟩
  · rintro ⟨-, hnull⟩
    exact absurd hnull (by simp [Counted.isNull])
  · intro hzero
    exact hdata (List.length_eq_zero_iff.mp hzero)

/-- For a channel in range and every nonempty span up to the configured size, the
    operation validator accepts exactly the SPI payloads of the SPI grammar and exactly the
    CAN payloads of the CAN grammar, and stays inside the span whatever the bytes are. -/
theorem spi_can_payload_grammar (context : Context) (channel : UInt8) (data : List UInt8)
    (fits : data.length < 65536) (hchannel : channel < 2) (hdata : 1 ≤ data.length)
    (hmax : data.length ≤ context.config.maxVariableDataSize) :
    (logicalOperationFieldsValidate context ⟨Peripheral.spi, channel, .array data fits⟩ = .ok ()
        ↔ SpiForm data)
      ∧ (logicalOperationFieldsValidate context ⟨Peripheral.can, channel, .array data fits⟩
          = .ok () ↔ CanForm data)
      ∧ ∀ peripheralType, logicalOperationFieldsValidate context
          ⟨peripheralType, channel, .array data fits⟩ ≠ .error .outOfBounds := by
  have hne : data ≠ [] := List.length_pos_iff.mp hdata
  refine ⟨?_, ?_, fun peripheralType => ?_⟩
  · unfold logicalOperationFieldsValidate
    rw [if_neg (spanAccepted hmax hne)]
    exact spiPayloadValidate_iff hchannel
  · unfold logicalOperationFieldsValidate
    rw [if_neg (spanAccepted hmax hne)]
    exact canPayloadValidate_iff hchannel hne
  · exact (contained_logicalOperationFieldsValidate _ _).ne_outOfBounds

/-- Two packets, of one byte and of two. -/
theorem spi_can_payload_grammar_packets : SpiForm [2, 1, 2, 0xAA, 0xBB, 0xCC] :=
  (spi_can_payload_grammar ⟨defaultConfig, 1⟩ 1 [2, 1, 2, 0xAA, 0xBB, 0xCC] (by decide)
    (by decide) (by decide) (by decide)).1.mp (by decide)

end HilRigProtocol.Application
