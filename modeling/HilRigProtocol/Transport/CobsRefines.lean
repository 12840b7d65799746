/-
  The vendored COBS encoder and decoder and the exact size computation refine the
  block code of `Library.Cobs`.

  * `cobsEncode_eq`: given room for it, the encoder writes the code of the input.
  * `cobsDecode_eq`: the decoder reads what `Library.Cobs.decode` does, given room for
    it; `cobsDecode_cobsCode`: it reads the code of any bytes back.
  * `exactCobsSize_eq`: the size computed in advance is the size of the code.
-/
import HilRigProtocol.Library.Cobs
import HilRigProtocol.Transport.FrameCodec

namespace HilRigProtocol.Transport

open Library.Cobs

/-- The COBS code of a byte string. -/
def cobsCode (bytes : List UInt8) : List UInt8 := render (blocksFrom [] bytes)

theorem zero_not_mem_cobsCode (bytes : List UInt8) : (0 : UInt8) ∉ cobsCode bytes :=
  zero_not_mem_render (blockWf_blocksFrom [] bytes blockWf_nil (by decide))

theorem cobsCode_ne_nil (bytes : List UInt8) : cobsCode bytes ≠ [] :=
  render_blocksFrom_ne_nil [] bytes

theorem length_cobsCode_le {bytes : List UInt8} (h : bytes ≠ []) :
    (cobsCode bytes).length ≤ bytes.length + (bytes.length + 253) / 254 := by
  have hpos := List.length_pos_of_ne_nil h
  have := length_render_le [] bytes h (by decide)
  simp only [List.length_nil, fullBlock] at this
  unfold cobsCode
  omega

/-! ## The encoder -/

/-- The destination up to `dst_write_ptr` once the open block is counted. -/
def CobsEncodeState.assembled (st : CobsEncodeState) : List UInt8 :=
  st.done ++ st.searchLen :: st.block

/-- What the encoder keeps: the pending code byte counts the open block. -/
structure CobsEncodeState.Wf (st : CobsEncodeState) : Prop where
  searchLen : st.searchLen = UInt8.ofNat (st.block.length + 1)
  noOverflow : st.outBufferOverflow = false

theorem CobsEncodeState.wf_push {st : CobsEncodeState} (h : st.Wf) (byte : UInt8) :
    (st.push byte).Wf where
  searchLen := by
    simp only [CobsEncodeState.push, h.searchLen, List.length_append, List.length_singleton]
    apply UInt8.toNat_inj.mp
    simp
  noOverflow := h.noOverflow

theorem CobsEncodeState.wf_closeBlock {st : CobsEncodeState} (h : st.Wf) :
    st.closeBlock.Wf where
  searchLen := rfl
  noOverflow := h.noOverflow

/-- Closing a block moves its code to the finished bytes. -/
theorem CobsEncodeState.done_closeBlock {st : CobsEncodeState} (h : st.Wf) :
    st.closeBlock.done = st.done ++ renderBlock st.block := by
  simp [CobsEncodeState.closeBlock, renderBlock, h.searchLen]

/-- The counter reaches 0xFF exactly at a full block. -/
theorem searchLen_eq_full_iff {st : CobsEncodeState} (h : st.Wf)
    (hlt : st.block.length ≤ fullBlock) :
    st.searchLen = 0xFF ↔ st.block.length = fullBlock := by
  rw [h.searchLen, ← UInt8.toNat_inj]
  simp only [UInt8.toNat_ofNat', fullBlock] at hlt ⊢
  constructor
  · intro heq
    have : (st.block.length + 1) % 2 ^ 8 = 255 := heq
    omega
  · intro heq
    rw [heq]
    rfl

/-- With room for the code of the rest, the loop ends without overflow and its
    assembled bytes are the finished bytes and that code. -/
theorem cobsEncodeLoop_eq (dstLen : Nat) (src : List UInt8) (st : CobsEncodeState) (h : st.Wf)
    (hlt : st.block.length < fullBlock)
    (hroom : st.done.length + (render (blocksFrom st.block src)).length ≤ dstLen) :
    (cobsEncodeLoop dstLen st src).outBufferOverflow = false ∧
      (cobsEncodeLoop dstLen st src).assembled = st.done ++ render (blocksFrom st.block src) := by
  induction src generalizing st with
  | nil =>
      refine ⟨h.noOverflow, ?_⟩
      simp [cobsEncodeLoop, CobsEncodeState.assembled, blocksFrom, renderBlock, h.searchLen]
  | cons byte rest ih =>
      have hwrite : ¬ st.writeOffset ≥ dstLen := by
        -- the byte needs a place of its own after the open block
        have hge : st.block.length + 2 ≤ (render (blocksFrom st.block (byte :: rest))).length := by
          unfold blocksFrom
          split_ifs
          · have := length_render_ge [] rest
            simp only [render_cons, List.length_append, length_renderBlock,
              List.length_nil] at this ⊢
            omega
          · simp
          · simp
          · have := length_render_ge (st.block ++ [byte]) rest
            simp only [List.length_append, List.length_singleton] at this
            omega
        unfold CobsEncodeState.writeOffset
        omega
      have hpush : (st.push byte).block = st.block ++ [byte] := rfl
      rw [cobsEncodeLoop, if_neg hwrite]
      unfold blocksFrom at hroom ⊢
      by_cases hz : byte = 0
      · rw [if_pos hz] at hroom ⊢
        rw [if_pos hz]
        have hdone := CobsEncodeState.done_closeBlock h
        have := ih st.closeBlock (CobsEncodeState.wf_closeBlock h) (Nat.zero_lt_succ 253) (by
          rw [hdone]
          simpa [CobsEncodeState.closeBlock, Nat.add_assoc] using hroom)
        rw [hdone] at this
        simpa [CobsEncodeState.closeBlock] using this
      · rw [if_neg hz] at hroom ⊢
        rw [if_neg hz]
        by_cases hr : rest = []
        · rw [if_pos hr, if_pos hr]
          have hw := CobsEncodeState.wf_push h byte
          refine ⟨hw.noOverflow, ?_⟩
          simp [CobsEncodeState.assembled, hw.searchLen, hpush, renderBlock,
            show (st.push byte).done = st.done from rfl]
        · rw [if_neg hr] at hroom ⊢
          rw [if_neg hr]
          have hw := CobsEncodeState.wf_push h byte
          have hlen : (st.push byte).block.length = st.block.length + 1 := by simp [hpush]
          by_cases hf : st.block.length + 1 = fullBlock
          · have hff : (st.push byte).searchLen = 0xFF :=
              (searchLen_eq_full_iff hw (by omega)).mpr (by omega)
            rw [if_pos hf] at hroom ⊢
            rw [if_pos hff]
            have hdone := CobsEncodeState.done_closeBlock hw
            have := ih (st.push byte).closeBlock (CobsEncodeState.wf_closeBlock hw) (Nat.zero_lt_succ 253) (by
              rw [hdone]
              simpa [CobsEncodeState.closeBlock, CobsEncodeState.push, Nat.add_assoc] using hroom)
            rw [hdone] at this
            simpa [CobsEncodeState.closeBlock, CobsEncodeState.push] using this
          · have hff : (st.push byte).searchLen ≠ 0xFF := fun heq =>
              hf (by have := (searchLen_eq_full_iff hw (by omega)).mp heq; omega)
            rw [if_neg hf] at hroom ⊢
            rw [if_neg hff]
            exact ih (st.push byte) hw (by rw [hlen]; omega) hroom

/-- Given room for the code, the encoder writes the code. -/
theorem cobsEncode_eq {input : List UInt8} {outputSize : Nat} (hne : input ≠ [])
    (hroom : (cobsCode input).length ≤ outputSize) :
    cobsEncode input outputSize = (.ok, cobsCode input) := by
  have hpos := List.length_pos_of_ne_nil (cobsCode_ne_nil input)
  obtain ⟨hover, hout⟩ := cobsEncodeLoop_eq outputSize input
    { done := [], block := [], searchLen := 1, outBufferOverflow := false } ⟨rfl, rfl⟩ (by decide)
    (by simpa [cobsCode] using hroom)
  set st := cobsEncodeLoop outputSize
    { done := [], block := [], searchLen := 1, outBufferOverflow := false } input with hst
  have hcode : st.done ++ st.searchLen :: st.block = cobsCode input := by
    simpa [CobsEncodeState.assembled, cobsCode] using hout
  have hdone : ¬ st.done.length ≥ outputSize := by
    have := congrArg List.length hcode
    simp only [List.length_append, List.length_cons] at this
    omega
  unfold cobsEncode thirdPartyCobsEncode
  simp only [← hst]
  rw [if_neg (by simp [hne]; omega), if_neg hdone]
  simp [hover, hcode]

/-! ## The decoder -/

/-- The decoder state before anything went wrong. -/
def CobsDecodeState.clean (out : List UInt8) : CobsDecodeState where
  out := out
  zeroByteInInput := false
  outBufferOverflow := false
  inputTooShort := false

/-- A flag is set. -/
def CobsDecodeState.failed (st : CobsDecodeState) : Bool :=
  st.zeroByteInInput || st.outBufferOverflow || st.inputTooShort

/-- The pass after a block: what the loop does with `next` and the rest of the input. -/
def cobsDecodeAfter (dstLen fuel : Nat) (next : CobsDecodeState) (lenCode : Nat)
    (src : List UInt8) : CobsDecodeState :=
  if src = [] then next
  else if lenCode = 0xFE then cobsDecodeLoop dstLen fuel next src
  else if next.out.length ≥ dstLen then { next with outBufferOverflow := true }
  else cobsDecodeLoop dstLen fuel { next with out := next.out ++ [0] } src

theorem cobsDecodeLoop_cons (dstLen fuel : Nat) (st : CobsDecodeState) {code : UInt8}
    (src : List UInt8) (hcode : code ≠ 0) :
    cobsDecodeLoop dstLen (fuel + 1) st (code :: src) =
      cobsDecodeAfter dstLen fuel (cobsDecodeBlock dstLen st (code.toNat - 1) src).1
        (cobsDecodeBlock dstLen st (code.toNat - 1) src).2
        (src.drop (cobsDecodeBlock dstLen st (code.toNat - 1) src).2) := by
  rw [cobsDecodeLoop, if_neg hcode]
  rfl

/-- Flags that are set stay set. -/
structure CobsDecodeState.Keeps (st next : CobsDecodeState) : Prop where
  outBufferOverflow : st.outBufferOverflow = true → next.outBufferOverflow = true
  failed : st.failed = true → next.failed = true

theorem CobsDecodeState.Keeps.trans {st next last : CobsDecodeState} (h : st.Keeps next)
    (h' : next.Keeps last) : st.Keeps last where
  outBufferOverflow := fun ho => h'.outBufferOverflow (h.outBufferOverflow ho)
  failed := fun hf => h'.failed (h.failed hf)

theorem CobsDecodeState.Keeps.refl (st : CobsDecodeState) : st.Keeps st := ⟨id, id⟩

theorem cobsDecodeBlock_keeps (dstLen : Nat) (st : CobsDecodeState) (lenCode : Nat)
    (src : List UInt8) : st.Keeps (cobsDecodeBlock dstLen st lenCode src).1 where
  outBufferOverflow := by
    intro ho
    simp [cobsDecodeBlock, ho]
  failed := by
    intro hf
    simp only [CobsDecodeState.failed, Bool.or_eq_true] at hf
    rcases hf with (hz | ho) | hs
    · simp [cobsDecodeBlock, CobsDecodeState.failed, hz]
    · simp [cobsDecodeBlock, CobsDecodeState.failed, ho]
    · simp [cobsDecodeBlock, CobsDecodeState.failed, hs]

theorem cobsDecodeAfter_keeps {dstLen fuel : Nat}
    (hloop : ∀ (st : CobsDecodeState) src, st.Keeps (cobsDecodeLoop dstLen fuel st src)) (next : CobsDecodeState)
    (lenCode : Nat) (src : List UInt8) : next.Keeps (cobsDecodeAfter dstLen fuel next lenCode src) := by
  unfold cobsDecodeAfter
  split_ifs
  · exact CobsDecodeState.Keeps.refl next
  · exact hloop next src
  · exact ⟨fun _ => rfl, fun _ => by simp [CobsDecodeState.failed]⟩
  · have hnext := hloop { next with out := next.out ++ [0] } src
    exact ⟨hnext.outBufferOverflow, hnext.failed⟩

theorem cobsDecodeLoop_keeps (dstLen fuel : Nat) (st : CobsDecodeState) (src : List UInt8) :
    st.Keeps (cobsDecodeLoop dstLen fuel st src) := by
  induction fuel generalizing st src with
  | zero => exact CobsDecodeState.Keeps.refl st
  | succ fuel ih =>
      cases src with
      | nil => exact CobsDecodeState.Keeps.refl st
      | cons code src =>
          by_cases hcode : code = 0
          · rw [cobsDecodeLoop, if_pos hcode]
            exact ⟨id, fun _ => by simp [CobsDecodeState.failed]⟩
          · rw [cobsDecodeLoop_cons dstLen fuel st src hcode]
            exact (cobsDecodeBlock_keeps dstLen st _ src).trans (cobsDecodeAfter_keeps ih _ _ _)

/-- A block with room for it is copied. -/
theorem cobsDecodeBlock_copied {dstLen lenCode : Nat} {out src : List UInt8}
    (hblock : lenCode ≤ src.length ∧ (0 : UInt8) ∉ src.take lenCode)
    (hroom : out.length + lenCode ≤ dstLen) :
    cobsDecodeBlock dstLen (.clean out) lenCode src =
      (.clean (out ++ src.take lenCode), lenCode) := by
  have hmin : min lenCode src.length = lenCode := Nat.min_eq_left hblock.1
  have hmin' : min lenCode (dstLen - out.length) = lenCode := by omega
  have hany : (src.take lenCode).any (· == 0) = false := by
    rw [List.any_eq_false]
    intro b hmem hz
    exact hblock.2 (by simpa using (beq_iff_eq.mp hz) ▸ hmem)
  simp only [cobsDecodeBlock, CobsDecodeState.clean, hmin, hmin', hany]
  simp
  omega

/-- A block without room for it overflows. -/
theorem cobsDecodeBlock_overflow {dstLen lenCode : Nat} {out src : List UInt8}
    (hout : out.length ≤ dstLen) (hle : lenCode ≤ src.length) (hroom : ¬ out.length + lenCode ≤ dstLen) :
    (cobsDecodeBlock dstLen (.clean out) lenCode src).1.outBufferOverflow = true := by
  have hmin : min lenCode src.length = lenCode := Nat.min_eq_left hle
  simp only [cobsDecodeBlock, CobsDecodeState.clean, hmin, Bool.false_or, decide_eq_true_eq]
  omega

/-- A block cut short or with a zero byte sets a flag. -/
theorem cobsDecodeBlock_failed {dstLen lenCode : Nat} {out src : List UInt8}
    (hout : out.length ≤ dstLen)
    (hblock : ¬ (lenCode ≤ src.length ∧ (0 : UInt8) ∉ src.take lenCode)) :
    (cobsDecodeBlock dstLen (.clean out) lenCode src).1.failed = true := by
  by_cases hle : lenCode ≤ src.length
  · by_cases hroom : out.length + lenCode ≤ dstLen
    · have hmin : min lenCode src.length = lenCode := Nat.min_eq_left hle
      have hmin' : min lenCode (dstLen - out.length) = lenCode := by omega
      have hzero : (src.take lenCode).any (· == 0) = true := by
        rw [List.any_eq_true]
        exact ⟨0, by simpa [hle] using hblock, rfl⟩
      simp [CobsDecodeState.failed, cobsDecodeBlock, CobsDecodeState.clean, hmin, hmin', hzero]
    · simp [CobsDecodeState.failed, cobsDecodeBlock_overflow hout hle hroom]
  · simp [CobsDecodeState.failed, cobsDecodeBlock, CobsDecodeState.clean]
    omega

/-- What the decoder makes of an input with `decoded` bytes, or with none, after `out`:
    it writes the bytes, overflows where they do not fit, or sets a flag. -/
structure CobsDecodeState.Reads (dstLen : Nat) (out : List UInt8) (decoded : Option (List UInt8))
    (last : CobsDecodeState) : Prop where
  fits : ∀ bytes, decoded = some bytes → out.length + bytes.length ≤ dstLen →
    last = .clean (out ++ bytes)
  overflows : ∀ bytes, decoded = some bytes → ¬ out.length + bytes.length ≤ dstLen →
    last.outBufferOverflow = true
  fails : decoded = none → last.failed = true

theorem CobsDecodeState.reads_of_overflow {dstLen : Nat} {out : List UInt8}
    {decoded : Option (List UInt8)} {last : CobsDecodeState}
    (hlong : ∀ bytes, decoded = some bytes → ¬ out.length + bytes.length ≤ dstLen)
    (hover : last.outBufferOverflow = true) : last.Reads dstLen out decoded where
  fits := fun bytes hbytes hfits => absurd hfits (hlong bytes hbytes)
  overflows := fun _ _ _ => hover
  fails := fun _ => by simp [CobsDecodeState.failed, hover]

/-- Bytes in front of the decoded ones are already written. -/
theorem CobsDecodeState.Reads.prepend {dstLen : Nat} {out front : List UInt8}
    {decoded : Option (List UInt8)} {last : CobsDecodeState}
    (h : last.Reads dstLen (out ++ front) decoded) :
    last.Reads dstLen out (decoded.map (front ++ ·)) where
  fits := by
    intro bytes hbytes hfits
    obtain ⟨tail, htail, rfl⟩ := Option.map_eq_some_iff.mp hbytes
    rw [h.fits tail htail (by simp only [List.length_append] at hfits ⊢; omega),
      List.append_assoc]
  overflows := by
    intro bytes hbytes hlong
    obtain ⟨tail, htail, rfl⟩ := Option.map_eq_some_iff.mp hbytes
    exact h.overflows tail htail (by simp only [List.length_append] at hlong ⊢; omega)
  fails := fun hnone => h.fails (Option.map_eq_none_iff.mp hnone)

/-- At the end of the input nothing is added. -/
theorem CobsDecodeState.reads_nil (dstLen : Nat) {out : List UInt8} (hout : out.length ≤ dstLen) :
    (CobsDecodeState.clean out).Reads dstLen out (some []) where
  fits := by
    rintro bytes ⟨⟩ -
    rw [List.append_nil]
  overflows := by
    rintro bytes ⟨⟩ hlong
    exact absurd hout hlong
  fails := by
    intro hnone
    cases hnone

/-- What follows a block that was copied. -/
theorem cobsDecodeAfter_reads {dstLen fuel : Nat}
    (hloop : ∀ out src : List UInt8, src.length ≤ fuel → out.length ≤ dstLen →
      (cobsDecodeLoop dstLen fuel (.clean out) src).Reads dstLen out (decodeFrom 0 true src))
    {out src : List UInt8} (lenCode : Nat) (hfuel : src.length ≤ fuel)
    (hout : out.length ≤ dstLen) :
    (cobsDecodeAfter dstLen fuel (.clean out) lenCode src).Reads dstLen out
      (decodeFrom 0 (lenCode == fullBlock) src) := by
  unfold cobsDecodeAfter
  by_cases hnil : src = []
  · rw [if_pos hnil, hnil]
    exact CobsDecodeState.reads_nil dstLen hout
  rw [if_neg hnil, decodeFrom_boundary _ hnil]
  by_cases hfull : lenCode = fullBlock
  · rw [if_pos (show lenCode = 0xFE from hfull), if_pos (by simp [hfull])]
    exact hloop out src hfuel hout
  rw [if_neg (show ¬ lenCode = 0xFE from hfull), if_neg (by simp [hfull])]
  by_cases hroom : out.length ≥ dstLen
  · rw [if_pos (by exact hroom)]
    refine CobsDecodeState.reads_of_overflow ?_ rfl
    intro bytes hbytes hfits
    obtain ⟨tail, -, rfl⟩ := Option.map_eq_some_iff.mp hbytes
    simp only [List.length_cons] at hfits
    omega
  · rw [if_neg (by exact hroom)]
    have hzero : (out ++ [0]).length ≤ dstLen := by
      rw [List.length_append, List.length_singleton]
      omega
    exact (hloop (out ++ [0]) src hfuel hzero).prepend

theorem cobsDecodeLoop_reads (dstLen fuel : Nat) {out src : List UInt8}
    (hfuel : src.length ≤ fuel) (hout : out.length ≤ dstLen) :
    (cobsDecodeLoop dstLen fuel (.clean out) src).Reads dstLen out (decodeFrom 0 true src) := by
  induction fuel generalizing out src with
  | zero =>
      have hnil : src = [] := List.length_eq_zero_iff.mp (Nat.le_zero.mp hfuel)
      subst hnil
      exact CobsDecodeState.reads_nil dstLen hout
  | succ fuel ih =>
      cases src with
      | nil => exact CobsDecodeState.reads_nil dstLen hout
      | cons code src =>
          by_cases hcode : code = 0
          · rw [cobsDecodeLoop, if_pos hcode, decodeFrom, if_pos hcode]
            exact
              { fits := by
                  intro bytes hbytes
                  cases hbytes
                overflows := by
                  intro bytes hbytes
                  cases hbytes
                fails := fun _ => by simp [CobsDecodeState.failed] }
          have hlength : src.length ≤ fuel := Nat.le_of_succ_le_succ hfuel
          have hkeeps := cobsDecodeAfter_keeps (cobsDecodeLoop_keeps dstLen fuel)
            (cobsDecodeBlock dstLen (.clean out) (code.toNat - 1) src).1
            (cobsDecodeBlock dstLen (.clean out) (code.toNat - 1) src).2
            (src.drop (cobsDecodeBlock dstLen (.clean out) (code.toNat - 1) src).2)
          rw [cobsDecodeLoop_cons dstLen fuel _ src hcode, decodeFrom, if_neg hcode, if_pos rfl,
            decodeFrom_block]
          by_cases hblock : code.toNat - 1 ≤ src.length ∧
              (0 : UInt8) ∉ src.take (code.toNat - 1)
          · rw [if_pos hblock]
            by_cases hroom : out.length + (code.toNat - 1) ≤ dstLen
            · rw [cobsDecodeBlock_copied hblock hroom]
              refine (cobsDecodeAfter_reads (fun out src => ih) (code.toNat - 1) ?_ ?_).prepend
              · rw [List.length_drop]
                omega
              · rw [List.length_append, List.length_take_of_le hblock.1]
                exact hroom
            · refine CobsDecodeState.reads_of_overflow ?_
                (hkeeps.outBufferOverflow (cobsDecodeBlock_overflow hout hblock.1 hroom))
              intro bytes hbytes hfits
              obtain ⟨tail, -, rfl⟩ := Option.map_eq_some_iff.mp hbytes
              rw [List.length_append, List.length_take_of_le hblock.1] at hfits
              omega
          · rw [if_neg hblock]
            exact
              { fits := by
                  intro bytes hbytes
                  cases hbytes
                overflows := by
                  intro bytes hbytes
                  cases hbytes
                fails := fun _ => hkeeps.failed (cobsDecodeBlock_failed hout hblock) }

/-- The decoder decides whether the input is decodable and whether its bytes fit. -/
theorem cobsDecode_eq {input : List UInt8} {outputSize : Nat} (hne : input ≠ [])
    (hpos : 0 < outputSize) :
    (∀ bytes, decode input = some bytes → cobsDecode input outputSize =
      if bytes.length ≤ outputSize then (.ok, bytes) else (.bufferTooSmall, [])) ∧
    (decode input = none → cobsDecode input outputSize = (.bufferTooSmall, []) ∨
      cobsDecode input outputSize = (.internalError, [])) := by
  have hreads := @cobsDecodeLoop_reads outputSize input.length [] input le_rfl (Nat.zero_le _)
  have hdecode : decode input = decodeFrom 0 true input := if_neg hne
  rw [hdecode]
  unfold cobsDecode thirdPartyCobsDecode
  rw [if_neg (by simp [hne]; omega)]
  constructor
  · intro bytes hbytes
    by_cases hfits : bytes.length ≤ outputSize
    · have hlast := hreads.fits bytes hbytes (by simpa using hfits)
      rw [CobsDecodeState.clean] at hlast
      simp [hlast, CobsDecodeState.clean, hfits]
    · have hlast := hreads.overflows bytes hbytes (by simpa using hfits)
      rw [CobsDecodeState.clean] at hlast
      simp [hlast, hfits]
  · intro hnone
    have hlast := hreads.fails hnone
    rw [CobsDecodeState.clean] at hlast
    simp only [CobsDecodeState.failed, Bool.or_eq_true] at hlast
    dsimp only
    split_ifs with hover hbad
    · exact Or.inl rfl
    · exact Or.inr rfl
    · tauto

/-- Given room for the bytes, the decoder reads their code back. -/
theorem cobsDecode_cobsCode {bytes : List UInt8} {outputSize : Nat}
    (hne : bytes ≠ []) (hroom : bytes.length ≤ outputSize) :
    cobsDecode (cobsCode bytes) outputSize = (.ok, bytes) := by
  have hpos := List.length_pos_of_ne_nil hne
  have hdecode : decode (cobsCode bytes) = some bytes :=
    decode_eq_some_iff.mpr ⟨blocksFrom [] bytes, blocksFrom_ne_nil _ _,
      blockWf_blocksFrom [] bytes blockWf_nil (by decide), rfl,
      join_blocksFrom [] bytes (Nat.zero_lt_succ 253)⟩
  rw [(cobsDecode_eq (cobsCode_ne_nil bytes) (by omega)).1 bytes hdecode, if_pos hroom]

/-! ## The exact size -/

/-- The loop counts the run of an open block below 254 exactly. -/
theorem ofNat_run_add_one (length : Nat) : UInt8.ofNat length + 1 = UInt8.ofNat (length + 1) := by
  apply UInt8.toNat_inj.mp
  simp

theorem ofNat_run_eq_full {length : Nat} (h : length < fullBlock) :
    UInt8.ofNat (length + 1) = 254 ↔ length + 1 = fullBlock := by
  rw [← UInt8.toNat_inj]
  simp only [UInt8.toNat_ofNat', fullBlock] at h ⊢
  constructor
  · intro heq
    have : (length + 1) % 2 ^ 8 = 254 := heq
    omega
  · intro heq
    rw [heq]
    rfl

section
variable [Target]

/-- From an open block of `block`, the size loop adds the size of what is left. -/
theorem exactCobsSizeLoop_eq (block bytes : List UInt8) (size : Nat)
    (hlt : block.length < fullBlock)
    (hmax : size + (render (blocksFrom block bytes)).length ≤ Target.sizeMax + block.length + 1) :
    exactCobsSizeLoop size (UInt8.ofNat block.length) bytes =
      (.ok, size + (render (blocksFrom block bytes)).length - (block.length + 1)) := by
  induction bytes generalizing block size with
  | nil => simp [exactCobsSizeLoop, blocksFrom]
  | cons byte rest ih =>
      have hrun := ofNat_run_add_one block.length
      have hrunFull := ofNat_run_eq_full hlt
      unfold blocksFrom at hmax ⊢
      by_cases hz : byte = 0
      · rw [if_pos hz] at hmax ⊢
        have hge := length_render_ge [] rest
        have := ih [] (size + 1) (by decide)
        simp only [render_cons, List.length_append, length_renderBlock, List.length_nil] at *
        rw [exactCobsSizeLoop, if_neg (by omega), if_pos hz, show (0 : UInt8) = UInt8.ofNat 0 from rfl,
          this (by omega)]
        congr 1
        omega
      · rw [if_neg hz] at hmax ⊢
        by_cases hr : rest = []
        · subst hr
          simp only [if_true, render_cons, render_nil, List.length_append, length_renderBlock,
            List.length_singleton, List.length_nil] at hmax ⊢
          rw [exactCobsSizeLoop, if_neg (by omega), if_neg hz, if_neg (by simp)]
          simp only [exactCobsSizeLoop]
          congr 1
          omega
        · rw [if_neg hr] at hmax ⊢
          by_cases hf : block.length + 1 = fullBlock
          · rw [if_pos hf] at hmax ⊢
            have hge := length_render_ge [] rest
            have := ih [] (size + 2) (by decide)
            simp only [render_cons, List.length_append, length_renderBlock, List.length_singleton,
              List.length_nil] at *
            rw [exactCobsSizeLoop, if_neg (by omega), if_neg hz, hrun, if_pos ⟨hrunFull.mpr hf, hr⟩, if_neg (by omega),
              show (0 : UInt8) = UInt8.ofNat 0 from rfl, this (by omega)]
            congr 1
            omega
          · rw [if_neg hf] at hmax ⊢
            have hge := length_render_ge (block ++ [byte]) rest
            have := ih (block ++ [byte]) (size + 1)
            simp only [List.length_append, List.length_singleton] at *
            rw [exactCobsSizeLoop, if_neg (by omega), if_neg hz, hrun, if_neg (fun h => hf (hrunFull.mp h.1)),
              this (by omega) (by omega)]
            congr 1
            omega

/-- Whenever the size loop ends without an error, it has added the size of what was
    left. -/
theorem exactCobsSizeLoop_ok (block bytes : List UInt8) (size n : Nat)
    (hlt : block.length < fullBlock)
    (h : exactCobsSizeLoop size (UInt8.ofNat block.length) bytes = (.ok, n)) :
    n + (block.length + 1) = size + (render (blocksFrom block bytes)).length := by
  induction bytes generalizing block size with
  | nil =>
      cases h
      simp [blocksFrom]
  | cons byte rest ih =>
      have hrun := ofNat_run_add_one block.length
      have hrunFull := ofNat_run_eq_full hlt
      rw [exactCobsSizeLoop] at h
      by_cases hmax : size = Target.sizeMax
      · rw [if_pos hmax] at h
        cases h
      rw [if_neg hmax] at h
      unfold blocksFrom
      by_cases hz : byte = 0
      · rw [if_pos hz] at h ⊢
        have hrest := ih [] (size + 1) (by decide) h
        simp only [render_cons, List.length_append, length_renderBlock, List.length_nil] at hrest ⊢
        omega
      rw [if_neg hz, hrun] at h
      rw [if_neg hz]
      by_cases hr : rest = []
      · subst hr
        rw [if_neg (by simp)] at h
        cases h
        simp
        omega
      rw [if_neg hr]
      by_cases hf : block.length + 1 = fullBlock
      · rw [if_pos ⟨hrunFull.mpr hf, hr⟩] at h
        by_cases hmax' : size + 1 = Target.sizeMax
        · rw [if_pos hmax'] at h
          cases h
        rw [if_neg hmax'] at h
        rw [if_pos hf]
        have hrest := ih [] (size + 2) (by decide) h
        simp only [render_cons, List.length_append, length_renderBlock, List.length_singleton,
          List.length_nil] at hrest ⊢
        omega
      · rw [if_neg (fun hfull => hf (hrunFull.mp hfull.1))] at h
        rw [if_neg hf]
        have hrest := ih (block ++ [byte]) (size + 1)
        rw [List.length_append, List.length_singleton] at hrest
        have := hrest (by omega) h
        omega

/-- The size computed in advance is the size of the code. -/
theorem exactCobsSize_eq {raw : List UInt8} (hne : raw ≠ [])
    (hmax : (cobsCode raw).length ≤ Target.sizeMax) :
    exactCobsSize raw = (.ok, (cobsCode raw).length) := by
  have := exactCobsSizeLoop_eq [] raw 1 (by decide) (by
    simp only [cobsCode] at hmax
    simp
    omega)
  unfold exactCobsSize
  rw [if_neg hne]
  simpa [cobsCode, Nat.add_comm] using this

/-- A size that the computation reports is the size of the code. -/
theorem exactCobsSize_ok {raw : List UInt8} {n : Nat} (h : exactCobsSize raw = (.ok, n)) :
    raw ≠ [] ∧ n = (cobsCode raw).length := by
  unfold exactCobsSize at h
  by_cases hne : raw = []
  · rw [if_pos hne] at h
    cases h
  rw [if_neg hne] at h
  have := exactCobsSizeLoop_ok [] raw 1 n (by decide) h
  rw [List.length_nil] at this
  exact ⟨hne, by unfold cobsCode; omega⟩

end

end HilRigProtocol.Transport
