/-
  Consistent overhead byte stuffing as a code on blocks.

  `blocksFrom block bytes` cuts a byte string into blocks: a zero byte ends a block
  and is dropped, and a block of `fullBlock` nonzero bytes ends where more bytes
  follow. `render` writes each block after a byte that counts it, and `join` puts
  the dropped zeros back.

  `decode` reads a code back. It also reads codes that no encoder makes, such as a
  full block followed by nothing but an empty one.

  * `join_blocksFrom`: nothing is lost.
  * `zero_not_mem_render`: the code has no zero byte.
  * `length_render_le`: at most one byte more for every `fullBlock` bytes begun.
  * `decode_eq_some_iff`: the decodable strings are the codes of lists of blocks.
-/
import Mathlib.Data.List.Basic
import Mathlib.Data.Nat.Notation
import Mathlib.Tactic.Ring

namespace HilRigProtocol.Library.Cobs

/-- The longest block: its code byte is 0xFF. -/
def fullBlock : Nat := 254

/-- The blocks of `block ++ bytes`, where `block` is the open block. -/
def blocksFrom : List UInt8 → List UInt8 → List (List UInt8)
  | block, [] => [block]
  | block, byte :: rest =>
      if byte = 0 then block :: blocksFrom [] rest
      else if rest = [] then [block ++ [byte]]
      else if block.length + 1 = fullBlock then (block ++ [byte]) :: blocksFrom [] rest
      else blocksFrom (block ++ [byte]) rest

/-- A block after its code byte. -/
def renderBlock (block : List UInt8) : List UInt8 := UInt8.ofNat (block.length + 1) :: block

/-- The code of a list of blocks. -/
def render (blocks : List (List UInt8)) : List UInt8 := blocks.flatMap renderBlock

/-- The bytes that a list of blocks stands for: a zero after every block that is not
    full, except after the last one. -/
def join : List (List UInt8) → List UInt8
  | [] => []
  | [block] => block
  | block :: next :: blocks =>
      if block.length = fullBlock then block ++ join (next :: blocks)
      else block ++ 0 :: join (next :: blocks)

/-- A block as the encoder makes it: nonzero bytes, at most `fullBlock` of them. -/
structure BlockWf (block : List UInt8) : Prop where
  length_le : block.length ≤ fullBlock
  nonzero : ∀ byte ∈ block, byte ≠ 0

theorem blocksFrom_ne_nil (block bytes : List UInt8) : blocksFrom block bytes ≠ [] := by
  induction bytes generalizing block with
  | nil => simp [blocksFrom]
  | cons byte rest ih =>
      unfold blocksFrom
      split_ifs
      · simp
      · simp
      · simp
      · exact ih _

theorem join_cons (block : List UInt8) {blocks : List (List UInt8)} (h : blocks ≠ []) :
    join (block :: blocks) =
      if block.length = fullBlock then block ++ join blocks else block ++ 0 :: join blocks := by
  cases blocks with
  | nil => exact absurd rfl h
  | cons next blocks => rfl

theorem blockWf_append {block : List UInt8} {byte : UInt8} (h : BlockWf block)
    (hlt : block.length < fullBlock) (hb : byte ≠ 0) : BlockWf (block ++ [byte]) where
  length_le := by simp; omega
  nonzero := by
    intro b hmem
    rcases List.mem_append.mp hmem with hmem | hmem
    · exact h.nonzero b hmem
    · rw [List.mem_singleton.mp hmem]
      exact hb

theorem blockWf_nil : BlockWf [] := ⟨by simp, by simp⟩

/-- Every block of a byte string is well formed. -/
theorem blockWf_blocksFrom (block bytes : List UInt8) (h : BlockWf block)
    (hlt : block.length < fullBlock) : ∀ b ∈ blocksFrom block bytes, BlockWf b := by
  induction bytes generalizing block with
  | nil =>
      intro b hb
      rw [List.mem_singleton.mp hb]
      exact h
  | cons byte rest ih =>
      unfold blocksFrom
      have hnil : ([] : List UInt8).length < fullBlock := by decide
      split_ifs with hz hr hf
      · intro b hb
        rcases List.mem_cons.mp hb with rfl | hb
        · exact h
        · exact ih [] blockWf_nil hnil b hb
      · intro b hb
        rw [List.mem_singleton.mp hb]
        exact blockWf_append h hlt hz
      · intro b hb
        rcases List.mem_cons.mp hb with rfl | hb
        · exact blockWf_append h hlt hz
        · exact ih [] blockWf_nil hnil b hb
      · exact ih _ (blockWf_append h hlt hz) (by simp; omega)

/-- Joining the blocks gives the bytes back. -/
theorem join_blocksFrom (block bytes : List UInt8) (hlt : block.length < fullBlock) :
    join (blocksFrom block bytes) = block ++ bytes := by
  induction bytes generalizing block with
  | nil => simp [blocksFrom, join]
  | cons byte rest ih =>
      unfold blocksFrom
      have hnil : ([] : List UInt8).length < fullBlock := by decide
      split_ifs with hz hr hf
      · rw [join_cons _ (blocksFrom_ne_nil _ _), if_neg (by omega), ih [] hnil, hz]
        rfl
      · rw [hr]
        rfl
      · rw [join_cons _ (blocksFrom_ne_nil _ _), if_pos (by simpa using hf), ih [] hnil]
        simp
      · rw [ih _ (by simp; omega)]
        simp

theorem zero_not_mem_renderBlock {block : List UInt8} (h : BlockWf block) :
    (0 : UInt8) ∉ renderBlock block := by
  intro hmem
  rcases List.mem_cons.mp hmem with hcode | hmem
  · have hle := h.length_le
    have hnat := congrArg UInt8.toNat hcode
    rw [UInt8.toNat_ofNat'] at hnat
    simp only [UInt8.toNat_zero, fullBlock] at hnat hle
    omega
  · exact h.nonzero 0 hmem rfl

/-- The code of well-formed blocks has no zero byte. -/
theorem zero_not_mem_render {blocks : List (List UInt8)} (h : ∀ b ∈ blocks, BlockWf b) :
    (0 : UInt8) ∉ render blocks := by
  intro hmem
  obtain ⟨block, hblock, hmem⟩ := List.mem_flatMap.mp hmem
  exact zero_not_mem_renderBlock (h block hblock) hmem

@[simp] theorem render_nil : render [] = [] := rfl

@[simp] theorem render_cons (block : List UInt8) (blocks : List (List UInt8)) :
    render (block :: blocks) = renderBlock block ++ render blocks := rfl

@[simp] theorem length_renderBlock (block : List UInt8) :
    (renderBlock block).length = block.length + 1 := rfl

theorem render_blocksFrom_ne_nil (block bytes : List UInt8) :
    render (blocksFrom block bytes) ≠ [] := by
  obtain ⟨b, blocks, h⟩ := List.exists_cons_of_ne_nil (blocksFrom_ne_nil block bytes)
  rw [h, render_cons]
  simp [renderBlock]

/-- The open block and its code byte are part of the code. -/
theorem length_render_ge (block bytes : List UInt8) :
    block.length + 1 ≤ (render (blocksFrom block bytes)).length := by
  induction bytes generalizing block with
  | nil => simp [blocksFrom]
  | cons byte rest ih =>
      unfold blocksFrom
      split_ifs
      · simp
      · simp
      · simp; omega
      · have := ih (block ++ [byte])
        simp only [List.length_append, List.length_singleton] at this
        omega

/-- The code of `n` bytes after an open block of `r` has at most
    `r + n + 1 + (r + n - 1) / fullBlock` bytes. -/
theorem length_render_le (block bytes : List UInt8) (hne : bytes ≠ [])
    (hlt : block.length < fullBlock) :
    (render (blocksFrom block bytes)).length ≤
      block.length + bytes.length + 1 + (block.length + bytes.length - 1) / fullBlock := by
  induction bytes generalizing block with
  | nil => exact absurd rfl hne
  | cons byte rest ih =>
      unfold blocksFrom
      have hnil : ([] : List UInt8).length < fullBlock := by decide
      by_cases hr : rest = []
      · subst hr
        by_cases hz : byte = 0 <;> simp [hz, blocksFrom]
      · have hpos : 0 < rest.length := List.length_pos_of_ne_nil hr
        split_ifs with hz hf
        · have := ih [] hr hnil
          simp only [render_cons, List.length_append, length_renderBlock, List.length_cons,
            List.length_nil, fullBlock] at this ⊢
          omega
        · have := ih [] hr hnil
          simp only [render_cons, List.length_append, length_renderBlock, List.length_cons,
            List.length_nil, fullBlock] at this hf ⊢
          omega
        · have := ih (block ++ [byte]) hr (by simp; omega)
          simp only [List.length_append, List.length_cons, List.length_nil, fullBlock] at this ⊢
          omega

/-! ## Decoding -/

/-- The bytes of a code of which `left` bytes of the open block are still to come;
    unless that block is `full`, a zero follows it when another one does. There are
    none if the code has a zero byte or ends within a block. -/
def decodeFrom : Nat → Bool → List UInt8 → Option (List UInt8)
  | 0, _, [] => some []
  | _ + 1, _, [] => none
  | 0, full, code :: rest =>
      if code = 0 then none
      else
        let bytes := decodeFrom (code.toNat - 1) (code.toNat - 1 == fullBlock) rest
        if full then bytes else bytes.map (0 :: ·)
  | left + 1, full, byte :: rest =>
      if byte = 0 then none else (decodeFrom left full rest).map (byte :: ·)

/-- The bytes that a code stands for. -/
def decode (code : List UInt8) : Option (List UInt8) :=
  if code = [] then none else decodeFrom 0 true code

/-- The open block is read as it stands. -/
theorem decodeFrom_block (left : Nat) (full : Bool) (code : List UInt8) :
    decodeFrom left full code =
      if left ≤ code.length ∧ (0 : UInt8) ∉ code.take left then
        (decodeFrom 0 full (code.drop left)).map (code.take left ++ ·)
      else none := by
  induction left generalizing code with
  | zero => simp
  | succ left ih =>
      cases code with
      | nil => simp [decodeFrom]
      | cons byte rest =>
          rw [decodeFrom]
          by_cases hz : byte = 0
          · simp [hz]
          · rw [if_neg hz, ih rest]
            by_cases hblock : left ≤ rest.length ∧ (0 : UInt8) ∉ rest.take left
            · rw [if_pos hblock, if_pos (by simpa [Ne.symm hz] using hblock)]
              simp [Function.comp_def]
            · rw [if_neg hblock, if_neg (by simpa [Ne.symm hz] using hblock)]
              rfl

/-- Between two blocks that are not full there is a zero. -/
theorem decodeFrom_boundary (full : Bool) {code : List UInt8} (hne : code ≠ []) :
    decodeFrom 0 full code =
      if full then decodeFrom 0 true code else (decodeFrom 0 true code).map (0 :: ·) := by
  obtain ⟨byte, rest, rfl⟩ := List.exists_cons_of_ne_nil hne
  unfold decodeFrom
  by_cases hz : byte = 0
  · cases full <;> simp [hz]
  · cases full <;> simp [hz]

theorem code_toNat {block : List UInt8} (h : BlockWf block) :
    (UInt8.ofNat (block.length + 1)).toNat = block.length + 1 := by
  have hle := h.length_le
  simp only [fullBlock] at hle
  rw [UInt8.toNat_ofNat']
  omega

/-- A list of blocks is read back from its code. -/
theorem decodeFrom_render (blocks : List (List UInt8)) (h : ∀ b ∈ blocks, BlockWf b) :
    decodeFrom 0 true (render blocks) = some (join blocks) := by
  induction blocks with
  | nil => rfl
  | cons block blocks ih =>
      have hwf := h block List.mem_cons_self
      have hcode := code_toNat hwf
      have hne : UInt8.ofNat (block.length + 1) ≠ 0 := by
        intro hz
        rw [hz] at hcode
        simp at hcode
      have hzero : (0 : UInt8) ∉ block := fun hmem => hwf.nonzero 0 hmem rfl
      have ih := ih fun b hb => h b (List.mem_cons_of_mem _ hb)
      rw [render_cons, renderBlock, List.cons_append, decodeFrom, if_neg hne, if_pos rfl, hcode,
        Nat.add_sub_cancel, decodeFrom_block, if_pos (by simp [hzero]), List.drop_left,
        List.take_left]
      cases blocks with
      | nil => simp [decodeFrom, join]
      | cons next blocks =>
          rw [decodeFrom_boundary _ (by simp [renderBlock]), ih,
            join_cons block (List.cons_ne_nil next blocks)]
          by_cases hfull : block.length = fullBlock <;> simp [hfull]

/-- What can be read begins with a block. -/
theorem exists_block_of_decodeFrom {byte : UInt8} {rest bytes : List UInt8}
    (h : decodeFrom 0 true (byte :: rest) = some bytes) :
    ∃ block tail tailBytes, BlockWf block ∧ renderBlock block ++ tail = byte :: rest ∧
      decodeFrom 0 (block.length == fullBlock) tail = some tailBytes ∧
      bytes = block ++ tailBytes := by
  rw [decodeFrom] at h
  by_cases hz : byte = 0
  · rw [if_pos hz] at h
    cases h
  rw [if_neg hz, if_pos rfl, decodeFrom_block] at h
  have hbyte := byte.toNat_lt
  have hpos : byte.toNat ≠ 0 := fun heq => hz (UInt8.toNat_inj.mp heq)
  split_ifs at h with hblock
  obtain ⟨hle, hzero⟩ := hblock
  obtain ⟨tailBytes, htail, rfl⟩ := Option.map_eq_some_iff.mp h
  have hlen : (rest.take (byte.toNat - 1)).length = byte.toNat - 1 := List.length_take_of_le hle
  have hcode : UInt8.ofNat (byte.toNat - 1 + 1) = byte := by
    apply UInt8.toNat_inj.mp
    rw [UInt8.toNat_ofNat']
    omega
  refine ⟨rest.take (byte.toNat - 1), rest.drop (byte.toNat - 1), tailBytes, ?_, ?_, ?_, rfl⟩
  · exact
      { length_le := by rw [hlen, fullBlock]; omega
        nonzero := fun b hb hz => hzero (hz ▸ hb) }
  · rw [renderBlock, hlen, hcode, List.cons_append, List.take_append_drop]
  · rw [hlen]
    exact htail

/-- Whatever can be read is the code of some blocks. -/
theorem exists_blocks_of_decodeFrom (length : Nat) {code bytes : List UInt8}
    (hlength : code.length ≤ length) (h : decodeFrom 0 true code = some bytes) :
    ∃ blocks, (∀ b ∈ blocks, BlockWf b) ∧ render blocks = code ∧ join blocks = bytes := by
  induction length generalizing code bytes with
  | zero =>
      have hnil : code = [] := List.length_eq_zero_iff.mp (Nat.le_zero.mp hlength)
      subst hnil
      cases h
      exact ⟨[], by simp, rfl, rfl⟩
  | succ length ih =>
      cases code with
      | nil =>
          cases h
          exact ⟨[], by simp, rfl, rfl⟩
      | cons byte rest =>
          obtain ⟨block, tail, tailBytes, hwf, hcode, htail, rfl⟩ := exists_block_of_decodeFrom h
          have hshort : tail.length ≤ length := by
            have := congrArg List.length hcode
            simp only [List.length_append, length_renderBlock, List.length_cons] at this hlength
            omega
          by_cases hnil : tail = []
          · subst hnil
            cases htail
            exact ⟨[block], by simpa using hwf, by simpa using hcode, by simp [join]⟩
          · rw [decodeFrom_boundary _ hnil] at htail
            by_cases hfull : block.length = fullBlock
            · rw [if_pos (by simp [hfull])] at htail
              obtain ⟨blocks, hwfs, hrender, hjoin⟩ := ih hshort htail
              have hblocks : blocks ≠ [] := by
                rintro rfl
                exact hnil hrender.symm
              refine ⟨block :: blocks, List.forall_mem_cons.mpr ⟨hwf, hwfs⟩, ?_, ?_⟩
              · rw [render_cons, hrender, hcode]
              · rw [join_cons block hblocks, if_pos hfull, hjoin]
            · rw [if_neg (by simp [hfull])] at htail
              obtain ⟨bytes, hbytes, rfl⟩ := Option.map_eq_some_iff.mp htail
              obtain ⟨blocks, hwfs, hrender, hjoin⟩ := ih hshort hbytes
              have hblocks : blocks ≠ [] := by
                rintro rfl
                exact hnil hrender.symm
              refine ⟨block :: blocks, List.forall_mem_cons.mpr ⟨hwf, hwfs⟩, ?_, ?_⟩
              · rw [render_cons, hrender, hcode]
              · rw [join_cons block hblocks, if_neg hfull, hjoin]

/-- The decodable strings are the codes of nonempty lists of blocks. -/
theorem decode_eq_some_iff {code bytes : List UInt8} :
    decode code = some bytes ↔
      ∃ blocks, blocks ≠ [] ∧ (∀ b ∈ blocks, BlockWf b) ∧ render blocks = code ∧
        join blocks = bytes := by
  unfold decode
  constructor
  · intro h
    split_ifs at h with hnil
    obtain ⟨blocks, hwfs, hrender, hjoin⟩ := exists_blocks_of_decodeFrom code.length le_rfl h
    refine ⟨blocks, ?_, hwfs, hrender, hjoin⟩
    rintro rfl
    exact hnil hrender.symm
  · rintro ⟨blocks, hne, hwfs, rfl, rfl⟩
    obtain ⟨block, tail, rfl⟩ := List.exists_cons_of_ne_nil hne
    rw [if_neg (by simp [renderBlock]), decodeFrom_render _ hwfs]

end HilRigProtocol.Library.Cobs
