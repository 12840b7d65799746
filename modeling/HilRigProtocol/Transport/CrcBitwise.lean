/-
  The nibble-table CRC against its bit-by-bit definition.

  `crc32Bitwise` is CRC-32/ISO-HDLC from its parameters: reflected polynomial, register
  and result complemented, message bits lowest first. The table has the remainders of
  the sixteen nibbles, and two of its steps are the eight divisions of a byte.
-/
import HilRigProtocol.Library.Crc
import HilRigProtocol.Transport.Crc

namespace HilRigProtocol.Transport

open Library

/-- The polynomial of CRC-32/ISO-HDLC, reflected. -/
def crc32Polynomial : BitVec 32 := 0xEDB88320#32

/-- The bits of a message in the order in which they are sent. -/
def messageBits (data : List UInt8) : List Bool :=
  data.flatMap fun byte => Crc.bits 8 byte.toBitVec

/-- CRC-32/ISO-HDLC, bit by bit. -/
def crc32Bitwise (data : List UInt8) : UInt32 :=
  ⟨Crc.register crc32Polynomial 0xFFFFFFFF#32 (messageBits data) ^^^ 0xFFFFFFFF#32⟩

/-- The check value of CRC-32/ISO-HDLC. -/
example : crc32Bitwise [0x31, 0x32, 0x33, 0x34, 0x35, 0x36, 0x37, 0x38, 0x39] = 0xCBF43926 := by
  decide +kernel

/-- The table has the remainder of every nibble. -/
theorem nibbleTable_eq : ∀ i < 16, (crc32NibbleTable.getD i 0).toBitVec
    = (Crc.divide crc32Polynomial)^[4] (BitVec.ofNat 32 i) := by
  decide +kernel

theorem and_nibble (crc : UInt32) : (crc &&& 0x0F).toNat = crc.toNat % 16 := by
  rw [UInt32.toNat_and]
  exact Nat.and_two_pow_sub_one_eq_mod crc.toNat 4

theorem low_nibble (crc : UInt32) :
    (Crc.low 4 crc.toBitVec : BitVec 32) = BitVec.ofNat 32 (crc &&& 0x0F).toNat := by
  apply BitVec.eq_of_toNat_eq
  rw [and_nibble, Crc.low, BitVec.toNat_setWidth, BitVec.toNat_setWidth, BitVec.toNat_ofNat,
    UInt32.toNat_toBitVec]

/-- A step of the table is four divisions. -/
theorem crc32NibbleStep_eq (crc : UInt32) : (crc32NibbleStep crc).toBitVec
    = (Crc.divide crc32Polynomial)^[4] crc.toBitVec := by
  have hnibble : (crc &&& 0x0F).toNat < 16 := by
    rw [and_nibble]
    exact Nat.mod_lt _ (by decide)
  rw [Crc.divides_eq, low_nibble, ← nibbleTable_eq _ hnibble]
  rfl

/-- A byte of the loop is the eight message bits of the byte. -/
theorem crc32ByteStep_eq (crc : UInt32) (byte : UInt8) : (crc32ByteStep crc byte).toBitVec
    = Crc.register crc32Polynomial crc.toBitVec (Crc.bits 8 byte.toBitVec) := by
  rw [Crc.register_bits crc32Polynomial (by decide), crc32ByteStep, crc32NibbleStep_eq,
    crc32NibbleStep_eq, ← Function.iterate_add_apply, UInt32.toBitVec_xor]
  rfl

/-- For every running value, the loop is the bit-by-bit register. -/
theorem crc32Update_eq (crc : UInt32) (data : List UInt8) : (crc32Update crc data).toBitVec
    = Crc.register crc32Polynomial crc.toBitVec (messageBits data) := by
  induction data generalizing crc with
  | nil => rfl
  | cons byte data ih =>
      rw [messageBits, List.flatMap_cons, Crc.register_append, ← crc32ByteStep_eq]
      exact ih (crc32ByteStep crc byte)

/-- The table-driven CRC of every byte string is its bit-by-bit CRC-32/ISO-HDLC, from every
    running value; and updating with one string and then another is updating once with
    both. -/
theorem crc32_bitwise :
    (∀ data, crc32Compute data = crc32Bitwise data)
    ∧ (∀ crc data, crc32Update crc data
        = ⟨Crc.register crc32Polynomial crc.toBitVec (messageBits data)⟩)
    ∧ ∀ crc a b, crc32Update (crc32Update crc a) b = crc32Update crc (a ++ b) := by
  refine ⟨fun data => ?_, fun crc data => ?_, fun crc a b => ?_⟩
  · apply UInt32.toBitVec_inj.mp
    rw [crc32Compute, crc32Finish, UInt32.toBitVec_xor, crc32Update_eq]
    rfl
  · exact UInt32.toBitVec_inj.mp (crc32Update_eq crc data)
  · exact (List.foldl_append).symm

end HilRigProtocol.Transport
