/-
  CRC-32 with a table of sixteen words (`transport_crc.c`).
-/
import Mathlib.Data.List.Basic
import Mathlib.Data.Nat.Notation

namespace HilRigProtocol.Transport

/-- `HIL_TRANSPORT_CRC32_NIBBLE_TABLE` -/
def crc32NibbleTable : List UInt32 :=
  [0x00000000, 0x1DB71064, 0x3B6E20C8, 0x26D930AC,
   0x76DC4190, 0x6B6B51F4, 0x4DB26158, 0x5005713C,
   0xEDB88320, 0xF00F9344, 0xD6D6A3E8, 0xCB61B38C,
   0x9B64C2B0, 0x86D3D2D4, 0xA00AE278, 0xBDBDF21C]

/-- `crc = ( crc >> 4u ) ^ TABLE[crc & 0x0F]` -/
def crc32NibbleStep (crc : UInt32) : UInt32 :=
  (crc >>> 4) ^^^ crc32NibbleTable.getD (crc &&& 0x0F).toNat 0

/-- One pass of the loop of `HIL_TRANSPORT_CRC32_Update`. -/
def crc32ByteStep (crc : UInt32) (byte : UInt8) : UInt32 :=
  crc32NibbleStep (crc32NibbleStep (crc ^^^ byte.toUInt32))

/-- `HIL_TRANSPORT_CRC32_Init` -/
def crc32Init : UInt32 := 0xFFFFFFFF

/-- `HIL_TRANSPORT_CRC32_Update` -/
def crc32Update (crc : UInt32) (data : List UInt8) : UInt32 :=
  data.foldl crc32ByteStep crc

/-- `HIL_TRANSPORT_CRC32_Finish` -/
def crc32Finish (crc : UInt32) : UInt32 := crc ^^^ 0xFFFFFFFF

/-- `HIL_TRANSPORT_CRC32_Compute` -/
def crc32Compute (data : List UInt8) : UInt32 :=
  crc32Finish (crc32Update crc32Init data)

/-- The check value of CRC-32/ISO-HDLC: the CRC of the ASCII digits `123456789`. -/
example : crc32Compute [0x31, 0x32, 0x33, 0x34, 0x35, 0x36, 0x37, 0x38, 0x39] = 0xCBF43926 := by
  decide

end HilRigProtocol.Transport
