/-
  Fixed-width wire fields and checked sizes (`application_internal.h`, the
  `Encode_*_Le` and `Decode_*_Le` helpers).

  A writer returns the bytes it stores, in order; a reader takes them off the front
  of what is left of the payload. A C function that reads at fixed offsets is the
  reader of its fields in offset order: the offsets of every body leave no gap.
-/
import HilRigProtocol.Application.Types
import HilRigProtocol.Library.LittleEndian
import HilRigProtocol.Library.Wire

namespace HilRigProtocol.Application

open Library Library.Reader

/-! ## Writers -/

/-- `HIL_APPLICATION_Encode_U16_Le`, `HIL_APPLICATION_Write_U16_Le` -/
def encodeU16Le (value : UInt16) : List UInt8 :=
  [value.toUInt8, (value >>> 8).toUInt8]

/-- `HIL_APPLICATION_Encode_U32_Le`, `HIL_APPLICATION_Write_U32_Le` -/
def encodeU32Le (value : UInt32) : List UInt8 :=
  [value.toUInt8, (value >>> 8).toUInt8, (value >>> 16).toUInt8, (value >>> 24).toUInt8]

/-- `HIL_APPLICATION_Encode_U64_Le`; `HIL_APPLICATION_Write_U64_Le` stores the same
    bytes as two words. -/
def encodeU64Le (value : UInt64) : List UInt8 :=
  [value.toUInt8, (value >>> 8).toUInt8, (value >>> 16).toUInt8, (value >>> 24).toUInt8,
   (value >>> 32).toUInt8, (value >>> 40).toUInt8, (value >>> 48).toUInt8,
   (value >>> 56).toUInt8]

/-- `HIL_APPLICATION_Enum_To_U8` -/
def enumToU8 (value : Int) : Option UInt8 :=
  if value < 0 ∨ value > 255 then none else some (UInt8.ofNat value.toNat)

/-! ## Readers -/

/-- `HIL_APPLICATION_Read_U16_Le`, `HIL_APPLICATION_Decode_U16_Le` -/
def readU16Le : Reader UInt16 := do
  let b0 ← byte
  let b1 ← byte
  pure (b0.toUInt16 ||| b1.toUInt16 <<< 8)

/-- `HIL_APPLICATION_Read_U32_Le`, `HIL_APPLICATION_Decode_U32_Le` -/
def readU32Le : Reader UInt32 := do
  let b0 ← byte
  let b1 ← byte
  let b2 ← byte
  let b3 ← byte
  pure (b0.toUInt32 ||| b1.toUInt32 <<< 8 ||| b2.toUInt32 <<< 16 ||| b3.toUInt32 <<< 24)

/-- `HIL_APPLICATION_Read_U64_Le`: two words, the low one first. -/
def readU64Le : Reader UInt64 := do
  let low ← readU32Le
  let high ← readU32Le
  pure (low.toUInt64 ||| high.toUInt64 <<< 32)

/-- A byte cast to an enumeration. -/
def readEnum : Reader Int := do
  let b ← byte
  pure (b.toNat : Int)

/-- A reader applied to a payload: a read past the end is out of bounds. -/
def read {α : Type} (r : Reader α) (payload : List UInt8) : Result (α × List UInt8) :=
  match r.run payload with
  | some x => .ok x
  | none => .error .outOfBounds

/-- `payload[offset]` -/
def byteAt (payload : List UInt8) (offset : Nat) : Result UInt8 :=
  match payload[offset]? with
  | some b => .ok b
  | none => .error .outOfBounds

/-! ## Sizes -/

/-- `HIL_APPLICATION_HEADER_SIZE_BYTES` -/
def headerSizeBytes : Nat := 23

/-- `HIL_APPLICATION_Align4_Padding` -/
def align4Padding (size : Nat) : Nat := (4 - size % 4) % 4

/-- A size difference that the source does not check: if it wrapped, the access that it
    bounds could be anywhere. -/
def subSize (lhs rhs : Nat) : Result Nat :=
  if rhs ≤ lhs then .ok (lhs - rhs) else .error .outOfBounds

/-- A size sum that the source does not check, where 16 bits have to do: every `size_t`
    has as many. -/
def addSize16 (lhs rhs : Nat) : Result Nat :=
  if lhs + rhs ≤ 0xFFFF then .ok (lhs + rhs) else .error .outOfBounds

section
variable [Target]

/-- `HIL_APPLICATION_Checked_Add_Size` -/
def checkedAddSize (lhs rhs : Nat) : Option Nat :=
  if lhs > Target.sizeMax - rhs then none else some (lhs + rhs)

/-- `HIL_APPLICATION_Checked_Mul_Size` -/
def checkedMulSize (lhs rhs : Nat) : Option Nat :=
  if rhs ≠ 0 ∧ lhs > Target.sizeMax / rhs then none else some (lhs * rhs)

/-- A size sum that the source does not check. -/
def addSize (lhs rhs : Nat) : Result Nat :=
  if lhs + rhs ≤ Target.sizeMax then .ok (lhs + rhs) else .error .outOfBounds

/-- A size product that the source does not check. -/
def mulSize (lhs rhs : Nat) : Result Nat :=
  if lhs * rhs ≤ Target.sizeMax then .ok (lhs * rhs) else .error .outOfBounds

/-- `HIL_APPLICATION_Align_Up_Size` -/
def alignUpSize (value alignment : Nat) : Option Nat :=
  if alignment = 0 then none
  else if value % alignment = 0 then some value
  else checkedAddSize value (alignment - value % alignment)

/-- A size computation that does not fit `size_t` ends the call with `status`. -/
def checked {α : Type} (status : Status) : Option α → Result α
  | some x => .ok x
  | none => fail status

/-! ## Rules of the checked sizes -/

omit [Target] in
theorem checked_eq_ok {α : Type} {status : Status} {x : Option α} {a : α} :
    checked status x = .ok a ↔ x = some a := by
  cases x with
  | none => simp [checked]
  | some b => simp [checked]

omit [Target] in
theorem subSize_of_le {lhs rhs : Nat} (h : rhs ≤ lhs) : subSize lhs rhs = .ok (lhs - rhs) :=
  if_pos h

omit [Target] in
theorem addSize16_of_le {lhs rhs : Nat} (h : lhs + rhs ≤ 0xFFFF) :
    addSize16 lhs rhs = .ok (lhs + rhs) :=
  if_pos h

theorem addSize_of_le {lhs rhs : Nat} (h : lhs + rhs ≤ Target.sizeMax) :
    addSize lhs rhs = .ok (lhs + rhs) :=
  if_pos h

theorem addSize_eq {lhs rhs sum : Nat} (h : addSize lhs rhs = .ok sum) : sum = lhs + rhs := by
  unfold addSize at h
  split at h
  case isTrue => exact (Except.ok.inj h).symm
  case isFalse => exact absurd h (by simp)

theorem mulSize_of_le {lhs rhs : Nat} (h : lhs * rhs ≤ Target.sizeMax) :
    mulSize lhs rhs = .ok (lhs * rhs) :=
  if_pos h

theorem checkedAddSize_eq_some {lhs rhs sum : Nat} :
    checkedAddSize lhs rhs = some sum ↔ sum = lhs + rhs ∧ lhs ≤ Target.sizeMax - rhs := by
  unfold checkedAddSize
  split
  case isTrue h =>
    simp only [reduceCtorEq, false_iff]
    omega
  case isFalse h =>
    rw [Option.some.injEq]
    omega

theorem checkedAddSize_of_le {lhs rhs : Nat} (h : lhs + rhs ≤ Target.sizeMax) :
    checkedAddSize lhs rhs = some (lhs + rhs) :=
  checkedAddSize_eq_some.mpr ⟨rfl, by omega⟩

end

/-! ## What the readers accept -/

theorem encodeU16Le_eq (value : UInt16) : encodeU16Le value = toLe 2 value.toNat := by
  simp only [encodeU16Le, toLe, List.cons.injEq, and_true]
  constructor <;> apply UInt8.toNat_inj.mp
  · simp
  · simp [Nat.shiftRight_eq_div_pow]

theorem encodeU32Le_eq (value : UInt32) : encodeU32Le value = toLe 4 value.toNat := by
  simp only [encodeU32Le, toLe, List.cons.injEq, and_true]
  refine ⟨?_, ?_, ?_, ?_⟩ <;> apply UInt8.toNat_inj.mp
  · simp
  · simp [Nat.shiftRight_eq_div_pow]
  · simp [Nat.shiftRight_eq_div_pow, Nat.div_div_eq_div_mul]
  · simp [Nat.shiftRight_eq_div_pow, Nat.div_div_eq_div_mul]

theorem encodeU64Le_eq (value : UInt64) : encodeU64Le value = toLe 8 value.toNat := by
  simp only [encodeU64Le, toLe, List.cons.injEq, and_true]
  refine ⟨?_, ?_, ?_, ?_, ?_, ?_, ?_, ?_⟩ <;> apply UInt8.toNat_inj.mp
  · simp
  all_goals simp [Nat.shiftRight_eq_div_pow, Nat.div_div_eq_div_mul]

@[simp] theorem length_encodeU16Le (value : UInt16) : (encodeU16Le value).length = 2 := rfl

@[simp] theorem length_encodeU32Le (value : UInt32) : (encodeU32Le value).length = 4 := rfl

@[simp] theorem length_encodeU64Le (value : UInt64) : (encodeU64Le value).length = 8 := rfl

theorem toNat_or_u16 (b0 b1 : UInt8) :
    (b0.toUInt16 ||| b1.toUInt16 <<< 8).toNat = ofLe [b0, b1] := by
  have h0 := b0.toNat_lt
  have h1 := b1.toNat_lt
  simp only [ofLe, UInt16.toNat_or, UInt16.toNat_shiftLeft, UInt8.toNat_toUInt16]
  rw [show (UInt16.toNat 8 % 16) = 8 from rfl,
    Nat.mod_eq_of_lt (by rw [Nat.shiftLeft_eq]; omega), or_shiftLeft_eq_add h0]
  omega

theorem toNat_or_u32 (b0 b1 b2 b3 : UInt8) :
    (b0.toUInt32 ||| b1.toUInt32 <<< 8 ||| b2.toUInt32 <<< 16 ||| b3.toUInt32 <<< 24).toNat
      = ofLe [b0, b1, b2, b3] := by
  have h0 := b0.toNat_lt
  have h1 := b1.toNat_lt
  have h2 := b2.toNat_lt
  have h3 := b3.toNat_lt
  simp only [ofLe, UInt32.toNat_or, UInt32.toNat_shiftLeft, UInt8.toNat_toUInt32]
  rw [show (UInt32.toNat 8 % 32) = 8 from rfl, show (UInt32.toNat 16 % 32) = 16 from rfl,
    show (UInt32.toNat 24 % 32) = 24 from rfl,
    Nat.mod_eq_of_lt (show b1.toNat <<< 8 < 2 ^ 32 by rw [Nat.shiftLeft_eq]; omega),
    Nat.mod_eq_of_lt (show b2.toNat <<< 16 < 2 ^ 32 by rw [Nat.shiftLeft_eq]; omega),
    Nat.mod_eq_of_lt (show b3.toNat <<< 24 < 2 ^ 32 by rw [Nat.shiftLeft_eq]; omega),
    or_shiftLeft_eq_add h0, or_shiftLeft_eq_add (v := b0.toNat + b1.toNat * 2 ^ 8) (by omega),
    or_shiftLeft_eq_add (v := b0.toNat + b1.toNat * 2 ^ 8 + b2.toNat * 2 ^ 16) (by omega)]
  omega

/-- Two bytes are the code of the number they make, and of no other. -/
theorem encodeU16Le_iff (b0 b1 : UInt8) (value : UInt16) :
    [b0, b1] = encodeU16Le value ↔ value = b0.toUInt16 ||| b1.toUInt16 <<< 8 := by
  rw [encodeU16Le_eq, ← UInt16.toNat_inj, toNat_or_u16]
  constructor
  · intro h
    rw [h, ofLe_toLe 2 _ value.toNat_lt]
  · intro h
    rw [h]
    exact (toLe_ofLe [b0, b1]).symm

theorem encodeU32Le_iff (b0 b1 b2 b3 : UInt8) (value : UInt32) :
    [b0, b1, b2, b3] = encodeU32Le value ↔
      value = b0.toUInt32 ||| b1.toUInt32 <<< 8 ||| b2.toUInt32 <<< 16 ||| b3.toUInt32 <<< 24 := by
  rw [encodeU32Le_eq, ← UInt32.toNat_inj, toNat_or_u32]
  constructor
  · intro h
    rw [h, ofLe_toLe 4 _ value.toNat_lt]
  · intro h
    rw [h]
    exact (toLe_ofLe [b0, b1, b2, b3]).symm

/-- What a reader takes off a payload. -/
theorem read_eq_ok {α : Type} {r : Reader α} {w : α → List UInt8 → Prop} (h : Reads r w)
    {payload rest : List UInt8} {value : α} :
    read r payload = .ok (value, rest) ↔ ∃ form, w value form ∧ payload = form ++ rest := by
  rw [← h payload value rest]
  unfold read
  cases r.run payload with
  | none => simp
  | some x => simp

/-- A reader that has a wire form in front of it. -/
theorem read_append {α : Type} {r : Reader α} {w : α → List UInt8 → Prop} (h : Reads r w)
    {form rest : List UInt8} {value : α} (hform : w value form) :
    read r (form ++ rest) = .ok (value, rest) :=
  (read_eq_ok h).mpr ⟨form, hform, rfl⟩

theorem reads_bytes (n : Nat) : Reads (vector byte n) (fun bytes form => form = bytes.toList) := by
  refine (reads_byte.vector n).congr fun bytes form => ?_
  rw [each_eq, show bytes.toList.flatMap (fun b => [b]) = bytes.toList by simp]

theorem reads_u16 : Reads readU16Le (fun value form => form = encodeU16Le value) := by
  refine (reads_byte.bind fun b0 => reads_byte.bind fun b1 => reads_pure _).congr ?_
  intro value form
  constructor
  · rintro ⟨b0, _, _, rfl, ⟨b1, _, _, rfl, ⟨hvalue, rfl⟩, rfl⟩, rfl⟩
    exact (encodeU16Le_iff b0 b1 value).mpr hvalue
  · rintro rfl
    exact ⟨_, _, _, rfl, ⟨_, _, _, rfl, ⟨(encodeU16Le_iff _ _ value).mp rfl, rfl⟩, rfl⟩, rfl⟩

theorem reads_u32 : Reads readU32Le (fun value form => form = encodeU32Le value) := by
  refine (reads_byte.bind fun b0 => reads_byte.bind fun b1 => reads_byte.bind fun b2 =>
    reads_byte.bind fun b3 => reads_pure _).congr ?_
  intro value form
  constructor
  · rintro ⟨b0, _, _, rfl, ⟨b1, _, _, rfl, ⟨b2, _, _, rfl, ⟨b3, _, _, rfl, ⟨hvalue, rfl⟩, rfl⟩,
      rfl⟩, rfl⟩, rfl⟩
    exact (encodeU32Le_iff b0 b1 b2 b3 value).mpr hvalue
  · rintro rfl
    exact ⟨_, _, _, rfl, ⟨_, _, _, rfl, ⟨_, _, _, rfl, ⟨_, _, _, rfl,
      ⟨(encodeU32Le_iff _ _ _ _ value).mp rfl, rfl⟩, rfl⟩, rfl⟩, rfl⟩, rfl⟩

theorem encodeU64Le_halves (low high : UInt32) (value : UInt64) :
    encodeU32Le low ++ encodeU32Le high = encodeU64Le value ↔
      value = low.toUInt64 ||| high.toUInt64 <<< 32 := by
  have hl := low.toNat_lt
  have hh := high.toNat_lt
  have hor : (low.toUInt64 ||| high.toUInt64 <<< 32).toNat = low.toNat + high.toNat * 2 ^ 32 := by
    simp only [UInt64.toNat_or, UInt64.toNat_shiftLeft, UInt32.toNat_toUInt64]
    rw [show (UInt64.toNat 32 % 64) = 32 from rfl,
      Nat.mod_eq_of_lt (by rw [Nat.shiftLeft_eq]; omega), or_shiftLeft_eq_add hl]
  rw [encodeU32Le_eq, encodeU32Le_eq, ← toLe_add 4 4 hl, encodeU64Le_eq, ← UInt64.toNat_inj, hor,
    Nat.mul_comm]
  constructor
  · intro h
    exact (@toLe_inj 8 _ _ (by omega) value.toNat_lt h).symm
  · intro h
    exact congrArg (toLe 8) h.symm

theorem exists_halves (value : UInt64) :
    ∃ low high : UInt32, value = low.toUInt64 ||| high.toUInt64 <<< 32 := by
  refine ⟨value.toUInt32, (value >>> 32).toUInt32,
    (encodeU64Le_halves value.toUInt32 (value >>> 32).toUInt32 value).mp ?_⟩
  have hv := value.toNat_lt
  rw [encodeU32Le_eq, encodeU32Le_eq, encodeU64Le_eq, ← toLe_add 4 4 (UInt32.toNat_lt _)]
  congr 1
  rw [UInt64.toNat_toUInt32, UInt64.toNat_toUInt32, UInt64.toNat_shiftRight,
    show (UInt64.toNat 32 % 64) = 32 from rfl, Nat.shiftRight_eq_div_pow]
  omega

theorem reads_u64 : Reads readU64Le (fun value form => form = encodeU64Le value) := by
  refine (reads_u32.bind fun low => reads_u32.bind fun high => reads_pure _).congr ?_
  intro value form
  constructor
  · rintro ⟨low, _, _, rfl, ⟨high, _, _, rfl, ⟨hvalue, rfl⟩, rfl⟩, rfl⟩
    rw [List.append_nil]
    exact (encodeU64Le_halves low high value).mpr hvalue
  · rintro rfl
    obtain ⟨low, high, hvalue⟩ := exists_halves value
    exact ⟨low, _, _, rfl, ⟨high, _, _, rfl, ⟨hvalue, rfl⟩, rfl⟩, by
      rw [List.append_nil, (encodeU64Le_halves low high value).mpr hvalue]⟩

theorem enumToU8_eq_some {value : Int} {b : UInt8} :
    enumToU8 value = some b ↔ value = (b.toNat : Int) := by
  have hb := b.toNat_lt
  unfold enumToU8
  split
  case isTrue h =>
    simp only [reduceCtorEq, false_iff]
    omega
  case isFalse h =>
    rw [Option.some.injEq]
    constructor
    · rintro rfl
      rw [UInt8.toNat_ofNat']
      omega
    · rintro rfl
      apply UInt8.toNat_inj.mp
      rw [UInt8.toNat_ofNat']
      omega

theorem reads_enum :
    Reads readEnum (fun value form => ∃ b, enumToU8 value = some b ∧ form = [b]) := by
  refine (reads_byte.bind fun b => reads_pure _).congr ?_
  intro value form
  simp only [enumToU8_eq_some]
  constructor
  · rintro ⟨b, _, _, rfl, ⟨rfl, rfl⟩, rfl⟩
    exact ⟨b, rfl, rfl⟩
  · rintro ⟨b, rfl, rfl⟩
    exact ⟨b, _, _, rfl, ⟨rfl, rfl⟩, rfl⟩

end HilRigProtocol.Application
