/-
  Little-endian byte strings and natural numbers.

  `toLe n v` is the `n` low bytes of `v`, low byte first; `ofLe` is the value of a
  byte string. The two are inverse on values below `256 ^ n` and on strings of
  length `n`.
-/
import Mathlib.Data.List.Basic
import Mathlib.Data.Nat.Notation
import Mathlib.Tactic.Ring

namespace HilRigProtocol.Library

/-- The `n` low bytes of `v`, low byte first. -/
def toLe : Nat → Nat → List UInt8
  | 0, _ => []
  | n + 1, v => UInt8.ofNat v :: toLe n (v / 256)

/-- The value of a little-endian byte string. -/
def ofLe : List UInt8 → Nat
  | [] => 0
  | b :: bs => b.toNat + 256 * ofLe bs

@[simp] theorem length_toLe (n v : Nat) : (toLe n v).length = n := by
  induction n generalizing v with
  | zero => rfl
  | succ n ih => simp [toLe, ih]

theorem ofLe_toLe (n v : Nat) (h : v < 256 ^ n) : ofLe (toLe n v) = v := by
  induction n generalizing v with
  | zero =>
      have : v = 0 := by simpa using h
      simp [toLe, ofLe, this]
  | succ n ih =>
      have hd : v / 256 < 256 ^ n := by
        rw [Nat.div_lt_iff_lt_mul (by omega), ← Nat.pow_succ]
        exact h
      rw [toLe, ofLe, ih _ hd, UInt8.toNat_ofNat']
      omega

theorem toLe_ofLe (bs : List UInt8) : toLe bs.length (ofLe bs) = bs := by
  induction bs with
  | nil => rfl
  | cons b bs ih =>
      have hb := b.toNat_lt
      have hlow : UInt8.ofNat (b.toNat + 256 * ofLe bs) = b := by
        apply UInt8.toNat_inj.mp
        rw [UInt8.toNat_ofNat']
        omega
      have hhigh : (b.toNat + 256 * ofLe bs) / 256 = ofLe bs := by omega
      simp only [List.length_cons, toLe, ofLe]
      rw [hlow, hhigh, ih]

theorem toLe_inj {n v w : Nat} (hv : v < 256 ^ n) (hw : w < 256 ^ n)
    (h : toLe n v = toLe n w) : v = w := by
  rw [← ofLe_toLe n v hv, ← ofLe_toLe n w hw, h]

/-- A string of two parts carries the low part in front of the high one. -/
theorem toLe_add (m n : Nat) {low high : Nat} (h : low < 256 ^ m) :
    toLe (m + n) (low + 256 ^ m * high) = toLe m low ++ toLe n high := by
  induction m generalizing low with
  | zero =>
      have : low = 0 := by simpa using h
      simp [toLe, this]
  | succ m ih =>
      have hd : low / 256 < 256 ^ m := by
        rw [Nat.div_lt_iff_lt_mul (by omega), ← Nat.pow_succ]
        exact h
      have hsplit : low + 256 ^ (m + 1) * high = low + 256 * (256 ^ m * high) := by ring
      have hhigh : (low + 256 * (256 ^ m * high)) / 256 = low / 256 + 256 ^ m * high := by omega
      have hlow : UInt8.ofNat (low + 256 * (256 ^ m * high)) = UInt8.ofNat low := by
        apply UInt8.toNat_inj.mp
        rw [UInt8.toNat_ofNat', UInt8.toNat_ofNat']
        omega
      rw [Nat.succ_add, toLe, toLe, hsplit, hhigh, hlow, ih hd, List.cons_append]

/-! ## Bytes put together with shifts -/

theorem or_shiftLeft_eq_add {v i : Nat} (h : v < 2 ^ i) (b : Nat) :
    v ||| b <<< i = v + b * 2 ^ i := by
  rw [Nat.or_comm, ← Nat.shiftLeft_add_eq_or_of_lt h, Nat.shiftLeft_eq, Nat.add_comm]

theorem and_lowByte (v : Nat) : v &&& 255 = v % 256 := Nat.and_two_pow_sub_one_eq_mod v 8

end HilRigProtocol.Library
