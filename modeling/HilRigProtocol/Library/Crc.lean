/-
  Reflected cyclic redundancy checks, bit by bit.

  The register holds the remainder with its lowest-degree coefficient on top. One message
  bit is added at the bottom and the remainder is divided by one place. Division is linear
  in exclusive or, so any number of places can be taken at once: the low places from a
  table, the rest by a shift.
-/
import Mathlib.Logic.Function.Iterate
import Mathlib.Tactic.Common

namespace HilRigProtocol.Library.Crc

variable {w : Nat} (poly : BitVec w)

/-- The register divided by one place. -/
def divide (r : BitVec w) : BitVec w :=
  if r.getLsbD 0 then (r >>> 1) ^^^ poly else r >>> 1

/-- A message bit as a register. -/
def lowest (bit : Bool) : BitVec w := (BitVec.ofBool bit).setWidth w

/-- The register after a message, from `r`. -/
def register (r : BitVec w) (message : List Bool) : BitVec w :=
  message.foldl (fun r bit => divide poly (r ^^^ lowest bit)) r

theorem register_append (r : BitVec w) (first second : List Bool) :
    register poly r (first ++ second) = register poly (register poly r first) second :=
  List.foldl_append

/-! ## Division is linear -/

theorem divide_xor (a b : BitVec w) : divide poly (a ^^^ b) = divide poly a ^^^ divide poly b := by
  have hcancel : ∀ x y : BitVec w, x ^^^ y = x ^^^ poly ^^^ (y ^^^ poly) := by
    intro x y
    rw [BitVec.xor_comm y poly, BitVec.xor_assoc, ← BitVec.xor_assoc poly poly y,
      BitVec.xor_self, BitVec.zero_xor]
  unfold divide
  rw [BitVec.getLsbD_xor, BitVec.ushiftRight_xor_distrib]
  cases a.getLsbD 0 <;> cases b.getLsbD 0
  · rfl
  · exact BitVec.xor_assoc _ _ _
  · simp only [Bool.xor_false, if_true, Bool.false_eq_true, if_false]
    rw [BitVec.xor_assoc, BitVec.xor_comm _ poly, ← BitVec.xor_assoc]
  · exact hcancel _ _

theorem divides_xor (n : Nat) (a b : BitVec w) :
    (divide poly)^[n] (a ^^^ b) = (divide poly)^[n] a ^^^ (divide poly)^[n] b := by
  induction n with
  | zero => rfl
  | succ n ih => rw [Function.iterate_succ_apply', Function.iterate_succ_apply',
      Function.iterate_succ_apply', ih, divide_xor]

/-- A register whose low `n` places are clear only moves down through as many divisions. -/
theorem divides_clear {n : Nat} {r : BitVec w} (h : ∀ i < n, r.getLsbD i = false) :
    (divide poly)^[n] r = r >>> n := by
  induction n with
  | zero => rfl
  | succ n ih =>
      have hbit : (r >>> n).getLsbD 0 = false := by
        rw [BitVec.getLsbD_ushiftRight]
        exact h n (Nat.lt_succ_self n)
      rw [Function.iterate_succ_apply', ih fun i hi => h i (Nat.lt_succ_of_lt hi), divide, hbit,
        if_neg Bool.false_ne_true, BitVec.shiftRight_add]

/-! ## Several places at once -/

/-- The low `n` places of a word, as a register. -/
def low {v : Nat} (n : Nat) (x : BitVec v) : BitVec w := (x.setWidth n).setWidth w

theorem getLsbD_low {v : Nat} {n : Nat} {x : BitVec v} {i : Nat} (hi : i < w) :
    (low n x : BitVec w).getLsbD i = (decide (i < n) && x.getLsbD i) := by
  rw [low, BitVec.getLsbD_setWidth, BitVec.getLsbD_setWidth, decide_eq_true hi, Bool.true_and]

theorem getLsbD_lowest {bit : Bool} {i : Nat} (hi : i < w) :
    (lowest bit : BitVec w).getLsbD i = (decide (i = 0) && bit) := by
  rw [lowest, BitVec.getLsbD_setWidth, BitVec.getLsbD_ofBool, decide_eq_true hi, Bool.true_and]

/-- `n` divisions: those of the low `n` places, and the rest moved down. -/
theorem divides_eq (n : Nat) (r : BitVec w) :
    (divide poly)^[n] r = (r >>> n) ^^^ (divide poly)^[n] (low n r) := by
  have hsplit : r = (r ^^^ low n r) ^^^ low n r := by
    rw [BitVec.xor_assoc, BitVec.xor_self, BitVec.xor_zero]
  have hlow : ∀ i < n, (low n r : BitVec w).getLsbD i = r.getLsbD i := by
    intro i hi
    by_cases hw : i < w
    · rw [getLsbD_low hw, decide_eq_true hi, Bool.true_and]
    · rw [BitVec.getLsbD_of_ge _ _ (Nat.not_lt.mp hw),
        BitVec.getLsbD_of_ge _ _ (Nat.not_lt.mp hw)]
  have hclear : ∀ i < n, (r ^^^ low n r).getLsbD i = false := by
    intro i hi
    rw [BitVec.getLsbD_xor, hlow i hi, Bool.xor_self]
  have hrest : (r ^^^ low n r) >>> n = r >>> n := by
    apply BitVec.eq_of_getLsbD_eq
    intro i _
    rw [BitVec.getLsbD_ushiftRight, BitVec.getLsbD_ushiftRight, BitVec.getLsbD_xor]
    by_cases hw : n + i < w
    · rw [getLsbD_low hw, decide_eq_false (by omega), Bool.false_and, Bool.xor_false]
    · rw [BitVec.getLsbD_of_ge (low n r) _ (Nat.not_lt.mp hw), Bool.xor_false]
  conv_lhs => rw [hsplit]
  rw [divides_xor, divides_clear poly hclear, hrest]

/-- The low `n` bits of a word, lowest first. -/
def bits {v : Nat} (n : Nat) (x : BitVec v) : List Bool := (List.range n).map x.getLsbD

theorem low_succ {v : Nat} (n : Nat) (x : BitVec v) :
    (low (n + 1) x : BitVec w) = low n x ^^^ (lowest (x.getLsbD n) <<< n) := by
  apply BitVec.eq_of_getLsbD_eq
  intro i hi
  rw [BitVec.getLsbD_xor, getLsbD_low hi, getLsbD_low hi, BitVec.getLsbD_shiftLeft,
    getLsbD_lowest (by omega), decide_eq_true hi, Bool.true_and]
  rcases Nat.lt_trichotomy i n with hlt | rfl | hgt
  · rw [decide_eq_true hlt, decide_eq_true (by omega)]
    simp
  · rw [decide_eq_true (Nat.lt_succ_self i), decide_eq_false (Nat.lt_irrefl i), Nat.sub_self]
    simp
  · rw [decide_eq_false (by omega), decide_eq_false (by omega), decide_eq_false (by omega)]
    simp

/-- A bit that stands at place `n` is at the bottom after `n` divisions. -/
theorem divides_lowest {n : Nat} (hn : n < w) (bit : Bool) :
    (divide poly)^[n] (lowest bit <<< n) = lowest bit := by
  have hclear : ∀ i < n, (lowest bit <<< n : BitVec w).getLsbD i = false := by
    intro i hi
    rw [BitVec.getLsbD_shiftLeft, decide_eq_true hi]
    simp
  rw [divides_clear poly hclear]
  apply BitVec.eq_of_getLsbD_eq
  intro i hi
  rw [BitVec.getLsbD_ushiftRight, BitVec.getLsbD_shiftLeft, Nat.add_sub_cancel_left,
    getLsbD_lowest hi]
  by_cases hzero : i = 0
  · rw [hzero, Nat.add_zero, decide_eq_true hn]
    simp
  · rw [decide_eq_false hzero]
    simp

/-- A word fed bit by bit is added to the register as a whole, and then divided. -/
theorem register_bits {v : Nat} {n : Nat} (hn : n ≤ w) (r : BitVec w) (x : BitVec v) :
    register poly r (bits n x) = (divide poly)^[n] (r ^^^ low n x) := by
  induction n with
  | zero =>
      have hzero : (low 0 x : BitVec w) = 0#w := by
        rw [low, BitVec.eq_nil (x.setWidth 0)]
        rfl
      rw [hzero]
      exact (BitVec.xor_zero).symm
  | succ n ih =>
      rw [bits, List.range_succ, List.map_append, register_append, ← bits, ih (by omega),
        low_succ, ← BitVec.xor_assoc, Function.iterate_succ_apply', divides_xor poly n (_ ^^^ _),
        divides_lowest poly hn]
      rfl

end HilRigProtocol.Library.Crc
