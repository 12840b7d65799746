/-
  Regions laid out one after another, and sizes rounded up to an alignment.

  A region is a start address and a size. Regions placed consecutively are pairwise
  disjoint, and together they are one region of the total size.
-/
import Mathlib

namespace HilRigProtocol.Library.Layout

/-- The addresses of a region. -/
def addresses (region : Nat × Nat) : Set Nat := Set.Ico region.1 (region.1 + region.2)

/-- Regions of the given sizes, one after another from `start`. -/
def place (start : Nat) : List Nat → List (Nat × Nat)
  | [] => []
  | size :: sizes => (start, size) :: place (start + size) sizes

theorem mem_addresses {region : Nat × Nat} {address : Nat} :
    address ∈ addresses region ↔ region.1 ≤ address ∧ address < region.1 + region.2 :=
  Iff.rfl

/-- No address is below the start of the placement or above its end. -/
theorem bounds_of_mem_place {start : Nat} {sizes : List Nat} {region : Nat × Nat}
    (h : region ∈ place start sizes) :
    start ≤ region.1 ∧ region.1 + region.2 ≤ start + sizes.sum := by
  induction sizes generalizing start with
  | nil => cases h
  | cons size sizes ih =>
      rw [List.sum_cons]
      rcases List.mem_cons.mp h with rfl | hmem
      · dsimp only
        omega
      · have := ih hmem
        omega

theorem place_disjoint (start : Nat) (sizes : List Nat) :
    (place start sizes).Pairwise fun region other =>
      Disjoint (addresses region) (addresses other) := by
  induction sizes generalizing start with
  | nil => exact List.Pairwise.nil
  | cons size sizes ih =>
      refine List.Pairwise.cons ?_ (ih (start + size))
      intro region hmem
      have hstart := (bounds_of_mem_place hmem).1
      rw [Set.disjoint_left]
      intro address hfirst hlater
      rw [mem_addresses] at hfirst hlater
      dsimp only at hfirst
      omega

/-- The placement has no gap and ends where the sizes say. -/
theorem place_fills (start : Nat) (sizes : List Nat) :
    (⋃ region ∈ place start sizes, addresses region) = addresses (start, sizes.sum) := by
  ext address
  rw [Set.mem_iUnion₂]
  constructor
  · rintro ⟨region, hmem, haddress⟩
    have hbounds := bounds_of_mem_place hmem
    rw [mem_addresses] at haddress ⊢
    dsimp only
    omega
  · intro haddress
    induction sizes generalizing start with
    | nil =>
        rw [mem_addresses, List.sum_nil] at haddress
        dsimp only at haddress
        omega
    | cons size sizes ih =>
        rw [mem_addresses, List.sum_cons] at haddress
        dsimp only at haddress
        by_cases hfirst : address < start + size
        · refine ⟨(start, size), List.mem_cons_self, ?_⟩
          exact mem_addresses.mpr ⟨haddress.1, hfirst⟩
        · have hlater : address ∈ addresses (start + size, sizes.sum) := by
            rw [mem_addresses]
            dsimp only
            omega
          obtain ⟨region, hmem, hin⟩ := ih (start + size) hlater
          exact ⟨region, List.mem_cons_of_mem _ hmem, hin⟩

/-! ## Alignment -/

/-- The least multiple of `alignment` that is not below `size`. -/
def roundUp (size alignment : Nat) : Nat := (size + alignment - 1) / alignment * alignment

theorem isLeast_roundUp (size : Nat) {alignment : Nat} (h : 0 < alignment) :
    IsLeast {m | alignment ∣ m ∧ size ≤ m} (roundUp size alignment) := by
  have hdiv := Nat.div_add_mod (size + alignment - 1) alignment
  have hmod := Nat.mod_lt (size + alignment - 1) h
  rw [Nat.mul_comm] at hdiv
  refine ⟨⟨Dvd.intro_left _ rfl, by unfold roundUp; omega⟩, ?_⟩
  rintro m ⟨⟨k, rfl⟩, hle⟩
  -- The quotient of `size + alignment - 1` is at most that of a multiple above `size`.
  have hquotient : (size + alignment - 1) / alignment ≤ k := by
    rw [Nat.div_le_iff_le_mul_add_pred h]
    omega
  rw [roundUp, Nat.mul_comm]
  exact Nat.mul_le_mul_left alignment hquotient

theorem le_roundUp (size : Nat) {alignment : Nat} (h : 0 < alignment) :
    size ≤ roundUp size alignment :=
  (isLeast_roundUp size h).1.2

theorem roundUp_lt (size : Nat) {alignment : Nat} (h : 0 < alignment) :
    roundUp size alignment < size + alignment := by
  have hdiv := Nat.div_add_mod (size + alignment - 1) alignment
  rw [Nat.mul_comm] at hdiv
  unfold roundUp
  omega

/-- Rounding up adds what is missing to the next multiple. -/
theorem roundUp_eq (size : Nat) {alignment : Nat} (h : 0 < alignment) :
    roundUp size alignment =
      if size % alignment = 0 then size else size + (alignment - size % alignment) := by
  refine (isLeast_roundUp size h).unique ⟨⟨?_, by split <;> omega⟩, ?_⟩
  · split
    case isTrue hzero => exact Nat.dvd_of_mod_eq_zero hzero
    case isFalse hne =>
      have hsplit := Nat.div_add_mod size alignment
      have hmod := Nat.mod_lt size h
      exact ⟨size / alignment + 1, by rw [Nat.mul_add, Nat.mul_one]; omega⟩
  · rintro m ⟨hdvd, hle⟩
    have hmod := Nat.mod_lt size h
    split
    case isTrue => exact hle
    case isFalse hne =>
      by_contra hlt
      -- Between `size` and the next multiple no number is a multiple.
      have hgap : (m - (size - size % alignment)) % alignment = 0 :=
        Nat.mod_eq_zero_of_dvd (Nat.dvd_sub hdvd (Nat.dvd_sub_mod size))
      rw [Nat.mod_eq_of_lt (by omega)] at hgap
      have hle' := Nat.mod_le size alignment
      omega

end HilRigProtocol.Library.Layout
