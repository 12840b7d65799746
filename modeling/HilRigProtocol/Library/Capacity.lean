/-
  Operations that need room.

  An operation over a resource `s` with `room s` places either succeeds or reports that
  it is full. It `Wants` a number of places when it gives one and the same value wherever
  there are as many, and is full everywhere else. `Tight` says so of every success of an
  operation that may also fail for reasons of its own.
-/
import Mathlib.Tactic.Common

namespace HilRigProtocol.Library

variable {σ ε α β : Type} {room : σ → Nat} {full : ε}

/-- `op` gives `x` wherever there is room for `need`, and is full elsewhere. -/
def Wants (room : σ → Nat) (full : ε) (need : Nat) (x : α) (op : σ → Except ε α) : Prop :=
  ∀ s, op s = if need ≤ room s then .ok x else .error full

/-- Wherever `op` succeeds, it wants what its value needs. -/
def Tight (room : σ → Nat) (full : ε) (need : α → Nat) (op : σ → Except ε α) : Prop :=
  ∀ s x, op s = .ok x → Wants room full (need x) x op

namespace Wants

variable {need : Nat} {x : α} {op : σ → Except ε α}

theorem of_le (h : Wants room full need x op) {s : σ} (hs : need ≤ room s) : op s = .ok x := by
  rw [h s, if_pos hs]

theorem of_lt (h : Wants room full need x op) {s : σ} (hs : room s < need) :
    op s = .error full := by
  rw [h s, if_neg (Nat.not_le.mpr hs)]

theorem of_ok (h : Wants room full need x op) {s : σ} {y : α} (hs : op s = .ok y) :
    y = x ∧ need ≤ room s := by
  rw [h s] at hs
  split at hs
  case isTrue hle => exact ⟨(Except.ok.inj hs).symm, hle⟩
  case isFalse => exact absurd hs nofun

theorem of_guard (h : ∀ s, op s = if room s < need then .error full else .ok x) :
    Wants room full need x op := by
  intro s
  rw [h s]
  by_cases hs : need ≤ room s
  · rw [if_neg (Nat.not_lt.mpr hs), if_pos hs]
  · rw [if_pos (Nat.not_le.mp hs), if_neg hs]

theorem map (h : Wants room full need x op) (f : α → β) :
    Wants room full need (f x) fun s => (op s).map f := by
  intro s
  dsimp only
  by_cases hs : need ≤ room s
  · rw [h.of_le hs, if_pos hs]
    rfl
  · rw [h.of_lt (Nat.not_le.mp hs), if_neg hs]
    rfl

end Wants

end HilRigProtocol.Library
