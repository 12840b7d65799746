/-
  Computations that avoid errors.

  `Avoids bad x` says that `x`, if it fails, does not fail with an error in `bad`. It
  holds of a sequence when it holds of every step that can be reached, so a step may use
  that those before it succeeded: a check that guards an access need not stand next to it.
-/
import Mathlib.Tactic.Common

namespace HilRigProtocol.Library

variable {ε α β : Type} {bad : ε → Prop}

/-- `x` does not fail with an error in `bad`. -/
def Avoids (bad : ε → Prop) (x : Except ε α) : Prop :=
  ∀ error, x = .error error → ¬ bad error

namespace Avoids

@[simp] theorem ok (a : α) : Avoids bad (.ok a : Except ε α) := by
  intro error h
  exact absurd h (by simp)

theorem error {e : ε} (h : ¬ bad e) : Avoids bad (.error e : Except ε α) := by
  intro error herror
  exact Except.error.inj herror ▸ h

theorem bind {x : Except ε α} {f : α → Except ε β} (hx : Avoids bad x)
    (hf : ∀ a, x = .ok a → Avoids bad (f a)) : Avoids bad (x >>= f) := by
  cases x with
  | error e => exact error (hx e rfl)
  | ok a => exact hf a rfl

theorem map {x : Except ε α} (hx : Avoids bad x) (f : α → β) : Avoids bad (x.map f) := by
  cases x with
  | error e => exact error (hx e rfl)
  | ok a => exact ok (f a)

theorem ite {c : Prop} [Decidable c] {x y : Except ε α} (hx : c → Avoids bad x)
    (hy : ¬ c → Avoids bad y) : Avoids bad (if c then x else y) := by
  split
  case isTrue h => exact hx h
  case isFalse h => exact hy h

/-- Fewer errors are easier to avoid. -/
theorem mono {worse : ε → Prop} {x : Except ε α} (hx : Avoids bad x)
    (hworse : ∀ e, worse e → bad e) : Avoids worse x :=
  fun e he hbad => hx e he (hworse e hbad)

end Avoids

@[simp] theorem avoids_ite {c : Prop} [Decidable c] {x y : Except ε α} :
    Avoids bad (if c then x else y) ↔ (c → Avoids bad x) ∧ (¬ c → Avoids bad y) := by
  split
  case isTrue h => simp [h]
  case isFalse h => simp [h]

end HilRigProtocol.Library
