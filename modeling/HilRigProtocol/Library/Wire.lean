/-
  Readers of byte strings, and when a reader inverts a writer.

  A `Reader` takes a value off the front of a byte string and fails only when the
  bytes run out. `Reads r w` says that `r` accepts exactly the strings that start
  with a wire form of a value, `w value form`, and returns that value: the round
  trip and the canonical form in one statement. It is closed under sequencing, so
  the reader of a record is settled field by field.
-/
import Mathlib.Data.Vector.Basic
import Mathlib.Data.List.Basic

namespace HilRigProtocol.Library

/-- A parser that takes a value off the front of a byte string. -/
abbrev Reader (α : Type) : Type := StateT (List UInt8) Option α

namespace Reader

variable {α β : Type}

/-- One byte. -/
def byte : Reader UInt8
  | [] => none
  | b :: rest => some (b, rest)

/-- `n` values, one after the other. -/
def vector (r : Reader α) : (n : Nat) → Reader (List.Vector α n)
  | 0 => pure List.Vector.nil
  | n + 1 => do
      let x ← r
      let xs ← vector r n
      pure (List.Vector.cons x xs)

/-! ## Readers and wire forms -/

/-- `r` reads a value exactly where one of its wire forms stands. -/
def Reads (r : Reader α) (w : α → List UInt8 → Prop) : Prop :=
  ∀ bytes value rest,
    r.run bytes = some (value, rest) ↔ ∃ form, w value form ∧ bytes = form ++ rest

/-- The wire forms of a list: those of its elements, one after the other. -/
inductive Each (w : α → List UInt8 → Prop) : List α → List UInt8 → Prop
  | nil : Each w [] []
  | cons {x : α} {xs : List α} {form forms : List UInt8} (head : w x form)
      (tail : Each w xs forms) : Each w (x :: xs) (form ++ forms)

theorem each_nil {w : α → List UInt8 → Prop} {form : List UInt8} :
    Each w [] form ↔ form = [] := by
  constructor
  · intro h
    cases h
    rfl
  · rintro rfl
    exact .nil

theorem each_cons {w : α → List UInt8 → Prop} {x : α} {xs : List α} {form : List UInt8} :
    Each w (x :: xs) form ↔ ∃ front back, w x front ∧ Each w xs back ∧ form = front ++ back := by
  constructor
  · intro h
    cases h with
    | cons head tail => exact ⟨_, _, head, tail, rfl⟩
  · rintro ⟨front, back, head, tail, rfl⟩
    exact .cons head tail

/-- The wire form of a list whose elements have one wire form each. -/
theorem each_eq {f : α → List UInt8} {xs : List α} {form : List UInt8} :
    Each (fun x e => e = f x) xs form ↔ form = xs.flatMap f := by
  induction xs generalizing form with
  | nil => rw [each_nil, List.flatMap_nil]
  | cons x xs ih =>
      rw [each_cons, List.flatMap_cons]
      constructor
      · rintro ⟨front, back, rfl, hback, rfl⟩
        rw [ih.mp hback]
      · rintro rfl
        exact ⟨_, _, rfl, ih.mpr rfl, rfl⟩

theorem Each.length_eq {w : α → List UInt8 → Prop} {width : Nat}
    (hw : ∀ x form, w x form → form.length = width) {xs : List α} {form : List UInt8}
    (h : Each w xs form) : form.length = xs.length * width := by
  induction h with
  | nil => simp
  | cons head tail ih =>
      rw [List.length_append, List.length_cons, hw _ _ head, ih, Nat.succ_mul, Nat.add_comm]

theorem reads_byte : Reads byte (fun b form => form = [b]) := by
  intro bytes value rest
  cases bytes with
  | nil => simp [byte, StateT.run]
  | cons b bs => simp [byte, StateT.run]

theorem reads_pure (a : α) : Reads (pure a) (fun value form => value = a ∧ form = []) := by
  intro bytes value rest
  simp only [StateT.run_pure, Option.pure_def, Option.some.injEq, Prod.mk.injEq]
  constructor
  · rintro ⟨rfl, rfl⟩
    exact ⟨[], ⟨rfl, rfl⟩, rfl⟩
  · rintro ⟨form, ⟨rfl, rfl⟩, rfl⟩
    exact ⟨rfl, rfl⟩

namespace Reads

variable {r : Reader α} {w : α → List UInt8 → Prop}

theorem congr {w' : α → List UInt8 → Prop} (h : Reads r w)
    (hw : ∀ value form, w value form ↔ w' value form) : Reads r w' := by
  intro bytes value rest
  rw [h bytes value rest]
  simp only [hw]

/-- Reading one value and then, depending on it, another. -/
theorem bind {k : α → Reader β} {u : α → β → List UInt8 → Prop} (h : Reads r w)
    (hk : ∀ x, Reads (k x) (u x)) :
    Reads (r >>= k)
      (fun value form => ∃ x front back, w x front ∧ u x value back ∧ form = front ++ back) := by
  intro bytes value rest
  simp only [StateT.run_bind, Option.bind_eq_bind, Option.bind_eq_some_iff, Prod.exists]
  constructor
  · rintro ⟨x, middle, hx, hrest⟩
    obtain ⟨front, hfront, rfl⟩ := (h _ _ _).mp hx
    obtain ⟨back, hback, rfl⟩ := (hk x _ _ _).mp hrest
    exact ⟨front ++ back, ⟨x, front, back, hfront, hback, rfl⟩, by rw [List.append_assoc]⟩
  · rintro ⟨form, ⟨x, front, back, hfront, hback, rfl⟩, rfl⟩
    refine ⟨x, back ++ rest, (h _ _ _).mpr ⟨front, hfront, ?_⟩,
      (hk x _ _ _).mpr ⟨back, hback, rfl⟩⟩
    rw [List.append_assoc]

theorem vector (h : Reads r w) (n : Nat) :
    Reads (Reader.vector r n) (fun values form => Each w values.toList form) := by
  induction n with
  | zero =>
      refine (reads_pure _).congr fun values form => ?_
      rw [List.Vector.eq_nil values]
      simp [each_nil]
  | succ n ih =>
      refine (h.bind fun x => ih.bind fun xs => reads_pure _).congr fun values form => ?_
      constructor
      · rintro ⟨x, front, _, hx, ⟨xs, back, _, hxs, ⟨rfl, rfl⟩, rfl⟩, rfl⟩
        rw [List.append_nil, List.Vector.toList_cons]
        exact .cons hx hxs
      · intro hform
        obtain ⟨x, xs, rfl⟩ := List.Vector.exists_eq_cons values
        rw [List.Vector.toList_cons, each_cons] at hform
        obtain ⟨front, back, hx, hxs, rfl⟩ := hform
        exact ⟨x, front, back, hx, ⟨xs, back, [], hxs, ⟨rfl, rfl⟩, by rw [List.append_nil]⟩, rfl⟩

end Reads

/-! ## How much a reader takes -/

/-- Of `n` bytes or more, `r` takes the first `n`. -/
def Takes (r : Reader α) (n : Nat) : Prop :=
  ∀ bytes, n ≤ bytes.length → ∃ value, r.run bytes = some (value, bytes.drop n)

theorem takes_byte : Takes byte 1 := by
  intro bytes h
  cases bytes with
  | nil => exact absurd h (by simp)
  | cons b bs => exact ⟨b, rfl⟩

theorem takes_pure (a : α) : Takes (pure a) 0 := fun _ _ => ⟨a, rfl⟩

theorem Takes.bind {r : Reader α} {k : α → Reader β} {m n : Nat} (h : Takes r m)
    (hk : ∀ x, Takes (k x) n) : Takes (r >>= k) (m + n) := by
  intro bytes hlen
  obtain ⟨x, hx⟩ := h bytes (by omega)
  obtain ⟨value, hvalue⟩ := hk x (bytes.drop m) (by rw [List.length_drop]; omega)
  refine ⟨value, ?_⟩
  rw [List.drop_drop] at hvalue
  rw [StateT.run_bind, hx]
  exact hvalue

theorem Takes.vector {r : Reader α} {width : Nat} (h : Takes r width) (n : Nat) :
    Takes (Reader.vector r n) (n * width) := by
  induction n with
  | zero =>
      rw [Nat.zero_mul]
      exact takes_pure _
  | succ n ih =>
      rw [Nat.succ_mul, Nat.add_comm (n * width)]
      exact h.bind fun x => ih.bind fun xs => takes_pure _

end Reader

end HilRigProtocol.Library
