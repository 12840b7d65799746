/-
  Splitting a stream at a separator, one element at a time.

  `segments` are the pieces that a separator ends, `remainder` is what follows the
  last separator. Appending an element changes them as an incremental reader would.
-/
import Mathlib.Data.List.Basic

namespace HilRigProtocol.Library.Split

variable {α : Type*} [BEq α] [LawfulBEq α]

/-- The pieces of a stream that `separator` ends. -/
def segments (separator : α) (stream : List α) : List (List α) :=
  (stream.splitOn separator).dropLast

/-- What follows the last `separator` of a stream. -/
def remainder (separator : α) (stream : List α) : List α :=
  (stream.splitOn separator).getLast (List.splitOn_ne_nil separator stream)

omit [LawfulBEq α] in
theorem splitOn_eq (separator : α) (stream : List α) :
    stream.splitOn separator = segments separator stream ++ [remainder separator stream] :=
  (List.dropLast_append_getLast (List.splitOn_ne_nil separator stream)).symm

omit [LawfulBEq α] in
theorem eq_of_splitOn {separator : α} {stream : List α} {front : List (List α)} {last : List α}
    (h : stream.splitOn separator = front ++ [last]) :
    segments separator stream = front ∧ remainder separator stream = last := by
  rw [splitOn_eq] at h
  obtain ⟨hfront, hlast⟩ := List.append_inj' h rfl
  exact ⟨hfront, List.cons.inj hlast |>.1⟩

/-- A separator ends the remainder. -/
theorem append_separator (separator : α) (stream : List α) :
    segments separator (stream ++ [separator]) =
        segments separator stream ++ [remainder separator stream] ∧
      remainder separator (stream ++ [separator]) = [] := by
  apply eq_of_splitOn
  rw [List.splitOn_append_cons_self, splitOn_eq, List.splitOn_nil]

theorem splitOn_append_ne {separator element : α} (hne : element ≠ separator) (stream : List α) :
    (stream ++ [element]).splitOn separator =
      segments separator stream ++ [remainder separator stream ++ [element]] := by
  induction stream with
  | nil =>
      rw [List.nil_append, List.splitOn_cons_eq_if_modifyHead, if_neg (by simpa using hne)]
      rfl
  | cons head rest ih =>
      rw [List.cons_append, List.splitOn_cons_eq_if_modifyHead, ih]
      by_cases hhead : head == separator
      · have hsplit : (head :: rest).splitOn separator =
            ([] :: segments separator rest) ++ [remainder separator rest] := by
          rw [List.splitOn_cons_eq_if_modifyHead, if_pos hhead, splitOn_eq]
          rfl
        rw [if_pos hhead, (eq_of_splitOn hsplit).1, (eq_of_splitOn hsplit).2]
        rfl
      · rw [if_neg hhead]
        have hsplit : (head :: rest).splitOn separator =
            (segments separator rest ++ [remainder separator rest]).modifyHead (head :: ·) := by
          rw [List.splitOn_cons_eq_if_modifyHead, if_neg hhead, splitOn_eq]
        cases hrest : segments separator rest with
        | nil =>
            rw [hrest, List.nil_append, List.modifyHead_cons, ← List.nil_append [_]] at hsplit
            rw [(eq_of_splitOn hsplit).1, (eq_of_splitOn hsplit).2]
            rfl
        | cons first later =>
            rw [hrest, List.cons_append, List.modifyHead_cons, ← List.cons_append] at hsplit
            rw [(eq_of_splitOn hsplit).1, (eq_of_splitOn hsplit).2]
            rfl

/-- Any other element is added to the remainder. -/
theorem append_ne {separator element : α} (hne : element ≠ separator) (stream : List α) :
    segments separator (stream ++ [element]) = segments separator stream ∧
      remainder separator (stream ++ [element]) = remainder separator stream ++ [element] :=
  eq_of_splitOn (splitOn_append_ne hne stream)

end HilRigProtocol.Library.Split
