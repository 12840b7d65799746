/-
  Bounded first-in first-out queues.

  A queue is the list of its entries, oldest first. Entries that are not valid and entries
  for which there is no room are refused; what is accepted leaves the queue in order.
-/
import Mathlib.Tactic.Common

namespace HilRigProtocol.Library.Fifo

variable {α : Type*}

/-- What is done with a queue. -/
inductive Op (α : Type*)
  | publish (entry : α)
  | read
  | reset

/-- What comes of it. -/
inductive Outcome (α : Type*)
  | accepted
  | refused
  | full
  | taken (entry : α)
  | empty
  | cleared

variable (valid : α → Bool) (capacity : Nat)

/-- The bounded queue as a machine. -/
def step (queue : List α) : Op α → Outcome α × List α
  | .publish entry =>
      if ¬ valid entry then (.refused, queue)
      else if queue.length = capacity then (.full, queue)
      else (.accepted, queue ++ [entry])
  | .read =>
      match queue with
      | [] => (.empty, [])
      | entry :: rest => (.taken entry, rest)
  | .reset => (.cleared, [])

/-- The entries that an operation puts into the queue. -/
def enters : Op α → Outcome α → List α
  | .publish entry, .accepted => [entry]
  | _, _ => []

/-- The entries that leave `queue` with an outcome. -/
def leaves (queue : List α) : Outcome α → List α
  | .taken entry => [entry]
  | .cleared => queue
  | _ => []

/-- No entry is lost, doubled or overtaken by a step. -/
theorem step_moves (queue : List α) (op : Op α) :
    queue ++ enters op (step valid capacity queue op).1 =
      leaves queue (step valid capacity queue op).1 ++ (step valid capacity queue op).2 := by
  cases op with
  | publish entry =>
      dsimp only [step]
      by_cases hvalid : valid entry = true
      · rw [if_neg (not_not.mpr hvalid)]
        by_cases hfull : queue.length = capacity
        · rw [if_pos hfull]
          exact List.append_nil _
        · rw [if_neg hfull]
          rfl
      · rw [if_pos hvalid]
        exact List.append_nil _
  | read =>
      cases queue with
      | nil => rfl
      | cons entry rest => exact List.append_nil _
  | reset => rfl

end HilRigProtocol.Library.Fifo
