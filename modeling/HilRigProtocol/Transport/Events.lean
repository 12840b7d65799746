/-
  The four-entry event FIFO (`transport_events_mvp.c`).
-/
import HilRigProtocol.Transport.Types
import Mathlib.Logic.Function.Basic

namespace HilRigProtocol.Transport

/-- `…_Record_Invariant_Failure` of the event, control-output, reliability and
    output modules: FAULT in the public and the private view. -/
def recordInvariantFailure (root : Root) : Status × Root :=
  (.internalError,
    { root with
      base.sessionState := .fault
      base.lastFailure := .internal
      session.state := .fault
      session.lastFailure := .internal })

namespace Events

/-- `HIL_TRANSPORT_MVP_Events_Value_Is_Valid` -/
def valueIsValid (event : Event) : Bool :=
  event.type != .none && event.type.isListed && event.status.isListed && event.failure.isListed

/-- `event_queue[( event_read_index + offset ) % CAPACITY]` -/
def slot (root : Root) (offset : Nat) : Fin 4 :=
  Fin.ofNat 4 (root.eventReadIndex + offset)

/-- The checks of `HIL_TRANSPORT_MVP_Events_Validate_State`. -/
def stateIsValid (root : Root) : Bool :=
  decide (root.eventReadIndex < eventQueueCapacity) && decide (root.eventCount ≤ eventQueueCapacity)
    && (List.range root.eventCount).all fun offset =>
      valueIsValid (root.eventQueue (slot root offset))

/-- `HIL_TRANSPORT_MVP_Events_Validate_State` -/
def validateState (root : Root) : Status × Root :=
  if ¬ stateIsValid root then recordInvariantFailure root else (.ok, root)

/-- `HIL_TRANSPORT_MVP_Events_Publish` -/
def publish (root : Root) (event : Event) : Status × Root :=
  if ¬ valueIsValid event then (.invalidArgument, root)
  else
    let (status, root) := validateState root
    if status ≠ .ok then (status, root)
    else if root.eventCount = eventQueueCapacity then (.capacityExhausted, root)
    else
      (.ok,
        { root with
          eventQueue := Function.update root.eventQueue (slot root root.eventCount) event
          eventCount := root.eventCount + 1 })

/-- `HIL_TRANSPORT_MVP_Events_Check_Capacity` -/
def checkCapacity (root : Root) : Status × Root :=
  let (status, root) := validateState root
  if status ≠ .ok then (status, root)
  else if root.eventCount = eventQueueCapacity then (.capacityExhausted, root)
  else (.ok, root)

/-- `HIL_TRANSPORT_MVP_Events_Read`; the event is written only on OK. -/
def read (root : Root) : Status × Option Event × Root :=
  let (status, root) := validateState root
  if status ≠ .ok then (status, none, root)
  else if root.eventCount = 0 then (.notReady, none, root)
  else
    let event := root.eventQueue (slot root 0)
    let eventCount := root.eventCount - 1
    if eventCount = 0 then
      (.ok, some event, { root with eventCount := eventCount, eventReadIndex := 0 })
    else
      (.ok, some event,
        { root with
          eventCount := eventCount
          eventReadIndex := (root.eventReadIndex + 1) % eventQueueCapacity })

/-- `HIL_TRANSPORT_MVP_Events_Reset` -/
def reset (root : Root) : Root := { root with eventReadIndex := 0, eventCount := 0 }

/-- `HIL_TRANSPORT_MVP_Events_Get_Pending_Status` -/
def getPendingStatus (root : Root) : Status × Bool × Root :=
  let (status, root) := validateState root
  if status ≠ .ok then (status, false, root)
  else (.ok, decide (root.eventCount ≠ 0), root)

end Events

end HilRigProtocol.Transport
