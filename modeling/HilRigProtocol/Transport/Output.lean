/-
  Arbitration between the reliable and the control output (`transport_output_mvp.c`).
-/
import HilRigProtocol.Transport.ControlOutput
import HilRigProtocol.Transport.Reliability

namespace HilRigProtocol.Transport.Output

/-- `reliable_peeked` of `HIL_TRANSPORT_MVP_Output_Validate_State`. -/
def reliablePeeked (root : Root) : Bool :=
  root.session.reliableState == .peeked || root.session.reliableState == .retransmitPeeked

/-- `control_peeked` of `HIL_TRANSPORT_MVP_Output_Validate_State`. -/
def controlPeeked (root : Root) : Bool := root.controlOutputState == .peeked

/-- The checks of `HIL_TRANSPORT_MVP_Output_Validate_State` on the recovery RESET
    and on the two pins. -/
def recoveryIsValid (root : Root) : Bool :=
  decide (root.recoveryResetPending ≤ 1)
    && !(root.recoveryResetPending == 0
      && root.recoveryResetSessionIdentifier != sessionSeedInvalid)
    && !(root.recoveryResetPending != 0
      && (root.base.sessionState != .recovering || root.session.state != .recovering
        || root.base.linkState != .connected || root.session.linkState != .connected
        || root.recoveryResetSessionIdentifier == sessionSeedInvalid
        || root.recoveryResetSessionIdentifier == sessionSeedReserved
        || root.controlOutputState == .idle))
    && root.outputSelection.isListed
    && !(reliablePeeked root && controlPeeked root)

/-- The `switch` of `HIL_TRANSPORT_MVP_Output_Validate_State`. -/
def selectionIsValid (root : Root) : Bool :=
  match root.outputSelection with
  | .none => !reliablePeeked root && !controlPeeked root
  | .reliable => reliablePeeked root && !controlPeeked root
  | .control => controlPeeked root && !reliablePeeked root
  | .unlisted _ => false

/-- `HIL_TRANSPORT_MVP_Output_Validate_State`: the status, `reliable_output_pending`,
    `control_output_pending`, `reliable_delivery_pending` and the root. -/
def validateState (root : Root) : Status × Bool × Bool × Bool × Root :=
  let (status, reliableOutputPending, reliableDeliveryPending, root) :=
    Reliability.getPendingStatus root
  if status ≠ .ok then (status, reliableOutputPending, false, reliableDeliveryPending, root)
  else
    let (status, controlOutputPending, root) := ControlOutput.getPendingStatus root
    if status ≠ .ok then
      (status, reliableOutputPending, controlOutputPending, reliableDeliveryPending, root)
    else if ¬ recoveryIsValid root ∨ ¬ selectionIsValid root then
      let (status, root) := recordInvariantFailure root
      (status, reliableOutputPending, controlOutputPending, reliableDeliveryPending, root)
    else (.ok, reliableOutputPending, controlOutputPending, reliableDeliveryPending, root)

/-- `HIL_TRANSPORT_MVP_Output_Peek_Output`: the status, `output_size`, the bytes
    copied and the root. -/
def peekOutput (root : Root) (outBuffer : Option Nat) : Status × Nat × List UInt8 × Root :=
  if root.base.sessionState = .fault ∨ root.session.state = .fault then
    (.internalError, 0, [], root)
  else
    let (status, reliableOutputPending, controlOutputPending, _, root) := validateState root
    if status ≠ .ok then (status, 0, [], root)
    else
      let selection : OutputSelection :=
        if root.outputSelection ≠ .none then root.outputSelection
        else if controlOutputPending then .control
        else if reliableOutputPending then .reliable
        else .none
      if selection = .none then (.notReady, 0, [], root)
      else
        let (status, outputSize, bytes, root) :=
          if selection = .control then ControlOutput.peekOutput root outBuffer
          else Reliability.peekOutput root outBuffer
        if status = .ok then (status, outputSize, bytes, { root with outputSelection := selection })
        else (status, outputSize, bytes, root)

/-- `HIL_TRANSPORT_MVP_Output_Commit_Output` -/
def commitOutput (root : Root) (nowMs : UInt32) : Status × Root :=
  if root.base.sessionState = .fault ∨ root.session.state = .fault then (.internalError, root)
  else
    let (status, _, _, _, root) := validateState root
    if status ≠ .ok then (status, root)
    else if root.outputSelection = .none then (.notReady, root)
    else
      let (status, root) :=
        if root.outputSelection = .reliable then Reliability.commitOutput root nowMs
        else ControlOutput.commitOutput root
      if status ≠ .ok then (status, root)
      else if root.outputSelection = .control ∧ root.recoveryResetPending ≠ 0 then
        (status,
          { root with
            recoveryResetPending := 0
            recoveryResetSessionIdentifier := sessionSeedInvalid
            outputSelection := .none })
      else (status, { root with outputSelection := .none })

/-- `HIL_TRANSPORT_MVP_Output_Reset` -/
def reset (root : Root) : Status × Root :=
  let (reliableStatus, root) := Reliability.reset root
  let root := ControlOutput.reset root
  (reliableStatus, { root with outputSelection := .none })

/-- `HIL_TRANSPORT_MVP_Output_Get_Pending_Status`: the status, `output_pending`,
    `reliable_delivery_pending` and the root. -/
def getPendingStatus (root : Root) : Status × Bool × Bool × Root :=
  let (status, reliableOutputPending, controlOutputPending, reliableDeliveryPending, root) :=
    validateState root
  if status ≠ .ok then (status, false, false, root)
  else (.ok, reliableOutputPending || controlOutputPending, reliableDeliveryPending, root)

end HilRigProtocol.Transport.Output
