/-
  The one-item control output (`transport_control_output_mvp.c`).
-/
import HilRigProtocol.Transport.Events

namespace HilRigProtocol.Transport.ControlOutput

/-- The checks of `HIL_TRANSPORT_MVP_Control_Output_Validate_State`. -/
def stateIsValid (root : Root) : Bool :=
  match root.controlOutputState with
  | .idle => decide (root.controlOutput.length = 0)
  | .ready | .peeked =>
      decide (root.controlOutput.length ≠ 0 ∧ root.controlOutput.length ≤ controlOutputCapacity)
  | .unlisted _ => false

/-- `HIL_TRANSPORT_MVP_Control_Output_Validate_State` -/
def validateState (root : Root) : Status × Root :=
  if ¬ stateIsValid root then recordInvariantFailure root else (.ok, root)

/-- `HIL_TRANSPORT_MVP_Control_Output_Publish_Encoded` -/
def publishEncoded (root : Root) (encodedItem : List UInt8) : Status × Root :=
  if encodedItem.length = 0 ∨ encodedItem.length > controlOutputCapacity then
    (.invalidArgument, root)
  else
    let (status, root) := validateState root
    if status ≠ .ok then (status, root)
    else if root.controlOutputState = .idle then
      (.ok, { root with controlOutput := encodedItem, controlOutputState := .ready })
    -- A repeated request for the same item is harmless even while it is pinned.
    else if root.controlOutput = encodedItem then (.ok, root)
    else (.notReady, root)

/-- `HIL_TRANSPORT_MVP_Control_Output_Peek_Output`; the results and `outBuffer` are
    as for `Reliability.peekOutput`. -/
def peekOutput (root : Root) (outBuffer : Option Nat) : Status × Nat × List UInt8 × Root :=
  let (status, root) := validateState root
  if status ≠ .ok then (status, 0, [], root)
  else if root.controlOutputState = .idle then (.notReady, 0, [], root)
  else
    let outputSize := root.controlOutput.length
    match outBuffer with
    | none => (.bufferTooSmall, outputSize, [], root)
    | some outBufferSize =>
        if outBufferSize < outputSize then (.bufferTooSmall, outputSize, [], root)
        else (.ok, outputSize, root.controlOutput, { root with controlOutputState := .peeked })

/-- `HIL_TRANSPORT_MVP_Control_Output_Commit_Output` -/
def commitOutput (root : Root) : Status × Root :=
  let (status, root) := validateState root
  if status ≠ .ok then (status, root)
  else if root.controlOutputState ≠ .peeked then (.notReady, root)
  else (.ok, { root with controlOutput := [], controlOutputState := .idle })

/-- `HIL_TRANSPORT_MVP_Control_Output_Reset` -/
def reset (root : Root) : Root := { root with controlOutput := [], controlOutputState := .idle }

/-- `HIL_TRANSPORT_MVP_Control_Output_Get_Pending_Status` -/
def getPendingStatus (root : Root) : Status × Bool × Root :=
  let (status, root) := validateState root
  if status ≠ .ok then (status, false, root)
  else (.ok, decide (root.controlOutputState ≠ .idle), root)

end HilRigProtocol.Transport.ControlOutput
