/-
  The output calls of the code on the root of an endpoint are those of the endpoint.
-/
import HilRigProtocol.Transport.Refinement.Checks

namespace HilRigProtocol.Transport

/-- The stage after a peek is pinned. -/
theorem Stage.pinned_peek {stage : Stage} (h : stage.outputPending = true) :
    stage.peek.pinned = true := by
  cases stage <;> simp_all [Stage.outputPending, Stage.peek, Stage.pinned]

theorem Stage.outputPending_of_pinned {stage : Stage} (h : stage.pinned = true) :
    stage.outputPending = true := by
  cases stage <;> simp_all [Stage.outputPending, Stage.pinned]

theorem Stage.state_of_outputPending {stage : Stage} (h : stage.outputPending = true) :
    ¬ (stage.state = .idle ∨ stage.state = .awaitingAck ∨ stage.state = .exhausted) := by
  cases stage <;> simp_all [Stage.outputPending, Stage.state]

theorem Stage.state_peek (stage : Stage) :
    (if stage.state = .ready then .peeked
      else if stage.state = .retransmitReady then .retransmitPeeked
      else stage.state) = stage.peek.state := by
  cases stage <;> rfl

theorem Stage.state_of_pinned {stage : Stage} (h : stage.pinned = true) :
    ¬ (stage.state ≠ .peeked ∧ stage.state ≠ .retransmitPeeked) := by
  cases stage <;> simp_all [Stage.pinned, Stage.state]

theorem Stage.retries_commit {stage : Stage} {nowMs : UInt32} (h : stage.pinned = true) :
    (if stage.state = .retransmitPeeked then stage.retries + 1 else stage.retries) =
      (stage.commit nowMs).retries := by
  cases stage <;> simp_all [Stage.pinned, Stage.state, Stage.commit, Stage.retries]

theorem Stage.commit_of_pinned {stage : Stage} (nowMs : UInt32) (h : stage.pinned = true) :
    (stage.commit nowMs).state = .awaitingAck ∧ (stage.commit nowMs).committedMs = nowMs ∧
      (stage.commit nowMs).pinned = false := by
  cases stage <;> simp_all [Stage.pinned, Stage.state, Stage.commit, Stage.committedMs]

theorem Stage.retries_peek (stage : Stage) : stage.peek.retries = stage.retries := by
  cases stage <;> rfl

theorem Stage.committedMs_peek (stage : Stage) : stage.peek.committedMs = stage.committedMs := by
  cases stage <;> rfl

section
variable [Target] {s : Setup}

/-! ## The root of an activity with another stage -/

/-- A change of the stage touches the reliability fields and the pin. -/
theorem toRoot_mapStage (e : Endpoint) (f : Stage → Stage) {item : Item}
    (hi : s.item e.activity = some item) :
    ({ e with activity := e.activity.mapStage f } : Endpoint).toRoot s =
      { e.toRoot s with
        session.reliableState := (f item.stage).state
        session.retransmissionsCommitted := (f item.stage).retries
        session.reliableLastCommittedMs := (f item.stage).committedMs
        outputSelection :=
          if (f item.stage).pinned then .reliable
          else if e.controlPinned then .control else .none } := by
  obtain ⟨activity, cursor, mode, modeValid, failure, abandoned, diagnostic, intake, events⟩ := e
  cases activity with
  | waitingForResponse id stage =>
      cases hi
      rfl
  | waitingForConfirm id received stage =>
      cases hi
      rfl
  | waitingForConfirmAck id received stage =>
      cases hi
      rfl
  | established id x =>
      obtain ⟨lastReceived, messageReceived, nextTransmit, outgoing, acknowledgement, unread⟩ := x
      cases outgoing with
      | none => cases hi
      | some outgoing =>
          cases hi
          rfl
  | _ => cases hi

/-- Showing the control item touches the control state and the pin. -/
theorem toRoot_peekControl (e : Endpoint) {item : ControlItem}
    (hc : e.activity.controlItem = some item) :
    ({ e with activity := e.activity.peekControl } : Endpoint).toRoot s =
      { e.toRoot s with
        controlOutputState := .peeked
        outputSelection := if e.reliablePinned s then .reliable else .control } := by
  obtain ⟨activity, cursor, mode, modeValid, failure, abandoned, diagnostic, intake, events⟩ := e
  cases activity with
  | recovering reset =>
      cases reset with
      | none => cases hc
      | some reset => rfl
  | established id x =>
      obtain ⟨lastReceived, messageReceived, nextTransmit, outgoing, acknowledgement, unread⟩ := x
      cases acknowledgement with
      | none => cases hc
      | some pinned => rfl
  | _ => cases hc

/-- Committing the control item clears its slot and the record of a recovery RESET. -/
theorem toRoot_commitControl (e : Endpoint) {item : ControlItem}
    (hc : e.activity.controlItem = some item) :
    ({ e with activity := e.activity.commitControl } : Endpoint).toRoot s =
      { e.toRoot s with
        controlOutput := []
        controlOutputState := .idle
        recoveryResetPending := 0
        recoveryResetSessionIdentifier := sessionSeedInvalid
        outputSelection := if e.reliablePinned s then .reliable else .none } := by
  obtain ⟨activity, cursor, mode, modeValid, failure, abandoned, diagnostic, intake, events⟩ := e
  cases activity with
  | recovering reset => rfl
  | established id x => rfl
  | _ => cases hc

/-! ## Peek -/

/-- The reliable output of an item with output pending is copied out and pinned. -/
theorem reliability_peekOutput {e : Endpoint} (h : e.activity.Wf s) (outBuffer : Option Nat)
    {item : Item} (hi : s.item e.activity = some item) (ho : item.stage.outputPending = true) :
    Reliability.peekOutput (e.toRoot s) outBuffer =
      let (status, size, bytes) := Endpoint.copyOut (e.toRoot s).encodedOutput outBuffer
      (status, size, bytes,
        if status = .ok then
          { e.toRoot s with session.reliableState := item.stage.peek.state }
        else e.toRoot s) := by
  have hstate : (e.toRoot s).session.reliableState = item.stage.state := by
    simp [Endpoint.toRoot, Endpoint.toSession, hi]
  unfold Reliability.peekOutput
  rw [if_neg (by simp [hasStorage_toRoot]), reliability_validateState h]
  simp only
  rw [if_neg (by simp), hstate, if_neg (Stage.state_of_outputPending ho), Stage.state_peek]
  cases outBuffer with
  | none => rfl
  | some outBufferSize =>
      unfold Endpoint.copyOut
      simp only
      split <;> rfl

theorem controlOutput_peekOutput {e : Endpoint} (h : e.activity.Wf s) (outBuffer : Option Nat)
    {item : ControlItem} (hi : e.activity.controlItem = some item) :
    ControlOutput.peekOutput (e.toRoot s) outBuffer =
      let (status, size, bytes) := Endpoint.copyOut (e.toRoot s).controlOutput outBuffer
      (status, size, bytes,
        if status = .ok then { e.toRoot s with controlOutputState := .peeked }
        else e.toRoot s) := by
  have hstate : (e.toRoot s).controlOutputState ≠ .idle := by
    cases hp : item.pinned <;> simp [Endpoint.toRoot, hi, hp]
  unfold ControlOutput.peekOutput
  rw [controlOutput_validateState h]
  simp only
  rw [if_neg (by simp), if_neg hstate]
  cases outBuffer with
  | none => rfl
  | some outBufferSize =>
      unfold Endpoint.copyOut
      simp only
      split <;> rfl

/-- The choice of the code is the endpoint's. -/
theorem selection_toRoot {e : Endpoint} (h : e.activity.Wf s) :
    (if (e.toRoot s).outputSelection ≠ .none then (e.toRoot s).outputSelection
      else if e.activity.controlItem.isSome = true then .control
      else if (s.item e.activity).elim false (fun item => item.stage.outputPending) = true then
        .reliable
      else .none) = e.selection s := by
  rw [outputSelection_toRoot]
  unfold Endpoint.selection
  cases hr : e.reliablePinned s with
  | true =>
      have hc := not_both_pinned h hr
      unfold Endpoint.reliablePinned at hr
      cases hi : s.item e.activity with
      | none => simp [hi] at hr
      | some item =>
          have hp : item.stage.pinned = true := by simpa [hi] using hr
          have ho := Stage.outputPending_of_pinned hp
          cases hci : e.activity.controlItem <;> simp [hp, ho]
  | false =>
      unfold Endpoint.reliablePinned at hr
      cases hi : s.item e.activity with
      | none =>
          cases hci : e.activity.controlItem with
          | none => simp [Endpoint.controlPinned, hci]
          | some control => cases hp : control.pinned <;> simp [Endpoint.controlPinned, hci, hp]
      | some item =>
          have hp : item.stage.pinned = false := by simpa [hi] using hr
          cases hci : e.activity.controlItem with
          | none => cases ho : item.stage.outputPending <;> simp [Endpoint.controlPinned, hci, ho]
          | some control =>
              cases hcp : control.pinned <;> simp [Endpoint.controlPinned, hci, hcp, hp]

/-- The selected lifecycle has something to show. -/
theorem selection_reliable {e : Endpoint} (h : e.selection s = .reliable) :
    ∃ item, s.item e.activity = some item ∧ item.stage.outputPending = true ∧
      (item.stage.pinned = true ∨ e.activity.controlItem = none) := by
  unfold Endpoint.selection at h
  cases hi : s.item e.activity with
  | none => cases hc : e.activity.controlItem <;> simp [hi, hc] at h
  | some item =>
      refine ⟨item, rfl, ?_⟩
      cases hc : e.activity.controlItem with
      | none =>
          simp only [hi, hc] at h
          by_contra hne
          rw [if_neg (by simpa using hne)] at h
          cases h
      | some control =>
          simp only [hi, hc] at h
          by_cases hp : item.stage.pinned = true
          · exact ⟨Stage.outputPending_of_pinned hp, Or.inl hp⟩
          · rw [if_neg hp] at h
            cases h

theorem selection_control {e : Endpoint} (h : e.selection s = .control) :
    ∃ item, e.activity.controlItem = some item ∧ e.reliablePinned s = false := by
  unfold Endpoint.selection at h
  unfold Endpoint.reliablePinned
  cases hc : e.activity.controlItem with
  | none =>
      cases hi : s.item e.activity with
      | none => simp [hi, hc] at h
      | some item =>
          simp only [hi, hc] at h
          split at h <;> cases h
  | some control =>
      refine ⟨control, rfl, ?_⟩
      cases hi : s.item e.activity with
      | none => rfl
      | some item =>
          simp only [hi, hc] at h
          cases hp : item.stage.pinned with
          | false => simpa using hp
          | true => simp [hp] at h

theorem selection_cases (e : Endpoint) :
    e.selection s = .none ∨ e.selection s = .reliable ∨ e.selection s = .control := by
  unfold Endpoint.selection
  split
  · split <;> simp
  · split <;> simp
  · simp
  · simp

theorem peekOutput_refines {e : Endpoint} (h : e.activity.Wf s) (outBuffer : Option Nat) :
    Output.peekOutput (e.toRoot s) outBuffer =
      let (status, size, bytes, next) := e.peekOutput s outBuffer
      (status, size, bytes, next.toRoot s) := by
  unfold Output.peekOutput
  rw [if_neg (not_fault_toRoot e), output_validateState h]
  simp only
  rw [if_neg (by simp), selection_toRoot h]
  unfold Endpoint.peekOutput
  rcases selection_cases e with hsel | hsel | hsel
  · rw [hsel]
    rfl
  · obtain ⟨item, hi, ho, hpin⟩ := selection_reliable hsel
    have hout : (e.toRoot s).encodedOutput = encodedFrame item.frame := by
      simp [Endpoint.toRoot, hi]
    have hpeek := reliability_peekOutput h outBuffer hi ho
    rw [hout] at hpeek
    rw [hsel, if_neg (show ¬ OutputSelection.reliable = .none by simp),
      if_neg (show ¬ OutputSelection.reliable = .control by simp), hpeek, hi]
    rcases hcopy : Endpoint.copyOut (encodedFrame item.frame) outBuffer with ⟨status, size, bytes⟩
    simp only [hcopy]
    by_cases hok : status = .ok
    · simp only [if_pos hok]
      rw [toRoot_mapStage e Stage.peek hi, Stage.pinned_peek ho, Stage.retries_peek,
        Stage.committedMs_peek]
      simp [Endpoint.toRoot, Endpoint.toSession, hi]
    · simp only [if_neg hok]
  · obtain ⟨item, hi, hpin⟩ := selection_control hsel
    have hout : (e.toRoot s).controlOutput = encodedFrame item.frame := by
      simp [Endpoint.toRoot, hi]
    have hpeek := controlOutput_peekOutput h outBuffer hi
    rw [hout] at hpeek
    rw [hsel, if_neg (show ¬ OutputSelection.control = .none by simp),
      if_pos (show OutputSelection.control = .control from rfl), hpeek, hi]
    rcases hcopy : Endpoint.copyOut (encodedFrame item.frame) outBuffer with ⟨status, size, bytes⟩
    simp only [hcopy]
    by_cases hok : status = .ok
    · simp only [if_pos hok]
      rw [toRoot_peekControl e hi, hpin]
      rfl
    · simp only [if_neg hok]

/-! ## Commit -/

theorem reliability_commitOutput {e : Endpoint} (h : e.activity.Wf s) (nowMs : UInt32)
    {item : Item} (hi : s.item e.activity = some item) (hp : item.stage.pinned = true) :
    Reliability.commitOutput (e.toRoot s) nowMs =
      (.ok,
        { e.toRoot s with
          session.retransmissionsCommitted := (item.stage.commit nowMs).retries
          session.reliableLastCommittedMs := nowMs
          session.reliableState := .awaitingAck }) := by
  have hstate : (e.toRoot s).session.reliableState = item.stage.state := by
    simp [Endpoint.toRoot, Endpoint.toSession, hi]
  have hretries : (e.toRoot s).session.retransmissionsCommitted = item.stage.retries := by
    simp [Endpoint.toRoot, Endpoint.toSession, hi]
  unfold Reliability.commitOutput
  rw [if_neg (by simp [hasStorage_toRoot]), reliability_validateState h]
  simp only
  rw [if_neg (by simp), hstate, hretries, if_neg (Stage.state_of_pinned hp),
    Stage.retries_commit hp]

/-- The committed reliable item awaits its acknowledgement. -/
theorem commitOutput_reliable {e : Endpoint} (h : e.activity.Wf s) (nowMs : UInt32)
    (hp : e.reliablePinned s = true) :
    Output.commitOutput (e.toRoot s) nowMs =
      (.ok, ({ e with activity := e.activity.mapStage (Stage.commit nowMs) } : Endpoint).toRoot s)
    := by
  have hcontrol := not_both_pinned h hp
  have hsel : (e.toRoot s).outputSelection = .reliable := by simp [outputSelection_toRoot, hp]
  obtain ⟨item, hi, hp'⟩ := Endpoint.reliablePinned_iff.mp hp
  unfold Output.commitOutput
  rw [if_neg (not_fault_toRoot e), output_validateState h]
  simp only
  rw [if_neg (by simp), hsel, if_neg (show ¬ OutputSelection.reliable = .none by simp),
    if_pos (show OutputSelection.reliable = .reliable from rfl),
    reliability_commitOutput h nowMs hi hp']
  simp only
  rw [if_neg (by simp), if_neg (by simp [hsel]), toRoot_mapStage e (Stage.commit nowMs) hi,
    hcontrol]
  obtain ⟨hstate, hms, hpinned⟩ := Stage.commit_of_pinned nowMs hp'
  rw [hstate, hms, hpinned]
  rfl

/-- The committed control item leaves its slot, and with it a recovery RESET is done. -/
theorem commitOutput_control {e : Endpoint} (h : e.activity.Wf s) (nowMs : UInt32)
    (hr : e.reliablePinned s = false) (hp : e.controlPinned = true) :
    Output.commitOutput (e.toRoot s) nowMs =
      (.ok, ({ e with activity := e.activity.commitControl } : Endpoint).toRoot s) := by
  have hsel : (e.toRoot s).outputSelection = .control := by simp [outputSelection_toRoot, hr, hp]
  obtain ⟨item, hi, hp'⟩ := Endpoint.controlPinned_iff.mp hp
  have hstate : (e.toRoot s).controlOutputState = .peeked := by simp [Endpoint.toRoot, hi, hp']
  unfold Output.commitOutput
  rw [if_neg (not_fault_toRoot e), output_validateState h]
  simp only
  rw [if_neg (by simp), hsel, if_neg (show ¬ OutputSelection.control = .none by simp),
    if_neg (show ¬ OutputSelection.control = .reliable by simp)]
  have hcommit : ControlOutput.commitOutput (e.toRoot s) =
      (.ok, { e.toRoot s with controlOutput := [], controlOutputState := .idle }) := by
    unfold ControlOutput.commitOutput
    rw [controlOutput_validateState h]
    simp only
    rw [if_neg (by simp), if_neg (by simp [hstate])]
  rw [hcommit, toRoot_commitControl e hi, hr]
  simp only [hsel, true_and]
  cases hreset : e.activity.recoveryReset with
  | none => simp [Endpoint.toRoot, hreset]
  | some reset => simp [Endpoint.toRoot, hreset]

theorem commitOutput_refines {e : Endpoint} (h : e.activity.Wf s) (nowMs : UInt32) :
    Output.commitOutput (e.toRoot s) nowMs =
      let (status, next) := e.commitOutput s nowMs
      (status, next.toRoot s) := by
  unfold Endpoint.commitOutput
  by_cases hr : e.reliablePinned s = true
  · rw [if_pos hr]
    exact commitOutput_reliable h nowMs hr
  · have hr' : e.reliablePinned s = false := by simpa using hr
    rw [if_neg hr]
    by_cases hp : e.controlPinned = true
    · rw [if_pos hp]
      exact commitOutput_control h nowMs hr' hp
    · rw [if_neg hp]
      have hsel : (e.toRoot s).outputSelection = .none := by
        simp [outputSelection_toRoot, hr', hp]
      unfold Output.commitOutput
      rw [if_neg (not_fault_toRoot e), output_validateState h]
      simp only
      rw [if_neg (by simp), if_pos hsel]

end

end HilRigProtocol.Transport
