/-
  The statuses that the calls on an endpoint return. The receive path returns OK or
  CAPACITY_EXHAUSTED only; no call returns INTERNAL_ERROR.
-/
import HilRigProtocol.Transport.EndpointWf

namespace HilRigProtocol.Transport

/-- The work is done, or something of it has to wait for a free place. -/
def Status.Resolved (status : Status) : Prop := status = .ok ∨ status = .capacityExhausted

theorem Status.Resolved.ne_internalError {status : Status} (h : status.Resolved) :
    status ≠ .internalError := by
  rcases h with rfl | rfl <;> simp

namespace Endpoint

theorem resolved_publish (e : Endpoint) (event : Event) : (e.publish event).1.Resolved := by
  rw [publish_status]
  cases e.events.full with
  | true => exact Or.inr rfl
  | false => exact Or.inl rfl

theorem resolved_abandon (e : Endpoint) (next : Activity) (failure : Failure) :
    (e.abandon next failure).1.Resolved :=
  resolved_publish _ _

theorem resolved_rejectSession (e : Endpoint) : e.rejectSession.1.Resolved := by
  by_cases hp : ∃ reset, e.activity = .recovering (some reset)
  · obtain ⟨reset, hr⟩ := hp
    rw [rejectSession_pending hr]
    exact resolved_publish _ _
  · rw [rejectSession_recover (not_exists.mp hp)]
    dsimp only
    split_ifs
    · exact resolved_abandon _ _ _
    · exact Or.inr rfl

section
variable [Target] {s : Setup}

theorem resolved_resolve (e : Endpoint) (frame : Frame) (verdict : Verdict) :
    (e.resolve s frame verdict).1.Resolved := by
  cases verdict with
  | obsolete => exact resolved_publish e _
  | incompatible => exact resolved_rejectSession e
  | acceptReset => exact resolved_abandon e _ _
  | _ => exact Or.inl rfl

theorem resolved_processBody (e : Endpoint) (body : List UInt8) :
    (e.processBody s body).1.Resolved := by
  unfold processBody attempt
  dsimp only
  split_ifs
  · exact resolved_resolve _ _ _
  · exact Or.inr rfl

theorem resolved_advanceIfOk {result : Status × Endpoint} (h : result.1.Resolved) :
    (advanceIfOk s result).1.Resolved := by
  unfold advanceIfOk
  split_ifs
  · exact Or.inl rfl
  · exact h

theorem resolved_feedByte (e : Endpoint) (byte : UInt8) : (e.feedByte s byte).1.Resolved := by
  unfold feedByte
  cases e.intake with
  | filling bytes =>
      dsimp only
      split_ifs
      · exact Or.inl rfl
      · exact resolved_advanceIfOk (resolved_processBody _ _)
      · exact Or.inl rfl
      · exact Or.inl rfl
  | discarding =>
      dsimp only
      split_ifs
      · exact resolved_advanceIfOk (resolved_publish _ _)
      · exact Or.inl rfl
  | ready body => exact Or.inl rfl

theorem resolved_feed (data : List UInt8) (e : Endpoint) : (e.feed s data).1.Resolved := by
  induction data generalizing e with
  | nil => exact Or.inl rfl
  | cons byte rest ih =>
      unfold feed
      dsimp only
      split_ifs
      · exact resolved_feedByte e byte
      · exact ih _

theorem resolved_settle (e : Endpoint) : (e.settle s).1.Resolved := by
  unfold settle
  dsimp only
  split_ifs
  · unfold settleDiagnostic
    split_ifs
    · exact resolved_publish _ _
    · exact Or.inl rfl
  · apply resolved_advanceIfOk
    unfold settleBody
    split
    · exact resolved_processBody _ _
    · exact Or.inl rfl

theorem receiveBytes_status (e : Endpoint) (data : List UInt8) :
    (e.receiveBytes s data).1 = .notReady ∨ (e.receiveBytes s data).1.Resolved := by
  unfold receiveBytes
  split_ifs
  · exact Or.inl rfl
  · dsimp only
    split_ifs
    · exact Or.inr (resolved_settle e)
    · exact Or.inr (resolved_feed data _)

theorem process_status (e : Endpoint) (nowMs : UInt32) (operatingMode : OperatingMode) :
    (e.process s nowMs operatingMode).1 = .invalidArgument ∨
      (e.process s nowMs operatingMode).1 = .deliveryFailed ∨
      (e.process s nowMs operatingMode).1.Resolved := by
  have hprogress : ∀ e : Endpoint, (e.progress s nowMs).1 = .deliveryFailed ∨
      (e.progress s nowMs).1.Resolved := by
    intro e
    unfold progress
    dsimp only
    split_ifs
    · unfold giveUp
      split
      · dsimp only
        split_ifs
        · exact Or.inl rfl
        · exact Or.inr (Or.inr rfl)
      · exact Or.inr (resolved_abandon _ _ _)
    · exact Or.inr (Or.inl rfl)
  have hsettled : ∀ e : Endpoint, (e.processSettled s nowMs).1 = .deliveryFailed ∨
      (e.processSettled s nowMs).1.Resolved := by
    intro e
    unfold processSettled
    split
    · exact Or.inr (Or.inl rfl)
    · split_ifs
      · exact hprogress _
      · exact Or.inr (Or.inl rfl)
    · exact hprogress e
  unfold process
  dsimp only
  split_ifs
  · exact Or.inr (Or.inr (Or.inl rfl))
  · exact Or.inr (Or.inr (resolved_settle _))
  · exact Or.inr (hsettled _)
  · exact Or.inr (Or.inr (Or.inl rfl))
  · exact Or.inr (hsettled _)
  · exact Or.inl rfl

omit [Target] in
theorem copyOut_status (bytes : List UInt8) (outBuffer : Option Nat) :
    (copyOut bytes outBuffer).1 ≠ .internalError := by
  unfold copyOut
  split
  · simp
  · split_ifs <;> simp

theorem peekOutput_status (e : Endpoint) (outBuffer : Option Nat) :
    (e.peekOutput s outBuffer).1 ≠ .internalError := by
  unfold peekOutput
  split
  · exact copyOut_status _ _
  · exact copyOut_status _ _
  · simp

omit [Target] in
theorem readMessage_status (e : Endpoint) (outBuffer : Option Nat) :
    (e.readMessage outBuffer).1 ≠ .internalError := by
  unfold readMessage
  split
  · split
    · simp
    · exact copyOut_status _ _
  · simp

theorem notifyLinkState_status (e : Endpoint) (linkState : LinkState) :
    (e.notifyLinkState s linkState).1 = .invalidArgument ∨
      (e.notifyLinkState s linkState).1.Resolved := by
  unfold notifyLinkState
  split
  · exact Or.inr (Or.inl rfl)
  · exact Or.inr (Or.inl rfl)
  · right
    dsimp only
    unfold bothOk
    split_ifs
    · exact Or.inl rfl
    · exact Or.inr rfl
  · exact Or.inr (resolved_publish _ _)
  · exact Or.inr (Or.inl rfl)
  · exact Or.inl rfl

/-- No call reports an internal error. -/
theorem step_status (e : Endpoint) (call : Call) : (e.step s call).1.status ≠ .internalError := by
  cases call with
  | reset => exact fun h => by cases h
  | notifyLinkState linkState nowMs =>
      rcases notifyLinkState_status (s := s) e linkState with h | h
      · exact fun hbad => by rw [show (e.step s (.notifyLinkState linkState nowMs)).1.status =
          (e.notifyLinkState s linkState).1 from rfl, h] at hbad; cases hbad
      · exact h.ne_internalError
  | submitApplicationData payload =>
      show (e.submit s payload).1 ≠ .internalError
      unfold submit
      by_cases hempty : payload = []
      · rw [if_pos hempty]
        simp
      · rw [if_neg hempty]
        split
        · split_ifs <;> simp
        · simp
  | receiveBytes data =>
      show (e.receiveBytes s data).1 ≠ .internalError
      rcases receiveBytes_status (s := s) e data with h | h
      · rw [h]
        simp
      · exact h.ne_internalError
  | process nowMs operatingMode =>
      show (e.process s nowMs operatingMode).1 ≠ .internalError
      rcases process_status (s := s) e nowMs operatingMode with h | h | h
      · rw [h]
        simp
      · rw [h]
        simp
      · exact h.ne_internalError
  | peekOutput outBuffer => exact peekOutput_status e outBuffer
  | commitOutput nowMs =>
      show (e.commitOutput s nowMs).1 ≠ .internalError
      unfold commitOutput
      split_ifs <;> simp
  | readApplicationData outBuffer => exact readMessage_status e outBuffer
  | readEvent =>
      show e.readEvent.1 ≠ .internalError
      unfold readEvent
      split_ifs <;> simp
  | getStatus => exact fun h => by cases h

end

end Endpoint

end HilRigProtocol.Transport
