/-
  The public calls on the abstract endpoint. `Endpoint.step` has the calls and the
  responses of the code; it has no check that can fail on a well-formed endpoint.
-/
import HilRigProtocol.Transport.EndpointReceive

namespace HilRigProtocol.Transport

/-- The stage after the caller has been shown the bytes. -/
def Stage.peek : Stage → Stage
  | .ready => .peeked
  | .retransmitReady retries ms => .retransmitPeeked retries ms
  | stage => stage

/-- The stage after the pinned bytes have been committed. -/
def Stage.commit (nowMs : UInt32) : Stage → Stage
  | .peeked => .awaitingAck 0 nowMs
  | .retransmitPeeked retries _ => .awaitingAck (retries + 1) nowMs
  | stage => stage

namespace Activity

/-- The activity with another stage of its reliable item. -/
def mapStage (f : Stage → Stage) : Activity → Activity
  | waitingForResponse id stage => waitingForResponse id (f stage)
  | waitingForConfirm id received stage => waitingForConfirm id received (f stage)
  | waitingForConfirmAck id received stage => waitingForConfirmAck id received (f stage)
  | established id x =>
      established id
        { x with outgoing := x.outgoing.map fun outgoing => (outgoing.1, f outgoing.2) }
  | activity => activity

/-- The activity whose control item the caller has been shown. -/
def peekControl : Activity → Activity
  | recovering reset => recovering (reset.map fun r => { r with pinned := true })
  | established id x =>
      established id { x with acknowledgement := x.acknowledgement.map fun _ => true }
  | activity => activity

/-- The activity whose control item has been committed. -/
def commitControl : Activity → Activity
  | recovering _ => recovering none
  | established id x => established id { x with acknowledgement := none }
  | activity => activity

/-- The session whose peer an explicit reset has to tell. -/
def notification (activity : Activity) : Option UInt64 :=
  match activity.recoveryReset with
  | some pending => some pending.identifier
  | none => activity.identifier

end Activity

namespace Endpoint

/-! ## Output -/

/-- The result of copying `bytes` to the caller, without the transition. -/
def copyOut (bytes : List UInt8) (outBuffer : Option Nat) : Status × Nat × List UInt8 :=
  match outBuffer with
  | none => (.bufferTooSmall, bytes.length, [])
  | some outBufferSize =>
      if outBufferSize < bytes.length then (.bufferTooSmall, bytes.length, [])
      else (.ok, bytes.length, bytes)

section
variable [Target] (s : Setup)

/-- The output that the next peek shows: what is pinned, else control before
    reliable. -/
def selection (e : Endpoint) : OutputSelection :=
  match s.item e.activity, e.activity.controlItem with
  | some item, some _ => if item.stage.pinned then .reliable else .control
  | some item, none => if item.stage.outputPending then .reliable else .none
  | none, some _ => .control
  | none, none => .none

/-- `Peek_Output` -/
def peekOutput (e : Endpoint) (outBuffer : Option Nat) : Status × Nat × List UInt8 × Endpoint :=
  match e.selection s, s.item e.activity, e.activity.controlItem with
  | .reliable, some item, _ =>
      let (status, size, bytes) := copyOut (encodedFrame item.frame) outBuffer
      (status, size, bytes,
        if status = .ok then { e with activity := e.activity.mapStage Stage.peek } else e)
  | .control, _, some item =>
      let (status, size, bytes) := copyOut (encodedFrame item.frame) outBuffer
      (status, size, bytes,
        if status = .ok then { e with activity := e.activity.peekControl } else e)
  | _, _, _ => (.notReady, 0, [], e)

/-- The reliable item is pinned. -/
def reliablePinned (e : Endpoint) : Bool :=
  (s.item e.activity).elim false fun item => item.stage.pinned

/-- The control item is pinned. -/
def controlPinned (e : Endpoint) : Bool := e.activity.controlItem.elim false ControlItem.pinned

variable {s} in
theorem reliablePinned_iff {e : Endpoint} :
    e.reliablePinned s = true ↔
      ∃ item, s.item e.activity = some item ∧ item.stage.pinned = true := by
  unfold reliablePinned
  cases s.item e.activity with
  | none => simp
  | some item => simp

omit [Target] in
theorem controlPinned_iff {e : Endpoint} :
    e.controlPinned = true ↔
      ∃ item, e.activity.controlItem = some item ∧ item.pinned = true := by
  unfold controlPinned
  cases e.activity.controlItem with
  | none => simp
  | some item => simp

/-- The reliable item is pinned, or else the control item, or nothing. -/
theorem pinned_cases (e : Endpoint) :
    (e.reliablePinned s = true ∧
        ∃ item, s.item e.activity = some item ∧ item.stage.pinned = true) ∨
      (¬ e.reliablePinned s = true ∧ e.controlPinned = true ∧
        ∃ item, e.activity.controlItem = some item ∧ item.pinned = true) ∨
      (¬ e.reliablePinned s = true ∧ ¬ e.controlPinned = true) := by
  by_cases hreliable : e.reliablePinned s = true
  · exact Or.inl ⟨hreliable, reliablePinned_iff.mp hreliable⟩
  · by_cases hcontrol : e.controlPinned = true
    · exact Or.inr (Or.inl ⟨hreliable, hcontrol, controlPinned_iff.mp hcontrol⟩)
    · exact Or.inr (Or.inr ⟨hreliable, hcontrol⟩)

/-- `Commit_Output` -/
def commitOutput (e : Endpoint) (nowMs : UInt32) : Status × Endpoint :=
  if e.reliablePinned s then (.ok, { e with activity := e.activity.mapStage (Stage.commit nowMs) })
  else if e.controlPinned then (.ok, { e with activity := e.activity.commitControl })
  else (.notReady, e)

/-! ## Application data and events -/

/-- `Submit_Application_Data` -/
def submit (e : Endpoint) (payload : List UInt8) : Status × Endpoint :=
  if payload = [] then (.invalidArgument, e)
  else
    match e.activity with
    | .established id x =>
        if payload.length > s.config.maxApplicationMessageSize then (.messageTooLarge, e)
        else if x.outgoing.isSome then (.capacityExhausted, e)
        else
          (.ok, { e with
            activity := .established id { x with outgoing := some (payload, .ready) } })
    | _ => (.notReady, e)

/-- `Read_Application_Data` -/
def readMessage (e : Endpoint) (outBuffer : Option Nat) : Status × Nat × List UInt8 × Endpoint :=
  match e.activity with
  | .established id x =>
      match x.unread with
      | none => (.notReady, 0, [], e)
      | some payload =>
          let (status, size, bytes) := copyOut payload outBuffer
          (status, size, bytes,
            if status = .ok then { e with activity := .established id { x with unread := none } }
            else e)
  | _ => (.notReady, 0, [], e)

/-- `Read_Event` -/
def readEvent (e : Endpoint) : Status × Option Event × Endpoint :=
  if e.events.count = 0 then (.notReady, none, e)
  else (.ok, some (e.events.queue (e.events.slot 0)), { e with events := e.events.pop })

/-- `Get_Status` -/
def status (e : Endpoint) : StatusSnapshot where
  role := s.role
  linkState := e.activity.linkState
  sessionState := e.activity.sessionState
  operatingMode := e.operatingMode
  operatingModeValid := if e.operatingModeValid then 1 else 0
  outputPending :=
    (s.item e.activity).elim false (fun item => item.stage.outputPending)
      || e.activity.controlItem.isSome
  applicationMessagePending := if e.activity.unread.isSome then 1 else 0
  eventPending := decide (e.events.count ≠ 0)
  reliableDeliveryPending := (s.item e.activity).isSome
  lastFailure := e.lastFailure

/-! ## Lifecycle -/

/-- `Reset` -/
def reset (e : Endpoint) : Endpoint :=
  { e with
    activity :=
      if e.activity.linkState = .disconnected then e.activity
      else .recovering (e.activity.notification.map fun id => ⟨id, false⟩)
    lastFailure := .localReset
    abandoned := e.activity.notification.or e.abandoned
    intake := .filling []
    diagnosticPending := false
    events := e.events.clear }

/-- Both of two events found a place. -/
def bothOk (first second : Status) : Status :=
  if first = .ok ∧ second = .ok then .ok else .capacityExhausted

/-- `Notify_Link_State` -/
def notifyLinkState (e : Endpoint) (linkState : LinkState) : Status × Endpoint :=
  match linkState, e.activity with
  | .disconnected, .disconnected false =>
      (.ok, { e with activity := .disconnected true, abandoned := none })
  | .disconnected, .disconnected true => (.ok, e)
  | .disconnected, _ =>
      let (linkStatus, published) := e.publish (Session.linkEvent .disconnected)
      let (resetStatus, abandoned) := published.abandon (.disconnected true) .linkLost
      (bothOk linkStatus resetStatus, { abandoned with abandoned := none })
  | .connected, .disconnected _ =>
      let (linkStatus, published) := e.publish (Session.linkEvent .connected)
      (linkStatus, published.beginEstablishment s)
  | .connected, _ => (.ok, e)
  | .unlisted _, _ => (.invalidArgument, e)

/-- The handshake frame that is due becomes the reliable item. -/
def publishHandshake (e : Endpoint) : Endpoint :=
  match e.activity with
  | .initiatePending id => { e with activity := .waitingForResponse id .ready }
  | .responsePending id received => { e with activity := .waitingForConfirm id received .ready }
  | .confirmPending id received => { e with activity := .waitingForConfirmAck id received .ready }
  | _ => e

/-! ## Time -/

/-- An item whose acknowledgement is late by now is due again, or given up. -/
def timeout (nowMs : UInt32) (stage : Stage) : Stage :=
  match stage with
  | .awaitingAck _ ms =>
      if s.config.retransmitTimeoutMs = 0 ∨ nowMs - ms < s.config.retransmitTimeoutMs then stage
      else s.retry stage
  | stage => stage

/-- The retained item has no retry left. -/
def exhausted (e : Endpoint) : Bool :=
  (s.item e.activity).elim false fun item => item.stage.state == .exhausted

/-- The event of a message that is given up. -/
def failedEvent : Event where
  type := .deliveryFailed
  status := .deliveryFailed
  failure := .delivery
  requiredCapacity := 0

/-- The end of a session whose item is exhausted. A message is reported first, and
    waits for a place in the queue. -/
def giveUp (e : Endpoint) : Status × Endpoint :=
  match e.activity with
  | .established _ _ =>
      let (status, published) := e.publish failedEvent
      if status = .ok then (.deliveryFailed, (published.beginLocalRecovery .delivery).2)
      else (.capacityExhausted, e)
  | _ => e.beginLocalRecovery .delivery

/-- The due handshake frame, then the retry timer, then its end. -/
def progress (e : Endpoint) (nowMs : UInt32) : Status × Endpoint :=
  let e := e.publishHandshake
  let e := { e with activity := e.activity.mapStage (timeout s nowMs) }
  if e.exhausted s then e.giveUp else (.ok, e)

/-- `Process` on a connected endpoint, after the receive work. -/
def processSettled (e : Endpoint) (nowMs : UInt32) : Status × Endpoint :=
  match e.activity with
  | .recovering (some _) => (.ok, e)
  | .recovering none =>
      if e.intake = .filling [] then (e.beginEstablishment s).progress s nowMs else (.ok, e)
  | _ => e.progress s nowMs

/-- `Process` -/
def process (e : Endpoint) (nowMs : UInt32) (operatingMode : OperatingMode) : Status × Endpoint :=
  if operatingMode.isListed then
    let e := { e with operatingMode := operatingMode, operatingModeValid := true }
    if e.activity.linkState = .disconnected then (.ok, e)
    else
      let (status, e) :=
        if e.diagnosticPending ∨ e.intake.isReady then e.settle s else (.ok, e)
      if status ≠ .ok then (status, e) else e.processSettled s nowMs
  else (.invalidArgument, e)

/-! ## The step -/

/-- One public call. -/
def step (e : Endpoint) : Call → Response × Endpoint
  | .reset => (.ofStatus .ok, e.reset)
  | .notifyLinkState linkState _ =>
      let (status, e) := e.notifyLinkState s linkState
      (.ofStatus status, e)
  | .submitApplicationData payload =>
      let (status, e) := e.submit s payload
      (.ofStatus status, e)
  | .receiveBytes data =>
      let (status, consumed, e) := e.receiveBytes s data
      ({ Response.ofStatus status with size := consumed }, e)
  | .process nowMs operatingMode =>
      let (status, e) := e.process s nowMs operatingMode
      (.ofStatus status, e)
  | .peekOutput outBuffer =>
      let (status, outputSize, bytes, e) := e.peekOutput s outBuffer
      ({ Response.ofStatus status with size := outputSize, bytes := bytes }, e)
  | .commitOutput nowMs =>
      let (status, e) := e.commitOutput s nowMs
      (.ofStatus status, e)
  | .readApplicationData outBuffer =>
      let (status, messageSize, bytes, e) := e.readMessage outBuffer
      ({ Response.ofStatus status with size := messageSize, bytes := bytes }, e)
  | .readEvent =>
      let (status, event, e) := e.readEvent
      ({ Response.ofStatus status with event := event }, e)
  | .getStatus => ({ Response.ofStatus .ok with snapshot := some (e.status s) }, e)

end

end Endpoint

end HilRigProtocol.Transport
