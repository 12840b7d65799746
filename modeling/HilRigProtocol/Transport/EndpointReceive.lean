/-
  What the abstract endpoint does with received bytes.

  A complete body gets a `Verdict`, which does not look at buffers or queues. Each
  verdict needs certain free places (`available`): without them the body stays where
  it is and nothing changes, with them `resolve` performs the whole transition.
-/
import HilRigProtocol.Transport.Endpoint

namespace HilRigProtocol.Transport

/-- What a received body means to an endpoint. -/
inductive Verdict
  /-- Malformed, or a frame that is late: one diagnostic. -/
  | reject
  /-- Of the session abandoned last, or not for an unbound rig: one diagnostic. -/
  | obsolete
  /-- Not possible in this session: the session is abandoned. -/
  | incompatible
  /-- Acknowledges an item whose retransmission is pinned. -/
  | blocked
  /-- The ACK of CONFIRM once more. -/
  | duplicate
  /-- The frame that the retained handshake frame answers, once more. -/
  | repeatWork
  /-- The last acknowledged frame once more. -/
  | repeatAck
  | adopt
  | acceptResponse
  | acceptConfirm
  | acceptConfirmAck
  | acceptDelivery
  | acceptMessage
  /-- A message that proves to the host that its CONFIRM was accepted. -/
  | prove
  | acceptReset
  deriving DecidableEq, Repr

/-- The order of a received sequence after the last accepted one. -/
def sequenceAfter (received sequence : UInt16) : RxSequenceResult :=
  if sequence = received + 1 then .expected
  else if sequence = received then .duplicate
  else if sequence - (received + 1) > 0x8000 then .stale
  else .incompatible

/-- What an acknowledgement of the item's sequence, or of another one, does to it. -/
def Stage.ackResult (stage : Stage) (sameSequence : Bool) : HandshakeAckResult :=
  if sameSequence then
    if stage.acceptsAck then .matched
    else if stage.state = .retransmitPeeked then .blockedByPinnedRetry
    else .unexpected
  else .unexpected

/-- The verdict on an acknowledgement. -/
def Verdict.ofAck (ackResult : HandshakeAckResult) (matched unexpected : Verdict) : Verdict :=
  match ackResult with
  | .matched => matched
  | .blockedByPinnedRetry => .blocked
  | .unexpected => unexpected

/-- The verdict on an application message. -/
def Activity.classifyMessage (activity : Activity) (frame : Frame) : Verdict :=
  match activity with
  | .established _ x =>
      match sequenceAfter x.lastReceived frame.sequence with
      | .expected => .acceptMessage
      | .duplicate => if x.messageReceived then .repeatAck else .incompatible
      | _ => .incompatible
  | .waitingForConfirmAck _ received stage =>
      if sequenceAfter received frame.sequence ≠ .expected then .incompatible
      else if stage.pinned then .blocked
      else if stage.acceptsAck then .prove
      else .incompatible
  | _ => .incompatible

/-- What a host or a rig holds right after the handshake. -/
def Exchange.initial (received nextTransmit : UInt16) : Exchange where
  lastReceived := received
  messageReceived := false
  nextTransmit := nextTransmit
  outgoing := none
  acknowledgement := none
  unread := none

/-- The exchange after a message in order. -/
def Exchange.receive (x : Exchange) (frame : Frame) : Exchange :=
  { x with
    lastReceived := frame.sequence
    messageReceived := true
    acknowledgement := some false
    unread := some frame.payload }

namespace Setup

section
variable [Target] (s : Setup)

def sequenceResult (activity : Activity) (sequence : UInt16) : RxSequenceResult :=
  match s.accepted activity with
  | none => .expected
  | some accepted => sequenceAfter accepted.sequence sequence

/-- The frame is the last accepted one in all recorded fields. -/
def isExactDuplicate (activity : Activity) (frame : Frame) : Bool :=
  match s.accepted activity with
  | none => false
  | some accepted =>
      frame.sequence == accepted.sequence && frame.type == accepted.type
        && frame.acknowledgementSequence == accepted.acknowledgementSequence

/-- The verdict on a handshake frame with a sequence, from what is done with it in
    order and once more. -/
def inOrder (activity : Activity) (frame : Frame) (expected again : Verdict) : Verdict :=
  match s.sequenceResult activity frame.sequence with
  | .duplicate => if s.isExactDuplicate activity frame then again else .incompatible
  | .stale => .reject
  | .incompatible => .incompatible
  | .expected => expected

def classifyInitiate (activity : Activity) (frame : Frame) : Verdict :=
  s.inOrder activity frame
    (match activity with
      | .waitingForInitiate => .adopt
      | _ => .reject)
    (match activity with
      | .responsePending _ _ | .waitingForConfirm _ _ _ => .repeatWork
      | _ => .reject)

def classifyResponse (activity : Activity) (frame : Frame) : Verdict :=
  s.inOrder activity frame
    (match activity with
      | .waitingForResponse _ stage =>
          .ofAck (stage.ackResult (frame.acknowledgementSequence == s.firstSequence))
            .acceptResponse .incompatible
      | _ => .reject)
    (match activity with
      | .confirmPending _ _ | .waitingForConfirmAck _ _ _ => .repeatWork
      | _ => .reject)

def classifyConfirm (activity : Activity) (frame : Frame) : Verdict :=
  s.inOrder activity frame
    (match activity with
      | .waitingForConfirm _ _ stage =>
          .ofAck (stage.ackResult (frame.acknowledgementSequence == s.firstSequence))
            .acceptConfirm .incompatible
      | _ => .reject)
    (match activity with
      | .established _ _ => .repeatAck
      | _ => .reject)

def classifyAck (activity : Activity) (frame : Frame) : Verdict :=
  match activity with
  | .established _ x =>
      match x.outgoing with
      | some (_, stage) =>
          .ofAck (stage.ackResult (frame.acknowledgementSequence == x.nextTransmit))
            .acceptDelivery .reject
      | none =>
          if s.role = .host ∧ frame.acknowledgementSequence = s.firstSequence + 1 then .duplicate
          else .reject
  | .waitingForConfirmAck _ _ stage =>
      .ofAck (stage.ackResult (frame.acknowledgementSequence == s.firstSequence + 1))
        .acceptConfirmAck .reject
  | .recovering _ => .incompatible
  | _ => if s.role = .host then .reject else .incompatible

/-- One more transmission of the retained handshake frame, if it awaits its answer. -/
def retry (stage : Stage) : Stage :=
  match stage with
  | .awaitingAck retries ms =>
      if retries < s.config.maxRetries then .retransmitReady retries ms
      else .exhausted retries ms
  | stage => stage

/-- The activity after the answered frame came once more. -/
def afterRepeat : Activity → Activity
  | .waitingForConfirm id received stage =>
      .waitingForConfirm id received (s.retry stage)
  | .waitingForConfirmAck id received stage =>
      .waitingForConfirmAck id received (s.retry stage)
  | activity => activity

/-- The host's established activity. -/
def hostEstablished (id : UInt64) (received : UInt16) : Activity :=
  .established id (Exchange.initial received (s.firstSequence + 1 + 1))

end

end Setup

namespace Endpoint

/-! ## Building blocks -/

/-- An event, if the queue has a place for it. -/
def publish (e : Endpoint) (event : Event) : Status × Endpoint :=
  if e.events.full then (.capacityExhausted, e)
  else (.ok, { e with events := e.events.push event })

/-- The event of an abandonment. -/
def resetEvent (failure : Failure) : Event where
  type := .sessionReset
  status := if failure = .delivery then .deliveryFailed else .notReady
  failure := failure
  requiredCapacity := 0

/-- Leave the session for `next`; nothing of it is kept but its identity. -/
def abandon (e : Endpoint) (next : Activity) (failure : Failure) : Status × Endpoint :=
  publish
    { e with
      activity := next
      lastFailure := failure
      abandoned := e.activity.identifier.or e.abandoned
      intake := .filling []
      diagnosticPending := false }
    (resetEvent failure)

/-- Leave the session, and tell the peer when it had an identity. -/
def beginLocalRecovery (e : Endpoint) (failure : Failure) : Status × Endpoint :=
  e.abandon (.recovering (e.activity.identifier.map fun id => ⟨id, false⟩)) failure

/-- The body is consumed. -/
def release (e : Endpoint) : Endpoint := { e with intake := .filling [] }

section
variable [Target] (s : Setup)

/-- A new establishment attempt. -/
def beginEstablishment (e : Endpoint) : Endpoint :=
  if s.role = .host then
    { e with
      activity := .initiatePending e.cursor
      cursor := Session.successorIdentifier e.cursor }
  else { e with activity := .waitingForInitiate }

/-! ## Verdicts -/

/-- The verdict by type, on a frame of the endpoint's session or for an endpoint that
    has none. -/
def classifyByType (e : Endpoint) (frame : Frame) : Verdict :=
  match frame.type with
  | .initiate =>
      if s.role = .rig ∧ sessionIdentifierIsValid frame.sessionIdentifier then
        s.classifyInitiate e.activity frame
      else .incompatible
  | .response =>
      if s.role = .host ∧ e.activity.identifier.isSome then s.classifyResponse e.activity frame
      else .incompatible
  | .confirm =>
      if s.role = .rig ∧ e.activity.identifier.isSome then s.classifyConfirm e.activity frame
      else .incompatible
  | .reset =>
      if ¬ sessionIdentifierIsValid frame.sessionIdentifier then .incompatible
      else if e.activity.identifier.isSome then .acceptReset
      else .reject
  | .ack => s.classifyAck e.activity frame
  | .applicationMessage => e.activity.classifyMessage frame
  | _ => .incompatible

/-- The verdict on a valid frame. -/
def classify (e : Endpoint) (frame : Frame) : Verdict :=
  if e.abandoned = some frame.sessionIdentifier
      ∧ e.activity.identifier ≠ some frame.sessionIdentifier then .obsolete
  else if e.activity = .waitingForInitiate ∧ frame.type ≠ .initiate then .obsolete
  else if e.activity.identifier.isSome
      ∧ e.activity.identifier ≠ some frame.sessionIdentifier then .incompatible
  else e.classifyByType s frame

/-- The verdict on a body, and the frame in it. -/
def classifyBody (e : Endpoint) (body : List UInt8) : Verdict × Frame :=
  let (status, frame, decodeResult) :=
    decodeFrameView body (s.config.maxApplicationMessageSize + rawOverhead)
      s.config.maxApplicationMessageSize
  if status = .messageTooLarge then (.reject, frame)
  else
    match decodeResult with
    | .valid => (e.classify s frame, frame)
    | .malformed | .integrityInvalid => (.reject, frame)
    | .sessionIncompatible =>
        (if e.activity.identifier.isSome then .incompatible else .reject, frame)

/-- The places that a verdict needs are free. -/
def available (e : Endpoint) : Verdict → Bool
  | .reject | .acceptConfirm | .acceptConfirmAck | .acceptDelivery | .prove => !e.events.full
  | .blocked => false
  | .acceptMessage =>
      match e.activity with
      | .established _ x => x.unread.isNone && x.acknowledgement.isNone
      | _ => true
  | _ => true

/-! ## Resolution -/

/-- The session is not possible with this peer. A pending recovery RESET stays; the
    diagnostic is kept when the queue has no place for it. -/
def rejectSession (e : Endpoint) : Status × Endpoint :=
  let (eventStatus, published) := e.publish Receive.protocolErrorEvent
  match e.activity with
  | .recovering (some _) =>
      (eventStatus, { published.release with diagnosticPending := e.events.full })
  | _ =>
      let (recoveryStatus, recovered) := published.beginLocalRecovery .protocol
      (if eventStatus = .ok then recoveryStatus else .capacityExhausted,
        { recovered with diagnosticPending := e.events.full })

/-- A body that is dropped at once; the diagnostic is kept when the queue has no place
    for it. -/
def rejectObsolete (e : Endpoint) : Status × Endpoint :=
  let (eventStatus, published) := e.publish Receive.protocolErrorEvent
  (eventStatus, { published.release with diagnosticPending := e.events.full })

/-- The event of a confirmed delivery. -/
def deliveredEvent : Event where
  type := .deliveryConfirmed
  status := .ok
  failure := .none
  requiredCapacity := 0

/-- The session is established. -/
def establish (e : Endpoint) (activity : Activity) : Endpoint :=
  { e with
    activity := activity
    lastFailure := .none
    events := e.events.push Handshake.establishedEvent }

/-- The message is delivered. -/
def deliver (e : Endpoint) (activity : Activity) : Endpoint :=
  { e with activity := activity, events := e.events.push deliveredEvent }

/-- The endpoint after a frame that its session takes, the body not yet consumed. -/
def accept (e : Endpoint) (frame : Frame) (verdict : Verdict) : Endpoint :=
  match verdict, e.activity with
  | .repeatWork, activity => { e with activity := s.afterRepeat activity }
  | .repeatAck, .established id x =>
      { e with
        activity := .established id
          { x with acknowledgement := some (x.acknowledgement.getD false) } }
  | .adopt, _ => { e with activity := .responsePending frame.sessionIdentifier frame.sequence }
  | .acceptResponse, .waitingForResponse id _ =>
      { e with activity := .confirmPending id frame.sequence }
  | .acceptConfirm, .waitingForConfirm id _ _ =>
      e.establish
        (.established id
          { Exchange.initial frame.sequence (s.firstSequence + 1) with
            acknowledgement := some false })
  | .acceptConfirmAck, .waitingForConfirmAck id received _ =>
      e.establish (s.hostEstablished id received)
  | .prove, .waitingForConfirmAck id received _ =>
      e.establish
        (.established id ((Exchange.initial received (s.firstSequence + 1 + 1)).receive frame))
  | .acceptDelivery, .established id x =>
      e.deliver (.established id { x with outgoing := none, nextTransmit := x.nextTransmit + 1 })
  | .acceptMessage, .established id x => { e with activity := .established id (x.receive frame) }
  | _, _ => e

/-- The transition of a verdict whose places are free. -/
def resolve (e : Endpoint) (frame : Frame) (verdict : Verdict) : Status × Endpoint :=
  match verdict with
  | .reject => (.ok, (e.publish Receive.protocolErrorEvent).2.release)
  | .obsolete => e.rejectObsolete
  | .incompatible => e.rejectSession
  | .acceptReset =>
      let (status, abandoned) := e.abandon (.recovering none) .protocol
      (status, abandoned.beginEstablishment s)
  | _ => (.ok, (e.accept s frame verdict).release)

/-- Resolve a verdict, or leave everything as it is. -/
def attempt (e : Endpoint) (frame : Frame) (verdict : Verdict) : Status × Endpoint :=
  if e.available verdict then e.resolve s frame verdict else (.capacityExhausted, e)

/-- Attempt the verdict on a complete body. -/
def processBody (e : Endpoint) (body : List UInt8) : Status × Endpoint :=
  let classified := e.classifyBody s body
  e.attempt s classified.2 classified.1

/-! ## The byte loop -/

/-- A recovering endpoint that owes nothing to its last session starts the next one. -/
def advance (e : Endpoint) : Endpoint :=
  if e.activity = .recovering none ∧ e.diagnosticPending = false ∧ e.intake = .filling [] then
    e.beginEstablishment s
  else e

/-- `advance` after a step that succeeded. -/
def advanceIfOk (result : Status × Endpoint) : Status × Endpoint :=
  if result.1 = .ok then (.ok, result.2.advance s) else result

/-- Publish the diagnostic of an input that was dropped, or keep it. -/
def diagnose (e : Endpoint) : Status × Endpoint :=
  let (status, published) := e.publish Receive.protocolErrorEvent
  (status, { published with diagnosticPending := e.events.full })

/-- One received byte. A complete body is not resolved here a second time. -/
def feedByte (e : Endpoint) (byte : UInt8) : Status × Endpoint :=
  match e.intake with
  | .filling bytes =>
      if byte = 0 then
        if bytes = [] then (.ok, e)
        else advanceIfOk s (({ e with intake := .ready bytes }).processBody s bytes)
      else if bytes.length = s.config.maxEncodedFrameSize - 1 then
        (.ok, { e with intake := .discarding })
      else (.ok, { e with intake := .filling (bytes ++ [byte]) })
  | .discarding =>
      if byte = 0 then advanceIfOk s e.release.diagnose
      else (.ok, e)
  | .ready _ => (.ok, e)

/-- Received bytes, up to the first that does not succeed: the status, the number of
    bytes consumed and the endpoint. -/
def feed (e : Endpoint) : List UInt8 → Status × Nat × Endpoint
  | [] => (.ok, 0, e)
  | byte :: rest =>
      let (status, next) := e.feedByte s byte
      if status ≠ .ok then (status, 1, next)
      else
        let (status, consumed, last) := feed next rest
        (status, consumed + 1, last)

/-- Publish a deferred diagnostic. -/
def settleDiagnostic (e : Endpoint) : Status × Endpoint :=
  if e.diagnosticPending then e.diagnose else (.ok, e)

/-- Resolve a retained body. -/
def settleBody (e : Endpoint) : Status × Endpoint :=
  match e.intake with
  | .ready body => e.processBody s body
  | _ => (.ok, e)

/-- The work that comes before new bytes. -/
def settle (e : Endpoint) : Status × Endpoint :=
  let (status, e) := e.settleDiagnostic
  if status ≠ .ok then (status, e) else advanceIfOk s (e.settleBody s)

/-- `Receive_Bytes` -/
def receiveBytes (e : Endpoint) (data : List UInt8) : Status × Nat × Endpoint :=
  if e.activity.linkState = .disconnected then (.notReady, 0, e)
  else
    let (status, e) := e.settle s
    if status ≠ .ok then (status, 0, e) else e.feed s data

end

end Endpoint

end HilRigProtocol.Transport
