/-
  Receive safety.

  Within one session the accepted messages leave the endpoint in order, each once: what
  the caller has read, and the one message that it has not. Their sequences follow the
  handshake's. A frame that finds no place or that repeats the last message changes
  nothing. One that does not fit the session ends it, and an older message does not fit.
-/
import HilRigProtocol.Transport.Deliveries
import HilRigProtocol.Transport.Reception

namespace HilRigProtocol.Transport

section
variable [Target]

/-! ## What a moment receives -/

namespace Receive

/-- What the decoder says of the body that an atomic call resolves. -/
def decoded (root : Root) (call : Call) : Option (Status × Frame × DecodeResult) :=
  (offered root call).map fun body =>
    decodeFrameView body root.codecScratchSize root.base.config.maxApplicationMessageSize

/-- The valid frame that an atomic call resolves. -/
def validFrame (root : Root) (call : Call) : Option Frame :=
  (decoded root call).bind fun (status, frame, result) =>
    if status = .ok ∧ result = .valid then some frame else none

/-- A handshake frame skips a sequence, or has the last one and is not the last frame. -/
def misplaced (session : Session) (frame : Frame) : Bool :=
  match (session.classifySequence frame.sequence).2 with
  | .incompatible => true
  | .duplicate => !Handshake.frameIsExactDuplicate session frame
  | _ => false

/-- The frame does not fit the established session. A message fits when it is the next
    one, or the last one once more. -/
def incompatible (root : Root) (frame : Frame) : Bool :=
  !frameIsRecentlyAbandoned root frame
    && (frame.sessionIdentifier != root.session.sessionIdentifier
      || match frame.type with
        | .applicationMessage =>
            frame.sequence != root.session.expectedReceiveSequence
              && !(frame.sequence == root.session.lastAcceptedReceiveSequence
                && root.session.lastAcceptedReceiveFrameType == .applicationMessage)
        | .initiate | .confirm => root.session.role != .rig || misplaced root.session frame
        | .response => root.session.role != .host || misplaced root.session frame
        | _ => false)

/-- The messages that a moment accepts, one at most: the session has moved on to the next
    sequence. -/
def accepted (moment : Root × Call) : List Frame :=
  let after := (step moment.1 moment.2).2
  ((validFrame moment.1 moment.2).filter fun frame =>
    frame.type == .applicationMessage && after.base.sessionState == .established
      && after.session.expectedReceiveSequence
        != moment.1.session.expectedReceiveSequence).toList

end Receive

namespace Application

/-- The message that waits to be read. -/
def retained (root : Root) : List (List UInt8) :=
  if root.receivedMessagePending = 1 then [root.receivedMessage] else []

/-- The message that a moment returns to the caller. -/
def returned (moment : Root × Call) : List (List UInt8) :=
  match moment.2 with
  | .readApplicationData _ =>
      let response := (step moment.1 moment.2).1
      if response.status = .ok then [response.bytes] else []
  | _ => []

end Application

/-- The last frame that the handshake accepted, as the session records it: a host has it
    before the moment that establishes the session, a rig after. -/
def Handshake.lastAccepted (opening : Root × Call) : FrameType × UInt16 :=
  let session :=
    if opening.1.base.role = .host then opening.1.session
    else (step opening.1 opening.2).2.session
  (session.lastAcceptedReceiveFrameType, session.lastAcceptedReceiveSequence)

/-! ## What becomes of the receive side -/

/-- The session stays established, and its receive side is as it was. -/
structure ReceiveKept (before after : Root) : Prop where
  established : before.base.sessionState = .established ∧ after.base.sessionState = .established
  identifier : after.session.sessionIdentifier = before.session.sessionIdentifier
  expected : after.session.expectedReceiveSequence = before.session.expectedReceiveSequence
  last : after.session.lastAcceptedReceiveSequence = before.session.lastAcceptedReceiveSequence
  type : after.session.lastAcceptedReceiveFrameType = before.session.lastAcceptedReceiveFrameType
  message : after.receivedMessage = before.receivedMessage
  pending : after.receivedMessagePending = before.receivedMessagePending

/-- The message is the next one, its places are free, and it is retained together with its
    acknowledgement. -/
structure MessageAccepted (before : Root) (frame : Frame) (after : Root) : Prop where
  type : frame.type = .applicationMessage
  current : frame.sessionIdentifier = before.session.sessionIdentifier
  next : frame.sequence = before.session.expectedReceiveSequence
  free : before.receivedMessagePending = 0 ∧ before.controlOutputState = .idle
  established : after.base.sessionState = .established
  identifier : after.session.sessionIdentifier = before.session.sessionIdentifier
  last : after.session.lastAcceptedReceiveSequence = frame.sequence
  expected : after.session.expectedReceiveSequence = frame.sequence + 1
  retained : after.receivedMessagePending = 1 ∧ after.receivedMessage = frame.payload
  acknowledged : after.controlOutputState = .ready ∧
    after.controlOutput =
      encodedFrame (Handshake.controlFrame .ack frame.sessionIdentifier frame.sequence)

/-- The session is given up for what was received: its RESET waits, and the message that
    was not read is gone. -/
structure SessionAbandoned (before after : Root) : Prop where
  ended : SessionEnded before after
  recovering : after.base.sessionState = .recovering ∧ after.session.state = .recovering
  notified : after.recoveryResetPending = 1 ∧
    after.recoveryResetSessionIdentifier = before.session.sessionIdentifier
  message : after.receivedMessagePending = 0

/-- What a moment does to the receive side. -/
structure Receives (moment : Root × Call) (after : Root) : Prop where
  accepts : ∀ frame ∈ Receive.accepted moment, MessageAccepted moment.1 frame after
  /-- The caller gets what is retained, and it is retained no longer. -/
  returns : ∀ bytes ∈ Application.returned moment,
    Application.retained moment.1 = [bytes] ∧ Application.retained after = [] ∧
      after.session.expectedReceiveSequence = moment.1.session.expectedReceiveSequence
  /-- Nothing else changes what a session has received, short of its end. -/
  keeps : moment.1.base.sessionState = .established → after.base.sessionState = .established →
    Receive.accepted moment = [] → Application.returned moment = [] → ReceiveKept moment.1 after
  ends : after.base.sessionState ≠ .established →
    Receive.accepted moment = [] ∧ Application.returned moment = []
  /-- A new acknowledgement is for the last frame accepted. For a message that was not
      accepted before, it is published with the message. -/
  acknowledges : after.base.sessionState = .established →
    moment.1.controlOutputState = .idle → after.controlOutputState ≠ .idle →
    after.controlOutput =
        encodedFrame (Handshake.controlFrame .ack after.session.sessionIdentifier
          after.session.lastAcceptedReceiveSequence) ∧
      (after.session.lastAcceptedReceiveFrameType = .applicationMessage →
        (∃ frame, Receive.accepted moment = [frame]) ∨ ReceiveKept moment.1 after)

/-- What a body does to an established session. -/
structure Disposes (moment : Root × Call) (after : Root) : Prop where
  /-- A message in order is accepted when its places are free. -/
  takes : ∀ frame, Receive.validFrame moment.1 moment.2 = some frame →
    frame.type = .applicationMessage →
    frame.sessionIdentifier = moment.1.session.sessionIdentifier →
    frame.sequence = moment.1.session.expectedReceiveSequence →
    moment.1.receivedMessagePending = 0 → moment.1.controlOutputState = .idle →
    Receive.accepted moment = [frame]
  abandons : ∀ frame, Receive.validFrame moment.1 moment.2 = some frame →
    Receive.incompatible moment.1 frame = true → SessionAbandoned moment.1 after
  /-- A frame of another protocol version. -/
  foreign : ∀ frame, Receive.decoded moment.1 moment.2 = some (.ok, frame, .sessionIncompatible) →
    SessionAbandoned moment.1 after
  /-- Whatever else is received, a RESET of the session apart, changes nothing. -/
  refuses : ∀ status frame result,
    Receive.decoded moment.1 moment.2 = some (status, frame, result) →
    (result = .valid → Receive.incompatible moment.1 frame = false ∧
      ¬ (frame.type = .reset ∧
        frame.sessionIdentifier = moment.1.session.sessionIdentifier)) →
    ¬ (status = .ok ∧ result = .sessionIncompatible) →
    Receive.accepted moment = [] → ReceiveKept moment.1 after

namespace Endpoint

variable {s : Setup}

/-! ## The receive side of a root -/

theorem sessionState_toRoot {e : Endpoint} :
    (e.toRoot s).base.sessionState = .established ↔ ∃ r, e.activity.reception = some r := by
  show e.activity.sessionState = .established ↔ _
  cases e.activity with
  | established id x => exact ⟨fun _ => ⟨_, rfl⟩, fun _ => rfl⟩
  | _ =>
      constructor
      · intro h
        cases h
      · rintro ⟨r, hr⟩
        cases hr

theorem not_established_toRoot {e : Endpoint} (h : e.activity.reception = none) :
    (e.toRoot s).base.sessionState ≠ .established := by
  rw [Ne, sessionState_toRoot, h]
  rintro ⟨r, hr⟩
  cases hr

omit [Target] in
theorem unread_reception {a : Activity} {r : Reception} (h : a.reception = some r) :
    a.unread = r.unread := by
  obtain ⟨x, rfl, _, _, hunread⟩ := established_of_reception h
  exact hunread

theorem accepted_reception {a : Activity} {r : Reception} (h : a.reception = some r) :
    s.accepted a =
      if r.messageReceived then some ⟨r.lastReceived, .applicationMessage, 0⟩
      else some ⟨r.lastReceived, s.finalFrameType, s.firstSequence⟩ := by
  obtain ⟨x, rfl, hlast, hreceived, _⟩ := established_of_reception h
  show (if x.messageReceived = true then _ else _) = _
  rw [hlast, hreceived]

omit [Target] in
theorem identifier_reception {a : Activity} {r : Reception} (h : a.reception = some r) :
    a.identifier = some r.identifier := by
  obtain ⟨x, rfl, _⟩ := established_of_reception h
  rfl

theorem lastReceived_toRoot {e : Endpoint} {last : Accepted} (h : s.accepted e.activity = some last) :
    (e.toRoot s).session.lastAcceptedReceiveSequence = last.sequence ∧
      (e.toRoot s).session.expectedReceiveSequence = last.sequence + 1 ∧
      (e.toRoot s).session.lastAcceptedReceiveFrameType = last.type := by
  unfold toRoot toSession
  rw [h]
  exact ⟨rfl, rfl, rfl⟩

theorem identifier_toRoot {e : Endpoint} {id : UInt64} (h : e.activity.identifier = some id) :
    (e.toRoot s).session.sessionIdentifier = id := by
  show e.activity.identifier.getD _ = id
  rw [h]
  rfl

theorem lastReceived_reception {e : Endpoint} {r : Reception} (h : e.activity.reception = some r) :
    (e.toRoot s).session.lastAcceptedReceiveSequence = r.lastReceived ∧
      (e.toRoot s).session.expectedReceiveSequence = r.lastReceived + 1 ∧
      (e.toRoot s).session.lastAcceptedReceiveFrameType =
        if r.messageReceived then .applicationMessage else s.finalFrameType := by
  have haccepted := @accepted_reception _ s _ _ h
  cases hmessage : r.messageReceived with
  | true =>
      rw [hmessage, if_pos rfl] at haccepted
      exact lastReceived_toRoot haccepted
  | false =>
      rw [hmessage, if_neg (by simp)] at haccepted
      exact lastReceived_toRoot haccepted

theorem retained_toRoot (e : Endpoint) :
    Application.retained (e.toRoot s) = e.activity.unread.toList := by
  unfold Application.retained toRoot
  cases e.activity.unread <;> rfl

theorem pending_unread {e : Endpoint} :
    (e.toRoot s).receivedMessagePending = 0 ↔ e.activity.unread = none := by
  unfold toRoot
  cases e.activity.unread <;> simp

theorem controlIdle_toRoot {e : Endpoint} :
    (e.toRoot s).controlOutputState = .idle ↔ e.activity.controlItem = none := by
  unfold toRoot
  cases e.activity.controlItem with
  | none => simp
  | some item =>
      obtain ⟨frame, pinned⟩ := item
      cases pinned <;> simp

theorem receiveKept_toRoot {e e' : Endpoint} {r : Reception} (h : e.activity.reception = some r)
    (hsame : e'.activity.reception = e.activity.reception) :
    ReceiveKept (e.toRoot s) (e'.toRoot s) := by
  have h' := hsame.trans h
  have haccepted : s.accepted e'.activity = s.accepted e.activity := by
    rw [accepted_reception h, accepted_reception h']
  have hunread : e'.activity.unread = e.activity.unread := by
    rw [unread_reception h, unread_reception h']
  constructor
  · exact ⟨sessionState_toRoot.mpr ⟨r, h⟩, sessionState_toRoot.mpr ⟨r, h'⟩⟩
  · rw [identifier_toRoot (identifier_reception h), identifier_toRoot (identifier_reception h')]
  all_goals
    unfold toRoot toSession
    dsimp only
  · rw [haccepted]
  · rw [haccepted]
  · rw [haccepted]
  · rw [hunread]
  · rw [hunread]

theorem decoded_toRoot (e : Endpoint) (call : Call) :
    Receive.decoded (e.toRoot s) call = (e.offered call).map fun body =>
      decodeFrameView body (s.config.maxApplicationMessageSize + rawOverhead)
        s.config.maxApplicationMessageSize := by
  unfold Receive.decoded
  rw [offered_toRoot]
  rfl

theorem decoded_offered {e : Endpoint} {call : Call} {result : Status × Frame × DecodeResult}
    (h : Receive.decoded (e.toRoot s) call = some result) :
    ∃ body, e.offered call = some body ∧
      decodeFrameView body (s.config.maxApplicationMessageSize + rawOverhead)
        s.config.maxApplicationMessageSize = result := by
  rw [decoded_toRoot, Option.map_eq_some_iff] at h
  exact h

theorem validFrame_toRoot {e : Endpoint} {call : Call} {frame : Frame} :
    Receive.validFrame (e.toRoot s) call = some frame ↔
      ∃ body, e.offered call = some body ∧ Decodes s body frame := by
  unfold Receive.validFrame
  rw [decoded_toRoot, Option.bind_eq_some_iff]
  constructor
  · rintro ⟨⟨status, other, result⟩, hdecoded, hvalid⟩
    obtain ⟨body, hbody, hdecode⟩ := Option.map_eq_some_iff.mp hdecoded
    dsimp only at hvalid
    split_ifs at hvalid with hok
    cases hvalid
    obtain ⟨rfl, rfl⟩ := hok
    exact ⟨body, hbody, hdecode⟩
  · rintro ⟨body, hbody, hdecode⟩
    exact ⟨(.ok, frame, .valid), by rw [hbody]; exact congrArg some hdecode, rfl⟩

/-! ## Accepted and returned messages -/

theorem mem_accepted {e : Endpoint} (h : e.Wf s) {call : Call} {frame : Frame} :
    frame ∈ Receive.accepted (e.toRoot s, call) ↔
      Receive.validFrame (e.toRoot s) call = some frame ∧ frame.type = .applicationMessage ∧
        ((e.step s call).2.toRoot s).base.sessionState = .established ∧
        ((e.step s call).2.toRoot s).session.expectedReceiveSequence ≠
          (e.toRoot s).session.expectedReceiveSequence := by
  unfold Receive.accepted
  dsimp only
  rw [step_refines h, Option.mem_toList, Option.filter_eq_some_iff]
  simp only [Bool.and_eq_true, beq_iff_eq, bne_iff_ne, and_assoc]

theorem accepted_none {e : Endpoint} (h : e.Wf s) {call : Call}
    (hnone : ∀ frame, Receive.validFrame (e.toRoot s) call = some frame →
      frame.type = .applicationMessage →
      ((e.step s call).2.toRoot s).base.sessionState = .established →
      ((e.step s call).2.toRoot s).session.expectedReceiveSequence =
        (e.toRoot s).session.expectedReceiveSequence) :
    Receive.accepted (e.toRoot s, call) = [] := by
  rw [List.eq_nil_iff_forall_not_mem]
  intro frame hmem
  obtain ⟨hframe, htype, hestablished, hne⟩ := (mem_accepted h).mp hmem
  exact hne (hnone frame hframe htype hestablished)

theorem accepted_some {e : Endpoint} {call : Call} {frame : Frame}
    (hframe : Receive.validFrame (e.toRoot s) call = some frame)
    (hmem : frame ∈ Receive.accepted (e.toRoot s, call)) :
    Receive.accepted (e.toRoot s, call) = [frame] := by
  unfold Receive.accepted at hmem ⊢
  dsimp only at hmem ⊢
  rw [hframe] at hmem ⊢
  rw [Option.mem_toList] at hmem
  rw [hmem]
  rfl

omit [Target] in
/-- A read that succeeds. -/
theorem readMessage_ok {e : Endpoint} {outBuffer : Option Nat}
    (h : (e.readMessage outBuffer).1 = .ok) :
    ∃ id x payload, e.activity = .established id x ∧ x.unread = some payload ∧
      (e.readMessage outBuffer).2.2.1 = payload ∧
      (e.readMessage outBuffer).2.2.2 =
        { e with activity := .established id { x with unread := none } } := by
  unfold readMessage at h ⊢
  cases ha : e.activity with
  | established id x =>
      rw [ha] at h
      dsimp only at h ⊢
      cases hunread : x.unread with
      | none =>
          rw [hunread] at h
          cases h
      | some payload =>
          rw [hunread] at h
          dsimp only at h ⊢
          exact ⟨id, x, payload, rfl, hunread, copyOut_bytes h, if_pos h⟩
  | _ =>
      rw [ha] at h
      cases h

theorem mem_returned {e : Endpoint} (h : e.Wf s) {call : Call} {bytes : List UInt8}
    (hmem : bytes ∈ Application.returned (e.toRoot s, call)) :
    ∃ outBuffer id x, call = .readApplicationData outBuffer ∧
      e.activity = .established id x ∧ x.unread = some bytes ∧
      (e.step s call).2 = { e with activity := .established id { x with unread := none } } := by
  unfold Application.returned at hmem
  cases call with
  | readApplicationData outBuffer =>
      dsimp only at hmem
      rw [step_refines h] at hmem
      dsimp only at hmem
      split_ifs at hmem with hok
      · obtain ⟨id, x, payload, ha, hunread, hbytes, hnext⟩ := readMessage_ok hok
        rw [List.mem_singleton] at hmem
        have hsame : bytes = payload := hmem.trans hbytes
        subst hsame
        exact ⟨outBuffer, id, x, rfl, ha, hunread, hnext⟩
      · cases hmem
  | _ => cases hmem

theorem returned_none {e : Endpoint} (h : e.Wf s) {call : Call}
    (hnone : ∀ r, e.activity.reception = some r → r.unread ≠ none →
      (e.step s call).2.activity.reception ≠ some { r with unread := none }) :
    Application.returned (e.toRoot s, call) = [] := by
  rw [List.eq_nil_iff_forall_not_mem]
  intro bytes hmem
  obtain ⟨_, id, x, _, ha, hunread, hnext⟩ := mem_returned h hmem
  refine hnone ⟨id, x.lastReceived, x.messageReceived, x.unread⟩ (by rw [ha]; rfl) ?_ ?_
  · dsimp only
    rw [hunread]
    simp
  · rw [hnext]
    rfl

/-! ## One step -/

variable (s) in
/-- What a step accepts and returns, and what becomes of the receive side. -/
inductive Ledger (e e' : Endpoint) : List Frame → List (List UInt8) → Prop
  | same : e'.activity.reception = e.activity.reception → Ledger e e' [] []
  | ended : e'.activity.reception = none → Ledger e e' [] []
  | opened {id : UInt64} {received : UInt16} : e.activity.reception = none →
      e'.activity.reception = some ⟨id, received, false, none⟩ →
      (s.role = .host → s.accepted e.activity = some ⟨received, .response, s.firstSequence⟩) →
      Ledger e e' [] []
  | taken {frame : Frame} {last : Accepted} : frame.type = .applicationMessage →
      e.activity.identifier = some frame.sessionIdentifier →
      s.accepted e.activity = some last → frame.sequence = last.sequence + 1 →
      e.activity.unread = none → e.activity.controlItem = none →
      (e.activity.reception = none → s.role = .host ∧ last.type = .response) →
      e'.activity.reception =
        some ⟨frame.sessionIdentifier, frame.sequence, true, some frame.payload⟩ →
      e'.activity.controlItem =
        some ⟨Handshake.controlFrame .ack frame.sessionIdentifier frame.sequence, false⟩ →
      Ledger e e' [frame] []
  | read {payload : List UInt8} {r : Reception} : e.activity.reception = some r →
      r.unread = some payload → e'.activity.reception = some { r with unread := none } →
      e'.activity.controlItem = e.activity.controlItem → Ledger e e' [] [payload]

/-- A step that leaves the receive side as it is accepts nothing. -/
theorem accepted_same {e : Endpoint} (h : e.Wf s) {call : Call}
    (hsame : (e.step s call).2.activity.reception = e.activity.reception) :
    Receive.accepted (e.toRoot s, call) = [] := by
  refine accepted_none h fun frame _ _ hestablished => ?_
  obtain ⟨r, hr⟩ := sessionState_toRoot.mp hestablished
  exact (receiveKept_toRoot (hsame.symm.trans hr) hsame).expected

theorem step_ledger {e : Endpoint} (h : e.Wf s) {call : Call} (hatomic : Atomic s e call) :
    Ledger s e (e.step s call).2 (Receive.accepted (e.toRoot s, call))
      (Application.returned (e.toRoot s, call)) := by
  have hidle : ∀ {body}, e.offered call = some body →
      Application.returned (e.toRoot s, call) = [] := by
    intro body hbody
    rw [List.eq_nil_iff_forall_not_mem]
    intro bytes hmem
    obtain ⟨outBuffer, _, _, rfl, _⟩ := mem_returned h hmem
    cases hbody
  cases deed_received h.activity (step_deed h hatomic) with
  | same hsame =>
      rw [accepted_same h hsame, returned_none h]
      · exact .same hsame
      · intro r hr hunread hnext
        rw [hsame, hr] at hnext
        exact hunread (congrArg Reception.unread (Option.some.inj hnext))
  | ended hnone =>
      rw [accepted_none h fun _ _ _ hestablished =>
        absurd hestablished (not_established_toRoot hnone), returned_none h]
      · exact .ended hnone
      · intro r _ _ hnext
        rw [hnone] at hnext
        cases hnext
  | opened hbody hdecode htype hbefore hafter hhost =>
      rw [hidle hbody, accepted_none h]
      · exact .opened hbefore hafter hhost
      · intro frame hframe hmessage
        rw [validFrame_toRoot.mpr ⟨_, hbody, hdecode⟩] at hframe
        cases hframe
        exact absurd hmessage htype
  | @taken body frame last hbody hdecode htype hid hlast hseq hunread hfree hproof hafter hack =>
      have hframe := validFrame_toRoot.mpr ⟨_, hbody, hdecode⟩
      have hnew : ((e.step s call).2.toRoot s).session.expectedReceiveSequence ≠
          (e.toRoot s).session.expectedReceiveSequence := by
        rw [(lastReceived_reception hafter).2.1, (lastReceived_toRoot hlast).2.1, ← hseq]
        intro hsame
        simp at hsame
      have hmem := (mem_accepted h).mpr ⟨hframe, htype, sessionState_toRoot.mpr ⟨_, hafter⟩, hnew⟩
      rw [hidle hbody, accepted_some hframe hmem]
      exact .taken htype hid hlast hseq hunread hfree hproof hafter hack
  | @read size payload r hcall hsize hr hunread hafter =>
      subst hcall
      obtain ⟨x, ha, _, _, hx⟩ := established_of_reception hr
      rw [hunread] at hx
      have hok : (e.readMessage (some size)).1 = .ok := by
        unfold readMessage copyOut
        rw [ha]
        dsimp only
        rw [hx]
        dsimp only
        rw [if_neg (Nat.not_lt.mpr hsize)]
      obtain ⟨id, x', payload', ha', hx', hbytes, hnext⟩ := readMessage_ok hok
      rw [ha] at ha'
      cases ha'
      rw [hx] at hx'
      cases hx'
      have hreturned : Application.returned (e.toRoot s, .readApplicationData (some size)) =
          [payload] := by
        unfold Application.returned
        dsimp only
        rw [step_refines h]
        dsimp only
        rw [if_pos (by exact hok)]
        exact congrArg (fun bytes => [bytes]) hbytes
      have hactivity : (e.step s (.readApplicationData (some size))).2.activity =
          .established r.identifier { x with unread := none } := congrArg Endpoint.activity hnext
      rw [hreturned, accepted_none h fun frame hframe => by cases hframe]
      exact .read hr hunread hafter (by rw [hactivity, ha]; rfl)

theorem expected_read {e e' : Endpoint} {r : Reception} (h : e.activity.reception = some r)
    (h' : e'.activity.reception = some { r with unread := none }) :
    (e'.toRoot s).session.expectedReceiveSequence =
      (e.toRoot s).session.expectedReceiveSequence := by
  rw [(lastReceived_reception h).2.1, (lastReceived_reception h').2.1]

/-- What is retained and what is accepted is returned, or still retained. -/
theorem ledger_queue {e e' : Endpoint} {frames : List Frame} {payloads : List (List UInt8)}
    (h : Ledger s e e' frames payloads) (hafter : e'.activity.reception ≠ none) :
    Application.retained (e.toRoot s) ++ frames.map Frame.payload =
      payloads ++ Application.retained (e'.toRoot s) := by
  have hclosed : ∀ {a : Activity}, a.reception = none → a.unread = none := by
    intro a hnone
    cases a with
    | established => cases hnone
    | _ => rfl
  rw [retained_toRoot, retained_toRoot]
  cases h with
  | same hsame =>
      obtain ⟨r, hr⟩ := Option.ne_none_iff_exists'.mp hafter
      rw [unread_reception hr, unread_reception (hsame.symm.trans hr)]
      simp
  | ended hnone => exact absurd hnone hafter
  | opened hbefore hopened =>
      rw [hclosed hbefore, unread_reception hopened]
      rfl
  | taken _ _ _ _ hunread _ _ htaken =>
      rw [hunread, unread_reception htaken]
      rfl
  | read hr hunread hread =>
      rw [unread_reception hr, hunread, unread_reception hread]
      rfl

/-- A session numbers what it accepts. -/
theorem ledger_number {e e' : Endpoint} {frames : List Frame} {payloads : List (List UInt8)}
    (h : Ledger s e e' frames payloads) (hbefore : e.activity.reception ≠ none)
    (hafter : e'.activity.reception ≠ none) :
    frames.map Frame.sequence = [] ∧
        (e'.toRoot s).session.expectedReceiveSequence =
          (e.toRoot s).session.expectedReceiveSequence ∨
      frames.map Frame.sequence = [(e.toRoot s).session.expectedReceiveSequence] ∧
        (e'.toRoot s).session.expectedReceiveSequence =
          (e.toRoot s).session.expectedReceiveSequence + 1 := by
  cases h with
  | same hsame =>
      obtain ⟨r, hr⟩ := Option.ne_none_iff_exists'.mp hbefore
      exact Or.inl ⟨rfl, (receiveKept_toRoot hr hsame).expected⟩
  | ended hnone => exact absurd hnone hafter
  | opened hclosed => exact absurd hclosed hbefore
  | taken _ _ hlast hseq _ _ _ htaken =>
      rw [(lastReceived_reception htaken).2.1, (lastReceived_toRoot hlast).2.1]
      exact Or.inr ⟨congrArg (fun sequence => [sequence]) hseq, by rw [hseq]⟩
  | read hr _ hread => exact Or.inl ⟨rfl, expected_read hr hread⟩

theorem messageAccepted_toRoot {e e' : Endpoint} {frame : Frame} {last : Accepted}
    (htype : frame.type = .applicationMessage)
    (hid : e.activity.identifier = some frame.sessionIdentifier)
    (hlast : s.accepted e.activity = some last) (hseq : frame.sequence = last.sequence + 1)
    (hunread : e.activity.unread = none) (hfree : e.activity.controlItem = none)
    (htaken : e'.activity.reception =
      some ⟨frame.sessionIdentifier, frame.sequence, true, some frame.payload⟩)
    (hack : e'.activity.controlItem =
      some ⟨Handshake.controlFrame .ack frame.sessionIdentifier frame.sequence, false⟩) :
    MessageAccepted (e.toRoot s) frame (e'.toRoot s) := by
  obtain ⟨hafter, hexpected, _⟩ := @lastReceived_reception _ s _ _ htaken
  have hcurrent := @identifier_toRoot _ s _ _ hid
  have hmessage := unread_reception htaken
  refine ⟨htype, hcurrent.symm, ?_, ⟨pending_unread.mpr hunread, controlIdle_toRoot.mpr hfree⟩,
    sessionState_toRoot.mpr ⟨_, htaken⟩, ?_, hafter, hexpected, ?_, ?_⟩
  · rw [(lastReceived_toRoot hlast).2.1, hseq]
  · rw [hcurrent, identifier_toRoot (identifier_reception htaken)]
  · unfold toRoot
    dsimp only
    rw [hmessage]
    exact ⟨rfl, rfl⟩
  · unfold toRoot
    dsimp only
    rw [hack]
    exact ⟨rfl, rfl⟩

theorem receives_step {e : Endpoint} (h : e.Wf s) {call : Call} (hatomic : Atomic s e call) :
    Receives (e.toRoot s, call) ((e.step s call).2.toRoot s) := by
  have hledger := step_ledger h hatomic
  have hcontrol := deed_control (step_deed h hatomic)
  generalize hframes : Receive.accepted (e.toRoot s, call) = frames at hledger
  generalize hpayloads : Application.returned (e.toRoot s, call) = payloads at hledger
  generalize (e.step s call).2 = e' at hledger hcontrol ⊢
  constructor
  · rw [hframes]
    intro frame hmem
    cases hledger with
    | taken htype hid hlast hseq hunread hfree _ htaken hack =>
        rw [List.mem_singleton] at hmem
        subst hmem
        exact messageAccepted_toRoot htype hid hlast hseq hunread hfree htaken hack
    | _ => cases hmem
  · rw [hpayloads]
    intro bytes hmem
    cases hledger with
    | read hr hunread hread =>
        rw [List.mem_singleton] at hmem
        subst hmem
        dsimp only
        rw [retained_toRoot, retained_toRoot, unread_reception hr, unread_reception hread, hunread]
        exact ⟨rfl, rfl, expected_read hr hread⟩
    | _ => cases hmem
  · rw [hframes, hpayloads]
    intro hbefore hafter hnone hnone'
    obtain ⟨r, hr⟩ := sessionState_toRoot.mp hbefore
    cases hledger with
    | same hsame => exact receiveKept_toRoot hr hsame
    | ended hended => exact absurd hafter (not_established_toRoot hended)
    | opened hclosed =>
        rw [hr] at hclosed
        cases hclosed
    | taken => cases hnone
    | read => cases hnone'
  · rw [hframes, hpayloads]
    intro hnot
    cases hledger with
    | taken _ _ _ _ _ _ _ htaken => exact absurd (sessionState_toRoot.mpr ⟨_, htaken⟩) hnot
    | read _ _ hread => exact absurd (sessionState_toRoot.mpr ⟨_, hread⟩) hnot
    | _ => exact ⟨rfl, rfl⟩
  · intro hestablished hidle hbusy
    obtain ⟨r, hr⟩ := sessionState_toRoot.mp hestablished
    have hnone := controlIdle_toRoot.mp hidle
    rw [Ne, controlIdle_toRoot] at hbusy
    obtain ⟨x, ha, hlast, _, _⟩ := established_of_reception hr
    obtain ⟨pinned, hack⟩ : ∃ pinned, x.acknowledgement = some pinned := by
      rw [ha, controlItem_established] at hbusy
      cases hack : x.acknowledgement with
      | none => exact absurd (by rw [hack]; rfl) hbusy
      | some pinned => exact ⟨pinned, rfl⟩
    refine ⟨?_, ?_⟩
    · rw [identifier_toRoot (identifier_reception hr), (lastReceived_reception hr).1, ← hlast]
      unfold toRoot
      dsimp only
      rw [ha, controlItem_established, hack]
      rfl
    · intro hmessage
      rw [hframes]
      cases hledger with
      | same hsame => exact Or.inr (receiveKept_toRoot (hsame.symm.trans hr) hsame)
      | ended hended =>
          rw [hended] at hr
          cases hr
      | opened _ hopened =>
          rw [(lastReceived_reception hopened).2.2, if_neg (by simp)] at hmessage
          unfold Setup.finalFrameType at hmessage
          split_ifs at hmessage
      | taken => exact Or.inl ⟨_, rfl⟩
      | read _ _ _ hsame =>
          rw [hsame, hnone] at hbusy
          exact absurd rfl hbusy

/-! ## Frames that do not fit -/

theorem misplaced_toRoot {e : Endpoint} {frame : Frame} {expected again : Verdict}
    (hexpected : expected ≠ .incompatible) (hagain : again ≠ .incompatible) :
    s.inOrder e.activity frame expected again = .incompatible ↔
      Receive.misplaced (e.toRoot s).session frame = true := by
  unfold Setup.inOrder Receive.misplaced
  rw [classifySequence_toRoot, frameIsExactDuplicate_toRoot]
  cases s.sequenceResult e.activity frame.sequence with
  | expected => simp [hexpected]
  | duplicate =>
      dsimp only
      cases s.isExactDuplicate e.activity frame with
      | true => simp [hagain]
      | false => simp
  | _ => simp

theorem classifyMessage_incompatible {e : Endpoint} {id : UInt64} {x : Exchange} {frame : Frame}
    (ha : e.activity = .established id x) :
    e.activity.classifyMessage frame = .incompatible ↔
      (frame.sequence != (e.toRoot s).session.expectedReceiveSequence
        && !(frame.sequence == (e.toRoot s).session.lastAcceptedReceiveSequence
          && (e.toRoot s).session.lastAcceptedReceiveFrameType == .applicationMessage)) = true := by
  have hr : e.activity.reception =
      some ⟨id, x.lastReceived, x.messageReceived, x.unread⟩ := by
    rw [ha]
    rfl
  obtain ⟨hlast, hexpected, htype⟩ := @lastReceived_reception _ s _ _ hr
  rw [hlast, hexpected, htype]
  have hfinal : s.finalFrameType ≠ .applicationMessage := by
    unfold Setup.finalFrameType
    split_ifs <;> simp
  unfold Activity.classifyMessage sequenceAfter
  rw [ha]
  dsimp only
  by_cases hnext : frame.sequence = x.lastReceived + 1
  · rw [if_pos hnext]
    simp [hnext]
  rw [if_neg hnext]
  by_cases hsame : frame.sequence = x.lastReceived
  · rw [if_pos hsame]
    cases x.messageReceived <;> simp [hsame, hfinal]
  · rw [if_neg hsame]
    by_cases hold : frame.sequence - (x.lastReceived + 1) > 0x8000
    · rw [if_pos hold]
      simp [hnext, hsame]
    · rw [if_neg hold]
      simp [hnext, hsame]

/-- The verdict on a frame of an established session. -/
theorem incompatible_toRoot {e : Endpoint} {id : UInt64} {x : Exchange} {frame : Frame}
    (hwf : e.activity.Wf s) (ha : e.activity = .established id x)
    (hframe : frame.Wf s.config.maxApplicationMessageSize) :
    e.classify s frame = .incompatible ↔ Receive.incompatible (e.toRoot s) frame = true := by
  have hidentifier : e.activity.identifier = some id := by
    rw [ha]
    rfl
  have hold := @frameIsRecentlyAbandoned_toRoot _ s e frame
  unfold Receive.incompatible
  rw [identifier_toRoot hidentifier, show (e.toRoot s).session.role = s.role from rfl]
  by_cases hid : id = frame.sessionIdentifier
  swap
  · rw [classify_foreign ha hid]
    by_cases habandoned : e.abandoned = some frame.sessionIdentifier
    · have hrecent := hold.mpr ⟨habandoned, by rw [hidentifier]; simpa using hid⟩
      rw [if_pos habandoned, hrecent]
      simp
    · have hrecent : Receive.frameIsRecentlyAbandoned (e.toRoot s) frame = false := by
        rw [← Bool.not_eq_true]
        exact fun h => habandoned (hold.mp h).1
      have hother : frame.sessionIdentifier ≠ id := fun h => hid h.symm
      rw [if_neg habandoned, hrecent]
      simp [hother]
  subst hid
  have hrecent : Receive.frameIsRecentlyAbandoned (e.toRoot s) frame = false := by
    rw [← Bool.not_eq_true]
    exact fun h => (hold.mp h).2 hidentifier
  rw [ha] at hwf
  rw [classify_current hidentifier, hrecent, bne_self_eq_false, Bool.not_false, Bool.true_and,
    Bool.false_or]
  unfold classifyByType
  cases htype : frame.type with
  | initiate =>
      dsimp only
      by_cases hrole : s.role = .rig
      · rw [if_pos ⟨hrole, hwf.1⟩, hrole, bne_self_eq_false, Bool.false_or]
        exact misplaced_toRoot (by rw [ha]; simp) (by rw [ha]; simp)
      · rw [if_neg fun h => hrole h.1]
        simp [hrole]
  | response =>
      dsimp only
      by_cases hrole : s.role = .host
      · rw [if_pos ⟨hrole, by rw [hidentifier]; rfl⟩, hrole, bne_self_eq_false, Bool.false_or]
        exact misplaced_toRoot (by rw [ha]; simp) (by rw [ha]; simp)
      · rw [if_neg fun h => hrole h.1]
        simp [hrole]
  | confirm =>
      dsimp only
      by_cases hrole : s.role = .rig
      · rw [if_pos ⟨hrole, by rw [hidentifier]; rfl⟩, hrole, bne_self_eq_false, Bool.false_or]
        exact misplaced_toRoot (by rw [ha]; simp) (by rw [ha]; simp)
      · rw [if_neg fun h => hrole h.1]
        simp [hrole]
  | reset =>
      dsimp only
      rw [if_neg (by rw [hwf.1]; simp), if_pos (by rw [hidentifier]; rfl)]
      simp
  | ack =>
      dsimp only
      unfold Setup.classifyAck Verdict.ofAck
      rw [ha]
      dsimp only
      cases x.outgoing with
      | none =>
          dsimp only
          split_ifs <;> simp
      | some outgoing =>
          dsimp only
          cases outgoing.2.ackResult (frame.acknowledgementSequence == x.nextTransmit) <;> simp
  | applicationMessage => exact classifyMessage_incompatible ha
  | invalid | unlisted =>
      have hvalid := hframe.type_valid
      rw [htype] at hvalid
      cases hvalid

theorem sessionAbandoned_toRoot {e e' : Endpoint} {id : UInt64}
    (hid : e.activity.identifier = some id)
    (h : e'.activity = .recovering (some ⟨id, false⟩)) :
    SessionAbandoned (e.toRoot s) (e'.toRoot s) := by
  refine ⟨leavesReset_ended ⟨id, hid, h⟩, ?_, ?_, ?_⟩
  · unfold toRoot toSession
    rw [h]
    exact ⟨rfl, rfl⟩
  · rw [identifier_toRoot hid]
    unfold toRoot
    rw [h]
    exact ⟨rfl, rfl⟩
  · unfold toRoot
    rw [h]
    rfl

/-- A message in order is accepted when its places are free, and left where it is when
    they are not. -/
theorem message_step {e : Endpoint} (h : e.Wf s) {call : Call} (hatomic : Atomic s e call)
    {r : Reception} (hr : e.activity.reception = some r) {body : List UInt8} {frame : Frame}
    (hbody : e.offered call = some body) (hdecode : Decodes s body frame)
    (hv : e.classify s frame = .acceptMessage) :
    e.activity.unread = none ∧ e.activity.controlItem = none ∧
        Receive.accepted (e.toRoot s, call) = [frame] ∨
      ¬ (e.activity.unread = none ∧ e.activity.controlItem = none) ∧
        ReceiveKept (e.toRoot s) ((e.step s call).2.toRoot s) := by
  obtain ⟨x, ha, hlast, _, hx⟩ := established_of_reception hr
  have hclass := @classifyBody_decodes _ s e _ _ hdecode
  have hnext := step_message h hatomic ha hbody (by rw [hclass]; exact hv)
  rw [hclass] at hnext
  have hplaces : (x.unread = none ∧ x.acknowledgement = none) ↔
      (e.activity.unread = none ∧ e.activity.controlItem = none) := by
    rw [ha, controlItem_established, Option.map_eq_none_iff]
    rfl
  by_cases hfree : x.unread = none ∧ x.acknowledgement = none
  · rw [if_pos hfree] at hnext
    obtain ⟨htype, _, hseq⟩ := (classify_acceptMessage ha).mp hv
    have hframe := validFrame_toRoot.mpr ⟨body, hbody, hdecode⟩
    have hafter := reception_established r.identifier (x.receive frame)
    rw [← hnext] at hafter
    obtain ⟨hunread, hslot⟩ := hplaces.mp hfree
    refine Or.inl ⟨hunread, hslot, accepted_some hframe ((mem_accepted h).mpr ⟨hframe, htype,
      sessionState_toRoot.mpr ⟨_, hafter⟩, ?_⟩)⟩
    rw [(lastReceived_reception hafter).2.1, (lastReceived_reception hr).2.1, ← hlast, ← hseq]
    show frame.sequence + 1 ≠ frame.sequence
    simp
  · rw [if_neg hfree, ← ha] at hnext
    exact Or.inr ⟨fun hboth => hfree (hplaces.mpr hboth),
      receiveKept_toRoot hr (congrArg Activity.reception hnext)⟩

theorem disposes_step {e : Endpoint} (h : e.Wf s) {call : Call} (hatomic : Atomic s e call)
    {r : Reception} (hr : e.activity.reception = some r) :
    Disposes (e.toRoot s, call) ((e.step s call).2.toRoot s) := by
  obtain ⟨x, ha, hlast, _, _⟩ := established_of_reception hr
  have hid := @identifier_toRoot _ s _ _ (identifier_reception hr)
  have habandoned : ∀ {body}, e.offered call = some body →
      (e.classifyBody s body).1 = .incompatible →
      SessionAbandoned (e.toRoot s) ((e.step s call).2.toRoot s) :=
    fun hbody hv =>
      sessionAbandoned_toRoot (identifier_reception hr) (step_incompatible h hatomic ha hbody hv)
  constructor
  · intro frame hframe htype hcurrent hseq hunread hfree
    obtain ⟨body, hbody, hdecode⟩ := validFrame_toRoot.mp hframe
    dsimp only at hcurrent hseq hunread hfree
    rw [hid] at hcurrent
    rw [(lastReceived_reception hr).2.1, ← hlast] at hseq
    have hv := (@classify_acceptMessage _ s _ _ _ _ ha).mpr ⟨htype, hcurrent, hseq⟩
    rcases message_step h hatomic hr hbody hdecode hv with ⟨_, _, haccepted⟩ | ⟨hbusy, _⟩
    · exact haccepted
    · exact absurd ⟨pending_unread.mp hunread, controlIdle_toRoot.mp hfree⟩ hbusy
  · intro frame hframe hincompatible
    obtain ⟨body, hbody, hdecode⟩ := validFrame_toRoot.mp hframe
    have hwf := Frame.wf_of_validateFrame (validateFrame_of_decodeFrameView hdecode).1
    refine habandoned hbody ?_
    rw [classifyBody_decodes hdecode]
    exact (incompatible_toRoot h.activity ha hwf).mpr hincompatible
  · intro frame hdecoded
    obtain ⟨body, hbody, hdecode⟩ := decoded_offered hdecoded
    refine habandoned hbody ?_
    unfold classifyBody
    rw [hdecode]
    dsimp only
    rw [if_neg (by simp), if_pos (by rw [ha]; rfl)]
  · intro status frame result hdecoded hfits hversion hnone
    obtain ⟨body, hbody, hdecode⟩ := decoded_offered hdecoded
    dsimp only at hfits
    have hkept : (e.classifyBody s body).1 ≠ .incompatible →
        (e.classifyBody s body).1 ≠ .acceptReset → (e.classifyBody s body).1 ≠ .acceptMessage →
        ReceiveKept (e.toRoot s) ((e.step s call).2.toRoot s) := fun h1 h2 h3 =>
      receiveKept_toRoot hr (step_kept h hatomic ha hbody h1 h2 h3)
    by_cases hvalid : result = .valid
    · subst hvalid
      obtain ⟨hchecked, rfl⟩ := validateFrame_of_decodeFrameView hdecode
      obtain ⟨hfit, hreset⟩ := hfits rfl
      rw [hid] at hreset
      by_cases hv : e.classify s frame = .acceptMessage
      · rcases message_step h hatomic hr hbody hdecode hv with ⟨_, _, haccepted⟩ | ⟨_, hsame⟩
        · rw [haccepted] at hnone
          cases hnone
        · exact hsame
      · rw [classifyBody_decodes hdecode] at hkept
        refine hkept ?_ ?_ hv
        · rw [Ne, incompatible_toRoot h.activity ha (Frame.wf_of_validateFrame hchecked), hfit]
          simp
        · rw [Ne, classify_acceptReset h.activity ha]
          exact hreset
    · have hstatus := @decodeFrameView_status _ body
        (s.config.maxApplicationMessageSize + rawOverhead) s.config.maxApplicationMessageSize
        (offered_ne_nil h hbody) (Nat.le_refl _) s.rawSize_le
      have hreject : (e.classifyBody s body).1 = .reject := by
        rw [hdecode] at hstatus
        unfold classifyBody
        rw [hdecode]
        dsimp only at hstatus ⊢
        by_cases hlarge : status = .messageTooLarge
        · rw [if_pos hlarge]
        · rw [if_neg hlarge]
          cases result with
          | valid => exact absurd rfl hvalid
          | sessionIncompatible =>
              exact absurd ⟨hstatus.resolve_right hlarge, rfl⟩ hversion
          | _ => rfl
      apply hkept <;> (rw [hreject]; simp)

/-! ## One session -/

/-- A session keeps its identity. -/
theorem ledger_identifier {e e' : Endpoint} {frames : List Frame} {payloads : List (List UInt8)}
    (h : Ledger s e e' frames payloads) {r r' : Reception} (hr : e.activity.reception = some r)
    (hr' : e'.activity.reception = some r') : r'.identifier = r.identifier := by
  have hid := identifier_reception hr
  cases h with
  | same hsame =>
      rw [hsame, hr] at hr'
      cases hr'
      rfl
  | ended hnone =>
      rw [hnone] at hr'
      cases hr'
  | opened hnone =>
      rw [hnone] at hr
      cases hr
  | taken _ hcurrent _ _ _ _ _ htaken =>
      rw [htaken] at hr'
      rw [hcurrent] at hid
      cases hr'
      exact Option.some.inj hid
  | read hbefore _ hread =>
      rw [hr] at hbefore
      rw [hread] at hr'
      cases hbefore
      cases hr'
      rfl

/-- The moment that establishes a session: the handshake's last frame, and what comes
    after it. -/
theorem opening_step {e : Endpoint} (h : e.Wf s) {call : Call} (hatomic : Atomic s e call)
    (hbefore : e.activity.reception = none)
    (hafter : (e.step s call).2.activity.reception ≠ none) :
    (Handshake.lastAccepted (e.toRoot s, call)).1 =
        (if s.role = .host then .response else .confirm) ∧
      ((Receive.accepted (e.toRoot s, call)).map Frame.sequence = [] ∧
          ((e.step s call).2.toRoot s).session.expectedReceiveSequence =
            (Handshake.lastAccepted (e.toRoot s, call)).2 + 1 ∨
        (Receive.accepted (e.toRoot s, call)).map Frame.sequence =
            [(Handshake.lastAccepted (e.toRoot s, call)).2 + 1] ∧
          ((e.step s call).2.toRoot s).session.expectedReceiveSequence =
            (Handshake.lastAccepted (e.toRoot s, call)).2 + 1 + 1) := by
  have hledger := step_ledger h hatomic
  unfold Handshake.lastAccepted
  dsimp only
  rw [step_refines h, show (e.toRoot s).base.role = s.role from rfl]
  dsimp only
  generalize Receive.accepted (e.toRoot s, call) = frames at hledger
  generalize Application.returned (e.toRoot s, call) = payloads at hledger
  generalize (e.step s call).2 = e' at hledger hafter ⊢
  cases hledger with
  | same hsame => exact absurd (hsame.trans hbefore) hafter
  | ended hnone => exact absurd hnone hafter
  | read hr =>
      rw [hbefore] at hr
      cases hr
  | opened _ hopened hhost =>
      obtain ⟨hlast, hexpected, htype⟩ := @lastReceived_reception _ s _ _ hopened
      rw [if_neg (by simp)] at htype
      by_cases hrole : s.role = .host
      · obtain ⟨hlast', _, htype'⟩ := lastReceived_toRoot (hhost hrole)
        rw [if_pos hrole, if_pos hrole, hlast']
        exact ⟨htype', Or.inl ⟨rfl, hexpected⟩⟩
      · unfold Setup.finalFrameType at htype
        rw [if_neg hrole] at htype
        rw [if_neg hrole, if_neg hrole, hlast]
        exact ⟨htype, Or.inl ⟨rfl, hexpected⟩⟩
  | @taken frame last _ _ hlast hseq _ _ hproof htaken =>
      obtain ⟨hrole, htype⟩ := hproof hbefore
      obtain ⟨hsequence, _, htype'⟩ := lastReceived_toRoot hlast
      rw [if_pos hrole, if_pos hrole, hsequence, htype', (lastReceived_reception htaken).2.1, hseq]
      exact ⟨htype, Or.inr ⟨congrArg (fun sequence => [sequence]) hseq, rfl⟩⟩

end Endpoint

open Endpoint

/-- What a session has received, from the moment that establishes it on, where it has got
    to `root`. -/
structure SessionReceives (opening : Root × Call) (session : List (Root × Call)) (root : Root) :
    Prop where
  identifier : ∀ moment ∈ session,
    moment.1.session.sessionIdentifier = root.session.sessionIdentifier
  /-- The accepted messages are those that were returned, in order, and the one that is
      retained. -/
  order : ((opening :: session).flatMap Receive.accepted).map Frame.payload =
    (opening :: session).flatMap Application.returned ++ Application.retained root
  handshake : (Handshake.lastAccepted opening).1 =
    if opening.1.base.role = .host then .response else .confirm
  /-- Their sequences follow the last one of the handshake, modulo 2 ^ 16. -/
  sequences : ((opening :: session).flatMap Receive.accepted).map Frame.sequence =
    List.iterate (· + 1) ((Handshake.lastAccepted opening).2 + 1)
      ((opening :: session).flatMap Receive.accepted).length

theorem queue_step {s : Setup} {e : Endpoint} (h : e.Wf s) {call : Call}
    (hatomic : Atomic s e call)
    (hafter : (step (e.toRoot s) call).2.base.sessionState = .established) :
    Application.retained (e.toRoot s) ++
        (Receive.accepted (e.toRoot s, call)).map Frame.payload =
      Application.returned (e.toRoot s, call) ++
        Application.retained (step (e.toRoot s) call).2 := by
  rw [step_refines h] at hafter ⊢
  obtain ⟨r, hr⟩ := sessionState_toRoot.mp hafter
  exact ledger_queue (step_ledger h hatomic) (by rw [hr]; simp)

theorem number_step {s : Setup} {e : Endpoint} (h : e.Wf s) {call : Call}
    (hatomic : Atomic s e call) (hbefore : (e.toRoot s).base.sessionState = .established)
    (hafter : (step (e.toRoot s) call).2.base.sessionState = .established) :
    ((Receive.accepted (e.toRoot s, call)).map Frame.sequence = [] ∧
        (step (e.toRoot s) call).2.session.expectedReceiveSequence =
          (e.toRoot s).session.expectedReceiveSequence ∨
      (Receive.accepted (e.toRoot s, call)).map Frame.sequence =
          [(e.toRoot s).session.expectedReceiveSequence] ∧
        (step (e.toRoot s) call).2.session.expectedReceiveSequence =
          (e.toRoot s).session.expectedReceiveSequence + 1) ∧
      (step (e.toRoot s) call).2.session.sessionIdentifier =
        (e.toRoot s).session.sessionIdentifier := by
  rw [step_refines h] at hafter ⊢
  obtain ⟨r, hr⟩ := sessionState_toRoot.mp hbefore
  obtain ⟨r', hr'⟩ := sessionState_toRoot.mp hafter
  have hledger := step_ledger h hatomic
  refine ⟨ledger_number hledger (by rw [hr]; simp) (by rw [hr']; simp), ?_⟩
  rw [identifier_toRoot (identifier_reception hr), identifier_toRoot (identifier_reception hr'),
    ledger_identifier hledger hr hr']

theorem sessionReceives {s : Setup} {e : Endpoint} (hwf : e.Wf s) {calls : List Call}
    {before after session : List (Root × Call)} {opening visit : Root × Call}
    (hsplit : moments step (e.toRoot s) calls = before ++ opening :: (session ++ visit :: after))
    (hopens : establishes opening = true)
    (hsession : ∀ moment ∈ session, moment.1.base.sessionState = .established)
    (hvisit : visit.1.base.sessionState = .established) :
    SessionReceives opening session visit.1 := by
  have hstates : ∀ moment ∈ opening :: session, ∃ e' : Endpoint, e'.Wf s ∧
      Atomic s e' moment.2 ∧ moment.1 = e'.toRoot s := by
    intro moment hmoment
    refine @moment_endpoint _ s e hwf calls moment ?_
    rw [hsplit]
    refine List.mem_append_right _ ?_
    rcases List.mem_cons.mp hmoment with rfl | hmoment
    · exact List.mem_cons_self
    · exact List.mem_cons_of_mem _ (List.mem_append_left _ hmoment)
  unfold establishes at hopens
  rw [Bool.and_eq_true, bne_iff_ne, beq_iff_eq] at hopens
  obtain ⟨hclosed, hopened⟩ := hopens
  -- The session is a run from the state that the opening leads to.
  obtain ⟨rest, hrest⟩ := Library.visits_tail hsplit
  obtain ⟨first, second, _, rfl, hvisits⟩ := Library.visits_split hrest.symm
  have hlast := Library.visits_head hvisits.symm
  rw [hlast] at hvisit ⊢
  have hnext := @Library.visits_next _ _ _ step
    (fun root => root.base.sessionState = .established) _ _ hsession hvisit
  have hqueue := @Library.visits_queue _ _ _ _ step Application.retained
    (fun moment => (Receive.accepted moment).map Frame.payload) Application.returned first
    (step opening.1 opening.2).2
    (by
      intro moment hmoment
      obtain ⟨e', hwf', hatomic, hroot⟩ := hstates moment (List.mem_cons_of_mem _ hmoment)
      have hestablished := hnext moment hmoment
      obtain ⟨root, call⟩ := moment
      dsimp only at hatomic hroot hestablished ⊢
      subst hroot
      exact queue_step hwf' hatomic hestablished)
  have hnumbers := @Library.visits_iterate _ _ _ _ step
    (fun root => root.session.expectedReceiveSequence) (· + 1)
    (fun moment => (Receive.accepted moment).map Frame.sequence) first
    (step opening.1 opening.2).2
    (by
      intro moment hmoment
      obtain ⟨e', hwf', hatomic, hroot⟩ := hstates moment (List.mem_cons_of_mem _ hmoment)
      have hestablished := hnext moment hmoment
      have hbefore := hsession moment hmoment
      obtain ⟨root, call⟩ := moment
      dsimp only at hatomic hroot hestablished hbefore ⊢
      subst hroot
      exact (number_step hwf' hatomic hbefore hestablished).1)
  have hkept : ∀ moment ∈ Library.visits step (step opening.1 opening.2).2 first,
      (step moment.1 moment.2).2.session.sessionIdentifier =
        moment.1.session.sessionIdentifier := by
    intro moment hmoment
    obtain ⟨e', hwf', hatomic, hroot⟩ := hstates moment (List.mem_cons_of_mem _ hmoment)
    have hestablished := hnext moment hmoment
    have hbefore := hsession moment hmoment
    obtain ⟨root, call⟩ := moment
    dsimp only at hatomic hroot hestablished hbefore ⊢
    subst hroot
    exact (number_step hwf' hatomic hbefore hestablished).2
  obtain ⟨e₀, hwf₀, hatomic₀, hroot₀⟩ := hstates opening List.mem_cons_self
  obtain ⟨root₀, call₀⟩ := opening
  dsimp only at hatomic₀ hroot₀ hclosed hopened hqueue hnumbers hkept ⊢
  subst hroot₀
  have hfirst := queue_step hwf₀ hatomic₀ hopened
  have hbefore : e₀.activity.reception = none := reception_none hclosed
  have hafter : (e₀.step s call₀).2.activity.reception ≠ none := by
    rw [step_refines hwf₀] at hopened
    obtain ⟨r, hr⟩ := sessionState_toRoot.mp hopened
    rw [hr]
    simp
  obtain ⟨htype, hopening⟩ := opening_step hwf₀ hatomic₀ hbefore hafter
  constructor
  · have hall := @Library.visits_invariant _ _ _ step (fun root => root.session.sessionIdentifier =
      (step (e₀.toRoot s) call₀).2.session.sessionIdentifier) _ _ rfl
      fun moment hmoment heq => (hkept moment hmoment).trans heq
    have hend := @Library.visits_last _ _ _ step (fun root => root.session.sessionIdentifier =
      (step (e₀.toRoot s) call₀).2.session.sessionIdentifier) _ _ rfl
      fun moment hmoment heq => (hkept moment hmoment).trans heq
    exact fun moment hmoment => (hall moment hmoment).trans hend.symm
  · have hempty : Application.retained (e₀.toRoot s) = [] := by
      rw [retained_toRoot]
      cases ha : e₀.activity with
      | established =>
          rw [ha] at hbefore
          cases hbefore
      | _ => rfl
    rw [hempty, List.nil_append] at hfirst
    rw [List.flatMap_cons, List.flatMap_cons, List.map_append, List.map_flatMap, hfirst,
      List.append_assoc, hqueue, List.append_assoc]
  · exact htype
  · rw [← List.length_map (f := Frame.sequence), List.flatMap_cons, List.map_append,
      List.map_flatMap]
    rcases hopening with ⟨hnone, hexpected⟩ | ⟨hone, hexpected⟩
    · rw [step_refines hwf₀] at hnumbers
      rw [hexpected] at hnumbers
      rw [hnone, List.nil_append]
      rw [step_refines hwf₀]
      exact hnumbers
    · rw [step_refines hwf₀] at hnumbers
      rw [hexpected] at hnumbers
      rw [hone, List.singleton_append, List.length_cons, List.iterate, step_refines hwf₀,
        ← hnumbers]

/-- In every run of either role a session returns to the caller what it has accepted, in
    order and once each, up to the one message that is retained, and what it accepts is
    numbered from the handshake on. A message is retained when it is accepted, in the step
    that publishes its acknowledgement, and a retained message is never overwritten. A frame
    that is refused, or that repeats the last message, changes nothing; one that does not
    fit the session, an older message among them, ends it. -/
theorem receive_safety {root : Root} (h : Reachable root) (calls : List Call) :
    (∀ moment ∈ moments step root calls,
      Receives moment (step moment.1 moment.2).2 ∧
        (moment.1.base.sessionState = .established →
          Disposes moment (step moment.1 moment.2).2)) ∧
      ∀ before opening session visit after,
        moments step root calls = before ++ opening :: (session ++ visit :: after) →
        establishes opening = true →
        (∀ moment ∈ session, moment.1.base.sessionState = .established) →
        visit.1.base.sessionState = .established →
        SessionReceives opening session visit.1 := by
  obtain ⟨s, e, hwf, _, rfl⟩ := reachable_endpoint h
  refine ⟨?_, ?_⟩
  · rintro ⟨root, call⟩ hmoment
    obtain ⟨e', hwf', hatomic, hroot⟩ := moment_endpoint hwf hmoment
    dsimp only at hatomic hroot ⊢
    subst hroot
    rw [step_refines hwf']
    refine ⟨receives_step hwf' hatomic, fun hestablished => ?_⟩
    obtain ⟨r, hr⟩ := sessionState_toRoot.mp hestablished
    exact disposes_step hwf' hatomic hr
  · intro before opening session visit after hsplit hopens hsession hvisit
    exact sessionReceives hwf hsplit hopens hsession hvisit

end

/-- The sample host, one byte before the end of its handshake. -/
def confirmedHost : Root :=
  (Library.run (@step .lp64) connectedHost
    [.process 0 .normal, .peekOutput (some 64), .commitOutput 0,
      .receiveBytes (encodedFrame (Handshake.controlFrame .response 7 0)), .process 0 .normal,
      .peekOutput (some 64), .commitOutput 0,
      .receiveBytes (encodedFrame (Handshake.controlFrame .ack 7 1)).dropLast]).2

theorem reachable_confirmedHost : @Reachable .lp64 confirmedHost :=
  @reachable_run .lp64 _ reachable_connectedHost _

/-- The end of the handshake, a message that is received, and its read. -/
def oneMessage : List (Root × Call) :=
  moments (@step .lp64) confirmedHost
    [.receiveBytes [0], .receiveBytes (encodedFrame (Application.applicationFrame 7 1 [5])),
      .readApplicationData (some 1), .getStatus]

theorem length_oneMessage : oneMessage.length = 26 := by decide +kernel

theorem receive_safety_oneMessage :
    ∃ opening visit,
      oneMessage = oneMessage.take 1 ++ opening :: ((oneMessage.drop 2).take 23 ++ [visit]) ∧
      @SessionReceives .lp64 opening ((oneMessage.drop 2).take 23) visit.1 := by
  have hfirst : oneMessage.drop 1 =
      oneMessage.get ⟨1, by rw [length_oneMessage]; decide⟩ :: oneMessage.drop 2 :=
    List.drop_eq_getElem_cons _
  have hlast : oneMessage.drop 25 =
      oneMessage.get ⟨25, by rw [length_oneMessage]; decide⟩ :: oneMessage.drop 26 :=
    List.drop_eq_getElem_cons _
  have hend : oneMessage.drop 26 = [] := List.drop_eq_nil_of_le (Nat.le_of_eq length_oneMessage)
  have hrest : oneMessage.drop 2 = (oneMessage.drop 2).take 23 ++ oneMessage.drop 25 := by
    rw [← List.drop_drop (i := 23) (j := 2), List.take_append_drop]
  have hsplit : oneMessage = oneMessage.take 1 ++
      oneMessage.get ⟨1, by rw [length_oneMessage]; decide⟩ :: ((oneMessage.drop 2).take 23 ++
        [oneMessage.get ⟨25, by rw [length_oneMessage]; decide⟩]) := by
    rw [hend] at hlast
    rw [← hlast, ← hrest, ← hfirst, List.take_append_drop]
  exact ⟨_, _, hsplit,
    (@receive_safety .lp64 confirmedHost reachable_confirmedHost _).2 _ _ _ _ _ hsplit
      (by decide +kernel) (by decide +kernel) (by decide +kernel)⟩

/-- The sample host with a message that was not read. -/
def unreadHost : Root :=
  (Library.run (@step .lp64) establishedHost
    [.receiveBytes (encodedFrame (Application.applicationFrame 7 1 [5]))]).2

/-- A message of the session that is older than the last one. -/
def olderMessage : Frame := Application.applicationFrame 7 0xFFFF [6]

/-- It is stale, and the message that was not read is gone with the session. -/
theorem stale_message_abandons :
    @Reachable .lp64 unreadHost ∧ Application.retained unreadHost = [[5]] ∧
      unreadHost.session.classifySequence olderMessage.sequence = (.ok, .stale) ∧
      olderMessage.sessionIdentifier = unreadHost.session.sessionIdentifier ∧
      (@step .lp64 unreadHost (.receiveBytes (encodedFrame olderMessage))).2.base.sessionState =
        .recovering ∧
      Application.retained
        (@step .lp64 unreadHost (.receiveBytes (encodedFrame olderMessage))).2 = [] :=
  ⟨@reachable_run .lp64 _ reachable_establishedHost _, by decide +kernel⟩

end HilRigProtocol.Transport
