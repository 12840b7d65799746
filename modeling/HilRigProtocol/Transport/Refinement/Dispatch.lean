/-
  The reception of one complete body on the root of an endpoint.

  Every handler answers what the verdict on the frame asks for (`Answers`), and the
  dispatcher turns an answer into the transition of the endpoint.
-/
import HilRigProtocol.Transport.Refinement.Messages

namespace HilRigProtocol.Transport

/-- What the receive path does with the result of a dispatch. -/
def finishBody (result : Status × BodyAction × Root) : Status × Root :=
  match result.2.1 with
  | .consume =>
      if result.2.2.parser.consumeBody.1 ≠ .ok then Session.enterFault result.2.2
      else (result.1, { result.2.2 with parser := result.2.2.parser.consumeBody.2 })
  | _ => (result.1, result.2.2)

section
variable [Target]

theorem processRetainedBody_eq (root : Root) :
    Receive.processRetainedBody root = finishBody (Receive.decodeRetainedBody root) := by
  unfold Receive.processRetainedBody finishBody
  generalize Receive.decodeRetainedBody root = result
  obtain ⟨status, action, root⟩ := result
  cases action <;> rfl

/-- A result of the endpoint, with its root. -/
def rooted (s : Setup) (result : Status × Endpoint) : Status × Root :=
  (result.1, result.2.toRoot s)

variable {s : Setup}

/-! ## The consumed body -/

theorem consumeBody_toRoot {e : Endpoint} {body : List UInt8} (hi : e.intake = .ready body)
    (h : e.intake.Wf (s.config.maxEncodedFrameSize - 1)) :
    (e.toRoot s).parser.consumeBody = (.ok, (e.release.toRoot s).parser) := by
  have hvalid : (e.toRoot s).parser.stateIsValid = true :=
    parser_stateIsValid (Nat.sub_ne_zero_of_lt (Nat.lt_of_le_of_lt (by decide) s.frameSize_pos)) h
  rw [Parser.consumeBody, if_neg (by simp [hvalid])]
  simp [Endpoint.toRoot, hi, Intake.toParser, Intake.accumulated, Endpoint.release]

theorem finishBody_consume {e : Endpoint} {body : List UInt8} (hi : e.intake = .ready body)
    (h : e.intake.Wf (s.config.maxEncodedFrameSize - 1)) (status : Status) :
    finishBody (status, .consume, e.toRoot s) = (status, e.release.toRoot s) := by
  unfold finishBody
  simp only [consumeBody_toRoot hi h]
  rw [if_neg (by simp)]
  rfl

/-! ## The dispatcher's own rejections -/

theorem publishProtocolError_toRoot {e : Endpoint} (h : e.events.Wf) :
    Receive.publishProtocolError (e.toRoot s) = rooted s (e.publish Receive.protocolErrorEvent) := by
  unfold Receive.publishProtocolError rooted
  rw [publish_refines h rfl]
  dsimp only
  rw [Endpoint.publish_status]
  cases e.events.full <;> rfl

theorem wf_intake_publish {e : Endpoint} (h : e.Wf s) (event : Event) :
    (e.publish event).2.intake.Wf (s.config.maxEncodedFrameSize - 1) := by
  rw [(Endpoint.publish_fields e event).2.1]
  exact h.intake

theorem rejectRetainedBody_toRoot {e : Endpoint} (h : e.Wf s) {body : List UInt8}
    (hi : e.intake = .ready body) (frame : Frame) :
    finishBody (Receive.rejectRetainedBody (e.toRoot s)) = rooted s (e.attempt s frame .reject) := by
  have hready : (e.publish Receive.protocolErrorEvent).2.intake = .ready body := by
    rw [(Endpoint.publish_fields e _).2.1, hi]
  unfold Receive.rejectRetainedBody Endpoint.attempt Endpoint.available
  rw [publishProtocolError_toRoot h.events]
  unfold rooted
  dsimp only
  rw [Endpoint.publish_status]
  cases hfull : e.events.full with
  | true =>
      have hsame : (e.publish Receive.protocolErrorEvent).2 = e := by
        unfold Endpoint.publish
        rw [if_pos hfull]
      rw [hsame]
      rfl
  | false => exact finishBody_consume hready (wf_intake_publish h _) _

theorem rejectObsoleteBody_toRoot {e : Endpoint} (h : e.Wf s) {body : List UInt8}
    (hi : e.intake = .ready body) (hd : e.diagnosticPending = false) (frame : Frame) :
    finishBody (Receive.rejectObsoleteBody (e.toRoot s)) =
      rooted s (e.attempt s frame .obsolete) := by
  have hready : (e.publish Receive.protocolErrorEvent).2.intake = .ready body := by
    rw [(Endpoint.publish_fields e _).2.1, hi]
  have hstatus := Endpoint.publish_status e Receive.protocolErrorEvent
  have hdeferred : ∀ pending : Bool, finishBody ((e.publish Receive.protocolErrorEvent).1, .consume,
      ({ (e.publish Receive.protocolErrorEvent).2 with diagnosticPending := pending } :
        Endpoint).toRoot s) = ((e.publish Receive.protocolErrorEvent).1,
      ({ (e.publish Receive.protocolErrorEvent).2.release with diagnosticPending := pending } :
        Endpoint).toRoot s) := by
    intro pending
    exact @finishBody_consume _ s { (e.publish Receive.protocolErrorEvent).2 with
      diagnosticPending := pending } body hready (wf_intake_publish h _) _
  have hpending : (e.publish Receive.protocolErrorEvent).2.diagnosticPending = false := by
    rw [(Endpoint.publish_fields e _).2.2, hd]
  unfold Receive.rejectObsoleteBody
  rw [publishProtocolError_toRoot h.events]
  show _ = rooted s e.rejectObsolete
  unfold rooted Endpoint.rejectObsolete
  dsimp only
  rw [hstatus] at hdeferred ⊢
  cases hfull : e.events.full with
  | true =>
      rw [hfull] at hdeferred
      exact hdeferred true
  | false =>
      have hsame : (e.publish Receive.protocolErrorEvent).2 =
          { (e.publish Receive.protocolErrorEvent).2 with diagnosticPending := false } := by
        rw [← hpending]
      rw [hfull] at hdeferred
      rw [hsame]
      exact hdeferred false

theorem abandonIncompatibleSession_toRoot {e : Endpoint} (h : e.Wf s)
    (hlink : e.activity.linkState = .connected) {body : List UInt8} (hi : e.intake = .ready body)
    (hd : e.diagnosticPending = false) (frame : Frame) :
    finishBody (Receive.abandonIncompatibleSession (e.toRoot s)) =
      rooted s (e.attempt s frame .incompatible) := by
  obtain ⟨ha, hi', hd'⟩ := Endpoint.publish_fields e Receive.protocolErrorEvent
  have hstatus := Endpoint.publish_status e Receive.protocolErrorEvent
  have hwf := @Endpoint.wf_publish _ s e h Receive.protocolErrorEvent rfl
  rw [hi] at hi'
  rw [hd] at hd'
  unfold Receive.abandonIncompatibleSession
  rw [publishProtocolError_toRoot h.events]
  show _ = rooted s e.rejectSession
  by_cases hpending : ∃ reset, e.activity = .recovering (some reset)
  · obtain ⟨reset, hreset⟩ := hpending
    rw [Endpoint.rejectSession_pending hreset]
    unfold rooted
    dsimp only
    generalize e.publish Receive.protocolErrorEvent = published at ha hi' hd' hstatus hwf ⊢
    obtain ⟨status, published⟩ := published
    dsimp only at ha hi' hd' hstatus hwf ⊢
    subst hstatus
    have hid : sessionIdentifierIsValid reset.identifier = true := by
      have := h.activity
      rw [hreset] at this
      exact this reset rfl
    have hactivity : published.activity = .recovering (some reset) := by rw [ha, hreset]
    have hvalid : Receive.pendingResetIsValid (published.toRoot s) = true := by
      cases hpin : reset.pinned <;>
        simp [Receive.pendingResetIsValid, Endpoint.toRoot, Endpoint.toSession, hactivity,
          Activity.recoveryReset, Activity.sessionState, Activity.linkState, Activity.controlItem,
          hid, hpin]
    have hdeferred : ∀ (status : Status) (pending : Bool),
        finishBody (status, .consume,
          ({ published with diagnosticPending := pending } : Endpoint).toRoot s) =
        (status, ({ published.release with diagnosticPending := pending } : Endpoint).toRoot s) :=
      fun status pending => @finishBody_consume _ s { published with diagnosticPending := pending }
        body hi' hwf.intake status
    rw [if_pos (by simp [Endpoint.toRoot, hactivity, Activity.recoveryReset]),
      if_neg (by simp [hvalid])]
    have hsame : published = { published with diagnosticPending := false } := by rw [← hd']
    cases hfull : e.events.full with
    | true => exact hdeferred _ true
    | false =>
        rw [hsame]
        exact hdeferred _ false
  · rw [Endpoint.rejectSession_recover (not_exists.mp hpending)]
    unfold rooted
    dsimp only
    generalize e.publish Receive.protocolErrorEvent = published at ha hi' hd' hstatus hwf ⊢
    obtain ⟨status, published⟩ := published
    dsimp only at ha hi' hd' hstatus hwf ⊢
    subst hstatus
    have hnone : (published.toRoot s).recoveryResetPending = 0 := by
      cases hr : e.activity with
      | recovering reset =>
          cases reset with
          | none => simp [Endpoint.toRoot, ha, hr, Activity.recoveryReset]
          | some reset => exact absurd ⟨reset, hr⟩ hpending
      | _ => simp [Endpoint.toRoot, ha, hr, Activity.recoveryReset]
    have hrecovered := @beginLocalRecovery_refines _ s _ hwf (by rw [ha, hlink])
      .protocol (Or.inr (Or.inl rfl))
    obtain ⟨_, _, hdiagnostic⟩ := Endpoint.beginLocalRecovery_fields published .protocol
    have hrecoveryStatus : (published.beginLocalRecovery .protocol).1 =
        if published.events.full then .capacityExhausted else .ok :=
      abandon_status published _ .protocol
    rw [if_neg (by simp [hnone]), hrecovered]
    dsimp only
    rw [hrecoveryStatus]
    generalize published.beginLocalRecovery .protocol = recovered at hdiagnostic ⊢
    have hsame : recovered.2 = { recovered.2 with diagnosticPending := false } := by
      rw [← hdiagnostic]
    cases hfull : e.events.full with
    | true => cases published.events.full <;> rfl
    | false =>
        rw [hsame]
        cases published.events.full <;> rfl

/-! ## From an answer to the transition -/

/-- What the dispatchers do with the answer of a handler. -/
def settleAnswer {α : Type} [DecidableEq α] (stale incompatible : α)
    (answer : Status × α × Root) : Status × BodyAction × Root :=
  if answer.1 = .capacityExhausted then (answer.1, .retain, answer.2.2)
  else if answer.1 ≠ .ok then Receive.receiveFault answer.2.2
  else if answer.2.1 = stale then Receive.rejectRetainedBody answer.2.2
  else if answer.2.1 = incompatible then Receive.abandonIncompatibleSession answer.2.2
  else (.ok, .consume, answer.2.2)

theorem intake_accept (e : Endpoint) (frame : Frame) (verdict : Verdict) :
    (e.accept s frame verdict).intake = e.intake := by
  unfold Endpoint.accept
  split <;> rfl

theorem finishBody_settleAnswer {e : Endpoint} (h : e.Wf s)
    (hlink : e.activity.linkState = .connected) {body : List UInt8} (hi : e.intake = .ready body)
    (hd : e.diagnosticPending = false) {frame : Frame} {α : Type} [DecidableEq α]
    {stale incompatible : α} (hne : stale ≠ incompatible) {verdict : Verdict}
    {answer : Status × α × Root} (hanswers : Answers s e frame stale incompatible verdict answer) :
    finishBody (settleAnswer stale incompatible answer) = rooted s (e.attempt s frame verdict) := by
  obtain ⟨status, result, root⟩ := answer
  -- The verdicts that take the frame share one transition.
  have htaken : (e.attempt s frame verdict = if e.available verdict = true then
        (.ok, (e.accept s frame verdict).release) else (.capacityExhausted, e)) →
      (if e.available verdict = true then
        status = .ok ∧ result ≠ stale ∧ result ≠ incompatible ∧
          root = (e.accept s frame verdict).toRoot s
      else status = .capacityExhausted ∧ root = e.toRoot s) →
      finishBody (settleAnswer stale incompatible (status, result, root)) =
        rooted s (e.attempt s frame verdict) := by
    intro hattempt htaken
    rw [hattempt]
    unfold settleAnswer
    by_cases havailable : e.available verdict = true
    · rw [if_pos havailable] at htaken ⊢
      obtain ⟨rfl, hstale, hincompatible, rfl⟩ := htaken
      have hintake := @intake_accept _ s e frame verdict
      rw [if_neg (by simp), if_neg (by simp), if_neg hstale, if_neg hincompatible]
      exact finishBody_consume (hintake.trans hi) (by rw [hintake]; exact h.intake) .ok
    · rw [if_neg havailable] at htaken ⊢
      obtain ⟨rfl, rfl⟩ := htaken
      rw [if_pos rfl]
      rfl
  cases verdict with
  | reject =>
      cases hanswers
      rw [← rejectRetainedBody_toRoot h hi frame]
      unfold settleAnswer
      rw [if_neg (by simp), if_neg (by simp), if_pos rfl]
  | incompatible =>
      cases hanswers
      rw [← abandonIncompatibleSession_toRoot h hlink hi hd frame]
      unfold settleAnswer
      rw [if_neg (by simp), if_neg (by simp), if_neg (by exact hne.symm), if_pos rfl]
  | obsolete => exact hanswers.elim
  | acceptReset => exact hanswers.elim
  | _ => exact htaken rfl hanswers

/-! ## Handshake frames -/

/-- A session-less endpoint takes no frame as its own. -/
theorem sessionIdentifier_ne {e : Endpoint} (hnone : e.activity.identifier = none) {frame : Frame}
    (hframe : frame.Wf s.config.maxApplicationMessageSize) :
    frame.sessionIdentifier ≠ (e.toRoot s).session.sessionIdentifier := by
  simpa [Endpoint.toRoot, Endpoint.toSession, hnone] using hframe.identifier_ne

theorem handleFrame_eq {e : Endpoint} (h : e.Wf s) {frame : Frame} (hpayload : frame.payload = []) :
    Handshake.handleFrame (e.toRoot s) frame =
      if frame.type = .reset then Handshake.handleReset (e.toRoot s) frame
      else if s.role = .host then
        if frame.type = .response then Handshake.handleHostResponse (e.toRoot s) frame
        else if frame.type = .ack ∧ frame.sequence = 0 then
          Handshake.handleHostAck (e.toRoot s) frame
        else (.ok, .incompatible, e.toRoot s)
      else if frame.type = .initiate then Handshake.handleRigInitiate (e.toRoot s) frame
      else if frame.type = .confirm then Handshake.handleRigConfirm (e.toRoot s) frame
      else (.ok, .incompatible, e.toRoot s) := by
  have hrole : (e.toRoot s).session.role = s.role := rfl
  unfold Handshake.handleFrame
  rw [if_neg (not_fault_toRoot e), handshake_validateRoot h]
  with_reducible conv_lhs => whnf
  rw [if_neg (by simp), if_neg (by simp [hpayload]), hrole]
  rcases s.role_cases with hr | hr
  · rw [hr, if_pos rfl, if_pos rfl]
  · rw [hr, if_neg (show ¬ Role.rig = .host by simp), if_pos rfl,
      if_neg (show ¬ Role.rig = .host by simp)]

section
variable {e : Endpoint} {frame : Frame}

/-- INITIATE is for the rig. -/
theorem handleFrame_initiate (h : e.Wf s)
    (hframe : frame.Wf s.config.maxApplicationMessageSize)
    (hcurrent : e.activity.identifier = none ∨
      e.activity.identifier = some frame.sessionIdentifier)
    (htype : frame.type = .initiate) :
    Answers s e frame HandshakeFrameResult.stale .incompatible (e.classifyByType s frame)
      (Handshake.handleFrame (e.toRoot s) frame) := by
  have hverdict : e.classifyByType s frame =
      if s.role = .rig ∧ sessionIdentifierIsValid frame.sessionIdentifier then
        s.classifyInitiate e.activity frame
      else .incompatible := by
    unfold Endpoint.classifyByType
    rw [htype]
  rw [handleFrame_eq h (hframe.payload_nil (by rw [htype]; simp)), htype, if_neg (by simp)]
  rcases s.role_cases with hrole | hrole
  · rw [if_pos hrole, if_neg (by simp), if_neg (by simp), hverdict, if_neg (by simp [hrole])]
    rfl
  · rw [if_neg (by simp [hrole]), if_pos rfl, hverdict]
    by_cases hvalid : sessionIdentifierIsValid frame.sessionIdentifier = true
    · rw [if_pos ⟨hrole, hvalid⟩]
      exact handleRigInitiate_answers h hcurrent hvalid htype (hframe.initiate htype)
    · rw [if_neg (fun hboth => hvalid hboth.2), Handshake.handleRigInitiate,
        if_pos (Or.inl hvalid)]
      rfl

/-- RESPONSE is for the host. -/
theorem handleFrame_response (h : e.Wf s)
    (hframe : frame.Wf s.config.maxApplicationMessageSize)
    (hcurrent : e.activity.identifier = none ∨
      e.activity.identifier = some frame.sessionIdentifier)
    (htype : frame.type = .response) :
    Answers s e frame HandshakeFrameResult.stale .incompatible (e.classifyByType s frame)
      (Handshake.handleFrame (e.toRoot s) frame) := by
  have hverdict : e.classifyByType s frame =
      if s.role = .host ∧ e.activity.identifier.isSome then
        s.classifyResponse e.activity frame
      else .incompatible := by
    unfold Endpoint.classifyByType
    rw [htype]
  rw [handleFrame_eq h (hframe.payload_nil (by rw [htype]; simp)), htype, if_neg (by simp)]
  rcases s.role_cases with hrole | hrole
  · rw [if_pos hrole, if_pos rfl, hverdict]
    rcases hcurrent with hnone | hsome
    · rw [if_neg (by simp [hnone]), Handshake.handleHostResponse,
        if_pos (sessionIdentifier_ne hnone hframe)]
      rfl
    · rw [if_pos ⟨hrole, by rw [hsome]; rfl⟩]
      exact handleHostResponse_answers h hsome htype
  · rw [if_neg (by simp [hrole]), if_neg (by simp), if_neg (by simp), hverdict,
      if_neg (by simp [hrole])]
    rfl

/-- CONFIRM is for the rig. -/
theorem handleFrame_confirm (h : e.Wf s)
    (hframe : frame.Wf s.config.maxApplicationMessageSize)
    (hcurrent : e.activity.identifier = none ∨
      e.activity.identifier = some frame.sessionIdentifier)
    (htype : frame.type = .confirm) :
    Answers s e frame HandshakeFrameResult.stale .incompatible (e.classifyByType s frame)
      (Handshake.handleFrame (e.toRoot s) frame) := by
  have hverdict : e.classifyByType s frame =
      if s.role = .rig ∧ e.activity.identifier.isSome then
        s.classifyConfirm e.activity frame
      else .incompatible := by
    unfold Endpoint.classifyByType
    rw [htype]
  rw [handleFrame_eq h (hframe.payload_nil (by rw [htype]; simp)), htype, if_neg (by simp)]
  rcases s.role_cases with hrole | hrole
  · rw [if_pos hrole, if_neg (by simp), if_neg (by simp), hverdict, if_neg (by simp [hrole])]
    rfl
  · rw [if_neg (by simp [hrole]), if_neg (by simp), if_pos rfl, hverdict]
    rcases hcurrent with hnone | hsome
    · rw [if_neg (by simp [hnone]), Handshake.handleRigConfirm,
        if_pos (sessionIdentifier_ne hnone hframe)]
      rfl
    · rw [if_pos ⟨hrole, by rw [hsome]; rfl⟩]
      exact handleRigConfirm_answers h hrole hsome htype

/-- A host without a session has no acknowledgement to come. -/
theorem classifyAck_unbound (h : e.Wf s) (hlink : e.activity.linkState = .connected)
    (hrole : s.role = .host) (hnone : e.activity.identifier = none) :
    s.classifyAck e.activity frame = .incompatible := by
  have hw := h.activity
  cases ha : e.activity with
  | disconnected observed =>
      rw [ha] at hlink
      cases hlink
  | recovering reset => rfl
  | waitingForInitiate =>
      rw [ha] at hw
      cases hrole.symm.trans hw
  | _ =>
      rw [ha] at hnone
      cases hnone

/-- A rig has no acknowledgement to come before it is established. -/
theorem classifyAck_rig (h : e.Wf s) (hrole : s.role = .rig)
    (hphase : e.activity.phase ≠ .established) :
    s.classifyAck e.activity frame = .incompatible := by
  have hw := h.activity
  cases ha : e.activity with
  | established id x =>
      rw [ha] at hphase
      exact absurd rfl hphase
  | waitingForConfirmAck id received stage =>
      rw [ha] at hw
      cases hrole.symm.trans hw.1
  | recovering reset => rfl
  | _ => exact if_neg (by simp [hrole])

/-- ACK without a message outstanding is for the host. -/
theorem handleFrame_ack (h : e.Wf s) (hlink : e.activity.linkState = .connected)
    (hframe : frame.Wf s.config.maxApplicationMessageSize)
    (hcurrent : e.activity.identifier = none ∨
      e.activity.identifier = some frame.sessionIdentifier)
    (htype : frame.type = .ack) (hphase : e.activity.phase ≠ .established) :
    Answers s e frame HandshakeFrameResult.stale .incompatible (e.classifyByType s frame)
      (Handshake.handleFrame (e.toRoot s) frame) := by
  have hverdict : e.classifyByType s frame = s.classifyAck e.activity frame := by
    unfold Endpoint.classifyByType
    rw [htype]
  rw [handleFrame_eq h (hframe.payload_nil (by rw [htype]; simp)), htype, if_neg (by simp),
    hverdict]
  rcases s.role_cases with hrole | hrole
  · rw [if_pos hrole, if_neg (by simp), if_pos ⟨rfl, hframe.ack htype⟩]
    rcases hcurrent with hnone | hsome
    · rw [classifyAck_unbound h hlink hrole hnone, Handshake.handleHostAck,
        if_pos (sessionIdentifier_ne hnone hframe)]
      rfl
    · exact handleHostAck_answers h hrole hsome hphase
  · rw [classifyAck_rig h hrole hphase, if_neg (by simp [hrole]), if_neg (by simp),
      if_neg (by simp)]
    rfl

/-- The handshake's answer to every frame type but RESET. -/
theorem handleFrame_answers (h : e.Wf s) (hlink : e.activity.linkState = .connected)
    (hframe : frame.Wf s.config.maxApplicationMessageSize)
    (hcurrent : e.activity.identifier = none ∨
      e.activity.identifier = some frame.sessionIdentifier)
    (htype : frame.type = .initiate ∨ frame.type = .response ∨ frame.type = .confirm ∨
      frame.type = .ack ∧ e.activity.phase ≠ .established) :
    Answers s e frame HandshakeFrameResult.stale .incompatible (e.classifyByType s frame)
      (Handshake.handleFrame (e.toRoot s) frame) := by
  rcases htype with htype | htype | htype | ⟨htype, hphase⟩
  · exact handleFrame_initiate h hframe hcurrent htype
  · exact handleFrame_response h hframe hcurrent htype
  · exact handleFrame_confirm h hframe hcurrent htype
  · exact handleFrame_ack h hlink hframe hcurrent htype hphase

end

theorem bodyReady_toRoot {e : Endpoint} {body : List UInt8} (hi : e.intake = .ready body) :
    (e.toRoot s).parser.bodyReady ≠ 0 := by
  simp [Endpoint.toRoot, hi, Intake.toParser]

/-- The root that an answer leaves still holds the body. -/
theorem bodyReady_answer {e : Endpoint} {body : List UInt8} (hi : e.intake = .ready body)
    {frame : Frame} {α : Type} {stale incompatible : α} {verdict : Verdict}
    {answer : Status × α × Root} (hanswers : Answers s e frame stale incompatible verdict answer) :
    answer.2.2.parser.bodyReady ≠ 0 := by
  have htaken : (if e.available verdict = true then
        answer.1 = .ok ∧ answer.2.1 ≠ stale ∧ answer.2.1 ≠ incompatible ∧
          answer.2.2 = (e.accept s frame verdict).toRoot s
      else answer.1 = .capacityExhausted ∧ answer.2.2 = e.toRoot s) →
      answer.2.2.parser.bodyReady ≠ 0 := by
    intro htaken
    split_ifs at htaken
    · rw [htaken.2.2.2]
      exact bodyReady_toRoot ((intake_accept e frame verdict).trans hi)
    · rw [htaken.2]
      exact bodyReady_toRoot hi
  cases verdict with
  | reject =>
      cases hanswers
      exact bodyReady_toRoot hi
  | incompatible =>
      cases hanswers
      exact bodyReady_toRoot hi
  | obsolete => exact hanswers.elim
  | acceptReset => exact hanswers.elim
  | _ => exact htaken hanswers

theorem dispatchHandshakeFrame_eq {root : Root} {frame : Frame}
    (hready : (Handshake.handleFrame root frame).2.2.parser.bodyReady ≠ 0) :
    Receive.dispatchHandshakeFrame root frame =
      settleAnswer .stale .incompatible (Handshake.handleFrame root frame) := by
  unfold Receive.dispatchHandshakeFrame settleAnswer
  generalize Handshake.handleFrame root frame = answer at hready ⊢
  obtain ⟨status, result, next⟩ := answer
  dsimp only at hready ⊢
  rw [if_pos hready]
  split_ifs <;> cases result <;> simp_all

theorem dispatchHandshakeFrame_toRoot {e : Endpoint} (h : e.Wf s)
    (hlink : e.activity.linkState = .connected) {body : List UInt8} (hi : e.intake = .ready body)
    (hd : e.diagnosticPending = false) {frame : Frame}
    (hframe : frame.Wf s.config.maxApplicationMessageSize)
    (hcurrent : e.activity.identifier = none ∨
      e.activity.identifier = some frame.sessionIdentifier)
    (htype : frame.type = .initiate ∨ frame.type = .response ∨ frame.type = .confirm ∨
      frame.type = .ack ∧ e.activity.phase ≠ .established) :
    finishBody (Receive.dispatchHandshakeFrame (e.toRoot s) frame) =
      rooted s (e.attempt s frame (e.classifyByType s frame)) := by
  have hanswers := handleFrame_answers h hlink hframe hcurrent htype
  rw [dispatchHandshakeFrame_eq (bodyReady_answer hi hanswers)]
  exact finishBody_settleAnswer h hlink hi hd (by simp) hanswers

/-! ## RESET -/

/-- The peer's RESET of the current session. -/
theorem handleReset_current {e : Endpoint} (h : e.Wf s) (hlink : e.activity.linkState = .connected)
    {frame : Frame} (hframe : frame.Wf s.config.maxApplicationMessageSize)
    (htype : frame.type = .reset)
    (hcurrent : e.activity.identifier = some frame.sessionIdentifier) :
    Handshake.handleReset (e.toRoot s) frame =
      ((e.resolve s frame .acceptReset).1, .accepted,
        (e.resolve s frame .acceptReset).2.toRoot s) := by
  obtain ⟨hsequence, hack⟩ := hframe.reset htype
  have hvalid := identifier_wf h.activity hcurrent
  have habandon := abandon_refines h hlink (Or.inr (Or.inl rfl) : IsAbandonment .protocol)
  have hwf : (e.abandon (.recovering none) .protocol).2.Wf s := by
    apply Endpoint.wf_abandon h _ rfl
    intro r hr
    cases hr
  obtain ⟨ha, hi, hd⟩ := Endpoint.abandon_fields e (.recovering none) .protocol
  have hbegin := beginEstablishment_refines hwf ha hi hd
  have hstatus := abandon_status e (.recovering none) .protocol
  have hok : ¬ ((e.abandon (.recovering none) .protocol).1 ≠ .ok ∧
      (e.abandon (.recovering none) .protocol).1 ≠ .capacityExhausted) := by
    rw [hstatus]
    split_ifs <;> simp
  have hconnected : ((e.abandon (.recovering none) .protocol).2.toRoot s).session.linkState =
      .connected := by
    show (e.abandon (.recovering none) .protocol).2.activity.linkState = .connected
    rw [ha]
    rfl
  unfold Handshake.handleReset
  rw [if_neg (by simp [hsequence, hack, hvalid]),
    if_neg (by simp [Endpoint.toRoot, Endpoint.toSession, hcurrent]),
    if_neg (by simp [Endpoint.toRoot, Endpoint.toSession, hcurrent]), habandon]
  with_reducible conv_lhs => whnf
  rw [if_neg hok, if_pos hconnected, hbegin]
  with_reducible conv_lhs => whnf
  rw [if_neg (by simp)]
  rfl

/-- The handshake's answer to RESET. -/
theorem handleFrame_reset {e : Endpoint} (h : e.Wf s) (hlink : e.activity.linkState = .connected)
    {frame : Frame} (hframe : frame.Wf s.config.maxApplicationMessageSize)
    (hcurrent : e.activity.identifier = none ∨
      e.activity.identifier = some frame.sessionIdentifier)
    (htype : frame.type = .reset) :
    Handshake.handleFrame (e.toRoot s) frame =
      if ¬ sessionIdentifierIsValid frame.sessionIdentifier then (.ok, .incompatible, e.toRoot s)
      else if e.activity.identifier.isSome then
        ((e.resolve s frame .acceptReset).1, .accepted,
          (e.resolve s frame .acceptReset).2.toRoot s)
      else (.ok, .stale, e.toRoot s) := by
  obtain ⟨hsequence, hack⟩ := hframe.reset htype
  have hpayload : frame.payload = [] := hframe.payload_nil (by rw [htype]; simp)
  rw [handleFrame_eq h hpayload, if_pos htype]
  by_cases hvalid : sessionIdentifierIsValid frame.sessionIdentifier = true
  · rw [if_neg (not_not.mpr hvalid)]
    rcases hcurrent with hnone | hsome
    · rw [if_neg (by simp [hnone]), Handshake.handleReset,
        if_neg (by simp [hsequence, hack, hvalid]),
        if_pos (by simp [Endpoint.toRoot, Endpoint.toSession, hnone])]
    · rw [if_pos (by rw [hsome]; rfl)]
      exact handleReset_current h hlink hframe htype hsome
  · rw [if_pos hvalid, Handshake.handleReset, if_pos (by simp [hvalid])]

theorem classifyByType_reset (e : Endpoint) {frame : Frame} (htype : frame.type = .reset) :
    e.classifyByType s frame =
      if ¬ sessionIdentifierIsValid frame.sessionIdentifier then .incompatible
      else if e.activity.identifier.isSome then .acceptReset
      else .reject := by
  unfold Endpoint.classifyByType
  rw [htype]

theorem dispatchReset_toRoot {e : Endpoint} (h : e.Wf s)
    (hlink : e.activity.linkState = .connected) {body : List UInt8} (hi : e.intake = .ready body)
    (hd : e.diagnosticPending = false) {frame : Frame}
    (hframe : frame.Wf s.config.maxApplicationMessageSize)
    (hcurrent : e.activity.identifier = none ∨
      e.activity.identifier = some frame.sessionIdentifier)
    (htype : frame.type = .reset) :
    finishBody (Receive.dispatchHandshakeFrame (e.toRoot s) frame) =
      rooted s (e.attempt s frame (e.classifyByType s frame)) := by
  have hhandle := handleFrame_reset h hlink hframe hcurrent htype
  rw [classifyByType_reset e htype]
  by_cases hvalid : sessionIdentifierIsValid frame.sessionIdentifier = true
  · rw [if_neg (not_not.mpr hvalid)] at hhandle ⊢
    rcases hcurrent with hnone | hsome
    · have hunbound : ¬ e.activity.identifier.isSome = true := by
        rw [hnone]
        simp
      rw [if_neg hunbound] at hhandle ⊢
      have hanswers : Answers s e frame HandshakeFrameResult.stale .incompatible .reject
          (Handshake.handleFrame (e.toRoot s) frame) := hhandle
      rw [dispatchHandshakeFrame_eq (bodyReady_answer hi hanswers)]
      exact finishBody_settleAnswer h hlink hi hd (by simp) hanswers
    · have hbound : e.activity.identifier.isSome = true := by
        rw [hsome]
        rfl
      rw [if_pos hbound] at hhandle ⊢
      unfold Receive.dispatchHandshakeFrame
      rw [hhandle]
      have hempty : ((e.resolve s frame .acceptReset).2.toRoot s).parser.bodyReady = 0 := by
        have hintake : (e.resolve s frame .acceptReset).2.intake = .filling [] := by
          unfold Endpoint.resolve Endpoint.beginEstablishment
          dsimp only
          split_ifs <;> exact (Endpoint.abandon_fields e (.recovering none) .protocol).2.1
        simp [Endpoint.toRoot, hintake, Intake.toParser]
      have hstatus : (e.resolve s frame .acceptReset).1 = .ok ∨
          (e.resolve s frame .acceptReset).1 = .capacityExhausted := by
        have hs : (e.resolve s frame .acceptReset).1 =
            if e.events.full then .capacityExhausted else .ok :=
          abandon_status e (.recovering none) .protocol
        rw [hs]
        split_ifs <;> simp
      show _ = rooted s (e.resolve s frame .acceptReset)
      unfold rooted
      dsimp only
      rcases hstatus with hs | hs
      · rw [hs, if_neg (by simp), if_neg (by simp), if_neg (by simp [hempty])]
        rfl
      · rw [hs, if_pos rfl, if_neg (by simp [hempty])]
        rfl
  · rw [if_pos hvalid] at hhandle ⊢
    have hanswers : Answers s e frame HandshakeFrameResult.stale .incompatible .incompatible
        (Handshake.handleFrame (e.toRoot s) frame) := hhandle
    rw [dispatchHandshakeFrame_eq (bodyReady_answer hi hanswers)]
    exact finishBody_settleAnswer h hlink hi hd (by simp) hanswers

/-! ## Acknowledgements and application messages -/

theorem retainedType_toRoot {e : Endpoint}
    (h : (e.toRoot s).session.retainedReliableFrameType = .applicationMessage) :
    ∃ id x payload stage, e.activity = .established id x ∧ x.outgoing = some (payload, stage) := by
  cases ha : e.activity with
  | established id x =>
      cases hout : x.outgoing with
      | none => simp [Endpoint.toRoot, Endpoint.toSession, ha, Setup.item, hout] at h
      | some outgoing => exact ⟨id, x, outgoing.1, outgoing.2, rfl, hout⟩
  | _ =>
      simp [Endpoint.toRoot, Endpoint.toSession, ha, Setup.item, Setup.initiateFrame,
        Setup.responseFrame, Setup.confirmFrame] at h

/-- On an established session without a message only the ACK of CONFIRM is repeated. -/
theorem isDuplicateFinal_toRoot {e : Endpoint} (h : e.Wf s) {frame : Frame} {x : Exchange}
    (ha : e.activity = .established frame.sessionIdentifier x) (htype : frame.type = .ack) :
    Handshake.isDuplicateFinalHostAcknowledgement (e.toRoot s) frame =
      decide (s.role = .host ∧ frame.acknowledgementSequence = s.firstSequence + 1) := by
  have hconfirm := @completedConfirmMetadataIsValid_toRoot _ s e h.activity
  unfold Handshake.isDuplicateFinalHostAcknowledgement
  rw [hconfirm]
  rcases s.role_cases with hr | hr
  · simp [Endpoint.toRoot, Endpoint.toSession, ha, hr, htype, Activity.sessionState,
      Activity.phase, Activity.identifier, Setup.completedConfirm]
    rfl
  · simp [Endpoint.toRoot, Endpoint.toSession, hr]

omit [Target] in
theorem established_of_phase {e : Endpoint} {frame : Frame}
    (hphase : e.activity.phase = .established)
    (hcurrent : e.activity.identifier = none ∨
      e.activity.identifier = some frame.sessionIdentifier) :
    ∃ x, e.activity = .established frame.sessionIdentifier x := by
  cases ha : e.activity with
  | established id x =>
      rw [ha] at hcurrent
      have hid : id = frame.sessionIdentifier := by simpa [Activity.identifier] using hcurrent
      exact ⟨x, by rw [hid]⟩
  | _ =>
      rw [ha] at hphase
      cases hphase

variable (s) in
/-- Who answers an ACK: the message that is outstanding, the established session by
    itself, or the handshake. -/
inductive Acknowledged (e : Endpoint) (frame : Frame) : Prop
  | message {x : Exchange} {payload : List UInt8} {stage : Stage} :
      e.activity = .established frame.sessionIdentifier x → x.outgoing = some (payload, stage) →
      (e.toRoot s).session.retainedReliableFrameType = .applicationMessage →
      e.classifyByType s frame =
        .ofAck (stage.ackResult (frame.acknowledgementSequence == x.nextTransmit))
          .acceptDelivery .reject →
      Acknowledged e frame
  | final {x : Exchange} : e.activity = .established frame.sessionIdentifier x →
      (e.toRoot s).session.retainedReliableFrameType ≠ .applicationMessage →
      (e.toRoot s).base.sessionState = .established ∧
        (e.toRoot s).session.state = .established →
      (e.classifyByType s frame =
        if s.role = .host ∧ frame.acknowledgementSequence = s.firstSequence + 1 then .duplicate
        else .reject) →
      Acknowledged e frame
  | handshake : (e.toRoot s).session.retainedReliableFrameType ≠ .applicationMessage →
      ¬ ((e.toRoot s).base.sessionState = .established ∧
        (e.toRoot s).session.state = .established) →
      e.activity.phase ≠ .established → Acknowledged e frame

theorem acknowledged_cases {e : Endpoint} {frame : Frame}
    (hcurrent : e.activity.identifier = none ∨
      e.activity.identifier = some frame.sessionIdentifier)
    (htype : frame.type = .ack) : Acknowledged s e frame := by
  have hverdict : e.classifyByType s frame = s.classifyAck e.activity frame := by
    unfold Endpoint.classifyByType
    rw [htype]
  by_cases hphase : e.activity.phase = .established
  · obtain ⟨x, ha⟩ := established_of_phase hphase hcurrent
    cases hout : x.outgoing with
    | some outgoing =>
        refine .message ha hout ?_ ?_
        · simp [Endpoint.toRoot, Endpoint.toSession, ha, Setup.item, hout,
            Application.applicationFrame]
        · rw [hverdict, ha]
          simp [Setup.classifyAck, hout]
    | none =>
        refine .final ha ?_ ?_ ?_
        · simp [Endpoint.toRoot, Endpoint.toSession, ha, Setup.item, hout]
        · simp [Endpoint.toRoot, Endpoint.toSession, ha, Activity.sessionState]
        · rw [hverdict, ha]
          simp [Setup.classifyAck, hout]
  · refine .handshake ?_ ?_ hphase
    · intro hretained
      obtain ⟨_, _, _, _, ha, _⟩ := retainedType_toRoot hretained
      rw [ha] at hphase
      exact hphase rfl
    · rintro ⟨hs, _⟩
      have hs' : e.activity.sessionState = .established := hs
      cases ha : e.activity <;> rw [ha] at hs' hphase <;> cases hs'
      exact hphase rfl

theorem dispatchAcknowledgement_toRoot {e : Endpoint} (h : e.Wf s)
    (hlink : e.activity.linkState = .connected) {body : List UInt8} (hi : e.intake = .ready body)
    (hd : e.diagnosticPending = false) {frame : Frame}
    (hframe : frame.Wf s.config.maxApplicationMessageSize)
    (hcurrent : e.activity.identifier = none ∨
      e.activity.identifier = some frame.sessionIdentifier)
    (htype : frame.type = .ack) :
    finishBody (Receive.dispatchAcknowledgement (e.toRoot s) frame) =
      rooted s (e.attempt s frame (e.classifyByType s frame)) := by
  unfold Receive.dispatchAcknowledgement
  cases @acknowledged_cases _ s _ _ hcurrent htype with
  | message ha hout hretained hclassify =>
      have hanswers := handleAcknowledgement_answers h ha hout htype
      rw [if_pos hretained, hclassify, ← finishBody_settleAnswer h hlink hi hd (by simp) hanswers]
      unfold settleAnswer
      generalize Application.handleAcknowledgement (e.toRoot s) frame = answer
      obtain ⟨status, result, root⟩ := answer
      dsimp only
      congr 1
      split_ifs <;> cases result <;> simp_all
  | final ha hretained hstates hclassify =>
      rw [if_neg hretained, if_pos hstates, isDuplicateFinal_toRoot h ha htype, hclassify]
      by_cases hfinal : s.role = .host ∧ frame.acknowledgementSequence = s.firstSequence + 1
      · rw [if_pos (by simpa using hfinal), if_pos hfinal]
        exact finishBody_consume hi h.intake .ok
      · rw [if_neg (by simpa using hfinal), if_neg hfinal]
        exact rejectRetainedBody_toRoot h hi frame
  | handshake hretained hstates hphase =>
      rw [if_neg hretained, if_neg hstates]
      exact dispatchHandshakeFrame_toRoot h hlink hi hd hframe hcurrent
        (Or.inr (Or.inr (Or.inr ⟨htype, hphase⟩)))

/-- The answer to a message: the proof of establishment, then the session's handler. -/
def messageAnswer (root : Root) (frame : Frame) : Status × ApplicationFrameResult × Root :=
  let proof := Handshake.tryCompleteHostFromApplication root frame
  if proof.1 ≠ .ok then (proof.1, .accepted, proof.2.2)
  else if proof.2.1 = .stale then (.ok, .stale, proof.2.2)
  else if proof.2.1 = .incompatible then (.ok, .incompatible, proof.2.2)
  else Application.handleReceivedFrame proof.2.2 frame

/-- The part of the application dispatch after the proof of establishment. -/
theorem dispatchApplicationFrame_received {root next : Root} {frame : Frame}
    {proofResult : ApplicationProofResult}
    (hproof : Handshake.tryCompleteHostFromApplication root frame = (.ok, proofResult, next))
    (hstale : proofResult ≠ .stale) (hincompatible : proofResult ≠ .incompatible) :
    Receive.dispatchApplicationFrame root frame =
      settleAnswer .stale .incompatible (Application.handleReceivedFrame next frame) := by
  unfold Receive.dispatchApplicationFrame settleAnswer
  rw [hproof]
  dsimp only
  rw [if_neg (by simp), if_neg (by simp), if_neg hstale, if_neg hincompatible]
  generalize Application.handleReceivedFrame next frame = answer
  obtain ⟨status, result, last⟩ := answer
  dsimp only
  split_ifs <;> cases result <;> simp_all

theorem dispatchApplicationFrame_eq (root : Root) (frame : Frame) :
    Receive.dispatchApplicationFrame root frame =
      settleAnswer .stale .incompatible (messageAnswer root frame) := by
  unfold messageAnswer
  cases hproof : Handshake.tryCompleteHostFromApplication root frame with
  | mk status rest =>
    obtain ⟨proof, next⟩ := rest
    by_cases hok : status = .ok
    · subst hok
      cases proof with
      | stale | incompatible =>
          unfold Receive.dispatchApplicationFrame
          rw [hproof]
          rfl
      | notApplicable | accepted =>
          exact dispatchApplicationFrame_received hproof (by simp) (by simp)
    · unfold Receive.dispatchApplicationFrame settleAnswer
      rw [hproof]
      dsimp only
      rw [if_pos hok, if_pos hok, if_pos hok]

/-- A message that reaches a host which waits for the ACK of its CONFIRM. -/
theorem messageAnswer_waiting {e : Endpoint} (h : e.Wf s) {frame : Frame} {received : UInt16}
    {stage : Stage} (ha : e.activity = .waitingForConfirmAck frame.sessionIdentifier received stage)
    (hframe : frame.Wf s.config.maxApplicationMessageSize)
    (htype : frame.type = .applicationMessage) :
    Answers s e frame ApplicationFrameResult.stale .incompatible
      (e.activity.classifyMessage frame) (messageAnswer (e.toRoot s) frame) := by
  have hcurrent : e.activity.identifier = some frame.sessionIdentifier := by
    rw [ha]
    rfl
  have hclassify : e.activity.classifyMessage frame =
      if sequenceAfter received frame.sequence ≠ .expected then .incompatible
      else if stage.pinned then .blocked
      else if stage.acceptsAck then .prove
      else .incompatible := by
    rw [ha]
    rfl
  have hproof := tryComplete_waiting h ha hcurrent htype hframe
  unfold messageAnswer
  rw [hclassify]
  by_cases hexpected : sequenceAfter received frame.sequence ≠ .expected
  · rw [if_pos hexpected] at hproof ⊢
    rw [hproof]
    rfl
  rw [if_neg hexpected] at hproof ⊢
  by_cases hpinned : stage.pinned = true
  · rw [if_pos hpinned] at hproof ⊢
    rw [hproof]
    exact ⟨rfl, rfl⟩
  rw [if_neg hpinned] at hproof ⊢
  by_cases haccepts : stage.acceptsAck = true
  · rw [if_pos haccepts] at hproof ⊢
    have havailable : e.available .prove = !e.events.full := rfl
    show if e.available .prove = true then _ else _
    by_cases hfull : e.events.full = true
    · have hfree : ¬ e.available .prove = true := by simp [havailable, hfull]
      rw [if_pos hfull] at hproof
      rw [if_neg hfree, hproof]
      exact ⟨rfl, rfl⟩
    · have hfree : e.available .prove = true := by simpa [havailable] using hfull
      have hwf := h.activity
      rw [ha] at hwf
      have hestablished : (e.establish (s.hostEstablished frame.sessionIdentifier received)).Wf s :=
        Endpoint.wf_establish h hwf.2.1 (Endpoint.Exchange.wf_initial _ _) (by simpa using hfull)
      have hreceived := handleReceivedFrame_established hestablished rfl htype hframe
      dsimp only [Exchange.initial] at hreceived
      rw [not_not.mp hexpected] at hreceived
      have haccept : e.accept s frame .prove =
          (e.establish (s.hostEstablished frame.sessionIdentifier received)).accept s frame
            .acceptMessage := by
        unfold Endpoint.accept
        rw [ha]
        rfl
      have hanswer : Application.handleReceivedFrame
          ((e.establish (s.hostEstablished frame.sessionIdentifier received)).toRoot s) frame =
            (.ok, .accepted, (e.accept s frame .prove).toRoot s) := by
        rw [haccept]
        exact hreceived
      rw [if_neg hfull] at hproof
      rw [if_pos hfree, hproof]
      dsimp only
      rw [if_neg (by simp), if_neg (by simp), if_neg (by simp), hanswer]
      exact ⟨rfl, by simp, by simp, rfl⟩
  · rw [if_neg haccepts] at hproof ⊢
    rw [hproof]
    rfl

/-- Everywhere else the message goes to the session's handler. -/
theorem messageAnswer_other {e : Endpoint} (h : e.Wf s) {frame : Frame}
    (htype : frame.type = .applicationMessage)
    (hphase : e.activity.phase ≠ .waitingForConfirmAck) :
    messageAnswer (e.toRoot s) frame = Application.handleReceivedFrame (e.toRoot s) frame := by
  unfold messageAnswer
  rw [tryComplete_other h htype hphase]
  dsimp only
  rw [if_neg (by simp), if_neg (by simp), if_neg (by simp)]

theorem messageAnswer_established {e : Endpoint} (h : e.Wf s) {frame : Frame} {x : Exchange}
    (ha : e.activity = .established frame.sessionIdentifier x)
    (hframe : frame.Wf s.config.maxApplicationMessageSize)
    (htype : frame.type = .applicationMessage) :
    Answers s e frame ApplicationFrameResult.stale .incompatible
      (e.activity.classifyMessage frame) (messageAnswer (e.toRoot s) frame) := by
  have hclassify : ∀ result, sequenceAfter x.lastReceived frame.sequence = result →
      e.activity.classifyMessage frame =
        if result = .expected then .acceptMessage
        else if result = .duplicate ∧ x.messageReceived = true then .repeatAck
        else .incompatible := by
    rintro result rfl
    unfold Activity.classifyMessage
    rw [ha]
    dsimp only
    cases sequenceAfter x.lastReceived frame.sequence <;> cases x.messageReceived <;> rfl
  rw [messageAnswer_other h htype (by rw [ha]; simp [Activity.phase]),
    handleReceivedFrame_established h ha htype hframe, hclassify _ rfl]
  cases sequenceAfter x.lastReceived frame.sequence with
  | stale => rfl
  | incompatible => rfl
  | duplicate =>
      cases x.messageReceived with
      | false => rfl
      | true => exact ⟨rfl, by simp, by simp, rfl⟩
  | expected =>
      rw [if_pos rfl]
      dsimp only
      unfold Answers Endpoint.available
      rw [ha]
      dsimp only
      by_cases hfree : (x.unread.isNone && x.acknowledgement.isNone) = true
      · rw [if_pos hfree, if_pos hfree]
        exact ⟨rfl, by simp, by simp, rfl⟩
      · rw [if_neg hfree, if_neg hfree]
        exact ⟨rfl, rfl⟩

theorem messageAnswer_answers {e : Endpoint} (h : e.Wf s) {frame : Frame}
    (hframe : frame.Wf s.config.maxApplicationMessageSize)
    (hcurrent : e.activity.identifier = none ∨
      e.activity.identifier = some frame.sessionIdentifier)
    (htype : frame.type = .applicationMessage) :
    Answers s e frame ApplicationFrameResult.stale .incompatible (e.classifyByType s frame)
      (messageAnswer (e.toRoot s) frame) := by
  have hverdict : e.classifyByType s frame = e.activity.classifyMessage frame := by
    unfold Endpoint.classifyByType
    rw [htype]
  rw [hverdict]
  have hunestablished : e.activity.sessionState ≠ .established →
      e.activity.phase ≠ .waitingForConfirmAck →
      e.activity.classifyMessage frame = .incompatible →
      Answers s e frame ApplicationFrameResult.stale .incompatible
        (e.activity.classifyMessage frame) (messageAnswer (e.toRoot s) frame) := by
    intro hstate hphase hclassify
    have hnot : Application.sessionIsEstablished (e.toRoot s) = false := by
      rw [sessionIsEstablished_toRoot h.activity]
      cases ha : e.activity with
      | established id x =>
          rw [ha] at hstate
          exact absurd rfl hstate
      | _ => rfl
    rw [hclassify, messageAnswer_other h htype hphase, handleReceivedFrame_other h htype hnot]
    rfl
  cases ha : e.activity with
  | waitingForConfirmAck id received stage =>
      have hid : id = frame.sessionIdentifier := by
        rw [ha] at hcurrent
        simpa [Activity.identifier] using hcurrent
      subst hid
      rw [← ha]
      exact messageAnswer_waiting h ha hframe htype
  | established id x =>
      obtain ⟨y, hy⟩ := established_of_phase (by rw [ha]; rfl) hcurrent
      rw [← ha]
      exact messageAnswer_established h hy hframe htype
  | _ =>
      rw [ha] at hunestablished
      exact hunestablished (by simp [Activity.sessionState]) (by simp [Activity.phase]) rfl

theorem dispatchApplicationFrame_toRoot {e : Endpoint} (h : e.Wf s)
    (hlink : e.activity.linkState = .connected) {body : List UInt8} (hi : e.intake = .ready body)
    (hd : e.diagnosticPending = false) {frame : Frame}
    (hframe : frame.Wf s.config.maxApplicationMessageSize)
    (hcurrent : e.activity.identifier = none ∨
      e.activity.identifier = some frame.sessionIdentifier)
    (htype : frame.type = .applicationMessage) :
    finishBody (Receive.dispatchApplicationFrame (e.toRoot s) frame) =
      rooted s (e.attempt s frame (e.classifyByType s frame)) := by
  rw [dispatchApplicationFrame_eq]
  exact finishBody_settleAnswer h hlink hi hd (by simp)
    (messageAnswer_answers h hframe hcurrent htype)

/-! ## The dispatcher -/

theorem frameIsRecentlyAbandoned_toRoot {e : Endpoint} {frame : Frame} :
    Receive.frameIsRecentlyAbandoned (e.toRoot s) frame = true ↔
      e.abandoned = some frame.sessionIdentifier ∧
        e.activity.identifier ≠ some frame.sessionIdentifier := by
  unfold Receive.frameIsRecentlyAbandoned
  cases hold : e.abandoned with
  | none => simp [Endpoint.toRoot, hold]
  | some old =>
      cases hid : e.activity.identifier with
      | none =>
          simp [Endpoint.toRoot, Endpoint.toSession, hold, hid]
          rw [@eq_comm _ frame.sessionIdentifier old]
      | some id =>
          simp [Endpoint.toRoot, Endpoint.toSession, hold, hid]
          rw [@eq_comm _ frame.sessionIdentifier old, @eq_comm _ frame.sessionIdentifier id]

theorem rigIsWaitingUnboundForInitiate_toRoot {e : Endpoint} (h : e.activity.Wf s) :
    Receive.rigIsWaitingUnboundForInitiate (e.toRoot s) = true ↔
      e.activity = .waitingForInitiate := by
  unfold Receive.rigIsWaitingUnboundForInitiate
  cases ha : e.activity with
  | waitingForInitiate =>
      rw [ha] at h
      have hrole : s.role = .rig := h
      simp [Endpoint.toRoot, Endpoint.toSession, ha, hrole, Activity.sessionState, Activity.phase,
        Activity.identifier]
  | _ =>
      simp [Endpoint.toRoot, Endpoint.toSession, ha, Activity.sessionState, Activity.phase]

theorem frameHasIncompatibleSessionIdentifier_toRoot {e : Endpoint} {frame : Frame} :
    Receive.frameHasIncompatibleSessionIdentifier (e.toRoot s) frame = true ↔
      e.activity.identifier.isSome = true ∧
        e.activity.identifier ≠ some frame.sessionIdentifier := by
  unfold Receive.frameHasIncompatibleSessionIdentifier
  cases hid : e.activity.identifier with
  | none => simp [Endpoint.toRoot, Endpoint.toSession, hid]
  | some id =>
      simp [Endpoint.toRoot, Endpoint.toSession, hid]
      rw [@eq_comm _ frame.sessionIdentifier id]

omit [Target] in
theorem current_of_not_foreign {e : Endpoint} {frame : Frame}
    (h : ¬ (e.activity.identifier.isSome = true ∧
      e.activity.identifier ≠ some frame.sessionIdentifier)) :
    e.activity.identifier = none ∨ e.activity.identifier = some frame.sessionIdentifier := by
  cases hid : e.activity.identifier with
  | none => exact Or.inl rfl
  | some id =>
      rw [hid] at h
      simpa using h

/-- A valid frame gets the transition of its verdict. -/
theorem dispatchFrame_toRoot {e : Endpoint} (h : e.Wf s)
    (hlink : e.activity.linkState = .connected) {body : List UInt8} (hi : e.intake = .ready body)
    (hd : e.diagnosticPending = false) {frame : Frame}
    (hframe : frame.Wf s.config.maxApplicationMessageSize) :
    finishBody (Receive.dispatchFrame (e.toRoot s) frame) =
      rooted s (e.attempt s frame (e.classify s frame)) := by
  have habandoned := @frameIsRecentlyAbandoned_toRoot _ s e frame
  have hunbound := rigIsWaitingUnboundForInitiate_toRoot h.activity
  have hother := @frameHasIncompatibleSessionIdentifier_toRoot _ s e frame
  unfold Receive.dispatchFrame Endpoint.classify
  by_cases hobsolete : e.abandoned = some frame.sessionIdentifier ∧
      e.activity.identifier ≠ some frame.sessionIdentifier
  · rw [if_pos (habandoned.mpr hobsolete), if_pos hobsolete]
    exact rejectObsoleteBody_toRoot h hi hd frame
  rw [if_neg (fun hroot => hobsolete (habandoned.mp hroot)), if_neg hobsolete]
  by_cases hwaiting : e.activity = .waitingForInitiate ∧ frame.type ≠ .initiate
  · rw [if_pos ⟨hunbound.mpr hwaiting.1, hwaiting.2⟩, if_pos hwaiting]
    exact rejectObsoleteBody_toRoot h hi hd frame
  rw [if_neg (fun hroot => hwaiting ⟨hunbound.mp hroot.1, hroot.2⟩), if_neg hwaiting]
  by_cases hforeign : e.activity.identifier.isSome = true ∧
      e.activity.identifier ≠ some frame.sessionIdentifier
  · rw [if_pos (hother.mpr hforeign), if_pos hforeign]
    exact abandonIncompatibleSession_toRoot h hlink hi hd frame
  rw [if_neg (fun hroot => hforeign (hother.mp hroot)), if_neg hforeign]
  have hcurrent := current_of_not_foreign hforeign
  have hvalid := hframe.type_valid
  cases htype : frame.type with
  | initiate => exact dispatchHandshakeFrame_toRoot h hlink hi hd hframe hcurrent (Or.inl htype)
  | response =>
      exact dispatchHandshakeFrame_toRoot h hlink hi hd hframe hcurrent (Or.inr (Or.inl htype))
  | confirm =>
      exact dispatchHandshakeFrame_toRoot h hlink hi hd hframe hcurrent
        (Or.inr (Or.inr (Or.inl htype)))
  | reset => exact dispatchReset_toRoot h hlink hi hd hframe hcurrent htype
  | ack => exact dispatchAcknowledgement_toRoot h hlink hi hd hframe hcurrent htype
  | applicationMessage =>
      exact dispatchApplicationFrame_toRoot h hlink hi hd hframe hcurrent htype
  | invalid =>
      rw [htype] at hvalid
      cases hvalid
  | unlisted raw =>
      rw [htype] at hvalid
      cases hvalid

/-! ## The retained body -/

theorem decodeRetainedBody_of_decoded {root : Root} {body : List UInt8}
    (hpeek : root.parser.peekBody = (.ok, body)) (status : Status) (frame : Frame)
    (result : DecodeResult) :
    decodeFrameView body root.codecScratchSize root.base.config.maxApplicationMessageSize =
        (status, frame, result) →
      Receive.decodeRetainedBody root =
        if status = .messageTooLarge then Receive.rejectRetainedBody root
        else if status ≠ .ok then Receive.receiveFault root
        else
          match result with
          | .valid => Receive.dispatchFrame root frame
          | .malformed | .integrityInvalid => Receive.rejectRetainedBody root
          | .sessionIncompatible =>
              if root.session.sessionIdentifierValid ≠ 0 then
                Receive.abandonIncompatibleSession root
              else Receive.rejectRetainedBody root := by
  intro hdecode
  unfold Receive.decodeRetainedBody
  rw [hpeek]
  with_reducible conv_lhs => whnf
  rw [if_neg (by simp)]
  cases result <;> rw [hdecode]

theorem classifyBody_of_decoded {e : Endpoint} {body : List UInt8} (status : Status)
    (frame : Frame) (result : DecodeResult) :
    decodeFrameView body (s.config.maxApplicationMessageSize + rawOverhead)
        s.config.maxApplicationMessageSize = (status, frame, result) →
      e.classifyBody s body =
        if status = .messageTooLarge then (.reject, frame)
        else
          match result with
          | .valid => (e.classify s frame, frame)
          | .malformed | .integrityInvalid => (.reject, frame)
          | .sessionIncompatible =>
              (if e.activity.identifier.isSome then .incompatible else .reject, frame) := by
  intro hdecode
  unfold Endpoint.classifyBody
  cases result <;> rw [hdecode]

/-- A complete body is classified and resolved, or kept as it is. -/
theorem processRetainedBody_refines {e : Endpoint} (h : e.Wf s)
    (hlink : e.activity.linkState = .connected) {body : List UInt8} (hi : e.intake = .ready body)
    (hd : e.diagnosticPending = false) :
    Receive.processRetainedBody (e.toRoot s) = rooted s (e.processBody s body) := by
  have hbody : body ≠ [] := by
    have hintake := h.intake
    rw [hi] at hintake
    exact hintake.1
  have hpeek : (e.toRoot s).parser.peekBody = (.ok, body) := by
    rw [peekBody_toRoot h, hi]
  have hstatus := decodeFrameView_status hbody (Nat.le_refl _) s.rawSize_le
  cases hdecode : decodeFrameView body (s.config.maxApplicationMessageSize + rawOverhead)
    s.config.maxApplicationMessageSize with
  | mk status decoded =>
    obtain ⟨frame, result⟩ := decoded
    rw [hdecode] at hstatus
    rw [processRetainedBody_eq, decodeRetainedBody_of_decoded hpeek _ _ _ hdecode]
    unfold Endpoint.processBody
    rw [classifyBody_of_decoded _ _ _ hdecode]
    rcases hstatus with hok | hlarge
    · dsimp only at hok
      subst hok
      have hsmall : ¬ (Status.ok = Status.messageTooLarge) := by simp
      rw [if_neg hsmall, if_neg (show ¬ (Status.ok ≠ Status.ok) by simp), if_neg hsmall]
      cases result with
      | valid =>
          obtain ⟨hframe, _⟩ := validateFrame_of_decodeFrameView hdecode
          exact dispatchFrame_toRoot h hlink hi hd (Frame.wf_of_validateFrame hframe)
      | malformed => exact rejectRetainedBody_toRoot h hi frame
      | integrityInvalid => exact rejectRetainedBody_toRoot h hi frame
      | sessionIncompatible =>
          dsimp only
          cases hid : e.activity.identifier with
          | none =>
              rw [if_neg (by simp [Endpoint.toRoot, Endpoint.toSession, hid])]
              exact rejectRetainedBody_toRoot h hi frame
          | some id =>
              rw [if_pos (by simp [Endpoint.toRoot, Endpoint.toSession, hid])]
              exact abandonIncompatibleSession_toRoot h hlink hi hd frame
    · dsimp only at hlarge
      rw [if_pos hlarge, if_pos hlarge]
      exact rejectRetainedBody_toRoot h hi frame

end

end HilRigProtocol.Transport
