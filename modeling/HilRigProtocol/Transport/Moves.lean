/-
  What an atomic call can do to an endpoint.

  `Receipt` lists what receive work does, `Takes` what becomes of a frame that the
  session takes, `Tick` what the passing of time does. Each is the whole truth about
  its step, once and for all: the properties of runs are case analyses over them.
-/
import HilRigProtocol.Transport.Atoms

namespace HilRigProtocol.Transport

/-- The verdict takes the frame into the session. -/
def Verdict.takes : Verdict → Bool
  | reject | obsolete | incompatible | blocked | acceptReset => false
  | _ => true

/-- A body that is complete. -/
def Intake.body : Intake → Option (List UInt8)
  | ready body => some body
  | _ => none

/-- The body that an atomic call resolves, if it resolves one. -/
def Endpoint.offered (e : Endpoint) : Call → Option (List UInt8)
  | .receiveBytes [byte] =>
      match e.intake with
      | .filling bytes => if byte = 0 ∧ bytes ≠ [] then some bytes else none
      | _ => none
  | .receiveBytes _ => e.intake.body
  | .process _ operatingMode => if operatingMode.isListed then e.intake.body else none
  | _ => none

/-- The body that an atomic call on a root resolves, if it resolves one. -/
def Receive.offered (root : Root) : Call → Option (List UInt8)
  | .receiveBytes [byte] =>
      if root.parser.bodyReady = 0 ∧ root.parser.discarding = 0 ∧ byte = 0
          ∧ root.parser.accumulated ≠ [] then
        some root.parser.accumulated
      else none
  | .receiveBytes _ => if root.parser.bodyReady ≠ 0 then some root.parser.accumulated else none
  | .process _ operatingMode =>
      if operatingMode.isListed ∧ root.parser.bodyReady ≠ 0 then some root.parser.accumulated
      else none
  | _ => none

namespace Endpoint

section
variable [Target] (s : Setup)

/-! ## Rules -/

/-- What a frame that is taken does; the body is not yet consumed. -/
inductive Takes (e : Endpoint) (frame : Frame) : Endpoint → Prop
  | duplicate {x : Exchange} : e.activity = .established frame.sessionIdentifier x →
      frame.type = .ack → Takes e frame e
  /-- The answer is due anyway. -/
  | repeatDue {received : UInt16} :
      e.activity = .responsePending frame.sessionIdentifier received ∧ frame.type = .initiate ∨
        e.activity = .confirmPending frame.sessionIdentifier received ∧ frame.type = .response →
      frame.sequence = received → Takes e frame e
  | repeatInitiate {received : UInt16} {stage : Stage} :
      e.activity = .waitingForConfirm frame.sessionIdentifier received stage →
      frame.type = .initiate → frame.sequence = received →
      Takes e frame
        { e with
          activity := .waitingForConfirm frame.sessionIdentifier received (s.retry stage) }
  | repeatResponse {received : UInt16} {stage : Stage} :
      e.activity = .waitingForConfirmAck frame.sessionIdentifier received stage →
      frame.type = .response → frame.sequence = received →
      Takes e frame
        { e with
          activity := .waitingForConfirmAck frame.sessionIdentifier received (s.retry stage) }
  | repeatAck {x : Exchange} :
      e.activity = .established frame.sessionIdentifier x → frame.sequence = x.lastReceived →
      (frame.type = .confirm ∧ s.role = .rig ∧ x.messageReceived = false ∨
        frame.type = .applicationMessage ∧ x.messageReceived = true) →
      Takes e frame
        { e with
          activity := .established frame.sessionIdentifier
            { x with acknowledgement := some (x.acknowledgement.getD false) } }
  | adopt : e.activity = .waitingForInitiate → frame.type = .initiate →
      sessionIdentifierIsValid frame.sessionIdentifier = true →
      e.abandoned ≠ some frame.sessionIdentifier →
      Takes e frame { e with activity := .responsePending frame.sessionIdentifier frame.sequence }
  | response {stage : Stage} :
      e.activity = .waitingForResponse frame.sessionIdentifier stage →
      frame.type = .response → stage.acceptsAck = true →
      frame.acknowledgementSequence = s.firstSequence →
      Takes e frame { e with activity := .confirmPending frame.sessionIdentifier frame.sequence }
  | confirm {received : UInt16} {stage : Stage} :
      e.activity = .waitingForConfirm frame.sessionIdentifier received stage →
      frame.type = .confirm → frame.sequence = received + 1 → stage.acceptsAck = true →
      frame.acknowledgementSequence = s.firstSequence → e.events.full = false →
      Takes e frame
        (e.establish (.established frame.sessionIdentifier
          { Exchange.initial frame.sequence (s.firstSequence + 1) with
            acknowledgement := some false }))
  | confirmAck {received : UInt16} {stage : Stage} :
      e.activity = .waitingForConfirmAck frame.sessionIdentifier received stage →
      frame.type = .ack → stage.acceptsAck = true →
      frame.acknowledgementSequence = s.firstSequence + 1 → e.events.full = false →
      Takes e frame (e.establish (s.hostEstablished frame.sessionIdentifier received))
  | prove {received : UInt16} {stage : Stage} :
      e.activity = .waitingForConfirmAck frame.sessionIdentifier received stage →
      frame.type = .applicationMessage → frame.sequence = received + 1 →
      stage.acceptsAck = true → e.events.full = false →
      Takes e frame
        (e.establish (.established frame.sessionIdentifier
          ((Exchange.initial received (s.firstSequence + 1 + 1)).receive frame)))
  | delivery {x : Exchange} {payload : List UInt8} {stage : Stage} :
      e.activity = .established frame.sessionIdentifier x → frame.type = .ack →
      x.outgoing = some (payload, stage) → stage.acceptsAck = true →
      frame.acknowledgementSequence = x.nextTransmit → e.events.full = false →
      Takes e frame
        (e.deliver (.established frame.sessionIdentifier
          { x with outgoing := none, nextTransmit := x.nextTransmit + 1 }))
  | message {x : Exchange} :
      e.activity = .established frame.sessionIdentifier x → frame.type = .applicationMessage →
      frame.sequence = x.lastReceived + 1 → x.unread = none → x.acknowledgement = none →
      Takes e frame
        { e with activity := .established frame.sessionIdentifier (x.receive frame) }

/-- The valid frame in a body. -/
def Decodes (body : List UInt8) (frame : Frame) : Prop :=
  decodeFrameView body (s.config.maxApplicationMessageSize + rawOverhead)
    s.config.maxApplicationMessageSize = (.ok, frame, .valid)

/-- The session and its record are as before; only the intake, the diagnostics and the
    events may differ. -/
structure SameSession (e e' : Endpoint) : Prop where
  activity : e'.activity = e.activity
  cursor : e'.cursor = e.cursor
  lastFailure : e'.lastFailure = e.lastFailure
  abandoned : e'.abandoned = e.abandoned
  operatingMode : e'.operatingMode = e.operatingMode
  operatingModeValid : e'.operatingModeValid = e.operatingModeValid

/-- The new events are at most one diagnostic. -/
def Diagnosed (e e' : Endpoint) : Prop :=
  e'.events = e.events ∨
    e.events.full = false ∧ e'.events = e.events.push Receive.protocolErrorEvent

/-- What receive work does when the body `offered` is complete. -/
inductive Receipt (e : Endpoint) (offered : Option (List UInt8)) : Endpoint → Prop
  | idle {e' : Endpoint} : SameSession e e' → Diagnosed e e' → Receipt e offered e'
  | take {body : List UInt8} {frame : Frame} {e' : Endpoint} : offered = some body →
      frame.Wf s.config.maxApplicationMessageSize → Decodes s body frame →
      (e.classify s frame).takes = true → Takes s e frame e' → Receipt e offered e'.release
  /-- The session is given up, and the peer is told. -/
  | reject {body : List UInt8} : offered = some body →
      (e.classifyBody s body).1 = .incompatible →
      (∀ reset, e.activity ≠ .recovering (some reset)) → Receipt e offered e.rejectSession.2
  /-- The peer gave the session up. -/
  | reset {body : List UInt8} {frame : Frame} : offered = some body → Decodes s body frame →
      e.activity.identifier = some frame.sessionIdentifier → frame.type = .reset →
      Receipt e offered ((e.abandon (.recovering none) .protocol).2.beginEstablishment s)

/-- The retained item has waited for its acknowledgement as long as it may. -/
def Expired (nowMs : UInt32) (stage : Stage) : Prop :=
  ∃ retries ms, stage = .awaitingAck retries ms ∧ s.config.retransmitTimeoutMs ≠ 0 ∧
    s.config.retransmitTimeoutMs ≤ nowMs - ms

/-- What the passing of time does. -/
inductive Tick (e : Endpoint) (nowMs : UInt32) : Endpoint → Prop
  | idle : (∀ item, s.item e.activity = some item →
        ¬ Expired s nowMs item.stage ∧ item.stage.state ≠ .exhausted) → Tick e nowMs e
  /-- The handshake frame that is due becomes the reliable item. -/
  | initiate {id : UInt64} : e.activity = .initiatePending id →
      Tick e nowMs { e with activity := .waitingForResponse id .ready }
  | response {id : UInt64} {received : UInt16} : e.activity = .responsePending id received →
      Tick e nowMs { e with activity := .waitingForConfirm id received .ready }
  | confirm {id : UInt64} {received : UInt16} : e.activity = .confirmPending id received →
      Tick e nowMs { e with activity := .waitingForConfirmAck id received .ready }
  /-- The item is due once more. -/
  | retry {frame : Frame} {retries : UInt8} {ms : UInt32} :
      s.item e.activity = some ⟨frame, .awaitingAck retries ms⟩ →
      Expired s nowMs (.awaitingAck retries ms) → retries < s.config.maxRetries →
      Tick e nowMs { e with activity := e.activity.mapStage s.retry }
  /-- A message without a retry left waits for a place in the event queue. -/
  | hold {id : UInt64} {x : Exchange} {payload : List UInt8} {stage : Stage} :
      e.activity = .established id x → x.outgoing = some (payload, stage) →
      (timeout s nowMs stage).state = .exhausted → e.events.full = true →
      Tick e nowMs { e with activity := e.activity.mapStage (timeout s nowMs) }
  | fail {id : UInt64} {x : Exchange} {payload : List UInt8} {stage : Stage} :
      e.activity = .established id x → x.outgoing = some (payload, stage) →
      (timeout s nowMs stage).state = .exhausted → e.events.full = false →
      Tick e nowMs
        (({ e with events := e.events.push failedEvent } : Endpoint).beginLocalRecovery
          .delivery).2
  /-- A handshake frame without a retry left ends the attempt. -/
  | lose {item : Item} : e.activity.sessionState = .connecting →
      s.item e.activity = some item → (timeout s nowMs item.stage).state = .exhausted →
      Tick e nowMs (e.beginLocalRecovery .delivery).2

/-- The next session may start at once. -/
def Advances (e e' : Endpoint) : Prop :=
  e' = e ∨ e.activity = .recovering none ∧ e' = e.beginEstablishment s

variable {s}

/-! ## Receive work -/

theorem takes_accept {e : Endpoint} {frame : Frame}
    (havailable : e.available (e.classify s frame) = true)
    (htakes : (e.classify s frame).takes = true) :
    Takes s e frame (e.accept s frame (e.classify s frame)) := by
  have hexplains := @classify_explains _ s e frame
  cases hv : e.classify s frame <;> rw [hv] at hexplains htakes havailable <;>
    try cases htakes
  case duplicate =>
      obtain ⟨x, ha, htype, _⟩ := hexplains
      exact .duplicate ha htype
  case repeatWork =>
      rcases hexplains with ⟨received, ha | ⟨stage, ha⟩, htype, hseq⟩ |
        ⟨received, ha | ⟨stage, ha⟩, htype, hseq⟩
      · have hsame : e.accept s frame .repeatWork = e := by
          unfold accept Setup.afterRepeat
          rw [ha]
          simp only
          rw [← ha]
        rw [hsame]
        exact .repeatDue (Or.inl ⟨ha, htype⟩) hseq
      · have heq : e.accept s frame .repeatWork =
            { e with activity :=
                .waitingForConfirm frame.sessionIdentifier received (s.retry stage) } := by
          unfold accept Setup.afterRepeat
          rw [ha]
        rw [heq]
        exact .repeatInitiate ha htype hseq
      · have hsame : e.accept s frame .repeatWork = e := by
          unfold accept Setup.afterRepeat
          rw [ha]
          simp only
          rw [← ha]
        rw [hsame]
        exact .repeatDue (Or.inr ⟨ha, htype⟩) hseq
      · have heq : e.accept s frame .repeatWork =
            { e with activity :=
                .waitingForConfirmAck frame.sessionIdentifier received (s.retry stage) } := by
          unfold accept Setup.afterRepeat
          rw [ha]
        rw [heq]
        exact .repeatResponse ha htype hseq
  case repeatAck =>
      obtain ⟨x, ha, hseq, hkind⟩ := hexplains
      unfold accept
      rw [ha]
      exact .repeatAck ha hseq hkind
  case adopt =>
      obtain ⟨ha, htype, hid, hne⟩ := hexplains
      exact .adopt ha htype hid hne
  case acceptResponse =>
      obtain ⟨stage, ha, htype, hack, hseq⟩ := hexplains
      unfold accept
      rw [ha]
      exact .response ha htype hack hseq
  case acceptConfirm =>
      obtain ⟨received, stage, ha, htype, hseq, hack, hsame⟩ := hexplains
      unfold accept
      rw [ha]
      exact .confirm ha htype hseq hack hsame (by simpa [available] using havailable)
  case acceptConfirmAck =>
      obtain ⟨received, stage, ha, htype, hack, hsame⟩ := hexplains
      unfold accept
      rw [ha]
      exact .confirmAck ha htype hack hsame (by simpa [available] using havailable)
  case prove =>
      obtain ⟨received, stage, ha, htype, hseq, hack⟩ := hexplains
      unfold accept
      rw [ha]
      exact .prove ha htype hseq hack (by simpa [available] using havailable)
  case acceptDelivery =>
      obtain ⟨x, payload, stage, ha, htype, hout, hack, hsame⟩ := hexplains
      unfold accept
      rw [ha]
      exact .delivery ha htype hout hack hsame (by simpa [available] using havailable)
  case acceptMessage =>
      obtain ⟨x, ha, htype, hseq⟩ := hexplains
      unfold available at havailable
      rw [ha] at havailable
      simp only [Bool.and_eq_true, Option.isNone_iff_eq_none] at havailable
      unfold accept
      rw [ha]
      exact .message ha htype hseq havailable.1 havailable.2

/-- The endpoint with another parser content. -/
def withIntake (e : Endpoint) (intake : Intake) : Endpoint := { e with intake := intake }

omit [Target] in
theorem sameSession_refl (e : Endpoint) : SameSession e e := ⟨rfl, rfl, rfl, rfl, rfl, rfl⟩

omit [Target] in
theorem diagnosed_publish (e : Endpoint) :
    SameSession e (e.publish Receive.protocolErrorEvent).2 ∧
      Diagnosed e (e.publish Receive.protocolErrorEvent).2 := by
  unfold publish
  split_ifs with hfull
  · exact ⟨sameSession_refl e, Or.inl rfl⟩
  · exact ⟨⟨rfl, rfl, rfl, rfl, rfl, rfl⟩, Or.inr ⟨by simpa using hfull, rfl⟩⟩

omit [Target] in
theorem rejectSession_withIntake (e : Endpoint) (intake : Intake) :
    (e.withIntake intake).rejectSession.2 = e.rejectSession.2 := by
  obtain ⟨activity, cursor, mode, modeValid, failure, abandoned, diagnostic, old, events⟩ := e
  unfold withIntake rejectSession beginLocalRecovery abandon publish
  dsimp only
  cases events.full <;> cases activity with
  | recovering reset => cases reset <;> rfl
  | _ => rfl

theorem release_accept_withIntake (e : Endpoint) (intake : Intake) (frame : Frame)
    (verdict : Verdict) :
    ((e.withIntake intake).accept s frame verdict).release =
      (e.accept s frame verdict).release := by
  obtain ⟨activity, cursor, mode, modeValid, failure, abandoned, diagnostic, old, events⟩ := e
  cases verdict <;> cases activity <;> rfl

omit [Target] in
/-- A pending recovery RESET is a barrier. -/
theorem rejectSession_barrier {e : Endpoint} {reset : RecoveryReset}
    (ha : e.activity = .recovering (some reset)) :
    SameSession e e.rejectSession.2 ∧ Diagnosed e e.rejectSession.2 := by
  obtain ⟨hsame, hdiagnosed⟩ := diagnosed_publish e
  rw [rejectSession_pending ha]
  exact ⟨⟨hsame.activity, hsame.cursor, hsame.lastFailure, hsame.abandoned, hsame.operatingMode,
    hsame.operatingModeValid⟩, hdiagnosed⟩

/-- The resolution of a complete body. -/
theorem processBody_receipt (e : Endpoint) (body : List UInt8) :
    Receipt s e (some body) ((e.withIntake (.ready body)).processBody s body).2 := by
  have hclass : (e.withIntake (.ready body)).classifyBody s body = e.classifyBody s body := rfl
  have havailable : ∀ verdict, (e.withIntake (.ready body)).available verdict =
      e.available verdict := by
    intro verdict
    cases verdict <;> rfl
  have hwaits : Receipt s e (some body) (e.withIntake (.ready body)) :=
    .idle ⟨rfl, rfl, rfl, rfl, rfl, rfl⟩ (Or.inl rfl)
  unfold processBody attempt
  dsimp only
  rw [hclass, havailable]
  by_cases hplace : e.available (e.classifyBody s body).1 = true
  swap
  · rw [if_neg hplace]
    exact hwaits
  rw [if_pos hplace]
  have hreject : (e.classifyBody s body).1 = .reject →
      Receipt s e (some body) ((e.withIntake (.ready body)).resolve s (e.classifyBody s body).2
        (e.classifyBody s body).1).2 := by
    intro hv
    rw [hv]
    obtain ⟨hsame, hdiagnosed⟩ := diagnosed_publish (e.withIntake (.ready body))
    exact .idle ⟨hsame.activity, hsame.cursor, hsame.lastFailure, hsame.abandoned,
      hsame.operatingMode, hsame.operatingModeValid⟩ hdiagnosed
  have hincompatible : (e.classifyBody s body).1 = .incompatible →
      Receipt s e (some body) ((e.withIntake (.ready body)).resolve s (e.classifyBody s body).2
        (e.classifyBody s body).1).2 := by
    intro hv
    rw [hv]
    show Receipt s e (some body) (e.withIntake (.ready body)).rejectSession.2
    rw [rejectSession_withIntake]
    by_cases hp : ∃ reset, e.activity = .recovering (some reset)
    · obtain ⟨reset, ha⟩ := hp
      exact .idle (rejectSession_barrier ha).1 (rejectSession_barrier ha).2
    · exact .reject rfl hv (not_exists.mp hp)
  rcases @classifyBody_cases _ s e body with ⟨frame, hwf, hdecode, heq⟩ | hr | ⟨hi, _⟩
  swap
  · exact hreject hr
  swap
  · exact hincompatible hi
  rw [heq] at hplace hreject hincompatible ⊢
  dsimp only at hplace hreject hincompatible ⊢
  cases hv : e.classify s frame with
  | reject =>
      rw [hv] at hreject
      exact hreject rfl
  | incompatible =>
      rw [hv] at hincompatible
      exact hincompatible rfl
  | obsolete =>
      obtain ⟨hsame, hdiagnosed⟩ := diagnosed_publish (e.withIntake (.ready body))
      exact .idle ⟨hsame.activity, hsame.cursor, hsame.lastFailure, hsame.abandoned,
        hsame.operatingMode, hsame.operatingModeValid⟩ hdiagnosed
  | blocked =>
      rw [hv] at hplace
      cases hplace
  | acceptReset =>
      have hexplains := @classify_explains _ s e frame
      rw [hv] at hexplains
      exact .reset rfl hdecode hexplains.1 hexplains.2
  | _ =>
      have htakes : (e.classify s frame).takes = true := by
        rw [hv]
        rfl
      have haccept := takes_accept hplace htakes
      rw [← hv]
      have hresolve : ((e.withIntake (.ready body)).resolve s frame (e.classify s frame)).2 =
          (e.accept s frame (e.classify s frame)).release := by
        rw [← release_accept_withIntake e (.ready body), hv]
        rfl
      rw [hresolve]
      exact .take rfl hwf hdecode htakes haccept

theorem advances_advanceIfOk (result : Status × Endpoint) :
    Advances s result.2 (advanceIfOk s result).2 := by
  unfold advanceIfOk advance
  split_ifs with hok hready
  · exact Or.inr ⟨hready.1, rfl⟩
  · exact Or.inl rfl
  · exact Or.inl rfl

/-- The work that was left. -/
theorem settle_receipt {e : Endpoint} (h : e.Wf s) :
    ∃ e₁, Receipt s e e.intake.body e₁ ∧ Advances s e₁ (e.settle s).2 := by
  unfold settle settleDiagnostic
  cases hd : e.diagnosticPending with
  | true =>
      have hi := h.diagnostic hd
      obtain ⟨hsame, hdiagnosed⟩ := diagnosed_publish e
      have hidle : Receipt s e e.intake.body e.diagnose.2 :=
        .idle ⟨hsame.activity, hsame.cursor, hsame.lastFailure, hsame.abandoned,
          hsame.operatingMode, hsame.operatingModeValid⟩ hdiagnosed
      have hbody : e.diagnose.2.settleBody s = (.ok, e.diagnose.2) := by
        have hintake : e.diagnose.2.intake = .filling [] := (publish_fields e _).2.1.trans hi
        unfold settleBody
        rw [hintake]
      rw [if_pos rfl]
      dsimp only
      split_ifs
      · exact ⟨_, hidle, Or.inl rfl⟩
      · rw [hbody]
        exact ⟨_, hidle, advances_advanceIfOk (.ok, e.diagnose.2)⟩
  | false =>
      rw [if_neg (by simp)]
      dsimp only
      rw [if_neg (by simp)]
      refine ⟨(e.settleBody s).2, ?_, advances_advanceIfOk _⟩
      unfold settleBody
      cases hi : e.intake with
      | ready body =>
          have hsame : e.withIntake (.ready body) = e := by
            rw [← hi]
            rfl
          have hreceipt := @processBody_receipt _ s e body
          rw [hsame] at hreceipt
          exact hreceipt
      | _ => exact .idle (sameSession_refl e) (Or.inl rfl)

/-- One byte. -/
theorem feedByte_receipt (e : Endpoint) (byte : UInt8) :
    ∃ e₁, Receipt s e (e.offered (.receiveBytes [byte])) e₁ ∧
      Advances s e₁ (e.feedByte s byte).2 := by
  have hidle : ∀ {offered : Option (List UInt8)} (intake : Intake),
      Receipt s e offered (e.withIntake intake) :=
    fun intake => .idle ⟨rfl, rfl, rfl, rfl, rfl, rfl⟩ (Or.inl rfl)
  unfold feedByte offered
  cases hi : e.intake with
  | filling bytes =>
      dsimp only
      by_cases hzero : byte = 0
      · rw [if_pos hzero]
        by_cases hempty : bytes = []
        · rw [if_pos hempty]
          exact ⟨e, .idle (sameSession_refl e) (Or.inl rfl), Or.inl rfl⟩
        · rw [if_neg hempty, if_pos ⟨hzero, hempty⟩]
          exact ⟨_, processBody_receipt e bytes, advances_advanceIfOk _⟩
      · rw [if_neg hzero]
        by_cases hfull : bytes.length = s.config.maxEncodedFrameSize - 1
        · rw [if_pos hfull]
          exact ⟨_, hidle .discarding, Or.inl rfl⟩
        · rw [if_neg hfull]
          exact ⟨_, hidle (.filling (bytes ++ [byte])), Or.inl rfl⟩
  | discarding =>
      dsimp only
      split_ifs
      · obtain ⟨hsame, hdiagnosed⟩ := diagnosed_publish e.release
        have hreceipt : Receipt s e none e.release.diagnose.2 :=
          .idle ⟨hsame.activity, hsame.cursor, hsame.lastFailure, hsame.abandoned,
            hsame.operatingMode, hsame.operatingModeValid⟩ hdiagnosed
        exact ⟨_, hreceipt, advances_advanceIfOk _⟩
      · exact ⟨e, .idle (sameSession_refl e) (Or.inl rfl), Or.inl rfl⟩
  | ready body => exact ⟨e, .idle (sameSession_refl e) (Or.inl rfl), Or.inl rfl⟩

/-- An atomic receive call. -/
theorem receive_receipt {e : Endpoint} (h : e.Wf s) {data : List UInt8}
    (hatomic : Atomic s e (.receiveBytes data)) :
    ∃ e₁, Receipt s e (e.offered (.receiveBytes data)) e₁ ∧
      Advances s e₁ (e.step s (.receiveBytes data)).2 := by
  cases hatomic with
  | settle =>
      rw [step_receiveBytes_state]
      by_cases hlink : e.activity.linkState = .disconnected
      · rw [receiveBytes_disconnected hlink]
        exact ⟨e, .idle (sameSession_refl e) (Or.inl rfl), Or.inl rfl⟩
      · rw [receiveBytes_nil (linkState_connected hlink)]
        exact settle_receipt h
  | byte byte hquiet hlink =>
      rw [step_byte hquiet hlink]
      exact feedByte_receipt e byte
  | other hdata _ => exact absurd rfl (hdata data)

/-! ## Time -/

theorem timeout_waits {nowMs : UInt32} {stage : Stage} (h : ¬ Expired s nowMs stage) :
    timeout s nowMs stage = stage := by
  unfold timeout
  cases stage with
  | awaitingAck retries ms =>
      dsimp only
      by_cases hearly : s.config.retransmitTimeoutMs = 0 ∨
          nowMs - ms < s.config.retransmitTimeoutMs
      · rw [if_pos hearly]
      · exfalso
        rw [not_or, UInt32.not_lt] at hearly
        exact h ⟨retries, ms, rfl, hearly.1, hearly.2⟩
  | _ => rfl

theorem timeout_expired {nowMs : UInt32} {stage : Stage} (h : Expired s nowMs stage) :
    timeout s nowMs stage = s.retry stage := by
  obtain ⟨retries, ms, rfl, hne, hle⟩ := h
  unfold timeout
  dsimp only
  rw [if_neg]
  rintro (hzero | hlt)
  · exact hne hzero
  · exact UInt32.not_lt.mpr hle hlt

theorem item_established (id : UInt64) (x : Exchange) :
    s.item (.established id x) =
      x.outgoing.map fun outgoing =>
        ⟨Application.applicationFrame id x.nextTransmit outgoing.1, outgoing.2⟩ := rfl

omit [Target] in
theorem mapStage_established (f : Stage → Stage) (id : UInt64) (x : Exchange) :
    (Activity.established id x).mapStage f =
      .established id
        { x with outgoing := x.outgoing.map fun outgoing => (outgoing.1, f outgoing.2) } := rfl

theorem item_mapStage (f : Stage → Stage) (a : Activity) :
    s.item (a.mapStage f) = (s.item a).map fun item => ⟨item.frame, f item.stage⟩ := by
  cases a with
  | established id x =>
      rw [mapStage_established, item_established, item_established]
      cases x.outgoing <;> rfl
  | _ => rfl

omit [Target] in
theorem identifier_mapStage (f : Stage → Stage) (a : Activity) :
    (a.mapStage f).identifier = a.identifier := by
  cases a <;> rfl

omit [Target] in
theorem mapStage_self (a : Activity) : (a.mapStage fun stage => stage) = a := by
  cases a with
  | established id x =>
      obtain ⟨lastReceived, messageReceived, nextTransmit, outgoing, acknowledgement, unread⟩ := x
      cases outgoing <;> rfl
  | _ => rfl

variable (s) in
theorem mapStage_congr {f g : Stage → Stage} {a : Activity}
    (h : ∀ item, s.item a = some item → f item.stage = g item.stage) :
    a.mapStage f = a.mapStage g := by
  cases a with
  | waitingForResponse id stage =>
      exact congrArg (Activity.waitingForResponse id) (h _ rfl)
  | waitingForConfirm id received stage =>
      exact congrArg (Activity.waitingForConfirm id received) (h _ rfl)
  | waitingForConfirmAck id received stage =>
      exact congrArg (Activity.waitingForConfirmAck id received) (h _ rfl)
  | established id x =>
      obtain ⟨lastReceived, messageReceived, nextTransmit, outgoing, acknowledgement, unread⟩ := x
      cases outgoing with
      | none => rfl
      | some outgoing =>
          have hstage := h _ (item_established id _)
          rw [mapStage_established, mapStage_established]
          dsimp only at hstage ⊢
          rw [Option.map_some, Option.map_some, hstage]
  | _ => rfl

omit [Target] in
theorem beginLocalRecovery_mapStage (e : Endpoint) (f : Stage → Stage) (failure : Failure) :
    ({ e with activity := e.activity.mapStage f } : Endpoint).beginLocalRecovery failure =
      e.beginLocalRecovery failure := by
  unfold beginLocalRecovery abandon
  dsimp only
  rw [identifier_mapStage]

/-- An activity with a retained handshake frame is a handshake. -/
theorem connecting_of_item {a : Activity} {item : Item} (h : s.item a = some item) :
    (∃ id x, a = .established id x) ∨ a.sessionState = .connecting := by
  cases a with
  | established id x => exact Or.inl ⟨id, x, rfl⟩
  | disconnected observed => cases h
  | recovering reset => cases h
  | _ => exact Or.inr rfl

theorem item_unbound {a : Activity} (h : a.identifier = none) : s.item a = none := by
  cases a <;> first | rfl | cases h

/-- The retry timer, on what it finds retained. -/
theorem tick_timer {e : Endpoint} {item : Item} (hitem : s.item e.activity = some item)
    (nowMs : UInt32) :
    Tick s e nowMs
      (if ({ e with activity := e.activity.mapStage (timeout s nowMs) } : Endpoint).exhausted s
        then ({ e with activity := e.activity.mapStage (timeout s nowMs) } : Endpoint).giveUp
        else (.ok, { e with activity := e.activity.mapStage (timeout s nowMs) })).2 := by
  have hexhausted : ({ e with activity := e.activity.mapStage (timeout s nowMs) } :
      Endpoint).exhausted s = ((timeout s nowMs item.stage).state == .exhausted) := by
    unfold exhausted
    dsimp only
    rw [item_mapStage, hitem]
    rfl
  rw [hexhausted]
  by_cases hend : (timeout s nowMs item.stage).state = .exhausted
  · rw [if_pos (by simp [hend])]
    rcases connecting_of_item hitem with ⟨id, x, ha⟩ | hconnecting
    · cases hx : x.outgoing with
      | none =>
          rw [ha, item_established, hx] at hitem
          cases hitem
      | some outgoing =>
          obtain ⟨payload, stage⟩ := outgoing
          have hstage : item.stage = stage := by
            rw [ha, item_established, hx] at hitem
            cases hitem
            rfl
          rw [hstage] at hend
          unfold giveUp
          rw [ha]
          dsimp only [Activity.mapStage]
          by_cases hfull : e.events.full = true
          · unfold publish
            rw [if_pos hfull]
            dsimp only
            rw [if_neg (by simp)]
            have hhold := Tick.hold ha hx hend hfull
            rw [ha] at hhold
            exact hhold
          · unfold publish
            rw [if_neg hfull]
            dsimp only
            rw [if_pos rfl]
            have hfail := Tick.fail ha hx hend (by simpa using hfull)
            unfold beginLocalRecovery abandon at hfail ⊢
            rw [ha] at hfail
            exact hfail
    · have hnot : ∀ id x, e.activity ≠ .established id x := by
        intro id x ha
        rw [ha] at hconnecting
        cases hconnecting
      have hgive : ({ e with activity := e.activity.mapStage (timeout s nowMs) } :
          Endpoint).giveUp = e.beginLocalRecovery .delivery := by
        rw [← beginLocalRecovery_mapStage e (timeout s nowMs)]
        unfold giveUp
        cases ha : e.activity with
        | established id x => exact absurd ha (hnot id x)
        | _ => rfl
      rw [hgive]
      exact .lose hconnecting hitem hend
  · rw [if_neg (by simp [hend])]
    by_cases hexpired : Expired s nowMs item.stage
    · have htimeout := timeout_expired hexpired
      obtain ⟨retries, ms, hstage, hne, hle⟩ := id hexpired
      have hmap : e.activity.mapStage (timeout s nowMs) = e.activity.mapStage s.retry := by
        apply mapStage_congr s
        intro other hother
        rw [hitem] at hother
        cases hother
        exact htimeout
      have hretries : retries < s.config.maxRetries := by
        by_contra hspent
        apply hend
        rw [htimeout, hstage]
        unfold Setup.retry
        dsimp only
        rw [if_neg hspent]
        rfl
      obtain ⟨frame, stage⟩ := item
      cases hstage
      dsimp only
      rw [hmap]
      exact .retry hitem hexpired hretries
    · have hsame : e.activity.mapStage (timeout s nowMs) = e.activity := by
        refine (mapStage_congr s ?_).trans (mapStage_self e.activity)
        intro other hother
        rw [hitem] at hother
        cases hother
        exact timeout_waits hexpired
      dsimp only
      rw [hsame]
      refine .idle ?_
      intro other hother
      rw [hitem] at hother
      cases hother
      refine ⟨hexpired, ?_⟩
      rw [timeout_waits hexpired] at hend
      exact hend

/-- The due handshake frame, then the retry timer, then its end. -/
theorem progress_tick (e : Endpoint) (nowMs : UInt32) : Tick s e nowMs (e.progress s nowMs).2 := by
  unfold progress
  dsimp only
  cases hitem : s.item e.activity with
  | some item =>
      have hpublish : e.publishHandshake = e := by
        unfold publishHandshake
        cases ha : e.activity <;> first | rfl | (rw [ha] at hitem; cases hitem)
      rw [hpublish]
      exact tick_timer hitem nowMs
  | none =>
      cases ha : e.activity with
      | initiatePending id =>
          have hdue := @Tick.initiate _ s e nowMs id ha
          unfold publishHandshake
          rw [ha]
          exact hdue
      | responsePending id received =>
          have hdue := @Tick.response _ s e nowMs id received ha
          unfold publishHandshake
          rw [ha]
          exact hdue
      | confirmPending id received =>
          have hdue := @Tick.confirm _ s e nowMs id received ha
          unfold publishHandshake
          rw [ha]
          exact hdue
      | waitingForResponse id stage =>
          rw [ha] at hitem
          cases hitem
      | waitingForConfirm id received stage =>
          rw [ha] at hitem
          cases hitem
      | waitingForConfirmAck id received stage =>
          rw [ha] at hitem
          cases hitem
      | _ =>
          have hidle : Tick s e nowMs e := by
            refine .idle ?_
            intro item hsome
            rw [hitem] at hsome
            cases hsome
          have hpublish : e.publishHandshake = e := by
            unfold publishHandshake
            rw [ha]
          have hmap : e.activity.mapStage (timeout s nowMs) = e.activity := by
            refine (mapStage_congr s ?_).trans (mapStage_self e.activity)
            intro item hsome
            rw [hitem] at hsome
            cases hsome
          rw [hpublish, hmap]
          unfold exhausted
          rw [hitem]
          exact hidle

/-! ## Receive calls and `Process` -/

/-- The endpoint with the mode that a call records. -/
def recorded (e : Endpoint) : Call → Endpoint
  | .process _ operatingMode => if operatingMode.isListed then e.withMode operatingMode else e
  | _ => e

omit [Target] in
theorem recorded_listed (e : Endpoint) (nowMs : UInt32) {operatingMode : OperatingMode}
    (h : operatingMode.isListed = true) :
    e.recorded (.process nowMs operatingMode) = e.withMode operatingMode := if_pos h

omit [Target] in
theorem recorded_unlisted (e : Endpoint) (nowMs : UInt32) {operatingMode : OperatingMode}
    (h : ¬ operatingMode.isListed = true) : e.recorded (.process nowMs operatingMode) = e :=
  if_neg h

omit [Target] in
theorem recorded_fields (e : Endpoint) (call : Call) :
    (e.recorded call).activity = e.activity ∧ (e.recorded call).cursor = e.cursor ∧
      (e.recorded call).lastFailure = e.lastFailure ∧
      (e.recorded call).abandoned = e.abandoned ∧ (e.recorded call).events = e.events := by
  unfold recorded
  split
  · split_ifs <;> exact ⟨rfl, rfl, rfl, rfl, rfl⟩
  · exact ⟨rfl, rfl, rfl, rfl, rfl⟩

omit [Target] in
theorem intake_recorded (e : Endpoint) (call : Call) : (e.recorded call).intake = e.intake := by
  unfold recorded
  split
  · split_ifs <;> rfl
  · rfl

variable (s) in
/-- What an atomic receive call or `Process` does. -/
inductive Work (e : Endpoint) (call : Call) : Endpoint → Prop
  | receipt {e₁ e' : Endpoint} : Receipt s (e.recorded call) (e.offered call) e₁ →
      Advances s e₁ e' → Work e call e'
  | tick {nowMs : UInt32} {operatingMode : OperatingMode} {e' : Endpoint} :
      call = .process nowMs operatingMode → Tick s (e.recorded call) nowMs e' → Work e call e'

theorem work_unchanged {e : Endpoint} {call : Call} : Work s e call (e.recorded call) :=
  .receipt (.idle (sameSession_refl _) (Or.inl rfl)) (Or.inl rfl)

theorem receive_work {e : Endpoint} (h : e.Wf s) {data : List UInt8}
    (hatomic : Atomic s e (.receiveBytes data)) :
    Work s e (.receiveBytes data) (e.step s (.receiveBytes data)).2 := by
  obtain ⟨e₁, hreceipt, hadvances⟩ := receive_receipt h hatomic
  exact .receipt hreceipt hadvances

omit [Target] in
theorem settleDiagnostic_fields (e : Endpoint) :
    e.settleDiagnostic.2.activity = e.activity ∧ e.settleDiagnostic.2.intake = e.intake := by
  unfold settleDiagnostic diagnose
  split_ifs
  · exact ⟨(publish_fields _ _).1, (publish_fields _ _).2.1⟩
  · exact ⟨rfl, rfl⟩

theorem intake_advanceIfOk (result : Status × Endpoint) :
    (advanceIfOk s result).2.intake = result.2.intake := by
  have hadvance : (result.2.advance s).intake = result.2.intake := by
    unfold advance beginEstablishment
    split_ifs <;> rfl
  unfold advanceIfOk
  split_ifs
  · exact hadvance
  · rfl

omit [Target] in
theorem intake_unready {e : Endpoint} (h : e.intake.body = none) : e.intake.isReady = false := by
  cases hi : e.intake <;> rw [hi] at h <;> first | rfl | cases h

/-- Without a body that waits, only the diagnostic and the next session are left. -/
theorem settle_unready {e : Endpoint} (h : e.intake.isReady = false) :
    e.settle s = advanceIfOk s e.settleDiagnostic := by
  have hbody : e.settleDiagnostic.2.settleBody s = (.ok, e.settleDiagnostic.2) := by
    have hintake := (settleDiagnostic_fields e).2
    unfold settleBody
    rw [hintake]
    cases hi : e.intake with
    | ready body =>
        rw [hi] at h
        cases h
    | _ => rfl
  unfold settle
  dsimp only
  by_cases hok : e.settleDiagnostic.1 = .ok
  · rw [if_neg (not_not.mpr hok), hbody, ← hok]
  · rw [if_pos hok]
    unfold advanceIfOk
    rw [if_neg hok]

/-- `Process` on a quiet endpoint does the timed work only. -/
theorem process_tick {e : Endpoint} {operatingMode : OperatingMode}
    (hmode : operatingMode.isListed = true) (hquiet : Quiet s e)
    (hlink : e.activity.linkState = .connected) (nowMs : UInt32) :
    Tick s (e.withMode operatingMode) nowMs (e.process s nowMs operatingMode).2 := by
  have hidle : ¬ (e.diagnosticPending = true ∨ e.intake.isReady = true) := by
    rw [hquiet.settled.diagnostic, hquiet.settled.intake]
    simp
  rw [process_connected hlink hmode, if_neg hidle]
  unfold processSettled
  have hactivity : (e.withMode operatingMode).activity = e.activity := rfl
  rw [hactivity]
  have hnone : s.item e.activity = none → Tick s (e.withMode operatingMode) nowMs
      (e.withMode operatingMode) := by
    intro hitem
    refine .idle ?_
    intro item hsome
    rw [hactivity, hitem] at hsome
    cases hsome
  cases ha : e.activity with
  | recovering reset =>
      cases reset with
      | some r => exact hnone (by rw [ha]; rfl)
      | none =>
          dsimp only
          split_ifs with hi
          · -- A quiet endpoint has crossed the boundary already.
            have hadvanced := hquiet.advanced
            unfold advance at hadvanced
            rw [if_pos ⟨ha, hquiet.settled.diagnostic, hi⟩] at hadvanced
            have hactivity := congrArg Endpoint.activity hadvanced
            rw [ha] at hactivity
            unfold beginEstablishment at hactivity
            split_ifs at hactivity
          · exact hnone (by rw [ha]; rfl)
  | _ => exact progress_tick _ nowMs

/-- `Process` that cannot do the work that was left does no more. -/
theorem process_stalled {e : Endpoint} {operatingMode : OperatingMode}
    (hmode : operatingMode.isListed = true) (hfail : (e.settle s).1 ≠ .ok)
    (hlink : e.activity.linkState = .connected) (nowMs : UInt32) :
    (e.process s nowMs operatingMode).2 = (e.settle s).2.withMode operatingMode := by
  have hpending : e.diagnosticPending = true ∨ e.intake.isReady = true := by
    by_contra hidle
    rw [not_or, Bool.not_eq_true, Bool.not_eq_true] at hidle
    apply hfail
    rw [settle_unready hidle.2]
    unfold settleDiagnostic advanceIfOk
    rw [hidle.1]
    rfl
  rw [process_connected hlink hmode, if_pos hpending, settle_withMode]
  dsimp only
  rw [if_pos hfail]

/-- `Process` with an invalid mode, or without a link, records the mode at most. -/
theorem process_recorded {e : Endpoint} {operatingMode : OperatingMode}
    (haway : operatingMode.isListed = false ∨ e.activity.linkState = .disconnected)
    (nowMs : UInt32) :
    (e.process s nowMs operatingMode).2 = e.recorded (.process nowMs operatingMode) := by
  unfold process
  by_cases hmode : operatingMode.isListed = true
  · have hlink : e.activity.linkState = .disconnected := by
      rcases haway with hunlisted | hlink
      · rw [hmode] at hunlisted
        cases hunlisted
      · exact hlink
    rw [recorded_listed e nowMs hmode, if_pos hmode]
    dsimp only
    rw [if_pos hlink]
    rfl
  · rw [recorded_unlisted e nowMs hmode, if_neg hmode]

theorem process_work {e : Endpoint} (h : e.Wf s) {nowMs : UInt32} {operatingMode : OperatingMode}
    (hatomic : Atomic s e (.process nowMs operatingMode)) :
    Work s e (.process nowMs operatingMode) (e.step s (.process nowMs operatingMode)).2 := by
  have hstate : (e.step s (.process nowMs operatingMode)).2 =
      (e.process s nowMs operatingMode).2 := rfl
  rw [hstate]
  cases hatomic with
  | progress _ _ hmode hquiet hlink =>
      refine .tick rfl ?_
      rw [recorded_listed e nowMs hmode]
      exact process_tick hmode hquiet hlink nowMs
  | stalled _ _ hmode hfail hlink =>
      rw [process_stalled hmode hfail hlink]
      have hwf : (e.withMode operatingMode).Wf s := { h with operatingMode := hmode }
      obtain ⟨e₁, hreceipt, hadvances⟩ := settle_receipt hwf
      rw [settle_withMode] at hadvances
      refine .receipt ?_ hadvances
      have hoffered : e.offered (.process nowMs operatingMode) = e.intake.body := if_pos hmode
      rw [recorded_listed e nowMs hmode, hoffered]
      exact hreceipt
  | away _ _ haway =>
      rw [process_recorded haway]
      exact work_unchanged
  | other _ hprocess => exact absurd rfl (hprocess nowMs operatingMode)

/-! ## All calls -/

variable (s) in
/-- What an atomic call does. A call that is refused does nothing. -/
inductive Deed (e : Endpoint) (call : Call) : Endpoint → Prop
  | idle : Deed e call e
  | work {e' : Endpoint} :
      (∃ data, call = .receiveBytes data) ∨
        (∃ nowMs operatingMode, call = .process nowMs operatingMode) →
      Work s e call e' → Deed e call e'
  | readEvent : call = .readEvent → e.events.count ≠ 0 →
      Deed e call { e with events := e.events.pop }
  | showReliable {size : Nat} {item : Item} : call = .peekOutput (some size) →
      e.selection s = .reliable → s.item e.activity = some item →
      (encodedFrame item.frame).length ≤ size →
      Deed e call { e with activity := e.activity.mapStage Stage.peek }
  | showControl {size : Nat} {item : ControlItem} : call = .peekOutput (some size) →
      e.selection s = .control → e.activity.controlItem = some item →
      (encodedFrame item.frame).length ≤ size →
      Deed e call { e with activity := e.activity.peekControl }
  | commitReliable {nowMs : UInt32} {item : Item} : call = .commitOutput nowMs →
      s.item e.activity = some item → item.stage.pinned = true →
      Deed e call { e with activity := e.activity.mapStage (Stage.commit nowMs) }
  | commitControl {nowMs : UInt32} {item : ControlItem} : call = .commitOutput nowMs →
      e.reliablePinned s = false → e.activity.controlItem = some item → item.pinned = true →
      Deed e call { e with activity := e.activity.commitControl }
  | submit {payload : List UInt8} {id : UInt64} {x : Exchange} :
      call = .submitApplicationData payload → payload ≠ [] →
      payload.length ≤ s.config.maxApplicationMessageSize →
      e.activity = .established id x → x.outgoing = none →
      Deed e call
        { e with activity := .established id { x with outgoing := some (payload, .ready) } }
  | readMessage {size : Nat} {id : UInt64} {x : Exchange} {payload : List UInt8} :
      call = .readApplicationData (some size) → e.activity = .established id x →
      x.unread = some payload → payload.length ≤ size →
      Deed e call { e with activity := .established id { x with unread := none } }
  | reset : call = .reset → Deed e call e.reset
  | observe {nowMs : UInt32} : call = .notifyLinkState .disconnected nowMs →
      e.activity = .disconnected false →
      Deed e call { e with activity := .disconnected true, abandoned := none }
  | disconnect {nowMs : UInt32} : call = .notifyLinkState .disconnected nowMs →
      e.activity.linkState = .connected →
      Deed e call
        { ((e.publish (Session.linkEvent .disconnected)).2.abandon (.disconnected true)
            .linkLost).2 with abandoned := none }
  | connect {nowMs : UInt32} : call = .notifyLinkState .connected nowMs →
      e.activity.linkState = .disconnected →
      Deed e call ((e.publish (Session.linkEvent .connected)).2.beginEstablishment s)

omit [Target] in
theorem copyOut_room {bytes : List UInt8} {size : Nat} (h : bytes.length ≤ size) :
    copyOut bytes (some size) = (.ok, bytes.length, bytes) := if_neg (Nat.not_lt.mpr h)

omit [Target] in
theorem copyOut_ok {bytes : List UInt8} {outBuffer : Option Nat}
    (h : (copyOut bytes outBuffer).1 = .ok) :
    ∃ size, outBuffer = some size ∧ bytes.length ≤ size := by
  unfold copyOut at h
  cases outBuffer with
  | none => cases h
  | some size =>
      dsimp only at h
      split_ifs at h with hsmall
      exact ⟨size, rfl, Nat.le_of_not_lt hsmall⟩

theorem peekOutput_deed (e : Endpoint) (outBuffer : Option Nat) :
    Deed s e (.peekOutput outBuffer) (e.peekOutput s outBuffer).2.2.2 := by
  unfold peekOutput
  cases hsel : e.selection s with
  | reliable =>
      cases hitem : s.item e.activity with
      | none => exact .idle
      | some item =>
          dsimp only
          by_cases hok : (copyOut (encodedFrame item.frame) outBuffer).1 = .ok
          · rw [if_pos hok]
            obtain ⟨size, rfl, hsize⟩ := copyOut_ok hok
            exact .showReliable rfl hsel hitem hsize
          · rw [if_neg hok]
            exact .idle
  | control =>
      cases hitem : e.activity.controlItem with
      | none => exact .idle
      | some item =>
          dsimp only
          by_cases hok : (copyOut (encodedFrame item.frame) outBuffer).1 = .ok
          · rw [if_pos hok]
            obtain ⟨size, rfl, hsize⟩ := copyOut_ok hok
            exact .showControl rfl hsel hitem hsize
          · rw [if_neg hok]
            exact .idle
  | _ => exact .idle

theorem commitOutput_deed (e : Endpoint) (nowMs : UInt32) :
    Deed s e (.commitOutput nowMs) (e.commitOutput s nowMs).2 := by
  unfold commitOutput
  rcases pinned_cases s e with ⟨hreliable, item, hitem, hpinned⟩ |
    ⟨hreliable, hcontrol, item, hitem, hpinned⟩ | ⟨hreliable, hcontrol⟩
  · rw [if_pos hreliable]
    exact .commitReliable rfl hitem hpinned
  · rw [if_neg hreliable, if_pos hcontrol]
    exact .commitControl rfl (by simpa using hreliable) hitem hpinned
  · rw [if_neg hreliable, if_neg hcontrol]
    exact .idle

theorem submit_deed (e : Endpoint) (payload : List UInt8) :
    Deed s e (.submitApplicationData payload) (e.submit s payload).2 := by
  unfold submit
  by_cases hempty : payload = []
  · rw [if_pos hempty]
    exact .idle
  · rw [if_neg hempty]
    cases ha : e.activity with
    | established id x =>
        dsimp only
        by_cases hlarge : payload.length > s.config.maxApplicationMessageSize
        · rw [if_pos hlarge]
          exact .idle
        · rw [if_neg hlarge]
          by_cases hbusy : x.outgoing.isSome = true
          · rw [if_pos hbusy]
            exact .idle
          · rw [if_neg hbusy]
            exact .submit rfl hempty (Nat.le_of_not_lt hlarge) ha (by simpa using hbusy)
    | _ => exact .idle

theorem readMessage_deed (e : Endpoint) (outBuffer : Option Nat) :
    Deed s e (.readApplicationData outBuffer) (e.readMessage outBuffer).2.2.2 := by
  unfold readMessage
  cases ha : e.activity with
  | established id x =>
      dsimp only
      cases hunread : x.unread with
      | none => exact .idle
      | some payload =>
          dsimp only
          by_cases hok : (copyOut payload outBuffer).1 = .ok
          · rw [if_pos hok]
            obtain ⟨size, rfl, hsize⟩ := copyOut_ok hok
            exact .readMessage rfl ha hunread hsize
          · rw [if_neg hok]
            exact .idle
  | _ => exact .idle

theorem notifyLinkState_deed (e : Endpoint) (linkState : LinkState) (nowMs : UInt32) :
    Deed s e (.notifyLinkState linkState nowMs) (e.notifyLinkState s linkState).2 := by
  unfold notifyLinkState
  cases linkState with
  | disconnected =>
      cases ha : e.activity with
      | disconnected observed =>
          cases observed with
          | false => exact .observe rfl ha
          | true => exact .idle
      | _ => exact .disconnect rfl (by rw [ha]; rfl)
  | connected =>
      cases ha : e.activity with
      | disconnected observed => exact .connect rfl (by rw [ha]; rfl)
      | _ => exact .idle
  | unlisted raw => exact .idle

/-- An atomic call does what the rules say. -/
theorem step_deed {e : Endpoint} (h : e.Wf s) {call : Call} (hatomic : Atomic s e call) :
    Deed s e call (e.step s call).2 := by
  cases call with
  | reset => exact .reset rfl
  | notifyLinkState linkState nowMs => exact notifyLinkState_deed e linkState nowMs
  | submitApplicationData payload => exact submit_deed e payload
  | receiveBytes data => exact .work (Or.inl ⟨data, rfl⟩) (receive_work h hatomic)
  | process nowMs operatingMode =>
      exact .work (Or.inr ⟨nowMs, operatingMode, rfl⟩) (process_work h hatomic)
  | peekOutput outBuffer => exact peekOutput_deed e outBuffer
  | commitOutput nowMs => exact commitOutput_deed e nowMs
  | readApplicationData outBuffer => exact readMessage_deed e outBuffer
  | readEvent =>
      show Deed s e .readEvent e.readEvent.2.2
      unfold readEvent
      by_cases hcount : e.events.count = 0
      · rw [if_pos hcount]
        exact .idle
      · rw [if_neg hcount]
        exact .readEvent rfl hcount
  | getStatus => exact .idle

/-! ## The body that an atomic call resolves -/

theorem offered_disconnected {e : Endpoint} (h : e.Wf s)
    (hlink : e.activity.linkState = .disconnected) (call : Call) : e.offered call = none := by
  obtain ⟨hintake, _⟩ := h.disconnected hlink
  unfold offered
  rw [hintake]
  split
  · exact if_neg fun hboth => hboth.2 rfl
  · rfl
  · exact ite_self none
  · rfl

theorem offered_connected {e : Endpoint} (h : e.Wf s) {call : Call} {body : List UInt8}
    (hbody : e.offered call = some body) : e.activity.linkState = .connected := by
  refine linkState_connected fun hlink => ?_
  rw [offered_disconnected h hlink] at hbody
  cases hbody

theorem offered_ne_nil {e : Endpoint} (h : e.Wf s) {call : Call} {body : List UInt8}
    (hbody : e.offered call = some body) : body ≠ [] := by
  have hready : e.intake.body = some body → body ≠ [] := by
    intro hsome
    have hwf := h.intake
    cases hi : e.intake <;> rw [hi] at hsome hwf <;> cases hsome
    exact hwf.1
  cases call with
  | receiveBytes data =>
      cases data with
      | nil => exact hready hbody
      | cons byte rest =>
          cases rest with
          | nil =>
              unfold offered at hbody
              cases hi : e.intake with
              | filling bytes =>
                  rw [hi] at hbody
                  dsimp only at hbody
                  split_ifs at hbody with hcomplete
                  cases hbody
                  exact hcomplete.2
              | _ =>
                  rw [hi] at hbody
                  cases hbody
          | cons next rest => exact hready hbody
  | process nowMs operatingMode =>
      unfold offered at hbody
      dsimp only at hbody
      split_ifs at hbody
      exact hready hbody
  | _ => cases hbody

/-! ## The body that a root resolves -/

theorem offered_toRoot (e : Endpoint) (call : Call) :
    Receive.offered (e.toRoot s) call = e.offered call := by
  have hready : (if (e.toRoot s).parser.bodyReady ≠ 0 then some (e.toRoot s).parser.accumulated
      else none) = e.intake.body := by
    unfold toRoot Intake.toParser
    cases e.intake <;> rfl
  cases call with
  | receiveBytes data =>
      cases data with
      | nil => exact hready
      | cons byte rest =>
          cases rest with
          | nil =>
              unfold Receive.offered offered toRoot Intake.toParser
              cases e.intake with
              | filling bytes => simp [Intake.accumulated]
              | _ => rfl
          | cons next rest => exact hready
  | process nowMs operatingMode =>
      unfold Receive.offered offered
      dsimp only
      rw [← hready]
      by_cases hmode : operatingMode.isListed = true
      · rw [if_pos hmode]
        by_cases hbody : (e.toRoot s).parser.bodyReady ≠ 0
        · rw [if_pos hbody, if_pos ⟨hmode, hbody⟩]
        · rw [if_neg hbody, if_neg fun h => hbody h.2]
      · rw [if_neg hmode, if_neg fun h => hmode h.1]
  | _ => rfl

end

end Endpoint

end HilRigProtocol.Transport
