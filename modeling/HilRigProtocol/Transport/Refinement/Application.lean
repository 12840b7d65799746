/-
  Submission, reading and status: the code on the root of an endpoint does what the
  endpoint does.
-/
import HilRigProtocol.Transport.Refinement.Output

namespace HilRigProtocol.Transport

section
variable [Target] {s : Setup}

/-! ## Submission -/

theorem sessionIsEstablished_toRoot {e : Endpoint} (h : e.activity.Wf s) :
    Application.sessionIsEstablished (e.toRoot s) =
      match e.activity with
      | .established _ _ => true
      | _ => false := by
  cases ha : e.activity with
  | established id x =>
      rw [ha] at h
      simp [Application.sessionIsEstablished, Endpoint.toRoot, Endpoint.toSession, ha,
        Activity.sessionState, Activity.phase, Activity.identifier, h.1]
  | _ =>
      simp [Application.sessionIsEstablished, Endpoint.toRoot, ha, Activity.sessionState]

/-- The frame of a submitted payload passes the codec's checks. -/
theorem validateFrame_applicationFrame {id : UInt64} (hid : sessionIdentifierIsValid id = true)
    (sequence : UInt16) {payload : List UInt8} (h : s.PayloadWf payload) :
    validateFrame (Application.applicationFrame id sequence payload)
      s.config.maxApplicationMessageSize = .ok := by
  simp [validateFrame, Application.applicationFrame, frameTypeValid, ne_seedInvalid_of_isValid hid,
    h.1, Nat.not_lt.mpr h.2]

/-- A reliable frame is published when nothing is retained. -/
theorem publishEncoded_toRoot {e : Endpoint} (h : e.activity.Wf s)
    (hi : s.item e.activity = none) {frame : Frame}
    (htype : Reliability.isReliableType frame.type = true)
    (hsequence : frame.sequence = s.nextTransmit e.activity)
    (hvalid : validateFrame frame s.config.maxApplicationMessageSize = .ok) :
    Reliability.publishEncoded (e.toRoot s) frame.type frame.sequence (encodedFrame frame) =
      (.ok,
        { e.toRoot s with
          session.retainedReliableFrameType := frame.type
          session.retainedTransmitSequence := frame.sequence
          session.retransmissionsCommitted := 0
          session.reliableLastCommittedMs := 0
          encodedOutput := encodedFrame frame
          session.reliableState := .ready }) := by
  have hidle : (e.toRoot s).session.reliableState = .idle := by
    simp [Endpoint.toRoot, Endpoint.toSession, hi]
  have hpos := length_encodedFrame_pos frame
  have hlen := length_encodedFrame_le_frameSize s hvalid
  have hcap : (e.toRoot s).encodedOutputCapacity = s.config.maxEncodedFrameSize := rfl
  have hnext : (e.toRoot s).session.nextTransmitSequence = s.nextTransmit e.activity := rfl
  unfold Reliability.publishEncoded
  rw [if_neg (by simp [hasStorage_toRoot]), reliability_validateState h]
  simp only
  rw [if_neg (by simp), hidle, if_neg (by simp), if_neg]
  rw [hcap, hnext, hsequence]
  rintro (h0 | h0 | h0 | h0)
  · omega
  · omega
  · exact h0 htype
  · exact h0 rfl

theorem reserveSequence_toRoot (e : Endpoint) (hi : s.item e.activity = none) :
    (e.toRoot s).session.reserveSequence = (.ok, s.nextTransmit e.activity) := by
  simp [Session.reserveSequence, Endpoint.toRoot, Endpoint.toSession, hi, ReliableState.isListed]

/-- With nothing retained, a payload that fits is published. -/
theorem submit_idle {e : Endpoint} (h : e.activity.Wf s) {id : UInt64} {x : Exchange}
    (ha : e.activity = .established id x) (ho : x.outgoing = none) {payload : List UInt8}
    (hp : s.PayloadWf payload) :
    Application.submit (e.toRoot s) payload =
      (.ok, ({ e with
        activity := .established id { x with outgoing := some (payload, .ready) } } :
          Endpoint).toRoot s) := by
  obtain ⟨activity, cursor, mode, modeValid, failure, abandoned, diagnostic, intake, events⟩ := e
  obtain ⟨lastReceived, messageReceived, nextTransmit, outgoing, acknowledgement, unread⟩ := x
  subst ha ho
  have hi : s.item (.established id ⟨lastReceived, messageReceived, nextTransmit, none,
    acknowledgement, unread⟩) = none := rfl
  have hvalid := validateFrame_applicationFrame h.1 nextTransmit hp
  have hencode := encodeFrame_reliable s hvalid
  have hpublish := publishEncoded_toRoot h hi rfl rfl hvalid
  unfold Application.submit
  rw [if_neg (by simp [hp.1]), sessionIsEstablished_toRoot h, if_neg (by simp),
    if_neg (by simp [hasRequiredStorage_toRoot]), if_neg (by exact Nat.not_lt.mpr hp.2),
    if_neg (by rintro (h0 | h0 | h0) <;> exact h0 rfl), reserveSequence_toRoot _ hi]
  simp only
  rw [if_neg (by simp), if_neg (by simp)]
  erw [hencode]
  simp only
  rw [if_neg (by simp)]
  erw [hpublish]
  rfl

theorem submit_refines {e : Endpoint} (h : e.Wf s) (payload : List UInt8) :
    Application.submit (e.toRoot s) payload =
      let (status, next) := e.submit s payload
      (status, next.toRoot s) := by
  unfold Endpoint.submit
  by_cases hne : payload = []
  · rw [if_pos hne, Application.submit, if_pos (by simp [hne])]
  · rw [if_neg hne]
    cases ha : e.activity with
    | established id x =>
        simp only
        by_cases hbig : payload.length > s.config.maxApplicationMessageSize
        · rw [if_pos hbig, Application.submit, if_neg (by simp [hne]),
            sessionIsEstablished_toRoot h.activity, ha, if_neg (by simp),
            if_neg (by simp [hasRequiredStorage_toRoot]), if_pos (by exact hbig)]
        · rw [if_neg hbig]
          cases ho : x.outgoing with
          | some outgoing =>
              rw [if_pos (by simp), Application.submit, if_neg (by simp [hne]),
                sessionIsEstablished_toRoot h.activity, ha, if_neg (by simp),
                if_neg (by simp [hasRequiredStorage_toRoot]), if_neg (by exact hbig),
                if_pos (Or.inl (by simp [Endpoint.toRoot, ha, Activity.submitted, ho]))]
          | none =>
              rw [if_neg (by simp)]
              exact submit_idle h.activity ha ho ⟨hne, by omega⟩
    | _ =>
        rw [Application.submit, if_neg (by simp [hne]), sessionIsEstablished_toRoot h.activity, ha,
          if_pos (by simp)]

/-! ## Reading -/

theorem read_refines {e : Endpoint} (h : e.Wf s) (outBuffer : Option Nat) :
    Application.read (e.toRoot s) outBuffer =
      let (status, size, bytes, next) := e.readMessage outBuffer
      (status, size, bytes, next.toRoot s) := by
  have hvalid : ¬ (¬ Application.hasRequiredStorage (e.toRoot s) = true ∨
      ¬ Application.receivedMessageMetadataIsValid (e.toRoot s) = true) := by
    simp [hasRequiredStorage_toRoot, receivedMessageMetadataIsValid_toRoot h.activity]
  unfold Application.read
  rw [if_neg hvalid]
  cases hu : e.activity.unread with
  | none =>
      rw [if_pos (by simp [Endpoint.toRoot, hu])]
      unfold Endpoint.readMessage
      cases ha : e.activity with
      | established id x =>
          rw [ha] at hu
          have : x.unread = none := hu
          simp [this]
      | _ => rfl
  | some payload =>
      cases ha : e.activity with
      | established id x =>
          have hx : x.unread = some payload := by
            rw [ha] at hu
            exact hu
          have hmessage : (e.toRoot s).receivedMessage = payload := by simp [Endpoint.toRoot, hu]
          have hnext : ({ e with activity := .established id { x with unread := none } } :
              Endpoint).toRoot s =
              { e.toRoot s with receivedMessage := [], receivedMessagePending := 0 } := by
            obtain ⟨activity, cursor, mode, modeValid, failure, abandoned, diagnostic, intake,
              events⟩ := e
            subst ha
            rfl
          rw [if_neg (by simp [Endpoint.toRoot, hu]), sessionIsEstablished_toRoot h.activity, ha,
            if_neg (by simp)]
          unfold Endpoint.readMessage
          simp only [ha, hx]
          cases outBuffer with
          | none => simp [Endpoint.copyOut, hmessage]
          | some outBufferSize =>
              by_cases hlt : outBufferSize < payload.length
              · have hcopy : Endpoint.copyOut payload (some outBufferSize) =
                  (.bufferTooSmall, payload.length, []) := if_pos hlt
                simp only [hcopy, hmessage, if_pos hlt]
                rfl
              · have hcopy : Endpoint.copyOut payload (some outBufferSize) =
                  (.ok, payload.length, payload) := if_neg hlt
                simp only [hcopy, hmessage, if_neg hlt, if_true, hnext]
      | _ => simp [ha, Activity.unread] at hu

theorem readEvent_refines {e : Endpoint} (h : e.Wf s) :
    Events.read (e.toRoot s) =
      let (status, event, next) := e.readEvent
      (status, event, next.toRoot s) := by
  have hcount : (e.toRoot s).eventCount = e.events.count := rfl
  unfold Events.read Endpoint.readEvent
  rw [events_validateState h.events]
  simp only
  rw [if_neg (by simp), hcount]
  by_cases hzero : e.events.count = 0
  · rw [if_pos hzero, if_pos hzero]
  · rw [if_neg hzero, if_neg hzero]
    by_cases hone : e.events.count = 1
    · rw [if_pos (by omega)]
      simp [Endpoint.toRoot, Endpoint.toSession, EventRing.pop, hone, Events.slot, EventRing.slot]
    · rw [if_neg (by omega)]
      simp [Endpoint.toRoot, Endpoint.toSession, EventRing.pop, hone, Events.slot, EventRing.slot]

/-! ## Status -/

theorem output_getPendingStatus {e : Endpoint} (h : e.activity.Wf s) :
    Output.getPendingStatus (e.toRoot s) =
      (.ok, (s.item e.activity).elim false (fun item => item.stage.outputPending)
        || e.activity.controlItem.isSome, (s.item e.activity).isSome, e.toRoot s) := by
  unfold Output.getPendingStatus
  rw [output_validateState h]
  simp

theorem application_getPendingStatus {e : Endpoint} (h : e.activity.Wf s) :
    Application.getPendingStatus (e.toRoot s) =
      (.ok, (e.toRoot s).receivedMessagePending, e.toRoot s) := by
  rw [Application.getPendingStatus, if_neg (by simp [receivedMessageMetadataIsValid_toRoot h])]

theorem events_getPendingStatus {e : Endpoint} (h : e.events.Wf) :
    Events.getPendingStatus (e.toRoot s) =
      (.ok, decide (e.events.count ≠ 0), e.toRoot s) := by
  rw [Events.getPendingStatus, events_validateState h]
  rfl

theorem getStatus_refines {e : Endpoint} (h : e.Wf s) :
    Profile.getStatus (e.toRoot s) = (.ok, some (e.status s), e.toRoot s) := by
  unfold Profile.getStatus
  rw [if_neg (by simp [statusMetadataIsValid_toRoot h])]
  simp only [output_getPendingStatus h.activity, application_getPendingStatus h.activity,
    events_getPendingStatus h.events]
  rfl

end

end HilRigProtocol.Transport
