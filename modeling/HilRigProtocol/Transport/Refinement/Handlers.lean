/-
  What the frame handlers answer on the root of an endpoint.

  A handler either leaves the root alone and asks the dispatcher to reject the body
  or the session, or takes the frame completely, or reports that a place is missing.
  `Answers` says which, by the verdict on the frame.
-/
import HilRigProtocol.Transport.Refinement.Lifecycle

namespace HilRigProtocol.Transport

section
variable [Target]

/-- The answer of a handler for a verdict. `stale` and `incompatible` are its results
    that leave the rest to the dispatcher. -/
def Answers (s : Setup) (e : Endpoint) (frame : Frame) {α : Type} (stale incompatible : α)
    (verdict : Verdict) (answer : Status × α × Root) : Prop :=
  match verdict with
  | .reject => answer = (.ok, stale, e.toRoot s)
  | .incompatible => answer = (.ok, incompatible, e.toRoot s)
  | .obsolete | .acceptReset => False
  | verdict =>
      if e.available verdict then
        answer.1 = .ok ∧ answer.2.1 ≠ stale ∧ answer.2.1 ≠ incompatible ∧
          answer.2.2 = (e.accept s frame verdict).toRoot s
      else answer.1 = .capacityExhausted ∧ answer.2.2 = e.toRoot s

variable {s : Setup}

/-! ## The sequence classifier -/

theorem phase_toRoot (e : Endpoint) :
    (e.toRoot s).session.handshakePhase = e.activity.phase := rfl

theorem classifySequence_toRoot (e : Endpoint) (sequence : UInt16) :
    (e.toRoot s).session.classifySequence sequence =
      (.ok, s.sequenceResult e.activity sequence) := by
  unfold Session.classifySequence Setup.sequenceResult sequenceAfter
  cases ha : s.accepted e.activity with
  | none => simp [Endpoint.toRoot, Endpoint.toSession, ha]
  | some accepted =>
      simp only [Endpoint.toRoot, Endpoint.toSession, ha, Option.isSome_some, if_true,
        Option.elim_some]
      rw [if_neg (by decide), if_neg (by decide)]
      split_ifs <;> rfl

theorem frameIsExactDuplicate_toRoot (e : Endpoint) (frame : Frame) :
    Handshake.frameIsExactDuplicate (e.toRoot s).session frame =
      s.isExactDuplicate e.activity frame := by
  unfold Handshake.frameIsExactDuplicate Setup.isExactDuplicate
  cases ha : s.accepted e.activity with
  | none => simp [Endpoint.toRoot, Endpoint.toSession, ha]
  | some accepted => simp [Endpoint.toRoot, Endpoint.toSession, ha]

/-- The session after a frame in order. -/
def acceptedSession (session : Session) (sequence : UInt16) : Session :=
  { session with
    lastAcceptedReceiveSequence := sequence
    expectedReceiveSequence := sequence + 1
    acceptedReceiveSequenceValid := 1 }

omit [Target] in
theorem acceptSequence_eq {session : Session} {sequence : UInt16}
    (h : session.classifySequence sequence = (.ok, .expected)) :
    session.acceptSequence sequence = (.ok, acceptedSession session sequence) := by
  unfold Session.acceptSequence
  rw [h]
  rfl

theorem sequenceResult_eq_duplicate {a : Activity} {sequence : UInt16}
    (h : s.sequenceResult a sequence = .duplicate) :
    ∃ accepted, s.accepted a = some accepted ∧ sequence = accepted.sequence := by
  unfold Setup.sequenceResult at h
  cases ha : s.accepted a with
  | none =>
      rw [ha] at h
      cases h
  | some accepted =>
      rw [ha] at h
      exact ⟨accepted, rfl, sequenceAfter_eq_duplicate h⟩

/-! ## Acknowledgements -/

theorem session_classifyAcknowledgement_toRoot {e : Endpoint} {item : Item}
    (hi : s.item e.activity = some item) (sequence : UInt16) :
    (e.toRoot s).session.classifyAcknowledgement sequence =
      (.ok, if item.stage.ackResult (sequence == item.frame.sequence) = .matched then .matched
        else .staleOrUnexpected) := by
  have hstate : (e.toRoot s).session.reliableState = item.stage.state := by
    simp [Endpoint.toRoot, Endpoint.toSession, hi]
  have hsequence : (e.toRoot s).session.retainedTransmitSequence = item.frame.sequence := by
    simp [Endpoint.toRoot, Endpoint.toSession, hi]
  unfold Session.classifyAcknowledgement
  rw [hstate, hsequence, if_neg (by simp [Stage.state_isListed])]
  by_cases hsame : sequence = item.frame.sequence
  · subst hsame
    cases item.stage <;> simp [Stage.state, Stage.ackResult, Stage.acceptsAck]
  · simp [hsame, Stage.ackResult]

theorem session_classifyAcknowledgement_matched {e : Endpoint} {item : Item}
    (hi : s.item e.activity = some item) {sequence : UInt16}
    (hack : item.stage.ackResult (sequence == item.frame.sequence) = .matched) :
    (e.toRoot s).session.classifyAcknowledgement sequence = (.ok, .matched) := by
  rw [session_classifyAcknowledgement_toRoot hi, if_pos hack]

theorem classifyAcknowledgement_toRoot {e : Endpoint} {item : Item}
    (hi : s.item e.activity = some item) (frame : Frame) :
    Handshake.classifyAcknowledgement (e.toRoot s) frame item.frame.type =
      (.ok, item.stage.ackResult (frame.acknowledgementSequence == item.frame.sequence)) := by
  have htype : (e.toRoot s).session.retainedReliableFrameType = item.frame.type := by
    simp [Endpoint.toRoot, Endpoint.toSession, hi]
  have hstate : (e.toRoot s).session.reliableState = item.stage.state := by
    simp [Endpoint.toRoot, Endpoint.toSession, hi]
  have hsequence : (e.toRoot s).session.retainedTransmitSequence = item.frame.sequence := by
    simp [Endpoint.toRoot, Endpoint.toSession, hi]
  unfold Handshake.classifyAcknowledgement
  rw [if_neg (by simp [htype]), session_classifyAcknowledgement_toRoot hi, hstate, hsequence]
  by_cases hsame : frame.acknowledgementSequence = item.frame.sequence
  · rw [hsame]
    cases item.stage <;> simp [Stage.state, Stage.ackResult, Stage.acceptsAck]
  · simp [hsame, Stage.ackResult]

/-- The root without its reliable item, the next sequence reserved. -/
def acknowledgedRoot (root : Root) : Root :=
  Reliability.clearMetadata
    { root with session.nextTransmitSequence := root.session.retainedTransmitSequence + 1 }

omit [Target] in
/-- A matching acknowledgement completes the item; only what the reliability module
    reads matters. -/
theorem acceptAcknowledgement_eq {root : Root} {sequence : UInt16}
    (hstorage : Reliability.hasStorage root = true) (hvalid : Reliability.stateIsValid root = true)
    (hmatched : root.session.classifyAcknowledgement sequence = (.ok, .matched)) :
    Reliability.acceptAcknowledgement root sequence =
      (.ok, root.session.retainedReliableFrameType, .acknowledged, acknowledgedRoot root) := by
  unfold Reliability.acceptAcknowledgement Reliability.validateState
  rw [if_neg (by simp [hstorage]), if_neg (by simp [hvalid])]
  dsimp only
  rw [if_neg (by simp), hmatched]
  rfl

omit [Target] in
theorem completeAcknowledgement_eq {root : Root} {sequence : UInt16} {expectedType : FrameType}
    (hstorage : Reliability.hasStorage root = true) (hvalid : Reliability.stateIsValid root = true)
    (hmatched : root.session.classifyAcknowledgement sequence = (.ok, .matched))
    (htype : root.session.retainedReliableFrameType = expectedType) :
    Handshake.completeAcknowledgement root sequence expectedType =
      (.ok, acknowledgedRoot root) := by
  unfold Handshake.completeAcknowledgement
  rw [acceptAcknowledgement_eq hstorage hvalid hmatched, htype]
  simp

theorem completeAcknowledgement_toRoot {e : Endpoint} (h : e.activity.Wf s) {item : Item}
    (hi : s.item e.activity = some item) {sequence : UInt16}
    (hack : item.stage.ackResult (sequence == item.frame.sequence) = .matched) :
    Handshake.completeAcknowledgement (e.toRoot s) sequence item.frame.type =
      (.ok, acknowledgedRoot (e.toRoot s)) := by
  apply completeAcknowledgement_eq (hasStorage_toRoot e) (reliability_stateIsValid h)
  · exact session_classifyAcknowledgement_matched hi hack
  · simp [Endpoint.toRoot, Endpoint.toSession, hi]

/-! ## Duplicates of an answered frame -/

/-- The retained handshake frame is due once more, when it awaits its answer. -/
theorem requestRetransmission_toRoot {e : Endpoint} (h : e.activity.Wf s) {item : Item}
    (hi : s.item e.activity = some item) :
    ∃ outcome, Reliability.requestRetransmission (e.toRoot s) item.frame.type =
      (.ok, outcome,
        { e.toRoot s with session.reliableState := (s.retry item.stage).state }) := by
  have hstate : (e.toRoot s).session.reliableState = item.stage.state := by
    simp [Endpoint.toRoot, Endpoint.toSession, hi]
  have htype : (e.toRoot s).session.retainedReliableFrameType = item.frame.type := by
    simp [Endpoint.toRoot, Endpoint.toSession, hi]
  have hretries : (e.toRoot s).session.retransmissionsCommitted = item.stage.retries := by
    simp [Endpoint.toRoot, Endpoint.toSession, hi]
  have hmax : (e.toRoot s).base.config.maxRetries = s.config.maxRetries := rfl
  have hsame : ∀ state, (e.toRoot s).session.reliableState = state →
      { e.toRoot s with session.reliableState := state } = e.toRoot s := by
    rintro _ rfl
    rfl
  obtain ⟨_, _, hreliable, _⟩ := item_wf h hi
  unfold Reliability.requestRetransmission
  rw [if_neg (by simp [hasStorage_toRoot, hreliable]), reliability_validateState h]
  dsimp only
  rw [if_neg (show ¬ Status.ok ≠ .ok by simp),
    if_neg (by rw [hstate]; exact Stage.state_ne_idle _), if_neg (by simp [htype])]
  cases hst : item.stage with
  | awaitingAck retries ms =>
      rw [hst] at hstate hretries
      rw [if_neg (by simp [hstate, Stage.state]), Reliability.allowRetryOrExhaust]
      by_cases hlt : retries < s.config.maxRetries
      · have hretry : s.retry (.awaitingAck retries ms) = .retransmitReady retries ms := if_pos hlt
        rw [if_pos (by rw [hretries]; exact hlt), hretry]
        exact ⟨_, rfl⟩
      · have hretry : s.retry (.awaitingAck retries ms) = .exhausted retries ms := if_neg hlt
        rw [if_neg (by rw [hretries]; exact hlt), hretry]
        exact ⟨_, rfl⟩
  | _ =>
      rw [hst] at hstate
      rw [if_pos (by simp [hstate, Stage.state])]
      refine ⟨.noChange, ?_⟩
      rw [hsame _ (by exact hstate)]

theorem retries_retry (stage : Stage) :
    (s.retry stage).retries = stage.retries ∧ (s.retry stage).committedMs = stage.committedMs := by
  cases stage with
  | awaitingAck retries ms =>
      unfold Setup.retry
      dsimp only
      split_ifs <;> exact ⟨rfl, rfl⟩
  | _ => exact ⟨rfl, rfl⟩

/-- A retry changes the state of the retained item only. -/
theorem toRoot_retry (e : Endpoint) {item : Item} (hi : s.item e.activity = some item)
    {f : Stage → Stage} (hf : f item.stage = s.retry item.stage) :
    ({ e with activity := e.activity.mapStage f } : Endpoint).toRoot s =
      { e.toRoot s with session.reliableState := (s.retry item.stage).state } := by
  rw [toRoot_mapStage e f hi, hf, (retries_retry item.stage).1, (retries_retry item.stage).2,
    Setup.pinned_retry]
  simp [Endpoint.toRoot, Endpoint.toSession, hi, Endpoint.controlPinned]
  rfl

/-- A duplicate of the frame that the retained handshake frame answers. -/
theorem handleDuplicateResponseWork_toRoot {e : Endpoint} (h : e.activity.Wf s) {item : Item}
    (hi : s.item e.activity = some item) :
    Handshake.handleDuplicateResponseWork (e.toRoot s) item.frame.type =
      (.ok, ({ e with activity := e.activity.mapStage s.retry } : Endpoint).toRoot s) := by
  obtain ⟨outcome, heq⟩ := requestRetransmission_toRoot h hi
  have hstate : (e.toRoot s).session.reliableState = item.stage.state := by
    simp [Endpoint.toRoot, Endpoint.toSession, hi]
  unfold Handshake.handleDuplicateResponseWork
  rw [if_neg (by rw [hstate]; exact Stage.state_ne_idle _), heq, toRoot_retry e hi rfl]

theorem handleDuplicateResponseWork_idle {e : Endpoint} (hi : s.item e.activity = none)
    (expectedType : FrameType) :
    Handshake.handleDuplicateResponseWork (e.toRoot s) expectedType = (.ok, e.toRoot s) := by
  unfold Handshake.handleDuplicateResponseWork
  rw [if_pos (by simp [Endpoint.toRoot, Endpoint.toSession, hi])]

/-! ## Verdicts in order -/

theorem inOrder_expected {a : Activity} {frame : Frame} {expected again : Verdict}
    (h : s.sequenceResult a frame.sequence = .expected) :
    s.inOrder a frame expected again = expected := by
  unfold Setup.inOrder
  rw [h]

theorem inOrder_stale {a : Activity} {frame : Frame} {expected again : Verdict}
    (h : s.sequenceResult a frame.sequence = .stale) :
    s.inOrder a frame expected again = .reject := by
  unfold Setup.inOrder
  rw [h]

theorem inOrder_incompatible {a : Activity} {frame : Frame} {expected again : Verdict}
    (h : s.sequenceResult a frame.sequence = .incompatible) :
    s.inOrder a frame expected again = .incompatible := by
  unfold Setup.inOrder
  rw [h]

theorem inOrder_duplicate {a : Activity} {frame : Frame} {expected again : Verdict}
    (h : s.sequenceResult a frame.sequence = .duplicate) :
    s.inOrder a frame expected again =
      if s.isExactDuplicate a frame then again else .incompatible := by
  unfold Setup.inOrder
  rw [h]

/-! ## RESPONSE -/

theorem handleHostResponse_answers {e : Endpoint} (h : e.Wf s) {frame : Frame}
    (hcurrent : e.activity.identifier = some frame.sessionIdentifier)
    (htype : frame.type = .response) :
    Answers s e frame HandshakeFrameResult.stale .incompatible
      (s.classifyResponse e.activity frame) (Handshake.handleHostResponse (e.toRoot s) frame) := by
  have hid : (e.toRoot s).session.sessionIdentifier = frame.sessionIdentifier := by
    simp [Endpoint.toRoot, Endpoint.toSession, hcurrent]
  unfold Handshake.handleHostResponse Setup.classifyResponse
  rw [if_neg (by simp [hid]), classifySequence_toRoot, frameIsExactDuplicate_toRoot, phase_toRoot]
  dsimp only
  rw [if_neg (show ¬ Status.ok ≠ .ok by simp)]
  cases hr : s.sequenceResult e.activity frame.sequence with
  | stale =>
      rw [inOrder_stale hr]
      rfl
  | incompatible =>
      rw [inOrder_incompatible hr]
      rfl
  | duplicate =>
      rw [inOrder_duplicate hr, if_pos rfl]
      cases hexact : s.isExactDuplicate e.activity frame with
      | false => rfl
      | true =>
          rw [if_pos rfl, if_neg (by simp)]
          cases ha : e.activity with
          | confirmPending id received =>
              rw [if_pos (by exact Or.inl rfl), handleDuplicateResponseWork_idle (by rw [ha]; rfl)]
              refine ⟨rfl, by simp, by simp, ?_⟩
              show e.toRoot s =
                ({ e with activity := s.afterRepeat e.activity } : Endpoint).toRoot s
              rw [ha]
              simp only [Setup.afterRepeat, ← ha]
          | waitingForConfirmAck id received stage =>
              have hi : s.item e.activity = some ⟨s.confirmFrame id received, stage⟩ := by
                rw [ha]
                rfl
              have hwork : Handshake.handleDuplicateResponseWork (e.toRoot s) .confirm = _ :=
                handleDuplicateResponseWork_toRoot h.activity hi
              rw [if_pos (by exact Or.inr rfl), hwork]
              refine ⟨rfl, by simp, by simp, ?_⟩
              show _ = ({ e with activity := s.afterRepeat e.activity } : Endpoint).toRoot s
              rw [ha]
              rfl
          | _ => rfl
  | expected =>
      rw [inOrder_expected hr, if_neg (by simp), if_neg (by simp), if_neg (by simp)]
      cases ha : e.activity with
      | waitingForResponse id stage =>
          have hi : s.item e.activity = some ⟨s.initiateFrame id, stage⟩ := by
            rw [ha]
            rfl
          have hclassify : Handshake.classifyAcknowledgement (e.toRoot s) frame .initiate =
              (.ok, stage.ackResult (frame.acknowledgementSequence == s.firstSequence)) :=
            classifyAcknowledgement_toRoot hi frame
          rw [if_neg (by simp [Activity.phase])]
          dsimp only
          cases hack : stage.ackResult (frame.acknowledgementSequence == s.firstSequence) with
          | unexpected =>
              rw [hclassify, hack]
              rfl
          | blockedByPinnedRetry =>
              rw [hclassify, hack]
              exact ⟨rfl, rfl⟩
          | matched =>
              have hcomplete : Handshake.completeAcknowledgement (e.toRoot s)
                  frame.acknowledgementSequence .initiate = _ :=
                completeAcknowledgement_toRoot h.activity hi hack
              have haccept : (acknowledgedRoot (e.toRoot s)).session.acceptSequence
                  frame.sequence = _ :=
                acceptSequence_eq ((classifySequence_toRoot e frame.sequence).trans
                  (congrArg _ hr))
              rw [hclassify, hack]
              dsimp only
              rw [if_neg (by simp), if_neg (by simp), if_neg (by simp), hcomplete]
              dsimp only
              rw [if_neg (show ¬ Status.ok ≠ .ok by simp), haccept]
              dsimp only
              rw [if_neg (show ¬ Status.ok ≠ .ok by simp)]
              refine ⟨rfl, by simp, by simp, ?_⟩
              obtain ⟨hsame, haccepts⟩ := Stage.ackResult_eq_matched hack
              rw [beq_iff_eq] at hsame
              obtain ⟨activity, cursor, mode, modeValid, failure, abandoned, diagnostic, intake,
                events⟩ := e
              obtain ⟨type, identifier, sequence, acknowledgement, payload⟩ := frame
              cases ha
              cases htype
              cases hsame
              cases stage with
              | awaitingAck retries ms => rfl
              | retransmitReady retries ms => rfl
              | _ => cases haccepts
      | _ => rfl

/-! ## INITIATE -/

theorem handleRigInitiate_answers {e : Endpoint} (h : e.Wf s) {frame : Frame}
    (hcurrent : e.activity.identifier = none ∨
      e.activity.identifier = some frame.sessionIdentifier)
    (hvalid : sessionIdentifierIsValid frame.sessionIdentifier = true)
    (htype : frame.type = .initiate) (hack : frame.acknowledgementSequence = 0) :
    Answers s e frame HandshakeFrameResult.stale .incompatible
      (s.classifyInitiate e.activity frame) (Handshake.handleRigInitiate (e.toRoot s) frame) := by
  have hid : ¬ ((e.toRoot s).session.sessionIdentifierValid ≠ 0 ∧
      frame.sessionIdentifier ≠ (e.toRoot s).session.sessionIdentifier) := by
    rcases hcurrent with hn | hs
    · simp [Endpoint.toRoot, Endpoint.toSession, hn]
    · simp [Endpoint.toRoot, Endpoint.toSession, hs]
  unfold Handshake.handleRigInitiate Setup.classifyInitiate
  rw [if_neg (by simp [hvalid, hack]), if_neg hid, classifySequence_toRoot,
    frameIsExactDuplicate_toRoot, phase_toRoot]
  dsimp only
  rw [if_neg (show ¬ Status.ok ≠ .ok by simp)]
  cases hr : s.sequenceResult e.activity frame.sequence with
  | stale =>
      rw [inOrder_stale hr]
      rfl
  | incompatible =>
      rw [inOrder_incompatible hr]
      rfl
  | duplicate =>
      rw [inOrder_duplicate hr, if_pos rfl]
      cases hexact : s.isExactDuplicate e.activity frame with
      | false => rfl
      | true =>
          rw [if_pos rfl, if_neg (by simp)]
          cases ha : e.activity with
          | responsePending id received =>
              rw [if_pos (by exact Or.inl rfl), handleDuplicateResponseWork_idle (by rw [ha]; rfl)]
              refine ⟨rfl, by simp, by simp, ?_⟩
              show e.toRoot s =
                ({ e with activity := s.afterRepeat e.activity } : Endpoint).toRoot s
              rw [ha]
              simp only [Setup.afterRepeat, ← ha]
          | waitingForConfirm id received stage =>
              have hi : s.item e.activity = some ⟨s.responseFrame id received, stage⟩ := by
                rw [ha]
                rfl
              have hwork : Handshake.handleDuplicateResponseWork (e.toRoot s) .response = _ :=
                handleDuplicateResponseWork_toRoot h.activity hi
              rw [if_pos (by exact Or.inr rfl), hwork]
              refine ⟨rfl, by simp, by simp, ?_⟩
              show _ = ({ e with activity := s.afterRepeat e.activity } : Endpoint).toRoot s
              rw [ha]
              rfl
          | _ => rfl
  | expected =>
      rw [inOrder_expected hr, if_neg (by simp), if_neg (by simp), if_neg (by simp)]
      cases ha : e.activity with
      | waitingForInitiate =>
          have haccept : ({ e.toRoot s with
              session.sessionIdentifier := frame.sessionIdentifier
              session.sessionIdentifierValid := 1 } : Root).session.acceptSequence
              frame.sequence = _ :=
            acceptSequence_eq ((classifySequence_toRoot e frame.sequence).trans (congrArg _ hr))
          have hstate : ¬ ((e.toRoot s).session.linkState ≠ .connected ∨
              (e.toRoot s).session.state ≠ .connecting ∨
                Activity.waitingForInitiate.phase ≠ .waitingForInitiate) := by
            simp [Endpoint.toRoot, Endpoint.toSession, ha, Activity.linkState,
              Activity.sessionState, Activity.phase]
          rw [if_neg hstate, haccept]
          dsimp only
          rw [if_neg (show ¬ Status.ok ≠ .ok by simp)]
          refine ⟨rfl, by simp, by simp, ?_⟩
          obtain ⟨activity, cursor, mode, modeValid, failure, abandoned, diagnostic, intake,
            events⟩ := e
          obtain ⟨type, identifier, sequence, acknowledgement, payload⟩ := frame
          cases ha
          cases htype
          cases hack
          rfl
      | _ =>
          rw [if_pos (by exact Or.inr (Or.inr (by simp [Activity.phase])))]
          rfl

/-! ## CONFIRM -/

theorem encodedFrame_injective {frame other : Frame} {n : Nat}
    (hframe : validateFrame frame n = .ok) (hother : validateFrame other n = .ok)
    (hn : n + rawOverhead ≤ Target.sizeMax) (heq : encodedFrame frame = encodedFrame other) :
    frame = other := by
  have hcode : cobsCode (rawFrame frame) = cobsCode (rawFrame other) :=
    List.append_cancel_right heq
  have hdecode := decodeFrameView_cobsCode hframe (Nat.le_refl _) hn
  rw [hcode, decodeFrameView_cobsCode hother (Nat.le_refl _) hn] at hdecode
  cases hdecode
  rfl

/-- A control slot that is taken accepts only the item it holds. -/
theorem publishControl_occupied {e : Endpoint} (h : e.Wf s) {item : ControlItem}
    (hc : e.activity.controlItem = some item) {id : UInt64}
    (hid : sessionIdentifierIsValid id = true) (sequence : UInt16) :
    Handshake.publishControl (e.toRoot s) .ack id sequence =
      (if item.frame = Handshake.controlFrame .ack id sequence then .ok else .notReady,
        e.toRoot s) := by
  obtain ⟨hpayload, hitem⟩ := controlItem_wf h.activity hc
  have hack := @validateFrame_controlFrame .ack id sequence (Or.inl rfl) hid
    s.config.maxApplicationMessageSize
  have hlen := @length_encodedFrame_of_payload_nil (Handshake.controlFrame .ack id sequence) rfl
  have hpos := length_encodedFrame_pos (Handshake.controlFrame .ack id sequence)
  have hencode : encodeFrame (Handshake.controlFrame .ack id sequence)
      (e.toRoot s).base.config.maxApplicationMessageSize (e.toRoot s).codecScratchSize
      controlOutputCapacity = (.ok, encodedFrame (Handshake.controlFrame .ack id sequence)) :=
    encodeFrame_control s rfl hack
  have hout : (e.toRoot s).controlOutput = encodedFrame item.frame := by
    simp [Endpoint.toRoot, hc]
  have hstate : (e.toRoot s).controlOutputState ≠ .idle := by
    cases hp : item.pinned <;> simp [Endpoint.toRoot, hc, hp]
  have hfits : ¬ ((encodedFrame (Handshake.controlFrame .ack id sequence)).length = 0 ∨
      (encodedFrame (Handshake.controlFrame .ack id sequence)).length > controlOutputCapacity) := by
    simp only [controlOutputCapacity]
    omega
  unfold Handshake.publishControl ControlOutput.publishEncoded
  rw [hencode]
  dsimp only
  rw [if_neg (show ¬ Status.ok ≠ .ok by simp), if_neg hfits,
    controlOutput_validateState h.activity]
  dsimp only
  rw [if_neg (show ¬ Status.ok ≠ .ok by simp), if_neg hstate, hout]
  by_cases hsame : item.frame = Handshake.controlFrame .ack id sequence
  · rw [if_pos hsame, if_pos (by rw [hsame])]
  · rw [if_neg hsame,
      if_neg (fun heq => hsame (encodedFrame_injective hitem hack s.rawSize_le heq))]

/-- The root with an acknowledgement in the free control slot. -/
def acknowledgingRoot (s : Setup) (e : Endpoint) (id : UInt64) (sequence : UInt16) : Root :=
  { e.toRoot s with
    controlOutput := encodedFrame (Handshake.controlFrame .ack id sequence)
    controlOutputState := .ready }

/-- An acknowledgement is published when the slot is free or holds it already. -/
theorem publishAcknowledgement_toRoot {e : Endpoint} (h : e.Wf s) {id : UInt64}
    (hid : e.activity.identifier = some id) (sequence : UInt16) :
    Handshake.publishAcknowledgement (e.toRoot s) sequence =
      match e.activity.controlItem with
      | none => (.ok, acknowledgingRoot s e id sequence)
      | some item =>
          (if item.frame = Handshake.controlFrame .ack id sequence then .ok
            else .capacityExhausted, e.toRoot s) := by
  have hvalid := identifier_wf h.activity hid
  have hsession : (e.toRoot s).session.sessionIdentifier = id := by
    simp [Endpoint.toRoot, Endpoint.toSession, hid]
  unfold Handshake.publishAcknowledgement
  rw [hsession]
  cases hc : e.activity.controlItem with
  | none =>
      rw [publishControl_toRoot hc (Or.inl rfl) hvalid]
      rfl
  | some item =>
      rw [publishControl_occupied h hc hvalid]
      by_cases hsame : item.frame = Handshake.controlFrame .ack id sequence
      · simp [hsame]
      · simp [hsame]

/-- The acknowledgement of the last accepted frame once more. -/
theorem publishAcknowledgement_again {e : Endpoint} (h : e.Wf s) {id : UInt64} {x : Exchange}
    (ha : e.activity = .established id x) :
    Handshake.publishAcknowledgement (e.toRoot s) x.lastReceived =
      (.ok, ({ e with
        activity := .established id
          { x with acknowledgement := some (x.acknowledgement.getD false) } } :
            Endpoint).toRoot s) := by
  have hid : e.activity.identifier = some id := by rw [ha]; rfl
  rw [publishAcknowledgement_toRoot h hid]
  obtain ⟨activity, cursor, mode, modeValid, failure, abandoned, diagnostic, intake, events⟩ := e
  obtain ⟨lastReceived, messageReceived, nextTransmit, outgoing, acknowledgement, unread⟩ := x
  cases ha
  cases acknowledgement with
  | none =>
      cases outgoing with
      | none => rfl
      | some outgoing => rfl
  | some pinned =>
      dsimp only [Activity.controlItem, Option.map_some]
      rw [if_pos rfl]
      rfl

/-- The endpoint of an established session, its event not yet published. -/
def silentlyEstablished (e : Endpoint) (activity : Activity) : Endpoint :=
  { e with activity := activity, lastFailure := .none }

theorem publishEstablishedEvent_toRoot {e : Endpoint} (hfull : e.events.full = false)
    (h : e.events.Wf) (activity : Activity) :
    Handshake.publishEstablishedEvent ((silentlyEstablished e activity).toRoot s) =
      (.ok, (e.establish activity).toRoot s) := by
  have hpublish := @publish_refines _ s (silentlyEstablished e activity) h
    Handshake.establishedEvent rfl
  have hnext : (silentlyEstablished e activity).publish Handshake.establishedEvent =
      (.ok, e.establish activity) :=
    if_neg (show ¬ e.events.full = true by simp [hfull])
  unfold Handshake.publishEstablishedEvent
  rw [hpublish, hnext]

/-- The root after a frame in order, recorded by the handshake. -/
def recordedRoot (root : Root) (frame : Frame) : Root :=
  { root with
    session := Handshake.recordAcceptedFrame (acceptedSession root.session frame.sequence) frame }

/-- The rig's session after CONFIRM. -/
theorem setEstablished_confirm {e : Endpoint} {frame : Frame} {id : UInt64} {received : UInt16}
    {stage : Stage} (hrole : s.role = .rig)
    (ha : e.activity = .waitingForConfirm id received stage)
    (hcurrent : e.activity.identifier = some frame.sessionIdentifier)
    (htype : frame.type = .confirm)
    (hack : stage.ackResult (frame.acknowledgementSequence == s.firstSequence) = .matched) :
    Handshake.setEstablished (recordedRoot
        (acknowledgedRoot (acknowledgingRoot s e frame.sessionIdentifier frame.sequence)) frame) =
      (silentlyEstablished e (.established id
        { Exchange.initial frame.sequence (s.firstSequence + 1) with
          acknowledgement := some false })).toRoot s := by
  obtain ⟨hsame, haccepts⟩ := Stage.ackResult_eq_matched hack
  rw [beq_iff_eq] at hsame
  obtain ⟨activity, cursor, mode, modeValid, failure, abandoned, diagnostic, intake, events⟩ := e
  obtain ⟨type, identifier, sequence, acknowledgement, payload⟩ := frame
  obtain ⟨role, config, firstSequence, regions, hroles, h1, h2, h3, h4, h5, h6, h7, h8⟩ := s
  cases ha
  cases htype
  cases hsame
  cases hrole
  cases hcurrent
  cases stage with
  | awaitingAck retries ms => rfl
  | retransmitReady retries ms => rfl
  | _ => cases haccepts

/-- CONFIRM in order, while RESPONSE is retained. -/
theorem handleRigConfirm_expected {e : Endpoint} (h : e.Wf s) {frame : Frame}
    (hrole : s.role = .rig) (hcurrent : e.activity.identifier = some frame.sessionIdentifier)
    (htype : frame.type = .confirm)
    (hr : s.sequenceResult e.activity frame.sequence = .expected) {id : UInt64}
    {received : UInt16} {stage : Stage} (ha : e.activity = .waitingForConfirm id received stage) :
    Handshake.handleRigConfirm (e.toRoot s) frame =
      match stage.ackResult (frame.acknowledgementSequence == s.firstSequence) with
      | .unexpected => (.ok, .incompatible, e.toRoot s)
      | .blockedByPinnedRetry => (.capacityExhausted, .incompatible, e.toRoot s)
      | .matched =>
          if e.events.full then (.capacityExhausted, .incompatible, e.toRoot s)
          else (.ok, .accepted, (e.accept s frame .acceptConfirm).toRoot s) := by
  have hid : (e.toRoot s).session.sessionIdentifier = frame.sessionIdentifier := by
    simp [Endpoint.toRoot, Endpoint.toSession, hcurrent]
  have hi : s.item e.activity = some ⟨s.responseFrame id received, stage⟩ := by
    rw [ha]
    rfl
  have hcontrol : e.activity.controlItem = none := by
    rw [ha]
    rfl
  have hphase : ¬ (e.toRoot s).session.handshakePhase ≠ .waitingForConfirm := by
    rw [phase_toRoot, ha]
    simp [Activity.phase]
  have hclassify : Handshake.classifyAcknowledgement (e.toRoot s) frame .response =
      (.ok, stage.ackResult (frame.acknowledgementSequence == s.firstSequence)) :=
    classifyAcknowledgement_toRoot hi frame
  unfold Handshake.handleRigConfirm
  rw [if_neg (by simp [hid]), classifySequence_toRoot, hr]
  with_reducible conv_lhs => whnf
  rw [if_neg (by simp), if_neg (by simp), if_neg (by simp), if_neg (by simp), if_neg hphase,
    hclassify]
  with_reducible conv_lhs => whnf
  rw [if_neg (by simp)]
  cases hack : stage.ackResult (frame.acknowledgementSequence == s.firstSequence) with
  | unexpected => rw [if_neg (by simp), if_pos (by simp)]
  | blockedByPinnedRetry => rw [if_pos rfl]
  | matched =>
      rw [if_neg (by simp), if_neg (by simp), checkCapacity_refines h.events]
      with_reducible conv_lhs => whnf
      by_cases hfull : e.events.full = true
      · rw [if_pos hfull, if_pos (by simp)]
        exact (if_pos hfull).symm
      · have haccept : (e.accept s frame .acceptConfirm) = e.establish (.established id
            { Exchange.initial frame.sequence (s.firstSequence + 1) with
              acknowledgement := some false }) := by
          unfold Endpoint.accept
          rw [ha]
        rw [if_neg hfull, if_neg (by simp), publishAcknowledgement_toRoot h hcurrent, hcontrol]
        with_reducible conv_lhs => whnf
        have hretained : (e.toRoot s).session.retainedReliableFrameType = .response := by
          simp [Endpoint.toRoot, Endpoint.toSession, hi, Setup.responseFrame]
        have hcomplete := @completeAcknowledgement_eq
          (acknowledgingRoot s e frame.sessionIdentifier frame.sequence)
          frame.acknowledgementSequence .response (hasStorage_toRoot e)
          (reliability_stateIsValid h.activity)
          (session_classifyAcknowledgement_matched hi hack) hretained
        have hsequence := @acceptSequence_eq (acknowledgedRoot (acknowledgingRoot s e
          frame.sessionIdentifier frame.sequence)).session frame.sequence
          ((classifySequence_toRoot e frame.sequence).trans (congrArg _ hr))
        have hestablished := setEstablished_confirm hrole ha hcurrent htype hack
        rw [if_neg (by simp), hcomplete]
        with_reducible conv_lhs => whnf
        rw [if_neg (by simp), hsequence]
        with_reducible conv_lhs => whnf
        rw [if_neg (by simp)]
        unfold recordedRoot at hestablished
        rw [hestablished]
        with_reducible conv_lhs => whnf
        rw [publishEstablishedEvent_toRoot (by simpa using hfull) h.events, haccept]
        exact (if_neg hfull).symm

theorem classifyConfirm_unexpected {a : Activity} {frame : Frame}
    (hr : s.sequenceResult a frame.sequence = .expected) (hphase : a.phase ≠ .waitingForConfirm) :
    s.classifyConfirm a frame = .reject := by
  unfold Setup.classifyConfirm
  rw [inOrder_expected hr]
  cases a with
  | waitingForConfirm id received stage => exact absurd rfl hphase
  | _ => rfl

theorem handleRigConfirm_answers {e : Endpoint} (h : e.Wf s) {frame : Frame}
    (hrole : s.role = .rig)
    (hcurrent : e.activity.identifier = some frame.sessionIdentifier)
    (htype : frame.type = .confirm) :
    Answers s e frame HandshakeFrameResult.stale .incompatible
      (s.classifyConfirm e.activity frame) (Handshake.handleRigConfirm (e.toRoot s) frame) := by
  have hid : (e.toRoot s).session.sessionIdentifier = frame.sessionIdentifier := by
    simp [Endpoint.toRoot, Endpoint.toSession, hcurrent]
  by_cases hexpected : s.sequenceResult e.activity frame.sequence = .expected ∧
      ∃ id received stage, e.activity = .waitingForConfirm id received stage
  · obtain ⟨hr, id, received, stage, ha⟩ := hexpected
    have hverdict : s.classifyConfirm e.activity frame =
        .ofAck (stage.ackResult (frame.acknowledgementSequence == s.firstSequence))
          .acceptConfirm .incompatible := by
      unfold Setup.classifyConfirm
      rw [inOrder_expected hr, ha]
    rw [hverdict, handleRigConfirm_expected h hrole hcurrent htype hr ha]
    cases stage.ackResult (frame.acknowledgementSequence == s.firstSequence) with
    | unexpected => rfl
    | blockedByPinnedRetry => exact ⟨rfl, rfl⟩
    | matched =>
        dsimp only [Verdict.ofAck]
        unfold Answers Endpoint.available
        cases e.events.full with
        | true => exact ⟨rfl, rfl⟩
        | false => exact ⟨rfl, by simp, by simp, rfl⟩
  · unfold Handshake.handleRigConfirm
    rw [if_neg (by simp [hid]), classifySequence_toRoot, frameIsExactDuplicate_toRoot]
    with_reducible conv => arg 7; whnf
    rw [if_neg (by simp)]
    cases hr : s.sequenceResult e.activity frame.sequence with
    | stale =>
        unfold Setup.classifyConfirm
        rw [inOrder_stale hr, if_neg (by simp), if_pos rfl]
        rfl
    | incompatible =>
        unfold Setup.classifyConfirm
        rw [inOrder_incompatible hr, if_neg (by simp), if_neg (by simp), if_pos (by simp)]
        rfl
    | expected =>
        have hphase : (e.toRoot s).session.handshakePhase ≠ .waitingForConfirm := by
          rw [phase_toRoot]
          intro hp
          cases ha : e.activity <;> rw [ha] at hp <;> cases hp
          exact hexpected ⟨hr, _, _, _, ha⟩
        rw [classifyConfirm_unexpected hr hphase, if_neg (by simp), if_neg (by simp),
          if_neg (by simp), if_pos hphase]
        rfl
    | duplicate =>
        unfold Setup.classifyConfirm
        rw [inOrder_duplicate hr, if_pos rfl]
        cases hexact : s.isExactDuplicate e.activity frame with
        | false =>
            rw [if_neg (by simp), if_pos (by simp)]
            rfl
        | true =>
            rw [if_pos rfl, if_neg (by simp), phase_toRoot]
            cases ha : e.activity with
            | established id x =>
                have hsequence : frame.sequence = x.lastReceived := by
                  obtain ⟨accepted, haccepted, hs⟩ := sequenceResult_eq_duplicate hr
                  rw [ha] at haccepted
                  unfold Setup.accepted at haccepted
                  dsimp only at haccepted
                  split_ifs at haccepted <;> cases haccepted <;> exact hs
                rw [if_pos (show (Activity.established id x).phase = .established from rfl),
                  hsequence, publishAcknowledgement_again h ha]
                refine ⟨rfl, by simp, by simp, ?_⟩
                unfold Endpoint.accept
                rw [ha]
                rfl
            | _ =>
                rw [if_neg (by simp [Activity.phase])]
                rfl

/-! ## The acknowledgement of CONFIRM -/

/-- The host's session after the acknowledgement of CONFIRM, or a proof of it. -/
theorem setHostEstablished_toRoot {e : Endpoint} {id : UInt64} {received : UInt16}
    {stage : Stage} (hrole : s.role = .host)
    (ha : e.activity = .waitingForConfirmAck id received stage)
    (haccepts : stage.acceptsAck = true) :
    Handshake.setHostEstablished (acknowledgedRoot (e.toRoot s)) (s.firstSequence + 1) =
      (silentlyEstablished e (s.hostEstablished id received)).toRoot s := by
  obtain ⟨activity, cursor, mode, modeValid, failure, abandoned, diagnostic, intake, events⟩ := e
  obtain ⟨role, config, firstSequence, regions, hroles, h1, h2, h3, h4, h5, h6, h7, h8⟩ := s
  cases ha
  cases hrole
  cases stage with
  | awaitingAck retries ms => rfl
  | retransmitReady retries ms => rfl
  | _ => cases haccepts

/-- The acknowledgement of CONFIRM. -/
theorem handleHostAck_expected {e : Endpoint} (h : e.Wf s) {frame : Frame} {id : UInt64}
    {received : UInt16} {stage : Stage}
    (hcurrent : e.activity.identifier = some frame.sessionIdentifier)
    (ha : e.activity = .waitingForConfirmAck id received stage) :
    Handshake.handleHostAck (e.toRoot s) frame =
      match stage.ackResult (frame.acknowledgementSequence == s.firstSequence + 1) with
      | .unexpected => (.ok, .stale, e.toRoot s)
      | .blockedByPinnedRetry => (.capacityExhausted, .incompatible, e.toRoot s)
      | .matched =>
          if e.events.full then (.capacityExhausted, .incompatible, e.toRoot s)
          else (.ok, .accepted, (e.accept s frame .acceptConfirmAck).toRoot s) := by
  have hid : (e.toRoot s).session.sessionIdentifier = frame.sessionIdentifier := by
    simp [Endpoint.toRoot, Endpoint.toSession, hcurrent]
  have hi : s.item e.activity = some ⟨s.confirmFrame id received, stage⟩ := by
    rw [ha]
    rfl
  have hrole : s.role = .host := by
    have := h.activity
    rw [ha] at this
    exact this.1
  have hphase : ¬ (e.toRoot s).session.handshakePhase ≠ .waitingForConfirmAck := by
    rw [phase_toRoot, ha]
    simp [Activity.phase]
  have hclassify : Handshake.classifyAcknowledgement (e.toRoot s) frame .confirm =
      (.ok, stage.ackResult (frame.acknowledgementSequence == s.firstSequence + 1)) :=
    classifyAcknowledgement_toRoot hi frame
  unfold Handshake.handleHostAck
  rw [if_neg (by simp [hid]), if_neg hphase, hclassify]
  with_reducible conv_lhs => whnf
  rw [if_neg (by simp)]
  cases hack : stage.ackResult (frame.acknowledgementSequence == s.firstSequence + 1) with
  | unexpected => rw [if_neg (by simp), if_pos (by simp)]
  | blockedByPinnedRetry => rw [if_pos rfl]
  | matched =>
      rw [if_neg (by simp), if_neg (by simp), checkCapacity_refines h.events]
      with_reducible conv_lhs => whnf
      by_cases hfull : e.events.full = true
      · rw [if_pos hfull, if_pos (by simp)]
        exact (if_pos hfull).symm
      · have haccept : (e.accept s frame .acceptConfirmAck) =
            e.establish (s.hostEstablished id received) := by
          unfold Endpoint.accept
          rw [ha]
        have hretained : (e.toRoot s).session.retainedTransmitSequence = s.firstSequence + 1 := by
          simp [Endpoint.toRoot, Endpoint.toSession, hi, Setup.confirmFrame]
        have hcomplete : Handshake.completeAcknowledgement (e.toRoot s)
            frame.acknowledgementSequence .confirm = _ :=
          completeAcknowledgement_toRoot h.activity hi hack
        rw [if_neg hfull, if_neg (by simp), hcomplete, hretained]
        with_reducible conv_lhs => whnf
        rw [if_neg (by simp),
          setHostEstablished_toRoot hrole ha (Stage.ackResult_eq_matched hack).2]
        with_reducible conv_lhs => whnf
        rw [publishEstablishedEvent_toRoot (by simpa using hfull) h.events, haccept]
        exact (if_neg hfull).symm

theorem handleHostAck_answers {e : Endpoint} (h : e.Wf s) {frame : Frame}
    (hrole : s.role = .host)
    (hcurrent : e.activity.identifier = some frame.sessionIdentifier)
    (hestablished : e.activity.phase ≠ .established) :
    Answers s e frame HandshakeFrameResult.stale .incompatible
      (s.classifyAck e.activity frame) (Handshake.handleHostAck (e.toRoot s) frame) := by
  have hid : (e.toRoot s).session.sessionIdentifier = frame.sessionIdentifier := by
    simp [Endpoint.toRoot, Endpoint.toSession, hcurrent]
  by_cases hphase : e.activity.phase = .waitingForConfirmAck
  · obtain ⟨id, received, stage, ha⟩ : ∃ id received stage,
        e.activity = .waitingForConfirmAck id received stage := by
      cases ha : e.activity <;> rw [ha] at hphase <;> cases hphase
      exact ⟨_, _, _, rfl⟩
    have hverdict : s.classifyAck e.activity frame =
        .ofAck (stage.ackResult (frame.acknowledgementSequence == s.firstSequence + 1))
          .acceptConfirmAck .reject := by
      rw [ha]
      rfl
    rw [hverdict, handleHostAck_expected h hcurrent ha]
    cases stage.ackResult (frame.acknowledgementSequence == s.firstSequence + 1) with
    | unexpected => rfl
    | blockedByPinnedRetry => exact ⟨rfl, rfl⟩
    | matched =>
        dsimp only [Verdict.ofAck]
        unfold Answers Endpoint.available
        cases e.events.full with
        | true => exact ⟨rfl, rfl⟩
        | false => exact ⟨rfl, by simp, by simp, rfl⟩
  · have hverdict : s.classifyAck e.activity frame = .reject := by
      unfold Setup.classifyAck
      cases ha : e.activity <;> rw [ha] at hphase hestablished hcurrent <;>
        first
          | exact absurd rfl hphase
          | exact absurd rfl hestablished
          | exact if_pos hrole
          | cases hcurrent
    unfold Handshake.handleHostAck
    rw [hverdict, if_neg (by simp [hid]), if_pos (by exact hphase)]
    rfl

end

end HilRigProtocol.Transport
