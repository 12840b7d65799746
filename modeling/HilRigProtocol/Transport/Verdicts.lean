/-
  What a verdict says about the frame and the activity.

  `Explains` spells out, for every verdict that changes the session, which activity
  the endpoint is in and which fields of the frame fit it. `classify_explains` is
  the inversion of `Endpoint.classify`: later proofs use it and never unfold the
  classification.
-/
import HilRigProtocol.Transport.EndpointReceive

namespace HilRigProtocol.Transport

/-! ## Decoded frames -/

section
variable [Target]

/-- A frame that the decoder returns as valid passes the checks. -/
theorem validateFrame_of_decodeFrameView {body : List UInt8} {scratch n : Nat} {status : Status}
    {frame : Frame} (h : decodeFrameView body scratch n = (status, frame, .valid)) :
    validateFrame frame n = .ok ∧ status = .ok := by
  unfold decodeFrameView at h
  by_cases h1 : body = [] ∨ scratch = 0
  · rw [if_pos h1] at h
    cases h
  rw [if_neg h1] at h
  by_cases h2 : n > Target.sizeMax - rawOverhead
  · rw [if_pos h2] at h
    cases h
  rw [if_neg h2] at h
  by_cases h3 : scratch < n + rawOverhead
  · rw [if_pos h3] at h
    cases h
  rw [if_neg h3] at h
  generalize cobsDecode body scratch = decoded at h
  obtain ⟨st, raw⟩ := decoded
  simp only at h
  by_cases h4 : st = .internalError
  · rw [if_pos h4] at h
    cases h
  rw [if_neg h4] at h
  by_cases h5 : st = .bufferTooSmall
  · rw [if_pos h5] at h
    cases h
  rw [if_neg h5] at h
  by_cases h6 : st ≠ .ok
  · rw [if_pos h6] at h
    cases h
  rw [if_neg h6] at h
  by_cases h7 : raw.length < rawOverhead
  · rw [if_pos h7] at h
    cases h
  rw [if_neg h7] at h
  by_cases h8 : readU32LE (raw.drop (raw.length - crcSize))
      ≠ crc32Compute (raw.take (raw.length - crcSize))
  · rw [if_pos h8] at h
    cases h
  rw [if_neg h8] at h
  by_cases h9 : raw.getD 0 0 ≠ protocolVersion
  · rw [if_pos h9] at h
    cases h
  rw [if_neg h9] at h
  by_cases h10 : ¬ frameTypeValid (FrameType.ofByte (raw.getD 1 0)) = true
  · rw [if_pos h10] at h
    cases h
  rw [if_neg h10] at h
  by_cases h11 : validateFrame (candidateFrame raw) n = .messageTooLarge
  · rw [if_pos h11] at h
    cases h
  rw [if_neg h11] at h
  by_cases h12 : validateFrame (candidateFrame raw) n ≠ .ok
  · rw [if_pos h12] at h
    cases h
  rw [if_neg h12] at h
  cases h
  exact ⟨not_not.mp h12, rfl⟩

/-- With a body and room for the largest frame, the decoder's own status is OK, or
    MESSAGE_TOO_LARGE for an application frame over the limit. -/
theorem decodeFrameView_status {body : List UInt8} {scratch n : Nat} (hbody : body ≠ [])
    (hscratch : n + rawOverhead ≤ scratch) (hmax : scratch ≤ Target.sizeMax) :
    (decodeFrameView body scratch n).1 = .ok ∨
      (decodeFrameView body scratch n).1 = .messageTooLarge := by
  have hpos : rawOverhead = 18 := rfl
  unfold decodeFrameView
  rw [if_neg (by simp [hbody]; omega), if_neg (by omega), if_neg (by omega)]
  have hdecode : (cobsDecode body scratch).1 = .ok ∨ (cobsDecode body scratch).1 = .internalError ∨
      (cobsDecode body scratch).1 = .bufferTooSmall := by
    unfold cobsDecode
    rw [if_neg (by simp [hbody]; omega)]
    simp only
    split_ifs <;> simp
  generalize cobsDecode body scratch = decoded at hdecode ⊢
  obtain ⟨st, raw⟩ := decoded
  simp only at hdecode ⊢
  rcases hdecode with rfl | rfl | rfl
  · rw [if_neg (by simp), if_neg (by simp), if_neg (by simp)]
    split_ifs <;> simp
  · simp
  · simp

end

/-! ## The fields of a frame that passes the checks -/

/-- What the checks of a frame say field by field. -/
structure Frame.Wf (maximumApplicationMessageSize : Nat) (frame : Frame) : Prop where
  type_valid : frameTypeValid frame.type = true
  identifier_ne : frame.sessionIdentifier ≠ sessionSeedInvalid
  message : frame.type = .applicationMessage →
    frame.payload ≠ [] ∧ frame.payload.length ≤ maximumApplicationMessageSize ∧
      frame.acknowledgementSequence = 0
  payload_nil : frame.type ≠ .applicationMessage → frame.payload = []
  initiate : frame.type = .initiate → frame.acknowledgementSequence = 0
  ack : frame.type = .ack → frame.sequence = 0
  reset : frame.type = .reset → frame.sequence = 0 ∧ frame.acknowledgementSequence = 0

theorem Frame.wf_of_validateFrame {frame : Frame} {n : Nat} (h : validateFrame frame n = .ok) :
    frame.Wf n := by
  unfold validateFrame at h
  by_cases hid : ¬ frameTypeValid frame.type = true ∨ frame.sessionIdentifier = sessionSeedInvalid
  · rw [if_pos hid] at h
    cases h
  rw [if_neg hid] at h
  simp only [not_or, not_not] at hid
  obtain ⟨htype, hne⟩ := hid
  cases ht : frame.type <;> simp only [ht, reduceCtorEq, if_false, if_true] at h htype
  case invalid => cases htype
  case unlisted raw => cases htype
  all_goals
    split_ifs at h
    constructor <;> simp_all

/-! ## Verdicts -/

theorem Stage.ackResult_eq_matched {stage : Stage} {same : Bool}
    (h : stage.ackResult same = .matched) : same = true ∧ stage.acceptsAck = true := by
  unfold Stage.ackResult at h
  split_ifs at h with h1 h2
  exact ⟨h1, h2⟩

theorem Stage.pinned_of_blocked {stage : Stage} {same : Bool}
    (h : stage.ackResult same = .blockedByPinnedRetry) : stage.pinned = true := by
  unfold Stage.ackResult at h
  split_ifs at h with h1 h2 h3
  cases stage <;> first | rfl | cases h3

theorem sequenceAfter_eq_expected {received sequence : UInt16}
    (h : sequenceAfter received sequence = .expected) : sequence = received + 1 := by
  unfold sequenceAfter at h
  split_ifs at h with h1
  exact h1

theorem sequenceAfter_eq_duplicate {received sequence : UInt16}
    (h : sequenceAfter received sequence = .duplicate) : sequence = received := by
  unfold sequenceAfter at h
  split_ifs at h with h1 h2
  exact h2

section
variable [Target] (s : Setup)

/-- The state of affairs in which a verdict is given. -/
def Explains (e : Endpoint) (frame : Frame) : Verdict → Prop
  | .adopt =>
      e.activity = .waitingForInitiate ∧ frame.type = .initiate ∧
        sessionIdentifierIsValid frame.sessionIdentifier = true ∧
        e.abandoned ≠ some frame.sessionIdentifier
  | .acceptResponse =>
      ∃ stage, e.activity = .waitingForResponse frame.sessionIdentifier stage ∧
        frame.type = .response ∧ stage.acceptsAck = true ∧
        frame.acknowledgementSequence = s.firstSequence
  | .acceptConfirm =>
      ∃ received stage,
        e.activity = .waitingForConfirm frame.sessionIdentifier received stage ∧
        frame.type = .confirm ∧ frame.sequence = received + 1 ∧ stage.acceptsAck = true ∧
        frame.acknowledgementSequence = s.firstSequence
  | .acceptConfirmAck =>
      ∃ received stage,
        e.activity = .waitingForConfirmAck frame.sessionIdentifier received stage ∧
        frame.type = .ack ∧ stage.acceptsAck = true ∧
        frame.acknowledgementSequence = s.firstSequence + 1
  | .prove =>
      ∃ received stage,
        e.activity = .waitingForConfirmAck frame.sessionIdentifier received stage ∧
        frame.type = .applicationMessage ∧ frame.sequence = received + 1 ∧
        stage.acceptsAck = true
  | .acceptDelivery =>
      ∃ x payload stage, e.activity = .established frame.sessionIdentifier x ∧
        frame.type = .ack ∧ x.outgoing = some (payload, stage) ∧ stage.acceptsAck = true ∧
        frame.acknowledgementSequence = x.nextTransmit
  | .acceptMessage =>
      ∃ x, e.activity = .established frame.sessionIdentifier x ∧
        frame.type = .applicationMessage ∧ frame.sequence = x.lastReceived + 1
  | .repeatAck =>
      ∃ x, e.activity = .established frame.sessionIdentifier x ∧
        frame.sequence = x.lastReceived ∧
        (frame.type = .confirm ∧ s.role = .rig ∧ x.messageReceived = false ∨
          frame.type = .applicationMessage ∧ x.messageReceived = true)
  | .repeatWork =>
      (∃ received, (e.activity = .responsePending frame.sessionIdentifier received ∨
          ∃ stage, e.activity = .waitingForConfirm frame.sessionIdentifier received stage) ∧
        frame.type = .initiate ∧ frame.sequence = received) ∨
      (∃ received, (e.activity = .confirmPending frame.sessionIdentifier received ∨
          ∃ stage, e.activity = .waitingForConfirmAck frame.sessionIdentifier received stage) ∧
        frame.type = .response ∧ frame.sequence = received)
  | .acceptReset =>
      e.activity.identifier = some frame.sessionIdentifier ∧ frame.type = .reset
  | .duplicate =>
      ∃ x, e.activity = .established frame.sessionIdentifier x ∧ frame.type = .ack ∧
        x.outgoing = none ∧ s.role = .host
  | .blocked => ∃ item, s.item e.activity = some item ∧ item.stage.pinned = true
  | _ => True

variable {s}

/-- The verdict on an acknowledgement is explained when its outcomes are. -/
theorem explains_ofAck {e : Endpoint} {frame : Frame} {stage : Stage} {same : Bool}
    {matched unexpected : Verdict}
    (hitem : ∃ item, s.item e.activity = some item ∧ item.stage = stage)
    (hmatched : same = true → stage.acceptsAck = true → Explains s e frame matched)
    (hunexpected : Explains s e frame unexpected) :
    Explains s e frame (.ofAck (stage.ackResult same) matched unexpected) := by
  cases hr : stage.ackResult same with
  | unexpected => exact hunexpected
  | matched =>
      obtain ⟨h1, h2⟩ := Stage.ackResult_eq_matched hr
      exact hmatched h1 h2
  | blockedByPinnedRetry =>
      obtain ⟨item, hi, rfl⟩ := hitem
      exact ⟨item, hi, Stage.pinned_of_blocked hr⟩

/-- A verdict in order is explained when its two accepting outcomes are. -/
theorem explains_inOrder {e : Endpoint} {frame : Frame} {expected again : Verdict}
    (hexpected : s.sequenceResult e.activity frame.sequence = .expected →
      Explains s e frame expected)
    (hagain : s.sequenceResult e.activity frame.sequence = .duplicate →
      s.isExactDuplicate e.activity frame = true → Explains s e frame again) :
    Explains s e frame (s.inOrder e.activity frame expected again) := by
  unfold Setup.inOrder
  cases hr : s.sequenceResult e.activity frame.sequence with
  | expected => exact hexpected hr
  | duplicate =>
      simp only
      split_ifs with hd
      · exact hagain hr hd
      · trivial
  | _ => trivial

theorem explains_classifyInitiate {e : Endpoint} {frame : Frame} (htype : frame.type = .initiate)
    (hid : sessionIdentifierIsValid frame.sessionIdentifier = true)
    (habandoned : ¬ (e.abandoned = some frame.sessionIdentifier ∧
      e.activity.identifier ≠ some frame.sessionIdentifier))
    (hcurrent : e.activity.identifier = none ∨
      e.activity.identifier = some frame.sessionIdentifier) :
    Explains s e frame (s.classifyInitiate e.activity frame) := by
  unfold Setup.classifyInitiate
  apply explains_inOrder
  · intro hexpected
    cases ha : e.activity with
    | waitingForInitiate =>
        refine ⟨ha, htype, hid, fun heq => habandoned ⟨heq, ?_⟩⟩
        rw [ha]
        simp [Activity.identifier]
    | _ => trivial
  · intro hduplicate hexact
    cases ha : e.activity with
    | responsePending id received =>
        rw [ha] at hduplicate hcurrent
        obtain rfl : id = frame.sessionIdentifier := by simpa [Activity.identifier] using hcurrent
        exact Or.inl ⟨received, Or.inl ha, htype, sequenceAfter_eq_duplicate hduplicate⟩
    | waitingForConfirm id received stage =>
        rw [ha] at hduplicate hcurrent
        obtain rfl : id = frame.sessionIdentifier := by simpa [Activity.identifier] using hcurrent
        exact Or.inl ⟨received, Or.inr ⟨stage, ha⟩, htype, sequenceAfter_eq_duplicate hduplicate⟩
    | _ => trivial

theorem explains_classifyResponse {e : Endpoint} {frame : Frame} (htype : frame.type = .response)
    (hcurrent : e.activity.identifier = some frame.sessionIdentifier) :
    Explains s e frame (s.classifyResponse e.activity frame) := by
  unfold Setup.classifyResponse
  apply explains_inOrder
  · intro hexpected
    cases ha : e.activity with
    | waitingForResponse id stage =>
        rw [ha] at hcurrent
        obtain rfl : id = frame.sessionIdentifier := by simpa [Activity.identifier] using hcurrent
        apply explains_ofAck
        · exact ⟨_, by rw [ha]; rfl, rfl⟩
        · intro hsame haccepts
          exact ⟨stage, ha, htype, haccepts, by simpa using hsame⟩
        · trivial
    | _ => trivial
  · intro hduplicate hexact
    cases ha : e.activity with
    | confirmPending id received =>
        rw [ha] at hduplicate hcurrent
        obtain rfl : id = frame.sessionIdentifier := by simpa [Activity.identifier] using hcurrent
        exact Or.inr ⟨received, Or.inl ha, htype, sequenceAfter_eq_duplicate hduplicate⟩
    | waitingForConfirmAck id received stage =>
        rw [ha] at hduplicate hcurrent
        obtain rfl : id = frame.sessionIdentifier := by simpa [Activity.identifier] using hcurrent
        exact Or.inr ⟨received, Or.inr ⟨stage, ha⟩, htype, sequenceAfter_eq_duplicate hduplicate⟩
    | _ => trivial

theorem explains_classifyConfirm {e : Endpoint} {frame : Frame} (htype : frame.type = .confirm)
    (hrole : s.role = .rig)
    (hcurrent : e.activity.identifier = some frame.sessionIdentifier) :
    Explains s e frame (s.classifyConfirm e.activity frame) := by
  unfold Setup.classifyConfirm
  apply explains_inOrder
  · intro hexpected
    cases ha : e.activity with
    | waitingForConfirm id received stage =>
        rw [ha] at hcurrent hexpected
        obtain rfl : id = frame.sessionIdentifier := by simpa [Activity.identifier] using hcurrent
        apply explains_ofAck
        · exact ⟨_, by rw [ha]; rfl, rfl⟩
        · intro hsame haccepts
          exact ⟨received, stage, ha, htype, sequenceAfter_eq_expected hexpected, haccepts,
            by simpa using hsame⟩
        · trivial
    | _ => trivial
  · intro hduplicate hexact
    cases ha : e.activity with
    | established id x =>
        rw [ha] at hduplicate hexact hcurrent
        obtain rfl : id = frame.sessionIdentifier := by simpa [Activity.identifier] using hcurrent
        refine ⟨x, ha, ?_, Or.inl ⟨htype, hrole, ?_⟩⟩
        · unfold Setup.sequenceResult Setup.accepted at hduplicate
          cases hm : x.messageReceived <;>
            simp only [hm, if_true, Bool.false_eq_true, if_false] at hduplicate <;>
            exact sequenceAfter_eq_duplicate hduplicate
        · cases hm : x.messageReceived with
          | false => rfl
          | true => simp [Setup.isExactDuplicate, Setup.accepted, hm, htype] at hexact
    | _ => trivial

theorem explains_classifyAck {e : Endpoint} {frame : Frame} (htype : frame.type = .ack)
    (hcurrent : e.activity.identifier = none ∨
      e.activity.identifier = some frame.sessionIdentifier) :
    Explains s e frame (s.classifyAck e.activity frame) := by
  unfold Setup.classifyAck
  cases ha : e.activity with
  | established id x =>
      rw [ha] at hcurrent
      obtain rfl : id = frame.sessionIdentifier := by simpa [Activity.identifier] using hcurrent
      cases ho : x.outgoing with
      | none =>
          simp only [ho]
          split_ifs with hd
          · exact ⟨x, ha, htype, ho, hd.1⟩
          · trivial
      | some outgoing =>
          obtain ⟨payload, stage⟩ := outgoing
          simp only [ho]
          apply explains_ofAck
          · exact ⟨_, by rw [ha]; exact congrArg (Option.map _) ho, rfl⟩
          · intro hsame haccepts
            exact ⟨x, payload, stage, ha, htype, ho, haccepts, by simpa using hsame⟩
          · trivial
  | waitingForConfirmAck id received stage =>
      rw [ha] at hcurrent
      obtain rfl : id = frame.sessionIdentifier := by simpa [Activity.identifier] using hcurrent
      apply explains_ofAck
      · exact ⟨_, by rw [ha]; rfl, rfl⟩
      · intro hsame haccepts
        exact ⟨received, stage, ha, htype, haccepts, by simpa using hsame⟩
      · trivial
  | recovering reset => trivial
  | _ =>
      simp only
      split_ifs <;> trivial

theorem explains_classifyMessage {e : Endpoint} {frame : Frame}
    (htype : frame.type = .applicationMessage)
    (hcurrent : e.activity.identifier = none ∨
      e.activity.identifier = some frame.sessionIdentifier) :
    Explains s e frame (e.activity.classifyMessage frame) := by
  unfold Activity.classifyMessage
  cases ha : e.activity with
  | established id x =>
      rw [ha] at hcurrent
      obtain rfl : id = frame.sessionIdentifier := by simpa [Activity.identifier] using hcurrent
      simp only
      cases hr : sequenceAfter x.lastReceived frame.sequence with
      | expected => exact ⟨x, ha, htype, sequenceAfter_eq_expected hr⟩
      | duplicate =>
          simp only
          split_ifs with hm
          · exact ⟨x, ha, sequenceAfter_eq_duplicate hr, Or.inr ⟨htype, hm⟩⟩
          · trivial
      | _ => trivial
  | waitingForConfirmAck id received stage =>
      rw [ha] at hcurrent
      obtain rfl : id = frame.sessionIdentifier := by simpa [Activity.identifier] using hcurrent
      simp only
      split_ifs with h1 h2 h3
      · trivial
      · exact ⟨_, by rw [ha]; rfl, h2⟩
      · exact ⟨received, stage, ha, htype, sequenceAfter_eq_expected (not_not.mp h1), h3⟩
      · trivial
  | _ => trivial

/-- The verdict on a frame is given in the state of affairs it stands for. -/
theorem classify_explains {e : Endpoint} {frame : Frame} :
    Explains s e frame (e.classify s frame) := by
  unfold Endpoint.classify
  split_ifs with h1 h2 h3
  · trivial
  · trivial
  · trivial
  have hcurrent : e.activity.identifier = none ∨
      e.activity.identifier = some frame.sessionIdentifier := by
    cases hid : e.activity.identifier with
    | none => exact Or.inl rfl
    | some id =>
        rw [hid] at h3
        exact Or.inr (by simpa using h3)
  have hbound : e.activity.identifier.isSome = true →
      e.activity.identifier = some frame.sessionIdentifier := by
    intro hsome
    rcases hcurrent with hn | hs
    · rw [hn] at hsome
      cases hsome
    · exact hs
  unfold Endpoint.classifyByType
  cases htype : frame.type with
  | initiate =>
      simp only
      split_ifs with h4
      · exact explains_classifyInitiate htype h4.2 h1 hcurrent
      · trivial
  | response =>
      simp only
      split_ifs with h4
      · exact explains_classifyResponse htype (hbound h4.2)
      · trivial
  | confirm =>
      simp only
      split_ifs with h4
      · exact explains_classifyConfirm htype h4.1 (hbound h4.2)
      · trivial
  | reset =>
      simp only
      split_ifs with h4 h5
      · exact ⟨hbound h5, htype⟩
      · trivial
      · trivial
  | ack => exact explains_classifyAck htype hcurrent
  | applicationMessage => exact explains_classifyMessage htype hcurrent
  | _ => trivial

/-- The verdict on a body is on the valid frame in it, or rejects the body, or the
    session for its protocol version. -/
theorem classifyBody_cases (e : Endpoint) (body : List UInt8) :
    (∃ frame, frame.Wf s.config.maxApplicationMessageSize ∧
        decodeFrameView body (s.config.maxApplicationMessageSize + rawOverhead)
          s.config.maxApplicationMessageSize = (.ok, frame, .valid) ∧
        e.classifyBody s body = (e.classify s frame, frame)) ∨
      (e.classifyBody s body).1 = .reject ∨
      ((e.classifyBody s body).1 = .incompatible ∧ e.activity.identifier.isSome = true) := by
  unfold Endpoint.classifyBody
  cases hdecode : decodeFrameView body (s.config.maxApplicationMessageSize + rawOverhead)
    s.config.maxApplicationMessageSize with
  | mk status rest =>
      obtain ⟨frame, result⟩ := rest
      simp only
      by_cases hlarge : status = .messageTooLarge
      · rw [if_pos hlarge]
        exact Or.inr (Or.inl rfl)
      · rw [if_neg hlarge]
        cases result with
        | valid =>
            obtain ⟨hvalid, hok⟩ := validateFrame_of_decodeFrameView hdecode
            exact Or.inl ⟨frame, Frame.wf_of_validateFrame hvalid, by rw [hok], rfl⟩
        | sessionIncompatible =>
            cases hid : e.activity.identifier with
            | none => exact Or.inr (Or.inl rfl)
            | some id => exact Or.inr (Or.inr ⟨rfl, rfl⟩)
        | _ => exact Or.inr (Or.inl rfl)

/-- What holds of the verdict on a body. -/
theorem classifyBody_explains (e : Endpoint) (body : List UInt8) :
    Explains s e (e.classifyBody s body).2 (e.classifyBody s body).1 := by
  rcases classifyBody_cases e body with ⟨frame, _, _, heq⟩ | hreject | ⟨hincompatible, _⟩
  · rw [heq]
    exact classify_explains
  · rw [hreject]
    trivial
  · rw [hincompatible]
    trivial

end

end HilRigProtocol.Transport
