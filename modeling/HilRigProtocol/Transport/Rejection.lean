/-
  The bodies that are rejected.

  A body is refused where it does not decode to a valid frame, where the frame is
  obsolete or of another session, and where its handler finds it late or impossible and
  leaves it to the dispatcher. The dispatcher drops the body, or gives the session up for
  it. On a well-formed endpoint these are the bodies with one of three verdicts.
-/
import HilRigProtocol.Transport.Moves

namespace HilRigProtocol.Transport

/-- What the dispatcher does with a body that no handler takes:
    `Receive_Reject_Retained_Body`, `Receive_Reject_Obsolete_Body` or
    `Receive_Abandon_Incompatible_Session`. -/
inductive Refusal
  | retained
  | obsolete
  | incompatible
  deriving DecidableEq, Repr

namespace Verdict

def refusal : Verdict → Option Refusal
  | reject => some .retained
  | obsolete => some .obsolete
  | incompatible => some .incompatible
  | _ => none

/-- The verdict drops the body with a diagnostic. -/
def rejects : Verdict → Bool
  | reject | obsolete | incompatible => true
  | _ => false

theorem isSome_refusal (verdict : Verdict) : verdict.refusal.isSome = verdict.rejects := by
  cases verdict <;> rfl

theorem refusal_incompatible {verdict : Verdict} :
    verdict.refusal = some .incompatible ↔ verdict = .incompatible := by
  cases verdict <;> simp [refusal]

end Verdict

section
variable [Target]

namespace Receive

/-- The handler answers `STALE` or `INCOMPATIBLE`. -/
def answerRefusal {α : Type} [DecidableEq α] (stale incompatible : α)
    (answer : Status × α × Root) : Option Refusal :=
  if answer.1 ≠ .ok then none
  else if answer.2.1 = stale then some .retained
  else if answer.2.1 = incompatible then some .incompatible
  else none

def handshakeFrameRefusal (root : Root) (frame : Frame) : Option Refusal :=
  answerRefusal .stale .incompatible (Handshake.handleFrame root frame)

def acknowledgementRefusal (root : Root) (frame : Frame) : Option Refusal :=
  if root.session.retainedReliableFrameType = .applicationMessage then
    answerRefusal .stale .incompatible (Application.handleAcknowledgement root frame)
  else if root.base.sessionState = .established ∧ root.session.state = .established then
    if Handshake.isDuplicateFinalHostAcknowledgement root frame then none else some .retained
  else handshakeFrameRefusal root frame

def applicationFrameRefusal (root : Root) (frame : Frame) : Option Refusal :=
  let proof := Handshake.tryCompleteHostFromApplication root frame
  match answerRefusal .stale .incompatible proof with
  | some refusal => some refusal
  | none =>
      if proof.1 = .ok then
        answerRefusal .stale .incompatible (Application.handleReceivedFrame proof.2.2 frame)
      else none

/-- What becomes of a valid frame that is obsolete, of another session, late, or
    impossible. -/
def frameRefusal (root : Root) (frame : Frame) : Option Refusal :=
  if frameIsRecentlyAbandoned root frame then some .obsolete
  else if rigIsWaitingUnboundForInitiate root ∧ frame.type ≠ .initiate then some .obsolete
  else if frameHasIncompatibleSessionIdentifier root frame then some .incompatible
  else
    match frame.type with
    | .ack => acknowledgementRefusal root frame
    | .applicationMessage => applicationFrameRefusal root frame
    | _ => handshakeFrameRefusal root frame

/-- What becomes of a body that is malformed or has a wrong checksum or version, or whose
    frame is refused. -/
def bodyRefusal (root : Root) (body : List UInt8) : Option Refusal :=
  match decodeFrameView body root.codecScratchSize root.base.config.maxApplicationMessageSize with
  | (.ok, frame, .valid) => frameRefusal root frame
  | (.ok, _, .sessionIncompatible) =>
      if root.session.sessionIdentifierValid ≠ 0 then some .incompatible else some .retained
  | _ => some .retained

/-- The body is dropped with a diagnostic. -/
def bodyIsRejected (root : Root) (body : List UInt8) : Bool := (bodyRefusal root body).isSome

/-- The call resolves a body that the session cannot go on after. -/
def offersIncompatible (root : Root) (call : Call) : Prop :=
  ∃ body, offered root call = some body ∧ bodyRefusal root body = some .incompatible

end Receive

/-! ## Refusal by verdict -/

variable {s : Setup}

theorem answerRefusal_answers {e : Endpoint} {frame : Frame} {α : Type} [DecidableEq α]
    {stale incompatible : α} (hne : stale ≠ incompatible) {verdict : Verdict}
    {answer : Status × α × Root} (h : Answers s e frame stale incompatible verdict answer) :
    Receive.answerRefusal stale incompatible answer = verdict.refusal := by
  obtain ⟨status, result, root⟩ := answer
  have hother : ∀ verdict : Verdict,
      (if e.available verdict then
          status = .ok ∧ result ≠ stale ∧ result ≠ incompatible ∧
            root = (e.accept s frame verdict).toRoot s
        else status = .capacityExhausted ∧ root = e.toRoot s) →
      Receive.answerRefusal stale incompatible (status, result, root) = none := by
    intro verdict hanswer
    unfold Receive.answerRefusal
    split_ifs at hanswer
    · obtain ⟨rfl, hstale, hincompatible, _⟩ := hanswer
      simp [hstale, hincompatible]
    · obtain ⟨rfl, _⟩ := hanswer
      rfl
  cases verdict with
  | reject =>
      cases h
      simp [Receive.answerRefusal, Verdict.refusal]
  | incompatible =>
      cases h
      simp [Receive.answerRefusal, Verdict.refusal, hne.symm]
  | obsolete | acceptReset => exact h.elim
  | _ =>
      unfold Answers at h
      exact hother _ h

theorem handshakeFrameRefusal_toRoot {e : Endpoint} (h : e.Wf s)
    (hlink : e.activity.linkState = .connected) {frame : Frame}
    (hframe : frame.Wf s.config.maxApplicationMessageSize)
    (hcurrent : e.activity.identifier = none ∨
      e.activity.identifier = some frame.sessionIdentifier)
    (htype : frame.type = .initiate ∨ frame.type = .response ∨ frame.type = .confirm ∨
      frame.type = .ack ∧ e.activity.phase ≠ .established) :
    Receive.handshakeFrameRefusal (e.toRoot s) frame = (e.classifyByType s frame).refusal :=
  answerRefusal_answers (by simp) (handleFrame_answers h hlink hframe hcurrent htype)

theorem resetRefusal_toRoot {e : Endpoint} (h : e.Wf s)
    (hlink : e.activity.linkState = .connected) {frame : Frame}
    (hframe : frame.Wf s.config.maxApplicationMessageSize)
    (hcurrent : e.activity.identifier = none ∨
      e.activity.identifier = some frame.sessionIdentifier)
    (htype : frame.type = .reset) :
    Receive.handshakeFrameRefusal (e.toRoot s) frame = (e.classifyByType s frame).refusal := by
  unfold Receive.handshakeFrameRefusal
  rw [handleFrame_reset h hlink hframe hcurrent htype, classifyByType_reset e htype]
  by_cases hvalid : sessionIdentifierIsValid frame.sessionIdentifier = true
  · rw [if_neg (not_not.mpr hvalid), if_neg (not_not.mpr hvalid)]
    by_cases hbound : e.activity.identifier.isSome = true
    · rw [if_pos hbound, if_pos hbound]
      unfold Receive.answerRefusal
      split_ifs <;> first | rfl | contradiction
    · rw [if_neg hbound, if_neg hbound]
      rfl
  · rw [if_pos hvalid, if_pos hvalid]
    rfl

theorem acknowledgementRefusal_toRoot {e : Endpoint} (h : e.Wf s)
    (hlink : e.activity.linkState = .connected) {frame : Frame}
    (hframe : frame.Wf s.config.maxApplicationMessageSize)
    (hcurrent : e.activity.identifier = none ∨
      e.activity.identifier = some frame.sessionIdentifier)
    (htype : frame.type = .ack) :
    Receive.acknowledgementRefusal (e.toRoot s) frame = (e.classifyByType s frame).refusal := by
  unfold Receive.acknowledgementRefusal
  cases @acknowledged_cases _ s _ _ hcurrent htype with
  | message ha hout hretained hclassify =>
      rw [if_pos hretained, hclassify]
      exact answerRefusal_answers (by simp) (handleAcknowledgement_answers h ha hout htype)
  | final ha hretained hstates hclassify =>
      rw [if_neg hretained, if_pos hstates, isDuplicateFinal_toRoot h ha htype, hclassify]
      by_cases hfinal : s.role = .host ∧ frame.acknowledgementSequence = s.firstSequence + 1
      · rw [if_pos (by simpa using hfinal), if_pos hfinal]
        rfl
      · rw [if_neg (by simpa using hfinal), if_neg hfinal]
        rfl
  | handshake hretained hstates hphase =>
      rw [if_neg hretained, if_neg hstates]
      exact handshakeFrameRefusal_toRoot h hlink hframe hcurrent
        (Or.inr (Or.inr (Or.inr ⟨htype, hphase⟩)))

theorem applicationFrameRefusal_eq (root : Root) (frame : Frame) :
    Receive.applicationFrameRefusal root frame =
      Receive.answerRefusal .stale .incompatible (messageAnswer root frame) := by
  unfold Receive.applicationFrameRefusal messageAnswer
  cases Handshake.tryCompleteHostFromApplication root frame with
  | mk status rest =>
    obtain ⟨proof, next⟩ := rest
    by_cases hok : status = .ok
    · subst hok
      cases proof with
      | stale | incompatible => rfl
      | notApplicable | accepted =>
          dsimp only [Receive.answerRefusal]
          simp
    · unfold Receive.answerRefusal
      dsimp only
      rw [if_pos hok, if_pos hok, if_pos hok, if_neg hok]

theorem applicationFrameRefusal_toRoot {e : Endpoint} (h : e.Wf s) {frame : Frame}
    (hframe : frame.Wf s.config.maxApplicationMessageSize)
    (hcurrent : e.activity.identifier = none ∨
      e.activity.identifier = some frame.sessionIdentifier)
    (htype : frame.type = .applicationMessage) :
    Receive.applicationFrameRefusal (e.toRoot s) frame = (e.classifyByType s frame).refusal := by
  rw [applicationFrameRefusal_eq]
  exact answerRefusal_answers (by simp) (messageAnswer_answers h hframe hcurrent htype)

theorem frameRefusal_toRoot {e : Endpoint} (h : e.Wf s)
    (hlink : e.activity.linkState = .connected) {frame : Frame}
    (hframe : frame.Wf s.config.maxApplicationMessageSize) :
    Receive.frameRefusal (e.toRoot s) frame = (e.classify s frame).refusal := by
  have habandoned := @frameIsRecentlyAbandoned_toRoot _ s e frame
  have hunbound := rigIsWaitingUnboundForInitiate_toRoot h.activity
  have hother := @frameHasIncompatibleSessionIdentifier_toRoot _ s e frame
  unfold Receive.frameRefusal Endpoint.classify
  by_cases hobsolete : e.abandoned = some frame.sessionIdentifier ∧
      e.activity.identifier ≠ some frame.sessionIdentifier
  · rw [if_pos (habandoned.mpr hobsolete), if_pos hobsolete]
    rfl
  rw [if_neg (fun hroot => hobsolete (habandoned.mp hroot)), if_neg hobsolete]
  by_cases hwaiting : e.activity = .waitingForInitiate ∧ frame.type ≠ .initiate
  · rw [if_pos ⟨hunbound.mpr hwaiting.1, hwaiting.2⟩, if_pos hwaiting]
    rfl
  rw [if_neg (fun hroot => hwaiting ⟨hunbound.mp hroot.1, hroot.2⟩), if_neg hwaiting]
  by_cases hforeign : e.activity.identifier.isSome = true ∧
      e.activity.identifier ≠ some frame.sessionIdentifier
  · rw [if_pos (hother.mpr hforeign), if_pos hforeign]
    rfl
  rw [if_neg (fun hroot => hforeign (hother.mp hroot)), if_neg hforeign]
  have hcurrent := current_of_not_foreign hforeign
  have hvalid := hframe.type_valid
  cases htype : frame.type with
  | initiate => exact handshakeFrameRefusal_toRoot h hlink hframe hcurrent (Or.inl htype)
  | response =>
      exact handshakeFrameRefusal_toRoot h hlink hframe hcurrent (Or.inr (Or.inl htype))
  | confirm =>
      exact handshakeFrameRefusal_toRoot h hlink hframe hcurrent
        (Or.inr (Or.inr (Or.inl htype)))
  | reset => exact resetRefusal_toRoot h hlink hframe hcurrent htype
  | ack => exact acknowledgementRefusal_toRoot h hlink hframe hcurrent htype
  | applicationMessage => exact applicationFrameRefusal_toRoot h hframe hcurrent htype
  | invalid =>
      rw [htype] at hvalid
      cases hvalid
  | unlisted raw =>
      rw [htype] at hvalid
      cases hvalid

/-- A body is refused as its verdict says. -/
theorem bodyRefusal_toRoot {e : Endpoint} (h : e.Wf s)
    (hlink : e.activity.linkState = .connected) {body : List UInt8} (hbody : body ≠ []) :
    Receive.bodyRefusal (e.toRoot s) body = (e.classifyBody s body).1.refusal := by
  have hdecode : decodeFrameView body (e.toRoot s).codecScratchSize
      (e.toRoot s).base.config.maxApplicationMessageSize =
    decodeFrameView body (s.config.maxApplicationMessageSize + rawOverhead)
      s.config.maxApplicationMessageSize := rfl
  have hstatus := decodeFrameView_status hbody (Nat.le_refl _) s.rawSize_le
  unfold Receive.bodyRefusal Endpoint.classifyBody
  rw [hdecode]
  cases hview : decodeFrameView body (s.config.maxApplicationMessageSize + rawOverhead)
    s.config.maxApplicationMessageSize with
  | mk status decoded =>
    obtain ⟨frame, result⟩ := decoded
    rw [hview] at hstatus
    rcases hstatus with hok | hlarge
    · dsimp only at hok
      subst hok
      cases result with
      | valid =>
          obtain ⟨hvalidated, _⟩ := validateFrame_of_decodeFrameView hview
          exact frameRefusal_toRoot h hlink (Frame.wf_of_validateFrame hvalidated)
      | malformed | integrityInvalid => rfl
      | sessionIncompatible =>
          show (if (e.toRoot s).session.sessionIdentifierValid ≠ 0 then _ else _) = _
          cases hid : e.activity.identifier with
          | none => rw [if_neg (by simp [Endpoint.toRoot, Endpoint.toSession, hid])]; rfl
          | some id => rw [if_pos (by simp [Endpoint.toRoot, Endpoint.toSession, hid])]; rfl
    · dsimp only at hlarge
      subst hlarge
      rfl

theorem bodyIsRejected_toRoot {e : Endpoint} (h : e.Wf s)
    (hlink : e.activity.linkState = .connected) {body : List UInt8} (hbody : body ≠ []) :
    Receive.bodyIsRejected (e.toRoot s) body = (e.classifyBody s body).1.rejects := by
  unfold Receive.bodyIsRejected
  rw [bodyRefusal_toRoot h hlink hbody, Verdict.isSome_refusal]

theorem offersIncompatible_toRoot {e : Endpoint} (h : e.Wf s) {call : Call} :
    Receive.offersIncompatible (e.toRoot s) call ↔
      ∃ body, e.offered call = some body ∧ (e.classifyBody s body).1 = .incompatible := by
  have hrefusal : ∀ body, e.offered call = some body →
      (Receive.bodyRefusal (e.toRoot s) body = some .incompatible ↔
        (e.classifyBody s body).1 = .incompatible) := by
    intro body hbody
    rw [bodyRefusal_toRoot h (Endpoint.offered_connected h hbody)
      (Endpoint.offered_ne_nil h hbody), Verdict.refusal_incompatible]
  unfold Receive.offersIncompatible
  rw [Endpoint.offered_toRoot]
  constructor
  · rintro ⟨body, hbody, hrefused⟩
    exact ⟨body, hbody, (hrefusal body hbody).mp hrefused⟩
  · rintro ⟨body, hbody, hclass⟩
    exact ⟨body, hbody, (hrefusal body hbody).mpr hclass⟩

end

end HilRigProtocol.Transport
