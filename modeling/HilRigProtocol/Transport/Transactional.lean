/-
  Transactional reception: a body that finds no place changes nothing, and keeps its
  meaning until it does.

  `intent` is the verdict on a body apart from a pinned output that blocks it. Reading
  an event or a message and committing an output leave it as it is, with one
  exception: the commit of an item that the body acknowledges too early.
-/
import HilRigProtocol.Transport.Chunking

namespace HilRigProtocol.Transport

/-- The calls that free a place and do nothing else. -/
def Call.frees : Call → Bool
  | .readEvent | .readApplicationData _ | .commitOutput _ => true
  | _ => false

/-- The verdict, or what it waits to become. -/
def Verdict.unblocked (verdict waiting : Verdict) : Verdict :=
  if verdict = .blocked then waiting else verdict

theorem Verdict.unblocked_of_ne {verdict : Verdict} (h : verdict ≠ .blocked) (waiting : Verdict) :
    verdict.unblocked waiting = verdict := if_neg h

theorem Verdict.unblocked_unblocked {waiting : Verdict} (h : waiting ≠ .blocked)
    (verdict : Verdict) : (verdict.unblocked waiting).unblocked waiting =
      verdict.unblocked waiting := by
  by_cases hb : verdict = .blocked
  · rw [hb]
    exact Verdict.unblocked_of_ne h waiting
  · rw [Verdict.unblocked_of_ne hb, Verdict.unblocked_of_ne hb]

/-- What an acknowledgement does that waits for a pinned retry to be committed. -/
def Activity.awaitedAck : Activity → Verdict
  | .established _ _ => .acceptDelivery
  | _ => .acceptConfirmAck

namespace Endpoint

section
variable [Target] (s : Setup)

/-- What a frame does that waits for a pinned output to be committed. -/
def awaited (e : Endpoint) (frame : Frame) : Verdict :=
  match frame.type with
  | .response => .acceptResponse
  | .confirm => .acceptConfirm
  | .applicationMessage => .prove
  | _ => e.activity.awaitedAck

/-- The verdict on a body, apart from a pinned output. -/
def intent (e : Endpoint) (body : List UInt8) : Verdict :=
  let classified := e.classifyBody s body
  classified.1.unblocked (e.awaited classified.2)

/-- The frame acknowledges an item that the caller has been shown for the first time
    and has not committed. -/
def AcknowledgesPeeked (e : Endpoint) (frame : Frame) : Prop :=
  frame.type = .ack ∧ e.activity.identifier = some frame.sessionIdentifier ∧
    ∃ item, s.item e.activity = some item ∧ item.stage = .peeked ∧
      frame.acknowledgementSequence = item.frame.sequence

/-- The body holds such a frame. -/
def acknowledgesUncommitted (e : Endpoint) (body : List UInt8) : Prop :=
  ∃ status frame,
    decodeFrameView body (s.config.maxApplicationMessageSize + rawOverhead)
        s.config.maxApplicationMessageSize = (status, frame, .valid) ∧
      e.AcknowledgesPeeked s frame

end

section
variable [Target] {s : Setup}

/-! ## A failed attempt -/

theorem intake_resolve (e : Endpoint) (frame : Frame) (verdict : Verdict) :
    (e.resolve s frame verdict).2.intake = .filling [] := by
  cases verdict with
  | incompatible =>
      show e.rejectSession.2.intake = .filling []
      by_cases hp : ∃ reset, e.activity = .recovering (some reset)
      · obtain ⟨reset, hr⟩ := hp
        rw [rejectSession_pending hr]
        rfl
      · rw [rejectSession_recover (not_exists.mp hp)]
        exact (beginLocalRecovery_fields _ _).2.1
  | acceptReset =>
      show ((e.abandon (.recovering none) .protocol).2.beginEstablishment s).intake = .filling []
      obtain ⟨_, hi, _⟩ := abandon_fields e (.recovering none) .protocol
      unfold beginEstablishment
      split_ifs <;> exact hi
  | _ => rfl

/-- An attempt resolves the body, or leaves everything as it is. -/
theorem processBody_cases (e : Endpoint) (body : List UInt8) :
    (e.available (e.classifyBody s body).1 = false ∧
        e.processBody s body = (.capacityExhausted, e)) ∨
      (e.available (e.classifyBody s body).1 = true ∧
        e.processBody s body = e.resolve s (e.classifyBody s body).2 (e.classifyBody s body).1 ∧
        (e.processBody s body).2.intake = .filling []) := by
  unfold processBody attempt
  dsimp only
  cases havailable : e.available (e.classifyBody s body).1 with
  | true =>
      rw [if_pos rfl]
      exact Or.inr ⟨rfl, rfl, intake_resolve _ _ _⟩
  | false =>
      rw [if_neg (by simp)]
      exact Or.inl ⟨rfl, rfl⟩

/-! ## What a commit does to a verdict -/

omit [Target] in
/-- The commit of a pinned retry lets its acknowledgement through; only the commit of
    an item that was never sent makes an acknowledgement expected. -/
theorem ofAck_commit {stage : Stage} (hpinned : stage.pinned = true) (nowMs : UInt32)
    (same : Bool) (matched : Verdict) {unexpected : Verdict} (hne : unexpected ≠ .blocked) :
    (stage = .peeked ∧ same = true) ∨
      Verdict.ofAck ((Stage.commit nowMs stage).ackResult same) matched unexpected =
        (Verdict.ofAck (stage.ackResult same) matched unexpected).unblocked matched := by
  have hkeep := Verdict.unblocked_of_ne hne matched
  cases stage with
  | peeked =>
      cases same with
      | true => exact Or.inl ⟨rfl, rfl⟩
      | false => exact Or.inr hkeep.symm
  | retransmitPeeked retries ms =>
      cases same with
      | true => exact Or.inr rfl
      | false => exact Or.inr hkeep.symm
  | _ => cases hpinned

/-- The endpoint after the reliable item is committed. -/
def commitItem (e : Endpoint) (nowMs : UInt32) : Endpoint :=
  { e with activity := e.activity.mapStage (Stage.commit nowMs) }

/-- `verdict'` is `verdict` with a pinned output committed, unless `verdict` gives the
    session up. -/
def Unblocks (verdict verdict' waiting : Verdict) : Prop :=
  verdict = .incompatible ∨ verdict' = verdict.unblocked waiting

omit [Target] in
theorem unblocks_refl {verdict : Verdict} (h : verdict ≠ .blocked) (waiting : Verdict) :
    Unblocks verdict verdict waiting :=
  Or.inr (Verdict.unblocked_of_ne h waiting).symm

theorem unblocks_inOrder {a a' : Activity} {frame : Frame}
    {expected expected' again waiting : Verdict} (hsame : s.accepted a' = s.accepted a)
    (hexpected : Unblocks expected expected' waiting) (hagain : again ≠ .blocked) :
    Unblocks (s.inOrder a frame expected again) (s.inOrder a' frame expected' again) waiting := by
  unfold Setup.inOrder Setup.sequenceResult Setup.isExactDuplicate
  rw [hsame]
  split
  · split_ifs
    · exact unblocks_refl hagain _
    · exact Or.inl rfl
  · exact unblocks_refl (by simp) _
  · exact Or.inl rfl
  · exact hexpected

omit [Target] in
theorem unblocks_ofAck {stage : Stage} (hpinned : stage.pinned = true) (nowMs : UInt32)
    (same : Bool) (matched : Verdict) :
    Unblocks (Verdict.ofAck (stage.ackResult same) matched .incompatible)
      (Verdict.ofAck ((Stage.commit nowMs stage).ackResult same) matched .incompatible)
      matched := by
  rcases ofAck_commit hpinned nowMs same matched
    (show Verdict.incompatible ≠ .blocked by simp) with ⟨rfl, rfl⟩ | heq
  · exact Or.inl rfl
  · exact Or.inr heq

/-! ## By handler -/

variable {activity : Activity} {frame : Frame} {nowMs : UInt32}

/-- The activity has a pinned item. -/
def PinnedItem (s : Setup) (activity : Activity) : Prop :=
  ∃ item, s.item activity = some item ∧ item.stage.pinned = true

theorem unblocks_classifyInitiate (h : PinnedItem s activity) (waiting : Verdict) :
    Unblocks (s.classifyInitiate activity frame)
      (s.classifyInitiate (activity.mapStage (Stage.commit nowMs)) frame) waiting := by
  obtain ⟨item, hi, _⟩ := h
  cases activity with
  | waitingForResponse id stage =>
      exact unblocks_inOrder rfl (unblocks_refl (by simp) _) (by simp)
  | waitingForConfirm id received stage =>
      exact unblocks_inOrder rfl (unblocks_refl (by simp) _) (by simp)
  | waitingForConfirmAck id received stage =>
      exact unblocks_inOrder rfl (unblocks_refl (by simp) _) (by simp)
  | established id x => exact unblocks_inOrder rfl (unblocks_refl (by simp) _) (by simp)
  | _ => cases hi

theorem unblocks_classifyResponse (h : PinnedItem s activity) :
    Unblocks (s.classifyResponse activity frame)
      (s.classifyResponse (activity.mapStage (Stage.commit nowMs)) frame) .acceptResponse := by
  obtain ⟨item, hi, hpinned⟩ := h
  cases activity with
  | waitingForResponse id stage =>
      cases hi
      exact unblocks_inOrder rfl (unblocks_ofAck hpinned nowMs _ _) (by simp)
  | waitingForConfirm id received stage =>
      exact unblocks_inOrder rfl (unblocks_refl (by simp) _) (by simp)
  | waitingForConfirmAck id received stage =>
      exact unblocks_inOrder rfl (unblocks_refl (by simp) _) (by simp)
  | established id x => exact unblocks_inOrder rfl (unblocks_refl (by simp) _) (by simp)
  | _ => cases hi

theorem unblocks_classifyConfirm (h : PinnedItem s activity) :
    Unblocks (s.classifyConfirm activity frame)
      (s.classifyConfirm (activity.mapStage (Stage.commit nowMs)) frame) .acceptConfirm := by
  obtain ⟨item, hi, hpinned⟩ := h
  cases activity with
  | waitingForResponse id stage =>
      exact unblocks_inOrder rfl (unblocks_refl (by simp) _) (by simp)
  | waitingForConfirm id received stage =>
      cases hi
      exact unblocks_inOrder rfl (unblocks_ofAck hpinned nowMs _ _) (by simp)
  | waitingForConfirmAck id received stage =>
      exact unblocks_inOrder rfl (unblocks_refl (by simp) _) (by simp)
  | established id x => exact unblocks_inOrder rfl (unblocks_refl (by simp) _) (by simp)
  | _ => cases hi

theorem unblocks_classifyMessage (h : PinnedItem s activity) :
    Unblocks (activity.classifyMessage frame)
      ((activity.mapStage (Stage.commit nowMs)).classifyMessage frame) .prove := by
  obtain ⟨item, hi, hpinned⟩ := h
  cases activity with
  | waitingForConfirmAck id received stage =>
      cases hi
      dsimp only at hpinned
      have haccepts : (Stage.commit nowMs stage).acceptsAck = true ∧
          (Stage.commit nowMs stage).pinned = false := by
        cases stage <;> first | exact ⟨rfl, rfl⟩ | cases hpinned
      unfold Activity.classifyMessage Activity.mapStage
      dsimp only
      by_cases hexpected : sequenceAfter received frame.sequence ≠ .expected
      · rw [if_pos hexpected]
        exact Or.inl rfl
      · rw [if_neg hexpected, if_neg hexpected, if_pos hpinned, if_neg (by simp [haccepts.2]),
          if_pos haccepts.1]
        exact Or.inr rfl
  | established id x =>
      unfold Activity.classifyMessage Activity.mapStage
      dsimp only
      split
      · exact unblocks_refl (by simp) _
      · split_ifs
        · exact unblocks_refl (by simp) _
        · exact Or.inl rfl
      · exact Or.inl rfl
  | _ => exact Or.inl rfl

theorem unblocks_classifyAck (h : PinnedItem s activity) (frame : Frame) (nowMs : UInt32) :
    (∃ item, s.item activity = some item ∧ item.stage = .peeked ∧
        frame.acknowledgementSequence = item.frame.sequence) ∨
      Unblocks (s.classifyAck activity frame)
        (s.classifyAck (activity.mapStage (Stage.commit nowMs)) frame)
        activity.awaitedAck := by
  obtain ⟨item, hi, hpinned⟩ := h
  cases activity with
  | waitingForConfirmAck id received stage =>
      cases hi
      rcases ofAck_commit hpinned nowMs (frame.acknowledgementSequence == s.firstSequence + 1)
        .acceptConfirmAck (show Verdict.reject ≠ .blocked by simp) with ⟨hstage, hsame⟩ | heq
      · exact Or.inl ⟨_, rfl, hstage, by exact eq_of_beq hsame⟩
      · exact Or.inr (Or.inr heq)
  | established id x =>
      obtain ⟨⟨payload, stage⟩, hout, rfl⟩ := Option.map_eq_some_iff.mp hi
      have hverdict : ∀ (x : Exchange) stage, x.outgoing = some (payload, stage) →
          s.classifyAck (.established id x) frame =
            .ofAck (stage.ackResult (frame.acknowledgementSequence == x.nextTransmit))
              .acceptDelivery .reject := by
        intro x stage hout
        unfold Setup.classifyAck
        dsimp only
        rw [hout]
      have hcommitted : ({ x with outgoing := x.outgoing.map fun outgoing =>
          (outgoing.1, Stage.commit nowMs outgoing.2) } : Exchange).outgoing =
            some (payload, Stage.commit nowMs stage) := by
        rw [hout]
        rfl
      rcases ofAck_commit hpinned nowMs (frame.acknowledgementSequence == x.nextTransmit)
        .acceptDelivery (show Verdict.reject ≠ .blocked by simp) with ⟨hstage, hsame⟩ | heq
      · exact Or.inl ⟨_, hi, hstage, by exact eq_of_beq hsame⟩
      · refine Or.inr (Or.inr ?_)
        unfold Activity.mapStage
        rw [hverdict x stage hout, hverdict _ _ hcommitted]
        exact heq
  | waitingForResponse id stage =>
      right
      unfold Setup.classifyAck Activity.mapStage
      dsimp only
      split_ifs
      · exact unblocks_refl (by simp) _
      · exact Or.inl rfl
  | waitingForConfirm id received stage =>
      right
      unfold Setup.classifyAck Activity.mapStage
      dsimp only
      split_ifs
      · exact unblocks_refl (by simp) _
      · exact Or.inl rfl
  | _ => cases hi

/-! ## By frame and body -/

theorem unblocks_classifyByType {e : Endpoint} (h : PinnedItem s e.activity)
    (hcurrent : e.activity.identifier = some frame.sessionIdentifier) :
    e.AcknowledgesPeeked s frame ∨
      Unblocks (e.classifyByType s frame) ((e.commitItem nowMs).classifyByType s frame)
        (e.awaited frame) := by
  have hid : (e.activity.mapStage (Stage.commit nowMs)).identifier = e.activity.identifier := by
    cases e.activity <;> rfl
  unfold classifyByType commitItem awaited
  dsimp only
  rw [hid, hcurrent]
  cases htype : frame.type with
  | initiate =>
      right
      dsimp only
      split_ifs
      · exact unblocks_classifyInitiate h _
      · exact Or.inl rfl
  | response =>
      right
      dsimp only
      split_ifs
      · exact unblocks_classifyResponse h
      · exact Or.inl rfl
  | confirm =>
      right
      dsimp only
      split_ifs
      · exact unblocks_classifyConfirm h
      · exact Or.inl rfl
  | reset =>
      right
      dsimp only
      by_cases hvalid : ¬ sessionIdentifierIsValid frame.sessionIdentifier
      · rw [if_pos hvalid]
        exact Or.inl rfl
      · rw [if_neg hvalid, if_pos Option.isSome_some]
        exact unblocks_refl (by simp) _
  | ack =>
      rcases unblocks_classifyAck h frame nowMs with huncommitted | hack
      · exact Or.inl ⟨htype, hcurrent, huncommitted⟩
      · exact Or.inr hack
  | applicationMessage => exact Or.inr (unblocks_classifyMessage h)
  | invalid => exact Or.inr (Or.inl rfl)
  | unlisted raw => exact Or.inr (Or.inl rfl)

theorem unblocks_classify {e : Endpoint} (h : PinnedItem s e.activity) (frame : Frame)
    (nowMs : UInt32) :
    e.AcknowledgesPeeked s frame ∨
      Unblocks (e.classify s frame) ((e.commitItem nowMs).classify s frame) (e.awaited frame) := by
  have hid : (e.activity.mapStage (Stage.commit nowMs)).identifier = e.activity.identifier := by
    cases e.activity <;> rfl
  have hsome : e.activity.identifier.isSome = true := by
    obtain ⟨item, hi, _⟩ := h
    cases ha : e.activity <;> rw [ha] at hi <;> first | rfl | cases hi
  have hwaiting : ¬ e.activity = .waitingForInitiate ∧
      ¬ e.activity.mapStage (Stage.commit nowMs) = .waitingForInitiate := by
    constructor
    · intro ha
      rw [ha] at hsome
      cases hsome
    · intro ha
      rw [ha] at hid
      rw [← hid] at hsome
      cases hsome
  unfold classify
  show _ ∨ Unblocks _ (if e.abandoned = some frame.sessionIdentifier ∧
      (e.activity.mapStage (Stage.commit nowMs)).identifier ≠ some frame.sessionIdentifier then
        .obsolete
    else if e.activity.mapStage (Stage.commit nowMs) = .waitingForInitiate ∧
      frame.type ≠ .initiate then .obsolete
    else if (e.activity.mapStage (Stage.commit nowMs)).identifier.isSome = true ∧
      (e.activity.mapStage (Stage.commit nowMs)).identifier ≠ some frame.sessionIdentifier then
        .incompatible
    else (e.commitItem nowMs).classifyByType s frame) _
  rw [hid, if_neg (show ¬ (e.activity = .waitingForInitiate ∧ frame.type ≠ .initiate) from
      fun hw => hwaiting.1 hw.1),
    if_neg (show ¬ (e.activity.mapStage (Stage.commit nowMs) = .waitingForInitiate ∧
      frame.type ≠ .initiate) from fun hw => hwaiting.2 hw.1)]
  by_cases hobsolete : e.abandoned = some frame.sessionIdentifier ∧
      e.activity.identifier ≠ some frame.sessionIdentifier
  · rw [if_pos hobsolete, if_pos hobsolete]
    exact Or.inr (unblocks_refl (by simp) _)
  rw [if_neg hobsolete, if_neg hobsolete]
  by_cases hforeign : e.activity.identifier.isSome = true ∧
      e.activity.identifier ≠ some frame.sessionIdentifier
  · rw [if_pos hforeign, if_pos hforeign]
    exact Or.inr (Or.inl rfl)
  rw [if_neg hforeign, if_neg hforeign]
  apply unblocks_classifyByType h
  by_contra hother
  exact hforeign ⟨hsome, hother⟩

omit [Target] in
theorem awaited_ne (e : Endpoint) (frame : Frame) :
    e.awaited frame ≠ .incompatible ∧ e.awaited frame ≠ .blocked := by
  unfold awaited Activity.awaitedAck
  cases frame.type <;> cases e.activity <;> exact ⟨by simp, by simp⟩

/-- A commit keeps the intent, unless the body acknowledges the committed item. -/
theorem intent_commitItem {e : Endpoint} (h : PinnedItem s e.activity) {body : List UInt8}
    (hne : e.intent s body ≠ .incompatible)
    (hcommitted : ¬ e.acknowledgesUncommitted s body) (nowMs : UInt32) :
    (e.commitItem nowMs).intent s body = e.intent s body := by
  have hawaited : ∀ frame, (e.commitItem nowMs).awaited frame = e.awaited frame := by
    intro frame
    unfold awaited commitItem
    cases e.activity <;> rfl
  have hid : (e.commitItem nowMs).activity.identifier = e.activity.identifier := by
    unfold commitItem
    cases e.activity <;> rfl
  cases hdecode : decodeFrameView body (s.config.maxApplicationMessageSize + rawOverhead)
    s.config.maxApplicationMessageSize with
  | mk status decoded =>
    obtain ⟨frame, result⟩ := decoded
    unfold intent at hne ⊢
    rw [classifyBody_of_decoded _ _ _ hdecode] at hne ⊢
    rw [classifyBody_of_decoded _ _ _ hdecode, hid]
    by_cases hlarge : status = .messageTooLarge
    · rw [if_pos hlarge, if_pos hlarge]
      dsimp only
      rw [hawaited]
    rw [if_neg hlarge] at hne
    rw [if_neg hlarge, if_neg hlarge]
    cases result with
    | valid =>
        dsimp only at hne ⊢
        rw [hawaited]
        rcases unblocks_classify h frame nowMs with huncommitted | hincompatible | hverdict
        · exact absurd ⟨status, frame, hdecode, huncommitted⟩ hcommitted
        · rw [hincompatible] at hne
          exact absurd rfl hne
        · rw [hverdict]
          exact Verdict.unblocked_unblocked (awaited_ne e frame).2 _
    | malformed | integrityInvalid | sessionIncompatible =>
        dsimp only
        rw [hawaited]

/-! ## The calls that free a place -/

/-- What a call that frees a place keeps of a retained body. -/
structure Keeps (s : Setup) (body : List UInt8) (e e' : Endpoint) : Prop where
  intake : e'.intake = e.intake
  linkState : e'.activity.linkState = e.activity.linkState
  intent : e'.intent s body = e.intent s body
  uncommitted : e'.acknowledgesUncommitted s body → e.acknowledgesUncommitted s body

theorem keeps_refl (body : List UInt8) (e : Endpoint) : Keeps s body e e :=
  ⟨rfl, rfl, rfl, fun hu => hu⟩

theorem Keeps.trans {body : List UInt8} {e e' e'' : Endpoint} (h : Keeps s body e e')
    (h' : Keeps s body e' e'') : Keeps s body e e'' :=
  ⟨h'.intake.trans h.intake, h'.linkState.trans h.linkState, h'.intent.trans h.intent,
    fun hu => h.uncommitted (h'.uncommitted hu)⟩

theorem keeps_readEvent (body : List UInt8) (e : Endpoint) : Keeps s body e e.readEvent.2.2 := by
  unfold readEvent
  split_ifs
  · exact keeps_refl body e
  · exact ⟨rfl, rfl, rfl, fun hu => hu⟩

/-- Verdicts do not look at the unread message. -/
theorem keeps_unread (body : List UInt8) (e : Endpoint) {id : UInt64} {x : Exchange}
    (ha : e.activity = .established id x) (unread : Option (List UInt8)) :
    Keeps s body e { e with activity := .established id { x with unread := unread } } := by
  obtain ⟨activity, cursor, mode, modeValid, failure, abandoned, diagnostic, intake, events⟩ := e
  cases ha
  exact ⟨rfl, rfl, rfl, fun hu => hu⟩

theorem keeps_readMessage (body : List UInt8) (e : Endpoint) (outBuffer : Option Nat) :
    Keeps s body e (e.readMessage outBuffer).2.2.2 := by
  unfold readMessage
  cases ha : e.activity with
  | established id x =>
      dsimp only
      cases x.unread with
      | none => exact keeps_refl body e
      | some payload =>
          dsimp only
          split_ifs
          · exact keeps_unread body e ha none
          · exact keeps_refl body e
  | _ => exact keeps_refl body e

/-- Verdicts do not look at the control slot. -/
theorem keeps_commitControl (body : List UInt8) (e : Endpoint) (h : e.controlPinned = true) :
    Keeps s body e { e with activity := e.activity.commitControl } := by
  obtain ⟨activity, cursor, mode, modeValid, failure, abandoned, diagnostic, intake, events⟩ := e
  cases activity with
  | recovering reset => exact ⟨rfl, rfl, rfl, fun hu => hu⟩
  | established id x => exact ⟨rfl, rfl, rfl, fun hu => hu⟩
  | _ => cases h

theorem keeps_commitItem {body : List UInt8} {e : Endpoint} (h : e.reliablePinned s = true)
    (hne : e.intent s body ≠ .incompatible) (hcommitted : ¬ e.acknowledgesUncommitted s body)
    (nowMs : UInt32) : Keeps s body e (e.commitItem nowMs) := by
  refine ⟨rfl, ?_, intent_commitItem (reliablePinned_iff.mp h) hne hcommitted nowMs, ?_⟩
  · unfold commitItem
    cases e.activity <;> rfl
  · rintro ⟨status, frame, -, -, -, item, hi, hpeeked, -⟩
    exfalso
    unfold commitItem at hi
    cases ha : e.activity with
    | waitingForResponse id stage =>
        rw [ha] at hi
        cases hi
        cases stage <;> cases hpeeked
    | waitingForConfirm id received stage =>
        rw [ha] at hi
        cases hi
        cases stage <;> cases hpeeked
    | waitingForConfirmAck id received stage =>
        rw [ha] at hi
        cases hi
        cases stage <;> cases hpeeked
    | established id x =>
        rw [ha] at hi
        obtain ⟨outgoing, hout, rfl⟩ := Option.map_eq_some_iff.mp hi
        obtain ⟨⟨payload, stage⟩, -, rfl⟩ := Option.map_eq_some_iff.mp hout
        cases stage <;> cases hpeeked
    | _ =>
        rw [ha] at hi
        cases hi

theorem keeps_commitOutput {body : List UInt8} {e : Endpoint}
    (hne : e.intent s body ≠ .incompatible) (hcommitted : ¬ e.acknowledgesUncommitted s body)
    (nowMs : UInt32) : Keeps s body e (e.commitOutput s nowMs).2 := by
  unfold commitOutput
  rcases pinned_cases s e with ⟨hreliable, -⟩ | ⟨hreliable, hcontrol, -⟩ | ⟨hreliable, hcontrol⟩
  · rw [if_pos hreliable]
    exact keeps_commitItem hreliable hne hcommitted nowMs
  · rw [if_neg hreliable, if_pos hcontrol]
    exact keeps_commitControl body e hcontrol
  · rw [if_neg hreliable, if_neg hcontrol]
    exact keeps_refl body e

/-- One call that frees a place. -/
theorem keeps_step {body : List UInt8} {e : Endpoint} (hne : e.intent s body ≠ .incompatible)
    {call : Call} (hfrees : call.frees = true)
    (hcommitted : e.acknowledgesUncommitted s body → ∀ nowMs, call ≠ .commitOutput nowMs) :
    Keeps s body e (e.step s call).2 := by
  cases call with
  | readEvent => exact keeps_readEvent body e
  | readApplicationData outBuffer => exact keeps_readMessage body e outBuffer
  | commitOutput nowMs =>
      exact keeps_commitOutput hne (fun hu => hcommitted hu nowMs rfl) nowMs
  | _ => cases hfrees

/-- A run of such calls. -/
theorem keeps_run {body : List UInt8} {e : Endpoint} (hne : e.intent s body ≠ .incompatible)
    (calls : List Call) (hfrees : ∀ call ∈ calls, call.frees = true)
    (hcommitted : e.acknowledgesUncommitted s body → ∀ nowMs, .commitOutput nowMs ∉ calls) :
    Keeps s body e (Library.run (Endpoint.step s) e calls).2 := by
  induction calls generalizing e with
  | nil => exact keeps_refl body e
  | cons call rest ih =>
      rw [Library.run_cons]
      have hstep : Keeps s body e (e.step s call).2 := by
        refine keeps_step hne (hfrees call (List.mem_cons_self ..)) ?_
        intro hu nowMs hcall
        exact hcommitted hu nowMs (hcall ▸ List.mem_cons_self ..)
      refine hstep.trans (ih ?_ ?_ ?_)
      · rw [hstep.intent]
        exact hne
      · exact fun call hmem => hfrees call (List.mem_cons_of_mem _ hmem)
      · exact fun hu nowMs hmem =>
          hcommitted (hstep.uncommitted hu) nowMs (List.mem_cons_of_mem _ hmem)

/-- An attempt that finds its places has the verdict that was intended. -/
theorem intent_of_available {e : Endpoint} {body : List UInt8}
    (h : e.available (e.classifyBody s body).1 = true) :
    (e.classifyBody s body).1 = e.intent s body := by
  refine (Verdict.unblocked_of_ne ?_ _).symm
  intro hb
  rw [hb] at h
  cases h

/-- A failed attempt does not mean to give the session up. -/
theorem intent_of_unavailable {e : Endpoint} {body : List UInt8}
    (h : e.available (e.classifyBody s body).1 = false) : e.intent s body ≠ .incompatible := by
  unfold intent Verdict.unblocked
  dsimp only
  split_ifs with hb
  · exact (awaited_ne e _).1
  · intro hincompatible
    rw [hincompatible] at h
    cases h

/-- The frame of a verdict is the decoded one, whatever the endpoint is. -/
theorem frame_classifyBody (e : Endpoint) (body : List UInt8) :
    (e.classifyBody s body).2 =
      (decodeFrameView body (s.config.maxApplicationMessageSize + rawOverhead)
        s.config.maxApplicationMessageSize).2.1 := by
  cases hdecode : decodeFrameView body (s.config.maxApplicationMessageSize + rawOverhead)
    s.config.maxApplicationMessageSize with
  | mk status decoded =>
    obtain ⟨frame, result⟩ := decoded
    rw [classifyBody_of_decoded _ _ _ hdecode]
    by_cases hlarge : status = .messageTooLarge
    · rw [if_pos hlarge]
    · rw [if_neg hlarge]
      cases result <;> rfl

theorem receiveBytes_unavailable {e : Endpoint} {body : List UInt8}
    (hlink : e.activity.linkState = .connected) (hi : e.intake = .ready body)
    (hd : e.diagnosticPending = false) (h : e.available (e.classifyBody s body).1 = false)
    (data : List UInt8) : e.receiveBytes s data = (.capacityExhausted, 0, e) := by
  have hbody : e.settleBody s = (.capacityExhausted, e) := by
    unfold settleBody processBody attempt
    rw [hi]
    dsimp only
    rw [h]
    rfl
  have hsettle : e.settle s = (.capacityExhausted, e) := by
    unfold settle settleDiagnostic
    rw [hd]
    dsimp only
    rw [if_neg (by simp), if_neg (by simp), hbody]
    rfl
  rw [receiveBytes_unsettled (by rw [hlink]; simp) (by rw [hsettle]; simp), hsettle]

end

end Endpoint

/-! ## The attempts of the code -/

section
variable [Target]

/-- The retained body acknowledges an item that the caller has been shown for the
    first time and has not committed. -/
def Receive.acknowledgesUncommitted (root : Root) : Prop :=
  ∃ status frame,
    decodeFrameView root.parser.accumulated root.codecScratchSize
        root.base.config.maxApplicationMessageSize = (status, frame, .valid) ∧
      frame.type = .ack ∧ root.session.sessionIdentifierValid ≠ 0 ∧
      frame.sessionIdentifier = root.session.sessionIdentifier ∧
      root.session.reliableState = .peeked ∧
      frame.acknowledgementSequence = root.session.retainedTransmitSequence

/-- A root in which the code attempts a complete body: between two calls, or in the
    middle of one, when the parser has just been pushed the delimiter. -/
inductive Attempted : Root → Prop
  | retained {root : Root} (h : Reachable root) : Attempted root
  | completed {root : Root} {parser : Parser} (h : Reachable root)
      (hpush : root.parser.pushByte 0 = (.bodyReady, parser)) :
      Attempted { root with parser := parser }

variable {s : Setup}

/-- What an endpoint has on the attempt of `body`. -/
structure Attempting (s : Setup) (e : Endpoint) (body : List UInt8) : Prop where
  wf : e.Wf s
  linkState : e.activity.linkState = .connected
  intake : e.intake = .ready body
  diagnostic : e.diagnosticPending = false

theorem attempting_of_ready {e : Endpoint} (h : e.Wf s) {body : List UInt8}
    (hi : e.intake = .ready body) : Attempting s e body where
  wf := h
  linkState := by
    refine Endpoint.linkState_connected fun hlink => ?_
    rw [(h.disconnected hlink).1] at hi
    cases hi
  intake := hi
  diagnostic := by
    by_contra hd
    rw [h.diagnostic (by simpa using hd)] at hi
    cases hi

/-- An attempt is one of the endpoint that the calls so far lead to, with the body that
    the parser has been completed to. -/
theorem attempting_from {root : Root} (h : Attempted root) (hready : root.parser.bodyReady ≠ 0) :
    ∃ start, Reachable start ∧ ∀ (s : Setup) (e : Endpoint), e.Wf s → start = e.toRoot s →
      ∃ body, Attempting s { e with intake := .ready body } body ∧
        root = ({ e with intake := .ready body } : Endpoint).toRoot s := by
  cases h with
  | retained h =>
      refine ⟨root, h, ?_⟩
      rintro s e hwf rfl
      cases hi : e.intake with
      | ready body =>
          have hsame : ({ e with intake := .ready body } : Endpoint) = e := by
            rw [← hi]
          refine ⟨body, ?_, ?_⟩
          · rw [hsame]
            exact attempting_of_ready hwf hi
          · rw [hsame]
      | _ => simp [Endpoint.toRoot, hi, Intake.toParser] at hready
  | @completed start parser h hpush =>
      refine ⟨start, h, ?_⟩
      rintro s e hwf rfl
      have hvalid := parser_stateIsValid_toRoot hwf
      cases hi : e.intake with
      | ready body =>
          have hsame : ({ e with intake := .ready body } : Endpoint) = e := by
            rw [← hi]
          have hparser : parser = (e.toRoot s).parser := by
            unfold Parser.pushByte at hpush
            rw [if_neg (by simp [hvalid]),
              if_pos (by simp [Endpoint.toRoot, hi, Intake.toParser])] at hpush
            exact (congrArg Prod.snd hpush).symm
          refine ⟨body, ?_, ?_⟩
          · rw [hsame]
            exact attempting_of_ready hwf hi
          · rw [hparser, hsame]
      | discarding =>
          rw [parser_toRoot, hi] at hpush hvalid
          rw [pushByte_discarding 0 hvalid, if_pos rfl] at hpush
          cases hpush
      | filling bytes =>
          rw [parser_toRoot, hi] at hpush hvalid
          rw [pushByte_filling 0 hvalid, if_pos rfl] at hpush
          by_cases hempty : bytes = []
          · rw [if_pos hempty] at hpush
            cases hpush
          rw [if_neg hempty] at hpush
          have hcapacity : bytes.length ≤ s.config.maxEncodedFrameSize - 1 := by
            have hintake := hwf.intake
            rwa [hi] at hintake
          have hd : e.diagnosticPending = false := by
            by_contra hd
            rw [hwf.diagnostic (by simpa using hd)] at hi
            cases hi
            exact hempty rfl
          have hlink : e.activity.linkState = .connected := by
            refine Endpoint.linkState_connected fun hlink => ?_
            rw [(hwf.disconnected hlink).1] at hi
            cases hi
            exact hempty rfl
          have hready := Endpoint.wf_ready ⟨hwf, hlink⟩ hempty hcapacity hd
          refine ⟨bytes, attempting_of_ready hready.wf rfl, ?_⟩
          cases hpush
          rfl

theorem attempting_of_attempted {root : Root} (h : Attempted root)
    (hready : root.parser.bodyReady ≠ 0) :
    ∃ (s : Setup) (e : Endpoint) (body : List UInt8), Attempting s e body ∧ root = e.toRoot s := by
  obtain ⟨start, hstart, hattempt⟩ := attempting_from h hready
  obtain ⟨s, e, hwf, -, heq⟩ := reachable_endpoint hstart
  obtain ⟨body, hbody, hroot⟩ := hattempt s e hwf heq
  exact ⟨s, _, body, hbody, hroot⟩

theorem acknowledgesUncommitted_toRoot {e : Endpoint} {body : List UInt8}
    (hi : e.intake = .ready body) :
    e.acknowledgesUncommitted s body → Receive.acknowledgesUncommitted (e.toRoot s) := by
  rintro ⟨status, frame, hdecode, htype, hid, item, hitem, hstage, hsequence⟩
  have haccumulated : (e.toRoot s).parser.accumulated = body := by
    rw [parser_toRoot, hi]
    rfl
  refine ⟨status, frame, ?_, htype, ?_, ?_, ?_, ?_⟩
  · rw [haccumulated]
    exact hdecode
  · simp [Endpoint.toRoot, Endpoint.toSession, hid]
  · simp [Endpoint.toRoot, Endpoint.toSession, hid]
  · simp [Endpoint.toRoot, Endpoint.toSession, hitem, hstage, Stage.state]
  · simp [Endpoint.toRoot, Endpoint.toSession, hitem, hsequence]

/-- A body for which a place is missing leaves the root exactly as it was, and every
    new attempt does. After any run of calls that only free places the next attempt
    fails for another place, or resolves the body with the verdict that was intended at
    the first attempt and consumes it. The one exception: the body acknowledges an
    item that had not been committed at the first attempt, and is committed by then. -/
theorem transactional_reception {root next : Root} (h : Attempted root)
    (hready : root.parser.bodyReady ≠ 0)
    (hattempt : Receive.processRetainedBody root = (.capacityExhausted, next))
    (hretained : next.parser.bodyReady ≠ 0) :
    next = root ∧
    (∀ data, Receive.receiveBytes root data = (.capacityExhausted, 0, root)) ∧
    ∃ (s : Setup) (e : Endpoint) (body : List UInt8), e.Wf s ∧ e.intake = .ready body ∧
      root = e.toRoot s ∧
      ∀ calls : List Call, (∀ call ∈ calls, call.frees = true) →
        (Receive.acknowledgesUncommitted root → ∀ nowMs, .commitOutput nowMs ∉ calls) →
        ∃ later : Endpoint, (Library.run step root calls).2 = later.toRoot s ∧
          later.intake = .ready body ∧
          (Receive.processRetainedBody (later.toRoot s) =
              (.capacityExhausted, later.toRoot s) ∨
            Receive.processRetainedBody (later.toRoot s) =
                rooted s (later.resolve s (e.classifyBody s body).2 (e.intent s body)) ∧
              (Receive.processRetainedBody (later.toRoot s)).2.parser.bodyReady = 0) := by
  obtain ⟨s, e, body, hattempting, rfl⟩ := attempting_of_attempted h hready
  obtain ⟨hwf, hlink, hi, hd⟩ := hattempting
  rw [processRetainedBody_refines hwf hlink hi hd] at hattempt
  rcases Endpoint.processBody_cases (s := s) e body with ⟨havailable, hcase⟩ |
    ⟨-, -, hconsumed⟩
  swap
  · -- An attempt that resolves the body does not retain it.
    have hnext : next = (e.processBody s body).2.toRoot s := (congrArg Prod.snd hattempt).symm
    rw [hnext, parser_toRoot, hconsumed] at hretained
    exact absurd rfl hretained
  rw [hcase] at hattempt
  have hnext : next = e.toRoot s := (congrArg Prod.snd hattempt).symm
  refine ⟨hnext, ?_, s, e, body, hwf, hi, rfl, ?_⟩
  · intro data
    rw [receiveBytes_refines hwf, Endpoint.receiveBytes_unavailable hlink hi hd havailable]
    rfl
  intro calls hfrees hcommitted
  have hstep : ∀ (e : Endpoint) call, e.Wf s → (e.step s call).2.Wf s :=
    fun e call he => Endpoint.wf_step he call
  have hrun := Library.run_refines hstep (fun e call he => step_refines he call) hwf calls
  have hkeeps := Endpoint.keeps_run (Endpoint.intent_of_unavailable havailable) calls hfrees
    (fun hu => hcommitted (acknowledgesUncommitted_toRoot hi hu))
  have hlater : (Library.run (Endpoint.step s) e calls).2.Wf s :=
    Library.run_invariant hstep hwf calls
  generalize (Library.run (Endpoint.step s) e calls).2 = later at *
  have hready' := attempting_of_ready hlater (hkeeps.intake.trans hi)
  refine ⟨later, by rw [hrun], hready'.intake, ?_⟩
  rw [processRetainedBody_refines hlater hready'.linkState hready'.intake hready'.diagnostic]
  rcases Endpoint.processBody_cases (s := s) later body with ⟨-, hlast⟩ |
    ⟨hfree, hlast, hconsumed⟩
  · left
    rw [hlast]
    rfl
  · right
    constructor
    · rw [hlast, Endpoint.intent_of_available hfree, hkeeps.intent, Endpoint.frame_classifyBody,
        Endpoint.frame_classifyBody]
    · show ((later.processBody s body).2.toRoot s).parser.bodyReady = 0
      rw [parser_toRoot, hconsumed]
      rfl

end

/-! ## A retained acknowledgement -/

/-- The sample host has shown CONFIRM but not committed it. Three bodies filled its
    event queue, and the fourth, an ACK of that CONFIRM, waits. -/
def heldHost : Root :=
  (Library.run (@step .lp64) connectedHost
    [.process 0 .normal, .peekOutput (some 640), .commitOutput 0,
      .receiveBytes (encodedFrame (Handshake.controlFrame .response 7 0)), .process 0 .normal,
      .peekOutput (some 640), .receiveBytes [5, 0], .receiveBytes [5, 0], .receiveBytes [5, 0],
      .receiveBytes (encodedFrame (Handshake.controlFrame .ack 7 1))]).2

theorem reachable_heldHost : @Reachable .lp64 heldHost :=
  @Library.run_invariant _ _ _ (@step .lp64) (@Reachable .lp64)
    (fun _ call h => @reachable_step .lp64 _ h call) _ reachable_connectedHost _

/-- The retained ACK is rejected when only an event is read, and establishes the
    session when CONFIRM is committed as well. -/
theorem heldHost_changes_verdict :
    @Reachable .lp64 heldHost ∧ heldHost.parser.bodyReady = 1 ∧
      (@Receive.processRetainedBody .lp64 heldHost).1 = .capacityExhausted ∧
      (@Receive.processRetainedBody .lp64 heldHost).2.parser.bodyReady = 1 ∧
      (let root := (Library.run (@step .lp64) heldHost [.readEvent]).2
        let resolved := (@Receive.processRetainedBody .lp64 root).2
        resolved.parser.bodyReady = 0 ∧ resolved.session.state = .connecting ∧
          resolved.eventCount = root.eventCount + 1) ∧
      (let root := (Library.run (@step .lp64) heldHost [.readEvent, .commitOutput 5]).2
        let resolved := (@Receive.processRetainedBody .lp64 root).2
        resolved.parser.bodyReady = 0 ∧ resolved.session.state = .established) := by
  refine ⟨reachable_heldHost, ?_⟩
  decide +kernel

theorem transactional_reception_heldHost :
    @Receive.receiveBytes .lp64 heldHost [1] = (.capacityExhausted, 0, heldHost) := by
  have hready : heldHost.parser.bodyReady ≠ 0 := by decide +kernel
  have hstatus : (@Receive.processRetainedBody .lp64 heldHost).1 = .capacityExhausted := by
    decide +kernel
  have hretained : (@Receive.processRetainedBody .lp64 heldHost).2.parser.bodyReady ≠ 0 := by
    decide +kernel
  have hattempt : @Receive.processRetainedBody .lp64 heldHost =
      (.capacityExhausted, (@Receive.processRetainedBody .lp64 heldHost).2) := by
    rw [← hstatus]
  exact (@transactional_reception .lp64 heldHost _
    (@Attempted.retained .lp64 _ reachable_heldHost) hready hattempt hretained).2.1 [1]

end HilRigProtocol.Transport
