/-
  No leakage across sessions.

  Two endpoints that differ only in how their event queues are laid out and in the
  operating mode they recorded are `Alike`, and no call can tell them apart. The loss
  of the link leaves nothing of a session, so that two endpoints with any pasts are
  alike once both have been disconnected.
-/
import HilRigProtocol.Transport.Deliveries

namespace HilRigProtocol.Transport

namespace Endpoint

/-- The endpoints differ only in the layout of their event queues and, unless
    `sameMode`, in the operating mode that they recorded. -/
structure Alike (sameMode : Prop) (e e' : Endpoint) : Prop where
  activity : e'.activity = e.activity
  cursor : e'.cursor = e.cursor
  lastFailure : e'.lastFailure = e.lastFailure
  abandoned : e'.abandoned = e.abandoned
  diagnosticPending : e'.diagnosticPending = e.diagnosticPending
  intake : e'.intake = e.intake
  unread : e'.events.contents = e.events.contents
  ring : e.events.Wf
  ring' : e'.events.Wf
  mode : sameMode →
    e'.operatingMode = e.operatingMode ∧ e'.operatingModeValid = e.operatingModeValid

/-- The results say the same of endpoints that are alike. -/
def AlikeResult {α : Type} (sameMode : Prop) (result result' : α × Endpoint) : Prop :=
  result'.1 = result.1 ∧ Alike sameMode result.2 result'.2

variable {p : Prop} {e e' : Endpoint}

/-! ## Events -/

theorem alike_count (h : Alike p e e') : e'.events.count = e.events.count := by
  rw [← EventRing.length_contents, ← EventRing.length_contents, h.unread]

theorem alike_full (h : Alike p e e') : e'.events.full = e.events.full := by
  unfold EventRing.full
  rw [alike_count h]

theorem alike_push (h : Alike p e e') (hfull : e.events.full = false) {event : Event}
    (hvalid : Events.valueIsValid event = true) :
    Alike p { e with events := e.events.push event } { e' with events := e'.events.push event } :=
  have hfull' : e'.events.full = false := (alike_full h).trans hfull
  { h with
    unread := by
      show (e'.events.push event).contents = (e.events.push event).contents
      rw [EventRing.contents_push h.ring' hfull', EventRing.contents_push h.ring hfull, h.unread]
    ring := EventRing.wf_push h.ring hfull hvalid
    ring' := EventRing.wf_push h.ring' hfull' hvalid }

theorem publish_alike (h : Alike p e e') {event : Event}
    (hvalid : Events.valueIsValid event = true) :
    AlikeResult p (e.publish event) (e'.publish event) := by
  unfold publish
  rw [alike_full h]
  cases hfull : e.events.full with
  | true => exact ⟨rfl, h⟩
  | false => exact ⟨rfl, alike_push h hfull hvalid⟩

theorem abandon_alike (h : Alike p e e') (next : Activity) {failure : Failure}
    (hfailure : failure.isListed = true) :
    AlikeResult p (e.abandon next failure) (e'.abandon next failure) := by
  have hleft : Alike p
      { e with
        activity := next
        lastFailure := failure
        abandoned := e.activity.identifier.or e.abandoned
        intake := .filling []
        diagnosticPending := false }
      { e' with
        activity := next
        lastFailure := failure
        abandoned := e'.activity.identifier.or e'.abandoned
        intake := .filling []
        diagnosticPending := false } :=
    { h with
      activity := rfl
      lastFailure := rfl
      abandoned := by dsimp only; rw [h.activity, h.abandoned]
      intake := rfl
      diagnosticPending := rfl }
  exact publish_alike hleft (resetEvent_valid hfailure)

theorem beginLocalRecovery_alike (h : Alike p e e') {failure : Failure}
    (hfailure : failure.isListed = true) :
    AlikeResult p (e.beginLocalRecovery failure) (e'.beginLocalRecovery failure) := by
  unfold beginLocalRecovery
  rw [h.activity]
  exact abandon_alike h _ hfailure

theorem release_alike (h : Alike p e e') : Alike p e.release e'.release :=
  { h with intake := rfl }

theorem deferred_alike (h : Alike p e e') (pending : Bool) :
    Alike p { e with diagnosticPending := pending } { e' with diagnosticPending := pending } :=
  { h with diagnosticPending := rfl }

theorem activity_alike (h : Alike p e e') (activity : Activity) :
    Alike p { e with activity := activity } { e' with activity := activity } :=
  { h with activity := rfl }

/-! ## Receive work -/

theorem rejectSession_alike (h : Alike p e e') :
    AlikeResult p e.rejectSession e'.rejectSession := by
  have hpublished := @publish_alike p e e' h Receive.protocolErrorEvent rfl
  by_cases hp : ∃ reset, e.activity = .recovering (some reset)
  · obtain ⟨reset, ha⟩ := hp
    rw [rejectSession_pending ha, rejectSession_pending (h.activity.trans ha), alike_full h]
    exact ⟨hpublished.1, deferred_alike (release_alike hpublished.2) _⟩
  · have hrecovered := @beginLocalRecovery_alike p _ _ hpublished.2 .protocol rfl
    have hp' : ∀ reset, e'.activity ≠ .recovering (some reset) := by
      rw [h.activity]
      exact not_exists.mp hp
    rw [rejectSession_recover (not_exists.mp hp), rejectSession_recover hp', alike_full h,
      hpublished.1]
    refine ⟨?_, deferred_alike hrecovered.2 _⟩
    dsimp only
    rw [hrecovered.1]

theorem rejectObsolete_alike (h : Alike p e e') :
    AlikeResult p e.rejectObsolete e'.rejectObsolete := by
  have hpublished := @publish_alike p e e' h Receive.protocolErrorEvent rfl
  unfold rejectObsolete
  rw [alike_full h]
  exact ⟨hpublished.1, deferred_alike (release_alike hpublished.2) _⟩

theorem diagnose_alike (h : Alike p e e') : AlikeResult p e.diagnose e'.diagnose := by
  have hpublished := @publish_alike p e e' h Receive.protocolErrorEvent rfl
  unfold diagnose
  rw [alike_full h]
  exact ⟨hpublished.1, deferred_alike hpublished.2 _⟩

theorem available_alike (h : Alike p e e') (verdict : Verdict) :
    e'.available verdict = e.available verdict := by
  unfold available
  rw [alike_full h, h.activity]

section
variable [Target] {s : Setup}

theorem beginEstablishment_alike (h : Alike p e e') :
    Alike p (e.beginEstablishment s) (e'.beginEstablishment s) := by
  unfold beginEstablishment
  split_ifs
  · refine { h with activity := ?_, cursor := ?_ }
    · dsimp only
      rw [h.cursor]
    · dsimp only
      rw [h.cursor]
  · exact activity_alike h _

theorem classifyBody_alike (h : Alike p e e') (body : List UInt8) :
    e'.classifyBody s body = e.classifyBody s body := by
  unfold classifyBody classify classifyByType
  rw [h.activity, h.abandoned]

omit [Target] in
theorem establish_alike (h : Alike p e e') (hfull : e.events.full = false)
    (activity : Activity) : Alike p (e.establish activity) (e'.establish activity) := by
  have hpushed := @alike_push p e e' h hfull Handshake.establishedEvent rfl
  exact { hpushed with activity := rfl, lastFailure := rfl }

omit [Target] in
theorem deliver_alike (h : Alike p e e') (hfull : e.events.full = false)
    (activity : Activity) : Alike p (e.deliver activity) (e'.deliver activity) := by
  have hpushed := @alike_push p e e' h hfull deliveredEvent rfl
  exact { hpushed with activity := rfl }

theorem accept_alike (h : Alike p e e') (frame : Frame) {verdict : Verdict}
    (havailable : e.available verdict = true) :
    Alike p (e.accept s frame verdict) (e'.accept s frame verdict) := by
  unfold accept
  rw [h.activity]
  have hfull : (!e.events.full) = true → e.events.full = false := by simp
  cases verdict with
  | acceptConfirm | acceptConfirmAck | prove =>
      cases e.activity <;> first | exact h | exact establish_alike h (hfull havailable) _
  | acceptDelivery =>
      cases e.activity <;> first | exact h | exact deliver_alike h (hfull havailable) _
  | _ => cases e.activity <;> first | exact h | exact activity_alike h _

theorem resolve_alike (h : Alike p e e') (frame : Frame) {verdict : Verdict}
    (havailable : e.available verdict = true) :
    AlikeResult p (e.resolve s frame verdict) (e'.resolve s frame verdict) := by
  have haccepted := @accept_alike p e e' _ s h frame verdict havailable
  cases verdict with
  | reject => exact ⟨rfl, release_alike (@publish_alike p e e' h _ rfl).2⟩
  | obsolete => exact rejectObsolete_alike h
  | incompatible => exact rejectSession_alike h
  | acceptReset =>
      have habandoned := @abandon_alike p e e' h (.recovering none) .protocol rfl
      exact ⟨habandoned.1, beginEstablishment_alike habandoned.2⟩
  | _ => exact ⟨rfl, release_alike haccepted⟩

theorem processBody_alike (h : Alike p e e') (body : List UInt8) :
    AlikeResult p (e.processBody s body) (e'.processBody s body) := by
  unfold processBody attempt
  dsimp only
  rw [classifyBody_alike h, available_alike h]
  split_ifs with havailable
  · exact resolve_alike h _ havailable
  · exact ⟨rfl, h⟩

theorem advance_alike (h : Alike p e e') : Alike p (e.advance s) (e'.advance s) := by
  unfold advance
  rw [h.activity, h.diagnosticPending, h.intake]
  split_ifs
  · exact beginEstablishment_alike h
  · exact h

theorem advanceIfOk_alike {result result' : Status × Endpoint} (h : AlikeResult p result result') :
    AlikeResult p (advanceIfOk s result) (advanceIfOk s result') := by
  unfold advanceIfOk
  rw [h.1]
  split_ifs
  · exact ⟨rfl, advance_alike h.2⟩
  · exact h

omit [Target] in
theorem intake_alike (h : Alike p e e') (intake : Intake) :
    Alike p { e with intake := intake } { e' with intake := intake } :=
  { h with intake := rfl }

theorem feedByte_alike (h : Alike p e e') (byte : UInt8) :
    AlikeResult p (e.feedByte s byte) (e'.feedByte s byte) := by
  unfold feedByte
  rw [h.intake]
  cases e.intake with
  | filling bytes =>
      dsimp only
      split_ifs
      · exact ⟨rfl, h⟩
      · exact advanceIfOk_alike (processBody_alike (intake_alike h _) _)
      · exact ⟨rfl, intake_alike h _⟩
      · exact ⟨rfl, intake_alike h _⟩
  | discarding =>
      dsimp only
      split_ifs
      · exact advanceIfOk_alike (diagnose_alike (release_alike h))
      · exact ⟨rfl, h⟩
  | ready => exact ⟨rfl, h⟩

theorem feed_alike (data : List UInt8) {e e' : Endpoint} (h : Alike p e e') :
    (e'.feed s data).1 = (e.feed s data).1 ∧ (e'.feed s data).2.1 = (e.feed s data).2.1 ∧
      Alike p (e.feed s data).2.2 (e'.feed s data).2.2 := by
  induction data generalizing e e' with
  | nil => exact ⟨rfl, rfl, h⟩
  | cons byte rest ih =>
      obtain ⟨hstatus, hnext⟩ := @feedByte_alike p e e' _ s h byte
      obtain ⟨hlast, hconsumed, hrest⟩ := ih hnext
      unfold feed
      dsimp only
      rw [hstatus]
      split_ifs
      · exact ⟨rfl, rfl, hnext⟩
      · dsimp only
        rw [hlast, hconsumed]
        exact ⟨rfl, rfl, hrest⟩

theorem settle_alike (h : Alike p e e') : AlikeResult p (e.settle s) (e'.settle s) := by
  have hdiagnostic : AlikeResult p e.settleDiagnostic e'.settleDiagnostic := by
    unfold settleDiagnostic
    rw [h.diagnosticPending]
    split_ifs
    · exact diagnose_alike h
    · exact ⟨rfl, h⟩
  have hbody : AlikeResult p (e.settleDiagnostic.2.settleBody s)
      (e'.settleDiagnostic.2.settleBody s) := by
    unfold settleBody
    rw [hdiagnostic.2.intake]
    cases e.settleDiagnostic.2.intake with
    | ready body => exact processBody_alike hdiagnostic.2 body
    | _ => exact ⟨rfl, hdiagnostic.2⟩
  unfold settle
  dsimp only
  rw [hdiagnostic.1]
  split_ifs
  · exact ⟨rfl, hdiagnostic.2⟩
  · exact advanceIfOk_alike hbody

theorem receiveBytes_alike (h : Alike p e e') (data : List UInt8) :
    (e'.receiveBytes s data).1 = (e.receiveBytes s data).1 ∧
      (e'.receiveBytes s data).2.1 = (e.receiveBytes s data).2.1 ∧
      Alike p (e.receiveBytes s data).2.2 (e'.receiveBytes s data).2.2 := by
  have hsettled := @settle_alike p e e' _ s h
  unfold receiveBytes
  rw [h.activity]
  split_ifs
  · exact ⟨rfl, rfl, h⟩
  · dsimp only
    rw [hsettled.1]
    split_ifs
    · exact ⟨rfl, rfl, hsettled.2⟩
    · exact feed_alike data hsettled.2

/-! ## The other calls -/

theorem peekOutput_alike (h : Alike p e e') (outBuffer : Option Nat) :
    (e'.peekOutput s outBuffer).1 = (e.peekOutput s outBuffer).1 ∧
      (e'.peekOutput s outBuffer).2.1 = (e.peekOutput s outBuffer).2.1 ∧
      (e'.peekOutput s outBuffer).2.2.1 = (e.peekOutput s outBuffer).2.2.1 ∧
      Alike p (e.peekOutput s outBuffer).2.2.2 (e'.peekOutput s outBuffer).2.2.2 := by
  have hselection : e'.selection s = e.selection s := by
    unfold selection
    rw [h.activity]
  unfold peekOutput
  rw [hselection, h.activity]
  cases e.selection s <;> cases s.item e.activity <;> cases e.activity.controlItem <;>
    dsimp only <;> first
      | exact ⟨rfl, rfl, rfl, h⟩
      | refine ⟨rfl, rfl, rfl, ?_⟩
        split_ifs <;> first | exact activity_alike h _ | exact h

theorem commitOutput_alike (h : Alike p e e') (nowMs : UInt32) :
    AlikeResult p (e.commitOutput s nowMs) (e'.commitOutput s nowMs) := by
  unfold commitOutput reliablePinned controlPinned
  rw [h.activity]
  split_ifs
  · exact ⟨rfl, activity_alike h _⟩
  · exact ⟨rfl, activity_alike h _⟩
  · exact ⟨rfl, h⟩

theorem submit_alike (h : Alike p e e') (payload : List UInt8) :
    AlikeResult p (e.submit s payload) (e'.submit s payload) := by
  unfold submit
  rw [h.activity]
  by_cases hempty : payload = []
  · rw [if_pos hempty, if_pos hempty]
    exact ⟨rfl, h⟩
  · rw [if_neg hempty, if_neg hempty]
    cases e.activity with
    | established id x =>
        dsimp only
        split_ifs
        · exact ⟨rfl, h⟩
        · exact ⟨rfl, h⟩
        · exact ⟨rfl, activity_alike h _⟩
    | _ => exact ⟨rfl, h⟩

omit [Target] in
theorem readMessage_alike (h : Alike p e e') (outBuffer : Option Nat) :
    (e'.readMessage outBuffer).1 = (e.readMessage outBuffer).1 ∧
      (e'.readMessage outBuffer).2.1 = (e.readMessage outBuffer).2.1 ∧
      (e'.readMessage outBuffer).2.2.1 = (e.readMessage outBuffer).2.2.1 ∧
      Alike p (e.readMessage outBuffer).2.2.2 (e'.readMessage outBuffer).2.2.2 := by
  unfold readMessage
  rw [h.activity]
  cases e.activity with
  | established id x =>
      dsimp only
      cases x.unread with
      | none => exact ⟨rfl, rfl, rfl, h⟩
      | some payload =>
          refine ⟨rfl, rfl, rfl, ?_⟩
          dsimp only
          split_ifs
          · exact activity_alike h _
          · exact h
  | _ => exact ⟨rfl, rfl, rfl, h⟩

omit [Target] in
theorem readEvent_alike (h : Alike p e e') :
    e'.readEvent.1 = e.readEvent.1 ∧ e'.readEvent.2.1 = e.readEvent.2.1 ∧
      Alike p e.readEvent.2.2 e'.readEvent.2.2 := by
  unfold readEvent
  rw [alike_count h]
  by_cases hcount : e.events.count = 0
  · rw [if_pos hcount, if_pos hcount]
    exact ⟨rfl, rfl, h⟩
  · rw [if_neg hcount, if_neg hcount]
    have hcount' : e'.events.count ≠ 0 := by rw [alike_count h]; exact hcount
    have hunread := h.unread
    rw [EventRing.contents_pop hcount, EventRing.contents_pop hcount'] at hunread
    injection hunread with hfirst hrest
    exact ⟨rfl, congrArg some hfirst,
      { h with
        unread := hrest
        ring := EventRing.wf_pop h.ring
        ring' := EventRing.wf_pop h.ring' }⟩

theorem status_alike (h : Alike p e e') :
    e'.status s =
      { e.status s with
        operatingMode := e'.operatingMode
        operatingModeValid := if e'.operatingModeValid then 1 else 0 } := by
  unfold status
  rw [h.activity, h.lastFailure, alike_count h]

omit [Target] in
theorem reset_alike (h : Alike p e e') : Alike p e.reset e'.reset := by
  unfold Endpoint.reset
  rw [h.activity, h.abandoned]
  exact { h with
    activity := rfl
    lastFailure := rfl
    abandoned := rfl
    intake := rfl
    diagnosticPending := rfl
    unread := rfl
    ring := EventRing.wf_clear _
    ring' := EventRing.wf_clear _ }

theorem notifyLinkState_alike (h : Alike p e e') (linkState : LinkState) :
    AlikeResult p (e.notifyLinkState s linkState) (e'.notifyLinkState s linkState) := by
  have hforgotten : ∀ {e e' : Endpoint}, Alike p e e' →
      Alike p { e with abandoned := none } { e' with abandoned := none } :=
    fun h => { h with abandoned := rfl }
  have hlost := @publish_alike p e e' h (Session.linkEvent .disconnected) rfl
  have hleft := @abandon_alike p _ _ hlost.2 (.disconnected true) .linkLost rfl
  have hfound := @publish_alike p e e' h (Session.linkEvent .connected) rfl
  unfold notifyLinkState
  rw [h.activity]
  cases linkState with
  | disconnected =>
      have hend : AlikeResult p
          (bothOk (e.publish (Session.linkEvent .disconnected)).1
              ((e.publish (Session.linkEvent .disconnected)).2.abandon (.disconnected true)
                .linkLost).1,
            ({ ((e.publish (Session.linkEvent .disconnected)).2.abandon (.disconnected true)
                .linkLost).2 with abandoned := none } : Endpoint))
          (bothOk (e'.publish (Session.linkEvent .disconnected)).1
              ((e'.publish (Session.linkEvent .disconnected)).2.abandon (.disconnected true)
                .linkLost).1,
            { ((e'.publish (Session.linkEvent .disconnected)).2.abandon (.disconnected true)
                .linkLost).2 with abandoned := none }) := by
        refine ⟨?_, hforgotten hleft.2⟩
        rw [hlost.1, hleft.1]
      cases e.activity with
      | disconnected observed =>
          cases observed with
          | false => exact ⟨rfl, { h with activity := rfl, abandoned := rfl }⟩
          | true => exact ⟨rfl, h⟩
      | _ => exact hend
  | connected =>
      cases e.activity with
      | disconnected => exact ⟨hfound.1, beginEstablishment_alike hfound.2⟩
      | _ => exact ⟨rfl, h⟩
  | unlisted raw => exact ⟨rfl, h⟩

omit [Target] in
theorem giveUp_alike (h : Alike p e e') : AlikeResult p e.giveUp e'.giveUp := by
  have hpublished := @publish_alike p e e' h failedEvent rfl
  unfold giveUp
  rw [h.activity]
  cases e.activity with
  | established id x =>
      dsimp only
      rw [hpublished.1]
      split_ifs
      · exact ⟨rfl, (@beginLocalRecovery_alike p _ _ hpublished.2 .delivery rfl).2⟩
      · exact ⟨rfl, h⟩
  | _ => exact @beginLocalRecovery_alike p e e' h .delivery rfl

theorem progress_alike (h : Alike p e e') (nowMs : UInt32) :
    AlikeResult p (e.progress s nowMs) (e'.progress s nowMs) := by
  have hpublished : Alike p e.publishHandshake e'.publishHandshake := by
    unfold publishHandshake
    rw [h.activity]
    cases e.activity <;> first | exact activity_alike h _ | exact h
  have htimed := activity_alike hpublished (e.publishHandshake.activity.mapStage (timeout s nowMs))
  unfold progress exhausted
  dsimp only
  rw [hpublished.activity]
  split_ifs
  · exact giveUp_alike htimed
  · exact ⟨rfl, htimed⟩

theorem processSettled_alike (h : Alike p e e') (nowMs : UInt32) :
    AlikeResult p (e.processSettled s nowMs) (e'.processSettled s nowMs) := by
  unfold processSettled
  rw [h.activity, h.intake]
  cases e.activity with
  | recovering reset =>
      cases reset with
      | some reset => exact ⟨rfl, h⟩
      | none =>
          dsimp only
          split_ifs
          · exact progress_alike (beginEstablishment_alike h) nowMs
          · exact ⟨rfl, h⟩
  | _ => exact progress_alike h nowMs

omit [Target] in
theorem withMode_alike (h : Alike p e e') (operatingMode : OperatingMode) :
    Alike True (e.withMode operatingMode) (e'.withMode operatingMode) :=
  { h with mode := fun _ => ⟨rfl, rfl⟩ }

/-- A listed mode is recorded, whatever was recorded before. -/
theorem process_alike (h : Alike p e e') (nowMs : UInt32) {operatingMode : OperatingMode}
    (hmode : operatingMode.isListed = true) :
    AlikeResult True (e.process s nowMs operatingMode) (e'.process s nowMs operatingMode) := by
  have hrecorded := withMode_alike h operatingMode
  by_cases hlink : e.activity.linkState = .disconnected
  · unfold process
    rw [if_pos hmode, if_pos hmode]
    dsimp only
    rw [if_pos hlink, if_pos (by rw [h.activity]; exact hlink)]
    exact ⟨rfl, hrecorded⟩
  · have hlink' : e'.activity.linkState = .connected := by
      rw [h.activity]
      exact linkState_connected hlink
    have hsettled := @settle_alike _ _ _ _ s hrecorded
    rw [process_connected (linkState_connected hlink) hmode, process_connected hlink' hmode,
      h.diagnosticPending, h.intake, hsettled.1]
    split_ifs
    · exact hsettled
    · exact processSettled_alike hsettled.2 nowMs
    · exact processSettled_alike hrecorded nowMs

end

end Endpoint

/-! ## Runs -/

/-- A status report without the recorded operating mode. -/
def StatusSnapshot.modeless (snapshot : StatusSnapshot) : StatusSnapshot :=
  { snapshot with operatingMode := .normal, operatingModeValid := 0 }

/-- A response without the operating mode that it reports. -/
def Response.modeless (response : Response) : Response :=
  { response with snapshot := response.snapshot.map StatusSnapshot.modeless }

section
variable [Target]

namespace Endpoint

variable {s : Setup} {p : Prop} {e e' : Endpoint}

/-- No call can tell them apart but by the mode. -/
theorem step_alike (h : Alike p e e') (call : Call) :
    ((e'.step s call).1.modeless = (e.step s call).1.modeless ∧
      (p → (e'.step s call).1 = (e.step s call).1)) ∧
      Alike p (e.step s call).2 (e'.step s call).2 := by
  have hsame : (e'.step s call).1 = (e.step s call).1 →
      (e'.step s call).1.modeless = (e.step s call).1.modeless ∧
        (p → (e'.step s call).1 = (e.step s call).1) :=
    fun heq => ⟨congrArg Response.modeless heq, fun _ => heq⟩
  cases call with
  | reset => exact ⟨hsame rfl, reset_alike h⟩
  | notifyLinkState linkState nowMs =>
      obtain ⟨hstatus, hnext⟩ := @notifyLinkState_alike p e e' _ s h linkState
      exact ⟨hsame (congrArg Response.ofStatus hstatus), hnext⟩
  | submitApplicationData payload =>
      obtain ⟨hstatus, hnext⟩ := @submit_alike p e e' _ s h payload
      exact ⟨hsame (congrArg Response.ofStatus hstatus), hnext⟩
  | receiveBytes data =>
      obtain ⟨hstatus, hconsumed, hnext⟩ := @receiveBytes_alike p e e' _ s h data
      refine ⟨hsame ?_, hnext⟩
      unfold step
      dsimp only
      rw [hstatus, hconsumed]
  | process nowMs operatingMode =>
      by_cases hmode : operatingMode.isListed = true
      · obtain ⟨hstatus, hnext⟩ := @process_alike p e e' _ s h nowMs _ hmode
        exact ⟨hsame (congrArg Response.ofStatus hstatus),
          { hnext with mode := fun _ => hnext.mode trivial }⟩
      · have hrefused : ∀ e : Endpoint, e.process s nowMs operatingMode = (.invalidArgument, e) :=
          fun e => if_neg hmode
        have hunchanged : ∀ e : Endpoint, e.step s (.process nowMs operatingMode) =
            (.ofStatus .invalidArgument, e) := by
          intro e
          unfold step
          dsimp only
          rw [hrefused]
        rw [hunchanged, hunchanged]
        exact ⟨⟨rfl, fun _ => rfl⟩, h⟩
  | peekOutput outBuffer =>
      obtain ⟨hstatus, hsize, hbytes, hnext⟩ := @peekOutput_alike p e e' _ s h outBuffer
      refine ⟨hsame ?_, hnext⟩
      unfold step
      dsimp only
      rw [hstatus, hsize, hbytes]
  | commitOutput nowMs =>
      obtain ⟨hstatus, hnext⟩ := @commitOutput_alike p e e' _ s h nowMs
      exact ⟨hsame (congrArg Response.ofStatus hstatus), hnext⟩
  | readApplicationData outBuffer =>
      obtain ⟨hstatus, hsize, hbytes, hnext⟩ := @readMessage_alike p e e' h outBuffer
      refine ⟨hsame ?_, hnext⟩
      unfold step
      dsimp only
      rw [hstatus, hsize, hbytes]
  | readEvent =>
      obtain ⟨hstatus, hevent, hnext⟩ := @readEvent_alike p e e' h
      refine ⟨hsame ?_, hnext⟩
      unfold step
      dsimp only
      rw [hstatus, hevent]
  | getStatus =>
      refine ⟨⟨?_, ?_⟩, h⟩
      · show { Response.ofStatus _ with snapshot := some (StatusSnapshot.modeless (e'.status s)) } = _
        rw [status_alike h]
        rfl
      · intro hp
        unfold step
        rw [status_alike h, (h.mode hp).1, (h.mode hp).2]
        rfl

/-- No run can, and with the same mode they are the same to the caller. -/
theorem run_alike (h : Alike p e e') (calls : List Call) :
    (Library.run (Endpoint.step s) e' calls).1.map Response.modeless =
        (Library.run (Endpoint.step s) e calls).1.map Response.modeless ∧
      (p → (Library.run (Endpoint.step s) e' calls).1 =
        (Library.run (Endpoint.step s) e calls).1) ∧
      Alike p (Library.run (Endpoint.step s) e calls).2
        (Library.run (Endpoint.step s) e' calls).2 := by
  obtain ⟨hmodeless, hlast⟩ := @Library.run_alike _ _ _ _ _ (Endpoint.step s) (Endpoint.step s)
    (Alike p) Response.modeless
    (fun _ _ call h => ⟨(step_alike h call).1.1.symm, (step_alike h call).2⟩) _ _ h calls
  refine ⟨hmodeless.symm, ?_, hlast⟩
  intro hp
  obtain ⟨hsame, _⟩ := @Library.run_alike _ _ _ _ _ (Endpoint.step s) (Endpoint.step s)
    (Alike p) id
    (fun _ _ call h => ⟨((step_alike h call).1.2 hp).symm, (step_alike h call).2⟩) _ _ h calls
  rw [List.map_id, List.map_id] at hsame
  exact hsame.symm

/-- What the loss of the link leaves of an endpoint, before it is reported. -/
def unlinked (e : Endpoint) : Endpoint :=
  { e with
    activity := .disconnected true
    lastFailure := .linkLost
    abandoned := none
    intake := .filling []
    diagnosticPending := false }

theorem notifyLinkState_lost (hlink : e.activity.linkState = .connected) :
    e.notifyLinkState s .disconnected =
      (bothOk (e.unlinked.publish (Session.linkEvent .disconnected)).1
          ((e.unlinked.publish (Session.linkEvent .disconnected)).2.publish
            (resetEvent .linkLost)).1,
        ((e.unlinked.publish (Session.linkEvent .disconnected)).2.publish
          (resetEvent .linkLost)).2) := by
  have hlost : e.notifyLinkState s .disconnected =
      (bothOk (e.publish (Session.linkEvent .disconnected)).1
          ((e.publish (Session.linkEvent .disconnected)).2.abandon (.disconnected true)
            .linkLost).1,
        { ((e.publish (Session.linkEvent .disconnected)).2.abandon (.disconnected true)
            .linkLost).2 with abandoned := none }) := by
    unfold notifyLinkState
    cases ha : e.activity with
    | disconnected =>
        rw [ha] at hlink
        cases hlink
    | _ => rfl
  rw [hlost]
  have hfinal : ∀ first : Endpoint,
      ({ (first.abandon (.disconnected true) .linkLost).2 with abandoned := none } : Endpoint) =
        (first.unlinked.publish (resetEvent .linkLost)).2 := by
    intro first
    unfold abandon publish unlinked
    dsimp only
    split_ifs <;> rfl
  have hstatus : ∀ first : Endpoint, (first.abandon (.disconnected true) .linkLost).1 =
      (first.unlinked.publish (resetEvent .linkLost)).1 := by
    intro first
    unfold abandon
    rw [publish_status, publish_status]
    rfl
  have hunlinked : (e.publish (Session.linkEvent .disconnected)).2.unlinked =
      (e.unlinked.publish (Session.linkEvent .disconnected)).2 := by
    unfold publish
    show (ite _ _ _ : Status × Endpoint).2.unlinked =
      (ite (e.events.full = true) _ _ : Status × Endpoint).2
    split_ifs <;> rfl
  have hfirst : (e.publish (Session.linkEvent .disconnected)).1 =
      (e.unlinked.publish (Session.linkEvent .disconnected)).1 := by
    rw [publish_status, publish_status]
    rfl
  rw [hfinal, hstatus, hunlinked, hfirst]

/-- The loss of the link leaves nothing by which two endpoints differ. -/
theorem lost_alike (hlink : e.activity.linkState = .connected)
    (hlink' : e'.activity.linkState = .connected) (hcursor : e'.cursor = e.cursor)
    (hunread : e'.events.contents = e.events.contents) (hring : e.events.Wf)
    (hring' : e'.events.Wf) :
    AlikeResult False (e.notifyLinkState s .disconnected) (e'.notifyLinkState s .disconnected) := by
  have hleft : Alike False e.unlinked e'.unlinked :=
    { activity := rfl
      cursor := hcursor
      lastFailure := rfl
      abandoned := rfl
      diagnosticPending := rfl
      intake := rfl
      unread := hunread
      ring := hring
      ring' := hring'
      mode := False.elim }
  have hlost := @publish_alike _ _ _ hleft (Session.linkEvent .disconnected) rfl
  have hreported := @publish_alike _ _ _ hlost.2 (resetEvent .linkLost) rfl
  rw [notifyLinkState_lost hlink, notifyLinkState_lost hlink']
  refine ⟨?_, hreported.2⟩
  dsimp only
  rw [hlost.1, hreported.1]

end Endpoint

/-! ## Setups -/

/-- Where the regions of the workspace lie makes no difference. -/
theorem Setup.step_regions {s s' : Setup} (hrole : s'.role = s.role) (hconfig : s'.config = s.config)
    (hfirst : s'.firstSequence = s.firstSequence) : Endpoint.step s' = Endpoint.step s := by
  obtain ⟨role, config, firstSequence, regions, h₁, h₂, h₃, h₄, h₅, h₆, h₇, h₈, h₉⟩ := s
  obtain ⟨_, _, _, regions', h₁', h₂', h₃', h₄', h₅', h₆', h₇', h₈', h₉'⟩ := s'
  cases hrole
  cases hconfig
  cases hfirst
  have hfeed : ∀ data (e : Endpoint),
      e.feed ⟨role, config, firstSequence, regions', h₁', h₂', h₃', h₄', h₅', h₆', h₇', h₈', h₉'⟩
          data =
        e.feed ⟨role, config, firstSequence, regions, h₁, h₂, h₃, h₄, h₅, h₆, h₇, h₈, h₉⟩
          data := by
    intro data
    induction data with
    | nil => exact fun e => rfl
    | cons byte rest ih =>
        intro e
        unfold Endpoint.feed
        dsimp only
        rw [ih]
        rfl
  funext e call
  cases call with
  | receiveBytes data =>
      unfold Endpoint.step Endpoint.receiveBytes
      dsimp only
      rw [hfeed]
      rfl
  | _ => rfl

theorem init_sequence {context next : Context} {role : Role} {config : Config} {storage : Storage}
    {placement : Placement} (h : Profile.init context role config storage placement = (.ok, next))
    {root : Root} (hroot : Profile.rootFromContext next = some root) :
    root.session.initialReliableSequence = root.base.config.initialReliableSequence := by
  obtain ⟨hrole, hseed, _, requiredSize, session, parser, _, hsession, _, rfl⟩ := init_eq h
  unfold Profile.rootFromContext at hroot
  split_ifs at hroot
  cases hroot
  show session.initialReliableSequence = config.initialReliableSequence
  unfold Session.init at hsession
  rw [if_neg (by tauto), if_neg (by simp [hseed])] at hsession
  cases hsession
  rfl

/-- The first sequence of a reachable endpoint is the configured one. -/
theorem reachable_setup {root : Root} (h : Reachable root) :
    ∃ (s : Setup) (e : Endpoint), e.Wf s ∧ root = e.toRoot s ∧
      s.firstSequence = s.config.initialReliableSequence := by
  obtain ⟨context, role, config, storage, placement, next, initial, calls, hinit, hroot, rfl⟩ := h
  have hsequence := init_sequence hinit hroot
  obtain ⟨s, _, _, hinitial, hwf⟩ := init_refines hinit
  rw [hinitial] at hroot
  cases hroot
  obtain ⟨hrun, hlast⟩ := run_toRoot hwf calls
  exact ⟨s, (Library.run (Endpoint.step s) (Endpoint.initial s) calls).2, hlast, by rw [hrun],
    hsequence⟩

/-- The root after the link was lost and found again. -/
def relinked (root : Root) (lost found : UInt32) : Root :=
  (Library.run step root
    [.notifyLinkState .disconnected lost, .notifyLinkState .connected found]).2

open Endpoint

/-- Two endpoints of one role and configuration, with any pasts, that are connected, go on
    from one host cursor and have the same unread events, cannot be told apart once the
    link was lost and found again, but by the operating mode that they report until
    `Process` has recorded another. A reachable endpoint is never in FAULT. -/
theorem no_leakage {root root' : Root} (h : Reachable root) (h' : Reachable root')
    (hrole : root'.base.role = root.base.role) (hconfig : root'.base.config = root.base.config)
    (hlink : root.base.linkState = .connected) (hlink' : root'.base.linkState = .connected)
    (hcursor : root'.session.nextHostSessionIdentifier = root.session.nextHostSessionIdentifier)
    (hunread : Events.unread root' = Events.unread root) (lost found lost' found' : UInt32) :
    (Library.run step root'
        [.notifyLinkState .disconnected lost', .notifyLinkState .connected found']).1 =
      (Library.run step root
        [.notifyLinkState .disconnected lost, .notifyLinkState .connected found]).1 ∧
      (∀ calls,
        (Library.run step (relinked root' lost' found') calls).1.map Response.modeless =
          (Library.run step (relinked root lost found) calls).1.map Response.modeless) ∧
      ∀ before nowMs operatingMode after, operatingMode.isListed = true →
        (Library.run step (Library.run step (relinked root' lost' found')
            (before ++ [.process nowMs operatingMode])).2 after).1 =
          (Library.run step (Library.run step (relinked root lost found)
            (before ++ [.process nowMs operatingMode])).2 after).1 := by
  obtain ⟨s, e, hwf, rfl, hfirst⟩ := reachable_setup h
  obtain ⟨s', e', hwf', rfl, hfirst'⟩ := reachable_setup h'
  have hsteps : Endpoint.step s' = Endpoint.step s := by
    refine Setup.step_regions hrole hconfig ?_
    rw [hfirst, hfirst']
    exact congrArg Config.initialReliableSequence hconfig
  have hlost : AlikeResult False (e.notifyLinkState s .disconnected)
      (e'.notifyLinkState s .disconnected) :=
    lost_alike hlink hlink' hcursor hunread hwf.events hwf'.events
  have hfound : AlikeResult False
      ((e.notifyLinkState s .disconnected).2.notifyLinkState s .connected)
      ((e'.notifyLinkState s .disconnected).2.notifyLinkState s .connected) :=
    notifyLinkState_alike hlost.2 .connected
  obtain ⟨hrun, hnext⟩ := run_toRoot hwf
    [.notifyLinkState .disconnected lost, .notifyLinkState .connected found]
  obtain ⟨hrun', hnext'⟩ := run_toRoot hwf'
    [.notifyLinkState .disconnected lost', .notifyLinkState .connected found']
  rw [hsteps] at hrun' hnext'
  -- Both are now the roots of endpoints that are alike.
  have halike : Alike False
      (Library.run (Endpoint.step s) e
        [.notifyLinkState .disconnected lost, .notifyLinkState .connected found]).2
      (Library.run (Endpoint.step s) e'
        [.notifyLinkState .disconnected lost', .notifyLinkState .connected found']).2 :=
    hfound.2
  have hstatuses : (Library.run (Endpoint.step s) e'
        [.notifyLinkState .disconnected lost', .notifyLinkState .connected found']).1 =
      (Library.run (Endpoint.step s) e
        [.notifyLinkState .disconnected lost, .notifyLinkState .connected found]).1 := by
    show [Response.ofStatus (e'.notifyLinkState s .disconnected).1,
        Response.ofStatus
          ((e'.notifyLinkState s .disconnected).2.notifyLinkState s .connected).1] = _
    rw [hlost.1, hfound.1]
    rfl
  unfold relinked
  rw [hrun, hrun']
  dsimp only
  generalize (Library.run (Endpoint.step s) e
    [.notifyLinkState .disconnected lost, .notifyLinkState .connected found]).2 = last at *
  generalize (Library.run (Endpoint.step s) e'
    [.notifyLinkState .disconnected lost', .notifyLinkState .connected found']).2 = last' at *
  refine ⟨hstatuses, ?_, ?_⟩
  · intro calls
    rw [(run_toRoot hnext calls).1, (run_toRoot hnext' calls).1, hsteps]
    exact (run_alike halike calls).1
  · intro before nowMs operatingMode after hmode
    have hbefore := (@run_alike _ s _ _ _ halike before).2.2
    have hrecorded : Alike True
        (Library.run (Endpoint.step s) last (before ++ [.process nowMs operatingMode])).2
        (Library.run (Endpoint.step s) last' (before ++ [.process nowMs operatingMode])).2 := by
      rw [Library.run_append, Library.run_append]
      exact (process_alike hbefore nowMs hmode).2
    obtain ⟨hrun, hnext⟩ := run_toRoot hnext (before ++ [.process nowMs operatingMode])
    obtain ⟨hrun', hnext'⟩ := run_toRoot hnext' (before ++ [.process nowMs operatingMode])
    rw [hrun, hrun']
    dsimp only
    rw [(run_toRoot hnext after).1, (run_toRoot hnext' after).1, hsteps]
    exact (run_alike hrecorded after).2.1 trivial

end

/-- The sample host before its first session has begun. -/
def freshHost : Root := (Library.run (@step .lp64) connectedHost [.readEvent]).2

/-- The sample host with a message that waits for its acknowledgement. -/
def busyHost : Root :=
  (Library.run (@step .lp64) establishedHost
    [.readEvent, .readEvent, .submitApplicationData [5], .peekOutput (some 64), .commitOutput 3,
      .process 4 .quietRealTime]).2

theorem no_leakage_busyHost :
    (Library.run (@step .lp64) (@relinked .lp64 busyHost 20 21)
        [.getStatus, .process 30 .normal, .peekOutput (some 64), .getStatus]).1.map
          Response.modeless =
      (Library.run (@step .lp64) (@relinked .lp64 freshHost 5 6)
        [.getStatus, .process 30 .normal, .peekOutput (some 64), .getStatus]).1.map
          Response.modeless :=
  (@no_leakage .lp64 freshHost busyHost (@reachable_run .lp64 _ reachable_connectedHost _)
    (@reachable_run .lp64 _ reachable_establishedHost _) (by decide +kernel) (by decide +kernel)
    (by decide +kernel) (by decide +kernel) (by decide +kernel) (by decide +kernel)
    5 6 20 21).2.1 [.getStatus, .process 30 .normal, .peekOutput (some 64), .getStatus]

end HilRigProtocol.Transport
