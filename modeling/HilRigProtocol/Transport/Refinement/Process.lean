/-
  `Process` on the root of an endpoint: the due handshake frame, the retry timer and
  the end of a session whose retries are used up.
-/
import HilRigProtocol.Transport.Refinement.Receive

namespace HilRigProtocol.Transport

section
variable [Target] {s : Setup}

/-! ## The due handshake frame -/

/-- A handshake frame is published when nothing is retained. -/
theorem publishReliable_toRoot {e : Endpoint} (h : e.activity.Wf s)
    (hi : s.item e.activity = none) {frame : Frame} {nextPhase : HandshakePhase}
    (hid : e.activity.identifier = some frame.sessionIdentifier)
    (hsequence : frame.sequence = s.nextTransmit e.activity) (hpayload : frame.payload = [])
    (htype : Reliability.isReliableType frame.type = true)
    (hvalid : validateFrame frame s.config.maxApplicationMessageSize = .ok) :
    Handshake.publishReliable (e.toRoot s) frame.type frame.acknowledgementSequence nextPhase =
      (.ok,
        { e.toRoot s with
          session.retainedReliableFrameType := frame.type
          session.retainedTransmitSequence := frame.sequence
          session.retransmissionsCommitted := 0
          session.reliableLastCommittedMs := 0
          encodedOutput := encodedFrame frame
          session.reliableState := .ready
          session.handshakePhase := nextPhase }) := by
  have hframe : ({
      type := frame.type
      sessionIdentifier := (e.toRoot s).session.sessionIdentifier
      sequence := s.nextTransmit e.activity
      acknowledgementSequence := frame.acknowledgementSequence
      payload := [] } : Frame) = frame := by
    simp [Endpoint.toRoot, Endpoint.toSession, hid, ← hsequence, ← hpayload]
  have hencode := encodeFrame_reliable s hvalid
  unfold Handshake.publishReliable
  rw [reserveSequence_toRoot e hi]
  with_reducible conv_lhs => whnf
  rw [if_neg (by simp), hframe]
  dsimp only
  rw [show encodeFrame frame
    (e.toRoot s).base.config.maxApplicationMessageSize (e.toRoot s).codecScratchSize
    (e.toRoot s).encodedOutputCapacity = _ from hencode]
  rw [if_neg (by simp), ← hsequence, publishEncoded_toRoot h hi htype hsequence hvalid]
  dsimp only
  rw [if_neg (by simp)]

theorem pendingPhaseIsValid_toRoot {e : Endpoint} {id : UInt64}
    (hid : e.activity.identifier = some id) (hvalid : sessionIdentifierIsValid id = true)
    (hlink : e.activity.linkState = .connected)
    (hstate : e.activity.sessionState = .connecting) :
    Handshake.pendingPhaseIsValid (e.toRoot s) = true := by
  simp [Handshake.pendingPhaseIsValid, Endpoint.toRoot, Endpoint.toSession, hid, hvalid, hlink,
    hstate]

/-- The frame that a PENDING phase owes to the peer is published. -/
theorem handshake_process_refines {e : Endpoint} (h : e.Wf s) :
    Handshake.process (e.toRoot s) = (.ok, e.publishHandshake.toRoot s) := by
  have hvalid := handshake_validateRoot h
  have hphase := @phase_toRoot _ s e
  have hwf := h.activity
  unfold Handshake.process
  rw [if_neg (not_fault_toRoot e), hvalid]
  with_reducible conv_lhs => whnf
  rw [if_neg (by simp), hphase]
  obtain ⟨activity, cursor, mode, modeValid, failure, abandoned, diagnostic, intake, events⟩ := e
  cases activity with
  | initiatePending id =>
      obtain ⟨hrole, hid⟩ := hwf
      have hpublish := @publishReliable_toRoot _ s _ h.activity rfl (s.initiateFrame id)
        .waitingForResponse rfl rfl rfl rfl (by
          simp [validateFrame, Setup.initiateFrame, frameTypeValid, ne_seedInvalid_of_isValid hid])
      have hpending := @pendingPhaseIsValid_toRoot _ s
        ⟨.initiatePending id, cursor, mode, modeValid, failure, abandoned, diagnostic, intake, events⟩
        id rfl hid rfl rfl
      rw [if_neg (by simp [hpending])]
      dsimp only [Activity.phase]
      rw [if_neg (by exact not_not.mpr hrole)]
      exact hpublish
  | responsePending id received =>
      obtain ⟨hrole, hid⟩ := hwf
      have hpublish := @publishReliable_toRoot _ s _ h.activity rfl (s.responseFrame id received)
        .waitingForConfirm rfl rfl rfl rfl (by
          simp [validateFrame, Setup.responseFrame, frameTypeValid, ne_seedInvalid_of_isValid hid])
      have hpending := @pendingPhaseIsValid_toRoot _ s
        ⟨.responsePending id received, cursor, mode, modeValid, failure, abandoned, diagnostic,
          intake, events⟩ id rfl hid rfl rfl
      rw [if_neg (by simp [hpending])]
      dsimp only [Activity.phase]
      rw [if_neg (by exact not_not.mpr hrole)]
      exact hpublish
  | confirmPending id received =>
      obtain ⟨hrole, hid⟩ := hwf
      have hpublish := @publishReliable_toRoot _ s _ h.activity rfl (s.confirmFrame id received)
        .waitingForConfirmAck rfl rfl rfl rfl (by
          simp [validateFrame, Setup.confirmFrame, frameTypeValid, ne_seedInvalid_of_isValid hid])
      have hpending := @pendingPhaseIsValid_toRoot _ s
        ⟨.confirmPending id received, cursor, mode, modeValid, failure, abandoned, diagnostic,
          intake, events⟩ id rfl hid rfl rfl
      rw [if_neg (by simp [hpending])]
      dsimp only [Activity.phase]
      rw [if_neg (by exact not_not.mpr hrole)]
      exact hpublish
  | _ =>
      rw [if_neg (by simp [Activity.phase])]
      rfl

/-! ## The retry timer -/

theorem mapStage_of_item_none {a : Activity} (hi : s.item a = none) (f : Stage → Stage) :
    a.mapStage f = a := by
  cases a with
  | established id x =>
      have hout : x.outgoing = none := by
        simpa [Setup.item] using hi
      simp [Activity.mapStage, hout]
      rw [← hout]
  | waitingForResponse id stage => cases hi
  | waitingForConfirm id received stage => cases hi
  | waitingForConfirmAck id received stage => cases hi
  | _ => rfl

theorem mapStage_of_fixed {a : Activity} {item : Item} (hi : s.item a = some item)
    {f : Stage → Stage} (hf : f item.stage = item.stage) : a.mapStage f = a := by
  cases a with
  | waitingForResponse id stage =>
      cases hi
      exact congrArg (Activity.waitingForResponse id) hf
  | waitingForConfirm id received stage =>
      cases hi
      exact congrArg (Activity.waitingForConfirm id received) hf
  | waitingForConfirmAck id received stage =>
      cases hi
      exact congrArg (Activity.waitingForConfirmAck id received) hf
  | established id x =>
      obtain ⟨⟨payload, stage⟩, hout, rfl⟩ := Option.map_eq_some_iff.mp hi
      have hstage : f stage = stage := hf
      simp only [Activity.mapStage, hout, Option.map_some, hstage]
      rw [← hout]
  | _ => cases hi

theorem item_mapStage (a : Activity) (f : Stage → Stage) :
    s.item (a.mapStage f) = (s.item a).map fun item => { item with stage := f item.stage } := by
  cases a with
  | established id x =>
      cases hout : x.outgoing <;> simp [Activity.mapStage, Setup.item, hout]
  | _ => rfl

/-- The timer makes the retained item due again, or exhausts it. -/
theorem processPending_refines {e : Endpoint} (h : e.activity.Wf s) (nowMs : UInt32) :
    ∃ outcome, Reliability.processPending (e.toRoot s) nowMs =
        (.ok, outcome,
          ({ e with activity := e.activity.mapStage (Endpoint.timeout s nowMs) } :
            Endpoint).toRoot s) ∧
      (outcome = .retriesExhausted →
        ({ e with activity := e.activity.mapStage (Endpoint.timeout s nowMs) } :
          Endpoint).exhausted s = true) := by
  have heq : Reliability.processPending (e.toRoot s) nowMs =
      if (e.toRoot s).session.reliableState ≠ .awaitingAck ∨ s.config.retransmitTimeoutMs = 0 then
        (.ok, .noChange, e.toRoot s)
      else if nowMs - (e.toRoot s).session.reliableLastCommittedMs
          < s.config.retransmitTimeoutMs then
        (.ok, .noChange, e.toRoot s)
      else Reliability.allowRetryOrExhaust (e.toRoot s) := by
    unfold Reliability.processPending
    rw [if_neg (by simp [hasStorage_toRoot]), reliability_validateState h]
    with_reducible conv_lhs => whnf
    rw [if_neg (by simp)]
    rfl
  rw [heq]
  cases hi : s.item e.activity with
  | none =>
      have hidle : (e.toRoot s).session.reliableState = .idle := by
        simp [Endpoint.toRoot, Endpoint.toSession, hi]
      rw [mapStage_of_item_none hi, if_pos (by simp [hidle])]
      exact ⟨.noChange, rfl, by simp⟩
  | some item =>
      have hstate : (e.toRoot s).session.reliableState = item.stage.state := by
        simp [Endpoint.toRoot, Endpoint.toSession, hi]
      have hretries : (e.toRoot s).session.retransmissionsCommitted = item.stage.retries := by
        simp [Endpoint.toRoot, Endpoint.toSession, hi]
      have hms : (e.toRoot s).session.reliableLastCommittedMs = item.stage.committedMs := by
        simp [Endpoint.toRoot, Endpoint.toSession, hi]
      have hmax : (e.toRoot s).base.config.maxRetries = s.config.maxRetries := rfl
      have hunchanged : Endpoint.timeout s nowMs item.stage = item.stage →
          ∃ outcome, ((.ok, .noChange, e.toRoot s) : Status × ReliabilityOutcome × Root) =
              (.ok, outcome,
                ({ e with activity := e.activity.mapStage (Endpoint.timeout s nowMs) } :
                  Endpoint).toRoot s) ∧
            (outcome = .retriesExhausted →
              ({ e with activity := e.activity.mapStage (Endpoint.timeout s nowMs) } :
                Endpoint).exhausted s = true) := by
        intro hstage
        rw [mapStage_of_fixed hi hstage]
        exact ⟨.noChange, rfl, by simp⟩
      by_cases hwaiting : ∃ retries ms, item.stage = .awaitingAck retries ms
      · obtain ⟨retries, ms, hst⟩ := hwaiting
        rw [hst] at hstate hretries hms
        have hfun : Endpoint.timeout s nowMs item.stage =
            if s.config.retransmitTimeoutMs = 0 ∨ nowMs - ms < s.config.retransmitTimeoutMs then
              item.stage
            else s.retry item.stage := by
          rw [hst]
          rfl
        by_cases hzero : s.config.retransmitTimeoutMs = 0
        · rw [if_pos (Or.inr hzero)]
          exact hunchanged (by rw [hfun, if_pos (Or.inl hzero)])
        rw [if_neg (by rw [hstate]; simp [Stage.state, hzero]), hms]
        by_cases hearly : nowMs - ms < s.config.retransmitTimeoutMs
        · rw [if_pos (by exact hearly)]
          exact hunchanged (by rw [hfun, if_pos (Or.inr hearly)])
        rw [if_neg (by exact hearly)]
        rw [if_neg (by simp [hzero, hearly])] at hfun
        rw [toRoot_retry e hi hfun]
        unfold Reliability.allowRetryOrExhaust
        rw [hretries, hmax, hst]
        by_cases hleft : retries < s.config.maxRetries
        · have hretry : s.retry (.awaitingAck retries ms) = .retransmitReady retries ms :=
            if_pos hleft
          rw [if_pos (by exact hleft), hretry]
          exact ⟨.retransmitReady, rfl, by simp⟩
        · have hretry : s.retry (.awaitingAck retries ms) = .exhausted retries ms := if_neg hleft
          rw [if_neg (by exact hleft), hretry]
          refine ⟨.retriesExhausted, rfl, fun _ => ?_⟩
          unfold Endpoint.exhausted
          rw [item_mapStage, hi]
          dsimp only [Option.map_some, Option.elim_some]
          rw [hfun, hst, hretry]
          rfl
      · have hother : item.stage.state ≠ .awaitingAck := by
          cases hst : item.stage with
          | awaitingAck retries ms => exact absurd ⟨retries, ms, hst⟩ hwaiting
          | _ => simp [Stage.state]
        rw [if_pos (Or.inl (by rw [hstate]; exact hother))]
        apply hunchanged
        cases hst : item.stage with
        | awaitingAck retries ms => exact absurd ⟨retries, ms, hst⟩ hwaiting
        | _ => rfl

/-! ## The end of a session -/

theorem exhausted_toRoot (e : Endpoint) :
    (e.toRoot s).session.reliableState = .exhausted ↔ e.exhausted s = true := by
  unfold Endpoint.exhausted
  cases hi : s.item e.activity with
  | none => simp [Endpoint.toRoot, Endpoint.toSession, hi]
  | some item => simp [Endpoint.toRoot, Endpoint.toSession, hi]

/-- An exhausted message is reported once there is a place for it; its session ends. -/
theorem handleRetryExhaustion_refines {e : Endpoint} (h : e.Wf s) {id : UInt64} {x : Exchange}
    (ha : e.activity = .established id x) {payload : List UInt8} {stage : Stage}
    (hout : x.outgoing = some (payload, stage)) (hstate : stage.state = .exhausted) :
    Application.handleRetryExhaustion (e.toRoot s) = rooted s e.giveUp := by
  have hpayload : payload ≠ [] := by
    have hwf := h.activity
    rw [ha] at hwf
    exact (hwf.2.outgoing payload stage hout).1.1
  have hvalid : ¬ (¬ Application.hasRequiredStorage (e.toRoot s) = true ∨
      ((e.toRoot s).session.reliableState ≠ .exhausted ∨
        (e.toRoot s).session.retainedReliableFrameType ≠ .applicationMessage ∨
        (e.toRoot s).submittedMessagePending = 0 ∨ (e.toRoot s).submittedMessage.length = 0)) := by
    rw [hasRequiredStorage_toRoot]
    simp [Endpoint.toRoot, Endpoint.toSession, ha, Setup.item, hout, hstate,
      Application.applicationFrame, Activity.submitted, hpayload]
  have hpublish := @publish_refines _ s e h.events
    Endpoint.failedEvent rfl
  have hgive : e.giveUp =
      let published := e.publish Endpoint.failedEvent
      if published.1 = .ok then (.deliveryFailed, (published.2.beginLocalRecovery .delivery).2)
      else (.capacityExhausted, e) := by
    unfold Endpoint.giveUp
    rw [ha]
  unfold Application.handleRetryExhaustion Application.publishDeliveryEvent
  rw [if_neg hvalid, show Events.publish (e.toRoot s)
    { type := .deliveryFailed, status := .deliveryFailed, failure := .delivery,
      requiredCapacity := 0 } = _ from hpublish, hgive]
  have hconnected : (e.publish Endpoint.failedEvent).2.activity.linkState = .connected := by
    rw [(Endpoint.publish_fields e _).1, ha]
    rfl
  have hwf := @Endpoint.wf_publish _ s e h Endpoint.failedEvent rfl
  have hrecovery := beginLocalRecovery_refines hwf hconnected (Or.inr (Or.inr rfl))
  have hstatus := Endpoint.publish_status e Endpoint.failedEvent
  cases hfull : e.events.full with
  | true =>
      rw [hfull] at hstatus
      have hsame : (e.publish Endpoint.failedEvent).2 = e := by
        unfold Endpoint.publish
        rw [if_pos hfull]
      dsimp only at hstatus ⊢
      rw [hstatus, if_pos rfl, if_pos rfl, if_neg (by simp), hsame]
      rfl
  | false =>
      rw [hfull] at hstatus
      dsimp only at hstatus ⊢
      have hrecovered : ((e.publish Endpoint.failedEvent).2.beginLocalRecovery .delivery).1 =
          if (e.publish Endpoint.failedEvent).2.events.full then .capacityExhausted else .ok :=
        abandon_status _ _ _
      rw [hstatus, if_neg (by simp), if_neg (by simp), hrecovery]
      generalize (e.publish Endpoint.failedEvent).2.beginLocalRecovery .delivery = recovered
        at hrecovered
      obtain ⟨status, next⟩ := recovered
      dsimp only at hrecovered ⊢
      rw [hrecovered, if_neg (by split_ifs <;> simp), if_neg (by split_ifs <;> simp)]
      rfl

/-- The policy for exhausted retries: a message is reported, a handshake given up. -/
theorem giveUp_refines {e : Endpoint} (h : e.Wf s) (hexhausted : e.exhausted s = true) :
    (if (e.toRoot s).session.retainedReliableFrameType = .applicationMessage then
        Application.handleRetryExhaustion (e.toRoot s)
      else if (e.toRoot s).session.retainedReliableFrameType = .initiate
          ∨ (e.toRoot s).session.retainedReliableFrameType = .response
          ∨ (e.toRoot s).session.retainedReliableFrameType = .confirm then
        Handshake.beginLocalRecovery (e.toRoot s) .delivery
      else (.ok, e.toRoot s)) = rooted s e.giveUp := by
  have hstate := (@exhausted_toRoot _ s e).mpr hexhausted
  have hfailure : IsAbandonment .delivery := Or.inr (Or.inr rfl)
  unfold Endpoint.exhausted at hexhausted
  unfold Endpoint.giveUp
  cases ha : e.activity with
  | established id x =>
      rw [ha] at hexhausted
      obtain ⟨item, hi, hstage⟩ : ∃ item, s.item (.established id x) = some item ∧
          item.stage.state = .exhausted := by
        cases hi : s.item (.established id x) with
        | none =>
            rw [hi] at hexhausted
            cases hexhausted
        | some item =>
            rw [hi] at hexhausted
            exact ⟨item, rfl, by simpa using hexhausted⟩
      obtain ⟨⟨payload, stage⟩, hout, rfl⟩ := Option.map_eq_some_iff.mp hi
      have hgive := handleRetryExhaustion_refines h ha hout hstage
      unfold Endpoint.giveUp at hgive
      rw [ha] at hgive
      rw [if_pos (by simp [Endpoint.toRoot, Endpoint.toSession, ha, Setup.item, hout,
        Application.applicationFrame])]
      exact hgive
  | waitingForResponse id stage =>
      have hlink : e.activity.linkState = .connected := by rw [ha]; rfl
      rw [if_neg (by simp [Endpoint.toRoot, Endpoint.toSession, ha, Setup.item,
        Setup.initiateFrame]), if_pos (Or.inl (by simp [Endpoint.toRoot, Endpoint.toSession, ha,
          Setup.item, Setup.initiateFrame]))]
      exact beginLocalRecovery_refines h hlink hfailure
  | waitingForConfirm id received stage =>
      have hlink : e.activity.linkState = .connected := by rw [ha]; rfl
      rw [if_neg (by simp [Endpoint.toRoot, Endpoint.toSession, ha, Setup.item,
        Setup.responseFrame]), if_pos (Or.inr (Or.inl (by simp [Endpoint.toRoot,
          Endpoint.toSession, ha, Setup.item, Setup.responseFrame])))]
      exact beginLocalRecovery_refines h hlink hfailure
  | waitingForConfirmAck id received stage =>
      have hlink : e.activity.linkState = .connected := by rw [ha]; rfl
      rw [if_neg (by simp [Endpoint.toRoot, Endpoint.toSession, ha, Setup.item,
        Setup.confirmFrame]), if_pos (Or.inr (Or.inr (by simp [Endpoint.toRoot,
          Endpoint.toSession, ha, Setup.item, Setup.confirmFrame])))]
      exact beginLocalRecovery_refines h hlink hfailure
  | _ =>
      rw [ha] at hexhausted
      cases hexhausted

/-! ## The call -/

/-- One handshake publication, one timer step and the end of exhausted retries. -/
theorem progress_refines {e : Endpoint} (h : e.Wf s) (nowMs : UInt32) :
    Profile.progressHandshakeAndRetries (e.toRoot s) nowMs = rooted s (e.progress s nowMs) := by
  have hpublished := Endpoint.wf_publishHandshake h
  have htimed : ({ e.publishHandshake with
      activity := e.publishHandshake.activity.mapStage (Endpoint.timeout s nowMs) } :
        Endpoint).Wf s :=
    Endpoint.wf_mapTimeout hpublished nowMs
  obtain ⟨outcome, hpending, hexhausted⟩ := processPending_refines hpublished.activity nowMs
  unfold Profile.progressHandshakeAndRetries Endpoint.progress
  rw [handshake_process_refines h]
  with_reducible conv_lhs => whnf
  rw [if_neg (by simp), hpending]
  with_reducible conv_lhs => whnf
  rw [if_neg (by simp)]
  dsimp only
  generalize ({ e.publishHandshake with
    activity := e.publishHandshake.activity.mapStage (Endpoint.timeout s nowMs) } :
      Endpoint) = timed at hexhausted htimed ⊢
  have hiff := @exhausted_toRoot _ s timed
  by_cases hgive : timed.exhausted s = true
  · rw [if_pos (Or.inr (hiff.mpr hgive)), if_pos hgive]
    exact giveUp_refines htimed hgive
  · rw [if_neg (by rintro (hout | hout); exacts [hgive (hexhausted hout), hgive (hiff.mp hout)]),
      if_neg hgive]
    rfl

/-- `Process` after the receive work. -/
theorem processSettled_refines {e : Endpoint} (h : Endpoint.WfConnected s e)
    (hs : Endpoint.Settled e) (nowMs : UInt32) :
    (if (e.toRoot s).base.sessionState = .recovering ∨ (e.toRoot s).session.state = .recovering then
        if (e.toRoot s).base.sessionState ≠ (e.toRoot s).session.state then
          recordInvariantFailure (e.toRoot s)
        else
          let (status, controlPending, root) := ControlOutput.getPendingStatus (e.toRoot s)
          if status ≠ .ok then (status, root)
          else if controlPending then (.ok, root)
          else if root.parser.accumulated.length ≠ 0 ∨ root.parser.discarding ≠ 0 then (.ok, root)
          else
            let (status, root) := Session.beginEstablishment root
            if status ≠ .ok then (status, root)
            else Profile.progressHandshakeAndRetries root nowMs
      else Profile.progressHandshakeAndRetries (e.toRoot s) nowMs) =
      rooted s (e.processSettled s nowMs) := by
  unfold Endpoint.processSettled
  cases ha : e.activity with
  | recovering reset =>
      rw [if_pos (by simp [Endpoint.toRoot, ha, Activity.sessionState]),
        if_neg (by simp [Endpoint.toRoot, Endpoint.toSession]),
        controlOutput_getPendingStatus h.wf.activity]
      dsimp only
      rw [if_neg (by simp)]
      cases reset with
      | some pending =>
          rw [if_pos (by simp [ha, Activity.controlItem])]
          rfl
      | none =>
          rw [if_neg (by simp [ha, Activity.controlItem])]
          dsimp only
          by_cases hi : e.intake = .filling []
          · rw [if_neg (by simp [Endpoint.toRoot, hi, Intake.toParser, Intake.accumulated]),
              if_pos hi, beginEstablishment_refines h.wf ha hi hs.diagnostic]
            dsimp only
            rw [if_neg (by simp)]
            exact progress_refines (Endpoint.wf_beginEstablishment h.wf) nowMs
          · have hbusy : (e.toRoot s).parser.accumulated.length ≠ 0 ∨
                (e.toRoot s).parser.discarding ≠ 0 := by
              have hready := hs.intake
              cases hk : e.intake with
              | filling bytes =>
                  have hne : bytes ≠ [] := fun hnil => hi (by rw [hk, hnil])
                  simp [Endpoint.toRoot, hk, Intake.toParser, Intake.accumulated, hne]
              | ready body =>
                  rw [hk] at hready
                  cases hready
              | discarding => simp [Endpoint.toRoot, hk, Intake.toParser]
            rw [if_pos hbusy, if_neg hi]
            rfl
  | _ =>
      rw [if_neg (by simp [Endpoint.toRoot, Endpoint.toSession, ha, Activity.sessionState])]
      exact progress_refines h.wf nowMs

/-- The receive work that comes first, if there is any. -/
def receiveWork (s : Setup) (e : Endpoint) : Status × Endpoint :=
  if e.diagnosticPending = true ∨ e.intake.isReady = true then e.settle s else (.ok, e)

theorem wf_receiveWork {e : Endpoint} (h : Endpoint.WfConnected s e) :
    Endpoint.WfConnected s (receiveWork s e).2 := by
  unfold receiveWork
  split_ifs
  · exact Endpoint.wf_settle h
  · exact h

theorem settled_receiveWork {e : Endpoint} (hok : (receiveWork s e).1 = .ok) :
    Endpoint.Settled (receiveWork s e).2 := by
  unfold receiveWork at hok ⊢
  split_ifs at hok ⊢ with hwork
  · exact Endpoint.settled_settle hok
  · rw [not_or] at hwork
    exact ⟨by simpa using hwork.1, by simpa using hwork.2⟩

theorem receiveWork_refines {e : Endpoint} (h : Endpoint.WfConnected s e) :
    (if (e.toRoot s).receiveProtocolErrorPending ≠ 0 ∨ (e.toRoot s).parser.bodyReady ≠ 0 then
        ((Receive.receiveBytes (e.toRoot s) []).1, (Receive.receiveBytes (e.toRoot s) []).2.2)
      else (.ok, e.toRoot s)) = rooted s (receiveWork s e) := by
  have hwork : ((e.toRoot s).receiveProtocolErrorPending ≠ 0 ∨
      (e.toRoot s).parser.bodyReady ≠ 0) ↔
        (e.diagnosticPending = true ∨ e.intake.isReady = true) := by
    cases hd : e.diagnosticPending <;> cases hi : e.intake <;>
      simp [Endpoint.toRoot, hd, hi, Intake.toParser, Intake.isReady]
  unfold receiveWork
  by_cases hsome : e.diagnosticPending = true ∨ e.intake.isReady = true
  · rw [if_pos (hwork.mpr hsome), if_pos hsome, receiveBytes_refines h.wf]
    unfold Endpoint.receiveBytes
    rw [if_neg (by rw [h.linkState]; simp)]
    dsimp only
    by_cases hok : (e.settle s).1 ≠ .ok
    · rw [if_pos hok]
      rfl
    · rw [if_neg hok]
      rw [not_not] at hok
      unfold rootedBytes rooted
      rw [hok]
      rfl
  · rw [if_neg (fun hroot => hsome (hwork.mp hroot)), if_neg hsome]
    rfl

/-- `Process` -/
theorem process_refines {e : Endpoint} (h : e.Wf s) (nowMs : UInt32)
    (operatingMode : OperatingMode) :
    Profile.process (e.toRoot s) nowMs operatingMode =
      rooted s (e.process s nowMs operatingMode) := by
  unfold Profile.process Endpoint.process
  by_cases hlisted : operatingMode.isListed = true
  · rw [if_neg (not_not.mpr hlisted), if_pos hlisted]
    have hmode : ({ e with operatingMode := operatingMode, operatingModeValid := true } :
        Endpoint).Wf s :=
      { h with operatingMode := hlisted }
    have hroot : ({ e.toRoot s with
        base.operatingMode := operatingMode, base.operatingModeValid := 1 } : Root) =
          ({ e with operatingMode := operatingMode, operatingModeValid := true } :
            Endpoint).toRoot s := rfl
    rw [hroot]
    generalize ({ e with operatingMode := operatingMode, operatingModeValid := true } :
      Endpoint) = e at hmode
    dsimp only
    rw [if_neg (not_fault_toRoot e), if_neg (by simp [Endpoint.toRoot, Endpoint.toSession])]
    by_cases hlink : e.activity.linkState = .disconnected
    · rw [if_pos (by exact hlink), if_pos hlink]
      rfl
    have hconnected : Endpoint.WfConnected s e := ⟨hmode, Endpoint.linkState_connected hlink⟩
    have hwf := wf_receiveWork hconnected
    have hsettled := @settled_receiveWork _ s e
    rw [if_neg (by exact hlink), if_neg hlink, receiveWork_refines hconnected]
    show _ = rooted s (if (receiveWork s e).1 ≠ .ok then
      ((receiveWork s e).1, (receiveWork s e).2) else (receiveWork s e).2.processSettled s nowMs)
    unfold rooted
    generalize receiveWork s e = work at hwf hsettled
    obtain ⟨status, e⟩ := work
    dsimp only at hwf hsettled ⊢
    by_cases hok : status ≠ .ok
    · rw [if_pos hok, if_pos hok]
    · rw [if_neg hok, if_neg hok]
      exact processSettled_refines hwf (hsettled (not_not.mp hok)) nowMs
  · rw [if_pos hlisted, if_neg hlisted]
    rfl

end

end HilRigProtocol.Transport
