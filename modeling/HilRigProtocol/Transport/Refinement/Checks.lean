/-
  The consistency checks of the code hold on the root of a well-formed endpoint.
-/
import HilRigProtocol.Transport.EndpointStep

namespace HilRigProtocol.Transport

theorem ne_seedInvalid_of_isValid {id : UInt64} (h : sessionIdentifierIsValid id = true) :
    id ≠ sessionSeedInvalid := by
  intro heq
  rw [heq] at h
  cases h

theorem ne_seedReserved_of_isValid {id : UInt64} (h : sessionIdentifierIsValid id = true) :
    id ≠ sessionSeedReserved := by
  intro heq
  rw [heq] at h
  cases h

/-- A state that the reliability module accepts, from the stage of the item. -/
theorem Stage.counters_valid {stage : Stage} {maxRetries : UInt8} (h : stage.Wf maxRetries) :
    ¬ stage.retries > maxRetries ∧
      ((stage.state = .ready ∨ stage.state = .peeked) → stage.retries = 0 ∧ stage.committedMs = 0) ∧
      ((stage.state = .retransmitReady ∨ stage.state = .retransmitPeeked) →
        ¬ stage.retries ≥ maxRetries) ∧
      (stage.state = .exhausted → stage.retries = maxRetries) := by
  cases stage <;> simp_all [Stage.Wf, Stage.state, Stage.retries, Stage.committedMs]
  · exact UInt8.le_of_lt h
  · exact UInt8.le_of_lt h

theorem Stage.state_isListed (stage : Stage) : stage.state.isListed = true := by
  cases stage <;> rfl

theorem Stage.state_ne_idle (stage : Stage) : stage.state ≠ .idle := by
  cases stage <;> simp [Stage.state]

theorem parser_stateIsValid {intake : Intake} {capacity : Nat} (hpos : capacity ≠ 0)
    (h : intake.Wf capacity) : (intake.toParser capacity).stateIsValid = true := by
  cases intake with
  | filling bytes =>
      have hle : bytes.length ≤ capacity := h
      simp [Parser.stateIsValid, Intake.toParser, Intake.accumulated, hpos, hle]
  | ready body =>
      obtain ⟨hne, hle⟩ := h
      simp [Parser.stateIsValid, Intake.toParser, Intake.accumulated, hpos, hle, hne]
  | discarding => simp [Parser.stateIsValid, Intake.toParser, Intake.accumulated, hpos]

theorem Activity.linkState_isListed (a : Activity) : a.linkState.isListed = true := by
  cases a <;> rfl

theorem Activity.sessionState_isListed (a : Activity) : a.sessionState.isListed = true := by
  cases a <;> rfl

theorem Activity.sessionState_ne_fault (a : Activity) : a.sessionState ≠ .fault := by
  cases a <;> simp [Activity.sessionState]

theorem Activity.phase_isListed (a : Activity) : a.phase.isListed = true := by
  cases a <;> rfl

section
variable [Target] {s : Setup}

/-! ## The setup -/

theorem Setup.frameSize_pos (s : Setup) : controlOutputCapacity < s.config.maxEncodedFrameSize := by
  have := s.frameSize_ge
  have := s.message_pos
  simp only [rawOverhead, controlOutputCapacity] at *
  omega

theorem Setup.role_isListed (s : Setup) : s.role.isListed = true := by
  rcases s.role_cases with h | h <;> rw [h] <;> rfl

/-! ## The frames of an endpoint -/

/-- The reliable item of a well-formed activity passes the codec's checks. -/
theorem item_wf {a : Activity} (ha : a.Wf s) {item : Item} (hi : s.item a = some item) :
    item.stage.Wf s.config.maxRetries ∧ item.frame.sequence = s.nextTransmit a ∧
      Reliability.isReliableType item.frame.type = true ∧
      validateFrame item.frame s.config.maxApplicationMessageSize = .ok := by
  cases a with
  | waitingForResponse id stage =>
      obtain ⟨_, hid, hstage⟩ := ha
      cases hi
      exact ⟨hstage, rfl, rfl, by
        simp [validateFrame, Setup.initiateFrame, frameTypeValid, ne_seedInvalid_of_isValid hid]⟩
  | waitingForConfirm id received stage =>
      obtain ⟨_, hid, hstage⟩ := ha
      cases hi
      exact ⟨hstage, rfl, rfl, by
        simp [validateFrame, Setup.responseFrame, frameTypeValid, ne_seedInvalid_of_isValid hid]⟩
  | waitingForConfirmAck id received stage =>
      obtain ⟨_, hid, hstage⟩ := ha
      cases hi
      exact ⟨hstage, rfl, rfl, by
        simp [validateFrame, Setup.confirmFrame, frameTypeValid, ne_seedInvalid_of_isValid hid]⟩
  | established id x =>
      obtain ⟨hid, hx⟩ := ha
      obtain ⟨⟨payload, stage⟩, hout, rfl⟩ := Option.map_eq_some_iff.mp hi
      obtain ⟨⟨hne, hle⟩, hstage⟩ := hx.outgoing payload stage hout
      refine ⟨hstage, rfl, rfl, ?_⟩
      simp [validateFrame, Application.applicationFrame, frameTypeValid,
        ne_seedInvalid_of_isValid hid, hne, Nat.not_lt.mpr hle]
  | _ => cases hi

/-- The control item of a well-formed activity passes the codec's checks. -/
theorem controlItem_wf {a : Activity} (ha : a.Wf s) {item : ControlItem}
    (hi : a.controlItem = some item) :
    item.frame.payload = [] ∧
      validateFrame item.frame s.config.maxApplicationMessageSize = .ok := by
  cases a with
  | recovering reset =>
      obtain ⟨r, hreset, rfl⟩ := Option.map_eq_some_iff.mp hi
      refine ⟨rfl, ?_⟩
      simp [validateFrame, Handshake.controlFrame, frameTypeValid,
        ne_seedInvalid_of_isValid (ha r hreset)]
  | established id x =>
      obtain ⟨pinned, hack, rfl⟩ := Option.map_eq_some_iff.mp hi
      refine ⟨rfl, ?_⟩
      simp [validateFrame, Handshake.controlFrame, frameTypeValid, ne_seedInvalid_of_isValid ha.1]
  | _ => cases hi

theorem length_encodedFrame_le_frameSize (s : Setup) {frame : Frame}
    (h : validateFrame frame s.config.maxApplicationMessageSize = .ok) :
    (encodedFrame frame).length ≤ s.config.maxEncodedFrameSize :=
  le_trans (length_encodedFrame_le (length_payload_le_of_validateFrame h)) s.frameSize_ge

/-- Any frame that passes the checks fits the reliable output. -/
theorem encodeFrame_reliable (s : Setup) {frame : Frame}
    (h : validateFrame frame s.config.maxApplicationMessageSize = .ok) :
    encodeFrame frame s.config.maxApplicationMessageSize
        (s.config.maxApplicationMessageSize + rawOverhead) s.config.maxEncodedFrameSize =
      (.ok, encodedFrame frame) := by
  have := length_payload_le_of_validateFrame h
  exact encodeFrame_eq h (by omega) s.rawSize_le (length_encodedFrame_le_frameSize s h)
    s.frameSize_le

/-- A frame without payload that passes the checks fits the control output. -/
theorem encodeFrame_control (s : Setup) {frame : Frame} (hpayload : frame.payload = [])
    (h : validateFrame frame s.config.maxApplicationMessageSize = .ok) :
    encodeFrame frame s.config.maxApplicationMessageSize
        (s.config.maxApplicationMessageSize + rawOverhead) controlOutputCapacity =
      (.ok, encodedFrame frame) := by
  have := s.frameSize_pos
  have := s.frameSize_le
  exact encodeFrame_eq h (by simp [hpayload]) s.rawSize_le
    (length_encodedFrame_of_payload_nil hpayload) (by omega)

/-! ## The modules' state checks -/

theorem hasStorage_toRoot (e : Endpoint) : Reliability.hasStorage (e.toRoot s) = true := by
  have := s.frameSize_pos
  simp only [Reliability.hasStorage, Endpoint.toRoot, Bool.and_eq_true, bne_iff_ne, ne_eq,
    beq_self_eq_true, and_true]
  exact ⟨s.encodedOutput_ne, by omega⟩

theorem reliability_stateIsValid {e : Endpoint} (h : e.activity.Wf s) :
    Reliability.stateIsValid (e.toRoot s) = true := by
  cases hi : s.item e.activity with
  | none =>
      simp [Reliability.stateIsValid, Endpoint.toRoot, Endpoint.toSession, hi, ReliableState.isListed]
  | some item =>
      obtain ⟨hstage, hsequence, htype, hvalid⟩ := item_wf h hi
      obtain ⟨hmax, hready, hretransmit, hexhausted⟩ := Stage.counters_valid hstage
      have hpos := length_encodedFrame_pos item.frame
      have hlen := length_encodedFrame_le_frameSize s hvalid
      have hstate : (e.toRoot s).session.reliableState = item.stage.state := by
        simp [Endpoint.toRoot, Endpoint.toSession, hi]
      have hretries : (e.toRoot s).session.retransmissionsCommitted = item.stage.retries := by
        simp [Endpoint.toRoot, Endpoint.toSession, hi]
      have hms : (e.toRoot s).session.reliableLastCommittedMs = item.stage.committedMs := by
        simp [Endpoint.toRoot, Endpoint.toSession, hi]
      have hout : (e.toRoot s).encodedOutput = encodedFrame item.frame := by
        simp [Endpoint.toRoot, hi]
      have htype' : (e.toRoot s).session.retainedReliableFrameType = item.frame.type := by
        simp [Endpoint.toRoot, Endpoint.toSession, hi]
      have hseq : (e.toRoot s).session.retainedTransmitSequence =
          (e.toRoot s).session.nextTransmitSequence := by
        simp [Endpoint.toRoot, Endpoint.toSession, hi, hsequence]
      have hconfig : (e.toRoot s).base.config = s.config := rfl
      have hcap : (e.toRoot s).encodedOutputCapacity = s.config.maxEncodedFrameSize := rfl
      unfold Reliability.stateIsValid
      simp only [hstate, hretries, hms, hout, htype', hseq, hconfig, hcap]
      rw [if_neg (by simp [Stage.state_isListed]; exact UInt8.not_lt.mp hmax),
        if_neg item.stage.state_ne_idle, if_neg (by rintro (h0 | h0 | h0 | h0) <;> first | omega | exact h0 htype | exact h0 rfl),
        if_neg (fun hc => by simp [hready hc.1] at hc), if_neg (fun hc => hretransmit hc.1 hc.2),
        if_neg (fun hc => hc.2 (hexhausted hc.1))]

theorem controlOutput_stateIsValid {e : Endpoint} (h : e.activity.Wf s) :
    ControlOutput.stateIsValid (e.toRoot s) = true := by
  cases hi : e.activity.controlItem with
  | none => simp [ControlOutput.stateIsValid, Endpoint.toRoot, hi]
  | some item =>
      have hpos := length_encodedFrame_pos item.frame
      have hlen := length_encodedFrame_of_payload_nil (controlItem_wf h hi).1
      have : (encodedFrame item.frame).length ≠ 0 ∧
          (encodedFrame item.frame).length ≤ controlOutputCapacity := ⟨by omega, hlen⟩
      cases hp : item.pinned <;>
        simpa [ControlOutput.stateIsValid, Endpoint.toRoot, hi, hp] using this

/-- At most one of the two outputs is pinned. -/
theorem not_both_pinned {e : Endpoint} (h : e.activity.Wf s) (hr : e.reliablePinned s = true) :
    e.controlPinned = false := by
  unfold Endpoint.reliablePinned at hr
  unfold Endpoint.controlPinned
  cases ha : e.activity with
  | established id x =>
      rw [ha] at h hr
      simp only [Setup.item, Activity.controlItem] at hr ⊢
      cases ho : x.outgoing with
      | none => simp [ho] at hr
      | some outgoing =>
          obtain ⟨payload, stage⟩ := outgoing
          simp only [ho, Option.map_some, Option.elim_some] at hr
          have := h.2.one_pin payload stage ho hr
          cases hack : x.acknowledgement with
          | none => rfl
          | some pinned =>
              cases pinned with
              | false => rfl
              | true => exact absurd hack this
  | recovering reset =>
      rw [ha] at hr
      simp [Setup.item] at hr
  | _ => rfl

theorem events_stateIsValid {e : Endpoint} (h : e.events.Wf) :
    Events.stateIsValid (e.toRoot s) = true := by
  simp only [Events.stateIsValid, Endpoint.toRoot, Bool.and_eq_true, List.all_eq_true,
    List.mem_range]
  exact ⟨⟨decide_eq_true h.readIndex_lt, decide_eq_true h.count_le⟩, h.valid⟩

theorem completedConfirmMetadataIsValid_toRoot {e : Endpoint} (h : e.activity.Wf s) :
    Session.completedConfirmMetadataIsValid (e.toRoot s) = true := by
  cases hc : s.completedConfirm e.activity with
  | none => simp [Session.completedConfirmMetadataIsValid, Endpoint.toRoot, Endpoint.toSession, hc]
  | some sequence =>
      cases ha : e.activity with
      | established id x =>
          rw [ha] at h hc
          have hhost : s.role = .host := by
            by_contra hne
            simp [Setup.completedConfirm, hne] at hc
          simp [Session.completedConfirmMetadataIsValid, Endpoint.toRoot, Endpoint.toSession, ha, hc,
            hhost, Activity.sessionState, Activity.phase, Activity.identifier, h.1]
      | _ => simp [ha, Setup.completedConfirm] at hc

theorem recentlyAbandonedMetadataIsValid_toRoot {e : Endpoint}
    (h : ∀ id, e.abandoned = some id → sessionIdentifierIsValid id = true) :
    Session.recentlyAbandonedMetadataIsValid (e.toRoot s) = true := by
  cases ha : e.abandoned with
  | none => simp [Session.recentlyAbandonedMetadataIsValid, Endpoint.toRoot, ha]
  | some id => simp [Session.recentlyAbandonedMetadataIsValid, Endpoint.toRoot, ha, h id ha]

/-! ## The checks on the whole root -/

theorem handshake_rootIsValid {e : Endpoint} (h : e.Wf s) :
    Handshake.rootIsValid (e.toRoot s) = true := by
  have hconfirm := completedConfirmMetadataIsValid_toRoot h.activity
  unfold Handshake.rootIsValid
  rw [hconfirm]
  cases hid : e.activity.identifier <;>
    simp [Endpoint.toRoot, Endpoint.toSession, s.role_isListed, Activity.linkState_isListed,
      Activity.sessionState_isListed, Activity.phase_isListed, hid]

theorem abandonRootIsValid_toRoot {e : Endpoint} (h : e.activity.Wf s) :
    Session.abandonRootIsValid (e.toRoot s) = true := by
  have hconfirm := completedConfirmMetadataIsValid_toRoot h
  unfold Session.abandonRootIsValid
  rw [hconfirm]
  cases ho : e.activity.observed <;>
    simp [Endpoint.toRoot, Endpoint.toSession, s.role_isListed, Activity.linkState_isListed,
      Activity.sessionState_isListed, ho]

theorem notifyRootIsValid_toRoot {e : Endpoint} (h : e.activity.Wf s) :
    Session.notifyRootIsValid (e.toRoot s) = true := by
  have hconfirm := completedConfirmMetadataIsValid_toRoot h
  unfold Session.notifyRootIsValid
  rw [hconfirm]
  cases ho : e.activity.observed <;>
    simp [Endpoint.toRoot, Endpoint.toSession, s.role_isListed, Activity.linkState_isListed,
      Activity.sessionState_isListed, ho]

theorem establishmentRootIsValid_toRoot {e : Endpoint} (h : e.Wf s) :
    Session.establishmentRootIsValid (e.toRoot s) = true := by
  have hconfirm := completedConfirmMetadataIsValid_toRoot h.activity
  have habandoned : Session.recentlyAbandonedMetadataIsValid (e.toRoot s) = true :=
    recentlyAbandonedMetadataIsValid_toRoot h.abandoned
  unfold Session.establishmentRootIsValid
  rw [hconfirm, habandoned]
  cases ho : e.activity.observed <;>
    simp [Endpoint.toRoot, Endpoint.toSession, s.role_isListed, Activity.linkState_isListed,
      Activity.sessionState_isListed, ho]

theorem statusMetadataIsValid_toRoot {e : Endpoint} (h : e.Wf s) :
    Profile.statusMetadataIsValid (e.toRoot s) = true := by
  have hconfirm := completedConfirmMetadataIsValid_toRoot h.activity
  unfold Profile.statusMetadataIsValid
  rw [hconfirm]
  cases hm : e.operatingModeValid <;>
    simp [Endpoint.toRoot, Endpoint.toSession, s.role_isListed, Activity.linkState_isListed,
      Activity.sessionState_isListed, h.operatingMode, h.lastFailure, hm]

theorem receive_rootIsValid {e : Endpoint} (h : e.Wf s) :
    Receive.rootIsValid (e.toRoot s) = true := by
  have hconfirm := completedConfirmMetadataIsValid_toRoot h.activity
  have habandoned : Session.recentlyAbandonedMetadataIsValid (e.toRoot s) = true :=
    recentlyAbandonedMetadataIsValid_toRoot h.abandoned
  have hmessage := s.message_pos
  have hframe := s.frameSize_pos
  have hraw := s.rawSize_le
  unfold Receive.rootIsValid
  rw [hconfirm, habandoned]
  have h1 : s.config.maxApplicationMessageSize ≠ 0 := by omega
  have h2 : s.config.maxEncodedFrameSize ≠ 0 := by omega
  have h3 : s.config.maxApplicationMessageSize ≤ Target.sizeMax - rawOverhead := by omega
  cases hd : e.diagnosticPending <;> cases hr : e.activity.recoveryReset <;>
    simp [Endpoint.toRoot, Endpoint.toSession, s.role_isListed, Activity.linkState_isListed,
      Activity.sessionState_isListed, Activity.sessionState_ne_fault, s.codecScratch_ne, h1, h2, h3,
      hd, hr, Intake.toParser]

theorem parser_stateIsValid_toRoot {e : Endpoint} (h : e.Wf s) :
    (e.toRoot s).parser.stateIsValid = true := by
  have := s.frameSize_pos
  exact parser_stateIsValid (by simp only [controlOutputCapacity] at this; omega) h.intake

theorem receivedMessageMetadataIsValid_toRoot {e : Endpoint} (h : e.activity.Wf s) :
    Application.receivedMessageMetadataIsValid (e.toRoot s) = true := by
  cases hu : e.activity.unread with
  | none => simp [Application.receivedMessageMetadataIsValid, Endpoint.toRoot, hu]
  | some payload =>
      cases ha : e.activity with
      | established id x =>
          rw [ha] at h hu
          obtain ⟨hne, hle⟩ := h.2.unread payload hu
          have hu' : x.unread = some payload := hu
          simp [Application.receivedMessageMetadataIsValid, Endpoint.toRoot, ha, Activity.unread, hu',
            hne, Nat.not_lt.mpr hle]
      | _ => simp [ha, Activity.unread] at hu

theorem hasRequiredStorage_toRoot (e : Endpoint) :
    Application.hasRequiredStorage (e.toRoot s) = true := by
  have hmessage := s.message_pos
  have hframe := s.frameSize_pos
  have hraw := s.rawSize_le
  have h1 : s.config.maxApplicationMessageSize ≠ 0 := by omega
  have h2 : s.config.maxEncodedFrameSize ≠ 0 := by omega
  have h3 : s.config.maxApplicationMessageSize ≤ Target.sizeMax - rawOverhead := by omega
  simp [Application.hasRequiredStorage, Endpoint.toRoot, s.submittedMessage_ne, s.encodedOutput_ne,
    s.codecScratch_ne, s.receivedMessage_ne, h1, h2, h3]

theorem reliablePeeked_toRoot (e : Endpoint) :
    Output.reliablePeeked (e.toRoot s) = e.reliablePinned s := by
  unfold Output.reliablePeeked Endpoint.reliablePinned
  cases hi : s.item e.activity with
  | none => simp [Endpoint.toRoot, Endpoint.toSession, hi]
  | some item =>
      cases hst : item.stage <;>
        simp [Endpoint.toRoot, Endpoint.toSession, hi, hst, Stage.state, Stage.pinned]

theorem controlPeeked_toRoot (e : Endpoint) :
    Output.controlPeeked (e.toRoot s) = e.controlPinned := by
  unfold Output.controlPeeked Endpoint.controlPinned
  cases hi : e.activity.controlItem with
  | none => simp [Endpoint.toRoot, hi]
  | some item => cases hp : item.pinned <;> simp [Endpoint.toRoot, hi, hp]

theorem outputSelection_toRoot (e : Endpoint) :
    (e.toRoot s).outputSelection =
      if e.reliablePinned s then .reliable else if e.controlPinned then .control else .none := rfl

theorem outputSelection_isListed (e : Endpoint) :
    (e.toRoot s).outputSelection.isListed = true := by
  rw [outputSelection_toRoot]
  split_ifs <;> rfl

theorem recoveryIsValid_toRoot {e : Endpoint} (h : e.activity.Wf s) :
    Output.recoveryIsValid (e.toRoot s) = true := by
  have hpin : (e.reliablePinned s && e.controlPinned) = false := by
    cases hr : e.reliablePinned s with
    | false => rfl
    | true => exact not_both_pinned h hr
  unfold Output.recoveryIsValid
  rw [reliablePeeked_toRoot, controlPeeked_toRoot, hpin, outputSelection_isListed]
  cases hr : e.activity.recoveryReset with
  | none => simp [Endpoint.toRoot, hr]
  | some reset =>
      cases ha : e.activity with
      | recovering reset' =>
          rw [ha] at hr h
          obtain rfl : reset' = some reset := hr
          have hid := h reset rfl
          have h0 := ne_seedInvalid_of_isValid hid
          have h1 := ne_seedReserved_of_isValid hid
          cases hp : reset.pinned <;>
            simp [Endpoint.toRoot, Endpoint.toSession, ha, Activity.recoveryReset,
              Activity.sessionState, Activity.linkState, Activity.controlItem, h0, h1, hp]
      | _ => simp [ha, Activity.recoveryReset] at hr

theorem selectionIsValid_toRoot {e : Endpoint} (h : e.activity.Wf s) :
    Output.selectionIsValid (e.toRoot s) = true := by
  unfold Output.selectionIsValid
  rw [reliablePeeked_toRoot, controlPeeked_toRoot, outputSelection_toRoot]
  cases hr : e.reliablePinned s with
  | false => cases hc : e.controlPinned <;> rfl
  | true => simp [not_both_pinned h hr]

/-! ## The validators -/

theorem events_validateState {e : Endpoint} (h : e.events.Wf) :
    Events.validateState (e.toRoot s) = (.ok, e.toRoot s) := by
  rw [Events.validateState, if_neg (by simp [events_stateIsValid h])]

theorem reliability_validateState {e : Endpoint} (h : e.activity.Wf s) :
    Reliability.validateState (e.toRoot s) = (.ok, e.toRoot s) := by
  rw [Reliability.validateState, if_neg (by simp [reliability_stateIsValid h])]

theorem controlOutput_validateState {e : Endpoint} (h : e.activity.Wf s) :
    ControlOutput.validateState (e.toRoot s) = (.ok, e.toRoot s) := by
  rw [ControlOutput.validateState, if_neg (by simp [controlOutput_stateIsValid h])]

theorem handshake_validateRoot {e : Endpoint} (h : e.Wf s) :
    Handshake.validateRoot (e.toRoot s) = (.ok, e.toRoot s) := by
  rw [Handshake.validateRoot, if_neg (by simp [handshake_rootIsValid h])]

theorem not_fault_toRoot (e : Endpoint) :
    ¬ ((e.toRoot s).base.sessionState = .fault ∨ (e.toRoot s).session.state = .fault) := by
  simp [Endpoint.toRoot, Endpoint.toSession, Activity.sessionState_ne_fault]

theorem peekBody_toRoot {e : Endpoint} (h : e.Wf s) :
    (e.toRoot s).parser.peekBody =
      match e.intake with
      | .ready body => (.ok, body)
      | _ => (.notReady, []) := by
  rw [Parser.peekBody, if_neg (by simp [parser_stateIsValid_toRoot h])]
  cases hi : e.intake <;> simp [Endpoint.toRoot, hi, Intake.toParser, Intake.accumulated]

theorem receive_validateRoot {e : Endpoint} (h : e.Wf s) :
    Receive.validateRoot (e.toRoot s) = (.ok, e.toRoot s) := by
  unfold Receive.validateRoot
  rw [if_neg (not_fault_toRoot e), if_neg (by simp [receive_rootIsValid h]), peekBody_toRoot h]
  cases hd : e.diagnosticPending with
  | false =>
      have hzero : (e.toRoot s).receiveProtocolErrorPending = 0 := by simp [Endpoint.toRoot, hd]
      cases hi : e.intake <;> simp [hzero]
  | true =>
      have hi := h.diagnostic hd
      simp [hi, Endpoint.toRoot, Intake.toParser, Intake.accumulated]

/-- The reliability module's report on an endpoint. -/
theorem reliability_getPendingStatus {e : Endpoint} (h : e.activity.Wf s) :
    Reliability.getPendingStatus (e.toRoot s) =
      (.ok, (s.item e.activity).elim false (fun item => item.stage.outputPending),
        (s.item e.activity).isSome, e.toRoot s) := by
  unfold Reliability.getPendingStatus
  rw [if_neg (by simp [hasStorage_toRoot]), reliability_validateState h]
  cases hi : s.item e.activity with
  | none => simp [Endpoint.toRoot, Endpoint.toSession, hi]
  | some item =>
      cases hst : item.stage <;>
        simp [Endpoint.toRoot, Endpoint.toSession, hi, hst, Stage.state, Stage.outputPending]

theorem controlOutput_getPendingStatus {e : Endpoint} (h : e.activity.Wf s) :
    ControlOutput.getPendingStatus (e.toRoot s) =
      (.ok, e.activity.controlItem.isSome, e.toRoot s) := by
  unfold ControlOutput.getPendingStatus
  rw [controlOutput_validateState h]
  cases hi : e.activity.controlItem with
  | none => simp [Endpoint.toRoot, hi]
  | some item => cases hp : item.pinned <;> simp [Endpoint.toRoot, hi, hp]

theorem output_validateState {e : Endpoint} (h : e.activity.Wf s) :
    Output.validateState (e.toRoot s) =
      (.ok, (s.item e.activity).elim false (fun item => item.stage.outputPending),
        e.activity.controlItem.isSome, (s.item e.activity).isSome, e.toRoot s) := by
  unfold Output.validateState
  rw [reliability_getPendingStatus h]
  simp only [controlOutput_getPendingStatus h]
  rw [if_neg (by simp), if_neg (by simp),
    if_neg (by simp [recoveryIsValid_toRoot h, selectionIsValid_toRoot h])]

end

end HilRigProtocol.Transport
