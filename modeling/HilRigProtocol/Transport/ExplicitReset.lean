/-
  What an explicit Reset repairs.

  Reset is the only way out of FAULT, so it starts from a root in which little can
  be trusted: `Salvageable` lists what must be intact, and every other field is
  arbitrary. What Reset makes of such a root is the root of a well-formed endpoint,
  but for two things that no reset path writes: the operating mode with its flag, and
  a link that is up although nobody reported it. The second is harmless: an endpoint
  in that state is stranded, and answers NOT_READY until the link is reported. The
  first is not, since Get_Status checks the mode.
-/
import HilRigProtocol.Transport.FaultFreedom

namespace HilRigProtocol.Transport

section
variable [Target]

/-- What no corruption has reached: what `Init` fixes, the public link state, and the
    next identity of a host. -/
structure Salvageable (root : Root) : Prop where
  config : ∃ size, Profile.validateConfigAndSize root.base.config = (.ok, size)
  role : root.base.role = .host ∨ root.base.role = .rig
  linkState : root.base.linkState = .disconnected ∨ root.base.linkState = .connected
  submittedMessage : root.regions.submittedMessage ≠ 0
  encodedOutput : root.regions.encodedOutput ≠ 0
  codecScratch : root.regions.codecScratch ≠ 0
  receivedMessage : root.regions.receivedMessage ≠ 0
  encodedOutputCapacity : root.encodedOutputCapacity = root.base.config.maxEncodedFrameSize
  codecScratchSize :
    root.codecScratchSize = root.base.config.maxApplicationMessageSize + rawOverhead
  parserScratchSize : root.parser.scratchBufferSize = root.base.config.maxEncodedFrameSize - 1
  cursor : root.base.role = .host →
    sessionIdentifierIsValid root.session.nextHostSessionIdentifier = true

/-- The same of a root that carries a setup. -/
structure Setup.Survives (s : Setup) (root : Root) : Prop where
  role : s.role = root.base.role
  config : s.config = root.base.config
  firstSequence : s.firstSequence = root.session.initialReliableSequence
  regions : s.regions = root.regions
  linkState : root.base.linkState = .disconnected ∨ root.base.linkState = .connected
  encodedOutputCapacity : root.encodedOutputCapacity = root.base.config.maxEncodedFrameSize
  codecScratchSize :
    root.codecScratchSize = root.base.config.maxApplicationMessageSize + rawOverhead
  parserScratchSize : root.parser.scratchBufferSize = root.base.config.maxEncodedFrameSize - 1
  cursor : root.base.role = .host →
    sessionIdentifierIsValid root.session.nextHostSessionIdentifier = true

theorem Salvageable.exists_setup {root : Root} (h : Salvageable root) :
    ∃ s : Setup, s.Survives root := by
  obtain ⟨size, hsize⟩ := h.config
  obtain ⟨hpos, hraw, hframe, hmax, -⟩ := validateConfigAndSize_ok hsize
  let s : Setup :=
    { role := root.base.role
      config := root.base.config
      firstSequence := root.session.initialReliableSequence
      regions := root.regions
      role_cases := h.role
      submittedMessage_ne := h.submittedMessage
      encodedOutput_ne := h.encodedOutput
      codecScratch_ne := h.codecScratch
      receivedMessage_ne := h.receivedMessage
      message_pos := hpos
      rawSize_le := hraw
      frameSize_ge := hframe
      frameSize_le := hmax }
  exact ⟨s, rfl, rfl, rfl, rfl, h.linkState, h.encodedOutputCapacity, h.codecScratchSize,
    h.parserScratchSize, h.cursor⟩

/-! ## The root that Reset leaves -/

/-- The identity abandoned last, where the root still has a usable one. -/
def survivingAbandoned (root : Root) : Option UInt64 :=
  if root.recentlyAbandonedSessionIdentifierValid = 1
      ∧ sessionIdentifierIsValid root.recentlyAbandonedSessionIdentifier then
    some root.recentlyAbandonedSessionIdentifier
  else none

/-- The endpoint of a root after Reset; `notification` is the identity whose RESET is
    published. The operating mode is left to `salvagedRoot`. -/
def salvaged (root : Root) (notification : Option UInt64) : Endpoint where
  activity :=
    if root.base.linkState = .disconnected then
      .disconnected (root.session.linkStateObserved != 0)
    else .recovering (notification.map fun id => ⟨id, false⟩)
  cursor :=
    if root.base.role = .rig then sessionSeedInvalid
    else root.session.nextHostSessionIdentifier
  operatingMode := .normal
  operatingModeValid := false
  lastFailure := .localReset
  abandoned := notification.or (survivingAbandoned root)
  diagnosticPending := false
  intake := .filling []
  events := { queue := root.eventQueue, readIndex := 0, count := 0 }

/-- The root after Reset, with the operating mode and the flag of the observed link as
    they were. -/
def salvagedRoot (s : Setup) (root : Root) (notification : Option UInt64) : Root :=
  { (salvaged root notification).toRoot s with
    base.operatingMode := root.base.operatingMode
    base.operatingModeValid := root.base.operatingModeValid
    session.linkStateObserved := if root.session.linkStateObserved ≠ 0 then 1 else 0 }

omit [Target] in
/-- An identity is told to the peer only of a session on an observed, connected link. -/
theorem resetNotification_eq_some {root : Root} {id : UInt64}
    (h : Profile.resetNotification root = some id) :
    root.base.linkState = .connected ∧ root.session.linkStateObserved = 1 ∧
      sessionIdentifierIsValid id = true := by
  unfold Profile.resetNotification at h
  split_ifs at h with hpending hactive
  · cases h
    simp only [Profile.hasTrustworthyPendingRecoveryReset, Bool.and_eq_true, beq_iff_eq,
      and_assoc] at hpending
    obtain ⟨-, hid, -, -, hlink, hbase, hobserved, -⟩ := hpending
    exact ⟨hbase.trans hlink, hobserved, hid⟩
  · cases h
    simp only [Profile.hasTrustworthyActiveSession, Bool.and_eq_true, beq_iff_eq,
      and_assoc] at hactive
    obtain ⟨-, -, hlink, hbase, hobserved, -, -, -, -, -, hid, -⟩ := hactive
    exact ⟨hbase.trans hlink, hobserved, hid⟩

theorem Setup.Survives.hasStorage {s : Setup} {root : Root} (h : s.Survives root) :
    Reliability.hasStorage root = true := by
  have hpos := s.frameSize_pos
  have hregion := s.encodedOutput_ne
  rw [h.config, ← h.encodedOutputCapacity] at hpos
  rw [h.regions] at hregion
  have hne : root.encodedOutputCapacity ≠ 0 := Nat.ne_of_gt (Nat.zero_lt_of_lt hpos)
  simp [Reliability.hasStorage, hregion, hne, ← h.encodedOutputCapacity]

omit [Target] in
theorem eq_zero_or_one_of_flag {flag : UInt8} (h : ¬ flag > 1) : flag = 0 ∨ flag = 1 := by
  have hle : flag.toNat ≤ 1 := by simpa [UInt8.lt_iff_toNat_lt] using h
  rcases Nat.le_one_iff_eq_zero_or_eq_one.mp hle with h0 | h1
  · exact Or.inl (UInt8.toNat_inj.mp h0)
  · exact Or.inr (UInt8.toNat_inj.mp h1)

omit [Target] in
/-- What is kept of the identity abandoned last. -/
theorem survivingAbandoned_kept (root : Root) :
    (if Session.recentlyAbandonedMetadataIsValid root then root
        else Session.clearRecentlyAbandoned root) =
      { root with
        recentlyAbandonedSessionIdentifier := (survivingAbandoned root).getD sessionSeedInvalid
        recentlyAbandonedSessionIdentifierValid :=
          if (survivingAbandoned root).isSome then 1 else 0 } := by
  obtain ⟨base, session, parser, regions, submitted, submittedPending, encoded, capacity, selection,
    control, controlState, pending, resetId, id, valid, scratch, received, receivedPending, error,
    queue, readIndex, count⟩ := root
  unfold Session.recentlyAbandonedMetadataIsValid survivingAbandoned
    Session.clearRecentlyAbandoned
  dsimp only
  by_cases hflag : valid > 1
  · have hne : ¬ valid = 1 := by
      rintro rfl
      exact absurd hflag (by decide)
    simp [hflag, hne]
  rcases eq_zero_or_one_of_flag hflag with rfl | rfl
  · by_cases hid : id = sessionSeedInvalid <;> simp [hid]
  · by_cases hid : sessionIdentifierIsValid id = true <;> simp [hid]

theorem explicitReset_survives {s : Setup} {root : Root} (h : s.Survives root) :
    Session.explicitReset root = (.ok, salvagedRoot s root none) := by
  have hclear := clearScopedWork_eq h.hasStorage
  have hcapacity := h.encodedOutputCapacity
  have hscratch := h.codecScratchSize
  have hparser := h.parserScratchSize
  have hcursor := h.cursor
  have hlinks := h.linkState
  unfold Session.explicitReset
  rw [hclear]
  dsimp only
  rw [survivingAbandoned_kept]
  -- With the setup, the role and the link known, every field computes.
  obtain ⟨role, config, firstSequence, regions, hroles, _, _, _, _, _, _, _, _⟩ := s
  obtain ⟨rfl, rfl, rfl, rfl⟩ := h
  obtain ⟨⟨config, role, link, sessionState, mode, modeValid, failure⟩, session, parser, regions,
    submitted, submittedPending, encoded, capacity, selection, control, controlState, pending,
    resetId, id, valid, scratch, received, receivedPending, error, queue, readIndex, count⟩ := root
  obtain ⟨scratchBufferSize, accumulated, bodyReady, discarding⟩ := parser
  dsimp only at hcapacity hscratch hparser hcursor hroles hlinks
  subst hcapacity hscratch hparser
  refine (if_neg ?_).trans ?_
  · rintro (hc | hc)
    · exact hc rfl
    · apply hc
      rcases hroles with rfl | rfl
      · have hvalid := hcursor rfl
        rcases hlinks with rfl | rfl <;> exact hvalid
      · rcases hlinks with rfl | rfl <;> rfl
  · rcases hroles with rfl | rfl <;> rcases hlinks with rfl | rfl <;> rfl

/-- Reset succeeds, whatever the other fields are. -/
theorem reset_survives {s : Setup} {root : Root} (h : s.Survives root) :
    Profile.reset root = (.ok, salvagedRoot s root (Profile.resetNotification root)) := by
  unfold Profile.reset
  rw [explicitReset_survives h]
  dsimp only
  rw [if_neg (show ¬ Status.ok ≠ .ok by simp)]
  cases hn : Profile.resetNotification root with
  | none => rfl
  | some id =>
      obtain ⟨hlink, hobserved, hid⟩ := resetNotification_eq_some hn
      have hlink' : ¬ root.base.linkState = .disconnected := by simp [hlink]
      have hactivity : (salvaged root none).activity = .recovering none := if_neg hlink'
      set silent : Root :=
        { salvagedRoot s root none with
          recentlyAbandonedSessionIdentifier := id
          recentlyAbandonedSessionIdentifierValid := 1 } with hsilent
      have hidle : silent.controlOutputState = .idle := by
        simp [hsilent, salvagedRoot, Endpoint.toRoot, hactivity, Activity.controlItem]
      have hempty : silent.controlOutput = [] := by
        simp [hsilent, salvagedRoot, Endpoint.toRoot, hactivity, Activity.controlItem]
      have hpublish : Handshake.publishReset silent id =
          (.ok,
            { silent with
              controlOutput := encodedFrame (Handshake.controlFrame .reset id 0)
              controlOutputState := .ready }) := by
        rw [Handshake.publishReset, if_neg (by simp [hid])]
        exact publishControl_idle s rfl rfl hidle hempty (Or.inr ⟨rfl, rfl⟩) hid
      dsimp only
      rw [← hsilent, hpublish]
      dsimp only
      rw [if_neg (show ¬ Status.ok ≠ .ok by simp), hsilent]
      unfold salvagedRoot salvaged
      rw [if_neg hlink', if_neg hlink']
      rfl

/-! ## Stranded endpoints -/

/-- A recovering endpoint with nothing left of its session, and no RESET to send. -/
structure Endpoint.Bare (s : Setup) (e : Endpoint) : Prop where
  wf : e.Wf s
  activity : e.activity = .recovering none
  intake : e.intake = .filling []
  diagnostic : e.diagnosticPending = false

/-- A recovering root whose link is up but was never reported, or was only ever
    reported down. -/
inductive Stranded (s : Setup) : Root → Prop
  | unreported {e : Endpoint} (h : e.Bare s) :
      Stranded s { e.toRoot s with session.linkStateObserved := 0 }
  | down {e : Endpoint} (h : e.Bare s) : Stranded s (withLink s e .disconnected)

theorem statusMetadataIsValid_stranded {s : Setup} {root : Root} (h : Stranded s root) :
    Profile.statusMetadataIsValid root = true := by
  cases h with
  | @unreported e h => exact statusMetadataIsValid_toRoot h.wf
  | @down e h =>
      have hconfirm : Session.completedConfirmMetadataIsValid (withLink s e .disconnected) = true :=
        completedConfirmMetadataIsValid_toRoot h.wf.activity
      unfold Profile.statusMetadataIsValid
      rw [hconfirm]
      cases hm : e.operatingModeValid <;>
        simp [withLink, Session.setLinkState, Endpoint.toRoot, Endpoint.toSession, s.role_isListed,
          LinkState.isListed, Activity.sessionState_isListed, h.wf.operatingMode,
          h.wf.lastFailure, hm]

theorem mirrors_stranded {s : Setup} {root : Root} (h : Stranded s root) :
    Handshake.rootIsValid root = true ∧ Session.establishmentRootIsValid root = true ∧
      Session.abandonRootIsValid root = true ∧ Session.notifyRootIsValid root = true := by
  cases h with
  | @unreported e h =>
      have hconfirm : Session.completedConfirmMetadataIsValid
          { e.toRoot s with session.linkStateObserved := 0 } = true :=
        completedConfirmMetadataIsValid_toRoot h.wf.activity
      have habandoned : Session.recentlyAbandonedMetadataIsValid
          { e.toRoot s with session.linkStateObserved := 0 } = true :=
        @recentlyAbandonedMetadataIsValid_toRoot _ s e h.wf.abandoned
      unfold Session.establishmentRootIsValid Session.abandonRootIsValid Session.notifyRootIsValid
      rw [hconfirm, habandoned]
      refine ⟨handshake_rootIsValid h.wf, ?_⟩
      simp [Endpoint.toRoot, Endpoint.toSession, s.role_isListed, Activity.linkState_isListed,
        Activity.sessionState_isListed]
  | @down e h =>
      have hconfirm : Session.completedConfirmMetadataIsValid (withLink s e .disconnected) = true :=
        completedConfirmMetadataIsValid_toRoot h.wf.activity
      have habandoned : Session.recentlyAbandonedMetadataIsValid (withLink s e .disconnected) =
          true := @recentlyAbandonedMetadataIsValid_toRoot _ s e h.wf.abandoned
      unfold Handshake.rootIsValid Session.establishmentRootIsValid Session.abandonRootIsValid
        Session.notifyRootIsValid
      rw [hconfirm, habandoned]
      simp [withLink, Session.setLinkState, Endpoint.toRoot, Endpoint.toSession, s.role_isListed,
        LinkState.isListed, Activity.sessionState_isListed, Activity.phase_isListed, h.activity,
        Activity.identifier]

theorem receive_rootIsValid_stranded {s : Setup} {root : Root} (h : Stranded s root) :
    Receive.rootIsValid root = true := by
  cases h with
  | @unreported e h => exact receive_rootIsValid h.wf
  | @down e h =>
      have hvalid := receive_rootIsValid h.wf
      have hlinks : e.activity.linkState.isListed = true ∧
          LinkState.isListed .disconnected = true := ⟨Activity.linkState_isListed _, rfl⟩
      simp only [Receive.rootIsValid, Bool.and_eq_true, and_assoc] at hvalid ⊢
      obtain ⟨h1, h2, h3, h4, h5, h6, -, -, hrest⟩ := hvalid
      exact ⟨h1, h2, h3, h4, h5, h6, rfl, rfl, hrest⟩

/-- Of the session-scoped work a stranded root keeps what its endpoint does: nothing. -/
theorem scopedWork_stranded {s : Setup} {root : Root} (h : Stranded s root) :
    Session.scopedWorkIsClear root = true ∧ root.recoveryResetPending = 0 ∧
      root.receiveProtocolErrorPending = 0 ∧
      root.parser = (Intake.filling []).toParser (s.config.maxEncodedFrameSize - 1) ∧
      root.session.state = .recovering ∧ root.base.sessionState = .recovering := by
  cases h with
  | @unreported e h =>
      obtain ⟨activity, cursor, mode, modeValid, failure, abandoned, diagnostic, intake, events⟩ := e
      obtain ⟨hwf, rfl, rfl, rfl⟩ := h
      exact ⟨rfl, rfl, rfl, rfl, rfl, rfl⟩
  | @down e h =>
      obtain ⟨activity, cursor, mode, modeValid, failure, abandoned, diagnostic, intake, events⟩ := e
      obtain ⟨hwf, rfl, rfl, rfl⟩ := h
      exact ⟨rfl, rfl, rfl, rfl, rfl, rfl⟩

theorem recoveryIsValid_stranded {s : Setup} {root : Root} (h : Stranded s root) :
    Output.recoveryIsValid root = true := by
  cases h with
  | @unreported e h =>
      obtain ⟨activity, cursor, mode, modeValid, failure, abandoned, diagnostic, intake, events⟩ := e
      obtain ⟨hwf, rfl, rfl, rfl⟩ := h
      rfl
  | @down e h =>
      obtain ⟨activity, cursor, mode, modeValid, failure, abandoned, diagnostic, intake, events⟩ := e
      obtain ⟨hwf, rfl, rfl, rfl⟩ := h
      rfl

/-- What a stranded root keeps of its endpoint beside the link. -/
theorem slots_stranded {s : Setup} {root : Root} (h : Stranded s root) :
    (root.session.role = .host →
      sessionIdentifierIsValid root.session.nextHostSessionIdentifier = true) ∧
    Session.completedConfirmMetadataIsValid root = true ∧
    Session.recentlyAbandonedMetadataIsValid root = true ∧
    (Reliability.hasStorage root = true ∧ Reliability.stateIsValid root = true) ∧
    ControlOutput.stateIsValid root = true ∧ Events.stateIsValid root = true ∧
    (Application.hasRequiredStorage root = true ∧
      Application.receivedMessageMetadataIsValid root = true) ∧
    Output.selectionIsValid root = true := by
  cases h with
  | @unreported e h =>
      have hc := checksHold_toRoot h.wf
      exact ⟨hc.cursor, hc.completedConfirm, hc.recentlyAbandoned, hc.reliableSlot, hc.controlSlot,
        hc.eventQueue, hc.unreadMessage, hc.outputPin.2⟩
  | @down e h =>
      have hc := checksHold_toRoot h.wf
      exact ⟨hc.cursor, hc.completedConfirm, hc.recentlyAbandoned, hc.reliableSlot, hc.controlSlot,
        hc.eventQueue, hc.unreadMessage, hc.outputPin.2⟩

theorem receive_validateRoot_stranded {s : Setup} {root : Root} (h : Stranded s root) :
    root.parser.stateIsValid = true ∧ Receive.validateRoot root = (.ok, root) := by
  obtain ⟨-, -, hdiagnostic, hparser, hstate, hbase⟩ := scopedWork_stranded h
  have hcapacity : s.config.maxEncodedFrameSize - 1 ≠ 0 := by
    have := s.frameSize_pos
    simp only [controlOutputCapacity] at this
    omega
  have hvalid : root.parser.stateIsValid = true := by
    rw [hparser]
    exact parser_stateIsValid hcapacity (Nat.zero_le _)
  have hpeek : root.parser.peekBody = (.notReady, []) := by
    rw [Parser.peekBody, if_neg (by simp [hvalid]), if_pos (by rw [hparser]; rfl)]
  refine ⟨hvalid, ?_⟩
  rw [Receive.validateRoot, if_neg (by simp [hstate, hbase]),
    if_neg (by simp [receive_rootIsValid_stranded h]), hpeek]
  simp [hdiagnostic]

/-- A stranded root passes every check. -/
theorem checksHold_stranded {s : Setup} {root : Root} (h : Stranded s root) :
    ChecksHold root := by
  obtain ⟨hclear, hpending, -, -, hstate, hbase⟩ := scopedWork_stranded h
  obtain ⟨hhandshake, hestablishment, habandon, hnotify⟩ := mirrors_stranded h
  obtain ⟨hcursor, hconfirm, habandoned, hreliable, hcontrol, hevents, hunread, hselection⟩ :=
    slots_stranded h
  obtain ⟨hparser, hreceive⟩ := receive_validateRoot_stranded h
  have hphase : root.session.handshakePhase = .inactive := by
    simp only [Session.scopedWorkIsClear, Bool.and_eq_true, beq_iff_eq, and_assoc] at hclear
    exact hclear.1
  exact
    { base_not_fault := by simp [hbase]
      session_not_fault := by simp [hstate]
      mirrors := ⟨hhandshake, hestablishment, habandon, hnotify, statusMetadataIsValid_stranded h⟩
      completedConfirm := hconfirm
      recentlyAbandoned := habandoned
      clean := fun _ _ _ _ _ _ => hclear
      cursor := hcursor
      pendingPhase := by
        intro hbound
        rw [hphase] at hbound
        cases hbound
      pendingReset := fun hne => absurd hpending hne
      reliableSlot := hreliable
      controlSlot := hcontrol
      outputPin := ⟨recoveryIsValid_stranded h, hselection⟩
      parser := hparser
      eventQueue := hevents
      unreadMessage := hunread
      receive := hreceive }

/-! ## The calls on a stranded root -/

/-- A stranded root has nothing to send and nothing to be read but events. -/
theorem idle_stranded {s : Setup} {root : Root} (h : Stranded s root) :
    root.session.reliableState = .idle ∧ root.controlOutputState = .idle ∧
      root.outputSelection = .none ∧ root.receivedMessagePending = 0 := by
  have hclear := (scopedWork_stranded h).1
  simp only [Session.scopedWorkIsClear, Bool.and_eq_true, beq_iff_eq, and_assoc] at hclear
  obtain ⟨-, -, -, -, -, hreliable, -, -, -, -, -, hcontrol, -, hselection, -, -, -, hpending, -⟩ :=
    hclear
  exact ⟨hreliable, hcontrol, hselection, hpending⟩

theorem output_validateState_stranded {s : Setup} {root : Root} (h : Stranded s root) :
    Output.validateState root = (.ok, false, false, false, root) := by
  have hc := checksHold_stranded h
  obtain ⟨hreliable, hcontrol, -, -⟩ := idle_stranded h
  have hpending : Reliability.getPendingStatus root = (.ok, false, false, root) := by
    rw [Reliability.getPendingStatus, if_neg (by simp [hc.reliableSlot.1]),
      Reliability.validateState, if_neg (by simp [hc.reliableSlot.2])]
    simp [hreliable]
  have hslot : ControlOutput.getPendingStatus root = (.ok, false, root) := by
    rw [ControlOutput.getPendingStatus, ControlOutput.validateState,
      if_neg (by simp [hc.controlSlot])]
    simp [hcontrol]
  rw [Output.validateState, hpending]
  dsimp only
  rw [if_neg (show ¬ Status.ok ≠ .ok by simp), hslot]
  dsimp only
  rw [if_neg (show ¬ Status.ok ≠ .ok by simp), if_neg (by simp [hc.outputPin.1, hc.outputPin.2])]

theorem peekOutput_stranded {s : Setup} {root : Root} (h : Stranded s root)
    (outBuffer : Option Nat) : Output.peekOutput root outBuffer = (.notReady, 0, [], root) := by
  obtain ⟨-, -, -, -, hstate, hbase⟩ := scopedWork_stranded h
  obtain ⟨-, -, hselection, -⟩ := idle_stranded h
  rw [Output.peekOutput, if_neg (by simp [hstate, hbase]), output_validateState_stranded h]
  simp [hselection]

theorem commitOutput_stranded {s : Setup} {root : Root} (h : Stranded s root) (nowMs : UInt32) :
    Output.commitOutput root nowMs = (.notReady, root) := by
  obtain ⟨-, -, -, -, hstate, hbase⟩ := scopedWork_stranded h
  obtain ⟨-, -, hselection, -⟩ := idle_stranded h
  rw [Output.commitOutput, if_neg (by simp [hstate, hbase]), output_validateState_stranded h]
  simp [hselection]

theorem submit_stranded {s : Setup} {root : Root} (h : Stranded s root) (payload : List UInt8) :
    Application.submit root payload =
      (if payload.length = 0 then .invalidArgument else .notReady, root) := by
  obtain ⟨-, -, -, -, -, hbase⟩ := scopedWork_stranded h
  have hestablished : Application.sessionIsEstablished root = false := by
    simp [Application.sessionIsEstablished, hbase]
  unfold Application.submit
  by_cases hempty : payload.length = 0
  · rw [if_pos hempty, if_pos hempty]
  · rw [if_neg hempty, if_neg hempty, if_pos (by simp [hestablished])]

theorem read_stranded {s : Setup} {root : Root} (h : Stranded s root) (outBuffer : Option Nat) :
    Application.read root outBuffer = (.notReady, 0, [], root) := by
  have hc := checksHold_stranded h
  obtain ⟨-, -, -, hpending⟩ := idle_stranded h
  rw [Application.read, if_neg (by simp [hc.unreadMessage.1, hc.unreadMessage.2]),
    if_pos hpending]

theorem getStatus_stranded {s : Setup} {root : Root} (h : Stranded s root) :
    ∃ snapshot, Profile.getStatus root = (.ok, some snapshot, root) := by
  have hc := checksHold_stranded h
  have houtput : Output.getPendingStatus root = (.ok, false, false, root) := by
    rw [Output.getPendingStatus, output_validateState_stranded h]
    simp
  have hunread : Application.getPendingStatus root = (.ok, root.receivedMessagePending, root) := by
    rw [Application.getPendingStatus, if_neg (by simp [hc.unreadMessage.2])]
  have hevents : Events.getPendingStatus root = (.ok, decide (root.eventCount ≠ 0), root) := by
    rw [Events.getPendingStatus, Events.validateState, if_neg (by simp [hc.eventQueue])]
    simp
  unfold Profile.getStatus
  rw [if_neg (by simp [statusMetadataIsValid_stranded h]), houtput]
  dsimp only
  rw [if_neg (show ¬ Status.ok ≠ .ok by simp), hunread]
  dsimp only
  rw [if_neg (show ¬ Status.ok ≠ .ok by simp), hevents]
  dsimp only
  rw [if_neg (show ¬ Status.ok ≠ .ok by simp)]
  exact ⟨_, rfl⟩

/-- The event FIFO of a stranded root is well-formed, and is free to change. -/
theorem events_stranded {s : Setup} {root : Root} (h : Stranded s root) :
    EventRing.Wf ⟨root.eventQueue, root.eventReadIndex, root.eventCount⟩ ∧
      ∀ readIndex count, EventRing.Wf ⟨root.eventQueue, readIndex, count⟩ →
        Stranded s { root with eventReadIndex := readIndex, eventCount := count } := by
  have hbare : ∀ e : Endpoint, e.Bare s → ∀ readIndex count,
      EventRing.Wf ⟨e.events.queue, readIndex, count⟩ →
      Endpoint.Bare s { e with events := ⟨e.events.queue, readIndex, count⟩ } :=
    fun e he readIndex count hwf => { he with wf := { he.wf with events := hwf } }
  cases h with
  | @unreported e h =>
      exact ⟨h.wf.events, fun readIndex count hwf =>
        Stranded.unreported (hbare e h readIndex count hwf)⟩
  | @down e h =>
      exact ⟨h.wf.events, fun readIndex count hwf => Stranded.down (hbare e h readIndex count hwf)⟩

theorem readEvent_stranded {s : Setup} {root : Root} (h : Stranded s root) :
    (Events.read root).1 ≠ .internalError ∧ Stranded s (Events.read root).2.2 := by
  have hvalidate : Events.validateState root = (.ok, root) := by
    rw [Events.validateState, if_neg (by simp [(checksHold_stranded h).eventQueue])]
  obtain ⟨hring, hnext⟩ := events_stranded h
  have hpop := EventRing.wf_pop hring
  unfold EventRing.pop at hpop
  dsimp only at hpop
  unfold Events.read
  rw [hvalidate]
  dsimp only
  rw [if_neg (show ¬ Status.ok ≠ .ok by simp)]
  by_cases hzero : root.eventCount = 0
  · rw [if_pos hzero]
    exact ⟨by simp, h⟩
  rw [if_neg hzero]
  by_cases hone : root.eventCount = 1
  · rw [if_pos (by omega)]
    rw [if_pos hone] at hpop
    exact ⟨by simp, hnext _ _ hpop⟩
  · rw [if_neg (by omega)]
    rw [if_neg hone] at hpop
    exact ⟨by simp, hnext _ _ hpop⟩

/-- Establishment does not begin on a link that nobody reported up. -/
theorem beginEstablishment_stranded {s : Setup} {root : Root} (h : Stranded s root) :
    Session.beginEstablishment root = (.notReady, root) := by
  obtain ⟨-, -, -, -, hstate, -⟩ := scopedWork_stranded h
  have hlink : root.session.linkStateObserved = 0 ∨ root.session.linkState ≠ .connected := by
    cases h with
    | unreported h => exact Or.inl rfl
    | down h => exact Or.inr (by simp [withLink, Session.setLinkState])
  rw [Session.beginEstablishment, if_neg (by simp [(mirrors_stranded h).2.1]),
    if_neg (by simp [hstate]), if_pos hlink]

theorem receiveBytes_stranded {s : Setup} {root : Root} (h : Stranded s root)
    (data : List UInt8) : Receive.receiveBytes root data = (.notReady, 0, root) := by
  obtain ⟨hclear, hpending, hdiagnostic, hparser, hstate, hbase⟩ := scopedWork_stranded h
  obtain ⟨-, hcontrol, hselection, -⟩ := idle_stranded h
  have hempty : root.controlOutput.length = 0 := by
    simpa [ControlOutput.stateIsValid, hcontrol] using (checksHold_stranded h).controlSlot
  have hadvance : Receive.tryAdvanceRecovery root = (.notReady, root) := by
    rw [Receive.tryAdvanceRecovery, if_neg (by simp [hstate, hbase]),
      if_neg (by simp [hpending, hcontrol, hempty, hselection, hdiagnostic, hparser,
        Intake.toParser, Intake.accumulated]),
      beginEstablishment_stranded h]
  rw [Receive.receiveBytes, Receive.receiveBytesWithin, (receive_validateRoot_stranded h).2]
  dsimp only
  rw [if_neg (show ¬ Status.ok ≠ .ok by simp)]
  by_cases hlink : root.base.linkState = .disconnected
  · rw [if_pos hlink]
  rw [if_neg hlink, Receive.processPendingError, if_pos hdiagnostic]
  dsimp only
  have hready : ¬ root.parser.bodyReady ≠ 0 := by simp [hparser, Intake.toParser]
  rw [if_neg (show ¬ Status.ok ≠ .ok by simp), if_neg hready]
  dsimp only
  rw [if_neg (show ¬ Status.ok ≠ .ok by simp), hadvance]
  rfl

/-- The operating mode of the call is recorded, and nothing else happens. -/
theorem process_stranded {s : Setup} {root : Root} (h : Stranded s root) (nowMs : UInt32)
    (operatingMode : OperatingMode) :
    (Profile.process root nowMs operatingMode).1 ≠ .internalError ∧
      Stranded s (Profile.process root nowMs operatingMode).2 := by
  unfold Profile.process
  by_cases hlisted : operatingMode.isListed = true
  · rw [if_neg (by simp [hlisted])]
    have hnext : Stranded s
        { root with base.operatingMode := operatingMode, base.operatingModeValid := 1 } := by
      have hbare : ∀ e : Endpoint, e.Bare s → Endpoint.Bare s
          { e with operatingMode := operatingMode, operatingModeValid := true } := fun e he =>
        { he with wf := { he.wf with operatingMode := hlisted } }
      cases h with
      | unreported h => exact Stranded.unreported (hbare _ h)
      | down h => exact Stranded.down (hbare _ h)
    obtain ⟨hclear, hpending, hdiagnostic, hparser, hstate, hbase⟩ := scopedWork_stranded h
    have hlinks : root.base.linkState = root.session.linkState := by
      cases h with
      | unreported h => rfl
      | down h => rfl
    have hslot : ControlOutput.getPendingStatus
        { root with base.operatingMode := operatingMode, base.operatingModeValid := 1 } =
          (.ok, false,
            { root with base.operatingMode := operatingMode, base.operatingModeValid := 1 }) := by
      rw [ControlOutput.getPendingStatus, ControlOutput.validateState,
        if_neg (by simp [(checksHold_stranded hnext).controlSlot])]
      simp [(idle_stranded h).2.1]
    have hready : ¬ (root.receiveProtocolErrorPending ≠ 0 ∨ root.parser.bodyReady ≠ 0) := by
      simp [hdiagnostic, hparser, Intake.toParser]
    have hempty : ¬ (root.parser.accumulated.length ≠ 0 ∨ root.parser.discarding ≠ 0) := by
      simp [hparser, Intake.toParser, Intake.accumulated]
    dsimp only
    rw [if_neg (by simp [hstate, hbase]), if_neg (by simp [hlinks])]
    by_cases hlink : root.base.linkState = .disconnected
    · rw [if_pos hlink]
      exact ⟨by simp, hnext⟩
    rw [if_neg hlink, if_neg hready]
    dsimp only
    rw [if_neg (show ¬ Status.ok ≠ .ok by simp), if_pos (Or.inl hbase),
      if_neg (by simp [hbase, hstate]), hslot]
    dsimp only
    rw [if_neg (show ¬ Status.ok ≠ .ok by simp), if_neg (show ¬ false = true by simp),
      if_neg hempty, beginEstablishment_stranded hnext]
    exact ⟨by simp, hnext⟩
  · rw [if_pos (by simp [hlisted])]
    exact ⟨by simp, h⟩

/-- The root of an endpoint, or a stranded one. -/
def Restored (s : Setup) (root : Root) : Prop :=
  Stranded s root ∨ ∃ e : Endpoint, e.Wf s ∧ root = e.toRoot s

/-- The report that the link is up begins an establishment, as on the root of a
    recovering endpoint. -/
theorem notifyLinkState_up {s : Setup} {e : Endpoint} {root : Root} (he : e.Bare s)
    (h : Stranded s root)
    (hnew : ¬ ((root.session.linkStateObserved != 0) = true ∧
      root.session.linkState = .connected))
    (hroot : Session.setLinkState { root with session.linkStateObserved := 1 } .connected =
      withLink s e .connected) :
    Session.notifyLinkState root .connected =
      let (status, published) := e.publish (Session.linkEvent .connected)
      (status, (published.beginEstablishment s).toRoot s) := by
  obtain ⟨-, -, -, -, hstate, hbase⟩ := scopedWork_stranded h
  obtain ⟨hactivity, hintake, hdiagnostic⟩ :=
    Endpoint.publish_fields e (Session.linkEvent .connected)
  have hpublish : Session.publishLinkEvent (withLink s e .connected) .connected =
      let (status, next) := e.publish (Session.linkEvent .connected)
      (status, withLink s next .connected) := publish_withLink he.wf.events .connected rfl
  have hbegin := @beginEstablishment_withLink _ s _
    (@Endpoint.wf_publish _ s e he.wf (Session.linkEvent .connected) rfl)
    (Or.inl (by rw [hactivity, he.activity])) (by rw [hintake, he.intake])
    (by rw [hdiagnostic, he.diagnostic])
  unfold Session.notifyLinkState
  rw [if_neg (by simp), if_neg (by simp [hstate, hbase]),
    if_neg (by simp [(mirrors_stranded h).2.2.2])]
  dsimp only
  rw [if_neg hnew, if_neg (by simp), hroot, hpublish]
  dsimp only
  rw [Endpoint.publish_status, hbegin]
  cases e.events.full <;> rfl

theorem notifyLinkState_stranded {s : Setup} {root : Root} (h : Stranded s root)
    (linkState : LinkState) :
    (Session.notifyLinkState root linkState).1 ≠ .internalError ∧
      Restored s (Session.notifyLinkState root linkState).2 := by
  obtain ⟨-, -, -, -, hstate, hbase⟩ := scopedWork_stranded h
  have hnotify := (mirrors_stranded h).2.2.2
  have hup : ∀ e : Endpoint, e.Bare s →
      (e.publish (Session.linkEvent .connected)).1 ≠ .internalError ∧
        Restored s (((e.publish (Session.linkEvent .connected)).2.beginEstablishment s).toRoot s) := by
    intro e he
    refine ⟨?_, Or.inr ⟨_, Endpoint.wf_beginEstablishment (Endpoint.wf_publish he.wf rfl), rfl⟩⟩
    rw [Endpoint.publish_status]
    split_ifs <;> simp
  cases linkState with
  | unlisted raw =>
      rw [Session.notifyLinkState, if_pos (by simp)]
      exact ⟨by simp, Or.inl h⟩
  | disconnected =>
      unfold Session.notifyLinkState
      rw [if_neg (by simp), if_neg (by simp [hstate, hbase]), if_neg (by simp [hnotify])]
      cases h with
      | @unreported e h =>
          have hforget : Endpoint.Bare s { e with abandoned := none } :=
            { h with wf := { h.wf with abandoned := fun id hid => by cases hid } }
          exact ⟨by simp, Or.inl (Stranded.down hforget)⟩
      | @down e h => exact ⟨by simp [withLink, Session.setLinkState], Or.inl (Stranded.down h)⟩
  | connected =>
      cases h with
      | @unreported e h =>
          rw [notifyLinkState_up h (Stranded.unreported h) (by simp) rfl]
          exact hup e h
      | @down e h =>
          rw [notifyLinkState_up h (Stranded.down h)
            (by simp [withLink, Session.setLinkState]) rfl]
          exact hup e h

/-! ## Reset, again -/

/-- The salvaged endpoint, with an operating mode that Get_Status accepts. -/
theorem salvaged_wf {s : Setup} {root : Root} (h : s.Survives root)
    (hlisted : root.base.operatingMode.isListed = true) (valid : Bool) :
    Endpoint.Wf s
      { salvaged root (Profile.resetNotification root) with
        operatingMode := root.base.operatingMode
        operatingModeValid := valid } where
  activity := by
    show (salvaged root (Profile.resetNotification root)).activity.Wf s
    unfold salvaged
    dsimp only
    by_cases hlink : root.base.linkState = .disconnected
    · rw [if_pos hlink]
      trivial
    · rw [if_neg hlink]
      intro reset hreset
      obtain ⟨id, hn, rfl⟩ := Option.map_eq_some_iff.mp hreset
      exact (resetNotification_eq_some hn).2.2
  cursor_host := by
    intro hhost
    have hrole : root.base.role = .host := h.role.symm.trans hhost
    have hne : ¬ root.base.role = .rig := by simp [hrole]
    show sessionIdentifierIsValid (salvaged root (Profile.resetNotification root)).cursor = true
    unfold salvaged
    dsimp only
    rw [if_neg hne]
    exact h.cursor hrole
  cursor_rig := fun hrig => if_pos (h.role.symm.trans hrig)
  operatingMode := hlisted
  lastFailure := rfl
  abandoned := by
    intro id hid
    rcases Option.or_eq_some_iff.mp hid with hn | ⟨-, hsurvives⟩
    · exact (resetNotification_eq_some hn).2.2
    · unfold survivingAbandoned at hsurvives
      split_ifs at hsurvives with hvalid
      cases hsurvives
      exact hvalid.2
  intake := Nat.zero_le _
  diagnostic := by
    intro hdiagnostic
    cases hdiagnostic
  disconnected := fun _ => ⟨rfl, rfl⟩
  events := EventRing.wf_clear ⟨root.eventQueue, root.eventReadIndex, root.eventCount⟩

theorem salvagedRoot_restored {s : Setup} {root : Root} (h : s.Survives root)
    (hlisted : root.base.operatingMode.isListed = true)
    (hflag : root.base.operatingModeValid ≤ 1) :
    Restored s (salvagedRoot s root (Profile.resetNotification root)) := by
  have hvalid : (if root.base.operatingModeValid == 1 then (1 : UInt8) else 0) =
      root.base.operatingModeValid := by
    rcases eq_zero_or_one_of_flag (UInt8.not_lt.mpr hflag) with h0 | h1
    · rw [h0]
      rfl
    · rw [h1]
      rfl
  have hwf := salvaged_wf h hlisted (root.base.operatingModeValid == 1)
  set e : Endpoint :=
    { salvaged root (Profile.resetNotification root) with
      operatingMode := root.base.operatingMode
      operatingModeValid := root.base.operatingModeValid == 1 } with he
  have hroot : salvagedRoot s root (Profile.resetNotification root) =
      { e.toRoot s with
        session.linkStateObserved := if root.session.linkStateObserved ≠ 0 then 1 else 0 } := by
    simp only [salvagedRoot, he, Endpoint.toRoot, hvalid]
    rfl
  have hactivity : e.activity =
      if root.base.linkState = .disconnected then
        .disconnected (root.session.linkStateObserved != 0)
      else .recovering ((Profile.resetNotification root).map fun id => ⟨id, false⟩) := rfl
  rw [hroot]
  by_cases hlink : root.base.linkState = .disconnected
  · rw [if_pos hlink] at hactivity
    have hsame : (if root.session.linkStateObserved ≠ 0 then 1 else 0) =
        (e.toRoot s).session.linkStateObserved := by
      show _ = if e.activity.observed then (1 : UInt8) else 0
      rw [hactivity]
      simp [Activity.observed]
    exact Or.inr ⟨e, hwf, by rw [hsame]⟩
  rw [if_neg hlink] at hactivity
  by_cases hobserved : root.session.linkStateObserved = 0
  · -- An identity is only told on an observed link.
    have hnone : Profile.resetNotification root = none := by
      by_contra hsome
      obtain ⟨id, hid⟩ := Option.ne_none_iff_exists'.mp hsome
      rw [(resetNotification_eq_some hid).2.1] at hobserved
      cases hobserved
    rw [hnone] at hactivity
    rw [if_neg (by simp [hobserved])]
    exact Or.inl (Stranded.unreported ⟨hwf, hactivity, rfl, rfl⟩)
  · have hsame : (if root.session.linkStateObserved ≠ 0 then 1 else 0) =
        (e.toRoot s).session.linkStateObserved := by
      show _ = if e.activity.observed then (1 : UInt8) else 0
      rw [hactivity, if_pos hobserved]
      rfl
    exact Or.inr ⟨e, hwf, by rw [hsame]⟩

theorem survives_stranded {s : Setup} {root : Root} (h : Stranded s root) :
    s.Survives root ∧ root.base.operatingMode.isListed = true ∧
      root.base.operatingModeValid ≤ 1 := by
  have hflag : ∀ valid : Bool, (if valid then (1 : UInt8) else 0) ≤ 1 := by
    intro valid
    cases valid <;> decide
  cases h with
  | @unreported e h =>
      have hlink : e.activity.linkState = .connected := by
        rw [h.activity]
        rfl
      exact ⟨⟨rfl, rfl, rfl, rfl, Or.inr hlink, rfl, rfl, rfl, h.wf.cursor_host⟩,
        h.wf.operatingMode, hflag _⟩
  | @down e h =>
      exact ⟨⟨rfl, rfl, rfl, rfl, Or.inl rfl, rfl, rfl, rfl, h.wf.cursor_host⟩,
        h.wf.operatingMode, hflag _⟩

/-- No call finds a stranded root inconsistent; a reset or a report that the link is up
    ends that state. -/
theorem step_stranded {s : Setup} {root : Root} (h : Stranded s root) (call : Call) :
    (step root call).1.status ≠ .internalError ∧ Restored s (step root call).2 := by
  cases call with
  | reset =>
      obtain ⟨hsurvives, hlisted, hflag⟩ := survives_stranded h
      unfold step
      dsimp only
      rw [reset_survives hsurvives]
      exact ⟨by simp [Response.ofStatus], salvagedRoot_restored hsurvives hlisted hflag⟩
  | notifyLinkState linkState nowMs => exact notifyLinkState_stranded h linkState
  | submitApplicationData payload =>
      unfold step
      dsimp only
      rw [submit_stranded h]
      refine ⟨?_, Or.inl h⟩
      simp only [Response.ofStatus]
      split_ifs <;> simp
  | receiveBytes data =>
      unfold step
      dsimp only
      rw [receiveBytes_stranded h]
      exact ⟨by simp [Response.ofStatus], Or.inl h⟩
  | process nowMs operatingMode =>
      obtain ⟨hstatus, hnext⟩ := process_stranded h nowMs operatingMode
      exact ⟨hstatus, Or.inl hnext⟩
  | peekOutput outBuffer =>
      unfold step
      dsimp only
      rw [peekOutput_stranded h]
      exact ⟨by simp [Response.ofStatus], Or.inl h⟩
  | commitOutput nowMs =>
      unfold step
      dsimp only
      rw [commitOutput_stranded h]
      exact ⟨by simp [Response.ofStatus], Or.inl h⟩
  | readApplicationData outBuffer =>
      unfold step
      dsimp only
      rw [read_stranded h]
      exact ⟨by simp [Response.ofStatus], Or.inl h⟩
  | readEvent =>
      obtain ⟨hstatus, hnext⟩ := readEvent_stranded h
      exact ⟨hstatus, Or.inl hnext⟩
  | getStatus =>
      obtain ⟨snapshot, hstatus⟩ := getStatus_stranded h
      unfold step
      dsimp only
      rw [hstatus]
      exact ⟨by simp [Response.ofStatus], Or.inl h⟩

theorem step_restored {s : Setup} {root : Root} (h : Restored s root) (call : Call) :
    (step root call).1.status ≠ .internalError ∧ Restored s (step root call).2 := by
  rcases h with h | ⟨e, he, rfl⟩
  · exact step_stranded h call
  · rw [step_refines he]
    exact ⟨Endpoint.step_status e call, Or.inr ⟨_, Endpoint.wf_step he call, rfl⟩⟩

theorem checksHold_restored {s : Setup} {root : Root} (h : Restored s root) : ChecksHold root := by
  rcases h with h | ⟨e, he, rfl⟩
  · exact checksHold_stranded h
  · exact checksHold_toRoot he

/-! ## The repair -/

/-- Reset succeeds and puts the endpoint where the link says; whatever is called from
    then on, no call returns INTERNAL_ERROR and every check of the code holds. -/
def Repairs (root : Root) : Prop :=
  let (status, next) := Profile.reset root
  status = .ok ∧ next.session.state = next.base.sessionState ∧
    next.base.sessionState =
      (if root.base.linkState = .disconnected then .disconnected else .recovering) ∧
    ∀ calls : List Call,
      (∀ response ∈ (Library.run step next calls).1, response.status ≠ .internalError) ∧
        ChecksHold (Library.run step next calls).2

/-- Reset repairs a salvageable root exactly if its operating mode would pass the check
    of Get_Status: the mode is listed and its flag is 0 or 1. -/
theorem explicit_reset {root : Root} (h : Salvageable root) :
    Repairs root ↔
      root.base.operatingMode.isListed = true ∧ root.base.operatingModeValid ≤ 1 := by
  obtain ⟨s, hs⟩ := h.exists_setup
  unfold Repairs
  rw [reset_survives hs]
  dsimp only
  constructor
  · rintro ⟨-, -, -, hruns⟩
    have hmetadata := (hruns []).2.mirrors.2.2.2.2
    simp only [Profile.statusMetadataIsValid, Bool.and_eq_true, decide_eq_true_eq,
      and_assoc] at hmetadata
    obtain ⟨-, -, -, -, -, -, hlisted, hflag, -⟩ := hmetadata
    exact ⟨hlisted, hflag⟩
  · rintro ⟨hlisted, hflag⟩
    have hrestored := salvagedRoot_restored hs hlisted hflag
    have hstate : (salvaged root (Profile.resetNotification root)).activity.sessionState =
        if root.base.linkState = .disconnected then .disconnected else .recovering := by
      unfold salvaged
      dsimp only
      split_ifs <;> rfl
    refine ⟨rfl, rfl, hstate, fun calls => ?_⟩
    have hstep : ∀ root call, Restored s root → Restored s (step root call).2 :=
      fun root call h => (step_restored h call).2
    exact ⟨Library.run_output hstep (fun root call h => (step_restored h call).1) hrestored calls,
      checksHold_restored (Library.run_invariant hstep hrestored calls)⟩

end

/-- The sample host in FAULT, with its flags, indices and slots overwritten. -/
def corruptedHost (operatingMode : OperatingMode) : Root :=
  { connectedHost with
    base.sessionState := .fault
    base.operatingMode := operatingMode
    base.lastFailure := .unlisted 9
    session.role := .rig
    session.linkState := .unlisted 9
    session.state := .unlisted 9
    session.handshakePhase := .unlisted 9
    session.reliableState := .retransmitPeeked
    session.sessionIdentifierValid := 9
    parser.bodyReady := 9
    parser.discarding := 9
    controlOutputState := .unlisted 9
    outputSelection := .unlisted 9
    recoveryResetPending := 9
    recentlyAbandonedSessionIdentifierValid := 9
    receivedMessagePending := 9
    eventReadIndex := 9
    eventCount := 9 }

theorem salvageable_corruptedHost (operatingMode : OperatingMode) :
    @Salvageable .lp64 (corruptedHost operatingMode) := by
  let _ : Target := .lp64
  have hregions : connectedHost.regions.submittedMessage ≠ 0 ∧
      connectedHost.regions.encodedOutput ≠ 0 ∧ connectedHost.regions.codecScratch ≠ 0 ∧
      connectedHost.regions.receivedMessage ≠ 0 := by decide
  have hconfig : Profile.validateConfigAndSize connectedHost.base.config =
      (.ok, (Profile.validateConfigAndSize connectedHost.base.config).2) := by decide +kernel
  exact
    { config := ⟨_, hconfig⟩
      role := Or.inl rfl
      linkState := Or.inr rfl
      submittedMessage := hregions.1
      encodedOutput := hregions.2.1
      codecScratch := hregions.2.2.1
      receivedMessage := hregions.2.2.2
      encodedOutputCapacity := rfl
      codecScratchSize := rfl
      parserScratchSize := rfl
      cursor := fun _ => rfl }

theorem explicit_reset_corruptedHost :
    @Salvageable .lp64 (corruptedHost .normal) ∧ @Repairs .lp64 (corruptedHost .normal) :=
  ⟨salvageable_corruptedHost .normal,
    (@explicit_reset .lp64 _ (salvageable_corruptedHost .normal)).mpr ⟨rfl, by decide⟩⟩

/-- An unlisted operating mode outlives Reset, so the next Get_Status faults again. -/
theorem explicit_reset_unlisted_mode :
    @Salvageable .lp64 (corruptedHost (.unlisted 9)) ∧
      (Library.run (@step .lp64) (corruptedHost (.unlisted 9)) [.reset, .getStatus]).1.map
        Response.status = [.ok, .internalError] ∧
      (Library.run (@step .lp64) (corruptedHost (.unlisted 9)) [.reset, .getStatus]).2.base.sessionState
        = .fault ∧
      ¬ @Repairs .lp64 (corruptedHost (.unlisted 9)) := by
  refine ⟨salvageable_corruptedHost _, by decide +kernel, by decide +kernel, ?_⟩
  intro hrepairs
  have hstatus := (hrepairs.2.2.2 [.getStatus]).1
  have hbad : .internalError ∈ (Library.run (@step .lp64)
      (@Profile.reset .lp64 (corruptedHost (.unlisted 9))).2 [.getStatus]).1.map Response.status := by
    decide +kernel
  obtain ⟨response, hmem, hfault⟩ := List.mem_map.mp hbad
  exact hstatus response hmem hfault

end HilRigProtocol.Transport
