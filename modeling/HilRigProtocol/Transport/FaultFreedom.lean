/-
  Fault freedom: no sequence of public calls makes an endpoint find itself
  inconsistent.

  The checks of the code are listed in `ChecksHold`. They hold of the root of every
  well-formed endpoint, and every reachable root is one.
-/
import HilRigProtocol.Transport.EndpointStatus
import HilRigProtocol.Transport.Refinement.Steps

namespace HilRigProtocol.Transport

/-- A handshake phase after WAITING_FOR_INITIATE has an identity on a connected link. -/
theorem Activity.of_boundHandshake {a : Activity}
    (h : Profile.phaseIsBoundHandshake a.phase = true) :
    (∃ id, a.identifier = some id) ∧ a.linkState = .connected ∧ a.sessionState = .connecting := by
  cases a with
  | initiatePending id => exact ⟨⟨id, rfl⟩, rfl, rfl⟩
  | waitingForResponse id stage => exact ⟨⟨id, rfl⟩, rfl, rfl⟩
  | responsePending id received => exact ⟨⟨id, rfl⟩, rfl, rfl⟩
  | waitingForConfirm id received stage => exact ⟨⟨id, rfl⟩, rfl, rfl⟩
  | confirmPending id received => exact ⟨⟨id, rfl⟩, rfl, rfl⟩
  | waitingForConfirmAck id received stage => exact ⟨⟨id, rfl⟩, rfl, rfl⟩
  | _ => cases h

section
variable [Target]

/-- The internal consistency checks, each as the code makes it. -/
structure ChecksHold (root : Root) : Prop where
  base_not_fault : root.base.sessionState ≠ .fault
  session_not_fault : root.session.state ≠ .fault
  /-- The public view and the private session agree. -/
  mirrors : Handshake.rootIsValid root = true ∧ Session.establishmentRootIsValid root = true ∧
    Session.abandonRootIsValid root = true ∧ Session.notifyRootIsValid root = true ∧
    Profile.statusMetadataIsValid root = true
  completedConfirm : Session.completedConfirmMetadataIsValid root = true
  recentlyAbandoned : Session.recentlyAbandonedMetadataIsValid root = true
  /-- Where an establishment may begin, nothing of an earlier session is left. -/
  clean : root.session.state = .recovering ∨ root.session.state = .disconnected →
    root.controlOutputState = .idle → root.receiveProtocolErrorPending = 0 →
    root.parser.accumulated = [] → root.parser.bodyReady = 0 → root.parser.discarding = 0 →
    Session.scopedWorkIsClear root = true
  cursor : root.session.role = .host →
    sessionIdentifierIsValid root.session.nextHostSessionIdentifier = true
  pendingPhase : Profile.phaseIsBoundHandshake root.session.handshakePhase = true →
    Handshake.pendingPhaseIsValid root = true
  pendingReset : root.recoveryResetPending ≠ 0 → Receive.pendingResetIsValid root = true
  reliableSlot : Reliability.hasStorage root = true ∧ Reliability.stateIsValid root = true
  controlSlot : ControlOutput.stateIsValid root = true
  outputPin : Output.recoveryIsValid root = true ∧ Output.selectionIsValid root = true
  parser : root.parser.stateIsValid = true
  eventQueue : Events.stateIsValid root = true
  unreadMessage : Application.hasRequiredStorage root = true ∧
    Application.receivedMessageMetadataIsValid root = true
  /-- With the check of the deferred diagnostic. -/
  receive : Receive.validateRoot root = (.ok, root)

theorem scopedWorkIsClear_of_idle {s : Setup} {e : Endpoint}
    (hstate : (e.toRoot s).session.state = .recovering ∨
      (e.toRoot s).session.state = .disconnected)
    (hcontrol : (e.toRoot s).controlOutputState = .idle)
    (hdiagnostic : (e.toRoot s).receiveProtocolErrorPending = 0)
    (haccumulated : (e.toRoot s).parser.accumulated = [])
    (hready : (e.toRoot s).parser.bodyReady = 0)
    (hdiscarding : (e.toRoot s).parser.discarding = 0) :
    Session.scopedWorkIsClear (e.toRoot s) = true := by
  have hactivity : e.activity = .recovering none ∨ e.activity.linkState = .disconnected := by
    cases ha : e.activity with
    | recovering reset =>
        cases reset with
        | none => exact Or.inl rfl
        | some r =>
            simp [Endpoint.toRoot, ha, Activity.controlItem] at hcontrol
            split_ifs at hcontrol
    | disconnected observed => exact Or.inr rfl
    | _ => simp [Endpoint.toRoot, Endpoint.toSession, ha, Activity.sessionState] at hstate
  have hd : e.diagnosticPending = false := by
    simpa [Endpoint.toRoot] using hdiagnostic
  have hi : e.intake = .filling [] := by
    cases hi : e.intake with
    | filling bytes =>
        have hbytes : bytes = [] := by
          simpa [Endpoint.toRoot, hi, Intake.toParser, Intake.accumulated] using haccumulated
        rw [hbytes]
    | ready body => simp [Endpoint.toRoot, hi, Intake.toParser] at hready
    | discarding => simp [Endpoint.toRoot, hi, Intake.toParser] at hdiscarding
  exact @scopedWorkIsClear_toRoot _ s e e.activity.linkState hactivity hi hd

/-- The root of a well-formed endpoint passes every check. -/
theorem checksHold_toRoot {s : Setup} {e : Endpoint} (h : e.Wf s) : ChecksHold (e.toRoot s) where
  base_not_fault := Activity.sessionState_ne_fault e.activity
  session_not_fault := Activity.sessionState_ne_fault e.activity
  mirrors := ⟨handshake_rootIsValid h, establishmentRootIsValid_toRoot h,
    abandonRootIsValid_toRoot h.activity, notifyRootIsValid_toRoot h.activity,
    statusMetadataIsValid_toRoot h⟩
  completedConfirm := completedConfirmMetadataIsValid_toRoot h.activity
  recentlyAbandoned := recentlyAbandonedMetadataIsValid_toRoot h.abandoned
  clean := scopedWorkIsClear_of_idle
  cursor := h.cursor_host
  pendingPhase := by
    intro hphase
    obtain ⟨⟨id, hid⟩, hlink, hstate⟩ := Activity.of_boundHandshake hphase
    exact pendingPhaseIsValid_toRoot hid (identifier_wf h.activity hid) hlink hstate
  pendingReset := by
    intro hpending
    have hwf := h.activity
    cases ha : e.activity with
    | recovering reset =>
        rw [ha] at hwf
        cases reset with
        | none => simp [Endpoint.toRoot, ha, Activity.recoveryReset] at hpending
        | some r =>
            have hid := hwf r rfl
            cases hp : r.pinned <;>
              simp [Receive.pendingResetIsValid, Endpoint.toRoot, Endpoint.toSession, ha,
                Activity.recoveryReset, Activity.sessionState, Activity.linkState,
                Activity.controlItem, hid, hp]
    | _ => simp [Endpoint.toRoot, ha, Activity.recoveryReset] at hpending
  reliableSlot := ⟨hasStorage_toRoot e, reliability_stateIsValid h.activity⟩
  controlSlot := controlOutput_stateIsValid h.activity
  outputPin := ⟨recoveryIsValid_toRoot h.activity, selectionIsValid_toRoot h.activity⟩
  parser := parser_stateIsValid_toRoot h
  eventQueue := events_stateIsValid h.events
  unreadMessage := ⟨hasRequiredStorage_toRoot e, receivedMessageMetadataIsValid_toRoot h.activity⟩
  receive := receive_validateRoot h

/-- For every configuration that `Init` accepts and every sequence of public calls,
    no call returns INTERNAL_ERROR, the endpoint is not in FAULT, and every check of
    the code holds. -/
theorem fault_freedom {context next : Context} {role : Role} {config : Config} {storage : Storage}
    {placement : Placement} {initial : Root}
    (hinit : Profile.init context role config storage placement = (.ok, next))
    (hroot : Profile.rootFromContext next = some initial) (calls : List Call) :
    (∀ response ∈ (Library.run step initial calls).1, response.status ≠ .internalError) ∧
      ChecksHold (Library.run step initial calls).2 := by
  obtain ⟨s, _, _, hinitial, hwf⟩ := init_refines hinit
  rw [hinitial] at hroot
  cases hroot
  have hstep : ∀ (e : Endpoint) call, e.Wf s → (e.step s call).2.Wf s :=
    fun e call he => Endpoint.wf_step he call
  rw [Library.run_refines hstep (fun e call he => step_refines he call) hwf calls]
  constructor
  · exact Library.run_output hstep (fun e call _ => Endpoint.step_status e call) hwf calls
  · exact checksHold_toRoot (Library.run_invariant hstep hwf calls)

end

theorem fault_freedom_host :
    ∃ initial : Root,
      @Profile.rootFromContext .lp64 (@Profile.init .lp64 .zero .host sampleConfig sampleStorage
        samplePlacement).2 = some initial ∧
      (∀ response ∈ (Library.run (@step .lp64) initial
          [.notifyLinkState .connected 0, .process 0 .normal, .receiveBytes [1, 0], .reset]).1,
        response.status ≠ .internalError) ∧
      @ChecksHold .lp64 (Library.run (@step .lp64) initial
        [.notifyLinkState .connected 0, .process 0 .normal, .receiveBytes [1, 0], .reset]).2 :=
  ⟨_, rfl, @fault_freedom .lp64 .zero
    (@Profile.init .lp64 .zero .host sampleConfig sampleStorage samplePlacement).2 .host
    sampleConfig sampleStorage samplePlacement _ rfl rfl _⟩

end HilRigProtocol.Transport
