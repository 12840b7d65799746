/-
  `Process` between the commit of a recovery RESET and the next bytes.

  Both `Process` and the receive path start the next session of a rig. They do the same
  work that was left before it, and on an endpoint that is recovering the only body that
  waits is one that is rejected when the event queue has a place.
-/
import HilRigProtocol.Transport.Reception
import HilRigProtocol.Transport.Rejection
import HilRigProtocol.Transport.Transactional

namespace HilRigProtocol.Transport

namespace Endpoint

section
variable [Target] {s : Setup}

/-! ## The body that waits on a recovering endpoint -/

theorem classifyBody_congr {e e' : Endpoint} {reset reset' : Option RecoveryReset}
    (ha : e.activity = .recovering reset) (ha' : e'.activity = .recovering reset')
    (habandoned : e'.abandoned = e.abandoned) (body : List UInt8) :
    e'.classifyBody s body = e.classifyBody s body := by
  have htype : ∀ frame, e'.classifyByType s frame = e.classifyByType s frame := by
    intro frame
    unfold classifyByType
    rw [ha, ha']
    rfl
  have hclassify : ∀ frame, e'.classify s frame = e.classify s frame := by
    intro frame
    unfold classify
    rw [htype, ha, ha', habandoned]
    rfl
  have hidentifier : e'.activity.identifier = e.activity.identifier := by
    rw [ha, ha']
    rfl
  cases hdecode : decodeFrameView body (s.config.maxApplicationMessageSize + rawOverhead)
    s.config.maxApplicationMessageSize with
  | mk status decoded =>
    rw [classifyBody_of_decoded _ _ _ hdecode, classifyBody_of_decoded _ _ _ hdecode, hclassify,
      hidentifier]

/-- A recovering endpoint takes nothing. -/
theorem classify_recovering {e : Endpoint} {reset : Option RecoveryReset}
    (ha : e.activity = .recovering reset) (frame : Frame) :
    (e.classify s frame).rejects = true := by
  have hinOrder : s.inOrder e.activity frame .reject .reject = .reject := by
    unfold Setup.inOrder Setup.sequenceResult
    rw [ha]
    rfl
  unfold classify
  split_ifs
  · rfl
  · rfl
  · rfl
  · unfold classifyByType
    cases frame.type with
    | initiate =>
        dsimp only
        split_ifs
        · rw [show s.classifyInitiate e.activity frame = .reject by
            unfold Setup.classifyInitiate
            rw [ha] at hinOrder ⊢
            exact hinOrder]
          rfl
        · rfl
    | response | confirm =>
        dsimp only
        rw [if_neg (by rw [ha]; simp [Activity.identifier])]
        rfl
    | reset =>
        rw [ha]
        dsimp only
        by_cases hvalid : ¬ sessionIdentifierIsValid frame.sessionIdentifier = true
        · rw [if_pos hvalid]
          rfl
        · rw [if_neg hvalid]
          rfl
    | ack | applicationMessage =>
        rw [ha]
        rfl
    | _ => rfl

/-- A body that waits on a recovering endpoint waits for a place for its diagnostic. -/
theorem unavailable_recovering {e : Endpoint} {reset : Option RecoveryReset}
    (ha : e.activity = .recovering reset) {body : List UInt8}
    (h : e.available (e.classifyBody s body).1 = false) :
    (e.classifyBody s body).1 = .reject := by
  rcases @classifyBody_cases _ s e body with ⟨frame, _, _, heq⟩ | hreject | ⟨_, hbound⟩
  · rw [heq] at h ⊢
    have hrejects := @classify_recovering _ s e reset ha frame
    cases hv : e.classify s frame with
    | reject => rfl
    | obsolete | incompatible =>
        rw [hv] at h
        cases h
    | _ =>
        rw [hv] at hrejects
        cases hrejects
  · exact hreject
  · rw [ha] at hbound
    cases hbound

variable (s) in
/-- On a recovering endpoint only a body that is rejected waits. -/
def Withholds (e : Endpoint) : Prop :=
  ∀ body reset, e.intake = .ready body → e.activity = .recovering reset →
    (e.classifyBody s body).1 = .reject

theorem withholds_unready {e : Endpoint} (h : e.intake.isReady = false) : Withholds s e := by
  intro body reset hi
  rw [hi] at h
  cases h

/-- A step that leaves the body, and does not begin to recover. -/
theorem withholds_kept {e e' : Endpoint} (h : Withholds s e) (hintake : e'.intake = e.intake)
    (habandoned : e'.abandoned = e.abandoned)
    (hactivity : ∀ reset, e'.activity = .recovering reset →
      ∃ reset', e.activity = .recovering reset') : Withholds s e' := by
  intro body reset hi ha
  rw [hintake] at hi
  obtain ⟨reset', ha'⟩ := hactivity reset ha
  rw [classifyBody_congr ha' ha habandoned]
  exact h body reset' hi ha'

omit [Target] in
theorem recovering_mapStage {f : Stage → Stage} {a : Activity} {reset : Option RecoveryReset}
    (h : a.mapStage f = .recovering reset) : a = .recovering reset := by
  cases a <;> first | exact h | cases h

theorem withholds_recorded {e : Endpoint} (h : Withholds s e) (call : Call) :
    Withholds s (e.recorded call) := by
  have hfields := recorded_fields e call
  refine withholds_kept h (intake_recorded e call) hfields.2.2.2.1 fun reset ha => ⟨reset, ?_⟩
  rw [← hfields.1]
  exact ha

/-- An attempt leaves the body only where its diagnostic finds no place. -/
theorem withholds_processBody {e : Endpoint} {body : List UInt8} (hi : e.intake = .ready body) :
    Withholds s (e.processBody s body).2 := by
  rcases @processBody_cases _ s e body with ⟨havailable, hsame⟩ | ⟨_, _, hempty⟩
  · rw [hsame]
    intro body' reset hi' ha
    have hbody : body' = body := by
      dsimp only at hi'
      rw [hi] at hi'
      cases hi'
      rfl
    subst hbody
    exact unavailable_recovering ha havailable
  · exact withholds_unready (by rw [hempty]; rfl)

theorem withholds_advanceIfOk {result : Status × Endpoint} (h : Withholds s result.2) :
    Withholds s (advanceIfOk s result).2 := by
  unfold advanceIfOk advance
  split_ifs with hok hready
  · exact withholds_unready (by
      rw [show (result.2.beginEstablishment s).intake = result.2.intake by
        unfold beginEstablishment
        split_ifs <;> rfl, hready.2.2]
      rfl)
  · exact h
  · exact h

/-- Receive work and `Process` without a body leave none. -/
theorem unready_step {e : Endpoint} {call : Call} (hatomic : Atomic s e call)
    (hcall : (∃ data, call = .receiveBytes data) ∨
      ∃ nowMs operatingMode, call = .process nowMs operatingMode)
    (hbody : e.offered call = none) (hready : e.intake.isReady = false) :
    (e.step s call).2.intake.isReady = false := by
  have hsettle : (e.settle s).2.intake.isReady = false := by
    rw [settle_unready hready, intake_advanceIfOk, (settleDiagnostic_fields e).2]
    exact hready
  cases hatomic with
  | settle =>
      rw [step_receiveBytes_state]
      by_cases hlink : e.activity.linkState = .disconnected
      · rw [receiveBytes_disconnected hlink]
        exact hready
      · rw [receiveBytes_nil (linkState_connected hlink)]
        exact hsettle
  | byte byte hquiet hlink =>
      rw [step_byte hquiet hlink]
      unfold offered at hbody
      unfold feedByte
      cases hi : e.intake with
      | filling bytes =>
          rw [hi] at hbody
          dsimp only at hbody ⊢
          split_ifs with hzero hempty
          · exact hready
          · rw [if_pos ⟨hzero, hempty⟩] at hbody
            cases hbody
          · rfl
          · rfl
      | ready body =>
          rw [hi] at hready
          cases hready
      | discarding =>
          dsimp only
          split_ifs
          · rw [intake_advanceIfOk]
            show (e.release.publish Receive.protocolErrorEvent).2.intake.isReady = false
            rw [(publish_fields _ _).2.1]
            rfl
          · exact hready
  | progress nowMs operatingMode hmode hquiet hlink =>
      have htick := process_tick hmode hquiet hlink nowMs
      show (e.process s nowMs operatingMode).2.intake.isReady = false
      generalize (e.process s nowMs operatingMode).2 = e' at htick ⊢
      cases htick with
      | fail | lose =>
          rw [(beginLocalRecovery_fields _ _).2.1]
          rfl
      | _ => exact hready
  | stalled nowMs operatingMode hmode hfail hlink =>
      show (e.process s nowMs operatingMode).2.intake.isReady = false
      rw [process_stalled hmode hfail hlink]
      exact hsettle
  | away nowMs operatingMode haway =>
      show (e.process s nowMs operatingMode).2.intake.isReady = false
      rw [process_recorded haway, intake_recorded]
      exact hready
  | other hdata hprocess =>
      rcases hcall with ⟨data, hcall⟩ | ⟨nowMs, operatingMode, hcall⟩
      · exact absurd hcall (hdata data)
      · exact absurd hcall (hprocess nowMs operatingMode)

theorem withholds_step {e : Endpoint} (h : e.Wf s) (hwithholds : Withholds s e) {call : Call}
    (hatomic : Atomic s e call) : Withholds s (e.step s call).2 := by
  cases hbody : e.offered call with
  | some body =>
      rw [step_resolves h hatomic hbody]
      exact withholds_recorded (withholds_advanceIfOk (withholds_processBody rfl)) call
  | none =>
      have hunready : ((∃ data, call = .receiveBytes data) ∨
          ∃ nowMs operatingMode, call = .process nowMs operatingMode) →
          e.intake.isReady = false → Withholds s (e.step s call).2 :=
        fun hcall hready => withholds_unready (unready_step hatomic hcall hbody hready)
      cases hatomic with
      | settle => exact hunready (Or.inl ⟨_, rfl⟩) (intake_unready hbody)
      | byte byte hquiet _ => exact hunready (Or.inl ⟨_, rfl⟩) hquiet.settled.intake
      | progress nowMs operatingMode _ hquiet _ =>
          exact hunready (Or.inr ⟨_, _, rfl⟩) hquiet.settled.intake
      | stalled nowMs operatingMode hmode _ _ =>
          have hoffered : e.offered (.process nowMs operatingMode) = e.intake.body := if_pos hmode
          rw [hbody] at hoffered
          exact hunready (Or.inr ⟨_, _, rfl⟩) (intake_unready hoffered.symm)
      | away nowMs operatingMode haway =>
          show Withholds s (e.process s nowMs operatingMode).2
          rw [process_recorded haway]
          exact withholds_recorded hwithholds _
      | other hdata hprocess =>
          have hdeed := step_deed h (.other hdata hprocess)
          generalize (e.step s call).2 = e' at hdeed ⊢
          have hkept : ∀ {a : Activity}, (∀ reset, a = .recovering reset →
              ∃ reset', e.activity = .recovering reset') →
              Withholds s { e with activity := a } :=
            fun hactivity => withholds_kept hwithholds rfl rfl hactivity
          cases hdeed with
          | idle => exact hwithholds
          | readEvent => exact withholds_kept hwithholds rfl rfl fun reset ha => ⟨reset, ha⟩
          | work hcall _ =>
              rcases hcall with ⟨data, hcall⟩ | ⟨nowMs, operatingMode, hcall⟩
              · exact absurd hcall (hdata data)
              · exact absurd hcall (hprocess nowMs operatingMode)
          | showReliable | commitReliable =>
              exact hkept fun reset ha => ⟨reset, recovering_mapStage ha⟩
          | showControl | commitControl =>
              refine hkept fun reset ha => ?_
              cases he : e.activity <;> rw [he] at ha <;> first | exact ⟨_, rfl⟩ | cases ha
          | submit | readMessage => exact hkept fun reset ha => by cases ha
          | observe => exact fun body reset _ ha => by cases ha
          | reset => exact withholds_unready rfl
          | disconnect =>
              refine withholds_unready ?_
              show (Endpoint.abandon _ _ _).2.intake.isReady = false
              rw [(abandon_fields _ _ _).2.1]
              rfl
          | connect hcall hlink =>
              intro body reset _ ha
              unfold beginEstablishment at ha
              split_ifs at ha

/-! ## `Process` before the bytes -/

section
variable (operatingMode : OperatingMode)

theorem feedByte_withMode (e : Endpoint) (byte : UInt8) :
    (e.withMode operatingMode).feedByte s byte =
      ((e.feedByte s byte).1, (e.feedByte s byte).2.withMode operatingMode) := by
  unfold feedByte
  rw [show (e.withMode operatingMode).intake = e.intake from rfl]
  cases e.intake with
  | filling bytes =>
      dsimp only
      split_ifs
      · rfl
      · have hprocess := @processBody_withMode _ s operatingMode
          { e with intake := .ready bytes } bytes
        have hsame : ({ e.withMode operatingMode with intake := .ready bytes } : Endpoint) =
            ({ e with intake := .ready bytes } : Endpoint).withMode operatingMode := rfl
        rw [hsame, hprocess]
        exact advanceIfOk_withMode operatingMode _ _
      · rfl
      · rfl
  | ready body => rfl
  | discarding =>
      dsimp only
      split_ifs
      · have hdiagnose : (e.withMode operatingMode).release.diagnose =
            (e.release.diagnose.1, e.release.diagnose.2.withMode operatingMode) := by
          unfold diagnose
          rw [show (e.withMode operatingMode).release = e.release.withMode operatingMode from rfl,
            publish_withMode]
          rfl
        rw [hdiagnose]
        exact advanceIfOk_withMode operatingMode _ _
      · rfl

theorem feed_withMode (data : List UInt8) (e : Endpoint) :
    (e.withMode operatingMode).feed s data =
      ((e.feed s data).1, (e.feed s data).2.1, (e.feed s data).2.2.withMode operatingMode) := by
  induction data generalizing e with
  | nil => rfl
  | cons byte rest ih =>
      by_cases hok : (e.feedByte s byte).1 = .ok
      · rw [feed_cons_ok hok, feed_cons_ok (by rw [feedByte_withMode]; exact hok),
          feedByte_withMode, ih]
      · rw [feed_cons_fail hok, feed_cons_fail (by rw [feedByte_withMode]; exact hok),
          feedByte_withMode]

/-- Reception does not look at the mode. -/
theorem receiveBytes_withMode (e : Endpoint) (data : List UInt8) :
    (e.withMode operatingMode).receiveBytes s data =
      ((e.receiveBytes s data).1, (e.receiveBytes s data).2.1,
        (e.receiveBytes s data).2.2.withMode operatingMode) := by
  by_cases hlink : e.activity.linkState = .disconnected
  · rw [receiveBytes_disconnected hlink, receiveBytes_disconnected (by exact hlink)]
  · have hlink' : ¬ (e.withMode operatingMode).activity.linkState = .disconnected := hlink
    by_cases hok : (e.settle s).1 = .ok
    · rw [receiveBytes_settled hlink hok,
        receiveBytes_settled hlink' (by rw [settle_withMode]; exact hok), settle_withMode]
      exact feed_withMode operatingMode data _
    · rw [receiveBytes_unsettled hlink hok,
        receiveBytes_unsettled hlink' (by rw [settle_withMode]; exact hok), settle_withMode]

end

omit [Target] in
theorem diagnose_full {e : Endpoint} (hpending : e.diagnosticPending = true)
    (hfail : e.diagnose.1 ≠ .ok) : e.diagnose.2 = e := by
  have hfull : e.events.full = true := by
    rw [← Bool.not_eq_false]
    intro hfull
    apply hfail
    show (e.publish Receive.protocolErrorEvent).1 = .ok
    rw [publish_status, hfull]
    rfl
  have hsame : ({ e with diagnosticPending := true } : Endpoint) = e := by
    rw [← hpending]
  unfold diagnose publish
  rw [if_pos hfull]
  dsimp only
  rw [hfull, hsame]

/-- The work that was left on a recovering rig whose peer has been told. -/
theorem settle_recovering {e : Endpoint} (h : e.Wf s) (hrole : s.role = .rig)
    (ha : e.activity = .recovering none) (hwithholds : Withholds s e) :
    (e.settle s).1 ≠ .ok ∧ (e.settle s).2 = e ∨
      (e.settle s).1 = .ok ∧ ((e.settle s).2.activity = .recovering none ∨
        (e.settle s).2.activity = .waitingForInitiate) := by
  have hadvance : ∀ e' : Endpoint, e'.activity = .recovering none →
      (e'.advance s).activity = .recovering none ∨
        (e'.advance s).activity = .waitingForInitiate := by
    intro e' ha'
    unfold advance beginEstablishment
    rw [hrole]
    split_ifs with _ hhost
    · cases hhost
    · exact Or.inr rfl
    · exact Or.inl ha'
  cases hi : e.intake with
  | ready body =>
      have hreject := hwithholds body none hi ha
      obtain ⟨_, _, hsame⟩ := ready_connected h hi
      rw [settle_ready h hi, hsame]
      unfold processBody attempt
      dsimp only
      rw [hreject]
      by_cases havailable : e.available .reject = true
      · rw [if_pos havailable]
        refine Or.inr ⟨rfl, hadvance _ ?_⟩
        show (e.publish Receive.protocolErrorEvent).2.activity = _
        rw [(publish_fields _ _).1]
        exact ha
      · rw [if_neg havailable]
        exact Or.inl ⟨by simp [advanceIfOk], rfl⟩
  | _ =>
      have hready : e.intake.isReady = false := by
        rw [hi]
        rfl
      have hkept := settleDiagnostic_fields e
      rw [ha] at hkept
      rw [settle_unready hready]
      by_cases hok : e.settleDiagnostic.1 = .ok
      · have hresult : advanceIfOk s e.settleDiagnostic =
            (.ok, e.settleDiagnostic.2.advance s) := if_pos hok
        rw [hresult]
        exact Or.inr ⟨rfl, hadvance _ hkept.1⟩
      · have hresult : advanceIfOk s e.settleDiagnostic = e.settleDiagnostic := if_neg hok
        rw [hresult]
        refine Or.inl ⟨hok, ?_⟩
        unfold settleDiagnostic at hok ⊢
        cases hd : e.diagnosticPending with
        | false =>
            rw [if_neg (by simp)]
        | true =>
            rw [hd, if_pos rfl] at hok
            rw [if_pos rfl]
            exact diagnose_full hd hok

/-- `Process` before the bytes makes no difference to them. -/
theorem process_receiveBytes {e : Endpoint} (h : e.Wf s) (hrole : s.role = .rig)
    (ha : e.activity = .recovering none) (hwithholds : Withholds s e)
    {operatingMode : OperatingMode} (hmode : operatingMode.isListed = true) (nowMs : UInt32)
    (data : List UInt8) :
    (e.process s nowMs operatingMode).2.receiveBytes s data =
      ((e.receiveBytes s data).1, (e.receiveBytes s data).2.1,
        (e.receiveBytes s data).2.2.withMode operatingMode) := by
  have hlink : e.activity.linkState = .connected := by
    rw [ha]
    rfl
  rcases settle_recovering h hrole ha hwithholds with ⟨hfail, hsame⟩ | ⟨hok, hactivity⟩
  · rw [process_stalled hmode hfail hlink, hsame]
    exact receiveBytes_withMode operatingMode e data
  · have hquiet := quiet_settle hok
    have hconnected := (wf_settle ⟨h, hlink⟩).linkState
    have hidle : ((e.settle s).2.process s nowMs operatingMode).2 =
        (e.settle s).2.withMode operatingMode := by
      have htick := process_tick hmode hquiet hconnected nowMs
      have hitem : s.item (e.settle s).2.activity = none := by
        rcases hactivity with ha' | ha' <;> rw [ha'] <;> rfl
      have hother : ∀ a, (e.settle s).2.activity = a → a = .recovering none ∨
          a = .waitingForInitiate := by
        rintro a rfl
        exact hactivity
      generalize ((e.settle s).2.process s nowMs operatingMode).2 = e' at htick ⊢
      cases htick with
      | idle => rfl
      | initiate ha' | response ha' | confirm ha' =>
          rcases hother _ ha' with hcase | hcase <;> cases hcase
      | fail ha' | hold ha' =>
          rcases hother _ ha' with hcase | hcase <;> cases hcase
      | retry hsome =>
          rw [show ((e.settle s).2.withMode operatingMode).activity = (e.settle s).2.activity
            from rfl, hitem] at hsome
          cases hsome
      | lose _ hsome =>
          rw [show ((e.settle s).2.withMode operatingMode).activity = (e.settle s).2.activity
            from rfl, hitem] at hsome
          cases hsome
    rw [← process_settled hlink h hok hmode nowMs, hidle, receiveBytes_withMode,
      receiveBytes_quiet hquiet hconnected, receiveBytes_settled (by rw [hlink]; simp) hok]

/-- A pinned recovery RESET. -/
theorem pinned_recovery {e : Endpoint} (hreset : (e.toRoot s).recoveryResetPending ≠ 0)
    (hpinned : (e.toRoot s).outputSelection = .control) :
    ∃ id, e.activity = .recovering (some ⟨id, true⟩) := by
  cases ha : e.activity with
  | recovering reset =>
      cases reset with
      | none => simp [toRoot, ha, Activity.recoveryReset] at hreset
      | some reset =>
          obtain ⟨id, pinned⟩ := reset
          cases pinned with
          | true => exact ⟨id, rfl⟩
          | false => simp [toRoot, ha, Setup.item, Activity.controlItem] at hpinned
  | _ => simp [toRoot, ha, Activity.recoveryReset] at hreset

/-- The output does not depend on the mode. -/
theorem peekOutput_withMode (operatingMode : OperatingMode) (e : Endpoint)
    (outBuffer : Option Nat) :
    ((e.withMode operatingMode).step s (.peekOutput outBuffer)).1 =
      (e.step s (.peekOutput outBuffer)).1 := by
  have hsame : ((e.withMode operatingMode).peekOutput s outBuffer).1 =
        (e.peekOutput s outBuffer).1 ∧
      ((e.withMode operatingMode).peekOutput s outBuffer).2.1 =
        (e.peekOutput s outBuffer).2.1 ∧
      ((e.withMode operatingMode).peekOutput s outBuffer).2.2.1 =
        (e.peekOutput s outBuffer).2.2.1 := by
    unfold peekOutput
    rw [show (e.withMode operatingMode).selection s = e.selection s from rfl,
      show (e.withMode operatingMode).activity = e.activity from rfl]
    split <;> exact ⟨rfl, rfl, rfl⟩
  unfold step
  dsimp only
  rw [hsame.1, hsame.2.1, hsame.2.2]

end

end Endpoint

/-! ## The code -/

/-- The root with another recorded mode. -/
def Root.withMode (root : Root) (operatingMode : OperatingMode) : Root :=
  { root with
    base := { root.base with operatingMode := operatingMode, operatingModeValid := 1 } }

section
variable [Target]

/-- A rig whose pinned recovery RESET is committed receives bytes as it does after
    `Process` with any time and mode: only the recorded mode tells the two apart. -/
theorem process_between_commit_and_receive {root : Root} (h : Reachable root)
    (hrole : root.base.role = .rig) (hreset : root.recoveryResetPending ≠ 0)
    (hpinned : root.outputSelection = .control) (committedMs nowMs : UInt32)
    {operatingMode : OperatingMode} (hmode : operatingMode.isListed = true) (data : List UInt8) :
    let commit := step root (.commitOutput committedMs)
    let direct := step commit.2 (.receiveBytes data)
    let later := step (step commit.2 (.process nowMs operatingMode)).2 (.receiveBytes data)
    commit.1.status = .ok ∧ later.1 = direct.1 ∧ later.2 = direct.2.withMode operatingMode ∧
      Events.unread later.2 = Events.unread direct.2 ∧
      ∀ outBuffer, (step later.2 (.peekOutput outBuffer)).1 =
        (step direct.2 (.peekOutput outBuffer)).1 := by
  obtain ⟨s, e, hwf, hwithholds, rfl⟩ := reachable_invariant
    (fun s => Endpoint.withholds_unready rfl)
    (fun s e call hwf hwithholds hatomic => Endpoint.withholds_step hwf hwithholds hatomic) h
  obtain ⟨id, ha⟩ := Endpoint.pinned_recovery hreset hpinned
  have hnone : s.item e.activity = none := by
    rw [ha]
    rfl
  have hcommit : e.step s (.commitOutput committedMs) =
      (.ofStatus .ok, { e with activity := .recovering none }) := by
    unfold Endpoint.step Endpoint.commitOutput Endpoint.reliablePinned Endpoint.controlPinned
    dsimp only
    rw [hnone, ha]
    rfl
  generalize hc : ({ e with activity := .recovering none } : Endpoint) = c at hcommit
  have hwf' : c.Wf s := by
    have hstep := Endpoint.wf_step hwf (.commitOutput committedMs)
    rwa [hcommit] at hstep
  have hkept : Endpoint.Withholds s c := by
    rw [← hc]
    exact Endpoint.withholds_kept hwithholds rfl rfl fun reset _ => ⟨_, ha⟩
  have hreceive : (c.step s (.process nowMs operatingMode)).2.step s (.receiveBytes data) =
      ((c.step s (.receiveBytes data)).1,
        (c.step s (.receiveBytes data)).2.withMode operatingMode) := by
    have hprocess := Endpoint.process_receiveBytes hwf' hrole (by rw [← hc]) hkept hmode nowMs data
    unfold Endpoint.step
    dsimp only
    rw [hprocess]
  have hwfDirect := Endpoint.wf_step hwf' (.receiveBytes data)
  have hwfLater := Endpoint.wf_step (Endpoint.wf_step hwf' (.process nowMs operatingMode))
    (.receiveBytes data)
  intro commit direct later
  have hdirect : direct = ((c.step s (.receiveBytes data)).1,
      (c.step s (.receiveBytes data)).2.toRoot s) := by
    show step (step (e.toRoot s) (.commitOutput committedMs)).2 (.receiveBytes data) = _
    rw [step_refines hwf, hcommit, step_refines hwf']
  have hlater : later = ((c.step s (.receiveBytes data)).1,
      ((c.step s (.receiveBytes data)).2.withMode operatingMode).toRoot s) := by
    show step (step (step (e.toRoot s) (.commitOutput committedMs)).2
      (.process nowMs operatingMode)).2 (.receiveBytes data) = _
    rw [step_refines hwf, hcommit, step_refines hwf',
      step_refines (Endpoint.wf_step hwf' (.process nowMs operatingMode)), hreceive]
  rw [hreceive] at hwfLater
  refine ⟨?_, by rw [hlater, hdirect], ?_, ?_, ?_⟩
  · show (step (e.toRoot s) (.commitOutput committedMs)).1.status = .ok
    rw [step_refines hwf, hcommit]
    rfl
  · rw [hlater, hdirect]
    rfl
  · rw [hlater, hdirect]
    rfl
  · intro outBuffer
    rw [hlater, hdirect, step_refines hwfLater, step_refines hwfDirect]
    exact Endpoint.peekOutput_withMode operatingMode _ outBuffer

end

/-- The sample rig after a local reset in its first session; its RESET is shown. -/
def resettingRig : Root :=
  (Library.run (@step .lp64) connectedRig
    [.receiveBytes (encodedFrame (Handshake.controlFrame .initiate 7 0)), .reset,
      .peekOutput (some 64)]).2

theorem reachable_resettingRig : @Reachable .lp64 resettingRig :=
  @reachable_run .lp64 _ reachable_connectedRig _

/-- The INITIATE of the next session, after the rest of a broken frame. -/
theorem process_between_commit_and_receive_resettingRig :
    (@step .lp64 (@step .lp64 (@step .lp64 resettingRig (.commitOutput 5)).2
        (.process 6 .normal)).2 (.receiveBytes
          (2 :: 5 :: 0 :: encodedFrame (Handshake.controlFrame .initiate 9 0)))).1 =
      (@step .lp64 (@step .lp64 resettingRig (.commitOutput 5)).2 (.receiveBytes
          (2 :: 5 :: 0 :: encodedFrame (Handshake.controlFrame .initiate 9 0)))).1 :=
  (@process_between_commit_and_receive .lp64 resettingRig reachable_resettingRig
    (by decide +kernel) (by decide +kernel) (by decide +kernel) 5 6 .normal (by rfl) _).2.1

end HilRigProtocol.Transport
