/-
  A host goes silent in one place only.

  A connected host that is not established, has a free event slot and shows no output
  makes progress by `Process` alone: one call that serves what was received, and one
  at the time the retry timer is due. The exception is a body that is not finished
  while the host recovers: it keeps the recovery boundary closed until its delimiter
  comes.
-/
import HilRigProtocol.Transport.Chunking

namespace HilRigProtocol.Transport

namespace Endpoint

section
variable [Target] {s : Setup}

/-! ## Nothing received waits -/

/-- The parser is empty and no diagnostic is deferred. -/
structure Clear (e : Endpoint) : Prop where
  intake : e.intake = .filling []
  diagnostic : e.diagnosticPending = false

theorem clear_beginEstablishment {e : Endpoint} (h : Clear e) : Clear (e.beginEstablishment s) := by
  unfold beginEstablishment
  split_ifs <;> exact ⟨h.intake, h.diagnostic⟩

theorem clear_advanceIfOk {result : Status × Endpoint} (h : Clear result.2) :
    Clear (advanceIfOk s result).2 := by
  unfold advanceIfOk advance
  split_ifs
  · exact clear_beginEstablishment h
  · exact h
  · exact h

omit [Target] in
theorem clear_abandon (e : Endpoint) (next : Activity) (failure : Failure) :
    Clear (e.abandon next failure).2 := by
  obtain ⟨_, hi, hd⟩ := abandon_fields e next failure
  exact ⟨hi, hd⟩

omit [Target] in
theorem clear_rejectSession {e : Endpoint} (hslot : e.events.full = false) :
    Clear e.rejectSession.2 := by
  by_cases hp : ∃ reset, e.activity = .recovering (some reset)
  · obtain ⟨reset, hr⟩ := hp
    rw [rejectSession_pending hr]
    exact ⟨rfl, hslot⟩
  · rw [rejectSession_recover (not_exists.mp hp)]
    exact ⟨(beginLocalRecovery_fields _ _).2.1, hslot⟩

/-- A resolved body leaves nothing behind when its diagnostic finds a place. -/
theorem clear_resolve {e : Endpoint} (hslot : e.events.full = false)
    (hd : e.diagnosticPending = false) (frame : Frame) (verdict : Verdict) :
    Clear (e.resolve s frame verdict).2 := by
  cases verdict with
  | incompatible => exact clear_rejectSession hslot
  | obsolete => exact ⟨rfl, hslot⟩
  | acceptReset => exact clear_beginEstablishment (clear_abandon e _ _)
  | reject => exact ⟨rfl, (publish_fields e _).2.2.trans hd⟩
  | _ => exact ⟨rfl, (settled_accept hd frame _).diagnostic⟩

/-- Outside an exchange and with nothing pinned, a place in the event queue is all
    that a body can need. -/
theorem available_of_slot {e : Endpoint} (hslot : e.events.full = false)
    (hestablished : e.activity.sessionState ≠ .established)
    (hpinned : e.reliablePinned s = false) (body : List UInt8) :
    e.available (e.classifyBody s body).1 = true := by
  have hexplains := classifyBody_explains (s := s) e body
  cases hverdict : (e.classifyBody s body).1 with
  | blocked =>
      rw [hverdict] at hexplains
      obtain ⟨item, hi, hp⟩ := hexplains
      unfold reliablePinned at hpinned
      rw [hi] at hpinned
      rw [show item.stage.pinned = false from hpinned] at hp
      cases hp
  | acceptMessage =>
      unfold available
      cases ha : e.activity with
      | established id x =>
          rw [ha] at hestablished
          exact absurd rfl hestablished
      | _ => rfl
  | reject | acceptConfirm | acceptConfirmAck | acceptDelivery | prove =>
      unfold available
      rw [hslot]
      rfl
  | _ => rfl

/-- The received work ends in one call. -/
theorem clear_settle {e : Endpoint} (h : e.Wf s) (hslot : e.events.full = false)
    (hestablished : e.activity.sessionState ≠ .established)
    (hpinned : e.reliablePinned s = false)
    (hpending : e.diagnosticPending = true ∨ e.intake.isReady = true) :
    Clear (e.settle s).2 := by
  unfold settle settleDiagnostic
  cases hd : e.diagnosticPending with
  | true =>
      have hi := h.diagnostic hd
      have hdiagnose : e.diagnose =
          (.ok, { e with events := e.events.push Receive.protocolErrorEvent,
                         diagnosticPending := false }) := by
        unfold diagnose publish
        rw [hslot]
        rfl
      rw [if_pos rfl, hdiagnose]
      dsimp only
      rw [if_neg (by simp)]
      have hbody : ({ e with events := e.events.push Receive.protocolErrorEvent,
                             diagnosticPending := false } : Endpoint).settleBody s =
          (.ok, { e with events := e.events.push Receive.protocolErrorEvent,
                         diagnosticPending := false }) := by
        unfold settleBody
        rw [hi]
      rw [hbody]
      exact clear_advanceIfOk ⟨hi, rfl⟩
  | false =>
      rw [hd] at hpending
      rw [if_neg (by simp)]
      dsimp only
      rw [if_neg (by simp)]
      apply clear_advanceIfOk
      unfold settleBody
      cases hi : e.intake with
      | ready body =>
          unfold processBody attempt
          dsimp only
          rw [if_pos (available_of_slot hslot hestablished hpinned body)]
          exact clear_resolve hslot hd _ _
      | filling bytes =>
          rw [hi] at hpending
          rcases hpending with h | h <;> cases h
      | discarding =>
          rw [hi] at hpending
          rcases hpending with h | h <;> cases h

omit [Target] in
theorem clear_giveUp {e : Endpoint} (h : Clear e) : Clear e.giveUp.2 := by
  unfold giveUp
  cases e.activity with
  | established id x =>
      dsimp only
      split_ifs
      · exact ⟨(beginLocalRecovery_fields _ _).2.1, (beginLocalRecovery_fields _ _).2.2⟩
      · exact h
  | _ => exact ⟨(beginLocalRecovery_fields _ _).2.1, (beginLocalRecovery_fields _ _).2.2⟩

theorem clear_progress {e : Endpoint} (h : Clear e) (nowMs : UInt32) :
    Clear (e.progress s nowMs).2 := by
  have hpublished : Clear e.publishHandshake := by
    unfold publishHandshake
    cases e.activity <;> exact ⟨h.intake, h.diagnostic⟩
  unfold progress
  dsimp only
  split_ifs
  · exact clear_giveUp ⟨hpublished.intake, hpublished.diagnostic⟩
  · exact ⟨hpublished.intake, hpublished.diagnostic⟩

theorem clear_processSettled {e : Endpoint} (h : Clear e) (nowMs : UInt32) :
    Clear (e.processSettled s nowMs).2 := by
  unfold processSettled
  cases ha : e.activity with
  | recovering reset =>
      cases reset with
      | some r => exact h
      | none =>
          dsimp only
          split_ifs
          · exact clear_progress (clear_beginEstablishment h) nowMs
          · exact h
  | _ => exact clear_progress h nowMs

/-! ## One call -/

/-- `e'` is in another place of the session than `e`, or has output for the caller. -/
def Awake (s : Setup) (e e' : Endpoint) : Prop :=
  e'.activity.sessionState ≠ e.activity.sessionState ∨ e'.activity.phase ≠ e.activity.phase ∨
    e'.selection s ≠ .none

/-- The endpoint with the mode that `Process` records. -/
def withMode (e : Endpoint) (operatingMode : OperatingMode) : Endpoint :=
  { e with operatingMode := operatingMode, operatingModeValid := true }

theorem process_connected {e : Endpoint} (hlink : e.activity.linkState = .connected)
    {operatingMode : OperatingMode} (hmode : operatingMode.isListed = true) (nowMs : UInt32) :
    e.process s nowMs operatingMode =
      if e.diagnosticPending = true ∨ e.intake.isReady = true then
        if ((e.withMode operatingMode).settle s).1 ≠ .ok then
          (e.withMode operatingMode).settle s
        else ((e.withMode operatingMode).settle s).2.processSettled s nowMs
      else (e.withMode operatingMode).processSettled s nowMs := by
  unfold process
  rw [if_pos hmode]
  dsimp only
  rw [if_neg (by rw [hlink]; simp)]
  by_cases hpending : e.diagnosticPending = true ∨ e.intake.isReady = true
  · rw [if_pos hpending, if_pos hpending]
    rfl
  · rw [if_neg hpending, if_neg hpending]
    rfl

/-- One call serves all that was received. -/
theorem clear_process {e : Endpoint} (h : e.Wf s) (hlink : e.activity.linkState = .connected)
    (hslot : e.events.full = false) (hestablished : e.activity.sessionState ≠ .established)
    (hpinned : e.reliablePinned s = false)
    (hpending : e.diagnosticPending = true ∨ e.intake.isReady = true) (nowMs : UInt32) :
    Clear (e.process s nowMs .normal).2 := by
  have hmode : (e.withMode .normal).Wf s := { h with operatingMode := rfl }
  have hsettle := clear_settle hmode hslot hestablished hpinned hpending
  rw [process_connected hlink rfl, if_pos hpending]
  split_ifs
  · exact hsettle
  · exact clear_processSettled hsettle nowMs

/-- The retry timer comes due. -/
theorem timeout_due (htimeout : s.config.retransmitTimeoutMs ≠ 0) {stage : Stage}
    (hsilent : stage.outputPending = false) :
    ∃ nowMs, (timeout s nowMs stage).outputPending = true ∨
      (timeout s nowMs stage).state = .exhausted := by
  cases stage with
  | awaitingAck retries ms =>
      refine ⟨ms + s.config.retransmitTimeoutMs, ?_⟩
      unfold timeout Setup.retry
      dsimp only
      have hdue : ¬ (s.config.retransmitTimeoutMs = 0 ∨
          ms + s.config.retransmitTimeoutMs - ms < s.config.retransmitTimeoutMs) := by
        rw [UInt32.add_comm, UInt32.add_sub_cancel]
        rintro (hzero | hlt)
        · exact htimeout hzero
        · exact UInt32.lt_irrefl _ hlt
      rw [if_neg hdue]
      split_ifs
      · exact Or.inl rfl
      · exact Or.inr rfl
  | exhausted retries ms => exact ⟨0, Or.inr rfl⟩
  | _ => cases hsilent

/-- A handshake that waits with a silent item moves on when its timer is due. -/
theorem awake_progress (htimeout : s.config.retransmitTimeoutMs ≠ 0) {e : Endpoint} {item : Item}
    (hi : s.item e.activity = some item) (hstate : e.activity.sessionState = .connecting)
    (hsilent : e.selection s = .none) : ∃ nowMs, Awake s e (e.progress s nowMs).2 := by
  have hpublish : e.publishHandshake = e := by
    unfold publishHandshake
    cases ha : e.activity with
    | initiatePending | responsePending | confirmPending =>
        rw [ha] at hi
        cases hi
    | _ => rfl
  have hcontrol : ∀ f, (e.activity.mapStage f).controlItem = none := by
    intro f
    cases ha : e.activity <;> first | rfl | (rw [ha] at hstate; cases hstate)
  have hitem : ∀ f, s.item (e.activity.mapStage f) = some ⟨item.frame, f item.stage⟩ := by
    intro f
    cases ha : e.activity <;> rw [ha] at hi hstate <;> first | (cases hi; rfl) | cases hi | cases hstate
  have hstage : item.stage.outputPending = false := by
    have hcontrol' : e.activity.controlItem = none := by
      cases ha : e.activity <;> first | rfl | (rw [ha] at hstate; cases hstate)
    unfold selection at hsilent
    rw [hi, hcontrol'] at hsilent
    dsimp only at hsilent
    by_contra hpending
    rw [if_pos (by simpa using hpending)] at hsilent
    cases hsilent
  obtain ⟨nowMs, hdue⟩ := timeout_due htimeout hstage
  refine ⟨nowMs, ?_⟩
  unfold progress exhausted
  rw [hpublish]
  dsimp only
  rw [hitem]
  rcases hdue with hpending | hexhausted
  · right; right
    have hnot : ¬ (some ⟨item.frame, timeout s nowMs item.stage⟩ : Option Item).elim false
        (fun item => item.stage.state == .exhausted) = true := by
      intro hexhausted
      have hstate : (timeout s nowMs item.stage).state = .exhausted := by simpa using hexhausted
      cases hs : timeout s nowMs item.stage with
      | exhausted retries ms =>
          rw [hs] at hpending
          cases hpending
      | _ =>
          rw [hs] at hstate
          cases hstate
    rw [if_neg hnot]
    unfold selection
    dsimp only
    rw [hitem, hcontrol]
    dsimp only
    rw [if_pos hpending]
    simp
  · left
    rw [if_pos (by simp [hexhausted])]
    unfold giveUp
    cases ha : e.activity with
    | established id x =>
        rw [ha] at hstate
        cases hstate
    | waitingForResponse | waitingForConfirm | waitingForConfirmAck =>
        dsimp only [Activity.mapStage]
        unfold beginLocalRecovery
        rw [(abandon_fields _ _ _).1]
        simp [Activity.sessionState]
    | _ =>
        rw [ha] at hi
        cases hi

/-- The replacement establishment of a host shows INITIATE at once. -/
theorem progress_beginEstablishment (hrole : s.role = .host) (e : Endpoint) (nowMs : UInt32) :
    ((e.beginEstablishment s).progress s nowMs).2.activity =
      .waitingForResponse e.cursor .ready := by
  unfold beginEstablishment
  rw [if_pos hrole]
  rfl

/-- Without received work one call is enough, at the right time. -/
theorem awake_processSettled {e : Endpoint} (h : e.Wf s) (hrole : s.role = .host)
    (htimeout : s.config.retransmitTimeoutMs ≠ 0) (hlink : e.activity.linkState = .connected)
    (hestablished : e.activity.sessionState ≠ .established) (hsilent : e.selection s = .none)
    (hboundary : e.activity = .recovering none → e.intake = .filling []) :
    ∃ nowMs, Awake s e (e.processSettled s nowMs).2 := by
  have hwf := h.activity
  unfold processSettled
  cases ha : e.activity with
  | disconnected observed =>
      rw [ha] at hlink
      cases hlink
  | recovering reset =>
      cases reset with
      | some r =>
          unfold selection at hsilent
          rw [ha] at hsilent
          cases hsilent
      | none =>
          refine ⟨0, Or.inl ?_⟩
          dsimp only
          rw [if_pos (hboundary ha), progress_beginEstablishment hrole, ha]
          simp [Activity.sessionState]
  | waitingForInitiate | responsePending | waitingForConfirm =>
      rw [ha] at hwf
      have hrig : s.role = .rig := by first | exact hwf | exact hwf.1
      rw [hrole] at hrig
      cases hrig
  | initiatePending id =>
      refine ⟨0, Or.inr (Or.inl ?_)⟩
      unfold progress publishHandshake
      rw [ha]
      show HandshakePhase.waitingForResponse ≠ .initiatePending
      simp
  | confirmPending id received =>
      refine ⟨0, Or.inr (Or.inl ?_)⟩
      unfold progress publishHandshake
      rw [ha]
      show HandshakePhase.waitingForConfirmAck ≠ .confirmPending
      simp
  | waitingForResponse id stage =>
      exact awake_progress htimeout (by rw [ha]; rfl) (by rw [ha]; rfl) hsilent
  | waitingForConfirmAck id received stage =>
      exact awake_progress htimeout (by rw [ha]; rfl) (by rw [ha]; rfl) hsilent
  | established id x =>
      rw [ha] at hestablished
      exact absurd rfl hestablished

/-! ## Any number of calls -/

/-- What a host that owes nothing to the caller waits for. -/
structure Idle (s : Setup) (e : Endpoint) : Prop where
  wf : e.Wf s
  linkState : e.activity.linkState = .connected
  established : e.activity.sessionState ≠ .established
  silent : e.selection s = .none

omit [Target] in
theorem linkState_of_sessionState {e e' : Endpoint} (hlink : e.activity.linkState = .connected)
    (h : e'.activity.sessionState = e.activity.sessionState) :
    e'.activity.linkState = .connected := by
  cases ha : e'.activity with
  | disconnected observed =>
      rw [ha] at h
      cases hold : e.activity with
      | disconnected observed =>
          rw [hold] at hlink
          cases hlink
      | _ =>
          rw [hold] at h
          cases h
  | _ => rfl

theorem reliablePinned_of_silent {e : Endpoint} (h : e.selection s = .none) :
    e.reliablePinned s = false := by
  unfold selection at h
  unfold reliablePinned
  cases hi : s.item e.activity with
  | none => rfl
  | some item =>
      rw [hi] at h
      cases hc : e.activity.controlItem with
      | none =>
          rw [hc] at h
          dsimp only at h
          obtain ⟨frame, stage⟩ := item
          cases stage <;> first | rfl | cases h
      | some control =>
          rw [hc] at h
          dsimp only at h
          split_ifs at h

/-- An endpoint with an unfinished body, at the recovery boundary. -/
structure Stuck (e : Endpoint) : Prop where
  activity : e.activity = .recovering none
  diagnostic : e.diagnosticPending = false
  waiting : e.intake.isReady = false
  unfinished : e.intake ≠ .filling []

theorem stuck_process {e : Endpoint} (h : Stuck e) (nowMs : UInt32)
    (operatingMode : OperatingMode) : Stuck (e.process s nowMs operatingMode).2 := by
  have hpending : ¬ (e.diagnosticPending = true ∨ e.intake.isReady = true) := by
    rw [h.diagnostic, h.waiting]
    simp
  by_cases hmode : operatingMode.isListed = true
  · rw [process_connected (by rw [h.activity]; rfl) hmode, if_neg hpending]
    unfold processSettled withMode
    rw [h.activity]
    dsimp only
    rw [if_neg h.unfinished]
    exact ⟨rfl, h.diagnostic, h.waiting, h.unfinished⟩
  · unfold process
    rw [if_neg hmode]
    exact h

theorem not_awake_stuck {e e' : Endpoint} (h : Stuck e) (h' : Stuck e') : ¬ Awake s e e' := by
  unfold Awake selection
  rw [h.activity, h'.activity]
  rintro (hne | hne | hne) <;> exact hne rfl

/-- After a call that served the received work and changed nothing, the next one is
    enough. -/
theorem awake_after {e next : Endpoint} (h : Idle s e) (hrole : s.role = .host)
    (htimeout : s.config.retransmitTimeoutMs ≠ 0) (hwf : next.Wf s) (hclear : Clear next)
    (hasleep : ¬ Awake s e next) : ∃ nowMs, Awake s e (next.process s nowMs .normal).2 := by
  unfold Awake at hasleep
  push Not at hasleep
  obtain ⟨hstate, hphase, hsilent⟩ := hasleep
  have hlink := linkState_of_sessionState h.linkState hstate
  have hestablished : next.activity.sessionState ≠ .established := by
    rw [hstate]
    exact h.established
  have hmode : (next.withMode .normal).Wf s := { hwf with operatingMode := rfl }
  obtain ⟨nowMs, hawake⟩ := awake_processSettled hmode hrole htimeout hlink hestablished hsilent
    (fun _ => hclear.intake)
  have hpending : ¬ (next.diagnosticPending = true ∨ next.intake.isReady = true) := by
    rw [hclear.diagnostic, hclear.intake]
    simp [Intake.isReady]
  refine ⟨nowMs, ?_⟩
  rw [process_connected hlink rfl, if_neg hpending]
  unfold Awake at hawake ⊢
  rw [← hstate, ← hphase]
  exact hawake

/-- Two calls are enough for an idle host with a place in its event queue, if the
    recovery boundary is open. -/
theorem awake_of_idle {e : Endpoint} (h : Idle s e) (hrole : s.role = .host)
    (htimeout : s.config.retransmitTimeoutMs ≠ 0) (hslot : e.events.full = false)
    (hopen : ¬ Stuck e) :
    (∃ first, Awake s e (e.process s first .normal).2) ∨
      ∃ first second, Awake s e ((e.process s first .normal).2.process s second .normal).2 := by
  by_cases hpending : e.diagnosticPending = true ∨ e.intake.isReady = true
  · by_cases hawake : Awake s e (e.process s 0 .normal).2
    · exact Or.inl ⟨0, hawake⟩
    · have hclear := clear_process h.wf h.linkState hslot h.established
        (reliablePinned_of_silent h.silent) hpending 0
      obtain ⟨second, hsecond⟩ := awake_after h hrole htimeout (wf_process h.wf 0 .normal) hclear
        hawake
      exact Or.inr ⟨0, second, hsecond⟩
  · left
    have hmode : (e.withMode .normal).Wf s := { h.wf with operatingMode := rfl }
    have hboundary : e.activity = .recovering none → e.intake = .filling [] := by
      intro ha
      by_contra hunfinished
      push Not at hpending
      exact hopen ⟨ha, by simpa using hpending.1, by simpa using hpending.2, hunfinished⟩
    obtain ⟨nowMs, hawake⟩ := awake_processSettled hmode hrole htimeout h.linkState h.established
      h.silent hboundary
    refine ⟨nowMs, ?_⟩
    rw [process_connected h.linkState rfl, if_neg hpending]
    exact hawake

/-- With an empty parser the recovery ends in the next call. -/
theorem process_recovered {e : Endpoint} (hrole : s.role = .host)
    (hslot : e.events.full = false) (ha : e.activity = .recovering none)
    (hi : e.intake = .filling []) {operatingMode : OperatingMode}
    (hmode : operatingMode.isListed = true) (nowMs : UInt32) :
    (e.process s nowMs operatingMode).2.activity = .waitingForResponse e.cursor .ready := by
  have hready : e.intake.isReady = false := by
    rw [hi]
    rfl
  rw [process_connected (by rw [ha]; rfl) hmode, hready]
  cases hd : e.diagnosticPending with
  | false =>
      rw [if_neg (by simp)]
      unfold processSettled withMode
      rw [ha]
      dsimp only
      rw [if_pos hi, progress_beginEstablishment hrole]
  | true =>
      rw [if_pos (by simp)]
      have hsettle : (e.withMode operatingMode).settle s =
          (.ok, ({ e.withMode operatingMode with
            events := e.events.push Receive.protocolErrorEvent,
            diagnosticPending := false } : Endpoint).beginEstablishment s) := by
        unfold settle settleDiagnostic diagnose publish withMode
        rw [hd, hslot]
        simp [settleBody, advanceIfOk, advance, hi, ha]
      rw [hsettle, if_neg (by simp)]
      dsimp only
      unfold processSettled beginEstablishment
      rw [if_pos hrole]
      rfl

end

end Endpoint

section
variable [Target] {s : Setup}

/-! ## The calls of the code -/

/-- A `Process` call. -/
def Call.isProcess : Call → Bool
  | .process _ _ => true
  | _ => false

/-- Some output buffer gets bytes. -/
def Peekable (root : Root) : Prop :=
  ∃ outBuffer, (Output.peekOutput root outBuffer).1 = .ok

/-- The session or the handshake has moved, or there is output. -/
def Progressed (root later : Root) : Prop :=
  later.session.state ≠ root.session.state ∨
    later.session.handshakePhase ≠ root.session.handshakePhase ∨ Peekable later

/-- The parser holds a part of a body, or drops the rest of one. -/
def UnfinishedBody (root : Root) : Prop :=
  root.parser.bodyReady = 0 ∧ (root.parser.accumulated ≠ [] ∨ root.parser.discarding ≠ 0)

/-- What is selected is copied to the caller. -/
theorem peekOutput_selected {e : Endpoint} (h : e.selection s ≠ .none) :
    ∃ bytes, ∀ outBuffer, (e.peekOutput s outBuffer).1 = (Endpoint.copyOut bytes outBuffer).1 := by
  cases hi : s.item e.activity with
  | none =>
      cases hc : e.activity.controlItem with
      | none =>
          unfold Endpoint.selection at h
          rw [hi, hc] at h
          exact absurd rfl h
      | some control =>
          refine ⟨encodedFrame control.frame, fun outBuffer => ?_⟩
          unfold Endpoint.peekOutput Endpoint.selection
          rw [hi, hc]
  | some item =>
      cases hc : e.activity.controlItem with
      | none =>
          refine ⟨encodedFrame item.frame, fun outBuffer => ?_⟩
          unfold Endpoint.selection at h
          unfold Endpoint.peekOutput Endpoint.selection
          rw [hi, hc] at h ⊢
          dsimp only at h ⊢
          by_cases hpending : item.stage.outputPending = true
          · rw [if_pos hpending]
          · rw [if_neg hpending] at h
            exact absurd rfl h
      | some control =>
          by_cases hpinned : item.stage.pinned = true
          · refine ⟨encodedFrame item.frame, fun outBuffer => ?_⟩
            unfold Endpoint.peekOutput Endpoint.selection
            rw [hi, hc]
            dsimp only
            rw [if_pos hpinned]
          · refine ⟨encodedFrame control.frame, fun outBuffer => ?_⟩
            unfold Endpoint.peekOutput Endpoint.selection
            rw [hi, hc]
            dsimp only
            rw [if_neg hpinned]

theorem peekOutput_silent {e : Endpoint} (h : e.selection s = .none) (outBuffer : Option Nat) :
    (e.peekOutput s outBuffer).1 = .notReady := by
  unfold Endpoint.peekOutput
  rw [h]

theorem peekOutput_status_toRoot {e : Endpoint} (h : e.activity.Wf s) (outBuffer : Option Nat) :
    (Output.peekOutput (e.toRoot s) outBuffer).1 = (e.peekOutput s outBuffer).1 := by
  rw [peekOutput_refines h]

theorem peekable_toRoot {e : Endpoint} (h : e.activity.Wf s) :
    Peekable (e.toRoot s) ↔ e.selection s ≠ .none := by
  constructor
  · rintro ⟨outBuffer, hok⟩ hnone
    rw [peekOutput_status_toRoot h, peekOutput_silent hnone] at hok
    cases hok
  · intro hne
    obtain ⟨bytes, hbytes⟩ := peekOutput_selected hne
    refine ⟨some bytes.length, ?_⟩
    rw [peekOutput_status_toRoot h, hbytes]
    unfold Endpoint.copyOut
    simp

/-- A buffer of no size tells as well. -/
theorem not_peekable_iff {e : Endpoint} (h : e.activity.Wf s) :
    ¬ Peekable (e.toRoot s) ↔ (Output.peekOutput (e.toRoot s) none).1 = .notReady := by
  rw [peekable_toRoot h, not_not, peekOutput_status_toRoot h]
  constructor
  · exact fun hnone => peekOutput_silent hnone none
  · intro hstatus
    by_contra hne
    obtain ⟨bytes, hbytes⟩ := peekOutput_selected hne
    rw [hbytes] at hstatus
    cases hstatus

theorem progressed_toRoot {e e' : Endpoint} (h' : e'.Wf s) :
    Progressed (e.toRoot s) (e'.toRoot s) ↔ Endpoint.Awake s e e' := by
  unfold Progressed Endpoint.Awake
  rw [peekable_toRoot h'.activity]
  exact Iff.rfl

theorem stuck_toRoot {e : Endpoint} (h : e.Wf s) (hsilent : e.selection s = .none) :
    Endpoint.Stuck e ↔
      (e.toRoot s).session.state = .recovering ∧ UnfinishedBody (e.toRoot s) := by
  have hstate : (e.toRoot s).session.state = .recovering ↔ e.activity = .recovering none := by
    show e.activity.sessionState = .recovering ↔ _
    cases ha : e.activity with
    | recovering reset =>
        cases reset with
        | none => exact ⟨fun _ => rfl, fun _ => rfl⟩
        | some r =>
            unfold Endpoint.selection at hsilent
            rw [ha] at hsilent
            cases hsilent
    | _ => simp [Activity.sessionState]
  have hbody : UnfinishedBody (e.toRoot s) ↔
      e.intake.isReady = false ∧ e.intake ≠ .filling [] := by
    unfold UnfinishedBody
    rw [parser_toRoot]
    cases hi : e.intake with
    | filling bytes => simp [Intake.toParser, Intake.accumulated, Intake.isReady]
    | ready body => simp [Intake.toParser, Intake.isReady]
    | discarding => simp [Intake.toParser, Intake.isReady]
  rw [hstate, hbody]
  constructor
  · intro hstuck
    exact ⟨hstuck.activity, hstuck.waiting, hstuck.unfinished⟩
  · rintro ⟨ha, hwaiting, hunfinished⟩
    refine ⟨ha, ?_, hwaiting, hunfinished⟩
    by_contra hd
    exact hunfinished (h.diagnostic (by simpa using hd))

/-- Calls of `Process` leave a stuck endpoint stuck. -/
theorem stuck_run {e : Endpoint} (h : e.Wf s) (hstuck : Endpoint.Stuck e) (calls : List Call)
    (hcalls : ∀ call ∈ calls, call.isProcess = true) :
    ∃ later : Endpoint, later.Wf s ∧ Endpoint.Stuck later ∧
      (Library.run step (e.toRoot s) calls).2 = later.toRoot s := by
  induction calls generalizing e with
  | nil => exact ⟨e, h, hstuck, rfl⟩
  | cons call rest ih =>
      rw [Library.run_cons, step_refines h]
      have hcall := hcalls call (List.mem_cons_self ..)
      cases call with
      | process nowMs operatingMode =>
          exact ih (Endpoint.wf_process h nowMs operatingMode)
            (Endpoint.stuck_process hstuck nowMs operatingMode)
            (fun call hmem => hcalls call (List.mem_cons_of_mem _ hmem))
      | _ => cases hcall

theorem not_progressed_stuck {e : Endpoint} (h : e.Wf s) (hstuck : Endpoint.Stuck e)
    (calls : List Call) (hcalls : ∀ call ∈ calls, call.isProcess = true) :
    ¬ Progressed (e.toRoot s) (Library.run step (e.toRoot s) calls).2 := by
  obtain ⟨later, hwf, hlater, hrun⟩ := stuck_run h hstuck calls hcalls
  rw [hrun, progressed_toRoot hwf]
  exact Endpoint.not_awake_stuck hstuck hlater

/-- A connected host that is neither established nor in FAULT, with a free event slot
    and without output, is brought forward by some calls of `Process`, unless it is
    RECOVERING with an unfinished body: then no calls of `Process` do. With an empty
    parser a RECOVERING host starts the replacement in the next call. -/
theorem host_progress {root : Root} (h : Reachable root) (hrole : root.base.role = .host)
    (htimeout : root.base.config.retransmitTimeoutMs ≠ 0)
    (hlink : root.base.linkState = .connected) (hestablished : root.session.state ≠ .established)
    (hslot : root.eventCount < eventQueueCapacity) (hsilent : ¬ Peekable root) :
    ((∃ calls : List Call, (∀ call ∈ calls, call.isProcess = true) ∧
        Progressed root (Library.run step root calls).2) ↔
      ¬ (root.session.state = .recovering ∧ UnfinishedBody root)) ∧
    (root.session.state = .recovering → root.parser.bodyReady = 0 → ¬ UnfinishedBody root →
      ∀ nowMs operatingMode, operatingMode.isListed = true →
        let later := (step root (.process nowMs operatingMode)).2
        later.session.state = .connecting ∧
          later.session.handshakePhase = .waitingForResponse ∧ Peekable later) := by
  obtain ⟨s, e, hwf, -, rfl⟩ := reachable_endpoint h
  have hnone : e.selection s = .none := by
    by_contra hne
    exact hsilent ((peekable_toRoot hwf.activity).mpr hne)
  have hfree : e.events.full = false := by
    have hcount : e.events.count < eventQueueCapacity := hslot
    unfold EventRing.full
    exact beq_false_of_ne (Nat.ne_of_lt hcount)
  have hidle : Endpoint.Idle s e := ⟨hwf, hlink, hestablished, hnone⟩
  rw [← stuck_toRoot hwf hnone]
  refine ⟨⟨?_, ?_⟩, ?_⟩
  · rintro ⟨calls, hcalls, hprogressed⟩ hstuck
    exact not_progressed_stuck hwf hstuck calls hcalls hprogressed
  · intro hopen
    have hprocess : ∀ {e : Endpoint} (he : e.Wf s) (nowMs : UInt32),
        (step (e.toRoot s) (.process nowMs .normal)).2 =
          (e.process s nowMs .normal).2.toRoot s := by
      intro e he nowMs
      rw [step_refines he]
      rfl
    rcases Endpoint.awake_of_idle hidle hrole htimeout hfree hopen with ⟨first, hawake⟩ |
      ⟨first, second, hawake⟩
    · refine ⟨[.process first .normal], by simp [Call.isProcess], ?_⟩
      rw [Library.run_cons, Library.run_nil, hprocess hwf,
        progressed_toRoot (Endpoint.wf_process hwf first .normal)]
      exact hawake
    · have hnext := Endpoint.wf_process hwf first .normal
      refine ⟨[.process first .normal, .process second .normal], by simp [Call.isProcess], ?_⟩
      rw [Library.run_cons, Library.run_cons, Library.run_nil, hprocess hwf, hprocess hnext,
        progressed_toRoot (Endpoint.wf_process hnext second .normal)]
      exact hawake
  · intro hstate hready hfinished nowMs operatingMode hmode
    have ha : e.activity = .recovering none := by
      by_contra hother
      have hstate' : e.activity.sessionState = .recovering := hstate
      cases ha : e.activity with
      | recovering reset =>
          cases reset with
          | none => exact hother ha
          | some r =>
              unfold Endpoint.selection at hnone
              rw [ha] at hnone
              cases hnone
      | _ =>
          rw [ha] at hstate'
          cases hstate'
    have hi : e.intake = .filling [] := by
      cases hi : e.intake with
      | filling bytes =>
          unfold UnfinishedBody at hfinished
          rw [parser_toRoot, hi] at hfinished
          simpa [Intake.toParser, Intake.accumulated] using hfinished
      | ready body =>
          rw [parser_toRoot, hi] at hready
          cases hready
      | discarding =>
          unfold UnfinishedBody at hfinished
          rw [parser_toRoot, hi] at hfinished
          simp [Intake.toParser] at hfinished
    have hactivity := Endpoint.process_recovered hrole hfree ha hi hmode nowMs
    have hnext := Endpoint.wf_process hwf nowMs operatingMode
    rw [step_refines hwf]
    show ((e.process s nowMs operatingMode).2.toRoot s).session.state = .connecting ∧
      ((e.process s nowMs operatingMode).2.toRoot s).session.handshakePhase = .waitingForResponse ∧
      Peekable ((e.process s nowMs operatingMode).2.toRoot s)
    rw [peekable_toRoot hnext.activity]
    refine ⟨congrArg Activity.sessionState hactivity, congrArg Activity.phase hactivity, ?_⟩
    unfold Endpoint.selection
    rw [hactivity]
    simp [Setup.item, Activity.controlItem, Stage.outputPending]

end

/-! ## A host that waits for a delimiter -/

/-- The sample host was reset, received one byte of a body and has committed its
    RESET. -/
def silentHost : Root :=
  (Library.run (@step .lp64) connectedHost
    [.process 0 .normal, .reset, .receiveBytes [1], .peekOutput (some 640), .commitOutput 0]).2

theorem reachable_silentHost : @Reachable .lp64 silentHost :=
  @Library.run_invariant _ _ _ (@step .lp64) (@Reachable .lp64)
    (fun _ call h => @reachable_step .lp64 _ h call) _ reachable_connectedHost _

theorem not_peekable {root : Root} (h : @Reachable .lp64 root)
    (hstatus : (Output.peekOutput root none).1 = .notReady) : ¬ Peekable root := by
  obtain ⟨s, e, hwf, -, rfl⟩ := @reachable_endpoint .lp64 _ h
  exact (@not_peekable_iff .lp64 s e (@Endpoint.Wf.activity .lp64 s e hwf)).mpr hstatus

/-- The host has a timer, a free event slot and no output, and nothing but its peer
    can wake it. -/
theorem silentHost_stays_silent :
    @Reachable .lp64 silentHost ∧ silentHost.base.role = .host ∧
      silentHost.base.config.retransmitTimeoutMs = 10 ∧ silentHost.base.linkState = .connected ∧
      silentHost.session.state = .recovering ∧ silentHost.recoveryResetPending = 0 ∧
      silentHost.eventCount < eventQueueCapacity ∧ ¬ Peekable silentHost ∧
      ∀ calls : List Call, (∀ call ∈ calls, call.isProcess = true) →
        ¬ Progressed silentHost (Library.run (@step .lp64) silentHost calls).2 := by
  have hstate : silentHost.session.state = .recovering := by decide +kernel
  have hbody : UnfinishedBody silentHost :=
    ⟨by decide +kernel, Or.inl (by decide +kernel)⟩
  have hquiet := not_peekable reachable_silentHost (by decide +kernel)
  refine ⟨reachable_silentHost, by decide +kernel, by decide +kernel, by decide +kernel, hstate,
    by decide +kernel, by decide +kernel, hquiet, ?_⟩
  obtain ⟨s, e, hwf, -, heq⟩ := @reachable_endpoint .lp64 _ reachable_silentHost
  rw [heq] at hstate hbody hquiet ⊢
  have hsilent : @Endpoint.selection .lp64 s e = .none := by
    by_contra hne
    exact hquiet ((@peekable_toRoot .lp64 s e (@Endpoint.Wf.activity .lp64 s e hwf)).mpr hne)
  exact @not_progressed_stuck .lp64 s e hwf
    ((@stuck_toRoot .lp64 s e hwf hsilent).mpr ⟨hstate, hbody⟩)

/-- The sample host waits for the answer to its INITIATE. -/
def waitingHost : Root :=
  (Library.run (@step .lp64) connectedHost
    [.process 0 .normal, .peekOutput (some 640), .commitOutput 0]).2

theorem reachable_waitingHost : @Reachable .lp64 waitingHost :=
  @Library.run_invariant _ _ _ (@step .lp64) (@Reachable .lp64)
    (fun _ call h => @reachable_step .lp64 _ h call) _ reachable_connectedHost _

theorem host_progress_waitingHost :
    ∃ calls : List Call, (∀ call ∈ calls, call.isProcess = true) ∧
      Progressed waitingHost (Library.run (@step .lp64) waitingHost calls).2 := by
  have hstate : waitingHost.session.state = .connecting := by decide +kernel
  refine (@host_progress .lp64 waitingHost reachable_waitingHost (by decide +kernel)
    (by decide +kernel) (by decide +kernel) (by rw [hstate]; simp) (by decide +kernel)
    (not_peekable reachable_waitingHost (by decide +kernel))).1.mpr ?_
  rw [hstate]
  rintro ⟨hrecovering, -⟩
  cases hrecovering

end HilRigProtocol.Transport
