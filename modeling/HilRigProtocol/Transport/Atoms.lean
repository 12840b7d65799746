/-
  The atomic calls of a run.

  One `Receive_Bytes` may resolve any number of bodies, and `Process` serves the work
  that was left by the last call before its own. A run is cut here into calls that
  resolve at most one body each: the work that was left, then the bytes, one at a
  time. What a run passes through are the states before its atomic calls; nothing of a
  run is lost in between, because the atomic calls lead to the same state.
-/
import HilRigProtocol.Transport.HostProgress

namespace HilRigProtocol.Transport

/-! ## Cutting a run -/

section
variable {σ τ : Type*} (step : σ → Call → Response × σ)

/-- A call as calls that resolve at most one body each. -/
def atoms (state : σ) : Call → List Call
  | .receiveBytes data =>
      .receiveBytes [] ::
        (data.take (step state (.receiveBytes data)).1.size).map fun byte => .receiveBytes [byte]
  | .process nowMs operatingMode =>
      -- Work that cannot be served ends the call; it is then one atomic call as it is.
      if operatingMode.isListed = true ∧ (step state (.receiveBytes [])).1.status = .ok then
        [.receiveBytes [], .process nowMs operatingMode]
      else [.process nowMs operatingMode]
  | call => [call]

/-- The atomic calls of a run. -/
def atomize (state : σ) : List Call → List Call
  | [] => []
  | call :: rest => atoms step state call ++ atomize (step state call).2 rest

/-- What a run passes through: its states, each with the atomic call made on it. -/
def moments (state : σ) (calls : List Call) : List (σ × Call) :=
  Library.visits step state (atomize step state calls)

end

theorem mem_atoms {σ : Type*} {step : σ → Call → Response × σ} {state : σ} {call other : Call}
    (h : other ∈ atoms step state call) :
    other = call ∨ (∃ data, other = .receiveBytes data) ∨
      ∃ nowMs operatingMode, other = .process nowMs operatingMode := by
  cases call with
  | receiveBytes data =>
      rcases List.mem_cons.mp h with rfl | hbyte
      · exact Or.inr (Or.inl ⟨_, rfl⟩)
      · obtain ⟨byte, _, rfl⟩ := List.mem_map.mp hbyte
        exact Or.inr (Or.inl ⟨_, rfl⟩)
  | process nowMs operatingMode =>
      unfold atoms at h
      dsimp only at h
      split_ifs at h
      · rcases List.mem_cons.mp h with rfl | hprocess
        · exact Or.inr (Or.inl ⟨_, rfl⟩)
        · exact Or.inl (List.mem_singleton.mp hprocess)
      · exact Or.inl (List.mem_singleton.mp h)
  | _ => exact Or.inl (List.mem_singleton.mp h)

/-- An atomic call of a run is a call of the run, receive work, or `Process`. -/
theorem mem_atomize {σ : Type*} {step : σ → Call → Response × σ} {calls : List Call} {state : σ}
    {other : Call} (h : other ∈ atomize step state calls) :
    other ∈ calls ∨ (∃ data, other = .receiveBytes data) ∨
      ∃ nowMs operatingMode, other = .process nowMs operatingMode := by
  induction calls generalizing state with
  | nil => cases h
  | cons call rest ih =>
      rcases List.mem_append.mp h with hatoms | hrest
      · rcases mem_atoms hatoms with rfl | hother
        · exact Or.inl List.mem_cons_self
        · exact Or.inr hother
      · rcases ih hrest with hmem | hother
        · exact Or.inl (List.mem_cons_of_mem _ hmem)
        · exact Or.inr hother

namespace Endpoint

section
variable [Target] {s : Setup}

/-! ## The atomic calls of an endpoint -/

/-- The calls that a run is cut into, each on the endpoint on which it is made. -/
inductive Atomic (s : Setup) (e : Endpoint) : Call → Prop
  /-- The work that was left. -/
  | settle : Atomic s e (.receiveBytes [])
  /-- One byte, with nothing left to do before it. -/
  | byte (byte : UInt8) : Quiet s e → e.activity.linkState = .connected →
      Atomic s e (.receiveBytes [byte])
  /-- Time, with nothing left to do before it. -/
  | progress (nowMs : UInt32) (operatingMode : OperatingMode) : operatingMode.isListed = true →
      Quiet s e → e.activity.linkState = .connected → Atomic s e (.process nowMs operatingMode)
  /-- The work that was left cannot be done. -/
  | stalled (nowMs : UInt32) (operatingMode : OperatingMode) : operatingMode.isListed = true →
      (e.settle s).1 ≠ .ok → e.activity.linkState = .connected →
      Atomic s e (.process nowMs operatingMode)
  | away (nowMs : UInt32) (operatingMode : OperatingMode) :
      operatingMode.isListed = false ∨ e.activity.linkState = .disconnected →
      Atomic s e (.process nowMs operatingMode)
  | other {call : Call} : (∀ data, call ≠ .receiveBytes data) →
      (∀ nowMs operatingMode, call ≠ .process nowMs operatingMode) → Atomic s e call

/-- A run whose calls are atomic where they are made. -/
def AtomicRun (s : Setup) (e : Endpoint) (calls : List Call) : Prop :=
  ∀ visit ∈ Library.visits (Endpoint.step s) e calls, Atomic s visit.1 visit.2

theorem atomicRun_cons {e : Endpoint} {call : Call} {rest : List Call} :
    AtomicRun s e (call :: rest) ↔
      Atomic s e call ∧ AtomicRun s (e.step s call).2 rest := by
  exact List.forall_mem_cons

theorem atomicRun_append {e : Endpoint} {first second : List Call} :
    AtomicRun s e (first ++ second) ↔
      AtomicRun s e first ∧
        AtomicRun s (Library.run (Endpoint.step s) e first).2 second := by
  unfold AtomicRun
  rw [Library.visits_append, List.forall_mem_append]

/-! ## One call -/

theorem step_receiveBytes_state (e : Endpoint) (data : List UInt8) :
    (e.step s (.receiveBytes data)).2 = (e.receiveBytes s data).2.2 := rfl

theorem step_byte {e : Endpoint} (hquiet : Quiet s e) (hlink : e.activity.linkState = .connected)
    (byte : UInt8) : (e.step s (.receiveBytes [byte])).2 = (e.feedByte s byte).2 := by
  rw [step_receiveBytes_state, receiveBytes_quiet hquiet hlink]
  by_cases hok : (e.feedByte s byte).1 = .ok
  · rw [feed_cons_ok hok]
    rfl
  · rw [feed_cons_fail hok]

/-- Bytes that a quiet endpoint takes one at a time. -/
theorem bytes_atomic (data : List UInt8) {e : Endpoint} (h : WfConnected s e)
    (hquiet : Quiet s e) :
    AtomicRun s e
        ((data.take (e.feed s data).2.1).map fun byte => Call.receiveBytes [byte]) ∧
      (Library.run (Endpoint.step s) e
        ((data.take (e.feed s data).2.1).map fun byte => Call.receiveBytes [byte])).2 =
        (e.feed s data).2.2 := by
  induction data generalizing e with
  | nil =>
      refine ⟨?_, rfl⟩
      intro visit hmem
      cases hmem
  | cons byte rest ih =>
      have hone := step_byte hquiet h.linkState byte
      by_cases hok : (e.feedByte s byte).1 = .ok
      · obtain ⟨hrest, hlast⟩ := ih (wf_feedByte h hquiet.settled.diagnostic byte)
          (quiet_feedByte hquiet hok)
        rw [feed_cons_ok hok]
        dsimp only
        rw [List.take_succ_cons, List.map_cons]
        refine ⟨?_, ?_⟩
        · rw [atomicRun_cons, hone]
          exact ⟨.byte byte hquiet h.linkState, hrest⟩
        · rw [Library.run_cons, hone]
          exact hlast
      · rw [feed_cons_fail hok]
        dsimp only
        rw [List.take_succ_cons, List.take_zero, List.map_cons, List.map_nil]
        refine ⟨?_, ?_⟩
        · rw [atomicRun_cons]
          refine ⟨.byte byte hquiet h.linkState, ?_⟩
          intro visit hmem
          cases hmem
        · rw [Library.run_cons, hone]
          rfl

theorem receiveBytes_nil {e : Endpoint} (hlink : e.activity.linkState = .connected) :
    e.receiveBytes s [] = ((e.settle s).1, 0, (e.settle s).2) := by
  have hconnected : ¬ e.activity.linkState = .disconnected := by
    rw [hlink]
    simp
  by_cases hok : (e.settle s).1 = .ok
  · rw [receiveBytes_settled hconnected hok, hok]
    rfl
  · exact receiveBytes_unsettled hconnected hok []

theorem receiveBytes_atomic {e : Endpoint} (h : e.Wf s) (data : List UInt8) :
    AtomicRun s e (atoms (Endpoint.step s) e (.receiveBytes data)) ∧
      (Library.run (Endpoint.step s) e (atoms (Endpoint.step s) e (.receiveBytes data))).2 =
        (e.step s (.receiveBytes data)).2 := by
  have hsize : (e.step s (.receiveBytes data)).1.size = (e.receiveBytes s data).2.1 := rfl
  unfold atoms
  dsimp only
  rw [hsize, atomicRun_cons, Library.run_cons, step_receiveBytes_state, step_receiveBytes_state]
  dsimp only
  by_cases hlink : e.activity.linkState = .disconnected
  · rw [receiveBytes_disconnected hlink, receiveBytes_disconnected hlink]
    refine ⟨⟨.settle, ?_⟩, rfl⟩
    intro visit hmem
    cases hmem
  · rw [receiveBytes_nil (linkState_connected hlink)]
    by_cases hok : (e.settle s).1 = .ok
    · rw [receiveBytes_settled hlink hok]
      obtain ⟨hatomic, hlast⟩ := bytes_atomic data (wf_settle ⟨h, linkState_connected hlink⟩)
        (quiet_settle hok)
      exact ⟨⟨.settle, hatomic⟩, hlast⟩
    · rw [receiveBytes_unsettled hlink hok]
      refine ⟨⟨.settle, ?_⟩, rfl⟩
      intro visit hmem
      cases hmem

/-! ### `Process` after the work that was left -/

section
variable (operatingMode : OperatingMode)

omit [Target] in
theorem publish_withMode (e : Endpoint) (event : Event) :
    (e.withMode operatingMode).publish event =
      ((e.publish event).1, (e.publish event).2.withMode operatingMode) := by
  unfold publish
  split_ifs with h1 h2 h2
  · rfl
  · exact absurd h1 h2
  · exact absurd h2 h1
  · rfl

omit [Target] in
theorem abandon_withMode (e : Endpoint) (next : Activity) (failure : Failure) :
    (e.withMode operatingMode).abandon next failure =
      ((e.abandon next failure).1, (e.abandon next failure).2.withMode operatingMode) := by
  unfold abandon
  exact publish_withMode operatingMode
    { e with
      activity := next
      lastFailure := failure
      abandoned := e.activity.identifier.or e.abandoned
      intake := .filling []
      diagnosticPending := false } _

theorem beginEstablishment_withMode (e : Endpoint) :
    (e.withMode operatingMode).beginEstablishment s =
      (e.beginEstablishment s).withMode operatingMode := by
  unfold beginEstablishment
  split_ifs <;> rfl

theorem accept_withMode (e : Endpoint) (frame : Frame) (verdict : Verdict) :
    (e.withMode operatingMode).accept s frame verdict =
      (e.accept s frame verdict).withMode operatingMode := by
  obtain ⟨activity, cursor, mode, modeValid, failure, abandoned, diagnostic, intake, events⟩ := e
  cases verdict <;> cases activity <;> rfl

omit [Target] in
theorem rejectSession_withMode (e : Endpoint) :
    (e.withMode operatingMode).rejectSession =
      (e.rejectSession.1, e.rejectSession.2.withMode operatingMode) := by
  have hrecover : ∀ failure, ((e.withMode operatingMode).publish
        Receive.protocolErrorEvent).2.beginLocalRecovery failure =
      (((e.publish Receive.protocolErrorEvent).2.beginLocalRecovery failure).1,
        ((e.publish Receive.protocolErrorEvent).2.beginLocalRecovery failure).2.withMode
          operatingMode) := by
    intro failure
    rw [publish_withMode]
    exact abandon_withMode operatingMode _ _ _
  by_cases hp : ∃ reset, e.activity = .recovering (some reset)
  · obtain ⟨reset, hr⟩ := hp
    rw [rejectSession_pending hr, @rejectSession_pending (e.withMode operatingMode) reset hr,
      publish_withMode]
    rfl
  · rw [rejectSession_recover (not_exists.mp hp),
      @rejectSession_recover (e.withMode operatingMode) (not_exists.mp hp)]
    dsimp only
    rw [hrecover, publish_withMode]
    rfl

theorem resolve_withMode (e : Endpoint) (frame : Frame) (verdict : Verdict) :
    (e.withMode operatingMode).resolve s frame verdict =
      ((e.resolve s frame verdict).1, (e.resolve s frame verdict).2.withMode operatingMode) := by
  cases verdict with
  | reject =>
      unfold resolve
      dsimp only
      rw [publish_withMode]
      rfl
  | obsolete =>
      unfold resolve rejectObsolete
      dsimp only
      rw [publish_withMode]
      rfl
  | incompatible => exact rejectSession_withMode operatingMode e
  | acceptReset =>
      unfold resolve
      dsimp only
      rw [abandon_withMode, beginEstablishment_withMode]
  | _ =>
      unfold resolve
      dsimp only
      rw [accept_withMode]
      rfl

theorem processBody_withMode (e : Endpoint) (body : List UInt8) :
    (e.withMode operatingMode).processBody s body =
      ((e.processBody s body).1, (e.processBody s body).2.withMode operatingMode) := by
  have hclass : (e.withMode operatingMode).classifyBody s body = e.classifyBody s body := rfl
  have havailable : ∀ verdict, (e.withMode operatingMode).available verdict =
      e.available verdict := by
    intro verdict
    cases verdict <;> rfl
  unfold processBody attempt
  dsimp only
  rw [hclass, havailable]
  split_ifs
  · exact resolve_withMode operatingMode e _ _
  · rfl

theorem advanceIfOk_withMode (status : Status) (e : Endpoint) :
    advanceIfOk s (status, e.withMode operatingMode) =
      ((advanceIfOk s (status, e)).1, (advanceIfOk s (status, e)).2.withMode operatingMode) := by
  have hadvance : (e.withMode operatingMode).advance s =
      (e.advance s).withMode operatingMode := by
    unfold advance
    by_cases hready : e.activity = .recovering none ∧ e.diagnosticPending = false ∧
        e.intake = .filling []
    · rw [if_pos hready, if_pos (by exact hready), beginEstablishment_withMode]
    · rw [if_neg hready, if_neg (by exact hready)]
  unfold advanceIfOk
  dsimp only
  split_ifs
  · rw [hadvance]
  · rfl

/-- The receive work does not look at the mode. -/
theorem settle_withMode (e : Endpoint) :
    (e.withMode operatingMode).settle s =
      ((e.settle s).1, (e.settle s).2.withMode operatingMode) := by
  have hdiagnostic : (e.withMode operatingMode).settleDiagnostic =
      (e.settleDiagnostic.1, e.settleDiagnostic.2.withMode operatingMode) := by
    unfold settleDiagnostic diagnose
    rw [publish_withMode]
    by_cases hd : e.diagnosticPending = true
    · rw [if_pos hd, if_pos (by exact hd)]
      rfl
    · rw [if_neg hd, if_neg (by exact hd)]
  have hbody : ∀ e : Endpoint, (e.withMode operatingMode).settleBody s =
      ((e.settleBody s).1, (e.settleBody s).2.withMode operatingMode) := by
    intro e
    unfold settleBody
    have hintake : (e.withMode operatingMode).intake = e.intake := rfl
    rw [hintake]
    cases e.intake with
    | ready body => exact processBody_withMode operatingMode e body
    | _ => rfl
  unfold settle
  rw [hdiagnostic]
  dsimp only
  split_ifs
  · rfl
  · rw [hbody]
    exact advanceIfOk_withMode operatingMode _ _

end

/-- The work that was left, then `Process`, is `Process`. -/
theorem process_settled {e : Endpoint} (hlink : e.activity.linkState = .connected)
    (hwf : e.Wf s) (hok : (e.settle s).1 = .ok) {operatingMode : OperatingMode}
    (hmode : operatingMode.isListed = true) (nowMs : UInt32) :
    ((e.settle s).2.process s nowMs operatingMode).2 = (e.process s nowMs operatingMode).2 := by
  have hquiet := quiet_settle hok
  have hnext : (e.settle s).2.activity.linkState = .connected := (wf_settle ⟨hwf, hlink⟩).linkState
  have hidle : ¬ ((e.settle s).2.diagnosticPending = true ∨
      (e.settle s).2.intake.isReady = true) := by
    rw [hquiet.settled.diagnostic, hquiet.settled.intake]
    simp
  rw [process_connected hnext hmode, if_neg hidle, process_connected hlink hmode]
  by_cases hpending : e.diagnosticPending = true ∨ e.intake.isReady = true
  · rw [if_pos hpending, settle_withMode]
    dsimp only
    rw [if_neg (not_not.mpr hok)]
  · rw [if_neg hpending]
    -- Nothing was left: at most the recovery boundary was crossed.
    have hdiagnostic : e.diagnosticPending = false := by
      simpa using fun hd => hpending (Or.inl hd)
    have hbody : e.settleBody s = (.ok, e) := by
      unfold settleBody
      cases hi : e.intake with
      | ready body => exact absurd (Or.inr (by rw [hi]; rfl)) hpending
      | _ => rfl
    have hsettle : e.settle s = (.ok, e.advance s) := by
      unfold settle settleDiagnostic
      rw [hdiagnostic]
      dsimp only
      rw [if_neg (by simp), if_neg (by simp), hbody]
      unfold advanceIfOk
      rw [if_pos rfl]
    rw [hsettle]
    dsimp only
    by_cases hready : e.activity = .recovering none ∧ e.diagnosticPending = false ∧
        e.intake = .filling []
    · have hadvance : e.advance s = e.beginEstablishment s := by
        unfold advance
        rw [if_pos hready]
      rw [hadvance, ← beginEstablishment_withMode]
      have hold : (e.withMode operatingMode).processSettled s nowMs =
          ((e.withMode operatingMode).beginEstablishment s).progress s nowMs := by
        unfold processSettled
        rw [show (e.withMode operatingMode).activity = .recovering none from hready.1]
        dsimp only
        rw [if_pos (by exact hready.2.2)]
      rw [hold]
      unfold processSettled beginEstablishment
      split_ifs <;> rfl
    · rw [advance_waiting hready]

omit [Target] in
theorem process_away {e : Endpoint} {operatingMode : OperatingMode}
    (h : ¬ (operatingMode.isListed = true ∧ e.activity.linkState = .connected)) :
    operatingMode.isListed = false ∨ e.activity.linkState = .disconnected := by
  cases hmode : operatingMode.isListed with
  | false => exact Or.inl rfl
  | true =>
      right
      by_contra hlink
      exact h ⟨hmode, linkState_connected hlink⟩

theorem process_atomic {e : Endpoint} (h : e.Wf s) (nowMs : UInt32)
    (operatingMode : OperatingMode) :
    AtomicRun s e (atoms (Endpoint.step s) e (.process nowMs operatingMode)) ∧
      (Library.run (Endpoint.step s) e
        (atoms (Endpoint.step s) e (.process nowMs operatingMode))).2 =
        (e.step s (.process nowMs operatingMode)).2 := by
  have hstatus : (e.step s (.receiveBytes [])).1.status = (e.receiveBytes s []).1 := rfl
  have hone : ∀ {call}, Atomic s e call →
      AtomicRun s e [call] ∧
        (Library.run (Endpoint.step s) e [call]).2 = (e.step s call).2 := by
    intro call hatomic
    refine ⟨?_, rfl⟩
    rw [atomicRun_cons]
    refine ⟨hatomic, ?_⟩
    intro visit hmem
    cases hmem
  unfold atoms
  dsimp only
  rw [hstatus]
  by_cases hserved : operatingMode.isListed = true ∧ e.activity.linkState = .connected
  · obtain ⟨hmode, hlink⟩ := hserved
    rw [receiveBytes_nil hlink]
    dsimp only
    by_cases hok : (e.settle s).1 = .ok
    · rw [if_pos ⟨hmode, hok⟩]
      have hstate : (e.step s (.receiveBytes [])).2 = (e.settle s).2 := by
        rw [step_receiveBytes_state, receiveBytes_nil hlink]
      refine ⟨?_, ?_⟩
      · rw [atomicRun_cons, atomicRun_cons, hstate]
        refine ⟨.settle, .progress _ _ hmode (quiet_settle hok)
          (wf_settle ⟨h, hlink⟩).linkState, ?_⟩
        intro visit hmem
        cases hmem
      · rw [Library.run_cons, Library.run_cons, hstate]
        exact process_settled hlink h hok hmode nowMs
    · rw [if_neg fun hboth => hok hboth.2]
      exact hone (.stalled _ _ hmode hok hlink)
  · have haway := process_away hserved
    have hnot : ¬ (operatingMode.isListed = true ∧ (e.receiveBytes s []).1 = .ok) := by
      rintro ⟨hmode, hok⟩
      rcases haway with hunlisted | hlink
      · rw [hmode] at hunlisted
        cases hunlisted
      · rw [receiveBytes_disconnected hlink] at hok
        cases hok
    rw [if_neg hnot]
    exact hone (.away _ _ haway)

/-- The atomic calls of a call lead where the call leads. -/
theorem atoms_atomic {e : Endpoint} (h : e.Wf s) (call : Call) :
    AtomicRun s e (atoms (Endpoint.step s) e call) ∧
      (Library.run (Endpoint.step s) e (atoms (Endpoint.step s) e call)).2 =
        (e.step s call).2 := by
  cases call with
  | receiveBytes data => exact receiveBytes_atomic h data
  | process nowMs operatingMode => exact process_atomic h nowMs operatingMode
  | _ =>
      refine ⟨?_, rfl⟩
      refine atomicRun_cons.mpr ⟨.other (by simp) (by simp), ?_⟩
      intro visit hmem
      cases hmem

/-! ## A run -/

/-- The atomic calls of a run lead where the run leads. -/
theorem atomize_atomic (calls : List Call) {e : Endpoint} (h : e.Wf s) :
    AtomicRun s e (atomize (Endpoint.step s) e calls) ∧
      (Library.run (Endpoint.step s) e (atomize (Endpoint.step s) e calls)).2 =
        (Library.run (Endpoint.step s) e calls).2 := by
  induction calls generalizing e with
  | nil =>
      refine ⟨?_, rfl⟩
      intro visit hmem
      cases hmem
  | cons call rest ih =>
      obtain ⟨hatoms, hstate⟩ := atoms_atomic h call
      obtain ⟨hrest, hlast⟩ := ih (wf_step h call)
      unfold atomize
      rw [atomicRun_append, Library.run_append, hstate, Library.run_cons]
      exact ⟨⟨hatoms, hrest⟩, hlast⟩

/-- What the atomic calls of a run keep holds at every moment of it, and where it leads. -/
theorem atomic_invariant {Inv : Endpoint → Prop} {e : Endpoint} (h : e.Wf s) (hinv : Inv e)
    {calls : List Call}
    (hkeeps : ∀ visit ∈ moments (Endpoint.step s) e calls, visit.1.Wf s → Inv visit.1 →
      Atomic s visit.1 visit.2 → Inv (visit.1.step s visit.2).2) :
    (∀ visit ∈ moments (Endpoint.step s) e calls,
      visit.1.Wf s ∧ Inv visit.1 ∧ Atomic s visit.1 visit.2) ∧
      (Library.run (Endpoint.step s) e calls).2.Wf s ∧
      Inv (Library.run (Endpoint.step s) e calls).2 := by
  obtain ⟨hatomic, hlast⟩ := atomize_atomic calls h
  have hstep : ∀ visit ∈ moments (Endpoint.step s) e calls, visit.1.Wf s ∧ Inv visit.1 →
      (visit.1.step s visit.2).2.Wf s ∧ Inv (visit.1.step s visit.2).2 :=
    fun visit hvisit hboth =>
      ⟨wf_step hboth.1 _, hkeeps visit hvisit hboth.1 hboth.2 (hatomic visit hvisit)⟩
  have hinv' : e.Wf s ∧ Inv e := ⟨h, hinv⟩
  have hall : ∀ visit ∈ moments (Endpoint.step s) e calls, visit.1.Wf s ∧ Inv visit.1 :=
    @Library.visits_invariant _ _ _ _ (fun e => e.Wf s ∧ Inv e) _ _ hinv' hstep
  refine ⟨fun visit hvisit => ⟨(hall visit hvisit).1, (hall visit hvisit).2,
    hatomic visit hvisit⟩, ?_⟩
  rw [← hlast]
  exact @Library.visits_last _ _ _ _ (fun e => e.Wf s ∧ Inv e) _ _ hinv' hstep

end

end Endpoint

/-! ## Moments of the code -/

section
variable [Target] {s : Setup}

theorem atoms_toRoot {e : Endpoint} (h : e.Wf s) (call : Call) :
    atoms step (e.toRoot s) call = atoms (Endpoint.step s) e call := by
  cases call with
  | receiveBytes data =>
      unfold atoms
      dsimp only
      rw [step_refines h]
  | process nowMs operatingMode =>
      unfold atoms
      dsimp only
      rw [step_refines h]
  | _ => rfl

theorem atomize_toRoot (calls : List Call) {e : Endpoint} (h : e.Wf s) :
    atomize step (e.toRoot s) calls = atomize (Endpoint.step s) e calls := by
  induction calls generalizing e with
  | nil => rfl
  | cons call rest ih =>
      unfold atomize
      rw [atoms_toRoot h, step_refines h, ih (Endpoint.wf_step h call)]

theorem visits_toRoot (calls : List Call) {e : Endpoint} (h : e.Wf s) :
    Library.visits step (e.toRoot s) calls =
      (Library.visits (Endpoint.step s) e calls).map fun visit => (visit.1.toRoot s, visit.2) := by
  induction calls generalizing e with
  | nil => rfl
  | cons call rest ih =>
      unfold Library.visits
      rw [step_refines h, ih (Endpoint.wf_step h call)]
      rfl

theorem moments_toRoot (calls : List Call) {e : Endpoint} (h : e.Wf s) :
    moments step (e.toRoot s) calls =
      (moments (Endpoint.step s) e calls).map fun visit => (visit.1.toRoot s, visit.2) := by
  unfold moments
  rw [atomize_toRoot calls h, visits_toRoot _ h]

/-- A run is the run of an endpoint, and its moments are atomic calls on it. What these
    calls keep holds at every moment, and where the run leads. -/
theorem run_invariant {Inv : Endpoint → Prop} {e : Endpoint} (h : e.Wf s) (hinv : Inv e)
    {calls : List Call}
    (hkeeps : ∀ e' call, (e'.toRoot s, call) ∈ moments step (e.toRoot s) calls → e'.Wf s →
      Inv e' → Endpoint.Atomic s e' call → Inv (e'.step s call).2) :
    (∀ moment ∈ moments step (e.toRoot s) calls, ∃ e' : Endpoint, e'.Wf s ∧ Inv e' ∧
      Endpoint.Atomic s e' moment.2 ∧ moment.1 = e'.toRoot s) ∧
      ∃ last : Endpoint, last.Wf s ∧ Inv last ∧
        (Library.run step (e.toRoot s) calls).2 = last.toRoot s := by
  have hstep : ∀ (e : Endpoint) call, e.Wf s → (e.step s call).2.Wf s :=
    fun e call he => Endpoint.wf_step he call
  obtain ⟨hall, hwf, hlast⟩ := @Endpoint.atomic_invariant _ s Inv e h hinv calls
    (by
      intro visit hvisit
      refine hkeeps visit.1 visit.2 ?_
      rw [moments_toRoot calls h]
      exact List.mem_map_of_mem hvisit)
  refine ⟨?_, _, hwf, hlast, ?_⟩
  · intro moment hmoment
    rw [moments_toRoot calls h, List.mem_map] at hmoment
    obtain ⟨visit, hvisit, rfl⟩ := hmoment
    obtain ⟨hwf', hinv', hatomic⟩ := hall visit hvisit
    exact ⟨visit.1, hwf', hinv', hatomic, rfl⟩
  · rw [Library.run_refines hstep (fun e call he => step_refines he call) h]

/-- A moment of a run is an atomic call on the root of a well-formed endpoint. -/
theorem moment_endpoint {e : Endpoint} (h : e.Wf s) {calls : List Call} {moment : Root × Call}
    (hmoment : moment ∈ moments step (e.toRoot s) calls) :
    ∃ e' : Endpoint, e'.Wf s ∧ Endpoint.Atomic s e' moment.2 ∧ moment.1 = e'.toRoot s := by
  obtain ⟨hall, _⟩ := @run_invariant _ s (fun _ => True) e h trivial calls
    fun _ _ _ _ _ _ => trivial
  obtain ⟨e', hwf, _, hatomic, heq⟩ := hall moment hmoment
  exact ⟨e', hwf, hatomic, heq⟩

/-- Every reachable root is the root of a well-formed endpoint, which has what `Init`
    gives and atomic calls keep. -/
theorem reachable_invariant {Inv : Setup → Endpoint → Prop}
    (hinit : ∀ s, Inv s (Endpoint.initial s))
    (hkeeps : ∀ s e call, e.Wf s → Inv s e → Endpoint.Atomic s e call → Inv s (e.step s call).2)
    {root : Root} (h : Reachable root) :
    ∃ (s : Setup) (e : Endpoint), e.Wf s ∧ Inv s e ∧ root = e.toRoot s := by
  obtain ⟨context, role, config, storage, placement, next, initial, calls, hnext, hroot, rfl⟩ := h
  obtain ⟨s, _, _, hinitial, hwf⟩ := init_refines hnext
  rw [hinitial] at hroot
  cases hroot
  have hstep : ∀ (e : Endpoint) call, e.Wf s → (e.step s call).2.Wf s :=
    fun e call he => Endpoint.wf_step he call
  have hrun := Library.run_refines hstep (fun e call he => step_refines he call) hwf calls
  refine ⟨s, (Library.run (Endpoint.step s) (Endpoint.initial s) calls).2, ?_, ?_, ?_⟩
  · exact Library.run_invariant hstep hwf calls
  · exact (@Endpoint.atomic_invariant _ s (Inv s) _ hwf (hinit s) calls
      fun visit _ hwf' hinv => hkeeps s visit.1 visit.2 hwf' hinv).2.2
  · rw [hrun]

/-- The atomic calls of a run lead where the run leads. -/
theorem run_atomize {root : Root} (h : Reachable root) (calls : List Call) :
    (Library.run step root (atomize step root calls)).2 = (Library.run step root calls).2 := by
  obtain ⟨s, e, hwf, _, rfl⟩ := reachable_endpoint h
  have hstep : ∀ (e : Endpoint) call, e.Wf s → (e.step s call).2.Wf s :=
    fun e call he => Endpoint.wf_step he call
  have hsim : ∀ (e : Endpoint) call, e.Wf s →
      step (e.toRoot s) call = ((e.step s call).1, (e.step s call).2.toRoot s) :=
    fun e call he => step_refines he call
  rw [atomize_toRoot calls hwf, Library.run_refines hstep hsim hwf,
    Library.run_refines hstep hsim hwf]
  exact congrArg (fun e => e.toRoot s) (Endpoint.atomize_atomic calls hwf).2

end

end HilRigProtocol.Transport
