/-
  One diagnostic for each rejected body and for each oversized one.

  A diagnostic is published at once, or it is pending and published before anything
  else is received. So in a run without a local reset and without a lost link the
  diagnostics published and the one pending are as many as the bodies rejected and the
  oversized bodies whose delimiter arrived.
-/
import Mathlib.Algebra.BigOperators.Group.List.Basic
import HilRigProtocol.Transport.Rejection
import HilRigProtocol.Transport.ReceiveSafety
import HilRigProtocol.Transport.Transactional

namespace HilRigProtocol.Transport

/-- How many of the events are diagnostics. -/
def diagnostics (events : List Event) : Nat :=
  events.countP fun event => event.type == .protocolError

theorem diagnostics_append (first second : List Event) :
    diagnostics (first ++ second) = diagnostics first + diagnostics second :=
  List.countP_append

namespace Endpoint

/-- `e'` has published the diagnostics that `e` owed and `n` more, but for the one that
    it still owes. -/
def Owes (e e' : Endpoint) (n : Nat) : Prop :=
  ∃ events, Adds e e' events ∧
    diagnostics events + e'.diagnosticPending.toNat = e.diagnosticPending.toNat + n

theorem owes_adds {e e' : Endpoint} {events : List Event} (hadds : Adds e e' events)
    (hother : diagnostics events = 0) (hpending : e'.diagnosticPending = e.diagnosticPending) :
    Owes e e' 0 :=
  ⟨events, hadds, by rw [hother, hpending]; omega⟩

theorem owes_kept {e e' : Endpoint} (hevents : e'.events = e.events)
    (hpending : e'.diagnosticPending = e.diagnosticPending) : Owes e e' 0 :=
  owes_adds (adds_refl hevents) rfl hpending

theorem owes_trans {e e₁ e' : Endpoint} {m n : Nat} (h : Owes e e₁ m) (h' : Owes e₁ e' n) :
    Owes e e' (m + n) := by
  obtain ⟨first, hfirst, hm⟩ := h
  obtain ⟨second, hsecond, hn⟩ := h'
  refine ⟨first ++ second, adds_trans hfirst hsecond, ?_⟩
  rw [diagnostics_append]
  omega

theorem diagnostics_offer {e : Endpoint} {event : Event} (h : event.type ≠ .protocolError) :
    diagnostics (e.offer event) = 0 := by
  unfold diagnostics
  rw [List.countP_eq_zero]
  intro other hmem htype
  rw [mem_offer hmem] at htype
  exact h (beq_iff_eq.mp htype)

theorem diagnostics_protocolError (e : Endpoint) :
    diagnostics (e.offer Receive.protocolErrorEvent) + e.events.full.toNat = 1 := by
  unfold offer
  cases e.events.full <;> rfl

/-- An event of another type. -/
theorem owes_publish {e : Endpoint} (h : e.events.Wf) {event : Event}
    (hother : event.type ≠ .protocolError) : Owes e (e.publish event).2 0 :=
  owes_adds (adds_publish h event) (diagnostics_offer hother) (publish_fields _ _).2.2

theorem owes_push {e e' : Endpoint} {event : Event} (h : e.events.Wf)
    (hfull : e.events.full = false) (hevents : e'.events = e.events.push event)
    (hother : event.type ≠ .protocolError) (hpending : e'.diagnosticPending = e.diagnosticPending) :
    Owes e e' 0 := by
  refine owes_adds (adds_push h hfull hevents) ?_ hpending
  unfold diagnostics
  rw [List.countP_singleton, if_neg (by simpa using hother)]

theorem owes_abandon {e : Endpoint} (h : e.events.Wf) (hnone : e.diagnosticPending = false)
    (next : Activity) (failure : Failure) : Owes e (e.abandon next failure).2 0 := by
  refine owes_adds (adds_abandon h next failure) (diagnostics_offer ?_) ?_
  · unfold resetEvent
    simp
  · rw [(abandon_fields e next failure).2.2, hnone]

/-- The diagnostic of a dropped input is published, or it becomes pending. -/
theorem owes_diagnostic {e e' : Endpoint} {events : List Event} {n : Nat}
    (hadds : Adds e e' (e.offer Receive.protocolErrorEvent ++ events))
    (hother : diagnostics events = 0) (hpending : e'.diagnosticPending = e.events.full)
    (hn : e.diagnosticPending.toNat + n = 1) : Owes e e' n := by
  refine ⟨_, hadds, ?_⟩
  have hone := diagnostics_protocolError e
  rw [diagnostics_append, hother, hpending]
  omega

theorem owes_diagnose {e : Endpoint} (h : e.events.Wf) {n : Nat}
    (hn : e.diagnosticPending.toNat + n = 1) : Owes e e.diagnose.2 n := by
  have hadds := adds_publish h Receive.protocolErrorEvent
  rw [← List.append_nil (e.offer _)] at hadds
  exact owes_diagnostic hadds rfl rfl hn

/-! ## Bodies -/

theorem owes_rejectSession {e : Endpoint} (h : e.events.Wf) (hnone : e.diagnosticPending = false) :
    Owes e e.rejectSession.2 1 := by
  have hfirst := adds_publish h Receive.protocolErrorEvent
  have hn : e.diagnosticPending.toNat + 1 = 1 := by
    rw [hnone]
    rfl
  by_cases hp : ∃ reset, e.activity = .recovering (some reset)
  · obtain ⟨reset, ha⟩ := hp
    rw [rejectSession_pending ha]
    rw [← List.append_nil (e.offer _)] at hfirst
    exact owes_diagnostic hfirst rfl rfl hn
  · rw [rejectSession_recover (not_exists.mp hp)]
    have hring : (e.publish Receive.protocolErrorEvent).2.events.Wf :=
      wf_events_publish h (by rfl)
    have hsecond := adds_abandon hring
      (.recovering ((e.publish Receive.protocolErrorEvent).2.activity.identifier.map
        fun id => ⟨id, false⟩)) .protocol
    exact owes_diagnostic (adds_trans hfirst hsecond)
      (diagnostics_offer (by unfold resetEvent; simp)) rfl hn

section
variable [Target] {s : Setup}

theorem owes_beginEstablishment (e : Endpoint) : Owes e (e.beginEstablishment s) 0 := by
  unfold beginEstablishment
  split_ifs <;> exact owes_kept rfl rfl

theorem owes_advance (e : Endpoint) : Owes e (e.advance s) 0 := by
  unfold advance
  split_ifs
  · exact owes_beginEstablishment e
  · exact owes_kept rfl rfl

theorem owes_advanceIfOk {e : Endpoint} {result : Status × Endpoint} {n : Nat}
    (h : Owes e result.2 n) : Owes e (advanceIfOk s result).2 n := by
  unfold advanceIfOk
  split_ifs
  · exact owes_trans h (owes_advance result.2)
  · exact h

theorem owes_accept {e : Endpoint} (h : e.events.Wf) (frame : Frame) {verdict : Verdict}
    (havailable : e.available verdict = true) : Owes e (e.accept s frame verdict).release 0 := by
  have hevent : ∀ {e' : Endpoint} {event : Event}, e.events.full = false →
      e'.events = e.events.push event → event.type ≠ .protocolError →
      e'.diagnosticPending = e.diagnosticPending → Owes e e' 0 :=
    fun hfull hevents hother hpending => owes_push h hfull hevents hother hpending
  unfold accept
  split
  case h_5 | h_6 | h_7 =>
      exact hevent (by simpa [available] using havailable) rfl
        (by unfold Handshake.establishedEvent; simp) rfl
  case h_8 =>
      exact hevent (by simpa [available] using havailable) rfl (by unfold deliveredEvent; simp) rfl
  all_goals exact owes_kept rfl rfl

/-- A body whose verdict can be resolved leaves one diagnostic if it is rejected. -/
theorem owes_resolve {e : Endpoint} (h : e.events.Wf) (hnone : e.diagnosticPending = false)
    (frame : Frame) {verdict : Verdict} (havailable : e.available verdict = true) :
    Owes e (e.resolve s frame verdict).2 verdict.rejects.toNat := by
  have hn : e.diagnosticPending.toNat + 1 = 1 := by
    rw [hnone]
    rfl
  have hadds := adds_publish h Receive.protocolErrorEvent
  rw [← List.append_nil (e.offer _)] at hadds
  cases verdict with
  | reject =>
      have hfull : e.events.full = false := by simpa [available] using havailable
      refine owes_diagnostic hadds rfl ?_ hn
      show (e.publish Receive.protocolErrorEvent).2.diagnosticPending = _
      rw [(publish_fields _ _).2.2, hnone, hfull]
  | obsolete => exact owes_diagnostic hadds rfl rfl hn
  | incompatible => exact owes_rejectSession h hnone
  | acceptReset =>
      exact owes_trans (owes_abandon h hnone _ _) (owes_beginEstablishment _)
  | _ => exact owes_accept h frame havailable

variable (s) in
/-- The body is rejected, and the places for that are free. -/
def rejectsBody (e : Endpoint) (body : List UInt8) : Bool :=
  (e.classifyBody s body).1.rejects && e.available (e.classifyBody s body).1

theorem owes_processBody {e : Endpoint} (h : e.events.Wf) (hnone : e.diagnosticPending = false)
    (body : List UInt8) : Owes e (e.processBody s body).2 (e.rejectsBody s body).toNat := by
  unfold rejectsBody
  rcases @processBody_cases _ s e body with ⟨havailable, hsame⟩ | ⟨havailable, hresolve, _⟩
  · rw [havailable, hsame, Bool.and_false]
    exact owes_kept rfl rfl
  · rw [havailable, hresolve, Bool.and_true]
    exact owes_resolve h hnone _ havailable

/-! ## One step -/

variable (s) in
/-- The call resolves a body that is rejected. -/
def rejects (e : Endpoint) (call : Call) : Bool := (e.offered call).elim false (e.rejectsBody s)

/-- The call brings the delimiter of an oversized body. -/
def discardsOversized (e : Endpoint) (call : Call) : Bool :=
  e.intake == .discarding && call == .receiveBytes [0]

theorem rejects_none {e : Endpoint} {call : Call} (h : e.offered call = none) :
    e.rejects s call = false := by
  unfold rejects
  rw [h]
  rfl

omit [Target] in
theorem discardsOversized_other {e : Endpoint} {call : Call} (h : call ≠ .receiveBytes [0]) :
    e.discardsOversized call = false := by
  unfold discardsOversized
  rw [beq_false_of_ne h, Bool.and_false]

omit [Target] in
theorem owes_recorded {e e' : Endpoint} {n : Nat} (call : Call) (h : Owes e e' n) :
    Owes e (e'.recorded call) n := by
  obtain ⟨events, hadds, hcount⟩ := h
  have hevents := (recorded_fields e' call).2.2.2.2
  refine ⟨events, ?_, ?_⟩
  · unfold Adds
    rw [hevents]
    exact hadds
  · rw [← hcount]
    unfold recorded
    split
    · split_ifs <;> rfl
    · rfl

/-- A body that the call resolves. -/
theorem owes_offered {e : Endpoint} (h : e.Wf s) {call : Call} (hatomic : Atomic s e call)
    (hnone : e.diagnosticPending = false) {body : List UInt8}
    (hbody : e.offered call = some body) :
    Owes e (e.step s call).2 (e.rejectsBody s body).toNat := by
  rw [step_resolves h hatomic hbody]
  have hprocess : Owes e ((e.withIntake (.ready body)).processBody s body).2
      (e.rejectsBody s body).toNat :=
    @owes_processBody _ s (e.withIntake (.ready body)) h.events hnone body
  exact owes_recorded call (owes_advanceIfOk hprocess)

/-- The work that was left, when it is not a body. -/
theorem owes_settle {e : Endpoint} (h : e.events.Wf) (hready : e.intake.isReady = false) :
    Owes e (e.settle s).2 0 := by
  rw [settle_unready hready]
  apply owes_advanceIfOk
  unfold settleDiagnostic
  cases hd : e.diagnosticPending with
  | true =>
      rw [if_pos rfl]
      exact owes_diagnose h (by rw [hd]; rfl)
  | false =>
      rw [if_neg (by simp)]
      exact owes_kept rfl rfl

theorem owes_byte {e : Endpoint} (h : e.Wf s) {byte : UInt8} (hquiet : Quiet s e)
    (hlink : e.activity.linkState = .connected)
    (hoffered : e.offered (.receiveBytes [byte]) = none) :
    Owes e (e.step s (.receiveBytes [byte])).2
      (e.discardsOversized (.receiveBytes [byte])).toNat := by
  have hnone := hquiet.settled.diagnostic
  rw [step_byte hquiet hlink]
  unfold feedByte discardsOversized
  unfold offered at hoffered
  cases hi : e.intake with
  | filling bytes =>
      rw [hi] at hoffered
      dsimp only at hoffered ⊢
      by_cases hzero : byte = 0
      · by_cases hempty : bytes = []
        · rw [if_pos hzero, if_pos hempty]
          exact owes_kept rfl rfl
        · rw [if_pos ⟨hzero, hempty⟩] at hoffered
          cases hoffered
      · rw [if_neg hzero]
        split_ifs <;> exact owes_kept rfl rfl
  | ready body =>
      have hidle := hquiet.settled.intake
      rw [hi] at hidle
      cases hidle
  | discarding =>
      dsimp only
      by_cases hzero : byte = 0
      · rw [if_pos hzero, hzero]
        have hn : e.release.diagnosticPending.toNat + 1 = 1 := by
          show e.diagnosticPending.toNat + 1 = 1
          rw [hnone]
          rfl
        have hdiagnose : Owes e e.release.diagnose.2 1 := @owes_diagnose e.release h.events _ hn
        exact owes_advanceIfOk hdiagnose
      · have hother : (Call.receiveBytes [byte] == .receiveBytes [0]) = false :=
          beq_false_of_ne (by simpa using hzero)
        rw [if_neg hzero, hother, Bool.and_false]
        exact owes_kept rfl rfl

theorem owes_progress {e e' : Endpoint} {nowMs : UInt32} (h : e.events.Wf)
    (hnone : e.diagnosticPending = false) (htick : Tick s e nowMs e') : Owes e e' 0 := by
  cases htick with
  | idle | initiate | response | confirm | retry | hold => exact owes_kept rfl rfl
  | @fail id x payload stage _ _ _ hfull =>
      have hpush : Owes e { e with events := e.events.push failedEvent } 0 :=
        owes_push h hfull rfl (by unfold failedEvent; simp) rfl
      have hring := @EventRing.wf_push _ h hfull failedEvent (by rfl)
      exact owes_trans hpush
        (@owes_abandon { e with events := e.events.push failedEvent } hring hnone _ _)
  | lose => exact owes_abandon h hnone _ _

/-- An endpoint that is offered a body owes nothing. -/
theorem offered_idle {e : Endpoint} (h : e.Wf s) {call : Call} (hatomic : Atomic s e call)
    {body : List UInt8} (hbody : e.offered call = some body) :
    e.diagnosticPending = false ∧ e.discardsOversized call = false := by
  unfold discardsOversized
  cases hi : e.intake with
  | ready waiting => exact ⟨(ready_connected h hi).2.1, rfl⟩
  | filling bytes =>
      refine ⟨?_, rfl⟩
      cases hatomic with
      | byte byte hquiet hlink => exact hquiet.settled.diagnostic
      | progress nowMs operatingMode hmode hquiet hlink => exact hquiet.settled.diagnostic
      | settle =>
          have hsome : e.intake.body = some body := hbody
          rw [hi] at hsome
          cases hsome
      | stalled nowMs operatingMode | away nowMs operatingMode =>
          have hsome : (if operatingMode.isListed = true then e.intake.body else none) =
            some body := hbody
          rw [hi] at hsome
          split_ifs at hsome
          cases hsome
      | other hdata hprocess =>
          cases call with
          | receiveBytes data => exact absurd rfl (hdata data)
          | process nowMs operatingMode => exact absurd rfl (hprocess nowMs operatingMode)
          | _ => cases hbody
  | discarding =>
      exfalso
      unfold offered at hbody
      rw [hi] at hbody
      split at hbody
      · cases hbody
      · cases hbody
      · split_ifs at hbody
        cases hbody
      · cases hbody

/-- What an atomic call that does not read an event publishes and owes. -/
theorem owes_step {e : Endpoint} (h : e.Wf s) {call : Call} (hatomic : Atomic s e call)
    (hread : call ≠ .readEvent) (hreset : call ≠ .reset)
    (hlost : ∀ nowMs, call ≠ .notifyLinkState .disconnected nowMs) :
    Owes e (e.step s call).2
      ((e.rejects s call).toNat + (e.discardsOversized call).toNat) := by
  cases hbody : e.offered call with
  | some body =>
      obtain ⟨hnone, hdiscard⟩ := offered_idle h hatomic hbody
      rw [hdiscard]
      unfold rejects
      rw [hbody]
      exact owes_offered h hatomic hnone hbody
  | none =>
      rw [rejects_none hbody, Bool.toNat_false, Nat.zero_add]
      have hplain : call ≠ .receiveBytes [0] → Owes e (e.step s call).2 0 →
          Owes e (e.step s call).2 (e.discardsOversized call).toNat := by
        intro hother howes
        rw [discardsOversized_other hother]
        exact howes
      cases hatomic with
      | settle =>
          refine hplain (by simp) ?_
          rw [step_receiveBytes_state]
          by_cases hlink : e.activity.linkState = .disconnected
          · rw [receiveBytes_disconnected hlink]
            exact owes_kept rfl rfl
          · rw [receiveBytes_nil (linkState_connected hlink)]
            exact owes_settle h.events (intake_unready hbody)
      | byte byte hquiet hlink => exact owes_byte h hquiet hlink hbody
      | progress nowMs operatingMode hmode hquiet hlink =>
          refine hplain (by simp) ?_
          exact @owes_progress _ s (e.withMode operatingMode) _ nowMs h.events
            hquiet.settled.diagnostic (process_tick hmode hquiet hlink nowMs)
      | stalled nowMs operatingMode hmode hfail hlink =>
          refine hplain (by simp) ?_
          have hoffered : e.offered (.process nowMs operatingMode) = e.intake.body := if_pos hmode
          rw [hbody] at hoffered
          show Owes e (e.process s nowMs operatingMode).2 0
          rw [process_stalled hmode hfail hlink]
          exact owes_trans (owes_settle h.events (intake_unready hoffered.symm))
            (owes_kept rfl rfl)
      | away nowMs operatingMode haway =>
          refine hplain (by simp) ?_
          show Owes e (e.process s nowMs operatingMode).2 0
          rw [process_recorded haway]
          exact owes_recorded _ (owes_kept rfl rfl)
      | other hdata hprocess =>
          refine hplain (hdata [0]) ?_
          have hdeed := step_deed h (.other hdata hprocess)
          generalize (e.step s call).2 = e' at hdeed ⊢
          cases hdeed with
          | work hcall _ =>
              rcases hcall with ⟨data, hcall⟩ | ⟨nowMs, operatingMode, hcall⟩
              · exact absurd hcall (hdata data)
              · exact absurd hcall (hprocess nowMs operatingMode)
          | readEvent hcall => exact absurd hcall hread
          | reset hcall => exact absurd hcall hreset
          | observe hcall => exact absurd hcall (hlost _)
          | disconnect hcall => exact absurd hcall (hlost _)
          | connect =>
              exact owes_trans
                (owes_publish h.events (by unfold Session.linkEvent; simp))
                (owes_beginEstablishment _)
          | _ => exact owes_kept rfl rfl

/-- Nothing is received while a diagnostic is owed and the queue has no place for it. -/
theorem receiveBytes_owing {e : Endpoint} (h : e.Wf s) (hpending : e.diagnosticPending = true)
    (hfull : e.events.full = true) (data : List UInt8) :
    e.receiveBytes s data = (.capacityExhausted, 0, e) := by
  have hlink : ¬ e.activity.linkState = .disconnected := by
    intro hlink
    rw [(h.disconnected hlink).2] at hpending
    cases hpending
  have hsettle : e.settle s = (.capacityExhausted, e) := by
    have hsame : ({ e with diagnosticPending := true } : Endpoint) = e := by
      rw [← hpending]
    unfold settle settleDiagnostic diagnose publish
    rw [if_pos hpending, if_pos hfull]
    dsimp only
    rw [if_pos (by simp), hfull, hsame]
  rw [receiveBytes_unsettled hlink (by rw [hsettle]; simp), hsettle]

/-- What an atomic call publishes, and what is owed before and after it. -/
theorem step_diagnostics {e : Endpoint} (h : e.Wf s) {call : Call} (hatomic : Atomic s e call)
    (hreset : call ≠ .reset) (hlost : ∀ nowMs, call ≠ .notifyLinkState .disconnected nowMs) :
    e.diagnosticPending.toNat + ((e.rejects s call).toNat + (e.discardsOversized call).toNat) =
      (e.step s call).2.diagnosticPending.toNat +
        diagnostics ((e.step s call).2.events.contents.drop e.events.contents.length) := by
  by_cases hread : call = .readEvent
  · subst hread
    have hsame : (e.step s .readEvent).2.diagnosticPending = e.diagnosticPending := by
      show e.readEvent.2.2.diagnosticPending = _
      unfold readEvent
      split_ifs <;> rfl
    have hfewer : (e.step s .readEvent).2.events.contents.length ≤ e.events.contents.length := by
      show e.readEvent.2.2.events.contents.length ≤ _
      unfold readEvent
      split_ifs with hcount
      · exact Nat.le_refl _
      · rw [EventRing.contents_pop hcount, List.length_cons]
        exact Nat.le_succ _
    rw [rejects_none rfl, discardsOversized_other (by simp), hsame,
      List.drop_eq_nil_of_le hfewer]
    rfl
  · obtain ⟨events, hadds, hcount⟩ := owes_step h hatomic hread hreset hlost
    rw [hadds, List.drop_left]
    omega

end

end Endpoint

/-! ## Runs -/

section
variable [Target] {s : Setup}

/-- The call resolves a body that is rejected. -/
def Receive.rejects (moment : Root × Call) : Bool :=
  match Receive.offered moment.1 moment.2 with
  | some body =>
      Receive.bodyIsRejected moment.1 body && (step moment.1 moment.2).2.parser.bodyReady == 0
  | none => false

/-- The call brings the delimiter of an oversized body. -/
def Receive.discardsOversized (moment : Root × Call) : Bool :=
  moment.1.parser.discarding != 0 && moment.2 == .receiveBytes [0]

theorem discardsOversized_toRoot (e : Endpoint) (call : Call) :
    Receive.discardsOversized (e.toRoot s, call) = e.discardsOversized call := by
  unfold Receive.discardsOversized Endpoint.discardsOversized
  congr 1
  show ((e.intake.toParser _).discarding != 0) = _
  cases e.intake <;> rfl

theorem bodyReleased_toRoot (e : Endpoint) :
    ((e.toRoot s).parser.bodyReady == 0) = !e.intake.isReady := by
  show ((e.intake.toParser _).bodyReady == 0) = _
  cases e.intake <;> rfl

open Endpoint in
/-- The body stays where its verdict finds no place, and only there. -/
theorem available_toRoot {e : Endpoint} (h : e.Wf s) {call : Call} (hatomic : Atomic s e call)
    {body : List UInt8} (hbody : e.offered call = some body) :
    ((step (e.toRoot s) call).2.parser.bodyReady == 0) =
      e.available (e.classifyBody s body).1 := by
  rw [step_refines h]
  dsimp only
  rw [bodyReleased_toRoot, step_resolves h hatomic hbody]
  rw [intake_recorded, intake_advanceIfOk]
  rcases @processBody_cases _ s (e.withIntake (.ready body)) body with
    ⟨havailable, hsame⟩ | ⟨havailable, _, hempty⟩
  · rw [show e.available (e.classifyBody s body).1 = false from havailable, hsame]
    rfl
  · rw [show e.available (e.classifyBody s body).1 = true from havailable, hempty]
    rfl

open Endpoint in
theorem rejects_toRoot {e : Endpoint} (h : e.Wf s) {call : Call} (hatomic : Atomic s e call) :
    Receive.rejects (e.toRoot s, call) = e.rejects s call := by
  unfold Receive.rejects Endpoint.rejects
  dsimp only
  rw [offered_toRoot]
  cases hbody : e.offered call with
  | none => rfl
  | some body =>
      have hlink := offered_connected h hbody
      show (Receive.bodyIsRejected (e.toRoot s) body && _) = e.rejectsBody s body
      rw [bodyIsRejected_toRoot h hlink (offered_ne_nil h hbody), available_toRoot h hatomic hbody]
      rfl

/-- In a run without a local reset and without a lost link the diagnostics published and
    the one pending are those pending before, one for each body rejected, and one for each
    oversized body. No byte is consumed while a diagnostic is pending. -/
theorem one_diagnostic_per_rejection {root : Root} (h : Reachable root) (calls : List Call)
    (hcalls : ∀ call ∈ calls, call ≠ .reset ∧ ∀ nowMs, call ≠ .notifyLinkState .disconnected nowMs) :
    root.receiveProtocolErrorPending.toNat +
        (((moments step root calls).map fun moment => (Receive.rejects moment).toNat).sum +
          ((moments step root calls).map fun moment =>
            (Receive.discardsOversized moment).toNat).sum) =
      (Library.run step root calls).2.receiveProtocolErrorPending.toNat +
        ((moments step root calls).map (Events.reported .protocolError)).sum ∧
      (∀ moment ∈ moments step root calls, ∀ byte, moment.2 = .receiveBytes [byte] →
        moment.1.receiveProtocolErrorPending = 0) ∧
      ∀ data, root.receiveProtocolErrorPending ≠ 0 → root.eventCount = eventQueueCapacity →
        (step root (.receiveBytes data)).1.size = 0 ∧ (step root (.receiveBytes data)).2 = root := by
  have hrun := run_atomize h calls
  obtain ⟨s, e, hwf, _, rfl⟩ := reachable_endpoint h
  refine ⟨?_, ?_, ?_⟩
  · rw [← hrun, ← List.sum_map_add]
    refine @Library.visits_balance _ _ _ step (fun root => root.receiveProtocolErrorPending.toNat)
      _ (Events.reported .protocolError) _ _ ?_
    rintro ⟨before, call⟩ hmoment
    obtain ⟨e', hwf', hatomic, heq⟩ := moment_endpoint hwf hmoment
    dsimp only at hatomic heq ⊢
    subst heq
    have hplain : call ≠ .reset ∧ ∀ nowMs, call ≠ .notifyLinkState .disconnected nowMs := by
      rcases mem_atomize (Library.mem_visits hmoment) with hmem | ⟨data, rfl⟩ | ⟨_, _, rfl⟩
      · exact hcalls call hmem
      · exact ⟨by simp, by simp⟩
      · exact ⟨by simp, by simp⟩
    have hpending : ∀ e : Endpoint, (e.toRoot s).receiveProtocolErrorPending.toNat =
        e.diagnosticPending.toNat := by
      intro e
      show (if e.diagnosticPending = true then (1 : UInt8) else 0).toNat = _
      cases e.diagnosticPending <;> rfl
    rw [rejects_toRoot hwf' hatomic, discardsOversized_toRoot, Endpoint.reported_toRoot hwf',
      step_refines hwf']
    dsimp only
    rw [hpending, hpending]
    exact Endpoint.step_diagnostics hwf' hatomic hplain.1 hplain.2
  · rintro ⟨before, call⟩ hmoment byte hcall
    obtain ⟨e', hwf', hatomic, heq⟩ := moment_endpoint hwf hmoment
    dsimp only at hatomic heq hcall ⊢
    subst heq hcall
    cases hatomic with
    | byte _ hquiet _ =>
        show (if e'.diagnosticPending = true then (1 : UInt8) else 0) = 0
        rw [hquiet.settled.diagnostic]
        rfl
    | other hdata _ => exact absurd rfl (hdata _)
  · intro data hpending hcount
    have hdiagnostic : e.diagnosticPending = true := by
      rw [← Bool.not_eq_false]
      intro hnone
      apply hpending
      show (if e.diagnosticPending = true then (1 : UInt8) else 0) = 0
      rw [hnone]
      rfl
    have hfull : e.events.full = true := EventRing.full_iff.mpr hcount
    have hsize : (e.step s (.receiveBytes data)).1.size = (e.receiveBytes s data).2.1 := rfl
    rw [step_refines hwf]
    dsimp only
    rw [Endpoint.step_receiveBytes_state, hsize,
      Endpoint.receiveBytes_owing hwf hdiagnostic hfull]
    exact ⟨rfl, rfl⟩

end

/-- Three bodies that are no frames fill the queue, and an INITIATE then ends the attempt of
    the host. -/
def fourRejections : List Call :=
  [.receiveBytes [2, 5, 0, 2, 5, 0, 2, 5], .receiveBytes [0],
    .receiveBytes (encodedFrame (Handshake.controlFrame .initiate 7 0))]

theorem one_diagnostic_per_rejection_connectedHost :
    connectedHost.receiveProtocolErrorPending.toNat +
        (((moments (@step .lp64) connectedHost fourRejections).map fun moment =>
            (@Receive.rejects .lp64 moment).toNat).sum +
          ((moments (@step .lp64) connectedHost fourRejections).map fun moment =>
            (Receive.discardsOversized moment).toNat).sum) =
      (Library.run (@step .lp64) connectedHost
          fourRejections).2.receiveProtocolErrorPending.toNat +
        ((moments (@step .lp64) connectedHost fourRejections).map
          (@Events.reported .lp64 .protocolError)).sum ∧
      (Library.run (@step .lp64) connectedHost fourRejections).2.receiveProtocolErrorPending = 1 :=
  ⟨(@one_diagnostic_per_rejection .lp64 connectedHost reachable_connectedHost fourRejections
    (by unfold fourRejections; simp)).1, by decide +kernel⟩

end HilRigProtocol.Transport
