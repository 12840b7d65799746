/-
  Events and outcomes.

  A submitted message is confirmed, or failed, or discarded with its session, once; the
  first two are reported by exactly one event, in the step that releases the message. The
  start of a session is reported by exactly one event as well. A full queue delays these
  steps, it drops nothing.
-/
import HilRigProtocol.Transport.Transmissions

namespace HilRigProtocol.Transport

/-- The event reports the outcome of a message, or a session that is established. -/
def Event.isOutcome (event : Event) : Bool :=
  event.type == .deliveryConfirmed || event.type == .deliveryFailed
    || event.type == .sessionEstablished

/-- No outcome is among the events. -/
def Plain (events : List Event) : Prop := ∀ event ∈ events, event.isOutcome = false

theorem plain_nil : Plain [] := by
  intro event hmem
  cases hmem

theorem plain_append {first second : List Event} (h : Plain first) (h' : Plain second) :
    Plain (first ++ second) := by
  intro event hmem
  rcases List.mem_append.mp hmem with hmem | hmem
  · exact h event hmem
  · exact h' event hmem

namespace Endpoint

theorem plain_offer {e : Endpoint} {event : Event} (h : event.isOutcome = false) :
    Plain (e.offer event) := by
  intro other hmem
  rw [mem_offer hmem]
  exact h

theorem resetEvent_plain (failure : Failure) : (resetEvent failure).isOutcome = false := rfl

section
variable [Target]

/-! ## What a step reports -/

/-- The events of a step, and what happened to the message and the session. -/
inductive Report (s : Setup) (e : Endpoint) (call : Call) (e' : Endpoint) : List Event → Prop
  | kept {events : List Event} : Plain events → e'.activity.submitted = e.activity.submitted →
      (e'.activity.sessionState = .established → e.activity.sessionState = .established) →
      Report s e call e' events
  | submitted {payload : List UInt8} : call = .submitApplicationData payload →
      e.activity.sessionState = .established → e'.activity.sessionState = .established →
      e.activity.submitted = none → e'.activity.submitted = some payload → Report s e call e' []
  | established : e.activity.sessionState = .connecting →
      e'.activity.sessionState = .established → e.activity.submitted = none →
      e'.activity.submitted = none → Report s e call e' [Handshake.establishedEvent]
  | delivered {payload : List UInt8} : e.activity.sessionState = .established →
      e'.activity.sessionState = .established → e.activity.submitted = some payload →
      e'.activity.submitted = none → e'.activity.identifier = e.activity.identifier →
      Report s e call e' [deliveredEvent]
  | failed {payload : List UInt8} {events : List Event} : Plain events → LeavesReset e e' →
      e.activity.submitted = some payload → e'.lastFailure = .delivery →
      Report s e call e' (failedEvent :: events)
  | discarded {payload : List UInt8} {events : List Event} : Plain events → Ends s e call e' →
      e.activity.submitted = some payload → e'.activity.submitted = none →
      e'.activity.sessionState ≠ .established →
      call = .reset ∨ call.reportsLinkLoss = true ∨ e'.lastFailure = .protocol →
      Report s e call e' events

variable {s : Setup}

/-- The end of a session discards its message, if it has one. -/
theorem report_ends {e e' : Endpoint} {call : Call} {events : List Event} (hplain : Plain events)
    (hends : e.activity.submitted ≠ none → Ends s e call e' ∧
      (call = .reset ∨ call.reportsLinkLoss = true ∨ e'.lastFailure = .protocol))
    (hnone : e'.activity.submitted = none)
    (hstate : e'.activity.sessionState ≠ .established) : Report s e call e' events := by
  cases hsubmitted : e.activity.submitted with
  | none => exact .kept hplain (by rw [hnone, hsubmitted]) fun h => absurd h hstate
  | some payload =>
      obtain ⟨hend, hfailure⟩ := hends (by rw [hsubmitted]; simp)
      exact .discarded hplain hend hsubmitted hnone hstate hfailure

omit [Target] in
theorem identifier_of_submitted {a : Activity} (h : a.submitted ≠ none) :
    ∃ id, a.identifier = some id := by
  cases a <;> first | exact ⟨_, rfl⟩ | exact absurd rfl h

theorem takes_report {e e₀ e' : Endpoint} {call : Call} {frame : Frame} (hring : e₀.events.Wf)
    (hactivity : e₀.activity = e.activity) (h : Takes s e₀ frame e') :
    ∃ events, Adds e₀ e' events ∧ Report s e call e'.release events := by
  have hkept : e'.events = e₀.events → e'.activity.submitted = e.activity.submitted →
      (e'.activity.sessionState = .established → e.activity.sessionState = .established) →
      ∃ events, Adds e₀ e' events ∧ Report s e call e'.release events :=
    fun hevents hsubmitted hstate => ⟨[], adds_refl hevents, .kept plain_nil hsubmitted hstate⟩
  cases h with
  | duplicate | repeatDue =>
      refine hkept rfl (by rw [hactivity]) ?_
      rw [hactivity]
      exact fun hstate => hstate
  | repeatInitiate ha | repeatResponse ha | adopt ha | response ha =>
      rw [hactivity] at ha
      refine hkept rfl (by rw [ha]; rfl) ?_
      intro hstate
      cases hstate
  | repeatAck ha | message ha =>
      rw [hactivity] at ha
      refine hkept rfl (by rw [ha]; rfl) ?_
      rw [ha]
      exact fun _ => rfl
  | confirm ha _ _ _ _ hfull | confirmAck ha _ _ _ hfull | prove ha _ _ _ hfull =>
      rw [hactivity] at ha
      exact ⟨_, adds_push hring hfull rfl,
        .established (by rw [ha]; rfl) rfl (by rw [ha]; rfl) rfl⟩
  | @delivery x payload stage ha _ hout _ _ hfull =>
      rw [hactivity] at ha
      have hsubmitted : e.activity.submitted = some payload := by
        rw [ha, submitted_established, hout]
        rfl
      exact ⟨_, adds_push hring hfull rfl,
        .delivered (by rw [ha]; rfl) rfl hsubmitted rfl (by rw [ha]; rfl)⟩

theorem receipt_report {e e₀ e' : Endpoint} {call : Call} (hring : e₀.events.Wf)
    (hactivity : e₀.activity = e.activity) (hcursor : e₀.cursor = e.cursor)
    (hclass : ∀ body, (e₀.classifyBody s body).1 = (e.classifyBody s body).1)
    (h : Receipt s e₀ (e.offered call) e') :
    ∃ events, Adds e₀ e' events ∧ Report s e call e' events := by
  cases h with
  | idle hsame hdiagnosed =>
      obtain ⟨events, hadds, hall⟩ := adds_diagnosed hring hdiagnosed
      have hkept := hsame.activity.trans hactivity
      refine ⟨events, hadds, .kept ?_ (by rw [hkept]) (by rw [hkept]; exact fun h => h)⟩
      intro event hmem
      rw [hall event hmem]
      rfl
  | take _ _ _ _ htakes =>
      obtain ⟨events, hadds, hreport⟩ := takes_report hring hactivity htakes
      exact ⟨events, hadds, hreport⟩
  | reject hbody hincompatible hpending =>
      obtain ⟨events, hadds, hall⟩ := adds_rejectSession hring
      have ha := activity_rejectSession hpending
      rw [hclass] at hincompatible
      refine ⟨events, hadds, report_ends ?_ ?_ (by rw [ha]; rfl)
        (by rw [ha]; simp [Activity.sessionState])⟩
      · intro event hmem
        rcases hall event hmem with rfl | rfl <;> rfl
      · intro hsubmitted
        obtain ⟨id, hid⟩ := identifier_of_submitted hsubmitted
        exact ⟨ends_reject hactivity hid hbody hincompatible hpending,
          Or.inr (Or.inr (rejectSession_record hpending).2.1)⟩
  | reset hbody hdecode hcurrent htype =>
      have hbegun := @activity_begun _ s e₀
      have hadds := adds_trans (adds_abandon hring (.recovering none) .protocol)
        (@adds_beginEstablishment _ s _)
      refine ⟨_, hadds, report_ends ?_ ?_ ?_ ?_⟩
      · exact plain_append (plain_offer (resetEvent_plain _)) plain_nil
      · intro _
        refine ⟨ends_peer hactivity hcursor hbody hdecode hcurrent htype, Or.inr (Or.inr ?_)⟩
        unfold beginEstablishment
        split_ifs <;> exact (abandon_record _ _ _).2.1
      · rcases hbegun with ha | ⟨_, ha⟩ <;> (rw [ha]; rfl)
      · rcases hbegun with ha | ⟨_, ha⟩ <;> (rw [ha]; simp [Activity.sessionState])

theorem report_advances {e e₁ e' : Endpoint} {call : Call} {events : List Event}
    (h : Report s e call e₁ events) (hadvances : Advances s e₁ e') :
    Report s e call e' events := by
  rcases hadvances with rfl | ⟨ha, rfl⟩
  · exact h
  have hnot : e₁.activity.sessionState ≠ .established := by
    rw [ha]
    simp [Activity.sessionState]
  have hnone : e₁.activity.submitted = none := by
    rw [ha]
    rfl
  have hbegun : (e₁.beginEstablishment s).activity.submitted = none ∧
      (e₁.beginEstablishment s).activity.sessionState ≠ .established := by
    unfold beginEstablishment
    split_ifs <;> exact ⟨rfl, by simp [Activity.sessionState]⟩
  cases h with
  | kept hplain hsubmitted _ =>
      exact .kept hplain (hbegun.1.trans (hnone.symm.trans hsubmitted))
        fun hstate => absurd hstate hbegun.2
  | submitted _ _ hstate | established _ hstate | delivered _ hstate => exact absurd hstate hnot
  | failed _ hleaves =>
      obtain ⟨_, _, hother⟩ := hleaves
      rw [ha] at hother
      cases hother
  | discarded hplain hends hsome _ _ hfailure =>
      rw [← (advances_fields (Or.inr ⟨ha, rfl⟩)).2] at hfailure
      refine .discarded hplain ?_ hsome hbegun.1 hbegun.2 hfailure
      rcases hends with hreset | hlost | ⟨_, _, _, _, _, hother⟩ | ⟨_, _, hother⟩
      · exact Or.inl hreset
      · exact Or.inr (Or.inl hlost)
      · rw [ha] at hother
        cases hother
      · rw [ha] at hother
        rcases hother with hother | ⟨_, hother⟩ <;> cases hother

omit [Target] in
theorem submitted_mapStage (f : Stage → Stage) (a : Activity) :
    (a.mapStage f).submitted = a.submitted ∧ (a.mapStage f).sessionState = a.sessionState := by
  cases a with
  | established id x =>
      refine ⟨?_, rfl⟩
      show (Activity.established id _).submitted = _
      rw [submitted_established, submitted_established]
      cases x.outgoing <;> rfl
  | _ => exact ⟨rfl, rfl⟩

theorem tick_report {e e₀ e' : Endpoint} {call : Call} {nowMs : UInt32} (hring : e₀.events.Wf)
    (hactivity : e₀.activity = e.activity) (h : Tick s e₀ nowMs e') :
    ∃ events, Adds e₀ e' events ∧ Report s e call e' events := by
  have hmapped : ∀ f : Stage → Stage,
      Report s e call { e₀ with activity := e₀.activity.mapStage f } [] := by
    intro f
    obtain ⟨hsubmitted, hstate⟩ := submitted_mapStage f e₀.activity
    rw [hactivity] at hsubmitted hstate
    refine .kept plain_nil (by rw [hactivity, hsubmitted]) ?_
    rw [hactivity, hstate]
    exact fun h => h
  cases h with
  | idle =>
      refine ⟨[], adds_refl rfl, .kept plain_nil (by rw [hactivity]) ?_⟩
      rw [hactivity]
      exact fun h => h
  | initiate ha | response ha | confirm ha =>
      rw [hactivity] at ha
      refine ⟨[], adds_refl rfl, .kept plain_nil (by rw [ha]; rfl) ?_⟩
      intro hstate
      cases hstate
  | retry | hold => exact ⟨[], adds_refl rfl, hmapped _⟩
  | @fail id x payload stage ha hout _ hfull =>
      have hring' := @EventRing.wf_push _ hring hfull failedEvent (by rfl)
      have hadds := adds_trans
        (@adds_push e₀ { e₀ with events := e₀.events.push failedEvent } _ hring hfull rfl)
        (adds_abandon hring' (.recovering (e₀.activity.identifier.map fun id => ⟨id, false⟩))
          .delivery)
      rw [hactivity] at ha
      have hsubmitted : e.activity.submitted = some payload := by
        rw [ha, submitted_established, hout]
        rfl
      refine ⟨_, hadds, .failed (plain_offer (resetEvent_plain _)) ⟨id, by rw [ha]; rfl, ?_⟩
        hsubmitted (abandon_record _ _ _).2.1⟩
      rw [activity_beginLocalRecovery]
      show Activity.recovering (e₀.activity.identifier.map _) = _
      rw [hactivity, ha]
      rfl
  | lose hstate hitem _ =>
      have hadds := adds_abandon hring
        (.recovering (e₀.activity.identifier.map fun id => ⟨id, false⟩)) .delivery
      have ha := activity_beginLocalRecovery e₀ .delivery
      rw [hactivity] at hstate
      have hnone : e.activity.submitted = none := by
        cases hother : e.activity with
        | established =>
            rw [hother] at hstate
            cases hstate
        | _ => rfl
      refine ⟨_, hadds, report_ends (plain_offer (resetEvent_plain _)) ?_ ?_ ?_⟩
      · exact fun hsome => absurd hnone hsome
      · rw [ha]
        rfl
      · rw [ha]
        simp [Activity.sessionState]

/-- The events that a step adds, and what it did to the message and the session. -/
theorem deed_report {e e' : Endpoint} {call : Call} (hwf : e.events.Wf) (h : Deed s e call e') :
    Report s e call e' (e'.events.contents.drop e.events.contents.length) := by
  have hgains : ∀ {events : List Event}, Adds e e' events → Report s e call e' events →
      Report s e call e' (e'.events.contents.drop e.events.contents.length) := by
    intro events hadds hreport
    rw [hadds, List.drop_left]
    exact hreport
  have hmapped : ∀ f : Stage → Stage,
      Report s e call { e with activity := e.activity.mapStage f } [] := by
    intro f
    obtain ⟨hsubmitted, hstate⟩ := submitted_mapStage f e.activity
    refine .kept plain_nil hsubmitted ?_
    rw [hstate]
    exact fun h => h
  cases h with
  | idle => exact hgains (adds_refl rfl) (.kept plain_nil rfl fun h => h)
  | readEvent _ hcount =>
      rw [EventRing.contents_pop hcount, List.drop_eq_nil_of_le (by simp)]
      exact .kept plain_nil rfl fun h => h
  | work _ hwork =>
      obtain ⟨hactivity, hcursor, _, _, hevents⟩ := recorded_fields e call
      have hring : (e.recorded call).events.Wf := by
        rw [hevents]
        exact hwf
      have hwork' : ∃ events, Adds (e.recorded call) e' events ∧ Report s e call e' events := by
        cases hwork with
        | receipt hreceipt hadvances =>
            obtain ⟨events, hadds, hreport⟩ := receipt_report hring hactivity hcursor
              (fun body => by rw [classifyBody_recorded]) hreceipt
            refine ⟨events, ?_, report_advances hreport hadvances⟩
            have hboth := adds_trans hadds (adds_advances hadvances)
            rw [List.append_nil] at hboth
            exact hboth
        | tick _ htick => exact tick_report hring hactivity htick
      obtain ⟨events, hadds, hreport⟩ := hwork'
      rw [Adds, hevents] at hadds
      exact hgains hadds hreport
  | showReliable | commitReliable => exact hgains (adds_refl rfl) (hmapped _)
  | showControl =>
      refine hgains (adds_refl rfl) (.kept plain_nil ?_ ?_)
      · show e.activity.peekControl.submitted = _
        cases e.activity <;> rfl
      · show e.activity.peekControl.sessionState = _ → _
        cases e.activity <;> exact fun h => h
  | commitControl =>
      refine hgains (adds_refl rfl) (.kept plain_nil ?_ ?_)
      · show e.activity.commitControl.submitted = _
        cases e.activity <;> rfl
      · show e.activity.commitControl.sessionState = _ → _
        cases e.activity <;> exact fun h => h
  | submit hcall _ _ ha hfree =>
      refine hgains (adds_refl rfl) (.submitted hcall (by rw [ha]; rfl) rfl ?_ rfl)
      rw [ha, submitted_established, hfree]
      rfl
  | readMessage _ ha =>
      exact hgains (adds_refl rfl) (.kept plain_nil (by rw [ha]; rfl) fun _ => by rw [ha]; rfl)
  | reset hcall =>
      rw [show e.reset.events.contents = [] from rfl, List.drop_nil]
      refine report_ends plain_nil (fun _ => ⟨Or.inl hcall, Or.inl hcall⟩) ?_ ?_
      · show e.reset.activity.submitted = none
        unfold Endpoint.reset
        cases e.activity <;> rfl
      · show e.reset.activity.sessionState ≠ _
        unfold Endpoint.reset
        cases e.activity <;> exact fun h => by cases h
  | observe _ ha =>
      refine hgains (adds_refl rfl) (.kept plain_nil (by rw [ha]; rfl) ?_)
      intro hstate
      cases hstate
  | disconnect hcall =>
      have hadds := adds_trans (adds_publish hwf (Session.linkEvent .disconnected))
        (adds_abandon (wf_events_publish hwf (by rfl)) (.disconnected true) .linkLost)
      refine hgains hadds (report_ends ?_ ?_ ?_ ?_)
      · exact plain_append (plain_offer rfl) (plain_offer rfl)
      · intro _
        have hlost : call.reportsLinkLoss = true := by
          rw [hcall]
          rfl
        exact ⟨Or.inr (Or.inl hlost), Or.inr (Or.inl hlost)⟩
      · rw [(abandon_fields _ _ _).1]
        rfl
      · rw [(abandon_fields _ _ _).1]
        simp [Activity.sessionState]
  | connect _ hlink =>
      have hadds := adds_trans (adds_publish hwf (Session.linkEvent .connected))
        (@adds_beginEstablishment _ s _)
      refine hgains hadds (.kept (plain_append (plain_offer rfl) plain_nil) ?_ ?_)
      · unfold beginEstablishment
        cases ha : e.activity with
        | disconnected => split_ifs <;> rfl
        | _ =>
            rw [ha] at hlink
            cases hlink
      · unfold beginEstablishment
        split_ifs <;> exact fun h => by cases h

end

end Endpoint

/-! ## What a run reports -/

section
variable [Target]

/-- How many events of the type a step publishes. -/
def Events.reported (type : EventType) (moment : Root × Call) : Nat :=
  (Events.published moment.1 (step moment.1 moment.2).2).countP fun event => event.type == type

/-- The call submits a message, and it is taken. -/
def submits (moment : Root × Call) : Bool :=
  match moment.2 with
  | .submitApplicationData _ => (step moment.1 moment.2).1.status == .ok
  | _ => false

/-- The message is released, and no event reports it. -/
def discards (moment : Root × Call) : Bool :=
  moment.1.submittedMessagePending == 1
    && (step moment.1 moment.2).2.submittedMessagePending == 0
    && Events.reported .deliveryConfirmed moment == 0 && Events.reported .deliveryFailed moment == 0

/-- The session becomes established. -/
def establishes (moment : Root × Call) : Bool :=
  moment.1.base.sessionState != .established
    && (step moment.1 moment.2).2.base.sessionState == .established

/-- How often a message was released. -/
def outcomes (moment : Root × Call) : Nat :=
  Events.reported .deliveryConfirmed moment + Events.reported .deliveryFailed moment
    + (discards moment).toNat

/-- What becomes of the message and of the session in one step. -/
structure Accounted (moment : Root × Call) (after : Root) : Prop where
  balance : moment.1.submittedMessagePending.toNat + (submits moment).toNat =
    after.submittedMessagePending.toNat + outcomes moment
  pending : moment.1.submittedMessagePending = 0 ∨ moment.1.submittedMessagePending = 1
  taken : submits moment = true →
    moment.1.submittedMessagePending = 0 ∧ after.submittedMessagePending = 1
  kept : moment.1.submittedMessagePending = 1 → after.submittedMessagePending = 1 →
    after.submittedMessage = moment.1.submittedMessage
  confirmed : Events.reported .deliveryConfirmed moment ≠ 0 → ¬ SessionEnded moment.1 after
  failed : Events.reported .deliveryFailed moment ≠ 0 →
    SessionEnded moment.1 after ∧ after.base.lastFailure = .delivery
  discarded : discards moment = true →
    moment.2 = .reset ∨ moment.2.reportsLinkLoss = true ∨
      SessionEnded moment.1 after ∧ after.base.lastFailure = .protocol
  established : Events.reported .sessionEstablished moment = (establishes moment).toNat
  /-- A full queue delays the events together with what they report. -/
  waits : moment.1.eventCount = eventQueueCapacity →
    establishes moment = false ∧
      (moment.1.submittedMessagePending = 1 →
        after.submittedMessagePending = 1 ∨ discards moment = true)

/-- The flag of a submitted message stands for the reliable item. -/
structure MessageFlag (root : Root) : Prop where
  listed : root.submittedMessagePending = 0 ∨ root.submittedMessagePending = 1
  retained : root.submittedMessagePending = 1 ↔
    root.session.retainedReliableFrameType = .applicationMessage
  established : root.submittedMessagePending = 1 →
    root.base.sessionState = .established ∧ root.session.state = .established

namespace Endpoint

variable {s : Setup}

omit [Target] in
theorem plain_reported {events : List Event} (h : Plain events) {type : EventType}
    (htype : type = .deliveryConfirmed ∨ type = .deliveryFailed ∨ type = .sessionEstablished) :
    events.countP (fun event => event.type == type) = 0 := by
  rw [List.countP_eq_zero]
  intro event hmem hsame
  have hplain := h event hmem
  unfold Event.isOutcome at hplain
  rw [beq_iff_eq.mp hsame] at hplain
  rcases htype with rfl | rfl | rfl <;> cases hplain

theorem pending_toRoot (e : Endpoint) :
    (e.toRoot s).submittedMessagePending = if e.activity.submitted.isSome then 1 else 0 := rfl

theorem reported_toRoot {e : Endpoint} (h : e.Wf s) (call : Call) (type : EventType) :
    Events.reported type (e.toRoot s, call) =
      ((e.step s call).2.events.contents.drop e.events.contents.length).countP
        fun event => event.type == type := by
  unfold Events.reported
  dsimp only
  rw [step_refines h]
  rfl

/-- A message is taken into a slot that is free. -/
theorem submit_taken {e : Endpoint} {payload : List UInt8} (h : (e.submit s payload).1 = .ok) :
    e.activity.submitted = none ∧ (e.submit s payload).2.activity.submitted = some payload := by
  unfold submit at h ⊢
  by_cases hempty : payload = []
  · rw [if_pos hempty] at h
    cases h
  rw [if_neg hempty] at h ⊢
  cases ha : e.activity with
  | established id x =>
      rw [ha] at h
      dsimp only at h ⊢
      by_cases hlarge : payload.length > s.config.maxApplicationMessageSize
      · rw [if_pos hlarge] at h
        cases h
      rw [if_neg hlarge] at h ⊢
      by_cases hbusy : x.outgoing.isSome = true
      · rw [if_pos hbusy] at h
        cases h
      rw [if_neg hbusy]
      refine ⟨?_, rfl⟩
      rw [submitted_established, Option.not_isSome_iff_eq_none.mp hbusy]
      rfl
  | _ =>
      rw [ha] at h
      cases h

theorem submits_toRoot {e : Endpoint} (h : e.Wf s) {call : Call}
    (hsubmits : submits (e.toRoot s, call) = true) :
    e.activity.submitted = none ∧ ∃ payload,
      (e.step s call).2.activity.submitted = some payload := by
  unfold submits at hsubmits
  cases call with
  | submitApplicationData payload =>
      dsimp only at hsubmits
      rw [step_refines h, beq_iff_eq] at hsubmits
      obtain ⟨hnone, hsome⟩ := submit_taken hsubmits
      exact ⟨hnone, payload, hsome⟩
  | _ => cases hsubmits

theorem discards_toRoot {e : Endpoint} (h : e.Wf s) (call : Call) :
    discards (e.toRoot s, call) =
      (e.activity.submitted.isSome && (e.step s call).2.activity.submitted.isNone
        && Events.reported .deliveryConfirmed (e.toRoot s, call) == 0
        && Events.reported .deliveryFailed (e.toRoot s, call) == 0) := by
  unfold discards
  dsimp only
  rw [step_refines h, pending_toRoot, pending_toRoot]
  cases e.activity.submitted <;> cases (e.step s call).2.activity.submitted <;> rfl

theorem establishes_toRoot {e : Endpoint} (h : e.Wf s) (call : Call) :
    establishes (e.toRoot s, call) =
      (e.activity.sessionState != .established
        && (e.step s call).2.activity.sessionState == .established) := by
  unfold establishes
  dsimp only
  rw [step_refines h]
  rfl

theorem pending_none {e : Endpoint} (h : e.activity.submitted = none) :
    (e.toRoot s).submittedMessagePending = 0 := by
  rw [pending_toRoot, h]
  rfl

theorem pending_some {e : Endpoint} {payload : List UInt8}
    (h : e.activity.submitted = some payload) : (e.toRoot s).submittedMessagePending = 1 := by
  rw [pending_toRoot, h]
  rfl

theorem pending_cases (e : Endpoint) :
    (e.toRoot s).submittedMessagePending = 0 ∨ (e.toRoot s).submittedMessagePending = 1 := by
  cases h : e.activity.submitted with
  | none => exact Or.inl (pending_none h)
  | some payload => exact Or.inr (pending_some h)

theorem sessionEnded_same {e e' : Endpoint} {id : UInt64} (hid : e.activity.identifier = some id)
    (hsame : e'.activity.identifier = e.activity.identifier) :
    ¬ SessionEnded (e.toRoot s) (e'.toRoot s) := by
  rintro ⟨_, hinvalid | hother⟩
  · have hvalid : (e'.toRoot s).session.sessionIdentifierValid = 1 := if_pos (by rw [hsame, hid]; rfl)
    rw [hvalid] at hinvalid
    cases hinvalid
  · apply hother
    show e'.activity.identifier.getD _ = e.activity.identifier.getD _
    rw [hsame]

theorem published_full {e : Endpoint} (h : e.Wf s) (call : Call)
    (hfull : (e.toRoot s).eventCount = eventQueueCapacity) :
    (e.step s call).2.events.contents.drop e.events.contents.length = [] := by
  have hcount : e.events.count = eventQueueCapacity := hfull
  rw [List.drop_eq_nil_iff, EventRing.length_contents, EventRing.length_contents, hcount]
  exact (wf_step h call).events.count_le

theorem submits_cases {e : Endpoint} (h : e.Wf s) {payload : List UInt8} :
    submits (e.toRoot s, .submitApplicationData payload) = true ∨
      (e.step s (.submitApplicationData payload)).2 = e := by
  rcases @submit_cases _ s e payload with hok | hsame
  · refine Or.inl ?_
    unfold submits
    dsimp only
    rw [step_refines h, beq_iff_eq]
    exact hok
  · exact Or.inr hsame

theorem submits_false {e : Endpoint} (h : e.Wf s) {call : Call}
    (hnot : e.activity.submitted = none → (e.step s call).2.activity.submitted = none) :
    submits (e.toRoot s, call) = false := by
  rw [← Bool.not_eq_true]
  intro htaken
  obtain ⟨hnone, payload, hsome⟩ := submits_toRoot h htaken
  rw [hnot hnone] at hsome
  cases hsome

/-- The accounts of a step that reports nothing and keeps the message. -/
theorem accounted_kept {e : Endpoint} (h : e.Wf s) {call : Call}
    (hplain : Plain ((e.step s call).2.events.contents.drop e.events.contents.length))
    (hsame : (e.step s call).2.activity.submitted = e.activity.submitted)
    (hstate : (e.step s call).2.activity.sessionState = .established →
      e.activity.sessionState = .established) :
    Accounted (e.toRoot s, call) ((e.step s call).2.toRoot s) := by
  have hconfirmed : Events.reported .deliveryConfirmed (e.toRoot s, call) = 0 := by
    rw [reported_toRoot h, plain_reported hplain (Or.inl rfl)]
  have hfailed : Events.reported .deliveryFailed (e.toRoot s, call) = 0 := by
    rw [reported_toRoot h, plain_reported hplain (Or.inr (Or.inl rfl))]
  have hsubmits := submits_false h fun hnone => hsame.trans hnone
  have hdiscards : discards (e.toRoot s, call) = false := by
    rw [discards_toRoot h, hsame]
    cases e.activity.submitted <;> rfl
  have hestablishes : establishes (e.toRoot s, call) = false := by
    rw [establishes_toRoot h, ← Bool.not_eq_true, Bool.and_eq_true, bne_iff_ne, beq_iff_eq]
    exact fun ⟨hnot, hestablished⟩ => hnot (hstate hestablished)
  have hpending : ((e.step s call).2.toRoot s).submittedMessagePending =
      (e.toRoot s).submittedMessagePending := by
    rw [pending_toRoot, pending_toRoot, hsame]
  refine ⟨?_, pending_cases e, ?_, ?_, ?_, ?_, ?_, ?_, ?_⟩
  · unfold outcomes
    rw [hconfirmed, hfailed, hdiscards, hsubmits, hpending]
    rfl
  · intro htaken
    rw [hsubmits] at htaken
    cases htaken
  · intro _ _
    show (e.step s call).2.activity.submitted.getD [] = e.activity.submitted.getD []
    rw [hsame]
  · exact fun hsome => absurd hconfirmed hsome
  · exact fun hsome => absurd hfailed hsome
  · intro hdiscarded
    rw [hdiscards] at hdiscarded
    cases hdiscarded
  · rw [hestablishes, reported_toRoot h, plain_reported hplain (Or.inr (Or.inr rfl))]
    rfl
  · exact fun _ => ⟨hestablishes, fun hone => Or.inl (hpending.trans hone)⟩

/-- The accounts of a step that releases the message. -/
theorem accounted_released {e : Endpoint} (h : e.Wf s) {call : Call} {payload : List UInt8}
    (hsome : e.activity.submitted = some payload)
    (hnone : (e.step s call).2.activity.submitted = none)
    (hone : outcomes (e.toRoot s, call) = 1)
    (hestablished : Events.reported .sessionEstablished (e.toRoot s, call) =
      (establishes (e.toRoot s, call)).toNat)
    (hconfirmed : Events.reported .deliveryConfirmed (e.toRoot s, call) ≠ 0 →
      ¬ SessionEnded (e.toRoot s) ((e.step s call).2.toRoot s))
    (hfailed : Events.reported .deliveryFailed (e.toRoot s, call) ≠ 0 →
      SessionEnded (e.toRoot s) ((e.step s call).2.toRoot s) ∧
        (e.step s call).2.lastFailure = .delivery)
    (hdiscarded : discards (e.toRoot s, call) = true →
      call = .reset ∨ call.reportsLinkLoss = true ∨
        SessionEnded (e.toRoot s) ((e.step s call).2.toRoot s) ∧
          (e.step s call).2.lastFailure = .protocol) :
    Accounted (e.toRoot s, call) ((e.step s call).2.toRoot s) := by
  have hsubmits := submits_false h fun _ => hnone
  have hafter := @pending_none _ s _ hnone
  refine ⟨?_, pending_cases e, ?_, ?_, hconfirmed, hfailed, hdiscarded, hestablished, ?_⟩
  · rw [hone, hsubmits, hafter]
    show (e.toRoot s).submittedMessagePending.toNat + 0 = 0 + 1
    rw [pending_some hsome]
    rfl
  · intro htaken
    rw [hsubmits] at htaken
    cases htaken
  · intro _ hother
    rw [hafter] at hother
    cases hother
  · intro hfull
    have hnothing := published_full h call hfull
    have hreported := reported_toRoot h call
    rw [hnothing] at hreported
    have hstarts : (establishes (e.toRoot s, call)).toNat = 0 := by
      rw [← hestablished, hreported]
      rfl
    refine ⟨?_, fun _ => Or.inr ?_⟩
    · cases hother : establishes (e.toRoot s, call) with
      | false => rfl
      | true =>
          rw [hother] at hstarts
          cases hstarts
    · rw [discards_toRoot h, hsome, hnone, hreported, hreported]
      rfl

/-- The accounts of the step that takes a message. -/
theorem accounted_submitted {e : Endpoint} (h : e.Wf s) {payload : List UInt8}
    (hnothing : ∀ type,
      Events.reported type (e.toRoot s, .submitApplicationData payload) = 0)
    (hbefore : e.activity.sessionState = .established)
    (hnone : e.activity.submitted = none)
    (hsome : (e.step s (.submitApplicationData payload)).2.activity.submitted = some payload) :
    Accounted (e.toRoot s, .submitApplicationData payload)
      ((e.step s (.submitApplicationData payload)).2.toRoot s) := by
  have htaken : submits (e.toRoot s, .submitApplicationData payload) = true := by
    rcases @submits_cases _ s e h payload with htaken | hsame
    · exact htaken
    · rw [hsame, hnone] at hsome
      cases hsome
  have hestablishes := establishes_toRoot h (.submitApplicationData payload)
  rw [hbefore] at hestablishes
  have hdiscards := discards_toRoot h (.submitApplicationData payload)
  rw [hnone] at hdiscards
  refine ⟨?_, pending_cases e, ?_, ?_, ?_, ?_, ?_, ?_, ?_⟩
  · unfold outcomes
    rw [hnothing, hnothing, hdiscards, htaken, pending_none hnone, pending_some hsome]
    rfl
  · exact fun _ => ⟨pending_none hnone, pending_some hsome⟩
  · intro hother
    rw [pending_none hnone] at hother
    cases hother
  · exact fun hother => absurd (hnothing .deliveryConfirmed) hother
  · exact fun hother => absurd (hnothing .deliveryFailed) hother
  · intro hother
    rw [hdiscards] at hother
    cases hother
  · rw [hnothing, hestablishes]
    rfl
  · exact fun _ => ⟨hestablishes, fun _ => Or.inl (pending_some hsome)⟩

/-- The accounts of the step that establishes the session. -/
theorem accounted_established {e : Endpoint} (h : e.Wf s) {call : Call}
    (hevents : (e.step s call).2.events.contents.drop e.events.contents.length =
      [Handshake.establishedEvent])
    (hbefore : e.activity.sessionState = .connecting)
    (hafter : (e.step s call).2.activity.sessionState = .established)
    (hnone : e.activity.submitted = none)
    (hnone' : (e.step s call).2.activity.submitted = none) :
    Accounted (e.toRoot s, call) ((e.step s call).2.toRoot s) := by
  have hreported := reported_toRoot h call
  rw [hevents] at hreported
  have hestablishes := establishes_toRoot h call
  rw [hbefore, hafter] at hestablishes
  have hdiscards := discards_toRoot h call
  rw [hnone] at hdiscards
  have hsubmits := submits_false h fun _ => hnone'
  refine ⟨?_, pending_cases e, ?_, ?_, ?_, ?_, ?_, ?_, ?_⟩
  · unfold outcomes
    rw [hreported, hreported, hdiscards, hsubmits, pending_none hnone, pending_none hnone']
    rfl
  · intro hother
    rw [hsubmits] at hother
    cases hother
  · intro hother
    rw [pending_none hnone] at hother
    cases hother
  · exact fun hother => absurd (hreported .deliveryConfirmed) hother
  · exact fun hother => absurd (hreported .deliveryFailed) hother
  · intro hother
    rw [hdiscards] at hother
    cases hother
  · rw [hreported, hestablishes]
    rfl
  · intro hfull
    rw [published_full h call hfull] at hevents
    cases hevents

theorem accounted_step {e : Endpoint} (h : e.Wf s) (hcursor : Successive s e) {call : Call}
    (hatomic : Atomic s e call) :
    Accounted (e.toRoot s, call) ((e.step s call).2.toRoot s) := by
  have hreport := deed_report h.events (step_deed h hatomic)
  have hreported := reported_toRoot h call
  have hdiscards := discards_toRoot h call
  have hestablishes := establishes_toRoot h call
  generalize hevents : (e.step s call).2.events.contents.drop e.events.contents.length = events
    at hreport hreported
  cases hreport with
  | kept hplain hsame hstate => exact accounted_kept h (by rw [hevents]; exact hplain) hsame hstate
  | submitted hcall hbefore hafter hnone hsome =>
      subst hcall
      exact accounted_submitted h hreported hbefore hnone hsome
  | established hbefore hafter hnone hnone' =>
      exact accounted_established h hevents hbefore hafter hnone hnone'
  | delivered hbefore hafter hsome hnone hid =>
      rw [hbefore, hafter] at hestablishes
      obtain ⟨id, hbound⟩ := identifier_of_submitted (by rw [hsome]; simp)
      refine accounted_released h hsome hnone ?_ ?_ ?_ ?_ ?_
      · unfold outcomes
        rw [hdiscards, hreported, hreported, hsome, hnone]
        rfl
      · rw [hreported, hestablishes]
        rfl
      · exact fun _ => sessionEnded_same hbound hid
      · exact fun hother => absurd (hreported .deliveryFailed) hother
      · intro hother
        rw [hdiscards, hreported, hreported] at hother
        simp [deliveredEvent] at hother
  | @failed payload others hplain hleaves hsome hfailure =>
      have hended := @leavesReset_ended _ s _ _ hleaves
      obtain ⟨_, _, ha⟩ := hleaves
      have hconfirmed : Events.reported .deliveryConfirmed (e.toRoot s, call) = 0 := by
        rw [hreported, List.countP_cons_of_neg (by decide), plain_reported hplain (Or.inl rfl)]
      have hfailed : Events.reported .deliveryFailed (e.toRoot s, call) = 1 := by
        rw [hreported, List.countP_cons_of_pos (by decide),
          plain_reported hplain (Or.inr (Or.inl rfl))]
      rw [hconfirmed, hfailed] at hdiscards
      refine accounted_released h hsome (by rw [ha]; rfl) ?_ ?_ ?_ ?_ ?_
      · unfold outcomes
        rw [hdiscards, hconfirmed, hfailed]
        simp
      · have hstate : (e.step s call).2.activity.sessionState ≠ .established := by
          rw [ha]
          simp [Activity.sessionState]
        rw [hreported, List.countP_cons_of_neg (by decide),
          plain_reported hplain (Or.inr (Or.inr rfl)), hestablishes,
          beq_false_of_ne hstate, Bool.and_false]
        rfl
      · exact fun hother => absurd hconfirmed hother
      · exact fun _ => ⟨hended, hfailure⟩
      · intro hother
        rw [hdiscards] at hother
        simp at hother
  | discarded hplain hends hsome hnone hstate hwhy =>
      have hconfirmed : Events.reported .deliveryConfirmed (e.toRoot s, call) = 0 := by
        rw [hreported, plain_reported hplain (Or.inl rfl)]
      have hfailed : Events.reported .deliveryFailed (e.toRoot s, call) = 0 := by
        rw [hreported, plain_reported hplain (Or.inr (Or.inl rfl))]
      rw [hconfirmed, hfailed, hsome, hnone] at hdiscards
      refine accounted_released h hsome hnone ?_ ?_ ?_ ?_ ?_
      · unfold outcomes
        rw [hdiscards, hconfirmed, hfailed]
        rfl
      · rw [hreported, plain_reported hplain (Or.inr (Or.inr rfl)), hestablishes,
          beq_false_of_ne hstate, Bool.and_false]
        rfl
      · exact fun hother => absurd hconfirmed hother
      · exact fun hother => absurd hfailed hother
      · intro _
        by_cases hreset : call = .reset
        · exact Or.inl hreset
        · cases hlink : call.reportsLinkLoss with
          | true => exact Or.inr (Or.inl rfl)
          | false =>
              rcases hwhy with hother | hother | hfailure
              · exact absurd hother hreset
              · rw [hlink] at hother
                cases hother
              · exact Or.inr (Or.inr ⟨ends_ended hcursor hends hreset hlink, hfailure⟩)

/-- A message is pending exactly when it is the reliable item. -/
theorem messageFlag_toRoot (e : Endpoint) : MessageFlag (e.toRoot s) where
  listed := pending_cases e
  retained := by
    have htype : (e.toRoot s).session.retainedReliableFrameType =
        (s.item e.activity).elim .invalid fun item => item.frame.type := rfl
    rw [htype]
    constructor
    · intro hpending
      cases hsubmitted : e.activity.submitted with
      | none =>
          rw [pending_none hsubmitted] at hpending
          cases hpending
      | some payload =>
          obtain ⟨item, hitem, hmessage, _⟩ := submitted_iff.mp hsubmitted
          rw [hitem]
          exact hmessage
    · intro hmessage
      cases hitem : s.item e.activity with
      | none =>
          rw [hitem] at hmessage
          cases hmessage
      | some item =>
          rw [hitem] at hmessage
          exact pending_some (submitted_iff.mpr ⟨item, hitem, hmessage, rfl⟩)
  established := by
    intro hpending
    cases ha : e.activity with
    | established id x =>
        unfold toRoot toSession
        rw [ha]
        exact ⟨rfl, rfl⟩
    | _ =>
        rw [pending_none (by rw [ha]; rfl)] at hpending
        cases hpending

end Endpoint

open Endpoint

/-- In every run of either role, a message that is taken has one outcome at most, the
    delivery events and the starts of sessions are reported exactly when they happen, and a
    message is pending exactly when it is the reliable item. -/
theorem event_outcomes {root : Root} (h : Reachable root) (calls : List Call) :
    MessageFlag root ∧
      (∀ moment ∈ moments step root calls, Accounted moment (step moment.1 moment.2).2) ∧
      root.submittedMessagePending.toNat +
          ((moments step root calls).map fun moment => (submits moment).toNat).sum =
        (Library.run step root calls).2.submittedMessagePending.toNat +
          ((moments step root calls).map outcomes).sum ∧
      ((moments step root calls).map (Events.reported .sessionEstablished)).sum =
        ((moments step root calls).map fun moment => (establishes moment).toNat).sum ∧
      ∀ before submission during after,
        moments step root calls = before ++ submission :: (during ++ after) →
        submits submission = true → (∀ moment ∈ during, submits moment = false) →
        (during.map outcomes).sum ≤ 1 ∧
          ∀ next later, after = next :: later →
            next.1.submittedMessagePending.toNat + (during.map outcomes).sum = 1 := by
  have hrun := run_atomize h calls
  obtain ⟨s, e, hwf, hcursor, rfl⟩ := reachable_invariant successive_initial
    (fun s e call hwf hcursor hatomic => successive_step hwf hcursor hatomic) h
  have hall : ∀ moment ∈ moments step (e.toRoot s) calls,
      Accounted moment (step moment.1 moment.2).2 := by
    obtain ⟨hmoments, _⟩ := @run_invariant _ s (Successive s) e hwf hcursor calls
      fun _ _ _ hwf' hcursor' hatomic => successive_step hwf' hcursor' hatomic
    rintro ⟨before, call⟩ hmoment
    obtain ⟨e', hwf', hcursor', hatomic, heq⟩ := hmoments _ hmoment
    dsimp only at hatomic heq ⊢
    subst heq
    rw [step_refines hwf']
    exact accounted_step hwf' hcursor' hatomic
  refine ⟨messageFlag_toRoot e, hall, ?_, ?_, ?_⟩
  · rw [← hrun]
    exact @Library.visits_balance _ _ _ step (fun root => root.submittedMessagePending.toNat)
      (fun moment => (submits moment).toNat) outcomes _ _
      fun moment hmoment => (hall moment hmoment).balance
  · exact congrArg List.sum (List.map_congr_left fun moment hmoment =>
      (hall moment hmoment).established)
  · intro before submission during after hsplit htaken hfree
    -- The run after the submission, cut where the stretch ends.
    have hmem : submission ∈ moments step (e.toRoot s) calls := by
      rw [hsplit]
      exact List.mem_append_right _ List.mem_cons_self
    have hstretch : ∀ moment ∈ during, moment ∈ moments step (e.toRoot s) calls := by
      intro moment hmoment
      rw [hsplit]
      exact List.mem_append_right _ (List.mem_cons_of_mem _ (List.mem_append_left _ hmoment))
    obtain ⟨rest, hrest⟩ := Library.visits_tail hsplit
    obtain ⟨first, second, _, hduring, hafter⟩ := Library.visits_split hrest.symm
    have hbalance := @Library.visits_balance _ _ _ step
      (fun root => root.submittedMessagePending.toNat) (fun moment => (submits moment).toNat)
      outcomes first (step submission.1 submission.2).2
      (by rw [← hduring]; exact fun moment hmoment => (hall moment (hstretch moment hmoment)).balance)
    have hnone : (during.map fun moment => (submits moment).toNat).sum = 0 := by
      have hzero : (during.map fun moment => (submits moment).toNat) = during.map fun _ => 0 :=
        List.map_congr_left fun moment hmoment => by rw [hfree moment hmoment, Bool.toNat_false]
      rw [hzero, List.map_const', List.sum_replicate_nat, Nat.mul_zero]
    have hone : (step submission.1 submission.2).2.submittedMessagePending.toNat = 1 := by
      rw [((hall submission hmem).taken htaken).2]
      rfl
    rw [← hduring, hnone, hone] at hbalance
    refine ⟨by omega, ?_⟩
    rintro next later rfl
    rw [Library.visits_head hafter.symm]
    omega

end

/-- The sample host in its first session. -/
def establishedHost : Root :=
  (Library.run (@step .lp64) connectedHost
    [.process 0 .normal, .peekOutput (some 64), .commitOutput 0,
      .receiveBytes (encodedFrame (Handshake.controlFrame .response 7 0)), .process 0 .normal,
      .peekOutput (some 64), .commitOutput 0,
      .receiveBytes (encodedFrame (Handshake.controlFrame .ack 7 1))]).2

theorem reachable_establishedHost : @Reachable .lp64 establishedHost :=
  @reachable_run .lp64 _ reachable_connectedHost _

/-- One message is sent and acknowledged. -/
def oneDelivery : List Call :=
  [.submitApplicationData [5], .peekOutput (some 64), .commitOutput 3,
    .receiveBytes (encodedFrame (Handshake.controlFrame .ack 7 2))]

/-- The message is confirmed once. -/
theorem event_outcomes_establishedHost :
    establishedHost.submittedMessagePending.toNat +
        ((moments (@step .lp64) establishedHost oneDelivery).map
          fun moment => (@submits .lp64 moment).toNat).sum =
      (Library.run (@step .lp64) establishedHost oneDelivery).2.submittedMessagePending.toNat +
        ((moments (@step .lp64) establishedHost oneDelivery).map (@outcomes .lp64)).sum :=
  (@event_outcomes .lp64 establishedHost reachable_establishedHost oneDelivery).2.2.1

end HilRigProtocol.Transport
