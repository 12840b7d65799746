/-
  Received traffic and endpoints without a session.

  Traffic that no session can explain ends the session. Two kinds of frames do so where
  there is no session to end: an INITIATE with the reserved identity, which the decoder
  lets through, and on an endpoint whose RESET has been committed a body that was not
  finished before. Every other abandonment finds a session.
-/
import HilRigProtocol.Transport.RecoveryBarrier

namespace HilRigProtocol.Transport

/-- The calls by which the caller itself ends a session, and the link notifications. -/
def Call.isLifecycle : Call → Bool
  | .reset | .notifyLinkState _ _ => true
  | _ => false

section
variable [Target]

/-- In the step from `before` to `after` no session is given up. -/
structure NothingAbandoned (before : Root) (call : Call) (after : Root) : Prop where
  noReset : ∀ event ∈ Events.published before after, event.type ≠ .sessionReset
  lastFailure : after.base.lastFailure = before.base.lastFailure
  recorded :
    after.recentlyAbandonedSessionIdentifier = before.recentlyAbandonedSessionIdentifier ∧
      after.recentlyAbandonedSessionIdentifierValid =
        before.recentlyAbandonedSessionIdentifierValid
  recovering : after.session.state = .recovering → before.session.state = .recovering
  /-- A second abandonment may leave no trace in these fields. -/
  compatible : before.recoveryResetPending = 0 → ¬ Receive.offersIncompatible before call

/-- The call resolves a frame that strikes an endpoint without a session. -/
def Receive.strikesUnbound (root : Root) (call : Call) : Bool :=
  match Receive.offered root call with
  | none => false
  | some body =>
      match decodeFrameView body root.codecScratchSize
          root.base.config.maxApplicationMessageSize with
      | (_, frame, .valid) =>
          root.session.sessionIdentifierValid == 0 && root.recoveryResetPending == 0
            && !Receive.frameIsRecentlyAbandoned root frame
            && if Receive.rigIsWaitingUnboundForInitiate root then
                frame.type == .initiate && !sessionIdentifierIsValid frame.sessionIdentifier
              else
                !(sessionIdentifierIsValid frame.sessionIdentifier
                  && (frame.type == .initiate && root.session.role == .rig
                    || frame.type == .reset))
      | _ => false

/-- The call takes a valid INITIATE, and the session is bound to its identity. -/
def Adopts (before : Root) (call : Call) (after : Root) : Prop :=
  ∃ body frame, Receive.offered before call = some body ∧
    decodeFrameView body before.codecScratchSize before.base.config.maxApplicationMessageSize =
      (.ok, frame, .valid) ∧
    frame.type = .initiate ∧ sessionIdentifierIsValid frame.sessionIdentifier = true ∧
    after.session.sessionIdentifierValid = 1 ∧
    after.session.sessionIdentifier = frame.sessionIdentifier

namespace Endpoint

variable {s : Setup}

/-- A rig that waits finds only an INITIATE of a reserved identity incompatible. -/
theorem incompatible_waiting {e : Endpoint} {frame : Frame} (hrole : s.role = .rig)
    (ha : e.activity = .waitingForInitiate) (hclass : e.classify s frame = .incompatible) :
    frame.type = .initiate ∧ sessionIdentifierIsValid frame.sessionIdentifier = false := by
  have hunbound : ¬ (e.activity.identifier.isSome ∧
      e.activity.identifier ≠ some frame.sessionIdentifier) := by
    rw [ha]
    simp [Activity.identifier]
  unfold classify at hclass
  by_cases hold : e.abandoned = some frame.sessionIdentifier ∧
      e.activity.identifier ≠ some frame.sessionIdentifier
  · rw [if_pos hold] at hclass
    cases hclass
  by_cases htype : frame.type = .initiate
  · refine ⟨htype, ?_⟩
    rw [if_neg hold, if_neg (fun hother => hother.2 htype), if_neg hunbound] at hclass
    unfold classifyByType at hclass
    rw [htype] at hclass
    dsimp only at hclass
    by_contra hvalid
    rw [Bool.not_eq_false] at hvalid
    rw [if_pos ⟨hrole, hvalid⟩, ha] at hclass
    cases hclass
  · rw [if_neg hold, if_pos ⟨ha, htype⟩] at hclass
    cases hclass

/-- Between two sessions no RESET of a valid identity is incompatible, and to a rig no
    INITIATE of one. -/
theorem incompatible_between {e : Endpoint} {frame : Frame} (ha : e.activity = .recovering none)
    (hclass : e.classify s frame = .incompatible)
    (hvalid : sessionIdentifierIsValid frame.sessionIdentifier = true) :
    frame.type ≠ .reset ∧ ¬ (frame.type = .initiate ∧ s.role = .rig) := by
  have hunbound : ¬ (e.activity.identifier.isSome ∧
      e.activity.identifier ≠ some frame.sessionIdentifier) := by
    rw [ha]
    simp [Activity.identifier]
  have hbetween : ¬ (e.activity = .waitingForInitiate ∧ frame.type ≠ .initiate) := by
    rw [ha]
    simp
  unfold classify at hclass
  by_cases hold : e.abandoned = some frame.sessionIdentifier ∧
      e.activity.identifier ≠ some frame.sessionIdentifier
  · rw [if_pos hold] at hclass
    cases hclass
  rw [if_neg hold, if_neg hbetween, if_neg hunbound] at hclass
  unfold classifyByType at hclass
  refine ⟨?_, ?_⟩
  · intro htype
    rw [htype] at hclass
    dsimp only at hclass
    rw [if_neg (not_not.mpr hvalid), ha] at hclass
    cases hclass
  · rintro ⟨htype, hrole⟩
    rw [htype] at hclass
    dsimp only at hclass
    rw [if_pos ⟨hrole, hvalid⟩, ha] at hclass
    cases hclass

/-- A body that ends the session of an endpoint that has none. -/
theorem strikes_of_reject {e : Endpoint} (h : e.Wf s) {call : Call} {body : List UInt8}
    (hbody : e.offered call = some body) (hunbound : e.activity.identifier = none)
    (hbarrier : ∀ reset, e.activity ≠ .recovering (some reset))
    (hclass : (e.classifyBody s body).1 = .incompatible) :
    Receive.strikesUnbound (e.toRoot s) call = true := by
  rcases @classifyBody_cases _ s e body with ⟨frame, _, hdecode, heq⟩ | hreject | ⟨_, hbound⟩
  · rw [heq] at hclass
    have hdecode' : decodeFrameView body (e.toRoot s).codecScratchSize
        (e.toRoot s).base.config.maxApplicationMessageSize = (.ok, frame, .valid) := hdecode
    have hinvalid : (e.toRoot s).session.sessionIdentifierValid = 0 :=
      if_neg (by rw [hunbound]; simp)
    have hfresh : Receive.frameIsRecentlyAbandoned (e.toRoot s) frame = false := by
      rw [Bool.eq_false_iff, ne_eq, frameIsRecentlyAbandoned_toRoot]
      intro hold
      dsimp only at hclass
      unfold classify at hclass
      rw [if_pos hold] at hclass
      cases hclass
    have hwaits := rigIsWaitingUnboundForInitiate_toRoot h.activity
    unfold Receive.strikesUnbound
    rw [offered_toRoot, hbody]
    dsimp only
    rw [hdecode']
    dsimp only
    rw [hinvalid, hfresh]
    cases ha : e.activity with
    | waitingForInitiate =>
        have hrole : s.role = .rig := by
          have hwf := h.activity
          rw [ha] at hwf
          exact hwf
        have hpending : (e.toRoot s).recoveryResetPending = 0 := by
          unfold toRoot
          rw [ha]
          rfl
        obtain ⟨htype, hreserved⟩ := incompatible_waiting hrole ha hclass
        rw [hwaits.mpr ha, hpending, htype, hreserved]
        rfl
    | recovering reset =>
        cases reset with
        | some reset => exact absurd ha (hbarrier reset)
        | none =>
            have hpending : (e.toRoot s).recoveryResetPending = 0 := by
              unfold toRoot
              rw [ha]
              rfl
            have hwaiting : Receive.rigIsWaitingUnboundForInitiate (e.toRoot s) = false := by
              rw [Bool.eq_false_iff, ne_eq, hwaits, ha]
              simp
            have hrole : (e.toRoot s).session.role = s.role := rfl
            rw [hwaiting, hpending, hrole]
            by_cases hvalid : sessionIdentifierIsValid frame.sessionIdentifier = true
            · obtain ⟨hreset, hinitiate⟩ := incompatible_between ha hclass hvalid
              rw [not_and_or] at hinitiate
              simpa [hvalid, hreset] using hinitiate
            · simp [hvalid]
    | disconnected observed =>
        -- A disconnected endpoint has an empty parser.
        rw [offered_disconnected h (by rw [ha]; rfl)] at hbody
        cases hbody
    | _ =>
        rw [ha] at hunbound
        cases hunbound
  · rw [hreject] at hclass
    cases hclass
  · rw [hunbound] at hbound
    cases hbound

/-- What becomes of an endpoint without a session: nothing is given up, and only a valid
    INITIATE binds it. -/
structure Unbound (s : Setup) (e e' : Endpoint) (call : Call) : Prop where
  lastFailure : e'.lastFailure = e.lastFailure
  abandoned : e'.abandoned = e.abandoned
  recovering : e'.activity.sessionState = .recovering → e.activity.sessionState = .recovering
  events : ∀ event ∈ e'.events.contents.drop e.events.contents.length,
    event = Receive.protocolErrorEvent
  waiting : e.activity = .waitingForInitiate →
    e'.activity = .waitingForInitiate ∨
      ∃ body frame, e.offered call = some body ∧ Decodes s body frame ∧ frame.type = .initiate ∧
        sessionIdentifierIsValid frame.sessionIdentifier = true ∧
        e'.activity = .responsePending frame.sessionIdentifier frame.sequence

omit [Target] in
theorem no_new_events (e : Endpoint) :
    ∀ event ∈ e.events.contents.drop e.events.contents.length,
      event = Receive.protocolErrorEvent := by
  rw [List.drop_length]
  intro event hmem
  cases hmem

theorem unbound_same {e e' : Endpoint} {call : Call} (hactivity : e'.activity = e.activity)
    (hfailure : e'.lastFailure = e.lastFailure) (habandoned : e'.abandoned = e.abandoned)
    (hevents : e'.events = e.events) : Unbound s e e' call where
  lastFailure := hfailure
  abandoned := habandoned
  recovering := by
    rw [hactivity]
    exact fun hstate => hstate
  events := by
    rw [hevents]
    exact no_new_events e
  waiting := fun ha => Or.inl (hactivity.trans ha)

/-- An endpoint that starts its next session has given nothing up. -/
theorem unbound_advances {e e₁ e' : Endpoint} {call : Call} (h : Unbound s e e₁ call)
    (hadvances : Advances s e₁ e') : Unbound s e e' call := by
  rcases hadvances with rfl | ⟨ha, rfl⟩
  · exact h
  · have hwaiting : e.activity ≠ .waitingForInitiate := by
      intro hwaits
      have hstate := h.recovering (by rw [ha]; rfl)
      rw [hwaits] at hstate
      cases hstate
    unfold beginEstablishment
    split_ifs
    · exact
        { lastFailure := h.lastFailure
          abandoned := h.abandoned
          recovering := by
            intro hstate
            cases hstate
          events := h.events
          waiting := fun hwaits => absurd hwaits hwaiting }
    · exact
        { lastFailure := h.lastFailure
          abandoned := h.abandoned
          recovering := by
            intro hstate
            cases hstate
          events := h.events
          waiting := fun hwaits => absurd hwaits hwaiting }

theorem deed_unbound {e e' : Endpoint} (hwf : e.Wf s) {call : Call}
    (hcall : call.isLifecycle = false) (h : Deed s e call e')
    (hunbound : e.activity.identifier = none)
    (hstrike : Receive.strikesUnbound (e.toRoot s) call = false) : Unbound s e e' call := by
  have hitem := @item_unbound _ s _ hunbound
  cases h with
  | idle => exact unbound_same rfl rfl rfl rfl
  | readEvent _ hcount =>
      refine ⟨rfl, rfl, fun hstate => hstate, ?_, fun ha => Or.inl ha⟩
      rw [EventRing.contents_pop hcount, List.drop_eq_nil_of_le (by simp)]
      intro event hmem
      cases hmem
  | work _ hwork =>
      obtain ⟨hactivity, _, hfailure, habandoned, hevents⟩ := recorded_fields e call
      have hrecorded : Unbound s e (e.recorded call) call :=
        unbound_same hactivity hfailure habandoned hevents
      have hunbound' : (e.recorded call).activity.identifier = none := by
        rw [hactivity, hunbound]
      cases hwork with
      | receipt hreceipt hadvances =>
          refine unbound_advances ?_ hadvances
          cases hreceipt with
          | @idle e₁ hsame hdiagnosed =>
              have hring := hwf.events
              rw [← hevents] at hring
              obtain ⟨events, hadds, hall⟩ := adds_diagnosed hring hdiagnosed
              rw [Adds, hevents] at hadds
              refine ⟨hsame.lastFailure.trans hrecorded.lastFailure,
                hsame.abandoned.trans hrecorded.abandoned, ?_, ?_, ?_⟩
              · rw [hsame.activity, hactivity]
                exact fun hstate => hstate
              · rw [hadds, List.drop_left]
                exact hall
              · intro ha
                exact Or.inl (by rw [hsame.activity, hactivity, ha])
          | @take body frame e₁ hbody _ hdecode _ htakes =>
              cases htakes with
              | adopt ha htype hid _ =>
                  refine ⟨hrecorded.lastFailure, hrecorded.abandoned, ?_, hrecorded.events, ?_⟩
                  · intro hstate
                    cases hstate
                  · intro _
                    exact Or.inr ⟨body, frame, hbody, hdecode, htype, hid, rfl⟩
              | repeatDue hdue =>
                  rcases hdue with ⟨hother, _⟩ | ⟨hother, _⟩ <;>
                    (rw [hother] at hunbound'; cases hunbound')
              | duplicate hother | repeatInitiate hother | repeatResponse hother
              | repeatAck hother | response hother | confirm hother | confirmAck hother
              | prove hother | delivery hother | message hother =>
                  rw [hother] at hunbound'
                  cases hunbound'
          | @reject body hbody hclass hbarrier =>
              have hclass' : (e.classifyBody s body).1 = .incompatible := by
                rw [← hclass]
                unfold recorded
                split
                · split_ifs <;> rfl
                · rfl
              rw [hactivity] at hbarrier
              rw [strikes_of_reject hwf hbody hunbound hbarrier hclass'] at hstrike
              cases hstrike
          | reset _ _ hcurrent =>
              rw [hunbound'] at hcurrent
              cases hcurrent
      | tick _ htick =>
          have hitem' := @item_unbound _ s _ hunbound'
          cases htick with
          | idle => exact hrecorded
          | initiate hother | response hother | confirm hother | hold hother | fail hother =>
              rw [hother] at hunbound'
              cases hunbound'
          | retry hsome | lose _ hsome =>
              rw [hitem'] at hsome
              cases hsome
  | showReliable _ _ hsome | commitReliable _ hsome =>
      rw [hitem] at hsome
      cases hsome
  | showControl =>
      cases ha : e.activity with
      | disconnected | waitingForInitiate => exact unbound_same ha.symm rfl rfl rfl
      | recovering =>
          exact ⟨rfl, rfl, fun _ => by rw [ha]; rfl, no_new_events e,
            fun hother => by rw [ha] at hother; cases hother⟩
      | _ =>
          rw [ha] at hunbound
          cases hunbound
  | commitControl =>
      cases ha : e.activity with
      | disconnected | waitingForInitiate => exact unbound_same ha.symm rfl rfl rfl
      | recovering =>
          exact ⟨rfl, rfl, fun _ => by rw [ha]; rfl, no_new_events e,
            fun hother => by rw [ha] at hother; cases hother⟩
      | _ =>
          rw [ha] at hunbound
          cases hunbound
  | submit _ _ _ hother | readMessage _ hother =>
      rw [hother] at hunbound
      cases hunbound
  | reset hreset =>
      rw [hreset] at hcall
      cases hcall
  | observe hnotify | disconnect hnotify | connect hnotify =>
      rw [hnotify] at hcall
      cases hcall

end Endpoint

open Endpoint

/-! ## Runs -/

theorem abandonment_step {s : Setup} {e : Endpoint} (h : e.Wf s) {call : Call}
    (hatomic : Atomic s e call) (hcall : call.isLifecycle = false)
    (hunbound : e.activity.identifier = none)
    (hstrike : Receive.strikesUnbound (e.toRoot s) call = false) :
    NothingAbandoned (e.toRoot s) call (step (e.toRoot s) call).2 ∧
      Unbound s e (e.step s call).2 call := by
  have hall := deed_unbound h hcall (step_deed h hatomic) hunbound hstrike
  rw [step_refines h]
  refine ⟨⟨?_, hall.lastFailure, ⟨?_, ?_⟩, hall.recovering, ?_⟩, hall⟩
  · intro event hmem
    rw [hall.events event hmem]
    simp [Receive.protocolErrorEvent]
  · show (e.step s call).2.abandoned.getD _ = e.abandoned.getD _
    rw [hall.abandoned]
  · show (if (e.step s call).2.abandoned.isSome then (1 : UInt8) else 0) = _
    rw [hall.abandoned]
    rfl
  · intro hpending hincompatible
    obtain ⟨body, hbody, hclass⟩ := (offersIncompatible_toRoot h).mp hincompatible
    have hbarrier : ∀ reset, e.activity ≠ .recovering (some reset) := by
      intro reset ha
      unfold toRoot at hpending
      rw [ha] at hpending
      cases hpending
    rw [strikes_of_reject h hbody hunbound hbarrier hclass] at hstrike
    cases hstrike

/-- In every run whose received frames strike no endpoint without a session, only a
    session that exists is given up; a rig that waits for INITIATE stays so, silently,
    until it adopts a valid one; and a recovering endpoint gives up nothing more. -/
theorem abandonment_bound {root : Root} (h : Reachable root) (calls : List Call)
    (hstrikes : ∀ moment ∈ moments step root calls,
      Receive.strikesUnbound moment.1 moment.2 = false) :
    ∀ moment ∈ moments step root calls, moment.2.isLifecycle = false →
      (¬ NothingAbandoned moment.1 moment.2 (step moment.1 moment.2).2 →
          moment.1.session.sessionIdentifierValid = 1) ∧
        (Receive.rigIsWaitingUnboundForInitiate moment.1 = true →
          (step moment.1 (.peekOutput none)).1.status = .notReady ∧
            NothingAbandoned moment.1 moment.2 (step moment.1 moment.2).2 ∧
            (Receive.rigIsWaitingUnboundForInitiate (step moment.1 moment.2).2 = true ∨
              Adopts moment.1 moment.2 (step moment.1 moment.2).2)) ∧
        (moment.1.session.state = .recovering →
          NothingAbandoned moment.1 moment.2 (step moment.1 moment.2).2) := by
  obtain ⟨s, e, hwf, _, rfl⟩ := reachable_endpoint h
  intro moment hmoment hcall
  have hstrike := hstrikes moment hmoment
  obtain ⟨e', hwf', hatomic, heq⟩ := moment_endpoint hwf hmoment
  rw [heq] at hstrike ⊢
  refine ⟨?_, ?_, ?_⟩
  · intro hgiven
    by_contra hinvalid
    have hunbound : e'.activity.identifier = none := by
      rw [← Option.not_isSome_iff_eq_none]
      exact fun hsome => hinvalid (if_pos hsome)
    exact hgiven (abandonment_step hwf' hatomic hcall hunbound hstrike).1
  · intro hwaiting
    have ha := (rigIsWaitingUnboundForInitiate_toRoot hwf'.activity).mp hwaiting
    have hunbound : e'.activity.identifier = none := by
      rw [ha]
      rfl
    obtain ⟨hnothing, hall⟩ := abandonment_step hwf' hatomic hcall hunbound hstrike
    refine ⟨?_, hnothing, ?_⟩
    · rw [step_refines hwf']
      show (e'.peekOutput s none).1 = .notReady
      unfold peekOutput selection
      rw [ha]
      rfl
    · rw [step_refines hwf']
      rcases hall.waiting ha with hstays | ⟨body, frame, hbody, hdecode, htype, hid, hbound⟩
      · refine Or.inl ?_
        exact (rigIsWaitingUnboundForInitiate_toRoot (wf_step hwf' moment.2).activity).mpr hstays
      · refine Or.inr ⟨body, frame, ?_, hdecode, htype, hid, ?_, ?_⟩
        · rw [offered_toRoot, hbody]
        · exact if_pos (by rw [hbound]; rfl)
        · show (e'.step s moment.2).2.activity.identifier.getD _ = _
          rw [hbound]
          rfl
  · intro hrecovering
    have hunbound : e'.activity.identifier = none := by
      have hstate : e'.activity.sessionState = .recovering := hrecovering
      cases ha : e'.activity <;> rw [ha] at hstate <;> first | rfl | cases hstate
    exact (abandonment_step hwf' hatomic hcall hunbound hstrike).1

end

/-- The sample rig adopts a session, and gives it up for a message it cannot place. -/
theorem abandonment_bound_rig :
    ∃ moment ∈ moments (@step .lp64) connectedRig
        [.receiveBytes (encodedFrame ⟨.initiate, 9, 1, 0, []⟩), .process 0 .normal,
          .receiveBytes (encodedFrame ⟨.applicationMessage, 9, 2, 0, [5]⟩)],
      ¬ @NothingAbandoned .lp64 moment.1 moment.2 (@step .lp64 moment.1 moment.2).2 ∧
        moment.1.session.sessionIdentifierValid = 1 := by
  obtain ⟨moment, hmoment, hcall, hbefore, hafter⟩ :
      ∃ moment ∈ moments (@step .lp64) connectedRig
          [.receiveBytes (encodedFrame ⟨.initiate, 9, 1, 0, []⟩), .process 0 .normal,
            .receiveBytes (encodedFrame ⟨.applicationMessage, 9, 2, 0, [5]⟩)],
        moment.2.isLifecycle = false ∧ moment.1.session.state ≠ .recovering ∧
          (@step .lp64 moment.1 moment.2).2.session.state = .recovering := by
    decide +kernel
  have hgiven : ¬ @NothingAbandoned .lp64 moment.1 moment.2 (@step .lp64 moment.1 moment.2).2 :=
    fun hnothing => hbefore (@NothingAbandoned.recovering .lp64 _ _ _ hnothing hafter)
  exact ⟨moment, hmoment, hgiven,
    (@abandonment_bound .lp64 connectedRig reachable_connectedRig
      [.receiveBytes (encodedFrame ⟨.initiate, 9, 1, 0, []⟩), .process 0 .normal,
        .receiveBytes (encodedFrame ⟨.applicationMessage, 9, 2, 0, [5]⟩)]
      (by decide +kernel) moment hmoment hcall).1 hgiven⟩

/-- A host whose RESET was committed while a body was still coming in. -/
def resumedHost : Root :=
  (Library.run (@step .lp64) connectedHost
    [.process 0 .normal, .reset, .receiveBytes ((encodedFrame ⟨.ack, 9, 0, 5, []⟩).take 8),
      .peekOutput (some 64), .commitOutput 0]).2

theorem reachable_resumedHost : @Reachable .lp64 resumedHost :=
  @reachable_run .lp64 _ reachable_connectedHost _

/-- A waiting rig, and a host that recovers, report the end of a session they do not
    have. -/
theorem abandonment_without_session :
    @Reachable .lp64 connectedRig ∧
      Receive.rigIsWaitingUnboundForInitiate connectedRig = true ∧
      (∃ moment ∈ moments (@step .lp64) connectedRig
          [.receiveBytes (encodedFrame ⟨.initiate, sessionSeedReserved, 0, 0, []⟩)],
        moment.2.isLifecycle = false ∧ moment.1.session.sessionIdentifierValid = 0 ∧
          (∃ event ∈ Events.published moment.1 (@step .lp64 moment.1 moment.2).2,
            event.type = .sessionReset)) ∧
      @Reachable .lp64 resumedHost ∧
      resumedHost.session.state = .recovering ∧
      ∃ moment ∈ moments (@step .lp64) resumedHost
          [.receiveBytes ((encodedFrame ⟨.ack, 9, 0, 5, []⟩).drop 8)],
        moment.2.isLifecycle = false ∧ moment.1.session.sessionIdentifierValid = 0 ∧
          ∃ event ∈ Events.published moment.1 (@step .lp64 moment.1 moment.2).2,
            event.type = .sessionReset := by
  refine ⟨reachable_connectedRig, by decide +kernel, ?_, reachable_resumedHost,
    by decide +kernel, ?_⟩
  · decide +kernel
  · decide +kernel

end HilRigProtocol.Transport
