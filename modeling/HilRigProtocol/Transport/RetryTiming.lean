/-
  Endpoints whose retry timer is off.

  Without a timer only a repeated frame of the peer's handshake asks for a retained frame
  once more. When no retry is left it exhausts the item, and the next `Process` ends the
  session for it; nothing else does.
-/
import HilRigProtocol.Transport.Retained

namespace HilRigProtocol.Transport

/-- The slot is occupied, by the item that was there, byte for byte. -/
structure ItemStays (before after : Root) : Prop where
  occupied : after.session.reliableState ≠ .idle
  type : after.session.retainedReliableFrameType = before.session.retainedReliableFrameType
  sequence : after.session.retainedTransmitSequence = before.session.retainedTransmitSequence
  session : after.session.sessionIdentifier = before.session.sessionIdentifier
  bytes : after.encodedOutput = before.encodedOutput

section
variable [Target]

/-- A repeated frame of the handshake finds the item without a retry left. -/
def Receive.asksTooOften (root : Root) (call : Call) : Prop :=
  Receive.resolves root call Receive.asksAgain ∧ root.session.reliableState = .awaitingAck ∧
    ¬ root.session.retransmissionsCommitted < root.base.config.maxRetries

/-- The call resolves an acknowledgement of the item. -/
def ItemAcknowledged (before : Root) (call : Call) : Prop :=
  Receive.resolves before call Receive.acknowledges ∧
    (before.session.reliableState = .awaitingAck ∨ before.session.reliableState = .retransmitReady)

/-- The session ends in this step, and not for a failed delivery: the caller resets it or
    reports the loss of the link, or what the call resolves is the peer's RESET or cannot
    be of the session. -/
def SessionReleased (before : Root) (call : Call) (after : Root) : Prop :=
  SessionEnded before after ∧
    (call = .reset ∧ after.base.lastFailure = .localReset ∨
      call.reportsLinkLoss = true ∧ after.base.lastFailure = .linkLost ∨
      (Receive.offersReset before call ∨ Receive.offersIncompatible before call) ∧
        after.base.lastFailure = .protocol)

/-- One step of an endpoint whose retry timer is off. -/
structure Untimed (before : Root) (call : Call) (after : Root) : Prop where
  exhausted : after.session.reliableState = .exhausted →
    before.session.reliableState = .exhausted ∨ Receive.asksTooOften before call
  delivery : after.base.lastFailure = .delivery →
    before.session.reliableState = .exhausted ∨
      before.base.lastFailure = .delivery ∧ ¬ SessionEnded before after
  retained : before.session.reliableState ≠ .idle →
    ItemStays before after ∨ ItemAcknowledged before call ∨ SessionReleased before call after ∨
      before.session.reliableState = .exhausted

namespace Endpoint

variable {s : Setup}

/-! ## Items of a root -/

theorem reliableState_toRoot {e : Endpoint} {item : Item} (h : s.item e.activity = some item) :
    (e.toRoot s).session.reliableState = item.stage.state := by
  show (s.item e.activity).elim _ _ = _
  rw [h]
  rfl

theorem reliableState_idle {e : Endpoint} (h : s.item e.activity = none) :
    (e.toRoot s).session.reliableState = .idle := by
  show (s.item e.activity).elim _ _ = _
  rw [h]
  rfl

theorem itemStays_toRoot {e e' : Endpoint} {item : Item} {stage : Stage}
    (hitem : s.item e.activity = some item)
    (hkept : s.item e'.activity = some ⟨item.frame, stage⟩)
    (hidentifier : e'.activity.identifier = e.activity.identifier) :
    ItemStays (e.toRoot s) (e'.toRoot s) := by
  refine ⟨?_, ?_, ?_, ?_, ?_⟩
  · rw [reliableState_toRoot hkept]
    exact Stage.state_ne_idle _
  · show (s.item e'.activity).elim _ _ = (s.item e.activity).elim _ _
    rw [hitem, hkept]
    rfl
  · show (s.item e'.activity).elim _ _ = (s.item e.activity).elim _ _
    rw [hitem, hkept]
    rfl
  · show e'.activity.identifier.getD _ = e.activity.identifier.getD _
    rw [hidentifier]
  · show (s.item e'.activity).elim _ _ = (s.item e.activity).elim _ _
    rw [hitem, hkept]
    rfl

/-! ## Without a timer -/

theorem not_expired (h : s.config.retransmitTimeoutMs = 0) (nowMs : UInt32) (stage : Stage) :
    ¬ Expired s nowMs stage := by
  rintro ⟨_, _, _, hne, _⟩
  exact hne h

/-- An item that stays is exhausted only when it is asked for too often. -/
theorem exhausted_stageMove {e : Endpoint} {call : Call} {item : Item} {stage : Stage}
    (hdisabled : s.config.retransmitTimeoutMs = 0) (hitem : s.item e.activity = some item)
    (h : StageMove s e call item.stage stage) (hstate : stage.state = .exhausted) :
    item.stage.state = .exhausted ∨ Receive.asksTooOften (e.toRoot s) call := by
  cases h with
  | same => exact Or.inl hstate
  | shown =>
      cases hstage : item.stage <;> rw [hstage] at hstate <;> first | exact Or.inl rfl | cases hstate
  | @committed nowMs _ hpinned =>
      rw [(Stage.commit_of_pinned nowMs hpinned).1] at hstate
      cases hstate
  | asked hresolves =>
      cases hstage : item.stage with
      | awaitingAck retries ms =>
          rw [hstage] at hstate
          refine Or.inr ⟨hresolves, ?_, ?_⟩
          · rw [reliableState_toRoot hitem, hstage]
            rfl
          · intro hleft
            have hretries : (e.toRoot s).session.retransmissionsCommitted = retries := by
              show (s.item e.activity).elim _ _ = _
              rw [hitem]
              show item.stage.retries = retries
              rw [hstage]
              rfl
            rw [hretries] at hleft
            have hretry : s.retry (.awaitingAck retries ms) = .retransmitReady retries ms :=
              if_pos hleft
            rw [hretry] at hstate
            cases hstate
      | _ =>
          rw [hstage] at hstate
          first | exact Or.inl rfl | cases hstate
  | expired _ hexpired => exact absurd hexpired (not_expired hdisabled _ _)

theorem untimed_exhausted {e e' : Endpoint} {call : Call}
    (hdisabled : s.config.retransmitTimeoutMs = 0) (h : Deed s e call e')
    (hexhausted : (e'.toRoot s).session.reliableState = .exhausted) :
    (e.toRoot s).session.reliableState = .exhausted ∨ Receive.asksTooOften (e.toRoot s) call := by
  obtain ⟨item', hitem'⟩ : ∃ item, s.item e'.activity = some item := by
    rw [← Option.isSome_iff_exists, ← Option.ne_none_iff_isSome]
    intro hnone
    rw [reliableState_idle hnone] at hexhausted
    cases hexhausted
  rw [reliableState_toRoot hitem'] at hexhausted
  cases hitem : s.item e.activity with
  | none =>
      -- A new item is ready.
      cases deed_birth hitem hitem' h with
      | handshake _ _ hready =>
          rw [hready] at hexhausted
          cases hexhausted
      | message _ _ hready =>
          rw [hready] at hexhausted
          cases hexhausted
  | some item =>
      cases deed_fate hitem h with
      | kept hmove hkept =>
          rw [hkept] at hitem'
          cases hitem'
          rw [reliableState_toRoot hitem]
          exact exhausted_stageMove hdisabled hitem hmove hexhausted
      | acknowledged _ _ hnone | failed _ _ _ hnone | ended _ hnone =>
          rw [hnone] at hitem'
          cases hitem'

/-- An endpoint without a session records no failed delivery. -/
theorem unbound_failure {e e' : Endpoint} {call : Call} (hunbound : e.activity.identifier = none)
    (h : Deed s e call e') :
    e'.lastFailure = e.lastFailure ∨ e'.lastFailure = .localReset ∨ e'.lastFailure = .linkLost ∨
      e'.lastFailure = .protocol := by
  cases h with
  | idle | readEvent | showReliable | showControl | commitReliable | commitControl | observe =>
      exact Or.inl rfl
  | work _ hwork =>
      obtain ⟨hactivity, _, hfailure, _⟩ := recorded_fields e call
      rw [← hactivity] at hunbound
      cases hwork with
      | receipt hreceipt hadvances =>
          rw [(advances_fields hadvances).2]
          cases hreceipt with
          | idle hsame _ => exact Or.inl (hsame.lastFailure.trans hfailure)
          | @take _ _ e₁ _ _ _ _ htakes =>
              have hkept : e₁.lastFailure = (e.recorded call).lastFailure := by
                cases htakes with
                | confirm ha | confirmAck ha | prove ha =>
                    rw [ha] at hunbound
                    cases hunbound
                | _ => rfl
              exact Or.inl (hkept.trans hfailure)
          | reject _ _ hbarrier =>
              exact Or.inr (Or.inr (Or.inr (rejectSession_record hbarrier).2.1))
          | reset _ _ hcurrent =>
              rw [hunbound] at hcurrent
              cases hcurrent
      | tick _ htick =>
          cases htick with
          | fail ha =>
              rw [ha] at hunbound
              cases hunbound
          | lose _ hitem =>
              rw [item_unbound hunbound] at hitem
              cases hitem
          | _ => exact Or.inl hfailure
  | submit _ _ _ ha | readMessage _ ha =>
      rw [ha] at hunbound
      cases hunbound
  | reset => exact Or.inr (Or.inl rfl)
  | disconnect => exact Or.inr (Or.inr (Or.inl (abandon_record _ _ _).2.1))
  | connect =>
      refine Or.inl ?_
      unfold beginEstablishment
      split_ifs <;> exact (publish_record _ _).2.1

/-- A session that is bound as before has not ended. -/
theorem not_ended {e e' : Endpoint} {id : UInt64} (hid : e.activity.identifier = some id)
    (hkept : e'.activity.identifier = some id) : ¬ SessionEnded (e.toRoot s) (e'.toRoot s) := by
  rintro ⟨_, hgone | hother⟩
  · rw [show (e'.toRoot s).session.sessionIdentifierValid = 1 from
      if_pos (by rw [hkept]; rfl)] at hgone
    cases hgone
  · apply hother
    show e'.activity.identifier.getD _ = e.activity.identifier.getD _
    rw [hkept, hid]

theorem untimed_delivery {e e' : Endpoint} {call : Call}
    (hdisabled : s.config.retransmitTimeoutMs = 0) (h : Deed s e call e')
    (hdelivery : e'.lastFailure = .delivery) :
    (e.toRoot s).session.reliableState = .exhausted ∨
      e.lastFailure = .delivery ∧ ¬ SessionEnded (e.toRoot s) (e'.toRoot s) := by
  cases hid : e.activity.identifier with
  | none =>
      refine Or.inr ⟨?_, ?_⟩
      · rcases unbound_failure hid h with hkept | hother | hother | hother
        · rw [← hkept, hdelivery]
        all_goals
          rw [hother] at hdelivery
          cases hdelivery
      · rintro ⟨hvalid, _⟩
        rw [show (e.toRoot s).session.sessionIdentifierValid = 0 from
          if_neg (by rw [hid]; simp)] at hvalid
        cases hvalid
  | some id =>
      cases deed_parting h hid with
      | stays hkept hfailure =>
          refine Or.inr ⟨?_, ?_⟩
          · rcases hfailure with hsame | hnone
            · rw [← hsame, hdelivery]
            · rw [hnone] at hdelivery
              cases hdelivery
          · exact not_ended hid hkept
      | failed _ hitem hexhausted =>
          rw [timeout_waits (not_expired hdisabled _ _)] at hexhausted
          exact Or.inl ((reliableState_toRoot hitem).trans hexhausted)
      | rejected _ _ _ hother | reset _ _ hother | lost _ _ hother | peer _ _ _ _ _ hother =>
          rw [hother] at hdelivery
          cases hdelivery

theorem acceptsAck_toRoot {e : Endpoint} {item : Item} (hitem : s.item e.activity = some item)
    (hack : item.stage.acceptsAck = true) :
    (e.toRoot s).session.reliableState = .awaitingAck ∨
      (e.toRoot s).session.reliableState = .retransmitReady := by
  rw [reliableState_toRoot hitem]
  cases hstage : item.stage with
  | awaitingAck => exact Or.inl rfl
  | retransmitReady => exact Or.inr rfl
  | _ =>
      rw [hstage] at hack
      cases hack

/-- What ends a session, short of a failed delivery, releases the item. -/
theorem released_step {e : Endpoint} (hwf : e.Wf s) (hcursor : Successive s e) {call : Call}
    (h : Deed s e call (e.step s call).2) (hends : Ends s e call (e.step s call).2)
    (hfailure : (e.step s call).2.lastFailure ≠ .delivery) {id : UInt64}
    (hid : e.activity.identifier = some id) :
    SessionReleased (e.toRoot s) call ((e.step s call).2.toRoot s) := by
  by_cases hreset : call = .reset
  · subst hreset
    refine ⟨leavesReset_ended ⟨id, hid, activity_reset hid⟩, Or.inl ⟨rfl, rfl⟩⟩
  have hended : SessionEnded (e.toRoot s) ((e.step s call).2.toRoot s) := by
    cases hlink : call.reportsLinkLoss with
    | false => exact ends_ended hcursor hends hreset hlink
    | true =>
        refine ⟨if_pos (by rw [hid]; rfl), Or.inl (if_neg ?_)⟩
        rw [activity_linkLoss hlink]
        simp [Activity.identifier]
  refine ⟨hended, ?_⟩
  cases deed_parting h hid with
  | stays hkept _ => exact absurd hended (not_ended hid hkept)
  | failed _ _ _ _ hother => exact absurd hother hfailure
  | reset hcall _ _ => exact absurd hcall hreset
  | lost hlink _ hlost => exact Or.inr (Or.inl ⟨hlink, hlost⟩)
  | rejected hbody hclass _ hprotocol =>
      exact Or.inr (Or.inr ⟨Or.inr ((offersIncompatible_toRoot hwf).mpr ⟨_, hbody, hclass⟩),
        hprotocol⟩)
  | @peer body frame hbody hdecode htype hcurrent _ hprotocol =>
      refine Or.inr (Or.inr ⟨Or.inl ⟨body, frame, ?_, hdecode, htype, ?_⟩, hprotocol⟩)
      · rw [offered_toRoot, hbody]
      · show frame.sessionIdentifier = e.activity.identifier.getD _
        rw [hid, hcurrent]
        rfl

theorem untimed_step {e : Endpoint} (hwf : e.Wf s) (hcursor : Successive s e) {call : Call}
    (hdisabled : s.config.retransmitTimeoutMs = 0) (h : Deed s e call (e.step s call).2) :
    Untimed (e.toRoot s) call ((e.step s call).2.toRoot s) where
  exhausted := untimed_exhausted hdisabled h
  delivery := untimed_delivery hdisabled h
  retained := by
    intro hbusy
    cases hitem : s.item e.activity with
    | none => exact absurd (reliableState_idle hitem) hbusy
    | some item =>
        cases deed_fate hitem h with
        | kept _ hkept hidentifier => exact Or.inl (itemStays_toRoot hitem hkept hidentifier)
        | acknowledged hresolves hack =>
            exact Or.inr (Or.inl ⟨hresolves, acceptsAck_toRoot hitem hack⟩)
        | failed _ hexhausted =>
            rw [timeout_waits (not_expired hdisabled _ _)] at hexhausted
            exact Or.inr (Or.inr (Or.inr ((reliableState_toRoot hitem).trans hexhausted)))
        | ended hends _ hcause =>
            obtain ⟨id, hid⟩ := identifier_of_item hitem
            refine Or.inr (Or.inr (Or.inl (released_step hwf hcursor h hends ?_ hid)))
            intro hdelivery
            rw [hdelivery] at hcause
            rcases hcause with hother | hother | hother <;> cases hother

end Endpoint

open Endpoint

/-! ## Runs -/

/-- Without a timer an item is exhausted only by a repeated handshake frame that finds no
    retry left, a session is given up for a failed delivery only after that, and until
    then an item stays until it is acknowledged or its session ends otherwise. Where no
    frame is repeated too often, nothing fails. -/
theorem retry_timing_disabled {root : Root} (h : Reachable root)
    (hdisabled : root.base.config.retransmitTimeoutMs = 0) (calls : List Call) :
    (∀ moment ∈ moments step root calls,
      Untimed moment.1 moment.2 (step moment.1 moment.2).2) ∧
      (root.session.reliableState ≠ .exhausted →
        (∀ moment ∈ moments step root calls, ¬ Receive.asksTooOften moment.1 moment.2) →
        ∀ moment ∈ moments step root calls,
          (step moment.1 moment.2).2.session.reliableState ≠ .exhausted ∧
            ((step moment.1 moment.2).2.base.lastFailure = .delivery →
              moment.1.base.lastFailure = .delivery ∧
                ¬ SessionEnded moment.1 (step moment.1 moment.2).2)) := by
  obtain ⟨s, e, hwf, hcursor, rfl⟩ := reachable_invariant successive_initial
    (fun s e call hwf hcursor hatomic => successive_step hwf hcursor hatomic) h
  have hstep : ∀ moment ∈ moments step (e.toRoot s) calls,
      Untimed moment.1 moment.2 (step moment.1 moment.2).2 := by
    obtain ⟨hmoments, _⟩ := @run_invariant _ s (Successive s) e hwf hcursor calls
      fun _ _ _ hwf' hcursor' hatomic => successive_step hwf' hcursor' hatomic
    intro moment hmoment
    obtain ⟨e', hwf', hcursor', hatomic, heq⟩ := hmoments moment hmoment
    rw [heq, step_refines hwf']
    exact untimed_step hwf' hcursor' hdisabled (step_deed hwf' hatomic)
  refine ⟨hstep, ?_⟩
  intro hfresh hseldom
  have hnever : ∀ moment ∈ moments step (e.toRoot s) calls,
      moment.1.session.reliableState ≠ .exhausted := by
    refine @Library.visits_invariant _ _ _ step (fun root => root.session.reliableState ≠ .exhausted)
      _ _ hfresh ?_
    intro moment hmoment hnot hexhausted
    rcases (hstep moment hmoment).exhausted hexhausted with hbefore | hasks
    · exact hnot hbefore
    · exact hseldom moment hmoment hasks
  intro moment hmoment
  refine ⟨?_, ?_⟩
  · intro hexhausted
    rcases (hstep moment hmoment).exhausted hexhausted with hbefore | hasks
    · exact hnever moment hmoment hbefore
    · exact hseldom moment hmoment hasks
  · intro hdelivery
    rcases (hstep moment hmoment).delivery hdelivery with hbefore | hkept
    · exact absurd hbefore (hnever moment hmoment)
    · exact hkept

end

/-- A host without a timer and without a retry, whose CONFIRM awaits its ACK. -/
def untimedHost : Root :=
  (Library.run (@step .lp64)
    ((@Profile.rootFromContext .lp64 (@Profile.init .lp64 .zero .host
      { sampleConfig with retransmitTimeoutMs := 0, maxRetries := 0 } sampleStorage
      samplePlacement).2).get rfl)
    [.notifyLinkState .connected 0, .process 0 .normal, .peekOutput (some 64), .commitOutput 0,
      .receiveBytes (encodedFrame ⟨.response, 7, 40, sampleConfig.initialReliableSequence, []⟩),
      .process 0 .normal, .peekOutput (some 64), .commitOutput 0]).2

theorem reachable_untimedHost : @Reachable .lp64 untimedHost :=
  ⟨.zero, .host, { sampleConfig with retransmitTimeoutMs := 0, maxRetries := 0 }, sampleStorage,
    samplePlacement, _, _, _, rfl, rfl, rfl⟩

/-- The RESPONSE once more exhausts CONFIRM, and ends the session. -/
theorem untimedHost_gives_up :
    @Reachable .lp64 untimedHost ∧ untimedHost.base.config.retransmitTimeoutMs = 0 ∧
      untimedHost.session.reliableState = .awaitingAck ∧
      ∃ moment ∈ moments (@step .lp64) untimedHost
          [.receiveBytes
            (encodedFrame ⟨.response, 7, 40, sampleConfig.initialReliableSequence, []⟩),
            .process 0 .normal],
        moment.1.session.reliableState = .exhausted ∧
          SessionEnded moment.1 (@step .lp64 moment.1 moment.2).2 ∧
          (@step .lp64 moment.1 moment.2).2.base.lastFailure = .delivery := by
  refine ⟨reachable_untimedHost, by decide +kernel, by decide +kernel, ?_⟩
  unfold SessionEnded
  decide +kernel

/-- The host waits for the ACK of its CONFIRM as long as it takes. -/
theorem retry_timing_disabled_untimedHost :
    ∃ moment ∈ moments (@step .lp64) untimedHost
        [.process 0xFFFFFFFF .normal, .process 5 .normal],
      moment.2 = .process 5 .normal ∧ moment.1.session.reliableState = .awaitingAck ∧
        @Untimed .lp64 moment.1 moment.2 (@step .lp64 moment.1 moment.2).2 := by
  obtain ⟨moment, hmoment, hcall, hwaiting⟩ :
      ∃ moment ∈ moments (@step .lp64) untimedHost
          [.process 0xFFFFFFFF .normal, .process 5 .normal],
        moment.2 = .process 5 .normal ∧ moment.1.session.reliableState = .awaitingAck := by
    decide +kernel
  exact ⟨moment, hmoment, hcall, hwaiting,
    (@retry_timing_disabled .lp64 untimedHost reachable_untimedHost (by decide +kernel)
      [.process 0xFFFFFFFF .normal, .process 5 .normal]).1 moment hmoment⟩

end HilRigProtocol.Transport
