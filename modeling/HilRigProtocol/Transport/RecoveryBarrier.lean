/-
  The RESET of an abandoned session is a barrier.

  Whatever ends a session on this side of a connected link, except the peer's own RESET,
  leaves a RESET with its identity in the control slot. Until the caller has committed
  that RESET, or the link is lost, the slot holds it, the session stays abandoned and no
  other begins.
-/
import HilRigProtocol.Transport.Published

namespace HilRigProtocol.Transport

section
variable [Target]

/-- RESET for the session `id` waits to be committed, and nothing else goes on. -/
structure BarrierUp (root : Root) (id : UInt64) : Prop where
  pending : root.recoveryResetPending = 1 ∧ root.recoveryResetSessionIdentifier = id
  control : encodeFrame (Handshake.controlFrame .reset id 0)
    root.base.config.maxApplicationMessageSize root.codecScratchSize controlOutputCapacity =
      (.ok, root.controlOutput)
  slot : root.controlOutputState = .ready ∨ root.controlOutputState = .peeked
  recovering : root.base.sessionState = .recovering ∧ root.session.state = .recovering
  unbound : root.session.sessionIdentifierValid = 0
  connected : root.base.linkState = .connected

/-- The call resolves a RESET of the current session. -/
def Receive.offersReset (root : Root) (call : Call) : Prop :=
  ∃ body frame, Receive.offered root call = some body ∧
    decodeFrameView body root.codecScratchSize root.base.config.maxApplicationMessageSize =
      (.ok, frame, .valid) ∧
    frame.type = .reset ∧ frame.sessionIdentifier = root.session.sessionIdentifier

/-- The current session of `before` is gone in `after`. -/
def SessionEnded (before after : Root) : Prop :=
  before.session.sessionIdentifierValid = 1 ∧
    (after.session.sessionIdentifierValid = 0 ∨
      after.session.sessionIdentifier ≠ before.session.sessionIdentifier)

/-- The caller reports the loss of the link. -/
def Call.reportsLinkLoss : Call → Bool
  | .notifyLinkState .disconnected _ => true
  | _ => false

/-- The session ends on this side of the link. -/
def EndsLocally (before : Root) (call : Call) : Prop :=
  SessionEnded before (step before call).2 ∧ call.reportsLinkLoss = false ∧
    ¬ Receive.offersReset before call

/-- The call commits the pinned output, or reports the loss of the link. -/
def liftsBarrier (before : Root) (call : Call) : Bool :=
  match call with
  | .commitOutput _ => (step before call).1.status == .ok
  | _ => call.reportsLinkLoss

/-- Between `before` and `after` no session was given up and none was begun. -/
structure NothingBegun (before after : Root) (call : Call) : Prop where
  noReset : ∀ event ∈ Events.published before after, event.type ≠ .sessionReset
  cursor : after.session.nextHostSessionIdentifier = before.session.nextHostSessionIdentifier
  /-- An explicit reset records itself; nothing else records an abandonment. -/
  unrecorded : call ≠ .reset →
    after.base.lastFailure = before.base.lastFailure ∧
      after.recentlyAbandonedSessionIdentifier = before.recentlyAbandonedSessionIdentifier ∧
      after.recentlyAbandonedSessionIdentifierValid =
        before.recentlyAbandonedSessionIdentifierValid

namespace Endpoint

variable {s : Setup}

/-! ## What ends a session -/

theorem identifier_takes {e e' : Endpoint} {frame : Frame} (h : Takes s e frame e')
    {id : UInt64} (hid : e.activity.identifier = some id) :
    e'.activity.identifier = some id := by
  cases h with
  | duplicate => exact hid
  | repeatDue => exact hid
  | adopt ha =>
      rw [ha] at hid
      cases hid
  | repeatInitiate ha | repeatResponse ha | repeatAck ha | response ha | confirm ha
  | confirmAck ha | prove ha | delivery ha | message ha =>
      rw [ha] at hid
      exact hid

theorem advances_bound {e e' : Endpoint} (h : Advances s e e')
    (hne : e.activity ≠ .recovering none) : e' = e := by
  rcases h with rfl | ⟨ha, _⟩
  · rfl
  · exact absurd ha hne

omit [Target] in
theorem identifier_recorded (e : Endpoint) (call : Call) :
    (e.recorded call).activity = e.activity :=
  (recorded_fields e call).1

omit [Target] in
theorem activity_beginLocalRecovery (e : Endpoint) (failure : Failure) :
    (e.beginLocalRecovery failure).2.activity =
      .recovering (e.activity.identifier.map fun id => ⟨id, false⟩) :=
  (abandon_fields _ _ _).1

omit [Target] in
theorem activity_rejectSession {e : Endpoint} (h : ∀ reset, e.activity ≠ .recovering (some reset)) :
    e.rejectSession.2.activity =
      .recovering (e.activity.identifier.map fun id => ⟨id, false⟩) := by
  rw [rejectSession_recover h]
  show ((e.publish Receive.protocolErrorEvent).2.beginLocalRecovery .protocol).2.activity = _
  rw [activity_beginLocalRecovery, (publish_fields e _).1]

omit [Target] in
theorem publish_record (e : Endpoint) (event : Event) :
    (e.publish event).2.cursor = e.cursor ∧ (e.publish event).2.lastFailure = e.lastFailure ∧
      (e.publish event).2.abandoned = e.abandoned := by
  unfold publish
  split_ifs <;> exact ⟨rfl, rfl, rfl⟩

omit [Target] in
theorem abandon_record (e : Endpoint) (next : Activity) (failure : Failure) :
    (e.abandon next failure).2.cursor = e.cursor ∧
      (e.abandon next failure).2.lastFailure = failure ∧
      (e.abandon next failure).2.abandoned = e.activity.identifier.or e.abandoned :=
  publish_record _ _

omit [Target] in
theorem rejectSession_record {e : Endpoint} (h : ∀ reset, e.activity ≠ .recovering (some reset)) :
    e.rejectSession.2.cursor = e.cursor ∧ e.rejectSession.2.lastFailure = .protocol ∧
      e.rejectSession.2.abandoned = e.activity.identifier.or e.abandoned := by
  obtain ⟨hactivity, _⟩ := publish_fields e Receive.protocolErrorEvent
  obtain ⟨hcursor, _, habandoned⟩ := publish_record e Receive.protocolErrorEvent
  obtain ⟨hcursor', hfailure, habandoned'⟩ :=
    abandon_record (e.publish Receive.protocolErrorEvent).2
      (.recovering ((e.publish Receive.protocolErrorEvent).2.activity.identifier.map
        fun id => ⟨id, false⟩)) .protocol
  rw [rejectSession_recover h]
  exact ⟨hcursor'.trans hcursor, hfailure, habandoned'.trans (by rw [hactivity, habandoned])⟩

omit [Target] in
/-- A session that is given up by an explicit reset. -/
theorem activity_reset {e : Endpoint} {id : UInt64} (hid : e.activity.identifier = some id) :
    e.reset.activity = .recovering (some ⟨id, false⟩) := by
  unfold Endpoint.reset
  cases ha : e.activity <;> rw [ha] at hid <;> cases hid <;> rfl

theorem activity_linkLoss {e : Endpoint} {call : Call} (h : call.reportsLinkLoss = true) :
    (e.step s call).2.activity = .disconnected true := by
  cases call with
  | notifyLinkState linkState nowMs =>
      cases linkState with
      | disconnected =>
          show (e.notifyLinkState s .disconnected).2.activity = _
          unfold notifyLinkState
          cases ha : e.activity with
          | disconnected observed => cases observed <;> first | rfl | exact ha
          | _ => exact (abandon_fields _ _ _).1
      | _ => cases h
  | _ => cases h

variable (s) in
/-- What becomes of the session `id`, and why. -/
inductive Parting (e : Endpoint) (call : Call) (id : UInt64) (e' : Endpoint) : Prop
  | stays : e'.activity.identifier = some id →
      e'.lastFailure = e.lastFailure ∨ e'.lastFailure = .none → Parting e call id e'
  | rejected {body : List UInt8} : e.offered call = some body →
      (e.classifyBody s body).1 = .incompatible →
      e'.activity = .recovering (some ⟨id, false⟩) → e'.lastFailure = .protocol →
      Parting e call id e'
  | failed {nowMs : UInt32} {operatingMode : OperatingMode} {item : Item} :
      call = .process nowMs operatingMode → s.item e.activity = some item →
      (timeout s nowMs item.stage).state = .exhausted →
      e'.activity = .recovering (some ⟨id, false⟩) → e'.lastFailure = .delivery →
      Parting e call id e'
  | reset : call = .reset → e'.activity = .recovering (some ⟨id, false⟩) →
      e'.lastFailure = .localReset → Parting e call id e'
  | lost : call.reportsLinkLoss = true → e'.activity = .disconnected true →
      e'.lastFailure = .linkLost → Parting e call id e'
  | peer {body : List UInt8} {frame : Frame} : e.offered call = some body →
      Decodes s body frame → frame.type = .reset → frame.sessionIdentifier = id →
      (e'.activity = .waitingForInitiate ∨ ∃ next, e'.activity = .initiatePending next) →
      e'.lastFailure = .protocol → Parting e call id e'

theorem classifyBody_recorded (e : Endpoint) (call : Call) (body : List UInt8) :
    (e.recorded call).classifyBody s body = e.classifyBody s body := by
  unfold recorded
  split
  · split_ifs <;> rfl
  · rfl

theorem receipt_parting {e e₀ e' : Endpoint} {call : Call} {id : UInt64}
    (hactivity : e₀.activity = e.activity) (hfailure : e₀.lastFailure = e.lastFailure)
    (hid : e.activity.identifier = some id)
    (hclass : ∀ body, e₀.classifyBody s body = e.classifyBody s body)
    (h : Receipt s e₀ (e.offered call) e') :
    Parting s e call id e' ∧ e'.activity ≠ .recovering none := by
  have hid' : e₀.activity.identifier = some id := by rw [hactivity, hid]
  cases h with
  | idle hsame _ =>
      have hkept := hsame.activity.trans hactivity
      refine ⟨.stays (by rw [hkept, hid]) (Or.inl (hsame.lastFailure.trans hfailure)), ?_⟩
      rw [hkept]
      intro ha
      rw [ha] at hid
      cases hid
  | @take _ _ e₁ _ _ _ _ htakes =>
      have hkept := identifier_takes htakes hid'
      refine ⟨.stays hkept ?_, ?_⟩
      · rw [← hfailure]
        cases htakes <;> first | exact Or.inl rfl | exact Or.inr rfl
      · intro ha
        have ha' : e₁.activity = .recovering none := ha
        rw [ha'] at hkept
        cases hkept
  | reject hbody hincompatible hbarrier =>
      have ha := activity_rejectSession hbarrier
      rw [hid'] at ha
      rw [hclass] at hincompatible
      refine ⟨.rejected hbody hincompatible ha (rejectSession_record hbarrier).2.1, ?_⟩
      rw [ha]
      simp
  | reset hbody hdecode hcurrent htype =>
      rw [hid'] at hcurrent
      refine ⟨.peer hbody hdecode htype (Option.some.inj hcurrent).symm ?_ ?_, ?_⟩
      · unfold beginEstablishment
        split_ifs
        · exact Or.inr ⟨_, rfl⟩
        · exact Or.inl rfl
      · unfold beginEstablishment
        split_ifs <;> exact (abandon_record _ _ _).2.1
      · unfold beginEstablishment
        split_ifs <;> simp

theorem tick_parting {e e₀ e' : Endpoint} {nowMs : UInt32} {operatingMode : OperatingMode}
    {id : UInt64} (hactivity : e₀.activity = e.activity)
    (hfailure : e₀.lastFailure = e.lastFailure) (hid : e.activity.identifier = some id)
    (h : Tick s e₀ nowMs e') : Parting s e (.process nowMs operatingMode) id e' := by
  have hid' : e₀.activity.identifier = some id := by rw [hactivity, hid]
  have hrecovery : ∀ e₁ : Endpoint, e₁.activity = e.activity →
      (e₁.beginLocalRecovery .delivery).2.activity = .recovering (some ⟨id, false⟩) := by
    intro e₁ ha
    rw [activity_beginLocalRecovery, ha, hid]
    rfl
  cases h with
  | idle => exact .stays hid' (Or.inl hfailure)
  | initiate ha | response ha | confirm ha =>
      rw [ha] at hid'
      exact .stays hid' (Or.inl hfailure)
  | retry | hold =>
      refine .stays ?_ (Or.inl hfailure)
      rw [identifier_mapStage, hid']
  | @fail id' x payload stage ha hout hexhausted _ =>
      have hitem : s.item e.activity =
          some ⟨Application.applicationFrame id' x.nextTransmit payload, stage⟩ := by
        rw [← hactivity, ha, item_established, hout]
        rfl
      exact .failed rfl hitem hexhausted (hrecovery _ hactivity) (abandon_record _ _ _).2.1
  | lose _ hitem hexhausted =>
      rw [hactivity] at hitem
      exact .failed rfl hitem hexhausted (hrecovery _ hactivity) (abandon_record _ _ _).2.1

/-- A session stays, or it ends for one of five reasons. -/
theorem deed_parting {e e' : Endpoint} {call : Call} (h : Deed s e call e') {id : UInt64}
    (hid : e.activity.identifier = some id) : Parting s e call id e' := by
  cases h with
  | idle | readEvent => exact .stays hid (Or.inl rfl)
  | work _ hwork =>
      obtain ⟨hactivity, _, hfailure, _⟩ := recorded_fields e call
      cases hwork with
      | receipt hreceipt hadvances =>
          obtain ⟨hparting, hnot⟩ := receipt_parting hactivity hfailure hid
            (fun body => classifyBody_recorded e call body) hreceipt
          rw [advances_bound hadvances hnot]
          exact hparting
      | tick hcall htick =>
          subst hcall
          exact tick_parting hactivity hfailure hid htick
  | showReliable | commitReliable =>
      refine .stays ?_ (Or.inl rfl)
      show (e.activity.mapStage _).identifier = some id
      rw [identifier_mapStage, hid]
  | showControl =>
      refine .stays ?_ (Or.inl rfl)
      show e.activity.peekControl.identifier = some id
      cases ha : e.activity <;> rw [ha] at hid <;> exact hid
  | commitControl =>
      refine .stays ?_ (Or.inl rfl)
      show e.activity.commitControl.identifier = some id
      cases ha : e.activity <;> rw [ha] at hid <;> exact hid
  | submit _ _ _ ha | readMessage _ ha =>
      rw [ha] at hid
      exact .stays hid (Or.inl rfl)
  | reset hcall => exact .reset hcall (activity_reset hid) rfl
  | observe _ ha =>
      rw [ha] at hid
      cases hid
  | disconnect hcall =>
      exact .lost (by rw [hcall]; rfl) (abandon_fields _ _ _).1 (abandon_record _ _ _).2.1
  | connect _ hlink =>
      cases ha : e.activity <;> rw [ha] at hid hlink <;> cases hid <;> cases hlink

/-! ## What happens behind the barrier -/

/-- Nothing that can happen behind the barrier passes it, and no event reports another
    abandonment. -/
theorem deed_barrier {e e' : Endpoint} {call : Call} (hwf : e.events.Wf) (h : Deed s e call e')
    {id : UInt64} {pinned : Bool} (ha : e.activity = .recovering (some ⟨id, pinned⟩))
    (hcommit : ∀ nowMs, call = .commitOutput nowMs → pinned = false)
    (hlink : call.reportsLinkLoss = false) :
    (∃ pinned, e'.activity = .recovering (some ⟨id, pinned⟩)) ∧ e'.cursor = e.cursor ∧
      (call ≠ .reset → e'.lastFailure = e.lastFailure ∧ e'.abandoned = e.abandoned) ∧
      ∀ event ∈ e'.events.contents.drop e.events.contents.length,
        event = Receive.protocolErrorEvent := by
  have hnothing : ∀ event ∈ e.events.contents.drop e.events.contents.length,
      event = Receive.protocolErrorEvent := by
    rw [List.drop_length]
    intro event hmem
    cases hmem
  cases h with
  | idle => exact ⟨⟨pinned, ha⟩, rfl, fun _ => ⟨rfl, rfl⟩, hnothing⟩
  | readEvent _ hcount =>
      refine ⟨⟨pinned, ha⟩, rfl, fun _ => ⟨rfl, rfl⟩, ?_⟩
      rw [EventRing.contents_pop hcount, List.drop_eq_nil_of_le (by simp)]
      intro event hmem
      cases hmem
  | work hcall hwork =>
      have hrecorded : (e.recorded call).activity = .recovering (some ⟨id, pinned⟩) := by
        rw [identifier_recorded, ha]
      obtain ⟨_, hcursor, hfailure, habandoned, hevents⟩ := recorded_fields e call
      cases hwork with
      | receipt hreceipt hadvances =>
          cases hreceipt with
          | @idle e₁ hsame hdiagnosed =>
              have hkept := hsame.activity.trans hrecorded
              rw [advances_bound hadvances (by rw [hkept]; simp)]
              rw [← hevents] at hwf
              obtain ⟨events, hadds, hall⟩ := adds_diagnosed hwf hdiagnosed
              rw [Adds, hevents] at hadds
              refine ⟨⟨pinned, hkept⟩, hsame.cursor.trans hcursor,
                fun _ => ⟨hsame.lastFailure.trans hfailure, hsame.abandoned.trans habandoned⟩, ?_⟩
              rw [hadds, List.drop_left]
              exact hall
          | take _ _ _ _ htakes =>
              cases htakes with
              | repeatDue hdue =>
                  rcases hdue with ⟨hother, _⟩ | ⟨hother, _⟩ <;>
                    (rw [hrecorded] at hother; cases hother)
              | duplicate hother | adopt hother | repeatInitiate hother | repeatResponse hother
              | repeatAck hother | response hother | confirm hother | confirmAck hother
              | prove hother | delivery hother | message hother =>
                  rw [hrecorded] at hother
                  cases hother
          | reject _ _ hbarrier => exact absurd hrecorded (hbarrier _)
          | reset _ _ hcurrent =>
              rw [hrecorded] at hcurrent
              cases hcurrent
      | tick _ htick =>
          cases htick with
          | idle =>
              refine ⟨⟨pinned, hrecorded⟩, hcursor, fun _ => ⟨hfailure, habandoned⟩, ?_⟩
              rw [hevents]
              exact hnothing
          | initiate hother | response hother | confirm hother | hold hother | fail hother =>
              rw [hrecorded] at hother
              cases hother
          | retry hitem =>
              rw [hrecorded] at hitem
              cases hitem
          | lose hstate =>
              rw [hrecorded] at hstate
              cases hstate
  | showReliable _ _ hitem | commitReliable _ hitem =>
      rw [ha] at hitem
      cases hitem
  | showControl =>
      refine ⟨⟨true, ?_⟩, rfl, fun _ => ⟨rfl, rfl⟩, hnothing⟩
      show e.activity.peekControl = _
      rw [ha]
      rfl
  | commitControl hcall _ hitem hpinned =>
      have hfree := hcommit _ hcall
      rw [ha] at hitem
      cases hitem
      rw [show pinned = true from hpinned] at hfree
      cases hfree
  | submit _ _ _ hother | readMessage _ hother | observe _ hother =>
      rw [ha] at hother
      cases hother
  | reset hcall =>
      refine ⟨⟨false, ?_⟩, rfl, fun hne => absurd hcall hne, ?_⟩
      · unfold Endpoint.reset
        rw [ha]
        rfl
      · rw [show e.reset.events.contents = [] from rfl, List.drop_nil]
        intro event hmem
        cases hmem
  | disconnect hcall =>
      rw [hcall] at hlink
      cases hlink
  | connect _ hother =>
      rw [ha] at hother
      cases hother

/-! ## The barrier of a root -/

theorem barrierUp_toRoot {e : Endpoint} (h : e.Wf s) {id : UInt64} :
    BarrierUp (e.toRoot s) id ↔ ∃ pinned, e.activity = .recovering (some ⟨id, pinned⟩) := by
  constructor
  · intro hup
    obtain ⟨hpending, hid⟩ := hup.pending
    cases ha : e.activity with
    | recovering reset =>
        cases reset with
        | some reset =>
            obtain ⟨identifier, pinned⟩ := reset
            have hsame : (e.toRoot s).recoveryResetSessionIdentifier = identifier := by
              unfold toRoot
              rw [ha]
              rfl
            rw [hsame] at hid
            rw [hid]
            exact ⟨pinned, rfl⟩
        | none =>
            unfold toRoot at hpending
            rw [ha] at hpending
            cases hpending
    | _ =>
        unfold toRoot at hpending
        rw [ha] at hpending
        cases hpending
  · rintro ⟨pinned, ha⟩
    have hvalid := h.activity
    rw [ha] at hvalid
    have hframe := @validateFrame_controlFrame .reset id 0 (Or.inr ⟨rfl, rfl⟩) (hvalid _ rfl)
      s.config.maxApplicationMessageSize
    have hencode := encodeFrame_control s rfl hframe
    unfold toRoot toSession
    rw [ha]
    exact
      { pending := ⟨rfl, rfl⟩
        control := hencode
        slot := by cases pinned <;> simp [Activity.controlItem]
        recovering := ⟨rfl, rfl⟩
        unbound := rfl
        connected := rfl }

end Endpoint

open Endpoint

variable {s : Setup}

/-- A call that does not lift the barrier. -/
theorem barrier_step {e : Endpoint} (h : e.Wf s) {call : Call} (hatomic : Atomic s e call)
    {id : UInt64} (hup : BarrierUp (e.toRoot s) id)
    (hlift : liftsBarrier (e.toRoot s) call = false) :
    BarrierUp (step (e.toRoot s) call).2 id ∧
      NothingBegun (e.toRoot s) (step (e.toRoot s) call).2 call := by
  obtain ⟨pinned, ha⟩ := (barrierUp_toRoot h).mp hup
  have hnext := wf_step h call
  rw [step_refines h]
  dsimp only
  have hlink : call.reportsLinkLoss = false := by
    cases call <;> first | rfl | exact hlift
  have hcommit : ∀ nowMs, call = .commitOutput nowMs → pinned = false := by
    rintro nowMs rfl
    by_contra hpinned
    rw [Bool.not_eq_false] at hpinned
    unfold liftsBarrier at hlift
    rw [step_refines h] at hlift
    have hcommitted : e.commitOutput s nowMs =
        (.ok, { e with activity := e.activity.commitControl }) := by
      unfold commitOutput reliablePinned controlPinned
      rw [ha, hpinned]
      rfl
    have hok : (e.step s (.commitOutput nowMs)).1.status = .ok := by
      show (e.commitOutput s nowMs).1 = .ok
      rw [hcommitted]
    rw [hok] at hlift
    cases hlift
  obtain ⟨hbarrier, hcursor, hrecord, hevents⟩ :=
    deed_barrier h.events (step_deed h hatomic) ha hcommit hlink
  refine ⟨(barrierUp_toRoot hnext).mpr hbarrier, ?_, hcursor, ?_⟩
  · intro event hmem
    rw [hevents event hmem]
    simp [Receive.protocolErrorEvent]
  · intro hne
    obtain ⟨hfailure, habandoned⟩ := hrecord hne
    refine ⟨hfailure, ?_, ?_⟩
    · show (e.step s call).2.abandoned.getD _ = e.abandoned.getD _
      rw [habandoned]
    · show (if (e.step s call).2.abandoned.isSome then (1 : UInt8) else 0) = _
      rw [habandoned]
      rfl

/-- A session that ends on this side. -/
theorem ends_step {e : Endpoint} (h : e.Wf s) {call : Call} (hatomic : Atomic s e call)
    (hends : EndsLocally (e.toRoot s) call ∨
      call = .reset ∧ (e.toRoot s).session.sessionIdentifierValid = 1) :
    BarrierUp (step (e.toRoot s) call).2 (e.toRoot s).session.sessionIdentifier := by
  have hvalid : (e.toRoot s).session.sessionIdentifierValid = 1 := by
    rcases hends with hends | hreset
    · exact hends.1.1
    · exact hreset.2
  obtain ⟨id, hid⟩ : ∃ id, e.activity.identifier = some id := by
    rw [← Option.isSome_iff_exists]
    by_contra hnone
    have hzero : (e.toRoot s).session.sessionIdentifierValid = 0 := if_neg hnone
    rw [hzero] at hvalid
    cases hvalid
  have hcurrent : (e.toRoot s).session.sessionIdentifier = id := by
    show e.activity.identifier.getD sessionSeedInvalid = id
    rw [hid]
    rfl
  have hnext := wf_step h call
  rw [hcurrent, step_refines h]
  dsimp only
  rw [barrierUp_toRoot hnext]
  rcases hends with ⟨hended, hlink, hpeer⟩ | ⟨rfl, _⟩
  · rcases deed_parting (step_deed h hatomic) hid with
      ⟨hkept, _⟩ | ⟨_, _, hleft, _⟩ | ⟨_, _, _, hleft, _⟩ | ⟨_, hleft, _⟩ | ⟨hlost, _⟩ |
        ⟨hbody, hdecode, htype, hsame, _, _⟩
    · -- The identity is still there, so the session has not ended.
      exfalso
      rw [step_refines h] at hended
      have hstill : ((e.step s call).2.toRoot s).session.sessionIdentifierValid = 1 :=
        if_pos (by rw [hkept]; rfl)
      have hsame : ((e.step s call).2.toRoot s).session.sessionIdentifier = id := by
        show (e.step s call).2.activity.identifier.getD sessionSeedInvalid = id
        rw [hkept]
        rfl
      rcases hended.2 with hgone | hother
      · rw [hstill] at hgone
        cases hgone
      · rw [hsame, hcurrent] at hother
        exact hother rfl
    · exact ⟨false, hleft⟩
    · exact ⟨false, hleft⟩
    · exact ⟨false, hleft⟩
    · rw [hlink] at hlost
      cases hlost
    · refine absurd ⟨_, _, ?_, hdecode, htype, ?_⟩ hpeer
      · rw [offered_toRoot, hbody]
      · rw [hcurrent, hsame]
  · exact ⟨false, activity_reset hid⟩

/-! ## Runs -/

/-- In every run, a session that ends on this side of the link, by incompatible traffic,
    by exhausted retries or by an explicit reset, leaves its RESET pending; and from a
    pending RESET on, as long as it is neither committed nor the link lost, the control
    slot holds that RESET, no session is given up and none begins. -/
theorem recovery_reset_barrier {root : Root} (h : Reachable root) (calls : List Call) :
    (∀ moment ∈ moments step root calls,
      EndsLocally moment.1 moment.2 ∨
          moment.2 = .reset ∧ moment.1.session.sessionIdentifierValid = 1 →
        BarrierUp (step moment.1 moment.2).2 moment.1.session.sessionIdentifier) ∧
      ∀ id, BarrierUp root id →
        (∀ moment ∈ moments step root calls, liftsBarrier moment.1 moment.2 = false) →
        ∀ moment ∈ moments step root calls,
          BarrierUp moment.1 id ∧ BarrierUp (step moment.1 moment.2).2 id ∧
            NothingBegun moment.1 (step moment.1 moment.2).2 moment.2 := by
  obtain ⟨s, e, hwf, _, rfl⟩ := reachable_endpoint h
  refine ⟨?_, ?_⟩
  · intro moment hmoment hends
    obtain ⟨e', hwf', hatomic, heq⟩ := moment_endpoint hwf hmoment
    rw [heq] at hends ⊢
    exact ends_step hwf' hatomic hends
  · intro id hup hlift
    have hstep : ∀ moment ∈ moments step (e.toRoot s) calls, BarrierUp moment.1 id →
        BarrierUp (step moment.1 moment.2).2 id ∧
          NothingBegun moment.1 (step moment.1 moment.2).2 moment.2 := by
      intro moment hmoment hup
      have hkeeps := hlift moment hmoment
      obtain ⟨e', hwf', hatomic, heq⟩ := moment_endpoint hwf hmoment
      rw [heq] at hup hkeeps ⊢
      exact barrier_step hwf' hatomic hup hkeeps
    have hall : ∀ moment ∈ moments step (e.toRoot s) calls, BarrierUp moment.1 id :=
      @Library.visits_invariant _ _ _ step (fun root => BarrierUp root id) _ _ hup
        fun moment hmoment hup => (hstep moment hmoment hup).1
    intro moment hmoment
    exact ⟨hall moment hmoment, hstep moment hmoment (hall moment hmoment)⟩

end

/-- The sample host, reset while it waits for RESPONSE. -/
def resetHost : Root :=
  (Library.run (@step .lp64) connectedHost [.process 0 .normal, .reset]).2

theorem reachable_resetHost : @Reachable .lp64 resetHost :=
  @reachable_run .lp64 _ reachable_connectedHost _

theorem recovery_reset_barrier_resetHost :
    @BarrierUp .lp64 resetHost 7 ∧
      ∀ moment ∈ moments (@step .lp64) resetHost
          [.peekOutput (some 64), .receiveBytes [1, 0], .reset, .process 9 .normal],
        @BarrierUp .lp64 moment.1 7 := by
  have hup : @BarrierUp .lp64 resetHost 7 :=
    @BarrierUp.mk .lp64 _ _ (by decide +kernel) (by decide +kernel) (by decide +kernel)
      (by decide +kernel) (by decide +kernel) (by decide +kernel)
  refine ⟨hup, ?_⟩
  intro moment hmoment
  exact ((@recovery_reset_barrier .lp64 resetHost reachable_resetHost
    [.peekOutput (some 64), .receiveBytes [1, 0], .reset, .process 9 .normal]).2 7 hup
      (by decide +kernel) moment hmoment).1

end HilRigProtocol.Transport
