/-
  The identity of the session abandoned last.

  The record of it is never the identity of the current session: a rig does not adopt a
  recorded identity, and the identity of a host's next session is behind the recorded
  one. A frame with the recorded identity is therefore always obsolete, and an obsolete
  frame is dropped with a diagnostic, whatever the endpoint is doing.
-/
import HilRigProtocol.Transport.Reception
import HilRigProtocol.Transport.Transactional

namespace HilRigProtocol.Transport

section
variable [Target]

namespace Endpoint

variable {s : Setup}

/-! ## The record -/

/-- What the record of the last abandonment has to do with the session and the cursor. -/
structure RecordWf (s : Setup) (e : Endpoint) : Prop where
  distinct : ∀ id, e.abandoned = some id → e.activity.identifier ≠ some id
  /-- A host without a session goes on behind the recorded identity. -/
  behind : s.role = .host → ∀ id, e.abandoned = some id → e.activity.identifier = none →
    e.cursor = Session.successorIdentifier id
  /-- A recovery RESET is for the recorded session. -/
  pending : ∀ reset, e.activity.recoveryReset = some reset →
    e.abandoned = some reset.identifier

theorem recordWf_initial (s : Setup) : RecordWf s (Endpoint.initial s) where
  distinct := by
    intro id hid
    cases hid
  behind := by
    intro _ id hid
    cases hid
  pending := by
    intro reset hreset
    cases hreset

theorem recordWf_forgotten {e : Endpoint} (habandoned : e.abandoned = none)
    (hreset : e.activity.recoveryReset = none) : RecordWf s e where
  distinct := by
    intro id hid
    rw [habandoned] at hid
    cases hid
  behind := by
    intro _ id hid
    rw [habandoned] at hid
    cases hid
  pending := by
    intro reset hpending
    rw [hreset] at hpending
    cases hpending

/-- The record, the identities and the cursor stay. -/
theorem recordWf_same {e e' : Endpoint} (h : RecordWf s e)
    (hid : e'.activity.identifier = e.activity.identifier) (hcursor : e'.cursor = e.cursor)
    (habandoned : e'.abandoned = e.abandoned)
    (hreset : ∀ reset', e'.activity.recoveryReset = some reset' →
      ∃ reset, e.activity.recoveryReset = some reset ∧ reset.identifier = reset'.identifier) :
    RecordWf s e' where
  distinct := by
    intro id hold
    rw [hid]
    exact h.distinct id (habandoned ▸ hold)
  behind := by
    intro hhost id hold hnone
    rw [hcursor]
    exact h.behind hhost id (habandoned ▸ hold) (hid ▸ hnone)
  pending := by
    intro reset' hreset'
    obtain ⟨reset, hpending, hidentifier⟩ := hreset reset' hreset'
    rw [habandoned, h.pending reset hpending, hidentifier]

/-- A session is given up and recorded. -/
theorem recordWf_abandon {e e' : Endpoint} (h : RecordWf s e) (hcursor : Successive s e)
    (hnone : e'.activity.identifier = none) (hsame : e'.cursor = e.cursor)
    (habandoned : e'.abandoned = e.activity.identifier.or e.abandoned)
    (hreset : ∀ reset, e'.activity.recoveryReset = some reset →
      e.activity.identifier = some reset.identifier) : RecordWf s e' where
  distinct := by
    intro id _
    rw [hnone]
    simp
  behind := by
    intro hhost id hold _
    rw [hsame]
    rw [habandoned] at hold
    cases hid : e.activity.identifier with
    | none =>
        rw [hid, Option.none_or] at hold
        exact h.behind hhost id hold hid
    | some current =>
        rw [hid, Option.some_or] at hold
        cases hold
        exact hcursor hhost _ hid
  pending := by
    intro reset hpending
    rw [habandoned, hreset reset hpending, Option.some_or]

/-- A new attempt is named behind the record. -/
theorem recordWf_begin {e : Endpoint} (h : RecordWf s e) (hnone : e.activity.identifier = none) :
    RecordWf s (e.beginEstablishment s) := by
  unfold beginEstablishment
  by_cases hhost : s.role = .host
  · rw [if_pos hhost]
    refine ⟨?_, ?_, ?_⟩
    · intro id hold hcurrent
      have hbehind := h.behind hhost id hold hnone
      have heq : e.cursor = id := Option.some.inj hcurrent
      rw [hbehind] at heq
      exact successorIdentifier_ne id heq
    · intro _ id _ hunbound
      cases hunbound
    · intro reset hpending
      cases hpending
  · rw [if_neg hhost]
    refine ⟨?_, ?_, ?_⟩
    · intro id _ hcurrent
      cases hcurrent
    · exact fun hrole => absurd hrole hhost
    · intro reset hpending
      cases hpending

theorem recordWf_advances {e e' : Endpoint} (h : RecordWf s e) (hadvances : Advances s e e') :
    RecordWf s e' := by
  rcases hadvances with rfl | ⟨ha, rfl⟩
  · exact h
  · exact recordWf_begin h (by rw [ha]; rfl)

/-! ## What a step does to the record -/

theorem recordWf_takes {e e' : Endpoint} {frame : Frame} (h : RecordWf s e)
    (htakes : Takes s e frame e') : RecordWf s e'.release := by
  cases htakes with
  | duplicate | repeatDue =>
      exact recordWf_same h rfl rfl rfl fun reset hreset => ⟨reset, hreset, rfl⟩
  | adopt ha _ _ hne =>
      refine ⟨?_, ?_, ?_⟩
      · intro id hold hcurrent
        cases hcurrent
        exact hne hold
      · intro _ id _ hunbound
        cases hunbound
      · intro reset hpending
        cases hpending
  | repeatInitiate ha | repeatResponse ha | repeatAck ha | response ha | confirm ha
  | confirmAck ha | prove ha | delivery ha | message ha =>
      refine recordWf_same h (by rw [ha]; rfl) rfl rfl ?_
      intro reset hpending
      cases hpending

theorem recordWf_receipt {e e' : Endpoint} {offered : Option (List UInt8)} (h : RecordWf s e)
    (hcursor : Successive s e) (hreceipt : Receipt s e offered e') : RecordWf s e' := by
  cases hreceipt with
  | idle hsame _ =>
      refine recordWf_same h (by rw [hsame.activity]) hsame.cursor hsame.abandoned ?_
      intro reset hpending
      rw [hsame.activity] at hpending
      exact ⟨reset, hpending, rfl⟩
  | take _ _ _ _ htakes => exact recordWf_takes h htakes
  | reject _ _ hbarrier =>
      have ha := activity_rejectSession hbarrier
      obtain ⟨hsame, _, habandoned⟩ := rejectSession_record hbarrier
      refine recordWf_abandon h hcursor (by rw [ha]; rfl) hsame habandoned ?_
      intro reset hpending
      rw [ha] at hpending
      obtain ⟨id, hid, rfl⟩ := Option.map_eq_some_iff.mp hpending
      exact hid
  | reset _ _ hcurrent _ =>
      have hactivity : (e.abandon (.recovering none) .protocol).2.activity = .recovering none :=
        (abandon_fields _ _ _).1
      obtain ⟨hsame, _, habandoned⟩ := abandon_record e (.recovering none) .protocol
      refine recordWf_begin (recordWf_abandon h hcursor (by rw [hactivity]; rfl) hsame habandoned
        ?_) (by rw [hactivity]; rfl)
      intro reset hpending
      rw [hactivity] at hpending
      cases hpending

theorem recordWf_recovery {e e' : Endpoint} {failure : Failure} (h : RecordWf s e)
    (hcursor : Successive s e) (hactivity : e'.activity = e.activity)
    (hsame : e'.cursor = e.cursor) (habandoned : e'.abandoned = e.abandoned) :
    RecordWf s (e'.beginLocalRecovery failure).2 := by
  have ha := activity_beginLocalRecovery e' failure
  obtain ⟨hcursor', _, habandoned'⟩ :=
    abandon_record e' (.recovering (e'.activity.identifier.map fun id => ⟨id, false⟩)) failure
  refine recordWf_abandon h hcursor (by rw [ha]; rfl) (hcursor'.trans hsame) ?_ ?_
  · exact habandoned'.trans (by rw [hactivity, habandoned])
  · intro reset hpending
    rw [ha, hactivity] at hpending
    obtain ⟨id, hid, rfl⟩ := Option.map_eq_some_iff.mp hpending
    exact hid

omit [Target] in
theorem recoveryReset_mapStage (f : Stage → Stage) (a : Activity) :
    (a.mapStage f).recoveryReset = a.recoveryReset := by
  cases a <;> rfl

theorem recordWf_tick {e e' : Endpoint} {nowMs : UInt32} (h : RecordWf s e)
    (hcursor : Successive s e) (htick : Tick s e nowMs e') : RecordWf s e' := by
  cases htick with
  | idle => exact h
  | initiate ha | response ha | confirm ha =>
      refine recordWf_same h (by rw [ha]; rfl) rfl rfl ?_
      intro reset hpending
      cases hpending
  | retry | hold =>
      refine recordWf_same h (identifier_mapStage _ _) rfl rfl ?_
      intro reset hpending
      exact ⟨reset, (recoveryReset_mapStage _ _).symm.trans hpending, rfl⟩
  | fail => exact recordWf_recovery h hcursor rfl rfl rfl
  | lose => exact recordWf_recovery h hcursor rfl rfl rfl

omit [Target] in
theorem identifier_reset (e : Endpoint) : e.reset.activity.identifier = none := by
  unfold Endpoint.reset
  cases e.activity <;> rfl

/-- An explicit reset records the session that its RESET names. -/
theorem recordWf_reset {e : Endpoint} (h : RecordWf s e) (hcursor : Successive s e) :
    RecordWf s e.reset where
  distinct := by
    intro id _
    rw [identifier_reset]
    simp
  behind := by
    intro hhost id hold _
    have hold' : e.activity.notification.or e.abandoned = some id := hold
    show e.cursor = _
    cases hreset : e.activity.recoveryReset with
    | some reset =>
        have hnone : e.activity.identifier = none := by
          cases ha : e.activity <;> rw [ha] at hreset <;> first | rfl | cases hreset
        have hpending := h.pending reset hreset
        have hid : reset.identifier = id := by
          unfold Activity.notification at hold'
          rw [hreset] at hold'
          exact Option.some.inj hold'
        rw [hid] at hpending
        exact h.behind hhost id hpending hnone
    | none =>
        have hnotification : e.activity.notification = e.activity.identifier := by
          unfold Activity.notification
          rw [hreset]
        rw [hnotification] at hold'
        cases hid : e.activity.identifier with
        | none =>
            rw [hid, Option.none_or] at hold'
            exact h.behind hhost id hold' hid
        | some current =>
            rw [hid, Option.some_or] at hold'
            cases hold'
            exact hcursor hhost _ hid
  pending := by
    intro reset hpending
    have hactivity : e.reset.activity = if e.activity.linkState = .disconnected then e.activity
        else .recovering (e.activity.notification.map fun id => ⟨id, false⟩) := rfl
    show e.activity.notification.or e.abandoned = _
    rw [hactivity] at hpending
    split_ifs at hpending with hlink
    · cases ha : e.activity <;> rw [ha] at hpending hlink <;> cases hpending
      cases hlink
    · obtain ⟨id, hid, rfl⟩ := Option.map_eq_some_iff.mp hpending
      rw [hid, Option.some_or]

theorem recordWf_deed {e e' : Endpoint} {call : Call} (h : RecordWf s e)
    (hcursor : Successive s e) (hdeed : Deed s e call e') : RecordWf s e' := by
  have hsame : ∀ e' : Endpoint, e'.activity.identifier = e.activity.identifier →
      e'.cursor = e.cursor → e'.abandoned = e.abandoned →
      e'.activity.recoveryReset = e.activity.recoveryReset → RecordWf s e' := by
    intro e' hid hcursor' habandoned hreset
    refine recordWf_same h hid hcursor' habandoned ?_
    intro reset hpending
    exact ⟨reset, hreset ▸ hpending, rfl⟩
  cases hdeed with
  | idle => exact h
  | readEvent => exact hsame _ rfl rfl rfl rfl
  | work _ hwork =>
      obtain ⟨hactivity, hcursor', _, habandoned, _⟩ := recorded_fields e call
      have hrecorded : RecordWf s (e.recorded call) :=
        hsame _ (by rw [hactivity]) hcursor' habandoned (by rw [hactivity])
      have hsuccessive : Successive s (e.recorded call) := by
        intro hhost id hid
        rw [hcursor']
        exact hcursor hhost id (hactivity ▸ hid)
      cases hwork with
      | receipt hreceipt hadvances =>
          exact recordWf_advances (recordWf_receipt hrecorded hsuccessive hreceipt) hadvances
      | tick _ htick => exact recordWf_tick hrecorded hsuccessive htick
  | showReliable | commitReliable =>
      exact hsame _ (identifier_mapStage _ _) rfl rfl (recoveryReset_mapStage _ _)
  | showControl =>
      refine recordWf_same h (@item_peekControl _ s _).2 rfl rfl ?_
      intro reset' hpending
      cases ha : e.activity with
      | recovering reset =>
          rw [ha] at hpending
          obtain ⟨r, hr, rfl⟩ := Option.map_eq_some_iff.mp hpending
          exact ⟨r, hr, rfl⟩
      | _ =>
          rw [ha] at hpending
          cases hpending
  | commitControl =>
      refine recordWf_same h (@item_commitControl _ s _).2 rfl rfl ?_
      intro reset' hpending
      cases ha : e.activity <;> rw [ha] at hpending <;> cases hpending
  | submit _ _ _ ha | readMessage _ ha =>
      exact hsame _ (by rw [ha]; rfl) rfl rfl (by rw [ha]; rfl)
  | reset => exact recordWf_reset h hcursor
  | observe _ ha => exact recordWf_forgotten rfl rfl
  | disconnect =>
      refine recordWf_forgotten rfl ?_
      rw [(abandon_fields _ _ _).1]
      rfl
  | connect _ hlink =>
      obtain ⟨hactivity, _⟩ := publish_fields e (Session.linkEvent .connected)
      obtain ⟨hcursor', _, habandoned⟩ := publish_record e (Session.linkEvent .connected)
      have hnone : e.activity.identifier = none := by
        cases ha : e.activity <;> rw [ha] at hlink <;> first | rfl | cases hlink
      exact recordWf_begin (hsame _ (by rw [hactivity]) hcursor' habandoned (by rw [hactivity]))
        (by rw [hactivity, hnone])

/-- The record is kept right in every run. -/
theorem recordWf_step {e : Endpoint} {call : Call} (hwf : e.Wf s)
    (h : Successive s e ∧ RecordWf s e) (hatomic : Atomic s e call) :
    Successive s (e.step s call).2 ∧ RecordWf s (e.step s call).2 :=
  ⟨successive_step hwf h.1 hatomic, recordWf_deed h.2 h.1 (step_deed hwf hatomic)⟩

/-! ## The record of a rig with a session -/

theorem identifier_begun (hrig : s.role = .rig) (e : Endpoint) :
    (e.beginEstablishment s).activity.identifier = none := by
  unfold beginEstablishment
  rw [if_neg (by rw [hrig]; simp)]
  rfl

/-- A step that leaves a rig with a session leaves its record. -/
theorem deed_bound {e e' : Endpoint} {call : Call} (hrig : s.role = .rig)
    (h : Deed s e call e') {id : UInt64} (hid : e'.activity.identifier = some id) :
    e'.abandoned = e.abandoned := by
  have hbegun : ∀ e₁ : Endpoint, e' ≠ e₁.beginEstablishment s := by
    rintro e₁ rfl
    rw [identifier_begun hrig] at hid
    cases hid
  cases h with
  | idle | readEvent | showReliable | showControl | commitReliable | commitControl | submit
  | readMessage => rfl
  | work _ hwork =>
      obtain ⟨_, _, _, habandoned, _⟩ := recorded_fields e call
      rw [← habandoned]
      cases hwork with
      | receipt hreceipt hadvances =>
          rcases hadvances with rfl | ⟨_, heq⟩
          swap
          · exact absurd heq (hbegun _)
          cases hreceipt with
          | idle hsame _ => exact hsame.abandoned
          | take _ _ _ _ htakes => cases htakes <;> rfl
          | reject _ _ hbarrier =>
              rw [activity_rejectSession hbarrier] at hid
              cases hid
          | reset => exact absurd rfl (hbegun _)
      | tick _ htick =>
          cases htick with
          | idle | initiate | response | confirm | retry | hold => rfl
          | fail | lose =>
              rw [activity_beginLocalRecovery] at hid
              cases hid
  | reset =>
      rw [identifier_reset] at hid
      cases hid
  | observe => cases hid
  | disconnect =>
      have ha : ((e.publish (Session.linkEvent .disconnected)).2.abandon (.disconnected true)
          .linkLost).2.activity = .disconnected true := (abandon_fields _ _ _).1
      dsimp only at hid
      rw [ha] at hid
      cases hid
  | connect => exact absurd rfl (hbegun _)

/-! ## A frame with the recorded identity -/

theorem classify_recorded {e : Endpoint} (h : RecordWf s e) {frame : Frame}
    (hold : e.abandoned = some frame.sessionIdentifier) : e.classify s frame = .obsolete := by
  unfold classify
  rw [if_pos ⟨hold, h.distinct _ hold⟩]

/-- An obsolete body is dropped: only the parser, the queue and the deferred diagnostic
    are touched. -/
theorem processBody_obsolete {e : Endpoint} {body : List UInt8}
    (hv : (e.classifyBody s body).1 = .obsolete) : e.processBody s body = e.rejectObsolete := by
  unfold processBody attempt
  dsimp only
  rw [hv, if_pos (by rfl)]
  rfl

end Endpoint

/-- The root after the body in the parser has been dropped, with its diagnostic published
    or deferred. -/
def Receive.dropped (root : Root) : Status × Root :=
  let released := { root with parser.accumulated := [], parser.bodyReady := 0 }
  if root.eventCount = eventQueueCapacity then
    (.capacityExhausted, { released with receiveProtocolErrorPending := 1 })
  else
    (.ok,
      { released with
        eventQueue :=
          Function.update root.eventQueue (Events.slot root root.eventCount)
            Receive.protocolErrorEvent
        eventCount := root.eventCount + 1 })

theorem dropped_toRoot {s : Setup} {e : Endpoint} {body : List UInt8}
    (h : Attempting s e body) :
    Receive.dropped (e.toRoot s) = (e.rejectObsolete.1, e.rejectObsolete.2.toRoot s) := by
  obtain ⟨activity, cursor, mode, modeValid, failure, abandoned, diagnostic, intake, events⟩ := e
  have hi : intake = .ready body := h.intake
  have hd : diagnostic = false := h.diagnostic
  subst hi hd
  unfold Receive.dropped Endpoint.rejectObsolete Endpoint.publish
  by_cases hfull : events.count = eventQueueCapacity
  · rw [if_pos (by exact hfull)]
    dsimp only
    rw [if_pos (EventRing.full_iff.mpr hfull), EventRing.full_iff.mpr hfull]
    rfl
  · have hnot : events.full = false := by
      rw [← Bool.not_eq_true]
      exact fun hbad => hfull (EventRing.full_iff.mp hbad)
    rw [if_neg (by exact hfull)]
    dsimp only
    rw [hnot, if_neg (by simp)]
    rfl

theorem abandoned_of_valid {s : Setup} {e : Endpoint}
    (h : (e.toRoot s).recentlyAbandonedSessionIdentifierValid = 1) :
    e.abandoned = some (e.toRoot s).recentlyAbandonedSessionIdentifier := by
  unfold Endpoint.toRoot at h ⊢
  cases hold : e.abandoned with
  | none =>
      rw [hold] at h
      cases h
  | some id => rfl

theorem identifier_of_valid {s : Setup} {e : Endpoint}
    (h : (e.toRoot s).session.sessionIdentifierValid = 1) :
    e.activity.identifier = some (e.toRoot s).session.sessionIdentifier := by
  unfold Endpoint.toRoot Endpoint.toSession at h ⊢
  cases hid : e.activity.identifier with
  | none =>
      rw [hid] at h
      cases h
  | some id => rfl

open Endpoint in
/-- A valid frame with the recorded identity is dropped, whatever its type, in every state
    and also when the event queue is full; while an identity is recorded a rig's session is
    never bound to it; and the record differs from the identity of the session. -/
theorem abandoned_identity {root : Root} (h : Reachable root) (calls : List Call) :
    (∀ attempt, Attempted attempt → attempt.parser.bodyReady ≠ 0 →
      attempt.recentlyAbandonedSessionIdentifierValid = 1 → ∀ frame,
      decodeFrameView attempt.parser.accumulated attempt.codecScratchSize
          attempt.base.config.maxApplicationMessageSize = (.ok, frame, .valid) →
      frame.sessionIdentifier = attempt.recentlyAbandonedSessionIdentifier →
      Receive.processRetainedBody attempt = Receive.dropped attempt) ∧
      (∀ moment ∈ moments step root calls, moment.1.base.role = .rig →
        moment.1.recentlyAbandonedSessionIdentifierValid = 1 →
        (step moment.1 moment.2).2.session.sessionIdentifierValid = 1 →
        (step moment.1 moment.2).2.session.sessionIdentifier ≠
          moment.1.recentlyAbandonedSessionIdentifier) ∧
      (root.recentlyAbandonedSessionIdentifierValid = 1 →
        root.session.sessionIdentifierValid = 1 →
        root.recentlyAbandonedSessionIdentifier ≠ root.session.sessionIdentifier) := by
  have hreachable : ∀ {start : Root}, Reachable start → ∃ (s : Setup) (e : Endpoint), e.Wf s ∧
      (Successive s e ∧ RecordWf s e) ∧ start = e.toRoot s :=
    reachable_invariant (fun s => ⟨successive_initial s, recordWf_initial s⟩)
      fun _ _ _ hwf hboth hatomic => recordWf_step hwf hboth hatomic
  obtain ⟨s, e, hwf, hrecord, rfl⟩ := hreachable h
  refine ⟨?_, ?_, ?_⟩
  · intro attempt hattempt hready hvalid frame hdecode hid
    obtain ⟨start, hstart, hattempting⟩ := attempting_from hattempt hready
    obtain ⟨s', e', hwf', ⟨_, hrecord'⟩, heq⟩ := hreachable hstart
    obtain ⟨body, hbody, rfl⟩ := hattempting s' e' hwf' heq
    have hold : e'.abandoned = some frame.sessionIdentifier := by
      rw [hid]
      exact @abandoned_of_valid _ s' _ hvalid
    have hintake := hbody.intake
    have hverdict : (Endpoint.classifyBody s' { e' with intake := .ready body } body).1 =
        .obsolete := by
      have hdecodes : Decodes s' body frame := hdecode
      rw [classifyBody_decodes hdecodes]
      exact classify_recorded (recordWf_same hrecord' rfl rfl rfl fun reset hreset =>
        ⟨reset, hreset, rfl⟩) hold
    rw [processRetainedBody_refines hbody.wf hbody.linkState hintake hbody.diagnostic,
      processBody_obsolete hverdict, dropped_toRoot hbody]
    rfl
  · intro moment hmoment hrole hvalid hbound
    obtain ⟨hmoments, _⟩ := @run_invariant _ s (fun e => Successive s e ∧ RecordWf s e) e hwf
      hrecord calls fun _ _ _ hwf' hboth hatomic => recordWf_step hwf' hboth hatomic
    obtain ⟨e', hwf', hboth, hatomic, heq⟩ := hmoments moment hmoment
    rw [heq] at hrole hvalid hbound ⊢
    rw [step_refines hwf'] at hbound ⊢
    have hid := identifier_of_valid hbound
    have hkept := deed_bound hrole (step_deed hwf' hatomic) hid
    intro hsame
    refine (recordWf_step hwf' hboth hatomic).2.distinct _ ?_ hid
    rw [hkept, hsame]
    exact abandoned_of_valid hvalid
  · intro hvalid hbound hsame
    refine hrecord.2.distinct _ (abandoned_of_valid hvalid) ?_
    rw [hsame]
    exact identifier_of_valid hbound

end

/-- The sample host after a reset, with all but the delimiter of a late ACK. -/
def lateHost : Root :=
  (Library.run (@step .lp64) connectedHost
    [.process 0 .normal, .reset,
      .receiveBytes ((encodedFrame ⟨.ack, 7, 0, 5, []⟩).take 19)]).2

theorem reachable_lateHost : @Reachable .lp64 lateHost :=
  @reachable_run .lp64 _ reachable_connectedHost _

/-- The late ACK is dropped. -/
theorem abandoned_identity_lateHost :
    @Receive.processRetainedBody .lp64
        { lateHost with parser := (lateHost.parser.pushByte 0).2 } =
      Receive.dropped { lateHost with parser := (lateHost.parser.pushByte 0).2 } :=
  (@abandoned_identity .lp64 lateHost reachable_lateHost []).1 _
    (@Attempted.completed .lp64 _ _ reachable_lateHost (by decide +kernel)) (by decide +kernel)
    (by decide +kernel) ⟨.ack, 7, 0, 5, []⟩ (by decide +kernel) (by decide +kernel)

end HilRigProtocol.Transport
