/-
  Sessions one after another.

  A session ends when both links go down, when one side is reset, or when a message has
  exhausted its retries; its sender is told so. In each case both sides leave the session,
  and the next handshake is as good as the first. From any two states that calls can lead
  to, all episodes therefore go through as they should.
-/
import HilRigProtocol.Transport.Completion

namespace HilRigProtocol.Transport

section
variable [Target] {s : Setup} {record : Option UInt64} {events : List Event} {root : Root}
  {id : UInt64}

/-! ## The link -/

/-- Without a link there is no record of a session. -/
def Endpoint.Unlinked (e : Endpoint) : Prop :=
  e.activity.linkState = .disconnected → e.abandoned = none

omit [Target] in
theorem unlinked_connected {e : Endpoint} (h : e.activity.linkState = .connected) :
    e.Unlinked := by
  intro hdown
  rw [h] at hdown
  cases hdown

omit [Target] in
theorem unlinked_same {e e' : Endpoint} (h : e.Unlinked)
    (hlink : e'.activity.linkState = e.activity.linkState)
    (habandoned : e'.abandoned = e.abandoned) : e'.Unlinked := by
  intro hdown
  rw [habandoned]
  exact h (hlink.symm.trans hdown)

theorem unlinked_receipt {e e' : Endpoint} {offered : Option (List UInt8)} (h : e.Unlinked)
    (hreceipt : Endpoint.Receipt s e offered e') : e'.Unlinked := by
  cases hreceipt with
  | idle hsame _ => exact unlinked_same h (by rw [hsame.activity]) hsame.abandoned
  | take _ _ _ _ htakes =>
      cases htakes with
      | duplicate | repeatDue => exact unlinked_same h rfl rfl
      | _ => exact unlinked_connected rfl
  | reject _ _ hbarrier =>
      refine unlinked_connected ?_
      rw [Endpoint.activity_rejectSession hbarrier]
      rfl
  | reset => exact unlinked_connected (Endpoint.linkState_beginEstablishment _)

theorem unlinked_tick {e e' : Endpoint} {nowMs : UInt32} (h : e.Unlinked)
    (htick : Endpoint.Tick s e nowMs e') : e'.Unlinked := by
  cases htick with
  | idle => exact h
  | initiate | response | confirm => exact unlinked_connected rfl
  | retry | hold => exact unlinked_same h (Activity.linkState_mapStage _ _) rfl
  | fail | lose => exact unlinked_connected (Endpoint.beginLocalRecovery_fields _ _).1

omit [Target] in
theorem unlinked_reset {e : Endpoint} (h : e.Unlinked) : e.reset.Unlinked := by
  unfold Endpoint.reset Endpoint.Unlinked
  dsimp only
  by_cases hlink : e.activity.linkState = .disconnected
  · rw [if_pos hlink, h hlink]
    cases ha : e.activity <;> rw [ha] at hlink <;> first | exact fun _ => rfl | cases hlink
  · rw [if_neg hlink]
    intro hdown
    cases hdown

theorem unlinked_deed {e e' : Endpoint} {call : Call} (h : e.Unlinked)
    (hdeed : Endpoint.Deed s e call e') : e'.Unlinked := by
  cases hdeed with
  | idle => exact h
  | readEvent => exact unlinked_same h rfl rfl
  | work _ hwork =>
      obtain ⟨hactivity, _, _, habandoned, _⟩ := Endpoint.recorded_fields e call
      have hrecorded : (e.recorded call).Unlinked :=
        unlinked_same h (by rw [hactivity]) habandoned
      cases hwork with
      | receipt hreceipt hadvances =>
          rcases hadvances with rfl | ⟨_, rfl⟩
          · exact unlinked_receipt hrecorded hreceipt
          · exact unlinked_connected (Endpoint.linkState_beginEstablishment _)
      | tick _ htick => exact unlinked_tick hrecorded htick
  | showReliable | commitReliable => exact unlinked_same h (Activity.linkState_mapStage _ _) rfl
  | showControl => exact unlinked_same h (Endpoint.linkState_peekControl _) rfl
  | commitControl => exact unlinked_same h (Endpoint.linkState_commitControl _) rfl
  | submit | readMessage => exact unlinked_connected rfl
  | reset => exact unlinked_reset h
  | observe | disconnect => exact fun _ => rfl
  | connect => exact unlinked_connected (Endpoint.linkState_beginEstablishment _)

theorem unlinked_step {e : Endpoint} {call : Call} (hwf : e.Wf s) (h : e.Unlinked)
    (hatomic : Endpoint.Atomic s e call) : (e.step s call).2.Unlinked :=
  unlinked_deed h (Endpoint.step_deed hwf hatomic)

variable {a : Activity}

theorem few_rests (h : Rests s record a events root) : events.length ≤ eventQueueCapacity := by
  obtain ⟨e, -, he⟩ := h
  rw [← he.events, EventRing.length_contents]
  exact he.wf.events.count_le

theorem rests_readNothing (h : Rests s record a [] root) :
    Rests s record a [] (step root .readEvent).2 := by
  refine (rests_step h .readEvent (.ofStatus .notReady) record a [] ?_).2
  intro e he
  have hcount : e.events.count = 0 := by
    rw [← EventRing.length_contents, he.events]
    rfl
  refine ⟨e, ?_, he.activity, he.intake, he.diagnostic, he.abandoned, he.events⟩
  unfold Endpoint.step Endpoint.readEvent
  dsimp only
  rw [if_pos hcount]
  rfl

theorem rests_readEvents (h : Rests s record a events root) (n : Nat) :
    Rests s record a (events.drop n) (Library.run step root (List.replicate n .readEvent)).2 := by
  induction n generalizing events root with
  | zero => exact h
  | succ n ih =>
      rw [List.replicate_succ, Library.run_cons]
      cases events with
      | nil =>
          have hrest := ih (rests_readNothing h)
          rw [List.drop_nil] at hrest ⊢
          exact hrest
      | cons event rest => exact ih (rests_readEvent h).2

theorem step_linkLost {e : Endpoint} (hwf : e.Wf s) (hunlinked : e.Unlinked) :
    ∃ status e', e.step s (.notifyLinkState .disconnected 0) = (.ofStatus status, e') ∧
      e'.activity = .disconnected true ∧ e'.intake = .filling [] ∧
      e'.diagnosticPending = false ∧ e'.abandoned = none := by
  unfold Endpoint.step Endpoint.notifyLinkState
  cases ha : e.activity with
  | disconnected observed =>
      have hdown : e.activity.linkState = .disconnected := by
        rw [ha]
        rfl
      obtain ⟨hintake, hdiagnostic⟩ := hwf.disconnected hdown
      cases observed with
      | false => exact ⟨_, _, rfl, rfl, hintake, hdiagnostic, rfl⟩
      | true => exact ⟨_, _, rfl, ha, hintake, hdiagnostic, hunlinked hdown⟩
  | _ =>
      obtain ⟨hactivity, hintake, hdiagnostic⟩ := Endpoint.abandon_fields
        (e.publish (Session.linkEvent .disconnected)).2 (.disconnected true) .linkLost
      exact ⟨_, _, rfl, hactivity, hintake, hdiagnostic, rfl⟩

theorem rests_unplugged {e : Endpoint} (hwf : e.Wf s) (hcursor : Endpoint.Successive s e)
    (hrecorded : Endpoint.RecordWf s e) (hunlinked : e.Unlinked) :
    Rests s none (.disconnected true) [] (unplugged (e.toRoot s)) := by
  obtain ⟨status, e', hstep, hactivity, hintake, hdiagnostic, habandoned⟩ :=
    step_linkLost hwf hunlinked
  have hdown := (step_rests hwf hcursor hrecorded hstep hactivity hintake hdiagnostic habandoned
    rfl).2
  have hread := rests_readEvents hdown eventQueueCapacity
  rw [List.drop_eq_nil_of_le (few_rests hdown)] at hread
  unfold unplugged
  rw [Library.run_cons]
  dsimp only
  exact hread

/-! ## A session ends -/

/-- A side that has just left its session. -/
def Begun (s : Setup) (record : Option UInt64) (events : List Event) (root : Root) : Prop :=
  ∃ a, Rests s record a events root ∧ (s.role = .host → ∃ id, a = .initiatePending id) ∧
    (s.role = .rig → a = .waitingForInitiate)

theorem Begun.parted {event : Event} (h : Begun s record [event] root) :
    Parted s record (step root .readEvent).2 := by
  obtain ⟨a, hrests, hhost, hrig⟩ := h
  have hread := (rests_readEvent hrests).2
  refine ⟨fun hrole => ?_, fun hrole => ?_⟩
  · obtain ⟨id, rfl⟩ := hhost hrole
    exact ⟨id, Or.inl hread⟩
  · rw [hrig hrole] at hread
    exact hread

theorem beginEstablishment_activity (e : Endpoint) :
    (s.role = .host → ∃ id, (e.beginEstablishment s).activity = .initiatePending id) ∧
      (s.role = .rig → (e.beginEstablishment s).activity = .waitingForInitiate) := by
  unfold Endpoint.beginEstablishment
  refine ⟨fun hrole => ?_, fun hrole => ?_⟩
  · rw [if_pos hrole]
    exact ⟨_, rfl⟩
  · rw [if_neg (by rw [hrole]; decide)]

theorem beginEstablishment_fields (e : Endpoint) :
    (e.beginEstablishment s).intake = e.intake ∧
      (e.beginEstablishment s).diagnosticPending = e.diagnosticPending ∧
      (e.beginEstablishment s).abandoned = e.abandoned ∧
      (e.beginEstablishment s).events = e.events := by
  unfold Endpoint.beginEstablishment
  split_ifs <;> exact ⟨rfl, rfl, rfl, rfl⟩

theorem parted_connected (h : Rests s record (.disconnected true) [] root) :
    Parted s record (step (step root (.notifyLinkState .connected 0)).2 .readEvent).2 := by
  obtain ⟨e, rfl, he⟩ := h
  have hnotify : e.step s (.notifyLinkState .connected 0) =
      (.ofStatus .ok, Endpoint.beginEstablishment s
        { e with events := e.events.push (Session.linkEvent .connected) }) := by
    unfold Endpoint.step Endpoint.notifyLinkState Endpoint.publish
    dsimp only
    rw [he.activity]
    dsimp only
    rw [not_full he (by decide)]
    rfl
  obtain ⟨hintake, hdiagnostic, habandoned, hevents⟩ := @beginEstablishment_fields _ s
    { e with events := e.events.push (Session.linkEvent .connected) }
  have hreported := (congrArg EventRing.contents hevents).trans
    (contents_push he (by decide) (Session.linkEvent .connected))
  have hbegun := (calm_step he hnotify rfl (hintake.trans he.intake)
    (hdiagnostic.trans he.diagnostic) (habandoned.trans he.abandoned) hreported).2
  exact Begun.parted ⟨_, hbegun, beginEstablishment_activity _⟩

omit [Target] in
theorem abandon_room {e : Endpoint} (h : e.events.full = false) (next : Activity)
    (failure : Failure) :
    e.abandon next failure = (.ok, { e with
      activity := next
      lastFailure := failure
      abandoned := e.activity.identifier.or e.abandoned
      intake := .filling []
      diagnosticPending := false
      events := e.events.push (Endpoint.resetEvent failure) }) := by
  unfold Endpoint.abandon Endpoint.publish
  exact if_neg (by rw [h]; exact Bool.false_ne_true)

/-- A reset of an established side. -/
theorem rests_reset {x : Exchange} (h : Rests s record (.established id x) events root) :
    Rests s (some id) (.recovering (some ⟨id, false⟩)) [] (step root .reset).2 := by
  refine (rests_step h .reset (.ofStatus .ok) _ _ _ ?_).2
  intro e he
  refine ⟨e.reset, rfl, ?_, rfl, rfl, ?_, rfl⟩
  · unfold Endpoint.reset
    rw [he.activity]
    rfl
  · unfold Endpoint.reset
    rw [he.activity]
    rfl

/-- The other side leaves the session when it is told. -/
theorem rests_acceptReset {x : Exchange} (h : Rests s record (.established id x) [] root) :
    Begun s (some id) [Endpoint.resetEvent .protocol]
      (arrive root (encodedFrame (Handshake.controlFrame .reset id 0))) := by
  have hid := (wf_rests h).1
  have hvalid := validateFrame_controlFrame (Or.inr ⟨rfl, rfl⟩) hid
    s.config.maxApplicationMessageSize
  obtain ⟨e, rfl, he⟩ := h
  have hbound : e.activity.identifier = some id := by
    rw [he.activity]
    rfl
  have hverdict : e.classify s (Handshake.controlFrame .reset id 0) = .acceptReset := by
    rw [classify_bound hbound]
    unfold Endpoint.classifyByType Handshake.controlFrame
    dsimp only
    rw [if_neg (not_not.mpr hid), hbound]
    rfl
  have hroom := not_full he (by decide)
  have hresolve : ∀ intake,
      (e.withIntake intake).resolve s (Handshake.controlFrame .reset id 0) .acceptReset =
        (.ok, (e.abandon (.recovering none) .protocol).2.beginEstablishment s) := by
    intro intake
    unfold Endpoint.resolve
    dsimp only
    rw [abandon_room (show (e.withIntake intake).events.full = false from hroom),
      abandon_room hroom]
    rfl
  obtain ⟨hhost, hrig⟩ :=
    beginEstablishment_activity (s := s) (e.abandon (.recovering none) .protocol).2
  obtain ⟨hintake, hdiagnostic, habandoned, hevents⟩ :=
    @beginEstablishment_fields _ s (e.abandon (.recovering none) .protocol).2
  have hlink := @Endpoint.linkState_beginEstablishment _ s
    (e.abandon (.recovering none) .protocol).2
  refine ⟨_, calm_arrive he rfl (by simp) hvalid hverdict rfl hresolve ?_ rfl ?_ ?_ ?_ ?_, hhost,
    hrig⟩
  · intro hnone
    rw [hnone] at hhost hrig
    rcases s.role_cases with hrole | hrole
    · obtain ⟨_, hactivity⟩ := hhost hrole
      cases hactivity
    · cases hrig hrole
  · rw [hintake, abandon_room hroom]
  · rw [hdiagnostic, abandon_room hroom]
  · rw [habandoned, abandon_room hroom]
    dsimp only
    rw [hbound]
    rfl
  · rw [hevents, abandon_room hroom]
    exact contents_push he (by decide) _

/-- A side whose RESET is out goes on to the next session. -/
theorem parted_processed (h : Rests s record (.recovering none) [] root) (nowMs : UInt32) :
    Parted s record (processed root nowMs) := by
  obtain ⟨e, rfl, he⟩ := h
  have hsettled : ({ e with operatingMode := .normal, operatingModeValid := true } :
      Endpoint).processSettled s nowMs =
        (({ e with operatingMode := .normal, operatingModeValid := true } :
          Endpoint).beginEstablishment s).progress s nowMs := by
    unfold Endpoint.processSettled
    dsimp only
    rw [he.activity]
    exact if_pos he.intake
  unfold Endpoint.beginEstablishment at hsettled
  refine ⟨fun hrole => ?_, fun hrole => ?_⟩
  · rw [if_pos hrole] at hsettled
    exact ⟨e.cursor, Or.inr (calm_processed he rfl hsettled rfl he.intake he.diagnostic
      he.abandoned he.events)⟩
  · rw [if_neg (by rw [hrole]; decide)] at hsettled
    exact calm_processed he rfl hsettled rfl he.intake he.diagnostic he.abandoned he.events

omit [Target] in
theorem giveUp_room {e : Endpoint} {x : Exchange} (ha : e.activity = .established id x)
    (hroom : e.events.full = false) (hroom' : (e.events.push Endpoint.failedEvent).full = false) :
    e.giveUp = (.deliveryFailed, { e with
      activity := .recovering (some ⟨id, false⟩)
      lastFailure := .delivery
      abandoned := some id
      intake := .filling []
      diagnosticPending := false
      events := (e.events.push Endpoint.failedEvent).push (Endpoint.resetEvent .delivery) }) := by
  have hpublish : e.publish Endpoint.failedEvent =
      (.ok, { e with events := e.events.push Endpoint.failedEvent }) :=
    if_neg (by rw [hroom]; exact Bool.false_ne_true)
  unfold Endpoint.giveUp
  rw [ha]
  dsimp only
  rw [hpublish]
  unfold Endpoint.beginLocalRecovery
  rw [abandon_room hroom', if_pos rfl]
  dsimp only
  rw [ha]
  rfl

theorem progress_exhausted {e : Endpoint} {nowMs : UInt32} {a : Activity}
    (hpublish : e.publishHandshake = e) (hmap : e.activity.mapStage (Endpoint.timeout s nowMs) = a)
    (hexhausted : ({ e with activity := a } : Endpoint).exhausted s = true) :
    e.progress s nowMs = ({ e with activity := a } : Endpoint).giveUp := by
  subst hmap
  unfold Endpoint.progress
  dsimp only
  rw [hpublish]
  exact if_pos hexhausted

/-- A message that has no retry left ends the session. -/
theorem rests_exhausted {x : Exchange} {payload : List UInt8} {delay : Delay}
    (h : Rests s record (.established id
      { x with outgoing := some (payload, .awaitingAck s.config.maxRetries delay.sentMs) }) [] root)
    (hlate : delay.Late s.config) :
    Rests s (some id) (.recovering (some ⟨id, false⟩))
      [Endpoint.failedEvent, Endpoint.resetEvent .delivery] (processed root delay.dueMs) := by
  obtain ⟨e, rfl, he⟩ := h
  have hroom := not_full he (by decide)
  have hfailed := contents_push he (by decide) Endpoint.failedEvent
  have hroom' : (e.events.push Endpoint.failedEvent).full = false := by
    rw [Bool.eq_false_iff, ne_eq, EventRing.full_iff, ← EventRing.length_contents, hfailed]
    decide
  have hevents : ((e.events.push Endpoint.failedEvent).push
      (Endpoint.resetEvent .delivery)).contents =
        [Endpoint.failedEvent, Endpoint.resetEvent .delivery] := by
    rw [EventRing.contents_push (EventRing.wf_push he.wf.events hroom rfl) hroom', hfailed]
    rfl
  have htimeout := timeout_late s.config.maxRetries hlate
  rw [if_neg (UInt8.lt_irrefl _)] at htimeout
  let late : Endpoint := { e with
    operatingMode := .normal
    operatingModeValid := true
    activity := .established id
      { x with outgoing := some (payload, .exhausted s.config.maxRetries delay.sentMs) } }
  have hgive := giveUp_room (e := late) rfl hroom hroom'
  let now : Endpoint := { e with operatingMode := .normal, operatingModeValid := true }
  have hactivity : now.activity = .established id
      { x with outgoing := some (payload, .awaitingAck s.config.maxRetries delay.sentMs) } :=
    he.activity
  obtain ⟨hpublish, hsettled⟩ := processSettled_item (s := s) (e := now)
    (by rw [hactivity]; rfl) delay.dueMs
  have hmap : now.activity.mapStage (Endpoint.timeout s delay.dueMs) = late.activity := by
    rw [hactivity]
    dsimp only [Activity.mapStage, Option.map_some]
    rw [htimeout]
  have hgiven : now.processSettled s delay.dueMs = late.giveUp :=
    hsettled.trans (progress_exhausted hpublish hmap rfl)
  exact calm_processed he rfl (hgiven.trans hgive) rfl rfl rfl rfl hevents

end

/-! ## From one session to the next -/

section
variable {sends receives : Target} {s : @Setup sends} {r : @Setup receives} {id : UInt64}
  {record record' : Option UInt64} {sender receiver : Root}

/-- The sender gives up with the transmission that leaves it no retry. -/
theorem failedTrip_exhausted {frame answer : Frame} {x : Exchange} {payload : List UInt8}
    {done before after : Activity} {sent' received received' : List Event} {stage : Stage}
    (hsender : @Awaits sends s record frame answer
      (fun stage => .established id { x with outgoing := some (payload, stage) }) done [] sent')
    (hreceiver : @Replies receives r record' frame answer before after received received')
    (hdue : stage.Due (@Setup.config sends s).maxRetries.toNat)
    (hsends : @Rests sends s record
      (.established id { x with outgoing := some (payload, stage) }) [] sender)
    (hreceives : Taken receives r record' before after received received' receiver) {loss : Loss}
    (hlate : loss.toDelay.Late (@Setup.config sends s)) :
    @Rests sends s (some id) (.recovering (some ⟨id, false⟩))
        [Endpoint.failedEvent, Endpoint.resetEvent .delivery]
        (failedTrip sends receives (sender, receiver) loss).1 ∧
      Taken receives r record' before after received received'
        (failedTrip sends receives (sender, receiver) loss).2 := by
  have hmax := (@Setup.config sends s).maxRetries.toNat_lt
  obtain ⟨hbytes, retries, hretries, hwaits⟩ := @rests_transmit sends s _ frame [] record sender
    stage _ (@Awaits.carries sends s _ _ _ _ _ _ _ hsender) hsends hdue hmax
    (@Awaits.valid sends s _ _ _ _ _ _ _ hsender) loss.sentMs
  rw [UInt8.toNat_inj.mp hretries] at hwaits
  have hgone : @Rests sends s (some id) (.recovering (some ⟨id, false⟩))
      [Endpoint.failedEvent, Endpoint.resetEvent .delivery]
      (@lose sends sender loss.toDelay) :=
    @rests_exhausted sends s _ _ _ _ _ loss.toDelay hwaits hlate
  unfold failedTrip
  cases loss.answeredMs with
  | none =>
      dsimp only
      exact ⟨hgone, hreceives⟩
  | some answeredMs =>
      dsimp only
      rw [hbytes]
      exact ⟨hgone, Or.inr (taken_answers hreceiver hreceives answeredMs).2⟩

/-- The events of a sender whose message is lost for good; its receiver is still in the
    session. -/
theorem exhaust_rests (h : Paired sends receives s r id sender receiver) {payload : List UInt8}
    {losses : List Loss} {last : Loss}
    (hsends : @Setup.PayloadWf sends s payload) (hreceives : @Setup.PayloadWf receives r payload)
    (hlosses : losses.length = (@Setup.config sends s).maxRetries.toNat)
    (hlate : ∀ loss ∈ losses ++ [last], loss.toDelay.Late (@Setup.config sends s)) :
    (exhaust sends receives payload losses last (sender, receiver)).1 =
        [Endpoint.failedEvent, Endpoint.resetEvent .delivery] ∧
      @Rests sends s (some id) (.recovering (some ⟨id, false⟩)) []
        (exhaust sends receives payload losses last (sender, receiver)).2.1 ∧
      ∃ (record : Option UInt64) (y : Exchange), @Rests receives r record (.established id y) []
        (exhaust sends receives payload losses last (sender, receiver)).2.2 := by
  obtain ⟨x, y, record, record', hx, hy, hxIdle, hyIdle, hforth, hback⟩ := h
  have hid := (@wf_rests sends s _ _ _ _ hx).1
  have hwaits := @awaits_message sends s record id x payload hid hxIdle hsends
  have hreplies := @replies_message receives r record' id y payload hid hyIdle hreceives _ hforth
  obtain ⟨-, hsubmitted⟩ := @rests_submit sends s _ _ _ _ _ _ hx hxIdle.outgoing hsends
  obtain ⟨⟨stage, hdue, hsends'⟩, hreceives'⟩ :=
    failedTrips_rest (_, receiver) hwaits hreplies .first (by omega)
      (fun loss hmem => hlate loss (List.mem_append_left _ hmem)) hsubmitted (Or.inl hy)
  rw [Nat.zero_add, hlosses] at hdue
  obtain ⟨hgone, htaken⟩ := failedTrip_exhausted hwaits hreplies hdue hsends' hreceives'
    (hlate last (List.mem_append_right _ List.mem_cons_self))
  obtain ⟨hfirst, hread⟩ := @rests_readEvent sends s _ _ _ _ _ hgone
  obtain ⟨hsecond, hread'⟩ := @rests_readEvent sends s _ _ _ _ _ hread
  unfold exhaust
  dsimp only
  refine ⟨?_, hread', record', ?_⟩
  · rw [hfirst, hsecond]
    rfl
  · rcases htaken with hbefore | hafter
    · exact ⟨_, hbefore⟩
    · exact ⟨_, hafter⟩

/-- The RESET ends the session on both sides. -/
theorem withdraw_parted {y : Exchange}
    (hx : @Rests sends s (some id) (.recovering (some ⟨id, false⟩)) [] sender)
    (hy : @Rests receives r record' (.established id y) [] receiver) (sentMs dueMs : UInt32) :
    @Parted sends s (some id) (withdraw sends receives sentMs dueMs (sender, receiver)).1 ∧
      @Parted receives r (some id) (withdraw sends receives sentMs dueMs (sender, receiver)).2 := by
  obtain ⟨hbytes, hsent⟩ := @rests_announce sends s _ _ _ _ hx sentMs
  have htold := @rests_acceptReset receives r _ _ _ _ hy
  unfold withdraw
  dsimp only
  rw [hbytes]
  exact ⟨@parted_processed sends s _ _ hsent dueMs, @Begun.parted receives r _ _ _ htold⟩

end

/-! ## Episodes -/

/-- The events of the side that ends the session. -/
def Ending.events : Ending → List Event
  | .replug | .reset _ _ _ => []
  | .exhaust _ _ _ _ _ _ => [Endpoint.failedEvent, Endpoint.resetEvent .delivery]

/-- What is seen of an episode that goes as it should. -/
def Episode.report (episode : Episode) : Report :=
  ⟨episode.letters.map Letter.receipt, true, episode.ending.events⟩

theorem parted_replugged [Target] {s : Setup} {e : Endpoint} (hwf : e.Wf s)
    (hcursor : Endpoint.Successive s e) (hrecorded : Endpoint.RecordWf s e)
    (hunlinked : e.Unlinked) : Parted s none (replugged (e.toRoot s)) :=
  parted_connected (rests_unplugged hwf hcursor hrecorded hunlinked)

theorem parted_replugged_rests [Target] {s : Setup} {record : Option UInt64} {id : UInt64}
    {x : Exchange} {events : List Event} {root : Root}
    (h : Rests s record (.established id x) events root) : Parted s none (replugged root) := by
  obtain ⟨e, rfl, he⟩ := h
  refine parted_replugged he.wf he.cursor he.recorded (unlinked_connected ?_)
  rw [he.activity]
  rfl

section
variable {hostTarget rigTarget : Target} {s : @Setup hostTarget} {r : @Setup rigTarget}
  {id : UInt64} {record : Option UInt64} {host rig : Root}

/-- However a session ends, both sides are ready for the next one. -/
theorem finish_parted (h : Paired hostTarget rigTarget s r id host rig) {ending : Ending}
    (hending : ending.Tolerable (@Setup.config hostTarget s) (@Setup.config rigTarget r)) :
    (finish hostTarget rigTarget (host, rig) ending).1 = ending.events ∧
      ∃ record,
        @Parted hostTarget s record (finish hostTarget rigTarget (host, rig) ending).2.1 ∧
        @Parted rigTarget r record (finish hostTarget rigTarget (host, rig) ending).2.2 := by
  cases ending with
  | replug =>
      obtain ⟨x, y, _, _, hx, hy, -⟩ := h
      unfold finish
      dsimp only
      exact ⟨rfl, none, @parted_replugged_rests hostTarget s _ _ _ _ _ hx,
        @parted_replugged_rests rigTarget r _ _ _ _ _ hy⟩
  | reset byHost sentMs dueMs =>
      obtain ⟨x, y, _, _, hx, hy, -⟩ := h
      unfold finish oriented
      dsimp only
      cases byHost with
      | true =>
          obtain ⟨hhost, hrig⟩ := withdraw_parted (@rests_reset hostTarget s _ _ _ _ _ hx) hy
            sentMs dueMs
          rw [if_pos rfl]
          exact ⟨rfl, some id, hhost, hrig⟩
      | false =>
          obtain ⟨hrig, hhost⟩ := withdraw_parted (@rests_reset rigTarget r _ _ _ _ _ hy) hx
            sentMs dueMs
          rw [if_neg Bool.false_ne_true]
          exact ⟨rfl, some id, hhost, hrig⟩
  | exhaust fromHost payload losses last sentMs dueMs =>
      obtain ⟨⟨hnonempty, hhostRoom, hrigRoom⟩, hlosses, hlate⟩ := hending
      unfold finish oriented
      dsimp only
      cases fromHost with
      | true =>
          obtain ⟨hevents, hgone, _, y, hleft⟩ := exhaust_rests h ⟨hnonempty, hhostRoom⟩
            ⟨hnonempty, hrigRoom⟩ hlosses hlate
          obtain ⟨hhost, hrig⟩ := withdraw_parted hgone hleft sentMs dueMs
          rw [if_pos rfl]
          exact ⟨hevents, some id, hhost, hrig⟩
      | false =>
          obtain ⟨hevents, hgone, _, x, hleft⟩ := exhaust_rests h.swap ⟨hnonempty, hrigRoom⟩
            ⟨hnonempty, hhostRoom⟩ hlosses hlate
          obtain ⟨hrig, hhost⟩ := withdraw_parted hgone hleft sentMs dueMs
          rw [if_neg Bool.false_ne_true]
          dsimp only
          exact ⟨hevents, some id, hhost, hrig⟩

theorem inOneSession_paired (h : Paired hostTarget rigTarget s r id host rig) :
    inOneSession (host, rig) = true := by
  obtain ⟨x, y, _, _, hx, hy, -⟩ := h
  obtain ⟨hhostState, hhostId⟩ := @session_rests hostTarget s _ _ _ _ _ hx
  obtain ⟨hrigState, hrigId⟩ := @session_rests rigTarget r _ _ _ _ _ hy
  unfold inOneSession
  dsimp only
  rw [hhostState, hrigState, hhostId, hrigId]
  simp

/-- An episode between two sides that have left their session goes as it should, and both
    have left their session after it. -/
theorem play_parted (hhost : @Setup.role hostTarget s = .host)
    (hrig : @Setup.role rigTarget r = .rig) (hx : @Parted hostTarget s record host)
    (hy : @Parted rigTarget r record rig) {episode : Episode}
    (hepisode : episode.Tolerable (@Setup.config hostTarget s) (@Setup.config rigTarget r)) :
    (play hostTarget rigTarget (host, rig) episode).1 = episode.report ∧
      ∃ record, @Parted hostTarget s record (play hostTarget rigTarget (host, rig) episode).2.1 ∧
        @Parted rigTarget r record (play hostTarget rigTarget (host, rig) episode).2.2 := by
  obtain ⟨id, hpaired⟩ := establish_paired hhost hrig hx hy hepisode.opening
  unfold play
  generalize establish hostTarget rigTarget episode.opening (host, rig) = opened at hpaired ⊢
  obtain ⟨hostOpened, rigOpened⟩ := opened
  obtain ⟨hreceipts, hstill⟩ := run_post_paired hepisode.letters hpaired
  generalize Library.run (post hostTarget rigTarget) (hostOpened, rigOpened) episode.letters =
    posted at hreceipts hstill ⊢
  obtain ⟨receipts, hostPosted, rigPosted⟩ := posted
  dsimp only at hreceipts hstill ⊢
  obtain ⟨hevents, hparted⟩ := finish_parted hstill hepisode.ending
  rw [hreceipts, hevents, inOneSession_paired hstill]
  exact ⟨rfl, hparted⟩

theorem run_play_parted (hhost : @Setup.role hostTarget s = .host)
    (hrig : @Setup.role rigTarget r = .rig) (hx : @Parted hostTarget s record host)
    (hy : @Parted rigTarget r record rig) {episodes : List Episode}
    (hepisodes : ∀ episode ∈ episodes,
      episode.Tolerable (@Setup.config hostTarget s) (@Setup.config rigTarget r)) :
    (Library.run (play hostTarget rigTarget) (host, rig) episodes).1 =
      episodes.map Episode.report := by
  induction episodes generalizing record host rig with
  | nil => rfl
  | cons episode rest ih =>
      obtain ⟨hreport, record', hhostNext, hrigNext⟩ :=
        play_parted hhost hrig hx hy (hepisodes episode List.mem_cons_self)
      rw [Library.run_cons]
      generalize play hostTarget rigTarget (host, rig) episode =
        played at hreport hhostNext hrigNext ⊢
      obtain ⟨report, host', rig'⟩ := played
      have hreports := ih hhostNext hrigNext
        fun episode hmem => hepisodes episode (List.mem_cons_of_mem _ hmem)
      exact congrArg₂ List.cons hreport hreports

end

/-- A side that calls can lead to is ready for a session when its link comes back. -/
theorem reachable_replugged [Target] {root : Root} (h : Reachable root) :
    ∃ s : Setup, s.role = root.base.role ∧ s.config = root.base.config ∧
      Parted s none (replugged root) := by
  have hinvariant : ∃ (s : Setup) (e : Endpoint), e.Wf s ∧
      ((Endpoint.Successive s e ∧ Endpoint.RecordWf s e) ∧ e.Unlinked) ∧ root = e.toRoot s :=
    reachable_invariant
      (fun s => ⟨⟨Endpoint.successive_initial s, Endpoint.recordWf_initial s⟩, fun _ => rfl⟩)
      (fun _ _ _ hwf hinv hatomic =>
        ⟨Endpoint.recordWf_step hwf hinv.1 hatomic, unlinked_step hwf hinv.2 hatomic⟩) h
  obtain ⟨s, e, hwf, ⟨⟨hcursor, hrecorded⟩, hunlinked⟩, rfl⟩ := hinvariant
  exact ⟨s, rfl, rfl, parted_replugged hwf hcursor hrecorded hunlinked⟩

/-- Whatever has happened before the two links come up again, every session is established
    on both sides, each of its messages is read by the other side, once and unchanged, and
    confirmed to its sender, and the next session follows when it ends. -/
theorem conversation_completes {hostTarget rigTarget : Target} {hostRoot rigRoot : Root}
    (hhost : @Reachable hostTarget hostRoot) (hrig : @Reachable rigTarget rigRoot)
    (hhostRole : hostRoot.base.role = .host) (hrigRole : rigRoot.base.role = .rig)
    {episodes : List Episode}
    (hepisodes : ∀ episode ∈ episodes,
      episode.Tolerable hostRoot.base.config rigRoot.base.config) :
    (Library.run (play hostTarget rigTarget)
        (@replugged hostTarget hostRoot, @replugged rigTarget rigRoot) episodes).1 =
      episodes.map Episode.report := by
  obtain ⟨s, hsRole, hsConfig, hx⟩ := @reachable_replugged hostTarget _ hhost
  obtain ⟨r, hrRole, hrConfig, hy⟩ := @reachable_replugged rigTarget _ hrig
  rw [← hsConfig, ← hrConfig] at hepisodes
  exact run_play_parted (hsRole.trans hhostRole) (hrRole.trans hrigRole) hx hy hepisodes

/-! ## A lossy conversation -/

/-- Each of the three handshake frames is lost once. -/
def lossyOpening : Opening where
  initiateDueMs := 0
  initiateLosses := [⟨0, 10⟩]
  initiateSentMs := 10
  responseDueMs := 0
  responseLosses := [⟨0, 12⟩]
  responseSentMs := 12
  confirmDueMs := 20
  confirm := ⟨[⟨⟨20, 30⟩, none⟩], 30, 15⟩

/-- The acknowledgement of the first message is lost, and the second message itself. The
    clock of the rig wraps around. -/
def lossyLetters : List Letter :=
  [⟨true, [5], ⟨[⟨⟨40, 50⟩, some 20⟩], 50, 30⟩⟩,
    ⟨false, [6], ⟨[⟨⟨0xFFFFFFFF, 9⟩, none⟩], 9, 60⟩⟩]

/-- Three sessions: a message of the rig exhausts its one retry, then the host is reset,
    then the links go down. -/
def lossyEpisodes : List Episode :=
  [⟨lossyOpening, lossyLetters,
      .exhaust false [7] [⟨⟨70, 80⟩, some 60⟩] ⟨⟨80, 90⟩, none⟩ 95 100⟩,
    ⟨lossyOpening, [], .reset true 60 70⟩, ⟨lossyOpening, lossyLetters, .replug⟩]

theorem conversation_completes_lossy :
    (Library.run (play .lp64 .lp64)
        (@replugged .lp64 connectedHost, @replugged .lp64 connectedRig) lossyEpisodes).1 =
      lossyEpisodes.map Episode.report :=
  conversation_completes reachable_connectedHost reachable_connectedRig rfl rfl
    (by decide +kernel)

end HilRigProtocol.Transport
