/-
  Two endpoints get through.

  If no frame is lost more often than its sender may retry, the handshake establishes one
  session on both sides, and every message after it is read unchanged by the other side and
  confirmed to its sender, in any order of directions. A frame counts as lost when it does
  not arrive, and when its answer does not.
-/
import HilRigProtocol.Transport.Courier

namespace HilRigProtocol.Transport

section
variable [Target] {s : Setup} {record : Option UInt64} {events : List Event} {root : Root}
  {frame : Frame} {id : UInt64}

/-! ## The reliable frames -/

theorem carries_initiate (s : Setup) (id : UInt64) :
    Carries s (s.initiateFrame id) (.waitingForResponse id) where
  item := fun _ => rfl
  control := fun _ => rfl
  mapStage := fun _ _ => rfl
  linkState := fun _ => rfl

theorem carries_response (s : Setup) (id : UInt64) (received : UInt16) :
    Carries s (s.responseFrame id received) (.waitingForConfirm id received) where
  item := fun _ => rfl
  control := fun _ => rfl
  mapStage := fun _ _ => rfl
  linkState := fun _ => rfl

theorem carries_confirm (s : Setup) (id : UInt64) (received : UInt16) :
    Carries s (s.confirmFrame id received) (.waitingForConfirmAck id received) where
  item := fun _ => rfl
  control := fun _ => rfl
  mapStage := fun _ _ => rfl
  linkState := fun _ => rfl

theorem carries_message (s : Setup) (id : UInt64) {x : Exchange} (payload : List UInt8)
    (hidle : x.acknowledgement = none) :
    Carries s (Application.applicationFrame id x.nextTransmit payload)
      (fun stage => .established id { x with outgoing := some (payload, stage) }) where
  item := fun _ => rfl
  control := by
    intro stage
    unfold Activity.controlItem
    dsimp only
    rw [hidle]
    rfl
  mapStage := fun _ _ => rfl
  linkState := fun _ => rfl

/-! ## The handshake, side by side -/

theorem rests_initiates (h : Rests s record (.initiatePending id) events root) (nowMs : UInt32) :
    Rests s record (.waitingForResponse id .ready) events (processed root nowMs) := by
  refine rests_processed h rfl ?_
  intro e he
  unfold Endpoint.processSettled
  rw [he]
  dsimp only
  unfold Endpoint.progress Endpoint.publishHandshake
  rw [he]
  rfl

theorem rests_responds {received : UInt16}
    (h : Rests s record (.responsePending id received) events root) (nowMs : UInt32) :
    Rests s record (.waitingForConfirm id received .ready) events (processed root nowMs) := by
  refine rests_processed h rfl ?_
  intro e he
  unfold Endpoint.processSettled
  rw [he]
  dsimp only
  unfold Endpoint.progress Endpoint.publishHandshake
  rw [he]
  rfl

theorem rests_confirms {received : UInt16}
    (h : Rests s record (.confirmPending id received) events root) (nowMs : UInt32) :
    Rests s record (.waitingForConfirmAck id received .ready) events (processed root nowMs) := by
  refine rests_processed h rfl ?_
  intro e he
  unfold Endpoint.processSettled
  rw [he]
  dsimp only
  unfold Endpoint.progress Endpoint.publishHandshake
  rw [he]
  rfl

/-- A frame of the session is judged by its type. -/
theorem classify_bound {e : Endpoint}
    (hid : e.activity.identifier = some frame.sessionIdentifier) :
    e.classify s frame = e.classifyByType s frame := by
  have hunbound : e.activity ≠ .waitingForInitiate := by
    intro ha
    rw [ha] at hid
    cases hid
  unfold Endpoint.classify
  rw [if_neg (fun h => h.2 hid), if_neg (fun h => hunbound h.1), if_neg (fun h => h.2 hid)]

theorem rests_adopt (hrole : s.role = .rig) (h : Rests s record .waitingForInitiate events root)
    (hvalid : validateFrame frame s.config.maxApplicationMessageSize = .ok)
    (htype : frame.type = .initiate) (hnew : record ≠ some frame.sessionIdentifier)
    (hid : sessionIdentifierIsValid frame.sessionIdentifier = true) :
    Rests s record (.responsePending frame.sessionIdentifier frame.sequence) events
      (arrive root (encodedFrame frame)) := by
  refine rests_arrive h rfl (by simp) (by simp) hvalid .adopt ?_
  intro e he
  refine ⟨?_, rfl, { e with
    intake := .filling []
    activity := .responsePending frame.sessionIdentifier frame.sequence }, fun _ => rfl, rfl,
    rfl, he.diagnostic, he.abandoned, he.events⟩
  unfold Endpoint.classify
  rw [he.abandoned, if_neg (fun h => hnew h.1), if_neg (fun h => h.2 htype), he.activity,
    if_neg (by simp [Activity.identifier])]
  unfold Endpoint.classifyByType
  rw [htype]
  dsimp only
  rw [if_pos ⟨hrole, hid⟩, he.activity]
  rfl

theorem rests_acceptResponse (hrole : s.role = .host) {retries : UInt8} {sentMs : UInt32}
    (h : Rests s record (.waitingForResponse id (.awaitingAck retries sentMs)) events root)
    (hvalid : validateFrame frame s.config.maxApplicationMessageSize = .ok)
    (htype : frame.type = .response) (hid : frame.sessionIdentifier = id)
    (hack : frame.acknowledgementSequence = s.firstSequence) :
    Rests s record (.confirmPending id frame.sequence) events
      (arrive root (encodedFrame frame)) := by
  refine rests_arrive h rfl (by simp) (by simp) hvalid .acceptResponse ?_
  intro e he
  refine ⟨?_, rfl, { e with
    intake := .filling []
    activity := .confirmPending id frame.sequence }, fun intake => ?_, rfl, rfl, he.diagnostic,
    he.abandoned, he.events⟩
  · rw [classify_bound (by rw [he.activity, hid]; rfl)]
    unfold Endpoint.classifyByType
    rw [htype]
    dsimp only
    rw [if_pos ⟨hrole, by rw [he.activity]; rfl⟩, he.activity]
    unfold Setup.classifyResponse
    dsimp only
    rw [hack, beq_self_eq_true]
    rfl
  · have hactivity : (e.withIntake intake).activity =
        .waitingForResponse id (.awaitingAck retries sentMs) := he.activity
    unfold Endpoint.resolve Endpoint.accept
    dsimp only
    rw [hactivity]
    rfl

theorem rests_acceptConfirm (hrole : s.role = .rig) {received : UInt16} {retries : UInt8}
    {sentMs : UInt32}
    (h : Rests s record (.waitingForConfirm id received (.awaitingAck retries sentMs)) events root)
    (hroom : events.length < 4)
    (hvalid : validateFrame frame s.config.maxApplicationMessageSize = .ok)
    (htype : frame.type = .confirm) (hid : frame.sessionIdentifier = id)
    (hsequence : frame.sequence = received + 1)
    (hack : frame.acknowledgementSequence = s.firstSequence) :
    Rests s record
      (.established id { Exchange.initial frame.sequence (s.firstSequence + 1) with
        acknowledgement := some false })
      (events ++ [Handshake.establishedEvent]) (arrive root (encodedFrame frame)) := by
  refine rests_arrive h rfl (by simp) (by simp) hvalid .acceptConfirm ?_
  intro e he
  refine ⟨?_, ?_, { e with
    intake := .filling []
    lastFailure := .none
    activity := .established id
      { Exchange.initial frame.sequence (s.firstSequence + 1) with acknowledgement := some false }
    events := e.events.push Handshake.establishedEvent }, fun intake => ?_, rfl, rfl,
    he.diagnostic, he.abandoned, contents_push he hroom _⟩
  · rw [classify_bound (by rw [he.activity, hid]; rfl)]
    unfold Endpoint.classifyByType
    rw [htype]
    dsimp only
    rw [if_pos ⟨hrole, by rw [he.activity]; rfl⟩, he.activity]
    unfold Setup.classifyConfirm Setup.inOrder Setup.sequenceResult Setup.accepted sequenceAfter
    dsimp only
    rw [if_pos hsequence, hack, beq_self_eq_true]
    rfl
  · exact congrArg (!·) (not_full he hroom)
  · have hactivity : (e.withIntake intake).activity =
        .waitingForConfirm id received (.awaitingAck retries sentMs) := he.activity
    unfold Endpoint.resolve Endpoint.accept
    dsimp only
    rw [hactivity]
    rfl

theorem rests_acceptConfirmAck {received : UInt16} {retries : UInt8} {sentMs : UInt32}
    (h : Rests s record (.waitingForConfirmAck id received (.awaitingAck retries sentMs)) events
      root) (hroom : events.length < 4)
    (hvalid : validateFrame frame s.config.maxApplicationMessageSize = .ok)
    (htype : frame.type = .ack) (hid : frame.sessionIdentifier = id)
    (hack : frame.acknowledgementSequence = s.firstSequence + 1) :
    Rests s record (s.hostEstablished id received) (events ++ [Handshake.establishedEvent])
      (arrive root (encodedFrame frame)) := by
  refine rests_arrive h rfl (by simp) (by simp [Setup.hostEstablished]) hvalid .acceptConfirmAck ?_
  intro e he
  refine ⟨?_, congrArg (!·) (not_full he hroom), { e with
    intake := .filling []
    lastFailure := .none
    activity := s.hostEstablished id received
    events := e.events.push Handshake.establishedEvent }, fun intake => ?_, rfl, rfl,
    he.diagnostic, he.abandoned, contents_push he hroom _⟩
  · rw [classify_bound (by rw [he.activity, hid]; rfl)]
    unfold Endpoint.classifyByType
    rw [htype, he.activity]
    dsimp only
    unfold Setup.classifyAck
    dsimp only
    rw [hack, beq_self_eq_true]
    rfl
  · have hactivity : (e.withIntake intake).activity =
        .waitingForConfirmAck id received (.awaitingAck retries sentMs) := he.activity
    unfold Endpoint.resolve Endpoint.accept
    dsimp only
    rw [hactivity]
    rfl

/-! ## Established -/

omit [Target] in
theorem sequenceAfter_same (sequence : UInt16) : sequenceAfter sequence sequence = .duplicate := by
  have hne : sequence ≠ sequence + 1 := fun hsame =>
    absurd (UInt16.left_eq_add.mp hsame) (by decide)
  unfold sequenceAfter
  rw [if_neg hne, if_pos rfl]

/-- A frame that the rig has accepted comes once more, and is acknowledged once more. -/
theorem rests_repeat {x : Exchange} (h : Rests s record (.established id x) events root)
    (hvalid : validateFrame frame s.config.maxApplicationMessageSize = .ok)
    (hidle : x.acknowledgement = none) (hid : frame.sessionIdentifier = id)
    (hverdict : s.classifyConfirm (.established id x) frame = .repeatAck ∧ frame.type = .confirm ∧
        s.role = .rig ∨
      (Activity.established id x).classifyMessage frame = .repeatAck ∧
        frame.type = .applicationMessage) :
    Rests s record (.established id { x with acknowledgement := some false }) events
      (arrive root (encodedFrame frame)) := by
  refine rests_arrive h rfl (by simp) (by simp) hvalid .repeatAck ?_
  intro e he
  refine ⟨?_, rfl, { e with
    intake := .filling []
    activity := .established id { x with acknowledgement := some false } }, fun intake => ?_, rfl,
    rfl, he.diagnostic, he.abandoned, he.events⟩
  · rw [classify_bound (by rw [he.activity, hid]; rfl)]
    unfold Endpoint.classifyByType
    rcases hverdict with ⟨hagain, htype, hrole⟩ | ⟨hagain, htype⟩
    · rw [htype]
      dsimp only
      rw [if_pos ⟨hrole, by rw [he.activity]; rfl⟩, he.activity]
      exact hagain
    · rw [htype, he.activity]
      exact hagain
  · have hactivity : (e.withIntake intake).activity = .established id x := he.activity
    unfold Endpoint.resolve Endpoint.accept
    dsimp only
    rw [hactivity]
    dsimp only
    rw [hidle]
    rfl

theorem rests_acceptMessage {x : Exchange} (h : Rests s record (.established id x) events root)
    (hvalid : validateFrame frame s.config.maxApplicationMessageSize = .ok)
    (hidle : x.acknowledgement = none) (hread : x.unread = none)
    (htype : frame.type = .applicationMessage) (hid : frame.sessionIdentifier = id)
    (hsequence : frame.sequence = x.lastReceived + 1) :
    Rests s record (.established id (x.receive frame)) events
      (arrive root (encodedFrame frame)) := by
  refine rests_arrive h rfl (by simp) (by simp) hvalid .acceptMessage ?_
  intro e he
  refine ⟨?_, ?_, { e with
    intake := .filling []
    activity := .established id (x.receive frame) }, fun intake => ?_, rfl, rfl, he.diagnostic,
    he.abandoned, he.events⟩
  · rw [classify_bound (by rw [he.activity, hid]; rfl)]
    unfold Endpoint.classifyByType
    rw [htype, he.activity]
    unfold Activity.classifyMessage sequenceAfter
    dsimp only
    rw [if_pos hsequence]
  · unfold Endpoint.available
    dsimp only
    rw [he.activity]
    dsimp only
    rw [hidle, hread]
    rfl
  · have hactivity : (e.withIntake intake).activity = .established id x := he.activity
    unfold Endpoint.resolve Endpoint.accept
    dsimp only
    rw [hactivity]
    rfl

theorem rests_acceptDelivery {x : Exchange} {payload : List UInt8} {retries : UInt8}
    {sentMs : UInt32}
    (h : Rests s record
      (.established id { x with outgoing := some (payload, .awaitingAck retries sentMs) }) events
      root) (hroom : events.length < 4)
    (hvalid : validateFrame frame s.config.maxApplicationMessageSize = .ok)
    (htype : frame.type = .ack) (hid : frame.sessionIdentifier = id)
    (hack : frame.acknowledgementSequence = x.nextTransmit) :
    Rests s record (.established id { x with outgoing := none, nextTransmit := x.nextTransmit + 1 })
      (events ++ [Endpoint.deliveredEvent]) (arrive root (encodedFrame frame)) := by
  refine rests_arrive h rfl (by simp) (by simp) hvalid .acceptDelivery ?_
  intro e he
  refine ⟨?_, congrArg (!·) (not_full he hroom), { e with
    intake := .filling []
    activity := .established id { x with outgoing := none, nextTransmit := x.nextTransmit + 1 }
    events := e.events.push Endpoint.deliveredEvent }, fun intake => ?_, rfl, rfl,
    he.diagnostic, he.abandoned, contents_push he hroom _⟩
  · rw [classify_bound (by rw [he.activity, hid]; rfl)]
    unfold Endpoint.classifyByType
    rw [htype, he.activity]
    dsimp only
    unfold Setup.classifyAck
    dsimp only
    rw [hack, beq_self_eq_true]
    rfl
  · have hactivity : (e.withIntake intake).activity =
        .established id { x with outgoing := some (payload, .awaitingAck retries sentMs) } :=
      he.activity
    unfold Endpoint.resolve Endpoint.accept
    dsimp only
    rw [hactivity]
    rfl

/-! ## A frame and its answer -/

/-- A sender that holds a frame, and is done when the answer arrives. -/
structure Awaits (s : Setup) (record : Option UInt64) (frame answer : Frame)
    (activity : Stage → Activity) (done : Activity) (events events' : List Event) : Prop where
  carries : Carries s frame activity
  valid : validateFrame frame s.config.maxApplicationMessageSize = .ok
  answered : ∀ {root : Root} {retries : UInt8} {sentMs : UInt32},
    Rests s record (activity (.awaitingAck retries sentMs)) events root →
    Rests s record done events' (arrive root (encodedFrame answer))

/-- A receiver that takes a frame once, and answers it whenever it comes. -/
structure Replies (s : Setup) (record : Option UInt64) (frame answer : Frame)
    (before after : Activity) (events events' : List Event) : Prop where
  first : ∀ {root : Root}, Rests s record before events root → ∀ nowMs,
    (transmit (arrive root (encodedFrame frame)) nowMs).1 = encodedFrame answer ∧
      Rests s record after events' (transmit (arrive root (encodedFrame frame)) nowMs).2
  again : ∀ {root : Root}, Rests s record after events' root → ∀ nowMs,
    (transmit (arrive root (encodedFrame frame)) nowMs).1 = encodedFrame answer ∧
      Rests s record after events' (transmit (arrive root (encodedFrame frame)) nowMs).2

end

section
variable {sends receives : Target} {s : @Setup sends} {r : @Setup receives} {frame answer : Frame}
  {activity : Stage → Activity} {done before after : Activity}
  {record record' : Option UInt64} {sent sent' received received' : List Event} {pair : Root × Root}

/-- The receiver is as before the frame, or as after it. -/
def Taken (receives : Target) (r : @Setup receives) (record' : Option UInt64)
    (before after : Activity)
    (received received' : List Event) (root : Root) : Prop :=
  @Rests receives r record' before received root ∨ @Rests receives r record' after received' root

theorem taken_answers
    (hreceiver : @Replies receives r record' frame answer before after received received')
    {root : Root} (h : Taken receives r record' before after received received' root)
    (nowMs : UInt32) :
    (@transmit receives (@arrive receives root (encodedFrame frame)) nowMs).1 =
        encodedFrame answer ∧
      @Rests receives r record' after received'
        (@transmit receives (@arrive receives root (encodedFrame frame)) nowMs).2 := by
  rcases h with hbefore | hafter
  · exact @Replies.first receives r _ _ _ _ _ _ _ hreceiver _ hbefore nowMs
  · exact @Replies.again receives r _ _ _ _ _ _ _ hreceiver _ hafter nowMs

/-- A trip that fails leaves the frame due once more, whatever was lost. -/
theorem failedTrip_rests (hsender : @Awaits sends s record frame answer activity done sent sent')
    (hreceiver : @Replies receives r record' frame answer before after received received')
    {stage : Stage} {n : Nat} (hdue : stage.Due n) (hn : n < (@Setup.config sends s).maxRetries.toNat)
    (hsends : @Rests sends s record (activity stage) sent pair.1)
    (hreceives : Taken receives r record' before after received received' pair.2) {loss : Loss}
    (hlate : loss.toDelay.Late (@Setup.config sends s)) :
    (∃ next : Stage, next.Due (n + 1) ∧
        @Rests sends s record (activity next) sent (failedTrip sends receives pair loss).1) ∧
      Taken receives r record' before after received received'
        (failedTrip sends receives pair loss).2 := by
  have hlost := @rests_lose sends s activity frame sent record pair.1 stage n
    (@Awaits.carries sends s _ _ _ _ _ _ _ hsender) hsends hdue hn
    (@Awaits.valid sends s _ _ _ _ _ _ _ hsender) loss.toDelay hlate
  have hmax := (@Setup.config sends s).maxRetries.toNat_lt
  have hbytes := (@rests_transmit sends s activity frame sent record pair.1 stage n
    (@Awaits.carries sends s _ _ _ _ _ _ _ hsender) hsends hdue (by omega)
    (@Awaits.valid sends s _ _ _ _ _ _ _ hsender) loss.sentMs).1
  unfold failedTrip
  cases loss.answeredMs with
  | none => exact ⟨hlost, hreceives⟩
  | some answeredMs =>
      dsimp only
      rw [hbytes]
      exact ⟨hlost, Or.inr (taken_answers hreceiver hreceives answeredMs).2⟩

theorem failedTrips_rest (pair : Root × Root)
    (hsender : @Awaits sends s record frame answer activity done sent sent')
    (hreceiver : @Replies receives r record' frame answer before after received received')
    {losses : List Loss} {stage : Stage} {n : Nat} (hdue : stage.Due n)
    (hn : n + losses.length ≤ (@Setup.config sends s).maxRetries.toNat)
    (hlate : ∀ loss ∈ losses, loss.toDelay.Late (@Setup.config sends s))
    (hsends : @Rests sends s record (activity stage) sent pair.1)
    (hreceives : Taken receives r record' before after received received' pair.2) :
    (∃ last : Stage, last.Due (n + losses.length) ∧
        @Rests sends s record (activity last) sent
          (losses.foldl (failedTrip sends receives) pair).1) ∧
      Taken receives r record' before after received received'
        (losses.foldl (failedTrip sends receives) pair).2 := by
  induction losses generalizing stage n pair with
  | nil => exact ⟨⟨stage, hdue, hsends⟩, hreceives⟩
  | cons loss rest ih =>
      rw [List.length_cons] at hn ⊢
      obtain ⟨⟨next, hnext, hsends'⟩, hreceives'⟩ := failedTrip_rests hsender hreceiver hdue
        (by omega) hsends hreceives (hlate loss List.mem_cons_self)
      have hrest := ih _ hnext (by omega)
        (fun loss hmem => hlate loss (List.mem_cons_of_mem _ hmem)) hsends' hreceives'
      rw [Nat.add_assoc, Nat.add_comm 1] at hrest
      exact hrest

/-- A frame that is lost no more often than it may be retried gets through: it is taken
    once, and its sender is done. -/
theorem exchange_rests (hsender : @Awaits sends s record frame answer activity done sent sent')
    (hreceiver : @Replies receives r record' frame answer before after received received')
    {trip : Trip} (htrip : trip.Tolerable (@Setup.config sends s)) {sender receiver : Root}
    (hsends : @Rests sends s record (activity .ready) sent sender)
    (hreceives : @Rests receives r record' before received receiver) :
    @Rests sends s record done sent' (exchange sends receives trip (sender, receiver)).1 ∧
      @Rests receives r record' after received'
        (exchange sends receives trip (sender, receiver)).2 := by
  have hlate : ∀ loss ∈ trip.losses, loss.toDelay.Late (@Setup.config sends s) :=
    fun loss hmem => htrip.late _ (List.mem_map_of_mem hmem)
  have hfew : 0 + trip.losses.length ≤ (@Setup.config sends s).maxRetries.toNat := by
    have := htrip.few
    rw [List.length_map] at this
    omega
  obtain ⟨⟨last, hlast, hsends'⟩, hreceives'⟩ :=
    failedTrips_rest (sender, receiver) hsender hreceiver .first hfew hlate hsends
      (Or.inl hreceives)
  have hmax := (@Setup.config sends s).maxRetries.toNat_lt
  obtain ⟨hbytes, retries, -, hwaits⟩ := @rests_transmit sends s activity frame sent record _ last _
    (@Awaits.carries sends s _ _ _ _ _ _ _ hsender) hsends' hlast (by omega)
    (@Awaits.valid sends s _ _ _ _ _ _ _ hsender) trip.sentMs
  obtain ⟨hanswer, hafter⟩ := taken_answers hreceiver hreceives' trip.answeredMs
  unfold exchange
  dsimp only
  rw [hbytes, hanswer]
  exact ⟨@Awaits.answered sends s _ _ _ _ _ _ _ hsender _ _ _ hwaits, hafter⟩

end

/-! ## Messages -/

section
variable [Target] {s : Setup} {record : Option UInt64} {id : UInt64} {x : Exchange}
  {payload : List UInt8}

/-- An exchange with nothing to send and nothing to read. -/
structure Exchange.Idle (x : Exchange) : Prop where
  outgoing : x.outgoing = none
  acknowledgement : x.acknowledgement = none
  unread : x.unread = none

theorem awaits_message (hid : sessionIdentifierIsValid id = true) (hidle : x.Idle)
    (hpayload : s.PayloadWf payload) :
    Awaits s record (Application.applicationFrame id x.nextTransmit payload)
      (Handshake.controlFrame .ack id x.nextTransmit)
      (fun stage => .established id { x with outgoing := some (payload, stage) })
      (.established id { x with outgoing := none, nextTransmit := x.nextTransmit + 1 })
      [] [Endpoint.deliveredEvent] where
  carries := carries_message s id payload hidle.acknowledgement
  valid := validateFrame_applicationFrame hid _ hpayload
  answered := fun h => rests_acceptDelivery h (by decide)
    (validateFrame_controlFrame (Or.inl rfl) hid _) rfl rfl rfl

theorem replies_message (hid : sessionIdentifierIsValid id = true) (hidle : x.Idle)
    (hpayload : s.PayloadWf payload) {sequence : UInt16}
    (hsequence : sequence = x.lastReceived + 1) :
    Replies s record (Application.applicationFrame id sequence payload)
      (Handshake.controlFrame .ack id sequence) (.established id x)
      (.established id
        { x.receive (Application.applicationFrame id sequence payload) with
          acknowledgement := none })
      [] [] where
  first := by
    intro root h nowMs
    have hvalid := validateFrame_applicationFrame hid sequence hpayload
    have htaken := rests_acceptMessage h hvalid hidle.acknowledgement hidle.unread rfl rfl hsequence
    exact rests_answer (x := x.receive (Application.applicationFrame id sequence payload)) htaken
      hidle.outgoing nowMs
  again := by
    intro root h nowMs
    have hvalid := validateFrame_applicationFrame hid sequence hpayload
    have hverdict : (Activity.established id
        { x.receive (Application.applicationFrame id sequence payload) with
          acknowledgement := none }).classifyMessage
        (Application.applicationFrame id sequence payload) = .repeatAck := by
      unfold Activity.classifyMessage Exchange.receive
      dsimp only [Application.applicationFrame]
      rw [sequenceAfter_same]
      rfl
    have hagain := rests_repeat h hvalid rfl rfl (Or.inr ⟨hverdict, rfl⟩)
    exact rests_answer (x := x.receive (Application.applicationFrame id sequence payload)) hagain
      hidle.outgoing nowMs

end

section
variable {sends receives : Target} {s : @Setup sends} {r : @Setup receives} {id : UInt64}
  {sender receiver : Root}

/-- Both sides have nothing to do in the session, and each expects what the other sends
    next. -/
def Paired (sends receives : Target) (s : @Setup sends) (r : @Setup receives) (id : UInt64)
    (sender receiver : Root) : Prop :=
  ∃ (x y : Exchange) (record record' : Option UInt64),
    @Rests sends s record (.established id x) [] sender ∧
    @Rests receives r record' (.established id y) [] receiver ∧ x.Idle ∧ y.Idle ∧
    x.nextTransmit = y.lastReceived + 1 ∧ y.nextTransmit = x.lastReceived + 1

theorem Paired.swap (h : Paired sends receives s r id sender receiver) :
    Paired receives sends r s id receiver sender := by
  obtain ⟨x, y, record, record', hx, hy, hxIdle, hyIdle, hforth, hback⟩ := h
  exact ⟨y, x, record', record, hy, hx, hyIdle, hxIdle, hback, hforth⟩

/-- A message is read by the other side and confirmed, and both sides are as before it. -/
theorem mail_paired (h : Paired sends receives s r id sender receiver) {payload : List UInt8}
    {trip : Trip}
    (hsends : @Setup.PayloadWf sends s payload) (hreceives : @Setup.PayloadWf receives r payload)
    (htrip : trip.Tolerable (@Setup.config sends s)) :
    (mail sends receives payload trip (sender, receiver)).1 =
        ⟨.ok, some Endpoint.deliveredEvent, payload⟩ ∧
      Paired sends receives s r id (mail sends receives payload trip (sender, receiver)).2.1
        (mail sends receives payload trip (sender, receiver)).2.2 := by
  obtain ⟨x, y, record, record', hx, hy, hxIdle, hyIdle, hforth, hback⟩ := h
  have hid := (@wf_rests sends s _ _ _ _ hx).1
  obtain ⟨hstatus, hsubmitted⟩ := @rests_submit sends s _ _ _ _ _ _ hx hxIdle.outgoing hsends
  obtain ⟨hdone, hplaced⟩ :=
    exchange_rests (@awaits_message sends s record id x payload hid hxIdle hsends)
      (@replies_message receives r record' id y payload hid hyIdle hreceives _ hforth) htrip
      hsubmitted hy
  obtain ⟨hbytes, hread⟩ := @rests_read receives r _ _ _ _ _ payload hplaced rfl hreceives.2
  obtain ⟨hevent, hconfirmed⟩ := @rests_readEvent sends s _ _ _ _ _ hdone
  unfold mail
  dsimp only
  refine ⟨by rw [hstatus, hevent, hbytes], _, _, _, _, hconfirmed, hread,
    ⟨rfl, hxIdle.acknowledgement, hxIdle.unread⟩, ⟨hyIdle.outgoing, rfl, rfl⟩, rfl, hback⟩

end

/-! ## The handshake -/

section
variable [Target] {s : Setup} {record : Option UInt64} {id : UInt64} {root : Root}

theorem validateFrame_handshake (s : Setup) (hid : sessionIdentifierIsValid id = true)
    (received : UInt16) (maximum : Nat) :
    validateFrame (s.initiateFrame id) maximum = .ok ∧
      validateFrame (s.responseFrame id received) maximum = .ok ∧
      validateFrame (s.confirmFrame id received) maximum = .ok := by
  simp [validateFrame, Setup.initiateFrame, Setup.responseFrame, Setup.confirmFrame,
    frameTypeValid, ne_seedInvalid_of_isValid hid]

/-- Frames that are lost for good come before one that is not. -/
theorem rests_losing_transmit {frame : Frame} {activity : Stage → Activity} {events : List Event}
    (hc : Carries s frame activity)
    (hvalid : validateFrame frame s.config.maxApplicationMessageSize = .ok)
    {delays : List Delay} (hdelays : Tolerable s.config delays)
    (h : Rests s record (activity .ready) events root) (nowMs : UInt32) :
    (transmit (delays.foldl lose root) nowMs).1 = encodedFrame frame ∧ ∃ retries : UInt8,
      Rests s record (activity (.awaitingAck retries nowMs)) events
        (transmit (delays.foldl lose root) nowMs).2 := by
  have hfew : 0 + delays.length ≤ s.config.maxRetries.toNat := by
    rw [Nat.zero_add]
    exact hdelays.few
  have hmax := s.config.maxRetries.toNat_lt
  obtain ⟨last, hlast, hlost⟩ := rests_losing hc hvalid hdelays.late hfew .first h
  obtain ⟨hbytes, retries, -, hsent⟩ := rests_transmit hc hlost hlast (by omega) hvalid nowMs
  exact ⟨hbytes, retries, hsent⟩

theorem awaits_confirm (hid : sessionIdentifierIsValid id = true) (received : UInt16) :
    Awaits s record (s.confirmFrame id received)
      (Handshake.controlFrame .ack id (s.firstSequence + 1))
      (.waitingForConfirmAck id received) (s.hostEstablished id received)
      [] [Handshake.establishedEvent] where
  carries := carries_confirm s id received
  valid := (validateFrame_handshake s hid received _).2.2
  answered := fun h => rests_acceptConfirmAck h (by decide)
    (validateFrame_controlFrame (Or.inl rfl) hid _) rfl rfl rfl

theorem replies_confirm (hrole : s.role = .rig) {frame : Frame} {received : UInt16}
    {retries : UInt8} {sentMs : UInt32}
    (hvalid : validateFrame frame s.config.maxApplicationMessageSize = .ok)
    (htype : frame.type = .confirm) (hid : frame.sessionIdentifier = id)
    (hsequence : frame.sequence = received + 1)
    (hack : frame.acknowledgementSequence = s.firstSequence) :
    Replies s record frame (Handshake.controlFrame .ack id frame.sequence)
      (.waitingForConfirm id received (.awaitingAck retries sentMs))
      (.established id (Exchange.initial frame.sequence (s.firstSequence + 1)))
      [] [Handshake.establishedEvent] where
  first := by
    intro root h nowMs
    have htaken := rests_acceptConfirm hrole h (by decide) hvalid htype hid hsequence hack
    exact rests_answer htaken rfl nowMs
  again := by
    intro root h nowMs
    have hverdict : s.classifyConfirm
        (.established id (Exchange.initial frame.sequence (s.firstSequence + 1))) frame =
          .repeatAck := by
      have haccepted : s.accepted
          (.established id (Exchange.initial frame.sequence (s.firstSequence + 1))) =
            some ⟨frame.sequence, .confirm, s.firstSequence⟩ := by
        unfold Setup.accepted Setup.finalFrameType
        rw [hrole]
        rfl
      unfold Setup.classifyConfirm Setup.inOrder Setup.sequenceResult Setup.isExactDuplicate
      simp [haccepted, sequenceAfter_same, htype, hack]
    have hagain := rests_repeat h hvalid rfl hid (Or.inl ⟨hverdict, htype, hrole⟩)
    exact rests_answer hagain rfl nowMs

/-- A side that has left its session, if it had one: the host has named the next one. -/
structure Parted (s : Setup) (record : Option UInt64) (root : Root) : Prop where
  host : s.role = .host → ∃ id, Rests s record (.initiatePending id) [] root ∨
    Rests s record (.waitingForResponse id .ready) [] root
  rig : s.role = .rig → Rests s record .waitingForInitiate [] root

/-- The time comes for INITIATE, unless it is due already. -/
theorem rests_initiating (h : Rests s record (.initiatePending id) [] root ∨
    Rests s record (.waitingForResponse id .ready) [] root) (nowMs : UInt32) :
    Rests s record (.waitingForResponse id .ready) [] (processed root nowMs) ∧
      record ≠ some id ∧ sessionIdentifierIsValid id = true := by
  rcases h with hpending | hready
  · exact ⟨rests_initiates hpending nowMs, record_ne_rests hpending rfl, (wf_rests hpending).2⟩
  · refine ⟨rests_processed hready rfl ?_, record_ne_rests hready rfl, (wf_rests hready).2.1⟩
    intro e he
    rw [(carries_initiate s id).settled he (by simp [Endpoint.timeout, Stage.state])]
    rfl

theorem session_rests {x : Exchange} {events : List Event}
    (h : Rests s record (.established id x) events root) :
    root.base.sessionState = .established ∧ root.session.sessionIdentifier = id := by
  obtain ⟨e, rfl, he⟩ := h
  show e.activity.sessionState = .established ∧ e.activity.identifier.getD _ = id
  rw [he.activity]
  exact ⟨rfl, rfl⟩

end

section
variable {hostTarget rigTarget : Target} {s : @Setup hostTarget} {r : @Setup rigTarget}
  {record : Option UInt64} {host rig : Root}

/-- The handshake ends with both sides in one session. -/
theorem establish_paired (hhost : @Setup.role hostTarget s = .host)
    (hrig : @Setup.role rigTarget r = .rig) (hx : @Parted hostTarget s record host)
    (hy : @Parted rigTarget r record rig) {opening : Opening}
    (hopening : opening.Tolerable (@Setup.config hostTarget s) (@Setup.config rigTarget r)) :
    ∃ id, Paired hostTarget rigTarget s r id
      (establish hostTarget rigTarget opening (host, rig)).1
      (establish hostTarget rigTarget opening (host, rig)).2 := by
  obtain ⟨id, hnamed⟩ := @Parted.host hostTarget s _ _ hx hhost
  have hwaits := @Parted.rig rigTarget r _ _ hy hrig
  obtain ⟨hinitiates, hnew, hid⟩ :=
    @rests_initiating hostTarget s _ _ _ hnamed opening.initiateDueMs
  have hvalid := @validateFrame_handshake hostTarget id s hid
  have hvalid' := @validateFrame_handshake rigTarget id r hid
  let initiate := @Setup.initiateFrame hostTarget s id
  let response := @Setup.responseFrame rigTarget r id initiate.sequence
  -- INITIATE
  obtain ⟨hinitiateBytes, _, hinitiated⟩ := @rests_losing_transmit hostTarget s _ _ _ _ _
    (@carries_initiate hostTarget s id) (hvalid 0 _).1 _ hopening.initiate hinitiates
    opening.initiateSentMs
  have hadopted := @rests_adopt rigTarget r _ _ _ initiate hrig hwaits (hvalid 0 _).1 rfl hnew
    hid
  -- RESPONSE
  have hresponds := @rests_responds rigTarget r _ _ _ _ _ hadopted opening.responseDueMs
  obtain ⟨hresponseBytes, _, hresponded⟩ := @rests_losing_transmit rigTarget r _ _ _ _ _
    (@carries_response rigTarget r id initiate.sequence) (hvalid' _ _).2.1 _ hopening.response
    hresponds opening.responseSentMs
  have haccepted := @rests_acceptResponse hostTarget s _ _ _ response _ hhost _ _ hinitiated
    (hvalid' _ _).2.1 rfl rfl rfl
  -- CONFIRM and its acknowledgement
  have hconfirms := @rests_confirms hostTarget s _ _ _ _ _ haccepted opening.confirmDueMs
  obtain ⟨hdone, hopened⟩ := exchange_rests
    (@awaits_confirm hostTarget s _ id hid response.sequence)
    (@replies_confirm rigTarget r _ id hrig (@Setup.confirmFrame hostTarget s id response.sequence)
      initiate.sequence _ _ (hvalid _ _).2.2 rfl rfl rfl rfl)
    hopening.confirm hconfirms hresponded
  have hhostDone := (@rests_readEvent hostTarget s _ _ _ _ _ hdone).2
  have hrigDone := (@rests_readEvent rigTarget r _ _ _ _ _ hopened).2
  unfold establish
  dsimp only
  rw [hinitiateBytes, hresponseBytes]
  exact ⟨id, _, _, _, _, hhostDone, hrigDone, ⟨rfl, rfl, rfl⟩, ⟨rfl, rfl, rfl⟩, rfl, rfl⟩

/-! ## The messages of a session -/

variable {id : UInt64}

/-- What both callers see of a letter that gets through. -/
def Letter.receipt (letter : Letter) : Receipt :=
  ⟨.ok, some Endpoint.deliveredEvent, letter.payload⟩

theorem post_paired (h : Paired hostTarget rigTarget s r id host rig) {letter : Letter}
    (hletter : letter.Tolerable (@Setup.config hostTarget s) (@Setup.config rigTarget r)) :
    (post hostTarget rigTarget (host, rig) letter).1 = letter.receipt ∧
      Paired hostTarget rigTarget s r id (post hostTarget rigTarget (host, rig) letter).2.1
        (post hostTarget rigTarget (host, rig) letter).2.2 := by
  obtain ⟨⟨hnonempty, hhostRoom, hrigRoom⟩, htrip⟩ := hletter
  unfold post oriented
  by_cases hfrom : letter.fromHost = true
  · rw [if_pos hfrom] at htrip ⊢
    exact mail_paired h ⟨hnonempty, hhostRoom⟩ ⟨hnonempty, hrigRoom⟩ htrip
  · rw [if_neg hfrom] at htrip ⊢
    obtain ⟨hreceipt, hpaired⟩ :=
      mail_paired h.swap ⟨hnonempty, hrigRoom⟩ ⟨hnonempty, hhostRoom⟩ htrip
    dsimp only
    exact ⟨hreceipt, hpaired.swap⟩

theorem run_post_paired {letters : List Letter}
    (hletters : ∀ letter ∈ letters,
      letter.Tolerable (@Setup.config hostTarget s) (@Setup.config rigTarget r))
    (h : Paired hostTarget rigTarget s r id host rig) :
    (Library.run (post hostTarget rigTarget) (host, rig) letters).1 =
        letters.map Letter.receipt ∧
      Paired hostTarget rigTarget s r id
        (Library.run (post hostTarget rigTarget) (host, rig) letters).2.1
        (Library.run (post hostTarget rigTarget) (host, rig) letters).2.2 := by
  induction letters generalizing host rig with
  | nil => exact ⟨rfl, h⟩
  | cons letter rest ih =>
      obtain ⟨hreceipt, hpaired⟩ := post_paired h (hletters letter List.mem_cons_self)
      rw [Library.run_cons]
      generalize post hostTarget rigTarget (host, rig) letter = result at hreceipt hpaired ⊢
      obtain ⟨receipt, host', rig'⟩ := result
      obtain ⟨hreceipts, hlast⟩ :=
        ih (fun letter hmem => hletters letter (List.mem_cons_of_mem _ hmem)) hpaired
      exact ⟨congrArg₂ List.cons hreceipt hreceipts, hlast⟩

end

end HilRigProtocol.Transport
