/-
  Two endpoints, and a courier that loses some of what it carries.

  The courier takes the output that is due, commits it and hands it to the other side, or
  loses it; then it lets the sender know that time has passed. No step looks into a frame.
  An episode is a handshake, some messages and the end of the session. Below, what each step
  does to an endpoint that has no input to resolve.
-/
import HilRigProtocol.Transport.AbandonedIdentity
import HilRigProtocol.Transport.Conversation

namespace HilRigProtocol.Transport

/-! ## The courier -/

/-- When a transmission that is lost is committed, and when its sender processes next. -/
structure Delay where
  sentMs : UInt32
  dueMs : UInt32

/-- A frame is lost, or its answer, which the receiver has committed at `answeredMs`. -/
structure Loss extends Delay where
  answeredMs : Option UInt32

/-- The losses of a frame, and the times at which it and its answer are committed at last. -/
structure Trip where
  losses : List Loss
  sentMs : UInt32
  answeredMs : UInt32

section
variable [Target]

/-- The output that is due, and the root after its commit. -/
def transmit (root : Root) (nowMs : UInt32) : List UInt8 × Root :=
  let (shown, root) := step root (.peekOutput (some root.base.config.maxEncodedFrameSize))
  (shown.bytes, (step root (.commitOutput nowMs)).2)

def arrive (root : Root) (data : List UInt8) : Root := (step root (.receiveBytes data)).2

def processed (root : Root) (nowMs : UInt32) : Root := (step root (.process nowMs .normal)).2

/-- The link goes down, and the caller reads all events. -/
def unplugged (root : Root) : Root :=
  (Library.run step root
    (.notifyLinkState .disconnected 0 :: List.replicate eventQueueCapacity .readEvent)).2

/-- The link goes down and up again. -/
def replugged (root : Root) : Root :=
  (step (step (unplugged root) (.notifyLinkState .connected 0)).2 .readEvent).2

/-- A transmission that is lost. -/
def lose (root : Root) (delay : Delay) : Root :=
  processed (transmit root delay.sentMs).2 delay.dueMs

end

/-- A trip that fails: the frame is lost, or its answer. -/
def failedTrip (sends receives : Target) (pair : Root × Root) (loss : Loss) : Root × Root :=
  match loss.answeredMs with
  | none => (@lose sends pair.1 loss.toDelay, pair.2)
  | some answeredMs =>
      let (data, sender) := @transmit sends pair.1 loss.sentMs
      (@processed sends sender loss.dueMs,
        (@transmit receives (@arrive receives pair.2 data) answeredMs).2)

/-- A frame goes out until it is answered. -/
def exchange (sends receives : Target) (trip : Trip) (pair : Root × Root) : Root × Root :=
  let (sender, receiver) := trip.losses.foldl (failedTrip sends receives) pair
  let (data, sender) := @transmit sends sender trip.sentMs
  let (answer, receiver) := @transmit receives (@arrive receives receiver data) trip.answeredMs
  (@arrive sends sender answer, receiver)

/-- What the two callers see of a message: how its submission ends, the event that its
    sender reads, and the message that its receiver reads. -/
structure Receipt where
  submitted : Status
  confirmation : Option Event
  message : List UInt8
  deriving DecidableEq, Repr

/-- A message from its submission to the two reads. -/
def mail (sends receives : Target) (payload : List UInt8) (trip : Trip) (pair : Root × Root) :
    Receipt × (Root × Root) :=
  let (submitted, sender) := @step sends pair.1 (.submitApplicationData payload)
  let (sender, receiver) := exchange sends receives trip (sender, pair.2)
  let (read, receiver) := @step receives receiver
    (.readApplicationData (some receiver.base.config.maxApplicationMessageSize))
  let (confirmation, sender) := @step sends sender .readEvent
  (⟨submitted.status, confirmation.event, read.bytes⟩, (sender, receiver))

/-- What one of the two sides does with the other. -/
def oriented {α : Type} (byHost : Bool) (hostTarget rigTarget : Target)
    (deal : Target → Target → Root × Root → α × (Root × Root)) (pair : Root × Root) :
    α × (Root × Root) :=
  if byHost then deal hostTarget rigTarget pair
  else
    let (result, pair) := deal rigTarget hostTarget (pair.2, pair.1)
    (result, (pair.2, pair.1))

/-- A message of one of the two sides, and how its frame travels. -/
structure Letter where
  fromHost : Bool
  payload : List UInt8
  trip : Trip

def post (hostTarget rigTarget : Target) (pair : Root × Root) (letter : Letter) :
    Receipt × (Root × Root) :=
  oriented letter.fromHost hostTarget rigTarget
    (fun sends receives => mail sends receives letter.payload letter.trip) pair

/-- The trips of the three handshake frames, and the times at which each of them is due. -/
structure Opening where
  initiateDueMs : UInt32
  initiateLosses : List Delay
  initiateSentMs : UInt32
  responseDueMs : UInt32
  responseLosses : List Delay
  responseSentMs : UInt32
  confirmDueMs : UInt32
  confirm : Trip

/-- The handshake. -/
def establish (hostTarget rigTarget : Target) (opening : Opening) (pair : Root × Root) :
    Root × Root :=
  let host := @processed hostTarget pair.1 opening.initiateDueMs
  let (data, host) := @transmit hostTarget (opening.initiateLosses.foldl (@lose hostTarget) host)
    opening.initiateSentMs
  let rig := @processed rigTarget (@arrive rigTarget pair.2 data) opening.responseDueMs
  let (data, rig) := @transmit rigTarget (opening.responseLosses.foldl (@lose rigTarget) rig)
    opening.responseSentMs
  let host := @processed hostTarget (@arrive hostTarget host data) opening.confirmDueMs
  let (host, rig) := exchange hostTarget rigTarget opening.confirm (host, rig)
  ((@step hostTarget host .readEvent).2, (@step rigTarget rig .readEvent).2)

/-- A side that has left its session tells the other, and then names or awaits the next. -/
def withdraw (sends receives : Target) (sentMs dueMs : UInt32) (pair : Root × Root) :
    Root × Root :=
  let (data, sender) := @transmit sends pair.1 sentMs
  (@processed sends sender dueMs, (@step receives (@arrive receives pair.2 data) .readEvent).2)

/-- A message that is lost once more than it may be retried, and the events of its sender. -/
def exhaust (sends receives : Target) (payload : List UInt8) (losses : List Loss) (last : Loss)
    (pair : Root × Root) : List Event × (Root × Root) :=
  let (_, sender) := @step sends pair.1 (.submitApplicationData payload)
  let (sender, receiver) := failedTrip sends receives
    (losses.foldl (failedTrip sends receives) (sender, pair.2)) last
  let (first, sender) := @step sends sender .readEvent
  let (second, sender) := @step sends sender .readEvent
  (first.event.toList ++ second.event.toList, (sender, receiver))

/-- How a session ends: both links go down and up again, one side is reset, or a message of
    one side exhausts its retries. A RESET arrives. -/
inductive Ending
  | replug
  | reset (byHost : Bool) (sentMs dueMs : UInt32)
  | exhaust (fromHost : Bool) (payload : List UInt8) (losses : List Loss) (last : Loss)
      (sentMs dueMs : UInt32)

/-- The events that the side which ends the session reads, and both sides after it. -/
def finish (hostTarget rigTarget : Target) (pair : Root × Root) :
    Ending → List Event × (Root × Root)
  | .replug => ([], (@replugged hostTarget pair.1, @replugged rigTarget pair.2))
  | .reset byHost sentMs dueMs =>
      oriented byHost hostTarget rigTarget
        (fun sends receives pair =>
          ([], withdraw sends receives sentMs dueMs ((@step sends pair.1 .reset).2, pair.2))) pair
  | .exhaust fromHost payload losses last sentMs dueMs =>
      oriented fromHost hostTarget rigTarget
        (fun sends receives pair =>
          let (events, pair) := exhaust sends receives payload losses last pair
          (events, withdraw sends receives sentMs dueMs pair)) pair

/-- A session from its handshake to its end. -/
structure Episode where
  opening : Opening
  letters : List Letter
  ending : Ending

/-- Both sides are established in the same session. -/
def inOneSession (pair : Root × Root) : Bool :=
  pair.1.base.sessionState == .established && pair.2.base.sessionState == .established &&
    pair.1.session.sessionIdentifier == pair.2.session.sessionIdentifier

/-- What is seen of an episode: of each message, whether both sides share the session when
    the last of them is done, and of the end. -/
structure Report where
  receipts : List Receipt
  shared : Bool
  ended : List Event
  deriving DecidableEq, Repr

def play (hostTarget rigTarget : Target) (pair : Root × Root) (episode : Episode) :
    Report × (Root × Root) :=
  let (receipts, pair) := Library.run (post hostTarget rigTarget)
    (establish hostTarget rigTarget episode.opening pair) episode.letters
  let (events, last) := finish hostTarget rigTarget pair episode.ending
  (⟨receipts, inOneSession pair, events⟩, last)

/-! ## Losses that a sender survives -/

/-- The sender processes when the retransmission is due. -/
def Delay.Late (config : Config) (delay : Delay) : Prop :=
  config.retransmitTimeoutMs ≠ 0 ∧ config.retransmitTimeoutMs ≤ delay.dueMs - delay.sentMs

instance (config : Config) (delay : Delay) : Decidable (delay.Late config) :=
  inferInstanceAs (Decidable (_ ∧ _))

structure Tolerable (config : Config) (delays : List Delay) : Prop where
  few : delays.length ≤ config.maxRetries.toNat
  late : ∀ delay ∈ delays, delay.Late config

instance (config : Config) (delays : List Delay) : Decidable (Tolerable config delays) :=
  decidable_of_iff
    (delays.length ≤ config.maxRetries.toNat ∧ ∀ delay ∈ delays, delay.Late config)
    ⟨fun h => ⟨h.1, h.2⟩, fun h => ⟨h.few, h.late⟩⟩

def Trip.Tolerable (config : Config) (trip : Trip) : Prop :=
  Transport.Tolerable config (trip.losses.map Loss.toDelay)

instance (config : Config) (trip : Trip) : Decidable (trip.Tolerable config) :=
  inferInstanceAs (Decidable (Tolerable config (trip.losses.map Loss.toDelay)))

/-- A message that both sides have room for. -/
structure Fits (hostConfig rigConfig : Config) (payload : List UInt8) : Prop where
  nonempty : payload ≠ []
  hostRoom : payload.length ≤ hostConfig.maxApplicationMessageSize
  rigRoom : payload.length ≤ rigConfig.maxApplicationMessageSize

instance (hostConfig rigConfig : Config) (payload : List UInt8) :
    Decidable (Fits hostConfig rigConfig payload) :=
  decidable_of_iff
    (payload ≠ [] ∧ payload.length ≤ hostConfig.maxApplicationMessageSize ∧
      payload.length ≤ rigConfig.maxApplicationMessageSize)
    ⟨fun h => ⟨h.1, h.2.1, h.2.2⟩, fun h => ⟨h.nonempty, h.hostRoom, h.rigRoom⟩⟩

/-- A message with losses that its sender survives. -/
structure Letter.Tolerable (hostConfig rigConfig : Config) (letter : Letter) : Prop where
  fits : Fits hostConfig rigConfig letter.payload
  trip : letter.trip.Tolerable (if letter.fromHost then hostConfig else rigConfig)

instance (hostConfig rigConfig : Config) (letter : Letter) :
    Decidable (letter.Tolerable hostConfig rigConfig) :=
  decidable_of_iff
    (Fits hostConfig rigConfig letter.payload ∧
      letter.trip.Tolerable (if letter.fromHost then hostConfig else rigConfig))
    ⟨fun h => ⟨h.1, h.2⟩, fun h => ⟨h.fits, h.trip⟩⟩

structure Opening.Tolerable (hostConfig rigConfig : Config) (opening : Opening) : Prop where
  initiate : Transport.Tolerable hostConfig opening.initiateLosses
  response : Transport.Tolerable rigConfig opening.responseLosses
  confirm : opening.confirm.Tolerable hostConfig

instance (hostConfig rigConfig : Config) (opening : Opening) :
    Decidable (opening.Tolerable hostConfig rigConfig) :=
  decidable_of_iff
    (Tolerable hostConfig opening.initiateLosses ∧ Tolerable rigConfig opening.responseLosses ∧
      opening.confirm.Tolerable hostConfig)
    ⟨fun h => ⟨h.1, h.2.1, h.2.2⟩, fun h => ⟨h.initiate, h.response, h.confirm⟩⟩

/-- An exhausted message has as many losses as it takes, each of them late. -/
def Ending.Tolerable (hostConfig rigConfig : Config) : Ending → Prop
  | .replug | .reset _ _ _ => True
  | .exhaust fromHost payload losses last _ _ =>
      let config := if fromHost then hostConfig else rigConfig
      Fits hostConfig rigConfig payload ∧ losses.length = config.maxRetries.toNat ∧
        ∀ loss ∈ losses ++ [last], loss.toDelay.Late config

instance (hostConfig rigConfig : Config) (ending : Ending) :
    Decidable (ending.Tolerable hostConfig rigConfig) :=
  match ending with
  | .replug | .reset _ _ _ => inferInstanceAs (Decidable True)
  | .exhaust _ _ _ _ _ _ => inferInstanceAs (Decidable (_ ∧ _ ∧ _))

structure Episode.Tolerable (hostConfig rigConfig : Config) (episode : Episode) : Prop where
  opening : episode.opening.Tolerable hostConfig rigConfig
  letters : ∀ letter ∈ episode.letters, letter.Tolerable hostConfig rigConfig
  ending : episode.ending.Tolerable hostConfig rigConfig

instance (hostConfig rigConfig : Config) (episode : Episode) :
    Decidable (episode.Tolerable hostConfig rigConfig) :=
  decidable_of_iff
    (episode.opening.Tolerable hostConfig rigConfig ∧
      (∀ letter ∈ episode.letters, letter.Tolerable hostConfig rigConfig) ∧
      episode.ending.Tolerable hostConfig rigConfig)
    ⟨fun h => ⟨h.1, h.2.1, h.2.2⟩, fun h => ⟨h.opening, h.letters, h.ending⟩⟩

/-! ## Endpoints at rest -/

section
variable [Target]

/-- An endpoint in an activity, with these unread events and nothing else to do. `record` is
    the identity of the session abandoned last. -/
structure Endpoint.Calm (s : Setup) (record : Option UInt64) (activity : Activity)
    (events : List Event) (e : Endpoint) : Prop where
  wf : e.Wf s
  cursor : Endpoint.Successive s e
  recorded : Endpoint.RecordWf s e
  activity : e.activity = activity
  intake : e.intake = .filling []
  diagnostic : e.diagnosticPending = false
  abandoned : e.abandoned = record
  events : e.events.contents = events

/-- The root of an endpoint at rest. -/
def Rests (s : Setup) (record : Option UInt64) (activity : Activity) (events : List Event)
    (root : Root) : Prop :=
  ∃ e : Endpoint, root = e.toRoot s ∧ e.Calm s record activity events

/-- Reliable frames: an activity for every stage of the same frame, with nothing else to
    send. The retry timer is all that moves it. -/
structure Carries (s : Setup) (frame : Frame) (activity : Stage → Activity) : Prop where
  item : ∀ stage, s.item (activity stage) = some ⟨frame, stage⟩
  control : ∀ stage, (activity stage).controlItem = none
  mapStage : ∀ f stage, (activity stage).mapStage f = activity (f stage)
  linkState : ∀ stage, (activity stage).linkState = .connected

/-- A frame that is due, after so many transmissions. -/
inductive Stage.Due : Nat → Stage → Prop
  | first : Due 0 .ready
  | again (retries : UInt8) (committedMs : UInt32) :
      Due (retries.toNat + 1) (.retransmitReady retries committedMs)

variable {s : Setup} {activity : Stage → Activity} {frame : Frame} {a a' : Activity}
  {events events' : List Event} {record record' : Option UInt64} {root : Root} {stage : Stage}
  {n : Nat}

/-- With a reliable item `Process` has only the retry timer to look at. -/
theorem processSettled_item {e : Endpoint} {item : Item} (h : s.item e.activity = some item)
    (nowMs : UInt32) :
    e.publishHandshake = e ∧ e.processSettled s nowMs = e.progress s nowMs := by
  unfold Endpoint.publishHandshake Endpoint.processSettled
  cases ha : e.activity with
  | recovering reset =>
      rw [ha] at h
      cases h
  | initiatePending id | responsePending id received | confirmPending id received =>
      rw [ha] at h
      cases h
  | _ => exact ⟨rfl, rfl⟩

theorem Carries.settled (hc : Carries s frame activity) {e : Endpoint}
    (he : e.activity = activity stage) {nowMs : UInt32}
    (hstate : (Endpoint.timeout s nowMs stage).state ≠ .exhausted) :
    e.processSettled s nowMs =
      (.ok, { e with activity := activity (Endpoint.timeout s nowMs stage) }) := by
  have hitem : s.item e.activity = some ⟨frame, stage⟩ := by
    rw [he]
    exact hc.item stage
  obtain ⟨hpublish, hsettled⟩ := processSettled_item hitem nowMs
  rw [hsettled]
  unfold Endpoint.progress
  dsimp only
  rw [hpublish, he, hc.mapStage]
  refine if_neg ?_
  unfold Endpoint.exhausted
  dsimp only
  rw [hc.item]
  simpa using hstate

/-- What every call keeps. -/
theorem records_step {e : Endpoint} (hwf : e.Wf s) (hcursor : Endpoint.Successive s e)
    (hrecorded : Endpoint.RecordWf s e) (call : Call) :
    Endpoint.Successive s (e.step s call).2 ∧ Endpoint.RecordWf s (e.step s call).2 :=
  (@Endpoint.atomic_invariant _ s (fun e => Endpoint.Successive s e ∧ Endpoint.RecordWf s e) _ hwf
    ⟨hcursor, hrecorded⟩ [call]
    fun _ _ hwf hinv hatomic => Endpoint.recordWf_step hwf hinv hatomic).2.2

/-- A call that leaves an endpoint at rest. -/
theorem step_rests {e e' : Endpoint} (hwf : e.Wf s) (hcursor : Endpoint.Successive s e)
    (hrecorded : Endpoint.RecordWf s e) {call : Call} {response : Response}
    (hstep : e.step s call = (response, e')) (hactivity : e'.activity = a)
    (hintake : e'.intake = .filling []) (hdiagnostic : e'.diagnosticPending = false)
    (habandoned : e'.abandoned = record) (hevents : e'.events.contents = events) :
    (step (e.toRoot s) call).1 = response ∧
      Rests s record a events (step (e.toRoot s) call).2 := by
  have hwf' := Endpoint.wf_step hwf call
  have hrecords := records_step hwf hcursor hrecorded call
  rw [hstep] at hwf' hrecords
  rw [step_refines hwf, hstep]
  exact ⟨rfl, e', rfl, hwf', hrecords.1, hrecords.2, hactivity, hintake, hdiagnostic, habandoned,
    hevents⟩

/-- A call on the root of an endpoint at rest is the step of the endpoint. -/
theorem calm_step {e e' : Endpoint} (he : e.Calm s record a events) {call : Call}
    {response : Response} (hstep : e.step s call = (response, e')) (hactivity : e'.activity = a')
    (hintake : e'.intake = .filling []) (hdiagnostic : e'.diagnosticPending = false)
    (habandoned : e'.abandoned = record') (hevents : e'.events.contents = events') :
    (step (e.toRoot s) call).1 = response ∧
      Rests s record' a' events' (step (e.toRoot s) call).2 :=
  step_rests he.wf he.cursor he.recorded hstep hactivity hintake hdiagnostic habandoned hevents

theorem rests_step (h : Rests s record a events root) (call : Call) (response : Response)
    (record' : Option UInt64) (a' : Activity) (events' : List Event)
    (hstep : ∀ e : Endpoint, e.Calm s record a events → ∃ e', e.step s call = (response, e') ∧
      e'.activity = a' ∧ e'.intake = .filling [] ∧ e'.diagnosticPending = false ∧
      e'.abandoned = record' ∧ e'.events.contents = events') :
    (step root call).1 = response ∧ Rests s record' a' events' (step root call).2 := by
  obtain ⟨e, rfl, he⟩ := h
  obtain ⟨e', hresult, hactivity, hintake, hdiagnostic, habandoned, hevents⟩ := hstep e he
  exact calm_step he hresult hactivity hintake hdiagnostic habandoned hevents

theorem wf_rests (h : Rests s record a events root) : a.Wf s := by
  obtain ⟨e, -, he⟩ := h
  rw [← he.activity]
  exact he.wf.activity

/-- The session is not the one abandoned last. -/
theorem record_ne_rests {id : UInt64} (h : Rests s record a events root)
    (hid : a.identifier = some id) : record ≠ some id := by
  obtain ⟨e, -, he⟩ := h
  intro hrecord
  refine he.recorded.distinct id (he.abandoned.trans hrecord) ?_
  rw [he.activity, hid]

theorem config_rests (h : Rests s record a events root) : root.base.config = s.config := by
  obtain ⟨e, rfl, -⟩ := h
  rfl

/-! ## A transmission -/

namespace Stage

omit [Target] in
theorem Due.outputPending (h : Due n stage) : stage.outputPending = true := by
  cases h <;> rfl

omit [Target] in
theorem Due.pinned_peek (h : Due n stage) : stage.peek.pinned = true := by
  cases h <;> rfl

omit [Target] in
/-- The first commit counts no retry, every other one more. -/
theorem Due.commit_peek (h : Due n stage) (hn : n < 256) (nowMs : UInt32) :
    ∃ retries : UInt8, retries.toNat = n ∧
      stage.peek.commit nowMs = .awaitingAck retries nowMs := by
  cases h with
  | first => exact ⟨0, rfl, rfl⟩
  | again retries committedMs =>
      refine ⟨retries + 1, ?_, rfl⟩
      rw [UInt8.toNat_add]
      exact Nat.mod_eq_of_lt hn

end Stage

theorem rests_peek (hc : Carries s frame activity) (h : Rests s record (activity stage) events root)
    (hdue : stage.Due n)
    (hvalid : validateFrame frame s.config.maxApplicationMessageSize = .ok) :
    (step root (.peekOutput (some root.base.config.maxEncodedFrameSize))).1.bytes =
        encodedFrame frame ∧
      Rests s record (activity stage.peek) events
        (step root (.peekOutput (some root.base.config.maxEncodedFrameSize))).2 := by
  rw [config_rests h]
  have hroom := length_encodedFrame_le_frameSize s hvalid
  have hstep := rests_step h (.peekOutput (some s.config.maxEncodedFrameSize))
    { Response.ofStatus .ok with
      size := (encodedFrame frame).length
      bytes := encodedFrame frame } record (activity stage.peek) events (by
      intro e he
      have hselection : e.selection s = .reliable := by
        unfold Endpoint.selection
        rw [he.activity, hc.item, hc.control]
        exact if_pos hdue.outputPending
      refine ⟨{ e with activity := activity stage.peek }, ?_, rfl, he.intake, he.diagnostic,
        he.abandoned, he.events⟩
      unfold Endpoint.step Endpoint.peekOutput
      dsimp only
      rw [hselection, he.activity, hc.item]
      dsimp only
      rw [Endpoint.copyOut_room hroom, hc.mapStage]
      rfl)
  exact ⟨by rw [hstep.1], hstep.2⟩

theorem rests_commit (hc : Carries s frame activity)
    (h : Rests s record (activity stage) events root)
    (hpinned : stage.pinned = true) (nowMs : UInt32) :
    Rests s record (activity (stage.commit nowMs)) events (step root (.commitOutput nowMs)).2 := by
  refine (rests_step h _ (.ofStatus .ok) _ _ _ ?_).2
  intro e he
  have hreliable : e.reliablePinned s = true := by
    unfold Endpoint.reliablePinned
    rw [he.activity, hc.item]
    exact hpinned
  refine ⟨{ e with activity := activity (stage.commit nowMs) }, ?_, rfl, he.intake, he.diagnostic,
    he.abandoned, he.events⟩
  unfold Endpoint.step Endpoint.commitOutput
  dsimp only
  rw [if_pos hreliable, he.activity, hc.mapStage]

/-- A frame that is due is transmitted whole, and then awaits its answer. -/
theorem rests_transmit (hc : Carries s frame activity)
    (h : Rests s record (activity stage) events root) (hdue : stage.Due n) (hn : n < 256)
    (hvalid : validateFrame frame s.config.maxApplicationMessageSize = .ok) (nowMs : UInt32) :
    (transmit root nowMs).1 = encodedFrame frame ∧ ∃ retries : UInt8, retries.toNat = n ∧
      Rests s record (activity (.awaitingAck retries nowMs)) events (transmit root nowMs).2 := by
  obtain ⟨hbytes, hpeeked⟩ := rests_peek hc h hdue hvalid
  obtain ⟨retries, hretries, hcommit⟩ := hdue.commit_peek hn nowMs
  have hcommitted := rests_commit hc hpeeked hdue.pinned_peek nowMs
  rw [hcommit] at hcommitted
  exact ⟨hbytes, retries, hretries, hcommitted⟩

/-! ## Time -/

theorem calm_processed {e e' : Endpoint} (he : e.Calm s record a events)
    (hlink : a.linkState = .connected) {nowMs : UInt32} {status : Status}
    (hsettled : ({ e with operatingMode := .normal, operatingModeValid := true } :
      Endpoint).processSettled s nowMs = (status, e'))
    (hactivity : e'.activity = a') (hintake : e'.intake = .filling [])
    (hdiagnostic : e'.diagnosticPending = false) (habandoned : e'.abandoned = record')
    (hevents : e'.events.contents = events') :
    Rests s record' a' events' (processed (e.toRoot s) nowMs) := by
  have hidle : ¬(e.diagnosticPending = true ∨ e.intake.isReady = true) := by
    rw [he.diagnostic, he.intake]
    simp [Intake.isReady]
  have hconnected : e.activity.linkState ≠ .disconnected := by
    rw [he.activity, hlink]
    decide
  have hlisted : OperatingMode.normal.isListed = true := rfl
  have hstep : e.step s (.process nowMs .normal) = (.ofStatus status, e') := by
    unfold Endpoint.step Endpoint.process
    dsimp only
    rw [if_pos hlisted, if_neg hconnected, if_neg hidle]
    dsimp only
    rw [if_neg (not_not.mpr rfl), hsettled]
  exact (calm_step he hstep hactivity hintake hdiagnostic habandoned hevents).2

theorem rests_processed (h : Rests s record a events root) (hlink : a.linkState = .connected)
    {nowMs : UInt32} (hsettled : ∀ e : Endpoint, e.activity = a →
      e.processSettled s nowMs = (.ok, { e with activity := a' })) :
    Rests s record a' events (processed root nowMs) := by
  obtain ⟨e, rfl, he⟩ := h
  exact calm_processed he hlink (hsettled _ he.activity) rfl he.intake he.diagnostic he.abandoned
    he.events

/-- The timer has gone off for a late frame. -/
theorem timeout_late (retries : UInt8) {delay : Delay} (hlate : delay.Late s.config) :
    Endpoint.timeout s delay.dueMs (.awaitingAck retries delay.sentMs) =
      if retries < s.config.maxRetries then .retransmitReady retries delay.sentMs
      else .exhausted retries delay.sentMs := by
  have hdue : ¬(s.config.retransmitTimeoutMs = 0 ∨
      delay.dueMs - delay.sentMs < s.config.retransmitTimeoutMs) := by
    rintro (hzero | hearly)
    · exact hlate.1 hzero
    · exact UInt32.not_lt.mpr hlate.2 hearly
  unfold Endpoint.timeout Setup.retry
  exact if_neg hdue

/-- A lost transmission leaves the frame due, one transmission later. -/
theorem rests_lose (hc : Carries s frame activity) (h : Rests s record (activity stage) events root)
    (hdue : stage.Due n) (hn : n < s.config.maxRetries.toNat)
    (hvalid : validateFrame frame s.config.maxApplicationMessageSize = .ok) {delay : Delay}
    (hlate : delay.Late s.config) :
    ∃ next, next.Due (n + 1) ∧ Rests s record (activity next) events (lose root delay) := by
  have hmax := s.config.maxRetries.toNat_lt
  obtain ⟨-, retries, rfl, hsent⟩ := rests_transmit hc h hdue (by omega) hvalid delay.sentMs
  have htimeout := timeout_late retries hlate
  rw [if_pos (UInt8.lt_iff_toNat_lt.mpr hn)] at htimeout
  refine ⟨_, .again retries delay.sentMs, rests_processed hsent (hc.linkState _) ?_⟩
  intro e he
  rw [hc.settled he (by rw [htimeout]; simp [Stage.state]), htimeout]

theorem rests_losing (hc : Carries s frame activity)
    (hvalid : validateFrame frame s.config.maxApplicationMessageSize = .ok)
    {delays : List Delay} (hlate : ∀ delay ∈ delays, delay.Late s.config)
    (hn : n + delays.length ≤ s.config.maxRetries.toNat) (hdue : stage.Due n)
    (h : Rests s record (activity stage) events root) :
    ∃ next, next.Due (n + delays.length) ∧
      Rests s record (activity next) events (delays.foldl lose root) := by
  induction delays generalizing n stage root with
  | nil => exact ⟨stage, hdue, h⟩
  | cons delay rest ih =>
      rw [List.length_cons] at hn
      obtain ⟨next, hnext, hlost⟩ := rests_lose hc h hdue (by omega) hvalid
        (hlate delay List.mem_cons_self)
      obtain ⟨last, hlast, hrests⟩ := ih
        (fun delay hmem => hlate delay (List.mem_cons_of_mem _ hmem)) (by omega) hnext hlost
      refine ⟨last, ?_, hrests⟩
      rw [List.length_cons, Nat.add_comm rest.length, ← Nat.add_assoc]
      exact hlast

/-- Bytes without a zero fill the intake. -/
theorem feed_filling {bytes : List UInt8} (hzero : (0 : UInt8) ∉ bytes) {e : Endpoint}
    {front : List UInt8} (hintake : e.intake = .filling front)
    (hroom : front.length + bytes.length ≤ s.config.maxEncodedFrameSize - 1) :
    e.feed s bytes = (.ok, bytes.length, { e with intake := .filling (front ++ bytes) }) := by
  induction bytes generalizing e front with
  | nil =>
      rw [List.append_nil, ← hintake]
      rfl
  | cons byte rest ih =>
      rw [List.mem_cons, not_or] at hzero
      rw [List.length_cons] at hroom
      have hbyte : e.feedByte s byte = (.ok, { e with intake := .filling (front ++ [byte]) }) := by
        unfold Endpoint.feedByte
        rw [hintake]
        dsimp only
        rw [if_neg (fun h => hzero.1 h.symm), if_neg (by omega)]
      have hrest := ih hzero.2 (e := { e with intake := .filling (front ++ [byte]) }) rfl (by
        rw [List.length_append, List.length_singleton]
        omega)
      rw [Endpoint.feed_cons_ok (by rw [hbyte]), hbyte]
      dsimp only
      rw [hrest, List.append_assoc]
      rfl

theorem feed_singleton (e : Endpoint) (byte : UInt8) :
    e.feed s [byte] = ((e.feedByte s byte).1, 1, (e.feedByte s byte).2) := by
  by_cases hok : (e.feedByte s byte).1 = .ok
  · rw [Endpoint.feed_cons_ok hok, hok]
    rfl
  · exact Endpoint.feed_cons_fail hok []

/-- A whole frame is resolved at its zero. -/
theorem receiveBytes_frame {e : Endpoint} (he : e.Calm s record a events)
    (hlink : a.linkState = .connected) (hbound : a ≠ .recovering none)
    (hvalid : validateFrame frame s.config.maxApplicationMessageSize = .ok) :
    e.receiveBytes s (encodedFrame frame) =
      ((Endpoint.advanceIfOk s ((e.withIntake (.ready (cobsCode (rawFrame frame)))).attempt s frame
          (e.classify s frame))).1,
        (encodedFrame frame).length,
        (Endpoint.advanceIfOk s ((e.withIntake (.ready (cobsCode (rawFrame frame)))).attempt s frame
          (e.classify s frame))).2) := by
  have hroom := length_encodedFrame_le_frameSize s hvalid
  have hlength : (encodedFrame frame).length = (cobsCode (rawFrame frame)).length + 1 := by
    unfold encodedFrame
    rw [List.length_append, List.length_singleton]
  have hquiet : Endpoint.Quiet s e := by
    refine ⟨⟨he.diagnostic, by rw [he.intake]; rfl⟩, ?_⟩
    unfold Endpoint.advance
    rw [if_neg fun hnone => hbound (he.activity.symm.trans hnone.1)]
  have hfill := feed_filling (zero_not_mem_cobsCode (rawFrame frame)) he.intake (s := s) (by
    rw [List.length_nil]
    omega)
  rw [List.nil_append] at hfill
  rw [Endpoint.receiveBytes_quiet hquiet (by rw [he.activity, hlink]), hlength]
  unfold encodedFrame
  rw [Endpoint.feed_append_ok _ _ (by rw [hfill]), hfill]
  have hclassified : (e.withIntake (.ready (cobsCode (rawFrame frame)))).classifyBody s
      (cobsCode (rawFrame frame)) = (e.classify s frame, frame) :=
    Endpoint.classifyBody_decodes (decodeFrameView_cobsCode hvalid (Nat.le_refl _) s.rawSize_le)
  have hlast : ({ e with intake := .filling (cobsCode (rawFrame frame)) } : Endpoint).feedByte s 0 =
      Endpoint.advanceIfOk s ((e.withIntake (.ready (cobsCode (rawFrame frame)))).attempt s frame
        (e.classify s frame)) := by
    unfold Endpoint.feedByte
    dsimp only
    rw [if_pos rfl, if_neg (cobsCode_ne_nil _)]
    show Endpoint.advanceIfOk s ((e.withIntake (.ready (cobsCode (rawFrame frame)))).processBody s
      (cobsCode (rawFrame frame))) = _
    unfold Endpoint.processBody
    rw [hclassified]
  rw [feed_singleton, hlast]

/-- A frame arrives that the endpoint takes. -/
theorem calm_arrive {e e' : Endpoint} (he : e.Calm s record a events)
    (hlink : a.linkState = .connected) (hbound : a ≠ .recovering none)
    (hvalid : validateFrame frame s.config.maxApplicationMessageSize = .ok) {verdict : Verdict}
    (hverdict : e.classify s frame = verdict) (havailable : e.available verdict = true)
    (hresolve : ∀ intake, (e.withIntake intake).resolve s frame verdict = (.ok, e'))
    (hbound' : a' ≠ .recovering none) (hactivity : e'.activity = a')
    (hintake : e'.intake = .filling []) (hdiagnostic : e'.diagnosticPending = false)
    (habandoned : e'.abandoned = record') (hevents : e'.events.contents = events') :
    Rests s record' a' events' (arrive (e.toRoot s) (encodedFrame frame)) := by
  have hroom : (e.withIntake (.ready (cobsCode (rawFrame frame)))).available verdict = true := by
    rw [← havailable]
    cases verdict <;> rfl
  have hadvance : e'.advance s = e' := by
    unfold Endpoint.advance
    rw [if_neg fun hnone => hbound' (hactivity.symm.trans hnone.1)]
  have hresult := receiveBytes_frame he hlink hbound hvalid
  rw [hverdict] at hresult
  unfold Endpoint.attempt at hresult
  rw [if_pos hroom, hresolve] at hresult
  unfold Endpoint.advanceIfOk at hresult
  rw [if_pos rfl] at hresult
  dsimp only at hresult
  rw [hadvance] at hresult
  have hstep : e.step s (.receiveBytes (encodedFrame frame)) =
      ({ Response.ofStatus .ok with size := (encodedFrame frame).length }, e') := by
    unfold Endpoint.step
    dsimp only
    rw [hresult]
  exact (calm_step he hstep hactivity hintake hdiagnostic habandoned hevents).2

theorem rests_arrive (h : Rests s record a events root) (hlink : a.linkState = .connected)
    (hbound : a ≠ .recovering none) (hbound' : a' ≠ .recovering none)
    (hvalid : validateFrame frame s.config.maxApplicationMessageSize = .ok) (verdict : Verdict)
    (htaken : ∀ e : Endpoint, e.Calm s record a events → e.classify s frame = verdict ∧
      e.available verdict = true ∧ ∃ e' : Endpoint,
        (∀ intake, (e.withIntake intake).resolve s frame verdict = (.ok, e')) ∧
        e'.activity = a' ∧ e'.intake = .filling [] ∧ e'.diagnosticPending = false ∧
        e'.abandoned = record ∧ e'.events.contents = events') :
    Rests s record a' events' (arrive root (encodedFrame frame)) := by
  obtain ⟨e, rfl, he⟩ := h
  obtain ⟨hverdict, havailable, e', hresolve, hactivity, hintake, hdiagnostic, habandoned,
    hevents⟩ := htaken e he
  exact calm_arrive he hlink hbound hvalid hverdict havailable hresolve hbound' hactivity hintake
    hdiagnostic habandoned hevents

/-! ## The caller -/

/-- Few unread events leave room for one more. -/
theorem not_full {e : Endpoint} (h : e.Calm s record a events) (hroom : events.length < 4) :
    e.events.full = false := by
  rw [Bool.eq_false_iff, ne_eq, EventRing.full_iff, ← EventRing.length_contents, h.events]
  exact Nat.ne_of_lt hroom

theorem contents_push {e : Endpoint} (h : e.Calm s record a events) (hroom : events.length < 4)
    (event : Event) : (e.events.push event).contents = events ++ [event] := by
  rw [EventRing.contents_push h.wf.events (not_full h hroom), h.events]

theorem rests_readEvent {event : Event} (h : Rests s record a (event :: events) root) :
    (step root .readEvent).1.event = some event ∧
      Rests s record a events (step root .readEvent).2 := by
  have hstep := rests_step h .readEvent { Response.ofStatus .ok with event := some event } record a
    events (by
      intro e he
      have hcount : e.events.count ≠ 0 := by
        rw [← EventRing.length_contents, he.events]
        exact Nat.succ_ne_zero _
      have hcontents := EventRing.contents_pop hcount
      rw [he.events, List.cons.injEq] at hcontents
      refine ⟨{ e with events := e.events.pop }, ?_, he.activity, he.intake, he.diagnostic,
        he.abandoned, hcontents.2.symm⟩
      unfold Endpoint.step Endpoint.readEvent
      dsimp only
      rw [if_neg hcount, ← hcontents.1])
  exact ⟨by rw [hstep.1], hstep.2⟩

theorem rests_submit {id : UInt64} {x : Exchange} {payload : List UInt8}
    (h : Rests s record (.established id x) events root) (hidle : x.outgoing = none)
    (hpayload : s.PayloadWf payload) :
    (step root (.submitApplicationData payload)).1.status = .ok ∧
      Rests s record (.established id { x with outgoing := some (payload, .ready) }) events
        (step root (.submitApplicationData payload)).2 := by
  have hstep := rests_step h (.submitApplicationData payload) (.ofStatus .ok) record
    (.established id { x with outgoing := some (payload, .ready) }) events (by
      intro e he
      refine ⟨{ e with activity := .established id { x with outgoing := some (payload, .ready) } },
        ?_, rfl, he.intake, he.diagnostic, he.abandoned, he.events⟩
      have hbusy : ¬x.outgoing.isSome = true := by
        rw [hidle]
        exact Bool.false_ne_true
      unfold Endpoint.step Endpoint.submit
      dsimp only
      rw [if_neg hpayload.1, he.activity]
      dsimp only
      rw [if_neg (Nat.not_lt.mpr hpayload.2), if_neg hbusy])
  exact ⟨by rw [hstep.1]; rfl, hstep.2⟩

theorem rests_read {id : UInt64} {x : Exchange} {payload : List UInt8}
    (h : Rests s record (.established id x) events root) (hunread : x.unread = some payload)
    (hroom : payload.length ≤ s.config.maxApplicationMessageSize) :
    (step root (.readApplicationData (some root.base.config.maxApplicationMessageSize))).1.bytes =
        payload ∧
      Rests s record (.established id { x with unread := none }) events
        (step root
          (.readApplicationData (some root.base.config.maxApplicationMessageSize))).2 := by
  rw [config_rests h]
  have hstep := rests_step h (.readApplicationData (some s.config.maxApplicationMessageSize))
    { Response.ofStatus .ok with size := payload.length, bytes := payload } record
    (.established id { x with unread := none }) events (by
      intro e he
      refine ⟨{ e with activity := .established id { x with unread := none } }, ?_, rfl,
        he.intake, he.diagnostic, he.abandoned, he.events⟩
      unfold Endpoint.step Endpoint.readMessage
      dsimp only
      rw [he.activity]
      dsimp only
      rw [hunread]
      dsimp only
      rw [Endpoint.copyOut_room hroom]
      rfl)
  exact ⟨by rw [hstep.1], hstep.2⟩

/-- A control frame goes out when there is no reliable frame. -/
theorem rests_control {shown : Activity} (h : Rests s record a events root)
    (hitem : s.item a = none) (hitem' : s.item shown = none)
    (hcontrol : a.controlItem = some ⟨frame, false⟩) (hpeek : a.peekControl = shown)
    (hcontrol' : shown.controlItem = some ⟨frame, true⟩) (hcommit : shown.commitControl = a')
    (nowMs : UInt32) :
    (transmit root nowMs).1 = encodedFrame frame ∧
      Rests s record a' events (transmit root nowMs).2 := by
  have hroom := length_encodedFrame_le_frameSize s (controlItem_wf (wf_rests h) hcontrol).2
  have hpeeked := rests_step h (.peekOutput (some s.config.maxEncodedFrameSize))
    { Response.ofStatus .ok with
      size := (encodedFrame frame).length
      bytes := encodedFrame frame } record shown events (by
      intro e he
      have hselection : e.selection s = .control := by
        unfold Endpoint.selection
        rw [he.activity, hitem, hcontrol]
      refine ⟨{ e with activity := shown }, ?_, rfl, he.intake, he.diagnostic, he.abandoned,
        he.events⟩
      unfold Endpoint.step Endpoint.peekOutput
      dsimp only
      rw [hselection, he.activity, hcontrol]
      dsimp only
      rw [Endpoint.copyOut_room hroom, hpeek]
      rfl)
  have hcommitted := rests_step hpeeked.2 (.commitOutput nowMs) (.ofStatus .ok) record a' events
    (by
      intro e he
      have hreliable : e.reliablePinned s = false := by
        unfold Endpoint.reliablePinned
        rw [he.activity, hitem']
        rfl
      have hpinned : e.controlPinned = true := by
        unfold Endpoint.controlPinned
        rw [he.activity, hcontrol']
        rfl
      refine ⟨{ e with activity := a' }, ?_, rfl, he.intake, he.diagnostic, he.abandoned,
        he.events⟩
      unfold Endpoint.step Endpoint.commitOutput
      dsimp only
      rw [hreliable, if_neg Bool.false_ne_true, if_pos hpinned, he.activity, hcommit])
  unfold transmit
  rw [config_rests h]
  refine ⟨?_, hcommitted.2⟩
  dsimp only
  rw [hpeeked.1]

/-- An acknowledgement goes out when no message does. -/
theorem rests_answer {id : UInt64} {x : Exchange}
    (h : Rests s record (.established id { x with acknowledgement := some false }) events root)
    (hidle : x.outgoing = none) (nowMs : UInt32) :
    (transmit root nowMs).1 = encodedFrame (Handshake.controlFrame .ack id x.lastReceived) ∧
      Rests s record (.established id { x with acknowledgement := none }) events
        (transmit root nowMs).2 := by
  have hitem : ∀ acknowledgement, s.item
      (.established id { x with acknowledgement := acknowledgement }) = none := by
    intro acknowledgement
    rw [Endpoint.item_established, hidle]
    rfl
  exact rests_control h (hitem _) (hitem (some true)) rfl rfl rfl rfl nowMs

/-- The RESET of a session that this side has left. -/
theorem rests_announce {id : UInt64}
    (h : Rests s record (.recovering (some ⟨id, false⟩)) events root) (nowMs : UInt32) :
    (transmit root nowMs).1 = encodedFrame (Handshake.controlFrame .reset id 0) ∧
      Rests s record (.recovering none) events (transmit root nowMs).2 :=
  rests_control h rfl rfl rfl rfl rfl rfl nowMs

end

end HilRigProtocol.Transport
