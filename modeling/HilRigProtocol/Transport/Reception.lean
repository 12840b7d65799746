/-
  The receive side of an established session.

  A message that is accepted is retained and acknowledged in one step, the caller takes it
  out, and no other step touches it. What a complete body does to an established session
  is decided by its verdict and by the two free places.
-/
import HilRigProtocol.Transport.Transmissions

namespace HilRigProtocol.Transport

/-- The receive side of an established session. -/
structure Reception where
  identifier : UInt64
  lastReceived : UInt16
  messageReceived : Bool
  unread : Option (List UInt8)

def Activity.reception : Activity → Option Reception
  | established id x => some ⟨id, x.lastReceived, x.messageReceived, x.unread⟩
  | _ => none

theorem reception_established (id : UInt64) (x : Exchange) :
    (Activity.established id x).reception =
      some ⟨id, x.lastReceived, x.messageReceived, x.unread⟩ := rfl

theorem established_of_reception {a : Activity} {r : Reception} (h : a.reception = some r) :
    ∃ x : Exchange, a = .established r.identifier x ∧ x.lastReceived = r.lastReceived ∧
      x.messageReceived = r.messageReceived ∧ x.unread = r.unread := by
  cases a with
  | established id x =>
      cases h
      exact ⟨x, rfl, rfl, rfl, rfl⟩
  | _ => cases h

theorem reception_mapStage (f : Stage → Stage) (a : Activity) :
    (a.mapStage f).reception = a.reception := by
  cases a <;> rfl

theorem reception_none {a : Activity} (h : a.sessionState ≠ .established) : a.reception = none := by
  cases a with
  | established id x => exact absurd rfl h
  | _ => rfl

namespace Endpoint

section
variable [Target] (s : Setup)

/-! ## What a step does to the receive side -/

inductive Received (e : Endpoint) (call : Call) (e' : Endpoint) : Prop
  | same : e'.activity.reception = e.activity.reception → Received e call e'
  | ended : e'.activity.reception = none → Received e call e'
  /-- The handshake is complete, and its last frame is the last one received. -/
  | opened {body : List UInt8} {frame : Frame} {id : UInt64} {received : UInt16} :
      e.offered call = some body → Decodes s body frame → frame.type ≠ .applicationMessage →
      e.activity.reception = none → e'.activity.reception = some ⟨id, received, false, none⟩ →
      (s.role = .host → s.accepted e.activity = some ⟨received, .response, s.firstSequence⟩) →
      Received e call e'
  /-- A message in order is retained and acknowledged. -/
  | taken {body : List UInt8} {frame : Frame} {last : Accepted} :
      e.offered call = some body → Decodes s body frame → frame.type = .applicationMessage →
      e.activity.identifier = some frame.sessionIdentifier →
      s.accepted e.activity = some last → frame.sequence = last.sequence + 1 →
      e.activity.unread = none → e.activity.controlItem = none →
      (e.activity.reception = none → s.role = .host ∧ last.type = .response) →
      e'.activity.reception =
        some ⟨frame.sessionIdentifier, frame.sequence, true, some frame.payload⟩ →
      e'.activity.controlItem =
        some ⟨Handshake.controlFrame .ack frame.sessionIdentifier frame.sequence, false⟩ →
      Received e call e'
  | read {size : Nat} {payload : List UInt8} {r : Reception} :
      call = .readApplicationData (some size) → payload.length ≤ size →
      e.activity.reception = some r → r.unread = some payload →
      e'.activity.reception = some { r with unread := none } → Received e call e'

variable {s}

theorem takes_received {e e₀ e' : Endpoint} {call : Call} {body : List UInt8} {frame : Frame}
    (hwf : e.activity.Wf s) (hactivity : e₀.activity = e.activity)
    (hbody : e.offered call = some body) (hdecode : Decodes s body frame)
    (h : Takes s e₀ frame e') : Received s e call e'.release := by
  cases h with
  | duplicate | repeatDue => exact .same (by rw [← hactivity]; rfl)
  | repeatInitiate ha | repeatResponse ha | adopt ha | response ha | repeatAck ha | delivery ha =>
      rw [hactivity] at ha
      exact .same (by rw [ha]; rfl)
  | @confirm received stage ha htype =>
      rw [hactivity] at ha
      refine .opened hbody hdecode (by rw [htype]; simp) (by rw [ha]; rfl) rfl ?_
      intro hhost
      rw [ha] at hwf
      rw [hwf.1] at hhost
      cases hhost
  | @confirmAck received stage ha htype =>
      rw [hactivity] at ha
      exact .opened hbody hdecode (by rw [htype]; simp) (by rw [ha]; rfl) rfl
        fun _ => by rw [ha]; rfl
  | @prove received stage ha htype hseq =>
      rw [hactivity] at ha
      refine .taken hbody hdecode htype (by rw [ha]; rfl) (by rw [ha]; rfl) hseq (by rw [ha]; rfl)
        (by rw [ha]; rfl) ?_ rfl rfl
      rw [ha] at hwf
      exact fun _ => ⟨hwf.1, rfl⟩
  | @message x ha htype hseq hunread hfree =>
      rw [hactivity] at ha
      obtain ⟨last, hlast, hsequence⟩ := @accepted_established _ s frame.sessionIdentifier x
      refine .taken hbody hdecode htype (by rw [ha]; rfl) (by rw [ha]; exact hlast)
        (by rw [hsequence]; exact hseq) (by rw [ha]; exact hunread)
        (by rw [ha, controlItem_established, hfree]; rfl) ?_ rfl rfl
      intro hnone
      rw [ha] at hnone
      cases hnone

theorem reception_begun (e : Endpoint) : (e.beginEstablishment s).activity.reception = none := by
  unfold beginEstablishment
  split_ifs <;> rfl

theorem receipt_received {e e₀ e' : Endpoint} {call : Call} (hwf : e.activity.Wf s)
    (hactivity : e₀.activity = e.activity) (h : Receipt s e₀ (e.offered call) e') :
    Received s e call e' := by
  cases h with
  | idle hsame _ => exact .same (by rw [hsame.activity, hactivity])
  | take hbody _ hdecode _ htakes => exact takes_received hwf hactivity hbody hdecode htakes
  | reject _ _ hbarrier =>
      refine .ended ?_
      rw [activity_rejectSession hbarrier]
      rfl
  | reset => exact .ended (reception_begun _)

theorem tick_received {e e₀ e' : Endpoint} {call : Call} {nowMs : UInt32}
    (hactivity : e₀.activity = e.activity) (h : Tick s e₀ nowMs e') : Received s e call e' := by
  cases h with
  | idle => exact .same (by rw [hactivity])
  | initiate ha | response ha | confirm ha =>
      rw [hactivity] at ha
      exact .same (by rw [ha]; rfl)
  | retry | hold => exact .same (by rw [reception_mapStage, hactivity])
  | fail | lose =>
      refine .ended ?_
      rw [activity_beginLocalRecovery]
      rfl

/-- What a step does to the receive side. -/
theorem deed_received {e e' : Endpoint} {call : Call} (hwf : e.activity.Wf s)
    (h : Deed s e call e') : Received s e call e' := by
  cases h with
  | idle | readEvent => exact .same rfl
  | work _ hwork =>
      obtain ⟨hactivity, _⟩ := recorded_fields e call
      cases hwork with
      | receipt hreceipt hadvances =>
          rcases hadvances with rfl | ⟨_, rfl⟩
          · exact receipt_received hwf hactivity hreceipt
          · exact .ended (reception_begun _)
      | tick _ htick => exact tick_received hactivity htick
  | showReliable | commitReliable => exact .same (reception_mapStage _ _)
  | showControl =>
      refine .same ?_
      show e.activity.peekControl.reception = _
      cases e.activity <;> rfl
  | commitControl =>
      refine .same ?_
      show e.activity.commitControl.reception = _
      cases e.activity <;> rfl
  | submit _ _ _ ha => exact .same (by rw [ha]; rfl)
  | @readMessage size id x payload hcall ha hunread hsize =>
      exact .read hcall hsize (by rw [ha]; rfl) hunread rfl
  | reset =>
      refine .ended (reception_none ?_)
      show e.reset.activity.sessionState ≠ _
      unfold Endpoint.reset
      cases e.activity <;> exact fun h => by cases h
  | observe => exact .ended rfl
  | disconnect =>
      refine .ended ?_
      rw [(abandon_fields _ _ _).1]
      rfl
  | connect => exact .ended (reception_begun _)

/-! ## What becomes of a complete body -/

theorem ready_connected {e : Endpoint} (h : e.Wf s) {body : List UInt8}
    (hi : e.intake = .ready body) :
    e.activity.linkState = .connected ∧ e.diagnosticPending = false ∧
      e.withIntake (.ready body) = e := by
  refine ⟨?_, ?_, ?_⟩
  · refine linkState_connected fun hlink => ?_
    rw [(h.disconnected hlink).1] at hi
    cases hi
  · rw [← Bool.not_eq_true]
    intro hd
    rw [h.diagnostic hd] at hi
    cases hi
  · rw [← hi]
    rfl

theorem settle_ready {e : Endpoint} (h : e.Wf s) {body : List UInt8}
    (hi : e.intake = .ready body) :
    e.settle s = advanceIfOk s ((e.withIntake (.ready body)).processBody s body) := by
  obtain ⟨_, hd, hsame⟩ := ready_connected h hi
  have hbody : e.settleBody s = e.processBody s body := by
    unfold settleBody
    rw [hi]
  unfold settle settleDiagnostic
  rw [hd, if_neg (by simp), hsame]
  dsimp only
  rw [if_neg (by simp), hbody]

/-- An atomic call that is offered a body resolves it, or leaves it for want of a place. -/
theorem step_resolves {e : Endpoint} (h : e.Wf s) {call : Call} (hatomic : Atomic s e call)
    {body : List UInt8} (hbody : e.offered call = some body) :
    (e.step s call).2 =
      (advanceIfOk s ((e.withIntake (.ready body)).processBody s body)).2.recorded call := by
  have hready : e.intake.body = some body → e.intake = .ready body := by
    intro hsome
    cases hi : e.intake <;> rw [hi] at hsome <;> cases hsome
    rfl
  cases hatomic with
  | settle =>
      have hi := hready hbody
      obtain ⟨hlink, _, _⟩ := ready_connected h hi
      rw [step_receiveBytes_state, receiveBytes_nil hlink, settle_ready h hi]
      rfl
  | byte byte hquiet hlink =>
      rw [step_byte hquiet hlink]
      unfold offered at hbody
      unfold feedByte
      cases hi : e.intake with
      | filling bytes =>
          rw [hi] at hbody
          dsimp only at hbody ⊢
          split_ifs at hbody with hcomplete
          cases hbody
          rw [if_pos hcomplete.1, if_neg hcomplete.2]
          rfl
      | _ =>
          rw [hi] at hbody
          cases hbody
  | progress nowMs operatingMode hmode hquiet =>
      rw [show e.offered (.process nowMs operatingMode) = e.intake.body from if_pos hmode] at hbody
      have hidle := hquiet.settled.intake
      rw [hready hbody] at hidle
      cases hidle
  | stalled nowMs operatingMode hmode hfail hlink =>
      rw [show e.offered (.process nowMs operatingMode) = e.intake.body from if_pos hmode] at hbody
      have hi := hready hbody
      show (e.process s nowMs operatingMode).2 = _
      rw [process_stalled hmode hfail hlink, settle_ready h hi, recorded_listed _ nowMs hmode]
  | away nowMs operatingMode haway =>
      rcases haway with hmode | hlink
      · rw [show e.offered (.process nowMs operatingMode) = none from if_neg (by simp [hmode])]
          at hbody
        cases hbody
      · exfalso
        have hempty := (h.disconnected hlink).1
        unfold offered at hbody
        rw [hempty] at hbody
        dsimp only [Intake.body] at hbody
        split_ifs at hbody
  | other hdata hprocess =>
      cases call with
      | receiveBytes data => exact absurd rfl (hdata data)
      | process nowMs operatingMode => exact absurd rfl (hprocess nowMs operatingMode)
      | _ => cases hbody

theorem step_offered {e : Endpoint} (h : e.Wf s) {call : Call} (hatomic : Atomic s e call)
    {body : List UInt8} (hbody : e.offered call = some body) :
    (e.step s call).2.activity =
      (advanceIfOk s ((e.withIntake (.ready body)).processBody s body)).2.activity := by
  rw [step_resolves h hatomic hbody]
  exact (recorded_fields _ call).1

/-! ## Verdicts on an established session -/

theorem classify_foreign {e : Endpoint} {id : UInt64} {x : Exchange} {frame : Frame}
    (ha : e.activity = .established id x) (hid : id ≠ frame.sessionIdentifier) :
    e.classify s frame =
      if e.abandoned = some frame.sessionIdentifier then .obsolete else .incompatible := by
  have hidentifier : e.activity.identifier = some id := by
    rw [ha]
    rfl
  have hother : e.activity.identifier ≠ some frame.sessionIdentifier := by
    rw [hidentifier]
    exact fun h => hid (Option.some.inj h)
  unfold classify
  by_cases hold : e.abandoned = some frame.sessionIdentifier
  · rw [if_pos ⟨hold, hother⟩, if_pos hold]
  · rw [if_neg fun h => hold h.1, if_neg (by rw [ha]; simp),
      if_pos ⟨by rw [hidentifier]; rfl, hother⟩, if_neg hold]

theorem classify_current {e : Endpoint} {frame : Frame}
    (hid : e.activity.identifier = some frame.sessionIdentifier) :
    e.classify s frame = e.classifyByType s frame := by
  have hbound : e.activity ≠ .waitingForInitiate := by
    intro ha
    rw [ha] at hid
    cases hid
  unfold classify
  rw [if_neg fun h => h.2 hid, if_neg fun h => hbound h.1, if_neg fun h => h.2 hid]

/-- RESET of the session that is bound. -/
theorem classify_reset {e : Endpoint} {frame : Frame} (hwf : e.activity.Wf s)
    (hid : e.activity.identifier = some frame.sessionIdentifier) (htype : frame.type = .reset) :
    e.classify s frame = .acceptReset := by
  rw [classify_current hid, classifyByType_reset e htype,
    if_neg (by simp [identifier_wf hwf hid]), if_pos (by rw [hid]; rfl)]

theorem classify_acceptMessage {e : Endpoint} {id : UInt64} {x : Exchange} {frame : Frame}
    (ha : e.activity = .established id x) :
    e.classify s frame = .acceptMessage ↔
      frame.type = .applicationMessage ∧ frame.sessionIdentifier = id ∧
        frame.sequence = x.lastReceived + 1 := by
  constructor
  · intro hv
    have hexplains := @classify_explains _ s e frame
    rw [hv] at hexplains
    obtain ⟨x', ha', htype, hseq⟩ := hexplains
    rw [ha] at ha'
    cases ha'
    exact ⟨htype, rfl, hseq⟩
  · rintro ⟨htype, rfl, hseq⟩
    rw [classify_current (by rw [ha]; rfl)]
    unfold classifyByType Activity.classifyMessage sequenceAfter
    rw [htype, ha]
    dsimp only
    rw [if_pos hseq]

theorem classify_acceptReset {e : Endpoint} {id : UInt64} {x : Exchange} {frame : Frame}
    (hwf : e.activity.Wf s) (ha : e.activity = .established id x) :
    e.classify s frame = .acceptReset ↔
      frame.type = .reset ∧ frame.sessionIdentifier = id := by
  constructor
  · intro hv
    have hexplains := @classify_explains _ s e frame
    rw [hv] at hexplains
    obtain ⟨hid, htype⟩ := hexplains
    rw [ha] at hid
    cases hid
    exact ⟨htype, rfl⟩
  · rintro ⟨htype, rfl⟩
    exact classify_reset hwf (by rw [ha]; rfl) htype

theorem classifyBody_decodes {e : Endpoint} {body : List UInt8} {frame : Frame}
    (h : Decodes s body frame) : e.classifyBody s body = (e.classify s frame, frame) := by
  unfold Decodes at h
  unfold classifyBody
  rw [h]
  dsimp only
  rw [if_neg (by simp)]

/-! ## The transitions of an established session -/

theorem processBody_incompatible {e : Endpoint} {id : UInt64} {x : Exchange} {body : List UInt8}
    (ha : e.activity = .established id x) (hv : (e.classifyBody s body).1 = .incompatible) :
    ((e.withIntake (.ready body)).processBody s body).2.activity =
      .recovering (some ⟨id, false⟩) := by
  have hclass : ((e.withIntake (.ready body)).classifyBody s body).1 = .incompatible := hv
  unfold processBody attempt
  dsimp only
  rw [hclass, if_pos (by rfl)]
  show (e.withIntake (.ready body)).rejectSession.2.activity = _
  rw [rejectSession_withIntake, activity_rejectSession (by rw [ha]; simp), ha]
  rfl

theorem processBody_message {e : Endpoint} {id : UInt64} {x : Exchange} {body : List UInt8}
    (ha : e.activity = .established id x) (hv : (e.classifyBody s body).1 = .acceptMessage) :
    ((e.withIntake (.ready body)).processBody s body).2.activity =
      if x.unread = none ∧ x.acknowledgement = none then
        .established id (x.receive (e.classifyBody s body).2)
      else .established id x := by
  have hclass : (e.withIntake (.ready body)).classifyBody s body = e.classifyBody s body := rfl
  have ha' : (e.withIntake (.ready body)).activity = .established id x := ha
  unfold processBody attempt available
  dsimp only
  rw [hclass, hv, ha']
  dsimp only
  by_cases hfree : x.unread = none ∧ x.acknowledgement = none
  · rw [if_pos hfree, if_pos (by simp [hfree.1, hfree.2])]
    unfold resolve accept release
    rw [ha']
  · rw [if_neg hfree, if_neg (by simpa using hfree)]
    exact ha

/-- Every other body leaves the receive side as it is. -/
theorem processBody_kept {e : Endpoint} {id : UInt64} {x : Exchange} {body : List UInt8}
    (hwf : e.activity.Wf s) (ha : e.activity = .established id x)
    (hincompatible : (e.classifyBody s body).1 ≠ .incompatible)
    (hreset : (e.classifyBody s body).1 ≠ .acceptReset)
    (hmessage : (e.classifyBody s body).1 ≠ .acceptMessage) :
    ((e.withIntake (.ready body)).processBody s body).2.activity.reception =
      e.activity.reception := by
  have hother : ∀ {a : Activity}, e.activity = a → a.identifier = none ∨
      a.sessionState = .connecting → False := by
    rintro a rfl hnot
    rw [ha] at hnot
    rcases hnot with hnot | hnot <;> cases hnot
  have hreceipt := @processBody_receipt _ s e body
  generalize ((e.withIntake (.ready body)).processBody s body).2 = e' at hreceipt ⊢
  cases hreceipt with
  | idle hsame _ => rw [hsame.activity]
  | take hbody _ hdecode _ htakes =>
      cases hbody
      cases htakes with
      | duplicate => rfl
      | repeatAck hactivity | delivery hactivity =>
          rw [hactivity]
          rfl
      | message hactivity htype hseq =>
          rw [classifyBody_decodes hdecode] at hmessage
          exact absurd ((classify_acceptMessage hactivity).mpr ⟨htype, rfl, hseq⟩) hmessage
      | repeatDue hactivity =>
          rcases hactivity with ⟨hactivity, _⟩ | ⟨hactivity, _⟩ <;>
            exact (hother hactivity (Or.inr rfl)).elim
      | repeatInitiate hactivity | repeatResponse hactivity | response hactivity
      | confirm hactivity | confirmAck hactivity | prove hactivity =>
          exact (hother hactivity (Or.inr rfl)).elim
      | adopt hactivity => exact (hother hactivity (Or.inl rfl)).elim
  | reject hbody hv =>
      cases hbody
      exact absurd hv hincompatible
  | reset hbody hdecode hcurrent htype =>
      cases hbody
      rw [classifyBody_decodes hdecode] at hreset
      rw [ha] at hcurrent
      exact absurd ((classify_acceptReset hwf ha).mpr
        ⟨htype, (Option.some.inj hcurrent).symm⟩) hreset

theorem activity_advanceIfOk {result : Status × Endpoint}
    (h : result.2.activity ≠ .recovering none) :
    (advanceIfOk s result).2.activity = result.2.activity := by
  rcases @advances_advanceIfOk _ s result with heq | ⟨ha, _⟩
  · rw [heq]
  · exact absurd ha h

/-- A body that the session cannot go on after. -/
theorem step_incompatible {e : Endpoint} (h : e.Wf s) {call : Call} (hatomic : Atomic s e call)
    {id : UInt64} {x : Exchange} (ha : e.activity = .established id x) {body : List UInt8}
    (hbody : e.offered call = some body) (hv : (e.classifyBody s body).1 = .incompatible) :
    (e.step s call).2.activity = .recovering (some ⟨id, false⟩) := by
  have hresolved := processBody_incompatible ha hv
  rw [step_offered h hatomic hbody, activity_advanceIfOk (by rw [hresolved]; simp), hresolved]

/-- A message in order. -/
theorem step_message {e : Endpoint} (h : e.Wf s) {call : Call} (hatomic : Atomic s e call)
    {id : UInt64} {x : Exchange} (ha : e.activity = .established id x) {body : List UInt8}
    (hbody : e.offered call = some body) (hv : (e.classifyBody s body).1 = .acceptMessage) :
    (e.step s call).2.activity =
      if x.unread = none ∧ x.acknowledgement = none then
        .established id (x.receive (e.classifyBody s body).2)
      else .established id x := by
  have hresolved := processBody_message ha hv
  have hnot : ((e.withIntake (.ready body)).processBody s body).2.activity ≠ .recovering none := by
    rw [hresolved]
    split_ifs <;> simp
  rw [step_offered h hatomic hbody, activity_advanceIfOk hnot, hresolved]

/-- Any other body, short of a RESET. -/
theorem step_kept {e : Endpoint} (h : e.Wf s) {call : Call} (hatomic : Atomic s e call)
    {id : UInt64} {x : Exchange} (ha : e.activity = .established id x) {body : List UInt8}
    (hbody : e.offered call = some body)
    (hincompatible : (e.classifyBody s body).1 ≠ .incompatible)
    (hreset : (e.classifyBody s body).1 ≠ .acceptReset)
    (hmessage : (e.classifyBody s body).1 ≠ .acceptMessage) :
    (e.step s call).2.activity.reception = e.activity.reception := by
  have hresolved := processBody_kept h.activity ha hincompatible hreset hmessage
  have hnot : ((e.withIntake (.ready body)).processBody s body).2.activity ≠ .recovering none := by
    intro hother
    rw [hother, ha] at hresolved
    cases hresolved
  rw [step_offered h hatomic hbody, activity_advanceIfOk hnot, hresolved]

end

end Endpoint

end HilRigProtocol.Transport
