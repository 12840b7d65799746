/-
  Every operation of the abstract endpoint keeps it well formed.
-/
import HilRigProtocol.Transport.EndpointStep
import HilRigProtocol.Transport.Verdicts

namespace HilRigProtocol.Transport

/-! ## Stages -/

theorem Stage.wf_peek {stage : Stage} {maxRetries : UInt8} (h : stage.Wf maxRetries) :
    stage.peek.Wf maxRetries := by
  cases stage <;> trivial

theorem Stage.wf_commit {stage : Stage} {maxRetries : UInt8} (nowMs : UInt32)
    (h : stage.Wf maxRetries) : (stage.commit nowMs).Wf maxRetries := by
  cases stage with
  | peeked => exact UInt8.zero_le
  | retransmitPeeked retries ms =>
      have hlt : retries.toNat < maxRetries.toNat := h
      have hmax := maxRetries.toNat_lt
      show (retries + 1).toNat ≤ maxRetries.toNat
      rw [UInt8.toNat_add]
      simp only [UInt8.toNat_one]
      omega
  | _ => exact h

theorem Stage.pinned_commit {stage : Stage} (nowMs : UInt32) :
    (stage.commit nowMs).pinned = false := by
  cases stage <;> rfl

/-! ## The event ring -/

namespace EventRing

theorem full_iff {ring : EventRing} : ring.full = true ↔ ring.count = eventQueueCapacity := by
  simp [full]

theorem slot_ne {ring : EventRing} {i j : Nat} (hi : i < j) (hj : j < eventQueueCapacity) :
    ring.slot i ≠ ring.slot j := by
  intro h
  have hval := congrArg Fin.val h
  simp only [slot, Fin.val_ofNat, eventQueueCapacity] at hval hj
  omega

theorem wf_push {ring : EventRing} (h : ring.Wf) (hfull : ring.full = false) {event : Event}
    (hevent : Events.valueIsValid event = true) : (ring.push event).Wf where
  readIndex_lt := h.readIndex_lt
  count_le := by
    have hne : ring.count ≠ eventQueueCapacity := fun hc => by
      rw [full_iff.mpr hc] at hfull
      cases hfull
    have := h.count_le
    simp only [push]
    omega
  valid := by
    have hne : ring.count ≠ eventQueueCapacity := fun hc => by
      rw [full_iff.mpr hc] at hfull
      cases hfull
    have hle := h.count_le
    intro offset hoffset
    show Events.valueIsValid
      (Function.update ring.queue (ring.slot ring.count) event (ring.slot offset)) = true
    by_cases hlast : offset = ring.count
    · rw [hlast, Function.update_self]
      exact hevent
    · have hlt : offset < ring.count := by
        simp only [push] at hoffset
        omega
      rw [Function.update_of_ne (slot_ne hlt (by omega))]
      exact h.valid offset hlt

theorem wf_pop {ring : EventRing} (h : ring.Wf) : ring.pop.Wf where
  readIndex_lt := by
    simp only [pop]
    split_ifs
    · decide
    · exact Nat.mod_lt _ (by decide)
  count_le := by
    have := h.count_le
    simp only [pop]
    omega
  valid := by
    intro offset hoffset
    have hlt : offset + 1 < ring.count := by
      simp only [pop] at hoffset
      omega
    have hslot : ring.pop.slot offset = ring.slot (offset + 1) := by
      apply Fin.ext
      simp only [slot, pop, Fin.val_ofNat]
      rw [if_neg (by omega)]
      simp only [eventQueueCapacity]
      omega
    rw [hslot]
    exact h.valid (offset + 1) hlt

theorem wf_clear (ring : EventRing) : ring.clear.Wf where
  readIndex_lt := Nat.zero_lt_succ 3
  count_le := Nat.zero_le _
  valid := fun _ h => absurd h (Nat.not_lt_zero _)

end EventRing

theorem resetEvent_valid {failure : Failure} (h : failure.isListed = true) :
    Events.valueIsValid (Endpoint.resetEvent failure) = true := by
  cases failure <;> first | rfl | cases h

theorem successorIdentifier_isValid {cursor : UInt64} (h : sessionIdentifierIsValid cursor = true) :
    sessionIdentifierIsValid (Session.successorIdentifier cursor) = true := by
  have h1 : cursor ≠ sessionSeedReserved := by
    intro heq
    rw [heq] at h
    cases h
  unfold Session.successorIdentifier
  split_ifs with hlast
  · rfl
  · simp only [sessionIdentifierIsValid, Bool.and_eq_true, bne_iff_ne, ne_eq]
    constructor
    · intro hzero
      apply h1
      have : cursor = 0 - 1 := by rw [← show cursor + 1 = (0 : UInt64) from hzero]; simp
      rw [this]
      rfl
    · intro hmax
      apply hlast
      rw [← show cursor + 1 = sessionSeedReserved from hmax]
      simp

theorem Activity.linkState_mapStage (a : Activity) (f : Stage → Stage) :
    (a.mapStage f).linkState = a.linkState := by
  cases a <;> rfl

namespace Endpoint

theorem publish_fields (e : Endpoint) (event : Event) :
    (e.publish event).2.activity = e.activity ∧ (e.publish event).2.intake = e.intake ∧
      (e.publish event).2.diagnosticPending = e.diagnosticPending := by
  unfold publish
  split_ifs <;> exact ⟨rfl, rfl, rfl⟩

theorem publish_status (e : Endpoint) (event : Event) :
    (e.publish event).1 = if e.events.full then .capacityExhausted else .ok := by
  unfold publish
  split_ifs <;> rfl

theorem full_of_publish_ok {e : Endpoint} {event : Event} (h : (e.publish event).1 = .ok) :
    e.events.full = false := by
  rw [publish_status] at h
  by_contra hfull
  rw [if_pos (by simpa using hfull)] at h
  cases h

theorem abandon_fields (e : Endpoint) (next : Activity) (failure : Failure) :
    (e.abandon next failure).2.activity = next ∧
      (e.abandon next failure).2.intake = .filling [] ∧
      (e.abandon next failure).2.diagnosticPending = false :=
  publish_fields _ _

/-- A session that is given up while its recovery RESET waits. -/
theorem rejectSession_pending {e : Endpoint} {reset : RecoveryReset}
    (h : e.activity = .recovering (some reset)) :
    e.rejectSession =
      ((e.publish Receive.protocolErrorEvent).1,
        { (e.publish Receive.protocolErrorEvent).2.release with
          diagnosticPending := e.events.full }) := by
  unfold rejectSession
  rw [h]

/-- A session that is given up otherwise. -/
theorem rejectSession_recover {e : Endpoint} (h : ∀ reset, e.activity ≠ .recovering (some reset)) :
    e.rejectSession =
      (if (e.publish Receive.protocolErrorEvent).1 = .ok then
          ((e.publish Receive.protocolErrorEvent).2.beginLocalRecovery .protocol).1
        else .capacityExhausted,
        { ((e.publish Receive.protocolErrorEvent).2.beginLocalRecovery .protocol).2 with
          diagnosticPending := e.events.full }) := by
  unfold rejectSession
  cases ha : e.activity with
  | recovering reset =>
      cases reset with
      | none => rfl
      | some reset => exact absurd ha (h reset)
  | _ => rfl

theorem beginLocalRecovery_fields (e : Endpoint) (failure : Failure) :
    (e.beginLocalRecovery failure).2.activity.linkState = .connected ∧
      (e.beginLocalRecovery failure).2.intake = .filling [] ∧
      (e.beginLocalRecovery failure).2.diagnosticPending = false := by
  obtain ⟨ha, hi, hd⟩ := abandon_fields e
    (.recovering (e.activity.identifier.map fun id => ⟨id, false⟩)) failure
  exact ⟨(congrArg Activity.linkState ha).trans rfl, hi, hd⟩

theorem linkState_rejectSession {e : Endpoint} (hlink : e.activity.linkState = .connected) :
    e.rejectSession.2.activity.linkState = .connected := by
  by_cases h : ∃ reset, e.activity = .recovering (some reset)
  · obtain ⟨reset, hr⟩ := h
    rw [rejectSession_pending hr]
    show (e.publish Receive.protocolErrorEvent).2.activity.linkState = .connected
    rw [(publish_fields e _).1, hlink]
  · rw [rejectSession_recover (not_exists.mp h)]
    exact (beginLocalRecovery_fields _ _).1

end Endpoint

section
variable [Target] {s : Setup}

theorem Setup.wf_retry {stage : Stage} (h : stage.Wf s.config.maxRetries) :
    (s.retry stage).Wf s.config.maxRetries := by
  cases stage with
  | awaitingAck retries ms =>
      simp only [Setup.retry]
      split_ifs with hlt
      · exact hlt
      · exact UInt8.le_antisymm h (UInt8.not_lt.mp hlt)
  | _ => exact h

theorem Setup.pinned_retry {stage : Stage} : (s.retry stage).pinned = stage.pinned := by
  cases stage with
  | awaitingAck retries ms =>
      simp only [Setup.retry]
      split_ifs <;> rfl
  | _ => rfl

theorem timeout_cases (nowMs : UInt32) (stage : Stage) :
    Endpoint.timeout s nowMs stage = stage ∨ Endpoint.timeout s nowMs stage = s.retry stage := by
  cases stage with
  | awaitingAck retries ms =>
      simp only [Endpoint.timeout]
      split_ifs
      · exact Or.inl rfl
      · exact Or.inr rfl
  | _ => exact Or.inl rfl

/-! ## Activities -/

theorem identifier_wf {a : Activity} (h : a.Wf s) {id : UInt64} (hid : a.identifier = some id) :
    sessionIdentifierIsValid id = true := by
  cases a <;> simp only [Activity.identifier, Option.some.injEq, reduceCtorEq] at hid <;> subst hid
  · exact h.2
  · exact h.2.1
  · exact h.2
  · exact h.2.1
  · exact h.2
  · exact h.2.1
  · exact h.1

/-- A map of the stage that keeps the counters, and pins only what it may. -/
theorem Activity.wf_mapStage {a : Activity} (h : a.Wf s) {f : Stage → Stage}
    (hf : ∀ stage : Stage, stage.Wf s.config.maxRetries → (f stage).Wf s.config.maxRetries)
    (hpin : ∀ id x payload stage, a = .established id x → x.outgoing = some (payload, stage) →
      (f stage).pinned = true → x.acknowledgement ≠ some true) :
    (a.mapStage f).Wf s := by
  cases a with
  | waitingForResponse id stage => exact ⟨h.1, h.2.1, hf _ h.2.2⟩
  | waitingForConfirm id received stage => exact ⟨h.1, h.2.1, hf _ h.2.2⟩
  | waitingForConfirmAck id received stage => exact ⟨h.1, h.2.1, hf _ h.2.2⟩
  | established id x =>
      refine ⟨h.1, ?_, h.2.unread, ?_⟩
      · intro payload stage hout
        obtain ⟨outgoing, ho, heq⟩ := Option.map_eq_some_iff.mp hout
        cases heq
        obtain ⟨hpayload, hstage⟩ := h.2.outgoing outgoing.1 outgoing.2 ho
        exact ⟨hpayload, hf _ hstage⟩
      · intro payload stage hout hpinned
        obtain ⟨outgoing, ho, heq⟩ := Option.map_eq_some_iff.mp hout
        cases heq
        exact hpin id x outgoing.1 outgoing.2 rfl ho hpinned
  | _ => exact h

theorem Activity.wf_established {id : UInt64} (hid : sessionIdentifierIsValid id = true)
    {x : Exchange} (hx : x.Wf s) : (Activity.established id x).Wf s := ⟨hid, hx⟩

namespace Endpoint

/-! ## Building blocks -/

theorem wf_publish {e : Endpoint} (h : e.Wf s) {event : Event}
    (hevent : Events.valueIsValid event = true) : (e.publish event).2.Wf s := by
  unfold publish
  split_ifs with hfull
  · exact h
  · exact { h with events := EventRing.wf_push h.events (by simpa using hfull) hevent }

/-- Another activity on a connected link. -/
theorem wf_activity {e : Endpoint} (h : e.Wf s) {a : Activity} (ha : a.Wf s)
    (hlink : a.linkState = .connected) : ({ e with activity := a } : Endpoint).Wf s :=
  { h with
    activity := ha
    disconnected := fun hd => by rw [hlink] at hd; cases hd }

theorem wf_release {e : Endpoint} (h : e.Wf s) : e.release.Wf s :=
  { h with
    intake := Nat.zero_le _
    diagnostic := fun _ => rfl
    disconnected := fun hd => ⟨rfl, (h.disconnected hd).2⟩ }

theorem wf_abandon {e : Endpoint} (h : e.Wf s) {next : Activity} (hnext : next.Wf s)
    {failure : Failure} (hfailure : failure.isListed = true) : (e.abandon next failure).2.Wf s := by
  unfold abandon
  apply wf_publish _ (resetEvent_valid hfailure)
  exact
    { h with
      activity := hnext
      lastFailure := hfailure
      abandoned := by
        intro id hid
        cases hcurrent : e.activity.identifier with
        | none =>
            rw [hcurrent] at hid
            exact h.abandoned id hid
        | some current =>
            rw [hcurrent] at hid
            cases hid
            exact identifier_wf h.activity hcurrent
      intake := Nat.zero_le _
      diagnostic := fun _ => rfl
      disconnected := fun _ => ⟨rfl, rfl⟩ }

theorem wf_beginLocalRecovery {e : Endpoint} (h : e.Wf s) {failure : Failure}
    (hfailure : failure.isListed = true) : (e.beginLocalRecovery failure).2.Wf s := by
  apply wf_abandon h _ hfailure
  intro r hr
  obtain ⟨id, hid, rfl⟩ := Option.map_eq_some_iff.mp hr
  exact identifier_wf h.activity hid

theorem wf_beginEstablishment {e : Endpoint} (h : e.Wf s) : (e.beginEstablishment s).Wf s := by
  unfold beginEstablishment
  rcases s.role_cases with hrole | hrole
  · rw [if_pos hrole]
    have hcursor := h.cursor_host hrole
    exact
      { h with
        activity := ⟨hrole, hcursor⟩
        cursor_host := fun _ => successorIdentifier_isValid hcursor
        cursor_rig := fun hr => by rw [hrole] at hr; cases hr
        disconnected := fun hd => by cases hd }
  · have hnot : ¬ s.role = .host := by rw [hrole]; simp
    rw [if_neg hnot]
    exact wf_activity h hrole rfl

/-! ## Reception -/

theorem Exchange.wf_initial (received nextTransmit : UInt16) :
    (Exchange.initial received nextTransmit).Wf s where
  outgoing := fun _ _ h => by cases h
  unread := fun _ h => by cases h
  one_pin := fun _ _ h => by cases h

/-- A new acknowledgement is not pinned. -/
theorem Exchange.wf_receive {x : Exchange} (h : x.Wf s) {frame : Frame}
    (hpayload : s.PayloadWf frame.payload) : (x.receive frame).Wf s where
  outgoing := h.outgoing
  unread := fun payload heq => by
    cases heq
    exact hpayload
  one_pin := fun _ _ _ _ => by simp [Exchange.receive]

theorem Exchange.wf_repeatAck {x : Exchange} (h : x.Wf s) :
    ({ x with acknowledgement := some (x.acknowledgement.getD false) } : Exchange).Wf s where
  outgoing := h.outgoing
  unread := h.unread
  one_pin := by
    intro payload stage hout hpinned
    have := h.one_pin payload stage hout hpinned
    cases hack : x.acknowledgement with
    | none => simp
    | some pinned => rw [hack] at this; simpa using this

theorem wf_establish {e : Endpoint} (h : e.Wf s) {id : UInt64}
    (hid : sessionIdentifierIsValid id = true) {x : Exchange} (hx : x.Wf s)
    (hfull : e.events.full = false) : (e.establish (.established id x)).Wf s :=
  { wf_activity h (Activity.wf_established hid hx) rfl with
    lastFailure := rfl
    events := EventRing.wf_push h.events hfull rfl }

theorem wf_deliver {e : Endpoint} (h : e.Wf s) {id : UInt64}
    (hid : sessionIdentifierIsValid id = true) {x : Exchange} (hx : x.Wf s)
    (hfull : e.events.full = false) : (e.deliver (.established id x)).Wf s :=
  { wf_activity h (Activity.wf_established hid hx) rfl with
    events := EventRing.wf_push h.events hfull rfl }

theorem wf_afterRepeat {a : Activity} (h : a.Wf s) : (s.afterRepeat a).Wf s := by
  cases a with
  | waitingForConfirm id received stage => exact ⟨h.1, h.2.1, Setup.wf_retry h.2.2⟩
  | waitingForConfirmAck id received stage => exact ⟨h.1, h.2.1, Setup.wf_retry h.2.2⟩
  | _ => exact h

theorem linkState_afterRepeat (a : Activity) : (s.afterRepeat a).linkState = a.linkState := by
  cases a <;> rfl

/-- Taking a frame keeps the endpoint well formed. -/
theorem wf_accept {e : Endpoint} (h : e.Wf s) (hlink : e.activity.linkState = .connected)
    {frame : Frame} (hf : frame.Wf s.config.maxApplicationMessageSize) {verdict : Verdict}
    (hv : Explains s e frame verdict) (havailable : e.available verdict = true) :
    (e.accept s frame verdict).Wf s := by
  cases verdict with
  | repeatWork =>
      exact wf_activity h (wf_afterRepeat h.activity) (by rw [linkState_afterRepeat, hlink])
  | repeatAck =>
      obtain ⟨x, ha, _⟩ := hv
      have hx := h.activity
      rw [ha] at hx
      unfold accept
      rw [ha]
      dsimp only
      exact wf_activity h ⟨hx.1, Exchange.wf_repeatAck hx.2⟩ rfl
  | adopt =>
      obtain ⟨ha, _, hid, _⟩ := hv
      have hx := h.activity
      rw [ha] at hx
      exact wf_activity h ⟨hx, hid⟩ rfl
  | acceptResponse =>
      obtain ⟨stage, ha, _⟩ := hv
      have hx := h.activity
      rw [ha] at hx
      unfold accept
      rw [ha]
      dsimp only
      exact wf_activity h ⟨hx.1, hx.2.1⟩ rfl
  | acceptConfirm =>
      obtain ⟨received, stage, ha, _⟩ := hv
      have hx := h.activity
      rw [ha] at hx
      unfold accept
      rw [ha]
      dsimp only
      refine wf_establish h hx.2.1 ?_ (by simpa [available] using havailable)
      exact
        { outgoing := fun _ _ h => by cases h
          unread := fun _ h => by cases h
          one_pin := fun _ _ h => by cases h }
  | acceptConfirmAck =>
      obtain ⟨received, stage, ha, _⟩ := hv
      have hx := h.activity
      rw [ha] at hx
      unfold accept
      rw [ha]
      dsimp only
      exact wf_establish h hx.2.1 (Exchange.wf_initial _ _) (by simpa [available] using havailable)
  | prove =>
      obtain ⟨received, stage, ha, htype, _⟩ := hv
      have hx := h.activity
      rw [ha] at hx
      obtain ⟨hne, hle, _⟩ := hf.message htype
      unfold accept
      rw [ha]
      dsimp only
      exact wf_establish h hx.2.1 (Exchange.wf_receive (Exchange.wf_initial _ _) ⟨hne, hle⟩)
        (by simpa [available] using havailable)
  | acceptDelivery =>
      obtain ⟨x, payload, stage, ha, _⟩ := hv
      have hx := h.activity
      rw [ha] at hx
      unfold accept
      rw [ha]
      dsimp only
      refine wf_deliver h hx.1 ?_ (by simpa [available] using havailable)
      exact
        { outgoing := fun _ _ h => by cases h
          unread := hx.2.unread
          one_pin := fun _ _ h => by cases h }
  | acceptMessage =>
      obtain ⟨x, ha, htype, _⟩ := hv
      have hx := h.activity
      rw [ha] at hx
      obtain ⟨hne, hle, _⟩ := hf.message htype
      unfold accept
      rw [ha]
      dsimp only
      exact wf_activity h ⟨hx.1, Exchange.wf_receive hx.2 ⟨hne, hle⟩⟩ rfl
  | _ => exact h

/-- The diagnostic may be deferred once the input is empty. -/
theorem wf_deferred {e : Endpoint} (h : e.Wf s) (hlink : e.activity.linkState = .connected)
    (hintake : e.intake = .filling []) (pending : Bool) :
    ({ e with diagnosticPending := pending } : Endpoint).Wf s :=
  { h with
    diagnostic := fun _ => hintake
    disconnected := fun hd => by rw [hlink] at hd; cases hd }

theorem wf_rejectObsolete {e : Endpoint} (h : e.Wf s)
    (hlink : e.activity.linkState = .connected) : e.rejectObsolete.2.Wf s := by
  apply wf_deferred (wf_release (wf_publish h rfl)) _ rfl
  rw [← hlink]
  exact congrArg Activity.linkState (publish_fields e _).1

theorem wf_rejectSession {e : Endpoint} (h : e.Wf s)
    (hlink : e.activity.linkState = .connected) : e.rejectSession.2.Wf s := by
  have hpublished := @wf_publish _ s e h Receive.protocolErrorEvent rfl
  by_cases hp : ∃ reset, e.activity = .recovering (some reset)
  · obtain ⟨reset, hr⟩ := hp
    rw [rejectSession_pending hr]
    apply wf_deferred (wf_release hpublished) _ rfl
    show (e.publish Receive.protocolErrorEvent).2.activity.linkState = .connected
    rw [(publish_fields e _).1, hlink]
  · rw [rejectSession_recover (not_exists.mp hp)]
    obtain ⟨ha, hi, _⟩ := beginLocalRecovery_fields (e.publish Receive.protocolErrorEvent).2 .protocol
    exact wf_deferred (wf_beginLocalRecovery hpublished rfl) ha hi _

theorem wf_resolve {e : Endpoint} (h : e.Wf s) (hlink : e.activity.linkState = .connected)
    {frame : Frame} {verdict : Verdict}
    (hf : verdict = .reject ∨ verdict = .incompatible ∨
      frame.Wf s.config.maxApplicationMessageSize)
    (hv : Explains s e frame verdict) (havailable : e.available verdict = true) :
    (e.resolve s frame verdict).2.Wf s := by
  cases verdict with
  | reject => exact wf_release (wf_publish h rfl)
  | obsolete => exact wf_rejectObsolete h hlink
  | incompatible => exact wf_rejectSession h hlink
  | acceptReset =>
      apply wf_beginEstablishment
      apply wf_abandon h _ rfl
      intro r hr
      cases hr
  | _ =>
      apply wf_release
      apply wf_accept h hlink _ hv havailable
      rcases hf with hf | hf | hf
      · cases hf
      · cases hf
      · exact hf

theorem wf_processBody {e : Endpoint} (h : e.Wf s) (hlink : e.activity.linkState = .connected)
    (body : List UInt8) : (e.processBody s body).2.Wf s := by
  have hexplains := @classifyBody_explains _ s e body
  unfold processBody attempt
  dsimp only
  split_ifs with havailable
  · apply wf_resolve h hlink _ hexplains havailable
    rcases classifyBody_cases (s := s) e body with ⟨frame, hf, _, heq⟩ | hreject | ⟨hincompatible, _⟩
    · rw [heq]
      exact Or.inr (Or.inr hf)
    · exact Or.inl hreject
    · exact Or.inr (Or.inl hincompatible)
  · exact h

/-! ## Connected endpoints stay connected while they receive -/

omit [Target] in
theorem linkState_connected {e : Endpoint} (h : ¬ e.activity.linkState = .disconnected) :
    e.activity.linkState = .connected := by
  cases ha : e.activity with
  | disconnected observed => rw [ha] at h; exact absurd rfl h
  | _ => rfl

theorem linkState_beginEstablishment (e : Endpoint) :
    (e.beginEstablishment s).activity.linkState = .connected := by
  unfold beginEstablishment
  split_ifs <;> rfl

theorem linkState_accept {e : Endpoint} (hlink : e.activity.linkState = .connected) (frame : Frame)
    (verdict : Verdict) : (e.accept s frame verdict).activity.linkState = .connected := by
  unfold accept
  cases verdict <;> cases ha : e.activity <;> simp_all [Activity.linkState, establish,
    deliver, Setup.afterRepeat, Setup.hostEstablished]

theorem linkState_resolve {e : Endpoint} (hlink : e.activity.linkState = .connected)
    (frame : Frame) (verdict : Verdict) :
    (e.resolve s frame verdict).2.activity.linkState = .connected := by
  have hpublish : (e.publish Receive.protocolErrorEvent).2.activity.linkState = .connected := by
    rw [(publish_fields e _).1, hlink]
  unfold resolve
  cases verdict with
  | reject => exact hpublish
  | obsolete => exact hpublish
  | incompatible => exact linkState_rejectSession hlink
  | acceptReset => exact linkState_beginEstablishment _
  | _ => exact linkState_accept hlink frame _

theorem linkState_processBody {e : Endpoint} (hlink : e.activity.linkState = .connected)
    (body : List UInt8) : (e.processBody s body).2.activity.linkState = .connected := by
  unfold processBody attempt
  dsimp only
  split_ifs
  · exact linkState_resolve hlink _ _
  · exact hlink

/-! ## The byte loop -/

theorem wf_advance {e : Endpoint} (h : e.Wf s) : (e.advance s).Wf s := by
  unfold advance
  split_ifs
  · exact wf_beginEstablishment h
  · exact h

theorem linkState_advance {e : Endpoint} (hlink : e.activity.linkState = .connected) :
    (e.advance s).activity.linkState = .connected := by
  unfold advance
  split_ifs
  · exact linkState_beginEstablishment e
  · exact hlink

/-- A well-formed endpoint on a connected link. -/
structure WfConnected (s : Setup) (e : Endpoint) : Prop where
  wf : e.Wf s
  linkState : e.activity.linkState = .connected

theorem wf_advanceIfOk {result : Status × Endpoint} (h : WfConnected s result.2) :
    WfConnected s (advanceIfOk s result).2 := by
  unfold advanceIfOk
  split_ifs
  · exact ⟨wf_advance h.wf, linkState_advance h.linkState⟩
  · exact h

theorem wf_intake {e : Endpoint} (h : WfConnected s e) {intake : Intake}
    (hintake : intake.Wf (s.config.maxEncodedFrameSize - 1)) (hd : e.diagnosticPending = false) :
    WfConnected s { e with intake := intake } where
  wf :=
    { h.wf with
      intake := hintake
      diagnostic := fun hp => by rw [hd] at hp; cases hp
      disconnected := fun hp => by rw [h.linkState] at hp; cases hp }
  linkState := h.linkState

theorem wf_ready {e : Endpoint} (h : WfConnected s e) {body : List UInt8} (hne : body ≠ [])
    (hle : body.length ≤ s.config.maxEncodedFrameSize - 1) (hd : e.diagnosticPending = false) :
    WfConnected s { e with intake := .ready body } :=
  @wf_intake _ s e h (.ready body) ⟨hne, hle⟩ hd

theorem wf_diagnose {e : Endpoint} (h : WfConnected s e) (hintake : e.intake = .filling []) :
    WfConnected s e.diagnose.2 := by
  obtain ⟨hactivity, hi, _⟩ := publish_fields e Receive.protocolErrorEvent
  have hlink : (e.publish Receive.protocolErrorEvent).2.activity.linkState = .connected := by
    rw [hactivity, h.linkState]
  exact ⟨wf_deferred (wf_publish h.wf rfl) hlink (by rw [hi, hintake]) _, hlink⟩

theorem wf_processBody_connected {e : Endpoint} (h : WfConnected s e) (body : List UInt8) :
    WfConnected s (e.processBody s body).2 :=
  ⟨wf_processBody h.wf h.linkState body, linkState_processBody h.linkState body⟩

theorem wf_feedByte {e : Endpoint} (h : WfConnected s e) (hd : e.diagnosticPending = false)
    (byte : UInt8) : WfConnected s (e.feedByte s byte).2 := by
  unfold feedByte
  cases hi : e.intake with
  | filling bytes =>
      have hle : bytes.length ≤ s.config.maxEncodedFrameSize - 1 := by
        have := h.wf.intake
        rwa [hi] at this
      simp only
      split_ifs with h1 h2 h3
      · exact h
      · exact wf_advanceIfOk (wf_processBody_connected (wf_ready h h2 hle hd) bytes)
      · exact wf_intake h trivial hd
      · refine wf_intake h ?_ hd
        show (bytes ++ [byte]).length ≤ _
        rw [List.length_append, List.length_singleton]
        omega
  | discarding =>
      simp only
      split_ifs
      · exact wf_advanceIfOk (wf_diagnose ⟨wf_release h.wf, h.linkState⟩ rfl)
      · exact h
  | ready body => exact h

/-! ## Settled endpoints -/

/-- No diagnostic is deferred and no body waits. -/
structure Settled (e : Endpoint) : Prop where
  diagnostic : e.diagnosticPending = false
  intake : e.intake.isReady = false

theorem settled_accept {e : Endpoint} (h : e.diagnosticPending = false) (frame : Frame)
    (verdict : Verdict) : Settled (e.accept s frame verdict).release := by
  refine ⟨?_, rfl⟩
  show (e.accept s frame verdict).diagnosticPending = false
  unfold accept
  split <;> exact h

omit [Target] in
theorem settled_rejectSession {e : Endpoint} (hok : e.rejectSession.1 = .ok) :
    Settled e.rejectSession.2 := by
  by_cases hp : ∃ reset, e.activity = .recovering (some reset)
  · obtain ⟨reset, hr⟩ := hp
    rw [rejectSession_pending hr] at hok ⊢
    exact ⟨full_of_publish_ok hok, rfl⟩
  · rw [rejectSession_recover (not_exists.mp hp)] at hok ⊢
    have hpublished : (e.publish Receive.protocolErrorEvent).1 = .ok := by
      by_contra hne
      dsimp only at hok
      rw [if_neg hne] at hok
      cases hok
    refine ⟨full_of_publish_ok hpublished, ?_⟩
    show Intake.isReady ((e.publish Receive.protocolErrorEvent).2.beginLocalRecovery
      .protocol).2.intake = false
    rw [(beginLocalRecovery_fields _ _).2.1]
    rfl

theorem settled_beginEstablishment {e : Endpoint} (h : Settled e) :
    Settled (e.beginEstablishment s) := by
  unfold beginEstablishment
  split_ifs <;> exact ⟨h.diagnostic, h.intake⟩

theorem settled_resolve {e : Endpoint} (h : e.diagnosticPending = false) {frame : Frame}
    {verdict : Verdict} (hok : (e.resolve s frame verdict).1 = .ok) :
    Settled (e.resolve s frame verdict).2 := by
  cases verdict with
  | reject =>
      refine ⟨?_, rfl⟩
      show (e.publish Receive.protocolErrorEvent).2.diagnosticPending = false
      rw [(publish_fields e _).2.2, h]
  | obsolete => exact ⟨full_of_publish_ok hok, rfl⟩
  | incompatible => exact settled_rejectSession hok
  | acceptReset =>
      obtain ⟨_, hi, hd⟩ := abandon_fields e (.recovering none) .protocol
      have hready : (e.abandon (.recovering none) .protocol).2.intake.isReady = false := by
        rw [hi]
        rfl
      exact settled_beginEstablishment ⟨hd, hready⟩
  | _ => exact settled_accept h frame _

theorem settled_processBody {e : Endpoint} (h : e.diagnosticPending = false) {body : List UInt8}
    (hok : (e.processBody s body).1 = .ok) : Settled (e.processBody s body).2 := by
  unfold processBody attempt at hok ⊢
  dsimp only at hok ⊢
  split_ifs at hok ⊢ with havailable
  exact settled_resolve h hok

theorem settled_advanceIfOk {result : Status × Endpoint}
    (h : result.1 = .ok → Settled result.2) (hok : (advanceIfOk s result).1 = .ok) :
    Settled (advanceIfOk s result).2 := by
  unfold advanceIfOk at hok ⊢
  split_ifs at hok ⊢ with hr
  · unfold advance
    split_ifs
    · exact settled_beginEstablishment (h hr)
    · exact h hr
  · exact absurd hok hr

omit [Target] in
theorem settled_diagnose {e : Endpoint} (h : e.intake = .filling []) (hok : e.diagnose.1 = .ok) :
    Settled e.diagnose.2 := by
  refine ⟨full_of_publish_ok hok, ?_⟩
  show (e.publish Receive.protocolErrorEvent).2.intake.isReady = false
  rw [(publish_fields e _).2.1, h]
  rfl

theorem settled_feedByte {e : Endpoint} (h : Settled e) {byte : UInt8}
    (hok : (e.feedByte s byte).1 = .ok) : Settled (e.feedByte s byte).2 := by
  unfold feedByte at hok ⊢
  cases hi : e.intake with
  | filling bytes =>
      simp only [hi] at hok ⊢
      split_ifs at hok ⊢ with h1 h2 h3
      · exact h
      · have hd : ({ e with intake := .ready bytes } : Endpoint).diagnosticPending = false :=
          h.diagnostic
        exact settled_advanceIfOk (settled_processBody hd) hok
      · exact ⟨h.diagnostic, rfl⟩
      · exact ⟨h.diagnostic, rfl⟩
  | discarding =>
      simp only [hi] at hok ⊢
      split_ifs at hok ⊢ with h1
      · exact settled_advanceIfOk (settled_diagnose rfl) hok
      · exact h
  | ready body => exact h

theorem wf_settleDiagnostic {e : Endpoint} (h : WfConnected s e) :
    WfConnected s e.settleDiagnostic.2 := by
  unfold settleDiagnostic
  split_ifs with hd
  · exact wf_diagnose h (h.wf.diagnostic hd)
  · exact h

omit [Target] in
theorem diagnostic_settleDiagnostic {e : Endpoint} (hok : e.settleDiagnostic.1 = .ok) :
    e.settleDiagnostic.2.diagnosticPending = false := by
  unfold settleDiagnostic at hok ⊢
  split_ifs at hok ⊢ with hd
  · exact full_of_publish_ok hok
  · simpa using hd

theorem wf_settleBody {e : Endpoint} (h : WfConnected s e) : WfConnected s (e.settleBody s).2 := by
  unfold settleBody
  cases e.intake with
  | ready body => exact wf_processBody_connected h body
  | _ => exact h

theorem settled_settleBody {e : Endpoint} (h : e.diagnosticPending = false)
    (hok : (e.settleBody s).1 = .ok) : Settled (e.settleBody s).2 := by
  unfold settleBody at hok ⊢
  cases hi : e.intake with
  | ready body =>
      rw [hi] at hok
      exact settled_processBody h hok
  | _ => exact ⟨h, by rw [hi]; rfl⟩

theorem wf_settle {e : Endpoint} (h : WfConnected s e) : WfConnected s (e.settle s).2 := by
  unfold settle
  dsimp only
  split_ifs
  · exact wf_settleDiagnostic h
  · exact wf_advanceIfOk (wf_settleBody (wf_settleDiagnostic h))

theorem settled_settle {e : Endpoint} (hok : (e.settle s).1 = .ok) : Settled (e.settle s).2 := by
  unfold settle at hok ⊢
  dsimp only at hok ⊢
  split_ifs at hok ⊢ with hd
  · exact absurd hok hd
  · exact settled_advanceIfOk (settled_settleBody (diagnostic_settleDiagnostic (not_not.mp hd))) hok

theorem wf_feed (data : List UInt8) {e : Endpoint} (h : WfConnected s e) (hs : Settled e) :
    WfConnected s (e.feed s data).2.2 := by
  induction data generalizing e with
  | nil => exact h
  | cons byte rest ih =>
      have hnext := wf_feedByte h hs.diagnostic byte
      unfold feed
      dsimp only
      split_ifs with hok
      · exact hnext
      · exact ih hnext (settled_feedByte hs (not_not.mp hok))

theorem wf_receiveBytes {e : Endpoint} (h : e.Wf s) (data : List UInt8) :
    (e.receiveBytes s data).2.2.Wf s := by
  unfold receiveBytes
  split_ifs with hlink
  · exact h
  · have hconnected : WfConnected s e := ⟨h, linkState_connected hlink⟩
    have hsettle := wf_settle hconnected
    dsimp only
    split_ifs with hok
    · exact hsettle.wf
    · exact (wf_feed data hsettle (settled_settle (not_not.mp hok))).wf

/-! ## Output and application data -/

theorem wf_peekControl {a : Activity} (h : a.Wf s)
    (hpin : ((s.item a).elim false fun item => item.stage.pinned) = false) :
    a.peekControl.Wf s := by
  cases a with
  | recovering reset =>
      intro r hr
      obtain ⟨r', hr', rfl⟩ := Option.map_eq_some_iff.mp hr
      exact h r' hr'
  | established id x =>
      refine ⟨h.1, h.2.outgoing, h.2.unread, ?_⟩
      intro payload stage hout hpinned
      have hx : x.outgoing = some (payload, stage) := hout
      simp only [Setup.item, hx, Option.map_some, Option.elim_some] at hpin
      rw [hpin] at hpinned
      cases hpinned
  | _ => exact h

theorem wf_commitControl {a : Activity} (h : a.Wf s) : a.commitControl.Wf s := by
  cases a with
  | recovering reset => exact fun r hr => by cases hr
  | established id x =>
      refine ⟨h.1, h.2.outgoing, h.2.unread, ?_⟩
      intro payload stage hout hpinned
      simp
  | _ => exact h

omit [Target] in
theorem linkState_peekControl (a : Activity) : a.peekControl.linkState = a.linkState := by
  cases a <;> rfl

omit [Target] in
theorem linkState_commitControl (a : Activity) : a.commitControl.linkState = a.linkState := by
  cases a <;> rfl

/-- Another activity on the same link. -/
theorem wf_sameLink {e : Endpoint} (h : e.Wf s) {a : Activity} (ha : a.Wf s)
    (hlink : a.linkState = e.activity.linkState) : ({ e with activity := a } : Endpoint).Wf s :=
  { h with
    activity := ha
    disconnected := fun hd => h.disconnected (by rw [← hlink]; exact hd) }

/-- While the selection is the reliable item, no control item is pinned. -/
theorem not_pinned_of_selection {e : Endpoint} (h : e.Wf s) {item : Item}
    (hsel : e.selection s = .reliable) (hitem : s.item e.activity = some item) :
    ∀ control, e.activity.controlItem = some control → control.pinned = false := by
  intro control hcontrol
  have hx := h.activity
  cases ha : e.activity with
  | established id x =>
      rw [ha] at hitem hcontrol hx
      obtain ⟨outgoing, hout, rfl⟩ := Option.map_eq_some_iff.mp hitem
      obtain ⟨pinned, hack, rfl⟩ := Option.map_eq_some_iff.mp hcontrol
      have hpin : outgoing.2.pinned = true := by
        unfold selection at hsel
        rw [ha] at hsel
        simp only [Setup.item, hout, Activity.controlItem, hack, Option.map_some] at hsel
        by_contra hnot
        rw [if_neg hnot] at hsel
        cases hsel
      have := hx.2.one_pin outgoing.1 outgoing.2 hout hpin
      rw [hack] at this
      simpa using this
  | recovering reset => rw [ha] at hitem; cases hitem
  | _ => rw [ha] at hcontrol; cases hcontrol

theorem wf_peekOutput {e : Endpoint} (h : e.Wf s) (outBuffer : Option Nat) :
    (e.peekOutput s outBuffer).2.2.2.Wf s := by
  have hreliable : ∀ item, e.selection s = .reliable → s.item e.activity = some item →
      ({ e with activity := e.activity.mapStage Stage.peek } : Endpoint).Wf s := by
    intro item hsel hitem
    refine wf_sameLink h ?_ (Activity.linkState_mapStage _ _)
    refine Activity.wf_mapStage h.activity (fun stage hstage => Stage.wf_peek hstage) ?_
    intro id x payload stage ha hout hpinned hack
    have := not_pinned_of_selection h hsel hitem
    rw [ha] at this
    simp only [Activity.controlItem, hack, Option.map_some, Option.some.injEq] at this
    have := this _ rfl
    cases this
  have hcontrol : ∀ control, e.selection s = .control → e.activity.controlItem = some control →
      ({ e with activity := e.activity.peekControl } : Endpoint).Wf s := by
    intro control hsel hcontrol
    refine wf_sameLink h (wf_peekControl h.activity ?_) (linkState_peekControl _)
    unfold selection at hsel
    rw [hcontrol] at hsel
    cases hitem : s.item e.activity with
    | none => rfl
    | some item =>
        rw [hitem] at hsel
        by_contra hnot
        simp only at hsel
        rw [if_pos (by simpa using hnot)] at hsel
        cases hsel
  unfold peekOutput
  split
  · rename_i control item hsel hitem
    dsimp only
    split_ifs
    · exact hreliable item hsel hitem
    · exact h
  · rename_i item hsel hitem
    dsimp only
    split_ifs
    · exact hcontrol item hsel hitem
    · exact h
  · exact h

theorem wf_commitOutput {e : Endpoint} (h : e.Wf s) (nowMs : UInt32) :
    (e.commitOutput s nowMs).2.Wf s := by
  unfold commitOutput
  split_ifs
  · refine wf_sameLink h ?_ (Activity.linkState_mapStage _ _)
    refine Activity.wf_mapStage h.activity (fun stage hstage => Stage.wf_commit nowMs hstage) ?_
    intro id x payload stage _ _ hpinned
    rw [Stage.pinned_commit] at hpinned
    cases hpinned
  · exact wf_sameLink h (wf_commitControl h.activity) (linkState_commitControl _)
  · exact h

theorem wf_submit {e : Endpoint} (h : e.Wf s) (payload : List UInt8) :
    (e.submit s payload).2.Wf s := by
  unfold submit
  by_cases hne : payload = []
  · rw [if_pos hne]
    exact h
  · rw [if_neg hne]
    cases ha : e.activity with
    | established id x =>
        have hx := h.activity
        rw [ha] at hx
        dsimp only
        split_ifs with hlen hbusy
        · exact h
        · exact h
        · refine wf_activity h ⟨hx.1, ?_, hx.2.unread, ?_⟩ rfl
          · intro p stage hout
            cases hout
            exact ⟨⟨hne, not_lt.mp hlen⟩, trivial⟩
          · intro p stage hout hpinned
            cases hout
            cases hpinned
    | _ => exact h

theorem wf_readMessage {e : Endpoint} (h : e.Wf s) (outBuffer : Option Nat) :
    (e.readMessage outBuffer).2.2.2.Wf s := by
  unfold readMessage
  cases ha : e.activity with
  | established id x =>
      have hx := h.activity
      rw [ha] at hx
      have hread : ({ e with activity := .established id { x with unread := none } } :
          Endpoint).Wf s :=
        wf_activity h ⟨hx.1, hx.2.outgoing, fun _ hu => (by cases hu), hx.2.one_pin⟩ rfl
      cases hunread : x.unread with
      | none =>
          simp only [hunread]
          exact h
      | some payload =>
          simp only [hunread]
          split_ifs
          · exact hread
          · exact h
  | _ => exact h

theorem wf_readEvent {e : Endpoint} (h : e.Wf s) : e.readEvent.2.2.Wf s := by
  unfold readEvent
  split_ifs
  · exact h
  · exact { h with events := EventRing.wf_pop h.events }

/-! ## Lifecycle -/

theorem notification_wf {a : Activity} (h : a.Wf s) {id : UInt64}
    (hid : a.notification = some id) : sessionIdentifierIsValid id = true := by
  unfold Activity.notification at hid
  cases hr : a.recoveryReset with
  | none =>
      rw [hr] at hid
      exact identifier_wf h hid
  | some pending =>
      rw [hr] at hid
      cases hid
      cases a <;> cases hr
      exact h pending rfl

theorem wf_reset {e : Endpoint} (h : e.Wf s) : e.reset.Wf s :=
  { h with
    activity := by
      unfold reset
      dsimp only
      split_ifs with hlink
      · exact h.activity
      · intro r hr
        obtain ⟨id, hid, rfl⟩ := Option.map_eq_some_iff.mp hr
        exact notification_wf h.activity hid
    lastFailure := rfl
    abandoned := by
      intro id hid
      rcases Option.or_eq_some_iff.mp hid with hsome | ⟨_, hsome⟩
      · exact notification_wf h.activity hsome
      · exact h.abandoned id hsome
    intake := Nat.zero_le _
    diagnostic := fun _ => rfl
    disconnected := fun _ => ⟨rfl, rfl⟩
    events := EventRing.wf_clear _ }

theorem wf_notifyLinkState {e : Endpoint} (h : e.Wf s) (linkState : LinkState) :
    (e.notifyLinkState s linkState).2.Wf s := by
  have hforget : ∀ {e : Endpoint}, e.Wf s → ({ e with abandoned := none } : Endpoint).Wf s :=
    fun h => { h with abandoned := fun _ hid => by cases hid }
  have hlost : ({ ((e.publish (Session.linkEvent .disconnected)).2.abandon (.disconnected true)
      .linkLost).2 with abandoned := none } : Endpoint).Wf s :=
    hforget (@wf_abandon _ s _ (wf_publish h rfl) (.disconnected true) trivial _ rfl)
  have hfound : ((e.publish (Session.linkEvent .connected)).2.beginEstablishment s).Wf s :=
    wf_beginEstablishment (wf_publish h rfl)
  unfold notifyLinkState
  cases linkState with
  | unlisted value => cases e.activity <;> exact h
  | disconnected =>
      cases ha : e.activity with
      | disconnected observed =>
          cases observed with
          | false =>
              refine hforget (wf_sameLink h ?_ (by rw [ha]; rfl))
              exact trivial
          | true => exact h
      | _ => exact hlost
  | connected =>
      cases ha : e.activity with
      | disconnected observed => exact hfound
      | _ => exact h

/-! ## Time -/

theorem wf_publishHandshake {e : Endpoint} (h : e.Wf s) : e.publishHandshake.Wf s := by
  have hx := h.activity
  unfold publishHandshake
  cases ha : e.activity with
  | initiatePending id => rw [ha] at hx; exact wf_activity h ⟨hx.1, hx.2, trivial⟩ rfl
  | responsePending id received => rw [ha] at hx; exact wf_activity h ⟨hx.1, hx.2, trivial⟩ rfl
  | confirmPending id received => rw [ha] at hx; exact wf_activity h ⟨hx.1, hx.2, trivial⟩ rfl
  | _ => exact h

theorem wf_timeout {stage : Stage} (nowMs : UInt32) (h : stage.Wf s.config.maxRetries) :
    (timeout s nowMs stage).Wf s.config.maxRetries := by
  rcases timeout_cases (s := s) nowMs stage with heq | heq
  · rw [heq]; exact h
  · rw [heq]; exact Setup.wf_retry h

theorem pinned_timeout (nowMs : UInt32) (stage : Stage) :
    (timeout s nowMs stage).pinned = stage.pinned := by
  rcases timeout_cases (s := s) nowMs stage with heq | heq
  · rw [heq]
  · rw [heq]; exact Setup.pinned_retry

theorem wf_giveUp {e : Endpoint} (h : e.Wf s) : e.giveUp.2.Wf s := by
  unfold giveUp
  cases e.activity with
  | established id x =>
      dsimp only
      split_ifs
      · exact wf_beginLocalRecovery (wf_publish h rfl) rfl
      · exact h
  | _ => exact wf_beginLocalRecovery h rfl

theorem wf_mapTimeout {e : Endpoint} (h : e.Wf s) (nowMs : UInt32) :
    ({ e with activity := e.activity.mapStage (timeout s nowMs) } : Endpoint).Wf s := by
  refine wf_sameLink h ?_ (Activity.linkState_mapStage _ _)
  refine Activity.wf_mapStage h.activity (fun stage hstage => wf_timeout nowMs hstage) ?_
  intro id x payload stage ha hout hpinned
  have hx := h.activity
  rw [ha] at hx
  exact hx.2.one_pin payload stage hout (by rwa [pinned_timeout] at hpinned)

theorem wf_progress {e : Endpoint} (h : e.Wf s) (nowMs : UInt32) :
    (e.progress s nowMs).2.Wf s := by
  have htimed := wf_mapTimeout (wf_publishHandshake h) nowMs
  unfold progress
  dsimp only
  split_ifs
  · exact wf_giveUp htimed
  · exact htimed

theorem wf_processSettled {e : Endpoint} (h : e.Wf s) (nowMs : UInt32) :
    (e.processSettled s nowMs).2.Wf s := by
  unfold processSettled
  cases e.activity with
  | recovering reset =>
      cases reset with
      | none =>
          dsimp only
          split_ifs
          · exact wf_progress (wf_beginEstablishment h) nowMs
          · exact h
      | some reset => exact h
  | _ => exact wf_progress h nowMs

theorem wf_process {e : Endpoint} (h : e.Wf s) (nowMs : UInt32) (operatingMode : OperatingMode) :
    (e.process s nowMs operatingMode).2.Wf s := by
  unfold process
  by_cases hlisted : operatingMode.isListed = true
  · rw [if_pos hlisted]
    have hmode : ({ e with operatingMode := operatingMode, operatingModeValid := true } :
        Endpoint).Wf s :=
      { h with operatingMode := hlisted }
    dsimp only
    split_ifs with hlink
    · exact hmode
    · exact (wf_settle ⟨hmode, linkState_connected hlink⟩).wf
    · exact wf_processSettled (wf_settle ⟨hmode, linkState_connected hlink⟩).wf nowMs
    · exact hmode
    · exact wf_processSettled hmode nowMs
  · rw [if_neg hlisted]
    exact h

/-- Every public call keeps a well-formed endpoint well formed. -/
theorem wf_step {e : Endpoint} (h : e.Wf s) (call : Call) : (e.step s call).2.Wf s := by
  cases call with
  | reset => exact wf_reset h
  | notifyLinkState linkState nowMs => exact wf_notifyLinkState h linkState
  | submitApplicationData payload => exact wf_submit h payload
  | receiveBytes data => exact wf_receiveBytes h data
  | process nowMs operatingMode => exact wf_process h nowMs operatingMode
  | peekOutput outBuffer => exact wf_peekOutput h outBuffer
  | commitOutput nowMs => exact wf_commitOutput h nowMs
  | readApplicationData outBuffer => exact wf_readMessage h outBuffer
  | readEvent => exact wf_readEvent h
  | getStatus => exact h

end Endpoint

end

end HilRigProtocol.Transport
