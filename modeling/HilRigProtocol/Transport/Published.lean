/-
  The events that a step publishes.

  They stand behind those that were unread before the step. A call other than
  `Read_Event` and `Reset` only appends to the unread events, so what it published can be
  read off the queues before and after it.
-/
import HilRigProtocol.Transport.Rejection

namespace HilRigProtocol.Transport

namespace Events

/-- The unread events, oldest first. -/
def unread (root : Root) : List Event :=
  (List.range root.eventCount).map fun offset => root.eventQueue (slot root offset)

/-- The events that a step adds behind the unread ones. -/
def published (before after : Root) : List Event :=
  (unread after).drop (unread before).length

end Events

/-! ## The ring as a list -/

namespace EventRing

theorem length_contents (ring : EventRing) : ring.contents.length = ring.count := by
  unfold contents
  rw [List.length_map, List.length_range]

theorem count_lt_of_not_full {ring : EventRing} (h : ring.Wf) (hfull : ring.full = false) :
    ring.count < eventQueueCapacity := by
  have hne : ring.count ≠ eventQueueCapacity := fun hc => by
    rw [full_iff.mpr hc] at hfull
    cases hfull
  have := h.count_le
  omega

theorem contents_push {ring : EventRing} (h : ring.Wf) (hfull : ring.full = false)
    (event : Event) : (ring.push event).contents = ring.contents ++ [event] := by
  have hlt := count_lt_of_not_full h hfull
  unfold contents
  show (List.range (ring.count + 1)).map
    (fun offset => Function.update ring.queue (ring.slot ring.count) event (ring.slot offset)) = _
  rw [List.range_succ, List.map_append, List.map_singleton, Function.update_self]
  congr 1
  apply List.map_congr_left
  intro offset hoffset
  rw [List.mem_range] at hoffset
  exact Function.update_of_ne (slot_ne hoffset hlt) _ _

theorem contents_pop {ring : EventRing} (hne : ring.count ≠ 0) :
    ring.contents = ring.queue (ring.slot 0) :: ring.pop.contents := by
  obtain ⟨queue, readIndex, count⟩ := ring
  obtain ⟨count, rfl⟩ := Nat.exists_eq_succ_of_ne_zero hne
  unfold contents
  dsimp only [pop]
  rw [Nat.succ_eq_add_one, List.range_succ_eq_map, List.map_cons, List.map_map,
    Nat.add_sub_cancel]
  congr 1
  apply List.map_congr_left
  intro offset hoffset
  rw [List.mem_range] at hoffset
  have hslot : slot ⟨queue, readIndex, count + 1⟩ (offset + 1) =
      slot ⟨queue, if count + 1 = 1 then 0 else (readIndex + 1) % eventQueueCapacity, count⟩
        offset := by
    apply Fin.ext
    simp only [slot, Fin.val_ofNat]
    rw [if_neg (by omega)]
    simp only [eventQueueCapacity]
    omega
  exact congrArg queue hslot

end EventRing

namespace Endpoint

/-- `e'` has the unread events of `e` and `events` behind them. -/
def Adds (e e' : Endpoint) (events : List Event) : Prop :=
  e'.events.contents = e.events.contents ++ events

theorem adds_refl {e e' : Endpoint} (h : e'.events = e.events) : Adds e e' [] := by
  unfold Adds
  rw [h, List.append_nil]

theorem adds_trans {e e₁ e' : Endpoint} {first second : List Event} (h : Adds e e₁ first)
    (h' : Adds e₁ e' second) : Adds e e' (first ++ second) := by
  unfold Adds at *
  rw [h', h, List.append_assoc]

theorem adds_push {e e' : Endpoint} {event : Event} (h : e.events.Wf)
    (hfull : e.events.full = false) (he' : e'.events = e.events.push event) :
    Adds e e' [event] := by
  unfold Adds
  rw [he', EventRing.contents_push h hfull]

/-- An event that is published if it finds a place. -/
def offer (e : Endpoint) (event : Event) : List Event := if e.events.full then [] else [event]

theorem adds_publish {e : Endpoint} (h : e.events.Wf) (event : Event) :
    Adds e (e.publish event).2 (e.offer event) := by
  unfold publish offer
  cases hfull : e.events.full with
  | true => exact adds_refl rfl
  | false => exact adds_push h hfull rfl

theorem adds_abandon {e : Endpoint} (h : e.events.Wf) (next : Activity) (failure : Failure) :
    Adds e (e.abandon next failure).2 (e.offer (resetEvent failure)) := by
  unfold abandon
  have hadds := @adds_publish
    { e with
      activity := next
      lastFailure := failure
      abandoned := e.activity.identifier.or e.abandoned
      intake := .filling []
      diagnosticPending := false } h (resetEvent failure)
  exact hadds

theorem adds_diagnosed {e e' : Endpoint} (h : e.events.Wf) (hdiagnosed : Diagnosed e e') :
    ∃ events, Adds e e' events ∧ ∀ event ∈ events, event = Receive.protocolErrorEvent := by
  rcases hdiagnosed with hsame | ⟨hfull, hpush⟩
  · exact ⟨[], adds_refl hsame, fun event hmem => by cases hmem⟩
  · refine ⟨[Receive.protocolErrorEvent], adds_push h hfull hpush, ?_⟩
    intro event hmem
    exact List.mem_singleton.mp hmem

theorem mem_offer {e : Endpoint} {event other : Event} (h : other ∈ e.offer event) :
    other = event := by
  unfold offer at h
  split_ifs at h
  · cases h
  · exact List.mem_singleton.mp h

theorem wf_events_publish {e : Endpoint} (h : e.events.Wf) {event : Event}
    (hvalid : Events.valueIsValid event = true) : (e.publish event).2.events.Wf := by
  unfold publish
  split_ifs with hfull
  · exact h
  · exact EventRing.wf_push h (by simpa using hfull) hvalid

/-- A session that is given up by the traffic is reported after the diagnostic. -/
theorem adds_rejectSession {e : Endpoint} (h : e.events.Wf) :
    ∃ events, Adds e e.rejectSession.2 events ∧
      ∀ event ∈ events, event = Receive.protocolErrorEvent ∨ event = resetEvent .protocol := by
  have hfirst := adds_publish h Receive.protocolErrorEvent
  by_cases hp : ∃ reset, e.activity = .recovering (some reset)
  · obtain ⟨reset, ha⟩ := hp
    rw [rejectSession_pending ha]
    exact ⟨_, hfirst, fun event hmem => Or.inl (mem_offer hmem)⟩
  · rw [rejectSession_recover (not_exists.mp hp)]
    have hring : (e.publish Receive.protocolErrorEvent).2.events.Wf :=
      wf_events_publish h (by rfl)
    have hsecond := adds_abandon hring
      (.recovering ((e.publish Receive.protocolErrorEvent).2.activity.identifier.map
        fun id => ⟨id, false⟩)) .protocol
    refine ⟨_, adds_trans hfirst hsecond, ?_⟩
    intro event hmem
    rcases List.mem_append.mp hmem with hmem | hmem
    · exact Or.inl (mem_offer hmem)
    · exact Or.inr (mem_offer hmem)

section
variable [Target] {s : Setup}

theorem adds_beginEstablishment (e : Endpoint) : Adds e (e.beginEstablishment s) [] := by
  apply adds_refl
  unfold beginEstablishment
  split_ifs <;> rfl

theorem adds_advances {e e' : Endpoint} (h : Advances s e e') : Adds e e' [] := by
  rcases h with rfl | ⟨_, rfl⟩
  · exact adds_refl rfl
  · exact adds_beginEstablishment e

end

end Endpoint

end HilRigProtocol.Transport
