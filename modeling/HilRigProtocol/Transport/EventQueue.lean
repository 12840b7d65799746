/-
  The event ring is a bounded FIFO queue.

  `unread` is the abstraction: the window of `event_count` entries from
  `event_read_index` on, read around the end of the array. Publish, read and reset do to
  it what `Library.Fifo` does to a list of at most four events.
-/
import HilRigProtocol.Library.Fifo
import HilRigProtocol.Transport.Published

namespace HilRigProtocol.Transport.Events

open Library

/-! ## The ring as a machine -/

/-- The three calls of the ring, with the event that a read hands out. -/
def ringStep (root : Root) : Fifo.Op Event → (Status × Option Event) × Root
  | .publish event =>
      let (status, root) := publish root event
      ((status, none), root)
  | .read =>
      let (status, event, root) := read root
      ((status, event), root)
  | .reset => ((.ok, none), reset root)

/-- How the calls report what the queue does. -/
def response : Fifo.Outcome Event → Status × Option Event
  | .accepted => (.ok, none)
  | .refused => (.invalidArgument, none)
  | .full => (.capacityExhausted, none)
  | .taken event => (.ok, some event)
  | .empty => (.notReady, none)
  | .cleared => (.ok, none)

/-- The FIFO queue of the ring's capacity, with these reports. -/
def fifoStep (queue : List Event) (op : Fifo.Op Event) : (Status × Option Event) × List Event :=
  let (outcome, queue) := Fifo.step valueIsValid eventQueueCapacity queue op
  (response outcome, queue)

/-- The ring in a root. -/
def ring (root : Root) : EventRing where
  queue := root.eventQueue
  readIndex := root.eventReadIndex
  count := root.eventCount

theorem length_unread (root : Root) : (unread root).length = root.eventCount :=
  (ring root).length_contents

theorem stateIsValid_iff {root : Root} : stateIsValid root = true ↔ (ring root).Wf := by
  simp only [stateIsValid, Bool.and_eq_true, decide_eq_true_eq, List.all_eq_true, List.mem_range]
  constructor
  · rintro ⟨⟨hindex, hcount⟩, hvalid⟩
    exact ⟨hindex, hcount, hvalid⟩
  · intro h
    exact ⟨⟨h.readIndex_lt, h.count_le⟩, h.valid⟩

theorem validateState_ok {root : Root} (h : stateIsValid root = true) :
    validateState root = (.ok, root) := by
  rw [validateState, if_neg (not_not.mpr h)]

/-- What `HIL_TRANSPORT_MVP_Events_Read` leaves of a ring that is not empty. -/
theorem read_pops {root : Root} (h : stateIsValid root = true) (hne : root.eventCount ≠ 0) :
    (read root).1 = .ok ∧ (read root).2.1 = some (root.eventQueue (slot root 0))
      ∧ ring (read root).2.2 = (ring root).pop := by
  unfold read
  rw [validateState_ok h]
  dsimp only
  rw [if_neg (not_not.mpr rfl), if_neg hne]
  by_cases hlast : root.eventCount - 1 = 0
  · rw [if_pos hlast]
    refine ⟨rfl, rfl, ?_⟩
    have hone : (ring root).count = 1 := by
      show root.eventCount = 1
      omega
    rw [EventRing.pop, if_pos hone]
    rfl
  · rw [if_neg hlast]
    refine ⟨rfl, rfl, ?_⟩
    have hmore : (ring root).count ≠ 1 := by
      show root.eventCount ≠ 1
      omega
    rw [EventRing.pop, if_neg hmore]
    rfl

/-! ## One step -/

/-- A publish that is refused returns the root that it was given. -/
theorem publish_refused {root : Root} (h : stateIsValid root = true) {event : Event}
    (hstatus : (publish root event).1 ≠ .ok) : (publish root event).2 = root := by
  unfold publish at *
  rw [validateState_ok h] at *
  dsimp only at *
  split_ifs at * with hvalid hok hfull
  all_goals first | rfl | exact absurd rfl hstatus

/-- The ring answers as the queue of its unread events does, and becomes a ring of the
    queue that is left. -/
theorem step_refines {root : Root} (h : stateIsValid root = true) (op : Fifo.Op Event) :
    (ringStep root op).1 = (fifoStep (unread root) op).1
      ∧ unread (ringStep root op).2 = (fifoStep (unread root) op).2
      ∧ stateIsValid (ringStep root op).2 = true := by
  have hwf := stateIsValid_iff.mp h
  cases op with
  | publish event =>
      unfold ringStep publish fifoStep Fifo.step
      rw [validateState_ok h, length_unread]
      dsimp only
      by_cases hvalid : valueIsValid event = true
      · rw [if_neg (not_not.mpr hvalid), if_neg (not_not.mpr rfl), if_neg (not_not.mpr hvalid)]
        by_cases hfull : root.eventCount = eventQueueCapacity
        · rw [if_pos hfull, if_pos hfull]
          exact ⟨rfl, rfl, h⟩
        · rw [if_neg hfull, if_neg hfull]
          have hroom : (ring root).full = false := by
            rw [← Bool.not_eq_true, EventRing.full_iff]
            exact hfull
          exact ⟨rfl, EventRing.contents_push hwf hroom event,
            stateIsValid_iff.mpr (EventRing.wf_push hwf hroom hvalid)⟩
      · rw [if_pos hvalid, if_pos hvalid]
        exact ⟨rfl, rfl, h⟩
  | read =>
      by_cases hempty : root.eventCount = 0
      · have hnil : unread root = [] :=
          List.length_eq_zero_iff.mp ((length_unread root).trans hempty)
        have hread : ringStep root .read = ((.notReady, none), root) := by
          dsimp only [ringStep, read]
          rw [validateState_ok h]
          dsimp only
          rw [if_neg (not_not.mpr rfl), if_pos hempty]
        rw [hread, hnil]
        exact ⟨rfl, rfl, h⟩
      · obtain ⟨hstatus, hevent, hring⟩ := read_pops h hempty
        have hcontents : unread root = root.eventQueue (slot root 0) :: (ring root).pop.contents :=
          @EventRing.contents_pop (ring root) hempty
        rw [hcontents]
        refine ⟨Prod.ext hstatus hevent, ?_, ?_⟩
        · exact congrArg EventRing.contents hring
        · rw [stateIsValid_iff]
          exact hring ▸ EventRing.wf_pop hwf
  | reset => exact ⟨rfl, rfl, stateIsValid_iff.mpr (EventRing.wf_clear (ring root))⟩

/-! ## Runs -/

/-- The events that a call puts into the ring: one that a publish takes. -/
def accepted : Fifo.Op Event → Status × Option Event → List Event
  | .publish event, (.ok, _) => [event]
  | _, _ => []

/-- The events that a call takes out of the ring: one that a read hands out, or all that a
    reset drops. -/
def removed (queue : List Event) : Fifo.Op Event → Status × Option Event → List Event
  | .read, (_, event) => event.toList
  | .reset, _ => queue
  | .publish _, _ => []

/-- The reports say what enters and leaves the queue. -/
theorem fifoStep_reports (queue : List Event) (op : Fifo.Op Event) :
    accepted op (fifoStep queue op).1
        = Fifo.enters op (Fifo.step valueIsValid eventQueueCapacity queue op).1
      ∧ removed queue op (fifoStep queue op).1
        = Fifo.leaves queue (Fifo.step valueIsValid eventQueueCapacity queue op).1 := by
  cases op with
  | publish event =>
      dsimp only [fifoStep, Fifo.step]
      split_ifs <;> exact ⟨rfl, rfl⟩
  | read => cases queue <;> exact ⟨rfl, rfl⟩
  | reset => exact ⟨rfl, rfl⟩

/-- No event is lost, doubled or overtaken by a call. -/
theorem step_moves {root : Root} (h : stateIsValid root = true) (op : Fifo.Op Event) :
    unread root ++ accepted op (ringStep root op).1 =
      removed (unread root) op (ringStep root op).1 ++ unread (ringStep root op).2 := by
  obtain ⟨hresponse, hunread, -⟩ := step_refines h op
  obtain ⟨haccepted, hremoved⟩ := fifoStep_reports (unread root) op
  rw [hresponse, hunread, haccepted, hremoved]
  exact Fifo.step_moves valueIsValid eventQueueCapacity (unread root) op

theorem visits_stateIsValid {root : Root} (h : stateIsValid root = true)
    (ops : List (Fifo.Op Event)) :
    ∀ visit ∈ visits ringStep root ops, stateIsValid visit.1 = true :=
  @visits_invariant _ _ _ ringStep (fun root => stateIsValid root = true) ops root h
    fun visit _ hroot => (step_refines hroot visit.2).2.2

/-- The runs of the ring are those of the queue of its unread events. -/
theorem run_fifoStep {root : Root} (h : stateIsValid root = true) (ops : List (Fifo.Op Event)) :
    (run ringStep root ops).1 = (run fifoStep (unread root) ops).1
      ∧ stateIsValid (run ringStep root ops).2 = true
      ∧ unread (run ringStep root ops).2 = (run fifoStep (unread root) ops).2 := by
  have hruns := @run_alike _ _ _ _ _ ringStep fifoStep
    (fun root queue => stateIsValid root = true ∧ unread root = queue) id
    (fun root queue op hroot => by
      obtain ⟨hreport, hunread, hvalid⟩ := step_refines hroot.1 op
      rw [← hroot.2]
      exact ⟨hreport, hvalid, hunread⟩) root (unread root) ⟨h, rfl⟩ ops
  rw [List.map_id, List.map_id] at hruns
  exact hruns

theorem publish_full {root : Root} (h : stateIsValid root = true) {event : Event}
    (hevent : valueIsValid event = true) (hfull : root.eventCount = eventQueueCapacity) :
    (ringStep root (.publish event)).1 = (.capacityExhausted, none) := by
  rw [(step_refines h _).1, fifoStep, Fifo.step, if_neg (not_not.mpr hevent), length_unread,
    if_pos hfull]
  rfl

/-- For a root that passes `HIL_TRANSPORT_MVP_Events_Validate_State`, as every initialized
    root does, and every sequence of publishes, reads and resets: the calls report what the
    bounded FIFO queue of the unread events reports, and leave the ring of its last queue;
    the events accepted in the sequence leave it in their order, behind those that were
    unread before, or are still unread; a publish that is not accepted leaves the root as it
    was, as one to a full ring; and the read index and the count stay in range. -/
theorem event_ring_fifo {root : Root} (h : stateIsValid root = true)
    (ops : List (Fifo.Op Event)) :
    ((run ringStep root ops).1 = (run fifoStep (unread root) ops).1
      ∧ unread (run ringStep root ops).2 = (run fifoStep (unread root) ops).2)
    ∧ unread root ++ (visits ringStep root ops).flatMap
          (fun visit => accepted visit.2 (ringStep visit.1 visit.2).1)
        = (visits ringStep root ops).flatMap
            (fun visit => removed (unread visit.1) visit.2 (ringStep visit.1 visit.2).1)
          ++ unread (run ringStep root ops).2
    ∧ (∀ visit ∈ visits ringStep root ops, ∀ event, visit.2 = .publish event →
        (visit.1.eventCount = eventQueueCapacity → valueIsValid event →
          (ringStep visit.1 visit.2).1 = (.capacityExhausted, none))
        ∧ ((ringStep visit.1 visit.2).1.1 ≠ .ok → (ringStep visit.1 visit.2).2 = visit.1))
    ∧ ∀ moment ∈ (visits ringStep root ops).map Prod.fst ++ [(run ringStep root ops).2],
        moment.eventReadIndex < eventQueueCapacity ∧ moment.eventCount ≤ eventQueueCapacity := by
  have hvisits := visits_stateIsValid h ops
  obtain ⟨hreports, hlast, hunread⟩ := run_fifoStep h ops
  refine ⟨⟨hreports, hunread⟩, ?_, ?_, ?_⟩
  · exact visits_queue fun visit hvisit => step_moves (hvisits visit hvisit) visit.2
  · rintro ⟨root', op⟩ hvisit event rfl
    have hvalid := hvisits _ hvisit
    exact ⟨fun hfull hevent => publish_full hvalid hevent hfull, publish_refused hvalid⟩
  · intro moment hmoment
    have hvalid : stateIsValid moment = true := by
      rcases List.mem_append.mp hmoment with hvisit | hend
      · obtain ⟨visit, hmem, rfl⟩ := List.mem_map.mp hvisit
        exact hvisits visit hmem
      · rw [List.mem_singleton.mp hend]
        exact hlast
    have hwf := stateIsValid_iff.mp hvalid
    exact ⟨hwf.readIndex_lt, hwf.count_le⟩

/-- Five publishes to the ring of the sample host after a reset, and a read. -/
theorem event_ring_fifo_connected :
    (run ringStep connectedHost
        ([.reset] ++ List.replicate 5 (.publish (Endpoint.resetEvent .none)) ++ [.read])).1
      = [(.ok, none), (.ok, none), (.ok, none), (.ok, none), (.ok, none),
          (.capacityExhausted, none), (.ok, some (Endpoint.resetEvent .none))] := by
  rw [(event_ring_fifo (by decide +kernel) _).1.1]
  decide +kernel

end HilRigProtocol.Transport.Events
