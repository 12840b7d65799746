/-
  The calls that only ask.

  A peek, and a read of the unread message, show nothing or bytes that a large enough
  buffer gets; a smaller one leaves everything as it is. The status says which of the two
  it is.
-/
import HilRigProtocol.Transport.Atoms

namespace HilRigProtocol.Transport

namespace Endpoint

/-- What a look at the endpoint can do: there is nothing to see, or there are bytes, which
    a large enough buffer gets. -/
inductive Shows (e : Endpoint) (look : Option Nat → Status × Nat × List UInt8 × Endpoint) :
    Bool → Prop
  | nothing : (∀ outBuffer, look outBuffer = (.notReady, 0, [], e)) → Shows e look false
  | bytes {bytes : List UInt8} : bytes ≠ [] →
      (∀ outBuffer, (look outBuffer).1 = (copyOut bytes outBuffer).1 ∧
        (look outBuffer).2.1 = (copyOut bytes outBuffer).2.1 ∧
        ((copyOut bytes outBuffer).1 ≠ .ok → (look outBuffer).2.2.2 = e)) →
      Shows e look true

theorem copyOut_none (bytes : List UInt8) :
    copyOut bytes none = (.bufferTooSmall, bytes.length, []) := rfl

theorem copyOut_small {bytes : List UInt8} {size : Nat} (h : size < bytes.length) :
    copyOut bytes (some size) = (.bufferTooSmall, bytes.length, []) := if_pos h

/-- A look without room for a byte fails for want of room exactly if there is something to
    see. -/
theorem shows_status {e : Endpoint} {look : Option Nat → Status × Nat × List UInt8 × Endpoint}
    {pending : Bool} (h : Shows e look pending) {outBuffer : Option Nat}
    (hzero : outBuffer = none ∨ outBuffer = some 0) :
    (look outBuffer).1 = .bufferTooSmall ↔ pending = true := by
  cases h with
  | nothing hnothing =>
      rw [hnothing]
      simp
  | @bytes bytes hne hbytes =>
      refine ⟨fun _ => rfl, fun _ => ?_⟩
      rw [(hbytes outBuffer).1]
      rcases hzero with rfl | rfl
      · rw [copyOut_none]
      · rw [copyOut_small (List.length_pos_of_ne_nil hne)]

/-- A look with too little room changes nothing. -/
theorem shows_same {e : Endpoint} {look : Option Nat → Status × Nat × List UInt8 × Endpoint}
    {pending : Bool} (h : Shows e look pending) {outBuffer : Option Nat}
    (hsmall : outBuffer = none ∨ ∃ size, outBuffer = some size ∧
      (size = 0 ∨ size < (look none).2.1)) :
    (look outBuffer).2.2.2 = e := by
  cases h with
  | nothing hnothing => rw [hnothing]
  | @bytes bytes hne hbytes =>
      apply (hbytes outBuffer).2.2
      rcases hsmall with rfl | ⟨size, rfl, hsize⟩
      · rw [copyOut_none]
        simp
      · rw [(hbytes none).2.1, copyOut_none] at hsize
        have hpos := List.length_pos_of_ne_nil hne
        have hlt : size < bytes.length := by
          rcases hsize with rfl | hlt
          · exact hpos
          · exact hlt
        rw [copyOut_small hlt]
        simp

/-- A look that copies bytes and moves on to `next` when they fit. -/
theorem shows_copy {e next : Endpoint} {look : Option Nat → Status × Nat × List UInt8 × Endpoint}
    {bytes : List UInt8} (hne : bytes ≠ [])
    (hlook : ∀ outBuffer, look outBuffer =
      ((copyOut bytes outBuffer).1, (copyOut bytes outBuffer).2.1, (copyOut bytes outBuffer).2.2,
        if (copyOut bytes outBuffer).1 = .ok then next else e)) : Shows e look true := by
  refine .bytes hne fun outBuffer => ?_
  rw [hlook]
  exact ⟨rfl, rfl, fun hfail => if_neg hfail⟩

section
variable [Target] {s : Setup}

omit [Target] in
theorem encodedFrame_ne_nil (frame : Frame) : encodedFrame frame ≠ [] :=
  List.ne_nil_of_length_pos (length_encodedFrame_pos frame)

/-- The status and the choice of `Peek_Output` agree on whether there is output. -/
theorem peekOutput_looks (e : Endpoint) :
    Shows e (e.peekOutput s) (e.status s).outputPending := by
  have hpending : (e.status s).outputPending =
      ((s.item e.activity).elim false (fun item => item.stage.outputPending)
        || e.activity.controlItem.isSome) := rfl
  have hreliable : ∀ {item : Item}, e.selection s = .reliable → s.item e.activity = some item →
      Shows e (e.peekOutput s) true := by
    intro item hselection hitem
    refine @shows_copy e { e with activity := e.activity.mapStage Stage.peek } _ _
      (encodedFrame_ne_nil item.frame) fun outBuffer => ?_
    unfold peekOutput
    rw [hselection, hitem]
  have hcontrol : ∀ {item : ControlItem}, e.selection s = .control →
      e.activity.controlItem = some item → Shows e (e.peekOutput s) true := by
    intro item hselection hitem
    refine @shows_copy e { e with activity := e.activity.peekControl } _ _
      (encodedFrame_ne_nil item.frame) fun outBuffer => ?_
    unfold peekOutput
    rw [hselection, hitem]
  have hnothing : e.selection s = .none → Shows e (e.peekOutput s) false := by
    intro hselection
    refine .nothing fun outBuffer => ?_
    unfold peekOutput
    rw [hselection]
  rw [hpending]
  cases hitem : s.item e.activity with
  | none =>
      cases hitem' : e.activity.controlItem with
      | none => exact hnothing (by unfold selection; rw [hitem, hitem'])
      | some control => exact hcontrol (by unfold selection; rw [hitem, hitem']) hitem'
  | some item =>
      cases hitem' : e.activity.controlItem with
      | none =>
          cases houtput : item.stage.outputPending with
          | true =>
              rw [show (some item).elim false (fun item => item.stage.outputPending) = true from
                houtput]
              exact hreliable (by unfold selection; rw [hitem, hitem']; exact if_pos houtput) hitem
          | false =>
              rw [show (some item).elim false (fun item => item.stage.outputPending) = false from
                houtput]
              exact hnothing (by unfold selection; rw [hitem, hitem']; exact if_neg (by simp [houtput]))
      | some control =>
          rw [show (some control).isSome = true from rfl, Bool.or_true]
          cases hpinned : item.stage.pinned with
          | true =>
              exact hreliable (by unfold selection; rw [hitem, hitem']; exact if_pos hpinned) hitem
          | false =>
              refine hcontrol ?_ hitem'
              unfold selection
              rw [hitem, hitem']
              exact if_neg (by simp [hpinned])

theorem readMessage_looks {e : Endpoint} (h : e.activity.Wf s) :
    Shows e e.readMessage e.activity.unread.isSome := by
  cases ha : e.activity with
  | established id x =>
      rw [ha] at h
      cases hunread : x.unread with
      | none =>
          rw [show (Activity.established id x).unread = none from hunread]
          refine .nothing fun outBuffer => ?_
          unfold readMessage
          rw [ha]
          dsimp only
          rw [hunread]
      | some payload =>
          rw [show (Activity.established id x).unread = some payload from hunread]
          refine @shows_copy e { e with activity := .established id { x with unread := none } }
            _ _ (h.2.unread payload hunread).1 fun outBuffer => ?_
          unfold readMessage
          rw [ha]
          dsimp only
          rw [hunread]
  | _ =>
      refine .nothing fun outBuffer => ?_
      unfold readMessage
      rw [ha]

end

end Endpoint

section
variable [Target] {s : Setup}

/-- The call only asks: it is a status call, a size query, or a peek or a read with a buffer
    that is smaller than the size it is told. -/
def asks (root : Root) : Call → Bool
  | .getStatus => true
  | .peekOutput none | .readApplicationData none => true
  | .peekOutput (some size) =>
      decide (size = 0 ∨ size < (step root (.peekOutput none)).1.size)
  | .readApplicationData (some size) =>
      decide (size = 0 ∨ size < (step root (.readApplicationData none)).1.size)
  | _ => false

/-- A call that only asks changes nothing. -/
theorem asks_same {root : Root} (h : Reachable root) {call : Call}
    (hasks : asks root call = true) : (step root call).2 = root := by
  obtain ⟨s, e, hwf, _, rfl⟩ := reachable_endpoint h
  have hpeek := @Endpoint.peekOutput_looks _ s e
  have hread := Endpoint.readMessage_looks hwf.activity
  have hsame : ∀ {call}, (e.step s call).2 = e → (step (e.toRoot s) call).2 = e.toRoot s := by
    intro call hstep
    rw [step_refines hwf, hstep]
  unfold asks at hasks
  cases call with
  | getStatus => exact hsame rfl
  | peekOutput outBuffer =>
      refine hsame (Endpoint.shows_same hpeek ?_)
      cases outBuffer with
      | none => exact Or.inl rfl
      | some size =>
          dsimp only at hasks
          rw [step_refines hwf] at hasks
          exact Or.inr ⟨size, rfl, of_decide_eq_true hasks⟩
  | readApplicationData outBuffer =>
      refine hsame (Endpoint.shows_same hread ?_)
      cases outBuffer with
      | none => exact Or.inl rfl
      | some size =>
          dsimp only at hasks
          rw [step_refines hwf] at hasks
          exact Or.inr ⟨size, rfl, of_decide_eq_true hasks⟩
  | _ => cases hasks

/-- In every reachable root the status tells exactly what a peek, a read and an event read
    find. Calls that only ask can be left out of a run: the other calls have the same
    responses, and the run leads to the same root. -/
theorem truthful_status {root : Root} (h : Reachable root) :
    (∃ snapshot, (step root .getStatus).1 =
        { Response.ofStatus .ok with snapshot := some snapshot } ∧
      (∀ outBuffer, outBuffer = none ∨ outBuffer = some 0 →
        (snapshot.outputPending = true ↔
            (step root (.peekOutput outBuffer)).1.status = .bufferTooSmall) ∧
          (snapshot.applicationMessagePending ≠ 0 ↔
            (step root (.readApplicationData outBuffer)).1.status = .bufferTooSmall)) ∧
      (snapshot.eventPending = true ↔ (step root .readEvent).1.status = .ok)) ∧
      ∀ calls : List (Call × Bool),
        (∀ visit ∈ Library.visits (Library.markedStep step) root calls, visit.2.2 = true →
          asks visit.1 visit.2.1 = true) →
        Library.run step root (Library.unmarked calls) =
          (Library.unmarked (Library.run (Library.markedStep step) root calls).1,
            (Library.run (Library.markedStep step) root calls).2) := by
  refine ⟨?_, ?_⟩
  · obtain ⟨s, e, hwf, _, rfl⟩ := reachable_endpoint h
    have hpeek := @Endpoint.peekOutput_looks _ s e
    have hread := Endpoint.readMessage_looks hwf.activity
    refine ⟨e.status s, ?_, ?_, ?_⟩
    · rw [step_refines hwf]
      rfl
    · intro outBuffer hzero
      refine ⟨?_, ?_⟩
      · rw [step_refines hwf]
        exact (Endpoint.shows_status hpeek hzero).symm
      · have hpending : (e.status s).applicationMessagePending ≠ 0 ↔
            e.activity.unread.isSome = true := by
          show (if e.activity.unread.isSome then (1 : UInt8) else 0) ≠ 0 ↔ _
          cases e.activity.unread <;> simp
        rw [step_refines hwf, hpending]
        exact (Endpoint.shows_status hread hzero).symm
    · rw [step_refines hwf]
      show decide (e.events.count ≠ 0) = true ↔ e.readEvent.1 = .ok
      unfold Endpoint.readEvent
      by_cases hcount : e.events.count = 0
      · rw [if_pos hcount]
        simp [hcount]
      · rw [if_neg hcount]
        simp [hcount]
  · intro calls hasks
    apply Library.run_unmarked
    intro visit hvisit hmark
    have hreachable := @Library.visits_invariant _ _ _ (Library.markedStep step) Reachable calls
      root h (fun visit _ hvisit => @reachable_run _ visit.1 hvisit [visit.2.1]) visit hvisit
    exact asks_same hreachable (hasks visit hvisit hmark)

end

/-- The first handshake frame of the sample host, with three calls in between that only ask. -/
def questionedCalls : List (Call × Bool) :=
  [(.process 0 .normal, false), (.getStatus, true), (.peekOutput (some 3), true),
    (.peekOutput (some 64), false), (.readApplicationData none, true), (.commitOutput 0, false)]

theorem truthful_status_connectedHost :
    Library.run (@step .lp64) connectedHost (Library.unmarked questionedCalls) =
      (Library.unmarked
          (Library.run (Library.markedStep (@step .lp64)) connectedHost questionedCalls).1,
        (Library.run (Library.markedStep (@step .lp64)) connectedHost questionedCalls).2) :=
  (@truthful_status .lp64 connectedHost reachable_connectedHost).2 questionedCalls (by
    decide +kernel)

end HilRigProtocol.Transport
