/-
  Pinned output.

  A peek that succeeds pins the bytes it shows: the reliable item's or the control
  item's, never both. The pin holds until it is committed, or until its session goes, and
  a commit is about the pinned bytes and nothing else.
-/
import HilRigProtocol.Transport.Retained

namespace HilRigProtocol.Transport

/-- The bytes that the caller has been shown and has not committed. -/
def Output.pinned (root : Root) : Option (List UInt8) :=
  match root.outputSelection with
  | .reliable => some root.encodedOutput
  | .control => some root.controlOutput
  | _ => none

/-- The caller commits, resets, or reports the loss of the link. -/
def Call.releasesPin : Call → Bool
  | .commitOutput _ | .reset => true
  | call => call.reportsLinkLoss

/-- A commit moves the lifecycle on whose bytes are pinned, and changes nothing else. -/
structure CommitsPinned (before after : Root) (nowMs : UInt32) : Prop where
  reliable : before.outputSelection = .reliable →
    after =
      { before with
        session :=
          { before.session with
            reliableState := .awaitingAck
            retransmissionsCommitted :=
              if before.session.reliableState = .retransmitPeeked then
                before.session.retransmissionsCommitted + 1
              else before.session.retransmissionsCommitted
            reliableLastCommittedMs := nowMs }
        outputSelection := .none }
  control : before.outputSelection = .control →
    after =
      { before with
        outputSelection := .none
        controlOutput := []
        controlOutputState := .idle
        recoveryResetPending := 0
        recoveryResetSessionIdentifier := sessionSeedInvalid }

section
variable [Target]

namespace Endpoint

/-! ## The pinned frame -/

/-- The frame whose bytes are pinned, and the lifecycle it belongs to. -/
inductive Pins (s : Setup) (e : Endpoint) : OutputSelection → Frame → Prop
  | reliable {item : Item} : s.item e.activity = some item → item.stage.pinned = true →
      Pins s e .reliable item.frame
  | control {item : ControlItem} : e.activity.controlItem = some item → item.pinned = true →
      Pins s e .control item.frame

variable {s : Setup}

/-- Not both items are pinned. -/
theorem one_pin {e : Endpoint} (h : e.Wf s) {item : Item} {control : ControlItem}
    (hitem : s.item e.activity = some item) (hcontrol : e.activity.controlItem = some control)
    (hpinned : control.pinned = true) : item.stage.pinned = false := by
  by_contra hboth
  rw [Bool.not_eq_false] at hboth
  have hfree := not_both_pinned h.activity (reliablePinned_iff.mpr ⟨item, hitem, hboth⟩)
  rw [controlPinned_iff.mpr ⟨control, hcontrol, hpinned⟩] at hfree
  cases hfree

theorem pins_toRoot {e : Endpoint} (h : e.Wf s) {selection : OutputSelection} {frame : Frame}
    (hpins : Pins s e selection frame) :
    (e.toRoot s).outputSelection = selection ∧
      Output.pinned (e.toRoot s) = some (encodedFrame frame) := by
  cases hpins with
  | @reliable item hitem hpinned =>
      have hselection : (e.toRoot s).outputSelection = .reliable := by
        rw [outputSelection_toRoot, if_pos (reliablePinned_iff.mpr ⟨item, hitem, hpinned⟩)]
      refine ⟨hselection, ?_⟩
      unfold Output.pinned
      rw [hselection]
      show some ((s.item e.activity).elim _ _) = _
      rw [hitem]
      rfl
  | @control item hitem hpinned =>
      have hselection : (e.toRoot s).outputSelection = .control := by
        rw [outputSelection_toRoot, if_neg, if_pos (controlPinned_iff.mpr ⟨item, hitem, hpinned⟩)]
        intro hreliable
        obtain ⟨other, hother, hboth⟩ := reliablePinned_iff.mp hreliable
        rw [one_pin h hother hitem hpinned] at hboth
        cases hboth
      refine ⟨hselection, ?_⟩
      unfold Output.pinned
      rw [hselection]
      show some ((e.activity.controlItem).elim _ _) = _
      rw [hitem]
      rfl

theorem pins_of_selection {e : Endpoint} (h : (e.toRoot s).outputSelection ≠ .none) :
    ∃ frame, Pins s e (e.toRoot s).outputSelection frame := by
  rw [outputSelection_toRoot] at h ⊢
  rcases pinned_cases s e with ⟨hreliable, item, hitem, hpinned⟩ |
    ⟨hreliable, hcontrol, item, hitem, hpinned⟩ | ⟨hreliable, hcontrol⟩
  · rw [if_pos hreliable]
    exact ⟨_, .reliable hitem hpinned⟩
  · rw [if_neg hreliable, if_pos hcontrol]
    exact ⟨_, .control hitem hpinned⟩
  · rw [if_neg hreliable, if_neg hcontrol] at h
    exact absurd rfl h

/-! ## What a step does to the pin -/

omit [Target] in
theorem peek_pinned {stage : Stage} (h : stage.pinned = true) : stage.peek = stage := by
  cases stage <;> first | rfl | cases h

theorem retry_pinned {stage : Stage} (h : stage.pinned = true) : s.retry stage = stage := by
  cases stage <;> first | rfl | cases h

omit [Target] in
theorem acceptsAck_unpinned {stage : Stage} (h : stage.acceptsAck = true) :
    stage.pinned = false := by
  cases stage <;> first | rfl | cases h

/-- The stage of a pinned item changes only by its commit. -/
theorem stageMove_pinned {e : Endpoint} {call : Call} {stage stage' : Stage}
    (h : StageMove s e call stage stage') (hpinned : stage.pinned = true)
    (hcall : call.releasesPin = false) : stage' = stage := by
  cases h with
  | same => rfl
  | shown => exact peek_pinned hpinned
  | committed hcommit =>
      rw [hcommit] at hcall
      cases hcall
  | asked => exact retry_pinned hpinned
  | expired _ hexpired =>
      obtain ⟨retries, ms, rfl, _⟩ := hexpired
      cases hpinned

omit [Target] in
theorem releasesPin_lifecycle {call : Call} (h : call.releasesPin = false) :
    call ≠ .reset ∧ call.reportsLinkLoss = false := by
  cases call <;> first | exact ⟨by simp, h⟩ | cases h

/-- A pin holds. -/
theorem pins_step {e e' : Endpoint} {call : Call} {selection : OutputSelection} {frame : Frame}
    (h : Deed s e call e') (hpins : Pins s e selection frame) (hcall : call.releasesPin = false)
    (hcursor : Successive s e) (hended : ¬ SessionEnded (e.toRoot s) (e'.toRoot s)) :
    Pins s e' selection frame := by
  obtain ⟨hreset, hlink⟩ := releasesPin_lifecycle hcall
  have hends : ¬ Ends s e call e' := fun hends => hended (ends_ended hcursor hends hreset hlink)
  cases hpins with
  | @reliable item hitem hpinned =>
      cases deed_fate hitem h with
      | @kept stage hmove hkept =>
          rw [stageMove_pinned hmove hpinned hcall] at hkept
          exact @Pins.reliable _ s e' ⟨item.frame, item.stage⟩ hkept hpinned
      | acknowledged _ hack =>
          rw [acceptsAck_unpinned hack] at hpinned
          cases hpinned
      | failed _ _ hleaves => exact absurd (leavesReset_ended hleaves) hended
      | ended hother => exact absurd hother hends
  | @control item hitem hpinned =>
      cases deed_control h with
      | same hsame => exact .control (hsame.trans hitem) hpinned
      | shown _ _ hother _ hsome =>
          rw [hitem] at hother
          cases hother
          exact @Pins.control _ s e' ⟨item.frame, true⟩ hsome rfl
      | committed hcommit =>
          rw [hcommit] at hcall
          cases hcall
      | acknowledged _ _ _ hnone =>
          rw [hitem] at hnone
          cases hnone
      | left hwhy _ =>
          rcases hwhy with hother | hleaves
          · exact absurd hother hends
          · exact absurd (leavesReset_ended hleaves) hended

/-- What is pinned after a step was pinned before it, or has just been shown. -/
theorem pins_shown {e e' : Endpoint} {call : Call} {selection : OutputSelection} {frame : Frame}
    (h : Deed s e call e') (hpins : Pins s e' selection frame) :
    Pins s e selection frame ∨
      ∃ size, call = .peekOutput (some size) ∧ (encodedFrame frame).length ≤ size ∧
        e.selection s = selection ∧
        ((∃ item, s.item e.activity = some item ∧ item.frame = frame ∧ selection = .reliable) ∨
          ∃ item, e.activity.controlItem = some item ∧ item.frame = frame ∧
            selection = .control) := by
  cases hpins with
  | @reliable item hitem hpinned =>
      cases hbefore : s.item e.activity with
      | none =>
          cases deed_birth hbefore hitem h with
          | handshake _ _ hready =>
              rw [hready] at hpinned
              cases hpinned
          | message _ _ hready =>
              rw [hready] at hpinned
              cases hpinned
      | some old =>
          obtain ⟨oldFrame, oldStage⟩ := old
          cases deed_fate hbefore h with
          | @kept stage hmove hkept =>
              rw [hitem] at hkept
              cases hkept
              cases hmove with
              | same => exact Or.inl (.reliable hbefore hpinned)
              | @shown size _ hcall hselection hsome hsize =>
                  rw [hbefore] at hsome
                  cases hsome
                  exact Or.inr ⟨size, hcall, hsize, hselection, Or.inl ⟨_, rfl, rfl, rfl⟩⟩
              | @committed nowMs _ hwas =>
                  rw [show (oldStage.commit nowMs).pinned = false from
                    (Stage.commit_of_pinned nowMs hwas).2.2] at hpinned
                  cases hpinned
              | asked | expired =>
                  rw [Setup.pinned_retry] at hpinned
                  exact Or.inl (@Pins.reliable _ s e ⟨oldFrame, oldStage⟩ hbefore hpinned)
          | acknowledged _ _ hnone | failed _ _ _ hnone | ended _ hnone =>
              rw [hnone] at hitem
              cases hitem
  | @control item hitem hpinned =>
      cases deed_control h with
      | same hsame => exact Or.inl (.control (hsame ▸ hitem) hpinned)
      | @shown size old hcall hselection hold hsize hsome =>
          rw [hsome] at hitem
          cases hitem
          exact Or.inr ⟨size, hcall, hsize, hselection, Or.inr ⟨_, hold, rfl, rfl⟩⟩
      | committed _ _ _ hnone =>
          rw [hnone] at hitem
          cases hitem
      | acknowledged _ _ _ _ ha _ hack =>
          rw [ha, controlItem_established, hack] at hitem
          cases hitem
          cases hpinned
      | left _ hafter =>
          rcases hafter with hnone | ⟨id, ha⟩
          · rw [hnone] at hitem
            cases hitem
          · rw [ha] at hitem
            cases hitem
            cases hpinned

/-! ## Peek and commit -/

/-- The next peek shows what is pinned. -/
theorem selection_pinned {e : Endpoint} (h : e.Wf s) {selection : OutputSelection} {frame : Frame}
    (hpins : Pins s e selection frame) : e.selection s = selection := by
  unfold Endpoint.selection
  cases hpins with
  | @reliable item hitem hpinned =>
      rw [hitem]
      cases e.activity.controlItem with
      | some control => exact if_pos hpinned
      | none => exact if_pos (Stage.outputPending_of_pinned hpinned)
  | @control item hitem hpinned =>
      rw [hitem]
      cases hreliable : s.item e.activity with
      | none => rfl
      | some other => exact if_neg (by simp [one_pin h hreliable hitem hpinned])

/-- The response to a peek with a buffer that is large enough. -/
theorem peekOutput_shows {e : Endpoint} {selection : OutputSelection} {frame : Frame}
    {size : Nat} (hselection : e.selection s = selection)
    (hframe : (∃ item, s.item e.activity = some item ∧ item.frame = frame ∧
        selection = .reliable) ∨
      ∃ item, e.activity.controlItem = some item ∧ item.frame = frame ∧ selection = .control)
    (hsize : (encodedFrame frame).length ≤ size) :
    (e.step s (.peekOutput (some size))).1 =
      { Response.ofStatus .ok with
        size := (encodedFrame frame).length, bytes := encodedFrame frame } := by
  have hcopy : copyOut (encodedFrame frame) (some size) =
      (.ok, (encodedFrame frame).length, encodedFrame frame) :=
    if_neg (Nat.not_lt.mpr hsize)
  unfold Endpoint.step peekOutput
  rcases hframe with ⟨item, hitem, rfl, rfl⟩ | ⟨item, hitem, rfl, rfl⟩
  · rw [hselection, hitem]
    dsimp only
    rw [hcopy]
  · rw [hselection, hitem]
    dsimp only
    rw [hcopy]

theorem peekOutput_pinned {e : Endpoint} (h : e.Wf s) {selection : OutputSelection}
    {frame : Frame} {size : Nat} (hpins : Pins s e selection frame)
    (hsize : (encodedFrame frame).length ≤ size) :
    (e.step s (.peekOutput (some size))).1 =
      { Response.ofStatus .ok with
        size := (encodedFrame frame).length, bytes := encodedFrame frame } := by
  refine peekOutput_shows (selection_pinned h hpins) ?_ hsize
  cases hpins with
  | reliable hitem => exact Or.inl ⟨_, hitem, rfl, rfl⟩
  | control hitem => exact Or.inr ⟨_, hitem, rfl, rfl⟩

omit [Target] in
theorem copyOut_bytes {bytes : List UInt8} {outBuffer : Option Nat}
    (h : (copyOut bytes outBuffer).1 = .ok) : (copyOut bytes outBuffer).2.2 = bytes := by
  obtain ⟨size, rfl, hsize⟩ := copyOut_ok h
  unfold copyOut
  dsimp only
  rw [if_neg (Nat.not_lt.mpr hsize)]

/-- A peek that succeeds pins what it shows. -/
theorem pins_of_peek {e : Endpoint} {outBuffer : Option Nat}
    (hok : (e.step s (.peekOutput outBuffer)).1.status = .ok) :
    ∃ selection frame, Pins s (e.step s (.peekOutput outBuffer)).2 selection frame ∧
      (e.step s (.peekOutput outBuffer)).1.bytes = encodedFrame frame := by
  have hstatus : (e.peekOutput s outBuffer).1 = .ok := hok
  show ∃ selection frame, Pins s (e.peekOutput s outBuffer).2.2.2 selection frame ∧
    (e.peekOutput s outBuffer).2.2.1 = encodedFrame frame
  unfold peekOutput at hstatus ⊢
  cases hselection : e.selection s with
  | reliable =>
      rw [hselection] at hstatus
      cases hitem : s.item e.activity with
      | none =>
          rw [hitem] at hstatus
          cases hstatus
      | some item =>
          rw [hitem] at hstatus
          dsimp only at hstatus ⊢
          rw [hstatus, if_pos rfl, copyOut_bytes hstatus]
          obtain ⟨other, hother, hpending, _⟩ := selection_reliable hselection
          rw [hitem] at hother
          cases hother
          have hpinned := Stage.pinned_peek hpending
          refine ⟨.reliable, item.frame, ?_, rfl⟩
          refine @Pins.reliable _ s _ ⟨item.frame, item.stage.peek⟩ ?_ hpinned
          rw [item_mapStage, hitem]
          rfl
  | control =>
      rw [hselection] at hstatus
      cases hitem : e.activity.controlItem with
      | none =>
          rw [hitem] at hstatus
          cases hstatus
      | some item =>
          rw [hitem] at hstatus
          dsimp only at hstatus ⊢
          rw [hstatus, if_pos rfl, copyOut_bytes hstatus]
          exact ⟨.control, item.frame,
            @Pins.control _ s _ ⟨item.frame, true⟩ (controlItem_peekControl hitem) rfl, rfl⟩
  | _ =>
      rw [hselection] at hstatus
      cases hstatus

theorem commitOutput_pinned {e : Endpoint} (h : e.Wf s) {selection : OutputSelection}
    {frame : Frame} (hpins : Pins s e selection frame) (nowMs : UInt32) :
    (e.step s (.commitOutput nowMs)).1 = Response.ofStatus .ok ∧
      CommitsPinned (e.toRoot s) ((e.step s (.commitOutput nowMs)).2.toRoot s) nowMs := by
  have hselection := (pins_toRoot h hpins).1
  show Response.ofStatus (e.commitOutput s nowMs).1 = _ ∧
    CommitsPinned (e.toRoot s) ((e.commitOutput s nowMs).2.toRoot s) nowMs
  cases hpins with
  | @reliable item hitem hpinned =>
      have hreliable : e.reliablePinned s = true := reliablePinned_iff.mpr ⟨item, hitem, hpinned⟩
      have hcommit : e.commitOutput s nowMs =
          (.ok, { e with activity := e.activity.mapStage (Stage.commit nowMs) }) :=
        if_pos hreliable
      rw [hcommit]
      refine ⟨rfl, ⟨fun _ => ?_, fun hother => ?_⟩⟩
      · obtain ⟨hstate, hms, hfree⟩ := Stage.commit_of_pinned nowMs hpinned
        have hcontrol := not_both_pinned h.activity hreliable
        rw [toRoot_mapStage e (Stage.commit nowMs) hitem, hstate, hms, hfree, hcontrol,
          ← Stage.retries_commit hpinned]
        unfold toRoot toSession
        rw [hitem]
        rfl
      · rw [hselection] at hother
        cases hother
  | @control item hitem hpinned =>
      have hreliable : ¬ e.reliablePinned s = true := by
        intro hboth
        rw [outputSelection_toRoot, if_pos hboth] at hselection
        cases hselection
      have hcontrol : e.controlPinned = true := controlPinned_iff.mpr ⟨item, hitem, hpinned⟩
      have hcommit : e.commitOutput s nowMs =
          (.ok, { e with activity := e.activity.commitControl }) :=
        (if_neg hreliable).trans (if_pos hcontrol)
      rw [hcommit]
      refine ⟨rfl, ⟨fun hother => ?_, fun _ => ?_⟩⟩
      · rw [hselection] at hother
        cases hother
      · rw [toRoot_commitControl e hitem, if_neg hreliable]

theorem commitOutput_unpinned {e : Endpoint} (h : (e.toRoot s).outputSelection = .none)
    (nowMs : UInt32) :
    e.step s (.commitOutput nowMs) = (Response.ofStatus .notReady, e) := by
  rw [outputSelection_toRoot] at h
  show (Response.ofStatus (e.commitOutput s nowMs).1, (e.commitOutput s nowMs).2) = _
  unfold commitOutput
  rcases pinned_cases s e with ⟨hreliable, -⟩ | ⟨hreliable, hcontrol, -⟩ | ⟨hreliable, hcontrol⟩
  · rw [if_pos hreliable] at h
    cases h
  · rw [if_neg hreliable, if_pos hcontrol] at h
    cases h
  · rw [if_neg hreliable, if_neg hcontrol]

theorem one_lifecycle_pinned {e : Endpoint} (h : e.Wf s)
    (hreliable : (e.toRoot s).session.reliableState = .peeked ∨
      (e.toRoot s).session.reliableState = .retransmitPeeked)
    (hcontrol : (e.toRoot s).controlOutputState = .peeked) : False := by
  have hreliablePinned : e.reliablePinned s = true := by
    rw [← reliablePeeked_toRoot]
    unfold Output.reliablePeeked
    rcases hreliable with hpeeked | hpeeked <;> simp [hpeeked]
  have hcontrolPinned : e.controlPinned = true := by
    rw [← controlPeeked_toRoot (s := s)]
    unfold Output.controlPeeked
    simp [hcontrol]
  rw [not_both_pinned h.activity hreliablePinned] at hcontrolPinned
  cases hcontrolPinned

/-! ## The end of a pin -/

theorem unpinned_toRoot {e : Endpoint} (hitem : s.item e.activity = none)
    (hcontrol : e.controlPinned = false) : (e.toRoot s).outputSelection = .none := by
  rw [outputSelection_toRoot, if_neg, if_neg]
  · simp [hcontrol]
  · unfold reliablePinned
    rw [hitem]
    simp

theorem unpinned_reset (e : Endpoint) : (e.reset.toRoot s).outputSelection = .none := by
  have hactivity : ∀ a, e.reset.activity = a → (∃ observed, a = .disconnected observed) ∨
      ∃ reset : Option RecoveryReset, a = .recovering reset ∧ ∀ r, reset = some r → r.pinned = false := by
    rintro _ rfl
    unfold Endpoint.reset
    cases e.activity with
    | disconnected observed => exact Or.inl ⟨observed, rfl⟩
    | _ =>
        refine Or.inr ⟨_, rfl, ?_⟩
        intro r hr
        obtain ⟨_, _, rfl⟩ := Option.map_eq_some_iff.mp hr
        rfl
  rcases hactivity _ rfl with ⟨observed, ha⟩ | ⟨reset, ha, hfree⟩
  · refine unpinned_toRoot (by rw [ha]; rfl) ?_
    unfold controlPinned
    rw [ha]
    rfl
  · refine unpinned_toRoot (by rw [ha]; rfl) ?_
    unfold controlPinned
    rw [ha]
    cases reset with
    | none => rfl
    | some r => exact hfree r rfl

theorem unpinned_linkLoss {e : Endpoint} {call : Call} (h : call.reportsLinkLoss = true) :
    ((e.step s call).2.toRoot s).outputSelection = .none := by
  have ha := @activity_linkLoss _ s e _ h
  refine unpinned_toRoot (by rw [ha]; rfl) ?_
  unfold controlPinned
  rw [ha]
  rfl

theorem unpinned_ended {e e' : Endpoint} {call : Call} (h : Deed s e call e')
    (hended : SessionEnded (e.toRoot s) (e'.toRoot s)) :
    (e'.toRoot s).outputSelection = .none := by
  have hactivity : ∀ a : Activity, e'.activity = a → s.item a = none →
      a.controlItem.elim false ControlItem.pinned = false →
      (e'.toRoot s).outputSelection = .none := by
    rintro _ rfl hitem hcontrol
    exact unpinned_toRoot hitem hcontrol
  obtain ⟨id, hid⟩ : ∃ id, e.activity.identifier = some id := by
    rw [← Option.isSome_iff_exists]
    by_contra hnone
    have hvalid := hended.1
    rw [show (e.toRoot s).session.sessionIdentifierValid = 0 from if_neg hnone] at hvalid
    cases hvalid
  cases deed_parting h hid with
  | stays hkept _ =>
      exfalso
      rcases hended.2 with hgone | hother
      · rw [show (e'.toRoot s).session.sessionIdentifierValid = 1 from
          if_pos (by rw [hkept]; rfl)] at hgone
        cases hgone
      · apply hother
        show e'.activity.identifier.getD _ = e.activity.identifier.getD _
        rw [hkept, hid]
  | rejected _ _ ha | failed _ _ _ ha | reset _ ha | lost _ ha => exact hactivity _ ha rfl rfl
  | peer _ _ _ _ ha =>
      rcases ha with ha | ⟨next, ha⟩
      · exact hactivity _ ha rfl rfl
      · exact hactivity _ ha rfl rfl

end Endpoint

open Endpoint

/-! ## Runs -/

/-- The pinned bytes, over a run: every peek shows them, and the next commit is theirs. -/
structure PinHolds (root : Root) (calls : List Call) (bytes : List UInt8) : Prop where
  shown : ∀ moment ∈ moments step root calls, ∀ size, moment.2 = .peekOutput (some size) →
    bytes.length ≤ size →
    (step moment.1 moment.2).1 =
      { Response.ofStatus .ok with size := bytes.length, bytes := bytes }
  selection : (Library.run step root calls).2.outputSelection = root.outputSelection
  pinned : Output.pinned (Library.run step root calls).2 = some bytes
  committed : ∀ nowMs,
    (step (Library.run step root calls).2 (.commitOutput nowMs)).1 = Response.ofStatus .ok ∧
      CommitsPinned (Library.run step root calls).2
        (step (Library.run step root calls).2 (.commitOutput nowMs)).2 nowMs

/-- The moment shows the bytes to the caller. -/
def Shows (bytes : List UInt8) (moment : Root × Call) : Prop :=
  ∃ size, moment.2 = .peekOutput (some size) ∧
    (step moment.1 moment.2).1 =
      { Response.ofStatus .ok with size := bytes.length, bytes := bytes }

theorem pinHolds {s : Setup} {e : Endpoint} (h : e.Wf s) (hcursor : Successive s e)
    {selection : OutputSelection} {frame : Frame} (hpins : Pins s e selection frame)
    {calls : List Call}
    (hundisturbed : ∀ moment ∈ moments step (e.toRoot s) calls,
      moment.2.releasesPin = false ∧ ¬ SessionEnded moment.1 (step moment.1 moment.2).2) :
    PinHolds (e.toRoot s) calls (encodedFrame frame) := by
  obtain ⟨hall, last, hwf, ⟨_, hlast⟩, heq⟩ :=
    @run_invariant _ s (fun e => Successive s e ∧ Pins s e selection frame) e h ⟨hcursor, hpins⟩
      calls (by
        intro e' call hmoment hwf' hboth hatomic
        obtain ⟨hcall, hended⟩ := hundisturbed _ hmoment
        dsimp only at hended
        rw [step_refines hwf'] at hended
        exact ⟨successive_step hwf' hboth.1 hatomic,
          pins_step (step_deed hwf' hatomic) hboth.2 hcall hboth.1 hended⟩)
  have hpinned := pins_toRoot hwf hlast
  refine ⟨?_, ?_, ?_, ?_⟩
  · intro moment hmoment size hcall hsize
    obtain ⟨e', hwf', ⟨_, hpins'⟩, _, hroot⟩ := hall moment hmoment
    rw [hroot, hcall, step_refines hwf']
    exact peekOutput_pinned hwf' hpins' hsize
  · rw [heq, hpinned.1, (pins_toRoot h hpins).1]
  · rw [heq, hpinned.2]
  · intro nowMs
    rw [heq, step_refines hwf]
    exact commitOutput_pinned hwf hlast nowMs

theorem pins_of_pinned {s : Setup} {e : Endpoint} (h : e.Wf s) {bytes : List UInt8}
    (hpinned : Output.pinned (e.toRoot s) = some bytes) :
    ∃ selection frame, Pins s e selection frame ∧ bytes = encodedFrame frame := by
  have hselection : (e.toRoot s).outputSelection ≠ .none := by
    intro hnone
    unfold Output.pinned at hpinned
    rw [hnone] at hpinned
    cases hpinned
  obtain ⟨frame, hpins⟩ := pins_of_selection hselection
  rw [(pins_toRoot h hpins).2] at hpinned
  exact ⟨_, frame, hpins, (Option.some.inj hpinned).symm⟩

/-- Bytes become pinned by being shown. -/
theorem pinned_shows {s : Setup} {e : Endpoint} (h : e.Wf s) {call : Call}
    (hatomic : Atomic s e call) {bytes : List UInt8}
    (hpinned : Output.pinned (step (e.toRoot s) call).2 = some bytes) :
    Output.pinned (e.toRoot s) = some bytes ∨ Shows bytes (e.toRoot s, call) := by
  rw [step_refines h] at hpinned
  obtain ⟨selection, frame, hpins, rfl⟩ := pins_of_pinned (wf_step h call) hpinned
  rcases pins_shown (step_deed h hatomic) hpins with hbefore |
    ⟨size, rfl, hsize, hselection, hframe⟩
  · exact Or.inl (pins_toRoot h hbefore).2
  · refine Or.inr ⟨size, rfl, ?_⟩
    rw [step_refines h]
    exact peekOutput_shows hselection hframe hsize

theorem pinned_none_iff {s : Setup} {e : Endpoint} (h : e.Wf s) :
    (e.toRoot s).outputSelection = .none ↔ ∀ bytes, Output.pinned (e.toRoot s) ≠ some bytes := by
  constructor
  · intro hnone bytes hpinned
    unfold Output.pinned at hpinned
    rw [hnone] at hpinned
    cases hpinned
  · intro hnever
    by_contra hselection
    obtain ⟨frame, hpins⟩ := pins_of_selection hselection
    exact hnever _ (pins_toRoot h hpins).2

/-- In every run at most one lifecycle is pinned. A peek that succeeds pins what it
    shows: until the caller commits, resets or loses the link, or the session ends, every
    peek shows the same bytes, and the commit moves on what they belong to and nothing
    else. These ends release the pin, and a commit succeeds only after another peek. -/
theorem pinned_output {root : Root} (h : Reachable root) (calls : List Call) :
    (∀ moment ∈ moments step root calls,
      ¬ ((moment.1.session.reliableState = .peeked ∨
          moment.1.session.reliableState = .retransmitPeeked) ∧
        moment.1.controlOutputState = .peeked)) ∧
      (∀ outBuffer, (step root (.peekOutput outBuffer)).1.status = .ok →
        (∀ moment ∈ moments step (step root (.peekOutput outBuffer)).2 calls,
          moment.2.releasesPin = false ∧ ¬ SessionEnded moment.1 (step moment.1 moment.2).2) →
        PinHolds (step root (.peekOutput outBuffer)).2 calls
          (step root (.peekOutput outBuffer)).1.bytes) ∧
      (∀ moment ∈ moments step root calls,
        moment.2 = .reset ∨ moment.2.reportsLinkLoss = true ∨
            SessionEnded moment.1 (step moment.1 moment.2).2 →
          (step moment.1 moment.2).2.outputSelection = .none) ∧
      (root.outputSelection = .none →
        (∀ moment ∈ moments step root calls, ∀ bytes, ¬ Shows bytes moment) →
        ∀ moment ∈ moments step root calls, ∀ nowMs,
          (step moment.1 (.commitOutput nowMs)).1.status = .notReady) ∧
      (root.outputSelection = .none → ∀ before moment after nowMs,
        moments step root calls = before ++ moment :: after → moment.2 = .commitOutput nowMs →
        (step moment.1 moment.2).1.status = .ok →
        ∃ bytes, Output.pinned moment.1 = some bytes ∧ ∃ shown ∈ before, Shows bytes shown) := by
  obtain ⟨s, e, hwf, hcursor, rfl⟩ := reachable_invariant successive_initial
    (fun s e call hwf hcursor hatomic => successive_step hwf hcursor hatomic) h
  refine ⟨?_, ?_, ?_, ?_, ?_⟩
  · rintro moment hmoment ⟨hreliable, hcontrol⟩
    obtain ⟨e', hwf', _, hroot⟩ := moment_endpoint hwf hmoment
    rw [hroot] at hreliable hcontrol
    exact one_lifecycle_pinned hwf' hreliable hcontrol
  · intro outBuffer hok hundisturbed
    rw [step_refines hwf] at hok hundisturbed ⊢
    obtain ⟨selection, frame, hpins, hbytes⟩ := pins_of_peek hok
    dsimp only at hundisturbed ⊢
    rw [hbytes]
    have hatomic : Atomic s e (.peekOutput outBuffer) := .other (by simp) (by simp)
    exact pinHolds (wf_step hwf _) (successive_step hwf hcursor hatomic) hpins hundisturbed
  · intro moment hmoment hends
    obtain ⟨e', hwf', hatomic, hroot⟩ := moment_endpoint hwf hmoment
    rw [hroot, step_refines hwf'] at hends
    rw [hroot, step_refines hwf']
    rcases hends with hreset | hlost | hended
    · rw [hreset]
      exact unpinned_reset e'
    · exact unpinned_linkLoss hlost
    · exact unpinned_ended (step_deed hwf' hatomic) hended
  · intro hnone hunseen moment hmoment nowMs
    obtain ⟨hall, _⟩ := @run_invariant _ s (fun e => (e.toRoot s).outputSelection = .none) e hwf
      hnone calls (by
        intro e' call hmoment hwf' hnone' hatomic
        rw [pinned_none_iff (wf_step hwf' call)]
        intro bytes hpinned
        rw [show (e'.step s call).2.toRoot s = (step (e'.toRoot s) call).2 by
          rw [step_refines hwf']] at hpinned
        rcases pinned_shows hwf' hatomic hpinned with hbefore | hshows
        · exact (pinned_none_iff hwf').mp hnone' bytes hbefore
        · exact hunseen _ hmoment bytes hshows)
    obtain ⟨e', hwf', hnone', _, hroot⟩ := hall moment hmoment
    rw [hroot, step_refines hwf', commitOutput_unpinned hnone']
    rfl
  · intro hnone before moment after nowMs hsplit hcall hok
    have hmoment : moment ∈ moments step (e.toRoot s) calls := by
      rw [hsplit]
      exact List.mem_append_right _ List.mem_cons_self
    obtain ⟨e', hwf', _, hroot⟩ := moment_endpoint hwf hmoment
    have hselection : (e'.toRoot s).outputSelection ≠ .none := by
      intro hunpinned
      rw [hroot, hcall, step_refines hwf', commitOutput_unpinned hunpinned] at hok
      cases hok
    obtain ⟨frame, hpins⟩ := pins_of_selection hselection
    have hpinned : Output.pinned moment.1 = some (encodedFrame frame) := by
      rw [hroot, (pins_toRoot hwf' hpins).2]
    refine ⟨_, hpinned, ?_⟩
    have hstep : ∀ visit ∈ moments step (e.toRoot s) calls,
        Output.pinned (step visit.1 visit.2).2 = some (encodedFrame frame) →
          Output.pinned visit.1 = some (encodedFrame frame) ∨ Shows (encodedFrame frame) visit := by
      intro visit hvisit hafter
      obtain ⟨e₁, hwf₁, hatomic₁, hroot₁⟩ := moment_endpoint hwf hvisit
      have hvisit' : visit = (e₁.toRoot s, visit.2) := by rw [← hroot₁]
      rw [hroot₁] at hafter
      rw [hvisit']
      exact pinned_shows hwf₁ hatomic₁ hafter
    rcases @Library.visits_since _ _ _ step
      (fun root => Output.pinned root = some (encodedFrame frame)) _ _ _ hstep _ _ _ hsplit
      hpinned with hstart | ⟨earlier, shown, later, rfl, hshown, _⟩
    · exact absurd hstart ((pinned_none_iff hwf).mp hnone _)
    · exact ⟨shown, List.mem_append_right _ List.mem_cons_self, hshown⟩

end

/-- The sample host with its INITIATE in the reliable slot. -/
def initiatingHost : Root := (Library.run (@step .lp64) connectedHost [.process 0 .normal]).2

theorem reachable_initiatingHost : @Reachable .lp64 initiatingHost :=
  @reachable_run .lp64 _ reachable_connectedHost _

theorem pinned_output_initiatingHost :
    @PinHolds .lp64 (@step .lp64 initiatingHost (.peekOutput (some 64))).2
      [.receiveBytes [1, 0], .process 500 .normal, .peekOutput (some 9), .peekOutput (some 64)]
      (encodedFrame ⟨.initiate, 7, sampleConfig.initialReliableSequence, 0, []⟩) := by
  have hbytes : (@step .lp64 initiatingHost (.peekOutput (some 64))).1.bytes =
      encodedFrame ⟨.initiate, 7, sampleConfig.initialReliableSequence, 0, []⟩ := by
    decide +kernel
  rw [← hbytes]
  exact (@pinned_output .lp64 initiatingHost reachable_initiatingHost
    [.receiveBytes [1, 0], .process 500 .normal, .peekOutput (some 9), .peekOutput (some 64)]).2.1
    (some 64) (by decide +kernel) (by unfold SessionEnded; decide +kernel)

end HilRigProtocol.Transport
