/-
  Frames that leave an endpoint, arrive at it and wait in it.

  A moment sends at most the frame that it shows, and at most one valid frame arrives with
  it. What an endpoint holds back is the frame in a body that it could not resolve yet.
  `Turn` has all that a moment is to a session: it says what the standing allows, lets go of
  frames at most, and takes the frame that it takes out of those that have arrived.
-/
import HilRigProtocol.Transport.InterveningProcess
import HilRigProtocol.Transport.PinnedOutput
import HilRigProtocol.Transport.Standing

namespace HilRigProtocol.Transport

section
variable [Target]

/-! ## Frames in and out -/

/-- The valid frame in a body, as the root decodes it. -/
def Receive.frameIn (root : Root) (body : List UInt8) : Option Frame :=
  let (status, frame, result) :=
    decodeFrameView body root.codecScratchSize root.base.config.maxApplicationMessageSize
  if status = .ok ∧ result = .valid then some frame else none

/-- The frame that a moment shows for transmission. -/
def sent (moment : Root × Call) : List Frame :=
  match moment.2 with
  | .peekOutput _ =>
      let response := (step moment.1 moment.2).1
      if response.status = .ok then (Receive.frameIn moment.1 response.bytes.dropLast).toList
      else []
  | _ => []

/-- The valid frame that arrives with a moment: its byte completes the body. -/
def arrivals (moment : Root × Call) : List Frame :=
  match moment.2 with
  | .receiveBytes [_] => (Receive.validFrame moment.1 moment.2).toList
  | _ => []

/-- The valid frame in the body that waits to be resolved. -/
def Receive.held (root : Root) : List Frame := (validFrame root (.receiveBytes [])).toList

/-- The frames of a session, its RESETs apart. -/
def ofSession (id : UInt64) (frames : List Frame) : List Frame :=
  frames.filter fun frame => frame.sessionIdentifier == id && frame.type != .reset

omit [Target] in
theorem ofSession_append (id : UInt64) (first second : List Frame) :
    ofSession id (first ++ second) = ofSession id first ++ ofSession id second :=
  List.filter_append _ _

omit [Target] in
theorem ofSession_sublist (id : UInt64) {shorter frames : List Frame}
    (h : List.Sublist shorter frames) :
    List.Sublist (ofSession id shorter) (ofSession id frames) := h.filter _

omit [Target] in
theorem ofSession_singleton {id : UInt64} {frame : Frame} (hid : frame.sessionIdentifier = id)
    (hreset : frame.type ≠ .reset) : ofSession id [frame] = [frame] := by
  unfold ofSession
  rw [List.filter_cons_of_pos (by simp [hid, hreset]), List.filter_nil]

namespace Endpoint

variable {s : Setup}

theorem frameIn_toRoot {e : Endpoint} {body : List UInt8} {frame : Frame} :
    Receive.frameIn (e.toRoot s) body = some frame ↔ Decodes s body frame := by
  unfold Receive.frameIn Decodes
  dsimp only [toRoot]
  generalize decodeFrameView body (s.config.maxApplicationMessageSize + rawOverhead)
    s.config.maxApplicationMessageSize = decoded
  obtain ⟨status, other, result⟩ := decoded
  dsimp only
  constructor
  · intro h
    split_ifs at h with hok
    cases h
    rw [hok.1, hok.2]
  · intro h
    cases h
    exact if_pos ⟨rfl, rfl⟩

theorem emits_pinned {e : Endpoint} (h : e.Wf s) {selection : OutputSelection} {frame : Frame}
    (hpins : Pins s e selection frame) : Emits (e.toRoot s) (encodedFrame frame) frame := by
  cases hpins with
  | reliable hitem hpinned =>
      exact emits_item h hitem (Stage.outputPending_of_pinned hpinned)
  | control hitem => exact emits_control h hitem

/-- A moment sends nothing, or shows the frame of the output that it pins. -/
theorem sent_cases {e : Endpoint} (h : e.Wf s) (call : Call) :
    sent (e.toRoot s, call) = [] ∨
      ∃ outBuffer selection frame, call = .peekOutput outBuffer ∧
        sent (e.toRoot s, call) = [frame] ∧ Pins s (e.step s call).2 selection frame := by
  unfold sent
  cases call with
  | peekOutput outBuffer =>
      dsimp only
      rw [step_refines h]
      dsimp only
      split_ifs with hok
      · obtain ⟨selection, frame, hpins, hbytes⟩ := pins_of_peek hok
        obtain ⟨body, hbody, -, hdecode⟩ := (emits_pinned (wf_step h _) hpins).encoding
        refine Or.inr ⟨outBuffer, selection, frame, rfl, ?_, hpins⟩
        rw [hbytes, hbody, List.dropLast_concat, frameIn_toRoot.mpr hdecode]
        rfl
      · exact Or.inl rfl
  | _ => exact Or.inl rfl

theorem standing_peekOutput (id : UInt64) (e : Endpoint) (outBuffer : Option Nat) :
    (e.step s (.peekOutput outBuffer)).2.activity.standing id = e.activity.standing id := by
  have hdeed := @peekOutput_deed _ s e outBuffer
  show (e.peekOutput s outBuffer).2.2.2.activity.standing id = _
  generalize (e.peekOutput s outBuffer).2.2.2 = e' at hdeed ⊢
  cases hdeed with
  | showReliable => exact Activity.standing_mapStage _ _
  | showControl => exact Activity.standing_peekControl _
  | work hcall => rcases hcall with ⟨_, hcall⟩ | ⟨_, _, hcall⟩ <;> cases hcall
  | _ => first | rfl | contradiction

/-- What a moment sends is what the standing allows. -/
theorem sent_said {e : Endpoint} (h : e.Wf s) {call : Call} {frame : Frame}
    (hsent : frame ∈ sent (e.toRoot s, call)) (hreset : frame.type ≠ .reset) :
    Says s.firstSequence frame (e.activity.standing frame.sessionIdentifier) := by
  rcases sent_cases h call with hnone | ⟨outBuffer, selection, other, rfl, hone, hpins⟩
  · rw [hnone] at hsent
    cases hsent
  · rw [hone, List.mem_singleton] at hsent
    subst hsent
    rw [← @standing_peekOutput _ s _ e outBuffer]
    cases hpins with
    | reliable hitem => exact says_item hitem rfl
    | control hitem => exact says_control hitem rfl hreset

/-! ## The body that waits -/

/-- A body that waits after a call was resolved without success by it, or waited before. -/
theorem intake_step {e : Endpoint} (h : e.Wf s) {call : Call} (hatomic : Atomic s e call)
    {body : List UInt8} (hbody : (e.step s call).2.intake.body = some body) :
    e.offered call = some body ∨ e.offered call = none ∧ e.intake.body = some body := by
  cases hoffered : e.offered call with
  | some other =>
      refine Or.inl ?_
      rw [step_resolves h hatomic hoffered, intake_recorded, intake_advanceIfOk] at hbody
      rcases @processBody_cases _ s (e.withIntake (.ready other)) other with
        ⟨-, hsame⟩ | ⟨-, -, hempty⟩
      · rw [hsame] at hbody
        exact hbody
      · rw [hempty] at hbody
        cases hbody
  | none =>
      refine Or.inr ⟨rfl, ?_⟩
      have hunready : ((∃ data, call = .receiveBytes data) ∨
          ∃ nowMs operatingMode, call = .process nowMs operatingMode) →
          e.intake.isReady = false → e.intake.body = some body := by
        intro hcall hready
        have hnext := unready_step hatomic hcall hoffered hready
        cases hi : (e.step s call).2.intake <;> rw [hi] at hbody hnext
        · cases hbody
        · cases hnext
        · cases hbody
      cases hatomic with
      | settle => exact hunready (Or.inl ⟨_, rfl⟩) (intake_unready hoffered)
      | byte byte hquiet _ => exact hunready (Or.inl ⟨_, rfl⟩) hquiet.settled.intake
      | progress nowMs operatingMode _ hquiet _ =>
          exact hunready (Or.inr ⟨_, _, rfl⟩) hquiet.settled.intake
      | stalled nowMs operatingMode hmode _ _ =>
          have hsame : e.offered (.process nowMs operatingMode) = e.intake.body := if_pos hmode
          rw [hoffered] at hsame
          exact hunready (Or.inr ⟨_, _, rfl⟩) (intake_unready hsame.symm)
      | away nowMs operatingMode haway =>
          rw [show (e.step s (.process nowMs operatingMode)).2 =
            (e.process s nowMs operatingMode).2 from rfl, process_recorded haway,
            intake_recorded] at hbody
          exact hbody
      | other hdata hprocess =>
          have hdeed := step_deed h (.other hdata hprocess)
          generalize (e.step s call).2 = e' at hdeed hbody
          cases hdeed with
          | work hcall _ =>
              rcases hcall with ⟨data, hcall⟩ | ⟨nowMs, operatingMode, hcall⟩
              · exact absurd hcall (hdata data)
              · exact absurd hcall (hprocess nowMs operatingMode)
          | reset => cases hbody
          | disconnect =>
              dsimp only at hbody
              rw [(abandon_fields _ _ _).2.1] at hbody
              cases hbody
          | connect =>
              have hsame : ((e.publish (Session.linkEvent .connected)).2.beginEstablishment
                  s).intake = e.intake := by
                unfold beginEstablishment
                split_ifs <;> exact (publish_fields e _).2.1
              rw [hsame] at hbody
              exact hbody
          | _ => exact hbody

theorem held_toRoot {e : Endpoint} {frame : Frame} :
    frame ∈ Receive.held (e.toRoot s) ↔
      ∃ body, e.intake.body = some body ∧ Decodes s body frame := by
  unfold Receive.held
  rw [Option.mem_toList]
  exact validFrame_toRoot

/-- The valid frame that a call resolves waited in the endpoint, or arrives with the call. -/
theorem resolved_flight {e : Endpoint} {call : Call} (hatomic : Atomic s e call)
    (hoffered : e.offered call ≠ none) :
    Receive.held (e.toRoot s) ++ arrivals (e.toRoot s, call) =
      (Receive.validFrame (e.toRoot s) call).toList := by
  have hwaiting : arrivals (e.toRoot s, call) = [] → e.offered call = e.intake.body →
      Receive.held (e.toRoot s) ++ arrivals (e.toRoot s, call) =
        (Receive.validFrame (e.toRoot s) call).toList := by
    intro hnone hsame
    have hframe : Receive.validFrame (e.toRoot s) (.receiveBytes []) =
        Receive.validFrame (e.toRoot s) call := by
      unfold Receive.validFrame Receive.decoded
      rw [offered_toRoot, offered_toRoot, hsame]
      rfl
    unfold Receive.held
    rw [hnone, List.append_nil, hframe]
  cases hatomic with
  | settle => exact hwaiting rfl rfl
  | byte byte hquiet _ =>
      have hnone : Receive.held (e.toRoot s) = [] := by
        rw [List.eq_nil_iff_forall_not_mem]
        intro frame hframe
        obtain ⟨body, hbody, -⟩ := held_toRoot.mp hframe
        have hready := hquiet.settled.intake
        cases hi : e.intake <;> rw [hi] at hbody hready
        · cases hbody
        · cases hready
        · cases hbody
      rw [hnone]
      rfl
  | progress nowMs operatingMode hmode | stalled nowMs operatingMode hmode =>
      exact hwaiting rfl (if_pos hmode)
  | away nowMs operatingMode =>
      by_cases hmode : operatingMode.isListed = true
      · exact hwaiting rfl (if_pos hmode)
      · exact absurd (if_neg hmode) hoffered
  | other hdata hprocess =>
      cases call with
      | receiveBytes data => exact absurd rfl (hdata data)
      | process nowMs operatingMode => exact absurd rfl (hprocess nowMs operatingMode)
      | _ => exact absurd rfl hoffered

/-- What waits after a call has waited before it, or arrived with it. -/
theorem held_step {e : Endpoint} (h : e.Wf s) {call : Call} (hatomic : Atomic s e call) :
    List.Sublist (Receive.held ((e.step s call).2.toRoot s))
      (Receive.held (e.toRoot s) ++ arrivals (e.toRoot s, call)) := by
  cases hheld : Receive.validFrame ((e.step s call).2.toRoot s) (.receiveBytes []) with
  | none =>
      unfold Receive.held
      rw [hheld]
      exact List.nil_sublist _
  | some frame =>
      have hafter : Receive.held ((e.step s call).2.toRoot s) = [frame] := by
        unfold Receive.held
        rw [hheld]
        rfl
      obtain ⟨body, hbody, hdecode⟩ := validFrame_toRoot.mp hheld
      rw [hafter]
      rcases intake_step h hatomic hbody with hoffered | ⟨-, hwaited⟩
      · rw [resolved_flight hatomic (by rw [hoffered]; simp),
          validFrame_toRoot.mpr ⟨body, hoffered, hdecode⟩]
        exact List.Sublist.refl _
      · have hframe : Receive.validFrame (e.toRoot s) (.receiveBytes []) = some frame :=
          validFrame_toRoot.mpr ⟨body, hwaited, hdecode⟩
        unfold Receive.held
        rw [hframe]
        exact List.sublist_append_left _ _

/-! ## One moment -/

variable (s) in
/-- What a moment is to the session `id`. -/
inductive Turn (id : UInt64) (e : Endpoint) (call : Call) (e' : Endpoint) : Prop
  | begins : s.role = .host → id ∈ begunIdentity (e.toRoot s, call) →
      e'.activity.standing id = .initiating →
      List.Sublist (Receive.held (e'.toRoot s))
        (Receive.held (e.toRoot s) ++ arrivals (e.toRoot s, call)) →
      Turn id e call e'
  | acts {taken : Option Frame} :
      List.Sublist (taken.toList ++ Receive.held (e'.toRoot s))
        (Receive.held (e.toRoot s) ++ arrivals (e.toRoot s, call)) →
      Acts s.role s.firstSequence (e.activity.standing id) taken (e'.activity.standing id) →
      (∀ frame, taken = some frame → frame.sessionIdentifier = id ∧
        Receive.validFrame (e.toRoot s) call = some frame) →
      Turn id e call e'

theorem turn_step {e : Endpoint} (h : e.Wf s) (hcursor : Successive s e) {call : Call}
    (hatomic : Atomic s e call) (id : UInt64) : Turn s id e call (e.step s call).2 := by
  have hheld := held_step h hatomic
  cases deed_conduct h.activity (step_deed h hatomic) id with
  | begins hhost hid hnext hinitiating =>
      refine .begins hhost ?_ hinitiating hheld
      rcases begunIdentity_step h hcursor hhost hatomic with ⟨-, hsame⟩ | ⟨hbegun, -⟩
      · rw [hnext] at hsame
        exact absurd hsame (successorIdentifier_ne _)
      · rw [hbegun, hid]
        exact List.mem_singleton_self _
  | acts hacts =>
      refine .acts ?_ hacts ?_
      · exact hheld
      · intro frame hframe
        cases hframe
  | @takes body frame hoffered hdecode hid hreleased hacts =>
      have hframe : Receive.validFrame (e.toRoot s) call = some frame :=
        validFrame_toRoot.mpr ⟨body, hoffered, hdecode⟩
      have hnone : Receive.held ((e.step s call).2.toRoot s) = [] := by
        rw [List.eq_nil_iff_forall_not_mem]
        intro other hother
        obtain ⟨_, hbody, -⟩ := held_toRoot.mp hother
        rw [hreleased] at hbody
        cases hbody
      refine .acts ?_ hacts ?_
      · rw [resolved_flight hatomic (by rw [hoffered]; simp), hframe, hnone]
        exact List.Sublist.refl _
      · rintro other hother
        cases hother
        exact ⟨hid, hframe⟩

end Endpoint

end

end HilRigProtocol.Transport
