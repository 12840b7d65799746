/-
  What an endpoint transmits.

  Every string of bytes that a peek shows is one encoded frame of the session. The
  transmissions of one reliable item are the same bytes, at most one more than the
  configured retries, and each but the first is asked for by the peer or by the timer.
-/
import HilRigProtocol.Transport.PinnedOutput
import HilRigProtocol.Transport.RetryTiming

namespace HilRigProtocol.Transport

/-! ## Frames -/

/-- The reliable item waits to be shown, for the first time or once more. -/
def Reliability.peekable (root : Root) : Bool :=
  match root.session.reliableState with
  | .ready | .peeked | .retransmitReady | .retransmitPeeked => true
  | _ => false

section
variable [Target]

/-- The bytes are the encoding of `frame`, and nothing else; the frame is what the root
    records about it, and a reliable one waits to be shown. -/
structure Emits (root : Root) (bytes : List UInt8) (frame : Frame) : Prop where
  encoding : ∃ body, bytes = body ++ [0] ∧ (0 : UInt8) ∉ body ∧
    decodeFrameView body root.codecScratchSize root.base.config.maxApplicationMessageSize =
      (.ok, frame, .valid)
  role : (frame.type = .response → root.session.role = .rig) ∧
    (frame.type = .initiate ∨ frame.type = .confirm → root.session.role = .host)
  reliable : Reliability.isReliableType frame.type = true →
    bytes = root.encodedOutput ∧ frame.type = root.session.retainedReliableFrameType ∧
      frame.sequence = root.session.retainedTransmitSequence ∧
      root.session.sessionIdentifierValid = 1 ∧
      frame.sessionIdentifier = root.session.sessionIdentifier ∧
      Reliability.peekable root = true
  message : frame.type = .applicationMessage →
    root.submittedMessagePending = 1 ∧ frame.payload = root.submittedMessage
  reset : frame.type = .reset →
    root.recoveryResetPending = 1 ∧ frame.sessionIdentifier = root.recoveryResetSessionIdentifier
  ack : frame.type = .ack →
    root.session.sessionIdentifierValid = 1 ∧
      frame.sessionIdentifier = root.session.sessionIdentifier ∧
      root.session.acceptedReceiveSequenceValid = 1 ∧
      frame.acknowledgementSequence = root.session.lastAcceptedReceiveSequence

namespace Endpoint

variable {s : Setup}

theorem decodes_encodedFrame {frame : Frame}
    (h : validateFrame frame s.config.maxApplicationMessageSize = .ok) :
    ∃ body, encodedFrame frame = body ++ [0] ∧ (0 : UInt8) ∉ body ∧ Decodes s body frame :=
  ⟨cobsCode (rawFrame frame), rfl, zero_not_mem_cobsCode _,
    decodeFrameView_cobsCode h (Nat.le_refl _) s.rawSize_le⟩

omit [Target] in
theorem submitted_established (id : UInt64) (x : Exchange) :
    (Activity.established id x).submitted = x.outgoing.map Prod.fst := rfl

theorem peekable_toRoot {e : Endpoint} {item : Item} (hitem : s.item e.activity = some item) :
    Reliability.peekable (e.toRoot s) = item.stage.outputPending := by
  unfold Reliability.peekable
  rw [reliableState_toRoot hitem]
  cases item.stage <;> rfl

/-- The reliable item as a transmission. -/
theorem emits_item {e : Endpoint} (h : e.Wf s) {item : Item}
    (hitem : s.item e.activity = some item) (hpending : item.stage.outputPending = true) :
    Emits (e.toRoot s) (encodedFrame item.frame) item.frame := by
  obtain ⟨_, _, htype, hvalid⟩ := item_wf h.activity hitem
  obtain ⟨id, hid⟩ := identifier_of_item hitem
  have hwf := h.activity
  refine ⟨decodes_encodedFrame hvalid, ?_, ?_, ?_, ?_, ?_⟩
  · show (_ → s.role = .rig) ∧ (_ → s.role = .host)
    cases ha : e.activity with
    | waitingForResponse id stage =>
        rw [ha] at hitem hwf
        cases hitem
        refine ⟨?_, fun _ => hwf.1⟩
        intro hother
        cases hother
    | waitingForConfirm id received stage =>
        rw [ha] at hitem hwf
        cases hitem
        refine ⟨fun _ => hwf.1, ?_⟩
        rintro (hother | hother) <;> cases hother
    | waitingForConfirmAck id received stage =>
        rw [ha] at hitem hwf
        cases hitem
        refine ⟨?_, fun _ => hwf.1⟩
        intro hother
        cases hother
    | established id x =>
        rw [ha, item_established, Option.map_eq_some_iff] at hitem
        obtain ⟨outgoing, _, rfl⟩ := hitem
        refine ⟨?_, ?_⟩
        · intro hother
          cases hother
        · rintro (hother | hother) <;> cases hother
    | _ =>
        rw [ha] at hitem
        cases hitem
  · intro _
    refine ⟨?_, ?_, ?_, if_pos (by rw [hid]; rfl), ?_, (peekable_toRoot hitem).trans hpending⟩
    · show _ = (s.item e.activity).elim _ _
      rw [hitem]
      rfl
    · show _ = (s.item e.activity).elim _ _
      rw [hitem]
      rfl
    · show _ = (s.item e.activity).elim _ _
      rw [hitem]
      rfl
    · show _ = e.activity.identifier.getD _
      cases ha : e.activity with
      | established id x =>
          rw [ha, item_established, Option.map_eq_some_iff] at hitem
          obtain ⟨outgoing, _, rfl⟩ := hitem
          rfl
      | _ =>
          rw [ha] at hitem
          cases hitem <;> rfl
  · intro hmessage
    cases ha : e.activity with
    | established id x =>
        rw [ha, item_established, Option.map_eq_some_iff] at hitem
        obtain ⟨outgoing, hout, rfl⟩ := hitem
        have hsubmitted : e.activity.submitted = some outgoing.1 := by
          rw [ha, submitted_established, hout]
          rfl
        refine ⟨if_pos (by rw [hsubmitted]; rfl), ?_⟩
        show outgoing.1 = e.activity.submitted.getD []
        rw [hsubmitted]
        rfl
    | _ =>
        rw [ha] at hitem
        cases hitem <;> cases hmessage
  · intro hreset
    rw [hreset] at htype
    cases htype
  · intro hack
    rw [hack] at htype
    cases htype

/-- The control item as a transmission. -/
theorem emits_control {e : Endpoint} (h : e.Wf s) {item : ControlItem}
    (hitem : e.activity.controlItem = some item) :
    Emits (e.toRoot s) (encodedFrame item.frame) item.frame := by
  obtain ⟨_, hvalid⟩ := controlItem_wf h.activity hitem
  have hencoding := @decodes_encodedFrame _ s _ hvalid
  cases ha : e.activity with
  | recovering reset =>
      rw [ha] at hitem
      obtain ⟨r, rfl, rfl⟩ := Option.map_eq_some_iff.mp hitem
      refine ⟨hencoding, ⟨?_, ?_⟩, ?_, ?_, ?_, ?_⟩
      · intro hother
        cases hother
      · rintro (hother | hother) <;> cases hother
      · intro hother
        cases hother
      · intro hother
        cases hother
      · intro _
        unfold toRoot
        rw [ha]
        exact ⟨rfl, rfl⟩
      · intro hother
        cases hother
  | established id x =>
      rw [ha, controlItem_established, Option.map_eq_some_iff] at hitem
      obtain ⟨pinned, _, rfl⟩ := hitem
      refine ⟨hencoding, ⟨?_, ?_⟩, ?_, ?_, ?_, ?_⟩
      · intro hother
        cases hother
      · rintro (hother | hother) <;> cases hother
      · intro hother
        cases hother
      · intro hother
        cases hother
      · intro hother
        cases hother
      · intro _
        have haccepted : ∃ a, s.accepted e.activity = some a ∧ a.sequence = x.lastReceived := by
          rw [ha]
          unfold Setup.accepted
          dsimp only
          split_ifs <;> exact ⟨_, rfl, rfl⟩
        obtain ⟨a, haccepted, hsequence⟩ := haccepted
        refine ⟨if_pos (by rw [ha]; rfl), ?_, if_pos (by rw [haccepted]; rfl), ?_⟩
        · show id = e.activity.identifier.getD _
          rw [ha]
          rfl
        · show x.lastReceived = (s.accepted e.activity).elim _ _
          rw [haccepted, ← hsequence]
          rfl
  | _ =>
      rw [ha] at hitem
      cases hitem

/-- A peek that succeeds shows one of the two. -/
theorem emits_peek {e : Endpoint} (h : e.Wf s) {outBuffer : Option Nat}
    (hok : (e.step s (.peekOutput outBuffer)).1.status = .ok) :
    ∃ frame, Emits (e.toRoot s) (e.step s (.peekOutput outBuffer)).1.bytes frame := by
  have hstatus : (e.peekOutput s outBuffer).1 = .ok := hok
  show ∃ frame, Emits (e.toRoot s) (e.peekOutput s outBuffer).2.2.1 frame
  unfold peekOutput at hstatus ⊢
  rcases selection_cases e with hselection | hselection | hselection
  · rw [hselection] at hstatus
    cases hstatus
  · obtain ⟨item, hitem, hpending, _⟩ := selection_reliable hselection
    rw [hselection, hitem] at hstatus ⊢
    dsimp only at hstatus ⊢
    rw [copyOut_bytes hstatus]
    exact ⟨item.frame, emits_item h hitem hpending⟩
  · obtain ⟨item, hitem, _⟩ := selection_control hselection
    rw [hselection, hitem] at hstatus ⊢
    dsimp only at hstatus ⊢
    rw [copyOut_bytes hstatus]
    exact ⟨item.frame, emits_control h hitem⟩

/-! ## Where the contents come from -/

/-- A submitted payload is the payload of the item. -/
theorem submitted_iff {a : Activity} {payload : List UInt8} :
    a.submitted = some payload ↔
      ∃ item, s.item a = some item ∧ item.frame.type = .applicationMessage ∧
        item.frame.payload = payload := by
  cases a with
  | established id x =>
      rw [submitted_established, item_established]
      cases x.outgoing with
      | none => simp
      | some outgoing => simp [Application.applicationFrame]
  | waitingForResponse => simp [Activity.submitted, Setup.item, Setup.initiateFrame]
  | waitingForConfirm => simp [Activity.submitted, Setup.item, Setup.responseFrame]
  | waitingForConfirmAck => simp [Activity.submitted, Setup.item, Setup.confirmFrame]
  | _ => simp [Activity.submitted, Setup.item]

theorem submit_cases (e : Endpoint) (payload : List UInt8) :
    (e.submit s payload).1 = .ok ∨ (e.submit s payload).2 = e := by
  unfold submit
  by_cases hempty : payload = []
  · exact Or.inr (by rw [if_pos hempty])
  · rw [if_neg hempty]
    cases e.activity with
    | established id x =>
        dsimp only
        split_ifs <;> first | exact Or.inr rfl | exact Or.inl rfl
    | _ => exact Or.inr rfl

/-- A retained payload was retained before, or has just been submitted. -/
theorem submitted_step {e : Endpoint} (h : e.Wf s) {call : Call} (hatomic : Atomic s e call)
    {payload : List UInt8} (hafter : (e.step s call).2.activity.submitted = some payload) :
    e.activity.submitted = some payload ∨
      call = .submitApplicationData payload ∧ (e.step s call).1.status = .ok := by
  have hdeed := step_deed h hatomic
  obtain ⟨item', hitem', htype, hpayload⟩ := submitted_iff.mp hafter
  cases hitem : s.item e.activity with
  | none =>
      cases deed_birth hitem hitem' hdeed with
      | handshake _ _ _ hstate =>
          -- A handshake has no submitted payload.
          cases ha : (e.step s call).2.activity with
          | established id x =>
              rw [ha] at hstate
              cases hstate
          | _ =>
              rw [ha] at hafter
              cases hafter
      | @message submitted _ _ hcall _ hframe _ =>
          rw [hframe] at hpayload
          have hsame : submitted = payload := hpayload
          rw [hsame] at hcall
          subst hcall
          refine Or.inr ⟨rfl, ?_⟩
          rcases @submit_cases _ s e payload with hok | hsame
          · exact hok
          · have hkept : (e.step s (.submitApplicationData payload)).2 = e := hsame
            rw [hkept, hitem] at hitem'
            cases hitem'
  | some item =>
      cases deed_fate hitem hdeed with
      | kept _ hkept =>
          rw [hkept] at hitem'
          cases hitem'
          exact Or.inl (submitted_iff.mpr ⟨item, hitem, htype, hpayload⟩)
      | acknowledged _ _ hnone | failed _ _ _ hnone | ended _ hnone =>
          rw [hnone] at hitem'
          cases hitem'

/-- A pending RESET was pending before, or names the session that has just ended. -/
theorem recovery_step {e : Endpoint} (h : e.Wf s) {call : Call} (hatomic : Atomic s e call)
    {r : RecoveryReset} (hafter : (e.step s call).2.activity = .recovering (some r)) :
    (∃ pinned, e.activity = .recovering (some ⟨r.identifier, pinned⟩)) ∨
      e.activity.identifier = some r.identifier := by
  cases hid : e.activity.identifier with
  | some id =>
      cases deed_parting (step_deed h hatomic) hid with
      | stays hkept _ =>
          rw [hafter] at hkept
          cases hkept
      | rejected _ _ ha | failed _ _ _ ha | reset _ ha =>
          rw [hafter] at ha
          cases ha
          exact Or.inr rfl
      | lost _ ha =>
          rw [hafter] at ha
          cases ha
      | peer _ _ _ _ ha =>
          rw [hafter] at ha
          rcases ha with ha | ⟨_, ha⟩ <;> cases ha
  | none =>
      by_cases hreset : call = .reset
      · subst hreset
        have ha : e.reset.activity = .recovering (some r) := hafter
        cases hactivity : e.activity with
        | recovering reset =>
            unfold Endpoint.reset at ha
            rw [hactivity] at ha
            cases reset with
            | none => cases ha
            | some old =>
                cases ha
                exact Or.inl ⟨_, rfl⟩
        | disconnected | waitingForInitiate =>
            unfold Endpoint.reset at ha
            rw [hactivity] at ha
            cases ha
        | _ =>
            rw [hactivity] at hid
            cases hid
      · refine Or.inl ?_
        have hcontrol : (e.step s call).2.activity.controlItem =
            some ⟨Handshake.controlFrame .reset r.identifier 0, r.pinned⟩ := by
          rw [hafter]
          rfl
        obtain ⟨item, hitem, hframe⟩ : ∃ item, e.activity.controlItem = some item ∧
            item.frame = Handshake.controlFrame .reset r.identifier 0 := by
          cases deed_control (step_deed h hatomic) with
          | same hsame => exact ⟨_, hsame ▸ hcontrol, rfl⟩
          | shown _ _ hitem _ hsome =>
              rw [hcontrol] at hsome
              exact ⟨_, hitem, (congrArg ControlItem.frame (Option.some.inj hsome)).symm⟩
          | committed _ _ _ hnone =>
              rw [hcontrol] at hnone
              cases hnone
          | acknowledged _ _ _ _ ha =>
              rw [hafter] at ha
              cases ha
          | left hwhy _ =>
              exfalso
              rcases hwhy with (hcall | hlost | ⟨_, _, _, _, hbound, _⟩ | ⟨_, hsome, _⟩) |
                ⟨_, hbound, _⟩
              · exact hreset hcall
              · rw [activity_linkLoss hlost] at hafter
                cases hafter
              · rw [hid] at hbound
                cases hbound
              · rw [hid] at hsome
                cases hsome
              · rw [hid] at hbound
                cases hbound
        cases hactivity : e.activity with
        | recovering reset =>
            rw [hactivity] at hitem
            obtain ⟨old, rfl, rfl⟩ := Option.map_eq_some_iff.mp hitem
            have hsame : old.identifier = r.identifier := congrArg Frame.sessionIdentifier hframe
            exact ⟨old.pinned, by rw [← hsame]⟩
        | established =>
            rw [hactivity] at hid
            cases hid
        | _ =>
            rw [hactivity] at hitem
            cases hitem

/-- The session `id` has accepted a frame with this sequence. -/
def HasAccepted (s : Setup) (e : Endpoint) (id : UInt64) (sequence : UInt16) : Prop :=
  e.activity.identifier = some id ∧
    ∃ accepted, s.accepted e.activity = some accepted ∧ accepted.sequence = sequence

/-- The call resolves a reliable frame of the session with this sequence. -/
def Resolves (s : Setup) (e : Endpoint) (call : Call) (id : UInt64) (sequence : UInt16) : Prop :=
  ∃ body frame, e.offered call = some body ∧ Decodes s body frame ∧
    frame.sessionIdentifier = id ∧ frame.sequence = sequence ∧
    Reliability.isReliableType frame.type = true

theorem hasAccepted_same {e e' : Endpoint} {id : UInt64} {sequence : UInt16}
    (h : HasAccepted s e' id sequence) (hid : e'.activity.identifier = e.activity.identifier)
    (haccepted : s.accepted e'.activity = s.accepted e.activity) : HasAccepted s e id sequence := by
  obtain ⟨hbound, accepted, hsome, hsequence⟩ := h
  exact ⟨hid ▸ hbound, accepted, haccepted ▸ hsome, hsequence⟩

theorem accepted_established (id : UInt64) (x : Exchange) :
    ∃ accepted, s.accepted (.established id x) = some accepted ∧
      accepted.sequence = x.lastReceived := by
  unfold Setup.accepted
  dsimp only
  split_ifs <;> exact ⟨_, rfl, rfl⟩

theorem hasAccepted_established {e : Endpoint} {id other : UInt64} {x : Exchange}
    {sequence : UInt16} (ha : e.activity = .established other x) :
    HasAccepted s e id sequence ↔ other = id ∧ x.lastReceived = sequence := by
  obtain ⟨accepted, hsome, hsequence⟩ := @accepted_established _ s other x
  unfold HasAccepted
  rw [ha, hsome]
  constructor
  · rintro ⟨hid, b, hb, rfl⟩
    cases hb
    cases hid
    exact ⟨rfl, hsequence.symm⟩
  · rintro ⟨rfl, rfl⟩
    exact ⟨rfl, accepted, rfl, hsequence⟩

theorem takes_accepted {e e' : Endpoint} {call : Call} {body : List UInt8} {frame : Frame}
    {id : UInt64} {sequence : UInt16} (hbody : e.offered call = some body)
    (hdecode : Decodes s body frame) {e₀ : Endpoint} (hactivity : e₀.activity = e.activity)
    (h : Takes s e₀ frame e') (hafter : HasAccepted s e' id sequence) :
    HasAccepted s e id sequence ∨ Resolves s e call id sequence := by
  have hkept : ∀ e₁ : Endpoint, e₁.activity = e.activity → HasAccepted s e₁ id sequence →
      HasAccepted s e id sequence := by
    intro e₁ ha hbefore
    exact hasAccepted_same hbefore (by rw [ha]) (by rw [ha])
  have hnew : Reliability.isReliableType frame.type = true → frame.sessionIdentifier = id →
      frame.sequence = sequence → Resolves s e call id sequence :=
    fun htype hid hsequence => ⟨body, frame, hbody, hdecode, hid, hsequence, htype⟩
  cases h with
  | duplicate | repeatDue => exact Or.inl (hkept _ hactivity hafter)
  | repeatInitiate ha | repeatResponse ha =>
      rw [hactivity] at ha
      exact Or.inl (hasAccepted_same hafter (by rw [ha]; rfl) (by rw [ha]; rfl))
  | repeatAck ha =>
      rw [hactivity] at ha
      rw [hasAccepted_established rfl] at hafter
      exact Or.inl ((hasAccepted_established ha).mpr hafter)
  | delivery ha =>
      rw [hactivity] at ha
      obtain ⟨rfl, hsequence⟩ := (hasAccepted_established rfl).mp hafter
      exact Or.inl ((hasAccepted_established ha).mpr ⟨rfl, hsequence⟩)
  | confirmAck ha =>
      rw [hactivity] at ha
      obtain ⟨rfl, hsequence⟩ := (hasAccepted_established rfl).mp hafter
      refine Or.inl ⟨by rw [ha]; rfl, ?_⟩
      rw [ha]
      exact ⟨_, rfl, hsequence⟩
  | adopt _ htype =>
      obtain ⟨hid, accepted, hsome, rfl⟩ := hafter
      cases hid
      cases hsome
      exact Or.inr (hnew (by rw [htype]; rfl) rfl rfl)
  | response _ htype =>
      obtain ⟨hid, accepted, hsome, rfl⟩ := hafter
      cases hid
      cases hsome
      exact Or.inr (hnew (by rw [htype]; rfl) rfl rfl)
  | confirm _ htype =>
      obtain ⟨hid, hsequence⟩ := (hasAccepted_established rfl).mp hafter
      exact Or.inr (hnew (by rw [htype]; rfl) hid hsequence)
  | prove _ htype =>
      obtain ⟨hid, hsequence⟩ := (hasAccepted_established rfl).mp hafter
      exact Or.inr (hnew (by rw [htype]; rfl) hid hsequence)
  | message _ htype =>
      obtain ⟨hid, hsequence⟩ := (hasAccepted_established rfl).mp hafter
      exact Or.inr (hnew (by rw [htype]; rfl) hid hsequence)

/-- What a session has accepted it had accepted before, or the call resolves it. -/
theorem deed_accepted {e e' : Endpoint} {call : Call} {id : UInt64} {sequence : UInt16}
    (h : Deed s e call e') (hafter : HasAccepted s e' id sequence) :
    HasAccepted s e id sequence ∨ Resolves s e call id sequence := by
  have hunaccepted : ∀ e₁ : Endpoint, s.accepted e₁.activity = none →
      ¬ HasAccepted s e₁ id sequence := by
    rintro e₁ hnone ⟨_, accepted, hsome, _⟩
    rw [hnone] at hsome
    cases hsome
  have hbegun : ∀ e₁ : Endpoint, ¬ HasAccepted s (e₁.beginEstablishment s) id sequence := by
    intro e₁
    refine hunaccepted _ ?_
    unfold beginEstablishment
    split_ifs <;> rfl
  have hmap : ∀ f : Stage → Stage, s.accepted (e.activity.mapStage f) = s.accepted e.activity := by
    intro f
    cases e.activity <;> rfl
  cases h with
  | idle | readEvent => exact Or.inl hafter
  | work _ hwork =>
      obtain ⟨hactivity, _⟩ := recorded_fields e call
      have hkept : ∀ e₁ : Endpoint, e₁.activity = e.activity → HasAccepted s e₁ id sequence →
          HasAccepted s e id sequence := by
        intro e₁ ha hbefore
        exact hasAccepted_same hbefore (by rw [ha]) (by rw [ha])
      cases hwork with
      | @receipt e₁ _ hreceipt hadvances =>
          have hafter' : HasAccepted s e₁ id sequence := by
            rcases hadvances with rfl | ⟨_, rfl⟩
            · exact hafter
            · exact absurd hafter (hbegun _)
          cases hreceipt with
          | idle hsame _ => exact Or.inl (hkept _ (hsame.activity.trans hactivity) hafter')
          | take hbody _ hdecode _ htakes =>
              exact takes_accepted hbody hdecode hactivity htakes hafter'
          | reject _ _ hbarrier =>
              refine absurd hafter' (hunaccepted _ ?_)
              rw [activity_rejectSession hbarrier]
              rfl
          | reset => exact absurd hafter' (hbegun _)
      | tick _ htick =>
          cases htick with
          | idle => exact Or.inl (hkept _ hactivity hafter)
          | initiate ha | response ha | confirm ha =>
              rw [hactivity] at ha
              exact Or.inl (hasAccepted_same hafter (by rw [ha]; rfl) (by rw [ha]; rfl))
          | retry | hold =>
              rw [hactivity] at hafter
              exact Or.inl (hasAccepted_same hafter (identifier_mapStage _ _) (hmap _))
          | fail | lose =>
              refine absurd hafter (hunaccepted _ ?_)
              rw [activity_beginLocalRecovery]
              rfl
  | showReliable | commitReliable =>
      exact Or.inl (hasAccepted_same hafter (identifier_mapStage _ _) (hmap _))
  | showControl =>
      refine Or.inl (hasAccepted_same hafter (@item_peekControl _ s _).2 ?_)
      show s.accepted e.activity.peekControl = _
      cases e.activity <;> rfl
  | commitControl =>
      refine Or.inl (hasAccepted_same hafter (@item_commitControl _ s _).2 ?_)
      show s.accepted e.activity.commitControl = _
      cases e.activity <;> rfl
  | submit _ _ _ ha | readMessage _ ha =>
      exact Or.inl (hasAccepted_same hafter (by rw [ha]; rfl) (by rw [ha]; rfl))
  | reset =>
      refine absurd hafter (hunaccepted _ ?_)
      show s.accepted e.reset.activity = none
      unfold Endpoint.reset
      cases e.activity <;> rfl
  | observe => exact absurd hafter (hunaccepted _ rfl)
  | disconnect =>
      refine absurd hafter (hunaccepted _ ?_)
      rw [(abandon_fields _ _ _).1]
      rfl
  | connect => exact absurd hafter (hbegun _)

/-! ## Transmissions of one item -/

end Endpoint

/-- How often the item has been committed. -/
def Stage.transmitted : Stage → Nat
  | .ready | .peeked => 0
  | stage => stage.retries.toNat + 1

/-- How often the retained item has been committed. -/
def Reliability.transmitted (root : Root) : Nat :=
  match root.session.reliableState with
  | .awaitingAck | .retransmitReady | .retransmitPeeked | .exhausted =>
      root.session.retransmissionsCommitted.toNat + 1
  | _ => 0

/-- The call commits the reliable item. -/
def commitsReliable (moment : Root × Call) : Bool :=
  match moment.2 with
  | .commitOutput _ => moment.1.outputSelection == .reliable
  | _ => false

/-- `Process` finds that the item has waited for the timeout, modulo 2 ^ 32. -/
def TimedOut (root : Root) (call : Call) : Prop :=
  ∃ nowMs operatingMode, call = .process nowMs operatingMode ∧
    root.base.config.retransmitTimeoutMs ≠ 0 ∧
    root.base.config.retransmitTimeoutMs ≤ nowMs - root.session.reliableLastCommittedMs

/-- A committed item is asked for once more, by a repeated frame or by the timer. -/
def RetryDue (root : Root) (call : Call) : Prop :=
  root.session.reliableState = .awaitingAck ∧
    (Receive.resolves root call Receive.asksAgain ∨ TimedOut root call)

/-- One step of a retained item. -/
structure Retransmits (before : Root) (call : Call) (after : Root) : Prop where
  /-- An item is the same bytes as long as there is one. -/
  stays : before.session.reliableState ≠ .idle → after.session.reliableState ≠ .idle →
    ItemStays before after
  due : after.session.reliableState = .retransmitReady →
    before.session.reliableState = .retransmitReady ∨ RetryDue before call
  /-- A retransmission is pinned only by a peek that finds it due. -/
  shown : after.session.reliableState = .retransmitPeeked →
    before.session.reliableState = .retransmitPeeked ∨
      before.session.reliableState = .retransmitReady ∧
        ∃ outBuffer, call = .peekOutput outBuffer ∧ (step before call).1.status = .ok
  /-- An item that has been committed waits until it is due. -/
  peekable : before.session.reliableState ≠ .idle → Reliability.peekable after = true →
    Reliability.peekable before = true ∨ RetryDue before call
  committed : commitsReliable (before, call) = true →
    ∃ nowMs, call = .commitOutput nowMs ∧ after.session.reliableState = .awaitingAck ∧
      after.session.reliableLastCommittedMs = nowMs
  clock : commitsReliable (before, call) = false → before.session.reliableState ≠ .idle →
    after.session.reliableState ≠ .idle →
    after.session.reliableLastCommittedMs = before.session.reliableLastCommittedMs
  counted : before.session.reliableState ≠ .idle → after.session.reliableState ≠ .idle →
    Reliability.transmitted after =
      Reliability.transmitted before + (commitsReliable (before, call)).toNat

namespace Endpoint

variable {s : Setup}

theorem transmitted_toRoot {e : Endpoint} {item : Item} (hitem : s.item e.activity = some item) :
    Reliability.transmitted (e.toRoot s) = item.stage.transmitted := by
  have hstate := reliableState_toRoot hitem
  have hretries : (e.toRoot s).session.retransmissionsCommitted = item.stage.retries := by
    show (s.item e.activity).elim _ _ = _
    rw [hitem]
    rfl
  unfold Reliability.transmitted
  rw [hstate, hretries]
  cases item.stage <;> rfl

omit [Target] in
theorem transmitted_le {stage : Stage} {maxRetries : UInt8} (h : stage.Wf maxRetries) :
    stage.transmitted ≤ maxRetries.toNat + 1 := by
  cases stage with
  | ready | peeked => exact Nat.zero_le _
  | awaitingAck retries ms =>
      have hle : retries.toNat ≤ maxRetries.toNat := UInt8.le_iff_toNat_le.mp h
      show retries.toNat + 1 ≤ maxRetries.toNat + 1
      omega
  | retransmitReady retries ms =>
      have hlt : retries.toNat < maxRetries.toNat := UInt8.lt_iff_toNat_lt.mp h
      show retries.toNat + 1 ≤ maxRetries.toNat + 1
      omega
  | retransmitPeeked retries ms =>
      have hlt : retries.toNat < maxRetries.toNat := UInt8.lt_iff_toNat_lt.mp h
      show retries.toNat + 1 ≤ maxRetries.toNat + 1
      omega
  | exhausted retries ms =>
      have hsame : retries = maxRetries := h
      show retries.toNat + 1 ≤ maxRetries.toNat + 1
      rw [hsame]

omit [Target] in
theorem transmitted_commit {stage : Stage} {maxRetries : UInt8} (h : stage.Wf maxRetries)
    (hpinned : stage.pinned = true) (nowMs : UInt32) :
    (stage.commit nowMs).transmitted = stage.transmitted + 1 := by
  cases stage with
  | peeked => rfl
  | retransmitPeeked retries ms =>
      have hlt : retries.toNat < maxRetries.toNat := UInt8.lt_iff_toNat_lt.mp h
      have hmax := maxRetries.toNat_lt
      have hnext : (retries + 1).toNat = retries.toNat + 1 := by
        rw [UInt8.toNat_add]
        show (retries.toNat + 1) % 2 ^ 8 = retries.toNat + 1
        omega
      show (retries + 1).toNat + 1 = retries.toNat + 1 + 1
      rw [hnext]
  | _ => cases hpinned

theorem retry_kept (stage : Stage) :
    (s.retry stage).transmitted = stage.transmitted ∧
      (s.retry stage).committedMs = stage.committedMs := by
  cases stage with
  | awaitingAck retries ms =>
      unfold Setup.retry
      dsimp only
      split_ifs <;> exact ⟨rfl, rfl⟩
  | _ => exact ⟨rfl, rfl⟩

theorem committedMs_toRoot {e : Endpoint} {item : Item} (hitem : s.item e.activity = some item) :
    (e.toRoot s).session.reliableLastCommittedMs = item.stage.committedMs := by
  show (s.item e.activity).elim _ _ = _
  rw [hitem]
  rfl

theorem item_of_busy {e : Endpoint} (h : (e.toRoot s).session.reliableState ≠ .idle) :
    ∃ item, s.item e.activity = some item := by
  rw [← Option.isSome_iff_exists, ← Option.ne_none_iff_isSome]
  exact fun hnone => h (reliableState_idle hnone)

/-- An item at both ends of a step is one item. -/
theorem busy_step {e e' : Endpoint} {call : Call} (h : Deed s e call e')
    (hbefore : (e.toRoot s).session.reliableState ≠ .idle)
    (hafter : (e'.toRoot s).session.reliableState ≠ .idle) :
    ∃ item stage, s.item e.activity = some item ∧ StageMove s e call item.stage stage ∧
      s.item e'.activity = some ⟨item.frame, stage⟩ ∧
      e'.activity.identifier = e.activity.identifier := by
  obtain ⟨item, hitem⟩ := item_of_busy hbefore
  obtain ⟨item', hitem'⟩ := item_of_busy hafter
  cases deed_fate hitem h with
  | kept hmove hkept hid => exact ⟨item, _, hitem, hmove, hkept, hid⟩
  | acknowledged _ _ hnone | failed _ _ _ hnone | ended _ hnone =>
      rw [hnone] at hitem'
      cases hitem'

/-- What does not commit the item leaves its counters alone. -/
theorem stageMove_counters {e : Endpoint} {call : Call} {item : Item} {stage : Stage}
    (hitem : s.item e.activity = some item) (h : StageMove s e call item.stage stage)
    (hcommit : commitsReliable (e.toRoot s, call) = false) :
    stage.transmitted = item.stage.transmitted ∧ stage.committedMs = item.stage.committedMs := by
  cases h with
  | same => exact ⟨rfl, rfl⟩
  | shown => cases item.stage <;> exact ⟨rfl, rfl⟩
  | committed hcall hpinned =>
      subst hcall
      have hselection : (e.toRoot s).outputSelection = .reliable := by
        rw [outputSelection_toRoot, if_pos (reliablePinned_iff.mpr ⟨item, hitem, hpinned⟩)]
      unfold commitsReliable at hcommit
      dsimp only at hcommit
      rw [hselection] at hcommit
      cases hcommit
  | asked | expired => exact retry_kept item.stage

theorem commitsReliable_cases {e : Endpoint} {call : Call}
    (h : commitsReliable (e.toRoot s, call) = true) :
    ∃ nowMs item, call = .commitOutput nowMs ∧ s.item e.activity = some item ∧
      item.stage.pinned = true := by
  unfold commitsReliable at h
  cases call with
  | commitOutput nowMs =>
      have hselection : (e.toRoot s).outputSelection = .reliable := by simpa using h
      have hpins := @pins_of_selection _ s e (by rw [hselection]; simp)
      rw [hselection] at hpins
      obtain ⟨frame, hpins⟩ := hpins
      cases hpins with
      | @reliable item hitem hpinned => exact ⟨nowMs, item, rfl, hitem, hpinned⟩
  | _ => cases h

/-- An item that is not as it was published was there before the step. -/
theorem retained_before {e e' : Endpoint} {call : Call} (h : Deed s e call e')
    (hbusy : (e'.toRoot s).session.reliableState ≠ .idle)
    (hnew : (e'.toRoot s).session.reliableState ≠ .ready) :
    ∃ item stage, s.item e.activity = some item ∧ StageMove s e call item.stage stage ∧
      (e'.toRoot s).session.reliableState = stage.state := by
  obtain ⟨item', hitem'⟩ := item_of_busy hbusy
  rw [reliableState_toRoot hitem'] at hnew
  cases hitem : s.item e.activity with
  | none =>
      cases deed_birth hitem hitem' h with
      | handshake _ _ hready | message _ _ hready =>
          rw [hready] at hnew
          exact absurd rfl hnew
  | some item =>
      obtain ⟨other, stage, hother, hmove, hkept, _⟩ := busy_step h
        (by rw [reliableState_toRoot hitem]; exact Stage.state_ne_idle _) hbusy
      rw [hitem] at hother
      cases hother
      exact ⟨item, stage, rfl, hmove, reliableState_toRoot hkept⟩

theorem retry_due {e : Endpoint} {call : Call} {item : Item}
    (hitem : s.item e.activity = some item)
    (hwhy : Receive.resolves (e.toRoot s) call Receive.asksAgain ∨
      ∃ nowMs operatingMode, call = .process nowMs operatingMode ∧ Expired s nowMs item.stage) :
    s.retry item.stage = item.stage ∨ RetryDue (e.toRoot s) call := by
  unfold RetryDue
  rw [reliableState_toRoot hitem]
  cases hstage : item.stage with
  | awaitingAck retries ms =>
      refine Or.inr ⟨rfl, ?_⟩
      rcases hwhy with hasks | ⟨nowMs, operatingMode, hcall, hexpired⟩
      · exact Or.inl hasks
      · rw [hstage] at hexpired
        obtain ⟨_, _, hsame, hne, hle⟩ := hexpired
        cases hsame
        refine Or.inr ⟨nowMs, operatingMode, hcall, hne, ?_⟩
        rw [committedMs_toRoot hitem, hstage]
        exact hle
  | _ => exact Or.inl rfl

theorem due_step {e e' : Endpoint} {call : Call} (h : Deed s e call e')
    (hready : (e'.toRoot s).session.reliableState = .retransmitReady) :
    (e.toRoot s).session.reliableState = .retransmitReady ∨ RetryDue (e.toRoot s) call := by
  obtain ⟨item, stage, hitem, hmove, hstate⟩ :=
    retained_before h (by rw [hready]; simp) (by rw [hready]; simp)
  rw [hready] at hstate
  rw [reliableState_toRoot hitem]
  cases hmove with
  | same => exact Or.inl hstate.symm
  | shown => cases hstage : item.stage <;> rw [hstage] at hstate <;> cases hstate
  | @committed nowMs _ hpinned =>
      rw [(Stage.commit_of_pinned nowMs hpinned).1] at hstate
      cases hstate
  | asked hresolves =>
      rcases retry_due hitem (Or.inl hresolves) with hsame | hdue
      · exact Or.inl (hsame ▸ hstate.symm)
      · exact Or.inr hdue
  | expired hcall hexpired =>
      rcases retry_due hitem (Or.inr ⟨_, _, hcall, hexpired⟩) with hsame | hdue
      · exact Or.inl (hsame ▸ hstate.symm)
      · exact Or.inr hdue

theorem shown_step {e : Endpoint} {call : Call} (h : Deed s e call (e.step s call).2)
    (hpeeked : ((e.step s call).2.toRoot s).session.reliableState = .retransmitPeeked) :
    (e.toRoot s).session.reliableState = .retransmitPeeked ∨
      (e.toRoot s).session.reliableState = .retransmitReady ∧
        ∃ outBuffer, call = .peekOutput outBuffer ∧ (e.step s call).1.status = .ok := by
  obtain ⟨item, stage, hitem, hmove, hstate⟩ :=
    retained_before h (by rw [hpeeked]; simp) (by rw [hpeeked]; simp)
  rw [hpeeked] at hstate
  rw [reliableState_toRoot hitem]
  cases hmove with
  | same => exact Or.inl hstate.symm
  | @shown size frame hcall hselection hsome hsize =>
      cases hstage : item.stage with
      | retransmitReady retries ms =>
          refine Or.inr ⟨rfl, some size, hcall, ?_⟩
          subst hcall
          show (e.peekOutput s (some size)).1 = .ok
          unfold peekOutput
          rw [hselection, hsome]
          dsimp only
          rw [copyOut_room hsize]
      | _ =>
          rw [hstage] at hstate
          first | exact Or.inl rfl | cases hstate
  | @committed nowMs _ hpinned =>
      rw [(Stage.commit_of_pinned nowMs hpinned).1] at hstate
      cases hstate
  | asked | expired =>
      -- A retry is due at most; it is not pinned.
      refine Or.inl ?_
      have hpinned : (s.retry item.stage).pinned = true := by
        cases hretried : s.retry item.stage <;> rw [hretried] at hstate <;>
          first | rfl | cases hstate
      rw [Setup.pinned_retry] at hpinned
      rw [retry_pinned hpinned] at hstate
      exact hstate.symm

theorem peekable_step {e e' : Endpoint} {call : Call} (h : Deed s e call e')
    (hbefore : (e.toRoot s).session.reliableState ≠ .idle)
    (hpeekable : Reliability.peekable (e'.toRoot s) = true) :
    Reliability.peekable (e.toRoot s) = true ∨ RetryDue (e.toRoot s) call := by
  have hafter : (e'.toRoot s).session.reliableState ≠ .idle := by
    intro hidle
    unfold Reliability.peekable at hpeekable
    rw [hidle] at hpeekable
    cases hpeekable
  obtain ⟨item, stage, hitem, hmove, hkept, _⟩ := busy_step h hbefore hafter
  rw [peekable_toRoot hkept] at hpeekable
  rw [peekable_toRoot hitem]
  cases hmove with
  | same => exact Or.inl hpeekable
  | shown _ hselection =>
      obtain ⟨other, hother, hpending, _⟩ := selection_reliable hselection
      rw [hitem] at hother
      cases hother
      exact Or.inl hpending
  | committed _ hpinned => exact Or.inl (Stage.outputPending_of_pinned hpinned)
  | asked hresolves =>
      rcases retry_due hitem (Or.inl hresolves) with hsame | hdue
      · exact Or.inl (hsame ▸ hpeekable)
      · exact Or.inr hdue
  | expired hcall hexpired =>
      rcases retry_due hitem (Or.inr ⟨_, _, hcall, hexpired⟩) with hsame | hdue
      · exact Or.inl (hsame ▸ hpeekable)
      · exact Or.inr hdue

theorem retransmits_step {e : Endpoint} (h : e.Wf s) {call : Call} (hatomic : Atomic s e call) :
    Retransmits (e.toRoot s) call ((e.step s call).2.toRoot s) where
  stays := by
    intro hbefore hafter
    obtain ⟨item, stage, hitem, _, hkept, hid⟩ := busy_step (step_deed h hatomic) hbefore hafter
    exact itemStays_toRoot hitem hkept hid
  due := due_step (step_deed h hatomic)
  shown := by
    rw [step_refines h]
    exact shown_step (step_deed h hatomic)
  peekable := peekable_step (step_deed h hatomic)
  committed := by
    intro hcommit
    obtain ⟨nowMs, item, rfl, hitem, hpinned⟩ := commitsReliable_cases hcommit
    have hpins := @Pins.reliable _ s e item hitem hpinned
    have hafter := (commitOutput_pinned h hpins nowMs).2.reliable (pins_toRoot h hpins).1
    rw [hafter]
    exact ⟨nowMs, rfl, rfl, rfl⟩
  clock := by
    intro hcommit hbefore hafter
    obtain ⟨item, stage, hitem, hmove, hkept, _⟩ := busy_step (step_deed h hatomic) hbefore hafter
    rw [committedMs_toRoot hitem, committedMs_toRoot hkept]
    exact (stageMove_counters hitem hmove hcommit).2
  counted := by
    intro hbefore hafter
    cases hcommit : commitsReliable (e.toRoot s, call) with
    | true =>
        obtain ⟨nowMs, item, rfl, hitem, hpinned⟩ := commitsReliable_cases hcommit
        have hreliable : e.reliablePinned s = true :=
          reliablePinned_iff.mpr ⟨item, hitem, hpinned⟩
        have hnext : (e.step s (.commitOutput nowMs)).2 =
            { e with activity := e.activity.mapStage (Stage.commit nowMs) } := by
          have hcommitted : e.commitOutput s nowMs =
              (.ok, { e with activity := e.activity.mapStage (Stage.commit nowMs) }) :=
            if_pos hreliable
          show (e.commitOutput s nowMs).2 = _
          rw [hcommitted]
        have hkept : s.item (e.activity.mapStage (Stage.commit nowMs)) =
            some ⟨item.frame, item.stage.commit nowMs⟩ := by
          rw [item_mapStage, hitem]
          rfl
        rw [hnext, transmitted_toRoot hitem,
          @transmitted_toRoot _ s { e with activity := e.activity.mapStage (Stage.commit nowMs) }
            _ hkept]
        exact transmitted_commit (item_wf h.activity hitem).1 hpinned nowMs
    | false =>
        obtain ⟨item, stage, hitem, hmove, hkept, _⟩ :=
          busy_step (step_deed h hatomic) hbefore hafter
        rw [transmitted_toRoot hitem, transmitted_toRoot hkept]
        exact (stageMove_counters hitem hmove hcommit).1

end Endpoint

open Endpoint

/-! ## Runs -/

/-- The payload is retained. -/
def Submitted (payload : List UInt8) (root : Root) : Prop :=
  root.submittedMessagePending = 1 ∧ root.submittedMessage = payload

/-- The caller submits the payload, and it is accepted. -/
def Submits (payload : List UInt8) (moment : Root × Call) : Prop :=
  moment.2 = .submitApplicationData payload ∧ (step moment.1 moment.2).1.status = .ok

/-- The RESET of a session is pending. -/
def ResetPending (id : UInt64) (root : Root) : Prop :=
  root.recoveryResetPending = 1 ∧ root.recoveryResetSessionIdentifier = id

/-- The session ends. -/
def EndsSession (id : UInt64) (moment : Root × Call) : Prop :=
  SessionEnded moment.1 (step moment.1 moment.2).2 ∧ moment.1.session.sessionIdentifier = id

/-- The session has last accepted this sequence. -/
def AcceptedLast (id : UInt64) (sequence : UInt16) (root : Root) : Prop :=
  root.session.sessionIdentifierValid = 1 ∧ root.session.sessionIdentifier = id ∧
    root.session.acceptedReceiveSequenceValid = 1 ∧
    root.session.lastAcceptedReceiveSequence = sequence

/-- A reliable frame of the session is received. -/
def ReceivesReliable (id : UInt64) (sequence : UInt16) (moment : Root × Call) : Prop :=
  Receive.resolves moment.1 moment.2 fun _ frame =>
    frame.sessionIdentifier == id && frame.sequence == sequence
      && Reliability.isReliableType frame.type

/-- Where the contents of the frames come from, in the moments before. -/
structure Origins (start : Root) (before : List (Root × Call)) (root : Root) : Prop where
  message : ∀ payload, Submitted payload root →
    Library.Since (Submitted payload) (Submits payload) start before
  reset : ∀ id, ResetPending id root → Library.Since (ResetPending id) (EndsSession id) start before
  ack : ∀ id sequence, AcceptedLast id sequence root →
    Library.Since (AcceptedLast id sequence) (ReceivesReliable id sequence) start before

theorem submitted_toRoot {s : Setup} {e : Endpoint} {payload : List UInt8} :
    Submitted payload (e.toRoot s) ↔ e.activity.submitted = some payload := by
  unfold Submitted toRoot
  cases e.activity.submitted with
  | none => simp
  | some other => simp

theorem resetPending_toRoot {s : Setup} {e : Endpoint} {id : UInt64} :
    ResetPending id (e.toRoot s) ↔
      ∃ pinned, e.activity = .recovering (some ⟨id, pinned⟩) := by
  unfold ResetPending toRoot
  cases e.activity with
  | recovering reset =>
      cases reset with
      | none => simp [Activity.recoveryReset]
      | some r =>
          obtain ⟨identifier, pinned⟩ := r
          simp [Activity.recoveryReset]
  | _ => simp [Activity.recoveryReset]

theorem acceptedLast_toRoot {s : Setup} {e : Endpoint} {id : UInt64} {sequence : UInt16} :
    AcceptedLast id sequence (e.toRoot s) ↔ HasAccepted s e id sequence := by
  unfold AcceptedLast HasAccepted toRoot toSession
  cases e.activity.identifier with
  | none => simp
  | some other =>
      cases s.accepted e.activity with
      | none => simp
      | some accepted => simp

theorem origins {s : Setup} {e : Endpoint} (hwf : e.Wf s) {calls : List Call}
    {before after : List (Root × Call)} {moment : Root × Call}
    (hsplit : moments step (e.toRoot s) calls = before ++ moment :: after) :
    Origins (e.toRoot s) before moment.1 := by
  refine ⟨?_, ?_, ?_⟩
  · intro payload hpayload
    refine Library.visits_since ?_ hsplit hpayload
    intro visit hvisit hafter
    obtain ⟨e', hwf', hatomic, hroot⟩ := moment_endpoint hwf hvisit
    unfold Submits
    rw [hroot, step_refines hwf'] at hafter ⊢
    rw [submitted_toRoot] at hafter ⊢
    exact submitted_step hwf' hatomic hafter
  · intro id hpending
    refine Library.visits_since ?_ hsplit hpending
    intro visit hvisit hafter
    obtain ⟨e', hwf', hatomic, hroot⟩ := moment_endpoint hwf hvisit
    unfold EndsSession SessionEnded
    rw [hroot, step_refines hwf'] at hafter ⊢
    rw [resetPending_toRoot] at hafter ⊢
    obtain ⟨pinned, ha⟩ := hafter
    rcases recovery_step hwf' hatomic ha with hbefore | hid
    · exact Or.inl hbefore
    · refine Or.inr ⟨⟨if_pos (by rw [hid]; rfl), Or.inl (if_neg ?_)⟩, ?_⟩
      · rw [show (e'.step s visit.2).2.activity = _ from ha]
        simp [Activity.identifier]
      · show e'.activity.identifier.getD _ = id
        rw [hid]
        rfl
  · intro id sequence haccepted
    refine Library.visits_since ?_ hsplit haccepted
    intro visit hvisit hafter
    obtain ⟨e', hwf', hatomic, hroot⟩ := moment_endpoint hwf hvisit
    unfold ReceivesReliable
    rw [hroot, step_refines hwf'] at hafter
    rw [hroot]
    rw [acceptedLast_toRoot] at hafter ⊢
    rcases deed_accepted (step_deed hwf' hatomic) hafter with hbefore |
      ⟨body, frame, hbody, hdecode, hid, hsequence, htype⟩
    · exact Or.inl hbefore
    · refine Or.inr ⟨body, frame, ?_, hdecode, ?_⟩
      · rw [offered_toRoot, hbody]
      · simp [hid, hsequence, htype]

/-- A retained item over a run: the same bytes, and every commit counted. -/
theorem item_run {s : Setup} {e : Endpoint} (hwf : e.Wf s) (h : Reachable (e.toRoot s))
    {calls : List Call}
    (hbusy : (e.toRoot s).session.reliableState ≠ .idle)
    (hretained : ∀ moment ∈ moments step (e.toRoot s) calls,
      (step moment.1 moment.2).2.session.reliableState ≠ .idle) :
    (∀ moment ∈ moments step (e.toRoot s) calls, ItemStays (e.toRoot s) moment.1) ∧
      Reliability.transmitted (e.toRoot s) +
          ((moments step (e.toRoot s) calls).filter commitsReliable).length =
        Reliability.transmitted (Library.run step (e.toRoot s) calls).2 ∧
      Reliability.transmitted (Library.run step (e.toRoot s) calls).2 ≤
        (e.toRoot s).base.config.maxRetries.toNat + 1 := by
  have hsteps : ∀ moment ∈ moments step (e.toRoot s) calls,
      Retransmits moment.1 moment.2 (step moment.1 moment.2).2 := by
    intro moment hmoment
    obtain ⟨e', hwf', hatomic, hroot⟩ := moment_endpoint hwf hmoment
    rw [hroot, step_refines hwf']
    exact retransmits_step hwf' hatomic
  have hall : ∀ moment ∈ moments step (e.toRoot s) calls,
      moment.1.session.reliableState ≠ .idle :=
    @Library.visits_invariant _ _ _ step (fun root => root.session.reliableState ≠ .idle) _ _
      hbusy fun moment hmoment _ => hretained moment hmoment
  obtain ⟨_, last, hlast, _, heq⟩ := @run_invariant _ s (fun _ => True) e hwf trivial calls
    fun _ _ _ _ _ _ => trivial
  have hbusyLast : (last.toRoot s).session.reliableState ≠ .idle := by
    rw [← heq, ← run_atomize h]
    exact @Library.visits_last _ _ _ step (fun root => root.session.reliableState ≠ .idle) _ _
      hbusy fun moment hmoment _ => hretained moment hmoment
  refine ⟨?_, ?_, ?_⟩
  · refine @Library.visits_invariant _ _ _ step (fun root => ItemStays (e.toRoot s) root) _ _
      ⟨hbusy, rfl, rfl, rfl, rfl⟩ ?_
    intro moment hmoment hstays
    have hnext := (hsteps moment hmoment).stays (hall moment hmoment) (hretained moment hmoment)
    exact ⟨hnext.occupied, hnext.type.trans hstays.type, hnext.sequence.trans hstays.sequence,
      hnext.session.trans hstays.session, hnext.bytes.trans hstays.bytes⟩
  · rw [← run_atomize h]
    refine Library.visits_count ?_
    intro moment hmoment
    exact (hsteps moment hmoment).counted (hall moment hmoment) (hretained moment hmoment)
  · obtain ⟨item, hitem⟩ := item_of_busy hbusyLast
    rw [heq, transmitted_toRoot hitem]
    exact transmitted_le (item_wf hlast.activity hitem).1

/-- In every run of either role, every string of bytes that a peek shows is one encoded
    frame, with the contents that the session has for it; a retransmission is the same
    bytes, and can be peeked only when a repeated handshake frame or the timer has asked
    for it; and an item is committed at most once more than the configured retries. -/
theorem transmissions {root : Root} (h : Reachable root) (calls : List Call) :
    (∀ moment ∈ moments step root calls,
      (∀ outBuffer, (step moment.1 (.peekOutput outBuffer)).1.status = .ok →
        ∃ frame, Emits moment.1 (step moment.1 (.peekOutput outBuffer)).1.bytes frame) ∧
        Retransmits moment.1 moment.2 (step moment.1 moment.2).2) ∧
      (∀ before moment after, moments step root calls = before ++ moment :: after →
        Origins root before moment.1) ∧
      (root.session.reliableState ≠ .idle →
        (∀ moment ∈ moments step root calls,
          (step moment.1 moment.2).2.session.reliableState ≠ .idle) →
        (∀ moment ∈ moments step root calls, ItemStays root moment.1) ∧
          Reliability.transmitted root +
              ((moments step root calls).filter commitsReliable).length =
            Reliability.transmitted (Library.run step root calls).2 ∧
          Reliability.transmitted (Library.run step root calls).2 ≤
            root.base.config.maxRetries.toNat + 1) := by
  obtain ⟨s, e, hwf, _, rfl⟩ := reachable_endpoint h
  refine ⟨?_, ?_, ?_⟩
  · intro moment hmoment
    obtain ⟨e', hwf', hatomic, hroot⟩ := moment_endpoint hwf hmoment
    rw [hroot]
    refine ⟨?_, ?_⟩
    · intro outBuffer hok
      rw [step_refines hwf'] at hok ⊢
      exact emits_peek hwf' hok
    · rw [step_refines hwf']
      exact retransmits_step hwf' hatomic
  · intro before moment after hsplit
    exact origins hwf hsplit
  · exact item_run hwf h

end

/-- The sample host commits its INITIATE twice, as often as it may. -/
theorem transmissions_initiatingHost :
    Reliability.transmitted initiatingHost +
        ((moments (@step .lp64) initiatingHost
          [.peekOutput (some 64), .commitOutput 0, .process 10 .normal, .peekOutput (some 64),
            .commitOutput 10, .process 19 .normal]).filter commitsReliable).length =
      Reliability.transmitted
        (Library.run (@step .lp64) initiatingHost
          [.peekOutput (some 64), .commitOutput 0, .process 10 .normal, .peekOutput (some 64),
            .commitOutput 10, .process 19 .normal]).2 :=
  ((@transmissions .lp64 initiatingHost reachable_initiatingHost
    [.peekOutput (some 64), .commitOutput 0, .process 10 .normal, .peekOutput (some 64),
      .commitOutput 10, .process 19 .normal]).2.2 (by decide +kernel) (by decide +kernel)).2.1

end HilRigProtocol.Transport
