/-
  The identities of the sessions.

  A host names each attempt after its cursor and moves the cursor on, over all values but
  the two reserved ones. So the identities of a run are the iterates of the successor, and
  one round of them is 2^64 - 2 long. A rig has the identity of an INITIATE that it took.
-/
import HilRigProtocol.Transport.BoundAbandonment
import HilRigProtocol.Transport.ReceiveSafety

namespace HilRigProtocol.Transport

/-! ## One round of identities -/

/-- The number of identities that are not reserved. -/
def identifierCount : Nat := 2 ^ 64 - 2

/-- The place of an identity in the round. -/
def identifierIndex (id : UInt64) : Nat := id.toNat - 1

theorem identifier_bounds {id : UInt64} (h : sessionIdentifierIsValid id = true) :
    0 < id.toNat ∧ id.toNat < 2 ^ 64 - 1 := by
  have hlt := id.toNat_lt
  have hzero : id.toNat ≠ 0 := by
    intro hz
    have hid : id = 0 := UInt64.toNat_inj.mp hz
    rw [hid] at h
    cases h
  have hlast : id.toNat ≠ 2 ^ 64 - 1 := by
    intro hl
    have hid : id = sessionSeedReserved := UInt64.toNat_inj.mp (by rw [hl]; rfl)
    rw [hid] at h
    cases h
  omega

theorem identifierIndex_lt {id : UInt64} (h : sessionIdentifierIsValid id = true) :
    identifierIndex id < identifierCount := by
  have hbounds := identifier_bounds h
  unfold identifierIndex identifierCount
  omega

theorem identifierIndex_successor {id : UInt64} (h : sessionIdentifierIsValid id = true) :
    identifierIndex (Session.successorIdentifier id) =
      (identifierIndex id + 1) % identifierCount := by
  have hbounds := identifier_bounds h
  unfold identifierIndex identifierCount Session.successorIdentifier
  by_cases hlast : id = sessionSeedReserved - 1
  · rw [if_pos hlast, hlast]
    rfl
  · rw [if_neg hlast]
    have hnext : (id + 1).toNat = id.toNat + 1 := by
      rw [UInt64.toNat_add]
      show (id.toNat + 1) % 2 ^ 64 = _
      omega
    have hne : id.toNat ≠ 2 ^ 64 - 2 := by
      intro heq
      exact hlast (UInt64.toNat_inj.mp (by rw [heq]; rfl))
    rw [hnext]
    omega

theorem identifier_ne {id : UInt64} (h : sessionIdentifierIsValid id = true) :
    id ≠ sessionSeedInvalid ∧ id ≠ sessionSeedReserved := by
  simpa [sessionIdentifierIsValid] using h

theorem identifier_iterate {first : UInt64} (h : sessionIdentifierIsValid first = true) (n : Nat) :
    sessionIdentifierIsValid (Session.successorIdentifier^[n] first) = true := by
  induction n with
  | zero => exact h
  | succ n ih =>
      rw [Function.iterate_succ_apply']
      exact successorIdentifier_isValid ih

/-- The identities of at most one round are distinct. -/
theorem identifiers_nodup {first : UInt64} (h : sessionIdentifierIsValid first = true) {n : Nat}
    (hn : n ≤ identifierCount) : (List.iterate Session.successorIdentifier first n).Nodup :=
  @Library.nodup_iterate _ _ (fun id => sessionIdentifierIsValid id = true) identifierIndex
    identifierCount (fun _ => successorIdentifier_isValid) (fun _ => identifierIndex_successor)
    first h (identifierIndex_lt h) n hn

/-! ## The identities that a run gives out -/

section
variable [Target] {s : Setup}

/-- The step begins an attempt of a host: INITIATE is to be sent, and either it was not
    before, or the peer's RESET has ended the attempt before in the same step. -/
def beginsAttempt (moment : Root × Call) : Bool :=
  (step moment.1 moment.2).2.session.handshakePhase == .initiatePending
    && (moment.1.session.handshakePhase != .initiatePending
      || (Receive.validFrame moment.1 moment.2).any fun frame =>
        frame.type == .reset
          && frame.sessionIdentifier == moment.1.session.sessionIdentifier)

/-- The identity of the attempt that a step begins. -/
def begunIdentity (moment : Root × Call) : List UInt64 :=
  if beginsAttempt moment then [(step moment.1 moment.2).2.session.sessionIdentifier] else []

/-- One step of a host: an attempt is named after the cursor and moves it on, and nothing
    else names a session or moves the cursor. -/
structure NamedInTurn (moment : Root × Call) : Prop where
  begun : beginsAttempt moment = true →
    (step moment.1 moment.2).2.session.sessionIdentifierValid = 1 ∧
      (step moment.1 moment.2).2.session.sessionIdentifier =
        moment.1.session.nextHostSessionIdentifier ∧
      (step moment.1 moment.2).2.session.nextHostSessionIdentifier =
        Session.successorIdentifier moment.1.session.nextHostSessionIdentifier
  idle : beginsAttempt moment = false →
    (step moment.1 moment.2).2.session.nextHostSessionIdentifier =
        moment.1.session.nextHostSessionIdentifier ∧
      ((step moment.1 moment.2).2.session.sessionIdentifierValid = 0 ∨
        (step moment.1 moment.2).2.session.sessionIdentifierValid =
            moment.1.session.sessionIdentifierValid ∧
          (step moment.1 moment.2).2.session.sessionIdentifier =
            moment.1.session.sessionIdentifier)

namespace Endpoint

theorem cursor_begun {e : Endpoint} {id : UInt64}
    (ha : (e.beginEstablishment s).activity = .initiatePending id) :
    (e.beginEstablishment s).cursor ≠ e.cursor := by
  unfold beginEstablishment at ha ⊢
  split_ifs at ha ⊢
  exact successorIdentifier_ne _

/-- Receive work that leaves the next session to begin has kept the cursor. -/
theorem receipt_cursor {e e' : Endpoint} {offered : Option (List UInt8)}
    (h : Receipt s e offered e') (hidle : e'.activity = .recovering none) :
    e'.cursor = e.cursor := by
  cases h with
  | idle hsame => exact hsame.cursor
  | take _ _ _ _ htakes => cases htakes <;> rfl
  | reject _ _ hbarrier => exact (rejectSession_record hbarrier).1
  | reset =>
      unfold beginEstablishment at hidle
      split_ifs at hidle

/-- A host that keeps its cursor is about to send INITIATE only if it was before. -/
theorem initiating_receipt {e e' : Endpoint} {offered : Option (List UInt8)}
    (h : Receipt s e offered e') (hsame : e'.cursor = e.cursor) {id : UInt64}
    (ha' : e'.activity = .initiatePending id) : e.activity = .initiatePending id := by
  cases h with
  | idle hkept _ => exact hkept.activity.symm.trans ha'
  | take _ _ _ _ htakes =>
      cases htakes with
      | duplicate | repeatDue => exact ha'
      | _ => cases ha'
  | reject _ _ hbarrier =>
      rw [activity_rejectSession hbarrier] at ha'
      cases ha'
  | reset =>
      have hmoved := cursor_begun ha'
      rw [(abandon_record _ _ _).1] at hmoved
      exact absurd hsame hmoved

theorem initiating_deed {e e' : Endpoint} {call : Call} (h : Deed s e call e')
    (hsame : e'.cursor = e.cursor) {id : UInt64} (ha' : e'.activity = .initiatePending id) :
    e.activity = .initiatePending id := by
  have hmapped : ∀ f : Stage → Stage, e.activity.mapStage f = .initiatePending id →
      e.activity = .initiatePending id := by
    intro f hmap
    cases ha : e.activity <;> rw [ha] at hmap <;> cases hmap
    rfl
  cases h with
  | idle | readEvent => exact ha'
  | work _ hwork =>
      obtain ⟨hactivity, hcursor, _⟩ := recorded_fields e call
      cases hwork with
      | receipt hreceipt hadvances =>
          rcases hadvances with rfl | ⟨hidle, rfl⟩
          · rw [← hactivity]
            exact initiating_receipt hreceipt (hsame.trans hcursor.symm) ha'
          · have hmoved := cursor_begun ha'
            rw [receipt_cursor hreceipt hidle, hcursor] at hmoved
            exact absurd hsame hmoved
      | tick _ htick =>
          rw [← hactivity] at hmapped ⊢
          cases htick with
          | idle => exact ha'
          | initiate | response | confirm => cases ha'
          | retry | hold => exact hmapped _ ha'
          | fail | lose =>
              rw [activity_beginLocalRecovery] at ha'
              cases ha'
  | showReliable | commitReliable => exact hmapped _ ha'
  | showControl | commitControl =>
      cases ha : e.activity with
      | recovering reset =>
          rw [ha] at ha'
          cases reset <;> cases ha'
      | initiatePending other =>
          rw [ha] at ha'
          exact ha'
      | _ =>
          rw [ha] at ha'
          cases ha'
  | submit | readMessage => cases ha'
  | reset =>
      have hother : e.reset.activity = .initiatePending id := ha'
      unfold Endpoint.reset at hother
      cases ha : e.activity <;> rw [ha] at hother <;> cases hother
  | observe => cases ha'
  | disconnect =>
      dsimp only at ha'
      rw [(abandon_fields _ _ _).1] at ha'
      cases ha'
  | connect =>
      have hmoved := cursor_begun ha'
      rw [(publish_record e (Session.linkEvent .connected)).1] at hmoved
      exact absurd hsame hmoved

/-- The peer's RESET of the current session makes a host begin an attempt. -/
theorem cursor_reset {e : Endpoint} (h : e.Wf s) (hhost : s.role = .host) {call : Call}
    (hatomic : Atomic s e call) {frame : Frame}
    (hframe : Receive.validFrame (e.toRoot s) call = some frame) (htype : frame.type = .reset)
    (hcurrent : e.activity.identifier = some frame.sessionIdentifier) :
    (e.step s call).2.cursor = Session.successorIdentifier e.cursor := by
  obtain ⟨body, hbody, hdecode⟩ := validFrame_toRoot.mp hframe
  have hclass := classifyBody_decodes (e := e) hdecode
  rw [classify_reset h.activity hcurrent htype] at hclass
  have hresolved : ((e.withIntake (.ready body)).processBody s body).2 =
      ((e.withIntake (.ready body)).abandon (.recovering none) .protocol).2.beginEstablishment
        s := by
    have hsame : (e.withIntake (.ready body)).classifyBody s body = e.classifyBody s body := rfl
    unfold processBody
    rw [hsame, hclass]
    rfl
  have hbegun : ∀ e₁ : Endpoint, e₁.beginEstablishment s =
      { e₁ with
        activity := .initiatePending e₁.cursor
        cursor := Session.successorIdentifier e₁.cursor } := fun e₁ => if_pos hhost
  rw [step_resolves h hatomic hbody, (recorded_fields _ call).2.1]
  rcases @advances_advanceIfOk _ s ((e.withIntake (.ready body)).processBody s body) with
    heq | ⟨ha, _⟩
  · rw [heq, hresolved, hbegun]
    dsimp only
    rw [(abandon_record _ _ _).1]
    rfl
  · rw [hresolved, hbegun] at ha
    cases ha

theorem beginsAttempt_toRoot {e : Endpoint} (h : e.Wf s) (call : Call) :
    beginsAttempt (e.toRoot s, call) = true ↔
      (∃ id, (e.step s call).2.activity = .initiatePending id) ∧
        ((∀ id, e.activity ≠ .initiatePending id) ∨
          ∃ frame, Receive.validFrame (e.toRoot s) call = some frame ∧ frame.type = .reset ∧
            frame.sessionIdentifier = (e.toRoot s).session.sessionIdentifier) := by
  have hphase : ∀ e₁ : Endpoint, (e₁.toRoot s).session.handshakePhase = .initiatePending ↔
      ∃ id, e₁.activity = .initiatePending id := by
    intro e₁
    rw [phase_toRoot]
    cases e₁.activity <;> simp [Activity.phase]
  unfold beginsAttempt
  rw [step_refines h]
  simp [hphase, Option.any_eq_true]

/-- A host that moves its cursor on begins an attempt. -/
theorem begins_of_moved {e : Endpoint} (h : e.Wf s) (hcursor : Successive s e)
    (hhost : s.role = .host) {call : Call} (hatomic : Atomic s e call)
    (ha : (e.step s call).2.activity = .initiatePending e.cursor) :
    beginsAttempt (e.toRoot s, call) = true := by
  refine (beginsAttempt_toRoot h call).mpr ⟨⟨_, ha⟩, ?_⟩
  by_cases hbefore : ∀ id, e.activity ≠ .initiatePending id
  · exact Or.inl hbefore
  · push Not at hbefore
    obtain ⟨id, hinitiating⟩ := hbefore
    have hid : e.activity.identifier = some id := by
      rw [hinitiating]
      rfl
    refine Or.inr ?_
    cases deed_parting (step_deed h hatomic) hid with
    | stays hkept _ =>
        rw [ha] at hkept
        have hsame : e.cursor = id := Option.some.inj hkept
        rw [hcursor hhost id hid] at hsame
        exact absurd hsame (successorIdentifier_ne id)
    | rejected _ _ hother | failed _ _ _ hother | reset _ hother | lost _ hother =>
        rw [ha] at hother
        cases hother
    | @peer body frame hbody hdecode htype hcurrent =>
        refine ⟨frame, validFrame_toRoot.mpr ⟨body, hbody, hdecode⟩, htype, ?_⟩
        show _ = e.activity.identifier.getD _
        rw [hid]
        exact hcurrent

/-- A host that keeps its cursor begins none. -/
theorem not_begins_of_kept {e : Endpoint} (h : e.Wf s) (hhost : s.role = .host) {call : Call}
    (hatomic : Atomic s e call) (hkept : (e.step s call).2.cursor = e.cursor) :
    beginsAttempt (e.toRoot s, call) = false := by
  rw [← Bool.not_eq_true, beginsAttempt_toRoot h call]
  rintro ⟨⟨id, ha'⟩, hwhy⟩
  have ha := initiating_deed (step_deed h hatomic) hkept ha'
  rcases hwhy with hother | ⟨frame, hframe, htype, hcurrent⟩
  · exact hother id ha
  · have hid : e.activity.identifier = some frame.sessionIdentifier := by
      rw [hcurrent]
      show _ = some (e.activity.identifier.getD _)
      rw [ha]
      rfl
    rw [cursor_reset h hhost hatomic hframe htype hid] at hkept
    exact successorIdentifier_ne _ hkept

theorem namedInTurn_step {e : Endpoint} (h : e.Wf s) (hcursor : Successive s e)
    (hhost : s.role = .host) {call : Call} (hatomic : Atomic s e call) :
    NamedInTurn (e.toRoot s, call) := by
  have hstep : (Transport.step (e.toRoot s) call).2 = (e.step s call).2.toRoot s := by
    rw [step_refines h]
  cases deed_naming h.activity (step_deed h hatomic) with
  | begun _ ha hnext =>
      have hbegins := begins_of_moved h hcursor hhost hatomic ha
      refine ⟨fun _ => ?_, fun hnot => absurd (hbegins.symm.trans hnot) (by decide)⟩
      dsimp only
      rw [hstep]
      refine ⟨if_pos (by rw [ha]; rfl), ?_, hnext⟩
      show (e.step s call).2.activity.identifier.getD _ = e.cursor
      rw [ha]
      rfl
  | same hid hsame =>
      have hnone := not_begins_of_kept h hhost hatomic hsame
      refine ⟨fun hbegins => absurd (hbegins.symm.trans hnone) (by decide), fun _ => ?_⟩
      dsimp only
      rw [hstep]
      refine ⟨hsame, Or.inr ⟨?_, ?_⟩⟩
      · show (if (e.step s call).2.activity.identifier.isSome then (1 : UInt8) else 0) = _
        rw [hid]
        rfl
      · show (e.step s call).2.activity.identifier.getD _ = _
        rw [hid]
        rfl
  | none hid hsame =>
      have hnone := not_begins_of_kept h hhost hatomic hsame
      refine ⟨fun hbegins => absurd (hbegins.symm.trans hnone) (by decide), fun _ => ?_⟩
      dsimp only
      rw [hstep]
      exact ⟨hsame, Or.inl (if_neg (by rw [hid]; simp))⟩
  | adopted hrig =>
      rw [hhost] at hrig
      cases hrig

/-- A host begins no attempt and keeps its cursor, or it names one after the cursor and
    moves it on. -/
theorem begunIdentity_step {e : Endpoint} (h : e.Wf s) (hcursor : Successive s e)
    (hhost : s.role = .host) {call : Call} (hatomic : Atomic s e call) :
    begunIdentity (e.toRoot s, call) = [] ∧ (e.step s call).2.cursor = e.cursor ∨
      begunIdentity (e.toRoot s, call) = [e.cursor] ∧
        (e.step s call).2.cursor = Session.successorIdentifier e.cursor := by
  have hnamed := namedInTurn_step h hcursor hhost hatomic
  unfold begunIdentity
  cases hbegins : beginsAttempt (e.toRoot s, call) with
  | false =>
      refine Or.inl ⟨by simp, ?_⟩
      have hkept := (hnamed.idle hbegins).1
      dsimp only at hkept
      rw [step_refines h] at hkept
      exact hkept
  | true =>
      obtain ⟨_, hid, hnext⟩ := hnamed.begun hbegins
      dsimp only at hid hnext
      rw [step_refines h] at hid hnext
      refine Or.inr ⟨?_, hnext⟩
      rw [if_pos rfl]
      dsimp only
      rw [step_refines h]
      exact congrArg (fun id => [id]) hid

theorem begun_unbound (hrig : s.role = .rig) (e : Endpoint) :
    (e.beginEstablishment s).activity.identifier = none := by
  unfold beginEstablishment
  rw [hrig]
  rfl

/-- Receive work binds a rig to the identity of the INITIATE that it takes only. -/
theorem receipt_adopts {e e' : Endpoint} (hrig : s.role = .rig) {offered : Option (List UInt8)}
    (h : Receipt s e offered e') {id : UInt64} (hid : e'.activity.identifier = some id) :
    e.activity.identifier = some id ∨
      ∃ body frame, offered = some body ∧ Decodes s body frame ∧ frame.type = .initiate ∧
        sessionIdentifierIsValid frame.sessionIdentifier = true ∧ frame.sessionIdentifier = id := by
  cases h with
  | idle hsame _ =>
      rw [hsame.activity] at hid
      exact Or.inl hid
  | take hoffered _ hdecode _ htakes =>
      cases htakes with
      | adopt _ htype hvalid _ =>
          exact Or.inr ⟨_, _, hoffered, hdecode, htype, hvalid, Option.some.inj hid⟩
      | duplicate | repeatDue => exact Or.inl hid
      | repeatInitiate ha | repeatResponse ha | repeatAck ha | response ha | confirm ha
      | confirmAck ha | prove ha | delivery ha | message ha =>
          refine Or.inl ?_
          rw [ha]
          exact hid
  | reject _ _ hbarrier =>
      rw [activity_rejectSession hbarrier] at hid
      cases hid
  | reset =>
      rw [begun_unbound hrig] at hid
      cases hid

theorem tick_unadopted {e e' : Endpoint} {nowMs : UInt32} (h : Tick s e nowMs e') {id : UInt64}
    (hid : e'.activity.identifier = some id) : e.activity.identifier = some id := by
  cases h with
  | idle => exact hid
  | initiate ha | response ha | confirm ha =>
      rw [ha]
      exact hid
  | retry | hold =>
      rw [identifier_mapStage] at hid
      exact hid
  | fail | lose =>
      rw [activity_beginLocalRecovery] at hid
      cases hid

/-- A rig keeps its identity, or has that of the INITIATE it takes. -/
theorem deed_adopts {e e' : Endpoint} (hrig : s.role = .rig) {call : Call} (h : Deed s e call e')
    {id : UInt64} (hid : e'.activity.identifier = some id) :
    e.activity.identifier = some id ∨
      ∃ body frame, e.offered call = some body ∧ Decodes s body frame ∧
        frame.type = .initiate ∧ sessionIdentifierIsValid frame.sessionIdentifier = true ∧
        frame.sessionIdentifier = id := by
  cases h with
  | idle | readEvent => exact Or.inl hid
  | work _ hwork =>
      have hactivity := (recorded_fields e call).1
      rw [← hactivity]
      cases hwork with
      | receipt hreceipt hadvances =>
          rcases hadvances with rfl | ⟨_, rfl⟩
          · exact receipt_adopts hrig hreceipt hid
          · rw [begun_unbound hrig] at hid
            cases hid
      | tick _ htick => exact Or.inl (tick_unadopted htick hid)
  | showReliable | commitReliable =>
      rw [identifier_mapStage] at hid
      exact Or.inl hid
  | showControl =>
      rw [← (@item_peekControl _ s e.activity).2]
      exact Or.inl hid
  | commitControl =>
      rw [← (@item_commitControl _ s e.activity).2]
      exact Or.inl hid
  | submit _ _ _ ha | readMessage _ ha =>
      rw [ha]
      exact Or.inl hid
  | reset =>
      unfold Endpoint.reset at hid
      cases ha : e.activity <;> rw [ha] at hid <;> cases hid
  | observe => cases hid
  | disconnect =>
      have hnone := (abandon_fields (e.publish (Session.linkEvent .disconnected)).2
        (.disconnected true) .linkLost).1
      rw [hnone] at hid
      cases hid
  | connect =>
      rw [begun_unbound hrig] at hid
      cases hid

end Endpoint

theorem identifier_of_bound {e : Endpoint} {id : UInt64}
    (hvalid : (e.toRoot s).session.sessionIdentifierValid ≠ 0)
    (hid : (e.toRoot s).session.sessionIdentifier = id) : e.activity.identifier = some id := by
  unfold Endpoint.toRoot Endpoint.toSession at hvalid hid
  cases hbound : e.activity.identifier <;> rw [hbound] at hvalid hid
  · exact absurd rfl hvalid
  · exact congrArg some hid

theorem bound_of_identifier {e : Endpoint} {id : UInt64} (h : e.activity.identifier = some id) :
    (e.toRoot s).session.sessionIdentifierValid ≠ 0 ∧
      (e.toRoot s).session.sessionIdentifier = id := by
  unfold Endpoint.toRoot Endpoint.toSession
  rw [h]
  exact ⟨by simp, rfl⟩

/-- The adoption of an identity by a rig. -/
def AdoptsIdentity (id : UInt64) (moment : Root × Call) : Prop :=
  Adopts moment.1 moment.2 (step moment.1 moment.2).2 ∧
    (step moment.1 moment.2).2.session.sessionIdentifier = id

open Endpoint in
theorem adoptsIdentity_step {e : Endpoint} (h : e.Wf s) (hrig : s.role = .rig) {call : Call}
    (hatomic : Atomic s e call) {id : UInt64}
    (hid : (e.step s call).2.activity.identifier = some id) :
    e.activity.identifier = some id ∨ AdoptsIdentity id (e.toRoot s, call) := by
  have hnext : (step (e.toRoot s) call).2 = (e.step s call).2.toRoot s := by
    rw [step_refines h]
  have hbound : ((e.step s call).2.toRoot s).session.sessionIdentifier = id := by
    show (e.step s call).2.activity.identifier.getD sessionSeedInvalid = id
    rw [hid]
    rfl
  rcases deed_adopts hrig (step_deed h hatomic) hid with
    hkept | ⟨body, frame, hoffered, hdecode, htype, hvalid, hframe⟩
  · exact Or.inl hkept
  · refine Or.inr ⟨?_, ?_⟩
    · dsimp only
      rw [hnext]
      refine ⟨body, frame, ?_, hdecode, htype, hvalid, ?_, ?_⟩
      · rw [offered_toRoot, hoffered]
      · exact if_pos (by rw [hid]; rfl)
      · rw [hbound, hframe]
    · dsimp only
      rw [hnext, hbound]

/-! ## One attempt -/

omit [Target] in
/-- An attempt that is not ready changes nothing. -/
theorem beginEstablishment_notReady {root : Root}
    (h : (Session.beginEstablishment root).1 = .notReady) :
    (Session.beginEstablishment root).2 = root := by
  unfold Session.beginEstablishment at h ⊢
  dsimp only at h ⊢
  split_ifs at h ⊢ <;> first | rfl | cases h

omit [Target] in
/-- An attempt of a host that succeeds has the identity of the cursor, and moves it on. -/
theorem beginEstablishment_ok {root : Root} (h : (Session.beginEstablishment root).1 = .ok)
    (hhost : root.session.role = .host) :
    (Session.beginEstablishment root).2.session.sessionIdentifier =
        root.session.nextHostSessionIdentifier ∧
      (Session.beginEstablishment root).2.session.nextHostSessionIdentifier =
        Session.successorIdentifier root.session.nextHostSessionIdentifier := by
  unfold Session.beginEstablishment at h ⊢
  dsimp only at h ⊢
  rw [if_pos hhost] at h ⊢
  split_ifs at h ⊢ <;> first | exact ⟨rfl, rfl⟩ | cases h

/-! ## All runs -/

section
variable {e : Endpoint}

/-- The moments of a host's run are those of an endpoint whose cursor is behind. -/
theorem moment_successive (h : e.Wf s) (hcursor : Endpoint.Successive s e) {calls : List Call}
    {moment : Root × Call} (hmoment : moment ∈ moments step (e.toRoot s) calls) :
    ∃ e' : Endpoint, e'.Wf s ∧ Endpoint.Successive s e' ∧ Endpoint.Atomic s e' moment.2 ∧
      moment.1 = e'.toRoot s :=
  (@run_invariant _ s (Endpoint.Successive s) e h hcursor calls
    fun _ _ _ hwf' hcursor' hatomic => Endpoint.successive_step hwf' hcursor' hatomic).1 _ hmoment

/-- The attempts of a host are named by the iterates of the successor. -/
theorem begun_names (h : e.Wf s) (hcursor : Endpoint.Successive s e) (hhost : s.role = .host)
    (calls : List Call) :
    (moments step (e.toRoot s) calls).flatMap begunIdentity =
      List.iterate Session.successorIdentifier e.cursor
        ((moments step (e.toRoot s) calls).flatMap begunIdentity).length := by
  refine @Library.visits_iterate _ _ _ _ step
    (fun root => root.session.nextHostSessionIdentifier) Session.successorIdentifier
    begunIdentity (atomize step (e.toRoot s) calls) (e.toRoot s) ?_
  rintro ⟨before, call⟩ hmoment
  obtain ⟨e', hwf', hcursor', hatomic, heq⟩ := moment_successive h hcursor hmoment
  dsimp only at hatomic heq ⊢
  subst heq
  rw [step_refines hwf']
  exact Endpoint.begunIdentity_step hwf' hcursor' hhost hatomic

theorem begun_nodup (h : e.Wf s) (hcursor : Endpoint.Successive s e) (hhost : s.role = .host)
    {calls : List Call} {window : List UInt64}
    (hwindow : window <:+: (moments step (e.toRoot s) calls).flatMap begunIdentity)
    (hlength : window.length ≤ 2 ^ 64 - 2) : window.Nodup := by
  rw [begun_names h hcursor hhost] at hwindow
  obtain ⟨n, heq⟩ := Library.iterate_of_infix hwindow
  rw [heq]
  exact identifiers_nodup (identifier_iterate (h.cursor_host hhost) n) hlength

end

/-- The identities of a host over a run: the cursor is never reserved, every step leaves
    it or names an attempt after it, and the names are not reserved and not repeated
    within one round. -/
structure NamedAfresh (initial : Root) (calls : List Call) : Prop where
  cursor : ∀ moment ∈ moments step initial calls,
    moment.1.session.nextHostSessionIdentifier ≠ sessionSeedInvalid ∧
      moment.1.session.nextHostSessionIdentifier ≠ sessionSeedReserved
  last :
    (Library.run step initial calls).2.session.nextHostSessionIdentifier ≠ sessionSeedInvalid ∧
      (Library.run step initial calls).2.session.nextHostSessionIdentifier ≠ sessionSeedReserved
  steps : ∀ moment ∈ moments step initial calls, NamedInTurn moment
  names : ∀ id ∈ (moments step initial calls).flatMap begunIdentity,
    id ≠ sessionSeedInvalid ∧ id ≠ sessionSeedReserved
  distinct : ∀ window, window <:+: (moments step initial calls).flatMap begunIdentity →
    window.length ≤ 2 ^ 64 - 2 → window.Nodup

theorem namedAfresh {e : Endpoint} (h : e.Wf s) (hcursor : Endpoint.Successive s e)
    (hhost : s.role = .host) (calls : List Call) : NamedAfresh (e.toRoot s) calls where
  cursor := by
    rintro ⟨before, call⟩ hmoment
    obtain ⟨e', hwf', _, _, heq⟩ := moment_successive h hcursor hmoment
    dsimp only at heq ⊢
    subst heq
    exact identifier_ne (hwf'.cursor_host hhost)
  last := by
    have hstep : ∀ (e : Endpoint) call, e.Wf s → (e.step s call).2.Wf s :=
      fun e call he => Endpoint.wf_step he call
    rw [Library.run_refines hstep (fun e call he => step_refines he call) h calls]
    exact identifier_ne ((Library.run_invariant hstep h calls).cursor_host hhost)
  steps := by
    rintro ⟨before, call⟩ hmoment
    obtain ⟨e', hwf', hcursor', hatomic, heq⟩ := moment_successive h hcursor hmoment
    dsimp only at hatomic heq ⊢
    subst heq
    exact Endpoint.namedInTurn_step hwf' hcursor' hhost hatomic
  names := by
    intro id hid
    rw [begun_names h hcursor hhost] at hid
    obtain ⟨n, _, rfl⟩ := List.mem_iterate.mp hid
    exact identifier_ne (identifier_iterate (h.cursor_host hhost) n)
  distinct := fun _ => begun_nodup h hcursor hhost

/-- The cursor of a host is never a reserved value. Its attempts are named in turn, without
    reserved values and without a repetition in 2^64 - 2 successive names; an attempt that
    is not ready, and a local reset, leave the cursor. A rig has the identity of an INITIATE
    that it took. -/
theorem session_identity_freshness {context next : Context} {role : Role} {config : Config}
    {storage : Storage} {placement : Placement} {initial : Root}
    (hinit : Profile.init context role config storage placement = (.ok, next))
    (hroot : Profile.rootFromContext next = some initial) (calls : List Call) :
    (role = .host → NamedAfresh initial calls) ∧
      (∀ attempt : Root, (Session.beginEstablishment attempt).1 = .notReady →
        (Session.beginEstablishment attempt).2 = attempt) ∧
      (∀ attempt : Root, (Session.beginEstablishment attempt).1 = .ok →
        attempt.session.role = .host →
        (Session.beginEstablishment attempt).2.session.sessionIdentifier =
            attempt.session.nextHostSessionIdentifier ∧
          (Session.beginEstablishment attempt).2.session.nextHostSessionIdentifier =
            Session.successorIdentifier attempt.session.nextHostSessionIdentifier) ∧
      (∀ moment ∈ moments step initial calls,
        (step moment.1 .reset).2.session.nextHostSessionIdentifier =
          moment.1.session.nextHostSessionIdentifier) ∧
      (role = .rig → (Library.run step initial calls).2.session.sessionIdentifierValid ≠ 0 →
        ∃ adoption ∈ moments step initial calls,
          AdoptsIdentity (Library.run step initial calls).2.session.sessionIdentifier
            adoption) := by
  have hreachable : Reachable initial :=
    ⟨context, role, config, storage, placement, next, initial, [], hinit, hroot, rfl⟩
  have hrun := run_atomize hreachable calls
  obtain ⟨s, hrole, _, hinitial, hwf⟩ := init_refines hinit
  rw [hinitial] at hroot
  cases hroot
  have hcursor := Endpoint.successive_initial s
  refine ⟨fun hhost => namedAfresh hwf hcursor (hrole.trans hhost) calls,
    fun _ => beginEstablishment_notReady, fun _ => beginEstablishment_ok, ?_, ?_⟩
  · rintro ⟨before, call⟩ hmoment
    obtain ⟨e, hwf', _, _, heq⟩ := moment_successive hwf hcursor hmoment
    dsimp only at heq ⊢
    subst heq
    rw [step_refines hwf']
    rfl
  · intro hrig hvalid
    rw [← hrole] at hrig
    generalize hid : (Library.run step ((Endpoint.initial s).toRoot s)
      calls).2.session.sessionIdentifier = id
    rw [← hrun] at hid hvalid
    have horigin := @Library.visits_origin _ _ _ step
      (fun root => root.session.sessionIdentifierValid ≠ 0 ∧ root.session.sessionIdentifier = id)
      (AdoptsIdentity id) _ _ (by
        rintro ⟨before, call⟩ hmoment ⟨hbound, hsame⟩
        obtain ⟨e, hwf', _, hatomic, heq⟩ := moment_successive hwf hcursor hmoment
        dsimp only at hatomic heq hbound hsame ⊢
        subst heq
        rw [step_refines hwf'] at hbound hsame
        rcases adoptsIdentity_step hwf' hrig hatomic (identifier_of_bound hbound hsame) with
          hkept | hadopts
        · exact Or.inl (bound_of_identifier hkept)
        · exact Or.inr hadopts) ⟨hvalid, hid⟩
    rcases horigin with ⟨hbound, _⟩ | hadoption
    · exact absurd rfl hbound
    · exact hadoption

end

/-- The policy of the sample host, with the last identity before the round starts over. -/
def lastSeedConfig : Config := { sampleConfig with sessionSeed := 0xFFFFFFFFFFFFFFFE }

/-- A first attempt that the peer resets at once, a second one up to a local reset, and a
    third one. -/
def threeAttempts : List Call :=
  [.notifyLinkState .connected 0,
    .receiveBytes (encodedFrame ⟨.reset, 0xFFFFFFFFFFFFFFFE, 0, 0, []⟩), .process 0 .normal,
    .reset, .peekOutput (some 64), .commitOutput 1, .process 2 .normal]

/-- The second attempt has the first identity of the next round. -/
theorem session_identity_freshness_wraps :
    ∃ initial : Root,
      @Profile.rootFromContext .lp64 (@Profile.init .lp64 .zero .host lastSeedConfig sampleStorage
        samplePlacement).2 = some initial ∧
      ((moments (@step .lp64) initial threeAttempts).flatMap (@begunIdentity .lp64)) =
        [0xFFFFFFFFFFFFFFFE, 1, 2] ∧
      ((moments (@step .lp64) initial threeAttempts).flatMap (@begunIdentity .lp64)).Nodup :=
  ⟨_, rfl, by decide +kernel,
    @NamedAfresh.distinct .lp64 _ _ ((@session_identity_freshness .lp64 .zero
      (@Profile.init .lp64 .zero .host lastSeedConfig sampleStorage samplePlacement).2 .host
      lastSeedConfig sampleStorage samplePlacement _ rfl rfl threeAttempts).1 rfl) _
      List.infix_rfl (by decide +kernel)⟩

end HilRigProtocol.Transport
