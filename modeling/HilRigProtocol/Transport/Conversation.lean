/-
  What a host and a rig know of each other.

  Two properties are kept by all that can become of a network. `Linked` has the agreement of
  both sides on one session, with the moments that it rests on: the naming of the session,
  the RESPONSE that the host took and the CONFIRM that the rig took. `Sourced` says that
  what a side decodes is what the other side has sent. The results about runs follow
  from both.
-/
import HilRigProtocol.Transport.Agreement
import HilRigProtocol.Transport.Network

namespace HilRigProtocol.Transport

section
variable [Target]

/-! ## One side and one session -/

/-- What a side has done in the session `id`. -/
def accountOf (id : UInt64) (past : List (Root × Call)) : Account where
  submitted := past.flatMap (submittedIn id)
  confirmed := (past.map (confirmedIn id)).sum
  placed := past.flatMap (placedIn id)

theorem accountOf_concat (id : UInt64) (past : List (Root × Call)) (moment : Root × Call) :
    accountOf id (past ++ [moment]) = (accountOf id past).append (accountIn id moment) := by
  unfold accountOf Account.append accountIn
  rw [List.flatMap_append, List.flatMap_append, List.map_append, List.sum_append,
    List.flatMap_singleton, List.flatMap_singleton, List.map_singleton, List.sum_singleton]

/-- The host takes a RESPONSE of the session, and has a CONFIRM to send. -/
def RespondedIn (id : UInt64) (moment : Root × Call) : Prop :=
  moment.1.session.handshakePhase ∈ [.initiatePending, .waitingForResponse] ∧
    (step moment.1 moment.2).2.session.handshakePhase ∈
      [.confirmPending, .waitingForConfirmAck] ∧
    (step moment.1 moment.2).2.session.sessionIdentifier = id ∧
    ∃ frame, Receive.validFrame moment.1 moment.2 = some frame ∧ frame.type = .response ∧
      frame.sessionIdentifier = id

/-- The rig takes a CONFIRM of the session, and is established in it. -/
def OpenedIn (id : UInt64) (moment : Root × Call) : Prop :=
  establishes moment = true ∧
    (step moment.1 moment.2).2.session.sessionIdentifier = id ∧
    ∃ frame, Receive.validFrame moment.1 moment.2 = some frame ∧ frame.type = .confirm ∧
      frame.sessionIdentifier = id

namespace Activity

variable {id : UInt64} {a : Activity}

omit [Target] in
theorem standing_eq (h : a.standing id ≠ .outside) :
    a.identifier = some id ∧ a.standing id = a.place := by
  by_cases hid : a.identifier = some id
  · exact ⟨hid, a.standing_of hid⟩
  · exact absurd (a.standing_other hid) h

omit [Target] in
theorem of_exchanging {dealings : Dealings} (h : a.standing id = .exchanging dealings) :
    ∃ x : Exchange, a = .established id x ∧ x.dealings = dealings := by
  obtain ⟨hid, hplace⟩ := standing_eq (by rw [h]; simp)
  rw [h] at hplace
  cases a with
  | established other x =>
      cases hid
      cases hplace
      exact ⟨x, rfl, rfl⟩
  | _ => cases hplace

end Activity

namespace Party

variable {s : Setup} {id : UInt64} {party party' : Party} {frames : List Frame}

def standing (party : Party) (id : UInt64) : Standing := party.endpoint.activity.standing id

variable (s) in
/-- The frames that the side holds back, and those on the way to it. -/
def ahead (party : Party) : List Frame :=
  Receive.held (party.endpoint.toRoot s) ++ party.inbound

theorem moves_past (h : Moves s party frames party') : party.past <+: party'.past := by
  cases h with
  | lose => exact List.prefix_rfl
  | moment => exact List.prefix_append _ _

theorem moves_named (h : Moves s party frames party') :
    party.past.flatMap begunIdentity <+: party'.past.flatMap begunIdentity := by
  obtain ⟨rest, hrest⟩ := moves_past h
  rw [← hrest, List.flatMap_append]
  exact List.prefix_append _ _

theorem moves_ahead (h : Moves s party frames party') :
    List.Sublist (party'.ahead s) (party.ahead s) := by
  cases h with
  | lose hinbound => exact (List.Sublist.refl _).append hinbound
  | moment hwf hcursor hatomic hinbound =>
      unfold ahead
      rw [hinbound, ← List.append_assoc]
      exact (Endpoint.held_step hwf hatomic).append (List.Sublist.refl _)

theorem moves_sent (h : Moves s party frames party') :
    ∀ frame ∈ frames, frame ∈ party'.past.flatMap sent := by
  cases h with
  | lose => exact List.forall_mem_nil _
  | moment =>
      intro frame hframe
      rw [List.flatMap_append, List.flatMap_singleton]
      exact List.mem_append_right _ hframe

/-- What a new moment decodes was ahead. -/
theorem moves_decoded (h : Moves s party frames party') {moment : Root × Call} {frame : Frame}
    (hmoment : moment ∈ party'.past) (hframe : Receive.validFrame moment.1 moment.2 = some frame) :
    moment ∈ party.past ∨ frame ∈ party.ahead s := by
  cases h with
  | lose => exact Or.inl hmoment
  | @moment call rest hwf hcursor hatomic hinbound =>
      rcases List.mem_append.mp hmoment with hold | hnew
      · exact Or.inl hold
      · obtain rfl := List.mem_singleton.mp hnew
        obtain ⟨body, hbody, -⟩ := Endpoint.validFrame_toRoot.mp hframe
        have hflight := Endpoint.resolved_flight hatomic (by rw [hbody]; simp)
        refine Or.inr ?_
        unfold ahead
        rw [hinbound, ← List.append_assoc, hflight, hframe]
        exact List.mem_append_left _ List.mem_cons_self

variable (s id) in
/-- What a move is to the session `id`. -/
inductive Share (party party' : Party) : Prop
  | begins {moment : Root × Call} : s.role = .host → party'.past = party.past ++ [moment] →
      id ∈ begunIdentity moment → party'.standing id = .initiating →
      List.Sublist (ofSession id (party'.ahead s)) (ofSession id (party.ahead s)) →
      Share party party'
  | acts {taken : Option Frame} :
      List.Sublist (taken.toList ++ ofSession id (party'.ahead s)) (ofSession id (party.ahead s)) →
      Acts s.role s.firstSequence (party.standing id) taken (party'.standing id) →
      Share party party'

theorem moves_share (h : Moves s party frames party') (id : UInt64) : Share s id party party' := by
  have hahead := ofSession_sublist id (moves_ahead h)
  cases h with
  | lose => exact @Share.acts _ _ _ _ _ none hahead .stays
  | @moment call rest hwf hcursor hatomic hinbound =>
      cases Endpoint.turn_step hwf hcursor hatomic id with
      | begins hhost hbegun hinitiating => exact .begins hhost rfl hbegun hinitiating hahead
      | @acts taken hheld hacts htaken =>
          refine @Share.acts _ _ _ _ _ taken ?_ hacts
          have htoken : ofSession id taken.toList = taken.toList := by
            cases taken with
            | none => rfl
            | some frame => exact ofSession_singleton (htaken frame rfl).1 hacts.type_ne_reset
          rw [← htoken, ← ofSession_append]
          refine ofSession_sublist id ?_
          unfold ahead
          rw [hinbound, ← List.append_assoc, ← List.append_assoc]
          exact hheld.append (List.Sublist.refl _)

/-- What a move does to the account. -/
theorem moves_account (h : Moves s party frames party') (id : UInt64) :
    accountOf id party'.past =
      (accountOf id party.past).append ((party.standing id).account (party'.standing id)) := by
  cases h with
  | lose =>
      unfold standing
      rw [Standing.account_self, Account.append_empty]
  | moment hwf hcursor hatomic =>
      rw [accountOf_concat, Endpoint.account_step hwf hatomic]
      rfl

/-- A move says what the standing allows. -/
theorem moves_said (h : Moves s party frames party') (id : UInt64) :
    ofSession id frames = [] ∨
      ∃ frame, ofSession id frames = [frame] ∧ Says s.firstSequence frame (party.standing id) := by
  cases h with
  | lose => exact Or.inl rfl
  | @moment call rest hwf =>
      rcases Endpoint.sent_cases hwf call with hnone | ⟨_, _, frame, _, hone, _⟩
      · rw [hnone]
        exact Or.inl rfl
      · rw [hone]
        by_cases hfits : frame.sessionIdentifier = id ∧ frame.type ≠ .reset
        · obtain ⟨rfl, hreset⟩ := hfits
          refine Or.inr ⟨frame, ofSession_singleton rfl hreset, ?_⟩
          exact Endpoint.sent_said hwf (by rw [hone]; exact List.mem_singleton_self _) hreset
        · refine Or.inl ?_
          unfold ofSession
          rw [List.filter_cons_of_neg, List.filter_nil]
          simpa using hfits

/-! ## What a change of standing shows -/

/-- A host that has a CONFIRM to send took a RESPONSE. -/
theorem moves_responded (h : Moves s party frames party')
    (hbefore : party.standing id = .initiating) {received : UInt16}
    (hafter : party'.standing id = .confirming received) :
    ∃ moment ∈ party'.past, RespondedIn id moment := by
  cases h with
  | lose =>
      unfold standing at hbefore hafter
      rw [hbefore] at hafter
      cases hafter
  | @moment call rest hwf hcursor hatomic =>
      refine ⟨_, List.mem_append_right _ (List.mem_singleton_self _), ?_⟩
      unfold standing at hbefore hafter
      dsimp only at hafter
      cases Endpoint.turn_step hwf hcursor hatomic id with
      | begins _ _ hinitiating =>
          rw [hafter] at hinitiating
          cases hinitiating
      | @acts taken hheld hacts htaken =>
          rw [hbefore, hafter] at hacts
          cases hacts with
          | @responds frame htype =>
              obtain ⟨hid, hframe⟩ := htaken frame rfl
              obtain ⟨-, hplace⟩ := Activity.standing_eq (by rw [hbefore]; simp)
              obtain ⟨hid', hplace'⟩ := Activity.standing_eq (by rw [hafter]; simp)
              rw [hbefore] at hplace
              rw [hafter] at hplace'
              unfold RespondedIn
              dsimp only
              rw [step_refines hwf]
              refine ⟨?_, ?_, congrArg (Option.getD · sessionSeedInvalid) hid', frame, hframe,
                htype, hid⟩
              · show party.endpoint.activity.phase ∈ _
                cases hactivity : party.endpoint.activity with
                | initiatePending | waitingForResponse => simp [Activity.phase]
                | _ =>
                    rw [hactivity] at hplace
                    cases hplace
              · show (party.endpoint.step s call).2.activity.phase ∈ _
                cases hactivity : (party.endpoint.step s call).2.activity with
                | confirmPending | waitingForConfirmAck => simp [Activity.phase]
                | _ =>
                    rw [hactivity] at hplace'
                    cases hplace'

/-- A rig that is established took a CONFIRM. -/
theorem moves_opened (h : Moves s party frames party') {received : UInt16}
    (hbefore : party.standing id = .bound received) {dealings : Dealings}
    (hafter : party'.standing id = .exchanging dealings) :
    ∃ moment ∈ party'.past, OpenedIn id moment := by
  cases h with
  | lose =>
      unfold standing at hbefore hafter
      rw [hbefore] at hafter
      cases hafter
  | @moment call rest hwf hcursor hatomic =>
      refine ⟨_, List.mem_append_right _ (List.mem_singleton_self _), ?_⟩
      unfold standing at hbefore hafter
      dsimp only at hafter
      cases Endpoint.turn_step hwf hcursor hatomic id with
      | begins _ _ hinitiating =>
          rw [hafter] at hinitiating
          cases hinitiating
      | @acts taken hheld hacts htaken =>
          rw [hbefore, hafter] at hacts
          cases hacts with
          | @opens _ frame htype =>
              obtain ⟨hid, hframe⟩ := htaken frame rfl
              obtain ⟨-, hplace⟩ := Activity.standing_eq (by rw [hbefore]; simp)
              obtain ⟨x, hactivity, -⟩ := Activity.of_exchanging hafter
              rw [hbefore] at hplace
              have hnot : party.endpoint.activity.sessionState ≠ .established := by
                cases ha : party.endpoint.activity with
                | established =>
                    rw [ha] at hplace
                    cases hplace
                | _ => simp [Activity.sessionState]
              unfold OpenedIn establishes
              dsimp only
              rw [step_refines hwf]
              refine ⟨?_, ?_, frame, hframe, htype, hid⟩
              · show (party.endpoint.activity.sessionState != .established &&
                  (party.endpoint.step s call).2.activity.sessionState == .established) = true
                rw [hactivity]
                simpa [Activity.sessionState] using hnot
              · show (party.endpoint.step s call).2.activity.identifier.getD _ = id
                rw [hactivity]
                rfl

end Party

end

/-! ## Both sides and one session -/

def Build.ahead (build : Build) (party : Party) : List Frame :=
  @Party.ahead build.target build.setup party

theorem Build.ahead_inbound (build : Build) (party : Party) (frames : List Frame) :
    build.ahead { party with inbound := party.inbound ++ frames } = build.ahead party ++ frames :=
  (List.append_assoc _ _ _).symm

section
variable {hostBuild rigBuild : Build}

variable (hostBuild rigBuild) in
/-- What two sides agree on in the session `id`, and the moments that it rests on. -/
structure Link (id : UInt64) (host rig : Party) (begun opened : Prop) : Prop where
  named : begun → id ∈ host.past.flatMap (@begunIdentity hostBuild.target)
  confirmed : opened → ∃ moment ∈ rig.past, @OpenedIn rigBuild.target id moment
  answered : (host.standing id).Answered →
    ∃ moment ∈ host.past, @RespondedIn hostBuild.target id moment
  joint : Joint hostBuild.first rigBuild.first (host.standing id) (rig.standing id) begun opened
    (@accountOf hostBuild.target id host.past) (@accountOf rigBuild.target id rig.past)
    (ofSession id (rigBuild.ahead rig)) (ofSession id (hostBuild.ahead host))

variable (hostBuild rigBuild) in
/-- A host that names no session twice is linked with its rig in each. -/
def Linked (id : UInt64) (host rig : Party) : Prop :=
  (host.past.flatMap (@begunIdentity hostBuild.target)).Nodup →
    ∃ begun opened : Prop, Link hostBuild rigBuild id host rig begun opened

namespace Link

variable {id : UInt64} {host rig : Party} {begun opened : Prop} {frames : List Frame}

theorem host_sends (h : Link hostBuild rigBuild id host rig begun opened) {host' : Party}
    (hmoves : hostBuild.Moves host frames host') :
    Link hostBuild rigBuild id host { rig with inbound := rig.inbound ++ frames } begun opened := by
  refine ⟨h.named, h.confirmed, h.answered, ?_⟩
  rw [Build.ahead_inbound, ofSession_append]
  rcases @Party.moves_said hostBuild.target _ _ _ _ hmoves id with hnone | ⟨frame, hone, hsaid⟩
  · rw [hnone, List.append_nil]
    exact h.joint
  · rw [hone]
    exact h.joint.host_sends hsaid

theorem rig_sends (h : Link hostBuild rigBuild id host rig begun opened) {rig' : Party}
    (hmoves : rigBuild.Moves rig frames rig') :
    Link hostBuild rigBuild id { host with inbound := host.inbound ++ frames } rig begun
      opened := by
  refine ⟨h.named, h.confirmed, h.answered, ?_⟩
  rw [Build.ahead_inbound, ofSession_append]
  rcases @Party.moves_said rigBuild.target _ _ _ _ hmoves id with hnone | ⟨frame, hone, hsaid⟩
  · rw [hnone, List.append_nil]
    exact h.joint
  · rw [hone]
    exact h.joint.rig_sends hsaid

/-- What the host becomes keeps the link, as long as it names no session twice. -/
theorem host_becomes (hrole : hostBuild.role = .host)
    (h : Link hostBuild rigBuild id host rig begun opened) {host' : Party}
    (hmoves : hostBuild.Moves host frames host')
    (hnodup : (host'.past.flatMap (@begunIdentity hostBuild.target)).Nodup) :
    ∃ begun' : Prop, Link hostBuild rigBuild id host' rig begun' opened := by
  have haccount := @Party.moves_account hostBuild.target _ _ _ _ hmoves id
  have hpast := @Party.moves_past hostBuild.target _ _ _ _ hmoves
  have hnamed := @Party.moves_named hostBuild.target _ _ _ _ hmoves
  cases @Party.moves_share hostBuild.target _ _ _ _ hmoves id with
  | begins _ hgrown hbegun hinitiating hahead =>
      rw [hgrown, List.flatMap_append, List.flatMap_singleton] at hnodup
      have hfresh : ¬ begun := fun hbefore =>
        List.disjoint_of_nodup_append hnodup (h.named hbefore) hbegun
      rw [Standing.account_none _ (by rw [hinitiating]; simp), Account.append_empty] at haccount
      refine ⟨True, ?_, h.confirmed, ?_, ?_⟩
      · rw [hgrown, List.flatMap_append, List.flatMap_singleton]
        exact fun _ => List.mem_append_right _ hbegun
      · rw [hinitiating]
        exact False.elim
      · rw [haccount, hinitiating]
        exact (h.joint.host_begins hfresh).lose (List.Sublist.refl _) hahead
  | @acts taken hahead hacts =>
      have hacts' : Acts .host hostBuild.first (host.standing id) taken (host'.standing id) :=
        hrole ▸ hacts
      refine ⟨begun, ?_, h.confirmed, ?_, ?_⟩
      · exact fun hbefore => hnamed.subset (h.named hbefore)
      · intro hanswered
        rcases hacts'.answered hanswered with hbefore | ⟨received, hbound⟩ | ⟨hbefore, _, hafter⟩
        · obtain ⟨moment, hmoment, hresponded⟩ := h.answered hbefore
          exact ⟨moment, hpast.subset hmoment, hresponded⟩
        · exact absurd hbound (h.joint.host_role received)
        · exact @Party.moves_responded hostBuild.target _ _ _ _ _ hmoves hbefore _ hafter
      · rw [haccount]
        exact (h.joint.lose (List.Sublist.refl _) hahead).host_acts hacts'

/-- What the rig becomes keeps the link. -/
theorem rig_becomes (hrole : rigBuild.role = .rig)
    (h : Link hostBuild rigBuild id host rig begun opened) {rig' : Party}
    (hmoves : rigBuild.Moves rig frames rig') :
    ∃ opened' : Prop, Link hostBuild rigBuild id host rig' begun opened' := by
  have haccount := @Party.moves_account rigBuild.target _ _ _ _ hmoves id
  have hpast := @Party.moves_past rigBuild.target _ _ _ _ hmoves
  cases @Party.moves_share rigBuild.target _ _ _ _ hmoves id with
  | begins hhost => exact absurd (hhost.symm.trans hrole) (by decide)
  | @acts taken hahead hacts =>
      have hacts' : Acts .rig rigBuild.first (rig.standing id) taken (rig'.standing id) :=
        hrole ▸ hacts
      obtain ⟨opened', hopens, hjoint⟩ :=
        (h.joint.lose hahead (List.Sublist.refl _)).rig_acts hacts'
      rw [← haccount] at hjoint
      refine ⟨opened', h.named, fun hafter => ?_, h.answered, hjoint⟩
      rcases hopens hafter with hbefore | hnew
      · obtain ⟨moment, hmoment, hopened⟩ := h.confirmed hbefore
        exact ⟨moment, hpast.subset hmoment, hopened⟩
      · generalize hbound : rig.standing id = before at hnew
        generalize hexchanging : rig'.standing id = after at hnew
        cases hnew with
        | mk => exact @Party.moves_opened rigBuild.target _ _ _ _ _ hmoves _ hbound _ hexchanging

end Link

theorem linked_kept (hhost : hostBuild.role = .host) (hrig : rigBuild.role = .rig) (id : UInt64) :
    Kept hostBuild rigBuild (Linked hostBuild rigBuild id) where
  host := by
    intro host rig frames host' hmoves hlinked hnodup
    have hnamed := @Party.moves_named hostBuild.target _ _ _ _ hmoves
    obtain ⟨begun, opened, hlink⟩ := hlinked (hnodup.sublist hnamed.sublist)
    obtain ⟨begun', hlink'⟩ := (hlink.host_sends hmoves).host_becomes hhost hmoves hnodup
    exact ⟨begun', opened, hlink'⟩
  rig := by
    intro host rig frames rig' hmoves hlinked hnodup
    obtain ⟨begun, opened, hlink⟩ := hlinked hnodup
    obtain ⟨opened', hlink'⟩ := (hlink.rig_sends hmoves).rig_becomes hrig hmoves
    exact ⟨begun, opened', hlink'⟩

/-! ## Nothing is made up -/

/-- What the receiver has ahead, and what it decodes, the sender has sent. -/
structure Sourced (sends receives : Build) (sender receiver : Party) : Prop where
  ahead : ∀ frame ∈ receives.ahead receiver, frame ∈ sender.past.flatMap (@sent sends.target)
  decoded : ∀ moment ∈ receiver.past, ∀ frame,
    @Receive.validFrame receives.target moment.1 moment.2 = some frame →
      frame ∈ sender.past.flatMap (@sent sends.target)

namespace Sourced

variable {sends receives : Build} {sender receiver : Party} {frames : List Frame}

theorem sender_moves (h : Sourced sends receives sender receiver) {sender' : Party}
    (hmoves : sends.Moves sender frames sender') :
    Sourced sends receives sender' { receiver with inbound := receiver.inbound ++ frames } := by
  obtain ⟨rest, hrest⟩ := @Party.moves_past sends.target _ _ _ _ hmoves
  have hkept : ∀ frame ∈ sender.past.flatMap (@sent sends.target),
      frame ∈ sender'.past.flatMap (@sent sends.target) := by
    intro frame hframe
    rw [← hrest, List.flatMap_append]
    exact List.mem_append_left _ hframe
  constructor
  · rw [Build.ahead_inbound]
    exact List.forall_mem_append.mpr ⟨fun frame hframe => hkept frame (h.ahead frame hframe),
      @Party.moves_sent sends.target _ _ _ _ hmoves⟩
  · exact fun moment hmoment frame hframe => hkept frame (h.decoded moment hmoment frame hframe)

theorem receiver_moves (h : Sourced sends receives sender receiver) {receiver' : Party}
    (hmoves : receives.Moves receiver frames receiver') (inbound : List Frame) :
    Sourced sends receives { sender with inbound := inbound } receiver' where
  ahead := fun frame hframe =>
    h.ahead frame ((@Party.moves_ahead receives.target _ _ _ _ hmoves).subset hframe)
  decoded := by
    intro moment hmoment frame hframe
    rcases @Party.moves_decoded receives.target _ _ _ _ hmoves _ _ hmoment hframe with
      hold | hahead
    · exact h.decoded moment hold frame hframe
    · exact h.ahead frame hahead

end Sourced

theorem sourced_kept : Kept hostBuild rigBuild fun host rig =>
    Sourced hostBuild rigBuild host rig ∧ Sourced rigBuild hostBuild rig host where
  host := fun _ _ _ _ hmoves h => ⟨h.1.sender_moves hmoves, h.2.receiver_moves hmoves _⟩
  rig := fun _ _ _ _ hmoves h => ⟨h.1.receiver_moves hmoves _, h.2.sender_moves hmoves⟩

variable (hostBuild rigBuild) in
/-- All that is known of both sides. -/
structure Known (host rig : Party) : Prop where
  linked : ∀ id, Linked hostBuild rigBuild id host rig
  toRig : Sourced hostBuild rigBuild host rig
  toHost : Sourced rigBuild hostBuild rig host

theorem known_kept (hhost : hostBuild.role = .host) (hrig : rigBuild.role = .rig) :
    Kept hostBuild rigBuild (Known hostBuild rigBuild) where
  host := by
    intro host rig frames host' hmoves h
    obtain ⟨hrig', hhost'⟩ := sourced_kept.host _ _ _ _ hmoves ⟨h.toRig, h.toHost⟩
    exact ⟨fun id => (linked_kept hhost hrig id).host _ _ _ _ hmoves (h.linked id), hrig', hhost'⟩
  rig := by
    intro host rig frames rig' hmoves h
    obtain ⟨hrig', hhost'⟩ := sourced_kept.rig _ _ _ _ hmoves ⟨h.toRig, h.toHost⟩
    exact ⟨fun id => (linked_kept hhost hrig id).rig _ _ _ _ hmoves (h.linked id), hrig', hhost'⟩

end

/-! ## Runs of the network -/

/-- A root that `Init` has written. -/
def Started [Target] (role : Role) (root : Root) : Prop :=
  ∃ context config storage placement next,
    Profile.init context role config storage placement = (.ok, next) ∧
      Profile.rootFromContext next = some root

/-- A side at the start. -/
def Party.fresh [Target] (s : Setup) : Party where
  past := []
  endpoint := Endpoint.initial s
  inbound := []

theorem Started.setup [Target] {role : Role} {root : Root} (h : Started role root) :
    ∃ s : Setup, s.role = role ∧ root = (Endpoint.initial s).toRoot s ∧
      Party.Valid s (.fresh s) := by
  obtain ⟨context, config, storage, placement, next, hinit, hroot⟩ := h
  obtain ⟨s, hrole, -, hinitial, hwf⟩ := init_refines hinit
  rw [hinitial] at hroot
  cases hroot
  exact ⟨s, hrole, rfl, hwf, Endpoint.successive_initial s⟩

theorem Started.named_nodup [Target] {root : Root} (h : Started .host root) {calls : List Call}
    (hfew : ((moments step root calls).flatMap begunIdentity).length ≤ 2 ^ 64 - 2) :
    ((moments step root calls).flatMap begunIdentity).Nodup := by
  obtain ⟨s, hrole, rfl, hvalid⟩ := h.setup
  exact begun_nodup hvalid.wf hvalid.cursor hrole List.infix_rfl hfew

theorem Party.standing_fresh [Target] (s : Setup) (id : UInt64) :
    (Party.fresh s).standing id = .outside :=
  Activity.standing_other (by simp [fresh, Endpoint.initial, Activity.identifier])

/-- Nothing is known at the start. -/
theorem known_fresh (hostBuild rigBuild : Build) :
    Known hostBuild rigBuild (@Party.fresh hostBuild.target hostBuild.setup)
      (@Party.fresh rigBuild.target rigBuild.setup) where
  linked := by
    intro id _
    refine ⟨False, False, False.elim, False.elim, ?_, ?_⟩
    · rw [@Party.standing_fresh hostBuild.target]
      exact False.elim
    · rw [@Party.standing_fresh hostBuild.target, @Party.standing_fresh rigBuild.target]
      exact Joint.initial
  toRig := ⟨List.forall_mem_nil _, List.forall_mem_nil _⟩
  toHost := ⟨List.forall_mem_nil _, List.forall_mem_nil _⟩

section
variable {hostTarget rigTarget : Target} {hostRoot rigRoot : Root}

/-- All that is known of both sides is known after every run whose frames the channels
    carry. -/
theorem known_run (hhost : @Started hostTarget .host hostRoot)
    (hrig : @Started rigTarget .rig rigRoot) {actions : List Action}
    (hcarried : (Network.start hostRoot rigRoot).Carried hostTarget rigTarget actions) :
    ∃ (hostSetup : @Setup hostTarget) (rigSetup : @Setup rigTarget) (host rig : Party),
      Known ⟨hostTarget, hostSetup⟩ ⟨rigTarget, rigSetup⟩ host rig ∧
      host.past = moments (@step hostTarget) hostRoot (callsOf .host actions) ∧
      rig.past = moments (@step rigTarget) rigRoot (callsOf .rig actions) ∧
      (Library.run (Network.step hostTarget rigTarget) (.start hostRoot rigRoot) actions).2 =
        .ofParties ⟨hostTarget, hostSetup⟩ ⟨rigTarget, rigSetup⟩ host rig := by
  obtain ⟨hostSetup, hostRole, rfl, hostValid⟩ := @Started.setup hostTarget _ _ hhost
  obtain ⟨rigSetup, rigRole, rfl, rigValid⟩ := @Started.setup rigTarget _ _ hrig
  obtain ⟨host, rig, hknown, -, -, hostPast, rigPast, hlast⟩ :=
    (@known_kept ⟨hostTarget, hostSetup⟩ ⟨rigTarget, rigSetup⟩ hostRole rigRole).run hostValid
      rigValid (known_fresh ⟨hostTarget, hostSetup⟩ ⟨rigTarget, rigSetup⟩) hcarried
  exact ⟨hostSetup, rigSetup, host, rig, hknown, hostPast, rigPast, hlast⟩

/-- What one side has submitted in a session, the other has placed in order, once each and
    unchanged, up to the one that is not confirmed. -/
structure Delivered (sender receiver : Account) : Prop where
  placed : receiver.placed <+: sender.submitted
  confirmed : sender.confirmed ≤ receiver.placed.length
  one_open : sender.submitted.length ≤ sender.confirmed + 1

theorem Flows.delivered {own peer : UInt16} {mine theirs : Account} {outbound inbound : List Frame}
    (h : Flows own peer mine theirs outbound inbound) :
    Delivered mine theirs ∧ Delivered theirs mine :=
  ⟨⟨h.sends.accepted, h.sends.confirmed, h.sends.one_open⟩,
    ⟨h.receives.accepted, h.receives.confirmed, h.receives.one_open⟩⟩

/-- Delivery is in order and exactly once in each direction of each session, whatever both
    sides are called with and whatever the channels lose. -/
theorem delivery_exactly_once (hhost : @Started hostTarget .host hostRoot)
    (hrig : @Started rigTarget .rig rigRoot) {actions : List Action}
    (hcarried : (Network.start hostRoot rigRoot).Carried hostTarget rigTarget actions)
    (hfew : ((moments (@step hostTarget) hostRoot (callsOf .host actions)).flatMap
      (@begunIdentity hostTarget)).length ≤ 2 ^ 64 - 2) (id : UInt64) :
    Delivered
        (@accountOf hostTarget id (moments (@step hostTarget) hostRoot (callsOf .host actions)))
        (@accountOf rigTarget id (moments (@step rigTarget) rigRoot (callsOf .rig actions))) ∧
      Delivered
        (@accountOf rigTarget id (moments (@step rigTarget) rigRoot (callsOf .rig actions)))
        (@accountOf hostTarget id
          (moments (@step hostTarget) hostRoot (callsOf .host actions))) := by
  obtain ⟨hostSetup, rigSetup, host, rig, hknown, hostPast, rigPast, -⟩ :=
    known_run hhost hrig hcarried
  have hnodup := @Started.named_nodup hostTarget _ hhost _ hfew
  rw [← hostPast] at hnodup
  obtain ⟨begun, opened, hlink⟩ := hknown.linked id hnodup
  rw [← hostPast, ← rigPast]
  exact hlink.joint.flows.delivered

/-- The receiver expects the next frame of the sender, or it has taken that frame, and the
    sender still retains it. -/
def InStep (receiver sender : Root) : Prop :=
  receiver.session.expectedReceiveSequence = sender.session.nextTransmitSequence ∨
    receiver.session.expectedReceiveSequence = sender.session.nextTransmitSequence + 1 ∧
      sender.session.reliableState ≠ .idle ∧
      sender.session.retainedTransmitSequence = sender.session.nextTransmitSequence

theorem established_exchanging [Target] {s : Setup} {e : Endpoint}
    (h : (e.toRoot s).base.sessionState = .established) :
    ∃ x : Exchange, e.activity = .established (e.toRoot s).session.sessionIdentifier x := by
  have hstate : e.activity.sessionState = .established := h
  show ∃ x : Exchange, e.activity = .established (e.activity.identifier.getD _) x
  cases ha : e.activity with
  | established id x => exact ⟨x, rfl⟩
  | _ =>
      rw [ha] at hstate
      cases hstate

/-- What an established endpoint expects and retains. -/
theorem sequences_established [Target] {s : Setup} {e : Endpoint} {id : UInt64} {x : Exchange}
    (h : e.activity = .established id x) :
    (e.toRoot s).session.expectedReceiveSequence = x.dealings.lastReceived + 1 ∧
      (e.toRoot s).session.nextTransmitSequence = x.dealings.nextTransmit ∧
      (x.dealings.outgoing ≠ none → (e.toRoot s).session.reliableState ≠ .idle ∧
        (e.toRoot s).session.retainedTransmitSequence = x.dealings.nextTransmit) := by
  refine ⟨?_, ?_, ?_⟩
  · show (s.accepted e.activity).elim _ (fun accepted => accepted.sequence + 1) = _
    rw [h]
    dsimp only [Setup.accepted]
    split <;> rfl
  · show s.nextTransmit e.activity = _
    rw [h]
    rfl
  · intro hsome
    show (s.item e.activity).elim _ (fun item => item.stage.state) ≠ _ ∧
      (s.item e.activity).elim _ (fun item => item.frame.sequence) = _
    rw [h]
    dsimp only [Exchange.dealings] at hsome
    dsimp only [Setup.item]
    cases hout : x.outgoing with
    | none =>
        rw [hout] at hsome
        exact absurd rfl hsome
    | some outgoing =>
        refine ⟨?_, rfl⟩
        show outgoing.2.state ≠ .idle
        cases outgoing.2 <;> simp [Stage.state]

theorem Flows.inStep {own peer : UInt16} {mine theirs : Account} {outbound inbound : List Frame}
    (h : Flows own peer mine theirs outbound inbound) {senderSetup : @Setup hostTarget}
    {receiverSetup : @Setup rigTarget} {sender receiver : Endpoint} {id : UInt64}
    {x y : Exchange} (hsender : sender.activity = .established id x)
    (hreceiver : receiver.activity = .established id y) (hx : Dealt own peer x.dealings mine)
    (hy : Dealt peer own y.dealings theirs) :
    InStep (@Endpoint.toRoot rigTarget receiverSetup receiver)
      (@Endpoint.toRoot hostTarget senderSetup sender) := by
  obtain ⟨hexpected, -, -⟩ := @sequences_established rigTarget receiverSetup _ _ _ hreceiver
  obtain ⟨-, hnext, hretained⟩ := @sequences_established hostTarget senderSetup _ _ _ hsender
  unfold InStep
  rw [hexpected, hnext]
  rcases h.in_step hx hy with hequal | ⟨hone, hopen⟩
  · exact Or.inl hequal
  · exact Or.inr ⟨hone, hretained hopen⟩

/-- A host that is established has taken a RESPONSE that the rig sent, and the rig has been
    established by a CONFIRM that the host sent. Where both are established in one session
    they are in step. -/
theorem handshake_agreement (hhost : @Started hostTarget .host hostRoot)
    (hrig : @Started rigTarget .rig rigRoot) {actions : List Action}
    (hcarried : (Network.start hostRoot rigRoot).Carried hostTarget rigTarget actions)
    (hfew : ((moments (@step hostTarget) hostRoot (callsOf .host actions)).flatMap
      (@begunIdentity hostTarget)).length ≤ 2 ^ 64 - 2)
    {network : Network}
    (hlast : (Library.run (Network.step hostTarget rigTarget) (.start hostRoot rigRoot)
      actions).2 = network)
    (hestablished : network.host.base.sessionState = .established) :
    (∃ moment ∈ moments (@step hostTarget) hostRoot (callsOf .host actions),
      @RespondedIn hostTarget network.host.session.sessionIdentifier moment ∧
        ∀ frame, @Receive.validFrame hostTarget moment.1 moment.2 = some frame →
          frame ∈ (moments (@step rigTarget) rigRoot (callsOf .rig actions)).flatMap
            (@sent rigTarget)) ∧
      (∃ moment ∈ moments (@step rigTarget) rigRoot (callsOf .rig actions),
        @OpenedIn rigTarget network.host.session.sessionIdentifier moment ∧
          ∀ frame, @Receive.validFrame rigTarget moment.1 moment.2 = some frame →
            frame ∈ (moments (@step hostTarget) hostRoot (callsOf .host actions)).flatMap
              (@sent hostTarget)) ∧
      (network.rig.base.sessionState = .established →
        network.rig.session.sessionIdentifier = network.host.session.sessionIdentifier →
        InStep network.host network.rig ∧ InStep network.rig network.host) := by
  obtain ⟨hostSetup, rigSetup, host, rig, hknown, hostPast, rigPast, hend⟩ :=
    known_run hhost hrig hcarried
  obtain rfl := hlast.symm.trans hend
  have hnodup := @Started.named_nodup hostTarget _ hhost _ hfew
  rw [← hostPast] at hnodup ⊢
  rw [← rigPast]
  obtain ⟨x, hx⟩ := @established_exchanging hostTarget hostSetup _ hestablished
  generalize hid : (Network.ofParties ⟨hostTarget, hostSetup⟩ ⟨rigTarget, rigSetup⟩ host
    rig).host.session.sessionIdentifier = id
  have hhostActivity : host.endpoint.activity = .established id x := by
    rw [← hid]
    exact hx
  have hstanding : host.standing id = .exchanging x.dealings := by
    unfold Party.standing
    rw [hhostActivity]
    exact Activity.standing_of rfl
  obtain ⟨begun, opened, hlink⟩ := hknown.linked id hnodup
  have hopened : opened := by
    by_contra hnot
    exact (hlink.joint.unopened hnot).1 _ hstanding
  obtain ⟨responded, hresponded, hresponse⟩ := hlink.answered (by rw [hstanding]; trivial)
  obtain ⟨confirmed, hconfirmed, hopen⟩ := hlink.confirmed hopened
  refine ⟨⟨responded, hresponded, hresponse, hknown.toHost.decoded _ hresponded⟩,
    ⟨confirmed, hconfirmed, hopen, hknown.toRig.decoded _ hconfirmed⟩, ?_⟩
  intro hrigEstablished hsame
  obtain ⟨y, hy⟩ := @established_exchanging rigTarget rigSetup _ hrigEstablished
  have hrigActivity : rig.endpoint.activity = .established id y := by
    rw [← hsame]
    exact hy
  have hrigStanding : rig.standing id = .exchanging y.dealings := by
    unfold Party.standing
    rw [hrigActivity]
    exact Activity.standing_of rfl
  have hhostDealt := hlink.joint.hostDealt _ hstanding
  have hrigDealt := hlink.joint.rigDealt _ hrigStanding
  exact ⟨hlink.joint.flows.symm.inStep hrigActivity hhostActivity hrigDealt hhostDealt,
    hlink.joint.flows.inStep hhostActivity hrigActivity hhostDealt hrigDealt⟩

end

/-! ## A handshake and one message -/

/-- The sample host before its first call. -/
def startedHost : Root :=
  (@Profile.rootFromContext .lp64 (@Profile.init .lp64 .zero .host sampleConfig sampleStorage
    samplePlacement).2).getD connectedHost

/-- A rig with the policy of the sample host, before its first call. -/
def startedRig : Root :=
  (@Profile.rootFromContext .lp64 (@Profile.init .lp64 .zero .rig
    { sampleConfig with sessionSeed := 0 } sampleStorage samplePlacement).2).getD connectedRig

theorem started_startedHost : @Started .lp64 .host startedHost :=
  ⟨.zero, sampleConfig, sampleStorage, samplePlacement, _, rfl, rfl⟩

theorem started_startedRig : @Started .lp64 .rig startedRig :=
  ⟨.zero, { sampleConfig with sessionSeed := 0 }, sampleStorage, samplePlacement, _, rfl, rfl⟩

/-- The handshake; the message is lost once, and confirmed when it is sent again. -/
def oneExchange : List Action :=
  [⟨.host, .notifyLinkState .connected 0, 0⟩, ⟨.host, .readEvent, 0⟩,
    ⟨.rig, .notifyLinkState .connected 0, 0⟩, ⟨.host, .process 0 .normal, 0⟩,
    ⟨.rig, .process 0 .normal, 0⟩, ⟨.host, .peekOutput (some 64), 0⟩, ⟨.host, .commitOutput 0, 0⟩,
    ⟨.rig, .receiveBytes (encodedFrame ⟨.initiate, 7, 0, 0, []⟩), 1⟩,
    ⟨.rig, .process 0 .normal, 0⟩, ⟨.rig, .peekOutput (some 64), 0⟩, ⟨.rig, .commitOutput 0, 0⟩,
    ⟨.host, .receiveBytes (encodedFrame ⟨.response, 7, 0, 0, []⟩), 1⟩,
    ⟨.host, .process 0 .normal, 0⟩, ⟨.host, .peekOutput (some 64), 0⟩, ⟨.host, .commitOutput 0, 0⟩,
    ⟨.rig, .receiveBytes (encodedFrame ⟨.confirm, 7, 1, 0, []⟩), 1⟩,
    ⟨.rig, .peekOutput (some 64), 0⟩, ⟨.rig, .commitOutput 0, 0⟩,
    ⟨.host, .receiveBytes (encodedFrame ⟨.ack, 7, 0, 1, []⟩), 1⟩, ⟨.host, .readEvent, 0⟩,
    ⟨.host, .submitApplicationData [5], 0⟩, ⟨.host, .peekOutput (some 64), 0⟩,
    ⟨.host, .commitOutput 0, 0⟩, ⟨.host, .process 10 .normal, 0⟩, ⟨.host, .peekOutput (some 64), 0⟩,
    ⟨.rig, .receiveBytes (encodedFrame ⟨.applicationMessage, 7, 2, 0, [5]⟩), 2⟩,
    ⟨.rig, .peekOutput (some 64), 0⟩, ⟨.rig, .commitOutput 0, 0⟩,
    ⟨.host, .commitOutput 10, 0⟩, ⟨.host, .receiveBytes (encodedFrame ⟨.ack, 7, 0, 2, []⟩), 1⟩]

theorem carried_oneExchange :
    (Network.start startedHost startedRig).Carried .lp64 .lp64 oneExchange := by
  unfold Network.Carried
  decide +kernel

/-- The message is placed and confirmed. -/
theorem delivery_exactly_once_oneExchange :
    (@accountOf .lp64 7 (moments (@step .lp64) startedHost (callsOf .host oneExchange))) =
        ⟨[[5]], 1, []⟩ ∧
      (@accountOf .lp64 7 (moments (@step .lp64) startedRig (callsOf .rig oneExchange))) =
        ⟨[], 0, [[5]]⟩ ∧
      Delivered
        (@accountOf .lp64 7 (moments (@step .lp64) startedHost (callsOf .host oneExchange)))
        (@accountOf .lp64 7 (moments (@step .lp64) startedRig (callsOf .rig oneExchange))) :=
  ⟨by decide +kernel, by decide +kernel,
    (delivery_exactly_once started_startedHost started_startedRig carried_oneExchange
      (by decide +kernel) 7).1⟩

/-- Both are established in session 7, by a RESPONSE and a CONFIRM of it, and each expects
    what the other sends next. -/
theorem handshake_agreement_oneExchange :
    (∃ moment ∈ moments (@step .lp64) startedHost (callsOf .host oneExchange),
        @RespondedIn .lp64 7 moment) ∧
      (∃ moment ∈ moments (@step .lp64) startedRig (callsOf .rig oneExchange),
        @OpenedIn .lp64 7 moment) ∧
      ∃ network : Network,
        (Library.run (Network.step .lp64 .lp64) (.start startedHost startedRig) oneExchange).2 =
          network ∧
        network.host.base.sessionState = .established ∧
        network.rig.base.sessionState = .established ∧
        InStep network.host network.rig ∧ InStep network.rig network.host := by
  obtain ⟨network, hlast⟩ : ∃ network : Network,
      (Library.run (Network.step .lp64 .lp64) (.start startedHost startedRig) oneExchange).2 =
        network := ⟨_, rfl⟩
  have hestablished : network.host.base.sessionState = .established ∧
      network.rig.base.sessionState = .established ∧
      network.host.session.sessionIdentifier = 7 ∧
      network.rig.session.sessionIdentifier = 7 := by
    rw [← hlast]
    decide +kernel
  obtain ⟨hhost, hrig, hid, hid'⟩ := hestablished
  obtain ⟨⟨responded, hresponded, hresponse, -⟩, ⟨opened, hopened, hopen, -⟩, hinStep⟩ :=
    handshake_agreement started_startedHost started_startedRig carried_oneExchange
      (by decide +kernel) hlast hhost
  rw [hid] at hresponse hopen
  exact ⟨⟨responded, hresponded, hresponse⟩, ⟨opened, hopened, hopen⟩, network, hlast, hhost,
    hrig, hinStep hrig (hid'.trans hid.symm)⟩

end HilRigProtocol.Transport
