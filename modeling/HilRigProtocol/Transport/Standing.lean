/-
  An endpoint as a party of a session.

  For each identity an endpoint has a `Standing` in that session, and each atomic call is a
  step of a party: what it takes is the frame in the body that it resolves, what it shows
  is what the standing allows, and what the caller sees of payloads is its account.
-/
import HilRigProtocol.Transport.Agreement
import HilRigProtocol.Transport.ReceiveSafety
import HilRigProtocol.Transport.SessionIdentity

namespace HilRigProtocol.Transport

/-! ## The standing of an activity -/

/-- What an established session holds for its peer and from it. -/
def Exchange.dealings (x : Exchange) : Dealings where
  lastReceived := x.lastReceived
  nextTransmit := x.nextTransmit
  outgoing := x.outgoing.map Prod.fst
  unread := x.unread

namespace Activity

/-- The standing of an activity in its own session. -/
def place : Activity → Standing
  | initiatePending _ | waitingForResponse _ _ => .initiating
  | responsePending _ received | waitingForConfirm _ received _ => .bound received
  | confirmPending _ received | waitingForConfirmAck _ received _ => .confirming received
  | established _ x => .exchanging x.dealings
  | _ => .outside

/-- The standing of an activity in the session `id`. -/
def standing (id : UInt64) (activity : Activity) : Standing :=
  if activity.identifier = some id then activity.place else .outside

variable {id : UInt64} {a : Activity}

theorem standing_of (h : a.identifier = some id) : a.standing id = a.place := if_pos h

theorem standing_other (h : a.identifier ≠ some id) : a.standing id = .outside := if_neg h

theorem standing_mapStage (f : Stage → Stage) (a : Activity) :
    (a.mapStage f).standing id = a.standing id := by
  cases a with
  | established other x =>
      unfold standing place mapStage Exchange.dealings
      dsimp only
      rw [Option.map_map]
      rfl
  | _ => rfl

theorem standing_peekControl (a : Activity) : a.peekControl.standing id = a.standing id := by
  cases a <;> rfl

theorem standing_commitControl (a : Activity) : a.commitControl.standing id = a.standing id := by
  cases a <;> rfl

end Activity

namespace Endpoint

section
variable [Target]

variable (s : Setup) in
/-- What an atomic call is in the session `id`: the host names it, or a party's step, with
    the frame that it takes, if it takes one. -/
inductive Conduct (e : Endpoint) (call : Call) (id : UInt64) (e' : Endpoint) : Prop
  | begins : s.role = .host → e.cursor = id → e'.cursor = Session.successorIdentifier e.cursor →
      e'.activity.standing id = .initiating → Conduct e call id e'
  | acts : Acts s.role s.firstSequence (e.activity.standing id) none (e'.activity.standing id) →
      Conduct e call id e'
  | takes {body : List UInt8} {frame : Frame} : e.offered call = some body →
      Decodes s body frame → frame.sessionIdentifier = id → e'.intake.body = none →
      Acts s.role s.firstSequence (e.activity.standing id) (some frame)
        (e'.activity.standing id) →
      Conduct e call id e'

variable {s : Setup} {id : UInt64}

theorem conduct_same {e e' : Endpoint} {call : Call}
    (h : e'.activity.standing id = e.activity.standing id) : Conduct s e call id e' := by
  refine .acts ?_
  rw [h]
  exact .stays

theorem conduct_left {e e' : Endpoint} {call : Call} (h : e'.activity.identifier ≠ some id) :
    Conduct s e call id e' := by
  refine .acts ?_
  rw [Activity.standing_other h]
  exact .leaves

/-- A frame of the session is taken. -/
theorem take_conduct {e e' : Endpoint} {call : Call} {body : List UInt8} {frame : Frame}
    (hbody : e.offered call = some body) (hdecode : Decodes s body frame)
    (hbefore : e.activity.standing frame.sessionIdentifier = e.activity.place)
    (hafter : e'.activity.identifier = some frame.sessionIdentifier)
    (hacts : Acts s.role s.firstSequence e.activity.place (some frame) e'.activity.place)
    (hid : e'.activity.identifier = some id) : Conduct s e call id e'.release := by
  obtain rfl := Option.some.inj (hafter.symm.trans hid)
  refine .takes hbody hdecode rfl rfl ?_
  rw [hbefore, show e'.release.activity = e'.activity from rfl,
    Activity.standing_of hafter]
  exact hacts

theorem takes_conduct {e e₀ e' : Endpoint} {call : Call} {body : List UInt8} {frame : Frame}
    (hwf : e.activity.Wf s) (hactivity : e₀.activity = e.activity)
    (hbody : e.offered call = some body) (hdecode : Decodes s body frame)
    (h : Takes s e₀ frame e') (hid : e'.activity.identifier = some id) :
    Conduct s e call id e'.release := by
  have htake : ∀ {a : Activity}, e₀.activity = a →
      a.standing frame.sessionIdentifier = a.place →
      e'.activity.identifier = some frame.sessionIdentifier →
      Acts s.role s.firstSequence a.place (some frame) e'.activity.place →
      Conduct s e call id e'.release := by
    rintro a rfl hbefore hafter hacts
    rw [hactivity] at hbefore hacts
    exact take_conduct hbody hdecode hbefore hafter hacts hid
  cases h with
  | duplicate | repeatDue => exact conduct_same (congrArg _ hactivity)
  | repeatInitiate ha | repeatResponse ha | repeatAck ha =>
      rw [hactivity] at ha
      refine conduct_same ?_
      rw [ha]
      rfl
  | adopt ha htype =>
      have hrig : s.role = .rig := by
        rw [← hactivity, ha] at hwf
        exact hwf
      exact htake ha rfl rfl (.adopts hrig htype)
  | response ha htype => exact htake ha (Activity.standing_of rfl) rfl (.responds htype)
  | confirm ha htype hsequence =>
      exact htake ha (Activity.standing_of rfl) rfl (.opens htype hsequence)
  | confirmAck ha htype => exact htake ha (Activity.standing_of rfl) rfl (.completes htype)
  | prove ha htype hsequence =>
      exact htake ha (Activity.standing_of rfl) rfl (.proves htype hsequence)
  | @delivery x payload stage ha htype hout _ hsequence =>
      have hsome : x.outgoing.map Prod.fst = some payload := by
        rw [hout]
        rfl
      exact htake ha (Activity.standing_of rfl) rfl
        (.deals (.confirms htype hsome hsequence))
  | message ha htype hsequence hunread =>
      exact htake ha (Activity.standing_of rfl) rfl
        (.deals (.places htype hsequence hunread))

/-- A new attempt of a rig has no identity, that of a host a new one. -/
theorem begun_identifier (e : Endpoint) :
    (e.beginEstablishment s).activity.identifier = none ∨
      s.role = .host ∧ (e.beginEstablishment s).activity = .initiatePending e.cursor ∧
        (e.beginEstablishment s).cursor = Session.successorIdentifier e.cursor := by
  unfold beginEstablishment
  split_ifs with hhost
  · exact Or.inr ⟨hhost, rfl, rfl⟩
  · exact Or.inl rfl

theorem begun_conduct {e e₁ : Endpoint} {call : Call} (hcursor : e₁.cursor = e.cursor) :
    Conduct s e call id (e₁.beginEstablishment s) := by
  rcases @begun_identifier _ s e₁ with hnone | ⟨hhost, ha, hnext⟩
  · refine conduct_left ?_
    rw [hnone]
    simp
  · rw [hcursor] at ha hnext
    by_cases hid : e.cursor = id
    · subst hid
      refine .begins hhost rfl hnext ?_
      rw [ha, Activity.standing_of rfl]
      rfl
    · refine conduct_left ?_
      rw [ha]
      exact fun hsame => hid (Option.some.inj hsame)

theorem receipt_conduct {e e₀ e₁ : Endpoint} {call : Call} (hwf : e.activity.Wf s)
    (hactivity : e₀.activity = e.activity) (hcursor : e₀.cursor = e.cursor)
    (h : Receipt s e₀ (e.offered call) e₁) : Conduct s e call id e₁ := by
  cases h with
  | idle hsame => exact conduct_same (congrArg _ (hsame.activity.trans hactivity))
  | @take body frame e₂ hbody _ hdecode _ htakes =>
      by_cases hid : e₂.activity.identifier = some id
      · exact takes_conduct hwf hactivity hbody hdecode htakes hid
      · exact conduct_left hid
  | reject _ _ hbarrier =>
      refine conduct_left ?_
      rw [activity_rejectSession hbarrier]
      simp [Activity.identifier]
  | reset => exact begun_conduct ((abandon_record _ _ _).1.trans hcursor)

theorem tick_conduct {e e₀ e' : Endpoint} {call : Call} {nowMs : UInt32}
    (hactivity : e₀.activity = e.activity) (h : Tick s e₀ nowMs e') : Conduct s e call id e' := by
  cases h with
  | idle => exact conduct_same (congrArg _ hactivity)
  | initiate ha | response ha | confirm ha =>
      rw [hactivity] at ha
      refine conduct_same ?_
      rw [ha]
      rfl
  | retry | hold =>
      exact conduct_same ((Activity.standing_mapStage _ _).trans (congrArg _ hactivity))
  | fail | lose =>
      refine conduct_left ?_
      rw [activity_beginLocalRecovery]
      simp [Activity.identifier]

theorem deals_conduct {e e' : Endpoint} {call : Call} {other : UInt64} {x y : Exchange}
    (ha : e.activity = .established other x) (ha' : e'.activity = .established other y)
    (hdeals : Deals x.dealings none y.dealings) : Conduct s e call id e' := by
  by_cases hid : other = id
  · subst hid
    refine .acts ?_
    rw [ha, ha', Activity.standing_of rfl, Activity.standing_of rfl]
    exact .deals hdeals
  · refine conduct_left ?_
    rw [ha']
    exact fun hsame => hid (Option.some.inj hsame)

/-- An atomic call is a step of a party of each session. -/
theorem deed_conduct {e e' : Endpoint} {call : Call} (hwf : e.activity.Wf s)
    (h : Deed s e call e') (id : UInt64) : Conduct s e call id e' := by
  cases h with
  | idle | readEvent => exact conduct_same rfl
  | work _ hwork =>
      obtain ⟨hactivity, hcursor, _⟩ := recorded_fields e call
      cases hwork with
      | receipt hreceipt hadvances =>
          rcases hadvances with rfl | ⟨hidle, rfl⟩
          · exact receipt_conduct hwf hactivity hcursor hreceipt
          · exact begun_conduct ((receipt_cursor hreceipt hidle).trans hcursor)
      | tick _ htick => exact tick_conduct hactivity htick
  | showReliable | commitReliable => exact conduct_same (Activity.standing_mapStage _ _)
  | showControl => exact conduct_same (Activity.standing_peekControl _)
  | commitControl => exact conduct_same (Activity.standing_commitControl _)
  | @submit payload _ x _ _ _ ha hnone =>
      have hempty : x.dealings.outgoing = none := by
        unfold Exchange.dealings
        rw [hnone]
        rfl
      exact deals_conduct ha rfl (.submits payload hempty)
  | readMessage _ ha => exact deals_conduct ha rfl .reads
  | reset =>
      refine conduct_left ?_
      show e.reset.activity.identifier ≠ some id
      unfold Endpoint.reset
      cases e.activity <;> simp [Activity.identifier, Activity.linkState]
  | observe => exact conduct_left (by simp [Activity.identifier])
  | disconnect =>
      refine conduct_left ?_
      dsimp only
      rw [(abandon_fields _ _ _).1]
      simp [Activity.identifier]
  | connect => exact begun_conduct (publish_record e (Session.linkEvent .connected)).1

/-! ## What an endpoint shows -/

theorem says_item {a : Activity} {item : Item} (hitem : s.item a = some item)
    (hid : item.frame.sessionIdentifier = id) :
    Says s.firstSequence item.frame (a.standing id) := by
  subst hid
  cases a with
  | waitingForResponse other stage =>
      obtain rfl := Option.some.inj hitem
      rw [Activity.standing_of rfl]
      exact .initiate rfl rfl
  | waitingForConfirm other received stage =>
      obtain rfl := Option.some.inj hitem
      rw [Activity.standing_of rfl]
      exact .response rfl rfl
  | waitingForConfirmAck other received stage =>
      obtain rfl := Option.some.inj hitem
      rw [Activity.standing_of rfl]
      exact .confirm rfl
  | established other x =>
      rw [item_established, Option.map_eq_some_iff] at hitem
      obtain ⟨⟨payload, stage⟩, hout, rfl⟩ := hitem
      rw [Activity.standing_of rfl]
      refine .tells (.message rfl rfl ?_)
      unfold Exchange.dealings
      rw [hout]
      rfl
  | _ => cases hitem

theorem says_control {a : Activity} {item : ControlItem} (hitem : a.controlItem = some item)
    (hid : item.frame.sessionIdentifier = id) (hreset : item.frame.type ≠ .reset) :
    Says s.firstSequence item.frame (a.standing id) := by
  subst hid
  cases a with
  | recovering reset =>
      obtain ⟨r, -, rfl⟩ := Option.map_eq_some_iff.mp hitem
      exact absurd rfl hreset
  | established other x =>
      rw [controlItem_established, Option.map_eq_some_iff] at hitem
      obtain ⟨pinned, -, rfl⟩ := hitem
      rw [Activity.standing_of rfl]
      exact .tells (.ack rfl rfl)
  | _ => cases hitem

end

end Endpoint

/-! ## The account of a moment -/

section
variable [Target]

/-- The payload that a moment submits in the session `id`. -/
def submittedIn (id : UInt64) (moment : Root × Call) : List (List UInt8) :=
  match moment.2 with
  | .submitApplicationData payload =>
      if submits moment = true ∧ moment.1.session.sessionIdentifier = id then [payload] else []
  | _ => []

/-- The deliveries that a moment confirms in the session `id`. -/
def confirmedIn (id : UInt64) (moment : Root × Call) : Nat :=
  if moment.1.session.sessionIdentifier = id then Events.reported .deliveryConfirmed moment else 0

/-- The payload that a moment places in the unread-message slot in the session `id`. -/
def placedIn (id : UInt64) (moment : Root × Call) : List (List UInt8) :=
  let after := (step moment.1 moment.2).2
  if Application.retained moment.1 = [] ∧ after.session.sessionIdentifier = id then
    Application.retained after
  else []

def accountIn (id : UInt64) (moment : Root × Call) : Account :=
  ⟨submittedIn id moment, confirmedIn id moment, placedIn id moment⟩

namespace Endpoint

variable {s : Setup} {id : UInt64}

/-- What a step does to the message of the caller. -/
inductive Gains (e : Endpoint) (call : Call) (e' : Endpoint) : Bool → Nat → Prop
  | submitted {payload : List UInt8} : call = .submitApplicationData payload →
      e.activity.submitted = none → e'.activity.submitted = some payload →
      e.activity.sessionState = .established → e'.activity.sessionState = .established →
      Gains e call e' true 0
  | confirmed : e.activity.submitted ≠ none → e'.activity.submitted = none →
      e.activity.sessionState = .established → e'.activity.sessionState = .established →
      Gains e call e' false 1
  | none : (e.activity.sessionState = .established → e'.activity.sessionState = .established →
        e'.activity.submitted = e.activity.submitted) →
      Gains e call e' false 0

theorem gains_step {e : Endpoint} (h : e.Wf s) {call : Call} (hatomic : Atomic s e call) :
    Gains e call (e.step s call).2 (submits (e.toRoot s, call))
      (Events.reported .deliveryConfirmed (e.toRoot s, call)) := by
  have hreport := deed_report h.events (step_deed h hatomic)
  have hreported := reported_toRoot h call .deliveryConfirmed
  generalize (e.step s call).2.events.contents.drop e.events.contents.length = events
    at hreport hreported
  cases hreport with
  | kept hplain hsame =>
      rw [plain_reported hplain (Or.inl rfl)] at hreported
      rw [hreported, submits_false h fun hnone => hsame.trans hnone]
      exact .none fun _ _ => hsame
  | @submitted payload hcall hbefore hafter hnone hsome =>
      subst hcall
      have htaken : submits (e.toRoot s, .submitApplicationData payload) = true := by
        rcases @submits_cases _ s e h payload with htaken | hsame
        · exact htaken
        · rw [hsame, hnone] at hsome
          cases hsome
      rw [hreported, htaken]
      exact .submitted rfl hnone hsome hbefore hafter
  | established hbefore _ _ hnone =>
      rw [hreported, submits_false h fun _ => hnone]
      refine .none fun hother _ => ?_
      rw [hbefore] at hother
      cases hother
  | delivered hbefore hafter hsome hnone =>
      rw [hreported, submits_false h fun _ => hnone]
      exact .confirmed (by rw [hsome]; simp) hnone hbefore hafter
  | failed hplain hleaves =>
      obtain ⟨_, _, ha⟩ := hleaves
      rw [List.countP_cons_of_neg (by decide), plain_reported hplain (Or.inl rfl)] at hreported
      rw [hreported, submits_false h fun _ => by rw [ha]; rfl]
      refine .none fun _ hother => ?_
      rw [ha] at hother
      cases hother
  | discarded hplain _ _ hnone hstate =>
      rw [plain_reported hplain (Or.inl rfl)] at hreported
      rw [hreported, submits_false h fun _ => hnone]
      exact .none fun _ hother => absurd hother hstate

/-- A session that is established before and after a step is the same one. -/
theorem established_same {e e' : Endpoint} {call : Call} (h : ∀ id, Conduct s e call id e')
    {before after : UInt64} {x y : Exchange} (ha : e.activity = .established before x)
    (ha' : e'.activity = .established after y) : after = before := by
  by_contra hne
  have houtside : e.activity.standing after = .outside := by
    rw [ha]
    exact Activity.standing_other fun hsame => hne (Option.some.inj hsame).symm
  have hexchanging : e'.activity.standing after = .exchanging y.dealings := by
    rw [ha']
    exact Activity.standing_of rfl
  cases h after with
  | begins _ _ _ hinitiating =>
      rw [hexchanging] at hinitiating
      cases hinitiating
  | acts hacts =>
      rw [houtside, hexchanging] at hacts
      cases hacts
  | takes _ _ _ _ hacts =>
      rw [houtside, hexchanging] at hacts
      cases hacts

omit [Target] in
theorem established_cases (a : Activity) :
    (∃ id x, a = .established id x) ∨
      a.sessionState ≠ .established ∧ a.unread = none ∧
        ∀ id x, a.standing id ≠ .exchanging x := by
  cases a with
  | established id x => exact Or.inl ⟨id, x, rfl⟩
  | _ =>
      refine Or.inr ⟨by simp [Activity.sessionState], rfl, ?_⟩
      intro id x
      unfold Activity.standing Activity.place
      split_ifs <;> simp

theorem placedIn_toRoot {e : Endpoint} (h : e.Wf s) (call : Call) :
    placedIn id (e.toRoot s, call) =
      if e.activity.unread = none ∧
          ((e.step s call).2.toRoot s).session.sessionIdentifier = id then
        (e.step s call).2.activity.unread.toList
      else [] := by
  unfold placedIn
  dsimp only
  rw [step_refines h, retained_toRoot, retained_toRoot]
  simp only [Option.toList_eq_nil_iff]

omit [Target] in
theorem outgoing_dealings (id : UInt64) (x : Exchange) :
    x.dealings.outgoing = (Activity.established id x).submitted := rfl

theorem submittedIn_none {moment : Root × Call} (h : submits moment = false) :
    submittedIn id moment = [] := by
  unfold submittedIn
  split
  · exact if_neg fun hboth => by rw [h] at hboth; cases hboth.1
  · rfl

/-- Nothing is submitted or confirmed but in an established session. -/
theorem gains_none {e : Endpoint} (h : e.Wf s) {call : Call} (hatomic : Atomic s e call)
    (hnot : e.activity.sessionState = .established →
      (e.step s call).2.activity.sessionState ≠ .established) :
    submittedIn id (e.toRoot s, call) = [] ∧ confirmedIn id (e.toRoot s, call) = 0 := by
  have hgains := gains_step h hatomic
  generalize hsubmits : submits (e.toRoot s, call) = taken at hgains
  generalize hreported : Events.reported .deliveryConfirmed (e.toRoot s, call) = count at hgains
  cases hgains with
  | submitted _ _ _ hbefore hafter => exact absurd hafter (hnot hbefore)
  | confirmed _ _ hbefore hafter => exact absurd hafter (hnot hbefore)
  | none =>
      refine ⟨submittedIn_none hsubmits, ?_⟩
      unfold confirmedIn
      rw [hreported]
      exact ite_self 0

theorem gains_foreign {moment : Root × Call} (h : moment.1.session.sessionIdentifier ≠ id) :
    submittedIn id moment = [] ∧ confirmedIn id moment = 0 := by
  refine ⟨?_, if_neg h⟩
  unfold submittedIn
  split
  · exact if_neg fun hboth => h hboth.2
  · rfl

/-- In a session that stays established, the message of the caller is the outgoing one. -/
theorem gains_established {e : Endpoint} (h : e.Wf s) {call : Call} (hatomic : Atomic s e call)
    {x y : Exchange} (ha : e.activity = .established id x)
    (ha' : (e.step s call).2.activity = .established id y) :
    submittedIn id (e.toRoot s, call) =
        (Standing.exchanging x.dealings).submitted (.exchanging y.dealings) ∧
      confirmedIn id (e.toRoot s, call) =
        (Standing.exchanging x.dealings).confirmed (.exchanging y.dealings) := by
  have hsession : (e.toRoot s).session.sessionIdentifier = id := by
    rw [identifier_toRoot (by rw [ha]; rfl)]
  have hgains := gains_step h hatomic
  generalize hsubmits : submits (e.toRoot s, call) = taken at hgains
  generalize hreported : Events.reported .deliveryConfirmed (e.toRoot s, call) = count at hgains
  have hconfirmed : confirmedIn id (e.toRoot s, call) = count := by
    unfold confirmedIn
    rw [hreported, if_pos hsession]
  unfold Standing.submitted Standing.confirmed
  dsimp only
  rw [hconfirmed, outgoing_dealings id x, outgoing_dealings id y, ← ha, ← ha']
  cases hgains with
  | submitted hcall hnone hsome =>
      subst hcall
      unfold submittedIn
      dsimp only
      rw [if_pos ⟨hsubmits, hsession⟩, if_pos hnone, hsome, if_neg fun hboth => hboth.1 hnone]
      exact ⟨rfl, rfl⟩
  | confirmed hsome hnone =>
      rw [submittedIn_none hsubmits, if_neg hsome, if_pos ⟨hsome, hnone⟩]
      exact ⟨rfl, rfl⟩
  | none hsame =>
      have hsame' := hsame (by rw [ha]; rfl) (by rw [ha']; rfl)
      rw [submittedIn_none hsubmits, hsame']
      cases e.activity.submitted <;> simp

/-- What the caller sees of payloads is the account of the party. -/
theorem account_step {e : Endpoint} (h : e.Wf s) {call : Call} (hatomic : Atomic s e call)
    (id : UInt64) :
    accountIn id (e.toRoot s, call) =
      (e.activity.standing id).account ((e.step s call).2.activity.standing id) := by
  have hconduct := deed_conduct h.activity (step_deed h hatomic)
  have hplaced := @placedIn_toRoot _ s id e h call
  unfold accountIn
  rcases established_cases (e.step s call).2.activity with ⟨other, y, ha'⟩ |
    ⟨hstate', hunread', hplace'⟩
  · have hsession : ((e.step s call).2.toRoot s).session.sessionIdentifier = other :=
      identifier_toRoot (by rw [ha']; rfl)
    rw [hsession] at hplaced
    by_cases hid : other = id
    · subst hid
      have hafter : (e.step s call).2.activity.standing other = .exchanging y.dealings := by
        rw [ha']
        exact Activity.standing_of rfl
      rcases established_cases e.activity with ⟨before, x, ha⟩ | ⟨hstate, hunread, hplace⟩
      · obtain rfl := established_same hconduct ha ha'
        have hbefore : e.activity.standing other = .exchanging x.dealings := by
          rw [ha]
          exact Activity.standing_of rfl
        obtain ⟨hsubmitted, hconfirmed⟩ := gains_established h hatomic ha ha'
        simp only [and_true] at hplaced
        rw [hsubmitted, hconfirmed, hplaced, hbefore, hafter, ha, ha']
        rfl
      · obtain ⟨hsubmitted, hconfirmed⟩ := @gains_none _ s other _ h _ hatomic
          fun hbefore => absurd hbefore hstate
        rw [hsubmitted, hconfirmed, hplaced, if_pos ⟨hunread, rfl⟩, hafter,
          Standing.account_enters (hplace other), ha']
        rfl
    · have hother : (e.step s call).2.activity.standing id = .outside := by
        rw [ha']
        exact Activity.standing_other fun hsame => hid (Option.some.inj hsame)
      have hnone : submittedIn id (e.toRoot s, call) = [] ∧
          confirmedIn id (e.toRoot s, call) = 0 := by
        rcases established_cases e.activity with ⟨before, x, ha⟩ | ⟨hstate, -⟩
        · obtain rfl := established_same hconduct ha ha'
          exact gains_foreign (by rw [identifier_toRoot (by rw [ha]; rfl)]; exact hid)
        · exact gains_none h hatomic fun hbefore => absurd hbefore hstate
      rw [hother, Standing.account_none _ (by simp), hnone.1, hnone.2, hplaced,
        if_neg fun hboth => hid hboth.2]
      rfl
  · obtain ⟨hsubmitted, hconfirmed⟩ := @gains_none _ s id _ h _ hatomic fun _ => hstate'
    rw [Standing.account_none _ (hplace' id), hsubmitted, hconfirmed, hplaced, hunread']
    exact congrArg (Account.mk [] 0) (ite_self _)

end Endpoint

end

end HilRigProtocol.Transport
