/-
  A host and a rig agree.

  The two parties of one session, as far as they can tell each other something: where each
  stands, what a step can make of it, and which frames are on the way. `Joint` holds for
  both parties and both channels together. It says which handshake frames can still be on
  the way, and that each direction is a stop-and-wait transfer; every step of either party
  keeps it, and so does the loss of frames.
-/
import HilRigProtocol.Library.StopAndWait
import HilRigProtocol.Transport.Types

namespace HilRigProtocol.Transport

open Library

/-! ## The parties -/

/-- What an established session holds for its peer and from it. -/
structure Dealings where
  lastReceived : UInt16
  nextTransmit : UInt16
  outgoing : Option (List UInt8)
  unread : Option (List UInt8)

/-- Where a party stands in the session. `received` is the sequence of the peer's first
    frame. -/
inductive Standing
  | outside
  | initiating
  | bound (received : UInt16)
  | confirming (received : UInt16)
  | exchanging (dealings : Dealings)

/-- What a party has done in the session: the payloads submitted, how many of them were
    confirmed, and the payloads placed in the unread-message slot. -/
structure Account where
  submitted : List (List UInt8)
  confirmed : Nat
  placed : List (List UInt8)
  deriving DecidableEq

namespace Account

def empty : Account := ⟨[], 0, []⟩

def append (first second : Account) : Account where
  submitted := first.submitted ++ second.submitted
  confirmed := first.confirmed + second.confirmed
  placed := first.placed ++ second.placed

theorem append_empty (account : Account) : account.append empty = account := by
  unfold append empty
  rw [List.append_nil, List.append_nil, Nat.add_zero]

/-- The direction from one party to the other. -/
def towards (sender receiver : Account) : Transfer (List UInt8) where
  submitted := sender.submitted
  confirmed := sender.confirmed
  accepted := receiver.placed

end Account

/-! ## What a party can do -/

/-- What a step makes of an exchange, and the frame of the peer that it takes. -/
inductive Deals (x : Dealings) : Option Frame → Dealings → Prop
  | submits (payload : List UInt8) : x.outgoing = none →
      Deals x none { x with outgoing := some payload }
  | reads : Deals x none { x with unread := none }
  | confirms {frame : Frame} {payload : List UInt8} : frame.type = .ack →
      x.outgoing = some payload → frame.acknowledgementSequence = x.nextTransmit →
      Deals x (some frame) { x with outgoing := none, nextTransmit := x.nextTransmit + 1 }
  | places {frame : Frame} : frame.type = .applicationMessage →
      frame.sequence = x.lastReceived + 1 → x.unread = none →
      Deals x (some frame)
        { x with lastReceived := frame.sequence, unread := some frame.payload }

/-- What a step makes of a party whose first sequence is `first`. A host also begins. -/
inductive Acts (role : Role) (first : UInt16) : Standing → Option Frame → Standing → Prop
  | stays {standing : Standing} : Acts role first standing none standing
  | leaves {standing : Standing} : Acts role first standing none .outside
  | adopts {frame : Frame} : role = .rig → frame.type = .initiate →
      Acts role first .outside (some frame) (.bound frame.sequence)
  | responds {frame : Frame} : frame.type = .response →
      Acts role first .initiating (some frame) (.confirming frame.sequence)
  | opens {received : UInt16} {frame : Frame} : frame.type = .confirm →
      frame.sequence = received + 1 →
      Acts role first (.bound received) (some frame)
        (.exchanging ⟨frame.sequence, first + 1, none, none⟩)
  | completes {received : UInt16} {frame : Frame} : frame.type = .ack →
      Acts role first (.confirming received) (some frame)
        (.exchanging ⟨received, first + 1 + 1, none, none⟩)
  | proves {received : UInt16} {frame : Frame} : frame.type = .applicationMessage →
      frame.sequence = received + 1 →
      Acts role first (.confirming received) (some frame)
        (.exchanging ⟨frame.sequence, first + 1 + 1, none, some frame.payload⟩)
  | deals {x y : Dealings} {taken : Option Frame} : Deals x taken y →
      Acts role first (.exchanging x) taken (.exchanging y)

/-- A party never takes a RESET. -/
theorem Acts.type_ne_reset {role : Role} {first : UInt16} {before after : Standing} {frame : Frame}
    (h : Acts role first before (some frame) after) : frame.type ≠ .reset := by
  cases h with
  | adopts _ htype | responds htype | opens htype | completes htype | proves htype =>
      rw [htype]
      decide
  | deals hdeals =>
      cases hdeals with
      | confirms htype | places htype =>
          rw [htype]
          decide

/-- A host that has taken a RESPONSE. -/
def Standing.Answered : Standing → Prop
  | confirming _ | exchanging _ => True
  | _ => False

theorem Acts.answered {role : Role} {first : UInt16} {before after : Standing}
    {taken : Option Frame} (h : Acts role first before taken after) (hafter : after.Answered) :
    before.Answered ∨ (∃ received, before = .bound received) ∨
      before = .initiating ∧ ∃ received, after = .confirming received := by
  cases h with
  | stays => exact Or.inl hafter
  | leaves | adopts => exact hafter.elim
  | responds => exact Or.inr (Or.inr ⟨rfl, _, rfl⟩)
  | opens => exact Or.inr (Or.inl ⟨_, rfl⟩)
  | completes | proves | deals => exact Or.inl trivial

/-- What an exchange tells the peer. -/
inductive Tells (x : Dealings) (frame : Frame) : Prop
  | ack : frame.type = .ack → frame.acknowledgementSequence = x.lastReceived → Tells x frame
  | message : frame.type = .applicationMessage → frame.sequence = x.nextTransmit →
      x.outgoing = some frame.payload → Tells x frame

/-- What a party tells its peer, a RESET apart. -/
inductive Says (first : UInt16) (frame : Frame) : Standing → Prop
  | initiate : frame.type = .initiate → frame.sequence = first → Says first frame .initiating
  | response {received : UInt16} : frame.type = .response → frame.sequence = first →
      Says first frame (.bound received)
  | confirm {received : UInt16} : frame.type = .confirm → Says first frame (.confirming received)
  | tells {x : Dealings} : Tells x frame → Says first frame (.exchanging x)

/-! ## What a step adds to the account -/

namespace Standing

def unread : Standing → Option (List UInt8)
  | exchanging x => x.unread
  | _ => none

def submitted : Standing → Standing → List (List UInt8)
  | exchanging x, exchanging y => if x.outgoing = none then y.outgoing.toList else []
  | _, _ => []

def confirmed : Standing → Standing → Nat
  | exchanging x, exchanging y => if x.outgoing ≠ none ∧ y.outgoing = none then 1 else 0
  | _, _ => 0

def placed (before after : Standing) : List (List UInt8) :=
  if before.unread = none then after.unread.toList else []

/-- What a party has done between two standings of one step. -/
def account (before after : Standing) : Account :=
  ⟨before.submitted after, before.confirmed after, before.placed after⟩

theorem placed_same {before after : Standing} (h : after.unread = before.unread) :
    before.placed after = [] := by
  unfold placed
  rw [h]
  cases before.unread <;> rfl

theorem outgoing_same {x y : Dealings} (h : y.outgoing = x.outgoing) :
    (exchanging x).submitted (exchanging y) = [] ∧
      (exchanging x).confirmed (exchanging y) = 0 := by
  unfold submitted confirmed
  dsimp only
  rw [h]
  cases x.outgoing <;> simp

theorem account_self (standing : Standing) : standing.account standing = .empty := by
  have hrest : standing.submitted standing = [] ∧ standing.confirmed standing = 0 := by
    cases standing with
    | exchanging x => exact outgoing_same rfl
    | _ => exact ⟨rfl, rfl⟩
  unfold account
  rw [placed_same rfl, hrest.1, hrest.2]
  rfl

theorem account_enters {before : Standing} (h : ∀ x, before ≠ .exchanging x) (x : Dealings) :
    before.account (.exchanging x) = ⟨[], 0, x.unread.toList⟩ := by
  cases before with
  | exchanging y => exact absurd rfl (h y)
  | _ => exact congrArg (Account.mk [] 0) (if_pos rfl)

/-- A party that enters with the slot empty has done nothing. -/
theorem account_opens {before : Standing} (h : ∀ x, before ≠ .exchanging x) {x : Dealings}
    (hx : x.unread = none) : before.account (.exchanging x) = .empty := by
  rw [account_enters h, hx]
  rfl

/-- A party that is not exchanging after the step has done nothing. -/
theorem account_none (before : Standing) {after : Standing}
    (h : ∀ x, after ≠ .exchanging x) : before.account after = .empty := by
  have hplaced : before.placed after = [] := by
    unfold placed
    cases after with
    | exchanging x => exact absurd rfl (h x)
    | _ => exact ite_self _
  have hrest : before.submitted after = [] ∧ before.confirmed after = 0 := by
    cases after with
    | exchanging x => exact absurd rfl (h x)
    | _ => cases before <;> exact ⟨rfl, rfl⟩
  unfold account
  rw [hplaced, hrest.1, hrest.2]
  rfl

section
variable {x : Dealings}

theorem account_submits (h : x.outgoing = none) (payload : List UInt8) :
    (exchanging x).account (exchanging { x with outgoing := some payload }) =
      ⟨[payload], 0, []⟩ := by
  unfold account submitted confirmed
  rw [@placed_same (exchanging x) (exchanging { x with outgoing := some payload }) rfl]
  dsimp only
  rw [if_pos h, if_neg fun hboth => hboth.1 h]
  rfl

theorem account_reads :
    (exchanging x).account (exchanging { x with unread := none }) = .empty := by
  unfold account placed
  rw [(@outgoing_same x { x with unread := none } rfl).1,
    (@outgoing_same x { x with unread := none } rfl).2]
  exact congrArg (Account.mk [] 0) (ite_self _)

theorem account_confirms {payload : List UInt8} (h : x.outgoing = some payload)
    (next : UInt16) :
    (exchanging x).account (exchanging { x with outgoing := none, nextTransmit := next }) =
      ⟨[], 1, []⟩ := by
  unfold account submitted confirmed
  rw [@placed_same (exchanging x)
    (exchanging { x with outgoing := none, nextTransmit := next }) rfl]
  dsimp only
  rw [h, if_neg (by simp), if_pos ⟨by simp, rfl⟩]

theorem account_places (h : x.unread = none) (last : UInt16) (payload : List UInt8) :
    (exchanging x).account
        (exchanging { x with lastReceived := last, unread := some payload }) =
      ⟨[], 0, [payload]⟩ := by
  unfold account placed
  rw [(@outgoing_same x { x with lastReceived := last, unread := some payload } rfl).1,
    (@outgoing_same x { x with lastReceived := last, unread := some payload } rfl).2]
  exact congrArg (Account.mk [] 0) (if_pos h)

end

end Standing

/-! ## One direction after the other -/

/-- The mark `k` of a direction: the sequence `zero` of the handshake, and the payloads'
    sequences behind it. -/
def mark (zero : UInt16) (k : Nat) : UInt16 := zero + UInt16.ofNat k

theorem mark_zero (zero : UInt16) : mark zero 0 = zero := UInt16.add_zero zero

theorem mark_succ (zero : UInt16) (k : Nat) : mark zero (k + 1) = mark zero k + 1 := by
  unfold mark
  rw [UInt16.ofNat_add, ← UInt16.add_assoc]
  rfl

theorem mark_ne (zero : UInt16) (k : Nat) : mark zero k ≠ mark zero (k + 1) := by
  rw [mark_succ]
  intro hsame
  exact absurd (UInt16.left_eq_add.mp hsame) (by decide)

/-- A message under its sequence. -/
def Frame.asMessage (frame : Frame) : Option (UInt16 × List UInt8) :=
  if frame.type = .applicationMessage then some (frame.sequence, frame.payload) else none

def Frame.asAnswer (frame : Frame) : Option UInt16 :=
  if frame.type = .ack then some frame.acknowledgementSequence else none

def messages (frames : List Frame) : List (UInt16 × List UInt8) := frames.filterMap Frame.asMessage

def answers (frames : List Frame) : List UInt16 := frames.filterMap Frame.asAnswer

section
variable {frame : Frame} (rest : List Frame)

theorem asMessage_none (h : frame.type ≠ .applicationMessage) : frame.asMessage = none := if_neg h

theorem asAnswer_none (h : frame.type ≠ .ack) : frame.asAnswer = none := if_neg h

theorem messages_cons (h : frame.type = .applicationMessage) :
    messages (frame :: rest) = (frame.sequence, frame.payload) :: messages rest :=
  List.filterMap_cons_some (if_pos h)

theorem answers_cons (h : frame.type = .ack) :
    answers (frame :: rest) = frame.acknowledgementSequence :: answers rest :=
  List.filterMap_cons_some (if_pos h)

theorem messages_append (h : frame.type = .applicationMessage) :
    messages (rest ++ [frame]) = messages rest ++ [(frame.sequence, frame.payload)] := by
  unfold messages
  rw [List.filterMap_append]
  exact congrArg _ (List.filterMap_cons_some (if_pos h))

theorem answers_append (h : frame.type = .ack) :
    answers (rest ++ [frame]) = answers rest ++ [frame.acknowledgementSequence] := by
  unfold answers
  rw [List.filterMap_append]
  exact congrArg _ (List.filterMap_cons_some (if_pos h))

theorem messages_append_other (h : frame.type ≠ .applicationMessage) :
    messages (rest ++ [frame]) = messages rest := by
  unfold messages
  rw [List.filterMap_append, List.filterMap_cons_none (asMessage_none h), List.filterMap_nil,
    List.append_nil]

theorem answers_append_other (h : frame.type ≠ .ack) :
    answers (rest ++ [frame]) = answers rest := by
  unfold answers
  rw [List.filterMap_append, List.filterMap_cons_none (asAnswer_none h), List.filterMap_nil,
    List.append_nil]

end

/-- The transfers of a party to its peer and back, over the frames on the way out and in.
    `own` and `peer` are the sequences of the two handshakes' last frames. -/
structure Flows (own peer : UInt16) (mine theirs : Account) (outbound inbound : List Frame) :
    Prop where
  sends : (mine.towards theirs).Agrees (mark own) (messages outbound) (answers inbound)
  receives : (theirs.towards mine).Agrees (mark peer) (messages inbound) (answers outbound)

/-- The dealings of a party are those of its account. -/
structure Dealt (own peer : UInt16) (x : Dealings) (mine : Account) : Prop where
  last : x.lastReceived = mark peer mine.placed.length
  next : x.nextTransmit = mark own (mine.confirmed + 1)
  idle : x.outgoing = none → mine.submitted.length = mine.confirmed
  busy : ∀ payload, x.outgoing = some payload → mine.submitted[mine.confirmed]? = some payload

theorem Dealt.initial (own peer : UInt16) : Dealt own peer ⟨peer, own + 1, none, none⟩ .empty where
  last := (mark_zero peer).symm
  next := by
    rw [mark_succ]
    exact congrArg (· + 1) (mark_zero own).symm
  idle := fun _ => rfl
  busy := by
    rintro payload hsome
    cases hsome

namespace Flows

variable {own peer : UInt16} {mine theirs : Account} {outbound inbound : List Frame}

theorem symm (h : Flows own peer mine theirs outbound inbound) :
    Flows peer own theirs mine inbound outbound := ⟨h.receives, h.sends⟩

theorem lose (h : Flows own peer mine theirs outbound inbound) {outbound' inbound' : List Frame}
    (hout : List.Sublist outbound' outbound) (hin : List.Sublist inbound' inbound) :
    Flows own peer mine theirs outbound' inbound' where
  sends := h.sends.lose (hout.filterMap _) (hin.filterMap _)
  receives := h.receives.lose (hin.filterMap _) (hout.filterMap _)

/-- A handshake frame is neither a message nor an answer. -/
theorem say (h : Flows own peer mine theirs outbound inbound) {frame : Frame}
    (hmessage : frame.type ≠ .applicationMessage) (hack : frame.type ≠ .ack) :
    Flows own peer mine theirs (outbound ++ [frame]) inbound := by
  constructor
  · rw [messages_append_other _ hmessage]
    exact h.sends
  · rw [answers_append_other _ hack]
    exact h.receives

theorem tell (h : Flows own peer mine theirs outbound inbound) {x : Dealings}
    (hx : Dealt own peer x mine) {frame : Frame} (htells : Tells x frame) :
    Flows own peer mine theirs (outbound ++ [frame]) inbound := by
  cases htells with
  | ack htype hsequence =>
      constructor
      · rw [messages_append_other _ (by rw [htype]; decide)]
        exact h.sends
      · rw [answers_append _ htype, hsequence, hx.last]
        exact h.receives.answer
  | message htype hsequence hpayload =>
      constructor
      · rw [messages_append _ htype, hsequence, hx.next]
        exact h.sends.send (hx.busy _ hpayload)
      · rw [answers_append_other _ (by rw [htype]; decide)]
        exact h.receives

/-- A step of an exchange, with the frame that it takes at the head of those on the way. -/
theorem deal {x y : Dealings} {taken : Option Frame} {rest : List Frame}
    (h : Flows own peer mine theirs outbound (taken.toList ++ rest)) (hx : Dealt own peer x mine)
    (hdeals : Deals x taken y) :
    Flows own peer (mine.append ((Standing.exchanging x).account (.exchanging y))) theirs outbound
        rest ∧
      Dealt own peer y (mine.append ((Standing.exchanging x).account (.exchanging y))) := by
  cases hdeals with
  | submits payload hnone =>
      have hmine : mine.append ⟨[payload], 0, []⟩ =
          { mine with submitted := mine.submitted ++ [payload] } := by
        unfold Account.append
        rw [Nat.add_zero, List.append_nil]
      have hall := hx.idle hnone
      rw [Standing.account_submits hnone, hmine]
      refine ⟨⟨h.sends.submit hall payload, h.receives⟩, hx.last, hx.next, ?_, ?_⟩
      · intro hempty
        cases hempty
      · rintro other hother
        cases hother
        dsimp only
        rw [← hall]
        exact List.getElem?_concat_length
  | reads =>
      rw [Standing.account_reads, Account.append_empty]
      exact ⟨h, hx.last, hx.next, hx.idle, hx.busy⟩
  | @confirms frame payload htype hsome hsequence =>
      have hmine : mine.append ⟨[], 1, []⟩ = { mine with confirmed := mine.confirmed + 1 } := by
        unfold Account.append
        rw [List.append_nil, List.append_nil]
      have hanswer : (mine.towards theirs).Agrees (mark own) (messages outbound)
          (mark own (mine.confirmed + 1) :: answers rest) := by
        rw [← hx.next, ← hsequence, ← answers_cons rest htype]
        exact h.sends
      obtain ⟨-, hconfirmed⟩ := hanswer.confirm (mark_ne own)
      have hlt := (List.getElem?_eq_some_iff.mp (hx.busy _ hsome)).1
      have hone := h.sends.one_open
      dsimp only [Account.towards] at hone
      rw [Standing.account_confirms hsome, hmine]
      refine ⟨⟨hconfirmed, ?_⟩, hx.last, ?_, fun _ => ?_, ?_⟩
      · exact (h.lose (List.Sublist.refl _) (List.sublist_append_right _ rest)).receives
      · dsimp only
        rw [hx.next, ← mark_succ]
      · dsimp only
        omega
      · rintro other hother
        cases hother
  | @places frame htype hsequence hnone =>
      have hmine : mine.append ⟨[], 0, [frame.payload]⟩ =
          { mine with placed := mine.placed ++ [frame.payload] } := by
        unfold Account.append
        rw [List.append_nil, Nat.add_zero]
      have hmark : frame.sequence = mark peer (mine.placed.length + 1) := by
        rw [hsequence, hx.last, mark_succ]
      have hmessage : (theirs.towards mine).Agrees (mark peer)
          ((mark peer (mine.placed.length + 1), frame.payload) :: messages rest)
          (answers outbound) := by
        rw [← hmark, ← messages_cons rest htype]
        exact h.receives
      rw [Standing.account_places hnone, hmine]
      refine ⟨⟨?_, hmessage.accept (mark_ne peer)⟩, ?_, hx.next, hx.idle, hx.busy⟩
      · exact (h.lose (List.Sublist.refl _) (List.sublist_append_right _ rest)).sends
      · dsimp only
        rw [hmark, List.length_append, List.length_singleton]

end Flows

/-! ## Both parties -/

/-- What holds for a session. `hostFirst` and `rigFirst` are the first sequences, `begun`
    says that the host has used the identity, `opened` that the rig has been established;
    each channel has the frames of the session on the way, RESETs apart. -/
structure Joint (hostFirst rigFirst : UInt16) (host rig : Standing) (begun opened : Prop)
    (hostDone rigDone : Account) (toRig toHost : List Frame) : Prop where
  unbegun : ¬ begun → ¬ opened ∧ host = .outside ∧ rig = .outside ∧ hostDone = .empty ∧
    toRig = [] ∧ toHost = []
  host_role : ∀ received, host ≠ .bound received
  rig_role : rig ≠ .initiating ∧ ∀ received, rig ≠ .confirming received
  /-- No INITIATE is behind another frame. -/
  order : Turns (·.type = .initiate) (·.type ≠ .initiate) toRig
  initiates : ∀ frame ∈ toRig, frame.type = .initiate → frame.sequence = hostFirst
  responses : ∀ frame ∈ toHost, frame.type = .response → frame.sequence = rigFirst
  initiating : host = .initiating → ∀ frame ∈ toRig, frame.type = .initiate
  confirming : ∀ received, host = .confirming received → received = rigFirst
  /-- A host that is not established yet has done nothing. -/
  attempting : host = .initiating ∨ (∃ received, host = .confirming received) →
    hostDone = .empty
  bound : ∀ received, rig = .bound received → received = hostFirst ∧ ¬ opened
  unopened : ¬ opened → (∀ x, host ≠ .exchanging x) ∧ (∀ x, rig ≠ .exchanging x) ∧
    rigDone = .empty ∧ ∀ frame ∈ toHost, frame.type = .response
  opened : opened → host ≠ .initiating ∧ ∀ frame ∈ toRig, frame.type ≠ .initiate
  hostDealt : ∀ x, host = .exchanging x → Dealt (hostFirst + 1) rigFirst x hostDone
  rigDealt : ∀ x, rig = .exchanging x → Dealt rigFirst (hostFirst + 1) x rigDone
  flows : Flows (hostFirst + 1) rigFirst hostDone rigDone toRig toHost

namespace Joint

variable {hostFirst rigFirst : UInt16} {host rig : Standing} {begun opened : Prop}
  {hostDone rigDone : Account} {toRig toHost : List Frame}

theorem initial :
    Joint hostFirst rigFirst .outside .outside False False .empty .empty [] [] where
  unbegun := fun _ => ⟨id, rfl, rfl, rfl, rfl, rfl⟩
  host_role := by
    intro received hbound
    cases hbound
  rig_role := ⟨by simp, by simp⟩
  order := .of_early (List.forall_mem_nil _)
  initiates := List.forall_mem_nil _
  responses := List.forall_mem_nil _
  initiating := by simp
  confirming := by simp
  attempting := fun _ => rfl
  bound := by simp
  unopened := fun _ => ⟨by simp, by simp, rfl, List.forall_mem_nil _⟩
  opened := False.elim
  hostDealt := by simp
  rigDealt := by simp
  flows := ⟨Transfer.Agrees.initial, Transfer.Agrees.initial⟩

/-- Losses do no harm. -/
theorem lose (h : Joint hostFirst rigFirst host rig begun opened hostDone rigDone toRig toHost)
    {toRig' toHost' : List Frame} (hrig : List.Sublist toRig' toRig)
    (hhost : List.Sublist toHost' toHost) :
    Joint hostFirst rigFirst host rig begun opened hostDone rigDone toRig' toHost' where
  unbegun := by
    intro hnot
    obtain ⟨hshut, hoff, roff, hdone, hnone, rnone⟩ := h.unbegun hnot
    subst hnone rnone
    exact ⟨hshut, hoff, roff, hdone, List.sublist_nil.mp hrig, List.sublist_nil.mp hhost⟩
  host_role := h.host_role
  rig_role := h.rig_role
  order := h.order.sublist hrig
  initiates := fun frame hframe => h.initiates frame (hrig.subset hframe)
  responses := fun frame hframe => h.responses frame (hhost.subset hframe)
  initiating := fun hinit frame hframe => h.initiating hinit frame (hrig.subset hframe)
  confirming := h.confirming
  attempting := h.attempting
  bound := h.bound
  unopened := by
    intro hnot
    obtain ⟨hoff, roff, hdone, hresponses⟩ := h.unopened hnot
    exact ⟨hoff, roff, hdone, fun frame hframe => hresponses frame (hhost.subset hframe)⟩
  opened := fun hopen => ⟨(h.opened hopen).1,
    fun frame hframe => (h.opened hopen).2 frame (hrig.subset hframe)⟩
  hostDealt := h.hostDealt
  rigDealt := h.rigDealt
  flows := h.flows.lose hrig hhost

/-- A party that is in the session shows that it has begun. -/
theorem begun_of (h : Joint hostFirst rigFirst host rig begun opened hostDone rigDone toRig toHost)
    (hin : host ≠ .outside ∨ rig ≠ .outside ∨ toRig ≠ [] ∨ toHost ≠ []) : begun := by
  by_contra hnot
  obtain ⟨-, hoff, roff, -, hnone, rnone⟩ := h.unbegun hnot
  rcases hin with hin | hin | hin | hin
  · exact hin hoff
  · exact hin roff
  · exact hin hnone
  · exact hin rnone

/-! ### The host -/

theorem host_leaves
    (h : Joint hostFirst rigFirst host rig begun opened hostDone rigDone toRig toHost) :
    Joint hostFirst rigFirst .outside rig begun opened hostDone rigDone toRig toHost :=
  { h with
    unbegun := fun hnot => ⟨(h.unbegun hnot).1, rfl, (h.unbegun hnot).2.2⟩
    host_role := by simp
    initiating := by simp
    confirming := by simp
    attempting := by simp
    unopened := fun hnot => ⟨by simp, (h.unopened hnot).2⟩
    opened := fun hopen => ⟨by simp, (h.opened hopen).2⟩
    hostDealt := by simp }

/-- The host names a session that it has not named before. -/
theorem host_begins
    (h : Joint hostFirst rigFirst host rig begun opened hostDone rigDone toRig toHost)
    (hnot : ¬ begun) :
    Joint hostFirst rigFirst .initiating rig True opened hostDone rigDone toRig toHost := by
  obtain ⟨hshut, hoff, roff, hdone, hnone, rnone⟩ := h.unbegun hnot
  exact
    { h with
      unbegun := fun hfalse => absurd trivial hfalse
      host_role := by simp
      initiating := by
        rw [hnone]
        exact fun _ => List.forall_mem_nil _
      confirming := by simp
      attempting := fun _ => hdone
      unopened := fun _ => ⟨by simp, (h.unopened hshut).2⟩
      opened := fun hopen => absurd hopen hshut
      hostDealt := by simp }

theorem host_exchanges {rest : List Frame} {x : Dealings} {done : Account}
    (h : Joint hostFirst rigFirst host rig begun opened hostDone rigDone toRig toHost)
    (hrest : List.Sublist rest toHost) (hin : host ≠ .outside) (hopen : opened)
    (hflows : Flows (hostFirst + 1) rigFirst done rigDone toRig rest)
    (hdealt : Dealt (hostFirst + 1) rigFirst x done) :
    Joint hostFirst rigFirst (.exchanging x) rig begun opened done rigDone toRig rest :=
  { h.lose (List.Sublist.refl _) hrest with
    unbegun := fun hnot => absurd (h.begun_of (Or.inl hin)) hnot
    host_role := by simp
    initiating := by simp
    confirming := by simp
    attempting := by simp
    unopened := fun hnot => absurd hopen hnot
    opened := fun hopen => ⟨by simp, (h.opened hopen).2⟩
    hostDealt := by
      rintro y hy
      cases hy
      exact hdealt
    flows := hflows }

/-- A frame that only an established rig sends. -/
theorem opened_of
    (h : Joint hostFirst rigFirst host rig begun opened hostDone rigDone toRig toHost)
    {frame : Frame} (hframe : frame ∈ toHost) (htype : frame.type ≠ .response) : opened := by
  by_contra hnot
  exact htype ((h.unopened hnot).2.2.2 frame hframe)

/-- A step of the host keeps the agreement. -/
theorem host_acts {taken : Option Frame} {rest : List Frame} {host' : Standing}
    (h : Joint hostFirst rigFirst host rig begun opened hostDone rigDone toRig
      (taken.toList ++ rest))
    (hacts : Acts .host hostFirst host taken host') :
    Joint hostFirst rigFirst host' rig begun opened (hostDone.append (host.account host')) rigDone
      toRig rest := by
  have hrest : List.Sublist rest (taken.toList ++ rest) := List.sublist_append_right _ _
  cases hacts with
  | stays =>
      rw [Standing.account_self, Account.append_empty]
      exact h
  | leaves =>
      rw [Standing.account_none _ (by simp), Account.append_empty]
      exact h.host_leaves
  | adopts hrole => cases hrole
  | @responds frame htype =>
      have hdone := h.attempting (Or.inl rfl)
      have hsequence := h.responses frame List.mem_cons_self htype
      rw [Standing.account_none _ (by simp), Account.append_empty]
      exact
        { h.lose (List.Sublist.refl _) hrest with
          unbegun := fun hnot => absurd (h.begun_of (Or.inl (by simp))) hnot
          host_role := by simp
          initiating := by simp
          confirming := by
            rintro received hreceived
            cases hreceived
            exact hsequence
          attempting := fun _ => hdone
          unopened := fun hnot =>
            ⟨by simp, ((h.lose (List.Sublist.refl _) hrest).unopened hnot).2⟩
          opened := fun hopen => absurd rfl (h.opened hopen).1
          hostDealt := by simp }
  | opens => exact absurd rfl (h.host_role _)
  | @completes received frame htype =>
      have hopen := h.opened_of List.mem_cons_self (by rw [htype]; decide)
      have hdone := h.attempting (Or.inr ⟨received, rfl⟩)
      obtain rfl := h.confirming received rfl
      subst hdone
      rw [Standing.account_opens (by simp) rfl, Account.append_empty]
      exact h.host_exchanges hrest (by simp) hopen (h.flows.lose (List.Sublist.refl _) hrest)
        (.initial _ _)
  | @proves received frame htype hsequence =>
      have hopen := h.opened_of List.mem_cons_self (by rw [htype]; decide)
      have hdone := h.attempting (Or.inr ⟨received, rfl⟩)
      obtain rfl := h.confirming received rfl
      subst hdone
      -- It is the exchange with nothing done yet, and its first message.
      obtain ⟨hflows, hdealt⟩ := h.flows.deal (.initial _ _) (.places htype hsequence rfl)
      rw [Standing.account_places rfl] at hflows hdealt
      rw [Standing.account_enters (by simp)]
      exact h.host_exchanges hrest (by simp) hopen hflows hdealt
  | @deals x y _ hdeals =>
      have hopen : opened := by
        by_contra hnot
        exact (h.unopened hnot).1 x rfl
      obtain ⟨hflows, hdealt⟩ := h.flows.deal (h.hostDealt x rfl) hdeals
      exact h.host_exchanges hrest (by simp) hopen hflows hdealt

/-- A frame behind the INITIATEs. -/
theorem host_says_late
    (h : Joint hostFirst rigFirst host rig begun opened hostDone rigDone toRig toHost)
    {frame : Frame} (htype : frame.type ≠ .initiate) (hin : host ≠ .outside)
    (hlate : host ≠ .initiating)
    (hflows : Flows (hostFirst + 1) rigFirst hostDone rigDone (toRig ++ [frame]) toHost) :
    Joint hostFirst rigFirst host rig begun opened hostDone rigDone (toRig ++ [frame]) toHost :=
  { h with
    unbegun := fun hnot => absurd (h.begun_of (Or.inl hin)) hnot
    order := h.order.append_late htype
    initiates := List.forall_mem_append.mpr
      ⟨h.initiates, List.forall_mem_singleton.mpr fun hinitiate => absurd hinitiate htype⟩
    initiating := fun hinit => absurd hinit hlate
    opened := fun hopen => ⟨hlate,
      List.forall_mem_append.mpr ⟨(h.opened hopen).2, List.forall_mem_singleton.mpr htype⟩⟩
    flows := hflows }

/-- What the host says keeps the agreement. -/
theorem host_sends
    (h : Joint hostFirst rigFirst host rig begun opened hostDone rigDone toRig toHost)
    {frame : Frame} (hsaid : Says hostFirst frame host) :
    Joint hostFirst rigFirst host rig begun opened hostDone rigDone (toRig ++ [frame])
      toHost := by
  cases hsaid with
  | initiate htype hsequence =>
      have hall : ∀ other ∈ toRig ++ [frame], other.type = .initiate :=
        List.forall_mem_append.mpr ⟨h.initiating rfl, List.forall_mem_singleton.mpr htype⟩
      exact
        { h with
          unbegun := fun hnot => absurd (h.begun_of (Or.inl (by simp))) hnot
          order := .of_early hall
          initiates := List.forall_mem_append.mpr
            ⟨h.initiates, List.forall_mem_singleton.mpr fun _ => hsequence⟩
          initiating := fun _ => hall
          opened := fun hopen => absurd rfl (h.opened hopen).1
          flows := h.flows.say (by rw [htype]; decide) (by rw [htype]; decide) }
  | response => exact absurd rfl (h.host_role _)
  | confirm htype =>
      exact h.host_says_late (by rw [htype]; decide) (by simp) (by simp)
        (h.flows.say (by rw [htype]; decide) (by rw [htype]; decide))
  | tells htells =>
      refine h.host_says_late ?_ (by simp) (by simp) (h.flows.tell (h.hostDealt _ rfl) htells)
      cases htells with
      | ack htype => rw [htype]; decide
      | message htype => rw [htype]; decide

/-! ### The rig -/

theorem rig_leaves
    (h : Joint hostFirst rigFirst host rig begun opened hostDone rigDone toRig toHost) :
    Joint hostFirst rigFirst host .outside begun opened hostDone rigDone toRig toHost :=
  { h with
    unbegun := fun hnot =>
      ⟨(h.unbegun hnot).1, (h.unbegun hnot).2.1, rfl, (h.unbegun hnot).2.2.2⟩
    rig_role := ⟨by simp, by simp⟩
    bound := by simp
    unopened := fun hnot => ⟨(h.unopened hnot).1, by simp, (h.unopened hnot).2.2⟩
    rigDealt := by simp }

theorem rig_exchanges {rest : List Frame} {x : Dealings} {done : Account}
    (h : Joint hostFirst rigFirst host rig begun opened hostDone rigDone toRig toHost)
    (hrest : List.Sublist rest toRig) (hin : rig ≠ .outside) (hlate : host ≠ .initiating)
    (hnone : ∀ frame ∈ rest, frame.type ≠ .initiate)
    (hflows : Flows (hostFirst + 1) rigFirst hostDone done rest toHost)
    (hdealt : Dealt rigFirst (hostFirst + 1) x done) :
    Joint hostFirst rigFirst host (.exchanging x) begun True hostDone done rest toHost :=
  { h.lose hrest (List.Sublist.refl _) with
    unbegun := fun hnot => absurd (h.begun_of (Or.inr (Or.inl hin))) hnot
    rig_role := ⟨by simp, by simp⟩
    bound := by simp
    unopened := fun hnot => absurd trivial hnot
    opened := fun _ => ⟨hlate, hnone⟩
    rigDealt := by
      rintro y hy
      cases hy
      exact hdealt
    flows := hflows }

/-- The rig is established. -/
inductive Opens : Standing → Standing → Prop
  | mk {received : UInt16} {x : Dealings} : Opens (.bound received) (.exchanging x)

/-- A step of the rig keeps the agreement. -/
theorem rig_acts {taken : Option Frame} {rest : List Frame} {rig' : Standing}
    (h : Joint hostFirst rigFirst host rig begun opened hostDone rigDone
      (taken.toList ++ rest) toHost)
    (hacts : Acts .rig rigFirst rig taken rig') :
    ∃ opened' : Prop, (opened' → opened ∨ Opens rig rig') ∧
      Joint hostFirst rigFirst host rig' begun opened' hostDone (rigDone.append (rig.account rig'))
        rest toHost := by
  have hrest : List.Sublist rest (taken.toList ++ rest) := List.sublist_append_right _ _
  cases hacts with
  | stays =>
      rw [Standing.account_self, Account.append_empty]
      exact ⟨opened, Or.inl, h⟩
  | leaves =>
      rw [Standing.account_none _ (by simp), Account.append_empty]
      exact ⟨opened, Or.inl, h.rig_leaves⟩
  | @adopts frame _ htype =>
      have hsequence := h.initiates frame List.mem_cons_self htype
      have hshut : ¬ opened := fun hopen => (h.opened hopen).2 frame List.mem_cons_self htype
      rw [Standing.account_none _ (by simp), Account.append_empty]
      exact ⟨opened, Or.inl,
        { h.lose hrest (List.Sublist.refl _) with
          unbegun := fun hnot => absurd (h.begun_of (Or.inr (Or.inr (Or.inl (by simp))))) hnot
          rig_role := ⟨by simp, by simp⟩
          bound := by
            rintro received hreceived
            cases hreceived
            exact ⟨hsequence, hshut⟩
          unopened := fun hnot => ⟨(h.unopened hnot).1, by simp, (h.unopened hnot).2.2⟩
          rigDealt := by simp }⟩
  | responds => exact absurd rfl h.rig_role.1
  | @opens received frame htype hsequence =>
      obtain ⟨rfl, hshut⟩ := h.bound received rfl
      have hdone := (h.unopened hshut).2.2.1
      have hne : frame.type ≠ .initiate := by rw [htype]; decide
      -- No INITIATE is behind the CONFIRM, and the host is past its own.
      have hlate := h.order.all_late hne
      subst hdone
      rw [Standing.account_opens (by simp) rfl, hsequence, Account.append_empty]
      refine ⟨True, fun _ => Or.inr .mk, h.rig_exchanges hrest (by simp) ?_ ?_
        (h.flows.lose hrest (List.Sublist.refl _)) (.initial _ _)⟩
      · exact fun hinit => hne (h.initiating hinit frame List.mem_cons_self)
      · exact fun other hother => hlate other (List.mem_cons_of_mem _ hother)
  | completes => exact absurd rfl (h.rig_role.2 _)
  | proves => exact absurd rfl (h.rig_role.2 _)
  | @deals x y _ hdeals =>
      have hopen : opened := by
        by_contra hnot
        exact (h.unopened hnot).2.1 x rfl
      obtain ⟨hlate, hnone⟩ := h.opened hopen
      obtain ⟨hflows, hdealt⟩ := h.flows.symm.deal (h.rigDealt x rfl) hdeals
      exact ⟨True, fun _ => Or.inl hopen, h.rig_exchanges hrest (by simp) hlate
        (fun other hother => hnone other (hrest.subset hother)) hflows.symm hdealt⟩

/-- What the rig says keeps the agreement. -/
theorem rig_sends
    (h : Joint hostFirst rigFirst host rig begun opened hostDone rigDone toRig toHost)
    {frame : Frame} (hsaid : Says rigFirst frame rig) :
    Joint hostFirst rigFirst host rig begun opened hostDone rigDone toRig
      (toHost ++ [frame]) := by
  cases hsaid with
  | initiate => exact absurd rfl h.rig_role.1
  | response htype hsequence =>
      exact
        { h with
          unbegun := fun hnot => absurd (h.begun_of (Or.inr (Or.inl (by simp)))) hnot
          responses := List.forall_mem_append.mpr
            ⟨h.responses, List.forall_mem_singleton.mpr fun _ => hsequence⟩
          unopened := by
            intro hnot
            obtain ⟨hoff, roff, hdone, hall⟩ := h.unopened hnot
            exact ⟨hoff, roff, hdone,
              List.forall_mem_append.mpr ⟨hall, List.forall_mem_singleton.mpr htype⟩⟩
          flows := (h.flows.symm.say (by rw [htype]; decide) (by rw [htype]; decide)).symm }
  | confirm => exact absurd rfl (h.rig_role.2 _)
  | @tells x htells =>
      have hne : frame.type ≠ .response := by
        cases htells with
        | ack htype => rw [htype]; decide
        | message htype => rw [htype]; decide
      exact
        { h with
          unbegun := fun hnot => absurd (h.begun_of (Or.inr (Or.inl (by simp)))) hnot
          responses := List.forall_mem_append.mpr
            ⟨h.responses, List.forall_mem_singleton.mpr fun htype => absurd htype hne⟩
          unopened := fun hnot => absurd rfl ((h.unopened hnot).2.1 x)
          flows := (h.flows.symm.tell (h.rigDealt x rfl) htells).symm }

end Joint

/-! ## What the parties have in common -/

/-- Two parties that exchange expect the next payload of each other, or the one after it
    while the peer still has the last. -/
theorem Flows.in_step {own peer : UInt16} {mine theirs : Account} {outbound inbound : List Frame}
    (h : Flows own peer mine theirs outbound inbound) {x y : Dealings}
    (hx : Dealt own peer x mine) (hy : Dealt peer own y theirs) :
    y.lastReceived + 1 = x.nextTransmit ∨
      y.lastReceived + 1 = x.nextTransmit + 1 ∧ x.outgoing ≠ none := by
  rw [hy.last, hx.next, ← mark_succ, ← mark_succ]
  rcases h.sends.length_accepted with hall | hone
  · exact Or.inl (congrArg (fun k => mark own (k + 1)) hall)
  · refine Or.inr ⟨congrArg (fun k => mark own (k + 1)) hone, fun hnone => ?_⟩
    have hle := h.sends.accepted.length_le
    have hidle := hx.idle hnone
    dsimp only [Account.towards] at hle hone
    omega

end HilRigProtocol.Transport
