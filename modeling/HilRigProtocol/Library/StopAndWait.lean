/-
  Stop-and-wait between two FIFO channels that lose.

  A sender hands over its payloads one at a time, each under the next mark, and repeats the
  open one as often as it likes; its receiver takes the payload whose mark comes next and
  answers with the mark of the last one it took. Marks may come round: it is enough that two
  in turn differ. What each channel holds is of at most two kinds, the older ones in front,
  so a mark that comes next cannot be an old one.
-/
import Mathlib.Data.List.Infix
import Mathlib.Tactic.Common

namespace HilRigProtocol.Library

/-! ## A queue that passes from one kind to the next -/

variable {α β ν : Type*}

/-- The queue holds `early` entries, and behind them `late` ones. -/
def Turns (early late : β → Prop) (queue : List β) : Prop :=
  ∃ front back, queue = front ++ back ∧ (∀ x ∈ front, early x) ∧ ∀ x ∈ back, late x

namespace Turns

variable {early late : β → Prop} {queue : List β}

theorem of_early (h : ∀ x ∈ queue, early x) : Turns early late queue :=
  ⟨queue, [], (List.append_nil _).symm, h, List.forall_mem_nil _⟩

theorem mono {early' late' : β → Prop} (h : Turns early late queue)
    (hearly : ∀ x, early x → early' x) (hlate : ∀ x, late x → late' x) :
    Turns early' late' queue := by
  obtain ⟨front, back, rfl, hfront, hback⟩ := h
  exact ⟨front, back, rfl, fun x hx => hearly x (hfront x hx), fun x hx => hlate x (hback x hx)⟩

theorem sublist {shorter : List β} (h : Turns early late queue)
    (hsub : List.Sublist shorter queue) : Turns early late shorter := by
  obtain ⟨front, back, rfl, hfront, hback⟩ := h
  obtain ⟨front', back', rfl, hfront', hback'⟩ := List.sublist_append_iff.mp hsub
  exact ⟨front', back', rfl, fun x hx => hfront x (hfront'.subset hx),
    fun x hx => hback x (hback'.subset hx)⟩

/-- Where nothing can be late, everything is early. -/
theorem all_early (h : Turns early late queue) (hnone : ∀ x, ¬ late x) : ∀ x ∈ queue, early x := by
  obtain ⟨front, back, rfl, hfront, hback⟩ := h
  intro x hx
  rcases List.mem_append.mp hx with hx | hx
  · exact hfront x hx
  · exact absurd (hback x hx) (hnone x)

/-- Behind an entry that is not early, everything is late. -/
theorem all_late {x : β} (h : Turns early late (x :: queue)) (hx : ¬ early x) :
    ∀ y ∈ x :: queue, late y := by
  obtain ⟨front, back, heq, hfront, hback⟩ := h
  cases front with
  | nil =>
      rw [heq]
      exact hback
  | cons y front =>
      rw [List.cons_append] at heq
      injection heq with hhead
      exact absurd (hfront x (hhead ▸ List.mem_cons_self)) hx

theorem append_late (h : Turns early late queue) {x : β} (hx : late x) :
    Turns early late (queue ++ [x]) := by
  obtain ⟨front, back, rfl, hfront, hback⟩ := h
  refine ⟨front, back ++ [x], List.append_assoc _ _ _, hfront, ?_⟩
  exact List.forall_mem_append.mpr ⟨hback, List.forall_mem_singleton.mpr hx⟩

theorem append_early (h : Turns early late queue) (hnone : ∀ x, ¬ late x) {x : β}
    (hx : early x) : Turns early late (queue ++ [x]) :=
  of_early (List.forall_mem_append.mpr ⟨h.all_early hnone, List.forall_mem_singleton.mpr hx⟩)

end Turns

/-! ## One direction -/

/-- What the two ends of one direction have done: the payloads handed to the sender, how
    many of them it knows to be accepted, and those that the receiver has accepted. -/
structure Transfer (α : Type*) where
  submitted : List α
  confirmed : Nat
  accepted : List α

namespace Transfer

variable (mark : Nat → ν)

def initial : Transfer α where
  submitted := []
  confirmed := 0
  accepted := []

/-- The entry is payload `k` under its mark. -/
def Carries (t : Transfer α) (k : Nat) (entry : ν × α) : Prop :=
  ∃ payload, t.submitted[k]? = some payload ∧ entry = (mark (k + 1), payload)

/-- The payload accepted last. -/
def Accepted (t : Transfer α) (entry : ν × α) : Prop :=
  ∃ k, t.accepted.length = k + 1 ∧ t.Carries mark k entry

/-- The payload to accept next; there is one only when all accepted ones are confirmed. -/
def Expected (t : Transfer α) (entry : ν × α) : Prop :=
  t.accepted.length = t.confirmed ∧ t.Carries mark t.accepted.length entry

/-- The answer that the sender has had. -/
def Answered (t : Transfer α) (answer : ν) : Prop := answer = mark t.confirmed

/-- The answer to the open payload. -/
def Answer (t : Transfer α) (answer : ν) : Prop :=
  t.accepted.length = t.confirmed + 1 ∧ answer = mark t.accepted.length

/-- The two ends agree, with these payloads on the way to the receiver and these answers on
    the way back. -/
structure Agrees (t : Transfer α) (data : List (ν × α)) (answers : List ν) : Prop where
  accepted : t.accepted <+: t.submitted
  confirmed : t.confirmed ≤ t.accepted.length
  one_open : t.submitted.length ≤ t.confirmed + 1
  data : Turns (t.Accepted mark) (t.Expected mark) data
  answers : Turns (t.Answered mark) (t.Answer mark) answers

namespace Agrees

variable {mark} {t : Transfer α} {data : List (ν × α)} {answers : List ν}

theorem initial : (Transfer.initial : Transfer α).Agrees mark [] [] where
  accepted := List.prefix_rfl
  confirmed := Nat.le_refl _
  one_open := Nat.zero_le _
  data := .of_early (List.forall_mem_nil _)
  answers := .of_early (List.forall_mem_nil _)

theorem length_accepted (h : t.Agrees mark data answers) :
    t.accepted.length = t.confirmed ∨ t.accepted.length = t.confirmed + 1 := by
  have hle := h.accepted.length_le
  have hconfirmed := h.confirmed
  have hone := h.one_open
  omega

/-- Losses do no harm. -/
theorem lose (h : t.Agrees mark data answers) {data' : List (ν × α)} {answers' : List ν}
    (hdata : List.Sublist data' data) (hanswers : List.Sublist answers' answers) :
    t.Agrees mark data' answers' :=
  ⟨h.accepted, h.confirmed, h.one_open, h.data.sublist hdata, h.answers.sublist hanswers⟩

/-- A payload is handed over when none is open. -/
theorem submit (h : t.Agrees mark data answers) (hnone : t.submitted.length = t.confirmed)
    (payload : α) :
    ({ t with submitted := t.submitted ++ [payload] } : Transfer α).Agrees mark data answers := by
  have hkept : ∀ k entry, t.Carries mark k entry →
      ({ t with submitted := t.submitted ++ [payload] } : Transfer α).Carries mark k entry := by
    rintro k entry ⟨other, hother, rfl⟩
    refine ⟨other, ?_, rfl⟩
    dsimp only
    rw [List.getElem?_append_left (List.getElem?_eq_some_iff.mp hother).1]
    exact hother
  refine ⟨h.accepted.trans (List.prefix_append _ _), h.confirmed, ?_, ?_, h.answers⟩
  · rw [List.length_append, hnone]
    exact Nat.le_refl _
  · refine h.data.mono ?_ ?_
    · rintro entry ⟨k, hk, hcarries⟩
      exact ⟨k, hk, hkept k entry hcarries⟩
    · rintro entry ⟨hall, hcarries⟩
      exact ⟨hall, hkept _ entry hcarries⟩

/-- The open payload is sent, for the first time or once more. -/
theorem send (h : t.Agrees mark data answers) {payload : α}
    (hopen : t.submitted[t.confirmed]? = some payload) :
    t.Agrees mark (data ++ [(mark (t.confirmed + 1), payload)]) answers := by
  refine ⟨h.accepted, h.confirmed, h.one_open, ?_, h.answers⟩
  rcases h.length_accepted with hall | hone
  · exact h.data.append_late ⟨hall, payload, hall ▸ hopen, by rw [hall]⟩
  · refine h.data.append_early ?_ ⟨t.confirmed, hone, payload, hopen, rfl⟩
    rintro entry ⟨hall, -⟩
    omega

/-- The receiver answers with the mark of what it took last. -/
theorem answer (h : t.Agrees mark data answers) :
    t.Agrees mark data (answers ++ [mark t.accepted.length]) := by
  refine ⟨h.accepted, h.confirmed, h.one_open, h.data, ?_⟩
  rcases h.length_accepted with hall | hone
  · refine h.answers.append_early ?_ (congrArg mark hall)
    rintro answer ⟨hone, -⟩
    omega
  · exact h.answers.append_late ⟨hone, rfl⟩

/-- The payload under the mark that comes next is the next one. -/
theorem accept (hmark : ∀ k, mark k ≠ mark (k + 1)) {payload : α}
    (h : t.Agrees mark ((mark (t.accepted.length + 1), payload) :: data) answers) :
    ({ t with accepted := t.accepted ++ [payload] } : Transfer α).Agrees mark data answers := by
  have hfresh : ¬ t.Accepted mark (mark (t.accepted.length + 1), payload) := by
    rintro ⟨k, hk, other, -, hsame⟩
    have hfirst := congrArg Prod.fst hsame
    dsimp only at hfirst
    rw [← hk] at hfirst
    exact hmark _ hfirst.symm
  have hlate := h.data.all_late hfresh
  obtain ⟨hall, other, hother, hsame⟩ := hlate _ List.mem_cons_self
  obtain rfl : payload = other := congrArg Prod.snd hsame
  obtain ⟨hlt, hget⟩ := List.getElem?_eq_some_iff.mp hother
  refine ⟨?_, ?_, h.one_open, ?_, ?_⟩
  · dsimp only
    rw [List.prefix_iff_eq_take, List.length_append, List.length_singleton,
      List.take_succ_eq_append_getElem hlt, ← List.prefix_iff_eq_take.mp h.accepted, hget]
  · dsimp only
    rw [List.length_append]
    exact h.confirmed.trans (Nat.le_add_right _ _)
  · refine .of_early fun entry hentry => ?_
    obtain ⟨-, hcarries⟩ := hlate entry (List.mem_cons_of_mem _ hentry)
    exact ⟨t.accepted.length, List.length_append, hcarries⟩
  · refine .of_early (h.answers.all_early ?_)
    rintro answer ⟨hone, -⟩
    omega

/-- The answer with the mark of the open payload means that it is accepted. -/
theorem confirm (hmark : ∀ k, mark k ≠ mark (k + 1))
    (h : t.Agrees mark data (mark (t.confirmed + 1) :: answers)) :
    t.accepted.length = t.confirmed + 1
      ∧ ({ t with confirmed := t.confirmed + 1 } : Transfer α).Agrees mark data answers := by
  have hlate := h.answers.all_late fun hsame => hmark _ hsame.symm
  obtain ⟨hone, -⟩ := hlate _ List.mem_cons_self
  refine ⟨hone, h.accepted, hone.ge, h.one_open.trans (Nat.le_succ _), ?_, ?_⟩
  · refine .of_early (h.data.all_early ?_)
    rintro entry ⟨hall, -⟩
    omega
  · refine .of_early fun answer hanswer => ?_
    obtain ⟨-, hsame⟩ := hlate answer (List.mem_cons_of_mem _ hanswer)
    rw [hsame, hone]
    rfl

end Agrees

end Transfer

end HilRigProtocol.Library
