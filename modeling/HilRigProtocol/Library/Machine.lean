/-
  Deterministic machines with inputs and outputs.

  A machine is its step function. `run` feeds it a list of inputs; the rules below
  lift a fact about one step to every run: an invariant, a property of every output,
  and a refinement by a function of the states.
-/
import Mathlib.Algebra.GroupWithZero.Nat
import Mathlib.Data.List.Iterate
import Mathlib.Data.List.Nodup
import Mathlib.Data.Nat.ModEq
import Mathlib.Tactic.Common

namespace HilRigProtocol.Library

variable {σ τ ι ο : Type*}

/-- The outputs and the last state of a run. -/
def run (step : σ → ι → ο × σ) (state : σ) : List ι → List ο × σ
  | [] => ([], state)
  | input :: rest =>
      let next := step state input
      let last := run step next.2 rest
      (next.1 :: last.1, last.2)

theorem run_nil (step : σ → ι → ο × σ) (state : σ) : run step state [] = ([], state) := rfl

theorem run_cons (step : σ → ι → ο × σ) (state : σ) (input : ι) (rest : List ι) :
    run step state (input :: rest) =
      ((step state input).1 :: (run step (step state input).2 rest).1,
        (run step (step state input).2 rest).2) := rfl

theorem run_append (step : σ → ι → ο × σ) (state : σ) (first second : List ι) :
    run step state (first ++ second) =
      ((run step state first).1 ++ (run step (run step state first).2 second).1,
        (run step (run step state first).2 second).2) := by
  induction first generalizing state with
  | nil => rfl
  | cons input rest ih =>
      rw [List.cons_append, run_cons, run_cons, ih]
      rfl

/-- The states of a run, each with the input that it takes. -/
def visits (step : σ → ι → ο × σ) (state : σ) : List ι → List (σ × ι)
  | [] => []
  | input :: rest => (state, input) :: visits step (step state input).2 rest

theorem visits_append (step : σ → ι → ο × σ) (state : σ) (first second : List ι) :
    visits step state (first ++ second) =
      visits step state first ++ visits step (run step state first).2 second := by
  induction first generalizing state with
  | nil => rfl
  | cons input rest ih =>
      rw [List.cons_append, visits, visits, ih, run_cons]
      rfl

theorem mem_visits {step : σ → ι → ο × σ} {inputs : List ι} {state : σ} {visit : σ × ι}
    (h : visit ∈ visits step state inputs) : visit.2 ∈ inputs := by
  induction inputs generalizing state with
  | nil => cases h
  | cons input rest ih =>
      rcases List.mem_cons.mp h with rfl | hrest
      · exact List.mem_cons_self
      · exact List.mem_cons_of_mem _ (ih hrest)

/-- What every step keeps, every run keeps. -/
theorem run_invariant {step : σ → ι → ο × σ} {Inv : σ → Prop}
    (hstep : ∀ state input, Inv state → Inv (step state input).2) {state : σ} (h : Inv state)
    (inputs : List ι) : Inv (run step state inputs).2 := by
  induction inputs generalizing state with
  | nil => exact h
  | cons input rest ih =>
      rw [run_cons]
      exact ih (hstep state input h)

/-- What the steps of a run keep holds of all its states. -/
theorem visits_invariant {step : σ → ι → ο × σ} {Inv : σ → Prop} {inputs : List ι} {state : σ}
    (h : Inv state)
    (hstep : ∀ visit ∈ visits step state inputs, Inv visit.1 → Inv (step visit.1 visit.2).2) :
    ∀ visit ∈ visits step state inputs, Inv visit.1 := by
  induction inputs generalizing state with
  | nil =>
      intro visit hmem
      cases hmem
  | cons input rest ih =>
      rw [visits, List.forall_mem_cons] at hstep ⊢
      exact ⟨h, ih (hstep.1 h) hstep.2⟩

/-- A property that the steps of a run keep holds where the run leads. -/
theorem visits_last {step : σ → ι → ο × σ} {Inv : σ → Prop} {inputs : List ι} {state : σ}
    (h : Inv state)
    (hstep : ∀ visit ∈ visits step state inputs, Inv visit.1 → Inv (step visit.1 visit.2).2) :
    Inv (run step state inputs).2 := by
  induction inputs generalizing state with
  | nil => exact h
  | cons input rest ih =>
      rw [visits, List.forall_mem_cons] at hstep
      rw [run_cons]
      exact ih (hstep.1 h) hstep.2

theorem visits_head {step : σ → ι → ο × σ} {inputs : List ι} {state : σ} {visit : σ × ι}
    {after : List (σ × ι)} (h : visits step state inputs = visit :: after) : visit.1 = state := by
  cases inputs with
  | nil => cases h
  | cons input rest =>
      rw [visits] at h
      injection h with hvisit
      rw [← hvisit]

/-- A property has held since the start of the visits, or since its last cause among them. -/
def Since (P : σ → Prop) (Cause : σ × ι → Prop) (start : σ) (visited : List (σ × ι)) : Prop :=
  P start ∨ ∃ earlier cause later, visited = earlier ++ cause :: later ∧ Cause cause ∧
    ∀ since ∈ later, P since.1

theorem visits_since {step : σ → ι → ο × σ} {P : σ → Prop} {Cause : σ × ι → Prop}
    {inputs : List ι} {state : σ}
    (hstep : ∀ visit ∈ visits step state inputs,
      P (step visit.1 visit.2).2 → P visit.1 ∨ Cause visit)
    {before after : List (σ × ι)} {visit : σ × ι}
    (hsplit : visits step state inputs = before ++ visit :: after) (hvisit : P visit.1) :
    Since P Cause state before := by
  -- Induction on the inputs: the property holds all the way from the start of the rest, or
  -- the rest has a last cause.
  have hall : (∀ since ∈ before, P since.1) ∨ ∃ earlier cause later,
      before = earlier ++ cause :: later ∧ Cause cause ∧ ∀ since ∈ later, P since.1 := by
    induction inputs generalizing state before with
    | nil => cases before <;> cases hsplit
    | cons input rest ih =>
        cases before with
        | nil =>
            refine Or.inl ?_
            intro since hmem
            cases hmem
        | cons first earlier =>
            rw [visits, List.cons_append] at hsplit
            rw [visits, List.forall_mem_cons] at hstep
            injection hsplit with hfirst hrest
            rcases ih hstep.2 hrest with hheld | ⟨pre, cause, later, heq, hcause, hlater⟩
            · have hnext : P (step state input).2 := by
                cases earlier with
                | nil =>
                    rw [← visits_head hrest]
                    exact hvisit
                | cons second others =>
                    rw [← visits_head hrest]
                    exact hheld second List.mem_cons_self
              rcases hstep.1 hnext with hbefore | hcause
              · refine Or.inl ?_
                rw [List.forall_mem_cons, ← hfirst]
                exact ⟨hbefore, hheld⟩
              · rw [hfirst] at hcause
                exact Or.inr ⟨[], first, earlier, rfl, hcause, hheld⟩
            · exact Or.inr ⟨first :: pre, cause, later, by rw [heq, List.cons_append], hcause,
                hlater⟩
  rcases hall with hheld | hcause
  · refine Or.inl ?_
    cases before with
    | nil =>
        rw [← visits_head hsplit]
        exact hvisit
    | cons first earlier =>
        rw [← visits_head hsplit]
        exact hheld first List.mem_cons_self
  · exact Or.inr hcause

/-- What holds where a run leads held at its start, or has a cause in it. -/
theorem visits_origin {step : σ → ι → ο × σ} {P : σ → Prop} {Cause : σ × ι → Prop}
    {inputs : List ι} {state : σ}
    (hstep : ∀ visit ∈ visits step state inputs,
      P (step visit.1 visit.2).2 → P visit.1 ∨ Cause visit)
    (hlast : P (run step state inputs).2) :
    P state ∨ ∃ cause ∈ visits step state inputs, Cause cause := by
  induction inputs generalizing state with
  | nil => exact Or.inl hlast
  | cons input rest ih =>
      rw [visits, List.forall_mem_cons] at hstep
      rw [run_cons] at hlast
      rcases ih hstep.2 hlast with hnext | ⟨cause, hmem, hcause⟩
      · rcases hstep.1 hnext with hbefore | hcause
        · exact Or.inl hbefore
        · exact Or.inr ⟨_, List.mem_cons_self, hcause⟩
      · exact Or.inr ⟨cause, List.mem_cons_of_mem _ hmem, hcause⟩

/-- What the steps of a run gain and lose, its first and its last state differ by. -/
theorem visits_balance {step : σ → ι → ο × σ} {measure : σ → Nat} {gain loss : σ × ι → Nat}
    {inputs : List ι} {state : σ}
    (hstep : ∀ visit ∈ visits step state inputs,
      measure visit.1 + gain visit = measure (step visit.1 visit.2).2 + loss visit) :
    measure state + ((visits step state inputs).map gain).sum =
      measure (run step state inputs).2 + ((visits step state inputs).map loss).sum := by
  induction inputs generalizing state with
  | nil => rfl
  | cons input rest ih =>
      rw [visits, List.forall_mem_cons] at hstep
      have hfirst := hstep.1
      have hrest := ih hstep.2
      dsimp only at hfirst
      rw [visits, run_cons, List.map_cons, List.map_cons, List.sum_cons, List.sum_cons]
      dsimp only
      omega

/-- What enters a queue in a run leaves it in order, or is still in it. -/
theorem visits_queue {α : Type*} {step : σ → ι → ο × σ} {queue : σ → List α}
    {enters leaves : σ × ι → List α} {inputs : List ι} {state : σ}
    (hstep : ∀ visit ∈ visits step state inputs,
      queue visit.1 ++ enters visit = leaves visit ++ queue (step visit.1 visit.2).2) :
    queue state ++ (visits step state inputs).flatMap enters =
      (visits step state inputs).flatMap leaves ++ queue (run step state inputs).2 := by
  induction inputs generalizing state with
  | nil => exact List.append_nil _
  | cons input rest ih =>
      rw [visits, List.forall_mem_cons] at hstep
      have hfirst := hstep.1
      have hrest := ih hstep.2
      dsimp only at hfirst
      rw [visits, run_cons, List.flatMap_cons, List.flatMap_cons, ← List.append_assoc, hfirst,
        List.append_assoc, hrest, List.append_assoc]

/-- What enters in a run is numbered in turn. -/
theorem visits_iterate {α : Type*} {step : σ → ι → ο × σ} {number : σ → α} {next : α → α}
    {enters : σ × ι → List α} {inputs : List ι} {state : σ}
    (hstep : ∀ visit ∈ visits step state inputs,
      enters visit = [] ∧ number (step visit.1 visit.2).2 = number visit.1 ∨
        enters visit = [number visit.1] ∧
          number (step visit.1 visit.2).2 = next (number visit.1)) :
    (visits step state inputs).flatMap enters =
      List.iterate next (number state) ((visits step state inputs).flatMap enters).length := by
  induction inputs generalizing state with
  | nil => rfl
  | cons input rest ih =>
      rw [visits, List.forall_mem_cons] at hstep
      have hrest := ih hstep.2
      rw [visits, List.flatMap_cons]
      rcases hstep.1 with ⟨hnone, hsame⟩ | ⟨hone, hnext⟩
      · dsimp only at hnone hsame
        rw [hsame] at hrest
        rw [hnone, List.nil_append]
        exact hrest
      · dsimp only at hone hnext
        rw [hnext] at hrest
        rw [hone, List.singleton_append, List.length_cons, List.iterate, ← hrest]

section Rotation

variable {α : Type*} {next : α → α} {Valid : α → Prop} {index : α → Nat} {size : Nat}

/-- Along the iterates of `next` the index counts modulo `size`. -/
theorem index_iterate (hvalid : ∀ a, Valid a → Valid (next a))
    (hindex : ∀ a, Valid a → index (next a) = (index a + 1) % size) {a : α} (ha : Valid a)
    (hlt : index a < size) (n : Nat) : index (next^[n] a) = (index a + n) % size := by
  have hall : ∀ n, Valid (next^[n] a) ∧ index (next^[n] a) = (index a + n) % size := by
    intro n
    induction n with
    | zero => exact ⟨ha, (Nat.mod_eq_of_lt hlt).symm⟩
    | succ n ih =>
        rw [Function.iterate_succ_apply']
        refine ⟨hvalid _ ih.1, ?_⟩
        rw [hindex _ ih.1, ih.2, Nat.mod_add_mod, Nat.add_assoc]
  exact (hall n).2

/-- Within one round the iterates are distinct. -/
theorem nodup_iterate (hvalid : ∀ a, Valid a → Valid (next a))
    (hindex : ∀ a, Valid a → index (next a) = (index a + 1) % size) {a : α} (ha : Valid a)
    (hlt : index a < size) {n : Nat} (hn : n ≤ size) : (List.iterate next a n).Nodup := by
  rw [← List.range_map_iterate]
  refine List.Nodup.map_on ?_ List.nodup_range
  intro i hi j hj hsame
  rw [List.mem_range] at hi hj
  have hmod : (index a + i) % size = (index a + j) % size := by
    rw [← index_iterate hvalid hindex ha hlt, ← index_iterate hvalid hindex ha hlt, hsame]
  exact Nat.ModEq.eq_of_lt_of_lt (Nat.ModEq.add_left_cancel' _ hmod) (by omega) (by omega)

/-- A window of the iterates is a list of iterates. -/
theorem iterate_of_infix {a : α} {n : Nat} {window : List α}
    (h : window <:+: List.iterate next a n) :
    ∃ m, window = List.iterate next (next^[m] a) window.length := by
  obtain ⟨before, after, heq⟩ := h
  have hlength := congrArg List.length heq
  rw [List.length_append, List.length_append, List.length_iterate] at hlength
  rw [← hlength, List.iterate_add, List.iterate_add, List.append_assoc, List.append_assoc] at heq
  have hrest := List.append_inj_right heq (by rw [List.length_iterate])
  exact ⟨before.length, List.append_inj_left hrest (by rw [List.length_iterate])⟩

end Rotation

/-- What holds of the states of a run and where it leads holds after each of its steps. -/
theorem visits_next {step : σ → ι → ο × σ} {P : σ → Prop} {inputs : List ι} {state : σ}
    (hall : ∀ visit ∈ visits step state inputs, P visit.1) (hlast : P (run step state inputs).2) :
    ∀ visit ∈ visits step state inputs, P (step visit.1 visit.2).2 := by
  induction inputs generalizing state with
  | nil =>
      intro visit hmem
      cases hmem
  | cons input rest ih =>
      rw [visits, List.forall_mem_cons] at hall ⊢
      rw [run_cons] at hlast
      refine ⟨?_, ih hall.2 hlast⟩
      cases rest with
      | nil => exact hlast
      | cons second others => exact hall.2 _ List.mem_cons_self

/-- What stands between two visits of a run is a run. -/
theorem visits_split {step : σ → ι → ο × σ} {inputs : List ι} {state : σ}
    {before after : List (σ × ι)} (h : visits step state inputs = before ++ after) :
    ∃ first second, inputs = first ++ second ∧ before = visits step state first ∧
      after = visits step (run step state first).2 second := by
  induction before generalizing state inputs with
  | nil => exact ⟨[], inputs, rfl, rfl, h.symm⟩
  | cons visit before ih =>
      cases inputs with
      | nil => cases h
      | cons input rest =>
          rw [visits, List.cons_append] at h
          injection h with hvisit hrest
          obtain ⟨first, second, rfl, rfl, rfl⟩ := ih hrest
          refine ⟨input :: first, second, rfl, ?_, rfl⟩
          rw [visits, hvisit]

theorem visits_tail {step : σ → ι → ο × σ} {inputs : List ι} {state : σ}
    {before after : List (σ × ι)} {visit : σ × ι}
    (h : visits step state inputs = before ++ visit :: after) :
    ∃ rest, after = visits step (step visit.1 visit.2).2 rest := by
  obtain ⟨_, second, _, _, hsecond⟩ := visits_split h
  cases second with
  | nil => cases hsecond
  | cons input rest =>
      rw [visits] at hsecond
      injection hsecond with hvisit hafter
      exact ⟨rest, by rw [hvisit, hafter]⟩

/-- A measure that the visits of one kind raise by one, and no others, counts them. -/
theorem visits_count {step : σ → ι → ο × σ} {measure : σ → Nat} {kind : σ × ι → Bool}
    {inputs : List ι} {state : σ}
    (hstep : ∀ visit ∈ visits step state inputs,
      measure (step visit.1 visit.2).2 = measure visit.1 + (kind visit).toNat) :
    measure state + ((visits step state inputs).filter kind).length =
      measure (run step state inputs).2 := by
  induction inputs generalizing state with
  | nil => rfl
  | cons input rest ih =>
      rw [visits, List.forall_mem_cons] at hstep
      have hfirst := hstep.1
      have hrest := ih hstep.2
      dsimp only at hfirst
      rw [visits, run_cons, ← hrest, hfirst, List.filter_cons]
      cases kind (state, input) with
      | true =>
          rw [if_pos rfl, List.length_cons]
          simp only [Bool.toNat_true]
          omega
      | false =>
          rw [if_neg (by simp)]
          simp only [Bool.toNat_false]
          omega

/-- What every step from an invariant state outputs, every run outputs. -/
theorem run_output {step : σ → ι → ο × σ} {Inv : σ → Prop} {Out : ο → Prop}
    (hstep : ∀ state input, Inv state → Inv (step state input).2)
    (hout : ∀ state input, Inv state → Out (step state input).1) {state : σ} (h : Inv state)
    (inputs : List ι) : ∀ output ∈ (run step state inputs).1, Out output := by
  induction inputs generalizing state with
  | nil =>
      intro output hmem
      cases hmem
  | cons input rest ih =>
      rw [run_cons]
      intro output hmem
      rcases List.mem_cons.mp hmem with rfl | hmem
      · exact hout state input h
      · exact ih (hstep state input h) output hmem

/-- Two machines that look alike step by step look alike in every run. -/
theorem run_alike {ω : Type*} {first : σ → ι → ο × σ} {second : τ → ι → ο × τ}
    {Alike : σ → τ → Prop} {view : ο → ω}
    (hstep : ∀ state other input, Alike state other →
      view (first state input).1 = view (second other input).1 ∧
        Alike (first state input).2 (second other input).2)
    {state : σ} {other : τ} (h : Alike state other) (inputs : List ι) :
    (run first state inputs).1.map view = (run second other inputs).1.map view ∧
      Alike (run first state inputs).2 (run second other inputs).2 := by
  induction inputs generalizing state other with
  | nil => exact ⟨rfl, h⟩
  | cons input rest ih =>
      obtain ⟨hview, hnext⟩ := hstep state other input h
      obtain ⟨hrest, hlast⟩ := ih hnext
      rw [run_cons, run_cons, List.map_cons, List.map_cons, hview, hrest]
      exact ⟨rfl, hlast⟩

/-- A machine that does in the image of `f` what another does has the same runs. -/
theorem run_refines {step : σ → ι → ο × σ} {abstractStep : τ → ι → ο × τ} {f : τ → σ}
    {Inv : τ → Prop} (hinv : ∀ state input, Inv state → Inv (abstractStep state input).2)
    (hsim : ∀ state input, Inv state →
      step (f state) input = ((abstractStep state input).1, f (abstractStep state input).2))
    {state : τ} (h : Inv state) (inputs : List ι) :
    run step (f state) inputs =
      ((run abstractStep state inputs).1, f (run abstractStep state inputs).2) := by
  induction inputs generalizing state with
  | nil => rfl
  | cons input rest ih =>
      rw [run_cons, hsim state input h, ih (hinv state input h)]
      rfl

/-! ## Inputs that change nothing -/

/-- The entries that carry no mark. -/
def unmarked {α : Type*} (entries : List (α × Bool)) : List α :=
  (entries.filter fun entry => !entry.2).map Prod.fst

theorem unmarked_cons_true {α : Type*} (a : α) (rest : List (α × Bool)) :
    unmarked ((a, true) :: rest) = unmarked rest := rfl

theorem unmarked_cons_false {α : Type*} (a : α) (rest : List (α × Bool)) :
    unmarked ((a, false) :: rest) = a :: unmarked rest := rfl

/-- A machine that hands the mark of an input on to its output. -/
def markedStep (step : σ → ι → ο × σ) (state : σ) (entry : ι × Bool) : (ο × Bool) × σ :=
  (((step state entry.1).1, entry.2), (step state entry.1).2)

/-- A run from which the marked inputs are left out has the outputs of the others and leads
    to the same state, if no marked input changes the state that takes it. -/
theorem run_unmarked {step : σ → ι → ο × σ} {entries : List (ι × Bool)} {state : σ}
    (hsame : ∀ visit ∈ visits (markedStep step) state entries, visit.2.2 = true →
      (step visit.1 visit.2.1).2 = visit.1) :
    run step state (unmarked entries) =
      (unmarked (run (markedStep step) state entries).1,
        (run (markedStep step) state entries).2) := by
  induction entries generalizing state with
  | nil => rfl
  | cons entry rest ih =>
      obtain ⟨input, mark⟩ := entry
      rw [visits, List.forall_mem_cons] at hsame
      have hrest := ih hsame.2
      rw [run_cons]
      cases mark with
      | true =>
          have hstate : (markedStep step state (input, true)).2 = state := hsame.1 rfl
          rw [hstate] at hrest ⊢
          rw [unmarked_cons_true, hrest]
          rfl
      | false =>
          rw [unmarked_cons_false, run_cons]
          have hnext : (markedStep step state (input, false)).2 = (step state input).2 := rfl
          rw [hnext] at hrest
          rw [hrest]
          rfl

end HilRigProtocol.Library
