import Mathlib.Data.List.Forall2

/-!
# Runs and simulation

A system takes labelled steps, and each step shows an observation. `Run step` is a run along a list
of labels. An abstract machine answers each label by a function. `Run.simulates` carries a relation
between the two along a run: when every step from related states shows what the machine answers and
leads to related states, the observations of a whole run are the machine's. The relation may speak of
the labels still to come, so that it can hold what a long run needs (a counter that must not
overflow, arguments that must be valid).

`Run.invariant` is the rule for one system alone, and `Run.exists_of_progress` says when it can run.
`Run.transfers` carries the runs of one system to another, along labels that stand for each other, and
`Run.answers_until` compares two machines of which the second may stop for good.
-/

set_option autoImplicit false
set_option relaxedAutoImplicit false

variable {σ τ ι κ ο : Type}

/-- A run of a system along a list of labels, with what its steps showed. -/
inductive Run (step : σ → ι → ο → σ → Prop) : σ → List ι → List ο → σ → Prop
  | nil {state : σ} : Run step state [] [] state
  | cons {state middle last : σ} {label : ι} {observed : ο} {labels : List ι} {others : List ο}
      (hstep : step state label observed middle) (hrest : Run step middle labels others last) :
      Run step state (label :: labels) (observed :: others) last

namespace Run

/-- What a machine answers along a list of labels, and where it ends. -/
def answers (machine : τ → ι → ο × τ) : τ → List ι → List ο × τ
  | state, [] => ([], state)
  | state, label :: labels =>
    ((machine state label).1 :: (answers machine (machine state label).2 labels).1,
      (answers machine (machine state label).2 labels).2)

theorem simulates {step : σ → ι → ο → σ → Prop} {machine : τ → ι → ο × τ}
    {related : List ι → σ → τ → Prop}
    (hstep : ∀ label labels state middle abstract observed,
      related (label :: labels) state abstract → step state label observed middle →
        observed = (machine abstract label).1 ∧
          related labels middle (machine abstract label).2)
    {state last : σ} {abstract : τ} {labels : List ι} {observed : List ο}
    (hrelated : related labels state abstract) (hrun : Run step state labels observed last) :
    observed = (answers machine abstract labels).1 ∧
      related [] last (answers machine abstract labels).2 := by
  induction hrun generalizing abstract with
  | nil => exact ⟨rfl, hrelated⟩
  | cons hone _ ih =>
    obtain ⟨rfl, hmiddle⟩ := hstep _ _ _ _ _ _ hrelated hone
    obtain ⟨rfl, hlast⟩ := ih hmiddle
    exact ⟨rfl, hlast⟩

/-- A relation that every step keeps, over the labels still to come, holds at the end of a run along
the first of them. -/
theorem invariant {step : σ → ι → ο → σ → Prop} {holds : List ι → σ → Prop}
    (hstep : ∀ label labels state middle observed,
      holds (label :: labels) state → step state label observed middle → holds labels middle)
    {state last : σ} {labels later : List ι} {observed : List ο}
    (hstart : holds (labels ++ later) state) (hrun : Run step state labels observed last) :
    holds later last := by
  induction hrun with
  | nil => exact hstart
  | cons hone _ ih => exact ih (hstep _ _ _ _ _ hstart hone)

/-- When a relation over the labels still to come never leaves the system stuck, there is a run along all
of them. -/
theorem exists_of_progress {step : σ → ι → ο → σ → Prop} {holds : List ι → σ → Prop}
    (hstep : ∀ label labels state, holds (label :: labels) state →
      ∃ observed middle, step state label observed middle ∧ holds labels middle)
    {state : σ} {labels : List ι} (hstart : holds labels state) :
    ∃ observed last, Run step state labels observed last := by
  induction labels generalizing state with
  | nil => exact ⟨[], state, .nil⟩
  | cons label labels ih =>
    obtain ⟨observed, middle, hone, hmiddle⟩ := hstep _ _ _ hstart
    obtain ⟨others, last, hrest⟩ := ih hmiddle
    exact ⟨observed :: others, last, .cons hone hrest⟩

/-- When each step of a system is matched by a step of another, along labels that stand for each other and
with the same observation, so is each run. -/
theorem transfers {step : σ → ι → ο → σ → Prop} {step' : τ → κ → ο → τ → Prop}
    {stands : ι → κ → Prop} {related : σ → τ → Prop}
    (hstep : ∀ label label' state state' middle observed, stands label label' → related state state' →
      step state label observed middle →
        ∃ middle', step' state' label' observed middle' ∧ related middle middle')
    {state last : σ} {state' : τ} {labels : List ι} {labels' : List κ} {observed : List ο}
    (hstands : List.Forall₂ stands labels labels') (hrelated : related state state')
    (hrun : Run step state labels observed last) :
    ∃ last', Run step' state' labels' observed last' ∧ related last last' := by
  induction hrun generalizing state' labels' with
  | nil =>
    cases hstands
    exact ⟨state', .nil, hrelated⟩
  | cons hone _ ih =>
    cases hstands with
    | cons hlabel hlabels =>
      obtain ⟨middle', hone', hmiddle⟩ := hstep _ _ _ _ _ _ hlabel hrelated hone
      obtain ⟨last', hrest, hlast⟩ := ih hlabels hmiddle
      exact ⟨last', .cons hone' hrest, hlast⟩

/-- A machine is asked along two lists, one behind the other. -/
theorem answers_append (machine : τ → ι → ο × τ) (state : τ) (labels more : List ι) :
    answers machine state (labels ++ more) =
      ((answers machine state labels).1 ++ (answers machine (answers machine state labels).2 more).1,
        (answers machine (answers machine state labels).2 more).2) := by
  induction labels generalizing state with
  | nil => rfl
  | cons label labels ih => rw [List.cons_append, answers, answers, ih, List.cons_append]

/-- A machine answers each label once. -/
theorem length_answers (machine : τ → ι → ο × τ) (state : τ) (labels : List ι) :
    (answers machine state labels).1.length = labels.length := by
  induction labels generalizing state with
  | nil => rfl
  | cons label labels ih => rw [answers, List.length_cons, List.length_cons, ih]

/-- A stopped machine fails whatever it is asked, and stays stopped. -/
theorem answers_of_stopped {machine : τ → ι → ο × τ} {stopped : τ → Prop} {fails : ο → Prop}
    (hstopped : ∀ state label, stopped state →
      fails (machine state label).1 ∧ stopped (machine state label).2)
    {state : τ} (hstops : stopped state) (labels : List ι) :
    (∀ observed ∈ (answers machine state labels).1, fails observed) ∧
      stopped (answers machine state labels).2 := by
  induction labels generalizing state with
  | nil => exact ⟨fun _ hmem ↦ absurd hmem List.not_mem_nil, hstops⟩
  | cons label labels ih =>
    obtain ⟨hfails, hnext⟩ := hstopped state label hstops
    exact ⟨List.forall_mem_cons.mpr ⟨hfails, (ih hnext).1⟩, (ih hnext).2⟩

/-- When each answer of a machine is the answer of another one, or misses and leaves it stopped, and a stopped
machine fails whatever it is asked, then the second machine answers as the first does up to some label, misses
there, and fails behind it. -/
theorem answers_until {machine : σ → ι → ο × σ} {machine' : τ → ι → ο × τ} {related : σ → τ → Prop}
    {stopped : τ → Prop} {misses fails : ο → Prop} {allowed : ι → Prop}
    (hstep : ∀ state state' label, allowed label → related state state' →
      (machine' state' label).1 = (machine state label).1 ∧
          related (machine state label).2 (machine' state' label).2 ∨
        misses (machine' state' label).1 ∧ stopped (machine' state' label).2)
    (hstopped : ∀ state' label, stopped state' →
      fails (machine' state' label).1 ∧ stopped (machine' state' label).2)
    {state : σ} {state' : τ} {labels : List ι} (hallowed : ∀ label ∈ labels, allowed label)
    (hrelated : related state state') :
    ∃ kept later, labels = kept ++ later ∧
      (answers machine' state' kept).1 = (answers machine state kept).1 ∧
      related (answers machine state kept).2 (answers machine' state' kept).2 ∧
      ∀ label rest, later = label :: rest →
        misses (machine' (answers machine' state' kept).2 label).1 ∧
          ∀ observed ∈ (answers machine' (machine' (answers machine' state' kept).2 label).2 rest).1,
            fails observed := by
  induction labels generalizing state state' with
  | nil => exact ⟨[], [], rfl, rfl, hrelated, fun _ _ h ↦ by cases h⟩
  | cons label labels ih =>
    obtain ⟨hlabel, hlabels⟩ := List.forall_mem_cons.mp hallowed
    obtain ⟨hsame, hnext⟩ | ⟨hmisses, hstops⟩ := hstep state state' label hlabel hrelated
    · obtain ⟨kept, later, rfl, hkept, hlast, hlater⟩ := ih hlabels hnext
      refine ⟨label :: kept, later, rfl, ?_, hlast, hlater⟩
      rw [answers, answers, hsame, hkept]
    · refine ⟨[], label :: labels, rfl, rfl, hrelated, ?_⟩
      rintro _ _ ⟨⟩
      exact ⟨hmisses, (answers_of_stopped hstopped hstops labels).1⟩

end Run
