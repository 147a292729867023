import Mathlib.Data.Nat.Basic
import Mathlib.Order.Basic

/-!
# Procedures with a mutable state and exceptions

A procedure runs from a state to a state and either returns a value or raises an exception. The
state survives the exception, as it does in an imperative language: what was written before the
exception was raised stays written. `Proc.tryExcept` and `Proc.tryFinally` are the two handlers,
`Proc.zoom` runs a procedure on a part of a larger state, and `Proc.whileLoop` is the while loop,
run on a bound given by a measure of its local variables.

Two kinds of rule follow. The inversion lemmas (`bind_eq_ok`, `raiseIf_bind_eq_ok`, ...) take a
normal return apart into the normal returns of its steps. The triples of `Proc.Triple` describe
every outcome, normal or exceptional, and have one rule for each construct. A loop whose measure
decreases (`Proc.Decreasing`) satisfies the while equation (`whileLoop_unfold`), so the bound is
never what ends it.
-/

set_option autoImplicit false
set_option relaxedAutoImplicit false

/-- A procedure on a state `σ` that returns an `α` or raises an `ε`, with the state it leaves. -/
def Proc (σ ε α : Type) : Type :=
  σ → Except ε α × σ

namespace Proc

variable {σ τ ε α β : Type}

/-! ### The constructs -/

instance : Monad (Proc σ ε) where
  pure value := fun state ↦ (.ok value, state)
  bind first next := fun state ↦
    match first state with
    | (.ok value, after) => next value after
    | (.error error, after) => (.error error, after)

/-- Raise an exception. -/
def raise (error : ε) : Proc σ ε α :=
  fun state ↦ (.error error, state)

/-- Raise an exception when a condition holds. -/
def raiseIf (condition : Prop) [Decidable condition] (error : ε) : Proc σ ε Unit :=
  if condition then raise error else pure ()

/-- A computation that may raise and does not touch the state. -/
def lift (result : Except ε α) : Proc σ ε α :=
  fun state ↦ (result, state)

/-- Read the state. -/
def get : Proc σ ε σ :=
  fun state ↦ (.ok state, state)

/-- Change the state. -/
def modify (change : σ → σ) : Proc σ ε Unit :=
  fun state ↦ (.ok (), change state)

/-- Run `body`; an exception that `catches` accepts runs `handler` in its place. -/
def tryExcept (body : Proc σ ε α) (catches : ε → Bool) (handler : ε → Proc σ ε α) :
    Proc σ ε α :=
  fun state ↦
    match body state with
    | (.ok value, after) => (.ok value, after)
    | (.error error, after) => if catches error then handler error after else (.error error, after)

/-- Run `body` and then `final` whatever the outcome. An exception of `final` replaces the
outcome of `body`. -/
def tryFinally (body : Proc σ ε α) (final : Proc σ ε Unit) : Proc σ ε α :=
  fun state ↦
    match body state with
    | (result, after) =>
      match final after with
      | (.ok _, last) => (result, last)
      | (.error error, last) => (.error error, last)

/-- A part `τ` of a larger state `σ`. -/
structure Part (σ τ : Type) where
  get : σ → τ
  set : τ → σ → σ

/-- Run a procedure on a part of the state. -/
def zoom (part : Part σ τ) (body : Proc τ ε α) : Proc σ ε α :=
  fun state ↦
    match body (part.get state) with
    | (result, after) => (result, part.set after state)

/-- Run a procedure that has a fresh local variable next to the state, and return its value with
the variable. -/
def withLocal (init : τ) (body : Proc (σ × τ) ε α) : Proc σ ε (α × τ) :=
  fun state ↦
    match body (state, init) with
    | (.ok value, after, last) => (.ok (value, last), after)
    | (.error error, after, _) => (.error error, after)

/-- At most `fuel` rounds of a loop on the local variables `β`. -/
def whileFuel (condition : β → Bool) (body : β → Proc σ ε β) : ℕ → β → Proc σ ε β
  | 0, locals => pure locals
  | fuel + 1, locals =>
    if condition locals then body locals >>= whileFuel condition body fuel else pure locals

/-- The loop `while condition: body`, whose rounds are bounded by a measure of its variables. -/
def whileLoop (condition : β → Bool) (body : β → Proc σ ε β) (measure : β → ℕ) (locals : β) :
    Proc σ ε β :=
  whileFuel condition body (measure locals) locals

/-! ### Equations -/

@[simp] theorem pure_apply (value : α) (state : σ) :
    (pure value : Proc σ ε α) state = (.ok value, state) :=
  rfl

@[simp] theorem raise_apply (error : ε) (state : σ) :
    (raise error : Proc σ ε α) state = (.error error, state) :=
  rfl

@[simp] theorem lift_apply (result : Except ε α) (state : σ) :
    (lift result : Proc σ ε α) state = (result, state) :=
  rfl

@[simp] theorem get_apply (state : σ) : (get : Proc σ ε σ) state = (.ok state, state) :=
  rfl

@[simp] theorem modify_apply (change : σ → σ) (state : σ) :
    (modify change : Proc σ ε Unit) state = (.ok (), change state) :=
  rfl

theorem raiseIf_apply (condition : Prop) [Decidable condition] (error : ε) (state : σ) :
    (raiseIf condition error : Proc σ ε Unit) state =
      (if condition then .error error else .ok (), state) := by
  by_cases hcondition : condition <;> simp [raiseIf, hcondition]

/-- A step that returns hands its value and state to the rest. -/
theorem bind_of_ok {first : Proc σ ε α} {next : α → Proc σ ε β} {state after : σ} {value : α}
    (hfirst : first state = (.ok value, after)) : (first >>= next) state = next value after := by
  show (match first state with
    | (.ok value, after) => next value after
    | (.error error, after) => (.error error, after)) = next value after
  rw [hfirst]

/-- A step that raises ends the whole. -/
theorem bind_of_error {first : Proc σ ε α} {next : α → Proc σ ε β} {state after : σ} {error : ε}
    (hfirst : first state = (.error error, after)) :
    (first >>= next) state = (.error error, after) := by
  show (match first state with
    | (.ok value, after) => next value after
    | (.error error, after) => (.error error, after)) = (.error error, after)
  rw [hfirst]

/-- What follows a step depends on the outcome of the step alone. -/
theorem bind_congr {first first' : Proc σ ε α} {next : α → Proc σ ε β} {state : σ}
    (hfirst : first state = first' state) : (first >>= next) state = (first' >>= next) state := by
  rcases hrun : first' state with ⟨error | value, after⟩
  · rw [bind_of_error (hfirst.trans hrun), bind_of_error hrun]
  · rw [bind_of_ok (hfirst.trans hrun), bind_of_ok hrun]

/-- A sequence returns exactly when its first step returns and the rest does from there. -/
theorem bind_eq_ok {first : Proc σ ε α} {next : α → Proc σ ε β} {state last : σ} {value : β} :
    (first >>= next) state = (.ok value, last) ↔
      ∃ middle after, first state = (.ok middle, after) ∧ next middle after = (.ok value, last) := by
  constructor
  · intro h
    rcases hfirst : first state with ⟨_ | middle, after⟩
    · rw [bind_of_error hfirst] at h
      simp at h
    · rw [bind_of_ok hfirst] at h
      exact ⟨middle, after, rfl, h⟩
  · rintro ⟨middle, after, hfirst, hnext⟩
    rw [bind_of_ok hfirst, hnext]

/-- A sequence raises exactly when its first step raises, or returns and the rest raises. -/
theorem bind_eq_error {first : Proc σ ε α} {next : α → Proc σ ε β} {state last : σ} {error : ε} :
    (first >>= next) state = (.error error, last) ↔
      first state = (.error error, last) ∨
        ∃ middle after, first state = (.ok middle, after) ∧
          next middle after = (.error error, last) := by
  constructor
  · intro h
    rcases hfirst : first state with ⟨_ | middle, after⟩
    · rw [bind_of_error hfirst] at h
      simp only [Prod.mk.injEq, Except.error.injEq] at h
      obtain ⟨rfl, rfl⟩ := h
      exact Or.inl rfl
    · rw [bind_of_ok hfirst] at h
      exact Or.inr ⟨middle, after, rfl, h⟩
  · rintro (hfirst | ⟨middle, after, hfirst, hnext⟩)
    · rw [bind_of_error hfirst]
    · rw [bind_of_ok hfirst, hnext]

@[simp] theorem pure_bind_apply (value : α) (next : α → Proc σ ε β) (state : σ) :
    ((pure value : Proc σ ε α) >>= next) state = next value state :=
  rfl

@[simp] theorem get_bind_apply (next : σ → Proc σ ε β) (state : σ) :
    ((get : Proc σ ε σ) >>= next) state = next state state :=
  rfl

@[simp] theorem modify_bind_apply (change : σ → σ) (next : Unit → Proc σ ε β) (state : σ) :
    ((modify change : Proc σ ε Unit) >>= next) state = next () (change state) :=
  rfl

theorem raiseIf_bind_of_pos {condition : Prop} [Decidable condition] (hcondition : condition)
    (error : ε) (next : Unit → Proc σ ε β) (state : σ) :
    ((raiseIf condition error : Proc σ ε Unit) >>= next) state = (.error error, state) :=
  bind_of_error (by rw [raiseIf_apply, if_pos hcondition])

theorem raiseIf_bind_of_neg {condition : Prop} [Decidable condition] (hcondition : ¬ condition)
    (error : ε) (next : Unit → Proc σ ε β) (state : σ) :
    ((raiseIf condition error : Proc σ ε Unit) >>= next) state = next () state :=
  bind_of_ok (by rw [raiseIf_apply, if_neg hcondition])

/-- A guard is passed exactly when its condition fails. -/
theorem raiseIf_bind_eq_ok {condition : Prop} [Decidable condition] {error : ε}
    {next : Unit → Proc σ ε β} {state last : σ} {value : β} :
    ((raiseIf condition error : Proc σ ε Unit) >>= next) state = (.ok value, last) ↔
      ¬ condition ∧ next () state = (.ok value, last) := by
  by_cases hcondition : condition
  · rw [raiseIf_bind_of_pos hcondition]
    simp [hcondition]
  · rw [raiseIf_bind_of_neg hcondition]
    simp [hcondition]

theorem lift_bind_of_ok {result : Except ε α} {value : α} (hresult : result = .ok value)
    (next : α → Proc σ ε β) (state : σ) :
    ((lift result : Proc σ ε α) >>= next) state = next value state :=
  bind_of_ok (by rw [lift_apply, hresult])

theorem lift_bind_eq_ok {result : Except ε α} {next : α → Proc σ ε β} {state last : σ}
    {value : β} :
    ((lift result : Proc σ ε α) >>= next) state = (.ok value, last) ↔
      ∃ middle, result = .ok middle ∧ next middle state = (.ok value, last) := by
  rw [bind_eq_ok]
  constructor
  · rintro ⟨middle, after, hresult, hnext⟩
    rw [lift_apply, Prod.mk.injEq] at hresult
    obtain ⟨hvalue, rfl⟩ := hresult
    exact ⟨middle, hvalue, hnext⟩
  · rintro ⟨middle, hresult, hnext⟩
    exact ⟨middle, state, by rw [lift_apply, hresult], hnext⟩

theorem lift_bind_eq_error {result : Except ε α} {next : α → Proc σ ε β} {state last : σ}
    {error : ε} :
    ((lift result : Proc σ ε α) >>= next) state = (.error error, last) ↔
      (result = .error error ∧ last = state) ∨
        ∃ middle, result = .ok middle ∧ next middle state = (.error error, last) := by
  cases result with
  | error raised =>
    rw [bind_of_error (lift_apply _ _)]
    simp [eq_comm]
  | ok value =>
    rw [lift_bind_of_ok rfl]
    simp

/-- A guard raises when its condition holds, and else what follows does. -/
theorem raiseIf_bind_eq_error {condition : Prop} [Decidable condition] {raised error : ε}
    {next : Unit → Proc σ ε β} {state last : σ} :
    ((raiseIf condition raised : Proc σ ε Unit) >>= next) state = (.error error, last) ↔
      (condition ∧ raised = error ∧ last = state) ∨
        (¬ condition ∧ next () state = (.error error, last)) := by
  by_cases hcondition : condition
  · rw [raiseIf_bind_of_pos hcondition]
    simp [hcondition, eq_comm]
  · rw [raiseIf_bind_of_neg hcondition]
    simp [hcondition]

theorem zoom_apply (part : Part σ τ) (body : Proc τ ε α) (state : σ) :
    zoom part body state =
      ((body (part.get state)).1, part.set (body (part.get state)).2 state) :=
  rfl

theorem zoom_of_eq (part : Part σ τ) {body : Proc τ ε α} {state : σ} {result : Except ε α}
    {after : τ} (hbody : body (part.get state) = (result, after)) :
    zoom part body state = (result, part.set after state) := by
  rw [zoom_apply, hbody]

theorem zoom_eq_ok {part : Part σ τ} {body : Proc τ ε α} {state last : σ} {value : α} :
    zoom part body state = (.ok value, last) ↔
      ∃ after, body (part.get state) = (.ok value, after) ∧ last = part.set after state := by
  rw [zoom_apply]
  constructor
  · intro h
    obtain ⟨hvalue, hlast⟩ := Prod.mk.injEq .. ▸ h
    exact ⟨(body (part.get state)).2, Prod.ext hvalue rfl, hlast.symm⟩
  · rintro ⟨after, hbody, rfl⟩
    rw [hbody]

theorem zoom_eq_error {part : Part σ τ} {body : Proc τ ε α} {state last : σ} {error : ε} :
    zoom part body state = (.error error, last) ↔
      ∃ after, body (part.get state) = (.error error, after) ∧ last = part.set after state := by
  rw [zoom_apply]
  constructor
  · intro h
    obtain ⟨hraised, hlast⟩ := Prod.mk.injEq .. ▸ h
    exact ⟨(body (part.get state)).2, Prod.ext hraised rfl, hlast.symm⟩
  · rintro ⟨after, hbody, rfl⟩
    rw [hbody]

theorem withLocal_of_ok {init last : τ} {body : Proc (σ × τ) ε α} {state after : σ} {value : α}
    (hbody : body (state, init) = (.ok value, after, last)) :
    withLocal init body state = (.ok (value, last), after) := by
  simp only [withLocal, hbody]

theorem withLocal_of_error {init last : τ} {body : Proc (σ × τ) ε α} {state after : σ} {error : ε}
    (hbody : body (state, init) = (.error error, after, last)) :
    withLocal init body state = (.error error, after) := by
  simp only [withLocal, hbody]

theorem withLocal_eq_ok {init last : τ} {body : Proc (σ × τ) ε α} {state after : σ} {value : α} :
    withLocal init body state = (.ok (value, last), after) ↔
      body (state, init) = (.ok value, after, last) := by
  rcases hbody : body (state, init) with ⟨_ | result, final, locals⟩
  · rw [withLocal_of_error hbody]
    simp
  · rw [withLocal_of_ok hbody]
    simp only [Prod.mk.injEq, Except.ok.injEq]
    exact and_assoc.trans (and_congr_right fun _ ↦ and_comm)

/-- A run whose value is known, with the state it leaves. -/
theorem eq_of_fst {outcome : Except ε α × σ} {result : Except ε α} (hresult : outcome.1 = result) :
    outcome = (result, outcome.2) := by
  rw [← hresult]

theorem tryExcept_of_ok {body : Proc σ ε α} {catches : ε → Bool} {handler : ε → Proc σ ε α}
    {state after : σ} {value : α} (hbody : body state = (.ok value, after)) :
    tryExcept body catches handler state = (.ok value, after) := by
  rw [tryExcept, hbody]

theorem tryExcept_of_error {body : Proc σ ε α} {catches : ε → Bool} {handler : ε → Proc σ ε α}
    {state after : σ} {error : ε} (hbody : body state = (.error error, after)) :
    tryExcept body catches handler state =
      if catches error then handler error after else (.error error, after) := by
  rw [tryExcept, hbody]

theorem tryFinally_of_ok {body : Proc σ ε α} {final : Proc σ ε Unit} {state after last : σ}
    {result : Except ε α} (hbody : body state = (result, after)) (hfinal : final after = (.ok (), last)) :
    tryFinally body final state = (result, last) := by
  simp only [tryFinally, hbody, hfinal]

/-- The handler of a `finally` runs behind the body, whatever the body's outcome. -/
theorem tryFinally_snd (body : Proc σ ε α) (final : Proc σ ε Unit) (state : σ) :
    (tryFinally body final state).2 = (final (body state).2).2 := by
  unfold tryFinally
  rcases body state with ⟨result, after⟩
  rcases hfinal : final after with ⟨error | ⟨⟨⟩⟩, last⟩ <;> simp only [hfinal]

/-- A `finally` returns what its body returned, when its handler returns. -/
theorem tryFinally_eq_ok {body : Proc σ ε α} {final : Proc σ ε Unit} {state last : σ} {value : α}
    (h : tryFinally body final state = (.ok value, last)) :
    ∃ after, body state = (.ok value, after) ∧ final after = (.ok (), last) := by
  rcases hbody : body state with ⟨result, after⟩
  rcases hfinal : final after with ⟨error | ⟨⟨⟩⟩, left⟩
  · simp only [tryFinally, hbody, hfinal, Prod.mk.injEq, reduceCtorEq, false_and] at h
  · rw [tryFinally_of_ok hbody hfinal, Prod.mk.injEq] at h
    obtain ⟨rfl, rfl⟩ := h
    exact ⟨after, rfl, hfinal⟩

/-! ### The while equation -/

/-- A measure that every round of a loop decreases, positive while the loop goes on. -/
structure Decreasing (condition : β → Bool) (body : β → Proc σ ε β) (measure : β → ℕ) : Prop where
  pos : ∀ locals, condition locals = true → 0 < measure locals
  lt : ∀ locals state next after, condition locals = true →
    body locals state = (.ok next, after) → measure next < measure locals

/-- With a decreasing measure, every bound at least the measure gives the same run. -/
theorem whileFuel_eq_of_le {condition : β → Bool} {body : β → Proc σ ε β} {measure : β → ℕ}
    (hdecreasing : Decreasing condition body measure) :
    ∀ (fuel extra : ℕ) (locals : β) (state : σ), measure locals ≤ fuel →
      whileFuel condition body (fuel + extra) locals state =
        whileFuel condition body fuel locals state := by
  intro fuel
  induction fuel with
  | zero =>
    intro extra locals state hfuel
    have hstop : condition locals = false := by
      by_contra hgo
      exact absurd (hdecreasing.pos locals (by simpa using hgo)) (by omega)
    cases extra with
    | zero => rfl
    | succ extra => simp [whileFuel, hstop]
  | succ fuel ih =>
    intro extra locals state hfuel
    rw [Nat.succ_add_eq_add_succ, Nat.add_succ]
    by_cases hgo : condition locals = true
    · simp only [whileFuel, if_pos hgo]
      rcases hbody : body locals state with ⟨_ | next, after⟩
      · rw [bind_of_error hbody, bind_of_error hbody]
      · rw [bind_of_ok hbody, bind_of_ok hbody]
        have hlt := hdecreasing.lt locals state next after hgo hbody
        exact ih extra next after (by omega)
    · simp [whileFuel, hgo]

theorem whileFuel_congr {condition : β → Bool} {body body' : β → Proc σ ε β}
    (hbody : ∀ locals, condition locals = true → body locals = body' locals) (fuel : ℕ) :
    ∀ locals, whileFuel condition body fuel locals = whileFuel condition body' fuel locals := by
  induction fuel with
  | zero => intro locals; rfl
  | succ fuel ih =>
    intro locals
    by_cases hgo : condition locals = true
    · simp only [whileFuel, if_pos hgo, hbody locals hgo]
      exact congrArg (body' locals >>= ·) (funext ih)
    · simp only [whileFuel, if_neg hgo]

/-- Two loops whose rounds agree while the condition holds are the same. -/
theorem whileLoop_congr {condition : β → Bool} {body body' : β → Proc σ ε β} {measure : β → ℕ}
    (hbody : ∀ locals, condition locals = true → body locals = body' locals) (locals : β) :
    whileLoop condition body measure locals = whileLoop condition body' measure locals :=
  whileFuel_congr hbody (measure locals) locals

/-- The loop satisfies the while equation: the bound is never what ends it. -/
theorem whileLoop_unfold {condition : β → Bool} {body : β → Proc σ ε β} {measure : β → ℕ}
    (hdecreasing : Decreasing condition body measure) (locals : β) (state : σ) :
    whileLoop condition body measure locals state =
      if condition locals = true then
        (body locals >>= whileLoop condition body measure) state
      else (.ok locals, state) := by
  by_cases hgo : condition locals = true
  · rw [if_pos hgo]
    obtain ⟨fuel, hfuel⟩ := Nat.exists_eq_succ_of_ne_zero (Nat.ne_of_gt (hdecreasing.pos locals hgo))
    rw [whileLoop, hfuel]
    simp only [whileFuel, if_pos hgo]
    rcases hbody : body locals state with ⟨_ | next, after⟩
    · rw [bind_of_error hbody, bind_of_error hbody]
    · rw [bind_of_ok hbody, bind_of_ok hbody, whileLoop]
      have hlt := hdecreasing.lt locals state next after hgo hbody
      obtain ⟨extra, hextra⟩ := Nat.exists_eq_add_of_le (show measure next ≤ fuel by omega)
      rw [hextra]
      exact whileFuel_eq_of_le hdecreasing _ extra next after le_rfl
  · rw [if_neg hgo, whileLoop]
    cases measure locals with
    | zero => rfl
    | succ fuel => simp [whileFuel, hgo]

/-- Induction along a loop that returns: a relation that holds where the loop stops and is
carried back over one round relates the start of the loop to its end. -/
theorem whileLoop_induction {condition : β → Bool} {body : β → Proc σ ε β} {measure : β → ℕ}
    (hdecreasing : Decreasing condition body measure) (relation : β → σ → β → σ → Prop)
    (hstop : ∀ locals state, condition locals = false → relation locals state locals state)
    (hround : ∀ locals state next after last final, condition locals = true →
      body locals state = (.ok next, after) → relation next after last final →
        relation locals state last final) :
    ∀ locals state last final,
      whileLoop condition body measure locals state = (.ok last, final) →
        relation locals state last final := by
  intro locals
  induction hmeasure : measure locals using Nat.strongRecOn generalizing locals with
  | ind bound ih =>
    intro state last final h
    rw [whileLoop_unfold hdecreasing] at h
    by_cases hgo : condition locals = true
    · rw [if_pos hgo, bind_eq_ok] at h
      obtain ⟨next, after, hbody, hrest⟩ := h
      have hlt := hdecreasing.lt locals state next after hgo hbody
      exact hround locals state next after last final hgo hbody
        (ih (measure next) (by omega) next rfl after last final hrest)
    · rw [if_neg hgo] at h
      simp only [Prod.mk.injEq, Except.ok.injEq] at h
      obtain ⟨rfl, rfl⟩ := h
      exact hstop locals state (by simpa using hgo)

/-- Induction along a loop whatever its outcome: a relation that holds where the loop stops and where
its body raises, and is carried back over one round, relates the start of the loop to its outcome. -/
theorem whileLoop_outcome {condition : β → Bool} {body : β → Proc σ ε β} {measure : β → ℕ}
    (hdecreasing : Decreasing condition body measure)
    (relation : β → σ → Except ε β → σ → Prop)
    (hstop : ∀ locals state, condition locals = false → relation locals state (.ok locals) state)
    (hraise : ∀ locals state error after, condition locals = true →
      body locals state = (.error error, after) → relation locals state (.error error) after)
    (hround : ∀ locals state next after result final, condition locals = true →
      body locals state = (.ok next, after) → relation next after result final →
        relation locals state result final) :
    ∀ locals state, relation locals state (whileLoop condition body measure locals state).1
      (whileLoop condition body measure locals state).2 := by
  intro locals
  induction hmeasure : measure locals using Nat.strongRecOn generalizing locals with
  | ind bound ih =>
    intro state
    rw [whileLoop_unfold hdecreasing]
    by_cases hgo : condition locals = true
    · rw [if_pos hgo]
      rcases hbody : body locals state with ⟨error | next, after⟩
      · rw [bind_of_error hbody]
        exact hraise locals state error after hgo hbody
      · rw [bind_of_ok hbody]
        have hlt := hdecreasing.lt locals state next after hgo hbody
        exact hround locals state next after _ _ hgo hbody (ih (measure next) (by omega) next rfl after)
    · rw [if_neg hgo]
      exact hstop locals state (by simpa using hgo)

/-- Rounds of a loop, one behind the other, that all returned. -/
inductive Rounds (condition : β → Bool) (body : β → Proc σ ε β) : β → σ → β → σ → Prop
  | start {locals : β} {state : σ} : Rounds condition body locals state locals state
  | round {locals next last : β} {state after final : σ} (hgo : condition locals = true)
      (hbody : body locals state = (.ok next, after))
      (hrest : Rounds condition body next after last final) :
      Rounds condition body locals state last final

/-- Behind its first rounds a loop goes on from where they ended. -/
theorem Rounds.whileLoop_eq {condition : β → Bool} {body : β → Proc σ ε β} {measure : β → ℕ}
    (hdecreasing : Decreasing condition body measure) {locals last : β} {state final : σ}
    (hrounds : Rounds condition body locals state last final) :
    whileLoop condition body measure locals state = whileLoop condition body measure last final := by
  induction hrounds with
  | start => rfl
  | round hgo hbody _ ih => rw [whileLoop_unfold hdecreasing, if_pos hgo, bind_of_ok hbody, ih]

/-! ### Triples -/

/-- What an outcome satisfies: `post` of the value and the state after a normal return, `raised`
of the exception and the state after it was raised. -/
def Outcome (post : α → σ → Prop) (raised : ε → σ → Prop) : Except ε α × σ → Prop
  | (.ok value, after) => post value after
  | (.error error, after) => raised error after

/-- From every state that satisfies `pre`, the procedure returns in `post` or raises in
`raised`. -/
def Triple (pre : σ → Prop) (body : Proc σ ε α) (post : α → σ → Prop)
    (raised : ε → σ → Prop) : Prop :=
  ∀ state, pre state → Outcome post raised (body state)

theorem Outcome.mono {post post' : α → σ → Prop} {raised raised' : ε → σ → Prop}
    {outcome : Except ε α × σ} (h : Outcome post raised outcome)
    (hpost : ∀ value state, post value state → post' value state)
    (hraised : ∀ error state, raised error state → raised' error state) :
    Outcome post' raised' outcome := by
  rcases outcome with ⟨_ | value, after⟩
  · exact hraised _ _ h
  · exact hpost _ _ h

theorem Triple.conseq {pre pre' : σ → Prop} {body : Proc σ ε α} {post post' : α → σ → Prop}
    {raised raised' : ε → σ → Prop} (h : Triple pre body post raised)
    (hpre : ∀ state, pre' state → pre state)
    (hpost : ∀ value state, post value state → post' value state)
    (hraised : ∀ error state, raised error state → raised' error state) :
    Triple pre' body post' raised' :=
  fun state hstate ↦ (h state (hpre state hstate)).mono hpost hraised

theorem Triple.pure {value : α} {post : α → σ → Prop} {raised : ε → σ → Prop} :
    Triple (post value) (Pure.pure value : Proc σ ε α) post raised :=
  fun _ hstate ↦ hstate

/-- A part of the precondition that does not speak of the state is a hypothesis. -/
theorem Triple.assume {condition : Prop} {pre : σ → Prop} {body : Proc σ ε α}
    {post : α → σ → Prop} {raised : ε → σ → Prop} (h : condition → Triple pre body post raised) :
    Triple (fun state ↦ condition ∧ pre state) body post raised :=
  fun state hstate ↦ h hstate.1 state hstate.2

/-- A computation that returns a value. -/
theorem Triple.lift_bind_ok {value : α} {next : α → Proc σ ε β} {pre : σ → Prop}
    {post : β → σ → Prop} {raised : ε → σ → Prop} (hnext : Triple pre (next value) post raised) :
    Triple pre (Proc.lift (.ok value) >>= next) post raised := by
  intro state hstate
  rw [lift_bind_of_ok rfl]
  exact hnext state hstate

theorem Triple.raiseIf {condition : Prop} [Decidable condition] {error : ε} {pre : σ → Prop}
    {post : Unit → σ → Prop} {raised : ε → σ → Prop}
    (hraised : ∀ state, condition → pre state → raised error state)
    (hpost : ∀ state, ¬ condition → pre state → post () state) :
    Triple pre (Proc.raiseIf condition error : Proc σ ε Unit) post raised := by
  intro state hstate
  by_cases hcondition : condition
  · rw [raiseIf_apply, if_pos hcondition]
    exact hraised state hcondition hstate
  · rw [raiseIf_apply, if_neg hcondition]
    exact hpost state hcondition hstate

theorem Triple.bind {pre : σ → Prop} {first : Proc σ ε α} {middle : α → σ → Prop}
    {next : α → Proc σ ε β} {post : β → σ → Prop} {raised : ε → σ → Prop}
    (hfirst : Triple pre first middle raised)
    (hnext : ∀ value, Triple (middle value) (next value) post raised) :
    Triple pre (first >>= next) post raised := by
  intro state hstate
  have houtcome := hfirst state hstate
  rcases hrun : first state with ⟨_ | value, after⟩
  · rw [hrun] at houtcome
    rw [bind_of_error hrun]
    exact houtcome
  · rw [hrun] at houtcome
    rw [bind_of_ok hrun]
    exact hnext value after houtcome

/-- The invariant rule of the while loop. -/
theorem Triple.whileLoop {condition : β → Bool} {body : β → Proc σ ε β} {measure : β → ℕ}
    {invariant : β → σ → Prop} {raised : ε → σ → Prop}
    (hdecreasing : Decreasing condition body measure)
    (hbody : ∀ locals, condition locals = true →
      Triple (invariant locals) (body locals) invariant raised) (locals : β) :
    Triple (invariant locals) (Proc.whileLoop condition body measure locals)
      (fun last state ↦ condition last = false ∧ invariant last state) raised := by
  induction hmeasure : measure locals using Nat.strongRecOn generalizing locals with
  | ind bound ih =>
    intro state hstate
    rw [whileLoop_unfold hdecreasing]
    by_cases hgo : condition locals = true
    · rw [if_pos hgo]
      have houtcome := hbody locals hgo state hstate
      rcases hrun : body locals state with ⟨_ | next, after⟩
      · rw [hrun] at houtcome
        rw [bind_of_error hrun]
        exact houtcome
      · rw [hrun] at houtcome
        rw [bind_of_ok hrun]
        have hlt := hdecreasing.lt locals state next after hgo hrun
        exact ih (measure next) (by omega) next rfl after houtcome
    · rw [if_neg hgo]
      exact ⟨by simpa using hgo, hstate⟩

/-! ### What every run changes -/

/-- Every run of the procedure, whatever its outcome, relates its start to its end. -/
def Moves (relation : σ → σ → Prop) (body : Proc σ ε α) : Prop :=
  ∀ state, relation state (body state).2

section Moves

variable {relation : σ → σ → Prop}

theorem Moves.pure (hrefl : ∀ state, relation state state) (value : α) :
    Moves relation (Pure.pure value : Proc σ ε α) :=
  hrefl

theorem Moves.raise (hrefl : ∀ state, relation state state) (error : ε) :
    Moves relation (Proc.raise error : Proc σ ε α) :=
  hrefl

theorem Moves.lift (hrefl : ∀ state, relation state state) (result : Except ε α) :
    Moves relation (Proc.lift result : Proc σ ε α) :=
  hrefl

theorem Moves.get (hrefl : ∀ state, relation state state) :
    Moves relation (Proc.get : Proc σ ε σ) :=
  hrefl

theorem Moves.raiseIf (hrefl : ∀ state, relation state state) (condition : Prop)
    [Decidable condition] (error : ε) : Moves relation (Proc.raiseIf condition error) := by
  intro state
  rw [raiseIf_apply]
  exact hrefl state

theorem Moves.bind (htrans : ∀ first middle last, relation first middle → relation middle last →
      relation first last) {first : Proc σ ε α} {next : α → Proc σ ε β}
    (hfirst : Moves relation first) (hnext : ∀ value, Moves relation (next value)) :
    Moves relation (first >>= next) := by
  intro state
  have hstart := hfirst state
  rcases hrun : first state with ⟨_ | value, after⟩
  · rw [hrun] at hstart
    rw [bind_of_error hrun]
    exact hstart
  · rw [hrun] at hstart
    rw [bind_of_ok hrun]
    exact htrans _ _ _ hstart (hnext value after)

theorem Moves.modify {change : σ → σ} (hchange : ∀ state, relation state (change state)) :
    Moves relation (Proc.modify change : Proc σ ε Unit) :=
  hchange

/-- A part of the state that moves carries the state along. -/
theorem Moves.zoom {inner : τ → τ → Prop} {part : Part σ τ} {body : Proc τ ε α}
    (hset : ∀ state last, inner (part.get state) last → relation state (part.set last state))
    (hbody : Moves inner body) : Moves relation (Proc.zoom part body) := by
  intro state
  rw [zoom_apply]
  exact hset _ _ (hbody (part.get state))

theorem Moves.tryExcept (htrans : ∀ first middle last, relation first middle →
      relation middle last → relation first last) {body : Proc σ ε α} {catches : ε → Bool}
    {handler : ε → Proc σ ε α} (hbody : Moves relation body)
    (hhandler : ∀ error, Moves relation (handler error)) :
    Moves relation (Proc.tryExcept body catches handler) := by
  intro state
  have hstart := hbody state
  rcases hrun : body state with ⟨error | value, after⟩
  · rw [hrun] at hstart
    rw [tryExcept_of_error hrun]
    split
    · exact htrans _ _ _ hstart (hhandler error after)
    · exact hstart
  · rw [hrun] at hstart
    rw [tryExcept_of_ok hrun]
    exact hstart

theorem Moves.whileLoop (hrefl : ∀ state, relation state state)
    (htrans : ∀ first middle last, relation first middle → relation middle last →
      relation first last) {condition : β → Bool} {body : β → Proc σ ε β} {measure : β → ℕ}
    (hbody : ∀ locals, Moves relation (body locals)) (locals : β) :
    Moves relation (Proc.whileLoop condition body measure locals) := by
  rw [Proc.whileLoop]
  induction measure locals generalizing locals with
  | zero => exact Moves.pure hrefl locals
  | succ fuel ih =>
    rw [whileFuel]
    split
    · exact Moves.bind htrans (hbody locals) ih
    · exact Moves.pure hrefl locals

/-- The first rounds of a loop move the state as its rounds do. -/
theorem Moves.rounds (hrefl : ∀ state, relation state state)
    (htrans : ∀ first middle last, relation first middle → relation middle last →
      relation first last) {condition : β → Bool} {body : β → Proc σ ε β}
    (hbody : ∀ locals, Moves relation (body locals)) {locals last : β} {state final : σ}
    (hrounds : Rounds condition body locals state last final) : relation state final := by
  induction hrounds with
  | start => exact hrefl _
  | @round locals _ _ state _ _ _ hround _ ih =>
    have hfirst := hbody locals state
    rw [hround] at hfirst
    exact htrans _ _ _ hfirst ih

end Moves

/-! ### What a procedure may raise -/

/-- Every exception of the procedure, from any state, is permitted. -/
def Raises (permitted : ε → Prop) (body : Proc σ ε α) : Prop :=
  ∀ state error after, body state = (.error error, after) → permitted error

section Raises

variable {permitted : ε → Prop}

theorem Raises.pure (value : α) : Raises permitted (Pure.pure value : Proc σ ε α) := by
  rintro state error after ⟨⟩

theorem Raises.raise {error : ε} (herror : permitted error) :
    Raises permitted (Proc.raise error : Proc σ ε α) := by
  rintro state _ after ⟨⟩
  exact herror

theorem Raises.lift {result : Except ε α} (hresult : ∀ error, result = .error error → permitted error) :
    Raises permitted (Proc.lift result : Proc σ ε α) :=
  fun _ error _ h ↦ hresult error (Prod.mk.inj h).1

theorem Raises.modify (change : σ → σ) : Raises permitted (Proc.modify change : Proc σ ε Unit) := by
  rintro state error after ⟨⟩

theorem Raises.raiseIf {condition : Prop} [Decidable condition] {error : ε}
    (herror : condition → permitted error) :
    Raises permitted (Proc.raiseIf condition error : Proc σ ε Unit) := by
  unfold Proc.raiseIf
  split
  · exact .raise (herror ‹_›)
  · exact .pure ()

theorem Raises.bind {first : Proc σ ε α} {next : α → Proc σ ε β} (hfirst : Raises permitted first)
    (hnext : ∀ value, Raises permitted (next value)) : Raises permitted (first >>= next) := by
  intro state error after h
  obtain hraised | ⟨value, middle, -, hraised⟩ := bind_eq_error.mp h
  · exact hfirst state error after hraised
  · exact hnext value middle error after hraised

/-- The rule for a procedure that reads its state. -/
theorem Raises.get_bind {next : σ → Proc σ ε β} (hnext : ∀ value, Raises permitted (next value)) :
    Raises permitted (Proc.get >>= next) :=
  fun state error after h ↦ hnext state state error after h

theorem Raises.zoom {part : Part σ τ} {body : Proc τ ε α} (hbody : Raises permitted body) :
    Raises permitted (Proc.zoom part body) := by
  intro state error after h
  obtain ⟨last, hraised, -⟩ := zoom_eq_error.mp h
  exact hbody _ error last hraised

theorem Raises.tryExcept {body : Proc σ ε α} {catches : ε → Bool} {handler : ε → Proc σ ε α}
    (hbody : Raises permitted body) (hhandler : ∀ error, Raises permitted (handler error)) :
    Raises permitted (Proc.tryExcept body catches handler) := by
  intro state error after h
  rcases hrun : body state with ⟨raised | value, middle⟩
  · rw [tryExcept_of_error hrun] at h
    split at h
    · exact hhandler raised middle error after h
    · obtain rfl := Except.error.inj (Prod.mk.inj h).1
      exact hbody state raised middle hrun
  · rw [tryExcept_of_ok hrun] at h
    cases h

theorem Raises.withLocal {init : τ} {body : Proc (σ × τ) ε α} (hbody : Raises permitted body) :
    Raises permitted (Proc.withLocal init body) := by
  intro state error after h
  rcases hrun : body (state, init) with ⟨raised | value, last⟩
  · rw [withLocal_of_error hrun] at h
    obtain rfl := Except.error.inj (Prod.mk.inj h).1
    exact hbody _ raised last hrun
  · rw [withLocal_of_ok hrun] at h
    cases h

theorem Raises.whileLoop {condition : β → Bool} {body : β → Proc σ ε β} {measure : β → ℕ}
    (hbody : ∀ locals, condition locals = true → Raises permitted (body locals)) (locals : β) :
    Raises permitted (Proc.whileLoop condition body measure locals) := by
  rw [Proc.whileLoop]
  induction measure locals generalizing locals with
  | zero => exact Raises.pure locals
  | succ fuel ih =>
    rw [whileFuel]
    split
    · exact Raises.bind (hbody locals ‹_›) ih
    · exact Raises.pure locals

end Raises

end Proc
