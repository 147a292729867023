import Mathlib.Data.List.Forall2
import OpenVixDiskLib.Base.Blocks

/-!
# Two runs side by side

Two procedures that start in related states may do the same in both: raise the same exception or return
related values, and leave related states (`Couples`). There is one rule for each construct, so that what
relates the primitives of a program relates whole programs.

A procedure that reads the state returns related states, not equal ones; that is why the values have a
relation of their own.

The second of two runs may also be one that stops early, with an exception and in a state that show why
(`CouplesUntil`). The constructs without handlers have their rules at this generality.
-/

set_option autoImplicit false
set_option relaxedAutoImplicit false

namespace Proc

variable {σ σ' τ τ' ε α α' β β' : Type}

/-- Both have raised the same exception, or both have returned, related values. -/
inductive Coupled (values : α → α' → Prop) : Except ε α → Except ε α' → Prop
  | raised (error : ε) : Coupled values (.error error) (.error error)
  | returned {value : α} {value' : α'} (hvalues : values value value') :
      Coupled values (.ok value) (.ok value')

/-- From related states, both procedures have coupled outcomes and leave related states. -/
def Couples (relation : σ → σ' → Prop) (values : α → α' → Prop) (body : Proc σ ε α)
    (body' : Proc σ' ε α') : Prop :=
  ∀ state state', relation state state' →
    Coupled values (body state).1 (body' state').1 ∧ relation (body state).2 (body' state').2

/-- From related states, both procedures have coupled outcomes and leave related states, or the second one
raises and leaves a state that show why it stopped. -/
def CouplesUntil (stopped : ε → σ' → Prop) (relation : σ → σ' → Prop) (values : α → α' → Prop)
    (body : Proc σ ε α) (body' : Proc σ' ε α') : Prop :=
  ∀ state state', relation state state' →
    (Coupled values (body state).1 (body' state').1 ∧ relation (body state).2 (body' state').2) ∨
      ∃ error, (body' state').1 = .error error ∧ stopped error (body' state').2

theorem Coupled.refl (result : Except ε α) : Coupled Eq result result := by
  cases result with
  | error error => exact .raised error
  | ok value => exact .returned rfl

/-- Coupled outcomes with equal values are equal. -/
theorem Coupled.eq {result result' : Except ε α} (h : Coupled Eq result result') : result = result' := by
  cases h with
  | raised error => rfl
  | returned hvalues => rw [hvalues]

section Stopping

variable {relation : σ → σ' → Prop} {stopped : ε → σ' → Prop} {values : α → α' → Prop}
  {results : β → β' → Prop}

/-- Procedures that are coupled are so until anything happens. -/
theorem Couples.until {body : Proc σ ε α} {body' : Proc σ' ε α'} (hbody : Couples relation values body body') :
    CouplesUntil stopped relation values body body' :=
  fun state state' hstates ↦ .inl (hbody state state' hstates)

/-- Procedures that are coupled until something happens that never does are coupled. -/
theorem CouplesUntil.couples {body : Proc σ ε α} {body' : Proc σ' ε α'}
    (hnever : ∀ error state, ¬ stopped error state)
    (hbody : CouplesUntil stopped relation values body body') : Couples relation values body body' := by
  intro state state' hstates
  obtain hcoupled | ⟨error, -, hstopped⟩ := hbody state state' hstates
  · exact hcoupled
  · exact absurd hstopped (hnever error _)

theorem CouplesUntil.bind {first : Proc σ ε α} {first' : Proc σ' ε α'} {next : α → Proc σ ε β}
    {next' : α' → Proc σ' ε β'} (hfirst : CouplesUntil stopped relation values first first')
    (hnext : ∀ value value', values value value' →
      CouplesUntil stopped relation results (next value) (next' value')) :
    CouplesUntil stopped relation results (first >>= next) (first' >>= next') := by
  intro state state' hstates
  have hrelated := hfirst state state' hstates
  rcases hrun : first state with ⟨result, after⟩
  rcases hrun' : first' state' with ⟨result', after'⟩
  rw [hrun, hrun'] at hrelated
  obtain ⟨houtcomes, hafter⟩ | ⟨error, rfl, hstopped⟩ := hrelated
  · cases houtcomes with
    | raised error =>
      rw [bind_of_error hrun, bind_of_error hrun']
      exact .inl ⟨.raised error, hafter⟩
    | returned hvalues =>
      rw [bind_of_ok hrun, bind_of_ok hrun']
      exact hnext _ _ hvalues after after' hafter
  · rw [bind_of_error hrun']
    exact .inr ⟨error, rfl, hstopped⟩

/-- The rule for a first step that returns the same in both. -/
theorem CouplesUntil.bind_eq {first : Proc σ ε α} {first' : Proc σ' ε α} {next : α → Proc σ ε β}
    {next' : α → Proc σ' ε β'} (hfirst : CouplesUntil stopped relation Eq first first')
    (hnext : ∀ value, CouplesUntil stopped relation results (next value) (next' value)) :
    CouplesUntil stopped relation results (first >>= next) (first' >>= next') := by
  refine .bind hfirst ?_
  rintro value _ rfl
  exact hnext value

theorem CouplesUntil.zoom {inner : τ → τ' → Prop} {innerStopped : ε → τ' → Prop} {part : Part σ τ}
    {part' : Part σ' τ'} {body : Proc τ ε α} {body' : Proc τ' ε α'}
    (hget : ∀ state state', relation state state' → inner (part.get state) (part'.get state'))
    (hset : ∀ state state' last last', relation state state' → inner last last' →
      relation (part.set last state) (part'.set last' state'))
    (hstop : ∀ error state' last', innerStopped error last' → stopped error (part'.set last' state'))
    (hbody : CouplesUntil innerStopped inner values body body') :
    CouplesUntil stopped relation values (Proc.zoom part body) (Proc.zoom part' body') := by
  intro state state' hstates
  rw [zoom_apply, zoom_apply]
  obtain ⟨houtcomes, hafter⟩ | ⟨error, herror, hstopped⟩ := hbody _ _ (hget state state' hstates)
  · exact .inl ⟨houtcomes, hset state state' _ _ hstates hafter⟩
  · exact .inr ⟨error, herror, hstop error state' _ hstopped⟩

theorem CouplesUntil.withLocal {locals : τ → τ' → Prop} {init : τ} {init' : τ'}
    {body : Proc (σ × τ) ε α} {body' : Proc (σ' × τ') ε α'} (hinit : locals init init')
    (hbody : CouplesUntil (fun error state' ↦ stopped error state'.1)
      (fun state state' ↦ relation state.1 state'.1 ∧ locals state.2 state'.2) values body body') :
    CouplesUntil stopped relation (fun value value' ↦ values value.1 value'.1 ∧ locals value.2 value'.2)
      (Proc.withLocal init body) (Proc.withLocal init' body') := by
  intro state state' hstates
  have hrelated := hbody (state, init) (state', init') ⟨hstates, hinit⟩
  rcases hrun : body (state, init) with ⟨result, after, last⟩
  rcases hrun' : body' (state', init') with ⟨result', after', last'⟩
  rw [hrun, hrun'] at hrelated
  obtain ⟨houtcomes, hafter⟩ | ⟨error, rfl, hstopped⟩ := hrelated
  · cases houtcomes with
    | raised error =>
      rw [withLocal_of_error hrun, withLocal_of_error hrun']
      exact .inl ⟨.raised error, hafter.1⟩
    | returned hvalues =>
      rw [withLocal_of_ok hrun, withLocal_of_ok hrun']
      exact .inl ⟨.returned ⟨hvalues, hafter.2⟩, hafter.1⟩
  · rw [withLocal_of_error hrun']
    exact .inr ⟨error, rfl, hstopped⟩

theorem CouplesUntil.whileLoop {condition : α → Bool} {body : α → Proc σ ε α} {body' : α → Proc σ' ε α}
    {measure : α → ℕ} (hbody : ∀ locals, CouplesUntil stopped relation Eq (body locals) (body' locals))
    (locals : α) :
    CouplesUntil stopped relation Eq (Proc.whileLoop condition body measure locals)
      (Proc.whileLoop condition body' measure locals) := by
  rw [Proc.whileLoop, Proc.whileLoop]
  induction measure locals generalizing locals with
  | zero => exact fun _ _ hstates ↦ .inl ⟨.returned rfl, hstates⟩
  | succ fuel ih =>
    rw [whileFuel, whileFuel]
    split
    · exact .bind_eq (hbody locals) ih
    · exact fun _ _ hstates ↦ .inl ⟨.returned rfl, hstates⟩

end Stopping

section Rules

variable {relation : σ → σ' → Prop} {values : α → α' → Prop} {results : β → β' → Prop}

theorem Couples.pure {value : α} {value' : α'} (hvalues : values value value') :
    Couples relation values (Pure.pure value : Proc σ ε α) (Pure.pure value' : Proc σ' ε α') :=
  fun _ _ hstates ↦ ⟨.returned hvalues, hstates⟩

theorem Couples.raise (error : ε) :
    Couples relation values (Proc.raise error : Proc σ ε α) (Proc.raise error : Proc σ' ε α') :=
  fun _ _ hstates ↦ ⟨.raised error, hstates⟩

theorem Couples.lift (result : Except ε α) :
    Couples relation Eq (Proc.lift result : Proc σ ε α) (Proc.lift result : Proc σ' ε α) := by
  intro state state' hstates
  rw [lift_apply, lift_apply]
  exact ⟨.refl result, hstates⟩

/-- The rule for a result of which more is known than that it is the same. -/
theorem Couples.lift_of {values : α → α → Prop} {result : Except ε α}
    (hresult : ∀ value, result = .ok value → values value value) :
    Couples relation values (Proc.lift result : Proc σ ε α) (Proc.lift result : Proc σ' ε α) := by
  intro state state' hstates
  rw [lift_apply, lift_apply]
  cases result with
  | error error => exact ⟨.raised error, hstates⟩
  | ok value => exact ⟨.returned (hresult value rfl), hstates⟩

theorem Couples.raiseIf (condition : Prop) [Decidable condition] (error : ε) :
    Couples relation Eq (Proc.raiseIf condition error : Proc σ ε Unit)
      (Proc.raiseIf condition error : Proc σ' ε Unit) := by
  unfold Proc.raiseIf
  split
  · exact .raise error
  · exact .pure rfl

theorem Couples.get : Couples relation relation (Proc.get : Proc σ ε σ) (Proc.get : Proc σ' ε σ') :=
  fun _ _ hstates ↦ ⟨.returned hstates, hstates⟩

theorem Couples.modify {change : σ → σ} {change' : σ' → σ'}
    (hchange : ∀ state state', relation state state' → relation (change state) (change' state')) :
    Couples relation Eq (Proc.modify change : Proc σ ε Unit) (Proc.modify change' : Proc σ' ε Unit) :=
  fun state state' hstates ↦ ⟨.returned rfl, hchange state state' hstates⟩

theorem Couples.bind {first : Proc σ ε α} {first' : Proc σ' ε α'} {next : α → Proc σ ε β}
    {next' : α' → Proc σ' ε β'} (hfirst : Couples relation values first first')
    (hnext : ∀ value value', values value value' →
      Couples relation results (next value) (next' value')) :
    Couples relation results (first >>= next) (first' >>= next') :=
  (CouplesUntil.bind hfirst.until fun value value' hvalues ↦
    (hnext value value' hvalues).until).couples fun _ _ ↦ not_false

/-- The rule for a first step that returns the same in both. -/
theorem Couples.bind_eq {first : Proc σ ε α} {first' : Proc σ' ε α} {next : α → Proc σ ε β}
    {next' : α → Proc σ' ε β'} (hfirst : Couples relation Eq first first')
    (hnext : ∀ value, Couples relation results (next value) (next' value)) :
    Couples relation results (first >>= next) (first' >>= next') := by
  refine .bind hfirst ?_
  rintro value _ rfl
  exact hnext value

theorem Couples.zoom {inner : τ → τ' → Prop} {part : Part σ τ} {part' : Part σ' τ'}
    {body : Proc τ ε α} {body' : Proc τ' ε α'}
    (hget : ∀ state state', relation state state' → inner (part.get state) (part'.get state'))
    (hset : ∀ state state' last last', relation state state' → inner last last' →
      relation (part.set last state) (part'.set last' state'))
    (hbody : Couples inner values body body') :
    Couples relation values (Proc.zoom part body) (Proc.zoom part' body') :=
  (CouplesUntil.zoom hget hset (fun _ _ _ ↦ id) hbody.until).couples fun _ _ ↦ not_false

theorem Couples.tryExcept {body : Proc σ ε α} {body' : Proc σ' ε α'} {catches : ε → Bool}
    {handler : ε → Proc σ ε α} {handler' : ε → Proc σ' ε α'}
    (hbody : Couples relation values body body')
    (hhandler : ∀ error, Couples relation values (handler error) (handler' error)) :
    Couples relation values (Proc.tryExcept body catches handler)
      (Proc.tryExcept body' catches handler') := by
  intro state state' hstates
  obtain ⟨houtcomes, hafter⟩ := hbody state state' hstates
  rcases hrun : body state with ⟨result, after⟩
  rcases hrun' : body' state' with ⟨result', after'⟩
  rw [hrun, hrun'] at houtcomes hafter
  cases houtcomes with
  | raised error =>
    rw [tryExcept_of_error hrun, tryExcept_of_error hrun']
    split
    · exact hhandler error after after' hafter
    · exact ⟨.raised error, hafter⟩
  | returned hvalues =>
    rw [tryExcept_of_ok hrun, tryExcept_of_ok hrun']
    exact ⟨.returned hvalues, hafter⟩

theorem Couples.tryFinally {body : Proc σ ε α} {body' : Proc σ' ε α'} {final : Proc σ ε Unit}
    {final' : Proc σ' ε Unit} (hbody : Couples relation values body body')
    (hfinal : Couples relation Eq final final') :
    Couples relation values (Proc.tryFinally body final) (Proc.tryFinally body' final') := by
  intro state state' hstates
  obtain ⟨houtcomes, hafter⟩ := hbody state state' hstates
  obtain ⟨hlasts, hlast⟩ := hfinal _ _ hafter
  rcases hrun : body state with ⟨result, after⟩
  rcases hrun' : body' state' with ⟨result', after'⟩
  rcases hend : final after with ⟨ended, last⟩
  rcases hend' : final' after' with ⟨ended', last'⟩
  rw [hrun, hrun'] at houtcomes hlasts hlast
  change Coupled Eq (final after).1 (final' after').1 at hlasts
  change relation (final after).2 (final' after').2 at hlast
  rw [hend, hend'] at hlasts hlast
  unfold Proc.tryFinally
  simp only [hrun, hrun', hend, hend']
  cases hlasts with
  | raised error => exact ⟨.raised error, hlast⟩
  | returned hvalues => exact ⟨houtcomes, hlast⟩

theorem Couples.whileLoop {condition : α → Bool} {body : α → Proc σ ε α} {body' : α → Proc σ' ε α}
    {measure : α → ℕ} (hbody : ∀ locals, Couples relation Eq (body locals) (body' locals))
    (locals : α) :
    Couples relation Eq (Proc.whileLoop condition body measure locals)
      (Proc.whileLoop condition body' measure locals) :=
  (CouplesUntil.whileLoop (fun locals ↦ (hbody locals).until) locals).couples fun _ _ ↦ not_false

theorem Couples.attempt {body : Proc σ ε α} {body' : Proc σ' ε α} (hbody : Couples relation Eq body body') :
    Couples relation Eq (Proc.attempt body) (Proc.attempt body') := by
  intro state state' hstates
  obtain ⟨houtcomes, hafter⟩ := hbody state state' hstates
  exact ⟨.returned houtcomes.eq, hafter⟩

end Rules

/-! ### Constructs that do not stop -/

section Leaves

variable {relation : σ → σ' → Prop} {stopped : ε → σ' → Prop} {values : α → α' → Prop}

theorem CouplesUntil.pure {value : α} {value' : α'} (hvalues : values value value') :
    CouplesUntil stopped relation values (Pure.pure value : Proc σ ε α)
      (Pure.pure value' : Proc σ' ε α') :=
  (Couples.pure hvalues).until

theorem CouplesUntil.raise (error : ε) : CouplesUntil stopped relation values
    (Proc.raise error : Proc σ ε α) (Proc.raise error : Proc σ' ε α') :=
  (Couples.raise error).until

theorem CouplesUntil.lift (result : Except ε α) : CouplesUntil stopped relation Eq
    (Proc.lift result : Proc σ ε α) (Proc.lift result : Proc σ' ε α) :=
  (Couples.lift result).until

theorem CouplesUntil.raiseIf (condition : Prop) [Decidable condition] (error : ε) :
    CouplesUntil stopped relation Eq (Proc.raiseIf condition error : Proc σ ε Unit)
      (Proc.raiseIf condition error : Proc σ' ε Unit) :=
  (Couples.raiseIf condition error).until

theorem CouplesUntil.get : CouplesUntil stopped relation relation (Proc.get : Proc σ ε σ)
    (Proc.get : Proc σ' ε σ') :=
  Couples.get.until

theorem CouplesUntil.modify {change : σ → σ} {change' : σ' → σ'}
    (hchange : ∀ state state', relation state state' → relation (change state) (change' state')) :
    CouplesUntil stopped relation Eq (Proc.modify change : Proc σ ε Unit)
      (Proc.modify change' : Proc σ' ε Unit) :=
  (Couples.modify hchange).until

end Leaves

/-! ### Entries -/

section Entries

variable {entries : τ → τ' → Prop}

theorem Couples.push {entry : ℕ → τ} {entry' : ℕ → τ'}
    (hentry : ∀ index, entries (entry index) (entry' index)) :
    Couples (List.Forall₂ entries) Eq (Proc.push entry : Proc (List τ) ε ℕ)
      (Proc.push entry' : Proc (List τ') ε ℕ) := by
  intro state state' hstates
  have hlength := hstates.length_eq
  refine ⟨.returned hlength, List.rel_append hstates (.cons ?_ .nil)⟩
  rw [hlength]
  exact hentry _

theorem forall₂_set {state : List τ} {state' : List τ'} {last : τ} {last' : τ'} (index : ℕ)
    (hstates : List.Forall₂ entries state state') (hlast : entries last last') :
    List.Forall₂ entries (state.set index last) (state'.set index last') := by
  induction hstates generalizing index with
  | nil => exact .nil
  | cons hhead htail ih =>
    cases index with
    | zero => exact .cons hlast htail
    | succ index => exact .cons hhead (ih index)

theorem Couples.onEntry {values : α → α' → Prop} {body : Proc τ ε α} {body' : Proc τ' ε α'}
    (hbody : Couples entries values body body') (missing : ε) (index : ℕ) :
    Couples (List.Forall₂ entries) values (Proc.onEntry missing index body)
      (Proc.onEntry missing index body') := by
  intro state state' hstates
  have hlength := hstates.length_eq
  by_cases hinside : index < state.length
  · have hinside' : index < state'.length := hlength ▸ hinside
    have hentry : entries state[index] state'[index] := hstates.get hinside hinside'
    obtain ⟨houtcomes, hafter⟩ := hbody _ _ hentry
    rw [onEntry_of_some (List.getElem?_eq_getElem hinside),
      onEntry_of_some (List.getElem?_eq_getElem hinside')]
    exact ⟨houtcomes, forall₂_set index hstates hafter⟩
  · rw [onEntry_of_none (List.getElem?_eq_none (not_lt.mp hinside)),
      onEntry_of_none (List.getElem?_eq_none (hlength ▸ not_lt.mp hinside))]
    exact ⟨.raised missing, hstates⟩

/-- The rule of the block. -/
theorem Couples.withEntry {relation : σ → σ' → Prop} {part : Part σ (List τ)}
    {part' : Part σ' (List τ')} {entry : ℕ → τ} {entry' : ℕ → τ'} {enter leave : Proc τ ε Unit}
    {enter' leave' : Proc τ' ε Unit} {body : ℕ → Proc σ ε Unit} {body' : ℕ → Proc σ' ε Unit}
    (hget : ∀ state state', relation state state' →
      List.Forall₂ entries (part.get state) (part'.get state'))
    (hset : ∀ state state' last last', relation state state' → List.Forall₂ entries last last' →
      relation (part.set last state) (part'.set last' state')) (missing : ε)
    (hentry : ∀ index, entries (entry index) (entry' index))
    (henter : Couples entries Eq enter enter') (hleave : Couples entries Eq leave leave')
    (hbody : ∀ index, Couples relation Eq (body index) (body' index)) :
    Couples relation Eq (Proc.withEntry part missing entry enter leave body)
      (Proc.withEntry part' missing entry' enter' leave' body') := by
  refine .bind_eq (.zoom hget hset (.push hentry)) fun index ↦ ?_
  refine .bind_eq (.zoom hget hset (.onEntry henter missing index)) fun _ ↦ ?_
  exact .tryFinally (hbody index) (.zoom hget hset (.onEntry hleave missing index))

end Entries

end Proc
