import OpenVixDiskLib.Base.Procedure

/-!
# Blocks that own a resource

A program whose state holds a list of resources, one for each block that was ever begun. A `with` block
appends its own resource, enters it, runs its body, and leaves the resource whatever the body does
(`Proc.withEntry`). The body may use every resource there is and begin more blocks.

`Extends` relates the list before a piece of such a program to the list after it: the resources there
were have moved by a given relation, and the new ones are settled. The rule of the block
(`Moves.withEntry`) asks of the resource alone what makes this so: entering it settles it or returns, and
leaving it settles it whatever was made of it in between.
-/

set_option autoImplicit false
set_option relaxedAutoImplicit false

namespace Proc

variable {σ τ ε α β : Type}

/-! ### The constructs -/

/-- Run a procedure and give its outcome as a value. -/
def attempt (body : Proc σ ε α) : Proc σ ε (Except ε α) :=
  fun state ↦ (.ok (body state).1, (body state).2)

/-- Append an entry to a list, and return its index. -/
def push (entry : ℕ → τ) : Proc (List τ) ε ℕ :=
  fun entries ↦ (.ok entries.length, entries ++ [entry entries.length])

/-- Run a procedure on the entry at an index. -/
def onEntry (missing : ε) (index : ℕ) (body : Proc τ ε α) : Proc (List τ) ε α :=
  fun entries ↦
    match entries[index]? with
    | none => (.error missing, entries)
    | some entry => ((body entry).1, entries.set index (body entry).2)

/-- The block `with`: append an entry, enter it, run the body with its index, and leave it. When
entering raises, the body is not run and the entry is not left. -/
def withEntry (part : Part σ (List τ)) (missing : ε) (entry : ℕ → τ) (enter leave : Proc τ ε Unit)
    (body : ℕ → Proc σ ε Unit) : Proc σ ε Unit := do
  let index ← zoom part (push entry)
  zoom part (onEntry missing index enter)
  tryFinally (body index) (zoom part (onEntry missing index leave))

theorem onEntry_of_some {missing : ε} {index : ℕ} {body : Proc τ ε α} {entries : List τ} {entry : τ}
    (hentry : entries[index]? = some entry) :
    onEntry missing index body entries = ((body entry).1, entries.set index (body entry).2) := by
  simp only [onEntry, hentry]

theorem onEntry_of_none {missing : ε} {index : ℕ} {body : Proc τ ε α} {entries : List τ}
    (hentry : entries[index]? = none) :
    onEntry missing index body entries = (.error missing, entries) := by
  simp only [onEntry, hentry]

/-! ### What may happen to the entries -/

/-- The entries have moved, and the new ones are settled. -/
structure Extends (moves : τ → τ → Prop) (settled : τ → Prop) (before after : List τ) : Prop where
  kept : ∀ (index : ℕ) (entry : τ), before[index]? = some entry →
    ∃ last, after[index]? = some last ∧ moves entry last
  settled : ∀ (index : ℕ) (last : τ), before.length ≤ index → after[index]? = some last → settled last

section Extends

variable {moves : τ → τ → Prop} {settled : τ → Prop}

theorem Extends.refl (hrefl : ∀ entry, moves entry entry) (entries : List τ) :
    Extends moves settled entries entries where
  kept _ entry hentry := ⟨entry, hentry, hrefl entry⟩
  settled index last hindex hlast := by
    rw [List.getElem?_eq_none hindex] at hlast
    cases hlast

theorem Extends.trans (htrans : ∀ first middle last, moves first middle → moves middle last →
      moves first last) (hstable : ∀ entry last, settled entry → moves entry last → settled last)
    {first middle last : List τ} (hfirst : Extends moves settled first middle)
    (hlast : Extends moves settled middle last) : Extends moves settled first last where
  kept index entry hentry := by
    obtain ⟨between, hbetween, hmoved⟩ := hfirst.kept index entry hentry
    obtain ⟨final, hfinal, hmoved'⟩ := hlast.kept index between hbetween
    exact ⟨final, hfinal, htrans _ _ _ hmoved hmoved'⟩
  settled index final hindex hfinal := by
    by_cases hinside : index < middle.length
    · have hbetween := List.getElem?_eq_getElem hinside
      obtain ⟨final', hfinal', hmoved⟩ := hlast.kept index _ hbetween
      obtain rfl := Option.some.inj (hfinal'.symm.trans hfinal)
      exact hstable _ _ (hfirst.settled index _ hindex hbetween) hmoved
    · exact hlast.settled index final (not_lt.mp hinside) hfinal

/-- Moves and a settling may be weakened. -/
theorem Extends.mono {moves' : τ → τ → Prop} {settled' : τ → Prop} {before after : List τ}
    (hextends : Extends moves settled before after)
    (hmoves : ∀ entry last, moves entry last → moves' entry last)
    (hsettled : ∀ last, settled last → settled' last) : Extends moves' settled' before after where
  kept index entry hentry := by
    obtain ⟨last, hlast, hmoved⟩ := hextends.kept index entry hentry
    exact ⟨last, hlast, hmoves _ _ hmoved⟩
  settled index last hindex hlast := hsettled last (hextends.settled index last hindex hlast)

/-- A procedure on one entry moves the entries as it moves that one. -/
theorem Moves.onEntry (hrefl : ∀ entry, moves entry entry) {body : Proc τ ε α}
    (hbody : Moves moves body) (missing : ε) (index : ℕ) :
    Moves (Extends moves settled) (onEntry missing index body) := by
  intro entries
  rcases hentry : entries[index]? with _ | entry
  · rw [onEntry_of_none hentry]
    exact .refl hrefl entries
  rw [onEntry_of_some hentry]
  constructor
  · intro other old hold
    by_cases hsame : index = other
    · subst hsame
      obtain rfl := Option.some.inj (hentry.symm.trans hold)
      obtain ⟨hinside, -⟩ := List.getElem?_eq_some_iff.mp hentry
      exact ⟨_, List.getElem?_set_self hinside, hbody entry⟩
    · exact ⟨old, (List.getElem?_set_ne hsame).trans hold, hrefl old⟩
  · intro other last hother hlast
    rw [List.getElem?_eq_none (by rw [List.length_set]; exact hother)] at hlast
    cases hlast

/-- A block whose entry is not entered leaves one new entry behind. -/
theorem Extends.refused (hrefl : ∀ entry, moves entry entry) (entries : List τ) {last : τ}
    (hlast : settled last) : Extends moves settled entries (entries ++ [last]) where
  kept index entry hentry := by
    obtain ⟨hinside, -⟩ := List.getElem?_eq_some_iff.mp hentry
    exact ⟨entry, (List.getElem?_append_left hinside).trans hentry, hrefl entry⟩
  settled index final hindex hfinal := by
    rw [List.getElem?_append_right hindex, List.getElem?_singleton] at hfinal
    split_ifs at hfinal
    rwa [← Option.some.inj hfinal]

/-- What the body leaves, with the block's own entry replaced by a settled one. -/
theorem Extends.left {entries after : List τ} {entered : τ}
    (hbody : Extends moves settled (entries ++ [entered]) after) {last : τ} (hlast : settled last) :
    Extends moves settled entries (after.set entries.length last) where
  kept index entry hentry := by
    obtain ⟨hinside, -⟩ := List.getElem?_eq_some_iff.mp hentry
    obtain ⟨moved, hmoved, hmoves⟩ := hbody.kept index entry
      ((List.getElem?_append_left hinside).trans hentry)
    exact ⟨moved, (List.getElem?_set_ne (Nat.ne_of_gt hinside)).trans hmoved, hmoves⟩
  settled index final hindex hfinal := by
    by_cases hown : entries.length = index
    · subst hown
      rw [List.getElem?_set_self'] at hfinal
      obtain ⟨_, -, rfl⟩ := Option.map_eq_some_iff.mp hfinal
      exact hlast
    · rw [List.getElem?_set_ne hown] at hfinal
      refine hbody.settled index final ?_ hfinal
      rw [List.length_append, List.length_singleton]
      omega

end Extends

/-! ### The rules -/

theorem Moves.attempt {relation : σ → σ → Prop} {body : Proc σ ε α} (hbody : Moves relation body) :
    Moves relation (attempt body) :=
  hbody

theorem Moves.tryFinally {relation : σ → σ → Prop}
    (htrans : ∀ first middle last, relation first middle → relation middle last →
      relation first last) {body : Proc σ ε α} {final : Proc σ ε Unit}
    (hbody : Moves relation body) (hfinal : Moves relation final) :
    Moves relation (tryFinally body final) := by
  intro state
  rw [tryFinally_snd]
  exact htrans _ _ _ (hbody state) (hfinal _)

/-- A part that reads back what was set. -/
def Part.Lawful (part : Part σ τ) : Prop :=
  ∀ value state, part.get (part.set value state) = value

/-- A block appends its entry entered, and goes on with its body when entering returned. -/
theorem withEntry_apply {part : Part σ (List τ)} (hpart : part.Lawful) (missing : ε) (entry : ℕ → τ)
    (enter leave : Proc τ ε Unit) (body : ℕ → Proc σ ε Unit) (state : σ) :
    withEntry part missing entry enter leave body state =
      (match (enter (entry (part.get state).length)).1 with
      | .error error => raise error
      | .ok _ => tryFinally (body (part.get state).length)
          (zoom part (onEntry missing (part.get state).length leave)))
        (part.set (part.get state ++ [(enter (entry (part.get state).length)).2])
          (part.set (part.get state ++ [entry (part.get state).length]) state)) := by
  have hpush : (Proc.zoom part (push entry) : Proc σ ε ℕ) state =
      (.ok (part.get state).length, part.set (part.get state ++
        [entry (part.get state).length]) state) := rfl
  have hown : (part.get state ++ [entry (part.get state).length])[(part.get state).length]? =
      some (entry (part.get state).length) := List.getElem?_concat_length
  have hset : ∀ last : τ, (part.get state ++ [entry (part.get state).length]).set
      (part.get state).length last = part.get state ++ [last] := by
    intro last
    rw [List.set_append_right _ _ le_rfl, Nat.sub_self, List.set_cons_zero]
  have hentered := @onEntry_of_some _ _ _ missing _ enter _ _ hown
  rw [hset, ← hpart (part.get state ++ [entry (part.get state).length]) state] at hentered
  have hzoom := zoom_of_eq part hentered
  rw [withEntry, bind_of_ok hpush]
  rcases henter : (enter (entry (part.get state).length)).1 with error | ⟨⟨⟩⟩
  all_goals rw [henter] at hzoom
  · rw [bind_of_error hzoom]
    rfl
  · rw [bind_of_ok hzoom]

/-- The rule of the block: it moves the entries there are as its body does, and settles its own. -/
theorem Moves.withEntry {moves : τ → τ → Prop} {settled : τ → Prop} {part : Part σ (List τ)}
    (hpart : part.Lawful) (hrefl : ∀ entry, moves entry entry) (missing : ε) (entry : ℕ → τ)
    {enter leave : Proc τ ε Unit} {body : ℕ → Proc σ ε Unit}
    (hrefuses : ∀ index error after, enter (entry index) = (.error error, after) → settled after)
    (hleaves : ∀ index entered last, enter (entry index) = (.ok (), entered) → moves entered last →
      settled (leave last).2)
    (hbody : ∀ index, Moves (fun before after ↦ Extends moves settled (part.get before)
      (part.get after)) (body index)) :
    Moves (fun before after ↦ Extends moves settled (part.get before) (part.get after))
      (Proc.withEntry part missing entry enter leave body) := by
  intro state
  rw [withEntry_apply hpart]
  have hstarted := hpart (part.get state ++ [(enter (entry (part.get state).length)).2])
    (part.set (part.get state ++ [entry (part.get state).length]) state)
  revert hstarted
  generalize part.set (part.get state ++ [(enter (entry (part.get state).length)).2])
    (part.set (part.get state ++ [entry (part.get state).length]) state) = started
  intro hstarted
  rcases henter : enter (entry (part.get state).length) with ⟨error | ⟨⟨⟩⟩, entered⟩
  all_goals rw [henter] at hstarted
  · change Extends moves settled (part.get state) (part.get started)
    rw [hstarted]
    exact .refused hrefl _ (hrefuses _ _ _ henter)
  · have hran : Extends moves settled (part.get started)
        (part.get (body (part.get state).length started).2) := hbody _ started
    dsimp only
    rw [tryFinally_snd, zoom_apply, hpart]
    rw [hstarted] at hran
    obtain ⟨last, hlast, hmoved⟩ := hran.kept _ entered List.getElem?_concat_length
    rw [onEntry_of_some hlast]
    exact hran.left (hleaves _ _ _ henter hmoved)

/-- What beginning the block keeps, and its body and leaving it do, the block keeps. -/
theorem withEntry_keeps_of {relation : σ → σ → Prop} {part : Part σ (List τ)} (hpart : part.Lawful)
    (htrans : ∀ first middle last, relation first middle → relation middle last →
      relation first last) (missing : ε) (entry : ℕ → τ) {enter leave : Proc τ ε Unit}
    {body : ℕ → Proc σ ε Unit} {state : σ}
    (hbegin : relation state
      (part.set (part.get state ++ [(enter (entry (part.get state).length)).2])
        (part.set (part.get state ++ [entry (part.get state).length]) state)))
    (hleave : ∀ index, Moves relation (Proc.zoom part (onEntry missing index leave)))
    (hbody : ∀ index, Moves relation (body index)) :
    relation state (Proc.withEntry part missing entry enter leave body state).2 := by
  rw [withEntry_apply hpart]
  rcases (enter (entry (part.get state).length)).1 with error | ⟨⟨⟩⟩
  · exact hbegin
  · exact htrans _ _ _ hbegin (Moves.tryFinally htrans (hbody _) (hleave _) _)

/-- A block keeps what its steps keep. -/
theorem Moves.withEntry_keeps {relation : σ → σ → Prop} {part : Part σ (List τ)}
    (htrans : ∀ first middle last, relation first middle → relation middle last →
      relation first last) (missing : ε) (entry : ℕ → τ) {enter leave : Proc τ ε Unit}
    {body : ℕ → Proc σ ε Unit} (hset : ∀ entries state, relation state (part.set entries state))
    (hbody : ∀ index, Moves relation (body index)) :
    Moves relation (Proc.withEntry part missing entry enter leave body) := by
  have hzoom : ∀ {β : Type} (step : Proc (List τ) ε β), Moves relation (Proc.zoom part step) :=
    fun step state ↦ hset _ state
  refine .bind htrans (hzoom _) fun index ↦ ?_
  exact .bind htrans (hzoom _) fun _ ↦ .tryFinally htrans (hbody index) (hzoom _)

end Proc
