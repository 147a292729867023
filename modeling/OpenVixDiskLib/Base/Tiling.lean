import Mathlib

/-!
# Tilings of a finite set

A list of finite sets tiles a set when its members are pairwise disjoint and their union is the
set. The sizes of a tiling add up to the size of the set (`Tiles.sum_card`), and disjoint parts
inside the set whose sizes reach it are a tiling (`tiles_of_card_le`): once nothing overlaps,
counting decides whether anything is missing.

`Ico_disjoint_iff` says when two ranges of natural numbers are disjoint: neither starts inside the
other.
-/

set_option autoImplicit false
set_option relaxedAutoImplicit false

section Tiling

open List (map pairwise_cons map_cons sum_cons)

variable {α : Type*} [DecidableEq α]

/-- The parts are pairwise disjoint and their union is the whole. -/
structure Tiles (parts : List (Finset α)) (whole : Finset α) : Prop where
  disjoint : parts.Pairwise Disjoint
  covers : ∀ x, x ∈ whole ↔ ∃ part ∈ parts, x ∈ part

/-- The union of a list of sets. -/
def unionAll (parts : List (Finset α)) : Finset α :=
  parts.foldr (· ∪ ·) ∅

theorem mem_unionAll {parts : List (Finset α)} {x : α} :
    x ∈ unionAll parts ↔ ∃ part ∈ parts, x ∈ part := by
  induction parts with
  | nil => simp [unionAll]
  | cons part parts ih =>
    change x ∈ part ∪ unionAll parts ↔ _
    rw [Finset.mem_union, ih]
    simp

/-- The union of pairwise disjoint sets has the sum of their sizes. -/
theorem card_unionAll {parts : List (Finset α)} (hdisjoint : parts.Pairwise Disjoint) :
    (unionAll parts).card = (parts.map Finset.card).sum := by
  induction parts with
  | nil => rfl
  | cons part parts ih =>
    obtain ⟨hhead, htail⟩ := pairwise_cons.mp hdisjoint
    have hunion : Disjoint part (unionAll parts) := by
      rw [Finset.disjoint_left]
      intro x hpart hrest
      obtain ⟨other, hother, hx⟩ := mem_unionAll.mp hrest
      exact Finset.disjoint_left.mp (hhead other hother) hpart hx
    change (part ∪ unionAll parts).card = _
    rw [Finset.card_union_of_disjoint hunion, ih htail, map_cons, sum_cons]

theorem Tiles.sum_card {parts : List (Finset α)} {whole : Finset α} (htiles : Tiles parts whole) :
    (parts.map Finset.card).sum = whole.card := by
  rw [← card_unionAll htiles.disjoint]
  congr 1
  ext x
  rw [mem_unionAll, htiles.covers]

/-- Disjoint parts of a set whose sizes reach its size tile it. -/
theorem tiles_of_card_le {parts : List (Finset α)} {whole : Finset α}
    (hdisjoint : parts.Pairwise Disjoint) (hinside : ∀ part ∈ parts, part ⊆ whole)
    (hcard : whole.card ≤ (parts.map Finset.card).sum) : Tiles parts whole := by
  have hsubset : unionAll parts ⊆ whole := by
    intro x hx
    obtain ⟨part, hpart, hxpart⟩ := mem_unionAll.mp hx
    exact hinside part hpart hxpart
  have hunion : unionAll parts = whole :=
    Finset.eq_of_subset_of_card_le hsubset (by rw [card_unionAll hdisjoint]; exact hcard)
  refine ⟨hdisjoint, fun x ↦ ?_⟩
  rw [← mem_unionAll, hunion]

omit [DecidableEq α] in
theorem tiles_nil : Tiles ([] : List (Finset α)) ∅ :=
  ⟨.nil, by simp⟩

/-- A tiling with a further part that is disjoint from what it tiles. -/
theorem Tiles.cons {part : Finset α} {parts : List (Finset α)} {whole : Finset α}
    (hdisjoint : Disjoint part whole) (htiles : Tiles parts whole) :
    Tiles (part :: parts) (part ∪ whole) := by
  refine ⟨.cons (fun other hother ↦ ?_) htiles.disjoint, fun x ↦ ?_⟩
  · refine Finset.disjoint_left.mpr fun x hx hx' ↦ ?_
    exact Finset.disjoint_left.mp hdisjoint hx ((htiles.covers x).mpr ⟨other, hother, hx'⟩)
  · rw [Finset.mem_union, htiles.covers]
    simp

omit [DecidableEq α] in
/-- A tiling in any other order is a tiling. -/
theorem Tiles.perm {parts parts' : List (Finset α)} {whole : Finset α} (htiles : Tiles parts whole)
    (hperm : parts.Perm parts') : Tiles parts' whole := by
  refine ⟨hperm.pairwise htiles.disjoint fun h ↦ h.symm, fun x ↦ ?_⟩
  rw [htiles.covers]
  simp only [hperm.mem_iff]

end Tiling

/-- Two nonempty ranges are disjoint exactly when neither starts inside the other. -/
theorem Ico_disjoint_iff {first second firstLength secondLength : ℕ} (hfirst : 0 < firstLength)
    (hsecond : 0 < secondLength) :
    Disjoint (Finset.Ico first (first + firstLength)) (Finset.Ico second (second + secondLength)) ↔
      ¬ (first ≤ second ∧ second < first + firstLength) ∧
        ¬ (second ≤ first ∧ first < second + secondLength) := by
  constructor
  · intro hdisjoint
    constructor
    · rintro ⟨hle, hlt⟩
      exact Finset.disjoint_left.mp hdisjoint (Finset.mem_Ico.mpr ⟨hle, hlt⟩)
        (Finset.mem_Ico.mpr ⟨le_rfl, by omega⟩)
    · rintro ⟨hle, hlt⟩
      exact Finset.disjoint_left.mp hdisjoint (Finset.mem_Ico.mpr ⟨le_rfl, by omega⟩)
        (Finset.mem_Ico.mpr ⟨hle, hlt⟩)
  · rintro ⟨hfirstOut, hsecondOut⟩
    rw [Finset.disjoint_left]
    intro x hx hx'
    rw [Finset.mem_Ico] at hx hx'
    omega
