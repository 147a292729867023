import Mathlib.Data.List.Basic

/-!
# Self-delimiting codes

A code whose words end where their own symbols say so: no word is a proper start of another one, and a
text that starts with a word starts with only one. Then a text is cut into words in at most one way
(`SelfDelimiting.flatMap_injOn`). Wherever a text of any words is broken off, whole words are left, or the
proper end of a word and whole words (`Rest`, `exists_rest`).
-/

set_option autoImplicit false
set_option relaxedAutoImplicit false

variable {α β : Type}

/-- The words of the letters that satisfy `p` are not empty, and a text starts with at most one of
them. -/
structure SelfDelimiting (word : α → List β) (p : α → Prop) : Prop where
  ne_nil : ∀ letter, p letter → word letter ≠ []
  unique : ∀ {first second : α} {rest rest' : List β}, p first → p second →
    word first ++ rest = word second ++ rest' → first = second ∧ rest = rest'

/-- A text is cut into words in at most one way. -/
theorem SelfDelimiting.flatMap_injOn {word : α → List β} {p : α → Prop}
    (hcode : SelfDelimiting word p) : ∀ {first second : List α}, (∀ letter ∈ first, p letter) →
    (∀ letter ∈ second, p letter) → first.flatMap word = second.flatMap word → first = second
  | [], [], _, _, _ => rfl
  | [], letter :: letters, _, hsecond, h => by
    have hne := hcode.ne_nil letter (hsecond letter List.mem_cons_self)
    exact absurd (List.append_eq_nil_iff.mp h.symm).1 hne
  | letter :: letters, [], hfirst, _, h => by
    have hne := hcode.ne_nil letter (hfirst letter List.mem_cons_self)
    exact absurd (List.append_eq_nil_iff.mp h).1 hne
  | letter :: letters, letter' :: letters', hfirst, hsecond, h => by
    rw [List.forall_mem_cons] at hfirst hsecond
    obtain ⟨rfl, hrest⟩ := hcode.unique hfirst.1 hsecond.1 h
    rw [flatMap_injOn hcode hfirst.2 hsecond.2 hrest]

/-- What is left of the words of some items behind a part of them: whole words, or the proper end `tail` of
a word and then whole words. -/
inductive Rest (word : α → List β) (items : List α) : List β → List β → Prop
  | between {front back : List α} (hitems : items = front ++ back) :
      Rest word items [] (back.flatMap word)
  | inside {front back : List α} {item : α} {taken tail : List β} (hitems : items = front ++ item :: back)
      (hword : word item = taken ++ tail) (htaken : taken ≠ []) (htail : tail ≠ []) :
      Rest word items tail (tail ++ back.flatMap word)

theorem Rest.cons {word : α → List β} {items : List α} {tail left : List β} (item : α)
    (hrest : Rest word items tail left) : Rest word (item :: items) tail left := by
  cases hrest with
  | @between front back hitems => exact @Rest.between _ _ _ _ (item :: front) back (by rw [hitems]; rfl)
  | @inside front back other taken tail hitems hword htaken htail =>
    exact @Rest.inside _ _ _ _ (item :: front) back other taken tail (by rw [hitems]; rfl) hword htaken
      htail

/-- When nothing is left, no word is broken off. -/
theorem Rest.tail_eq_nil {word : α → List β} {items : List α} {tail left : List β}
    (hrest : Rest word items tail left) (hleft : left = []) : tail = [] := by
  cases hrest with
  | between => rfl
  | inside => exact (List.append_eq_nil_iff.mp hleft).1

/-- Every end of a text of words is such a rest. -/
theorem exists_rest {word : α → List β} {items : List α} {taken left : List β}
    (htext : items.flatMap word = taken ++ left) : ∃ tail, Rest word items tail left := by
  induction items generalizing taken with
  | nil =>
    obtain ⟨-, rfl⟩ := List.append_eq_nil_iff.mp htext.symm
    exact ⟨[], @Rest.between _ _ _ _ [] [] rfl⟩
  | cons item items ih =>
    rw [List.flatMap_cons] at htext
    obtain ⟨more, rfl, hmore⟩ | ⟨more, hword, rfl⟩ := List.append_eq_append_iff.mp htext
    · obtain ⟨tail, hrest⟩ := ih hmore
      exact ⟨tail, hrest.cons item⟩
    -- The text is broken off in this word, perhaps at one of its ends.
    rcases eq_or_ne more [] with rfl | hmore
    · exact ⟨[], @Rest.between _ _ _ _ [item] items rfl⟩
    rcases eq_or_ne taken [] with rfl | htaken
    · refine ⟨[], ?_⟩
      have hwhole := @Rest.between _ _ word (item :: items) [] (item :: items) rfl
      rwa [List.flatMap_cons, hword] at hwhole
    · exact ⟨more, @Rest.inside _ _ _ _ [] items item taken more rfl hword htaken hmore⟩
