import Mathlib.Data.List.Basic
import Mathlib.Data.Nat.Basic

/-!
# Slices of a buffer

`slice buffer offset length` reads a range of a buffer and `splice buffer offset chunk` overwrites
the range that starts at `offset` with `chunk`. A range that fits the buffer reads back what was
stored in it (`slice_splice`), a store leaves every other position as it was
(`getElem?_splice_of_lt`, `getElem?_splice_of_le`), and two stores side by side are one
(`splice_splice_append`).
-/

set_option autoImplicit false
set_option relaxedAutoImplicit false

namespace List

variable {α : Type*}

/-- The range of `length` elements from `offset`. -/
def slice (buffer : List α) (offset length : ℕ) : List α :=
  (buffer.drop offset).take length

/-- The buffer with the range from `offset` overwritten by `chunk`. -/
def splice (buffer : List α) (offset : ℕ) (chunk : List α) : List α :=
  buffer.take offset ++ chunk ++ buffer.drop (offset + chunk.length)

theorem length_slice (buffer : List α) (offset length : ℕ)
    (hfits : offset + length ≤ buffer.length) : (buffer.slice offset length).length = length := by
  simp only [slice, length_take, length_drop]
  omega

theorem length_splice {buffer : List α} {offset : ℕ} {chunk : List α}
    (hfits : offset + chunk.length ≤ buffer.length) :
    (buffer.splice offset chunk).length = buffer.length := by
  simp only [splice, length_append, length_take, length_drop]
  omega

@[simp] theorem splice_nil (buffer : List α) (offset : ℕ) : buffer.splice offset [] = buffer := by
  simp [splice]

/-- Storing a chunk as long as the buffer at its start replaces the buffer. -/
theorem splice_zero_of_length {buffer chunk : List α} (hlength : chunk.length = buffer.length) :
    buffer.splice 0 chunk = chunk := by
  simp [splice, hlength]

theorem getElem?_splice_of_lt {buffer : List α} {offset index : ℕ} {chunk : List α}
    (hfits : offset ≤ buffer.length) (hindex : index < offset) :
    (buffer.splice offset chunk)[index]? = buffer[index]? := by
  have hleft : index < (buffer.take offset).length := by rw [length_take]; omega
  rw [splice, append_assoc, getElem?_append_left hleft, getElem?_take_of_lt hindex]

theorem getElem?_splice_of_le {buffer : List α} {offset index : ℕ} {chunk : List α}
    (hfits : offset + chunk.length ≤ buffer.length) (hindex : offset + chunk.length ≤ index) :
    (buffer.splice offset chunk)[index]? = buffer[index]? := by
  have hleft : (buffer.take offset ++ chunk).length = offset + chunk.length := by
    rw [length_append, length_take]
    omega
  rw [splice, getElem?_append_right (by omega), hleft, getElem?_drop]
  congr 1
  omega

theorem getElem?_splice_of_mem {buffer : List α} {offset index : ℕ} {chunk : List α}
    (hfits : offset ≤ buffer.length) (hfrom : offset ≤ index)
    (hindex : index < offset + chunk.length) :
    (buffer.splice offset chunk)[index]? = chunk[index - offset]? := by
  have hleft : (buffer.take offset).length = offset := by rw [length_take]; omega
  rw [splice, append_assoc, getElem?_append_right (by omega), hleft,
    getElem?_append_left (by omega)]

/-- A range reads back the chunk stored in it. -/
theorem slice_splice {buffer : List α} {offset : ℕ} {chunk : List α}
    (hfits : offset + chunk.length ≤ buffer.length) :
    (buffer.splice offset chunk).slice offset chunk.length = chunk := by
  have hleft : (buffer.take offset).length = offset := by rw [length_take]; omega
  rw [slice, splice, append_assoc, drop_append_of_le_length (by omega)]
  simp

/-- Two stores side by side are one store of the two chunks. -/
theorem splice_splice_append {buffer : List α} {offset : ℕ} {first second : List α}
    (hfits : offset + first.length ≤ buffer.length) :
    (buffer.splice offset first).splice (offset + first.length) second =
      buffer.splice offset (first ++ second) := by
  have hleft : (buffer.take offset ++ first).length = offset + first.length := by
    rw [length_append, length_take]
    omega
  have htake : (buffer.splice offset first).take (offset + first.length) =
      buffer.take offset ++ first := by
    rw [splice, take_append_of_le_length (by omega), take_of_length_le (by omega)]
  have hdrop : (buffer.splice offset first).drop (offset + first.length + second.length) =
      buffer.drop (offset + (first ++ second).length) := by
    rw [splice, drop_append, drop_eq_nil_of_le (by omega), nil_append, drop_drop, hleft,
      length_append]
    congr 1
    omega
  rw [splice, htake, hdrop, splice, append_assoc _ first second]

/-- A store into a window of the buffer is a store into the buffer. -/
theorem splice_splice_window {buffer window chunk : List α} {offset inner : ℕ}
    (hwindow : offset + window.length ≤ buffer.length)
    (hchunk : inner + chunk.length ≤ window.length) :
    (buffer.splice offset window).splice (offset + inner) chunk =
      buffer.splice offset (window.splice inner chunk) := by
  have hlength : (window.splice inner chunk).length = window.length := length_splice hchunk
  have hwhole : (buffer.splice offset window).length = buffer.length := length_splice hwindow
  refine ext_getElem? fun index ↦ ?_
  rcases Nat.lt_or_ge index offset with hbefore | hfrom
  · rw [getElem?_splice_of_lt (by omega) (by omega), getElem?_splice_of_lt (by omega) hbefore,
      getElem?_splice_of_lt (by omega) hbefore]
  rcases Nat.lt_or_ge index (offset + window.length) with hinside | hbehind
  · have hshow : (buffer.splice offset (window.splice inner chunk))[index]? =
        (window.splice inner chunk)[index - offset]? :=
      getElem?_splice_of_mem (by omega) hfrom (by omega)
    rw [hshow]
    rcases Nat.lt_or_ge index (offset + inner) with hlow | hhigh
    · rw [getElem?_splice_of_lt (by omega) hlow, getElem?_splice_of_mem (by omega) hfrom hinside,
        getElem?_splice_of_lt (by omega) (by omega)]
    rcases Nat.lt_or_ge index (offset + inner + chunk.length) with hin | hout
    · rw [getElem?_splice_of_mem (by omega) hhigh hin,
        getElem?_splice_of_mem (by omega) (by omega) (by omega)]
      congr 1
      omega
    · rw [getElem?_splice_of_le (by omega) hout, getElem?_splice_of_mem (by omega) hfrom hinside,
        getElem?_splice_of_le hchunk (by omega)]
  · rw [getElem?_splice_of_le (by omega) (by omega), getElem?_splice_of_le hwindow hbehind,
      getElem?_splice_of_le (by omega) (by omega)]

/-- Storing back what a range holds changes nothing. -/
theorem splice_slice {buffer : List α} {offset length : ℕ}
    (hfits : offset + length ≤ buffer.length) :
    buffer.splice offset (buffer.slice offset length) = buffer := by
  rw [splice, length_slice _ _ _ hfits, slice, ← drop_drop, append_assoc, take_append_drop,
    take_append_drop]

end List
