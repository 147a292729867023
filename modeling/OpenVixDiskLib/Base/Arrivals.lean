import Mathlib.Data.List.Basic
import Mathlib.Data.Nat.Basic

/-!
# A byte stream as a receiver sees it

A stream socket hands over its bytes in segments the receiver does not choose, and a receive may
time out between two of them. `Arrival` is one such event: a segment, which holds at least one
byte, or a timeout. A list of arrivals is everything later receives will see; the end of the list
is the end of the stream. `receive` is one call that asks for at most `limit` bytes.

`streamBytes` forgets the segmentation. A receive takes a prefix of the stream's bytes and leaves
the rest (`receive_streamBytes`), and on a stream without timeouts (`Quiet`) it takes at least one
byte while there is one (`receive_ne_nil`).
-/

set_option autoImplicit false
set_option relaxedAutoImplicit false

/-- What one receive may meet: a segment of at least one byte, or a timeout. -/
inductive Arrival
  | data (first : UInt8) (more : List UInt8)
  | timeout
deriving DecidableEq, Repr

namespace Arrival

/-- The bytes of one arrival. -/
def bytes : Arrival → List UInt8
  | .data first more => first :: more
  | .timeout => []

/-- The bytes of a stream, in order, without their segmentation. -/
def streamBytes (inbox : List Arrival) : List UInt8 :=
  inbox.flatMap bytes

/-- No receive on the stream times out. -/
def Quiet (inbox : List Arrival) : Prop :=
  Arrival.timeout ∉ inbox

/-- One receive of at most `limit` bytes: the bytes it returns, or `none` on a timeout, and the
stream it leaves. At the end of the stream it returns no bytes. -/
def receive (limit : ℕ) : List Arrival → Option (List UInt8) × List Arrival
  | [] => (some [], [])
  | .timeout :: rest => (none, rest)
  | .data first more :: rest =>
    match (first :: more).drop limit with
    | [] => (some ((first :: more).take limit), rest)
    | next :: later => (some ((first :: more).take limit), .data next later :: rest)

/-- The arrivals of one segment: none when it is empty. -/
def segment : List UInt8 → List Arrival
  | [] => []
  | first :: more => [.data first more]

@[simp] theorem streamBytes_nil : streamBytes [] = [] := rfl

@[simp] theorem streamBytes_cons (arrival : Arrival) (rest : List Arrival) :
    streamBytes (arrival :: rest) = arrival.bytes ++ streamBytes rest :=
  List.flatMap_cons

@[simp] theorem streamBytes_append (first rest : List Arrival) :
    streamBytes (first ++ rest) = streamBytes first ++ streamBytes rest :=
  List.flatMap_append

@[simp] theorem streamBytes_segment (bytes : List UInt8) :
    streamBytes (segment bytes) = bytes := by
  cases bytes <;> simp [segment, Arrival.bytes]

theorem quiet_nil : Quiet [] := by
  simp [Quiet]

theorem quiet_append {first rest : List Arrival} :
    Quiet (first ++ rest) ↔ Quiet first ∧ Quiet rest := by
  simp [Quiet]

theorem quiet_segment (bytes : List UInt8) : Quiet (segment bytes) := by
  cases bytes <;> simp [segment, Quiet]

/-- A receive takes a prefix of the stream's bytes and leaves the rest, on a timeout the empty
prefix. -/
theorem receive_streamBytes (limit : ℕ) (inbox : List Arrival) :
    streamBytes inbox =
      (receive limit inbox).1.getD [] ++ streamBytes (receive limit inbox).2 := by
  rcases inbox with _ | ⟨⟨first, more⟩ | _, rest⟩
  · rfl
  · have hsplit := List.take_append_drop limit (first :: more)
    simp only [receive]
    split
    · rename_i hdrop
      rw [hdrop, List.append_nil] at hsplit
      simp only [Option.getD_some, streamBytes_cons, bytes]
      rw [hsplit]
    · rename_i next later hdrop
      rw [hdrop] at hsplit
      simp only [Option.getD_some, streamBytes_cons, bytes]
      rw [← List.append_assoc, hsplit]
  · rfl

/-- A receive takes the start of one segment and leaves the rest in one segment. -/
theorem receive_segment (limit : ℕ) (bytes : List UInt8) :
    receive limit (segment bytes) = (some (bytes.take limit), segment (bytes.drop limit)) := by
  cases bytes with
  | nil => simp [segment, receive]
  | cons first more =>
    rcases hdrop : (first :: more).drop limit with _ | ⟨next, later⟩ <;>
      simp [segment, receive, hdrop]

/-- A receive returns at most the bytes it asked for. -/
theorem receive_length_le (limit : ℕ) (inbox : List Arrival) :
    ((receive limit inbox).1.getD []).length ≤ limit := by
  rcases inbox with _ | ⟨⟨first, more⟩ | _, rest⟩
  · simp [receive]
  · simp only [receive]
    split <;> simp only [Option.getD_some, List.length_take] <;> exact Nat.min_le_left _ _
  · simp [receive]

/-- A receive leaves a stream without timeouts without timeouts. -/
theorem receive_quiet (limit : ℕ) {inbox : List Arrival} (hquiet : Quiet inbox) :
    Quiet (receive limit inbox).2 := by
  rcases inbox with _ | ⟨⟨first, more⟩ | _, rest⟩
  · exact hquiet
  · have hrest : Quiet rest := fun hmem ↦ hquiet (List.mem_cons_of_mem _ hmem)
    simp only [receive]
    split
    · exact hrest
    · simpa [Quiet] using hrest
  · exact fun hmem ↦ hquiet (List.mem_cons_of_mem _ hmem)

/-- On a stream without timeouts a receive returns. -/
theorem receive_isSome (limit : ℕ) {inbox : List Arrival} (hquiet : Quiet inbox) :
    (receive limit inbox).1 = some ((receive limit inbox).1.getD []) := by
  rcases inbox with _ | ⟨⟨first, more⟩ | _, rest⟩
  · rfl
  · simp only [receive]
    split <;> rfl
  · exact absurd List.mem_cons_self hquiet

/-- While bytes remain and none is a timeout away, a receive of at least one byte returns at
least one. -/
theorem receive_ne_nil {limit : ℕ} (hlimit : 0 < limit) {inbox : List Arrival}
    (hquiet : Quiet inbox) (hbytes : streamBytes inbox ≠ []) :
    (receive limit inbox).1.getD [] ≠ [] := by
  rcases inbox with _ | ⟨⟨first, more⟩ | _, rest⟩
  · exact absurd rfl hbytes
  · obtain ⟨smaller, rfl⟩ := Nat.exists_eq_succ_of_ne_zero (Nat.ne_of_gt hlimit)
    simp only [receive]
    split <;> simp
  · exact absurd List.mem_cons_self hquiet

end Arrival
