import OpenVixDiskLib.Nfc.Read

/-!
# Receiving into the rows of a view

`_recvn_into` counts rows and advances by bytes. A view whose rows are bytes (`ByteView.Bytewise`) is
received into like a flat one, or its slice has gaps and nothing is received (`receiveInto_bytewise`). A
view whose rows are empty or have gaps inside takes no byte at all (`receiveInto_dead`). Into a row of
two bytes or more that has no gaps, two bytes are received where one is asked for (`receiveInto_wide`).
-/

set_option autoImplicit false
set_option relaxedAutoImplicit false

namespace OpenVixDiskLib

open NfcDisk

namespace ByteView

/-- The rows of the view are bytes, and there are `length` of them. -/
structure Bytewise (view : ByteView) (length size : ℕ) : Prop where
  width : view.width = 1
  rows : length ≤ view.count size
  room : length ≤ size

theorem Bytewise.flat {length size : ℕ} (hroom : length ≤ size) : flat.Bytewise length size :=
  ⟨rfl, hroom, hroom⟩

theorem Bytewise.of_le {view : ByteView} {length length' size : ℕ} (hbytes : view.Bytewise length size)
    (hle : length' ≤ length) : view.Bytewise length' size :=
  ⟨hbytes.width, hle.trans hbytes.rows, hle.trans hbytes.room⟩

/-- No row of the view takes a byte: it is empty, or has gaps inside. -/
def Dead (view : ByteView) : Prop :=
  view.width = 0 ∨ view.width ≠ 1 ∧ ¬ view.Receivable

/-- Only a view of several dimensions is dead. -/
theorem Dead.oneDim {view : ByteView} (hdead : view.Dead) : view.oneDim = false := by
  cases view with
  | flat => obtain hwidth | ⟨hwidth, -⟩ := hdead <;> simp at hwidth
  | rows outer inner =>
    cases inner with
    | nil => obtain hwidth | ⟨hwidth, -⟩ := hdead <;> simp [width, Dim.span] at hwidth
    | cons dim inner => rfl

end ByteView

section Rows

variable {stride : ℤ} {inner : List Dim} {count filled : ℕ} {state : Sock × Bytes}

/-- Without gaps, a slice of rows of one byte leaves none in its slices. -/
theorem Dim.contiguous_of_le {extent : ℕ} (hwidth : Dim.span 1 inner = 1) (hpos : 0 < extent)
    (hle : extent ≤ count) (hgaps : Dim.contiguous 1 (⟨count, stride⟩ :: inner) = true) :
    Dim.contiguous 1 (⟨extent, stride⟩ :: inner) = true := by
  cases inner with
  | nil =>
    simp only [Dim.contiguous, decide_eq_true_eq] at hgaps ⊢
    exact hgaps.imp_left fun hone ↦ by omega
  | cons dim inner =>
    simp only [Dim.contiguous, Dim.span, Dim.packed, decide_eq_true_eq] at hgaps hwidth ⊢
    rw [hwidth] at hgaps ⊢
    obtain hempty | ⟨hrows, hinner⟩ := hgaps
    · omega
    · exact Or.inr ⟨hrows.imp_left fun hone ↦ by omega, hinner⟩

/-- A slice with gaps is refused. -/
theorem recvRound_of_gaps {view : ByteView} (hgaps : (view.slice filled count).contiguous = false) :
    recvRound view count filled state = (.error viewWithGaps, state) :=
  Proc.raiseIf_bind_of_pos hgaps _ _ _

/-- Rows of one byte without gaps are received into as bytes. -/
theorem recvRound_rows (hwidth : Dim.span 1 inner = 1) (hgo : filled < count)
    (hgaps : Dim.contiguous 1 (⟨count, stride⟩ :: inner) = true) :
    recvRound (.rows ⟨count, stride⟩ inner) count filled = recvRound .flat count filled := by
  have hslice : ((ByteView.rows ⟨count, stride⟩ inner).slice filled count).contiguous = true := by
    refine Dim.contiguous_of_le hwidth ?_ ?_ hgaps
    · simp only [Nat.min_self]
      omega
    · simp only [Nat.min_self]
      omega
  funext state
  rw [recvRound_flat hgo, recvRound, Proc.raiseIf_bind_of_neg (by rw [hslice]; simp)]
  simp only [ByteView.width, hwidth, Nat.mul_one, recvSlice, if_neg (show count - filled ≠ 0 by omega)]

theorem recvnInto_rows {sock : Sock} {view : Bytes} (hwidth : Dim.span 1 inner = 1)
    (hgaps : Dim.contiguous 1 (⟨view.length, stride⟩ :: inner) = true) :
    recvnInto (.rows ⟨view.length, stride⟩ inner) (sock, view) = recvnInto .flat (sock, view) := by
  rw [recvnInto_flat]
  have hloop := @Proc.whileLoop_congr _ _ _ (fun filled ↦ decide (filled < view.length))
    (recvRound (.rows ⟨view.length, stride⟩ inner) view.length) (recvRound .flat view.length)
    (fun filled ↦ view.length - filled)
    (fun filled hgo ↦ recvRound_rows hwidth (by simpa using hgo) hgaps) 0
  rw [← hloop]
  rfl

/-- A receive whose first round raises raises the same. -/
theorem recvnInto_of_error {view : ByteView} {after : Sock × Bytes} {error : PyError}
    (hpos : 0 < view.count state.2.length)
    (hround : recvRound view (view.count state.2.length) 0 state = (.error error, after)) :
    recvnInto view state = (.error error, after) := by
  rw [recvnInto, Proc.get_bind_apply]
  refine Proc.bind_of_error ?_
  rw [Proc.whileLoop_unfold (recvRound_decreasing _ _), if_pos (by simpa using hpos)]
  exact Proc.bind_of_error hround

/-- Empty rows take no byte: the connection seems closed. -/
theorem recvnInto_of_empty {sock : Sock} {bytes : Bytes} (hwidth : Dim.span 1 inner = 0)
    (hpos : 0 < count) :
    ∃ error, recvnInto (.rows ⟨count, stride⟩ inner) (sock, bytes) = (.error error, sock, bytes) := by
  have hgaps : ((ByteView.rows ⟨count, stride⟩ inner).slice 0 count).contiguous = true := by
    cases inner with
    | nil => simp [Dim.span] at hwidth
    | cons dim inner =>
      simp only [ByteView.slice, ByteView.contiguous, Dim.contiguous, decide_eq_true_eq]
      left
      rw [Dim.span, hwidth, Nat.mul_zero]
  have hround : recvRound (.rows ⟨count, stride⟩ inner) count 0 (sock, bytes) =
      (.error (nfcProtocolError s!"NFC connection closed, needed {count} bytes, got {0}"),
        sock, bytes) := by
    rw [recvRound, Proc.raiseIf_bind_of_neg (by rw [hgaps]; simp)]
    simp only [ByteView.width, hwidth, Nat.mul_zero, recvSlice, if_true]
    rw [Proc.bind_of_ok (Proc.pure_apply _ _), Proc.modify_bind_apply,
      Proc.raiseIf_bind_of_pos rfl, List.splice_nil]
  exact ⟨_, @recvnInto_of_error (sock, bytes) _ _ _ hpos hround⟩

/-- The rows of a slice without gaps have none inside. -/
theorem Dim.contiguous_row (hpos : 0 < count)
    (hgaps : Dim.contiguous 1 (⟨count, stride⟩ :: inner) = true) :
    Dim.contiguous 1 (⟨1, stride⟩ :: inner) = true := by
  cases inner with
  | nil => simp [Dim.contiguous]
  | cons dim inner =>
    simp only [Dim.contiguous, Dim.span, Dim.packed, decide_eq_true_eq] at hgaps ⊢
    obtain hempty | ⟨-, hinner⟩ := hgaps
    · left
      rw [Nat.one_mul]
      exact (Nat.mul_eq_zero.mp hempty).resolve_left (by omega)
    · exact Or.inr ⟨Or.inl le_rfl, hinner⟩

/-- A receive of two bytes or more takes two bytes that come together. -/
theorem recvSlice_two {sock : Sock} {view : Bytes} {first second : UInt8} {limit : ℕ}
    (hopen : sock.closed = false) (hinbox : sock.inbox = Arrival.segment [first, second])
    (hlimit : 2 ≤ limit) :
    recvSlice limit (sock, view) = (.ok [first, second], { sock with inbox := [] }, view) := by
  have hdrop : ([first, second] : Bytes).drop limit = [] := List.drop_eq_nil_of_le hlimit
  have htake : ([first, second] : Bytes).take limit = [first, second] :=
    List.take_of_length_le hlimit
  have hsock : Sock.recvInto limit sock = (.ok [first, second], { sock with inbox := [] }) := by
    simp [Sock.recvInto, hopen, hinbox, Arrival.segment, Arrival.receive, hdrop, htake]
  rw [recvSlice, if_neg (by omega)]
  exact Proc.zoom_of_eq viewSock hsock

/-- One row of two bytes or more without gaps is filled by the one round that takes them. -/
theorem recvnInto_wide {sock : Sock} {view : Bytes} {first second : UInt8}
    (hopen : sock.closed = false) (hinbox : sock.inbox = Arrival.segment [first, second])
    (hwide : 2 ≤ Dim.span 1 inner) (hrow : Dim.contiguous 1 (⟨1, stride⟩ :: inner) = true) :
    recvnInto (.rows ⟨1, stride⟩ inner) (sock, view) =
      (.ok (), { sock with inbox := [] }, view.splice 0 [first, second]) := by
  have hround : recvRound (.rows ⟨1, stride⟩ inner) 1 0 (sock, view) =
      (.ok 2, { sock with inbox := [] }, view.splice 0 [first, second]) := by
    have hslice : ((ByteView.rows ⟨1, stride⟩ inner).slice 0 1).contiguous = true := by
      simpa only [ByteView.slice, Nat.min_self, Nat.sub_zero, ByteView.contiguous] using hrow
    have hlimit : (1 - 0) * Dim.span 1 inner = Dim.span 1 inner := Nat.one_mul _
    rw [recvRound, Proc.raiseIf_bind_of_neg (by rw [hslice]; simp)]
    simp only [ByteView.width, hlimit]
    rw [Proc.bind_of_ok (recvSlice_two hopen hinbox hwide), Proc.modify_bind_apply,
      Proc.raiseIf_bind_of_neg (by simp), Proc.pure_apply, Nat.zero_mul]
    rfl
  have hdecreasing := recvRound_decreasing (.rows ⟨1, stride⟩ inner) 1
  have hloop := Proc.whileLoop_unfold hdecreasing 0 (sock, view)
  have hend := Proc.whileLoop_unfold hdecreasing 2
    ({ sock with inbox := [] }, view.splice 0 [first, second])
  rw [if_neg (by decide)] at hend
  rw [if_pos (by decide), Proc.bind_of_ok hround, hend] at hloop
  exact Proc.bind_of_ok hloop

end Rows

section Buffers

variable {data : ByteView} {offset length : ℕ} {env : ReadEnv}

/-- A receive into a part of the buffer that leaves the part as it was leaves the buffer as it was. -/
theorem receiveInto_of_error {error : PyError}
    (hfits : offset * data.width + length * data.width ≤ env.2.bytes.length)
    (hrun : recvnInto (data.slice offset (offset + length))
        (env.1.sock, env.2.bytes.slice (offset * data.width) (length * data.width)) =
      (.error error, env.1.sock, env.2.bytes.slice (offset * data.width) (length * data.width))) :
    receiveInto data offset length env = (.error error, env) := by
  rw [receiveInto, Proc.zoom_of_eq (envView _ _) hrun]
  simp only [envView, List.splice_slice hfits]

/-- Rows of one byte are received into as bytes, or refused. -/
theorem receiveInto_bytewise (hbytes : data.Bytewise (offset + length) env.2.bytes.length) :
    receiveInto data offset length env = receiveInto .flat offset length env ∨
      ∃ error, receiveInto data offset length env = (.error error, env) := by
  cases data with
  | flat => exact Or.inl rfl
  | rows outer inner =>
    have hwidth : Dim.span 1 inner = 1 := hbytes.width
    have hrows : offset + length ≤ outer.extent := hbytes.rows
    have hview := List.length_slice env.2.bytes offset length hbytes.room
    have hslice : (ByteView.rows outer inner).slice offset (offset + length) =
        .rows ⟨(env.2.bytes.slice offset length).length, outer.stride⟩ inner := by
      simp only [ByteView.slice, Nat.min_eq_left hrows, Nat.add_sub_cancel_left, hview]
    have hplace : receiveInto (.rows outer inner) offset length =
        Proc.zoom (envView offset length) (recvnInto
          (.rows ⟨(env.2.bytes.slice offset length).length, outer.stride⟩ inner)) := by
      simp only [receiveInto, hslice, ByteView.width, hwidth, Nat.mul_one]
    by_cases hgaps : Dim.contiguous 1
      (⟨(env.2.bytes.slice offset length).length, outer.stride⟩ :: inner) = true
    · left
      rw [hplace, receiveInto, Proc.zoom_apply, Proc.zoom_apply]
      simp only [envView, recvnInto_rows hwidth hgaps, ByteView.width_flat, ByteView.slice_flat,
        Nat.mul_one]
    rcases Nat.eq_zero_or_pos length with rfl | hpos
    · left
      rw [hplace, receiveInto, Proc.zoom_apply, Proc.zoom_apply]
      simp only [ByteView.width_flat, ByteView.slice_flat, Nat.mul_one]
      rfl
    · right
      refine ⟨viewWithGaps, ?_⟩
      rw [hplace]
      have hrun := @recvnInto_of_error (env.1.sock, env.2.bytes.slice offset length)
        (.rows ⟨(env.2.bytes.slice offset length).length, outer.stride⟩ inner) _ _
        (by rw [ByteView.count, hview]; exact hpos) (recvRound_of_gaps (by
          simpa only [ByteView.count, ByteView.slice, Nat.min_self, Nat.sub_zero,
            ByteView.contiguous, Bool.not_eq_true] using hgaps))
      rw [Proc.zoom_of_eq (envView offset length) hrun]
      simp only [envView, List.splice_slice hbytes.room]

/-- Dead rows take no byte. -/
theorem receiveInto_dead (hdead : data.Dead) (hpos : 0 < length)
    (hrows : offset + length ≤ data.count env.2.bytes.length)
    (hroom : (offset + length) * data.width ≤ env.2.bytes.length) :
    ∃ error, receiveInto data offset length env = (.error error, env) := by
  have hfits : offset * data.width + length * data.width ≤ env.2.bytes.length := by
    rwa [← Nat.add_mul]
  cases data with
  | flat => obtain hwidth | ⟨hwidth, -⟩ := hdead <;> simp at hwidth
  | rows outer inner =>
    have hslice : (ByteView.rows outer inner).slice offset (offset + length) =
        .rows ⟨length, outer.stride⟩ inner := by
      simp only [ByteView.slice, Nat.min_eq_left (show offset + length ≤ outer.extent from hrows),
        Nat.add_sub_cancel_left]
    obtain hwidth | ⟨-, hgaps⟩ := hdead
    · obtain ⟨error, hrun⟩ := @recvnInto_of_empty outer.stride inner length env.1.sock
        (env.2.bytes.slice (offset * (ByteView.rows outer inner).width)
          (length * (ByteView.rows outer inner).width)) hwidth hpos
      exact ⟨error, receiveInto_of_error hfits (by rw [hslice]; exact hrun)⟩
    · have hextent : min 1 outer.extent = 1 := by
        have hle : offset + length ≤ outer.extent := hrows
        omega
      refine ⟨viewWithGaps, receiveInto_of_error hfits ?_⟩
      rw [hslice]
      refine recvnInto_of_error hpos (recvRound_of_gaps ?_)
      simp only [ByteView.count, ByteView.slice, Nat.min_self, Nat.sub_zero, ByteView.contiguous]
      refine Bool.eq_false_iff.mpr fun hsolid ↦ hgaps ?_
      simpa only [ByteView.Receivable, ByteView.slice, hextent, Nat.sub_zero,
        ByteView.contiguous] using Dim.contiguous_row hpos hsolid

/-- Into one row of two bytes or more without gaps, two bytes are received that come together. -/
theorem receiveInto_wide {first second : UInt8} (hopen : env.1.sock.closed = false)
    (hinbox : env.1.sock.inbox = Arrival.segment [first, second]) (hwide : 2 ≤ data.width)
    (hrows : 1 ≤ data.count env.2.bytes.length) (hsolid : data.Receivable)
    (hroom : data.width ≤ env.2.bytes.length) :
    receiveInto data 0 1 env =
      (.ok (), { env.1 with sock := { env.1.sock with inbox := [] } },
        { env.2 with bytes := env.2.bytes.splice 0 [first, second] }) := by
  cases data with
  | flat => simp at hwide
  | rows outer inner =>
    have hextent : min 1 outer.extent = 1 := Nat.min_eq_left hrows
    change 2 ≤ Dim.span 1 inner at hwide
    change Dim.span 1 inner ≤ env.2.bytes.length at hroom
    have hrow : Dim.contiguous 1 (⟨1, outer.stride⟩ :: inner) = true := by
      simpa only [ByteView.Receivable, ByteView.slice, hextent, Nat.sub_zero,
        ByteView.contiguous] using hsolid
    have hview := List.length_slice env.2.bytes 0 (Dim.span 1 inner) (by omega)
    have hrun := @recvnInto_wide outer.stride inner env.1.sock
      (env.2.bytes.slice 0 (Dim.span 1 inner)) first second hopen hinbox hwide hrow
    have hplace : receiveInto (.rows outer inner) 0 1 =
        Proc.zoom (envView 0 (Dim.span 1 inner)) (recvnInto (.rows ⟨1, outer.stride⟩ inner)) := by
      simp only [receiveInto, ByteView.slice, hextent, Nat.sub_zero, ByteView.width, Nat.zero_mul,
        Nat.one_mul, Nat.zero_add]
    rw [hplace, Proc.zoom_of_eq (envView 0 (Dim.span 1 inner)) hrun]
    have hwindow := List.splice_splice_window
      (show 0 + (env.2.bytes.slice 0 (Dim.span 1 inner)).length ≤ env.2.bytes.length by omega)
      (show 0 + [first, second].length ≤ (env.2.bytes.slice 0 (Dim.span 1 inner)).length by
        rw [hview]
        simpa using hwide)
    rw [List.splice_slice (by omega), Nat.add_zero] at hwindow
    simp only [envView, ← hwindow]

end Buffers

end OpenVixDiskLib
