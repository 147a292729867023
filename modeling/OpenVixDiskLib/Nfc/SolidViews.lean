import OpenVixDiskLib.Nfc.Read

/-!
# Errors that blame the view

A view that has passed the checks of a read can still be refused behind the request: a socket receives into
no slice with gaps (`TypeError`), and no slice of several dimensions can be assigned to
(`NotImplementedError`). A view of one dimension without gaps is never blamed, whatever the server sends
(`readinto_solid`).
-/

set_option autoImplicit false
set_option relaxedAutoImplicit false

namespace OpenVixDiskLib

open NfcDisk
open Proc (Raises)

/-- The exceptions that blame the caller's view. -/
def PyError.blamesView (error : PyError) : Bool :=
  error.kind = .typeError ∨ error.kind = .notImplementedError

/-- The exception blames something else. -/
abbrev PyError.Impersonal (error : PyError) : Prop :=
  error.blamesView = false

namespace ByteView

/-- One dimension without gaps. -/
def Solid (view : ByteView) : Prop :=
  view.oneDim = true ∧ view.contiguous = true

theorem flat_solid : flat.Solid := ⟨rfl, rfl⟩

/-- Every slice of a solid view that is not empty is without gaps. -/
theorem Solid.slice_contiguous {view : ByteView} {start stop filled size : ℕ} (hsolid : view.Solid)
    (hfilled : filled < (view.slice start stop).count size) :
    ((view.slice start stop).slice filled ((view.slice start stop).count size)).contiguous = true := by
  cases view with
  | flat => rfl
  | rows outer inner =>
    obtain ⟨hone, hgaps⟩ := hsolid
    obtain rfl : inner = [] := by simpa only [oneDim, decide_eq_true_eq] using hone
    simp only [contiguous, Dim.contiguous, slice, count, decide_eq_true_eq] at hgaps hfilled ⊢
    exact hgaps.imp_left fun hextent ↦ by omega

end ByteView

/-! ### Pieces -/

theorem raises_unpackField {width offset : ℕ} {buffer : Bytes} {error : PyError}
    (h : unpackField width buffer offset = .error error) : error.Impersonal := by
  unfold unpackField at h
  split_ifs at h
  obtain rfl := Except.error.inj h
  rfl

theorem raises_pack {fields : List Field} {error : PyError} (h : pack fields = .error error) :
    error.Impersonal := by
  unfold pack at h
  split_ifs at h
  obtain rfl := Except.error.inj h
  rfl

/-- A computation raises in its first step or in the rest. -/
theorem error_of_bind {α β : Type} {first : Except PyError α} {next : α → Except PyError β}
    {error : PyError} (h : first >>= next = .error error) :
    first = .error error ∨ ∃ value, next value = .error error := by
  cases first with
  | error raised => exact .inl (congrArg Except.error (Except.error.inj h))
  | ok value => exact .inr ⟨value, h⟩

theorem raises_unpackAioHdr {hdr : Bytes} {error : PyError} (h : unpackAioHdr hdr = .error error) :
    error.Impersonal := by
  unfold unpackAioHdr at h
  obtain h | ⟨magic, h⟩ := error_of_bind h
  · exact raises_unpackField h
  obtain h | ⟨msgType, h⟩ := error_of_bind h
  · exact raises_unpackField h
  obtain h | ⟨size, h⟩ := error_of_bind h
  · exact raises_unpackField h
  obtain h | ⟨opId, h⟩ := error_of_bind h
  · exact raises_unpackField h
  split_ifs at h
  · obtain rfl := Except.error.inj h
    rfl
  · obtain rfl := Except.error.inj h
    rfl

theorem raises_aioExtraLen {ctype chunkLen : ℕ} {body : Bytes} {error : PyError}
    (h : aioExtraLen ctype body chunkLen = .error error) : error.Impersonal := by
  unfold aioExtraLen at h
  split_ifs at h
  · obtain h | ⟨extraLen, h⟩ := error_of_bind h
    · exact raises_unpackField h
    · split_ifs at h
      obtain rfl := Except.error.inj h
      rfl
  · obtain rfl := Except.error.inj h
    rfl

theorem raises_decompress {library : FastLzLibrary} {data : Bytes} {maxout : ℕ} {error : PyError}
    (h : FastLz.decompress library data maxout = .error error) : error.Impersonal := by
  unfold FastLz.decompress at h
  split_ifs at h
  · obtain rfl := Except.error.inj h
    rfl
  · obtain rfl := Except.error.inj h
    rfl
  · split at h
    · obtain rfl := Except.error.inj h
      rfl
    · split_ifs at h
      obtain rfl := Except.error.inj h
      rfl

/-! ### Receives -/

theorem raises_sockRecvInto (limit : ℕ) : Raises PyError.Impersonal (Sock.recvInto limit) := by
  intro sock error after h
  unfold Sock.recvInto at h
  split_ifs at h
  · obtain rfl := Except.error.inj (Prod.mk.inj h).1
    rfl
  · split at h
    · cases h
    · obtain rfl := Except.error.inj (Prod.mk.inj h).1
      rfl

theorem raises_sendall (data : Bytes) : Raises PyError.Impersonal (Sock.sendall data) := by
  intro sock error after h
  unfold Sock.sendall at h
  split_ifs at h
  · obtain rfl := Except.error.inj (Prod.mk.inj h).1
    rfl
  · split at h
    · cases h
    · obtain rfl := Except.error.inj (Prod.mk.inj h).1
      rfl
    · cases h

theorem raises_recvRound {view : ByteView} {n filled : ℕ}
    (hgaps : (view.slice filled n).contiguous = true) :
    Raises PyError.Impersonal (recvRound view n filled) := by
  refine .bind (.raiseIf fun hrefused ↦ ?_) fun _ ↦ .bind ?_ fun chunk ↦ ?_
  · rw [hgaps] at hrefused
    cases hrefused
  · unfold recvSlice
    split
    · exact .pure _
    · exact .zoom (raises_sockRecvInto _)
  · exact .bind (.modify _) fun _ ↦ .bind (.raiseIf fun _ ↦ rfl) fun _ ↦ .pure _

theorem raises_recvnInto {data : ByteView} (hsolid : data.Solid) (start stop : ℕ) :
    Raises PyError.Impersonal (recvnInto (data.slice start stop)) := by
  refine .get_bind fun state ↦ .bind (.whileLoop (fun filled hgo ↦ ?_) 0) fun _ ↦ .pure ()
  exact raises_recvRound (hsolid.slice_contiguous (by simpa using hgo))

theorem raises_recvn (size : ℕ) : Raises PyError.Impersonal (recvn size) :=
  .bind (.withLocal (raises_recvnInto ByteView.flat_solid 0 0)) fun _ ↦ .pure _

/-! ### Reads -/

variable {data : ByteView}

theorem raises_receiveInto (hsolid : data.Solid) (offset length : ℕ) :
    Raises PyError.Impersonal (receiveInto data offset length) :=
  .zoom (raises_recvnInto hsolid _ _)

theorem raises_receiveExtra (library : FastLzLibrary) (hsolid : data.Solid) (length : ℕ)
    (skipDecompression : Bool) (packedOffset dest chunkLen ctype extraLen : ℕ) :
    Raises PyError.Impersonal (receiveExtra library data length skipDecompression packedOffset dest
      chunkLen ctype extraLen) := by
  unfold receiveExtra
  split_ifs with hskip hfastlz hnone
  · refine .bind (.raiseIf fun _ ↦ rfl) fun _ ↦ ?_
    exact .bind (raises_receiveInto hsolid _ _) fun _ ↦ .pure _
  · refine .bind (.zoom (raises_recvn _)) fun extra ↦ .bind ?_ fun chunk ↦ ?_
    · exact .tryExcept (.lift fun _ ↦ raises_decompress) fun _ ↦ .raise rfl
    · refine .bind (.raiseIf fun _ ↦ rfl) fun _ ↦ .bind ?_ fun _ ↦ .pure _
      refine .bind (.raiseIf fun hseveral ↦ ?_) fun _ ↦ .modify _
      rw [hsolid.1] at hseveral
      cases hseveral
  · exact .bind (raises_receiveInto hsolid _ _) fun _ ↦ .pure _
  · exact .raise rfl

theorem raises_readFragment (library : FastLzLibrary) (hsolid : data.Solid) (length opId : ℕ)
    (skipDecompression : Bool) (locals : ReadLocals) : Raises PyError.Impersonal
      (readFragment library data length opId skipDecompression locals) := by
  refine .bind (.zoom (raises_recvn _)) fun rhdr ↦ ?_
  refine .bind (.lift fun _ ↦ raises_unpackAioHdr) fun hdr ↦ ?_
  refine .bind (.raiseIf fun _ ↦ rfl) fun _ ↦ ?_
  refine .bind (.zoom (raises_recvn _)) fun body ↦ ?_
  refine .bind (.raiseIf fun _ ↦ rfl) fun _ ↦ ?_
  refine .bind (.lift fun _ ↦ raises_unpackField) fun opcode ↦ ?_
  refine .bind (.lift fun _ ↦ raises_unpackField) fun dest ↦ ?_
  refine .bind (.lift fun _ ↦ raises_unpackField) fun chunkLen ↦ ?_
  refine .bind (.raiseIf fun _ ↦ rfl) fun _ ↦ ?_
  refine .bind (.lift fun _ ↦ raises_aioExtraLen) fun extraLen ↦ ?_
  exact .bind (raises_receiveExtra library hsolid _ _ _ _ _ _ _) fun _ ↦ .pure _

theorem raises_sendRead (startSector : ℤ) (length : ℕ) :
    Raises PyError.Impersonal (sendRead startSector length) := by
  refine .get_bind fun disk ↦ .bind (.lift fun _ ↦ raises_pack) fun payload ↦ ?_
  refine .bind (.get_bind fun _ ↦ .bind (.modify _) fun _ ↦ .pure _) fun opId ↦ ?_
  refine .bind (.lift fun _ ↦ raises_pack) fun hdr ↦ ?_
  exact .bind (.zoom (raises_sendall _)) fun _ ↦ .pure _

/-- A read that has passed its checks with a solid view does not blame it. -/
theorem readinto_solid {library : FastLzLibrary} {startSector numSectors : ℤ}
    {skipDecompression : Bool} {env after : ReadEnv} {error : PyError} (hpositive : 1 ≤ numSectors)
    (hdata : writableBytes env.2 (requestLength env.1 numSectors) = .ok data) (hsolid : data.Solid)
    (h : readinto library startSector numSectors skipDecompression env = (.error error, after)) :
    error.Impersonal := by
  rw [readinto, Proc.raiseIf_bind_of_neg (by omega), Proc.get_bind_apply,
    Proc.lift_bind_of_ok hdata] at h
  refine Raises.bind (.zoom (raises_sendRead startSector _)) (fun opId ↦ ?_) env error after h
  exact .bind (.whileLoop (fun locals _ ↦ raises_readFragment library hsolid _ _ _ locals) _) fun _ ↦
    .pure _

end OpenVixDiskLib
