import OpenVixDiskLib.Nfc.Reply

/-!
# IO frames

A read reply fragment and a write request fragment have one layout: an AIO header, a 44-byte
payload and an extra. `IoFrame` is such a frame by its fields and `IoFrame.bytes` its bytes. A frame
whose fields fit and whose extra has the size its compression type implies is a reply fragment to
the read decoder (`IoFrame.replyFrame`), whoever sent it.
-/

set_option autoImplicit false
set_option relaxedAutoImplicit false

namespace OpenVixDiskLib

/-- The fields of the 44-byte IO payload of a fragment, packed as `<QQQIIIII`. -/
def ioFields (handle opcode : ℕ) (diskOffset : ℤ) (length fragOffset chunkLen extraLen : ℕ) :
    List Field :=
  [.Q handle, .Q opcode, .Q diskOffset, .I length, .I fragOffset, .I chunkLen, .I extraLen, .I 0]

/-- One IO frame: an AIO message of type 7 that carries a fragment of a transfer. -/
structure IoFrame where
  opId : ℕ
  handle : ℕ
  direction : ℕ
  diskOffset : ℤ
  length : ℕ
  dest : ℕ
  chunkLen : ℕ
  ctype : ℕ
  extra : Bytes
deriving DecidableEq, Repr

namespace IoFrame

/-- The fields of a frame's payload. -/
def fields (frame : IoFrame) : List Field :=
  ioFields frame.handle (ioOpcode frame.direction frame.ctype) frame.diskOffset frame.length
    frame.dest frame.chunkLen frame.extra.length

/-- The bytes of a frame. -/
def bytes (frame : IoFrame) : Bytes :=
  (hdrFields nfcAioMsgIo 44 frame.opId).flatMap Field.bytes ++
    frame.fields.flatMap Field.bytes ++ frame.extra

/-- The fragment a frame carries. -/
def fragment (frame : IoFrame) : Fragment :=
  ⟨frame.dest, frame.chunkLen, frame.ctype, frame.extra⟩

/-- A frame that can be packed, and whose extra has the size its compression type implies. -/
structure WellFormed (frame : IoFrame) : Prop where
  opId_lt : frame.opId < 2 ^ 32
  fits : ∀ field ∈ frame.fields, field.Fits
  direction_lt : frame.direction < 2 ^ 32
  extra_size : frame.ctype = Compression.fastlz.code ∧ frame.extra ≠ [] ∨
    frame.ctype = Compression.none.code ∧ frame.extra.length = frame.chunkLen

/-- A raw frame of a read reply to request 0 for `length` bytes at the start of the disk. -/
def raw (length dest : ℕ) (extra : Bytes) : IoFrame :=
  ⟨0, 0, nfcAioIoRead, 0, length, dest, extra.length, Compression.none.code, extra⟩

end IoFrame

@[simp] theorem length_ioFields (handle opcode : ℕ) (diskOffset : ℤ)
    (length fragOffset chunkLen extraLen : ℕ) :
    ((ioFields handle opcode diskOffset length fragOffset chunkLen extraLen).flatMap
      Field.bytes).length = 44 := by
  simp [ioFields, Field.width]

/-- The compression type is the high half of an opcode. -/
theorem ioOpcode_shiftRight {direction : ℕ} (ctype : ℕ) (hdirection : direction < 2 ^ 32) :
    ioOpcode direction ctype >>> 32 = ctype := by
  rw [ioOpcode, Nat.shiftRight_or_distrib, Nat.shiftLeft_shiftRight, Nat.shiftRight_eq_div_pow,
    Nat.div_eq_of_lt hdirection, Nat.zero_or]

/-- The direction is the low half of an opcode. -/
theorem ioOpcode_mod {direction : ℕ} (ctype : ℕ) (hdirection : direction < 2 ^ 32) :
    ioOpcode direction ctype % 2 ^ 32 = direction := by
  rw [ioOpcode, Nat.or_mod_two_pow, Nat.shiftLeft_eq, Nat.mul_mod_left, Nat.or_zero,
    Nat.mod_eq_of_lt hdirection]

theorem IoFrame.wellFormed_raw {length dest : ℕ} {extra : Bytes} (hlength : length < 2 ^ 32)
    (hinside : dest + extra.length ≤ length) : (IoFrame.raw length dest extra).WellFormed := by
  refine ⟨show 0 < 2 ^ 32 by decide, ?_, show nfcAioIoRead < 2 ^ 32 by decide,
    Or.inr ⟨rfl, rfl⟩⟩
  simp only [IoFrame.raw, IoFrame.fields, ioFields, List.forall_mem_cons, Field.fits_I,
    List.not_mem_nil, false_imp_iff, implies_true, and_true]
  exact ⟨by decide, by decide, by decide, hlength, by omega, by omega, by omega, by decide⟩

/-- The read decoder takes a well-formed IO frame as the fragment it carries. -/
theorem IoFrame.replyFrame {frame : IoFrame} (hframe : frame.WellFormed) :
    ReplyFrame frame.opId frame.fragment frame.bytes := by
  have hfits := hframe.fits
  simp only [IoFrame.fields, ioFields, List.forall_mem_cons, List.not_mem_nil, false_imp_iff,
    implies_true, and_true] at hfits
  obtain ⟨hhandle, hopcode, hoffset, hlength, hdest, hchunkLen, hextraLen, -⟩ := hfits
  have hctype : ioOpcode frame.direction frame.ctype >>> 32 = frame.ctype :=
    ioOpcode_shiftRight _ hframe.direction_lt
  have hbody : (frame.fields.flatMap Field.bytes).length = 44 := length_ioFields _ _ _ _ _ _ _
  have hpayload := List.append_nil (frame.fields.flatMap Field.bytes)
  have hfragment : frame.fragment =
      ⟨frame.dest, frame.chunkLen, ioOpcode frame.direction frame.ctype >>> 32, frame.extra⟩ := by
    rw [hctype]
    rfl
  rw [hfragment]
  refine .intro (length_hdrFields _ _ _) ?_ (by rw [hbody]; omega) ?_ ?_ ?_ ?_
  · rw [hbody]
    exact unpackAioHdr_hdrFields (by decide) (by decide) hframe.opId_lt (by decide)
  · rw [← hpayload]
    exact unpackField_fields hopcode [_] _ []
  · rw [← hpayload]
    exact unpackField_fields hdest [_, _, _, _] _ []
  · rw [← hpayload]
    exact unpackField_fields hchunkLen [_, _, _, _, _] _ []
  · rw [hctype]
    unfold aioExtraLen
    obtain ⟨hfastlz, hextra⟩ | ⟨hnone, hextra⟩ := hframe.extra_size
    · have hunpack : unpackI (frame.fields.flatMap Field.bytes) 36 = .ok frame.extra.length := by
        rw [← hpayload]
        exact unpackField_fields hextraLen [_, _, _, _, _, _] _ []
      have hpos : ¬ frame.extra.length < 1 := by
        have := List.length_pos_iff.mpr hextra
        omega
      rw [if_pos hfastlz, hunpack]
      exact if_neg hpos
    · rw [hnone, if_neg (by decide), if_pos rfl, hextra]

theorem IoFrame.replyFrame_raw (length dest : ℕ) (extra : Bytes) (hlength : length < 2 ^ 32)
    (hinside : dest + extra.length ≤ length) :
    ReplyFrame 0 ⟨dest, extra.length, Compression.none.code, extra⟩
      (IoFrame.raw length dest extra).bytes :=
  IoFrame.replyFrame (IoFrame.wellFormed_raw hlength hinside)

/-- A reply of two frames, the later half first. -/
def swappedReply : Bytes :=
  (IoFrame.raw 4 2 [3, 4]).bytes ++ (IoFrame.raw 4 0 [1, 2]).bytes

end OpenVixDiskLib
