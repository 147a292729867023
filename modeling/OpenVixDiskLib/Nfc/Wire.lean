import OpenVixDiskLib.Base.SelfDelimiting
import OpenVixDiskLib.Nfc.IoFrame
import OpenVixDiskLib.Nfc.ReadRun

/-!
# IO messages as the server reads them

`IoHead` is the AIO header and the 44-byte payload of an IO message by their fields: what both a
read request and a write frame begin with. A stream starts with at most one head
(`IoHead.bytes_injOn`) and is cut into write frames in at most one way (`IoFrame.flatMap_injOn`). The
request of a read is the head `readHead` (`readRequest_eq_head`).
-/

set_option autoImplicit false
set_option relaxedAutoImplicit false

namespace OpenVixDiskLib

open NfcDisk

/-- The fields of an IO message up to its extra. -/
structure IoHead where
  opId : ℕ
  handle : ℕ
  direction : ℕ
  ctype : ℕ
  diskOffset : ℤ
  length : ℕ
  dest : ℕ
  chunkLen : ℕ
  extraLen : ℕ
deriving DecidableEq, Repr

namespace IoHead

/-- The header's fields and the payload's. -/
def fields (head : IoHead) : List Field :=
  hdrFields nfcAioMsgIo 44 head.opId ++
    ioFields head.handle (ioOpcode head.direction head.ctype) head.diskOffset head.length head.dest
      head.chunkLen head.extraLen

def bytes (head : IoHead) : Bytes :=
  head.fields.flatMap Field.bytes

/-- A head that can be packed. -/
structure Fits (head : IoHead) : Prop where
  fits : ∀ field ∈ head.fields, field.Fits
  direction_lt : head.direction < 2 ^ 32

@[simp] theorem length_bytes (head : IoHead) : head.bytes.length = 60 := by
  rw [bytes, fields, List.flatMap_append, List.length_append, length_hdrFields, length_ioFields]
  rfl

/-- A stream starts with at most one head. -/
theorem bytes_injOn {head head' : IoHead} {rest rest' : Bytes} (hfits : head.Fits)
    (hfits' : head'.Fits) (hstream : head.bytes ++ rest = head'.bytes ++ rest') :
    head = head' ∧ rest = rest' := by
  obtain ⟨hbytes, hrest⟩ := List.append_inj hstream (by rw [length_bytes, length_bytes])
  refine ⟨?_, hrest⟩
  have hvalues := flatMap_bytes_injOn hfits.fits hfits'.fits rfl hbytes
  simp only [fields, hdrFields, ioFields, List.cons_append, List.nil_append, List.map_cons,
    List.map_nil, Field.value, List.cons.injEq, Nat.cast_inj, and_true, true_and] at hvalues
  obtain ⟨hopId, hhandle, hopcode, hoffset, hlength, hdest, hchunkLen, hextraLen⟩ := hvalues
  have hdirection : head.direction = head'.direction := by
    rw [← ioOpcode_mod head.ctype hfits.direction_lt, hopcode,
      ioOpcode_mod _ hfits'.direction_lt]
  have hctype : head.ctype = head'.ctype := by
    rw [← ioOpcode_shiftRight head.ctype hfits.direction_lt, hopcode,
      ioOpcode_shiftRight _ hfits'.direction_lt]
  cases head
  cases head'
  simp_all

end IoHead

/-- What a frame begins with. -/
def IoFrame.head (frame : IoFrame) : IoHead :=
  ⟨frame.opId, frame.handle, frame.direction, frame.ctype, frame.diskOffset, frame.length,
    frame.dest, frame.chunkLen, frame.extra.length⟩

theorem IoFrame.bytes_eq (frame : IoFrame) : frame.bytes = frame.head.bytes ++ frame.extra := by
  rw [IoHead.bytes, IoHead.fields, List.flatMap_append]
  rfl

theorem IoFrame.WellFormed.head_fits {frame : IoFrame} (hframe : frame.WellFormed) :
    frame.head.Fits := by
  refine ⟨?_, hframe.direction_lt⟩
  rw [IoHead.fields, List.forall_mem_append]
  exact ⟨hdrFields_fits.mpr ⟨by decide, by decide, hframe.opId_lt⟩, hframe.fits⟩

/-- A stream starts with at most one frame. -/
theorem IoFrame.bytes_injOn {frame frame' : IoFrame} {rest rest' : Bytes}
    (hframe : frame.WellFormed) (hframe' : frame'.WellFormed)
    (hstream : frame.bytes ++ rest = frame'.bytes ++ rest') : frame = frame' ∧ rest = rest' := by
  rw [IoFrame.bytes_eq, IoFrame.bytes_eq, List.append_assoc, List.append_assoc] at hstream
  obtain ⟨hhead, htail⟩ := IoHead.bytes_injOn hframe.head_fits hframe'.head_fits hstream
  have hextraLen : frame.extra.length = frame'.extra.length := congrArg IoHead.extraLen hhead
  obtain ⟨hextra, hrest⟩ := List.append_inj htail hextraLen
  refine ⟨?_, hrest⟩
  cases frame
  cases frame'
  simp only [IoFrame.head, IoHead.mk.injEq] at hhead hextra
  simp_all

/-- Frames end where their heads say so. -/
theorem IoFrame.selfDelimiting : SelfDelimiting IoFrame.bytes IoFrame.WellFormed where
  ne_nil frame _ hnil := by
    have hlength := congrArg List.length hnil
    rw [IoFrame.bytes_eq, List.length_append, IoHead.length_bytes, List.length_nil] at hlength
    omega
  unique := IoFrame.bytes_injOn

/-- Bytes are cut into frames in at most one way. -/
theorem IoFrame.flatMap_injOn {frames frames' : List IoFrame}
    (hframes : ∀ frame ∈ frames, frame.WellFormed)
    (hframes' : ∀ frame ∈ frames', frame.WellFormed)
    (hbytes : frames.flatMap IoFrame.bytes = frames'.flatMap IoFrame.bytes) : frames = frames' :=
  IoFrame.selfDelimiting.flatMap_injOn hframes hframes' hbytes

/-! ### Read requests -/

/-- The head of a read request: the length stands in the 64-bit length field, whose high half is
zero, and in both chunk fields. -/
def readHead (disk : NfcDisk) (startSector : ℤ) (length : ℕ) : IoHead :=
  ⟨disk.opId, disk.handle.toNat, nfcAioIoRead, disk.compression.code,
    startSector * disk.sectorSize, length, 0, length, length⟩

/-- The request of a read is its head. -/
theorem readRequest_eq_head {disk : NfcDisk} {startSector : ℤ} {length : ℕ}
    (hlength : length < 2 ^ 32) :
    readRequest disk startSector length = (readHead disk startSector length).bytes := by
  have hwide : (Field.Q length).bytes = (Field.I length).bytes ++ (Field.I (0 : ℕ)).bytes := by
    have hhigh : length / 256 ^ 4 = 0 := by omega
    change LittleEndian.encode (4 + 4) length = _
    rw [LittleEndian.encode_add, hhigh]
    rfl
  rw [readRequest, IoHead.bytes, IoHead.fields, List.flatMap_append]
  congr 1
  simp only [readFields, ioFields, readHead, readOpcode, List.flatMap_cons, List.flatMap_nil, hwide,
    List.append_assoc]

theorem ReadFits.head_fits {disk : NfcDisk} {startSector : ℤ} {length : ℕ}
    (hfits : ReadFits disk startSector length) : (readHead disk startSector length).Fits := by
  have hhandle : (Field.Q disk.handle.toNat).Fits := Field.fits_Q.mpr disk.handle.toNat_lt
  have hopcode : (Field.Q (ioOpcode nfcAioIoRead disk.compression.code)).Fits := by
    cases disk.compression <;> decide
  refine ⟨?_, show nfcAioIoRead < 2 ^ 32 by decide⟩
  rw [IoHead.fields, List.forall_mem_append]
  refine ⟨hdrFields_fits.mpr ⟨by decide, by decide, hfits.opId_lt⟩, ?_⟩
  have hlength := hfits.length_lt
  simp only [readHead, ioFields, List.forall_mem_cons, hhandle, hopcode, Field.fits_I,
    Field.fits_Q_int, Field.fits_I_zero, List.not_mem_nil, false_imp_iff, implies_true, and_true,
    true_and]
  exact ⟨⟨hfits.start_nonneg, hfits.start_lt⟩, hlength, by decide, hlength, hlength⟩

end OpenVixDiskLib
