import OpenVixDiskLib.Nfc.OpIds
import OpenVixDiskLib.Server.Refinement

/-!
# Reads and writes through the handle

`VixDiskLibHandle.read` and `VixDiskLibHandle.write` on the disk of an open handle. The read uses the
sector size of the disk. The write takes its data from the source buffer with the module constant 512,
and a slice of a `memoryview` counts elements, not bytes; the disk then checks the data against its own
sector size.

So the two agree on what a sector is exactly when `numSectors * 512` elements of the buffer, as far as it
has them, are `numSectors` sectors of the disk (`SliceIsSectors`, `handle_write_agrees_iff`).
-/

set_option autoImplicit false
set_option relaxedAutoImplicit false

namespace OpenVixDiskLib

open NfcDisk
open Arrival (Quiet streamBytes quiet_segment)

/-! ### Source buffers -/

def vixdisklibSectorSize : ℕ := 512

/-- A `memoryview` of one dimension or more: its bytes, which are `count` parts of `itemsize` bytes. What
`len` counts, and a slice takes, are the items of its first dimension, and `itemsize` is the bytes of one of
these. A view of no dimension has no slice. -/
structure MemoryView where
  content : Bytes
  itemsize : ℕ
  count : ℕ
  itemsize_pos : 0 < itemsize
  length_eq : content.length = count * itemsize

/-- The source buffers a write accepts. -/
inductive SourceBuffer
  | bytes (content : Bytes)
  | bytearray (content : Bytes)
  | memoryview (view : MemoryView)
  | ctypesArray (content : Bytes)

namespace SourceBuffer

/-- The bytes of a buffer. -/
def content : SourceBuffer → Bytes
  | .bytes content => content
  | .bytearray content => content
  | .memoryview view => view.content
  | .ctypesArray content => content

/-- The bytes of one element of a buffer. -/
def itemsize : SourceBuffer → ℕ
  | .memoryview view => view.itemsize
  | _ => 1

end SourceBuffer

/-- Where the slice `[:stop]` of a sequence of `count` elements ends. -/
def sliceStop (stop : ℤ) (count : ℕ) : ℕ :=
  if stop < 0 then (count + stop).toNat else min stop.toNat count

namespace VixDiskLibHandle

/-- The data a write takes from its source buffer. -/
def writeData (numSectors : ℤ) (buf : SourceBuffer) : Bytes :=
  let length := numSectors * vixdisklibSectorSize
  match buf with
  | .bytes content => content.take (sliceStop length content.length)
  | .bytearray content => content.take (sliceStop length content.length)
  | .memoryview view => view.content.take (sliceStop length view.count * view.itemsize)
  | .ctypesArray content => content.take (sliceStop length content.length)

/-- `VixDiskLibHandle.write`, on the disk of the handle. -/
def write (library : FastLzLibrary) (startSector numSectors : ℤ) (buf : SourceBuffer) :
    Py NfcDisk Unit :=
  NfcDisk.write library startSector numSectors (writeData numSectors buf)

/-- `VixDiskLibHandle.read`, on the disk of the handle and the `memoryview` of the buffer. -/
def read (library : FastLzLibrary) (startSector numSectors : ℤ) (skipDecompression : Bool) :
    Py ReadEnv ReadResult :=
  readinto library startSector numSectors skipDecompression

end VixDiskLibHandle

/-- The elements a write takes from the buffer are the sectors of the disk. -/
def SliceIsSectors (disk : NfcDisk) (numSectors : ℤ) (buf : SourceBuffer) : Prop :=
  min buf.content.length (numSectors.toNat * vixdisklibSectorSize * buf.itemsize) =
    requestLength disk numSectors

instance (disk : NfcDisk) (numSectors : ℤ) (buf : SourceBuffer) :
    Decidable (SliceIsSectors disk numSectors buf) :=
  inferInstanceAs (Decidable (_ = _))

variable {library : FastLzLibrary} {disk : NfcDisk} {startSector numSectors : ℤ}
  {buf : SourceBuffer}

/-- The data of a write is a prefix of the buffer. -/
theorem writeData_eq (hpositive : 1 ≤ numSectors) (buf : SourceBuffer) :
    VixDiskLibHandle.writeData numSectors buf =
      buf.content.take (numSectors.toNat * vixdisklibSectorSize * buf.itemsize) := by
  have hstop : ∀ count, sliceStop (numSectors * vixdisklibSectorSize) count =
      min (numSectors.toNat * vixdisklibSectorSize) count := by
    intro count
    rw [sliceStop, if_neg (by unfold vixdisklibSectorSize; omega)]
    congr 1
    unfold vixdisklibSectorSize
    omega
  have hbytes : ∀ content : Bytes,
      content.take (sliceStop (numSectors * vixdisklibSectorSize) content.length) =
        content.take (numSectors.toNat * vixdisklibSectorSize * 1) := by
    intro content
    rw [hstop, Nat.mul_one, List.take_eq_take_iff]
    omega
  unfold VixDiskLibHandle.writeData
  cases buf with
  | bytes content => exact hbytes content
  | bytearray content => exact hbytes content
  | ctypesArray content => exact hbytes content
  | memoryview view =>
    change view.content.take _ = view.content.take _
    rw [hstop, List.take_eq_take_iff, view.length_eq, ← Nat.mul_min_mul_right, min_assoc, min_self]
    rfl

/-- The data of a write is the sectors of the disk exactly when it is as long. -/
theorem writeData_eq_take_iff (hpositive : 1 ≤ numSectors)
    (hroom : requestLength disk numSectors ≤ buf.content.length) :
    VixDiskLibHandle.writeData numSectors buf = buf.content.take (requestLength disk numSectors) ↔
      SliceIsSectors disk numSectors buf := by
  rw [writeData_eq hpositive, List.take_eq_take_iff, SliceIsSectors, min_eq_left hroom, min_comm]

/-- A write whose data is no sectors of the disk is refused before anything happens. -/
theorem handle_write_of_not_sectors (hpositive : 1 ≤ numSectors)
    (hother : ¬ SliceIsSectors disk numSectors buf) :
    ∃ error, VixDiskLibHandle.write library startSector numSectors buf disk =
      (.error error, disk) := by
  have hdata : (VixDiskLibHandle.writeData numSectors buf).length ≠
      requestLength disk numSectors := by
    rw [writeData_eq hpositive, List.length_take, min_comm]
    exact hother
  rw [VixDiskLibHandle.write, NfcDisk.write, Proc.raiseIf_bind_of_neg (by omega),
    Proc.get_bind_apply, Proc.raiseIf_bind_of_pos hdata]
  exact ⟨_, rfl⟩

/-- A write whose numbers or opId do not fit sends nothing. -/
theorem write_sent_of_not_fits {data : Bytes} (hpositive : 1 ≤ numSectors)
    (hdata : data.length = requestLength disk numSectors)
    (hunfit : ¬ WriteFits disk startSector (requestLength disk numSectors)) :
    (NfcDisk.write library startSector numSectors data disk).2.sock = disk.sock := by
  have hpos : 0 < requestLength disk numSectors := requestLength_pos hpositive
  have hround : ∃ error, writeFragment library startSector (requestLength disk numSectors) data
      disk.opId 0 { disk with opId := disk.opId + 1 } =
        (.error error, { disk with opId := disk.opId + 1 }) := by
    rw [writeFragment, Proc.get_bind_apply]
    rcases hencode : encodeChunk library disk.compression (data.slice 0 disk.aioBufferSize) with
      error | ⟨ctype, extra⟩
    · exact ⟨error, Proc.bind_of_error rfl⟩
    rw [Proc.lift_bind_of_ok rfl]
    simp only
    rcases hpayload : pack (ioFields disk.handle.toNat (ioOpcode nfcAioIoWrite ctype)
        (startSector * disk.sectorSize) (requestLength disk numSectors) 0
        (data.slice 0 disk.aioBufferSize).length extra.length) with error | payload
    · exact ⟨error, Proc.bind_of_error rfl⟩
    rw [Proc.lift_bind_of_ok rfl]
    rcases hhdr : packAioHdr nfcAioMsgIo payload.length disk.opId with error | hdr
    · exact ⟨error, Proc.bind_of_error rfl⟩
    exfalso
    obtain ⟨hfits, -⟩ := pack_eq_ok.mp hpayload
    obtain ⟨hhdrFits, -⟩ := pack_eq_ok.mp hhdr
    obtain ⟨-, -, hopId⟩ := hdrFields_fits.mp hhdrFits
    have hnumbers : FieldsFit disk startSector (requestLength disk numSectors) :=
      @FieldsFit.of_writeFrame disk startSector _ disk.opId 0 data ctype extra hfits
    exact hunfit ⟨hopId, hnumbers.start_nonneg, hnumbers.start_lt, hnumbers.length_lt⟩
  obtain ⟨error, hround⟩ := hround
  unfold NfcDisk.write
  rw [Proc.raiseIf_bind_of_neg (by omega), Proc.get_bind_apply,
    Proc.raiseIf_bind_of_neg (not_not.mpr hdata), Proc.bind_of_ok (nextOpId_apply disk)]
  have hloop : writeLoop library startSector (requestLength disk numSectors) data disk.opId 0
      { disk with opId := disk.opId + 1 } =
        (.error error, { disk with opId := disk.opId + 1 }) := by
    rw [writeLoop, Proc.whileLoop_unfold (writeFragment_decreasing _ _ hdata _),
      if_pos (by simpa using hpos), Proc.bind_of_error hround]
  rw [Proc.bind_of_error hloop]

/-- A write whose arguments fit sends at least one frame. -/
theorem write_sent_ne {data : Bytes} (hpositive : 1 ≤ numSectors)
    (hdata : data.length = requestLength disk numSectors)
    (hfits : WriteFits disk startSector (requestLength disk numSectors)) (hsends : disk.sock.Sends)
    (hreturns : CompressorReturns library disk data) :
    (NfcDisk.write library startSector numSectors data disk).2.sock.sent ≠ disk.sock.sent := by
  obtain ⟨frames, hrun⟩ := WriteRun.exists_of_returns hfits hdata hreturns fun _ ↦ dvd_zero _
  have hpos : 0 < requestLength disk numSectors := requestLength_pos hpositive
  rw [write_sent hpositive hdata hsends hrun]
  cases hrun with
  | done hsent => exact absurd hpos (by omega)
  | send =>
    intro hsame
    have hlength := congrArg List.length (List.append_right_eq_self.mp hsame)
    rw [List.flatMap_cons, IoFrame.bytes_eq] at hlength
    simp only [List.length_append, IoHead.length_bytes, List.length_nil] at hlength
    omega

/-! ### A write and a read through the handle -/

/-- A write through the handle and then a read of the same sectors into `target`, each answered by
the server. -/
structure WriteThenRead (library : FastLzLibrary) (startSector numSectors : ℤ) (buf : SourceBuffer)
    (target : Buffer) (writeInbox readInbox : List Arrival) (before middle after : Session)
    (written : Except PyError Unit) (result : Except PyError ReadResult) (left : Buffer) :
    Prop where
  write_quiet : Quiet writeInbox
  write_ran : VixDiskLibHandle.write library startSector numSectors buf
    (before.disk.meets writeInbox) = (written, middle.disk)
  write_served : ∃ request, middle.disk.sock.sent = before.disk.sock.sent ++ request ∧
    Serves library false before.disk.handle.toNat before.content request middle.content
      (streamBytes writeInbox)
  read_quiet : Quiet readInbox
  read_ran : VixDiskLibHandle.read library startSector numSectors false
    (middle.disk.meets readInbox, target) = (result, after.disk, left)
  read_served : ∃ request, after.disk.sock.sent = middle.disk.sock.sent ++ request ∧
    Serves library false middle.disk.handle.toNat middle.content request after.content
      (streamBytes readInbox)

variable {target left : Buffer} {writeInbox readInbox : List Arrival}
  {before middle after : Session} {written : Except PyError Unit}
  {result : Except PyError ReadResult} {data : Bytes}

/-- A ready session can make the two calls: the server can answer both. -/
theorem WriteThenRead.exists_of_ready
    (hready : before.Ready library
      [.write startSector numSectors data, .readinto startSector numSectors false target])
    (hdata : VixDiskLibHandle.writeData numSectors buf = data) :
    ∃ writeInbox readInbox middle after written result left,
      WriteThenRead library startSector numSectors buf target writeInbox readInbox before middle after
        written result left := by
  obtain ⟨_, middle, hwrite⟩ := hready.progress
  have hready' := hready.step hwrite
  obtain ⟨writeInbox, hwriting⟩ := hwrite
  obtain ⟨_, after, readInbox, hreading⟩ := hready'.progress
  have hwritten := congrArg Prod.snd hwriting.ran
  rw [Call.run_write_snd, ← hdata] at hwritten
  have hread := congrArg Prod.snd hreading.ran
  rw [Call.run_readinto_snd] at hread
  exact ⟨writeInbox, readInbox, middle, after, _, _, _, hwriting.quiet, Prod.ext rfl hwritten,
    hwriting.served, hreading.quiet, Prod.ext rfl (Prod.ext hread rfl), hreading.served⟩

/-- What the read leaves in its buffer is the data, when the data is what the write takes. -/
theorem WriteThenRead.gives_back
    (hready : before.Ready library
      [.write startSector numSectors data, .readinto startSector numSectors false target])
    (htarget : target.bytes.length = requestLength before.disk numSectors)
    (hdata : VixDiskLibHandle.writeData numSectors buf = data)
    (hboth : WriteThenRead library startSector numSectors buf target writeInbox readInbox before
      middle after written result left) :
    written = .ok () ∧ (∃ returned, result = .ok returned) ∧ left.bytes = data := by
  have hrun := hboth.write_ran
  rw [VixDiskLibHandle.write, hdata] at hrun
  have hwrite : Step library before (.write startSector numSectors data)
      (written.map fun _ ↦ []) middle := by
    refine ⟨writeInbox, hboth.write_quiet, ?_, hboth.write_served⟩
    rw [Call.run, hrun]
    cases written <;> rfl
  have hread : Step library middle (.readinto startSector numSectors false target)
      (result.map fun _ ↦ left.bytes) after := by
    refine ⟨readInbox, hboth.read_quiet, ?_, hboth.read_served⟩
    have hran := hboth.read_ran
    rw [VixDiskLibHandle.read] at hran
    rw [Call.run, hran]
    cases result <;> rfl
  have hvalid := hready.valid _ List.mem_cons_self
  have hlength : data.length = requestLength before.disk numSectors := hvalid.data
  obtain ⟨hwritten, hmiddle⟩ := Session.Represents.step ⟨hready, rfl, rfl⟩ hwrite
  obtain ⟨hresult, -⟩ := hmiddle.step hread
  have hback : (before.content.splice (Call.offset before.disk.sectorSize
      (.write startSector numSectors data)) data).slice (Call.offset before.disk.sectorSize
        (.write startSector numSectors data)) (requestLength before.disk numSectors) = data := by
    rw [← hlength]
    refine List.slice_splice ?_
    rw [hlength]
    exact hvalid.inside
  refine ⟨?_, ?_⟩
  · cases written with
    | error error => cases hwritten
    | ok returned => rfl
  · cases result with
    | error error => cases hresult
    | ok returned =>
      refine ⟨⟨returned, rfl⟩, (Except.ok.inj hresult).trans ?_⟩
      change _ ++ target.bytes.drop (requestLength before.disk numSectors) = _
      rw [List.drop_eq_nil_of_le htarget.le, List.append_nil]
      exact hback

/-- The handle and its disk agree on how many bytes a sector is, for a buffer with room for the
sectors, if and only if the elements the handle takes are these sectors. Then a write through the
handle is the write of the first `numSectors` sectors of the buffer, and a read after it gives them
back. Else the handle raises and sends nothing, where the disk sends them if its fields fit. -/
theorem handle_write_agrees_iff (hpositive : 1 ≤ numSectors)
    (hroom : requestLength disk numSectors ≤ buf.content.length) :
    (VixDiskLibHandle.write library startSector numSectors buf disk =
        NfcDisk.write library startSector numSectors
          (buf.content.take (requestLength disk numSectors)) disk ↔
      SliceIsSectors disk numSectors buf) ∧
    (disk.sock.Sends →
      CompressorReturns library disk (buf.content.take (requestLength disk numSectors)) →
      ((VixDiskLibHandle.write library startSector numSectors buf disk).2.sock.sent =
          (NfcDisk.write library startSector numSectors
            (buf.content.take (requestLength disk numSectors)) disk).2.sock.sent ↔
        SliceIsSectors disk numSectors buf ∨
          ¬ WriteFits disk startSector (requestLength disk numSectors))) ∧
    (SliceIsSectors disk numSectors buf →
      ∀ (content : Bytes) (target left : Buffer) (writeInbox readInbox : List Arrival)
        (middle after : Session) (written : Except PyError Unit)
        (result : Except PyError ReadResult),
      Session.Ready library [.write startSector numSectors
          (buf.content.take (requestLength disk numSectors)),
        .readinto startSector numSectors false target] ⟨disk, content⟩ →
      target.bytes.length = requestLength disk numSectors →
      WriteThenRead library startSector numSectors buf target writeInbox readInbox ⟨disk, content⟩
        middle after written result left →
      written = .ok () ∧ (∃ returned, result = .ok returned) ∧
        left.bytes = buf.content.take (requestLength disk numSectors)) := by
  have hfront : (buf.content.take (requestLength disk numSectors)).length =
      requestLength disk numSectors := List.length_take_of_le hroom
  have hdata := @writeData_eq_take_iff disk numSectors buf hpositive hroom
  have hsame : SliceIsSectors disk numSectors buf →
      VixDiskLibHandle.write library startSector numSectors buf disk =
        NfcDisk.write library startSector numSectors
          (buf.content.take (requestLength disk numSectors)) disk := by
    intro hslice
    rw [VixDiskLibHandle.write, hdata.mpr hslice]
  refine ⟨⟨?_, hsame⟩, fun hsends hreturns ↦ ⟨?_, ?_⟩, ?_⟩
  · intro hagrees
    by_contra hother
    obtain ⟨error, hraised⟩ := @handle_write_of_not_sectors library disk startSector _ _ hpositive hother
    have hopId := @write_opId library disk startSector _ numSectors hpositive hfront
    rw [← hagrees, hraised] at hopId
    exact absurd hopId (Nat.ne_of_lt (Nat.lt_succ_self _))
  · intro hsent
    by_contra hneither
    obtain ⟨hother, hfits⟩ := not_or.mp hneither
    obtain ⟨error, hraised⟩ := @handle_write_of_not_sectors library disk startSector _ _ hpositive hother
    rw [hraised] at hsent
    exact write_sent_ne hpositive hfront (not_not.mp hfits) hsends hreturns hsent.symm
  · rintro (hslice | hunfit)
    · rw [hsame hslice]
    · by_cases hslice : SliceIsSectors disk numSectors buf
      · rw [hsame hslice]
      · obtain ⟨error, hraised⟩ := @handle_write_of_not_sectors library disk startSector _ _ hpositive hslice
        rw [hraised, write_sent_of_not_fits hpositive hfront hunfit]
  · intro hslice content target left writeInbox readInbox middle after written result hready
      htarget hboth
    exact hboth.gives_back hready htarget (hdata.mpr hslice)

/-- A view of two elements of two bytes. -/
def twoWords : SourceBuffer :=
  .memoryview ⟨[1, 2, 3, 4], 2, 2, by decide, rfl⟩

theorem handle_write_agrees_words :
    VixDiskLibHandle.write FastLz.storing 1 1 twoWords (fresh []) =
        NfcDisk.write FastLz.storing 1 1 [1, 2, 3, 4] (fresh []) ∧
      ∃ writeInbox readInbox middle after written result left,
        WriteThenRead FastLz.storing 1 1 twoWords (Buffer.zeros 4) writeInbox readInbox
          ⟨fresh [], List.replicate 8 0⟩ middle after written result left ∧
        written = .ok () ∧ (∃ returned, result = .ok returned) ∧ left.bytes = [1, 2, 3, 4] := by
  obtain ⟨hagrees, -, hgives⟩ := @handle_write_agrees_iff FastLz.storing (fresh []) 1 1 twoWords
    (by decide) (by decide)
  have hready : Session.Ready FastLz.storing [.write 1 1 [1, 2, 3, 4],
      .readinto 1 1 false (Buffer.zeros 4)] ⟨fresh [], List.replicate 8 0⟩ := by
    refine ⟨⟨rfl, rfl⟩, ⟨rfl, quiet_segment [], rfl⟩, by decide, ?_, ?_⟩
    · rw [List.forall_mem_cons, List.forall_mem_singleton]
      exact ⟨⟨by decide, by decide, by decide, by decide, by decide, rfl⟩,
        ⟨by decide, by decide, by decide, by decide, by decide, rfl, Buffer.zeros_flat 4, by decide⟩⟩
    · rw [List.forall_mem_cons, List.forall_mem_singleton]
      exact ⟨fun _ _ _ _ _ ↦ FastLz.roundTrips_storing _, trivial⟩
  have htakes : VixDiskLibHandle.writeData 1 twoWords = [1, 2, 3, 4] := by decide
  obtain ⟨writeInbox, readInbox, middle, after, written, result, left, hboth⟩ :=
    WriteThenRead.exists_of_ready hready htakes
  exact ⟨hagrees.mpr (by decide), writeInbox, readInbox, middle, after, written, result, left, hboth,
    hgives (by decide) _ _ _ _ _ _ _ _ _ hready (by decide) hboth⟩

/-- On a disk with sectors of 4096 bytes, a write of one sector from a buffer of 4096 bytes raises and
sends nothing; the disk itself sends that sector. -/
theorem handle_write_rejects_sector :
    (VixDiskLibHandle.write FastLz.storing 0 1 (.bytes (List.replicate 4096 0))
        { fresh [] with sectorSize := 4096, sectorSize_pos := by decide }).1 =
      .error (valueError "write data is 512 bytes, need 4096") ∧
    (VixDiskLibHandle.write FastLz.storing 0 1 (.bytes (List.replicate 4096 0))
        { fresh [] with sectorSize := 4096, sectorSize_pos := by decide }).2.sock.sent = [] ∧
    (NfcDisk.write FastLz.storing 0 1 (List.replicate 4096 0)
        { fresh [] with sectorSize := 4096, sectorSize_pos := by decide }).2.sock.sent.length =
      4156 := by
  decide +kernel

end OpenVixDiskLib
