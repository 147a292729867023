import OpenVixDiskLib.Base.Simulation
import OpenVixDiskLib.Nfc.RoundTrip

/-!
# The server and a session with it

The server as `docs/nfc_read.md` and `docs/nfc_write.md` describe it. It holds the bytes of the disk.
It answers a read request with IO frames that carry the requested range (`Carries`): they tile it, in
any order, and each is raw or FastLZ. A packing server falls back to raw where FastLZ does not shrink
a chunk, so that packed extras have room in a buffer sized for the request; only skip reads ask for
that. For a write it collects the IO frames of one opId, decodes each extra, stores it at the disk
offset plus the fragment offset, and sends one acknowledgement of 44 bytes (`Serves`).

`Call` is a call of the client and `Step` one call against the server: the client meets arrivals that
hold the server's answer to exactly the bytes the call sent, in any segmentation. `arrayMachine` is
the abstract system, an array of bytes.
-/

set_option autoImplicit false
set_option relaxedAutoImplicit false

namespace OpenVixDiskLib

open NfcDisk
open Arrival (Quiet streamBytes)

/-! ### The server -/

/-- The chunk a frame stands for is written at its place in the disk. -/
def placeFrame (library : FastLzLibrary) (content : Bytes) (frame : IoFrame) : Bytes :=
  content.splice (frame.diskOffset.toNat + frame.dest) ((frame.fragment.decode library).getD [])

/-- The frames of one write: they share their opId, handle, disk offset and length, all are writes,
and their lengths add up to the length of the write. -/
structure WriteMessage (handle opId : ℕ) (diskOffset : ℤ) (length : ℕ) (frames : List IoFrame) :
    Prop where
  wellFormed : ∀ frame ∈ frames, frame.WellFormed
  shared : ∀ frame ∈ frames, frame.opId = opId ∧ frame.handle = handle ∧
    frame.direction = nfcAioIoWrite ∧ frame.diskOffset = diskOffset ∧ frame.length = length
  nonempty : frames ≠ []
  complete : (frames.map IoFrame.chunkLen).sum = length

/-- The server that holds `content` for an open handle takes a request, answers it, and holds the
new content. -/
inductive Serves (library : FastLzLibrary) (packing : Bool) (handle : ℕ) :
    Bytes → Bytes → Bytes → Bytes → Prop
  | read {content : Bytes} {head : IoHead} {frames : List IoFrame}
      (hfits : head.Fits) (hhandle : head.handle = handle)
      (hdirection : head.direction = nfcAioIoRead) (hdest : head.dest = 0)
      (hoffset : 0 ≤ head.diskOffset)
      (hinside : head.diskOffset.toNat + head.length ≤ content.length)
      (hcarries :
        Carries library head.opId (content.slice head.diskOffset.toNat head.length) frames)
      (hpacked : packing = true → ∀ frame ∈ frames, frame.extra.length ≤ frame.chunkLen) :
      Serves library packing handle content head.bytes content (frames.flatMap IoFrame.bytes)
  | write {content body : Bytes} {opId length : ℕ} {diskOffset : ℤ} {frames : List IoFrame}
      (hmessage : WriteMessage handle opId diskOffset length frames)
      (hdecodes : ∀ frame ∈ frames, (frame.fragment.decode library).isSome)
      (hoffset : 0 ≤ diskOffset) (hinside : diskOffset.toNat + length ≤ content.length)
      (hbody : body.length = 44) :
      Serves library packing handle content (frames.flatMap IoFrame.bytes)
        (frames.foldl (placeFrame library) content) (aioMessage nfcAioMsgIo opId body)

/-! ### What the server makes of a request -/

section Requests

variable {library : FastLzLibrary} {packing : Bool} {handle : ℕ}
  {content content' reply : Bytes} {frames : List IoFrame}

/-- Frames of a write are no read request. -/
theorem IoHead.bytes_ne_flatMap {head : IoHead} (hfits : head.Fits)
    (hdirection : head.direction = nfcAioIoRead)
    (hframes : ∀ frame ∈ frames, frame.WellFormed ∧ frame.direction = nfcAioIoWrite) :
    head.bytes ≠ frames.flatMap IoFrame.bytes := by
  intro hsame
  cases frames with
  | nil =>
    have hlength := congrArg List.length hsame
    rw [IoHead.length_bytes, List.flatMap_nil, List.length_nil] at hlength
    omega
  | cons frame frames =>
    obtain ⟨⟨hframe, hwrite⟩, -⟩ := List.forall_mem_cons.mp hframes
    have hstream : head.bytes ++ [] =
        frame.head.bytes ++ (frame.extra ++ frames.flatMap IoFrame.bytes) := by
      rw [List.append_nil, hsame, List.flatMap_cons, IoFrame.bytes_eq, List.append_assoc]
    obtain ⟨rfl, -⟩ := IoHead.bytes_injOn hfits hframe.head_fits hstream
    rw [show frame.head.direction = frame.direction from rfl, hwrite] at hdirection
    exact absurd hdirection (by decide)

/-- A read request is answered by frames that carry its range. -/
theorem Serves.of_read {head : IoHead} (hfits : head.Fits)
    (hdirection : head.direction = nfcAioIoRead)
    (hserves : Serves library packing handle content head.bytes content' reply) :
    content' = content ∧ head.diskOffset.toNat + head.length ≤ content.length ∧
      ∃ frames, reply = frames.flatMap IoFrame.bytes ∧
      Carries library head.opId (content.slice head.diskOffset.toNat head.length) frames ∧
      (packing = true → ∀ frame ∈ frames, frame.extra.length ≤ frame.chunkLen) := by
  generalize hrequest : head.bytes = request at hserves
  cases hserves with
  | @read head' frames hfits' _ _ _ _ hinside hcarries hpacked =>
    have hstream : head.bytes ++ [] = head'.bytes ++ [] := by rw [hrequest]
    obtain ⟨rfl, -⟩ := IoHead.bytes_injOn hfits hfits' hstream
    exact ⟨rfl, hinside, frames, rfl, hcarries, hpacked⟩
  | @write _ _ _ _ frames hmessage =>
    refine absurd hrequest (IoHead.bytes_ne_flatMap hfits hdirection fun frame hmem ↦ ?_)
    exact ⟨hmessage.wellFormed frame hmem, (hmessage.shared frame hmem).2.2.1⟩

/-- The frames of a write are stored and acknowledged. -/
theorem Serves.of_write {opId : ℕ}
    (hframes : ∀ frame ∈ frames, frame.WellFormed ∧ frame.opId = opId ∧
      frame.direction = nfcAioIoWrite)
    (hserves : Serves library packing handle content (frames.flatMap IoFrame.bytes) content'
      reply) :
    content' = frames.foldl (placeFrame library) content ∧
      ∃ body : Bytes, body.length = 44 ∧ reply = aioMessage nfcAioMsgIo opId body := by
  generalize hrequest : frames.flatMap IoFrame.bytes = request at hserves
  cases hserves with
  | @read head _ hfits _ hdirection =>
    refine absurd hrequest.symm (IoHead.bytes_ne_flatMap hfits hdirection fun frame hmem ↦ ?_)
    exact ⟨(hframes frame hmem).1, (hframes frame hmem).2.2⟩
  | @write body opId' _ _ frames' hmessage _ _ _ hbody =>
    obtain rfl := IoFrame.flatMap_injOn (fun frame hmem ↦ (hframes frame hmem).1)
      hmessage.wellFormed hrequest
    obtain ⟨frame, hmem⟩ := List.exists_mem_of_ne_nil _ hmessage.nonempty
    obtain rfl : opId' = opId :=
      (hmessage.shared frame hmem).1.symm.trans (hframes frame hmem).2.1
    exact ⟨rfl, body, hbody, rfl⟩

/-- Placing frames on the disk is storing their chunks in a window of it. -/
theorem foldl_placeFrame {diskOffset : ℤ} {window : Bytes}
    (hoffset : ∀ frame ∈ frames, frame.diskOffset = diskOffset)
    (hstorable : Storable library (frames.map IoFrame.fragment) window.length)
    (hinside : diskOffset.toNat + window.length ≤ content.length) :
    frames.foldl (placeFrame library) (content.splice diskOffset.toNat window) =
      content.splice diskOffset.toNat (storeAll library (frames.map IoFrame.fragment) window) := by
  induction frames generalizing window with
  | nil => rfl
  | cons frame frames ih =>
    obtain ⟨hhead, htail⟩ := List.forall_mem_cons.mp hoffset
    rw [List.map_cons] at hstorable
    obtain ⟨⟨chunk, hdecode, hchunkLen, hfits⟩, hrest⟩ := List.forall_mem_cons.mp hstorable
    have hchunk : frame.fragment.dest + chunk.length ≤ window.length := by omega
    have hkept : (window.splice frame.fragment.dest chunk).length = window.length :=
      List.length_splice hchunk
    have hplace : placeFrame library (content.splice diskOffset.toNat window) frame =
        content.splice diskOffset.toNat (window.splice frame.fragment.dest chunk) := by
      rw [placeFrame, hhead, hdecode, Option.getD_some]
      exact List.splice_splice_window hinside hchunk
    have hstore : storeAll library ((frame :: frames).map IoFrame.fragment) window =
        storeAll library (frames.map IoFrame.fragment)
          (window.splice frame.fragment.dest chunk) := by
      rw [List.map_cons, storeAll_cons, hdecode, Option.getD_some]
    rw [List.foldl_cons, hplace, hstore]
    exact ih htail (by rw [hkept]; exact hrest) (by rw [hkept]; exact hinside)

/-- The frames that carry some data put it on the disk. -/
theorem Carries.foldl_placeFrame {opId : ℕ} {data : Bytes} {diskOffset : ℤ}
    (hcarries : Carries library opId data frames)
    (hoffset : ∀ frame ∈ frames, frame.diskOffset = diskOffset)
    (hinside : diskOffset.toNat + data.length ≤ content.length) :
    frames.foldl (placeFrame library) content = content.splice diskOffset.toNat data := by
  have hwindow : (content.slice diskOffset.toNat data.length).length = data.length :=
    List.length_slice _ _ _ hinside
  have hplaced := OpenVixDiskLib.foldl_placeFrame hoffset
    (by rw [hwindow]; exact hcarries.storable)
    (show diskOffset.toNat + (content.slice diskOffset.toNat data.length).length ≤ content.length
      by rw [hwindow]; exact hinside)
  rw [List.splice_slice hinside, hcarries.storeAll_eq hwindow.ge,
    List.drop_eq_nil_of_le hwindow.le, List.append_nil] at hplaced
  exact hplaced

/-- The server is asked with at least one byte. -/
theorem Serves.request_ne_nil {request : Bytes}
    (hserves : Serves library packing handle content request content' reply) : request ≠ [] := by
  have hhead : ∀ (head : IoHead) (rest : Bytes), head.bytes ++ rest ≠ [] := by
    intro head rest hnil
    have hlength := congrArg List.length hnil
    rw [List.length_append, IoHead.length_bytes, List.length_nil] at hlength
    omega
  cases hserves with
  | @read head => exact fun hnil ↦ hhead head [] (by rw [List.append_nil, hnil])
  | @write body opId length diskOffset frames hmessage =>
    intro hnil
    cases frames with
    | nil => exact hmessage.nonempty rfl
    | cons frame frames =>
      rw [List.flatMap_cons, IoFrame.bytes_eq, List.append_assoc] at hnil
      exact hhead _ _ hnil

end Requests

/-! ### Calls -/

/-- A call of the client on its session. -/
inductive Call
  | write (startSector numSectors : ℤ) (data : Bytes)
  | read (startSector numSectors : ℤ)
  | readinto (startSector numSectors : ℤ) (skipDecompression : Bool) (buf : Buffer)
deriving DecidableEq

namespace Call

def startSector : Call → ℤ
  | .write startSector _ _ => startSector
  | .read startSector _ => startSector
  | .readinto startSector _ _ _ => startSector

def numSectors : Call → ℤ
  | .write _ numSectors _ => numSectors
  | .read _ numSectors => numSectors
  | .readinto _ numSectors _ _ => numSectors

/-- Whether the call is a skip read. -/
def skips : Call → Bool
  | .readinto _ _ skipDecompression _ => skipDecompression
  | _ => false

/-- Make the call. Shows the bytes it returned, or left in the buffer it was given; after a skip
read, the bytes its table rebuilds from the buffer. -/
def run (library : FastLzLibrary) (call : Call) (disk : NfcDisk) : Except PyError Bytes × NfcDisk :=
  match call with
  | .write startSector numSectors data =>
    match NfcDisk.write library startSector numSectors data disk with
    | (.ok _, after) => (.ok [], after)
    | (.error error, after) => (.error error, after)
  | .read startSector numSectors => NfcDisk.read library startSector numSectors disk
  | .readinto startSector numSectors skipDecompression buf =>
    match NfcDisk.readinto library startSector numSectors skipDecompression (disk, buf) with
    | (.ok result, after) =>
      (if skipDecompression then rebuildSkip library after.2.bytes result else .ok after.2.bytes,
        after.1)
    | (.error error, after) => (.error error, after.1)

theorem run_write_snd (library : FastLzLibrary) (startSector numSectors : ℤ) (data : Bytes)
    (disk : NfcDisk) : (run library (.write startSector numSectors data) disk).2 =
      (NfcDisk.write library startSector numSectors data disk).2 := by
  rw [run]
  rcases NfcDisk.write library startSector numSectors data disk with ⟨_ | _, after⟩ <;> rfl

theorem run_readinto_snd (library : FastLzLibrary) (startSector numSectors : ℤ)
    (skipDecompression : Bool) (buf : Buffer) (disk : NfcDisk) :
    (run library (.readinto startSector numSectors skipDecompression buf) disk).2 =
      (NfcDisk.readinto library startSector numSectors skipDecompression (disk, buf)).2.1 := by
  rw [run]
  rcases NfcDisk.readinto library startSector numSectors skipDecompression (disk, buf) with
    ⟨_ | _, after⟩ <;> rfl

/-- The byte range of a call on a disk with sectors of `sectorSize` bytes. -/
def offset (sectorSize : ℕ) (call : Call) : ℕ :=
  (call.startSector * sectorSize).toNat

def length (sectorSize : ℕ) (call : Call) : ℕ :=
  call.numSectors.toNat * sectorSize

/-- The arguments are valid: at least one sector inside the disk, data of the right length, and a
writable flat buffer with room for it. -/
structure Valid (call : Call) (sectorSize size : ℕ) : Prop where
  positive : 1 ≤ call.numSectors
  start_nonneg : 0 ≤ call.startSector
  inside : call.offset sectorSize + call.length sectorSize ≤ size
  offset_lt : call.startSector * sectorSize < 2 ^ 64
  length_lt : call.length sectorSize < 2 ^ 32
  data : match call with
    | .write _ _ data => data.length = call.length sectorSize
    | .read _ _ => True
    | .readinto _ _ _ buf =>
      buf.readonly = false ∧ buf.Flat ∧ call.length sectorSize ≤ buf.bytes.length

/-- The request for a call under an opId: the head of a read of its range, or the frames of one write of its
range that carry its data. -/
def Requests (library : FastLzLibrary) (compression : Compression) (handle sectorSize opId : ℕ)
    (call : Call) (request : Bytes) : Prop :=
  match call with
  | .write startSector _ data => ∃ frames, request = frames.flatMap IoFrame.bytes ∧
      WriteMessage handle opId (startSector * sectorSize) (call.length sectorSize) frames ∧
      Carries library opId data frames
  | _ => request = IoHead.bytes ⟨opId, handle, nfcAioIoRead, compression.code,
      call.startSector * sectorSize, call.length sectorSize, 0, call.length sectorSize,
      call.length sectorSize⟩

/-- The library keeps its promise on what a write compresses. -/
def Promised (library : FastLzLibrary) (disk : NfcDisk) : Call → Prop
  | .write _ _ data => KeepsPromise library disk data
  | _ => True

end Call

/-! ### A session -/

/-- A session of the client with the server. -/
structure Session where
  disk : NfcDisk
  content : Bytes

/-- One call while the arrivals `inbox` come in: they are the server's answer to the bytes the call
sent. -/
structure Exchange (library : FastLzLibrary) (inbox : List Arrival) (before : Session) (call : Call)
    (outcome : Except PyError Bytes) (after : Session) : Prop where
  quiet : Quiet inbox
  ran : call.run library (before.disk.meets inbox) = (outcome, after.disk)
  served : ∃ request, after.disk.sock.sent = before.disk.sock.sent ++ request ∧
    Serves library call.skips before.disk.handle.toNat before.content request after.content
      (streamBytes inbox)

/-- One call against the server. -/
def Step (library : FastLzLibrary) (before : Session) (call : Call)
    (outcome : Except PyError Bytes) (after : Session) : Prop :=
  ∃ inbox, Exchange library inbox before call outcome after

/-- The abstract system: the disk as an array of bytes. -/
def arrayMachine (sectorSize : ℕ) (content : Bytes) (call : Call) :
    Except PyError Bytes × Bytes :=
  match call with
  | .write _ _ data => (.ok [], content.splice (call.offset sectorSize) data)
  | .read _ _ => (.ok (content.slice (call.offset sectorSize) (call.length sectorSize)), content)
  | .readinto _ _ skipDecompression buf =>
    (.ok (content.slice (call.offset sectorSize) (call.length sectorSize) ++
      if skipDecompression then [] else buf.bytes.drop (call.length sectorSize)), content)

/-- A valid call keeps the size of the disk. -/
theorem arrayMachine_length {sectorSize : ℕ} {content : Bytes} {call : Call}
    (hvalid : call.Valid sectorSize content.length) :
    (arrayMachine sectorSize content call).2.length = content.length := by
  cases call with
  | write startSector numSectors data =>
    have hdata : data.length = numSectors.toNat * sectorSize := hvalid.data
    refine List.length_splice ?_
    rw [hdata]
    exact hvalid.inside
  | read startSector numSectors => rfl
  | readinto startSector numSectors skipDecompression buf => rfl

end OpenVixDiskLib
