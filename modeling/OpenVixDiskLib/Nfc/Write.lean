import OpenVixDiskLib.Nfc.IoFrame

/-!
# Sector writes

`NfcDisk.write` sends its data as IO frames of one opId, each carrying at most `aioBufferSize` bytes
of it, and then waits for one reply. In a FASTLZ session a chunk of at least 16 bytes is sent
compressed when that shrinks it (`encodeChunk`).

`WriteRun` is the write loop without the socket: which frames it sends from which offset on. A loop
that returns has sent a run (`writeLoop_run`), and a run is sent whole when sends succeed
(`writeLoop_of_run`), whatever the write then receives (`write_of_run`).
-/

set_option autoImplicit false
set_option relaxedAutoImplicit false

namespace OpenVixDiskLib

/-- How a chunk goes on the wire: its compression type and its extra. -/
def encodeChunk (library : FastLzLibrary) (compression : Compression) (chunk : Bytes) :
    Except PyError (ℕ × Bytes) :=
  if compression = .fastlz ∧ 16 ≤ chunk.length then
    match FastLz.compress library chunk with
    | .error error => .error error
    | .ok compressed =>
      if compressed ≠ [] ∧ compressed.length < chunk.length then
        .ok (Compression.fastlz.code, compressed)
      else .ok (Compression.none.code, chunk)
  else .ok (Compression.none.code, chunk)

namespace NfcDisk

/-- One round of the write loop: send the fragment of `data` at `fragOffset`, and advance. -/
def writeFragment (library : FastLzLibrary) (startSector : ℤ) (length : ℕ) (data : Bytes)
    (opId fragOffset : ℕ) : Py NfcDisk ℕ := do
  let disk ← Proc.get
  let chunk := data.slice fragOffset disk.aioBufferSize
  let (ctype, extra) ← Proc.lift (encodeChunk library disk.compression chunk)
  let payload ← Proc.lift (pack (ioFields disk.handle.toNat (ioOpcode nfcAioIoWrite ctype)
    (startSector * disk.sectorSize) length fragOffset chunk.length extra.length))
  let hdr ← Proc.lift (packAioHdr nfcAioMsgIo payload.length opId)
  Proc.zoom sockPart (Sock.sendall (hdr ++ payload ++ extra))
  pure (fragOffset + chunk.length)

/-- The write loop: send fragments while `fragOffset < length`. -/
def writeLoop (library : FastLzLibrary) (startSector : ℤ) (length : ℕ) (data : Bytes) (opId : ℕ) :
    ℕ → Py NfcDisk ℕ :=
  Proc.whileLoop (fun fragOffset ↦ decide (fragOffset < length))
    (writeFragment library startSector length data opId) (fun fragOffset ↦ length - fragOffset)

/-- Wait for the one reply of a write. -/
def writeReply (opId : ℕ) : Py NfcDisk Unit := do
  let (rtype, rop, _) ← aioRecvReply
  Proc.raiseIf (rtype ≠ nfcAioMsgIo ∨ rop ≠ opId) (nfcProtocolError
    s!"AIO IO write reply type={rtype} opId={rop}, expected type={nfcAioMsgIo} opId={opId}")

/-- `NfcDisk.write`. -/
def write (library : FastLzLibrary) (startSector numSectors : ℤ) (data : Bytes) :
    Py NfcDisk Unit := do
  Proc.raiseIf (numSectors < 1) (valueError "num_sectors must be at least 1")
  let disk ← Proc.get
  let length := requestLength disk numSectors
  Proc.raiseIf (data.length ≠ length)
    (valueError s!"write data is {data.length} bytes, need {length}")
  let opId ← nextOpId
  let _ ← writeLoop library startSector length data opId 0
  writeReply opId

end NfcDisk

open NfcDisk

/-! ### Runs of the write loop -/

/-- The frame a write sends for the chunk at `fragOffset`. -/
def writeFrame (disk : NfcDisk) (startSector : ℤ) (length : ℕ) (data : Bytes)
    (opId fragOffset ctype : ℕ) (extra : Bytes) : IoFrame where
  opId := opId
  handle := disk.handle.toNat
  direction := nfcAioIoWrite
  diskOffset := startSector * disk.sectorSize
  length := length
  dest := fragOffset
  chunkLen := (data.slice fragOffset disk.aioBufferSize).length
  ctype := ctype
  extra := extra

/-- A run of the write loop of a session from an offset: the frames it sends. -/
inductive WriteRun (library : FastLzLibrary) (disk : NfcDisk) (startSector : ℤ) (length : ℕ)
    (data : Bytes) (opId : ℕ) : ℕ → List IoFrame → Prop
  | done {fragOffset : ℕ} (hsent : length ≤ fragOffset) :
      WriteRun library disk startSector length data opId fragOffset []
  | send {fragOffset ctype : ℕ} {extra : Bytes} {frames : List IoFrame}
      (hgo : fragOffset < length)
      (hencode : encodeChunk library disk.compression (data.slice fragOffset disk.aioBufferSize) =
        .ok (ctype, extra))
      (hopId : opId < 2 ^ 32)
      (hfits : ∀ field ∈ (writeFrame disk startSector length data opId fragOffset ctype
        extra).fields, field.Fits)
      (hrest : WriteRun library disk startSector length data opId
        (fragOffset + (data.slice fragOffset disk.aioBufferSize).length) frames) :
      WriteRun library disk startSector length data opId fragOffset
        (writeFrame disk startSector length data opId fragOffset ctype extra :: frames)

theorem moves_writeReply (opId : ℕ) : Proc.Moves NfcDisk.Received (writeReply opId) :=
  .bind Received.trans moves_aioRecvReply fun _ ↦ .raiseIf Received.refl _ _

theorem length_slice_pos {data : Bytes} {fragOffset size : ℕ} (hsize : 0 < size)
    (hoffset : fragOffset < data.length) : 0 < (data.slice fragOffset size).length := by
  simp only [List.slice, List.length_take, List.length_drop]
  omega

/-- A round that returns has sent the frame of its chunk. -/
theorem writeFragment_ok {library : FastLzLibrary} {startSector : ℤ} {length opId fragOffset next : ℕ}
    {data : Bytes} {disk after : NfcDisk}
    (h : writeFragment library startSector length data opId fragOffset disk = (.ok next, after)) :
    ∃ ctype extra,
      encodeChunk library disk.compression (data.slice fragOffset disk.aioBufferSize) =
        .ok (ctype, extra) ∧
      opId < 2 ^ 32 ∧
      (∀ field ∈ (writeFrame disk startSector length data opId fragOffset ctype extra).fields,
        field.Fits) ∧
      Sock.sendall (writeFrame disk startSector length data opId fragOffset ctype extra).bytes
        disk.sock = (.ok (), after.sock) ∧
      after = { disk with sock := after.sock } ∧
      next = fragOffset + (data.slice fragOffset disk.aioBufferSize).length := by
  rw [writeFragment, Proc.get_bind_apply] at h
  obtain ⟨⟨ctype, extra⟩, hencode, h⟩ := Proc.lift_bind_eq_ok.mp h
  obtain ⟨payload, hpayload, h⟩ := Proc.lift_bind_eq_ok.mp h
  obtain ⟨hfits, rfl⟩ := pack_eq_ok.mp hpayload
  obtain ⟨hdr, hhdr, h⟩ := Proc.lift_bind_eq_ok.mp h
  obtain ⟨hhdrFits, rfl⟩ := pack_eq_ok.mp hhdr
  obtain ⟨⟨⟩, sent, hsend, hpure⟩ := Proc.bind_eq_ok.mp h
  obtain ⟨sock, hsendall, rfl⟩ := Proc.zoom_eq_ok.mp hsend
  rw [Proc.pure_apply, Prod.mk.injEq, Except.ok.injEq] at hpure
  obtain ⟨rfl, rfl⟩ := hpure
  rw [length_ioFields] at hsendall hhdrFits
  exact ⟨ctype, extra, hencode, (hdrFields_fits.mp hhdrFits).2.2, hfits, hsendall, rfl, rfl⟩

/-- A round sends the frame of its chunk when the send succeeds. -/
theorem writeFragment_of_sendall {library : FastLzLibrary} {startSector : ℤ}
    {length opId fragOffset ctype : ℕ} {data extra : Bytes} {disk : NfcDisk} {sock : Sock}
    (hencode : encodeChunk library disk.compression (data.slice fragOffset disk.aioBufferSize) =
      .ok (ctype, extra))
    (hopId : opId < 2 ^ 32)
    (hfits : ∀ field ∈ (writeFrame disk startSector length data opId fragOffset ctype extra).fields,
      field.Fits)
    (hsend : Sock.sendall (writeFrame disk startSector length data opId fragOffset ctype extra).bytes
      disk.sock = (.ok (), sock)) :
    writeFragment library startSector length data opId fragOffset disk =
      (.ok (fragOffset + (data.slice fragOffset disk.aioBufferSize).length),
        { disk with sock := sock }) := by
  have hhdr : packAioHdr nfcAioMsgIo 44 opId =
      .ok ((hdrFields nfcAioMsgIo 44 opId).flatMap Field.bytes) :=
    pack_of_fits (hdrFields_fits.mpr ⟨by decide, by decide, hopId⟩)
  have hpayload : pack (ioFields disk.handle.toNat (ioOpcode nfcAioIoWrite ctype)
      (startSector * disk.sectorSize) length fragOffset
      (data.slice fragOffset disk.aioBufferSize).length extra.length) = .ok _ := pack_of_fits hfits
  rw [writeFragment, Proc.get_bind_apply, Proc.lift_bind_of_ok hencode]
  simp only
  rw [Proc.lift_bind_of_ok hpayload, length_ioFields, Proc.lift_bind_of_ok hhdr]
  exact Proc.bind_of_ok (Proc.zoom_of_eq NfcDisk.sockPart hsend)

/-- Every round that returns advances by at least one byte. -/
theorem writeFragment_decreasing (library : FastLzLibrary) (startSector : ℤ) {length : ℕ}
    {data : Bytes} (hdata : data.length = length) (opId : ℕ) :
    Proc.Decreasing (fun fragOffset ↦ decide (fragOffset < length))
      (writeFragment library startSector length data opId)
      (fun fragOffset ↦ length - fragOffset) where
  pos fragOffset hgo := by
    have hlt : fragOffset < length := by simpa using hgo
    omega
  lt fragOffset disk next after hgo hround := by
    have hlt : fragOffset < length := by simpa using hgo
    obtain ⟨ctype, extra, -, -, -, -, -, rfl⟩ := writeFragment_ok hround
    have hpos := length_slice_pos disk.aioBufferSize_pos (by rw [hdata]; exact hlt)
    omega

/-- A run depends on the handle, the sector size, the compression and the buffer size of the
session only. -/
theorem WriteRun.of_config {library : FastLzLibrary} {disk disk' : NfcDisk} {startSector : ℤ}
    {length opId fragOffset : ℕ} {data : Bytes} {frames : List IoFrame}
    (hrun : WriteRun library disk startSector length data opId fragOffset frames)
    (hhandle : disk'.handle = disk.handle) (hsector : disk'.sectorSize = disk.sectorSize)
    (hcompression : disk'.compression = disk.compression)
    (hsize : disk'.aioBufferSize = disk.aioBufferSize) :
    WriteRun library disk' startSector length data opId fragOffset frames := by
  have hframe : ∀ fragOffset ctype extra,
      writeFrame disk startSector length data opId fragOffset ctype extra =
        writeFrame disk' startSector length data opId fragOffset ctype extra := by
    intro fragOffset ctype extra
    simp only [writeFrame, hhandle, hsector, hsize]
  induction hrun with
  | done hsent => exact .done hsent
  | send hgo hencode hopId hfits _ ih =>
    rw [hframe] at hfits ⊢
    rw [← hsize] at ih hencode
    rw [← hcompression] at hencode
    exact .send hgo hencode hopId hfits ih

/-- The frames of a run share what names the write. -/
theorem WriteRun.shared {library : FastLzLibrary} {disk : NfcDisk} {startSector : ℤ}
    {length opId fragOffset : ℕ} {data : Bytes} {frames : List IoFrame}
    (hrun : WriteRun library disk startSector length data opId fragOffset frames) :
    ∀ frame ∈ frames, frame.opId = opId ∧ frame.handle = disk.handle.toNat ∧
      frame.direction = nfcAioIoWrite ∧ frame.diskOffset = startSector * disk.sectorSize ∧
      frame.length = length := by
  induction hrun with
  | done _ => exact fun frame hmem ↦ absurd hmem List.not_mem_nil
  | send _ _ _ _ _ ih => exact List.forall_mem_cons.mpr ⟨⟨rfl, rfl, rfl, rfl, rfl⟩, ih⟩

/-- The frames of a run could be packed. -/
theorem WriteRun.fits {library : FastLzLibrary} {disk : NfcDisk} {startSector : ℤ}
    {length opId fragOffset : ℕ} {data : Bytes} {frames : List IoFrame}
    (hrun : WriteRun library disk startSector length data opId fragOffset frames) :
    ∀ frame ∈ frames, ∀ field ∈ frame.fields, field.Fits := by
  induction hrun with
  | done _ => exact fun frame hmem ↦ absurd hmem List.not_mem_nil
  | send _ _ _ hfits _ ih => exact List.forall_mem_cons.mpr ⟨hfits, ih⟩

/-- A run that has not sent all its data sends a frame. -/
theorem WriteRun.ne_nil {library : FastLzLibrary} {disk : NfcDisk} {startSector : ℤ}
    {length opId fragOffset : ℕ} {data : Bytes} {frames : List IoFrame}
    (hrun : WriteRun library disk startSector length data opId fragOffset frames)
    (hgo : fragOffset < length) : frames ≠ [] := by
  cases hrun with
  | done hsent => exact absurd hgo (not_lt_of_ge hsent)
  | send _ _ _ _ _ => exact List.cons_ne_nil _ _

/-- A loop that returns has sent a run. -/
theorem writeLoop_run {library : FastLzLibrary} {startSector : ℤ} {length opId fragOffset last : ℕ}
    {data : Bytes} (hdata : data.length = length) {disk after : NfcDisk}
    (h : writeLoop library startSector length data opId fragOffset disk = (.ok last, after)) :
    ∃ frames, WriteRun library disk startSector length data opId fragOffset frames ∧
      disk.sock.Exchanged (frames.flatMap IoFrame.bytes) [] after.sock ∧
      after = { disk with sock := after.sock } := by
  refine Proc.whileLoop_induction (writeFragment_decreasing library startSector hdata opId)
    (fun fragOffset disk _ after ↦
      ∃ frames, WriteRun library disk startSector length data opId fragOffset frames ∧
        disk.sock.Exchanged (frames.flatMap IoFrame.bytes) [] after.sock ∧
        after = { disk with sock := after.sock }) ?_ ?_ fragOffset disk last after h
  · intro fragOffset disk hstop
    exact ⟨[], .done (by simpa using hstop), .of_took (Sock.Took.refl _), rfl⟩
  · intro fragOffset disk next middle last after hgo hround ih
    obtain ⟨ctype, extra, hencode, hopId, hfits, hsend, hmiddle, rfl⟩ := writeFragment_ok hround
    obtain ⟨frames, hrun, hexchange, hafter⟩ := ih
    rw [hmiddle] at hrun
    refine ⟨_, .send (by simpa using hgo) hencode hopId hfits
      (hrun.of_config rfl rfl rfl rfl), ?_, ?_⟩
    · exact (Sock.sendall_ok hsend).trans hexchange
    · rw [hafter, hmiddle]

/-- The loop sends every run when sends succeed. -/
theorem writeLoop_of_run {library : FastLzLibrary} {startSector : ℤ} {length opId fragOffset : ℕ}
    {data : Bytes} (hdata : data.length = length) {disk : NfcDisk} {frames : List IoFrame}
    (hrun : WriteRun library disk startSector length data opId fragOffset frames)
    {sock : Sock} (hsends : sock.Sends) :
    ∃ last, writeLoop library startSector length data opId fragOffset { disk with sock := sock } =
      (.ok last, { disk with sock := sock.afterSend (frames.flatMap IoFrame.bytes) }) := by
  induction hrun generalizing sock with
  | @done fragOffset hsent =>
    refine ⟨fragOffset, ?_⟩
    rw [writeLoop, Proc.whileLoop_unfold (writeFragment_decreasing _ _ hdata _),
      if_neg (by simpa using hsent), List.flatMap_nil, Sock.afterSend, List.append_nil]
  | @send fragOffset ctype extra frames hgo hencode hopId hfits hrest ih =>
    have hsend := Sock.sendall_of_sends hsends
      (writeFrame disk startSector length data opId fragOffset ctype extra).bytes
    have hround : writeFragment library startSector length data opId fragOffset
        { disk with sock := sock } = (.ok _, { disk with sock := sock.afterSend _ }) :=
      writeFragment_of_sendall hencode hopId hfits hsend
    obtain ⟨last, hloop⟩ := ih ((Sock.sendall_ok hsend).sends hsends)
    refine ⟨last, ?_⟩
    rw [writeLoop, Proc.whileLoop_unfold (writeFragment_decreasing _ _ hdata _),
      if_pos (by simpa using hgo), Proc.bind_of_ok hround]
    refine hloop.trans ?_
    rw [List.flatMap_cons, Sock.afterSend_afterSend]

/-- The acknowledgement of its opId completes a write. -/
theorem writeReply_of_holds {disk : NfcDisk} {opId : ℕ} {body rest : Bytes}
    (hopId : opId < 2 ^ 32) (hbody : body.length < 2 ^ 32)
    (hholds : disk.sock.Holds (aioMessage nfcAioMsgIo opId body ++ rest)) :
    ∃ sock, disk.sock.Took (aioMessage nfcAioMsgIo opId body) sock ∧
      writeReply opId disk = (.ok (), { disk with sock := sock }) := by
  obtain ⟨sock, htook, hreply⟩ := aioRecvReply_of_holds (by decide) hbody hopId hholds
  rw [if_neg (by decide)] at hreply
  refine ⟨sock, htook, ?_⟩
  rw [writeReply, Proc.bind_of_ok hreply]
  simp only [ne_eq, not_true_eq_false, or_self, Proc.raiseIf_apply, if_false]

/-- A write with a run sends it, whatever it will receive, and waits for its reply. -/
theorem write_of_run {library : FastLzLibrary} {startSector numSectors : ℤ} {data : Bytes}
    {disk : NfcDisk} {frames : List IoFrame} (hpositive : 1 ≤ numSectors)
    (hdata : data.length = requestLength disk numSectors) (hsends : disk.sock.Sends)
    (hrun : WriteRun library disk startSector (requestLength disk numSectors) data disk.opId 0
      frames) :
    write library startSector numSectors data disk =
      writeReply disk.opId
        (disk.afterCall (disk.sock.afterSend (frames.flatMap IoFrame.bytes))) := by
  have hnext : WriteRun library { disk with opId := disk.opId + 1 } startSector
      (requestLength disk numSectors) data disk.opId 0 frames := hrun.of_config rfl rfl rfl rfl
  obtain ⟨last, hloop⟩ := writeLoop_of_run hdata hnext hsends
  unfold NfcDisk.write
  rw [Proc.raiseIf_bind_of_neg (by omega), Proc.get_bind_apply,
    Proc.raiseIf_bind_of_neg (not_not.mpr hdata), Proc.bind_of_ok (nextOpId_apply disk)]
  exact Proc.bind_of_ok hloop

/-- The acknowledgement of its opId completes a write that has a run. -/
theorem write_of_ack {library : FastLzLibrary} {startSector numSectors : ℤ} {data body rest : Bytes}
    {disk : NfcDisk} {frames : List IoFrame} (hpositive : 1 ≤ numSectors)
    (hdata : data.length = requestLength disk numSectors) (hsends : disk.sock.Sends)
    (hrun : WriteRun library disk startSector (requestLength disk numSectors) data disk.opId 0
      frames)
    (hopId : disk.opId < 2 ^ 32) (hbody : body.length < 2 ^ 32)
    (hholds : disk.sock.Holds (aioMessage nfcAioMsgIo disk.opId body ++ rest)) :
    ∃ sock, write library startSector numSectors data disk = (.ok (), disk.afterCall sock) ∧
      disk.sock.Exchanged (frames.flatMap IoFrame.bytes) (aioMessage nfcAioMsgIo disk.opId body)
        sock := by
  have hsent := Sock.sendall_ok (Sock.sendall_of_sends hsends (frames.flatMap IoFrame.bytes))
  obtain ⟨sock, htook, hreply⟩ := writeReply_of_holds hopId hbody
    (show (disk.afterCall (disk.sock.afterSend (frames.flatMap IoFrame.bytes))).sock.Holds _ from
      hsent.holds hholds)
  have hwhole := hsent.trans (.of_took htook)
  rw [List.append_nil, List.nil_append] at hwhole
  exact ⟨sock, (write_of_run hpositive hdata hsends hrun).trans hreply, hwhole⟩

end OpenVixDiskLib
