import OpenVixDiskLib.Nfc.Aio

/-!
# Sector reads

`NfcDisk.readinto` and `NfcDisk.read`. A read sends one IO request and then accepts reply fragments
until their uncompressed lengths add up to the request. Each fragment is a header, a payload that
says where the fragment belongs in the request (`dest`) and how long it is (`chunkLen`), and an
extra. Plain reads store each fragment at its `dest`; with `skipDecompression` the extras are
packed densely from offset 0 and described by a table.

`readFragment` is one round of the loop. It runs on the session and the caller's buffer together,
because a receive that fails part of the way through leaves what it received in the buffer.
-/

set_option autoImplicit false
set_option relaxedAutoImplicit false

namespace OpenVixDiskLib

/-- One NFC AIO extra in a packed skip-decompression buffer. -/
structure ReadFragment where
  dest : ℕ
  uncompressedLength : ℕ
  compressionType : ℕ
  offset : ℕ
  length : ℕ
deriving DecidableEq, Repr

/-- The outcome of `readinto`. -/
structure ReadResult where
  uncompressedLength : ℕ
  compressedLength : ℕ
  fragments : List ReadFragment
deriving DecidableEq, Repr

/-- A caller's buffer: the bytes its view shows, in the order of their indices, whether it is read-only,
and how they are laid out. No two bytes of it are one place in memory. -/
structure Buffer where
  bytes : Bytes
  readonly : Bool
  layout : Layout
deriving DecidableEq, Repr

namespace Buffer

/-- A `bytearray` of these bytes. -/
def bytearray (bytes : Bytes) : Buffer :=
  ⟨bytes, false, .bytes .flat⟩

/-- `bytearray(length)`. -/
def zeros (length : ℕ) : Buffer :=
  bytearray (List.replicate length 0)

/-- The bytes of the buffer follow each other, in a view of format `B` or after the cast to one: a
`bytearray`, a view of one without a step, and an array of any kind. -/
def Flat (buf : Buffer) : Prop :=
  buf.layout.raw = .ok .flat

theorem bytearray_flat (bytes : Bytes) : (bytearray bytes).Flat := rfl

theorem zeros_flat (length : ℕ) : (zeros length).Flat := rfl

end Buffer

/-- A buffer with as many bytes as its layout makes, as every object that Python can view has. -/
structure ShapedBuffer extends Buffer where
  spans : layout.Spans bytes.length

/-- `_writable_bytes`: the first `length` rows of the buffer's view, if it can be written and has so
many. -/
def writableBytes (buf : Buffer) (length : ℕ) : Except PyError ByteView :=
  if buf.readonly then .error ⟨.typeError, "read buffer is read-only"⟩
  else
    match buf.layout.raw with
    | .error error => .error error
    | .ok raw =>
      if raw.count buf.bytes.length < length then .error ⟨.runtimeError,
        s!"read buffer is {raw.count buf.bytes.length} bytes, need {length}"⟩
      else .ok (raw.slice 0 length)

/-- The rows of a buffer that can be written: it has so many, and they are a slice of its view. -/
theorem writableBytes_eq_ok {buf : Buffer} {length : ℕ} {data : ByteView} :
    writableBytes buf length = .ok data ↔
      buf.readonly = false ∧ ∃ raw, buf.layout.raw = .ok raw ∧
        length ≤ raw.count buf.bytes.length ∧ data = raw.slice 0 length := by
  unfold writableBytes
  by_cases hreadonly : buf.readonly = true
  · simp [hreadonly]
  rcases hraw : buf.layout.raw with error | raw
  · simp [hreadonly]
  simp only [hreadonly, Bool.false_eq_true, if_false, true_and, Except.ok.injEq, exists_eq_left']
  split_ifs with hshort
  · simp only [false_iff, not_and]
    omega
  · rw [Except.ok.injEq]
    exact ⟨fun h ↦ ⟨not_lt.mp hshort, h.symm⟩, fun h ↦ h.2.symm⟩

/-- In a flat buffer the rows are bytes. -/
theorem Buffer.Flat.writableBytes_eq_ok {buf : Buffer} {length : ℕ} {data : ByteView}
    (hflat : buf.Flat) : writableBytes buf length = .ok data ↔
      buf.readonly = false ∧ length ≤ buf.bytes.length ∧ data = .flat := by
  rw [OpenVixDiskLib.writableBytes_eq_ok, hflat]
  simp only [Except.ok.injEq, exists_eq_left', ByteView.count_flat, ByteView.slice_flat]

/-- The local variables of the read loop. -/
structure ReadLocals where
  filled : ℕ
  wireBytes : ℕ
  packedOffset : ℕ
  fragments : List ReadFragment
  seen : List ℕ
deriving DecidableEq, Repr

/-- The local variables after a fragment has been received; a plain read keeps no table. -/
def ReadLocals.accept (locals : ReadLocals) (skipDecompression : Bool)
    (dest chunkLen ctype extraLen packedOffset : ℕ) : ReadLocals where
  filled := locals.filled + chunkLen
  wireBytes := locals.wireBytes + extraLen
  packedOffset := packedOffset
  fragments := if skipDecompression then
      locals.fragments ++ [⟨dest, chunkLen, ctype, locals.packedOffset, extraLen⟩]
    else locals.fragments
  seen := dest :: locals.seen

/-- The locals the loop starts with. -/
def readStart : ReadLocals := ⟨0, 0, 0, [], []⟩

namespace NfcDisk

/-- A read runs on the session and the buffer it reads into. -/
abbrev ReadEnv := NfcDisk × Buffer

def envSock : Proc.Part ReadEnv Sock where
  get := fun env ↦ env.1.sock
  set := fun sock env ↦ ({ env.1 with sock := sock }, env.2)

/-- The socket, and the bytes of the buffer from `offset` on. -/
def envView (offset length : ℕ) : Proc.Part ReadEnv (Sock × Bytes) where
  get := fun env ↦ (env.1.sock, env.2.bytes.slice offset length)
  set := fun state env ↦
    ({ env.1 with sock := state.1 }, { env.2 with bytes := env.2.bytes.splice offset state.2 })

/-- `_recvn_into(sock, data[offset : offset + length])`. -/
def receiveInto (data : ByteView) (offset length : ℕ) : Py ReadEnv Unit :=
  Proc.zoom (envView (offset * data.width) (length * data.width))
    (recvnInto (data.slice offset (offset + length)))

/-- `data[offset : offset + len(chunk)] = chunk`, which needs a view of one dimension. -/
def storeChunk (data : ByteView) (offset : ℕ) (chunk : Bytes) : Py ReadEnv Unit := do
  Proc.raiseIf (data.oneDim = false) ⟨.notImplementedError,
    "memoryview slice assignments are currently restricted to ndim = 1"⟩
  Proc.modify fun env ↦ (env.1, { env.2 with bytes := env.2.bytes.splice offset chunk })

/-- `fastlz.decompress` of a read extra, with its `ValueError` raised as a protocol error. -/
def decompressChunk (library : FastLzLibrary) (extra : Bytes) (chunkLen : ℕ) : Py ReadEnv Bytes :=
  Proc.tryExcept (Proc.lift (FastLz.decompress library extra chunkLen)) PyError.isValueError
    fun error ↦ Proc.raise (nfcProtocolError s!"FastLZ read fragment failed: {error.message}")

/-- The branches of the loop that receive a fragment's extra: into the packed buffer, through the
decompressor, or directly to its place. Returns the new packed offset. -/
def receiveExtra (library : FastLzLibrary) (data : ByteView) (length : ℕ) (skipDecompression : Bool)
    (packedOffset dest chunkLen ctype extraLen : ℕ) : Py ReadEnv ℕ :=
  if skipDecompression then do
    let stop := packedOffset + extraLen
    Proc.raiseIf (length < stop)
      (nfcProtocolError s!"packed extras {stop} bytes exceed request {length}")
    receiveInto data packedOffset extraLen
    pure stop
  else if ctype = Compression.fastlz.code then do
    let extra ← Proc.zoom envSock (recvn extraLen)
    let chunk ← decompressChunk library extra chunkLen
    Proc.raiseIf (chunk.length ≠ chunkLen)
      (nfcProtocolError s!"FastLZ read got {chunk.length} bytes, expected {chunkLen}")
    storeChunk data dest chunk
    pure packedOffset
  else if ctype = Compression.none.code then do
    receiveInto data dest chunkLen
    pure packedOffset
  else Proc.raise (nfcProtocolError s!"unsupported NFC IO compression type {ctype}")

/-- One round of the read loop: receive a reply fragment of request `opId`, check it against the
request of `length` bytes, and put its extra in the buffer. -/
def readFragment (library : FastLzLibrary) (data : ByteView) (length opId : ℕ)
    (skipDecompression : Bool) (locals : ReadLocals) : Py ReadEnv ReadLocals := do
  let rhdr ← Proc.zoom envSock (recvn nfcAioHdrSize)
  let (rtype, rsize, rop) ← Proc.lift (unpackAioHdr rhdr)
  Proc.raiseIf (rtype ≠ nfcAioMsgIo ∨ rop ≠ opId) (nfcProtocolError
    s!"AIO IO reply type={rtype} opId={rop}, expected type={nfcAioMsgIo} opId={opId}")
  let body ← Proc.zoom envSock (recvn rsize)
  Proc.raiseIf (rsize < 36) (nfcProtocolError s!"AIO IO reply payload too short: {rsize}")
  let opcode ← Proc.lift (unpackQ body 8)
  let dest ← Proc.lift (unpackI body 28)
  let chunkLen ← Proc.lift (unpackI body 32)
  Proc.raiseIf (dest ∈ locals.seen ∨ chunkLen = 0 ∨ length < dest + chunkLen) (nfcProtocolError
    s!"AIO IO chunk offset={dest} length={chunkLen} invalid, request {length}")
  let ctype := opcode >>> 32
  let extraLen ← Proc.lift (aioExtraLen ctype body chunkLen)
  let packedOffset ← receiveExtra library data length skipDecompression locals.packedOffset dest
    chunkLen ctype extraLen
  pure (ReadLocals.accept locals skipDecompression dest chunkLen ctype extraLen packedOffset)

/-- The read loop: accept fragments while `filled < length`. -/
def readLoop (library : FastLzLibrary) (data : ByteView) (length opId : ℕ)
    (skipDecompression : Bool) : ReadLocals → Py ReadEnv ReadLocals :=
  Proc.whileLoop (fun locals ↦ decide (locals.filled < length))
    (readFragment library data length opId skipDecompression) (fun locals ↦ length - locals.filled)

/-- The opcode of a read request. -/
def readOpcode (compression : Compression) : ℕ :=
  ioOpcode nfcAioIoRead compression.code

/-- The fields of a read request, packed as `<QQQQIII`. -/
def readFields (disk : NfcDisk) (startSector : ℤ) (length : ℕ) : List Field :=
  [.Q disk.handle.toNat, .Q (readOpcode disk.compression), .Q (startSector * disk.sectorSize),
    .Q length, .I length, .I length, .I 0]

/-- The payload of a read request. -/
def readPayload (disk : NfcDisk) (startSector : ℤ) (length : ℕ) : Except PyError Bytes :=
  pack (readFields disk startSector length)

/-- The number of bytes in `numSectors` sectors. -/
def requestLength (disk : NfcDisk) (numSectors : ℤ) : ℕ :=
  numSectors.toNat * disk.sectorSize

theorem requestLength_pos {disk : NfcDisk} {numSectors : ℤ} (hpositive : 1 ≤ numSectors) :
    0 < requestLength disk numSectors :=
  Nat.mul_pos (by omega) disk.sectorSize_pos

/-- Send the IO request of a read, and return its opId. -/
def sendRead (startSector : ℤ) (length : ℕ) : Py NfcDisk ℕ := do
  let disk ← Proc.get
  let payload ← Proc.lift (readPayload disk startSector length)
  let opId ← nextOpId
  let hdr ← Proc.lift (packAioHdr nfcAioMsgIo payload.length opId)
  Proc.zoom sockPart (Sock.sendall (hdr ++ payload))
  pure opId

/-- The session of a read. -/
def envDisk : Proc.Part ReadEnv NfcDisk where
  get := Prod.fst
  set := fun disk env ↦ (disk, env.2)

/-- `NfcDisk.readinto`. -/
def readinto (library : FastLzLibrary) (startSector numSectors : ℤ) (skipDecompression : Bool) :
    Py ReadEnv ReadResult := do
  Proc.raiseIf (numSectors < 1) (valueError "num_sectors must be at least 1")
  let env ← Proc.get
  let length := requestLength env.1 numSectors
  let data ← Proc.lift (writableBytes env.2 length)
  let opId ← Proc.zoom envDisk (sendRead startSector length)
  let locals ← readLoop library data length opId skipDecompression readStart
  pure ⟨length, locals.wireBytes, if skipDecompression then locals.fragments else []⟩

/-- `NfcDisk.read`. -/
def read (library : FastLzLibrary) (startSector numSectors : ℤ) : Py NfcDisk Bytes := do
  Proc.raiseIf (numSectors < 1) (valueError "num_sectors must be at least 1")
  let disk ← Proc.get
  let received ← Proc.withLocal (Buffer.zeros (requestLength disk numSectors))
    (readinto library startSector numSectors false)
  pure received.2.bytes

end NfcDisk

end OpenVixDiskLib
