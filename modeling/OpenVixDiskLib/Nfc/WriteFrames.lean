import OpenVixDiskLib.Nfc.Write

/-!
# The frames of a write

A write of `length` bytes in a session with AIO buffer size `B` is cut into `⌈length / B⌉` frames,
whatever the compressor makes of the chunks: a chunk that is not the last is `B` bytes long, so the
chunks start at the multiples of `B` (`WriteRun.frameAt`). A write whose fields fit has a run as
soon as the compressor returns (`WriteRun.exists_of_returns`), and the run is what the write emits
whatever it receives (`write_sent`). `write_emits_frames` puts these together with the one reply the
write waits for.
-/

set_option autoImplicit false
set_option relaxedAutoImplicit false

namespace OpenVixDiskLib

open NfcDisk

/-- The arguments of a write fit the fields of its frames. -/
structure WriteFits (disk : NfcDisk) (startSector : ℤ) (length : ℕ) : Prop where
  opId_lt : disk.opId < 2 ^ 32
  start_nonneg : 0 ≤ startSector * disk.sectorSize
  start_lt : startSector * disk.sectorSize < 2 ^ 64
  length_lt : length < 2 ^ 32

variable {library : FastLzLibrary} {compression : Compression} {chunk extra : Bytes} {ctype : ℕ}

/-- A chunk is sent raw, or compressed to a shorter nonempty extra. -/
theorem encodeChunk_ok (hencode : encodeChunk library compression chunk = .ok (ctype, extra)) :
    ctype = Compression.none.code ∧ extra = chunk ∨
      ctype = Compression.fastlz.code ∧ FastLz.compress library chunk = .ok extra ∧ extra ≠ [] ∧
        extra.length < chunk.length ∧ compression = .fastlz ∧ 16 ≤ chunk.length := by
  unfold encodeChunk at hencode
  split_ifs at hencode with hcompress
  · rcases hrun : FastLz.compress library chunk with _ | compressed
    · rw [hrun] at hencode
      simp at hencode
    · rw [hrun] at hencode
      simp only at hencode
      split_ifs at hencode with hshrinks
      · obtain ⟨rfl, rfl⟩ := Prod.mk.inj (Except.ok.inj hencode)
        exact Or.inr ⟨rfl, rfl, hshrinks.1, hshrinks.2, hcompress⟩
      · obtain ⟨rfl, rfl⟩ := Prod.mk.inj (Except.ok.inj hencode)
        exact Or.inl ⟨rfl, rfl⟩
  · obtain ⟨rfl, rfl⟩ := Prod.mk.inj (Except.ok.inj hencode)
    exact Or.inl ⟨rfl, rfl⟩

theorem encodeChunk_length_le (hencode : encodeChunk library compression chunk = .ok (ctype, extra)) :
    extra.length ≤ chunk.length := by
  obtain ⟨-, rfl⟩ | ⟨-, -, -, hlt, -⟩ := encodeChunk_ok hencode
  · exact le_rfl
  · exact hlt.le

/-- The encoding of a chunk returns when the compressor does. -/
theorem encodeChunk_of_returns
    (hreturns : compression = .fastlz → 16 ≤ chunk.length →
      ∃ compressed, FastLz.compress library chunk = .ok compressed) :
    ∃ encoded, encodeChunk library compression chunk = .ok encoded := by
  unfold encodeChunk
  split_ifs with hcompress
  · obtain ⟨compressed, hcompressed⟩ := hreturns hcompress.1 hcompress.2
    simp only [hcompressed]
    split_ifs <;> exact ⟨_, rfl⟩
  · exact ⟨_, rfl⟩

/-! ### Chunks -/

variable {disk : NfcDisk} {startSector : ℤ} {length opId fragOffset : ℕ} {data : Bytes}
  {frames : List IoFrame}

/-- A chunk that is not the last is as long as the buffer. -/
theorem slice_length_eq {size : ℕ} (hnext : fragOffset + (data.slice fragOffset size).length <
    data.length) : (data.slice fragOffset size).length = size := by
  simp only [List.slice, List.length_take, List.length_drop] at hnext ⊢
  omega

theorem slice_length_le (size : ℕ) (hoffset : fragOffset ≤ data.length) :
    fragOffset + (data.slice fragOffset size).length ≤ data.length := by
  simp only [List.slice, List.length_take, List.length_drop]
  omega

/-- A slice is the slice of its own length. -/
theorem slice_slice_length (size : ℕ) :
    data.slice fragOffset (data.slice fragOffset size).length = data.slice fragOffset size := by
  simp only [List.slice, List.length_take]
  rw [List.take_eq_take_iff]
  omega

/-- Runs start their chunks at multiples of the buffer size. -/
theorem dvd_next {size : ℕ} (hdvd : fragOffset < data.length → size ∣ fragOffset)
    (hgo : fragOffset < data.length) :
    fragOffset + (data.slice fragOffset size).length < data.length →
      size ∣ fragOffset + (data.slice fragOffset size).length := by
  intro hnext
  rw [slice_length_eq hnext]
  exact Nat.dvd_add (hdvd hgo) (Nat.dvd_refl size)

/-- The fields of a frame fit when the arguments of the write do. -/
theorem writeFrame_fits (hfits : WriteFits disk startSector length)
    (hdata : data.length = length) (hoffset : fragOffset < length)
    (hencode : encodeChunk library disk.compression (data.slice fragOffset disk.aioBufferSize) =
      .ok (ctype, extra)) :
    ∀ field ∈ (writeFrame disk startSector length data opId fragOffset ctype extra).fields,
      field.Fits := by
  have hhandle : (Field.Q disk.handle.toNat).Fits := Field.fits_Q.mpr disk.handle.toNat_lt
  have hopcode : (Field.Q (ioOpcode nfcAioIoWrite ctype)).Fits := by
    obtain ⟨rfl, -⟩ | ⟨rfl, -⟩ := encodeChunk_ok hencode <;> decide
  have hchunk := slice_length_le disk.aioBufferSize (show fragOffset ≤ data.length by omega)
  have hextra := encodeChunk_length_le hencode
  have hlength := hfits.length_lt
  simp only [IoFrame.fields, writeFrame, ioFields, List.forall_mem_cons, hhandle, hopcode,
    Field.fits_I, Field.fits_Q_int, Field.fits_I_zero, List.not_mem_nil, false_imp_iff,
    implies_true, and_true, true_and]
  exact ⟨⟨hfits.start_nonneg, hfits.start_lt⟩, hlength, by omega, by omega, by omega⟩

/-- Whatever it receives, a write emits its run and takes one opId. -/
theorem write_sent {numSectors : ℤ} (hpositive : 1 ≤ numSectors)
    (hdata : data.length = requestLength disk numSectors) (hsends : disk.sock.Sends)
    (hrun : WriteRun library disk startSector (requestLength disk numSectors) data disk.opId 0
      frames) :
    (write library startSector numSectors data disk).2.sock.sent =
      disk.sock.sent ++ frames.flatMap IoFrame.bytes := by
  obtain ⟨taken, htook, -⟩ := moves_writeReply disk.opId
    (disk.afterCall (disk.sock.afterSend (frames.flatMap IoFrame.bytes)))
  rw [write_of_run hpositive hdata hsends hrun]
  exact htook.sent_eq

/-! ### The cut -/

/-- The compressor returns on every chunk of the data a session gives it. -/
def CompressorReturns (library : FastLzLibrary) (disk : NfcDisk) (data : Bytes) : Prop :=
  ∀ fragOffset < data.length, disk.aioBufferSize ∣ fragOffset → disk.compression = .fastlz →
    16 ≤ (data.slice fragOffset disk.aioBufferSize).length →
      ∃ compressed, FastLz.compress library (data.slice fragOffset disk.aioBufferSize) =
        .ok compressed

/-- The session compresses the chunk, and the output is nonempty and strictly shorter. -/
structure Shrinks (library : FastLzLibrary) (disk : NfcDisk) (chunk compressed : Bytes) : Prop where
  session : disk.compression = .fastlz
  long : 16 ≤ chunk.length
  output : FastLz.compress library chunk = .ok compressed
  nonempty : compressed ≠ []
  shorter : compressed.length < chunk.length

/-- How many chunks of at most `size` bytes cover `length` bytes. -/
def chunkCount (size length : ℕ) : ℕ :=
  (length + size - 1) / size

/-- The frame of a write for the chunk of `chunkLen` bytes at `dest`, field by field, and how its
extra relates to the chunk. -/
structure WriteFrameAt (library : FastLzLibrary) (disk : NfcDisk) (startSector : ℤ) (data : Bytes)
    (opId dest chunkLen : ℕ) (frame : IoFrame) : Prop where
  opId_eq : frame.opId = opId
  handle_eq : frame.handle = disk.handle.toNat
  direction_eq : frame.direction = nfcAioIoWrite
  diskOffset_eq : frame.diskOffset = startSector * disk.sectorSize
  length_eq : frame.length = data.length
  dest_eq : frame.dest = dest
  chunkLen_eq : frame.chunkLen = chunkLen
  fits : ∀ field ∈ frame.fields, field.Fits
  extra_le : frame.extra.length ≤ chunkLen
  compressed : ∀ output, Shrinks library disk (data.slice dest chunkLen) output →
    frame.ctype = Compression.fastlz.code ∧ frame.extra = output
  raw : (∀ output, ¬ Shrinks library disk (data.slice dest chunkLen) output) →
    frame.ctype = Compression.none.code ∧ frame.extra = data.slice dest chunkLen

theorem chunkCount_zero {size : ℕ} (hsize : 0 < size) : chunkCount size 0 = 0 :=
  Nat.div_eq_of_lt (by omega)

/-- A nonempty rest of the data is one chunk and what is behind it. -/
theorem chunkCount_step {size length : ℕ} (hsize : 0 < size) (hlength : 0 < length) :
    chunkCount size length = chunkCount size (length - min size length) + 1 := by
  rcases Nat.le_total size length with hlong | hshort
  · rw [Nat.min_eq_left hlong]
    have hsplit : length + size - 1 = (length - size + size - 1) + size := by omega
    rw [chunkCount, chunkCount, hsplit, Nat.add_div_right _ hsize]
  · rw [Nat.min_eq_right hshort, Nat.sub_self, chunkCount_zero hsize, chunkCount]
    exact Nat.div_eq_of_lt_le (by omega) (by omega)

/-- The length of a chunk. -/
theorem length_chunk (size : ℕ) :
    (data.slice fragOffset size).length = min size (data.length - fragOffset) := by
  simp only [List.slice, List.length_take, List.length_drop]

/-- The frame a round sends describes its chunk. -/
theorem writeFrame_at (hdata : data.length = length)
    (hencode : encodeChunk library disk.compression (data.slice fragOffset disk.aioBufferSize) =
      .ok (ctype, extra))
    (hfits : ∀ field ∈ (writeFrame disk startSector length data opId fragOffset ctype extra).fields,
      field.Fits) :
    WriteFrameAt library disk startSector data opId fragOffset
      (min disk.aioBufferSize (data.length - fragOffset))
      (writeFrame disk startSector length data opId fragOffset ctype extra) := by
  have hchunk : data.slice fragOffset (min disk.aioBufferSize (data.length - fragOffset)) =
      data.slice fragOffset disk.aioBufferSize := by
    rw [← length_chunk, slice_slice_length]
  refine ⟨rfl, rfl, rfl, rfl, hdata.symm, rfl, length_chunk _, hfits, ?_, ?_, ?_⟩
  · rw [← length_chunk]
    exact encodeChunk_length_le hencode
  · rw [hchunk]
    rintro output ⟨hsession, hlong, houtput, hnonempty, hshorter⟩
    unfold encodeChunk at hencode
    rw [if_pos ⟨hsession, hlong⟩, houtput] at hencode
    simp only [if_pos (And.intro hnonempty hshorter), Except.ok.injEq, Prod.mk.injEq] at hencode
    exact ⟨hencode.1.symm, hencode.2.symm⟩
  · rw [hchunk]
    intro hnone
    obtain ⟨hctype, hextra⟩ | ⟨-, houtput, hnonempty, hshorter, hsession, hlong⟩ :=
      encodeChunk_ok hencode
    · exact ⟨hctype, hextra⟩
    · exact absurd ⟨hsession, hlong, houtput, hnonempty, hshorter⟩ (hnone extra)

/-- A run from an offset sends one frame for each chunk of the rest of the data, and they start one
buffer size apart. -/
theorem WriteRun.frameAt (hdata : data.length = length) (hoffset : fragOffset ≤ length)
    (hrun : WriteRun library disk startSector length data opId fragOffset frames) :
    frames.length = chunkCount disk.aioBufferSize (length - fragOffset) ∧
      ∀ j (hj : j < frames.length), WriteFrameAt library disk startSector data opId
        (fragOffset + j * disk.aioBufferSize)
        (min disk.aioBufferSize (data.length - (fragOffset + j * disk.aioBufferSize)))
        frames[j] := by
  have hsize := disk.aioBufferSize_pos
  induction hrun with
  | @done fragOffset hsent =>
    refine ⟨?_, fun j hj ↦ absurd hj (Nat.not_lt_zero j)⟩
    rw [Nat.sub_eq_zero_of_le hsent, chunkCount_zero hsize, List.length_nil]
  | @send fragOffset ctype extra frames hgo hencode hopId hfits hrest ih =>
    have hchunk := @length_chunk fragOffset data disk.aioBufferSize
    rw [hdata] at hchunk
    have hnext := slice_length_le disk.aioBufferSize (show fragOffset ≤ data.length by omega)
    rw [hdata] at hnext
    obtain ⟨hcount, hframes⟩ := ih hnext
    have hstep := chunkCount_step hsize (show 0 < length - fragOffset by omega)
    have hremaining : length - (fragOffset + (data.slice fragOffset disk.aioBufferSize).length) =
        length - fragOffset - min disk.aioBufferSize (length - fragOffset) := by omega
    rw [hremaining] at hcount
    refine ⟨by rw [List.length_cons, hcount, hstep], ?_⟩
    intro j hj
    cases j with
    | zero =>
      rw [Nat.zero_mul, Nat.add_zero]
      exact writeFrame_at hdata hencode hfits
    | succ j =>
      have hj' : j < frames.length := by simpa using hj
      -- A chunk with a frame behind it is as long as the buffer.
      have hfull : (data.slice fragOffset disk.aioBufferSize).length = disk.aioBufferSize := by
        refine slice_length_eq ?_
        by_contra hend
        rw [hchunk, hdata] at hend
        have hzero : length - fragOffset - min disk.aioBufferSize (length - fragOffset) = 0 := by
          omega
        rw [hzero, chunkCount_zero hsize] at hcount
        omega
      have hdest : fragOffset + (data.slice fragOffset disk.aioBufferSize).length +
          j * disk.aioBufferSize = fragOffset + (j + 1) * disk.aioBufferSize := by
        rw [hfull, Nat.add_mul, Nat.one_mul]
        omega
      rw [← hdest]
      exact hframes j hj'

/-- A write has a run when its arguments fit and the compressor returns. -/
theorem WriteRun.exists_of_returns (hfits : WriteFits disk startSector length)
    (hdata : data.length = length) (hreturns : CompressorReturns library disk data)
    (hdvd : fragOffset < data.length → disk.aioBufferSize ∣ fragOffset) :
    ∃ frames, WriteRun library disk startSector length data disk.opId fragOffset frames := by
  induction hremaining : length - fragOffset using Nat.strongRecOn generalizing fragOffset with
  | ind remaining ih =>
    rcases Nat.lt_or_ge fragOffset length with hgo | hsent
    · have hinside : fragOffset < data.length := by rw [hdata]; exact hgo
      have hpos := length_slice_pos disk.aioBufferSize_pos hinside
      obtain ⟨⟨ctype, extra⟩, hencode⟩ : ∃ encoded, encodeChunk library disk.compression
          (data.slice fragOffset disk.aioBufferSize) = .ok encoded :=
        encodeChunk_of_returns (hreturns fragOffset hinside (hdvd hinside))
      obtain ⟨frames, hrun⟩ := ih _ (by omega) (dvd_next hdvd hinside) rfl
      exact ⟨_, .send hgo hencode hfits.opId_lt (writeFrame_fits hfits hdata hgo hencode) hrun⟩
    · exact ⟨[], .done hsent⟩

/-- A reply the write accepts is one IO message of its opId. -/
theorem writeReply_ok {after : NfcDisk} (h : writeReply opId disk = (.ok (), after)) :
    ∃ body : Bytes, body.length < 2 ^ 32 ∧
      disk.sock.Took (aioMessage nfcAioMsgIo opId body) after.sock := by
  obtain ⟨⟨rtype, rop, body⟩, middle, hreply, h⟩ := Proc.bind_eq_ok.mp h
  obtain ⟨htook, -, -, hbody⟩ := aioRecvReply_ok hreply
  simp only [Proc.raiseIf_apply, Prod.mk.injEq] at h
  obtain ⟨hsame, rfl⟩ := h
  split_ifs at hsame with hother
  simp only [not_or, not_not] at hother
  obtain ⟨rfl, rfl⟩ := hother
  exact ⟨body, hbody, htook⟩

/-- A write of any size emits exactly its frames, one for each chunk of the AIO buffer size and one
for the tail, all of one fresh opId, and then waits for one reply of that opId, whatever the
compressor returns. -/
theorem write_emits_frames {numSectors : ℤ} (hpositive : 1 ≤ numSectors)
    (hdata : data.length = requestLength disk numSectors)
    (hfits : WriteFits disk startSector data.length) (hsends : disk.sock.Sends)
    (hreturns : CompressorReturns library disk data) :
    ∃ frames : List IoFrame,
      (write library startSector numSectors data disk).2.sock.sent =
        disk.sock.sent ++ frames.flatMap IoFrame.bytes ∧
      (write library startSector numSectors data disk).2.opId = disk.opId + 1 ∧
      frames.length = chunkCount disk.aioBufferSize data.length ∧
      (∀ j (hj : j < frames.length), WriteFrameAt library disk startSector data disk.opId
        (j * disk.aioBufferSize)
        (min disk.aioBufferSize (data.length - j * disk.aioBufferSize)) frames[j]) ∧
      (∀ after, write library startSector numSectors data disk = (.ok (), after) →
        ∃ body : Bytes, body.length < 2 ^ 32 ∧ disk.sock.Exchanged (frames.flatMap IoFrame.bytes)
          (aioMessage nfcAioMsgIo disk.opId body) after.sock) ∧
      (∀ body rest : Bytes, body.length < 2 ^ 32 →
        disk.sock.Holds (aioMessage nfcAioMsgIo disk.opId body ++ rest) →
        ∃ after, write library startSector numSectors data disk = (.ok (), after) ∧
          after.sock.Holds rest) := by
  rw [hdata] at hfits
  obtain ⟨frames, hrun⟩ := WriteRun.exists_of_returns hfits hdata hreturns fun _ ↦ dvd_zero _
  obtain ⟨hcount, hframes⟩ := hrun.frameAt hdata (Nat.zero_le _)
  simp only [Nat.sub_zero, Nat.zero_add, ← hdata] at hcount hframes
  have hwrite := write_of_run hpositive hdata hsends hrun
  have hsent := Sock.sendall_ok (Sock.sendall_of_sends hsends (frames.flatMap IoFrame.bytes))
  refine ⟨frames, write_sent hpositive hdata hsends hrun, ?_, hcount, hframes, ?_, ?_⟩
  · obtain ⟨taken, -, hafter⟩ := moves_writeReply disk.opId
      (disk.afterCall (disk.sock.afterSend (frames.flatMap IoFrame.bytes)))
    rw [hwrite, hafter]
    rfl
  · intro after hreturned
    rw [hwrite] at hreturned
    obtain ⟨body, hbody, htook⟩ := writeReply_ok hreturned
    have hwhole := hsent.trans (.of_took htook)
    rw [List.append_nil, List.nil_append] at hwhole
    exact ⟨body, hbody, hwhole⟩
  · intro body rest hbody hholds
    obtain ⟨sock, hreturned, hexchange⟩ :=
      write_of_ack hpositive hdata hsends hrun hfits.opId_lt hbody hholds
    exact ⟨_, hreturned, hexchange.holds hholds⟩

/-- A session whose AIO buffer is not a multiple of its sectors. -/
def oddBuffer : NfcDisk :=
  { fresh [] with compression := .fastlz, aioBufferSize := 3, aioBufferSize_pos := by decide }

theorem write_emits_frames_odd :
    ∃ frames : List IoFrame,
      (write FastLz.storing 0 1 [1, 2, 3, 4] oddBuffer).2.sock.sent =
        frames.flatMap IoFrame.bytes ∧
      frames.length = 2 := by
  have hreturns : CompressorReturns FastLz.storing oddBuffer [1, 2, 3, 4] := by
    intro fragOffset hinside hdvd hsession hlong
    have hshort := @length_chunk fragOffset [1, 2, 3, 4] 3
    have hsize : ([1, 2, 3, 4] : Bytes).length = 4 := rfl
    exact absurd hlong (by change ¬ 16 ≤ (List.slice [1, 2, 3, 4] fragOffset 3).length; omega)
  obtain ⟨frames, hsent, -, hcount, -⟩ := write_emits_frames (show (1 : ℤ) ≤ 1 by decide)
    (show [1, 2, 3, 4].length = requestLength oddBuffer 1 by decide)
    (show WriteFits oddBuffer 0 4 from ⟨by decide, by decide, by decide, by decide⟩)
    ⟨rfl, rfl⟩ hreturns
  exact ⟨frames, hsent, hcount⟩

end OpenVixDiskLib
