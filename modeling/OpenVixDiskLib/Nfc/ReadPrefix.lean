import OpenVixDiskLib.Nfc.ReadRun

/-!
# Every outcome of a read

A read that raises has accepted some fragments first. `ReadPrefix` is a run of the read loop that need
not be over: the fragments accepted so far, the bytes they took from the stream and the buffer they
left. Behind it the loop is over, or the next round raises (`readLoop_ended`). `ReadRounds` are such
rounds for a buffer of any layout.

What a raising round has done is `RoundRaises`: it leaves the buffer as it was, unless the fragment
passed every check (`HeadPasses`) and its extra was cut short while it was received into its place. On
an open connection without timeouts it raises a protocol error, except where the payload of a FastLZ
fragment ends inside the field that holds the length of its extra (`TruncatedFastLz`).
-/

set_option autoImplicit false
set_option relaxedAutoImplicit false

namespace OpenVixDiskLib

open NfcDisk
open Arrival (Quiet streamBytes)

variable {library : FastLzLibrary} {length opId : ℕ} {skipDecompression : Bool}

/-! ### Heads -/

/-- `hdr` and `body` are the header and the payload of a reply fragment of request `opId` that passes
the checks on them: its start is new, it is not empty, and it lies in the request. -/
structure HeadPasses (opId length : ℕ) (seen : List ℕ) (hdr body : Bytes)
    (dest chunkLen ctype : ℕ) : Prop where
  hdr_length : hdr.length = nfcAioHdrSize
  hdr_eq : unpackAioHdr hdr = .ok (nfcAioMsgIo, body.length, opId)
  size_le : 36 ≤ body.length
  opcode_eq : ∃ opcode, unpackQ body 8 = .ok opcode ∧ opcode >>> 32 = ctype
  dest_eq : unpackI body 28 = .ok dest
  chunkLen_eq : unpackI body 32 = .ok chunkLen
  fresh : dest ∉ seen
  nonempty : chunkLen ≠ 0
  bounded : dest + chunkLen ≤ length

/-- The stream starts with a FastLZ fragment whose payload ends inside the field that holds the length
of its extra. -/
inductive TruncatedFastLz (opId length : ℕ) (seen : List ℕ) : Bytes → Prop
  | intro {hdr body rest : Bytes} {dest chunkLen : ℕ}
      (hpasses : HeadPasses opId length seen hdr body dest chunkLen Compression.fastlz.code)
      (hshort : body.length < 40) : TruncatedFastLz opId length seen (hdr ++ body ++ rest)

/-- `more` are the header, the payload and the received part `got` of the extra of a reply fragment that
passes every check and whose extra has `extraLen` bytes. -/
structure CutShort (opId length : ℕ) (seen : List ℕ) (more got : Bytes)
    (dest chunkLen ctype extraLen : ℕ) : Prop where
  head : ∃ hdr body, more = hdr ++ body ++ got ∧
    HeadPasses opId length seen hdr body dest chunkLen ctype ∧
      aioExtraLen ctype body chunkLen = .ok extraLen
  short : got.length < extraLen

/-- What a round that raises has taken from the stream and left in the buffer. -/
inductive RoundRaises (length opId : ℕ) (skipDecompression : Bool) (locals : ReadLocals)
    (buffer : Bytes) : Bytes → Bytes → Prop
  | untouched {taken : Bytes} :
      RoundRaises length opId skipDecompression locals buffer taken buffer
  | cutShort {more got : Bytes} {dest chunkLen ctype extraLen offset : ℕ}
      (hcut : CutShort opId length locals.seen more got dest chunkLen ctype extraLen)
      (hplace : if skipDecompression then offset = locals.packedOffset ∧ offset + extraLen ≤ length
        else offset = dest ∧ ctype = Compression.none.code) :
      RoundRaises length opId skipDecompression locals buffer more (buffer.splice offset got)

/-- A header of the right size is unpacked or raises a protocol error. -/
theorem unpackAioHdr_error {hdr : Bytes} {error : PyError} (hlength : hdr.length = nfcAioHdrSize)
    (h : unpackAioHdr hdr = .error error) : error.kind = .nfcProtocolError := by
  have hroom : ∀ offset, offset + 4 ≤ 16 → ∃ value, unpackI hdr offset = .ok value :=
    fun offset hoffset ↦ unpackField_of_le (hoffset.trans hlength.ge)
  obtain ⟨magic, hmagic⟩ := hroom 0 (by decide)
  obtain ⟨msgType, htype⟩ := hroom 4 (by decide)
  obtain ⟨size, hsize⟩ := hroom 8 (by decide)
  obtain ⟨op, hop⟩ := hroom 12 (by decide)
  simp only [unpackAioHdr, hmagic, htype, hsize, hop, bind, Except.bind] at h
  split_ifs at h
  · obtain rfl := Except.error.inj h
    rfl
  · obtain rfl := Except.error.inj h
    rfl

/-- The length of an extra is read, or raises a protocol error, unless the payload of a FastLZ fragment
ends before it, and then it raises `struct.error`. -/
theorem aioExtraLen_error {ctype chunkLen : ℕ} {body : Bytes} {error : PyError}
    (h : aioExtraLen ctype body chunkLen = .error error) :
    error.kind = .nfcProtocolError ∨ ctype = Compression.fastlz.code ∧ body.length < 40 := by
  unfold aioExtraLen at h
  split_ifs at h with hfastlz hnone
  · by_cases hshort : body.length < 40
    · exact Or.inr ⟨hfastlz, hshort⟩
    · left
      obtain ⟨extraLen, hextraLen⟩ : ∃ extraLen, unpackI body 36 = .ok extraLen :=
        unpackField_of_le (not_lt.mp hshort)
      rw [hextraLen] at h
      change (if extraLen < 1 then _ else _) = _ at h
      split_ifs at h
      obtain rfl := Except.error.inj h
      rfl
  · left
    obtain rfl := Except.error.inj h
    rfl

theorem aioExtraLen_of_truncated {chunkLen : ℕ} {body : Bytes} (hshort : body.length < 40) :
    ∃ error, aioExtraLen Compression.fastlz.code body chunkLen = .error error ∧
      error.kind = .structError := by
  refine ⟨structError s!"unpack_from requires a buffer of at least {36 + 4} bytes", ?_, rfl⟩
  rw [aioExtraLen, if_pos rfl, unpackI, unpackField, if_neg (by omega)]
  rfl

/-- A decompression whose cap fits raises only `ValueError`. -/
theorem FastLz.decompress_error {data : Bytes} {maxout : ℕ} {error : PyError}
    (hmaxout : maxout < 256 ^ 4) (h : FastLz.decompress library data maxout = .error error) :
    error.isValueError = true := by
  unfold FastLz.decompress at h
  split_ifs at h with hempty hlarge
  · obtain rfl := Except.error.inj h
    rfl
  · exact absurd hmaxout (not_lt_of_ge hlarge)
  · split at h
    · obtain rfl := Except.error.inj h
      rfl
    · split_ifs at h
      obtain rfl := Except.error.inj h
      rfl

/-! ### Receives that raise -/

variable {env after : ReadEnv} {error : PyError}

theorem recvn_env_error {size : ℕ}
    (h : Proc.zoom envSock (recvn size) env = (.error error, after)) :
    (∃ taken, ReadStep env taken env.2.bytes after) ∧
      ∀ stream, env.1.sock.Holds stream → error.kind = .nfcProtocolError := by
  obtain ⟨sock, hrun, rfl⟩ := Proc.zoom_eq_error.mp h
  obtain ⟨got, -, htook, -⟩ := recvn_error hrun
  exact ⟨⟨got, htook, rfl, rfl⟩, fun stream hholds ↦
    recvn_calm_error hholds.is_open hholds.quiet hrun⟩

/-- A receive into a part of the buffer that raises has overwritten a proper start of the part. -/
theorem receiveInto_env_error {offset size : ℕ} (hfits : offset + size ≤ env.2.bytes.length)
    (h : receiveInto .flat offset size env = (.error error, after)) :
    (∃ got : Bytes, got.length < size ∧ ReadStep env got (env.2.bytes.splice offset got) after) ∧
      ∀ stream, env.1.sock.Holds stream → error.kind = .nfcProtocolError := by
  rw [receiveInto_flat] at h
  obtain ⟨state, hrun, rfl⟩ := Proc.zoom_eq_error.mp h
  obtain ⟨got, hshort, hreceived, -⟩ := recvnInto_error hrun
  have hview : (env.2.bytes.slice offset size).length = size := List.length_slice _ _ _ hfits
  change got.length < (env.2.bytes.slice offset size).length at hshort
  refine ⟨⟨got, hview ▸ hshort, hreceived.took, rfl, ?_⟩, fun stream hholds ↦
    recvnInto_calm_error hholds.is_open hholds.quiet hrun⟩
  have hsplice := List.splice_splice_window (show offset + (env.2.bytes.slice offset size).length ≤
    env.2.bytes.length by rw [hview]; exact hfits) (show 0 + got.length ≤
      (env.2.bytes.slice offset size).length by omega)
  rw [List.splice_slice hfits, Nat.add_zero] at hsplice
  rw [hsplice]
  exact congrArg (fun view ↦ { env.2 with bytes := env.2.bytes.splice offset view })
    hreceived.view_eq

/-- The kinds of errors of a decompression. -/
theorem decompressChunk_error {extra : Bytes} {chunkLen : ℕ} (hchunkLen : chunkLen < 256 ^ 4)
    (h : decompressChunk library extra chunkLen env = (.error error, after)) :
    error.kind = .nfcProtocolError ∧ after = env := by
  rcases hrun : FastLz.decompress library extra chunkLen with raised | out
  · rw [decompressChunk, Proc.tryExcept_of_error (by rw [Proc.lift_apply, hrun]),
      if_pos (FastLz.decompress_error hchunkLen hrun), Proc.raise_apply] at h
    obtain ⟨hraised, hafter⟩ := Prod.mk.inj h
    obtain rfl := Except.error.inj hraised
    exact ⟨rfl, hafter.symm⟩
  · rw [decompressChunk, Proc.tryExcept_of_ok (by rw [Proc.lift_apply, hrun])] at h
    cases h

/-- Receiving an extra into a flat view that raises has left the buffer as it was, or overwritten a proper
start of the extra's place. -/
theorem receiveExtra_flat_error {packedOffset dest chunkLen ctype extraLen : ℕ}
    (hroom : length ≤ env.2.bytes.length) (hbounded : dest + chunkLen ≤ length)
    (hchunkLen : chunkLen < 256 ^ 4) (hraw : ctype ≠ Compression.fastlz.code → extraLen = chunkLen)
    (h : receiveExtra library .flat length skipDecompression packedOffset dest chunkLen ctype extraLen
      env = (.error error, after)) :
    ((∃ taken, ReadStep env taken env.2.bytes after) ∨
      ∃ got offset, got.length < extraLen ∧
        (if skipDecompression then offset = packedOffset ∧ offset + extraLen ≤ length
          else offset = dest ∧ ctype = Compression.none.code) ∧
        ReadStep env got (env.2.bytes.splice offset got) after) ∧
      ∀ stream, env.1.sock.Holds stream → error.kind = .nfcProtocolError := by
  unfold receiveExtra at h
  by_cases hskip : skipDecompression = true
  · rw [if_pos hskip] at h
    rw [Proc.raiseIf_bind_eq_error] at h
    obtain ⟨-, rfl, rfl⟩ | ⟨hfits, h⟩ := h
    · exact ⟨Or.inl ⟨[], ReadStep.refl after⟩, fun _ _ ↦ rfl⟩
    rw [Proc.bind_eq_error] at h
    obtain hrecv | ⟨⟨⟩, middle, -, hpure⟩ := h
    · have hend : packedOffset + extraLen ≤ length := not_lt.mp hfits
      obtain ⟨⟨got, hshort, hstep⟩, hkind⟩ := receiveInto_env_error (hend.trans hroom) hrecv
      refine ⟨Or.inr ⟨got, packedOffset, hshort, ?_, hstep⟩, hkind⟩
      rw [if_pos hskip]
      exact ⟨rfl, hend⟩
    · cases hpure
  rw [if_neg hskip] at h
  by_cases hfastlz : ctype = Compression.fastlz.code
  · rw [if_pos hfastlz] at h
    rw [Proc.bind_eq_error] at h
    obtain hrecv | ⟨extra, received, hrecv, h⟩ := h
    · obtain ⟨htaken, hkind⟩ := recvn_env_error hrecv
      exact ⟨Or.inl htaken, hkind⟩
    obtain ⟨-, hstep⟩ := recvn_env_ok hrecv
    suffices hraised : error.kind = .nfcProtocolError ∧ after = received by
      obtain ⟨hkind, rfl⟩ := hraised
      exact ⟨Or.inl ⟨extra, hstep⟩, fun _ _ ↦ hkind⟩
    rw [Proc.bind_eq_error] at h
    obtain hdecompress | ⟨chunk, decoded, hdecompress, h⟩ := h
    · exact decompressChunk_error hchunkLen hdecompress
    · obtain ⟨-, rfl⟩ := decompressChunk_ok hdecompress
      rw [Proc.raiseIf_bind_eq_error] at h
      obtain ⟨-, rfl, rfl⟩ | ⟨-, h⟩ := h
      · exact ⟨rfl, rfl⟩
      · cases h
  · rw [if_neg hfastlz] at h
    split_ifs at h with hnone
    · rw [Proc.bind_eq_error] at h
      obtain hrecv | ⟨⟨⟩, middle, -, hpure⟩ := h
      · obtain ⟨⟨got, hshort, hstep⟩, hkind⟩ := receiveInto_env_error (hbounded.trans hroom) hrecv
        refine ⟨Or.inr ⟨got, dest, hshort.trans_le (hraw hfastlz).ge, ?_, hstep⟩, hkind⟩
        rw [if_neg hskip]
        exact ⟨rfl, hnone⟩
      · cases hpure
    · rw [Proc.raise_apply] at h
      obtain ⟨hraised, rfl⟩ := Prod.mk.inj h
      obtain rfl := Except.error.inj hraised
      exact ⟨Or.inl ⟨[], ReadStep.refl _⟩, fun _ _ ↦ rfl⟩

/-- So has receiving an extra into rows of one byte. -/
theorem receiveExtra_error {data : ByteView} {packedOffset dest chunkLen ctype extraLen : ℕ}
    (hbytes : data.Bytewise length env.2.bytes.length) (hbounded : dest + chunkLen ≤ length)
    (hchunkLen : chunkLen < 256 ^ 4) (hraw : ctype ≠ Compression.fastlz.code → extraLen = chunkLen)
    (h : receiveExtra library data length skipDecompression packedOffset dest chunkLen ctype extraLen
      env = (.error error, after)) :
    ((∃ taken, ReadStep env taken env.2.bytes after) ∨
      ∃ got offset, got.length < extraLen ∧
        (if skipDecompression then offset = packedOffset ∧ offset + extraLen ≤ length
          else offset = dest ∧ ctype = Compression.none.code) ∧
        ReadStep env got (env.2.bytes.splice offset got) after) ∧
      (data = .flat → ∀ stream, env.1.sock.Holds stream → error.kind = .nfcProtocolError) := by
  refine ⟨?_, ?_⟩
  · obtain hsame | ⟨raised, taken, last, hraised, hstep⟩ := @receiveExtra_bytewise library data length
      packedOffset dest chunkLen ctype extraLen skipDecompression env hbytes hbounded
    · rw [hsame] at h
      exact (receiveExtra_flat_error hbytes.room hbounded hchunkLen hraw h).1
    · rw [hraised] at h
      obtain ⟨-, rfl⟩ := Prod.mk.inj h
      exact Or.inl ⟨taken, hstep⟩
  · rintro rfl
    exact (receiveExtra_flat_error hbytes.room hbounded hchunkLen hraw h).2

/-! ### One round -/

variable {locals : ReadLocals} {data : ByteView}

/-- A round that raises has raised before the extra and left the buffer as it was, or has received a
head that passes every check and raised at the extra. -/
theorem readFragment_raises
    (h : readFragment library data length opId skipDecompression locals env = (.error error, after)) :
    (∃ taken, ReadStep env taken env.2.bytes after ∧ ∀ stream, env.1.sock.Holds stream →
      error.kind = .nfcProtocolError ∨ TruncatedFastLz opId length locals.seen stream) ∨
    ∃ hdr body middle dest chunkLen ctype extraLen,
      HeadPasses opId length locals.seen hdr body dest chunkLen ctype ∧
      aioExtraLen ctype body chunkLen = .ok extraLen ∧
      ReadStep env (hdr ++ body) env.2.bytes middle ∧
      receiveExtra library data length skipDecompression locals.packedOffset dest chunkLen ctype
        extraLen middle = (.error error, after) := by
  unfold readFragment at h
  rw [Proc.bind_eq_error] at h
  obtain hrecvHdr | ⟨hdr, headed, hrecvHdr, h⟩ := h
  · obtain ⟨⟨taken, hstep⟩, hkind⟩ := recvn_env_error hrecvHdr
    exact Or.inl ⟨taken, hstep, fun stream hholds ↦ Or.inl (hkind stream hholds)⟩
  obtain ⟨hhdrLength, hhdrStep⟩ := recvn_env_ok hrecvHdr
  rw [Proc.lift_bind_eq_error] at h
  obtain ⟨hunpack, rfl⟩ | ⟨⟨rtype, rsize, rop⟩, hunpack, h⟩ := h
  · exact Or.inl ⟨hdr, hhdrStep, fun _ _ ↦ Or.inl (unpackAioHdr_error hhdrLength hunpack)⟩
  rw [Proc.raiseIf_bind_eq_error] at h
  obtain ⟨-, rfl, rfl⟩ | ⟨hreply, h⟩ := h
  · exact Or.inl ⟨hdr, hhdrStep, fun _ _ ↦ Or.inl rfl⟩
  rw [Proc.bind_eq_error] at h
  obtain hrecvBody | ⟨body, bodied, hrecvBody, h⟩ := h
  · obtain ⟨⟨taken, hstep⟩, hkind⟩ := recvn_env_error hrecvBody
    have hwhole := hhdrStep.trans hstep
    rw [hhdrStep.buf] at hwhole
    refine Or.inl ⟨_, hwhole, fun stream hholds ↦ Or.inl (hkind (streamBytes headed.1.sock.inbox) ?_)⟩
    exact hhdrStep.took.holds ⟨hholds.is_open, hholds.quiet, hhdrStep.took.stream⟩
  obtain ⟨rfl, hbodyStep⟩ := recvn_env_ok hrecvBody
  have hstep := hhdrStep.trans hbodyStep
  rw [hhdrStep.buf] at hstep
  change ReadStep env (hdr ++ body) env.2.bytes bodied at hstep
  simp only [not_or, not_not] at hreply
  obtain ⟨rfl, hop⟩ := hreply
  rw [hop] at hunpack
  rw [Proc.raiseIf_bind_eq_error] at h
  obtain ⟨-, rfl, rfl⟩ | ⟨hsize, h⟩ := h
  · exact Or.inl ⟨_, hstep, fun _ _ ↦ Or.inl rfl⟩
  have hlong : 36 ≤ body.length := not_lt.mp hsize
  obtain ⟨opcode, hopcode⟩ : ∃ opcode, unpackQ body 8 = .ok opcode := unpackField_of_le (by omega)
  obtain ⟨dest, hdest⟩ : ∃ dest, unpackI body 28 = .ok dest := unpackField_of_le (by omega)
  obtain ⟨chunkLen, hchunkLen⟩ : ∃ chunkLen, unpackI body 32 = .ok chunkLen :=
    unpackField_of_le (by omega)
  rw [Proc.lift_bind_of_ok hopcode, Proc.lift_bind_of_ok hdest, Proc.lift_bind_of_ok hchunkLen] at h
  rw [Proc.raiseIf_bind_eq_error] at h
  obtain ⟨-, rfl, rfl⟩ | ⟨hchecks, h⟩ := h
  · exact Or.inl ⟨_, hstep, fun _ _ ↦ Or.inl rfl⟩
  simp only [not_or, not_lt] at hchecks
  have hpasses : HeadPasses opId length locals.seen hdr body dest chunkLen (opcode >>> 32) :=
    ⟨hhdrLength, hunpack, hlong, ⟨opcode, hopcode, rfl⟩, hdest, hchunkLen, hchecks.1, hchecks.2.1,
      hchecks.2.2⟩
  rw [Proc.lift_bind_eq_error] at h
  obtain ⟨hextraLen, rfl⟩ | ⟨extraLen, hextraLen, h⟩ := h
  · refine Or.inl ⟨_, hstep, fun stream hholds ↦ ?_⟩
    obtain hkind | ⟨hfastlz, hshort⟩ := aioExtraLen_error hextraLen
    · exact Or.inl hkind
    · right
      rw [← hholds.stream, hstep.took.stream]
      rw [hfastlz] at hpasses
      exact .intro hpasses hshort
  rw [Proc.bind_eq_error] at h
  obtain hreceive | ⟨packedOffset, last, -, hpure⟩ := h
  · exact Or.inr ⟨hdr, body, bodied, dest, chunkLen, _, extraLen, hpasses, hextraLen, hstep, hreceive⟩
  · cases hpure

/-- A raw extra is as long as its chunk. -/
theorem aioExtraLen_raw {ctype chunkLen extraLen : ℕ} {body : Bytes}
    (h : aioExtraLen ctype body chunkLen = .ok extraLen) (hctype : ctype ≠ Compression.fastlz.code) :
    extraLen = chunkLen := by
  unfold aioExtraLen at h
  rw [if_neg hctype] at h
  split_ifs at h
  exact (Except.ok.inj h).symm

/-- What a round that raises has done, and what it raises on an open connection without timeouts when the
view is flat. -/
theorem readFragment_error (hbytes : data.Bytewise length env.2.bytes.length)
    (h : readFragment library data length opId skipDecompression locals env = (.error error, after)) :
    (∃ taken buffer, RoundRaises length opId skipDecompression locals env.2.bytes taken buffer ∧
      ReadStep env taken buffer after) ∧
    (data = .flat → ∀ stream, env.1.sock.Holds stream →
      error.kind = .nfcProtocolError ∨ TruncatedFastLz opId length locals.seen stream) := by
  obtain ⟨taken, hstep, hkind⟩ | ⟨hdr, body, middle, dest, chunkLen, ctype, extraLen, hpasses,
    hextraLen, hstep, hreceive⟩ := readFragment_raises h
  · exact ⟨⟨taken, _, .untouched, hstep⟩, fun _ ↦ hkind⟩
  have hbuffer : middle.2.bytes = env.2.bytes := by rw [hstep.buf]
  obtain ⟨hdone, hkind⟩ := receiveExtra_error (by rw [hbuffer]; exact hbytes) hpasses.bounded
    (unpackField_lt hpasses.chunkLen_eq) (aioExtraLen_raw hextraLen) hreceive
  refine ⟨?_, fun hflat stream hholds ↦ Or.inl (hkind hflat (streamBytes middle.1.sock.inbox)
    (hstep.took.holds ⟨hholds.is_open, hholds.quiet, hstep.took.stream⟩))⟩
  obtain ⟨taken, hraised⟩ | ⟨got, offset, hshort, hplace, hraised⟩ := hdone
  all_goals
    have hwhole := hstep.trans hraised
    rw [hbuffer] at hwhole
  · exact ⟨_, _, .untouched, hwhole⟩
  · exact ⟨_, _, .cutShort ⟨⟨hdr, body, rfl, hpasses, hextraLen⟩, hshort⟩ hplace, hwhole⟩

/-- A round that meets a truncated FastLZ payload raises `struct.error`. -/
theorem readFragment_of_truncated {stream : Bytes}
    (htruncated : TruncatedFastLz opId length locals.seen stream)
    (hholds : env.1.sock.Holds stream) :
    ∃ error after, readFragment library data length opId skipDecompression locals env =
      (.error error, after) ∧ error.kind = .structError := by
  cases htruncated with
  | @intro hdr body rest dest chunkLen hpasses hshort =>
    obtain ⟨opcode, hopcode, hctype⟩ := hpasses.opcode_eq
    rw [List.append_assoc] at hholds
    obtain ⟨headed, hrecvHdr, hhdrStep⟩ := recvn_env_of_holds hholds hpasses.hdr_length
    obtain ⟨bodied, hrecvBody, -⟩ := recvn_env_of_holds (hhdrStep.took.holds hholds) rfl
    obtain ⟨error, hextraLen, hkind⟩ := @aioExtraLen_of_truncated chunkLen body hshort
    refine ⟨error, bodied, ?_, hkind⟩
    unfold readFragment
    rw [Proc.bind_of_ok hrecvHdr, Proc.lift_bind_of_ok hpasses.hdr_eq]
    simp only
    rw [Proc.raiseIf_bind_of_neg (by simp), Proc.bind_of_ok hrecvBody,
      Proc.raiseIf_bind_of_neg (not_lt.mpr hpasses.size_le), Proc.lift_bind_of_ok hopcode,
      Proc.lift_bind_of_ok hpasses.dest_eq, Proc.lift_bind_of_ok hpasses.chunkLen_eq,
      Proc.raiseIf_bind_of_neg (by
        simp only [not_or, not_lt]
        exact ⟨hpasses.fresh, hpasses.nonempty, hpasses.bounded⟩), hctype, hextraLen]
    rfl

/-! ### Runs that need not be over -/

/-- A run of the read loop that need not be over: it has accepted `fragments`, whose frames are the
given bytes of the stream, and reached the last locals and buffer. -/
inductive ReadPrefix (library : FastLzLibrary) (length opId : ℕ) (skipDecompression : Bool) :
    ReadLocals → Bytes → List Fragment → Bytes → ReadLocals → Bytes → Prop
  | start {locals : ReadLocals} {buffer : Bytes} :
      ReadPrefix library length opId skipDecompression locals buffer [] [] locals buffer
  | accept {locals last : ReadLocals} {fragment : Fragment} {fragments : List Fragment}
      {bytes chunk rest buffer final : Bytes} {offset : ℕ}
      (hgo : locals.filled < length)
      (hframe : ReplyFrame opId fragment bytes)
      (hacceptable : fragment.Acceptable length locals.seen)
      (hplacement : fragment.placement library length skipDecompression locals.packedOffset =
        some (offset, chunk))
      (hrest : ReadPrefix library length opId skipDecompression
        (locals.after skipDecompression fragment) (buffer.splice offset chunk) fragments rest last
        final) :
      ReadPrefix library length opId skipDecompression locals buffer (fragment :: fragments)
        (bytes ++ rest) last final

variable {last : ReadLocals} {fragments : List Fragment} {buffer final taken : Bytes}

/-- Every fragment takes at least one byte of the request. -/
theorem ReadPrefix.length_le
    (hrun : ReadPrefix library length opId skipDecompression locals buffer fragments taken last
      final) : fragments.length ≤ length - locals.filled := by
  induction hrun with
  | start => exact Nat.zero_le _
  | @accept locals last fragment fragments bytes chunk rest buffer final offset hgo _ hacceptable _ _
      ih =>
    have hpos := hacceptable.nonempty
    have hnext : (locals.after skipDecompression fragment).filled =
        locals.filled + fragment.chunkLen := rfl
    rw [hnext] at ih
    rw [List.length_cons]
    omega

/-- How a loop ended: it has accepted some fragments, and then the request was filled, or a round
raised. -/
structure LoopEnded (library : FastLzLibrary) (data : ByteView) (length opId : ℕ)
    (skipDecompression : Bool) (locals : ReadLocals) (env : ReadEnv) (fragments : List Fragment)
    (taken more buffer : Bytes) (last : ReadLocals) (result : Except PyError ReadLocals)
    (after : ReadEnv) : Prop where
  accepted : ReadPrefix library length opId skipDecompression locals env.2.bytes fragments taken last
    buffer
  step : ReadStep env (taken ++ more) after.2.bytes after
  filled : ∀ value, result = .ok value →
    value = last ∧ length ≤ last.filled ∧ more = [] ∧ after.2.bytes = buffer
  raised : ∀ error, result = .error error → last.filled < length ∧
    RoundRaises length opId skipDecompression last buffer more after.2.bytes ∧
      (data = .flat → ∀ rest, env.1.sock.Holds (taken ++ rest) →
        error.kind = .nfcProtocolError ∨ TruncatedFastLz opId length last.seen rest)

/-- Every loop on rows of one byte ends so. -/
theorem readLoop_ended (hbytes : data.Bytewise length env.2.bytes.length) :
    ∃ fragments taken more buffer last, LoopEnded library data length opId skipDecompression locals env
      fragments taken more buffer last
      (readLoop library data length opId skipDecompression locals env).1
      (readLoop library data length opId skipDecompression locals env).2 := by
  refine Proc.whileLoop_outcome (readFragment_decreasing library data length opId skipDecompression)
    (fun locals env result after ↦ data.Bytewise length env.2.bytes.length →
      ∃ fragments taken more buffer last, LoopEnded library data length opId skipDecompression locals
        env fragments taken more buffer last result after) ?_ ?_ ?_ locals env hbytes
  · intro locals env hstop _
    refine ⟨[], [], [], env.2.bytes, locals, .start, ReadStep.refl env, fun value hvalue ↦ ?_,
      fun error hraised ↦ by cases hraised⟩
    exact ⟨(Except.ok.inj hvalue).symm, by simpa using hstop, rfl, rfl⟩
  · intro locals env error after hgo hround hbytes
    obtain ⟨⟨more, buffer, hraises, hstep⟩, hkind⟩ := readFragment_error hbytes hround
    have hbuffer : after.2.bytes = buffer := by rw [hstep.buf]
    subst hbuffer
    refine ⟨[], [], more, env.2.bytes, locals, .start, hstep, (fun value hvalue ↦ by cases hvalue),
      fun raised hraised ↦ ?_⟩
    obtain rfl := Except.error.inj hraised
    exact ⟨by simpa using hgo, hraises, hkind⟩
  · intro locals env next middle result after hgo hround ih hbytes
    obtain ⟨fragment, bytes, offset, chunk, hframe, hacceptable, hplacement, hstep, rfl⟩ :=
      readFragment_ok hbytes hround
    have hbuffer : middle.2.bytes = env.2.bytes.splice offset chunk := by rw [hstep.buf]
    have hfits := Fragment.placement_fits hframe hacceptable.bounded hplacement
    obtain ⟨fragments, taken, more, buffer, last, hrun, hlast, hfilled, hraised⟩ := ih (by
      rw [hbuffer, List.length_splice (hfits.trans hbytes.room)]
      exact hbytes)
    rw [hbuffer] at hrun
    have hwhole := hstep.trans hlast
    rw [← List.append_assoc] at hwhole
    refine ⟨fragment :: fragments, bytes ++ taken, more, buffer, last,
      .accept (by simpa using hgo) hframe hacceptable hplacement hrun, hwhole, hfilled,
      fun error herror ↦ ?_⟩
    obtain ⟨hopen, hraises, hkind⟩ := hraised error herror
    refine ⟨hopen, hraises, fun hflat rest hholds ↦ hkind hflat rest ?_⟩
    rw [List.append_assoc] at hholds
    exact hstep.took.holds hholds

/-- Rounds of the read loop that all returned. -/
abbrev ReadRounds (library : FastLzLibrary) (data : ByteView) (length opId : ℕ)
    (skipDecompression : Bool) : ReadLocals → ReadEnv → ReadLocals → ReadEnv → Prop :=
  Proc.Rounds (fun locals ↦ decide (locals.filled < length))
    (readFragment library data length opId skipDecompression)

/-- Behind rounds that took `taken` the socket holds what comes behind it. -/
theorem ReadRounds.holds {middle : ReadEnv} {rest : Bytes}
    (hrounds : ReadRounds library data length opId skipDecompression locals env last middle)
    (htaken : streamBytes env.1.sock.inbox = taken ++ streamBytes middle.1.sock.inbox)
    (hholds : env.1.sock.Holds (taken ++ rest)) : middle.1.sock.Holds rest := by
  obtain ⟨bytes, htook, -⟩ := Proc.Moves.rounds EnvReceived.refl EnvReceived.trans
    (moves_readFragment _ _ _ _ _) hrounds
  obtain rfl := List.append_cancel_right (htook.stream.symm.trans htaken)
  exact htook.holds hholds

/-- A prefix whose bytes the stream holds is made in rounds that return, and they take its bytes. -/
theorem ReadPrefix.rounds
    (hrun : ReadPrefix library length opId skipDecompression locals buffer fragments taken last final)
    {env : ReadEnv} {rest : Bytes} (hbuffer : env.2.bytes = buffer)
    (hroom : length ≤ buffer.length) (hholds : env.1.sock.Holds (taken ++ rest)) :
    ∃ middle : ReadEnv,
      ReadRounds library .flat length opId skipDecompression locals env last middle ∧
      middle.1.sock.Holds rest := by
  induction hrun generalizing env with
  | start => exact ⟨env, .start, hholds⟩
  | @accept locals last fragment fragments bytes chunk remaining buffer final offset hgo hframe
      hacceptable hplacement _ ih =>
    subst hbuffer
    rw [List.append_assoc] at hholds
    obtain ⟨stepped, hround, hstep⟩ :=
      readFragment_of_frame hroom hframe hacceptable hplacement hholds
    have hfits := Fragment.placement_fits hframe hacceptable.bounded hplacement
    obtain ⟨middle, hrounds, hmiddle⟩ := ih (by rw [hstep.buf])
      (by rw [List.length_splice (hfits.trans hroom)]; exact hroom) (hstep.took.holds hholds)
    exact ⟨middle, .round (by simpa using hgo) hround hrounds, hmiddle⟩

/-- The loop raises what the round behind its first rounds raises. -/
theorem ReadRounds.readLoop_of_error {middle : ReadEnv}
    (hrounds : ReadRounds library data length opId skipDecompression locals env last middle)
    (hopen : last.filled < length)
    (hround : readFragment library data length opId skipDecompression last middle =
      (.error error, after)) :
    readLoop library data length opId skipDecompression locals env = (.error error, after) := by
  rw [readLoop, hrounds.whileLoop_eq (readFragment_decreasing _ _ _ _ _),
    Proc.whileLoop_unfold (readFragment_decreasing _ _ _ _ _), if_pos (by simpa using hopen),
    Proc.bind_of_error hround]

/-- Behind a prefix whose bytes the stream holds, a truncated FastLZ payload ends the loop with
`struct.error`. -/
theorem readLoop_of_truncated
    (hrun : ReadPrefix library length opId skipDecompression locals buffer fragments taken last final)
    {env : ReadEnv} {rest : Bytes} (hbuffer : env.2.bytes = buffer)
    (hroom : length ≤ buffer.length) (hopen : last.filled < length)
    (htruncated : TruncatedFastLz opId length last.seen rest)
    (hholds : env.1.sock.Holds (taken ++ rest)) :
    ∃ error after, readLoop library .flat length opId skipDecompression locals env = (.error error, after) ∧
      error.kind = .structError := by
  obtain ⟨middle, hrounds, hmiddle⟩ := hrun.rounds hbuffer hroom hholds
  obtain ⟨error, after, hround, hkind⟩ := readFragment_of_truncated htruncated hmiddle
  exact ⟨error, after, hrounds.readLoop_of_error hopen hround, hkind⟩

end OpenVixDiskLib
