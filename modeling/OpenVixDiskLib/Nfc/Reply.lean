import OpenVixDiskLib.Nfc.Rows

/-!
# Reply fragments and the runs of the read loop

`ReplyFrame opId fragment bytes` says that `bytes` are the header, payload and extra of one reply
fragment of request `opId`. It is the wire format as the client decodes it, and it is unambiguous:
two frames at the head of one stream are the same frame (`ReplyFrame.unique`).

`ReadRun` is the read loop on bytes alone: which fragments it accepts, in order, where it puts them
and what it returns, with no segmentation and no socket. `readLoop_run` shows that a loop that
returns is such a run over the bytes it took from the stream, and `readLoop_of_run` that the loop
completes every such run when the stream holds its bytes.
-/

set_option autoImplicit false
set_option relaxedAutoImplicit false

namespace OpenVixDiskLib

open NfcDisk

/-! ### Fragments on the wire -/

/-- What one reply fragment carries: its place in the request, its uncompressed length, its
compression type and its extra. -/
structure Fragment where
  dest : ℕ
  chunkLen : ℕ
  ctype : ℕ
  extra : Bytes
deriving DecidableEq, Repr

/-- `bytes` are one reply fragment of request `opId`: a header that announces an IO payload of at
least 36 bytes, the payload, and an extra of the size the payload implies. -/
inductive ReplyFrame (opId : ℕ) : Fragment → Bytes → Prop
  | intro {hdr body extra : Bytes} {opcode dest chunkLen : ℕ}
      (hlength : hdr.length = nfcAioHdrSize)
      (hhdr : unpackAioHdr hdr = .ok (nfcAioMsgIo, body.length, opId))
      (hsize : 36 ≤ body.length)
      (hopcode : unpackQ body 8 = .ok opcode)
      (hdest : unpackI body 28 = .ok dest)
      (hchunkLen : unpackI body 32 = .ok chunkLen)
      (hextra : aioExtraLen (opcode >>> 32) body chunkLen = .ok extra.length) :
      ReplyFrame opId ⟨dest, chunkLen, opcode >>> 32, extra⟩ (hdr ++ body ++ extra)

/-- Two reply fragments at the head of one stream are the same. -/
theorem ReplyFrame.unique {opId : ℕ} {first second : Fragment}
    {firstBytes secondBytes firstRest secondRest : Bytes}
    (hfirst : ReplyFrame opId first firstBytes) (hsecond : ReplyFrame opId second secondBytes)
    (hstream : firstBytes ++ firstRest = secondBytes ++ secondRest) :
    first = second ∧ firstBytes = secondBytes ∧ firstRest = secondRest := by
  cases hfirst with
  | @intro hdr body extra opcode dest chunkLen hlength hhdr hsize hopcode hdest hchunkLen hextra =>
    cases hsecond with
    | @intro hdr' body' extra' opcode' dest' chunkLen' hlength' hhdr' hsize' hopcode' hdest'
        hchunkLen' hextra' =>
      simp only [List.append_assoc] at hstream
      obtain ⟨rfl, htail⟩ := List.append_inj hstream (hlength.trans hlength'.symm)
      have hbodies : body.length = body'.length := by
        rw [hhdr] at hhdr'
        simpa using hhdr'
      obtain ⟨rfl, hlast⟩ := List.append_inj htail hbodies
      obtain rfl : opcode = opcode' := by simpa [hopcode] using hopcode'
      obtain rfl : dest = dest' := by simpa [hdest] using hdest'
      obtain rfl : chunkLen = chunkLen' := by simpa [hchunkLen] using hchunkLen'
      have hextras : extra.length = extra'.length := by simpa [hextra] using hextra'
      obtain ⟨rfl, hrest⟩ := List.append_inj hlast hextras
      exact ⟨rfl, rfl, hrest⟩

/-- A fragment is compressed with FastLZ and has a nonempty extra, or it is raw and its extra is as
long as its chunk. -/
theorem ReplyFrame.ctype_cases {opId : ℕ} {fragment : Fragment} {bytes : Bytes}
    (hframe : ReplyFrame opId fragment bytes) :
    (fragment.ctype = Compression.fastlz.code ∧ fragment.extra ≠ []) ∨
      (fragment.ctype = Compression.none.code ∧ fragment.extra.length = fragment.chunkLen) := by
  cases hframe with
  | @intro hdr body extra opcode dest chunkLen hlength hhdr hsize hopcode hdest hchunkLen hextra =>
    unfold aioExtraLen at hextra
    split_ifs at hextra with hfastlz hnone
    · left
      refine ⟨hfastlz, ?_⟩
      rcases hunpack : unpackI body 36 with _ | extraLen
      · rw [hunpack] at hextra
        cases hextra
      · rw [hunpack] at hextra
        change (if extraLen < 1 then _ else _) = _ at hextra
        split_ifs at hextra with hshort
        have hvalue : extraLen = extra.length := by simpa using hextra
        intro hempty
        change extra = [] at hempty
        rw [hempty] at hvalue
        simp only [List.length_nil] at hvalue
        omega
    · right
      refine ⟨hnone, ?_⟩
      have hvalue : chunkLen = extra.length := by simpa using hextra
      exact hvalue.symm

/-! ### What a round does with a fragment -/

/-- The uncompressed bytes of a fragment, when its extra decodes to exactly its length. -/
def Fragment.decode (library : FastLzLibrary) (fragment : Fragment) : Option Bytes :=
  if fragment.ctype = Compression.fastlz.code then
    match FastLz.decompress library fragment.extra fragment.chunkLen with
    | .ok chunk => if chunk.length = fragment.chunkLen then some chunk else none
    | .error _ => none
  else some fragment.extra

/-- What a round writes into the buffer and where: the extra at the packed offset when it fits the
request, or the decoded chunk at the fragment's place. -/
def Fragment.placement (library : FastLzLibrary) (length : ℕ) (skipDecompression : Bool)
    (packedOffset : ℕ) (fragment : Fragment) : Option (ℕ × Bytes) :=
  if skipDecompression then
    if packedOffset + fragment.extra.length ≤ length then some (packedOffset, fragment.extra)
    else none
  else (fragment.decode library).map fun chunk ↦ (fragment.dest, chunk)

/-- The checks a fragment passes: its start is new, it is not empty, and it lies in the request. -/
structure Fragment.Acceptable (fragment : Fragment) (length : ℕ) (seen : List ℕ) : Prop where
  fresh : fragment.dest ∉ seen
  nonempty : fragment.chunkLen ≠ 0
  bounded : fragment.dest + fragment.chunkLen ≤ length

/-- The local variables after a fragment. -/
def ReadLocals.after (locals : ReadLocals) (skipDecompression : Bool) (fragment : Fragment) :
    ReadLocals :=
  locals.accept skipDecompression fragment.dest fragment.chunkLen fragment.ctype
    fragment.extra.length
    (if skipDecompression then locals.packedOffset + fragment.extra.length
      else locals.packedOffset)

theorem Fragment.decode_length {library : FastLzLibrary} {opId : ℕ} {fragment : Fragment}
    {bytes chunk : Bytes} (hframe : ReplyFrame opId fragment bytes)
    (hdecode : fragment.decode library = some chunk) : chunk.length = fragment.chunkLen := by
  unfold Fragment.decode at hdecode
  split_ifs at hdecode with hfastlz
  · rcases hrun : FastLz.decompress library fragment.extra fragment.chunkLen with _ | out
    · rw [hrun] at hdecode
      simp at hdecode
    · rw [hrun] at hdecode
      simp only at hdecode
      split_ifs at hdecode with hlength
      rw [← Option.some.inj hdecode]
      exact hlength
  · obtain ⟨hctype, -⟩ | ⟨-, hlength⟩ := hframe.ctype_cases
    · exact absurd hctype hfastlz
    · rw [← Option.some.inj hdecode]
      exact hlength

/-- What a round writes lies in the request. -/
theorem Fragment.placement_fits {library : FastLzLibrary} {length opId packedOffset offset : ℕ}
    {skipDecompression : Bool} {fragment : Fragment} {bytes chunk : Bytes}
    (hframe : ReplyFrame opId fragment bytes)
    (hbounded : fragment.dest + fragment.chunkLen ≤ length)
    (hplacement :
      fragment.placement library length skipDecompression packedOffset = some (offset, chunk)) :
    offset + chunk.length ≤ length := by
  unfold Fragment.placement at hplacement
  split_ifs at hplacement with hskip hfits
  · simp only [Option.some.injEq, Prod.mk.injEq] at hplacement
    obtain ⟨rfl, rfl⟩ := hplacement
    exact hfits
  · rw [Option.map_eq_some_iff] at hplacement
    obtain ⟨decoded, hdecode, hpair⟩ := hplacement
    simp only [Prod.mk.injEq] at hpair
    obtain ⟨rfl, rfl⟩ := hpair
    rw [Fragment.decode_length hframe hdecode]
    exact hbounded

/-! ### One round -/

/-- A step of a read: it has taken `taken` from the stream and left `buffer` in the buffer, and
nothing else of the session or the buffer has changed. -/
structure ReadStep (before : ReadEnv) (taken buffer : Bytes) (after : ReadEnv) : Prop where
  took : before.1.sock.Took taken after.1.sock
  disk : after.1 = { before.1 with sock := after.1.sock }
  buf : after.2 = { before.2 with bytes := buffer }

theorem ReadStep.refl (env : ReadEnv) : ReadStep env [] env.2.bytes env :=
  ⟨Sock.Took.refl _, rfl, rfl⟩

theorem ReadStep.trans {first middle last : ReadEnv} {taken taken' buffer buffer' : Bytes}
    (hfirst : ReadStep first taken buffer middle) (hlast : ReadStep middle taken' buffer' last) :
    ReadStep first (taken ++ taken') buffer' last := by
  refine ⟨hfirst.took.trans hlast.took, ?_, ?_⟩
  · rw [hlast.disk, hfirst.disk]
  · rw [hlast.buf, hfirst.buf]

theorem recvn_env_ok {size : ℕ} {env after : ReadEnv} {bytes : Bytes}
    (h : Proc.zoom envSock (recvn size) env = (.ok bytes, after)) :
    bytes.length = size ∧ ReadStep env bytes env.2.bytes after := by
  obtain ⟨sock, hrun, rfl⟩ := Proc.zoom_eq_ok.mp h
  obtain ⟨hlength, htook⟩ := recvn_ok hrun
  exact ⟨hlength, htook, rfl, rfl⟩

theorem recvn_env_of_holds {size : ℕ} {env : ReadEnv} {bytes rest : Bytes}
    (hholds : env.1.sock.Holds (bytes ++ rest)) (hlength : bytes.length = size) :
    ∃ after, Proc.zoom envSock (recvn size) env = (.ok bytes, after) ∧
      ReadStep env bytes env.2.bytes after := by
  obtain ⟨sock, hrun, htook⟩ := recvn_of_holds hholds hlength
  exact ⟨_, Proc.zoom_of_eq envSock hrun, htook, rfl, rfl⟩

/-- In a flat view a slice is a range of bytes. -/
theorem receiveInto_flat (offset length : ℕ) :
    receiveInto .flat offset length = Proc.zoom (envView offset length) (recvnInto .flat) := by
  simp only [receiveInto, ByteView.width_flat, ByteView.slice_flat, Nat.mul_one]

theorem storeChunk_flat_bind {α : Type} (offset : ℕ) (chunk : Bytes) (next : Unit → Py ReadEnv α)
    (env : ReadEnv) :
    (storeChunk .flat offset chunk >>= next) env =
      next () (env.1, { env.2 with bytes := env.2.bytes.splice offset chunk }) :=
  rfl

theorem receiveInto_env_ok {offset length : ℕ} {env after : ReadEnv}
    (hfits : offset + length ≤ env.2.bytes.length)
    (h : receiveInto .flat offset length env = (.ok (), after)) :
    ∃ bytes, bytes.length = length ∧ ReadStep env bytes (env.2.bytes.splice offset bytes) after := by
  rw [receiveInto_flat] at h
  obtain ⟨state, hrun, rfl⟩ := Proc.zoom_eq_ok.mp h
  obtain ⟨hlength, htook⟩ := recvnInto_ok hrun
  exact ⟨state.2, hlength.trans (List.length_slice _ _ _ hfits), htook, rfl, rfl⟩

theorem receiveInto_env_of_holds {offset length : ℕ} {env : ReadEnv} {bytes rest : Bytes}
    (hfits : offset + length ≤ env.2.bytes.length) (hholds : env.1.sock.Holds (bytes ++ rest))
    (hlength : bytes.length = length) :
    ∃ after, receiveInto .flat offset length env = (.ok (), after) ∧
      ReadStep env bytes (env.2.bytes.splice offset bytes) after := by
  rw [receiveInto_flat]
  obtain ⟨sock, hrun, htook⟩ := recvnInto_of_holds hholds
    (hlength.trans (List.length_slice env.2.bytes offset length hfits).symm)
  exact ⟨_, Proc.zoom_of_eq (envView offset length) hrun, htook, rfl, rfl⟩

/-- A decompression that returns the right number of bytes is a decoded fragment. -/
theorem decompressChunk_ok {library : FastLzLibrary} {extra chunk : Bytes} {chunkLen : ℕ}
    {env after : ReadEnv} (h : decompressChunk library extra chunkLen env = (.ok chunk, after)) :
    FastLz.decompress library extra chunkLen = .ok chunk ∧ after = env := by
  rcases hrun : FastLz.decompress library extra chunkLen with error | out
  · rw [decompressChunk, Proc.tryExcept_of_error (by rw [Proc.lift_apply, hrun])] at h
    split_ifs at h <;> simp at h
  · rw [decompressChunk, Proc.tryExcept_of_ok (by rw [Proc.lift_apply, hrun])] at h
    simp only [Prod.mk.injEq, Except.ok.injEq] at h
    exact ⟨by rw [h.1], h.2.symm⟩

/-- A decompression leaves the session and the buffer as they were. -/
theorem decompressChunk_snd (library : FastLzLibrary) (extra : Bytes) (chunkLen : ℕ) (env : ReadEnv) :
    (decompressChunk library extra chunkLen env).2 = env := by
  rcases hrun : FastLz.decompress library extra chunkLen with error | out
  · rw [decompressChunk, Proc.tryExcept_of_error (by rw [Proc.lift_apply, hrun])]
    split_ifs <;> rfl
  · rw [decompressChunk, Proc.tryExcept_of_ok (by rw [Proc.lift_apply, hrun])]

theorem decompressChunk_of_ok {library : FastLzLibrary} {extra chunk : Bytes} {chunkLen : ℕ}
    (h : FastLz.decompress library extra chunkLen = .ok chunk) (env : ReadEnv) :
    decompressChunk library extra chunkLen env = (.ok chunk, env) := by
  rw [decompressChunk, Proc.tryExcept_of_ok (by rw [Proc.lift_apply, h])]

/-- Receiving an extra that returns has taken the extra and made the fragment's placement. -/
theorem receiveExtra_ok {library : FastLzLibrary} {length packedOffset dest chunkLen ctype extraLen
    offset : ℕ} {skipDecompression : Bool} {env after : ReadEnv}
    (hroom : length ≤ env.2.bytes.length) (hbounded : dest + chunkLen ≤ length)
    (hraw : ctype ≠ Compression.fastlz.code → extraLen = chunkLen)
    (h : receiveExtra library .flat length skipDecompression packedOffset dest chunkLen ctype extraLen env =
      (.ok offset, after)) :
    ∃ extra at' chunk, extra.length = extraLen ∧
      (⟨dest, chunkLen, ctype, extra⟩ : Fragment).placement library length skipDecompression
        packedOffset = some (at', chunk) ∧
      ReadStep env extra (env.2.bytes.splice at' chunk) after ∧
      offset = if skipDecompression then packedOffset + extraLen else packedOffset := by
  unfold receiveExtra at h
  by_cases hskip : skipDecompression = true
  · rw [if_pos hskip, Proc.raiseIf_bind_eq_ok, Proc.bind_eq_ok] at h
    obtain ⟨hfits, ⟨⟩, middle, hrecv, hpure⟩ := h
    rw [Proc.pure_apply, Prod.mk.injEq, Except.ok.injEq] at hpure
    obtain ⟨rfl, rfl⟩ := hpure
    obtain ⟨extra, hlength, hstep⟩ := receiveInto_env_ok (by omega) hrecv
    refine ⟨extra, packedOffset, extra, hlength, ?_, hstep, by rw [if_pos hskip]⟩
    rw [Fragment.placement, if_pos hskip, if_pos (by rw [hlength]; omega)]
  · rw [if_neg hskip] at h
    by_cases hfastlz : ctype = Compression.fastlz.code
    · rw [if_pos hfastlz, Proc.bind_eq_ok] at h
      obtain ⟨extra, received, hrecv, hrest⟩ := h
      rw [Proc.bind_eq_ok] at hrest
      obtain ⟨chunk, decoded, hdecompress, hrest⟩ := hrest
      obtain ⟨hchunk, rfl⟩ := decompressChunk_ok hdecompress
      rw [Proc.raiseIf_bind_eq_ok, storeChunk_flat_bind, Proc.pure_apply,
        Prod.mk.injEq, Except.ok.injEq] at hrest
      obtain ⟨hlengths, rfl, rfl⟩ := hrest
      obtain ⟨hlength, hstep⟩ := recvn_env_ok hrecv
      have hchunkLen : chunk.length = chunkLen := not_not.mp hlengths
      refine ⟨extra, dest, chunk, hlength, ?_, ?_, by rw [if_neg hskip]⟩
      · simp only [Fragment.placement, if_neg hskip, Fragment.decode, if_pos hfastlz, hchunk,
          if_pos hchunkLen, Option.map_some]
      · refine ⟨hstep.took, hstep.disk, ?_⟩
        rw [hstep.buf]
    · rw [if_neg hfastlz] at h
      split_ifs at h with hnone
      · rw [Proc.bind_eq_ok] at h
        obtain ⟨⟨⟩, received, hrecv, hpure⟩ := h
        rw [Proc.pure_apply, Prod.mk.injEq, Except.ok.injEq] at hpure
        obtain ⟨rfl, rfl⟩ := hpure
        obtain ⟨extra, hlength, hstep⟩ := receiveInto_env_ok (by omega) hrecv
        refine ⟨extra, dest, extra, hlength.trans (hraw hfastlz).symm, ?_, hstep,
          by rw [if_neg hskip]⟩
        simp only [Fragment.placement, if_neg hskip, Fragment.decode, if_neg hfastlz,
          Option.map_some]
      · simp at h

/-- An extra is received into rows of one byte as into bytes, or receiving it raises and leaves the
buffer as it was. -/
theorem receiveExtra_bytewise {library : FastLzLibrary} {data : ByteView}
    {length packedOffset dest chunkLen ctype extraLen : ℕ} {skipDecompression : Bool} {env : ReadEnv}
    (hbytes : data.Bytewise length env.2.bytes.length) (hbounded : dest + chunkLen ≤ length) :
    receiveExtra library data length skipDecompression packedOffset dest chunkLen ctype extraLen env =
        receiveExtra library .flat length skipDecompression packedOffset dest chunkLen ctype extraLen
          env ∨
      ∃ error taken after, receiveExtra library data length skipDecompression packedOffset dest chunkLen
          ctype extraLen env = (.error error, after) ∧ ReadStep env taken env.2.bytes after := by
  unfold receiveExtra
  by_cases hskip : skipDecompression = true
  · simp only [if_pos hskip]
    by_cases hlarge : length < packedOffset + extraLen
    · left
      rw [Proc.raiseIf_bind_of_pos hlarge, Proc.raiseIf_bind_of_pos hlarge]
    · rw [Proc.raiseIf_bind_of_neg hlarge, Proc.raiseIf_bind_of_neg hlarge]
      obtain hsame | ⟨error, hraised⟩ := receiveInto_bytewise (hbytes.of_le (not_lt.mp hlarge))
      · left
        exact Proc.bind_congr hsame
      · exact Or.inr ⟨error, [], env, Proc.bind_of_error hraised, .refl env⟩
  simp only [if_neg hskip]
  by_cases hfastlz : ctype = Compression.fastlz.code
  · simp only [if_pos hfastlz]
    rcases hrecv : Proc.zoom envSock (recvn extraLen) env with ⟨error | extra, received⟩
    · left
      rw [Proc.bind_of_error hrecv, Proc.bind_of_error hrecv]
    obtain ⟨-, hstep⟩ := recvn_env_ok hrecv
    rw [Proc.bind_of_ok hrecv, Proc.bind_of_ok hrecv]
    rcases hdecompress : decompressChunk library extra chunkLen received with ⟨error | chunk, decoded⟩
    · left
      rw [Proc.bind_of_error hdecompress, Proc.bind_of_error hdecompress]
    obtain ⟨-, rfl⟩ := decompressChunk_ok hdecompress
    rw [Proc.bind_of_ok hdecompress, Proc.bind_of_ok hdecompress]
    by_cases hlength : chunk.length ≠ chunkLen
    · left
      rw [Proc.raiseIf_bind_of_pos hlength, Proc.raiseIf_bind_of_pos hlength]
    rw [Proc.raiseIf_bind_of_neg hlength, Proc.raiseIf_bind_of_neg hlength]
    by_cases hone : data.oneDim = true
    · left
      rw [storeChunk_flat_bind]
      exact Proc.bind_of_ok (Proc.raiseIf_bind_of_neg (by rw [hone]; simp) _ _ _)
    · right
      have hmany : data.oneDim = false := by simpa using hone
      exact ⟨_, extra, decoded, Proc.bind_of_error (Proc.raiseIf_bind_of_pos hmany _ _ _), hstep⟩
  · simp only [if_neg hfastlz]
    by_cases hnone : ctype = Compression.none.code
    · simp only [if_pos hnone]
      obtain hsame | ⟨error, hraised⟩ := receiveInto_bytewise (hbytes.of_le hbounded)
      · left
        exact Proc.bind_congr hsame
      · exact Or.inr ⟨error, [], env, Proc.bind_of_error hraised, .refl env⟩
    · left
      simp only [if_neg hnone]

/-- Receiving an extra makes the fragment's placement when the stream holds the extra. -/
theorem receiveExtra_of_placement {library : FastLzLibrary} {length opId packedOffset offset : ℕ}
    {skipDecompression : Bool} {fragment : Fragment} {bytes chunk rest : Bytes} {env : ReadEnv}
    (hroom : length ≤ env.2.bytes.length) (hframe : ReplyFrame opId fragment bytes)
    (hbounded : fragment.dest + fragment.chunkLen ≤ length)
    (hplacement :
      fragment.placement library length skipDecompression packedOffset = some (offset, chunk))
    (hholds : env.1.sock.Holds (fragment.extra ++ rest)) :
    ∃ after, receiveExtra library .flat length skipDecompression packedOffset fragment.dest
        fragment.chunkLen fragment.ctype fragment.extra.length env =
          (.ok (if skipDecompression then packedOffset + fragment.extra.length else packedOffset),
            after) ∧
      ReadStep env fragment.extra (env.2.bytes.splice offset chunk) after := by
  unfold Fragment.placement at hplacement
  unfold receiveExtra
  by_cases hskip : skipDecompression = true
  · rw [if_pos hskip] at hplacement
    split_ifs at hplacement with hfits
    simp only [Option.some.injEq, Prod.mk.injEq] at hplacement
    obtain ⟨rfl, rfl⟩ := hplacement
    obtain ⟨after, hrecv, hstep⟩ := receiveInto_env_of_holds (hfits.trans hroom) hholds rfl
    refine ⟨after, ?_, hstep⟩
    rw [if_pos hskip, if_pos hskip, Proc.raiseIf_bind_of_neg (by omega), Proc.bind_of_ok hrecv,
      Proc.pure_apply]
  · rw [if_neg hskip, Option.map_eq_some_iff] at hplacement
    obtain ⟨decoded, hdecode, hpair⟩ := hplacement
    simp only [Prod.mk.injEq] at hpair
    obtain ⟨rfl, rfl⟩ := hpair
    have hlength := Fragment.decode_length hframe hdecode
    rw [if_neg hskip, if_neg hskip]
    unfold Fragment.decode at hdecode
    by_cases hfastlz : fragment.ctype = Compression.fastlz.code
    · rw [if_pos hfastlz] at hdecode
      rcases hrun : FastLz.decompress library fragment.extra fragment.chunkLen with _ | out
      · rw [hrun] at hdecode
        simp at hdecode
      · rw [hrun] at hdecode
        simp only at hdecode
        split_ifs at hdecode with hout
        obtain rfl := Option.some.inj hdecode
        obtain ⟨after, hrecv, hstep⟩ := recvn_env_of_holds hholds rfl
        refine ⟨(after.1, { after.2 with bytes := after.2.bytes.splice fragment.dest out }), ?_,
          hstep.took, hstep.disk, ?_⟩
        · rw [if_pos hfastlz, Proc.bind_of_ok hrecv,
            Proc.bind_of_ok (decompressChunk_of_ok hrun after),
            Proc.raiseIf_bind_of_neg (not_not.mpr hout), storeChunk_flat_bind, Proc.pure_apply]
        · simp only [hstep.buf]
    · rw [if_neg hfastlz, Option.some.injEq] at hdecode
      subst hdecode
      obtain ⟨hctype, -⟩ | ⟨hnone, -⟩ := hframe.ctype_cases
      · exact absurd hctype hfastlz
      obtain ⟨after, hrecv, hstep⟩ :=
        receiveInto_env_of_holds (hbounded.trans hroom) hholds hlength
      refine ⟨after, ?_, hstep⟩
      rw [if_neg hfastlz, if_pos hnone, Proc.bind_of_ok hrecv, Proc.pure_apply]

/-- A round that returns has decoded a header and a payload, passed every check and received the
extra. -/
theorem readFragment_inv {library : FastLzLibrary} {data : ByteView} {length opId : ℕ}
    {skipDecompression : Bool} {locals next : ReadLocals} {env after : ReadEnv}
    (h : readFragment library data length opId skipDecompression locals env = (.ok next, after)) :
    ∃ hdr body middle opcode dest chunkLen extraLen packedOffset,
      hdr.length = nfcAioHdrSize ∧
      unpackAioHdr hdr = .ok (nfcAioMsgIo, body.length, opId) ∧ 36 ≤ body.length ∧
      unpackQ body 8 = .ok opcode ∧ unpackI body 28 = .ok dest ∧ unpackI body 32 = .ok chunkLen ∧
      aioExtraLen (opcode >>> 32) body chunkLen = .ok extraLen ∧
      (dest ∉ locals.seen ∧ chunkLen ≠ 0 ∧ dest + chunkLen ≤ length) ∧
      ReadStep env (hdr ++ body) env.2.bytes middle ∧
      receiveExtra library data length skipDecompression locals.packedOffset dest chunkLen
        (opcode >>> 32) extraLen middle = (.ok packedOffset, after) ∧
      next = locals.accept skipDecompression dest chunkLen (opcode >>> 32) extraLen packedOffset := by
  unfold readFragment at h
  obtain ⟨hdr, headed, hrecvHdr, h⟩ := Proc.bind_eq_ok.mp h
  obtain ⟨⟨rtype, rsize, rop⟩, hunpack, h⟩ := Proc.lift_bind_eq_ok.mp h
  obtain ⟨hreply, h⟩ := Proc.raiseIf_bind_eq_ok.mp h
  obtain ⟨body, bodied, hrecvBody, h⟩ := Proc.bind_eq_ok.mp h
  obtain ⟨hsize, h⟩ := Proc.raiseIf_bind_eq_ok.mp h
  obtain ⟨opcode, hopcode, h⟩ := Proc.lift_bind_eq_ok.mp h
  obtain ⟨dest, hdest, h⟩ := Proc.lift_bind_eq_ok.mp h
  obtain ⟨chunkLen, hchunkLen, h⟩ := Proc.lift_bind_eq_ok.mp h
  obtain ⟨hchecks, h⟩ := Proc.raiseIf_bind_eq_ok.mp h
  obtain ⟨extraLen, hextraLen, h⟩ := Proc.lift_bind_eq_ok.mp h
  obtain ⟨packedOffset, last, hreceive, hpure⟩ := Proc.bind_eq_ok.mp h
  rw [Proc.pure_apply, Prod.mk.injEq, Except.ok.injEq] at hpure
  obtain ⟨rfl, rfl⟩ := hpure
  obtain ⟨hhdrLength, hhdrStep⟩ := recvn_env_ok hrecvHdr
  obtain ⟨rfl, hbodyStep⟩ := recvn_env_ok hrecvBody
  simp only [not_or, not_not, not_lt] at hreply hsize hchecks
  obtain ⟨rfl, rfl⟩ := hreply
  have hstep := hhdrStep.trans hbodyStep
  rw [hhdrStep.buf] at hstep
  exact ⟨hdr, body, bodied, opcode, dest, chunkLen, extraLen, packedOffset, hhdrLength, hunpack,
    hsize, hopcode, hdest, hchunkLen, hextraLen, hchecks, hstep, hreceive, rfl⟩

/-- Every round that returns adds at least one byte to `filled`. -/
theorem readFragment_decreasing (library : FastLzLibrary) (data : ByteView) (length opId : ℕ)
    (skipDecompression : Bool) :
    Proc.Decreasing (fun locals : ReadLocals ↦ decide (locals.filled < length))
      (readFragment library data length opId skipDecompression)
      (fun locals ↦ length - locals.filled) where
  pos locals hgo := by
    have hlt : locals.filled < length := by simpa using hgo
    omega
  lt locals env next after hgo hround := by
    have hlt : locals.filled < length := by simpa using hgo
    obtain ⟨hdr, body, middle, opcode, dest, chunkLen, extraLen, packedOffset, -, -, -, -, -, -, -,
      ⟨-, hnonempty, -⟩, -, -, rfl⟩ := readFragment_inv hround
    change length - (locals.filled + chunkLen) < length - locals.filled
    omega

/-- A round that returns has accepted one fragment at the head of the stream. -/
theorem readFragment_ok {library : FastLzLibrary} {data : ByteView} {length opId : ℕ}
    {skipDecompression : Bool} {locals next : ReadLocals} {env after : ReadEnv}
    (hbytes : data.Bytewise length env.2.bytes.length)
    (h : readFragment library data length opId skipDecompression locals env = (.ok next, after)) :
    ∃ fragment bytes offset chunk, ReplyFrame opId fragment bytes ∧
      fragment.Acceptable length locals.seen ∧
      fragment.placement library length skipDecompression locals.packedOffset =
        some (offset, chunk) ∧
      ReadStep env bytes (env.2.bytes.splice offset chunk) after ∧
      next = locals.after skipDecompression fragment := by
  obtain ⟨hdr, body, middle, opcode, dest, chunkLen, extraLen, packedOffset, hhdrLength, hhdr, hsize,
    hopcode, hdest, hchunkLen, hextraLen, ⟨hfresh, hnonempty, hbounded⟩, hstep, hreceive, rfl⟩ :=
    readFragment_inv h
  have hmiddle : middle.2.bytes = env.2.bytes := by rw [hstep.buf]
  have hraw : opcode >>> 32 ≠ Compression.fastlz.code → extraLen = chunkLen := by
    intro hctype
    unfold aioExtraLen at hextraLen
    rw [if_neg hctype] at hextraLen
    split_ifs at hextraLen
    exact (Except.ok.inj hextraLen).symm
  rw [← hmiddle] at hbytes
  have hflat : receiveExtra library .flat length skipDecompression locals.packedOffset dest chunkLen
      (opcode >>> 32) extraLen middle = (.ok packedOffset, after) := by
    obtain hsame | ⟨error, taken, last, hraised, -⟩ := receiveExtra_bytewise hbytes hbounded
    · exact hsame.symm.trans hreceive
    · rw [hraised] at hreceive
      cases hreceive
  obtain ⟨extra, offset, chunk, rfl, hplacement, hextraStep, rfl⟩ :=
    receiveExtra_ok hbytes.room hbounded hraw hflat
  refine ⟨⟨dest, chunkLen, opcode >>> 32, extra⟩, hdr ++ body ++ extra, offset, chunk,
    .intro hhdrLength hhdr hsize hopcode hdest hchunkLen hextraLen,
    ⟨hfresh, hnonempty, hbounded⟩, hplacement, ?_, rfl⟩
  rw [← hmiddle]
  exact hstep.trans hextraStep

/-- A round takes the header and the payload of an acceptable fragment at the head of the stream, and
what is left of it is to receive the extra. -/
theorem readFragment_eq_extra {library : FastLzLibrary} {data : ByteView} {length opId : ℕ}
    {skipDecompression : Bool} {locals : ReadLocals} {fragment : Fragment} {bytes rest : Bytes}
    {env : ReadEnv} (hframe : ReplyFrame opId fragment bytes)
    (hacceptable : fragment.Acceptable length locals.seen)
    (hholds : env.1.sock.Holds (bytes ++ rest)) :
    ∃ front middle, bytes = front ++ fragment.extra ∧ ReadStep env front env.2.bytes middle ∧
      middle.1.sock.Holds (fragment.extra ++ rest) ∧ env.1.sock.Stays middle.1.sock ∧
      readFragment library data length opId skipDecompression locals env =
        (receiveExtra library data length skipDecompression locals.packedOffset fragment.dest
            fragment.chunkLen fragment.ctype fragment.extra.length >>= fun packedOffset ↦
          pure (locals.accept skipDecompression fragment.dest fragment.chunkLen fragment.ctype
            fragment.extra.length packedOffset)) middle := by
  cases hframe with
  | @intro hdr body extra opcode dest chunkLen hlength hhdr hsize hopcode hdest hchunkLen hextra =>
    simp only [List.append_assoc] at hholds
    obtain ⟨headed, hrecvHdr, hhdrStep⟩ := recvn_env_of_holds hholds hlength
    have hheaded := hhdrStep.took.holds hholds
    obtain ⟨bodied, hrecvBody, hbodyStep⟩ := recvn_env_of_holds hheaded rfl
    have hstep := hhdrStep.trans hbodyStep
    rw [hhdrStep.buf] at hstep
    have hstays : ∀ {size : ℕ} {first last : ReadEnv} {bytes : Bytes},
        Proc.zoom envSock (recvn size) first = (.ok bytes, last) → first.1.sock.Stays last.1.sock := by
      intro size first last bytes hrecv
      obtain ⟨sock, hrun, rfl⟩ := Proc.zoom_eq_ok.mp hrecv
      have hmoves := stays_recvn size first.1.sock
      rwa [show recvn size first.1.sock = _ from hrun] at hmoves
    refine ⟨hdr ++ body, bodied, rfl, hstep, hbodyStep.took.holds hheaded,
      fun hsegment ↦ hstays hrecvBody (hstays hrecvHdr hsegment), ?_⟩
    unfold readFragment
    rw [Proc.bind_of_ok hrecvHdr, Proc.lift_bind_of_ok hhdr]
    simp only
    rw [Proc.raiseIf_bind_of_neg (by simp), Proc.bind_of_ok hrecvBody,
      Proc.raiseIf_bind_of_neg (by omega), Proc.lift_bind_of_ok hopcode,
      Proc.lift_bind_of_ok hdest, Proc.lift_bind_of_ok hchunkLen,
      Proc.raiseIf_bind_of_neg (by
        simp only [not_or, not_lt]
        exact ⟨hacceptable.fresh, hacceptable.nonempty, hacceptable.bounded⟩),
      Proc.lift_bind_of_ok hextra]

/-- A round accepts an acceptable fragment at the head of the stream. -/
theorem readFragment_of_frame {library : FastLzLibrary} {length opId offset : ℕ}
    {skipDecompression : Bool} {locals : ReadLocals} {fragment : Fragment}
    {bytes chunk rest : Bytes} {env : ReadEnv} (hroom : length ≤ env.2.bytes.length)
    (hframe : ReplyFrame opId fragment bytes)
    (hacceptable : fragment.Acceptable length locals.seen)
    (hplacement : fragment.placement library length skipDecompression locals.packedOffset =
      some (offset, chunk))
    (hholds : env.1.sock.Holds (bytes ++ rest)) :
    ∃ after, readFragment library .flat length opId skipDecompression locals env =
        (.ok (locals.after skipDecompression fragment), after) ∧
      ReadStep env bytes (env.2.bytes.splice offset chunk) after := by
  obtain ⟨front, middle, rfl, hstep, hmiddle, -, hround⟩ :=
    readFragment_eq_extra hframe hacceptable hholds
  have hbuffer : middle.2.bytes = env.2.bytes := by rw [hstep.buf]
  obtain ⟨after, hreceive, hextraStep⟩ := receiveExtra_of_placement
    (by rw [hbuffer]; exact hroom) hframe hacceptable.bounded hplacement hmiddle
  refine ⟨after, ?_, ?_⟩
  · rw [hround, Proc.bind_of_ok hreceive, Proc.pure_apply]
    rfl
  · rw [← hbuffer]
    exact hstep.trans hextraStep

end OpenVixDiskLib
