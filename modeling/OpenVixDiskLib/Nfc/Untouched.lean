import OpenVixDiskLib.Nfc.Fragments
import OpenVixDiskLib.Nfc.ReadPrefix

/-!
# What a read leaves alone

A read writes nothing behind the request, whatever it receives and whether it returns or raises. A
plain read writes only the spans of fragments it accepted, and of a raw fragment whose extra was cut
short the bytes that came; a FastLZ fragment is written only when it decodes to its length. A skip read
writes only the packed extras it received (`readinto_touches_only`).
-/

set_option autoImplicit false
set_option relaxedAutoImplicit false

namespace OpenVixDiskLib

open NfcDisk
open Arrival (streamBytes)

variable {library : FastLzLibrary} {length opId : ℕ} {skipDecompression : Bool}
  {locals last : ReadLocals} {fragments : List Fragment} {buffer final taken : Bytes}

/-! ### The accepted fragments -/

/-- Storing a chunk leaves what is outside it. -/
theorem getElem?_splice_of_notMem {offset index : ℕ} {chunk : Bytes}
    (hfits : offset + chunk.length ≤ buffer.length)
    (houtside : ¬ (offset ≤ index ∧ index < offset + chunk.length)) :
    (buffer.splice offset chunk)[index]? = buffer[index]? := by
  by_cases hbefore : index < offset
  · exact List.getElem?_splice_of_lt (by omega) hbefore
  · exact List.getElem?_splice_of_le hfits (by omega)

/-- A prefix keeps the size of the buffer, and leaves the positions that no placement of it covers. -/
theorem ReadPrefix.length_eq
    (hrun : ReadPrefix library length opId skipDecompression locals buffer fragments taken last final)
    (hroom : length ≤ buffer.length) : final.length = buffer.length := by
  induction hrun with
  | start => rfl
  | accept _ hframe hacceptable hplacement _ ih =>
    have hfits := Fragment.placement_fits hframe hacceptable.bounded hplacement
    have hkept := List.length_splice (hfits.trans hroom)
    exact (ih (hroom.trans hkept.ge)).trans hkept

/-- The accepted fragments of a plain read lie in the request and decode to their lengths, and what
lies in none of them is as it was. -/
theorem ReadPrefix.plain
    (hrun : ReadPrefix library length opId false locals buffer fragments taken last final)
    (hroom : length ≤ buffer.length) :
    (∀ fragment ∈ fragments, fragment.dest + fragment.chunkLen ≤ length ∧
      ∃ chunk, fragment.decode library = some chunk ∧ chunk.length = fragment.chunkLen) ∧
      ∀ index, (∀ fragment ∈ fragments, index ∉ fragment.span) → final[index]? = buffer[index]? := by
  induction hrun with
  | start => exact ⟨fun fragment hmem ↦ absurd hmem List.not_mem_nil, fun _ _ ↦ rfl⟩
  | @accept locals last fragment fragments bytes chunk rest buffer final offset _ hframe hacceptable
      hplacement _ ih =>
    have hfits := Fragment.placement_fits hframe hacceptable.bounded hplacement
    rw [Fragment.placement, if_neg Bool.false_ne_true, Option.map_eq_some_iff] at hplacement
    obtain ⟨decoded, hdecode, hpair⟩ := hplacement
    obtain ⟨rfl, rfl⟩ := Prod.mk.inj hpair
    have hlength := Fragment.decode_length hframe hdecode
    have hkept := List.length_splice (hfits.trans hroom)
    obtain ⟨hdecodes, hframed⟩ := ih (hroom.trans hkept.ge)
    refine ⟨List.forall_mem_cons.mpr ⟨⟨hacceptable.bounded, decoded, hdecode, hlength⟩, hdecodes⟩, ?_⟩
    intro index houtside
    obtain ⟨hhead, htail⟩ := List.forall_mem_cons.mp houtside
    rw [hframed index htail]
    refine getElem?_splice_of_notMem (hfits.trans hroom) ?_
    rw [hlength]
    exact fun hinside ↦ hhead (Fragment.mem_span.mpr hinside)

/-- The accepted fragments of a skip read have been packed behind one another inside the request, and
what is behind them is as it was. -/
theorem ReadPrefix.packed
    (hrun : ReadPrefix library length opId true locals buffer fragments taken last final)
    (hroom : length ≤ buffer.length) (hstart : locals.packedOffset ≤ length) :
    last.packedOffset = locals.packedOffset + extraBytes fragments ∧ last.packedOffset ≤ length ∧
      ∀ index, locals.packedOffset + extraBytes fragments ≤ index → final[index]? = buffer[index]? := by
  induction hrun with
  | start => exact ⟨rfl, hstart, fun _ _ ↦ rfl⟩
  | @accept locals last fragment fragments bytes chunk rest buffer final offset _ hframe hacceptable
      hplacement _ ih =>
    have hfits := Fragment.placement_fits hframe hacceptable.bounded hplacement
    rw [Fragment.placement, if_pos rfl] at hplacement
    split_ifs at hplacement with hpacked
    obtain ⟨rfl, rfl⟩ := Prod.mk.inj (Option.some.inj hplacement)
    have hkept := List.length_splice (hfits.trans hroom)
    have hnext : (locals.after true fragment).packedOffset =
        locals.packedOffset + fragment.extra.length := rfl
    obtain ⟨hend, hinside, hframed⟩ := ih (hroom.trans hkept.ge) hpacked
    rw [hnext] at hend hframed
    rw [extraBytes_cons, ← Nat.add_assoc]
    refine ⟨hend, hinside, fun index hindex ↦ ?_⟩
    rw [hframed index hindex]
    refine getElem?_splice_of_notMem (hfits.trans hroom) ?_
    omega

/-! ### The whole read -/

/-- What a plain read may write: a span it accepted, or the part that came of the extra of a raw
fragment that passed every check. -/
def TouchesPlain (library : FastLzLibrary) (opId length : ℕ) (fragments : List Fragment)
    (last : ReadLocals) (more : Bytes) (index : ℕ) : Prop :=
  (∃ fragment ∈ fragments, index ∈ fragment.span ∧
      ∃ chunk, fragment.decode library = some chunk ∧ chunk.length = fragment.chunkLen) ∨
    ∃ got dest chunkLen,
      CutShort opId length last.seen more got dest chunkLen Compression.none.code chunkLen ∧
        dest ≤ index ∧ index < dest + got.length

/-- What a skip read may write: the extras it packed, and behind them the part that came of an extra
that fits the request. -/
def TouchesPacked (opId length : ℕ) (fragments : List Fragment) (last : ReadLocals) (more : Bytes)
    (index : ℕ) : Prop :=
  index < extraBytes fragments ∨
    ∃ got dest chunkLen ctype extraLen,
      CutShort opId length last.seen more got dest chunkLen ctype extraLen ∧
        extraBytes fragments + extraLen ≤ length ∧ index < extraBytes fragments + got.length

/-- A read has accepted `fragments` from the stream, has taken `more` of it in the round that raised,
and has changed nothing of the buffer but what it may write. -/
structure TouchesOnly (library : FastLzLibrary) (length opId : ℕ) (skipDecompression : Bool)
    (env after : ReadEnv) (fragments : List Fragment) (taken more : Bytes) (last : ReadLocals)
    (buffer : Bytes) : Prop where
  accepted : ReadPrefix library length opId skipDecompression readStart env.2.bytes fragments taken
    last buffer
  stream : streamBytes env.1.sock.inbox = taken ++ more ++ streamBytes after.1.sock.inbox
  size : after.2.bytes.length = env.2.bytes.length
  readonly : after.2.readonly = env.2.readonly
  layout : after.2.layout = env.2.layout
  changed : ∀ index, after.2.bytes[index]? ≠ env.2.bytes[index]? → index < length ∧
    if skipDecompression then TouchesPacked opId length fragments last more index
    else TouchesPlain library opId length fragments last more index

/-- A cut extra lies in the request, where the round puts it. -/
theorem CutShort.inside {seen : List ℕ} {more got : Bytes}
    {dest chunkLen ctype extraLen offset packedOffset : ℕ}
    (hcut : CutShort opId length seen more got dest chunkLen ctype extraLen)
    (hplace : if skipDecompression then offset = packedOffset ∧ offset + extraLen ≤ length
      else offset = dest ∧ ctype = Compression.none.code) :
    offset + got.length ≤ length ∧ (skipDecompression = false → extraLen = chunkLen) := by
  obtain ⟨⟨hdr, body, -, hpasses, hextraLen⟩, hshort⟩ := hcut
  have hbounded := hpasses.bounded
  cases skipDecompression with
  | true =>
    obtain ⟨rfl, hend⟩ := hplace
    exact ⟨by omega, fun hplain ↦ absurd hplain.symm Bool.false_ne_true⟩
  | false =>
    obtain ⟨rfl, rfl⟩ := hplace
    have hsame : chunkLen = extraLen := Except.ok.inj hextraLen
    exact ⟨by omega, fun _ ↦ hsame.symm⟩

/-- A round that raises keeps the size of the buffer, and changes nothing but the place of an extra that
was cut short. -/
theorem RoundRaises.changed {more : Bytes} (hroom : length ≤ buffer.length)
    (hraises : RoundRaises length opId skipDecompression locals buffer more final) :
    final.length = buffer.length ∧ ∀ index, final[index]? ≠ buffer[index]? → index < length ∧
      ∃ got dest chunkLen ctype extraLen offset,
        CutShort opId length locals.seen more got dest chunkLen ctype extraLen ∧
        (if skipDecompression then offset = locals.packedOffset ∧ offset + extraLen ≤ length
          else offset = dest ∧ ctype = Compression.none.code) ∧
        offset ≤ index ∧ index < offset + got.length := by
  cases hraises with
  | untouched => exact ⟨rfl, fun index hchanged ↦ absurd rfl hchanged⟩
  | @cutShort got dest chunkLen ctype extraLen offset hcut hplace =>
    have hinside := (hcut.inside hplace).1
    refine ⟨List.length_splice (hinside.trans hroom), fun index hchanged ↦ ?_⟩
    have hcovers : offset ≤ index ∧ index < offset + got.length := by
      by_contra houtside
      exact hchanged (getElem?_splice_of_notMem (hinside.trans hroom) houtside)
    exact ⟨by omega, got, dest, chunkLen, ctype, extraLen, offset, hcut, hplace, hcovers.1, hcovers.2⟩

/-- The loop touches only what it may. -/
theorem LoopEnded.touchesOnly {data : ByteView} {env after : ReadEnv} {more : Bytes}
    {result : Except PyError ReadLocals} (hroom : length ≤ env.2.bytes.length)
    (hended : LoopEnded library data length opId skipDecompression readStart env fragments taken more buffer
      last result after) :
    TouchesOnly library length opId skipDecompression env after fragments taken more last buffer := by
  have hbuffer : buffer.length = env.2.bytes.length := hended.accepted.length_eq hroom
  -- What the round that raised has changed behind the accepted fragments.
  have hround : after.2.bytes.length = buffer.length ∧
      ∀ index, after.2.bytes[index]? ≠ buffer[index]? → index < length ∧
        ∃ got dest chunkLen ctype extraLen offset,
          CutShort opId length last.seen more got dest chunkLen ctype extraLen ∧
          (if skipDecompression then offset = last.packedOffset ∧ offset + extraLen ≤ length
            else offset = dest ∧ ctype = Compression.none.code) ∧
          offset ≤ index ∧ index < offset + got.length := by
    cases result with
    | ok value =>
      obtain ⟨-, -, -, hsame⟩ := hended.filled value rfl
      rw [hsame]
      exact ⟨rfl, fun index hchanged ↦ absurd rfl hchanged⟩
    | error error =>
      obtain ⟨-, hraises, -⟩ := hended.raised error rfl
      exact hraises.changed (hroom.trans hbuffer.ge)
  obtain ⟨hsize, hlast⟩ := hround
  refine ⟨hended.accepted, hended.step.took.stream, hsize.trans hbuffer, ?_, ?_, fun index hchanged ↦ ?_⟩
  · rw [hended.step.buf]
  · rw [hended.step.buf]
  cases skipDecompression with
  | false =>
    obtain ⟨hinside, hframed⟩ := hended.accepted.plain hroom
    by_cases hraised : after.2.bytes[index]? = buffer[index]?
    · rw [hraised] at hchanged
      obtain ⟨fragment, hmem, hspan⟩ : ∃ fragment ∈ fragments, index ∈ fragment.span := by
        by_contra hnone
        push Not at hnone
        exact hchanged (hframed index hnone)
      obtain ⟨hbounded, hdecodes⟩ := hinside fragment hmem
      have hcovers := Fragment.mem_span.mp hspan
      exact ⟨by omega, Or.inl ⟨fragment, hmem, hspan, hdecodes⟩⟩
    · obtain ⟨hindex, got, dest, chunkLen, ctype, extraLen, offset, hcut, hplace, hfrom, hto⟩ :=
        hlast index hraised
      have hsame := (hcut.inside hplace).2 rfl
      obtain ⟨rfl, rfl⟩ := hplace
      subst hsame
      exact ⟨hindex, Or.inr ⟨got, offset, extraLen, hcut, hfrom, hto⟩⟩
  | true =>
    obtain ⟨hend, hpacked, hframed⟩ := hended.accepted.packed hroom (Nat.zero_le _)
    change last.packedOffset = 0 + extraBytes fragments at hend
    rw [Nat.zero_add] at hend
    by_cases hraised : after.2.bytes[index]? = buffer[index]?
    · rw [hraised] at hchanged
      have hcovers : index < extraBytes fragments := by
        by_contra houtside
        refine hchanged (hframed index ?_)
        exact (Nat.zero_add _).le.trans (not_lt.mp houtside)
      exact ⟨by omega, Or.inl hcovers⟩
    · obtain ⟨hindex, got, dest, chunkLen, ctype, extraLen, offset, hcut, hplace, hfrom, hto⟩ :=
        hlast index hraised
      obtain ⟨rfl, hfits⟩ := hplace
      rw [hend] at hfits hto
      exact ⟨hindex, Or.inr ⟨got, dest, chunkLen, ctype, extraLen, hcut, hfits, hto⟩⟩

/-! ### Views that take no byte -/

variable {data : ByteView} {env after : ReadEnv}

/-- Receiving an extra into dead rows raises and leaves the buffer as it was. -/
theorem receiveExtra_dead {packedOffset dest chunkLen ctype extraLen : ℕ} (hdead : data.Dead)
    (hrows : length ≤ data.count env.2.bytes.length)
    (hroom : length * data.width ≤ env.2.bytes.length) (hpos : 0 < extraLen)
    (hnonempty : 0 < chunkLen) (hbounded : dest + chunkLen ≤ length) :
    ∃ error taken after, receiveExtra library data length skipDecompression packedOffset dest chunkLen
        ctype extraLen env = (.error error, after) ∧ ReadStep env taken env.2.bytes after := by
  have hreceive : ∀ {offset size : ℕ}, 0 < size → offset + size ≤ length →
      ∃ error, receiveInto data offset size env = (.error error, env) := fun hsize hfits ↦
    receiveInto_dead hdead hsize (hfits.trans hrows)
      ((Nat.mul_le_mul_right _ hfits).trans hroom)
  unfold receiveExtra
  by_cases hskip : skipDecompression = true
  · simp only [if_pos hskip]
    by_cases hlarge : length < packedOffset + extraLen
    · exact ⟨_, [], env, Proc.raiseIf_bind_of_pos hlarge _ _ _, .refl env⟩
    · obtain ⟨error, hraised⟩ := hreceive hpos (not_lt.mp hlarge)
      rw [Proc.raiseIf_bind_of_neg hlarge]
      exact ⟨error, [], env, Proc.bind_of_error hraised, .refl env⟩
  simp only [if_neg hskip]
  by_cases hfastlz : ctype = Compression.fastlz.code
  · simp only [if_pos hfastlz]
    rcases hrecv : Proc.zoom envSock (recvn extraLen) env with ⟨error | extra, received⟩
    · obtain ⟨⟨taken, hstep⟩, -⟩ := recvn_env_error hrecv
      exact ⟨error, taken, received, Proc.bind_of_error hrecv, hstep⟩
    obtain ⟨-, hstep⟩ := recvn_env_ok hrecv
    rw [Proc.bind_of_ok hrecv]
    rcases hdecompress : decompressChunk library extra chunkLen received with ⟨error | chunk, decoded⟩
    · have hsame := decompressChunk_snd library extra chunkLen received
      rw [hdecompress] at hsame
      obtain rfl : decoded = received := hsame
      exact ⟨error, extra, decoded, Proc.bind_of_error hdecompress, hstep⟩
    obtain ⟨-, rfl⟩ := decompressChunk_ok hdecompress
    rw [Proc.bind_of_ok hdecompress]
    by_cases hlength : chunk.length ≠ chunkLen
    · exact ⟨_, extra, decoded, Proc.raiseIf_bind_of_pos hlength _ _ _, hstep⟩
    · rw [Proc.raiseIf_bind_of_neg hlength]
      exact ⟨_, extra, decoded,
        Proc.bind_of_error (Proc.raiseIf_bind_of_pos hdead.oneDim _ _ _), hstep⟩
  · simp only [if_neg hfastlz]
    by_cases hnone : ctype = Compression.none.code
    · obtain ⟨error, hraised⟩ := hreceive hnonempty hbounded
      simp only [if_pos hnone]
      exact ⟨error, [], env, Proc.bind_of_error hraised, .refl env⟩
    · simp only [if_neg hnone]
      exact ⟨_, [], env, rfl, .refl env⟩

/-- An extra is not empty. -/
theorem aioExtraLen_pos {ctype chunkLen extraLen : ℕ} {body : Bytes} (hnonempty : chunkLen ≠ 0)
    (h : aioExtraLen ctype body chunkLen = .ok extraLen) : 0 < extraLen := by
  by_cases hfastlz : ctype = Compression.fastlz.code
  · unfold aioExtraLen at h
    rw [if_pos hfastlz] at h
    rcases hfield : unpackI body 36 with error | size
    · rw [hfield] at h
      cases h
    · rw [hfield] at h
      change (if size < 1 then _ else _) = _ at h
      split_ifs at h with hsmall
      obtain rfl := Except.ok.inj h
      omega
  · rw [aioExtraLen_raw h hfastlz]
    omega

/-- A loop on dead rows raises in its first round and leaves the buffer as it was. -/
theorem readLoop_dead (hdead : data.Dead) (hrows : length ≤ data.count env.2.bytes.length)
    (hroom : length * data.width ≤ env.2.bytes.length) (hgo : locals.filled < length) :
    ∃ error taken after, readLoop library data length opId skipDecompression locals env =
        (.error error, after) ∧ ReadStep env taken env.2.bytes after := by
  have hraise : ∀ {hdr body : Bytes} {middle : ReadEnv} {dest chunkLen ctype extraLen : ℕ},
      ReadStep env (hdr ++ body) env.2.bytes middle → chunkLen ≠ 0 → dest + chunkLen ≤ length →
      aioExtraLen ctype body chunkLen = .ok extraLen →
      ∃ error taken after, receiveExtra library data length skipDecompression locals.packedOffset dest
        chunkLen ctype extraLen middle = (.error error, after) ∧
          ReadStep env taken env.2.bytes after := by
    intro hdr body middle dest chunkLen ctype extraLen hstep hnonempty hbounded hextraLen
    have hbuffer : middle.2.bytes = env.2.bytes := by rw [hstep.buf]
    obtain ⟨error, taken, after, hreceive, hlast⟩ := @receiveExtra_dead library length skipDecompression
      data middle locals.packedOffset dest chunkLen ctype extraLen hdead (by rw [hbuffer]; exact hrows)
      (by rw [hbuffer]; exact hroom) (aioExtraLen_pos hnonempty hextraLen) (by omega) hbounded
    rw [hbuffer] at hlast
    exact ⟨error, _, after, hreceive, hstep.trans hlast⟩
  rcases hround : readFragment library data length opId skipDecompression locals env with
    ⟨error | next, after⟩
  · have hloop : readLoop library data length opId skipDecompression locals env =
        (.error error, after) := by
      rw [readLoop, Proc.whileLoop_unfold (readFragment_decreasing _ _ _ _ _),
        if_pos (by simpa using hgo), Proc.bind_of_error hround]
    obtain ⟨taken, hstep, -⟩ | ⟨hdr, body, middle, dest, chunkLen, ctype, extraLen, hpasses, hextraLen,
      hstep, hreceive⟩ := readFragment_raises hround
    · exact ⟨error, taken, after, hloop, hstep⟩
    · obtain ⟨raised, taken, last, hraised, hkept⟩ :=
        hraise hstep hpasses.nonempty hpasses.bounded hextraLen
      obtain ⟨-, rfl⟩ := Prod.mk.inj (hreceive.symm.trans hraised)
      exact ⟨error, taken, after, hloop, hkept⟩
  · obtain ⟨hdr, body, middle, opcode, dest, chunkLen, extraLen, packedOffset, -, -, -, -, -, -,
      hextraLen, ⟨-, hnonempty, hbounded⟩, hstep, hreceive, -⟩ := readFragment_inv hround
    obtain ⟨raised, taken, last, hraised, -⟩ := hraise hstep hnonempty hbounded hextraLen
    rw [hraised] at hreceive
    cases hreceive

/-! ### Whole reads -/

/-- The rows that a shaped buffer gives out are in it. -/
theorem ShapedBuffer.rows_fit {buf : ShapedBuffer}
    (hdata : writableBytes buf.toBuffer length = .ok data) :
    length ≤ data.count buf.bytes.length ∧ length * data.width ≤ buf.bytes.length := by
  obtain ⟨-, raw, hraw, hroom, rfl⟩ := writableBytes_eq_ok.mp hdata
  cases raw with
  | flat => exact ⟨hroom, (Nat.mul_one length).le.trans hroom⟩
  | rows outer inner =>
    have hlayout : buf.layout = .bytes (.rows outer inner) := by
      cases hform : buf.layout with
      | bytes view =>
        rw [hform] at hraw
        exact congrArg Layout.bytes (Except.ok.inj hraw)
      | scalar =>
        rw [hform] at hraw
        cases hraw
      | items itemsize dims =>
        rw [hform, Layout.raw] at hraw
        split_ifs at hraw
        cases hraw
    have hspans := buf.spans
    rw [hlayout] at hspans
    change buf.bytes.length = outer.extent * Dim.span 1 inner at hspans
    change length ≤ outer.extent at hroom
    refine ⟨?_, ?_⟩
    · change length ≤ min length outer.extent - 0
      omega
    · rw [hspans]
      exact Nat.mul_le_mul_right _ hroom

/-- A read that goes out runs its loop, whatever becomes of it. -/
theorem readinto_snd_eq_loop {startSector numSectors : ℤ} {sock : Sock}
    (haccepted : ReadAccepted numSectors env data)
    (hfits : ReadFits env.1 startSector (requestLength env.1 numSectors))
    (hsend : Sock.sendall (readRequest env.1 startSector (requestLength env.1 numSectors))
      env.1.sock = (.ok (), sock)) :
    (readinto library startSector numSectors skipDecompression env).2 =
      (readLoop library data (requestLength env.1 numSectors) env.1.opId skipDecompression readStart
        (envDisk.set (env.1.afterCall sock) env)).2 := by
  rw [readinto_eq_loop library skipDecompression haccepted hfits hsend]
  rcases hrun : readLoop library data (requestLength env.1 numSectors) env.1.opId skipDecompression
    readStart (envDisk.set (env.1.afterCall sock) env) with ⟨error | locals, after⟩
  · rw [Proc.bind_of_error hrun]
  · rw [Proc.bind_of_ok hrun]
    rfl

/-- The request of a read goes out, and what is received goes into rows of two bytes or more, of which a
slice of one row has no gaps. -/
def TakesWideRows (startSector numSectors : ℤ) (disk : NfcDisk) (buf : Buffer) : Prop :=
  ReadFits disk startSector (requestLength disk numSectors) ∧ disk.sock.Sendable ∧
    ∃ data, ReadAccepted numSectors (disk, buf) data ∧ 2 ≤ data.width ∧ data.Receivable

/-- A read touches nothing it should not, in either mode, whatever it receives and whether it returns or
raises, when it takes no wide rows: it changes only positions of the request, and of these only what the
fragments it accepted, and the extra of a raw fragment or a packed extra that was cut short, cover. -/
theorem readinto_touches_only (library : FastLzLibrary) (startSector numSectors : ℤ)
    (skipDecompression : Bool) {disk : NfcDisk} {buf : ShapedBuffer}
    (hnarrow : ¬ TakesWideRows startSector numSectors disk buf.toBuffer) :
    ∃ fragments taken more last buffer,
      TouchesOnly library (requestLength disk numSectors) disk.opId skipDecompression
        (disk, buf.toBuffer)
        (readinto library startSector numSectors skipDecompression (disk, buf.toBuffer)).2 fragments
        taken more last buffer := by
  obtain ⟨⟨opId, -, hrefused⟩, hkept⟩ | ⟨⟨data, haccepted⟩, hfits, sock, hsend⟩ :=
    readinto_sends_or_keeps library startSector numSectors skipDecompression (disk, buf.toBuffer)
  · refine ⟨[], [], [], readStart, buf.bytes, .start, ?_, by rw [hkept], by rw [hkept],
      by rw [hkept], ?_⟩
    · rw [hrefused]
      rfl
    · intro index hchanged
      rw [hkept] at hchanged
      exact absurd rfl hchanged
  obtain ⟨hrows, hroom⟩ := ShapedBuffer.rows_fit haccepted.data_eq
  have hinbox : sock.inbox = disk.sock.inbox := Sock.sendall_inbox hsend
  rw [readinto_snd_eq_loop haccepted hfits hsend]
  obtain hwidth | hdead : data.width = 1 ∨ data.Dead := by
    by_cases hwide : 2 ≤ data.width
    · refine Or.inr (Or.inr ⟨by omega, fun hsolid ↦ hnarrow ⟨hfits, ?_, data, haccepted, hwide, hsolid⟩⟩)
      exact Sock.sendall_eq_ok.mp ⟨sock, hsend⟩
    · rcases Nat.lt_or_ge 0 data.width with hpos | hempty
      · exact Or.inl (by omega)
      · exact Or.inr (Or.inl (by omega))
  · rw [hwidth, Nat.mul_one] at hroom
    obtain ⟨fragments, taken, more, buffer, last, hended⟩ := @readLoop_ended library
      (requestLength disk numSectors) disk.opId skipDecompression
      (envDisk.set (disk.afterCall sock) (disk, buf.toBuffer)) readStart data ⟨hwidth, hrows, hroom⟩
    have htouches := hended.touchesOnly hroom
    exact ⟨fragments, taken, more, last, buffer, htouches.accepted,
      (congrArg streamBytes hinbox.symm).trans htouches.stream, htouches.size, htouches.readonly,
      htouches.layout, htouches.changed⟩
  · obtain ⟨error, taken, after, hloop, hstep⟩ := @readLoop_dead library
      (requestLength disk numSectors) disk.opId skipDecompression readStart data
      (envDisk.set (disk.afterCall sock) (disk, buf.toBuffer)) hdead hrows hroom
      (requestLength_pos haccepted.positive)
    have hbuffer : after.2 = buf.toBuffer := hstep.buf
    rw [hloop]
    refine ⟨[], [], taken, readStart, buf.bytes, .start,
      (congrArg streamBytes hinbox.symm).trans hstep.took.stream, by rw [hbuffer], by rw [hbuffer],
      by rw [hbuffer], fun index hchanged ↦ ?_⟩
    rw [hbuffer] at hchanged
    exact absurd rfl hchanged

end OpenVixDiskLib
