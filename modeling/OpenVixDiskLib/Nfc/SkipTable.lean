import OpenVixDiskLib.Nfc.Rebuild

/-!
# The table of a skip read

A skip read packs the extras of its fragments one after the other and describes them in a table. The
table is a prefix sum: every entry starts where the lengths of the entries before it end
(`fragmentTable_offset`), and its range of the buffer holds the extra it was received with
(`fragmentTable_slices`). `readinto_table_exact` collects what holds of the table of every skip read
that returns.

The packed cursor adds lengths on the wire while the loop counts uncompressed lengths, and nothing
in a reply relates the two. A plain read decompresses each extra and never compares it with its chunk,
so it completes replies whose extras are together longer than the request; a skip read of the same
stream raises (`readinto_skip_completes_iff`).
-/

set_option autoImplicit false
set_option relaxedAutoImplicit false

namespace OpenVixDiskLib

open NfcDisk
open Arrival (Quiet streamBytes)

variable {library : FastLzLibrary} {length opId : ℕ} {locals last : ReadLocals}
  {buffer final taken : Bytes} {fragments : List Fragment}

/-! ### The entries -/

@[simp] theorem length_fragmentTable (offset : ℕ) (fragments : List Fragment) :
    (fragmentTable offset fragments).length = fragments.length := by
  induction fragments generalizing offset with
  | nil => rfl
  | cons fragment fragments ih => rw [fragmentTable, List.length_cons, ih, List.length_cons]

/-- What an entry says about its fragment besides the place of the extra. -/
theorem fragmentTable_payloads (offset : ℕ) (fragments : List Fragment) :
    (fragmentTable offset fragments).map (fun entry ↦
        (entry.dest, entry.uncompressedLength, entry.compressionType, entry.length)) =
      fragments.map fun fragment ↦
        (fragment.dest, fragment.chunkLen, fragment.ctype, fragment.extra.length) := by
  induction fragments generalizing offset with
  | nil => rfl
  | cons fragment fragments ih => rw [fragmentTable, List.map_cons, ih, List.map_cons]

theorem fragmentTable_lengths (offset : ℕ) (fragments : List Fragment) :
    ((fragmentTable offset fragments).map ReadFragment.length).sum = extraBytes fragments := by
  induction fragments generalizing offset with
  | nil => rfl
  | cons fragment fragments ih =>
    rw [fragmentTable, List.map_cons, List.sum_cons, ih, extraBytes_cons]

/-- An entry starts where the entries before it end. -/
theorem fragmentTable_offset (offset : ℕ) (fragments : List Fragment) (i : ℕ)
    (hi : i < (fragmentTable offset fragments).length) :
    (fragmentTable offset fragments)[i].offset =
      offset + (((fragmentTable offset fragments).take i).map ReadFragment.length).sum := by
  induction fragments generalizing offset i with
  | nil => exact absurd hi (Nat.not_lt_zero i)
  | cons fragment fragments ih =>
    cases i with
    | zero => rfl
    | succ i =>
      have hlater : i < (fragmentTable (offset + fragment.extra.length) fragments).length := by
        simpa [fragmentTable] using hi
      have hstart := ih (offset + fragment.extra.length) i hlater
      simp only [fragmentTable, List.getElem_cons_succ, List.take_succ_cons, List.map_cons,
        List.sum_cons]
      rw [hstart, Nat.add_assoc]

/-- The ranges the entries name hold the extras. -/
theorem fragmentTable_slices (front back : Bytes) (fragments : List Fragment) :
    (fragmentTable front.length fragments).map (fun entry ↦
        (front ++ fragments.flatMap Fragment.extra ++ back).slice entry.offset entry.length) =
      fragments.map Fragment.extra := by
  induction fragments generalizing front with
  | nil => rfl
  | cons fragment fragments ih =>
    have hnext := ih (front ++ fragment.extra)
    rw [List.length_append] at hnext
    have hbytes : front ++ (fragment :: fragments).flatMap Fragment.extra ++ back =
        front ++ fragment.extra ++ fragments.flatMap Fragment.extra ++ back := by
      simp only [List.flatMap_cons, List.append_assoc]
    rw [fragmentTable, List.map_cons, List.map_cons, hbytes, hnext]
    refine congrArg (fun head ↦ head :: fragments.map Fragment.extra) ?_
    rw [List.append_assoc, List.append_assoc, List.slice, List.drop_left, List.take_left]

/-- The fragments before the last of a reply do not reach the request. -/
theorem Reply.sum_dropLast_lt {filled : ℕ} (hreply : Reply opId length filled fragments taken)
    (hgo : filled < length) :
    filled + (fragments.dropLast.map Fragment.chunkLen).sum < length := by
  induction hreply with
  | done hdone => omega
  | @frame filled fragment fragments bytes rest _ _ hrest ih =>
    cases hrest with
    | done _ => simpa using hgo
    | frame hmore _ _ =>
      have hlater := ih hmore
      rw [List.dropLast_cons_cons, List.map_cons, List.sum_cons, ← Nat.add_assoc]
      exact hlater

/-- The table of a skip read of `length` bytes describes the fragments that were received, in the
order they were received, and the packed buffer. -/
structure TableExact (length : ℕ) (fragments : List Fragment) (result : ReadResult)
    (buffer : Bytes) : Prop where
  payloads : result.fragments.map (fun entry ↦
      (entry.dest, entry.uncompressedLength, entry.compressionType, entry.length)) =
    fragments.map fun fragment ↦
      (fragment.dest, fragment.chunkLen, fragment.ctype, fragment.extra.length)
  offset_eq : ∀ i (hi : i < result.fragments.length), result.fragments[i].offset =
    ((result.fragments.take i).map ReadFragment.length).sum
  slices : result.fragments.map (fun entry ↦ buffer.slice entry.offset entry.length) =
    fragments.map Fragment.extra
  uncompressed_eq : result.uncompressedLength = length
  compressed_eq : result.compressedLength = (result.fragments.map ReadFragment.length).sum
  compressed_le : result.compressedLength ≤ result.uncompressedLength
  distinct : result.fragments.Pairwise fun first second ↦ first.dest ≠ second.dest
  inside : ∀ entry ∈ result.fragments, entry.dest + entry.uncompressedLength ≤ length
  raw : ∀ entry ∈ result.fragments, entry.compressionType = Compression.none.code →
    entry.length = entry.uncompressedLength
  before_last : (result.fragments.dropLast.map ReadFragment.uncompressedLength).sum < length
  reaches : length ≤ (result.fragments.map ReadFragment.uncompressedLength).sum

/-- Every entry of a table stands for a fragment. -/
theorem exists_fragment_of_mem {offset : ℕ} {entry : ReadFragment}
    (hmem : entry ∈ fragmentTable offset fragments) :
    ∃ fragment ∈ fragments, entry.dest = fragment.dest ∧
      entry.uncompressedLength = fragment.chunkLen ∧ entry.compressionType = fragment.ctype ∧
      entry.length = fragment.extra.length := by
  have hpayload := @List.mem_map_of_mem _ _ _ _ (fun entry : ReadFragment ↦
    (entry.dest, entry.uncompressedLength, entry.compressionType, entry.length)) hmem
  rw [fragmentTable_payloads] at hpayload
  obtain ⟨fragment, hfragment, hsame⟩ := List.mem_map.mp hpayload
  simp only [Prod.mk.injEq] at hsame
  obtain ⟨hdest, hlength, hctype, hextra⟩ := hsame
  exact ⟨fragment, hfragment, hdest.symm, hlength.symm, hctype.symm, hextra.symm⟩

theorem fragmentTable_uncompressedLengths (offset : ℕ) (fragments : List Fragment) :
    (fragmentTable offset fragments).map ReadFragment.uncompressedLength =
      fragments.map Fragment.chunkLen := by
  have hpayloads := congrArg (List.map fun payload ↦ payload.2.1)
    (fragmentTable_payloads offset fragments)
  rw [List.map_map, List.map_map] at hpayloads
  exact hpayloads

theorem fragmentTable_dests (offset : ℕ) (fragments : List Fragment) :
    (fragmentTable offset fragments).map ReadFragment.dest = fragments.map Fragment.dest := by
  have hpayloads := congrArg (List.map Prod.fst) (fragmentTable_payloads offset fragments)
  rw [List.map_map, List.map_map] at hpayloads
  exact hpayloads

/-- The table of a run of a skip read is exact. -/
theorem ReadRun.tableExact (hlength : 0 < length) (hroom : length ≤ buffer.length)
    (hrun : ReadRun library length opId true readStart buffer fragments taken last final) :
    TableExact length fragments (readResult length true last) final := by
  obtain ⟨hacceptable, hdistinct⟩ := hrun.acceptable
  have hwire : (readResult length true last).compressedLength = extraBytes fragments := by
    rw [readResult, hrun.last_eq, ReadLocals.afterAll_wireBytes]
    exact Nat.zero_add _
  have htotal := (hrun.final_skip hroom (Nat.zero_le _)).1
  have hview := hrun.skip_view hroom
  have hlast := hrun.reply.sum_dropLast_lt hlength
  have hreaches := hrun.length_le
  have htable : (readResult length true last).fragments = fragmentTable 0 fragments :=
    hrun.skip_table
  constructor
  case payloads =>
    rw [htable, fragmentTable_payloads]
  case offset_eq =>
    simp only [htable]
    intro i hi
    rw [fragmentTable_offset, Nat.zero_add]
  case slices =>
    rw [htable, hview]
    exact fragmentTable_slices [] _ fragments
  case uncompressed_eq => rfl
  case compressed_eq =>
    rw [htable, fragmentTable_lengths, hwire]
  case compressed_le =>
    rw [hwire]
    exact (Nat.le_add_left _ _).trans htotal
  case distinct =>
    have hdests : (fragments.map Fragment.dest).Pairwise fun first second ↦ first ≠ second :=
      List.pairwise_map.mpr hdistinct
    rw [← fragmentTable_dests 0] at hdests
    rw [htable]
    exact List.pairwise_map.mp hdests
  case inside =>
    intro entry hmem
    rw [htable] at hmem
    obtain ⟨fragment, hfragment, hdest, hchunk, -, -⟩ := exists_fragment_of_mem hmem
    rw [hdest, hchunk]
    exact (hacceptable fragment hfragment).bounded
  case raw =>
    intro entry hmem hnone
    rw [htable] at hmem
    obtain ⟨fragment, hfragment, -, hchunk, hctype, hextra⟩ := exists_fragment_of_mem hmem
    obtain ⟨bytes, hframe⟩ := hrun.reply.frames fragment hfragment
    obtain ⟨hfastlz, -⟩ | ⟨-, hraw⟩ := hframe.ctype_cases
    · rw [hctype, hfastlz] at hnone
      exact absurd hnone (by decide)
    · rw [hextra, hchunk, hraw]
  case before_last =>
    rw [htable, List.map_dropLast, fragmentTable_uncompressedLengths, ← List.map_dropLast]
    rwa [show readStart.filled = 0 from rfl, Nat.zero_add] at hlast
  case reaches =>
    rw [htable, fragmentTable_uncompressedLengths]
    rwa [show readStart.filled = 0 from rfl, Nat.zero_add] at hreaches

/-- The table of every skip read of a flat buffer that returns is exact: it describes the fragments of the
reply at the head of the stream, and where their extras lie in the buffer. -/
theorem readinto_table_exact {startSector numSectors : ℤ} {env after : ReadEnv}
    {result : ReadResult} (hflat : env.2.Flat)
    (h : readinto library startSector numSectors true env = (.ok result, after)) :
    ∃ fragments taken, Reply env.1.opId (requestLength env.1 numSectors) 0 fragments taken ∧
      streamBytes env.1.sock.inbox = taken ++ streamBytes after.1.sock.inbox ∧
      TableExact (requestLength env.1 numSectors) fragments result after.2.bytes := by
  obtain ⟨fragments, taken, last, hreturned, rfl⟩ := readinto_ok hflat h
  exact ⟨fragments, taken, hreturned.run.reply, hreturned.exchange.stream,
    hreturned.run.tableExact (requestLength_pos hreturned.ready.positive) hreturned.ready.room⟩

theorem readinto_table_exact_swapped :
    ∃ fragments taken, Reply 0 4 0 fragments taken ∧
      streamBytes (fresh swappedReply).sock.inbox = taken ++ streamBytes
        (readinto FastLz.storing 0 1 true (fresh swappedReply, Buffer.zeros 4)).2.1.sock.inbox ∧
      TableExact 4 fragments ⟨4, 4, [⟨2, 2, 0, 0, 2⟩, ⟨0, 2, 0, 2, 2⟩]⟩
        (readinto FastLz.storing 0 1 true (fresh swappedReply, Buffer.zeros 4)).2.2.bytes := by
  have hvalue : (readinto FastLz.storing 0 1 true (fresh swappedReply, Buffer.zeros 4)).1 =
      .ok ⟨4, 4, [⟨2, 2, 0, 0, 2⟩, ⟨0, 2, 0, 2, 2⟩]⟩ := by decide +kernel
  exact readinto_table_exact (Buffer.zeros_flat 4) (Proc.eq_of_fst hvalue)

/-! ### Extras longer than the request -/

/-- The error of a skip read whose packed extras would end at `stop`. -/
def packedExtrasError (stop length : ℕ) : PyError :=
  nfcProtocolError s!"packed extras {stop} bytes exceed request {length}"

/-- A round of a skip read raises on an extra that does not fit the request. -/
theorem readFragment_of_overflow {fragment : Fragment} {bytes rest : Bytes} {env : ReadEnv}
    (hframe : ReplyFrame opId fragment bytes)
    (hacceptable : fragment.Acceptable length locals.seen)
    (hover : length < locals.packedOffset + fragment.extra.length)
    (hholds : env.1.sock.Holds (bytes ++ rest)) :
    ∃ after, readFragment library .flat length opId true locals env =
      (.error (packedExtrasError (locals.packedOffset + fragment.extra.length) length), after) := by
  obtain ⟨front, middle, rfl, -, -, -, hround⟩ := readFragment_eq_extra hframe hacceptable hholds
  refine ⟨middle, ?_⟩
  rw [hround]
  refine Proc.bind_of_error ?_
  rw [receiveExtra, if_pos rfl, Proc.raiseIf_bind_of_pos hover, packedExtrasError]

/-- Where a plain read accepts fragments whose extras do not fit the request, a skip read raises. -/
theorem ReadRun.skip_overflows
    (hrun : ReadRun library length opId false locals buffer fragments taken last final)
    {skipLocals : ReadLocals} (hfilled : skipLocals.filled = locals.filled)
    (hseen : skipLocals.seen = locals.seen) (hpacked : skipLocals.packedOffset ≤ length)
    (hover : length < skipLocals.packedOffset + extraBytes fragments) {env : ReadEnv} {rest : Bytes}
    (hroom : length ≤ env.2.bytes.length) (hholds : env.1.sock.Holds (taken ++ rest)) :
    ∃ stop after, length < stop ∧ readLoop library .flat length opId true skipLocals env =
      (.error (packedExtrasError stop length), after) := by
  induction hrun generalizing skipLocals env with
  | done _ => exact absurd hover (not_lt_of_ge hpacked)
  | @accept locals last fragment fragments bytes chunk remaining buffer final offset hgo hframe
      hacceptable hplacement hrest ih =>
    rw [List.append_assoc] at hholds
    rw [extraBytes_cons] at hover
    rw [← hfilled] at hgo
    rw [← hseen] at hacceptable
    rw [readLoop, Proc.whileLoop_unfold (readFragment_decreasing _ _ _ _ _),
      if_pos (by simpa using hgo)]
    by_cases hfits : skipLocals.packedOffset + fragment.extra.length ≤ length
    · have hplaced : fragment.placement library length true skipLocals.packedOffset =
          some (skipLocals.packedOffset, fragment.extra) := by
        rw [Fragment.placement, if_pos rfl, if_pos hfits]
      obtain ⟨middle, hround, hstep⟩ :=
        readFragment_of_frame hroom hframe hacceptable hplaced hholds
      have hbuffer : (env.2.bytes.splice skipLocals.packedOffset fragment.extra).length =
          env.2.bytes.length := List.length_splice (hfits.trans hroom)
      have hmore : length <
          (skipLocals.after true fragment).packedOffset + extraBytes fragments := by
        change length < skipLocals.packedOffset + fragment.extra.length + extraBytes fragments
        omega
      have hcounted : (skipLocals.after true fragment).filled =
          (locals.after false fragment).filled :=
        congrArg (fun filled ↦ filled + fragment.chunkLen) hfilled
      obtain ⟨stop, after, hstop, hloop⟩ := ih hcounted
        (congrArg (fun seen ↦ fragment.dest :: seen) hseen) hfits hmore
        (by rw [hstep.buf, hbuffer]; exact hroom) (hstep.took.holds hholds)
      refine ⟨stop, after, hstop, ?_⟩
      rw [Proc.bind_of_ok hround]
      exact hloop
    · obtain ⟨after, hround⟩ := @readFragment_of_overflow library _ _ _ _ _ _ _ hframe
        hacceptable (not_le.mp hfits) hholds
      exact ⟨_, after, not_le.mp hfits, Proc.bind_of_error hround⟩

/-- Extras no longer than their chunks fit the request when the chunks tile it. -/
theorem extraBytes_le_of_tiles
    (htiles : Tiles (fragments.map Fragment.span) (Finset.range length))
    (hextras : ∀ fragment ∈ fragments, fragment.extra.length ≤ fragment.chunkLen) :
    extraBytes fragments ≤ length := by
  have hsum := htiles.sum_card
  rw [map_card_span, Finset.card_range] at hsum
  rw [← hsum]
  exact List.sum_le_sum hextras

/-- A skip read of a stream that a plain read completes, both of flat buffers, returns if and only if the
extras of the reply are together no longer than the request, which they are when no extra is longer than
its chunk and the chunks tile the request. When they are longer it raises a protocol error that says so. -/
theorem readinto_skip_completes_iff {startSector numSectors : ℤ} {disk : NfcDisk}
    {buf skipBuf : Buffer} {plain : ReadResult} {after : ReadEnv} {inbox : List Arrival}
    (hflat : buf.Flat) (hskipFlat : skipBuf.Flat)
    (hplain : readinto library startSector numSectors false (disk, buf) = (.ok plain, after))
    (hstream : streamBytes inbox = streamBytes disk.sock.inbox) (hquiet : Quiet inbox)
    (hwritable : skipBuf.readonly = false)
    (hsize : skipBuf.bytes.length = buf.bytes.length) :
    ∃ fragments taken rest, streamBytes disk.sock.inbox = taken ++ rest ∧
      Reply disk.opId (requestLength disk numSectors) 0 fragments taken ∧
      ((∃ skipped skipAfter, readinto library startSector numSectors true
          (disk.withInbox inbox, skipBuf) = (.ok skipped, skipAfter)) ↔
        extraBytes fragments ≤ requestLength disk numSectors) ∧
      (requestLength disk numSectors < extraBytes fragments → ∃ stop skipAfter,
        requestLength disk numSectors < stop ∧
        readinto library startSector numSectors true (disk.withInbox inbox, skipBuf) =
          (.error (packedExtrasError stop (requestLength disk numSectors)), skipAfter)) ∧
      (Tiles (fragments.map Fragment.span) (Finset.range (requestLength disk numSectors)) →
        (∀ fragment ∈ fragments, fragment.extra.length ≤ fragment.chunkLen) →
        extraBytes fragments ≤ requestLength disk numSectors) := by
  obtain ⟨fragments, taken, last, hreturned, -⟩ := readinto_ok hflat hplain
  have hrun := hreturned.run
  have hsplit := hreturned.exchange.stream
  have hready : ReadReady numSectors (disk.withInbox inbox, skipBuf) :=
    ⟨hreturned.ready.positive, hwritable, hskipFlat, by rw [hsize]; exact hreturned.ready.room⟩
  have hfits : ReadFits (disk.withInbox inbox) startSector (requestLength disk numSectors) :=
    hreturned.fits.withInbox inbox
  have hsendable : (disk.withInbox inbox).sock.Sendable := hreturned.sendable
  have hholds : (disk.withInbox inbox).sock.Holds (taken ++ streamBytes after.1.sock.inbox) :=
    ⟨hreturned.sendable.1, hquiet, hstream.trans hsplit⟩
  have hraises : requestLength disk numSectors < extraBytes fragments → ∃ stop skipAfter,
      requestLength disk numSectors < stop ∧
      readinto library startSector numSectors true (disk.withInbox inbox, skipBuf) =
        (.error (packedExtrasError stop (requestLength disk numSectors)), skipAfter) := by
    intro hover
    obtain ⟨sock, hsend⟩ := Sock.sendall_eq_ok.mpr hsendable
    obtain ⟨stop, skipAfter, hstop, hloop⟩ := hrun.skip_overflows rfl rfl (Nat.zero_le _)
      (show requestLength disk numSectors < readStart.packedOffset + extraBytes fragments by
        rw [show readStart.packedOffset = 0 from rfl, Nat.zero_add]
        exact hover)
      (show requestLength disk numSectors ≤
        (envDisk.set ((disk.withInbox inbox).afterCall sock)
          (disk.withInbox inbox, skipBuf)).2.bytes.length from hready.room)
      ((Sock.sendall_ok hsend).holds hholds)
    refine ⟨stop, skipAfter, hstop, ?_⟩
    rw [readinto_eq_loop library true hready.accepted hfits hsend]
    exact Proc.bind_of_error hloop
  refine ⟨fragments, taken, _, hsplit, hrun.reply, ⟨?_, ?_⟩, hraises, extraBytes_le_of_tiles⟩
  · rintro ⟨skipped, skipAfter, hskip⟩
    by_contra hover
    obtain ⟨stop, skipAfter', -, herror⟩ := hraises (not_le.mp hover)
    rw [hskip] at herror
    cases herror
  · intro htotal
    obtain ⟨last', final', hskipRun⟩ := ReadRun.of_reply skipBuf.bytes hrun.reply
      hrun.acceptable.1 hrun.acceptable.2
      (show Placeable library (requestLength disk numSectors) true readStart.packedOffset fragments
        from (Nat.zero_add (extraBytes fragments)).trans_le htotal)
    obtain ⟨skipAfter, hskip, -, -⟩ := readinto_of_run hready hfits hsendable hskipRun hholds
    exact ⟨_, skipAfter, hskip⟩

theorem readinto_skip_completes_swapped :
    ∃ skipped skipAfter,
      readinto FastLz.storing 0 1 true (fresh swappedReply, Buffer.zeros 4) =
        (.ok skipped, skipAfter) := by
  have hvalue : (readinto FastLz.storing 0 1 false (fresh swappedReply, Buffer.zeros 4)).1 =
      .ok ⟨4, 4, []⟩ := by decide +kernel
  obtain ⟨fragments, taken, rest, hsplit, hreply, hiff, -, -⟩ :=
    readinto_skip_completes_iff (Buffer.zeros_flat 4) (Buffer.zeros_flat 4) (Proc.eq_of_fst hvalue)
      (show streamBytes (Arrival.segment swappedReply) = _ from rfl) (Arrival.quiet_segment _)
      (show (Buffer.zeros 4).readonly = false from rfl) rfl
  refine hiff.mpr ?_
  have hsecond := IoFrame.replyFrame_raw 4 2 [3, 4] (by decide) (by decide)
  have hfirst := IoFrame.replyFrame_raw 4 0 [1, 2] (by decide) (by decide)
  have hframes : Reply 0 4 0 [⟨2, 2, 0, [3, 4]⟩, ⟨0, 2, 0, [1, 2]⟩] _ :=
    .frame (by decide) hsecond (.frame (by decide) hfirst (.done (by decide)))
  obtain ⟨rfl, -, -⟩ := hreply.unique hframes
    (hsplit.symm.trans (show streamBytes (fresh swappedReply).sock.inbox =
      (IoFrame.raw 4 2 [3, 4]).bytes ++ ((IoFrame.raw 4 0 [1, 2]).bytes ++ []) ++ [] by
        decide +kernel))
  decide

/-- A decompressor that knows one literal run: a control byte, which is the number of bytes less one,
and the bytes. FastLZ takes such an extra to the bytes, which are one fewer. -/
def FastLz.literalRun : FastLzLibrary where
  byteOrder := .little
  compress := fun data _ ↦
    .ok (packNative .little data.length ++ UInt8.ofNat (data.length - 1) :: data)
  decompress := fun wrapped ↦
    match wrapped.drop prefixSize with
    | [] => .error "empty"
    | control :: data =>
      if data.length = control.toNat + 1 then .ok data else .error "corrupt"

/-- A frame that is the whole request of four bytes and whose extra has five. -/
def expandedFrame : IoFrame :=
  ⟨0, 0, nfcAioIoRead, 0, 4, 0, 4, Compression.fastlz.code, [3, 1, 2, 3, 4]⟩

/-- A FASTLZ session that meets the frame. -/
def expandedSession : NfcDisk :=
  { fresh expandedFrame.bytes with compression := .fastlz }

/-- The frame tiles the request and a plain read completes it, and a skip read into a buffer of the
same size raises. -/
theorem readinto_skip_rejects_expanded :
    Reply 0 4 0 [expandedFrame.fragment] (streamBytes expandedSession.sock.inbox) ∧
      Tiles ([expandedFrame.fragment].map Fragment.span) (Finset.range 4) ∧
      (readinto FastLz.literalRun 0 1 false (expandedSession, Buffer.zeros 4)).1 =
        .ok ⟨4, 5, []⟩ ∧
      (readinto FastLz.literalRun 0 1 false (expandedSession, Buffer.zeros 4)).2.2.bytes =
        [1, 2, 3, 4] ∧
      (readinto FastLz.literalRun 0 1 true (expandedSession, Buffer.zeros 4)).1 =
        .error (packedExtrasError 5 4) := by
  refine ⟨?_, ?_, by decide +kernel, by decide +kernel, by decide +kernel⟩
  · have hframe : expandedFrame.WellFormed :=
      ⟨by decide, by decide, by decide, Or.inl ⟨rfl, by decide⟩⟩
    have hstream : streamBytes expandedSession.sock.inbox = expandedFrame.bytes ++ [] := by
      decide +kernel
    rw [hstream]
    exact .frame (by decide) (IoFrame.replyFrame hframe) (.done (by decide))
  · refine tiles_of_card_le (List.pairwise_singleton _ _) ?_ (by decide)
    intro part hpart
    rw [List.map_singleton, List.mem_singleton] at hpart
    subst hpart
    decide

end OpenVixDiskLib
