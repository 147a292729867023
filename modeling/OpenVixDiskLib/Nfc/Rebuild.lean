import OpenVixDiskLib.Nfc.Fragments
import OpenVixDiskLib.Nfc.IoFrame

/-!
# Rebuilding a skip read

A skip read leaves the extras packed in the buffer and describes them in its table. `rebuildSkip`
is `_rebuild_skip` of the integration tests: it decodes every extra out of the packed buffer and
stores it at its place in a zeroed buffer.

The two modes of `readinto` accept the same fragments of one stream, because what they accept is the
stream's only reply (`ReadRun.unique`). So they agree on lengths and on what they consume, and the
rebuilt buffer is what the plain read returns, also where fragments overlap
(`read_agrees_with_skip`).
-/

set_option autoImplicit false
set_option relaxedAutoImplicit false

namespace OpenVixDiskLib

open NfcDisk Arrival

def assertionError (message : String) : PyError :=
  ⟨.assertionError, message⟩

/-- The chunk of a table entry, decoded from its extra. -/
def rebuildChunk (library : FastLzLibrary) (extra : Bytes) (frag : ReadFragment) :
    Except PyError Bytes :=
  if frag.compressionType = Compression.fastlz.code then
    FastLz.decompress library extra frag.uncompressedLength
  else if frag.compressionType = Compression.none.code then .ok extra
  else .error (assertionError s!"unexpected compression_type {frag.compressionType}")

/-- One round of the loop of `_rebuild_skip`, on the output buffer and the packed length. -/
def rebuildEntry (library : FastLzLibrary) (view : Bytes) (state : Bytes × ℕ)
    (frag : ReadFragment) : Except PyError (Bytes × ℕ) :=
  match rebuildChunk library (view.slice frag.offset frag.length) frag with
  | .error error => .error error
  | .ok chunk =>
    if chunk.length = frag.uncompressedLength then
      .ok (state.1.splice frag.dest chunk, state.2 + frag.length)
    else .error (assertionError "chunk length")

/-- `_rebuild_skip`: the uncompressed bytes of a skip read, from its packed buffer. -/
def rebuildSkip (library : FastLzLibrary) (view : Bytes) (result : ReadResult) :
    Except PyError Bytes :=
  match result.fragments.foldlM (rebuildEntry library view)
    (List.replicate result.uncompressedLength 0, 0) with
  | .error error => .error error
  | .ok (out, packed) =>
    if packed = result.compressedLength then .ok out else .error (assertionError "packed length")

/-- A fragment that decodes to a chunk of its length and has a supported type. -/
structure Fragment.Decodable (fragment : Fragment) (library : FastLzLibrary) : Prop where
  ctype : fragment.ctype = Compression.fastlz.code ∨ fragment.ctype = Compression.none.code
  decodes : ∃ chunk, fragment.decode library = some chunk ∧ chunk.length = fragment.chunkLen

variable {library : FastLzLibrary} {length opId : ℕ} {skipDecompression : Bool}
  {locals last : ReadLocals} {buffer final taken : Bytes} {fragments : List Fragment}

/-- A fragment decodes when the decompressor takes a FastLZ extra to a chunk of its length. -/
theorem Fragment.isSome_decode {fragment : Fragment}
    (hfastlz : fragment.ctype = Compression.fastlz.code → ∃ chunk,
      FastLz.decompress library fragment.extra fragment.chunkLen = .ok chunk ∧
        chunk.length = fragment.chunkLen) :
    (fragment.decode library).isSome := by
  unfold Fragment.decode
  by_cases hctype : fragment.ctype = Compression.fastlz.code
  · obtain ⟨chunk, hchunk, hlength⟩ := hfastlz hctype
    simp only [if_pos hctype, hchunk, if_pos hlength, Option.isSome_some]
  · rw [if_neg hctype, Option.isSome_some]

/-- What a plain read decodes, `rebuildChunk` decodes. -/
theorem rebuildChunk_of_decode {fragment : Fragment} {chunk : Bytes} (offset : ℕ)
    (hctype : fragment.ctype = Compression.fastlz.code ∨ fragment.ctype = Compression.none.code)
    (hdecode : fragment.decode library = some chunk) :
    rebuildChunk library fragment.extra
      ⟨fragment.dest, fragment.chunkLen, fragment.ctype, offset, fragment.extra.length⟩ =
        .ok chunk := by
  unfold rebuildChunk
  unfold Fragment.decode at hdecode
  by_cases hfastlz : fragment.ctype = Compression.fastlz.code
  · rw [if_pos hfastlz] at hdecode
    rw [if_pos hfastlz]
    rcases hrun : FastLz.decompress library fragment.extra fragment.chunkLen with _ | out
    · rw [hrun] at hdecode
      simp at hdecode
    · rw [hrun] at hdecode
      simp only at hdecode
      split_ifs at hdecode
      rw [← Option.some.inj hdecode]
  · rw [if_neg hfastlz, Option.some.injEq] at hdecode
    rw [if_neg hfastlz, if_pos (hctype.resolve_left hfastlz), hdecode]

/-- The loop of `_rebuild_skip` stores every chunk of a table whose extras are packed in the
view. -/
theorem rebuildEntry_fragmentTable (front back out : Bytes) (packed : ℕ)
    (hdecodable : ∀ fragment ∈ fragments, fragment.Decodable library) :
    (fragmentTable front.length fragments).foldlM
        (rebuildEntry library (front ++ fragments.flatMap Fragment.extra ++ back)) (out, packed) =
      .ok (storeAll library fragments out, packed + extraBytes fragments) := by
  induction fragments generalizing front out packed with
  | nil => rfl
  | cons fragment fragments ih =>
    obtain ⟨⟨hctype, chunk, hdecode, hlength⟩, htail⟩ := List.forall_mem_cons.mp hdecodable
    have hextra : (front ++ (fragment :: fragments).flatMap Fragment.extra ++ back).slice
        front.length fragment.extra.length = fragment.extra := by
      rw [List.flatMap_cons, List.append_assoc, List.append_assoc, List.slice, List.drop_left,
        List.take_left]
    have hround : rebuildEntry library (front ++ (fragment :: fragments).flatMap Fragment.extra ++
        back) (out, packed) ⟨fragment.dest, fragment.chunkLen, fragment.ctype, front.length,
          fragment.extra.length⟩ =
        .ok (out.splice fragment.dest chunk, packed + fragment.extra.length) := by
      simp only [rebuildEntry, hextra, rebuildChunk_of_decode front.length hctype hdecode,
        if_pos hlength]
    have hnext := ih (front ++ fragment.extra) (out.splice fragment.dest chunk)
      (packed + fragment.extra.length) htail
    rw [List.length_append] at hnext
    rw [fragmentTable, List.foldlM_cons, hround, storeAll_cons, hdecode, Option.getD_some,
      extraBytes_cons, ← Nat.add_assoc, ← hnext, List.flatMap_cons]
    simp only [List.append_assoc]
    rfl

/-- Every fragment has an entry in the table, and the entry's extra is the fragment's. -/
theorem exists_mem_fragmentTable (front back : Bytes) {fragment : Fragment}
    (hmem : fragment ∈ fragments) :
    ∃ entry ∈ fragmentTable front.length fragments,
      entry.uncompressedLength = fragment.chunkLen ∧ entry.compressionType = fragment.ctype ∧
      (front ++ fragments.flatMap Fragment.extra ++ back).slice entry.offset entry.length =
        fragment.extra := by
  induction fragments generalizing front with
  | nil => simp at hmem
  | cons head fragments ih =>
    rcases List.mem_cons.mp hmem with rfl | hlater
    · refine ⟨_, List.mem_cons_self, rfl, rfl, ?_⟩
      rw [List.flatMap_cons, List.append_assoc, List.append_assoc, List.slice, List.drop_left,
        List.take_left]
    · obtain ⟨entry, hentry, hlength, hctype, hextra⟩ := ih (front ++ head.extra) hlater
      rw [List.length_append] at hentry
      refine ⟨entry, List.mem_cons_of_mem _ hentry, hlength, hctype, ?_⟩
      rw [List.flatMap_cons]
      simp only [List.append_assoc] at hextra ⊢
      exact hextra

/-- The buffer of a skip read is its extras, then what was behind them. -/
theorem ReadRun.skip_view (hroom : length ≤ buffer.length)
    (hrun : ReadRun library length opId true readStart buffer fragments taken last final) :
    final = [] ++ fragments.flatMap Fragment.extra ++
      buffer.drop (fragments.flatMap Fragment.extra).length := by
  rw [(hrun.final_skip hroom (Nat.zero_le _)).2, List.splice]
  simp [readStart]

/-- The table of a skip read. -/
theorem ReadRun.skip_table
    (hrun : ReadRun library length opId true readStart buffer fragments taken last final) :
    (readResult length true last).fragments = fragmentTable ([] : Bytes).length fragments := by
  rw [readResult, if_pos rfl, hrun.last_eq, ReadLocals.afterAll_fragments]
  rfl

/-- The skip read of decodable fragments rebuilds to their chunks stored in order. -/
theorem ReadRun.rebuild (hroom : length ≤ buffer.length)
    (hrun : ReadRun library length opId true readStart buffer fragments taken last final)
    (hdecodable : ∀ fragment ∈ fragments, fragment.Decodable library) :
    rebuildSkip library final (readResult length true last) =
      .ok (storeAll library fragments (List.replicate length 0)) := by
  have hwire : (readResult length true last).compressedLength = 0 + extraBytes fragments := by
    rw [readResult, hrun.last_eq, ReadLocals.afterAll_wireBytes]
    rfl
  have hfold := rebuildEntry_fragmentTable []
    (buffer.drop (fragments.flatMap Fragment.extra).length) (List.replicate length 0) 0 hdecodable
  rw [← hrun.skip_view hroom] at hfold
  unfold rebuildSkip
  rw [hrun.skip_table, hwire]
  simp only [readResult, hfold, if_true]

/-- The fragments a plain read accepts are decodable. -/
theorem ReadRun.decodable
    (hrun : ReadRun library length opId false locals buffer fragments taken last final) :
    ∀ fragment ∈ fragments, fragment.Decodable library := by
  intro fragment hmem
  obtain ⟨bytes, hframe⟩ := hrun.reply.frames fragment hmem
  obtain ⟨chunk, hchunk⟩ := Option.isSome_iff_exists.mp (hrun.final_plain.1 fragment hmem)
  refine ⟨?_, chunk, hchunk, Fragment.decode_length hframe hchunk⟩
  exact hframe.ctype_cases.imp And.left And.left

/-- A read leaves a `bytearray` of the bytes it read. -/
theorem ReadReturned.eq_bytearray {startSector numSectors : ℤ} {env after : ReadEnv}
    (hreturned : ReadReturned library startSector numSectors skipDecompression env after fragments
      taken last) (hreadonly : env.2.readonly = false) (hlayout : env.2.layout = .bytes .flat) :
    after.2 = Buffer.bytearray after.2.bytes := by
  rw [Buffer.bytearray, ← hreturned.readonly.trans hreadonly, ← hreturned.layout.trans hlayout]

/-- `read` is a plain `readinto` into a zeroed buffer. -/
theorem read_eq_ok {startSector numSectors : ℤ} {disk after : NfcDisk} {bytes : Bytes} :
    read library startSector numSectors disk = (.ok bytes, after) ↔
      ∃ result, readinto library startSector numSectors false
        (disk, Buffer.zeros (requestLength disk numSectors)) =
          (.ok result, after, Buffer.bytearray bytes) := by
  unfold NfcDisk.read
  rw [Proc.raiseIf_bind_eq_ok, Proc.get_bind_apply, Proc.bind_eq_ok]
  constructor
  · rintro ⟨-, ⟨result, buffer⟩, middle, hrun, hpure⟩
    rw [Proc.pure_apply, Prod.mk.injEq, Except.ok.injEq] at hpure
    obtain ⟨rfl, rfl⟩ := hpure
    rw [Proc.withLocal_eq_ok] at hrun
    obtain ⟨fragments, taken, last, hreturned, -⟩ := readinto_ok (Buffer.zeros_flat _) hrun
    have hbuffer : buffer = Buffer.bytearray buffer.bytes := hreturned.eq_bytearray rfl rfl
    exact ⟨result, by rw [hrun, ← hbuffer]⟩
  · rintro ⟨result, hrun⟩
    obtain ⟨fragments, taken, last, hreturned, -⟩ := readinto_ok (Buffer.zeros_flat _) hrun
    have hpositive := hreturned.ready.positive
    exact ⟨by omega, _, after, Proc.withLocal_eq_ok.mpr hrun, rfl⟩

/-- The lengths a run reports do not depend on the mode. -/
theorem readResult_lengths {startSector numSectors : ℤ} {env after env' after' : ReadEnv}
    {fragments : List Fragment} {taken taken' : Bytes} {last last' : ReadLocals}
    {first second : Bool}
    (hfirst : ReadReturned library startSector numSectors first env after fragments taken last)
    (hsecond :
      ReadReturned library startSector numSectors second env' after' fragments taken' last') :
    (readResult length first last).compressedLength =
      (readResult length second last').compressedLength := by
  rw [readResult, readResult, hfirst.run.last_eq, hsecond.run.last_eq,
    ReadLocals.afterAll_wireBytes, ReadLocals.afterAll_wireBytes]

/-- The two modes of a read of flat buffers agree on every stream. When both return, the skip read
rebuilds to what the plain read returned, both report the same lengths, and both leave the same bytes
unread. When the skip read returns and every FastLZ extra of its table decompresses to its length, the
plain read of the stream returns too. -/
theorem read_agrees_with_skip {startSector numSectors : ℤ} {disk : NfcDisk} {buffer : Buffer}
    {skipped : ReadResult} {skipAfter : ReadEnv} {inbox : List Arrival} (hflat : buffer.Flat)
    (hskip : readinto library startSector numSectors true (disk, buffer) =
      (.ok skipped, skipAfter))
    (hstream : streamBytes inbox = streamBytes disk.sock.inbox) :
    (∀ bytes after, read library startSector numSectors (disk.withInbox inbox) =
        (.ok bytes, after) →
      rebuildSkip library skipAfter.2.bytes skipped = .ok bytes ∧
      (∃ plain, readinto library startSector numSectors false
          (disk.withInbox inbox, Buffer.zeros (requestLength disk numSectors)) =
            (.ok plain, after, Buffer.bytearray bytes) ∧
        plain.uncompressedLength = skipped.uncompressedLength ∧
        plain.compressedLength = skipped.compressedLength) ∧
      streamBytes after.sock.inbox = streamBytes skipAfter.1.sock.inbox) ∧
    (Quiet inbox →
      (∀ entry ∈ skipped.fragments, entry.compressionType = Compression.fastlz.code →
        ∃ chunk, FastLz.decompress library
            (skipAfter.2.bytes.slice entry.offset entry.length) entry.uncompressedLength =
              .ok chunk ∧
          chunk.length = entry.uncompressedLength) →
      ∃ bytes after, read library startSector numSectors (disk.withInbox inbox) =
        (.ok bytes, after)) := by
  obtain ⟨fragments, taken, last, hreturned, rfl⟩ := readinto_ok hflat hskip
  refine ⟨?_, ?_⟩
  · intro bytes after hread
    obtain ⟨plain, hplain⟩ := read_eq_ok.mp hread
    obtain ⟨fragments', taken', last', hreturned', rfl⟩ := readinto_ok (Buffer.zeros_flat _) hplain
    have hsame : taken' ++ streamBytes after.sock.inbox =
        taken ++ streamBytes skipAfter.1.sock.inbox :=
      hreturned'.exchange.stream.symm.trans (hstream.trans hreturned.exchange.stream)
    obtain ⟨rfl, rfl, hrest⟩ := hreturned'.run.unique hreturned.run rfl hsame
    refine ⟨?_, ⟨_, hplain, rfl, readResult_lengths hreturned' hreturned⟩, hrest⟩
    rw [hreturned.run.rebuild hreturned.ready.room hreturned'.run.decodable]
    exact congrArg Except.ok hreturned'.run.final_plain.2.symm
  · intro hquiet hextras
    have hroom := hreturned.ready.room
    have hdecodes : ∀ fragment ∈ fragments, (fragment.decode library).isSome := by
      intro fragment hmem
      refine Fragment.isSome_decode fun hctype ↦ ?_
      obtain ⟨entry, hentry, hlength, htype, hextra⟩ := exists_mem_fragmentTable []
        (buffer.bytes.drop (fragments.flatMap Fragment.extra).length) hmem
      rw [← hreturned.run.skip_view hroom] at hextra
      rw [← hreturned.run.skip_table] at hentry
      have hchunk := hextras entry hentry (htype.trans hctype)
      rwa [hextra, hlength] at hchunk
    have hzeros : requestLength disk numSectors ≤
        (Buffer.zeros (requestLength disk numSectors)).bytes.length := by
      exact (List.length_replicate ..).ge
    obtain ⟨last', final, hrun⟩ := ReadRun.of_reply
      (Buffer.zeros (requestLength disk numSectors)).bytes hreturned.run.reply
      hreturned.run.acceptable.1 hreturned.run.acceptable.2
      (show Placeable library _ false _ _ from hdecodes)
    obtain ⟨after, hplain, -, hreturned'⟩ := readinto_of_run
      (show ReadReady numSectors (disk.withInbox inbox, _) from
        ⟨hreturned.ready.positive, rfl, Buffer.zeros_flat _, hzeros⟩)
      (hreturned.fits.withInbox inbox) hreturned.sendable hrun
      ⟨hreturned.sendable.1, hquiet, hstream.trans hreturned.exchange.stream⟩
    have hafter : after = (after.1, Buffer.bytearray after.2.bytes) := by
      rw [← hreturned'.eq_bytearray rfl rfl]
    rw [hafter] at hplain
    exact ⟨after.2.bytes, after.1, read_eq_ok.mpr ⟨_, hplain⟩⟩

theorem read_agrees_with_skip_swapped :
    rebuildSkip FastLz.storing
      (readinto FastLz.storing 0 1 true (fresh swappedReply, Buffer.zeros 4)).2.2.bytes
      ⟨4, 4, [⟨2, 2, 0, 0, 2⟩, ⟨0, 2, 0, 2, 2⟩]⟩ = .ok [1, 2, 3, 4] := by
  have hskip : (readinto FastLz.storing 0 1 true (fresh swappedReply, Buffer.zeros 4)).1 =
      .ok ⟨4, 4, [⟨2, 2, 0, 0, 2⟩, ⟨0, 2, 0, 2, 2⟩]⟩ := by decide +kernel
  have hread : (NfcDisk.read FastLz.storing 0 1
      ((fresh swappedReply).withInbox (segment swappedReply))).1 = .ok [1, 2, 3, 4] := by
    decide +kernel
  have hagree := read_agrees_with_skip (Buffer.zeros_flat 4) (Proc.eq_of_fst hskip)
    (show streamBytes (segment swappedReply) = _ from rfl)
  exact (hagree.1 _ _ (Proc.eq_of_fst hread)).1

end OpenVixDiskLib
