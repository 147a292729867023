import OpenVixDiskLib.Nfc.Fragments
import OpenVixDiskLib.Nfc.IoFrame

/-!
# What a completed read delivered

The read loop ends when the lengths of the accepted fragments reach the request, and checks of each
fragment that its start is new and its range inside the request. Starts that differ do not keep
ranges apart: a fragment may start strictly inside another, the sum then reaches the request early,
and the end of the request is never delivered (`readinto_overlap_leaves_hole`).

`readinto_deliversOnce_iff` is the exact condition. A read that returns has delivered every byte of
the request exactly once, in either mode, if and only if no frame of the reply starts strictly
inside the range of another. One direction is counting: disjoint ranges inside the request whose
lengths reach its length are a tiling of it.
-/

set_option autoImplicit false
set_option relaxedAutoImplicit false

namespace OpenVixDiskLib

open NfcDisk Arrival

/-- The second fragment starts strictly inside the range of the first. -/
def StartsInside (first second : Fragment) : Prop :=
  first.dest < second.dest ∧ second.dest < first.dest + first.chunkLen

/-- The reply at the head of a stream has a frame that starts strictly inside another's range. -/
def ReplyOverlaps (opId length : ℕ) (stream : Bytes) : Prop :=
  ∃ fragments taken rest, stream = taken ++ rest ∧ Reply opId length 0 fragments taken ∧
    ∃ first ∈ fragments, ∃ second ∈ fragments, StartsInside first second

/-- The range of the request a table entry stands for. -/
def ReadFragment.span (entry : ReadFragment) : Finset ℕ :=
  Finset.Ico entry.dest (entry.dest + entry.uncompressedLength)

/-- What a completed read of `length` bytes should have delivered. The ranges of the accepted
fragments are disjoint and make up the request; a plain read has put into every byte of it the byte
one fragment carries for it, and the table of a skip read covers it. -/
structure DeliversOnce (library : FastLzLibrary) (length : ℕ) (skipDecompression : Bool)
    (fragments : List Fragment) (result : ReadResult) (buffer : Bytes) : Prop where
  tiles : Tiles (fragments.map Fragment.span) (Finset.range length)
  delivered : skipDecompression = false → ∀ index < length, ∃ fragment ∈ fragments,
    index ∈ fragment.span ∧ ∃ chunk, fragment.decode library = some chunk ∧
      buffer[index]? = chunk[index - fragment.dest]?
  table : skipDecompression = true →
    Tiles (result.fragments.map ReadFragment.span) (Finset.range length)

theorem map_span_fragmentTable (offset : ℕ) (fragments : List Fragment) :
    (fragmentTable offset fragments).map ReadFragment.span = fragments.map Fragment.span := by
  induction fragments generalizing offset with
  | nil => rfl
  | cons fragment fragments ih =>
    rw [fragmentTable, List.map_cons, List.map_cons, ih]
    rfl

variable {library : FastLzLibrary} {length opId : ℕ} {skipDecompression : Bool}
  {locals last : ReadLocals} {buffer final taken : Bytes} {fragments : List Fragment}

/-- Accepted fragments are disjoint exactly when none starts strictly inside another: their starts
differ and none is empty. -/
theorem ReadRun.disjoint_iff
    (hrun : ReadRun library length opId skipDecompression locals buffer fragments taken last final) :
    (fragments.map Fragment.span).Pairwise Disjoint ↔
      ∀ first ∈ fragments, ∀ second ∈ fragments, ¬ StartsInside first second := by
  obtain ⟨hacceptable, hdistinct⟩ := hrun.acceptable
  have hpos : ∀ fragment ∈ fragments, 0 < fragment.chunkLen := fun fragment hmem ↦
    Nat.pos_of_ne_zero (hacceptable fragment hmem).nonempty
  rw [List.pairwise_map]
  constructor
  · intro hdisjoint first hfirst second hsecond hinside
    have : Std.Symm fun a b : Fragment ↦ Disjoint a.span b.span := ⟨fun _ _ h ↦ h.symm⟩
    have hne : first ≠ second := by
      rintro rfl
      exact absurd hinside.1 (lt_irrefl _)
    have hapart := hdisjoint.forall hfirst hsecond hne
    rw [Fragment.span, Fragment.span, Ico_disjoint_iff (hpos first hfirst) (hpos second hsecond)]
      at hapart
    exact hapart.1 ⟨hinside.1.le, hinside.2⟩
  · intro hnone
    refine hdistinct.imp_of_mem fun {first second} hfirst hsecond hne ↦ ?_
    rw [Fragment.span, Fragment.span, Ico_disjoint_iff (hpos first hfirst) (hpos second hsecond)]
    have hforth := hnone first hfirst second hsecond
    have hback := hnone second hsecond first hfirst
    unfold StartsInside at hforth hback
    omega

/-- A run from the start tiles the request exactly when none of its fragments starts strictly
inside another. -/
theorem ReadRun.tiles_iff
    (hrun : ReadRun library length opId skipDecompression readStart buffer fragments taken last
      final) :
    Tiles (fragments.map Fragment.span) (Finset.range length) ↔
      ∀ first ∈ fragments, ∀ second ∈ fragments, ¬ StartsInside first second := by
  rw [← hrun.disjoint_iff]
  refine ⟨fun htiles ↦ htiles.disjoint, fun hdisjoint ↦ tiles_of_card_le hdisjoint ?_ ?_⟩
  · intro part hpart index hindex
    obtain ⟨fragment, hmem, rfl⟩ := List.mem_map.mp hpart
    have hbounded := (hrun.acceptable.1 fragment hmem).bounded
    rw [Fragment.mem_span] at hindex
    rw [Finset.mem_range]
    omega
  · have hreached := hrun.length_le
    rw [map_card_span, Finset.card_range]
    simpa [readStart] using hreached

/-- A run that tiles the request delivers it exactly once. -/
theorem ReadRun.deliversOnce (hroom : length ≤ buffer.length)
    (hrun : ReadRun library length opId skipDecompression readStart buffer fragments taken last
      final) (htiles : Tiles (fragments.map Fragment.span) (Finset.range length)) :
    DeliversOnce library length skipDecompression fragments
      (readResult length skipDecompression last) final := by
  refine ⟨htiles, ?_, ?_⟩
  · rintro rfl index hindex
    obtain ⟨part, hpart, hin⟩ := (htiles.covers index).mp (Finset.mem_range.mpr hindex)
    obtain ⟨fragment, hmem, rfl⟩ := List.mem_map.mp hpart
    obtain ⟨chunk, hdecode, -, -⟩ := hrun.storable hroom fragment hmem
    refine ⟨fragment, hmem, hin, chunk, hdecode, ?_⟩
    rw [hrun.final_plain.2,
      getElem?_storeAll_of_mem (hrun.storable hroom) htiles.disjoint hmem hin, hdecode,
      Option.getD_some]
  · rintro rfl
    have htable : (readResult length true last).fragments = fragmentTable 0 fragments := by
      rw [readResult, if_pos rfl, hrun.last_eq, ReadLocals.afterAll_fragments]
      rfl
    rw [htable, map_span_fragmentTable]
    exact htiles

/-- A read of a flat buffer that returns has delivered every byte of the request exactly once if and only
if no frame of the reply starts strictly inside the range of another. -/
theorem readinto_deliversOnce_iff {startSector numSectors : ℤ} {env after : ReadEnv}
    {result : ReadResult} (hflat : env.2.Flat)
    (h : readinto library startSector numSectors skipDecompression env = (.ok result, after)) :
    ∃ fragments taken last,
      ReadReturned library startSector numSectors skipDecompression env after fragments taken
        last ∧
      (DeliversOnce library (requestLength env.1 numSectors) skipDecompression fragments result
          after.2.bytes ↔
        ¬ ReplyOverlaps env.1.opId (requestLength env.1 numSectors)
          (streamBytes env.1.sock.inbox)) := by
  obtain ⟨fragments, taken, last, hreturned, rfl⟩ := readinto_ok hflat h
  have hrun := hreturned.run
  refine ⟨fragments, taken, last, hreturned, ?_⟩
  constructor
  · rintro hdelivers ⟨fragments', taken', rest', hstream, hreply, first, hfirst, second, hsecond,
      hinside⟩
    obtain ⟨rfl, -, -⟩ := hrun.reply.unique hreply (hreturned.exchange.stream.symm.trans hstream)
    exact hrun.tiles_iff.mp hdelivers.tiles first hfirst second hsecond hinside
  · intro hnone
    refine hrun.deliversOnce hreturned.ready.room (hrun.tiles_iff.mpr ?_)
    intro first hfirst second hsecond hinside
    exact hnone ⟨fragments, taken, _, hreturned.exchange.stream, hrun.reply, first, hfirst, second,
      hsecond, hinside⟩

theorem readinto_deliversOnce_swapped :
    ∃ fragments taken last,
      ReadReturned FastLz.storing 0 1 false (fresh swappedReply, Buffer.zeros 4)
        (readinto FastLz.storing 0 1 false (fresh swappedReply, Buffer.zeros 4)).2 fragments taken
        last ∧
      (DeliversOnce FastLz.storing 4 false fragments ⟨4, 4, []⟩
          (readinto FastLz.storing 0 1 false (fresh swappedReply, Buffer.zeros 4)).2.2.bytes ↔
        ¬ ReplyOverlaps 0 4 (streamBytes (fresh swappedReply).sock.inbox)) := by
  have hvalue : (readinto FastLz.storing 0 1 false (fresh swappedReply, Buffer.zeros 4)).1 =
      .ok ⟨4, 4, []⟩ := by decide +kernel
  exact readinto_deliversOnce_iff (Buffer.zeros_flat 4) (Proc.eq_of_fst hvalue)

/-- A reply whose second frame starts inside the first, and the read that meets it. -/
def overlapReply : ReadEnv :=
  (fresh ((IoFrame.raw 4 0 [1, 2]).bytes ++ (IoFrame.raw 4 1 [3, 4]).bytes),
    Buffer.bytearray [9, 9, 9, 9])

/-- A read of four bytes whose reply is two overlapping frames of two returns normally, and the
last byte keeps what it held before. -/
theorem readinto_overlap_leaves_hole :
    ∃ fragments taken last after,
      readinto FastLz.storing 0 1 false overlapReply = (.ok ⟨4, 4, []⟩, after) ∧
      ReadReturned FastLz.storing 0 1 false overlapReply after fragments taken last ∧
      ¬ Tiles (fragments.map Fragment.span) (Finset.range 4) ∧
      after.2.bytes = [1, 3, 4, 9] := by
  have hvalue : (readinto FastLz.storing 0 1 false overlapReply).1 = .ok ⟨4, 4, []⟩ := by
    decide +kernel
  have hbuffer : (readinto FastLz.storing 0 1 false overlapReply).2.2.bytes = [1, 3, 4, 9] := by
    decide +kernel
  have hstream : streamBytes overlapReply.1.sock.inbox =
      (IoFrame.raw 4 0 [1, 2]).bytes ++ ((IoFrame.raw 4 1 [3, 4]).bytes ++ []) ++ [] := by
    decide +kernel
  have hrun := Proc.eq_of_fst hvalue
  obtain ⟨fragments, taken, last, hreturned, -⟩ := readinto_ok (Buffer.bytearray_flat _) hrun
  refine ⟨fragments, taken, last, _, hrun, hreturned, ?_, hbuffer⟩
  have hfirst := IoFrame.replyFrame_raw 4 0 [1, 2] (by decide) (by decide)
  have hsecond := IoFrame.replyFrame_raw 4 1 [3, 4] (by decide) (by decide)
  have hreply : Reply 0 4 0 [⟨0, 2, 0, [1, 2]⟩, ⟨1, 2, 0, [3, 4]⟩] _ :=
    .frame (by decide) hfirst (.frame (by decide) hsecond (.done (by decide)))
  obtain ⟨rfl, -, -⟩ :=
    hreturned.run.reply.unique hreply (hreturned.exchange.stream.symm.trans hstream)
  intro htiles
  have hnone := hreturned.run.tiles_iff.mp htiles
  exact hnone ⟨0, 2, 0, [1, 2]⟩ (by decide) ⟨1, 2, 0, [3, 4]⟩ (by decide) ⟨by decide, by decide⟩

end OpenVixDiskLib
