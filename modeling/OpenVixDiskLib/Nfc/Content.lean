import Mathlib.Algebra.Order.BigOperators.Group.List
import OpenVixDiskLib.Nfc.IoFrame
import OpenVixDiskLib.Nfc.Rebuild

/-!
# Replies that carry a content

IO frames carry a content when their ranges tile it and every frame decodes to its slice of it
(`Carries`). Such frames, in any order, are a reply a read of the content's length completes: a plain
read leaves the content in the buffer (`ReadRun.of_carries`), and a skip read, when the extras are no
longer than the chunks, rebuilds to it (`ReadRun.skip_of_carries`).
-/

set_option autoImplicit false
set_option relaxedAutoImplicit false

namespace OpenVixDiskLib

open NfcDisk Arrival

/-- The frame stands for a nonempty range of the content and decodes to it. -/
structure IoFrame.CarriesSlice (frame : IoFrame) (library : FastLzLibrary) (content : Bytes) :
    Prop where
  nonempty : frame.chunkLen ≠ 0
  decodes : frame.fragment.decode library = some (content.slice frame.dest frame.chunkLen)

/-- The frames of one opId tile the content, and each decodes to its slice of it. -/
structure Carries (library : FastLzLibrary) (opId : ℕ) (content : Bytes) (frames : List IoFrame) :
    Prop where
  wellFormed : ∀ frame ∈ frames, frame.WellFormed ∧ frame.opId = opId
  slices : ∀ frame ∈ frames, frame.CarriesSlice library content
  tiles : Tiles (frames.map fun frame ↦ frame.fragment.span) (Finset.range content.length)

variable {library : FastLzLibrary} {opId length : ℕ} {content : Bytes} {frames : List IoFrame}

/-- Frames carry the content in any order. -/
theorem Carries.perm {frames' : List IoFrame} (hcarries : Carries library opId content frames)
    (hperm : frames.Perm frames') : Carries library opId content frames' where
  wellFormed frame hmem := hcarries.wellFormed frame (hperm.mem_iff.mpr hmem)
  slices frame hmem := hcarries.slices frame (hperm.mem_iff.mpr hmem)
  tiles := hcarries.tiles.perm (hperm.map _)

theorem IoFrame.mem_span {frame : IoFrame} {index : ℕ} :
    index ∈ frame.fragment.span ↔
      frame.dest ≤ index ∧ index < frame.dest + frame.chunkLen :=
  Fragment.mem_span

/-- Well-formed frames whose lengths add up to the request are a reply. -/
theorem Reply.of_frames {filled : ℕ} (hwellFormed : ∀ frame ∈ frames, frame.WellFormed ∧
      frame.opId = opId)
    (hnonempty : ∀ frame ∈ frames, frame.chunkLen ≠ 0)
    (hlength : filled + (frames.map IoFrame.chunkLen).sum = length) :
    Reply opId length filled (frames.map IoFrame.fragment) (frames.flatMap IoFrame.bytes) := by
  induction frames generalizing filled with
  | nil => exact .done (by simpa using hlength.ge)
  | cons frame frames ih =>
    obtain ⟨⟨hhead, rfl⟩, htail⟩ := List.forall_mem_cons.mp hwellFormed
    obtain ⟨hpos, hrest⟩ := List.forall_mem_cons.mp hnonempty
    rw [List.map_cons, List.sum_cons, ← Nat.add_assoc] at hlength
    exact .frame (by omega) (IoFrame.replyFrame hhead) (ih htail hrest hlength)

theorem Carries.bounded (hcarries : Carries library opId content frames) :
    ∀ frame ∈ frames, frame.dest + frame.chunkLen ≤ content.length := by
  intro frame hmem
  have hpos := Nat.pos_of_ne_zero (hcarries.slices frame hmem).nonempty
  have hlast : frame.dest + frame.chunkLen - 1 ∈ frame.fragment.span := by
    rw [IoFrame.mem_span]
    omega
  have hinside := (hcarries.tiles.covers _).mpr
    ⟨_, List.mem_map_of_mem hmem, hlast⟩
  rw [Finset.mem_range] at hinside
  omega

theorem Carries.acceptable (hcarries : Carries library opId content frames) :
    (∀ fragment ∈ frames.map IoFrame.fragment, fragment.Acceptable content.length []) ∧
      (frames.map IoFrame.fragment).Pairwise fun first second ↦ first.dest ≠ second.dest := by
  have hpos : ∀ fragment ∈ frames.map IoFrame.fragment, fragment.chunkLen ≠ 0 := by
    intro fragment hmem
    obtain ⟨frame, hframe, rfl⟩ := List.mem_map.mp hmem
    exact (hcarries.slices frame hframe).nonempty
  refine ⟨fun fragment hmem ↦ ?_, ?_⟩
  · refine ⟨List.not_mem_nil, hpos fragment hmem, ?_⟩
    obtain ⟨frame, hframe, rfl⟩ := List.mem_map.mp hmem
    exact hcarries.bounded frame hframe
  · have hdisjoint := hcarries.tiles.disjoint
    rw [← Function.comp_def Fragment.span IoFrame.fragment, ← List.map_map, List.pairwise_map]
      at hdisjoint
    refine hdisjoint.imp_of_mem fun {first second} hfirst hsecond hapart hsame ↦ ?_
    have hin : first.dest ∈ first.span := by
      have := hpos first hfirst
      rw [Fragment.mem_span]
      omega
    have hin' : first.dest ∈ second.span := by
      have := hpos second hsecond
      rw [Fragment.mem_span]
      omega
    exact Finset.disjoint_left.mp hapart hin hin'

/-- The lengths of the frames of a content add up to its length. -/
theorem Carries.sum_chunkLen (hcarries : Carries library opId content frames) :
    (frames.map IoFrame.chunkLen).sum = content.length := by
  have hsum := hcarries.tiles.sum_card
  rw [Finset.card_range, List.map_map] at hsum
  rw [← hsum]
  congr 1
  exact List.map_congr_left fun frame _ ↦ frame.fragment.card_span.symm

/-- Extras no longer than their chunks fit the content. -/
theorem Carries.extraBytes_le (hcarries : Carries library opId content frames)
    (hextras : ∀ frame ∈ frames, frame.extra.length ≤ frame.chunkLen) :
    extraBytes (frames.map IoFrame.fragment) ≤ content.length := by
  rw [← hcarries.sum_chunkLen, extraBytes, List.map_map]
  exact List.sum_le_sum hextras

/-- The frames of a content are a reply of its length. -/
theorem Carries.reply (hcarries : Carries library opId content frames) :
    Reply opId content.length 0 (frames.map IoFrame.fragment) (frames.flatMap IoFrame.bytes) := by
  refine Reply.of_frames hcarries.wellFormed
    (fun frame hmem ↦ (hcarries.slices frame hmem).nonempty) ?_
  rw [Nat.zero_add, hcarries.sum_chunkLen]

theorem Carries.reply_start (hcarries : Carries library opId content frames) :
    Reply opId content.length readStart.filled (frames.map IoFrame.fragment)
      (frames.flatMap IoFrame.bytes) :=
  hcarries.reply

theorem Carries.acceptable_start (hcarries : Carries library opId content frames) :
    ∀ fragment ∈ frames.map IoFrame.fragment,
      fragment.Acceptable content.length readStart.seen :=
  hcarries.acceptable.1

theorem Carries.storable (hcarries : Carries library opId content frames) :
    Storable library (frames.map IoFrame.fragment) content.length := by
  intro fragment hmem
  obtain ⟨frame, hframe, rfl⟩ := List.mem_map.mp hmem
  refine ⟨_, (hcarries.slices frame hframe).decodes, ?_, hcarries.bounded frame hframe⟩
  exact List.length_slice _ _ _ (hcarries.bounded frame hframe)

/-- Storing the frames of a content puts the content in the buffer. -/
theorem Carries.storeAll_eq (hcarries : Carries library opId content frames) {buffer : Bytes}
    (hroom : content.length ≤ buffer.length) :
    storeAll library (frames.map IoFrame.fragment) buffer =
      content ++ buffer.drop content.length := by
  have hstorable : Storable library (frames.map IoFrame.fragment) buffer.length := by
    intro fragment hmem
    obtain ⟨chunk, hdecode, hlength, hfits⟩ := hcarries.storable fragment hmem
    exact ⟨chunk, hdecode, hlength, hfits.trans hroom⟩
  have hspans : (frames.map IoFrame.fragment).map Fragment.span =
      frames.map fun frame ↦ frame.fragment.span := List.map_map
  refine List.ext_getElem? fun index ↦ ?_
  rcases Nat.lt_or_ge index content.length with hinside | houtside
  · obtain ⟨span, hspan, hindex⟩ :=
      (hcarries.tiles.covers index).mp (Finset.mem_range.mpr hinside)
    obtain ⟨frame, hframe, rfl⟩ := List.mem_map.mp hspan
    obtain ⟨hfrom, hto⟩ := IoFrame.mem_span.mp hindex
    have hchunk : index - frame.fragment.dest < frame.chunkLen := by
      change index - frame.dest < frame.chunkLen
      omega
    rw [getElem?_storeAll_of_mem hstorable (by rw [hspans]; exact hcarries.tiles.disjoint)
      (List.mem_map_of_mem hframe) hindex, (hcarries.slices frame hframe).decodes,
      Option.getD_some, List.slice, List.getElem?_take_of_lt hchunk, List.getElem?_drop,
      List.getElem?_append_left hinside]
    congr 1
    exact Nat.add_sub_cancel' hfrom
  · rw [getElem?_storeAll_of_notMem hstorable, List.getElem?_append_right houtside,
      List.getElem?_drop]
    · congr 1
      omega
    · intro fragment hmem hindex
      obtain ⟨chunk, -, -, hfits⟩ := hcarries.storable fragment hmem
      rw [Fragment.mem_span] at hindex
      omega

/-- One raw frame carries any content that is not empty. -/
theorem Carries.whole (hopId : opId < 2 ^ 32) (hnonempty : content ≠ [])
    (hlength : content.length < 2 ^ 32) :
    Carries library opId content
      [{ IoFrame.raw content.length 0 content with opId := opId }] := by
  have hraw := IoFrame.wellFormed_raw hlength (Nat.zero_add content.length).le
  refine ⟨?_, ?_, ?_⟩
  · rw [List.forall_mem_singleton]
    exact ⟨⟨hopId, hraw.fits, hraw.direction_lt, hraw.extra_size⟩, rfl⟩
  · rw [List.forall_mem_singleton]
    refine ⟨fun hzero ↦ hnonempty (List.length_eq_zero_iff.mp hzero), ?_⟩
    have hslice : content.slice 0 content.length = content := by
      rw [List.slice, List.drop_zero, List.take_length]
    exact congrArg some hslice.symm
  · have htiles := Tiles.cons (Finset.disjoint_empty_right (Finset.range content.length)) tiles_nil
    rw [Finset.union_empty] at htiles
    have hspan : Finset.Ico 0 (0 + content.length) = Finset.range content.length := by
      rw [Nat.zero_add, Finset.range_eq_Ico]
    rw [← hspan] at htiles ⊢
    exact htiles

/-- A plain read completes the frames of a content and leaves the content in the buffer. -/
theorem ReadRun.of_carries {buffer : Bytes} (hcarries : Carries library opId content frames)
    (hroom : content.length ≤ buffer.length) :
    ∃ last, ReadRun library content.length opId false readStart buffer
      (frames.map IoFrame.fragment) (frames.flatMap IoFrame.bytes) last
      (content ++ buffer.drop content.length) := by
  have hplaceable : ∀ fragment ∈ frames.map IoFrame.fragment,
      (fragment.decode library).isSome := by
    intro fragment hmem
    obtain ⟨chunk, hdecode, -⟩ := hcarries.storable fragment hmem
    rw [hdecode, Option.isSome_some]
  obtain ⟨last, final, hrun⟩ := ReadRun.of_reply buffer hcarries.reply_start
    hcarries.acceptable_start hcarries.acceptable.2
    (show Placeable library _ false readStart.packedOffset _ from hplaceable)
  rw [hrun.final_plain.2, hcarries.storeAll_eq hroom] at hrun
  exact ⟨last, hrun⟩

/-- A skip read completes the frames of a content whose extras are no longer than their chunks, and
rebuilds to the content. -/
theorem ReadRun.skip_of_carries {buffer : Bytes} (hcarries : Carries library opId content frames)
    (hextras : extraBytes (frames.map IoFrame.fragment) ≤ content.length)
    (hroom : content.length ≤ buffer.length) :
    ∃ last final, ReadRun library content.length opId true readStart buffer
        (frames.map IoFrame.fragment) (frames.flatMap IoFrame.bytes) last final ∧
      rebuildSkip library final (readResult content.length true last) = .ok content := by
  have hplaceable : readStart.packedOffset + extraBytes (frames.map IoFrame.fragment) ≤
      content.length := by
    rw [readStart, Nat.zero_add]
    exact hextras
  obtain ⟨last, final, hrun⟩ := ReadRun.of_reply buffer hcarries.reply_start
    hcarries.acceptable_start hcarries.acceptable.2
    (show Placeable library _ true readStart.packedOffset _ from hplaceable)
  refine ⟨last, final, hrun, ?_⟩
  have hdecodable : ∀ fragment ∈ frames.map IoFrame.fragment, fragment.Decodable library := by
    intro fragment hmem
    obtain ⟨chunk, hdecode, hlength, -⟩ := hcarries.storable fragment hmem
    obtain ⟨bytes, hframe⟩ := hcarries.reply.frames fragment hmem
    exact ⟨hframe.ctype_cases.imp And.left And.left, chunk, hdecode, hlength⟩
  rw [hrun.rebuild hroom hdecodable, hcarries.storeAll_eq (by rw [List.length_replicate]),
    List.drop_eq_nil_of_le (by rw [List.length_replicate]), List.append_nil]

end OpenVixDiskLib
