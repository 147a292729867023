import OpenVixDiskLib.Nfc.Content
import OpenVixDiskLib.Nfc.Wire
import OpenVixDiskLib.Nfc.WriteFrames

/-!
# The frames of a write carry its data

Every run of the write loop sends frames that carry the data (`WriteRun.carries`): they tile it, and
each decodes to its chunk, whether it went raw, compressed, or fell back. What is asked of the FastLZ
library is its promise on the chunks it is given (`KeepsPromise`).

The write encoder and the read decoder are therefore inverse, in any order of the frames and in both
modes of the read (`read_of_write_frames`).
-/

set_option autoImplicit false
set_option relaxedAutoImplicit false

namespace OpenVixDiskLib

open NfcDisk Arrival

/-- The library keeps its promise on every chunk of the data a session asks it to compress: in a
FASTLZ session, the chunks of the AIO buffer size, and the tail, that have at least 16 bytes. -/
def KeepsPromise (library : FastLzLibrary) (disk : NfcDisk) (data : Bytes) : Prop :=
  ∀ fragOffset < data.length, disk.aioBufferSize ∣ fragOffset → disk.compression = .fastlz →
    16 ≤ (data.slice fragOffset disk.aioBufferSize).length →
      FastLz.RoundTrips library (data.slice fragOffset disk.aioBufferSize)

variable {library : FastLzLibrary} {compression : Compression} {chunk extra : Bytes} {ctype : ℕ}

/-- An encoded chunk decodes to the chunk. -/
theorem decode_of_encodeChunk {dest : ℕ} (hlength : chunk.length < 256 ^ 4)
    (hpromise : compression = .fastlz → 16 ≤ chunk.length → FastLz.RoundTrips library chunk)
    (hencode : encodeChunk library compression chunk = .ok (ctype, extra)) :
    (⟨dest, chunk.length, ctype, extra⟩ : Fragment).decode library = some chunk := by
  unfold Fragment.decode
  obtain ⟨rfl, rfl⟩ | ⟨rfl, hcompressed, hextra, -, hfastlz, hlong⟩ := encodeChunk_ok hencode
  · exact if_neg (show ¬ Compression.none.code = Compression.fastlz.code by decide)
  · obtain ⟨packed, hpacked, hdecompress⟩ :=
      FastLz.decompress_compress (hpromise hfastlz hlong) hlength
    rw [hcompressed, Except.ok.injEq] at hpacked
    subst hpacked
    simp only [hdecompress hextra, if_true]

/-! ### Runs carry the data -/

variable {disk : NfcDisk} {startSector : ℤ} {length opId fragOffset : ℕ} {data : Bytes}
  {frames : List IoFrame}

/-- Every frame of a run is well formed, carries its slice of the data, and has an extra no longer
than its chunk. -/
theorem WriteRun.frames_spec (hdata : data.length = length) (hlength : length < 2 ^ 32)
    (hpromise : KeepsPromise library disk data)
    (hrun : WriteRun library disk startSector length data opId fragOffset frames)
    (hdvd : fragOffset < data.length → disk.aioBufferSize ∣ fragOffset) :
    ∀ frame ∈ frames, (frame.WellFormed ∧ frame.opId = opId) ∧
      frame.CarriesSlice library data ∧ frame.extra.length ≤ frame.chunkLen := by
  induction hrun with
  | done _ => simp
  | @send fragOffset ctype extra frames hgo hencode hopId hfits _ ih =>
    have hinside : fragOffset < data.length := by rw [hdata]; exact hgo
    have hpos := length_slice_pos disk.aioBufferSize_pos hinside
    have hchunk : (data.slice fragOffset disk.aioBufferSize).length < 256 ^ 4 := by
      have := slice_length_le disk.aioBufferSize hinside.le
      omega
    have hkept := hpromise fragOffset hinside (hdvd hinside)
    refine List.forall_mem_cons.mpr ⟨⟨⟨⟨hopId, hfits, show nfcAioIoWrite < 2 ^ 32 by decide, ?_⟩, rfl⟩,
      ⟨?_, ?_⟩, ?_⟩,
      ih (dvd_next hdvd hinside)⟩
    · obtain ⟨hctype, hextra⟩ | ⟨hctype, -, hextra, -⟩ := encodeChunk_ok hencode
      · exact Or.inr ⟨hctype, congrArg List.length hextra⟩
      · exact Or.inl ⟨hctype, hextra⟩
    · exact Nat.ne_of_gt hpos
    · exact (decode_of_encodeChunk hchunk hkept hencode).trans
        (congrArg some (slice_slice_length _).symm)
    · exact encodeChunk_length_le hencode

/-- The frames of a run tile the rest of the data. -/
theorem WriteRun.tiles (hdata : data.length = length)
    (hrun : WriteRun library disk startSector length data opId fragOffset frames)
    (hoffset : fragOffset ≤ length) :
    Tiles (frames.map fun frame ↦ frame.fragment.span) (Finset.Ico fragOffset length) := by
  induction hrun with
  | done hsent =>
    rw [Finset.Ico_eq_empty (by omega)]
    exact tiles_nil
  | @send fragOffset ctype extra frames hgo _ _ _ _ ih =>
    have hnext := slice_length_le disk.aioBufferSize
      (show fragOffset ≤ data.length by omega)
    rw [hdata] at hnext
    have hunion := Finset.Ico_union_Ico_eq_Ico (Nat.le_add_right fragOffset
      (data.slice fragOffset disk.aioBufferSize).length) hnext
    rw [← hunion]
    exact Tiles.cons (Finset.Ico_disjoint_Ico_consecutive _ _ _) (ih hnext)

/-- The frames of a write carry its data. -/
theorem WriteRun.carries (hdata : data.length = length) (hlength : length < 2 ^ 32)
    (hpromise : KeepsPromise library disk data)
    (hrun : WriteRun library disk startSector length data opId 0 frames) :
    Carries library opId data frames ∧
      extraBytes (frames.map IoFrame.fragment) ≤ data.length := by
  have hspec := hrun.frames_spec hdata hlength hpromise fun _ ↦ dvd_zero _
  have htiles := hrun.tiles hdata (Nat.zero_le _)
  rw [← Finset.range_eq_Ico, ← hdata] at htiles
  have hcarries : Carries library opId data frames :=
    ⟨fun frame hmem ↦ (hspec frame hmem).1, fun frame hmem ↦ (hspec frame hmem).2.1, htiles⟩
  exact ⟨hcarries, hcarries.extraBytes_le fun frame hmem ↦ (hspec frame hmem).2.2⟩

/-! ### What a write emits -/

/-- A library that keeps its promise returns. -/
theorem KeepsPromise.returns (hpromise : KeepsPromise library disk data)
    (hlength : data.length < 2 ^ 32) : CompressorReturns library disk data := by
  intro fragOffset hinside hdvd hsession hlong
  have hchunk := slice_length_le disk.aioBufferSize hinside.le
  obtain ⟨packed, hpacked, -⟩ := FastLz.decompress_compress
    (hpromise fragOffset hinside hdvd hsession hlong) (by omega)
  exact ⟨packed, hpacked⟩

/-! ### The round trip -/

/-- The write encoder and the read decoder are inverse. The frames a write emits under an opId, in
any order, are a reply which a read of the same length under that opId completes: a plain read takes
exactly these bytes and leaves the data in its buffer, and a skip read rebuilds to the data. -/
theorem read_of_write_frames {numSectors : ℤ} (hpositive : 1 ≤ numSectors)
    (hdata : data.length = requestLength disk numSectors)
    (hfits : WriteFits disk startSector data.length) (hsends : disk.sock.Sends)
    (hpromise : KeepsPromise library disk data) :
    ∃ frames : List IoFrame,
      (write library startSector numSectors data disk).2.sock.sent =
        disk.sock.sent ++ frames.flatMap IoFrame.bytes ∧
      (∀ frame ∈ frames, frame.WellFormed ∧ frame.opId = disk.opId) ∧
      ∀ (frames' : List IoFrame) (readSector readSectors : ℤ) (env : ReadEnv) (rest : Bytes),
        frames.Perm frames' → env.1.opId = disk.opId →
        requestLength env.1 readSectors = data.length → ReadReady readSectors env →
        ReadFits env.1 readSector data.length → env.1.sock.Sendable →
        env.1.sock.Holds (frames'.flatMap IoFrame.bytes ++ rest) →
        (∃ result after,
          readinto library readSector readSectors false env = (.ok result, after) ∧
          after.2.bytes.take data.length = data ∧ after.1.sock.Holds rest) ∧
        (∃ result after,
          readinto library readSector readSectors true env = (.ok result, after) ∧
          rebuildSkip library after.2.bytes result = .ok data ∧ after.1.sock.Holds rest) := by
  rw [hdata] at hfits
  obtain ⟨frames, hrun⟩ := WriteRun.exists_of_returns hfits hdata
    (hpromise.returns (hdata ▸ hfits.length_lt)) fun _ ↦ dvd_zero _
  obtain ⟨hcarries, hextras⟩ := hrun.carries hdata hfits.length_lt hpromise
  refine ⟨frames, write_sent hpositive hdata hsends hrun, hcarries.wellFormed, ?_⟩
  intro frames' readSector readSectors env rest hperm hopId hlength hready hreadFits hsendable hholds
  have hcarries' := hcarries.perm hperm
  have hextras' : extraBytes (frames'.map IoFrame.fragment) ≤ data.length := by
    have hsum := (hperm.map fun frame ↦ frame.fragment.extra.length).sum_eq
    rw [extraBytes, List.map_map] at hextras ⊢
    exact hsum ▸ hextras
  have hroom : data.length ≤ env.2.bytes.length := by
    rw [← hlength]
    exact hready.room
  rw [← hlength] at hreadFits
  rw [← hopId] at hcarries'
  constructor
  · obtain ⟨last, hplain⟩ := ReadRun.of_carries hcarries' hroom
    rw [← hlength] at hplain
    obtain ⟨after, hread, hbuffer, hreturned⟩ :=
      readinto_of_run hready hreadFits hsendable hplain hholds
    refine ⟨_, after, hread, ?_, hreturned.exchange.holds hholds⟩
    rw [hbuffer, List.take_left]
  · obtain ⟨last, final, hskip, hrebuild⟩ := ReadRun.skip_of_carries hcarries' hextras' hroom
    rw [← hlength] at hskip hrebuild
    obtain ⟨after, hread, hbuffer, hreturned⟩ :=
      readinto_of_run hready hreadFits hsendable hskip hholds
    refine ⟨_, after, hread, ?_, hreturned.exchange.holds hholds⟩
    rw [hbuffer, hrebuild]

/-- What FastLZ makes of sixteen zero bytes: two literals, a match of eleven, and three literals. -/
def FastLz.zeroRun : Bytes :=
  [1, 0, 0, 0xE0, 2, 1, 2, 0, 0, 0]

/-- A library that knows this run, and stores other inputs as they are. -/
def FastLz.packsZeros : FastLzLibrary where
  byteOrder := .little
  compress := fun data _ ↦ .ok (packNative .little data.length ++
    if data = List.replicate 16 0 then zeroRun else data)
  decompress := fun wrapped ↦ .ok (if wrapped = packNative .little 16 ++ zeroRun then
    List.replicate 16 0 else wrapped.drop prefixSize)

theorem FastLz.roundTrips_packsZeros (data : Bytes) : RoundTrips packsZeros data := by
  by_cases hzeros : data = List.replicate 16 0
  · subst hzeros
    exact ⟨zeroRun, rfl, rfl⟩
  · refine ⟨data, congrArg Except.ok (congrArg _ (if_neg hzeros)), ?_⟩
    have hother : packNative .little data.length ++ data ≠ packNative .little 16 ++ zeroRun := by
      intro hsame
      obtain ⟨hhead, rfl⟩ := List.append_inj hsame (by rw [length_packNative, length_packNative])
      revert hhead
      decide
    exact (congrArg Except.ok (if_neg hother)).trans
      (congrArg Except.ok (List.drop_left' (length_packNative _ _)))

/-- A FASTLZ session with buffers of 16 bytes. -/
def smallBuffers (stream : Bytes) : NfcDisk :=
  { fresh stream with compression := .fastlz, aioBufferSize := 16, aioBufferSize_pos := by decide }

/-- Six sectors, of which the first four are zero. -/
def sixSectors : Bytes :=
  List.replicate 16 0 ++ [1, 2, 3, 4, 5, 6, 7, 8]

/-- The frames of their write: the zeros went compressed, and the tail raw. -/
def zerosFrame : IoFrame :=
  ⟨0, 1, nfcAioIoWrite, 0, 24, 0, 16, Compression.fastlz.code, FastLz.zeroRun⟩

def tailFrame : IoFrame :=
  ⟨0, 1, nfcAioIoWrite, 0, 24, 16, 8, Compression.none.code, [1, 2, 3, 4, 5, 6, 7, 8]⟩

theorem read_of_write_frames_permuted :
    (write FastLz.packsZeros 0 6 sixSectors (smallBuffers [])).2.sock.sent =
        zerosFrame.bytes ++ tailFrame.bytes ∧
      (∃ result after,
        readinto FastLz.packsZeros 0 6 false
          (smallBuffers (tailFrame.bytes ++ zerosFrame.bytes), Buffer.zeros 24) =
            (.ok result, after) ∧
        after.2.bytes.take 24 = sixSectors) ∧
      ∃ result after,
        readinto FastLz.packsZeros 0 6 true
          (smallBuffers (tailFrame.bytes ++ zerosFrame.bytes), Buffer.zeros 24) =
            (.ok result, after) ∧
        rebuildSkip FastLz.packsZeros after.2.bytes result = .ok sixSectors := by
  have hpromise : KeepsPromise FastLz.packsZeros (smallBuffers []) sixSectors :=
    fun _ _ _ _ _ ↦ FastLz.roundTrips_packsZeros _
  obtain ⟨frames, hsent, hwellFormed, hread⟩ := read_of_write_frames (show (1 : ℤ) ≤ 6 by decide)
    (show sixSectors.length = requestLength (smallBuffers []) 6 by decide)
    (show WriteFits (smallBuffers []) 0 24 from ⟨by decide, by decide, by decide, by decide⟩)
    ⟨rfl, rfl⟩ hpromise
  have hwire : (write FastLz.packsZeros 0 6 sixSectors (smallBuffers [])).2.sock.sent =
      zerosFrame.bytes ++ tailFrame.bytes := by
    decide +kernel
  have hzeros : zerosFrame.WellFormed :=
    ⟨by decide, by decide, by decide, Or.inl ⟨rfl, by decide⟩⟩
  have htail : tailFrame.WellFormed :=
    ⟨by decide, by decide, by decide, Or.inr ⟨rfl, by decide⟩⟩
  have hframes : frames = [zerosFrame, tailFrame] := by
    refine IoFrame.flatMap_injOn (fun frame hmem ↦ (hwellFormed frame hmem).1) ?_
      (hsent.symm.trans (hwire.trans (List.flatMap_cons.trans ?_).symm))
    · exact List.forall_mem_cons.mpr ⟨hzeros, List.forall_mem_singleton.mpr htail⟩
    · rw [List.flatMap_singleton]
  subst hframes
  have hstream : [tailFrame, zerosFrame].flatMap IoFrame.bytes ++ [] =
      tailFrame.bytes ++ zerosFrame.bytes := by
    decide +kernel
  obtain ⟨⟨result, after, hplain, hbuffer, -⟩, result', after', hskip, hrebuilt, -⟩ :=
    hread [tailFrame, zerosFrame] 0 6 (smallBuffers (tailFrame.bytes ++ zerosFrame.bytes),
      Buffer.zeros 24) [] (List.Perm.swap _ _ _) rfl rfl ⟨by decide, rfl, rfl, by decide⟩
      ⟨by decide, by decide, by decide, by decide⟩ (Sock.Sends.sendable ⟨rfl, rfl⟩)
      ⟨rfl, quiet_segment (tailFrame.bytes ++ zerosFrame.bytes),
        (streamBytes_segment (tailFrame.bytes ++ zerosFrame.bytes)).trans hstream.symm⟩
  exact ⟨hwire, ⟨result, after, hplain, hbuffer⟩, result', after', hskip, hrebuilt⟩

end OpenVixDiskLib
