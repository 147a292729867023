import OpenVixDiskLib.Base.Simulation
import OpenVixDiskLib.Nfc.Operation
import OpenVixDiskLib.Nfc.SolidViews
import OpenVixDiskLib.Nfc.Works
import OpenVixDiskLib.Nfc.WriteFrames

/-!
# Rejected requests and the opId counter

A request can be rejected because of its arguments: a count below one, a buffer or data that does not
serve it, a number that does not fit its wire field, a chunk the compressor does not take. `readinto`
packs its payload before it takes an opId, so a read that these checks reject leaves the session as it
was. It does not check the view: one that has gaps or several dimensions is blamed behind the request,
by the socket or by the assignment of a slice. `write` takes its opId behind its first two checks and packs
its first frame after that, so a write that is rejected later has used up an opId with nothing on the
wire (`Operation.Rejected.unchanged_iff`).

Along every run in which no request is rejected that late, the counter is the number of requests on the
wire, and the requests carry consecutive opIds, one each and shared by all frames of a write
(`numbered_of_run`).
-/

set_option autoImplicit false
set_option relaxedAutoImplicit false

namespace OpenVixDiskLib

open NfcDisk

variable {library : FastLzLibrary} {disk : NfcDisk} {startSector : ℤ} {length opId fragOffset : ℕ}
  {data : Bytes} {frames : List IoFrame}

/-- The numbers of a request fit its wire fields. -/
structure FieldsFit (disk : NfcDisk) (startSector : ℤ) (length : ℕ) : Prop where
  start_nonneg : 0 ≤ startSector * disk.sectorSize
  start_lt : startSector * disk.sectorSize < 2 ^ 64
  length_lt : length < 2 ^ 32

/-! ### What a sent write says about its arguments -/

/-- The numbers of a frame that was packed fit. -/
theorem FieldsFit.of_writeFrame {ctype : ℕ} {extra : Bytes}
    (hfits : ∀ field ∈ (writeFrame disk startSector length data opId fragOffset ctype extra).fields,
      field.Fits) : FieldsFit disk startSector length := by
  simp only [writeFrame, IoFrame.fields, ioFields, List.forall_mem_cons, Field.fits_Q_int,
    Field.fits_I] at hfits
  obtain ⟨-, -, ⟨hnonneg, hlt⟩, hlength, -⟩ := hfits
  exact ⟨hnonneg, hlt, hlength⟩

/-- A run that sends a frame has numbers that fit. -/
theorem WriteRun.fieldsFit (hpos : fragOffset < length)
    (hrun : WriteRun library disk startSector length data opId fragOffset frames) :
    FieldsFit disk startSector length := by
  cases hrun with
  | done hsent => exact absurd hpos (not_lt_of_ge hsent)
  | send _ _ _ hfits _ => exact .of_writeFrame hfits

/-- A chunk that was encoded was compressed, if the session compresses it. -/
theorem compress_of_encodeChunk {compression : Compression} {chunk : Bytes} {encoded : ℕ × Bytes}
    (hencode : encodeChunk library compression chunk = .ok encoded) (hsession : compression = .fastlz)
    (hlong : 16 ≤ chunk.length) : ∃ compressed, FastLz.compress library chunk = .ok compressed := by
  rcases hcompress : FastLz.compress library chunk with error | compressed
  · unfold encodeChunk at hencode
    rw [if_pos ⟨hsession, hlong⟩, hcompress] at hencode
    cases hencode
  · exact ⟨compressed, rfl⟩

/-- The chunks of a run have been compressed, if the session compresses them. -/
theorem WriteRun.compressed (hdata : data.length = length)
    (hrun : WriteRun library disk startSector length data opId fragOffset frames)
    (hdvd : fragOffset < length → disk.aioBufferSize ∣ fragOffset) :
    ∀ later, fragOffset ≤ later → later < length → disk.aioBufferSize ∣ later →
      disk.compression = .fastlz → 16 ≤ (data.slice later disk.aioBufferSize).length →
        ∃ compressed, FastLz.compress library (data.slice later disk.aioBufferSize) =
          .ok compressed := by
  induction hrun with
  | done hsent =>
    intro later hfrom hinside
    exact absurd (hsent.trans hfrom) (not_le_of_gt hinside)
  | @send fragOffset ctype extra frames hgo hencode _ _ _ ih =>
    intro later hfrom hinside hlater hsession hlong
    by_cases hhere : later = fragOffset
    · subst hhere
      exact compress_of_encodeChunk hencode hsession hlong
    · have hchunk := @length_chunk fragOffset data disk.aioBufferSize
      -- Both offsets are multiples of the buffer size, so they are at least that far apart.
      have hapart : fragOffset + disk.aioBufferSize ≤ later := by
        obtain ⟨i, rfl⟩ := hdvd hgo
        obtain ⟨j, rfl⟩ := hlater
        have hlt : i < j := by
          by_contra hle
          exact hhere (le_antisymm (Nat.mul_le_mul_left _ (not_lt.mp hle)) hfrom)
        calc disk.aioBufferSize * i + disk.aioBufferSize = disk.aioBufferSize * (i + 1) := by ring
          _ ≤ disk.aioBufferSize * j := Nat.mul_le_mul_left _ hlt
      have hnext : fragOffset + (data.slice fragOffset disk.aioBufferSize).length < length →
          disk.aioBufferSize ∣ fragOffset + (data.slice fragOffset disk.aioBufferSize).length := by
        have hsame : fragOffset + (data.slice fragOffset disk.aioBufferSize).length <
            data.length → _ := dvd_next (fun _ ↦ hdvd hgo) (by rw [hdata]; exact hgo)
        rwa [hdata] at hsame
      exact ih hnext later (by omega) hinside hlater hsession hlong

/-! ### Rejected operations -/

/-- What `readinto` checks before it takes an opId: its count, that its buffer can be written and has the
rows, and that its numbers fit. -/
structure ReadChecked (disk : NfcDisk) (startSector numSectors : ℤ) (buf : Buffer) : Prop where
  positive : 1 ≤ numSectors
  writable : ∃ data, writableBytes buf (requestLength disk numSectors) = .ok data
  fields : FieldsFit disk startSector (requestLength disk numSectors)

namespace Operation

/-- The arguments of the operation pass every check up to its request. -/
def Checked (library : FastLzLibrary) (disk : NfcDisk) : Operation → Prop
  | .readinto startSector numSectors _ buf => ReadChecked disk startSector numSectors buf
  | .write startSector numSectors data =>
    1 ≤ numSectors ∧ data.length = requestLength disk numSectors ∧
      FieldsFit disk startSector (requestLength disk numSectors) ∧
      CompressorReturns library disk data
  | .roundtrip .. => True

/-- The operation is a read that raises an exception that blames its view. -/
def BlamesView (library : FastLzLibrary) (disk : NfcDisk) : Operation → Prop
  | .readinto startSector numSectors skipDecompression buf =>
    ∃ error after, NfcDisk.readinto library startSector numSectors skipDecompression (disk, buf) =
      (.error error, after) ∧ error.blamesView = true
  | _ => False

/-- The operation is rejected because of its arguments: by a check up to its request, or behind it, by what
happens with its view. -/
def Rejected (library : FastLzLibrary) (disk : NfcDisk) (op : Operation) : Prop :=
  ¬ op.Checked library disk ∨ op.BlamesView library disk

/-- The operation takes an opId and can be rejected behind that: a read that passes its checks with a view
that has gaps or several dimensions, or a write that passes the checks of its count and of the length of
its data. -/
def RejectedLate (disk : NfcDisk) : Operation → Prop
  | .readinto startSector numSectors _ buf =>
    ReadChecked disk startSector numSectors buf ∧
      ∃ data, writableBytes buf (requestLength disk numSectors) = .ok data ∧
        (data.contiguous = false ∨ data.oneDim = false)
  | .write _ numSectors data => 1 ≤ numSectors ∧ data.length = requestLength disk numSectors
  | .roundtrip .. => False

/-- The operation leaves the session, and the buffer a `readinto` was given, as they were. -/
def LeavesUnchanged (library : FastLzLibrary) (disk : NfcDisk) : Operation → Prop
  | .readinto startSector numSectors skipDecompression buf =>
    (NfcDisk.readinto library startSector numSectors skipDecompression (disk, buf)).2 = (disk, buf)
  | op => (op.run library disk).2 = disk

end Operation

/-- A `readinto` that does not pass its checks raises and leaves the session and the buffer as they
were. -/
theorem readinto_of_unchecked {numSectors : ℤ} {buf : Buffer} (skipDecompression : Bool)
    (hunchecked : ¬ ReadChecked disk startSector numSectors buf) :
    ∃ error, readinto library startSector numSectors skipDecompression (disk, buf) =
      (.error error, disk, buf) := by
  rw [readinto]
  by_cases hpositive : numSectors < 1
  · exact ⟨_, Proc.raiseIf_bind_of_pos hpositive _ _ _⟩
  rw [Proc.raiseIf_bind_of_neg hpositive, Proc.get_bind_apply]
  rcases hwritable : writableBytes buf (requestLength disk numSectors) with error | data
  · exact ⟨error, Proc.bind_of_error rfl⟩
  rw [Proc.lift_bind_of_ok rfl]
  have hunfit : ¬ FieldsFit disk startSector (requestLength disk numSectors) :=
    fun hfields ↦ hunchecked ⟨not_lt.mp hpositive, ⟨data, hwritable⟩, hfields⟩
  have hpack : readPayload disk startSector (requestLength disk numSectors) =
      .error (structError "argument out of range") := by
    rw [readPayload, pack, if_neg]
    intro hfits
    obtain ⟨hnonneg, hlt, hlength⟩ := readFields_fits.mp hfits
    exact hunfit ⟨hnonneg, hlt, hlength⟩
  have hsend : sendRead startSector (requestLength disk numSectors) disk =
      (.error (structError "argument out of range"), disk) := by
    rw [sendRead, Proc.get_bind_apply]
    exact Proc.bind_of_error (by rw [Proc.lift_apply, hpack])
  exact ⟨_, Proc.bind_of_error (Proc.zoom_of_eq envDisk hsend)⟩

/-- A `readinto` that passes its checks takes an opId, whatever becomes of it. -/
theorem readinto_opId {numSectors : ℤ} {buf : Buffer} (skipDecompression : Bool)
    (hchecked : ReadChecked disk startSector numSectors buf) :
    (readinto library startSector numSectors skipDecompression (disk, buf)).2.1.opId =
      disk.opId + 1 := by
  have hpositive := hchecked.positive
  obtain ⟨data, hdata⟩ := hchecked.writable
  have hpayload : readPayload disk startSector (requestLength disk numSectors) =
      .ok ((readFields disk startSector (requestLength disk numSectors)).flatMap Field.bytes) :=
    pack_of_fits (readFields_fits.mpr
      ⟨hchecked.fields.start_nonneg, hchecked.fields.start_lt, hchecked.fields.length_lt⟩)
  have hrefl : ∀ disk : NfcDisk, disk.opId = disk.opId := fun _ ↦ rfl
  have htrans : ∀ first middle last : NfcDisk, middle.opId = first.opId →
      last.opId = middle.opId → last.opId = first.opId := fun _ _ _ hfirst hlast ↦ hlast.trans hfirst
  -- The header and the send leave the counter alone, and so does everything that receives.
  have hsend : (sendRead startSector (requestLength disk numSectors) disk).2.opId = disk.opId + 1 := by
    rw [sendRead, Proc.get_bind_apply, Proc.lift_bind_of_ok hpayload,
      Proc.bind_of_ok (nextOpId_apply disk)]
    have hrest : ∀ (hdr : Except PyError Bytes) (payload : Bytes) (opId : ℕ),
        Proc.Moves (fun before after : NfcDisk ↦ after.opId = before.opId) (do
          let hdr ← Proc.lift hdr
          Proc.zoom sockPart (Sock.sendall (hdr ++ payload))
          pure opId) := fun hdr payload opId ↦
      .bind htrans (.lift hrefl _) fun _ ↦ .bind htrans
        (.zoom (fun _ _ _ ↦ rfl) (show Proc.Moves (fun _ _ ↦ True) _ from fun _ ↦ trivial))
        fun _ ↦ .pure hrefl _
    exact hrest _ _ _ { disk with opId := disk.opId + 1 }
  rw [readinto, Proc.raiseIf_bind_of_neg (by omega), Proc.get_bind_apply, Proc.lift_bind_of_ok hdata]
  rcases hrun : sendRead startSector (requestLength disk numSectors) disk with ⟨error | opId, sent⟩
  · rw [hrun] at hsend
    rw [Proc.bind_of_error (Proc.zoom_of_eq envDisk hrun)]
    exact hsend
  · rw [hrun] at hsend
    rw [Proc.bind_of_ok (Proc.zoom_of_eq envDisk hrun)]
    have hloop : Proc.Moves EnvReceived (readLoop library data (requestLength disk numSectors) opId
        skipDecompression readStart >>= fun locals ↦
          pure (readResult (requestLength disk numSectors) skipDecompression locals)) :=
      .bind EnvReceived.trans (.whileLoop EnvReceived.refl EnvReceived.trans
        (moves_readFragment _ _ _ _ _) _) fun _ ↦ .pure EnvReceived.refl _
    obtain ⟨taken, -, hafter⟩ := hloop (envDisk.set sent (disk, buf))
    exact (congrArg NfcDisk.opId hafter).trans hsend

/-- The loop and the reply of a write leave the counter alone. -/
theorem writeLoop_opId (fragOffset : ℕ) :
    Proc.Moves (fun before after : NfcDisk ↦ after.opId = before.opId)
      (writeLoop library startSector length data opId fragOffset) := by
  have htrans : ∀ first middle last : NfcDisk, middle.opId = first.opId →
      last.opId = middle.opId → last.opId = first.opId := fun _ _ _ hfirst hlast ↦ hlast.trans hfirst
  have hrefl : ∀ disk : NfcDisk, disk.opId = disk.opId := fun _ ↦ rfl
  refine writeLoop_keeps hrefl htrans (fun frame ↦ ?_) library startSector length data opId fragOffset
  exact .zoom (fun _ _ _ ↦ rfl) (show Proc.Moves (fun _ _ ↦ True) _ from fun _ ↦ trivial)

/-- A write that passes its two checks takes an opId, whatever becomes of it. -/
theorem write_opId {numSectors : ℤ} (hpositive : 1 ≤ numSectors)
    (hdata : data.length = requestLength disk numSectors) :
    (write library startSector numSectors data disk).2.opId = disk.opId + 1 := by
  unfold NfcDisk.write
  rw [Proc.raiseIf_bind_of_neg (by omega), Proc.get_bind_apply,
    Proc.raiseIf_bind_of_neg (not_not.mpr hdata), Proc.bind_of_ok (nextOpId_apply disk)]
  have hreply : Proc.Moves (fun before after : NfcDisk ↦ after.opId = before.opId)
      (writeReply disk.opId) := by
    intro state
    obtain ⟨taken, -, hafter⟩ := moves_writeReply disk.opId state
    rw [hafter]
  exact Proc.Moves.bind (fun _ _ _ hfirst hlast ↦ hlast.trans hfirst) (writeLoop_opId 0)
    (fun _ ↦ hreply) { disk with opId := disk.opId + 1 }

/-- A write with rejected arguments raises. It leaves the session as it was if and only if it does not
pass its two checks. -/
theorem write_of_rejected {numSectors : ℤ}
    (hrejected : ¬ (Operation.write startSector numSectors data).Checked library disk) :
    (∃ error, (write library startSector numSectors data disk).1 = .error error) ∧
      ((write library startSector numSectors data disk).2 = disk ↔
        ¬ (1 ≤ numSectors ∧ data.length = requestLength disk numSectors)) := by
  by_cases hpositive : numSectors < 1
  · have hwrite : write library startSector numSectors data disk =
        (.error (valueError "num_sectors must be at least 1"), disk) := by
      unfold NfcDisk.write
      exact Proc.raiseIf_bind_of_pos hpositive _ _ _
    rw [hwrite]
    exact ⟨⟨_, rfl⟩, iff_of_true rfl fun h ↦ absurd h.1 (not_le_of_gt hpositive)⟩
  by_cases hdata : data.length = requestLength disk numSectors
  · have hopId : (write library startSector numSectors data disk).2.opId = disk.opId + 1 :=
      write_opId (not_lt.mp hpositive) hdata
    constructor
    · rcases hrun : write library startSector numSectors data disk with ⟨error | ⟨⟨⟩⟩, after⟩
      · exact ⟨error, rfl⟩
      exfalso
      unfold NfcDisk.write at hrun
      rw [Proc.raiseIf_bind_of_neg hpositive, Proc.get_bind_apply,
        Proc.raiseIf_bind_of_neg (not_not.mpr hdata), Proc.bind_of_ok (nextOpId_apply disk)] at hrun
      obtain ⟨last, middle, hloop, -⟩ := Proc.bind_eq_ok.mp hrun
      obtain ⟨frames, hframes, -, -⟩ := writeLoop_run hdata hloop
      have hframes : WriteRun library disk startSector (requestLength disk numSectors) data disk.opId
          0 frames := hframes.of_config rfl rfl rfl rfl
      refine hrejected ⟨not_lt.mp hpositive, hdata,
        hframes.fieldsFit (requestLength_pos (not_lt.mp hpositive)), fun later hinside ↦ ?_⟩
      exact hframes.compressed hdata (fun _ ↦ dvd_zero _) later (Nat.zero_le _)
        (by rw [← hdata]; exact hinside)
    · refine iff_of_false (fun hsame ↦ ?_) (not_not.mpr ⟨not_lt.mp hpositive, hdata⟩)
      rw [hsame] at hopId
      omega
  · have hwrite : write library startSector numSectors data disk =
        (.error (valueError
          s!"write data is {data.length} bytes, need {requestLength disk numSectors}"), disk) := by
      unfold NfcDisk.write
      rw [Proc.raiseIf_bind_of_neg hpositive, Proc.get_bind_apply, Proc.raiseIf_bind_of_pos hdata]
    rw [hwrite]
    exact ⟨⟨_, rfl⟩, iff_of_true rfl fun h ↦ absurd h.2 hdata⟩

namespace Operation

variable {op : Operation} {request : Bytes}

/-- A rejected operation raises. It leaves the session and the caller's buffer as they were if and only
if it is not rejected late. -/
theorem Rejected.unchanged_iff (hrejected : op.Rejected library disk) :
    (∃ error, (op.run library disk).1 = .error error) ∧
      (op.LeavesUnchanged library disk ↔ ¬ op.RejectedLate disk) := by
  cases op with
  | readinto startSector numSectors skipDecompression buf =>
    by_cases hchecked : ReadChecked disk startSector numSectors buf
    swap
    · obtain ⟨error, hread⟩ := @readinto_of_unchecked library disk startSector numSectors buf
        skipDecompression hchecked
      refine ⟨⟨error, by rw [run, hread]; rfl⟩, iff_of_true ?_ fun hlate ↦ hchecked hlate.1⟩
      rw [LeavesUnchanged, hread]
    obtain ⟨error, after, hread, hblames⟩ := hrejected.resolve_left (not_not.mpr hchecked)
    refine ⟨⟨error, by rw [run, hread]; rfl⟩, iff_of_false (fun hsame ↦ ?_) (not_not.mpr ?_)⟩
    · have hopId := @readinto_opId library disk startSector numSectors buf skipDecompression hchecked
      rw [hsame] at hopId
      change disk.opId = disk.opId + 1 at hopId
      omega
    · obtain ⟨data, hdata⟩ := hchecked.writable
      refine ⟨hchecked, data, hdata, ?_⟩
      by_contra hsolid
      rw [not_or, Bool.not_eq_false, Bool.not_eq_false] at hsolid
      have himpersonal := @readinto_solid data library startSector numSectors skipDecompression
        (disk, buf) after error hchecked.positive hdata ⟨hsolid.2, hsolid.1⟩ hread
      rw [himpersonal] at hblames
      cases hblames
  | write startSector numSectors data => exact write_of_rejected (hrejected.resolve_right not_false)
  | roundtrip => exact absurd trivial (hrejected.resolve_right not_false)

/-- Whether an operation can be rejected late does not depend on what arrives. -/
theorem rejectedLate_meets (op : Operation) (inbox : List Arrival) :
    op.RejectedLate (disk.meets inbox) ↔ op.RejectedLate disk := by
  cases op with
  | readinto startSector numSectors skipDecompression buf =>
    constructor
    · rintro ⟨⟨hpositive, hwritable, hnonneg, hlt, hlength⟩, hview⟩
      exact ⟨⟨hpositive, hwritable, hnonneg, hlt, hlength⟩, hview⟩
    · rintro ⟨⟨hpositive, hwritable, hnonneg, hlt, hlength⟩, hview⟩
      exact ⟨⟨hpositive, hwritable, hnonneg, hlt, hlength⟩, hview⟩
  | write => exact Iff.rfl
  | roundtrip => exact Iff.rfl

/-- Every call of a session with an opId left whose arguments pass the checks has a request. -/
theorem Checked.asks (hchecked : op.Checked library disk) (hopId : disk.opId < 2 ^ 32)
    (hcall : ∀ msgType payload extra extraRecv, op ≠ .roundtrip msgType payload extra extraRecv) :
    ∃ request, op.Asks library disk request := by
  cases op with
  | readinto startSector numSectors skipDecompression buf =>
    obtain ⟨hpositive, ⟨data, hdata⟩, hfits⟩ := hchecked
    exact ⟨_, .readinto ⟨hpositive, hdata⟩
      ⟨hopId, hfits.start_nonneg, hfits.start_lt, hfits.length_lt⟩⟩
  | write startSector numSectors data =>
    obtain ⟨hpositive, hdata, hfits, hreturns⟩ := hchecked
    obtain ⟨frames, hrun⟩ := WriteRun.exists_of_returns
      (show WriteFits disk startSector (requestLength disk numSectors) from
        ⟨hopId, hfits.start_nonneg, hfits.start_lt, hfits.length_lt⟩)
      hdata hreturns fun _ ↦ dvd_zero _
    exact ⟨_, .write hpositive hdata hrun⟩
  | roundtrip msgType payload extra extraRecv => exact absurd rfl (hcall _ _ _ _)

end Operation

/-! ### Runs -/

/-- A request on the wire whose messages all have the opId. -/
inductive CarriesOpId (opId : ℕ) : Bytes → Prop
  | message {msgType : ℕ} {payload extra : Bytes} :
      CarriesOpId opId (aioMessage msgType opId payload ++ extra)
  | frames {frames : List IoFrame} (hsome : frames ≠ [])
      (hopId : ∀ frame ∈ frames, frame.opId = opId) :
      CarriesOpId opId (frames.flatMap IoFrame.bytes)

/-- The request of an operation has the opId the counter shows. -/
theorem Operation.Asks.carriesOpId {op : Operation} {request : Bytes}
    (hasks : op.Asks library disk request) : CarriesOpId disk.opId request := by
  cases hasks with
  | @readinto startSector numSectors skipDecompression buf _ _ =>
    have hmessage : readRequest disk startSector (requestLength disk numSectors) =
        aioMessage nfcAioMsgIo disk.opId
          ((readFields disk startSector (requestLength disk numSectors)).flatMap Field.bytes) ++
            [] := by
      rw [List.append_nil, aioMessage, length_readFields, readRequest]
    rw [hmessage]
    exact .message
  | @write startSector numSectors data frames hpositive hdata hrun =>
    exact .frames (hrun.ne_nil (requestLength_pos hpositive)) fun frame hmem ↦
      (hrun.shared frame hmem).1
  | roundtrip => exact .message

/-- One operation of a run, with the request it sent, if it sent one. Arrivals may come before any
operation, and an operation that sent its request may then return or raise. -/
inductive NumberedStep (library : FastLzLibrary) (before : NfcDisk) :
    Operation → Option Bytes → NfcDisk → Prop
  | sent {op : Operation} {request : Bytes} {inbox : List Arrival} {outcome : Except PyError Unit}
      {after : NfcDisk} (hasks : op.Asks library (before.meets inbox) request)
      (hrun : op.run library (before.meets inbox) = (outcome, after)) :
      NumberedStep library before op (some request) after
  | rejected {op : Operation} {inbox : List Arrival} {outcome : Except PyError Unit}
      {after : NfcDisk} (hrejected : op.Rejected library (before.meets inbox))
      (hrun : op.run library (before.meets inbox) = (outcome, after)) :
      NumberedStep library before op none after

/-- A step that rejects nothing late. -/
def EarlyStep (library : FastLzLibrary) (before : NfcDisk) (op : Operation)
    (request : Option Bytes) (after : NfcDisk) : Prop :=
  NumberedStep library before op request after ∧ (request = none → ¬ op.RejectedLate before)

/-- The requests are on the wire behind what was sent before, and carry the opIds that follow. -/
structure Numbered (before : NfcDisk) (requests : List Bytes) (after : NfcDisk) : Prop where
  sent_eq : after.sock.sent = before.sock.sent ++ requests.flatten
  opId_eq : after.opId = before.opId + requests.length
  opIds : ∀ k (hk : k < requests.length), CarriesOpId (before.opId + k) requests[k]
  sends : after.sock.Sends

/-- A rejected operation that leaves everything unchanged changes no session. -/
theorem Operation.LeavesUnchanged.session {op : Operation}
    (hsame : op.LeavesUnchanged library disk) : (op.run library disk).2 = disk := by
  cases op with
  | readinto startSector numSectors skipDecompression buf =>
    exact congrArg Prod.fst hsame
  | write => exact hsame
  | roundtrip => exact hsame

/-- A step sends one request with the next opId, or nothing. -/
theorem EarlyStep.numbered {op : Operation} {request : Option Bytes} {after : NfcDisk}
    (hstep : EarlyStep library disk op request after) (hsends : disk.sock.Sends) :
    Numbered disk request.toList after := by
  obtain ⟨hstep, hearly⟩ := hstep
  cases hstep with
  | @sent request inbox outcome _ hasks hrun =>
    obtain ⟨taken, htook, hafter⟩ := hasks.received (show (disk.meets inbox).sock.Sends from hsends)
    rw [hrun] at htook hafter
    have hopId : after.opId = disk.opId + 1 := congrArg NfcDisk.opId hafter
    refine ⟨?_, hopId, ?_, htook.sends hsends⟩
    · have hsent := htook.sent_eq
      rw [Option.toList_some, List.flatten_singleton]
      exact hsent
    · intro k hk
      obtain rfl : k = 0 := by simpa using hk
      exact hasks.carriesOpId
  | @rejected inbox outcome _ hrejected hrun =>
    have hlate := (op.rejectedLate_meets inbox).not.mpr (hearly rfl)
    have hsame := (hrejected.unchanged_iff.2.mpr hlate).session
    rw [hrun] at hsame
    change after = disk.meets inbox at hsame
    subst hsame
    refine ⟨(List.append_nil _).symm, rfl, fun k hk ↦ absurd hk (Nat.not_lt_zero k), hsends⟩

/-- Requests that follow one another are numbered together. -/
theorem Numbered.append {before middle after : NfcDisk} {requests later : List Bytes}
    (hfirst : Numbered before requests middle) (hlast : Numbered middle later after) :
    Numbered before (requests ++ later) after := by
  refine ⟨?_, ?_, ?_, hlast.sends⟩
  · rw [hlast.sent_eq, hfirst.sent_eq, List.flatten_append, List.append_assoc]
  · rw [hlast.opId_eq, hfirst.opId_eq, List.length_append, Nat.add_assoc]
  · intro k hk
    by_cases hfront : k < requests.length
    · rw [List.getElem_append_left hfront]
      exact hfirst.opIds k hfront
    · have hfrom : requests.length ≤ k := not_lt.mp hfront
      rw [List.getElem_append_right hfrom]
      have hopId := hlast.opIds (k - requests.length) (by rw [List.length_append] at hk; omega)
      rwa [hfirst.opId_eq, Nat.add_assoc, Nat.add_sub_cancel' hfrom] at hopId

/-- Along a run without late rejections the requests on the wire are numbered. -/
theorem numbered_of_run {ops : List Operation} {sent : List (Option Bytes)} {last : NfcDisk}
    (hsends : disk.sock.Sends) (hrun : Run (EarlyStep library) disk ops sent last) :
    Numbered disk (sent.flatMap Option.toList) last := by
  induction hrun with
  | nil => exact ⟨(List.append_nil _).symm, rfl, fun k hk ↦ absurd hk (Nat.not_lt_zero k), hsends⟩
  | cons hstep _ ih =>
    have hfirst := hstep.numbered hsends
    exact hfirst.append (ih hfirst.sends)

/-- A call that is rejected because of its arguments leaves the session and the caller's buffer as they
were if and only if it is not rejected late: it is neither a write that passes its two checks nor a read
that passes its checks with a view that has gaps or several dimensions. A `read` is to the session a
`readinto`. Every call that passes the checks, with an opId left, has a request. In every run in which
nothing is rejected late, the requests on the wire carry the opIds that follow the first, one each, and
shared by all frames of a write. -/
theorem rejected_requests (library : FastLzLibrary) :
    (∀ (disk : NfcDisk) (op : Operation), op.Rejected library disk →
      (∃ error, (op.run library disk).1 = .error error) ∧
        (op.LeavesUnchanged library disk ↔ ¬ op.RejectedLate disk)) ∧
    (∀ (disk : NfcDisk) (startSector numSectors : ℤ),
      (read library startSector numSectors disk).2 =
        ((Operation.readinto startSector numSectors false
          (Buffer.zeros (requestLength disk numSectors))).run library disk).2) ∧
    (∀ (disk : NfcDisk) (op : Operation), op.Checked library disk → disk.opId < 2 ^ 32 →
      (∀ msgType payload extra extraRecv, op ≠ .roundtrip msgType payload extra extraRecv) →
      ∃ request, op.Asks library disk request) ∧
    (∀ (disk last : NfcDisk) (ops : List Operation) (sent : List (Option Bytes)),
      disk.sock.Sends → Run (EarlyStep library) disk ops sent last →
        Numbered disk (sent.flatMap Option.toList) last) :=
  ⟨fun _ _ hrejected ↦ hrejected.unchanged_iff,
    fun disk startSector numSectors ↦ read_snd library startSector numSectors disk,
    fun _ _ hchecked hopId hcall ↦ hchecked.asks hopId hcall,
    fun _ _ _ _ hsends hrun ↦ numbered_of_run hsends hrun⟩

theorem rejected_requests_none_then_one :
    ∃ last request, Run (EarlyStep FastLz.storing) (fresh [])
        [.readinto 0 0 false (Buffer.zeros 4), .readinto 0 1 false (Buffer.zeros 4)]
        [none, some request] last ∧
      CarriesOpId 0 request ∧ last.sock.sent = request ∧ last.opId = 1 := by
  have hrejected : (Operation.readinto 0 0 false (Buffer.zeros 4)).Rejected FastLz.storing
      ((fresh []).meets []) := Or.inl fun hchecked ↦ absurd hchecked.positive (by decide)
  have hasks : (Operation.readinto 0 1 false (Buffer.zeros 4)).Asks FastLz.storing
      (((fresh []).meets []).meets []) _ :=
    .readinto ⟨le_rfl, rfl⟩ ⟨by decide, by decide, by decide, by decide⟩
  have hfirst : EarlyStep FastLz.storing (fresh [])
      (.readinto 0 0 false (Buffer.zeros 4)) none ((fresh []).meets []) :=
    ⟨.rejected hrejected rfl, fun _ hlate ↦ absurd hlate.1.positive (by decide)⟩
  have hsecond : EarlyStep FastLz.storing ((fresh []).meets [])
      (.readinto 0 1 false (Buffer.zeros 4)) (some _) _ :=
    ⟨.sent hasks rfl, fun hnone ↦ by cases hnone⟩
  have hrun := Run.cons hfirst (Run.cons hsecond .nil)
  obtain ⟨-, -, -, hruns⟩ := rejected_requests FastLz.storing
  have hnumbered := hruns _ _ _ _ ⟨rfl, rfl⟩ hrun
  exact ⟨_, _, hrun, hnumbered.opIds 0 Nat.zero_lt_one, hnumbered.sent_eq.trans
    (List.append_nil _), hnumbered.opId_eq⟩

/-- Every other byte of a `bytearray(8)`, as its view with step 2. -/
def everyOther : Buffer :=
  ⟨[0, 0, 0, 0], false, .bytes (.rows ⟨4, 2⟩ [])⟩

/-- A write of one valid sector at a negative address raises `struct.error`: nothing is sent, and the
next request of the session has opId 1. A read into a view with gaps raises `TypeError` when the reply has
come: its request has been sent. -/
theorem rejected_requests_leave_traces :
    ((write FastLz.storing (-1) 1 [1, 2, 3, 4] (fresh [])).1 =
        .error (structError "argument out of range") ∧
      (write FastLz.storing (-1) 1 [1, 2, 3, 4] (fresh [])).2.sock.sent = [] ∧
      (write FastLz.storing (-1) 1 [1, 2, 3, 4] (fresh [])).2.opId = 1 ∧
      (read FastLz.storing 0 1 (write FastLz.storing (-1) 1 [1, 2, 3, 4] (fresh [])).2).2.sock.sent =
        readRequest { fresh [] with opId := 1 } 0 4) ∧
    ((readinto FastLz.storing 0 1 false (fresh (IoFrame.raw 4 0 [1, 2, 3, 4]).bytes, everyOther)).1 =
        .error viewWithGaps ∧
      (readinto FastLz.storing 0 1 false
          (fresh (IoFrame.raw 4 0 [1, 2, 3, 4]).bytes, everyOther)).2.1.sock.sent =
        readRequest (fresh []) 0 4 ∧
      (readinto FastLz.storing 0 1 false
          (fresh (IoFrame.raw 4 0 [1, 2, 3, 4]).bytes, everyOther)).2.1.opId = 1) := by
  decide +kernel

end OpenVixDiskLib
