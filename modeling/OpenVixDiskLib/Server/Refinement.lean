import OpenVixDiskLib.Server.Server

/-!
# A session refines an array of bytes

A session that is ready for a list of calls (`Session.Ready`) has sends that succeed, nothing unread,
opIds left for all calls, and calls whose arguments are valid. Each of its calls sends one request
whatever it receives, the server can answer that request, and with every answer, in every
segmentation, the call shows what the array shows and leaves a session that is ready for the rest
(`Call.Correct`, `Session.Ready.correct`).

So every run of calls against the server is a run of the array (`session_refines_array`).
-/

set_option autoImplicit false
set_option relaxedAutoImplicit false

namespace OpenVixDiskLib

open NfcDisk
open Arrival (Quiet streamBytes quiet_segment)

variable {library : FastLzLibrary} {packing : Bool} {handle : ℕ}
  {content : Bytes}

/-! ### One call -/

/-- The call sends the request, whatever comes in. -/
def Call.Emits (library : FastLzLibrary) (session : Session) (call : Call) (request : Bytes) :
    Prop :=
  ∀ inbox, (call.run library (session.disk.meets inbox)).2.sock.sent =
    session.disk.sock.sent ++ request

/-- The call sends a request that the server can answer, and every answer makes the call do what it
does to the array. -/
structure Call.Correct (library : FastLzLibrary) (session : Session) (call : Call)
    (request : Bytes) : Prop where
  emits : call.Emits library session request
  served : ∃ content reply, Serves library call.skips session.disk.handle.toNat session.content
    request content reply
  answered : ∀ content inbox, Quiet inbox →
    Serves library call.skips session.disk.handle.toNat session.content request content
      (streamBytes inbox) →
    ∃ sock, call.run library (session.disk.meets inbox) =
        ((arrayMachine session.disk.sectorSize session.content call).1,
          session.disk.afterCall sock) ∧
      content = (arrayMachine session.disk.sectorSize session.content call).2 ∧
      sock.Sends ∧ sock.Holds []

/-- A session with nothing unread whose sends succeed, that has opIds left for the calls and valid
arguments for all of them. -/
structure Session.Ready (library : FastLzLibrary) (calls : List Call) (session : Session) :
    Prop where
  sends : session.disk.sock.Sends
  holds : session.disk.sock.Holds []
  opId_le : session.disk.opId + calls.length ≤ 2 ^ 32
  valid : ∀ call ∈ calls, call.Valid session.disk.sectorSize session.content.length
  promised : ∀ call ∈ calls, call.Promised library session.disk

/-- The request for a call on the disk as it is. -/
def NfcDisk.Requests (library : FastLzLibrary) (disk : NfcDisk) (call : Call) (request : Bytes) : Prop :=
  call.Requests library disk.compression disk.handle.toNat disk.sectorSize disk.opId request

variable {call : Call} {calls : List Call} {session : Session}

/-- The arguments of a valid read fit its request. -/
theorem Session.Ready.readFits (hready : session.Ready library (call :: calls)) :
    ReadFits session.disk call.startSector (requestLength session.disk call.numSectors) := by
  have hvalid := hready.valid call List.mem_cons_self
  have hopId := hready.opId_le
  rw [List.length_cons] at hopId
  exact ⟨by omega, mul_nonneg hvalid.start_nonneg (Int.natCast_nonneg _), hvalid.offset_lt,
    hvalid.length_lt⟩

/-- What a valid read does, in either mode. -/
theorem Session.Ready.readinto_answered (startSector numSectors : ℤ) (skipDecompression : Bool)
    {buf : Buffer} {inbox : List Arrival} (hready : session.Ready library (call :: calls))
    (hstart : call.startSector = startSector) (hsectors : call.numSectors = numSectors)
    (hwritable : buf.readonly = false) (hflat : buf.Flat)
    (hroom : requestLength session.disk numSectors ≤ buf.bytes.length)
    (hquiet : Quiet inbox)
    (hserves : Serves library skipDecompression handle session.content
      (readHead session.disk startSector (requestLength session.disk numSectors)).bytes content
      (streamBytes inbox)) :
    content = session.content ∧ ∃ result after,
      readinto library startSector numSectors skipDecompression (session.disk.meets inbox, buf) =
        (.ok result, after) ∧
      (if skipDecompression then rebuildSkip library after.2.bytes result else .ok after.2.bytes) =
        .ok (session.content.slice (call.offset session.disk.sectorSize)
            (call.length session.disk.sectorSize) ++
          if skipDecompression then [] else
            buf.bytes.drop (call.length session.disk.sectorSize)) ∧
      after.1 = session.disk.afterCall after.1.sock ∧ after.1.sock.Sends ∧ after.1.sock.Holds [] := by
  have hfits := hready.readFits
  have hvalid := hready.valid call List.mem_cons_self
  subst hstart hsectors
  obtain ⟨rfl, -, frames, hreply, hcarries, hpacked⟩ := hserves.of_read hfits.head_fits rfl
  refine ⟨rfl, ?_⟩
  have hlength : (session.content.slice (call.offset session.disk.sectorSize)
      (call.length session.disk.sectorSize)).length =
      requestLength session.disk call.numSectors :=
    List.length_slice _ _ _ hvalid.inside
  change Carries library session.disk.opId (session.content.slice
    (call.offset session.disk.sectorSize) (call.length session.disk.sectorSize)) frames at hcarries
  have hholds := meets_holds hready.holds hquiet
  rw [hreply, ← List.append_nil (frames.flatMap _)] at hholds
  have hargs : ReadReady call.numSectors (session.disk.meets inbox, buf) :=
    ⟨hvalid.positive, hwritable, hflat, hroom⟩
  have hfits : ReadFits (session.disk.meets inbox) call.startSector
    (requestLength session.disk call.numSectors) := hfits.withInbox _
  cases skipDecompression with
  | false =>
    obtain ⟨last, hrun⟩ := ReadRun.of_carries hcarries (hlength.trans_le hroom)
    rw [hlength] at hrun
    obtain ⟨after, hread, hbuffer, hreturned⟩ :=
      readinto_of_run hargs hfits hready.sends.sendable hrun hholds
    refine ⟨_, after, hread, ?_, hreturned.disk, hreturned.exchange.sends hready.sends,
      hreturned.exchange.holds hholds⟩
    rw [hbuffer]
    rfl
  | true =>
    obtain ⟨last, final, hrun, hrebuild⟩ := ReadRun.skip_of_carries hcarries
      (hcarries.extraBytes_le (hpacked rfl)) (hlength.trans_le hroom)
    rw [hlength] at hrun hrebuild
    obtain ⟨after, hread, hbuffer, hreturned⟩ :=
      readinto_of_run hargs hfits hready.sends.sendable hrun hholds
    refine ⟨_, after, hread, ?_, hreturned.disk, hreturned.exchange.sends hready.sends,
      hreturned.exchange.holds hholds⟩
    rw [hbuffer]
    exact hrebuild.trans (congrArg Except.ok (List.append_nil _).symm)

/-- The server can answer a valid read: with one raw frame. -/
theorem Session.Ready.read_served (hready : session.Ready library (call :: calls)) :
    ∃ content reply, Serves library packing session.disk.handle.toNat session.content
      (readHead session.disk call.startSector (requestLength session.disk call.numSectors)).bytes
      content reply := by
  have hfits := hready.readFits
  have hvalid := hready.valid call List.mem_cons_self
  have hlength : (session.content.slice (call.offset session.disk.sectorSize)
      (call.length session.disk.sectorSize)).length = call.length session.disk.sectorSize :=
    List.length_slice _ _ _ hvalid.inside
  have hpos : 0 < call.length session.disk.sectorSize :=
    Nat.mul_pos (by have := hvalid.positive; omega) session.disk.sectorSize_pos
  refine ⟨_, _, .read hfits.head_fits rfl rfl rfl hfits.start_nonneg hvalid.inside
    (Carries.whole hfits.opId_lt (List.ne_nil_of_length_pos (hlength.symm ▸ hpos))
      (hlength.symm ▸ hvalid.length_lt)) fun _ ↦ ?_⟩
  rw [List.forall_mem_singleton]
  exact le_rfl

/-- A valid write is correct. -/
theorem Session.Ready.write_correct {startSector numSectors : ℤ} {data : Bytes}
    (hready : session.Ready library (.write startSector numSectors data :: calls)) :
    ∃ request, session.disk.Requests library (.write startSector numSectors data) request ∧
      Call.Correct library session (.write startSector numSectors data) request := by
  have hvalid := hready.valid _ List.mem_cons_self
  have hpositive : 1 ≤ numSectors := hvalid.positive
  have hpromise : KeepsPromise library session.disk data :=
    hready.promised _ List.mem_cons_self
  have hread := hready.readFits
  have hdata : data.length = requestLength session.disk numSectors := hvalid.data
  have hfits : WriteFits session.disk startSector (requestLength session.disk numSectors) :=
    ⟨hread.opId_lt, hread.start_nonneg, hread.start_lt, hread.length_lt⟩
  obtain ⟨frames, hrun⟩ := WriteRun.exists_of_returns hfits hdata
    (hpromise.returns (hdata ▸ hfits.length_lt)) fun _ ↦ dvd_zero _
  obtain ⟨hcarries, -⟩ := hrun.carries hdata hfits.length_lt hpromise
  have hstored : ∀ frame ∈ frames, frame.diskOffset = startSector * session.disk.sectorSize :=
    fun frame hmem ↦ (hrun.shared frame hmem).2.2.2.1
  have hinside : (startSector * session.disk.sectorSize).toNat + data.length ≤
      session.content.length := by
    rw [hdata]
    exact hvalid.inside
  have hmeets : ∀ inbox, WriteRun library (session.disk.meets inbox) startSector
      (requestLength session.disk numSectors) data session.disk.opId 0 frames :=
    fun inbox ↦ hrun.of_config rfl rfl rfl rfl
  have hmessage : WriteMessage session.disk.handle.toNat session.disk.opId
      (startSector * session.disk.sectorSize) (requestLength session.disk numSectors) frames := by
    have hsum := hcarries.sum_chunkLen
    refine ⟨fun frame hmem ↦ (hcarries.wellFormed frame hmem).1, hrun.shared, ?_, hsum.trans hdata⟩
    rintro rfl
    have hpos : 0 < data.length := by
      rw [hdata]
      exact Nat.mul_pos (by omega) session.disk.sectorSize_pos
    rw [List.map_nil, List.sum_nil] at hsum
    omega
  refine ⟨frames.flatMap IoFrame.bytes, ⟨frames, rfl, hmessage, hcarries⟩,
    ⟨fun inbox ↦ ?_, ?_, fun content inbox hquiet hserves ↦ ?_⟩⟩
  · rw [Call.run_write_snd]
    exact write_sent hpositive
      (show data.length = requestLength (session.disk.meets inbox) numSectors from hdata) hready.sends
      (hmeets inbox)
  · have hbody : (List.replicate 44 (0 : UInt8)).length = 44 := List.length_replicate
    refine ⟨_, _, .write hmessage (fun frame hmem ↦ ?_) hfits.start_nonneg (hdata ▸ hinside) hbody⟩
    rw [(hcarries.slices frame hmem).decodes, Option.isSome_some]
  · have hwrite : ∀ frame ∈ frames, frame.WellFormed ∧ frame.opId = session.disk.opId ∧
        frame.direction = nfcAioIoWrite := fun frame hmem ↦
      ⟨(hcarries.wellFormed frame hmem).1, (hcarries.wellFormed frame hmem).2,
        (hrun.shared frame hmem).2.2.1⟩
    obtain ⟨rfl, body, hbody, hreply⟩ := hserves.of_write hwrite
    have hholds := meets_holds hready.holds hquiet
    rw [hreply, ← List.append_nil (aioMessage _ _ _)] at hholds
    obtain ⟨sock, hwritten, hexchange⟩ := write_of_ack hpositive
      (show data.length = requestLength (session.disk.meets inbox) numSectors from hdata) hready.sends
      (hmeets inbox) hfits.opId_lt (by rw [hbody]; decide) hholds
    refine ⟨sock, ?_, hcarries.foldl_placeFrame hstored hinside, hexchange.sends hready.sends,
      hexchange.holds hholds⟩
    rw [Call.run, hwritten]
    rfl

/-- A valid read sends its request whatever comes in. -/
theorem Session.Ready.readinto_sent (startSector numSectors : ℤ) (skipDecompression : Bool)
    {buf : Buffer} {inbox : List Arrival} (hready : session.Ready library (call :: calls))
    (hstart : call.startSector = startSector) (hsectors : call.numSectors = numSectors)
    (hwritable : buf.readonly = false) (hflat : buf.Flat)
    (hroom : requestLength session.disk numSectors ≤ buf.bytes.length) :
    (readinto library startSector numSectors skipDecompression
      (session.disk.meets inbox, buf)).2.1.sock.sent = session.disk.sock.sent ++
        (readHead session.disk startSector (requestLength session.disk numSectors)).bytes := by
  have hfits := hready.readFits
  have hvalid := hready.valid call List.mem_cons_self
  subst hstart hsectors
  have hargs : ReadReady call.numSectors (session.disk.meets inbox, buf) :=
    ⟨hvalid.positive, hwritable, hflat, hroom⟩
  obtain ⟨taken, htook, -⟩ := readinto_received library skipDecompression hargs.accepted
    (hfits.withInbox (session.disk.sock.inbox ++ inbox))
    (Sock.sendall_of_sends (show (session.disk.meets inbox).sock.Sends from hready.sends) _)
  rw [← readRequest_eq_head hfits.length_lt]
  exact htook.sent_eq

/-- A valid call is correct, with the request for it. -/
theorem Session.Ready.requests (hready : session.Ready library (call :: calls)) :
    ∃ request, session.disk.Requests library call request ∧ call.Correct library session request := by
  have hvalid := hready.valid _ List.mem_cons_self
  cases call with
  | write startSector numSectors data => exact hready.write_correct
  | read startSector numSectors =>
    have hroom : requestLength session.disk numSectors ≤
        (Buffer.zeros (requestLength session.disk numSectors)).bytes.length :=
      List.length_replicate.ge
    refine ⟨_, rfl, fun inbox ↦ ?_, hready.read_served, fun content inbox hquiet hserves ↦ ?_⟩
    · rw [Call.run, read_snd]
      exact hready.readinto_sent startSector numSectors false rfl rfl rfl rfl hroom
    · obtain ⟨rfl, result, after, hread, hbuffer, hafter, hsends, hholds⟩ :=
        hready.readinto_answered startSector numSectors false rfl rfl rfl (Buffer.zeros_flat _) hroom
          hquiet hserves
      refine ⟨after.1.sock, ?_, rfl, hsends, hholds⟩
      have hbytes : after.2.bytes = session.content.slice
          (Call.offset session.disk.sectorSize (.read startSector numSectors))
          (Call.length session.disk.sectorSize (.read startSector numSectors)) := by
        refine (Except.ok.inj hbuffer).trans ?_
        exact (congrArg _ (List.drop_eq_nil_of_le List.length_replicate.le)).trans
          (List.append_nil _)
      have hpositive : 1 ≤ numSectors := hvalid.positive
      rw [Call.run, read_of_readinto hpositive hread, hbytes]
      exact Prod.ext rfl hafter
  | readinto startSector numSectors skipDecompression buf =>
    obtain ⟨hwritable, hflat, hroom⟩ := hvalid.data
    refine ⟨_, rfl, fun inbox ↦ ?_, hready.read_served, fun content inbox hquiet hserves ↦ ?_⟩
    · rw [Call.run_readinto_snd]
      exact hready.readinto_sent startSector numSectors skipDecompression rfl rfl hwritable hflat hroom
    · obtain ⟨rfl, result, after, hread, hbuffer, hafter, hsends, hholds⟩ :=
        hready.readinto_answered startSector numSectors skipDecompression rfl rfl hwritable hflat hroom
          hquiet hserves
      refine ⟨after.1.sock, ?_, rfl, hsends, hholds⟩
      rw [Call.run, hread]
      exact Prod.ext hbuffer hafter

/-- A valid call is correct. -/
theorem Session.Ready.correct (hready : session.Ready library (call :: calls)) :
    ∃ request, call.Correct library session request := by
  obtain ⟨request, -, hcorrect⟩ := hready.requests
  exact ⟨request, hcorrect⟩

/-- A ready session takes a step: the server can answer its request. -/
theorem Session.Ready.progress (hready : session.Ready library (call :: calls)) :
    ∃ outcome after, Step library session call outcome after := by
  obtain ⟨request, hcorrect⟩ := hready.correct
  obtain ⟨content, reply, hserves⟩ := hcorrect.served
  rw [← Arrival.streamBytes_segment reply] at hserves
  obtain ⟨sock, hrun, -⟩ := hcorrect.answered content _ (quiet_segment reply) hserves
  have hemits := hcorrect.emits (Arrival.segment reply)
  rw [hrun] at hemits
  exact ⟨_, ⟨_, content⟩, _, quiet_segment reply, hrun, request, hemits, hserves⟩

/-! ### Runs -/

/-- A correct call answers as the array does, and leaves the session ready for the rest. -/
theorem Call.Correct.step {request : Bytes} {outcome : Except PyError Bytes} {after : Session}
    (hcorrect : call.Correct library session request)
    (hready : session.Ready library (call :: calls))
    (hstep : Step library session call outcome after) :
    outcome = (arrayMachine session.disk.sectorSize session.content call).1 ∧
      after.content = (arrayMachine session.disk.sectorSize session.content call).2 ∧
      after.disk.sectorSize = session.disk.sectorSize ∧ after.Ready library calls := by
  obtain ⟨inbox, hexchange⟩ := hstep
  obtain ⟨request', hsent, hserves⟩ := hexchange.served
  have hemits := hcorrect.emits inbox
  rw [hexchange.ran, hsent] at hemits
  obtain rfl := List.append_cancel_left hemits
  obtain ⟨sock, hrun, hcontent, hsends, hholds⟩ :=
    hcorrect.answered _ inbox hexchange.quiet hserves
  obtain ⟨houtcome, hdisk⟩ := Prod.mk.inj (hexchange.ran.symm.trans hrun)
  have hopId := hready.opId_le
  rw [List.length_cons] at hopId
  have hlength := arrayMachine_length (hready.valid call List.mem_cons_self)
  refine ⟨houtcome, hcontent, by rw [hdisk]; rfl, ?_, ?_, ?_, ?_, ?_⟩
  · rw [hdisk]
    exact hsends
  · rw [hdisk]
    exact hholds
  · rw [hdisk]
    change session.disk.opId + 1 + calls.length ≤ 2 ^ 32
    omega
  · intro call hmem
    rw [hdisk, hcontent, hlength]
    exact hready.valid call (List.mem_cons_of_mem _ hmem)
  · intro call hmem
    have hpromised := hready.promised call (List.mem_cons_of_mem _ hmem)
    rw [hdisk]
    cases call <;> exact hpromised

theorem Session.Ready.step {outcome : Except PyError Bytes} {after : Session}
    (hready : session.Ready library (call :: calls)) (hstep : Step library session call outcome after) :
    after.Ready library calls := by
  obtain ⟨request, hcorrect⟩ := hready.correct
  exact (hcorrect.step hready hstep).2.2.2

/-- A session ready for the calls represents the content its server holds. -/
structure Session.Represents (library : FastLzLibrary) (sectorSize : ℕ) (calls : List Call)
    (session : Session) (content : Bytes) : Prop where
  ready : session.Ready library calls
  content_eq : session.content = content
  sectorSize_eq : session.disk.sectorSize = sectorSize

/-- A step of a session is a step of the array it represents. -/
theorem Session.Represents.step {sectorSize : ℕ} {outcome : Except PyError Bytes} {after : Session}
    (hrepresents : session.Represents library sectorSize (call :: calls) content)
    (hstep : Step library session call outcome after) :
    outcome = (arrayMachine sectorSize content call).1 ∧
      after.Represents library sectorSize calls (arrayMachine sectorSize content call).2 := by
  obtain ⟨hready, rfl, rfl⟩ := hrepresents
  obtain ⟨request, hcorrect⟩ := hready.correct
  obtain ⟨houtcome, hcontent, hsector, hready'⟩ := hcorrect.step hready hstep
  exact ⟨houtcome, hready', hcontent, hsector⟩

/-- A session refines an array of bytes: calls made one after the other show what the array shows
and leave the content the array has, and at no call of such a run is the session stuck, for its
request is one the server can answer, and every answer completes it. -/
theorem session_refines_array (hready : session.Ready library calls) :
    (∀ observed last, Run (Step library) session calls observed last →
      observed =
          (Run.answers (arrayMachine session.disk.sectorSize) session.content calls).1 ∧
        last.content =
          (Run.answers (arrayMachine session.disk.sectorSize) session.content calls).2) ∧
    ∀ made call later observed middle, calls = made ++ call :: later →
      Run (Step library) session made observed middle →
        ∃ request, call.Correct library middle request := by
  constructor
  · intro observed last hrun
    obtain ⟨hobserved, hlast⟩ := Run.simulates
      (fun _ _ _ _ _ _ ↦ Session.Represents.step) ⟨hready, rfl, rfl⟩ hrun
    exact ⟨hobserved, hlast.content_eq⟩
  · rintro made call later observed middle rfl hrun
    exact (Run.invariant (fun _ _ _ _ _ ↦ Session.Ready.step) hready hrun).correct

theorem session_refines_array_sector :
    (∀ observed last, Run (Step FastLz.storing) ⟨fresh [], List.replicate 8 0⟩
        [.write 1 1 [1, 2, 3, 4], .read 0 2] observed last →
      observed = [.ok [], .ok [0, 0, 0, 0, 1, 2, 3, 4]] ∧
        last.content = [0, 0, 0, 0, 1, 2, 3, 4]) ∧
    ∃ request, Call.Correct FastLz.storing ⟨fresh [], List.replicate 8 0⟩ (.write 1 1 [1, 2, 3, 4])
      request := by
  have hready : Session.Ready FastLz.storing [.write 1 1 [1, 2, 3, 4], .read 0 2]
      ⟨fresh [], List.replicate 8 0⟩ := by
    refine ⟨⟨rfl, rfl⟩, ⟨rfl, quiet_segment [], rfl⟩, by decide, ?_, ?_⟩
    · rw [List.forall_mem_cons, List.forall_mem_singleton]
      exact ⟨⟨by decide, by decide, by decide, by decide, by decide, rfl⟩,
        ⟨by decide, by decide, by decide, by decide, by decide, trivial⟩⟩
    · rw [List.forall_mem_cons, List.forall_mem_singleton]
      exact ⟨fun _ _ _ _ _ ↦ FastLz.roundTrips_storing _, trivial⟩
  obtain ⟨hruns, hprogress⟩ := session_refines_array hready
  exact ⟨hruns, hprogress [] _ _ [] _ rfl .nil⟩

end OpenVixDiskLib
