import OpenVixDiskLib.Nfc.Reply

/-!
# Runs of the read loop

`ReadRun` is the read loop on bytes alone: the fragments it accepts, in order, the bytes they take
from the stream and what becomes of the buffer, with no socket and no segmentation. A loop that
returns is such a run over the bytes it took (`readLoop_run`), and every such run is completed when
the stream holds its bytes (`readLoop_of_run`). `readinto_ok` and `readinto_of_run` carry both
directions to the whole call. A run is determined by its stream (`ReadRun.unique`), also across the
two modes.
-/

set_option autoImplicit false
set_option relaxedAutoImplicit false

namespace OpenVixDiskLib

open NfcDisk

/-- A run of the read loop from local variables and a buffer: it accepts `fragments`, whose frames
are the given bytes of the stream, and ends with the last locals and buffer. -/
inductive ReadRun (library : FastLzLibrary) (length opId : ℕ) (skipDecompression : Bool) :
    ReadLocals → Bytes → List Fragment → Bytes → ReadLocals → Bytes → Prop
  | done {locals : ReadLocals} {buffer : Bytes} (hfilled : length ≤ locals.filled) :
      ReadRun library length opId skipDecompression locals buffer [] [] locals buffer
  | accept {locals last : ReadLocals} {fragment : Fragment} {fragments : List Fragment}
      {bytes chunk rest buffer final : Bytes} {offset : ℕ}
      (hgo : locals.filled < length)
      (hframe : ReplyFrame opId fragment bytes)
      (hacceptable : fragment.Acceptable length locals.seen)
      (hplacement : fragment.placement library length skipDecompression locals.packedOffset =
        some (offset, chunk))
      (hrest : ReadRun library length opId skipDecompression
        (locals.after skipDecompression fragment) (buffer.splice offset chunk) fragments rest last
        final) :
      ReadRun library length opId skipDecompression locals buffer (fragment :: fragments)
        (bytes ++ rest) last final

/-- A loop that returns is a run over the bytes it took from the stream. -/
theorem readLoop_run {library : FastLzLibrary} {length opId : ℕ} {skipDecompression : Bool}
    {locals last : ReadLocals} {env after : ReadEnv} (hroom : length ≤ env.2.bytes.length)
    (h : readLoop library .flat length opId skipDecompression locals env = (.ok last, after)) :
    ∃ fragments taken,
      ReadRun library length opId skipDecompression locals env.2.bytes fragments taken last
        after.2.bytes ∧
      ReadStep env taken after.2.bytes after := by
  refine Proc.whileLoop_induction (readFragment_decreasing library .flat length opId skipDecompression)
    (fun locals env last after ↦ length ≤ env.2.bytes.length →
      ∃ fragments taken,
        ReadRun library length opId skipDecompression locals env.2.bytes fragments taken last
          after.2.bytes ∧
        ReadStep env taken after.2.bytes after) ?_ ?_ locals env last after h hroom
  · intro locals env hstop _
    exact ⟨[], [], .done (by simpa using hstop), ReadStep.refl env⟩
  · intro locals env next middle last after hgo hround ih hroom
    obtain ⟨fragment, bytes, offset, chunk, hframe, hacceptable, hplacement, hstep, rfl⟩ :=
      readFragment_ok (.flat hroom) hround
    have hbuffer : middle.2.bytes = env.2.bytes.splice offset chunk := by rw [hstep.buf]
    have hfits := Fragment.placement_fits hframe hacceptable.bounded hplacement
    obtain ⟨fragments, taken, hrun, hlast⟩ := ih (by
      rw [hbuffer, List.length_splice (hfits.trans hroom)]
      exact hroom)
    rw [hbuffer] at hrun
    exact ⟨fragment :: fragments, bytes ++ taken,
      .accept (by simpa using hgo) hframe hacceptable hplacement hrun, hstep.trans hlast⟩

/-- The loop completes every run whose bytes the stream holds. -/
theorem readLoop_of_run {library : FastLzLibrary} {length opId : ℕ} {skipDecompression : Bool}
    {locals last : ReadLocals} {buffer final taken : Bytes} {fragments : List Fragment}
    (hrun : ReadRun library length opId skipDecompression locals buffer fragments taken last final)
    {env : ReadEnv} {rest : Bytes} (hbuffer : env.2.bytes = buffer)
    (hroom : length ≤ buffer.length) (hholds : env.1.sock.Holds (taken ++ rest)) :
    ∃ after, readLoop library .flat length opId skipDecompression locals env = (.ok last, after) ∧
      ReadStep env taken final after := by
  induction hrun generalizing env with
  | done hfilled =>
    subst hbuffer
    refine ⟨env, ?_, ReadStep.refl env⟩
    rw [readLoop, Proc.whileLoop_unfold (readFragment_decreasing _ _ _ _ _),
      if_neg (by simpa using hfilled)]
  | @accept locals last fragment fragments bytes chunk remaining buffer final offset hgo hframe
      hacceptable hplacement hrest ih =>
    subst hbuffer
    rw [List.append_assoc] at hholds
    obtain ⟨middle, hround, hstep⟩ :=
      readFragment_of_frame hroom hframe hacceptable hplacement hholds
    have hfits := Fragment.placement_fits hframe hacceptable.bounded hplacement
    obtain ⟨after, hloop, hlast⟩ := ih (by rw [hstep.buf])
      (by rw [List.length_splice (hfits.trans hroom)]; exact hroom) (hstep.took.holds hholds)
    refine ⟨after, ?_, hstep.trans hlast⟩
    rw [readLoop, Proc.whileLoop_unfold (readFragment_decreasing _ _ _ _ _),
      if_pos (by simpa using hgo), Proc.bind_of_ok hround]
    exact hloop

/-- Two runs on one stream from locals that have accepted the same fragments accept the same
fragments, whatever the modes. -/
theorem ReadRun.unique {library : FastLzLibrary} {length opId : ℕ} {first second : Bool}
    {locals locals' last last' : ReadLocals} {buffer buffer' final final' taken taken' rest rest' :
    Bytes} {fragments fragments' : List Fragment}
    (hfirst : ReadRun library length opId first locals buffer fragments taken last final)
    (hsecond : ReadRun library length opId second locals' buffer' fragments' taken' last' final')
    (hfilled : locals.filled = locals'.filled)
    (hstream : taken ++ rest = taken' ++ rest') :
    fragments = fragments' ∧ taken = taken' ∧ rest = rest' := by
  induction hfirst generalizing locals' buffer' fragments' taken' with
  | done hdone =>
    cases hsecond with
    | done _ => exact ⟨rfl, rfl, hstream⟩
    | accept hgo _ _ _ _ => omega
  | accept hgo hframe _ _ _ ih =>
    cases hsecond with
    | done hdone => omega
    | accept _ hframe' _ _ hrest' =>
      simp only [List.append_assoc] at hstream
      obtain ⟨rfl, rfl, htail⟩ := hframe.unique hframe' hstream
      obtain ⟨rfl, rfl, hrest⟩ := ih hrest'
        (congrArg (fun filled ↦ filled + _) hfilled) htail
      exact ⟨rfl, rfl, hrest⟩

/-! ### The request -/

/-- The arguments of a read fit the fields of its request. -/
structure ReadFits (disk : NfcDisk) (startSector : ℤ) (length : ℕ) : Prop where
  opId_lt : disk.opId < 2 ^ 32
  start_nonneg : 0 ≤ startSector * disk.sectorSize
  start_lt : startSector * disk.sectorSize < 2 ^ 64
  length_lt : length < 2 ^ 32

theorem ReadFits.withInbox {disk : NfcDisk} {startSector : ℤ} {length : ℕ}
    (hfits : ReadFits disk startSector length) (inbox : List Arrival) :
    ReadFits (disk.withInbox inbox) startSector length :=
  ⟨hfits.opId_lt, hfits.start_nonneg, hfits.start_lt, hfits.length_lt⟩

/-- The request of a read. -/
def readRequest (disk : NfcDisk) (startSector : ℤ) (length : ℕ) : Bytes :=
  (hdrFields nfcAioMsgIo 44 disk.opId).flatMap Field.bytes ++
    (readFields disk startSector length).flatMap Field.bytes

theorem readFields_fits {disk : NfcDisk} {startSector : ℤ} {length : ℕ} :
    (∀ field ∈ readFields disk startSector length, field.Fits) ↔
      0 ≤ startSector * disk.sectorSize ∧ startSector * disk.sectorSize < 2 ^ 64 ∧
        length < 2 ^ 32 := by
  have hhandle : (Field.Q disk.handle.toNat).Fits := Field.fits_Q.mpr disk.handle.toNat_lt
  have hopcode : (Field.Q (readOpcode disk.compression)).Fits := by
    cases disk.compression <;> decide
  simp only [readFields, List.forall_mem_cons, hhandle, hopcode, Field.fits_I, Field.fits_Q_int,
    Field.fits_I_zero, List.not_mem_nil, false_imp_iff, implies_true, and_true, true_and]
  constructor
  · rintro ⟨⟨hnonneg, hlt⟩, -, hlength, -⟩
    exact ⟨hnonneg, hlt, hlength⟩
  · rintro ⟨hnonneg, hlt, hlength⟩
    exact ⟨⟨hnonneg, hlt⟩, by omega, hlength, hlength⟩

@[simp] theorem length_readFields (disk : NfcDisk) (startSector : ℤ) (length : ℕ) :
    ((readFields disk startSector length).flatMap Field.bytes).length = 44 := by
  simp [readFields, Field.width]

/-- A request that was sent had fitting arguments; it took the next opId and added its bytes to
those sent. -/
theorem sendRead_ok {disk after : NfcDisk} {startSector : ℤ} {length opId : ℕ}
    (h : sendRead startSector length disk = (.ok opId, after)) :
    ReadFits disk startSector length ∧ opId = disk.opId ∧
      Sock.sendall (readRequest disk startSector length) disk.sock = (.ok (), after.sock) ∧
      after = disk.afterCall after.sock := by
  rw [sendRead, Proc.get_bind_apply] at h
  obtain ⟨payload, hpayload, h⟩ := Proc.lift_bind_eq_ok.mp h
  obtain ⟨hpayloadFits, rfl⟩ := pack_eq_ok.mp hpayload
  rw [Proc.bind_of_ok (nextOpId_apply disk)] at h
  obtain ⟨hdr, hhdr, h⟩ := Proc.lift_bind_eq_ok.mp h
  obtain ⟨hhdrFits, rfl⟩ := pack_eq_ok.mp hhdr
  obtain ⟨⟨⟩, sent, hsend, hpure⟩ := Proc.bind_eq_ok.mp h
  obtain ⟨sock, hsendall, rfl⟩ := Proc.zoom_eq_ok.mp hsend
  rw [Proc.pure_apply, Prod.mk.injEq, Except.ok.injEq] at hpure
  obtain ⟨rfl, rfl⟩ := hpure
  obtain ⟨hnonneg, hlt, hlength⟩ := readFields_fits.mp hpayloadFits
  obtain ⟨-, -, hopId⟩ := hdrFields_fits.mp hhdrFits
  rw [length_readFields] at hsendall
  exact ⟨⟨hopId, hnonneg, hlt, hlength⟩, rfl, hsendall, rfl⟩

/-- A request with fitting arguments is sent when the send succeeds. -/
theorem sendRead_of_fits {disk : NfcDisk} {startSector : ℤ} {length : ℕ} {sock : Sock}
    (hfits : ReadFits disk startSector length)
    (hsend : Sock.sendall (readRequest disk startSector length) disk.sock = (.ok (), sock)) :
    sendRead startSector length disk = (.ok disk.opId, disk.afterCall sock) := by
  have hpayload : readPayload disk startSector length =
      .ok ((readFields disk startSector length).flatMap Field.bytes) :=
    pack_of_fits (readFields_fits.mpr ⟨hfits.start_nonneg, hfits.start_lt, hfits.length_lt⟩)
  have hhdr : packAioHdr nfcAioMsgIo 44 disk.opId =
      .ok ((hdrFields nfcAioMsgIo 44 disk.opId).flatMap Field.bytes) :=
    pack_of_fits (hdrFields_fits.mpr ⟨by decide, by decide, hfits.opId_lt⟩)
  rw [sendRead, Proc.get_bind_apply, Proc.lift_bind_of_ok hpayload,
    Proc.bind_of_ok (nextOpId_apply disk), length_readFields, Proc.lift_bind_of_ok hhdr]
  exact Proc.bind_of_ok (Proc.zoom_of_eq NfcDisk.sockPart hsend)

/-- A request that was not sent changed nothing but the opId. -/
theorem sendRead_error {disk after : NfcDisk} {startSector : ℤ} {length : ℕ} {error : PyError}
    (h : sendRead startSector length disk = (.error error, after)) : disk.Refused after := by
  rw [sendRead, Proc.get_bind_apply] at h
  obtain hpayload | ⟨payload, middle, hpayload, h⟩ := Proc.bind_eq_error.mp h
  · rw [Proc.lift_apply] at hpayload
    exact ⟨disk.opId, le_rfl, (Prod.mk.inj hpayload).2.symm⟩
  rw [Proc.lift_apply] at hpayload
  obtain rfl := (Prod.mk.inj hpayload).2
  rw [Proc.bind_of_ok (nextOpId_apply disk)] at h
  obtain hhdr | ⟨hdr, middle, hhdr, h⟩ := Proc.bind_eq_error.mp h
  · rw [Proc.lift_apply] at hhdr
    exact ⟨disk.opId + 1, Nat.le_succ _, (Prod.mk.inj hhdr).2.symm⟩
  rw [Proc.lift_apply] at hhdr
  obtain rfl := (Prod.mk.inj hhdr).2
  obtain hsend | ⟨_, middle, -, h⟩ := Proc.bind_eq_error.mp h
  · rw [Proc.zoom_apply] at hsend
    obtain ⟨hresult, rfl⟩ := Prod.mk.inj hsend
    have hsock := Sock.sendall_error (Proc.eq_of_fst hresult)
    exact ⟨disk.opId + 1, Nat.le_succ _, by rw [hsock]; rfl⟩
  · rw [Proc.pure_apply] at h
    simp at h

/-! ### Whole reads -/

/-- What lets a request out: at least one sector to read, and a buffer of which so many rows can be
written, which are `data`. -/
structure ReadAccepted (numSectors : ℤ) (env : ReadEnv) (data : ByteView) : Prop where
  positive : 1 ≤ numSectors
  data_eq : writableBytes env.2 (requestLength env.1 numSectors) = .ok data

/-- What the caller should hand over: at least one sector to read, and a writable flat buffer that has
room for the request. -/
structure ReadReady (numSectors : ℤ) (env : ReadEnv) : Prop where
  positive : 1 ≤ numSectors
  writable : env.2.readonly = false
  flat : env.2.Flat
  room : requestLength env.1 numSectors ≤ env.2.bytes.length

theorem ReadReady.accepted {numSectors : ℤ} {env : ReadEnv} (hready : ReadReady numSectors env) :
    ReadAccepted numSectors env .flat :=
  ⟨hready.positive, hready.flat.writableBytes_eq_ok.mpr ⟨hready.writable, hready.room, rfl⟩⟩

theorem ReadAccepted.ready {numSectors : ℤ} {env : ReadEnv} {data : ByteView}
    (haccepted : ReadAccepted numSectors env data) (hflat : env.2.Flat) : ReadReady numSectors env := by
  obtain ⟨hreadonly, hroom, -⟩ := hflat.writableBytes_eq_ok.mp haccepted.data_eq
  exact ⟨haccepted.positive, hreadonly, hflat, hroom⟩

/-- The result of a run of the read loop. -/
def readResult (length : ℕ) (skipDecompression : Bool) (last : ReadLocals) : ReadResult :=
  ⟨length, last.wireBytes, if skipDecompression then last.fragments else []⟩

/-- A read that returned: its request was sent, it accepted `fragments`, whose frames are the bytes
`taken` from the stream, and it ended with the locals `last`. -/
structure ReadReturned (library : FastLzLibrary) (startSector numSectors : ℤ)
    (skipDecompression : Bool) (env after : ReadEnv) (fragments : List Fragment) (taken : Bytes)
    (last : ReadLocals) : Prop where
  ready : ReadReady numSectors env
  fits : ReadFits env.1 startSector (requestLength env.1 numSectors)
  sendable : env.1.sock.Sendable
  run : ReadRun library (requestLength env.1 numSectors) env.1.opId skipDecompression readStart
    env.2.bytes fragments taken last after.2.bytes
  exchange : env.1.sock.Exchanged
    (readRequest env.1 startSector (requestLength env.1 numSectors)) taken after.1.sock
  disk : after.1 = env.1.afterCall after.1.sock
  readonly : after.2.readonly = env.2.readonly
  layout : after.2.layout = env.2.layout

/-- A `readinto` of a flat buffer that returns has completed a run. -/
theorem readinto_ok {library : FastLzLibrary} {startSector numSectors : ℤ}
    {skipDecompression : Bool} {env after : ReadEnv} {result : ReadResult} (hflat : env.2.Flat)
    (h : readinto library startSector numSectors skipDecompression env = (.ok result, after)) :
    ∃ fragments taken last,
      ReadReturned library startSector numSectors skipDecompression env after fragments taken last ∧
      result = readResult (requestLength env.1 numSectors) skipDecompression last := by
  rw [readinto, Proc.raiseIf_bind_eq_ok, Proc.get_bind_apply] at h
  obtain ⟨hpositive, h⟩ := h
  obtain ⟨data, hwritable, h⟩ := Proc.lift_bind_eq_ok.mp h
  obtain ⟨hreadonly, hroom, rfl⟩ := hflat.writableBytes_eq_ok.mp hwritable
  obtain ⟨opId, sent, hsent, h⟩ := Proc.bind_eq_ok.mp h
  obtain ⟨disk, hsend, rfl⟩ := Proc.zoom_eq_ok.mp hsent
  obtain ⟨hfits, rfl, hsendall, hdisk⟩ := sendRead_ok hsend
  obtain ⟨last, final, hloop, hpure⟩ := Proc.bind_eq_ok.mp h
  rw [Proc.pure_apply, Prod.mk.injEq, Except.ok.injEq] at hpure
  obtain ⟨rfl, rfl⟩ := hpure
  have hstart : requestLength env.1 numSectors ≤ (envDisk.set disk env).2.bytes.length := hroom
  obtain ⟨fragments, taken, hrun, hstep⟩ := readLoop_run hstart hloop
  have hexchange := (Sock.sendall_ok hsendall).trans (.of_took hstep.took)
  rw [List.append_nil, List.nil_append] at hexchange
  refine ⟨fragments, taken, last, ⟨⟨by omega, hreadonly, hflat, hroom⟩, hfits,
    Sock.sendall_eq_ok.mp ⟨_, hsendall⟩, hrun, hexchange, ?_, ?_, ?_⟩, rfl⟩
  · rw [hstep.disk]
    change { disk with sock := final.1.sock } = _
    rw [hdisk]
    rfl
  · rw [hstep.buf]
    rfl
  · rw [hstep.buf]
    rfl

/-- A `readinto` with valid arguments whose request is sent runs its loop. -/
theorem readinto_eq_loop (library : FastLzLibrary) {startSector numSectors : ℤ}
    (skipDecompression : Bool) {env : ReadEnv} {sock : Sock} {data : ByteView}
    (haccepted : ReadAccepted numSectors env data)
    (hfits : ReadFits env.1 startSector (requestLength env.1 numSectors))
    (hsend : Sock.sendall (readRequest env.1 startSector (requestLength env.1 numSectors))
      env.1.sock = (.ok (), sock)) :
    readinto library startSector numSectors skipDecompression env =
      (readLoop library data (requestLength env.1 numSectors) env.1.opId skipDecompression readStart >>=
        fun locals ↦ pure (readResult (requestLength env.1 numSectors) skipDecompression locals))
          (envDisk.set (env.1.afterCall sock) env) := by
  rw [readinto, Proc.raiseIf_bind_of_neg (by have := haccepted.positive; omega),
    Proc.get_bind_apply, Proc.lift_bind_of_ok haccepted.data_eq,
    Proc.bind_of_ok (Proc.zoom_of_eq envDisk (sendRead_of_fits hfits hsend))]
  rfl

/-- A `readinto` completes every run whose bytes the stream holds. -/
theorem readinto_of_run {library : FastLzLibrary} {startSector numSectors : ℤ}
    {skipDecompression : Bool} {env : ReadEnv} {fragments : List Fragment}
    {taken rest final : Bytes} {last : ReadLocals} (hready : ReadReady numSectors env)
    (hfits : ReadFits env.1 startSector (requestLength env.1 numSectors))
    (hsendable : env.1.sock.Sendable)
    (hrun : ReadRun library (requestLength env.1 numSectors) env.1.opId skipDecompression readStart
      env.2.bytes fragments taken last final)
    (hholds : env.1.sock.Holds (taken ++ rest)) :
    ∃ after, readinto library startSector numSectors skipDecompression env =
        (.ok (readResult (requestLength env.1 numSectors) skipDecompression last), after) ∧
      after.2.bytes = final ∧
      ReadReturned library startSector numSectors skipDecompression env after fragments taken
        last := by
  obtain ⟨sock, hsendall⟩ := Sock.sendall_eq_ok.mpr hsendable
  have hexchange := Sock.sendall_ok hsendall
  obtain ⟨after, hloop, hstep⟩ := readLoop_of_run hrun
    (show (envDisk.set (env.1.afterCall sock) env).2.bytes = env.2.bytes from rfl) hready.room
    (hexchange.holds hholds)
  refine ⟨after, ?_, by rw [hstep.buf], hready, hfits, hsendable, ?_, ?_, ?_, ?_, ?_⟩
  · rw [readinto_eq_loop library skipDecompression hready.accepted hfits hsendall]
    exact Proc.bind_of_ok hloop
  · rw [show after.2.bytes = final by rw [hstep.buf]]
    exact hrun
  · have hwhole := hexchange.trans (.of_took hstep.took)
    rwa [List.append_nil, List.nil_append] at hwhole
  · rw [hstep.disk]
    rfl
  · rw [hstep.buf]
    rfl
  · rw [hstep.buf]
    rfl

/-- A `read` returns what its `readinto` left in the buffer. -/
theorem read_of_readinto {library : FastLzLibrary} {startSector numSectors : ℤ} {disk : NfcDisk}
    {result : ReadResult} {after : ReadEnv} (hpositive : 1 ≤ numSectors)
    (hread : readinto library startSector numSectors false
      (disk, Buffer.zeros (requestLength disk numSectors)) = (.ok result, after)) :
    read library startSector numSectors disk = (.ok after.2.bytes, after.1) := by
  unfold NfcDisk.read
  rw [Proc.raiseIf_bind_of_neg (by omega), Proc.get_bind_apply,
    Proc.bind_of_ok (Proc.withLocal_of_ok hread)]
  rfl

/-- A `read` leaves the session as its `readinto` does. -/
theorem read_snd (library : FastLzLibrary) (startSector numSectors : ℤ) (disk : NfcDisk) :
    (read library startSector numSectors disk).2 =
      (readinto library startSector numSectors false
        (disk, Buffer.zeros (requestLength disk numSectors))).2.1 := by
  unfold NfcDisk.read
  by_cases hpositive : numSectors < 1
  · rw [Proc.raiseIf_bind_of_pos hpositive, readinto, Proc.raiseIf_bind_of_pos hpositive]
  · rw [Proc.raiseIf_bind_of_neg hpositive, Proc.get_bind_apply]
    rcases hrun : readinto library startSector numSectors false
      (disk, Buffer.zeros (requestLength disk numSectors)) with ⟨_ | result, after⟩
    · rw [Proc.bind_of_error (Proc.withLocal_of_error hrun)]
    · rw [Proc.bind_of_ok (Proc.withLocal_of_ok hrun)]
      rfl

/-! ### Whatever a read receives -/

/-- The session has received bytes; the buffer may have changed. -/
def EnvReceived (before after : ReadEnv) : Prop :=
  before.1.Received after.1

theorem EnvReceived.refl (env : ReadEnv) : EnvReceived env env :=
  NfcDisk.Received.refl env.1

theorem EnvReceived.trans (first middle last : ReadEnv) (hfirst : EnvReceived first middle)
    (hlast : EnvReceived middle last) : EnvReceived first last :=
  NfcDisk.Received.trans _ _ _ hfirst hlast

theorem moves_recvn_env (size : ℕ) :
    Proc.Moves EnvReceived (Proc.zoom envSock (recvn size)) := by
  refine .zoom (fun env last htook ↦ ?_) (moves_recvn size)
  obtain ⟨taken, htook⟩ := htook
  exact ⟨taken, htook, rfl⟩

theorem moves_receiveInto (data : ByteView) (offset length : ℕ) :
    Proc.Moves EnvReceived (receiveInto data offset length) := by
  refine .zoom (fun env last htook ↦ ?_) (moves_recvnInto _)
  obtain ⟨taken, htook⟩ := htook
  exact ⟨taken, htook, rfl⟩

theorem moves_storeChunk (data : ByteView) (offset : ℕ) (chunk : Bytes) :
    Proc.Moves EnvReceived (storeChunk data offset chunk) :=
  .bind EnvReceived.trans (.raiseIf EnvReceived.refl _ _) fun _ ↦
    .modify fun env ↦ NfcDisk.Received.refl env.1

theorem moves_receiveExtra (library : FastLzLibrary) (data : ByteView) (length : ℕ)
    (skipDecompression : Bool) (packedOffset dest chunkLen ctype extraLen : ℕ) :
    Proc.Moves EnvReceived (receiveExtra library data length skipDecompression packedOffset dest
      chunkLen ctype extraLen) := by
  unfold receiveExtra
  split_ifs with hskip hfastlz hnone
  · refine .bind EnvReceived.trans (.raiseIf EnvReceived.refl _ _) fun _ ↦ ?_
    exact .bind EnvReceived.trans (moves_receiveInto _ _ _) fun _ ↦ .pure EnvReceived.refl _
  · refine .bind EnvReceived.trans (moves_recvn_env _) fun extra ↦ ?_
    refine .bind EnvReceived.trans ?_ fun chunk ↦ ?_
    · exact .tryExcept EnvReceived.trans (.lift EnvReceived.refl _) fun _ ↦ .raise EnvReceived.refl _
    · refine .bind EnvReceived.trans (.raiseIf EnvReceived.refl _ _) fun _ ↦ ?_
      exact .bind EnvReceived.trans (moves_storeChunk _ _ _) fun _ ↦ .pure EnvReceived.refl _
  · exact .bind EnvReceived.trans (moves_receiveInto _ _ _) fun _ ↦ .pure EnvReceived.refl _
  · exact .raise EnvReceived.refl _

theorem moves_readFragment (library : FastLzLibrary) (data : ByteView) (length opId : ℕ)
    (skipDecompression : Bool) (locals : ReadLocals) :
    Proc.Moves EnvReceived (readFragment library data length opId skipDecompression locals) := by
  unfold readFragment
  refine .bind EnvReceived.trans (moves_recvn_env _) fun rhdr ↦ ?_
  refine .bind EnvReceived.trans (.lift EnvReceived.refl _) fun hdr ↦ ?_
  refine .bind EnvReceived.trans (.raiseIf EnvReceived.refl _ _) fun _ ↦ ?_
  refine .bind EnvReceived.trans (moves_recvn_env _) fun body ↦ ?_
  refine .bind EnvReceived.trans (.raiseIf EnvReceived.refl _ _) fun _ ↦ ?_
  refine .bind EnvReceived.trans (.lift EnvReceived.refl _) fun opcode ↦ ?_
  refine .bind EnvReceived.trans (.lift EnvReceived.refl _) fun dest ↦ ?_
  refine .bind EnvReceived.trans (.lift EnvReceived.refl _) fun chunkLen ↦ ?_
  refine .bind EnvReceived.trans (.raiseIf EnvReceived.refl _ _) fun _ ↦ ?_
  refine .bind EnvReceived.trans (.lift EnvReceived.refl _) fun extraLen ↦ ?_
  exact .bind EnvReceived.trans (moves_receiveExtra _ _ _ _ _ _ _ _ _) fun _ ↦
    .pure EnvReceived.refl _

/-- After its request a read only receives, whether it returns or raises. -/
theorem readinto_received (library : FastLzLibrary) {startSector numSectors : ℤ}
    (skipDecompression : Bool) {env : ReadEnv} {sock : Sock} {data : ByteView}
    (haccepted : ReadAccepted numSectors env data)
    (hfits : ReadFits env.1 startSector (requestLength env.1 numSectors))
    (hsend : Sock.sendall (readRequest env.1 startSector (requestLength env.1 numSectors))
      env.1.sock = (.ok (), sock)) :
    (env.1.afterCall sock).Received
      (readinto library startSector numSectors skipDecompression env).2.1 := by
  rw [readinto_eq_loop library skipDecompression haccepted hfits hsend]
  refine (Proc.Moves.bind EnvReceived.trans ?_ fun _ ↦ .pure EnvReceived.refl _)
    (envDisk.set (env.1.afterCall sock) env)
  exact .whileLoop EnvReceived.refl EnvReceived.trans (moves_readFragment _ _ _ _ _) _

/-- A read sends its request, or nothing and leaves the buffer as it was. -/
theorem readinto_sends_or_keeps (library : FastLzLibrary) (startSector numSectors : ℤ)
    (skipDecompression : Bool) (env : ReadEnv) :
    (env.1.Refused (readinto library startSector numSectors skipDecompression env).2.1 ∧
        (readinto library startSector numSectors skipDecompression env).2.2 = env.2) ∨
      (∃ data, ReadAccepted numSectors env data) ∧
        ReadFits env.1 startSector (requestLength env.1 numSectors) ∧
        ∃ sock, Sock.sendall (readRequest env.1 startSector (requestLength env.1 numSectors))
          env.1.sock = (.ok (), sock) := by
  have hrefl : env.1.Refused env.1 ∧ env.2 = env.2 := ⟨⟨env.1.opId, le_rfl, rfl⟩, rfl⟩
  by_cases hpositive : numSectors < 1
  · left
    rw [readinto, Proc.raiseIf_bind_of_pos hpositive]
    exact hrefl
  rw [readinto, Proc.raiseIf_bind_of_neg hpositive, Proc.get_bind_apply]
  rcases hwritable : writableBytes env.2 (requestLength env.1 numSectors) with error | data
  · left
    exact hrefl
  rw [Proc.lift_bind_of_ok rfl]
  rcases hsend : sendRead startSector (requestLength env.1 numSectors) env.1 with
    ⟨error | opId, after⟩
  · left
    rw [Proc.bind_of_error (Proc.zoom_of_eq envDisk hsend)]
    exact ⟨sendRead_error hsend, rfl⟩
  · right
    obtain ⟨hfits, -, hsendall, -⟩ := sendRead_ok hsend
    exact ⟨⟨data, by omega, hwritable⟩, hfits, _, hsendall⟩

/-- A read sends its request or nothing. -/
theorem readinto_sends_or_refuses (library : FastLzLibrary) (startSector numSectors : ℤ)
    (skipDecompression : Bool) (env : ReadEnv) :
    env.1.Refused (readinto library startSector numSectors skipDecompression env).2.1 ∨
      (∃ data, ReadAccepted numSectors env data) ∧
        ReadFits env.1 startSector (requestLength env.1 numSectors) ∧
        ∃ sock, Sock.sendall (readRequest env.1 startSector (requestLength env.1 numSectors))
          env.1.sock = (.ok (), sock) :=
  (readinto_sends_or_keeps library startSector numSectors skipDecompression env).imp_left And.left

end OpenVixDiskLib
