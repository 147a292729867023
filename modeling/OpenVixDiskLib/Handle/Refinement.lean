import OpenVixDiskLib.Handle.Entering
import OpenVixDiskLib.Handle.Silence
import OpenVixDiskLib.Server.Lifetime

/-!
# An open block refines an array of bytes

A life of an `open` block is an entering, calls on the handle that the server answers, and a leaving whose
two requests are acknowledged (`BlockLife`). What the handle adds to a disk (the route over authd, the choice
of the NFC socket, the data a write takes from its source buffer, the second close) shows nowhere: a life of
a block is a life of its disk, and each life of the disk is one of a block (`BlockLife.lifetime`,
`BlockViable.lives`).

So a block shows what an array of bytes shows, on either transport, and when it has been left both its
connections are closed and have been told exactly their conversations (`block_refines_array`).
-/

set_option autoImplicit false
set_option relaxedAutoImplicit false

namespace OpenVixDiskLib

open NfcDisk
open Arrival (Quiet streamBytes)

/-! ### The disk of a handle -/

namespace Opening

variable {opening : Opening} {disk : NfcDisk}

/-- The disk of a handle, on the NFC socket. -/
def handleDisk (opening : Opening) : Option NfcDisk :=
  opening.disk.map fun disk ↦ { disk with sock := opening.nfcSock }

/-- The block once more arrivals are to come on its NFC connection. -/
def meets (opening : Opening) (inbox : List Arrival) : Opening :=
  { opening with
    nfc := (NfcConn.sockPart opening.conn.nfcSsl).set
      { opening.nfcSock with inbox := opening.nfcSock.inbox ++ inbox } opening.nfc }

theorem handleDisk_withDisk (opening : Opening) (disk : NfcDisk) :
    (opening.withDisk disk).handleDisk = some disk := by
  change some { disk with sock := (opening.withDisk disk).nfcSock } = some disk
  rw [nfcSock_withDisk]

theorem handleDisk_meets (hdisk : opening.handleDisk = some disk) (inbox : List Arrival) :
    (opening.meets inbox).handleDisk = some (disk.meets inbox) := by
  obtain ⟨last, hlast, rfl⟩ := Option.map_eq_some_iff.mp hdisk
  have hsock : (opening.meets inbox).nfcSock =
      { opening.nfcSock with inbox := opening.nfcSock.inbox ++ inbox } :=
    NfcConn.sockPart_get_set _ _ _
  change Option.map _ opening.disk = _
  rw [hlast, hsock]
  rfl

/-- A procedure on the disk of a handle runs on that disk. -/
theorem onDisk_handleDisk {α : Type} (hdisk : opening.handleDisk = some disk) (body : Py NfcDisk α) :
    onDisk body opening = ((body disk).1, opening.withDisk (body disk).2) := by
  obtain ⟨last, hlast, rfl⟩ := Option.map_eq_some_iff.mp hdisk
  exact onDisk_of_some hlast body

theorem nfcSock_of_handleDisk (hdisk : opening.handleDisk = some disk) : opening.nfcSock = disk.sock := by
  obtain ⟨last, hlast, rfl⟩ := Option.map_eq_some_iff.mp hdisk
  rfl

end Opening

/-! ### Calls on a handle -/

/-- A read or a write through a handle. -/
inductive BlockCall
  | write (startSector numSectors : ℤ) (buf : SourceBuffer)
  | read (startSector numSectors : ℤ) (skipDecompression : Bool) (buf : Buffer)

namespace BlockCall

/-- The call of the disk behind a call on its handle. -/
def diskCall : BlockCall → Call
  | write startSector numSectors buf =>
    .write startSector numSectors (VixDiskLibHandle.writeData numSectors buf)
  | read startSector numSectors skipDecompression buf =>
    .readinto startSector numSectors skipDecompression buf

/-- Make the call. Shows the bytes it left in the buffer it was given, or after a skip read the bytes its
table rebuilds from the buffer. -/
def run (library : FastLzLibrary) (call : BlockCall) (opening : Opening) :
    Except PyError Bytes × Opening :=
  match call with
  | write startSector numSectors buf =>
    match Opening.write library startSector numSectors buf opening with
    | (.ok _, after) => (.ok [], after)
    | (.error error, after) => (.error error, after)
  | read startSector numSectors skipDecompression buf =>
    match Opening.read library startSector numSectors skipDecompression buf opening with
    | (.ok (.ok result, left), after) =>
      (if skipDecompression then rebuildSkip library left.bytes result else .ok left.bytes, after)
    | (.ok (.error error, _), after) => (.error error, after)
    | (.error error, after) => (.error error, after)

/-- A call on a handle is the call on its disk. -/
theorem run_handleDisk {opening : Opening} {disk : NfcDisk} (hdisk : opening.handleDisk = some disk)
    (library : FastLzLibrary) (call : BlockCall) :
    call.run library opening =
      ((call.diskCall.run library disk).1, opening.withDisk (call.diskCall.run library disk).2) := by
  cases call with
  | write startSector numSectors buf =>
    rw [run, Opening.write, Opening.onDisk_handleDisk hdisk, diskCall, Call.run,
      VixDiskLibHandle.write]
    rcases NfcDisk.write library startSector numSectors (VixDiskLibHandle.writeData numSectors buf)
      disk with ⟨_ | _, after⟩ <;> rfl
  | read startSector numSectors skipDecompression buf =>
    have hread : Opening.read library startSector numSectors skipDecompression buf opening =
        (.ok ((readinto library startSector numSectors skipDecompression (disk, buf)).1,
          (readinto library startSector numSectors skipDecompression (disk, buf)).2.2),
          opening.withDisk (readinto library startSector numSectors skipDecompression (disk, buf)).2.1) :=
      Opening.onDisk_handleDisk hdisk _
    rw [run, hread, diskCall, Call.run]
    rcases readinto library startSector numSectors skipDecompression (disk, buf) with
      ⟨_ | _, after⟩ <;> rfl

end BlockCall

/-! ### A block against the server -/

/-- A block and what the server holds. -/
structure Block where
  opening : Opening
  content : Bytes

/-- One call on the handle while the arrivals `inbox` come in on the NFC connection: they are the server's
answer to the bytes the call sent. -/
structure BlockExchange (library : FastLzLibrary) (inbox : List Arrival) (before : Block)
    (call : BlockCall) (outcome : Except PyError Bytes) (after : Block) : Prop where
  quiet : Quiet inbox
  ran : call.run library (before.opening.meets inbox) = (outcome, after.opening)
  served : ∃ disk request, before.opening.disk = some disk ∧
    after.opening.nfcSock.sent = before.opening.nfcSock.sent ++ request ∧
    Serves library call.diskCall.skips disk.handle.toNat before.content request after.content
      (streamBytes inbox)

/-- One call on the handle against the server. -/
def BlockStep (library : FastLzLibrary) (before : Block) (call : BlockCall)
    (outcome : Except PyError Bytes) (after : Block) : Prop :=
  ∃ inbox, BlockExchange library inbox before call outcome after

/-- The disk of a block is the disk of a session, and the rest of the block is that of `entered`. -/
structure Block.Tracks (entered : Opening) (block : Block) (session : Session) : Prop where
  disk : block.opening.handleDisk = some session.disk
  content_eq : block.content = session.content
  authd_eq : block.opening.authd = entered.authd

section Steps

variable {library : FastLzLibrary} {entered : Opening} {block block' : Block} {session session' : Session}
  {call : BlockCall} {outcome : Except PyError Bytes}

/-- A block tracks the disk of its handle. -/
theorem Block.Tracks.of_handleDisk {disk : NfcDisk} (hdisk : entered.handleDisk = some disk)
    (content : Bytes) : Block.Tracks entered ⟨entered, content⟩ ⟨disk, content⟩ :=
  ⟨hdisk, rfl, rfl⟩

/-- The handle of a block has the number that its disk has. -/
theorem Block.Tracks.handle_eq (htracks : block.Tracks entered session) {disk : NfcDisk}
    (hdisk : block.opening.disk = some disk) : disk.handle = session.disk.handle := by
  obtain ⟨last, hlast, hsame⟩ := Option.map_eq_some_iff.mp htracks.disk
  obtain rfl := Option.some.inj (hdisk.symm.trans hlast)
  rw [← hsame]

/-- A step of a block is a step of its disk. -/
theorem Block.Tracks.step (htracks : block.Tracks entered session)
    (hstep : BlockStep library block call outcome block') :
    ∃ session', Step library session call.diskCall outcome session' ∧ block'.Tracks entered session' := by
  obtain ⟨inbox, hquiet, hran, disk, request, hdisk, hsent, hserves⟩ := hstep
  have hmeets := Opening.handleDisk_meets htracks.disk inbox
  rw [BlockCall.run_handleDisk hmeets] at hran
  obtain ⟨houtcome, hafter⟩ := Prod.mk.inj hran
  rw [htracks.handle_eq hdisk, htracks.content_eq] at hserves
  rw [← hafter, Opening.nfcSock_withDisk, Opening.nfcSock_of_handleDisk htracks.disk] at hsent
  refine ⟨⟨(call.diskCall.run library (session.disk.meets inbox)).2, block'.content⟩,
    ⟨inbox, hquiet, Prod.ext houtcome rfl, request, hsent, hserves⟩, ?_, rfl, ?_⟩
  · rw [← hafter]
    exact Opening.handleDisk_withDisk _ _
  · rw [← hafter]
    exact htracks.authd_eq

/-- A step of the disk of a block is a step of the block. -/
theorem Block.Tracks.step_back (htracks : block.Tracks entered session)
    (hstep : Step library session call.diskCall outcome session') :
    ∃ block', BlockStep library block call outcome block' ∧ block'.Tracks entered session' := by
  obtain ⟨inbox, hquiet, hran, request, hsent, hserves⟩ := hstep
  have hmeets := Opening.handleDisk_meets htracks.disk inbox
  obtain ⟨disk, hdisk, -⟩ := Option.map_eq_some_iff.mp htracks.disk
  refine ⟨⟨(block.opening.meets inbox).withDisk session'.disk, session'.content⟩,
    ⟨inbox, hquiet, ?_, disk, request, hdisk, ?_, ?_⟩, Opening.handleDisk_withDisk _ _, rfl,
    htracks.authd_eq⟩
  · rw [BlockCall.run_handleDisk hmeets, hran]
  · rw [Opening.nfcSock_withDisk, Opening.nfcSock_of_handleDisk htracks.disk]
    exact hsent
  · rw [htracks.handle_eq hdisk, htracks.content_eq]
    exact hserves

/-- A run of a block is a run of its disk. -/
theorem Block.Tracks.run {calls : List BlockCall} {observed : List (Except PyError Bytes)}
    (htracks : block.Tracks entered session)
    (hrun : Run (BlockStep library) block calls observed block') :
    ∃ session', Run (Step library) session (calls.map BlockCall.diskCall) observed session' ∧
      block'.Tracks entered session' := by
  refine @Run.transfers _ _ _ _ _ (BlockStep library) (Step library)
    (fun call call' ↦ call' = call.diskCall) (Block.Tracks entered) ?_ _ _ _ _ _ _ ?_ htracks hrun
  · rintro call _ block session middle outcome rfl hbefore hstep
    exact hbefore.step hstep
  · exact List.forall₂_map_right_iff.mpr (List.forall₂_same.mpr fun _ _ ↦ rfl)

/-- A run of the disk of a block is a run of the block. -/
theorem Block.Tracks.run_back {calls : List BlockCall} {observed : List (Except PyError Bytes)}
    (htracks : block.Tracks entered session)
    (hrun : Run (Step library) session (calls.map BlockCall.diskCall) observed session') :
    ∃ block', Run (BlockStep library) block calls observed block' ∧ block'.Tracks entered session' := by
  refine @Run.transfers _ _ _ _ _ (Step library) (BlockStep library)
    (fun call' call ↦ call' = call.diskCall) (fun session block ↦ block.Tracks entered session) ?_ _ _ _
    _ _ _ ?_ htracks hrun
  · rintro _ call session block middle outcome rfl hbefore hstep
    exact hbefore.step_back hstep
  · exact List.forall₂_map_left_iff.mpr (List.forall₂_same.mpr fun _ _ ↦ rfl)

end Steps

/-! ### The whole life -/

/-- A life of a block: what its calls showed, what the server holds behind them, and what leaving the block
raised and made of it. -/
inductive BlockLife (special : Char → List Char) (library : FastLzLibrary) (conn : Connection)
    (fate : OpeningFate) (call : OpenCall) (content : Bytes) (calls : List BlockCall) :
    List (Except PyError Bytes) → Bytes → Except PyError Unit → Opening → Prop
  | lived {entered left : Opening} {block : Block} {disk : NfcDisk} {inbox : List Arrival}
      {observed : List (Except PyError Bytes)} {result : Except PyError Unit}
      (henter : Opening.enter special call (.fresh conn fate) = (.ok (), entered))
      (hrun : Run (BlockStep library) ⟨entered, content⟩ calls observed block) (hquiet : Quiet inbox)
      (hdisk : block.opening.disk = some disk) (hacks : Acknowledges disk.opId (streamBytes inbox))
      (hleave : Opening.close (block.opening.meets inbox) = (result, left)) :
      BlockLife special library conn fate call content calls observed block.content result left

/-- Everything a life needs: arguments that are allowed and fit their fields, hosts that go along, an NFC
stream that holds a welcome, calls that are valid on the welcome's disk, and opIds for all of them. -/
structure BlockViable (special : Char → List Char) (library : FastLzLibrary) (conn : Connection)
    (fate : OpeningFate) (call : OpenCall) (compression : Compression) (settings : OpenSettings)
    (ticket : HostServiceTicket) (handle : UInt64) (sectorSize : ℕ) (content : Bytes)
    (calls : List BlockCall) : Prop where
  reliable : fate.Reliable
  fits : call.Fits
  allowed : call.Allowed conn compression settings
  connects : fate.Connects special conn call ticket
  welcome : ∃ welcome, Welcome handle sectorSize welcome ∧
    streamBytes (fate.nfcInbox conn.nfcSsl) = welcome
  nfc_closes : ∀ error, (Opening.fresh conn fate).nfcSock.closeError = some error →
    error.isOsError = true
  authd_closes : ∀ error, fate.authdTls.closeError = some error → error.isOsError = true
  opId_le : calls.length + 6 ≤ 2 ^ 32
  valid : ∀ call ∈ calls, call.diskCall.Valid sectorSize content.length
  promised : ∀ made ∈ calls, made.diskCall.Promised library
    (init (Opening.fresh conn fate).nfcSock call.diskPath settings)

section Life

variable {special : Char → List Char} {library : FastLzLibrary} {conn : Connection} {fate : OpeningFate}
  {call : OpenCall} {compression : Compression} {settings : OpenSettings} {ticket : HostServiceTicket}
  {handle : UInt64} {sectorSize : ℕ} {content : Bytes} {calls : List BlockCall}

/-- The disk of a viable block is viable. -/
theorem BlockViable.viable (hviable : BlockViable special library conn fate call compression settings ticket
    handle sectorSize content calls) :
    Viable library (call.openArgs compression) settings handle sectorSize (Opening.fresh conn fate).nfcSock
      content (calls.map BlockCall.diskCall) where
  fits := (hviable.fits.fitsFields compression).fitsWire hviable.allowed.check
  sends := (Opening.fresh_nfcSock conn hviable.reliable.sends).1
  closes := hviable.nfc_closes
  welcome := by
    obtain ⟨welcome, hwelcome, hstream⟩ := hviable.welcome
    refine ⟨welcome, hwelcome, (Opening.fresh_nfcSock conn hviable.reliable.sends).1.1,
      hviable.reliable.fresh_quiet conn, ?_⟩
    rw [Opening.fresh_inbox, hstream]
  opId_le := by
    rw [List.length_map]
    exact hviable.opId_le
  valid := List.forall_mem_map.mpr hviable.valid
  promised := List.forall_mem_map.mpr hviable.promised

/-- Leaving a block closes its disk, and the authd socket behind it. -/
theorem Opening.close_handleDisk {opening left : Opening} {disk : NfcDisk} {result : Except PyError Unit}
    (hdisk : opening.handleDisk = some disk)
    (hcloses : ∀ error, opening.authd.authd.closeError = some error → error.isOsError = true)
    (hleave : Opening.close opening = (result, left)) :
    NfcDisk.close disk = (result, (NfcDisk.close disk).2) ∧
      left.nfcSock = (NfcDisk.close disk).2.sock ∧
      left.authd = { opening.authd with authd := { opening.authd.authd with closed := true } } := by
  have hquietly : Proc.zoom authdSock Sock.closeQuietly (opening.withDisk (NfcDisk.close disk).2) =
      (.ok (), (opening.withDisk (NfcDisk.close disk).2).closeAuthd) :=
    Proc.zoom_of_eq authdSock (Sock.closeQuietly_apply hcloses)
  rw [Opening.close, Proc.tryFinally_of_ok (onDisk_handleDisk hdisk NfcDisk.close) hquietly] at hleave
  obtain ⟨hresult, rfl⟩ := Prod.mk.inj hleave
  exact ⟨Prod.ext hresult rfl, nfcSock_withDisk opening (NfcDisk.close disk).2, rfl⟩

/-- The disk of a block that has been entered is the disk that `open_disk` returned. -/
theorem Opening.handleDisk_opened {start : Opening} {args : OpenArgs} {nfc : NfcConn} {disk : NfcDisk}
    (hopens : start.nfc.openDisk args start.conn.nfcSsl = (.ok disk, nfc))
    (ticket : Option HostServiceTicket) (authd : AuthdConn) :
    ({ start with ticket := ticket, authd := authd, nfc := nfc, disk := some disk } : Opening).handleDisk =
      some disk := by
  obtain ⟨settings, -, -, -, rfl⟩ := NfcConn.openDisk_eq_ok.mp hopens
  change some { disk with sock := (NfcConn.sockPart start.conn.nfcSsl).get _ } = some disk
  rw [NfcConn.sockPart_get_set]

/-- A life of a block is a life of its disk, and leaves the connection to authd as its conversation left it,
but closed. -/
theorem BlockLife.lifetime {observed : List (Except PyError Bytes)} {last : Bytes}
    {result : Except PyError Unit} {left : Opening}
    (hlife : BlockLife special library conn fate call content calls observed last result left)
    (hviable : BlockViable special library conn fate call compression settings ticket handle sectorSize
      content calls) :
    Lifetime library (call.openArgs compression) (Opening.fresh conn fate).nfcSock content
        (calls.map BlockCall.diskCall) observed last result left.nfcSock ∧
      left.authd.authd.closed = true ∧ left.authd.authd.sent =
        (authdCommands ticket conn.nfcSsl).flatMap asciiBytes := by
  cases hlife with
  | @lived entered _ block disk inbox _ _ henter hrun hquiet hdisk hacks hleave =>
    obtain ⟨compression', settings', ticket', authd, nfc, opened, hallowed, hticket, hconnects, hopens,
      rfl⟩ := Opening.enter_eq_ok.mp henter
    obtain rfl := Except.ok.inj (hallowed.compression_eq.symm.trans hviable.allowed.compression_eq)
    obtain rfl := Except.ok.inj (hticket.symm.trans hviable.connects.granted)
    obtain ⟨settings', hcheck, -, hmakes, rfl⟩ := NfcConn.openDisk_eq_ok.mp hopens
    have hopened := Opening.handleDisk_opened hopens (some ticket') authd
    obtain ⟨session, hrun', htracks'⟩ := (Block.Tracks.of_handleDisk hopened content).run hrun
    have houtcome := connectAuthd_outcome special ticket' conn.allowUntrusted conn.nfcSsl
      (Opening.fresh conn fate).authd
    rw [show connectAuthd special ticket' conn.allowUntrusted conn.nfcSsl (Opening.fresh conn fate).authd =
      _ from hconnects] at houtcome
    obtain ⟨⟨-, replies, -, hexchange⟩, -⟩ :=
      houtcome.done_of_ok (hviable.reliable.ascii _ _ _ hticket)
    have hauthd : block.opening.authd = authd := htracks'.authd_eq
    obtain ⟨hclose, hsock, hleft⟩ := Opening.close_handleDisk
      (Opening.handleDisk_meets htracks'.disk inbox) (fun error hraises ↦ by
        change block.opening.authd.authd.closeError = some error at hraises
        rw [hauthd, hexchange.closeError_eq] at hraises
        exact hviable.authd_closes error hraises) hleave
    have hopId : disk.opId = session.disk.opId := by
      obtain ⟨last, hlast, hsame⟩ := Option.map_eq_some_iff.mp htracks'.disk
      obtain rfl := Option.some.inj (hdisk.symm.trans hlast)
      rw [← hsame]
    rw [hopId] at hacks
    rw [hsock, htracks'.content_eq]
    refine ⟨.lived ((openDisk_eq_ok hcheck).mpr hmakes) hrun' hquiet hacks hclose, ?_, ?_⟩
    · rw [hleft]
    · rw [hleft]
      change block.opening.authd.authd.sent = _
      rw [hauthd, hexchange.sent_eq]
      rfl

/-- There is a life of a viable block. -/
theorem BlockViable.lives (hviable : BlockViable special library conn fate call compression settings ticket
    handle sectorSize content calls) :
    ∃ observed last result left,
      BlockLife special library conn fate call content calls observed last result left := by
  obtain ⟨observed, last, result, sock, hlife⟩ := hviable.viable.lives
  cases hlife with
  | @lived opened closed session _ inbox _ hopen hrun hquiet hacks hclose =>
    have hascii := hviable.reliable.ascii _ _ _ hviable.connects.granted
    have hconnects := Proc.eq_of_fst ((hviable.reliable.connectAuthd_iff conn hascii).mpr
      ⟨hviable.connects.authd, hviable.connects.welcomes⟩)
    have hopens := NfcConn.openDisk_eq_ok.mpr ⟨settings, hviable.allowed.check, hviable.connects.nfc,
      (openDisk_eq_ok hviable.allowed.check).mp hopen, rfl⟩
    have henter := Opening.enter_eq_ok.mpr ⟨compression, settings, ticket, _, _, opened, hviable.allowed,
      hviable.connects.granted, hconnects, hopens, rfl⟩
    have hopened := Opening.handleDisk_opened hopens (some ticket)
      (connectAuthd special ticket conn.allowUntrusted conn.nfcSsl (Opening.fresh conn fate).authd).2
    obtain ⟨block, hrun', htracks'⟩ := (Block.Tracks.of_handleDisk hopened content).run_back hrun
    obtain ⟨disk, hdisk, hsame⟩ := Option.map_eq_some_iff.mp htracks'.disk
    have hopId : session.disk.opId = disk.opId := by rw [← hsame]
    rw [hopId] at hacks
    exact ⟨observed, block.content, _, _, .lived henter hrun' hquiet hdisk hacks rfl⟩

/-- An open block refines an array of bytes: there is a life for all valid calls, and in every life the calls
show what the array shows, the server holds what the array holds, leaving the block returns, both its
connections are closed, authd has been told the four commands, and the NFC service the opening, the request
for each call under the next opId, and the farewell. -/
theorem block_refines_array (hviable : BlockViable special library conn fate call compression settings ticket
    handle sectorSize content calls) :
    (∃ observed last result left,
      BlockLife special library conn fate call content calls observed last result left) ∧
    ∀ observed last result left,
      BlockLife special library conn fate call content calls observed last result left →
      observed = (Run.answers (arrayMachine sectorSize) content (calls.map BlockCall.diskCall)).1 ∧
      last = (Run.answers (arrayMachine sectorSize) content (calls.map BlockCall.diskCall)).2 ∧
      result = .ok () ∧ left.nfcSock.closed = true ∧ left.authd.authd.closed = true ∧
      left.authd.authd.sent = (authdCommands ticket conn.nfcSsl).flatMap asciiBytes ∧
      ∃ requests : List Bytes,
        Requested library settings.compression handle.toNat sectorSize 4 (calls.map BlockCall.diskCall)
          requests ∧
        left.nfcSock.sent = tokenBytes (openTokens (call.openArgs compression) settings) ++
          requests.flatten ++ farewell handle (4 + calls.length) := by
  refine ⟨hviable.lives, fun observed last result left hlife ↦ ?_⟩
  obtain ⟨hlifetime, hauthd, htold⟩ := hlife.lifetime hviable
  obtain ⟨hobserved, hlast, hresult, hclosed, requests, hrequests, hsent⟩ :=
    hlifetime.refines hviable.viable
  rw [List.length_map] at hsent
  rw [(Opening.fresh_nfcSock conn hviable.reliable.sends).2, List.nil_append] at hsent
  exact ⟨hobserved, hlast, hresult, hclosed, hauthd, htold, requests, hrequests, hsent⟩

end Life

/-! ### Two calls on two sectors -/

/-- A host that opens the disk of a VM for writing. -/
def writableOpening : OpeningFate :=
  { willingOpening bareTicket openNfcRoute with
    service := ⟨.ok (), .ok ⟨"vm-1", "esx",
      [.disk ⟨2000, some (.base (some "[datastore0] vm/vm.vmdk"))⟩]⟩, fun _ ↦ .ok bareTicket⟩ }

/-- A write of the front of a buffer to the second of two sectors, and a skip read of both. -/
def twoBlockCalls : List BlockCall :=
  [.write 1 1 (.bytes (List.replicate 600 1)), .read 0 2 true (.zeros 1024)]

theorem viable_twoBlockCalls : BlockViable (fun char ↦ [char]) FastLz.storing
    ⟨"vm-1", false, false, .nbdssl⟩ writableOpening
    ⟨"[datastore0] vm/vm.vmdk", 32, nfcAioBufferSize, nfcAioBufferCount⟩ .fastlz
    ⟨.fastlz, nfcAioBufferSize, nfcAioBufferCount, by decide, by decide⟩ bareTicket 7 512
    (List.replicate 1024 0) twoBlockCalls := by
  have hreliable : writableOpening.Reliable := reliable_willingOpening (fun _ ↦ rfl) openNfcRoute
  have hascii : AsciiTicket bareTicket :=
    hreliable.ascii true "[datastore0] vm/vm.vmdk" bareTicket rfl
  obtain ⟨hauthd, hwelcomes⟩ := (@OpeningFate.Reliable.connectAuthd_iff (fun char ↦ [char]) bareTicket
    writableOpening hreliable ⟨"vm-1", false, false, .nbdssl⟩ hascii).mp (by decide +kernel)
  refine ⟨hreliable, ⟨by decide, by decide, by decide +kernel⟩, ⟨rfl, fun h ↦ ?_, rfl⟩,
    ⟨by decide +kernel, hauthd, hwelcomes, ⟨rfl, ⟨rfl, rfl, rfl, fun _ ↦ rfl⟩, fun _ ↦ rfl⟩⟩,
    ⟨openingReplies, welcome_openingReplies, Arrival.streamBytes_segment openingReplies⟩, ?_, ?_,
    by decide, ?_, ?_⟩
  · cases h
  · exact fun error hraises ↦ by cases hraises
  · exact fun error hraises ↦ by cases hraises
  · have hdata : (VixDiskLibHandle.writeData 1 (.bytes (List.replicate 600 1))).length = 1 * 512 := by
      decide +kernel
    rw [List.length_replicate, twoBlockCalls, List.forall_mem_cons, List.forall_mem_singleton]
    exact ⟨⟨by decide, by decide, by decide, by decide, by decide, hdata⟩,
      ⟨by decide, by decide, by decide, by decide, by decide, rfl, Buffer.zeros_flat _,
        List.length_replicate.ge⟩⟩
  · rw [twoBlockCalls, List.forall_mem_cons, List.forall_mem_singleton]
    exact ⟨fun _ _ _ _ _ ↦ FastLz.roundTrips_storing _, trivial⟩

theorem block_refines_array_twoBlockCalls : ∃ observed last result left,
    BlockLife (fun char ↦ [char]) FastLz.storing ⟨"vm-1", false, false, .nbdssl⟩ writableOpening
      ⟨"[datastore0] vm/vm.vmdk", 32, nfcAioBufferSize, nfcAioBufferCount⟩ (List.replicate 1024 0)
      twoBlockCalls observed last result left ∧
    observed = (Run.answers (arrayMachine 512) (List.replicate 1024 0)
      (twoBlockCalls.map BlockCall.diskCall)).1 ∧
    result = .ok () ∧ left.nfcSock.closed = true := by
  obtain ⟨⟨observed, last, result, left, hlife⟩, hrefines⟩ := block_refines_array viable_twoBlockCalls
  obtain ⟨hobserved, -, hresult, hclosed, -⟩ := hrefines observed last result left hlife
  exact ⟨observed, last, result, left, hlife, hobserved, hresult, hclosed⟩

end OpenVixDiskLib
