import OpenVixDiskLib.Nfc.Welcome
import OpenVixDiskLib.Nfc.Works
import OpenVixDiskLib.Server.Refinement

/-!
# A disk from its opening to its close

A life of a disk is an opening on a stream that holds a welcome, calls against the server, and a close whose
two requests are acknowledged (`Lifetime`). There is a life for every list of valid calls, and every life
shows what an array of bytes shows, leaves the server with the array's content, sends the request for each
call (`Call.Requests`) between the opening and the closing messages, and ends with a close that returns
(`lifetime_refines_array`).

The array does not know of compression, buffer sizes or handles, so lives with different settings show the
same (`lifetime_ignores_settings`).
-/

set_option autoImplicit false
set_option relaxedAutoImplicit false

namespace OpenVixDiskLib

open NfcDisk
open Arrival (Quiet streamBytes quiet_segment)

/-! ### What closing a socket raises -/

/-- Closing the socket raises what it raised before. -/
def NfcDisk.ClosesAs (before after : NfcDisk) : Prop :=
  after.sock.closeError = before.sock.closeError

namespace NfcDisk

theorem ClosesAs.refl (disk : NfcDisk) : disk.ClosesAs disk :=
  rfl

theorem ClosesAs.trans (first middle last : NfcDisk) (hfirst : first.ClosesAs middle)
    (hlast : middle.ClosesAs last) : first.ClosesAs last :=
  Eq.trans hlast hfirst

theorem Received.closesAs {before after : NfcDisk} (hreceived : before.Received after) :
    before.ClosesAs after := by
  obtain ⟨taken, htook, -⟩ := hreceived
  exact (Sock.Exchanged.of_took htook).closeError_eq

theorem closesAs_sendall (data : Bytes) :
    Proc.Moves ClosesAs (Proc.zoom sockPart (Sock.sendall data)) := by
  intro disk
  change (Sock.sendall data disk.sock).2.closeError = disk.sock.closeError
  rcases hsend : Sock.sendall data disk.sock with ⟨error | ⟨⟨⟩⟩, after⟩
  · rw [Sock.sendall_error hsend]
  · exact (Sock.sendall_ok hsend).closeError_eq

theorem closesAs_write (library : FastLzLibrary) (startSector numSectors : ℤ) (data : Bytes) :
    Proc.Moves ClosesAs (write library startSector numSectors data) :=
  write_keeps ClosesAs.refl ClosesAs.trans closesAs_sendall (fun _ ↦ rfl)
    (fun disk ↦ (moves_aioRecvReply disk).closesAs) library startSector numSectors data

theorem closesAs_readinto (library : FastLzLibrary) (startSector numSectors : ℤ)
    (skipDecompression : Bool) (env : ReadEnv) :
    env.1.ClosesAs (readinto library startSector numSectors skipDecompression env).2.1 := by
  obtain ⟨⟨opId, -, hafter⟩, -⟩ | ⟨⟨data, haccepted⟩, hfits, sock, hsend⟩ :=
    readinto_sends_or_keeps library startSector numSectors skipDecompression env
  · rw [hafter]
    rfl
  · have hsent : sock.closeError = env.1.sock.closeError := (Sock.sendall_ok hsend).closeError_eq
    exact .trans env.1 (env.1.afterCall sock) _ hsent
      (readinto_received library skipDecompression haccepted hfits hsend).closesAs

end NfcDisk

theorem Call.closesAs_run (library : FastLzLibrary) (call : Call) (disk : NfcDisk) :
    disk.ClosesAs (call.run library disk).2 := by
  cases call with
  | write startSector numSectors data =>
    rw [run_write_snd]
    exact closesAs_write library startSector numSectors data disk
  | read startSector numSectors =>
    rw [run, read_snd]
    exact closesAs_readinto library startSector numSectors false (disk, _)
  | readinto startSector numSectors skipDecompression buf =>
    rw [run_readinto_snd]
    exact closesAs_readinto library startSector numSectors skipDecompression (disk, buf)

/-! ### One call -/

variable {library : FastLzLibrary} {call : Call} {calls : List Call} {session after : Session}

/-- A step sends the request for its call, takes one opId and changes nothing else of the disk. -/
theorem Session.Ready.step_disk {outcome : Except PyError Bytes}
    (hready : session.Ready library (call :: calls)) (hstep : Step library session call outcome after) :
    (∃ request, session.disk.Requests library call request ∧
        after.disk.sock.sent = session.disk.sock.sent ++ request) ∧
      after.disk = session.disk.afterCall after.disk.sock ∧ session.disk.ClosesAs after.disk := by
  obtain ⟨request, hrequests, hcorrect⟩ := hready.requests
  obtain ⟨inbox, hexchange⟩ := hstep
  obtain ⟨request', hsent, hserves⟩ := hexchange.served
  have hemits := hcorrect.emits inbox
  rw [hexchange.ran, hsent] at hemits
  obtain rfl := List.append_cancel_left hemits
  obtain ⟨sock, hrun, -⟩ := hcorrect.answered _ inbox hexchange.quiet hserves
  obtain ⟨-, hdisk⟩ := Prod.mk.inj (hexchange.ran.symm.trans hrun)
  have hcloses := call.closesAs_run library (session.disk.meets inbox)
  rw [hexchange.ran] at hcloses
  exact ⟨⟨request', hrequests, hsent⟩, by rw [hdisk]; rfl, hcloses⟩

/-- The requests for calls under consecutive opIds. -/
def Requested (library : FastLzLibrary) (compression : Compression) (handle sectorSize opId : ℕ)
    (calls : List Call) (requests : List Bytes) : Prop :=
  List.Forall₂ (fun numbered request ↦
    numbered.1.Requests library compression handle sectorSize numbered.2 request) (calls.zipIdx opId) requests

/-- A run sends the requests for its calls, in this order and nothing else. -/
theorem Session.Ready.run_requests {session last : Session} {observed : List (Except PyError Bytes)}
    (hready : session.Ready library calls) (hrun : Run (Step library) session calls observed last) :
    ∃ requests, Requested library session.disk.compression session.disk.handle.toNat
        session.disk.sectorSize session.disk.opId calls requests ∧
      last.disk.sock.sent = session.disk.sock.sent ++ requests.flatten := by
  induction hrun with
  | nil => exact ⟨[], .nil, (List.append_nil _).symm⟩
  | cons hstep _ ih =>
    obtain ⟨⟨request, hrequest, hsent⟩, hafter, -⟩ := hready.step_disk hstep
    obtain ⟨requests, hrequests, hlast⟩ := ih (hready.step hstep)
    rw [hafter] at hrequests
    exact ⟨request :: requests, .cons hrequest hrequests, by rw [hlast, hsent, List.flatten_cons,
      List.append_assoc]⟩

/-! ### The whole life -/

/-- A session in its life: it is ready for the calls to come, and has made the others since `start`, with one
opId for each. -/
structure Session.Alive (library : FastLzLibrary) (start : NfcDisk) (count : ℕ) (calls : List Call)
    (session : Session) (content : Bytes) : Prop where
  ready : session.Ready library calls
  content_eq : session.content = content
  disk_eq : session.disk =
    { start with opId := start.opId + (count - calls.length), sock := session.disk.sock }
  count_le : calls.length ≤ count
  closesAs : start.ClosesAs session.disk

/-- A step of a session is a step of the array, and the session lives on. -/
theorem Session.Alive.step {start : NfcDisk} {count : ℕ} {content : Bytes}
    {outcome : Except PyError Bytes} (halive : session.Alive library start count (call :: calls) content)
    (hstep : Step library session call outcome after) :
    outcome = (arrayMachine start.sectorSize content call).1 ∧
      after.Alive library start count calls (arrayMachine start.sectorSize content call).2 := by
  obtain ⟨hready, rfl, hdisk, hcount, hcloses⟩ := halive
  have hsector : session.disk.sectorSize = start.sectorSize := by rw [hdisk]
  obtain ⟨houtcome, hready', hcontent, -⟩ :=
    (show session.Represents library start.sectorSize (call :: calls) session.content from
      ⟨hready, rfl, hsector⟩).step hstep
  obtain ⟨-, hafter, hcloses'⟩ := hready.step_disk hstep
  rw [List.length_cons] at hcount hdisk
  refine ⟨houtcome, hready', hcontent, ?_, Nat.le_of_succ_le hcount, .trans _ _ _ hcloses hcloses'⟩
  rw [hafter, hdisk]
  have hnext : start.opId + (count - (calls.length + 1)) + 1 = start.opId + (count - calls.length) := by
    omega
  simp only [afterCall, hnext]

/-- The messages of a close. -/
def farewell (handle : UInt64) (opId : ℕ) : Bytes :=
  aioMessage nfcAioMsgCloseFile opId (Field.Q handle.toNat).bytes ++
    aioMessage nfcAioMsgCloseSession (opId + 1) (Field.I 0).bytes ++ nfcMessage nfcMsgSessionComplete []

/-- The replies to the two requests of a close. -/
def Acknowledges (opId : ℕ) (bytes : Bytes) : Prop :=
  ∃ fileBody sessionBody : Bytes, fileBody.length < 2 ^ 32 ∧ sessionBody.length < 2 ^ 32 ∧
    bytes = aioMessage nfcAioMsgCloseFile opId fileBody ++
      aioMessage nfcAioMsgCloseSession (opId + 1) sessionBody

/-- A life of a disk on a connection: what its calls showed, what the server holds behind them, and what
the close made of the socket. -/
inductive Lifetime (library : FastLzLibrary) (args : OpenArgs) (start : Sock) (content : Bytes)
    (calls : List Call) : List (Except PyError Bytes) → Bytes → Except PyError Unit → Sock → Prop
  | lived {disk closed : NfcDisk} {session : Session} {observed : List (Except PyError Bytes)}
      {inbox : List Arrival} {result : Except PyError Unit}
      (hopen : openDisk args start = (.ok disk, disk.sock))
      (hrun : Run (Step library) ⟨disk, content⟩ calls observed session) (hquiet : Quiet inbox)
      (hacks : Acknowledges session.disk.opId (streamBytes inbox))
      (hclose : close (session.disk.meets inbox) = (result, closed)) :
      Lifetime library args start content calls observed session.content result closed.sock

/-- Everything a life needs: a connection that holds a welcome, arguments that fit, calls that are valid on
the welcome's disk, and opIds for all of them. -/
structure Viable (library : FastLzLibrary) (args : OpenArgs) (settings : OpenSettings) (handle : UInt64)
    (sectorSize : ℕ) (start : Sock) (content : Bytes) (calls : List Call) : Prop where
  fits : args.FitsWire settings
  sends : start.Sends
  closes : ∀ error, start.closeError = some error → error.isOsError = true
  welcome : ∃ welcome, Welcome handle sectorSize welcome ∧ start.Holds welcome
  opId_le : calls.length + 6 ≤ 2 ^ 32
  valid : ∀ call ∈ calls, call.Valid sectorSize content.length
  promised : ∀ call ∈ calls, call.Promised library (init start args.diskPath settings)

section Life

variable {args : OpenArgs} {settings : OpenSettings} {handle : UInt64} {sectorSize : ℕ} {start : Sock}
  {content : Bytes}

/-- The opening of a viable life: the disk has the welcome's handle and sector size, and its session is
alive. -/
theorem Viable.opens (hviable : Viable library args settings handle sectorSize start content calls) :
    ∃ disk, openDisk args start = (.ok disk, disk.sock) ∧ disk.handle = handle ∧
      disk.sectorSize = sectorSize ∧ disk.opId = 4 ∧ disk.closed = false ∧
      disk.compression = settings.compression ∧
      start.Exchanged (tokenBytes (openTokens args settings)) (streamBytes start.inbox) disk.sock ∧
      Session.Alive library disk calls.length calls ⟨disk, content⟩ content := by
  obtain ⟨welcome, hwelcome, hholds⟩ := hviable.welcome
  rw [← List.append_nil welcome] at hholds
  obtain ⟨disk, hopen, hhandle, hsize, hsends, hrest⟩ :=
    openOn_of_welcome hviable.sends hviable.fits hwelcome hholds
  have hopened := (openDisk_eq_ok hviable.fits.check_eq).mpr hopen
  have hemits := openDisk_emits hviable.sends hviable.fits
  rw [hopened] at hemits
  obtain ⟨-, ⟨body, size, -, -, front, hexchange⟩, hopId, hclosed, hcompression, haio⟩ := hemits
  have hstream := hexchange.stream
  rw [hrest.stream, List.append_nil] at hstream
  rw [← hstream] at hexchange
  refine ⟨disk, hopened, hhandle, hsize, hopId, hclosed, hcompression, hexchange,
    ⟨hsends, hrest, ?_, ?_, ?_⟩, rfl, ?_, le_rfl, rfl⟩
  · change disk.opId + calls.length ≤ 2 ^ 32
    have := hviable.opId_le
    omega
  · intro call hmem
    rw [hsize]
    exact hviable.valid call hmem
  · intro call hmem
    have hpromised := hviable.promised call hmem
    cases call with
    | write startSector numSectors data =>
      change KeepsPromise library disk data
      change KeepsPromise library (init start args.diskPath settings) data at hpromised
      unfold KeepsPromise
      rw [hcompression, haio]
      exact hpromised
    | read startSector numSectors => trivial
    | readinto startSector numSectors skipDecompression buf => trivial
  · rw [Nat.sub_self]
    rfl

/-- The close of a session at the end of its life. -/
theorem Session.Alive.closes {disk : NfcDisk} {inbox : List Arrival}
    (halive : session.Alive library disk calls.length [] content) (hquiet : Quiet inbox)
    (hacks : Acknowledges session.disk.opId (streamBytes inbox)) (hopId : disk.opId = 4)
    (hcount : calls.length + 6 ≤ 2 ^ 32) (hopen : disk.closed = false)
    (hcloses : ∀ error, disk.sock.closeError = some error → error.isOsError = true) :
    ∃ closed, close (session.disk.meets inbox) = (.ok (), closed) ∧ closed.sock.closed = true ∧
      closed.sock.sent = session.disk.sock.sent ++ farewell disk.handle (4 + calls.length) := by
  obtain ⟨fileBody, sessionBody, hfile, hsession, hstream⟩ := hacks
  have hdisk := halive.disk_eq
  rw [List.length_nil, Nat.sub_zero, hopId] at hdisk
  have hholds := meets_holds halive.ready.holds hquiet
  rw [hstream, ← List.append_nil (aioMessage nfcAioMsgCloseSession _ _)] at hholds
  have hnumber : (session.disk.meets inbox).opId = 4 + calls.length := by
    change session.disk.opId = _
    rw [hdisk]
  obtain ⟨closed, hclose, hsent, hdone⟩ := @close_of_acks (session.disk.meets inbox) fileBody sessionBody
    [] (by change session.disk.closed = false; rw [hdisk]; exact hopen) (by rw [hnumber]; omega) hfile
    hsession halive.ready.sends
    (fun error hraises ↦ hcloses error (halive.closesAs.symm.trans hraises)) hholds
  refine ⟨closed, hclose, hdone, ?_⟩
  have hhandle : (session.disk.meets inbox).handle = disk.handle := by
    change session.disk.handle = _
    rw [hdisk]
  rw [hsent, closeBytes, hnumber, hhandle]
  rfl

/-- Every life shows what the array shows, and closes its socket behind all its messages. -/
theorem Lifetime.refines {observed : List (Except PyError Bytes)} {last : Bytes}
    {result : Except PyError Unit} {sock : Sock}
    (hlife : Lifetime library args start content calls observed last result sock)
    (hviable : Viable library args settings handle sectorSize start content calls) :
    observed = (Run.answers (arrayMachine sectorSize) content calls).1 ∧
      last = (Run.answers (arrayMachine sectorSize) content calls).2 ∧ result = .ok () ∧
      sock.closed = true ∧ ∃ requests : List Bytes,
        Requested library settings.compression handle.toNat sectorSize 4 calls requests ∧
        sock.sent = start.sent ++ tokenBytes (openTokens args settings) ++ requests.flatten ++
          farewell handle (4 + calls.length) := by
  obtain ⟨disk, hopened, rfl, rfl, hopId, hopen, hcompression, hexchange, halive⟩ := hviable.opens
  cases hlife with
  | @lived disk' closed session observed inbox result hopen' hrun hquiet hacks hclose =>
    obtain rfl := Except.ok.inj (Prod.mk.inj (hopened.symm.trans hopen')).1
    obtain ⟨hobserved, hend⟩ := Run.simulates (fun _ _ _ _ _ _ ↦ Session.Alive.step) halive hrun
    obtain ⟨closed', hclose', hdone, hsent⟩ := hend.closes hquiet hacks hopId hviable.opId_le hopen
      fun error hraises ↦ hviable.closes error (hexchange.closeError_eq.symm.trans hraises)
    obtain ⟨rfl, rfl⟩ := Prod.mk.inj (hclose'.symm.trans hclose)
    obtain ⟨requests, hrequests, hmade⟩ := halive.ready.run_requests hrun
    change Requested library disk.compression _ _ disk.opId calls requests at hrequests
    rw [hcompression, hopId] at hrequests
    refine ⟨hobserved, hend.content_eq, rfl, hdone, requests, hrequests, ?_⟩
    rw [hsent, hmade, hexchange.sent_eq]

/-- There is a life: the server can answer every request, and acknowledge the close. -/
theorem Viable.lives (hviable : Viable library args settings handle sectorSize start content calls) :
    ∃ observed last result sock, Lifetime library args start content calls observed last result sock := by
  obtain ⟨disk, hopened, -, -, -, -, -, -, halive⟩ := hviable.opens
  obtain ⟨observed, session, hrun⟩ := @Run.exists_of_progress _ _ _ (Step library)
    (fun calls session ↦ session.Ready library calls) (fun call calls session hready ↦ by
      obtain ⟨outcome, after, hstep⟩ := hready.progress
      exact ⟨outcome, after, hstep, hready.step hstep⟩) _ calls halive.ready
  have hacks : Acknowledges session.disk.opId (streamBytes (Arrival.segment
      (aioMessage nfcAioMsgCloseFile session.disk.opId [] ++
        aioMessage nfcAioMsgCloseSession (session.disk.opId + 1) []))) := by
    rw [Arrival.streamBytes_segment]
    exact ⟨[], [], by decide, by decide, rfl⟩
  exact ⟨observed, session.content, _, _, .lived hopened hrun (quiet_segment _) hacks rfl⟩

/-- A disk refines an array of bytes from its opening to its close: there is a life for all valid calls,
and in every life the calls show what the array shows, the server holds what the array holds, and the client
sends the opening, the request for each call under the next opId, and the close, which returns. -/
theorem lifetime_refines_array
    (hviable : Viable library args settings handle sectorSize start content calls) :
    (∃ observed last result sock, Lifetime library args start content calls observed last result sock) ∧
    ∀ observed last result sock, Lifetime library args start content calls observed last result sock →
      observed = (Run.answers (arrayMachine sectorSize) content calls).1 ∧
      last = (Run.answers (arrayMachine sectorSize) content calls).2 ∧ result = .ok () ∧
      sock.closed = true ∧ ∃ requests : List Bytes,
        Requested library settings.compression handle.toNat sectorSize 4 calls requests ∧
        sock.sent = start.sent ++ tokenBytes (openTokens args settings) ++ requests.flatten ++
          farewell handle (4 + calls.length) :=
  ⟨hviable.lives, fun _ _ _ _ hlife ↦ hlife.refines hviable⟩

/-- Lives on disks with the same content and sector size show the same, and leave the same content, whatever
their compression, their buffer sizes, their handles, their libraries and their servers' replies. -/
theorem lifetime_ignores_settings {library' : FastLzLibrary} {args' : OpenArgs}
    {settings' : OpenSettings} {handle' : UInt64} {start' sock sock' : Sock}
    {observed observed' : List (Except PyError Bytes)} {last last' : Bytes}
    {result result' : Except PyError Unit}
    (hviable : Viable library args settings handle sectorSize start content calls)
    (hviable' : Viable library' args' settings' handle' sectorSize start' content calls)
    (hlife : Lifetime library args start content calls observed last result sock)
    (hlife' : Lifetime library' args' start' content calls observed' last' result' sock') :
    observed = observed' ∧ last = last' ∧ result = result' := by
  obtain ⟨hobserved, hlast, hresult, -⟩ := hlife.refines hviable
  obtain ⟨hobserved', hlast', hresult', -⟩ := hlife'.refines hviable'
  exact ⟨hobserved.trans hobserved'.symm, hlast.trans hlast'.symm, hresult.trans hresult'.symm⟩

end Life

/-! ### Two calls on two sectors -/

/-- A write to the second of two sectors, and a read of both. -/
def twoCalls : List Call :=
  [.write 1 1 (List.replicate 512 1), .read 0 2]

theorem viable_twoCalls (compression : Compression) :
    Viable FastLz.storing
      { defaultOpenArgs "[datastore0] vm/vm.vmdk" with compression := compression.code }
      ⟨compression, nfcAioBufferSize, nfcAioBufferCount, by decide, by decide⟩ 7 512
      ⟨Arrival.segment openingReplies, [], false, none, none⟩ (List.replicate 1024 0) twoCalls where
  fits := by
    cases compression <;>
      exact ⟨rfl, ⟨by decide, by decide, by decide, by decide, by decide⟩, by decide, by decide,
        by decide⟩
  sends := ⟨rfl, rfl⟩
  closes error hraises := by cases hraises
  welcome := ⟨openingReplies, welcome_openingReplies, rfl, quiet_segment openingReplies,
    Arrival.streamBytes_segment openingReplies⟩
  opId_le := by decide
  valid := by
    rw [List.length_replicate, twoCalls, List.forall_mem_cons, List.forall_mem_singleton]
    exact ⟨⟨by decide, by decide, by decide, by decide, by decide, List.length_replicate⟩,
      ⟨by decide, by decide, by decide, by decide, by decide, trivial⟩⟩
  promised := by
    rw [twoCalls, List.forall_mem_cons, List.forall_mem_singleton]
    exact ⟨fun _ _ _ _ _ ↦ FastLz.roundTrips_storing _, trivial⟩

theorem lifetime_refines_array_twoCalls : ∃ observed last result sock,
    Lifetime FastLz.storing { defaultOpenArgs "[datastore0] vm/vm.vmdk" with
        compression := Compression.fastlz.code }
      ⟨Arrival.segment openingReplies, [], false, none, none⟩ (List.replicate 1024 0) twoCalls observed
      last result sock ∧
    observed = (Run.answers (arrayMachine 512) (List.replicate 1024 0) twoCalls).1 ∧ result = .ok () := by
  obtain ⟨⟨observed, last, result, sock, hlife⟩, hrefines⟩ :=
    lifetime_refines_array (viable_twoCalls .fastlz)
  obtain ⟨hobserved, -, hresult, -⟩ := hrefines observed last result sock hlife
  exact ⟨observed, last, result, sock, hlife, hobserved, hresult⟩

theorem lifetime_ignores_settings_twoCalls : ∃ observed last result sock sock',
    Lifetime FastLz.storing { defaultOpenArgs "[datastore0] vm/vm.vmdk" with
        compression := Compression.fastlz.code }
      ⟨Arrival.segment openingReplies, [], false, none, none⟩ (List.replicate 1024 0) twoCalls observed
      last result sock ∧
    Lifetime FastLz.storing { defaultOpenArgs "[datastore0] vm/vm.vmdk" with
        compression := Compression.none.code }
      ⟨Arrival.segment openingReplies, [], false, none, none⟩ (List.replicate 1024 0) twoCalls observed
      last result sock' := by
  obtain ⟨observed, last, result, sock, hlife⟩ := (viable_twoCalls .fastlz).lives
  obtain ⟨observed', last', result', sock', hlife'⟩ := (viable_twoCalls .none).lives
  obtain ⟨rfl, rfl, rfl⟩ :=
    lifetime_ignores_settings (viable_twoCalls .fastlz) (viable_twoCalls .none) hlife hlife'
  exact ⟨observed, last, result, sock, sock', hlife, hlife'⟩

end OpenVixDiskLib
