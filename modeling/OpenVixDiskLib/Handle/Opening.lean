import Mathlib.Logic.Relation
import OpenVixDiskLib.Auth.Authd
import OpenVixDiskLib.Auth.DeviceKey
import OpenVixDiskLib.Handle.Buffers
import OpenVixDiskLib.Handle.Takeover

/-!
# Opening a disk through the handle

`VixDiskLibHandle.open` up to its `yield`, with `get_nfc_ticket`, `connect_authd` and `open_disk` behind it,
and what can be done with the handle it yields: `read`, `write` and `close`. An `Opening` is one `open`
block: what the system, the network and the NFC service will do (`OpeningFate`), the connection to authd,
the NFC connection, and the disk.

`Opening.enter_entry` says in which ways an opening can end, and `Opening.Step` what can happen to one
behind that: its disk is used or closed, and its authd socket is closed.
-/

set_option autoImplicit false
set_option relaxedAutoImplicit false

namespace OpenVixDiskLib

/-! ### The connection a disk is opened on -/

/-- The transports that are implemented. -/
inductive TransportMode
  | nbdssl
  | nbd
deriving DecidableEq, Repr

/-- `_Connection`, besides the VIM session. -/
structure Connection where
  vmMoref : String
  allowUntrusted : Bool
  readOnly : Bool
  transportMode : TransportMode
deriving DecidableEq

/-- `conn.transport_mode == "nbdssl"`. -/
def Connection.nfcSsl (conn : Connection) : Bool :=
  conn.transportMode = .nbdssl

/-! ### Arguments -/

def vixdisklibFlagOpenReadOnly : ℕ := 4
def vixdisklibFlagOpenCompressionZlib : ℕ := 16
def vixdisklibFlagOpenCompressionFastlz : ℕ := 32
def vixdisklibFlagOpenCompressionSkipz : ℕ := 64

/-- The bits of the flags that are looked at. -/
def flagBits (flags : ℤ) (mask : ℕ) : ℕ :=
  (flags % 128).toNat &&& mask

/-- `_nfc_compression`. -/
def nfcCompression (flags : ℤ) : Except PyError Compression :=
  let alg := flagBits flags (vixdisklibFlagOpenCompressionZlib ||| vixdisklibFlagOpenCompressionFastlz |||
    vixdisklibFlagOpenCompressionSkipz)
  if alg = 0 then .ok .none
  else if alg = vixdisklibFlagOpenCompressionFastlz then .ok .fastlz
  else if alg &&& (alg - 1) ≠ 0 then
    .error ⟨.notImplementedError,
      "Cannot set two or more NBD compression algorithms at the same time"⟩
  else .error ⟨.notImplementedError,
    s!"NBD compression open flag 0x{hexNumeral alg} is not supported"⟩

/-- The arguments of `open` besides the connection. -/
structure OpenCall where
  diskPath : String
  flags : ℤ
  aioBufferSize : ℤ
  aioBufferCount : ℤ
deriving DecidableEq

/-- `bool(flags & VIXDISKLIB_FLAG_OPEN_READ_ONLY)`. -/
def OpenCall.readOnly (call : OpenCall) : Bool :=
  flagBits call.flags vixdisklibFlagOpenReadOnly ≠ 0

/-- The arguments `open` hands to `open_disk`. -/
def OpenCall.openArgs (call : OpenCall) (compression : Compression) : OpenArgs where
  diskPath := call.diskPath
  clientName := "vddk"
  opId := "nbdmode"
  version := nfcProtocolVersion
  readOnly := call.readOnly
  compression := compression.code
  aioBufferSize := call.aioBufferSize
  aioBufferCount := call.aioBufferCount

/-! ### The NFC service -/

/-- What the NFC service of the VIM session does: the types of its stub may fail to register, the VM that
is looked at for a writable ticket may fail to load, and a ticket call may raise. -/
structure NfcService where
  types : Except PyError Unit
  vm : Except PyError VirtualMachine
  answer : TicketCall → Except PyError HostServiceTicket

/-- `get_nfc_ticket` as `open` calls it. -/
def NfcService.ticket (service : NfcService) (readOnly : Bool) (diskPath : String) :
    Except PyError HostServiceTicket := do
  service.types
  let call ← if readOnly then .ok .getVmFiles
    else service.vm.bind fun vm ↦ getNfcTicket vm none none readOnly (some diskPath)
  service.answer call

/-! ### An opening -/

/-- What an `open` block will meet. -/
structure OpeningFate where
  service : NfcService
  authd : AuthdRoute
  authdRaw : SockFate
  authdTls : SockFate
  nfc : NfcRoute
  nfcRaw : SockFate
  nfcTls : SockFate

/-- One `open` block. -/
structure Opening where
  fate : OpeningFate
  conn : Connection
  ticket : Option HostServiceTicket
  authd : AuthdConn
  nfc : NfcConn
  disk : Option NfcDisk

/-- A block that has not been entered. -/
def Opening.fresh (conn : Connection) (fate : OpeningFate) : Opening where
  fate := fate
  conn := conn
  ticket := none
  authd := ⟨fate.authd, fate.authdRaw.sock, fate.authdTls.sock, false, false⟩
  nfc := ⟨fate.nfc, fate.nfcRaw.sock, fate.nfcTls.sock, false, false⟩
  disk := none

namespace Opening

def authdPart : Proc.Part Opening AuthdConn where
  get := Opening.authd
  set := fun authd opening ↦ { opening with authd := authd }

/-- `authd_sock`. -/
def authdSock : Proc.Part Opening Sock where
  get := fun opening ↦ opening.authd.authd
  set := fun sock opening ↦ { opening with authd := { opening.authd with authd := sock } }

def nfcPart : Proc.Part Opening NfcConn where
  get := Opening.nfc
  set := fun nfc opening ↦ { opening with nfc := nfc }

/-- The NFC socket. -/
def nfcSock (opening : Opening) : Sock :=
  (NfcConn.sockPart opening.conn.nfcSsl).get opening.nfc

/-- The opening with another state of its disk. -/
def withDisk (opening : Opening) (disk : NfcDisk) : Opening :=
  { opening with
    disk := some disk
    nfc := (NfcConn.sockPart opening.conn.nfcSsl).set disk.sock opening.nfc }

/-- The opening with its authd socket closed. -/
def closeAuthd (opening : Opening) : Opening :=
  authdSock.set { opening.authd.authd with closed := true } opening

/-- `VixDiskLibHandle.open` up to its `yield`. -/
def enter (special : Char → List Char) (call : OpenCall) : Py Opening Unit := do
  let compression ← Proc.lift (nfcCompression call.flags)
  let opening ← Proc.get
  Proc.raiseIf (call.readOnly = false ∧ opening.conn.readOnly = true)
    ⟨.notImplementedError, "ConnectEx was read-only; cannot open for write"⟩
  let ticket ← Proc.lift (opening.fate.service.ticket call.readOnly call.diskPath)
  Proc.modify fun opening ↦ { opening with ticket := some ticket }
  Proc.zoom authdPart
    (connectAuthd special ticket opening.conn.allowUntrusted opening.conn.nfcSsl)
  let disk ← closeOnError authdSock
    (Proc.zoom nfcPart (NfcConn.openDisk (call.openArgs compression) opening.conn.nfcSsl))
  Proc.modify fun opening ↦ { opening with disk := some disk }

/-- There is no handle without a disk. -/
def notOpened : PyError :=
  ⟨.external, "no disk handle"⟩

/-- Run a procedure on the disk of a handle, which lives on the NFC socket. -/
def onDisk {α : Type} (body : Py NfcDisk α) : Py Opening α := fun opening ↦
  match opening.disk with
  | none => (.error notOpened, opening)
  | some disk =>
    match body { disk with sock := opening.nfcSock } with
    | (result, after) => (result, opening.withDisk after)

/-- `VixDiskLibHandle.read`, with what it raises or returns and the buffer as it leaves it. -/
def read (library : FastLzLibrary) (startSector numSectors : ℤ) (skipDecompression : Bool)
    (buf : Buffer) : Py Opening (Except PyError ReadResult × Buffer) :=
  onDisk fun disk ↦
    match VixDiskLibHandle.read library startSector numSectors skipDecompression (disk, buf) with
    | (result, after, buf) => (.ok (result, buf), after)

/-- `VixDiskLibHandle.write`. -/
def write (library : FastLzLibrary) (startSector numSectors : ℤ) (buf : SourceBuffer) :
    Py Opening Unit :=
  onDisk (VixDiskLibHandle.write library startSector numSectors buf)

/-- `VixDiskLibHandle.close`. -/
def close : Py Opening Unit :=
  Proc.tryFinally (onDisk NfcDisk.close) (Proc.zoom authdSock Sock.closeQuietly)

end Opening

/-! ### Entering -/

section Enter

variable {special : Char → List Char} {call : OpenCall} {start : Opening}

/-- How entering ends: nothing has been connected, or `connect_authd` raises, or `open_disk` does, or there
is a disk. -/
inductive Opening.Entry (special : Char → List Char) (start : Opening) :
    Except PyError Unit → Opening → Prop
  | refused {error : PyError} : Entry special start (.error error) start
  | unauthorized {error : PyError} {ticket : HostServiceTicket} {authd : AuthdConn}
      (hauthd : AuthdOutcome special ticket start.conn.allowUntrusted start.conn.nfcSsl start.authd
        (.error error) authd) :
      Entry special start (.error error) { start with ticket := some ticket, authd := authd }
  | unopened {error raised : PyError} {ticket : HostServiceTicket} {authd : AuthdConn} {nfc : NfcConn}
      (hauthd : AuthdOutcome special ticket start.conn.allowUntrusted start.conn.nfcSsl start.authd
        (.ok ()) authd)
      (hnfc : NfcOutcome start.conn.nfcSsl start.nfc (.error error) nfc) :
      Entry special start (.error raised)
        ({ start with ticket := some ticket, authd := authd, nfc := nfc } : Opening).closeAuthd
  | opened {ticket : HostServiceTicket} {authd : AuthdConn} {nfc : NfcConn} {disk : NfcDisk}
      (hauthd : AuthdOutcome special ticket start.conn.allowUntrusted start.conn.nfcSsl start.authd
        (.ok ()) authd)
      (hnfc : NfcOutcome start.conn.nfcSsl start.nfc (.ok disk) nfc) :
      Entry special start (.ok ())
        { start with ticket := some ticket, authd := authd, nfc := nfc, disk := some disk }

/-- Every entering ends in one of these ways. -/
theorem Opening.enter_entry (special : Char → List Char) (call : OpenCall) (start : Opening) :
    Entry special start (enter special call start).1 (enter special call start).2 := by
  unfold enter
  rcases nfcCompression call.flags with error | compression
  · exact .refused
  rw [Proc.lift_bind_of_ok rfl, Proc.get_bind_apply]
  by_cases hwritable : call.readOnly = false ∧ start.conn.readOnly = true
  · rw [Proc.raiseIf_bind_of_pos hwritable]
    exact .refused
  rw [Proc.raiseIf_bind_of_neg hwritable]
  rcases start.fate.service.ticket call.readOnly call.diskPath with error | ticket
  · exact .refused
  rw [Proc.lift_bind_of_ok rfl, Proc.modify_bind_apply]
  have hauthd := connectAuthd_outcome special ticket start.conn.allowUntrusted start.conn.nfcSsl
    start.authd
  rcases hconnect : connectAuthd special ticket start.conn.allowUntrusted start.conn.nfcSsl
    start.authd with ⟨error | ⟨⟨⟩⟩, authd⟩
  all_goals
    rw [hconnect] at hauthd
    have hzoom : Proc.zoom authdPart
        (connectAuthd special ticket start.conn.allowUntrusted start.conn.nfcSsl)
        { start with ticket := some ticket } = _ := Proc.zoom_of_eq authdPart hconnect
  · rw [Proc.bind_of_error hzoom]
    exact .unauthorized hauthd
  rw [Proc.bind_of_ok hzoom]
  have hnfc := start.nfc.openDisk_outcome (call.openArgs compression) start.conn.nfcSsl
  rcases hopen : start.nfc.openDisk (call.openArgs compression) start.conn.nfcSsl with
    ⟨error | disk, nfc⟩
  all_goals
    rw [hopen] at hnfc
    have hzoom : Proc.zoom nfcPart (NfcConn.openDisk (call.openArgs compression) start.conn.nfcSsl)
        { start with ticket := some ticket, authd := authd } = _ := Proc.zoom_of_eq nfcPart hopen
  · obtain ⟨raised, hclose⟩ := @closeOnError_of_error _ _ authdSock _ _ _ _ hzoom
    rw [Proc.bind_of_error (show closeOnError authdSock _ (authdPart.set authd _) = _ from hclose)]
    exact .unopened hauthd hnfc
  · rw [Proc.bind_of_ok (show closeOnError authdSock _ (authdPart.set authd _) = _ from
      closeOnError_of_ok hzoom)]
    exact .opened hauthd hnfc

end Enter

/-! ### Behind that -/

/-- What a call makes of a disk: a closed socket stays closed, and where a closed disk has a closed socket
it goes on having one. -/
structure NfcDisk.Ages (before after : NfcDisk) : Prop where
  sock : before.sock.closed = true → after.sock.closed = true
  sound : (before.closed = true → before.sock.closed = true) →
    after.closed = true → after.sock.closed = true

theorem NfcDisk.Works.ages {before after : NfcDisk} (hworks : before.Works after) :
    before.Ages after := by
  constructor
  · intro hclosed
    exact hworks.sock.closed_eq.trans hclosed
  · intro hsound hclosed
    exact hworks.sock.closed_eq.trans (hsound (hworks.closed_eq.symm.trans hclosed))

/-- A close leaves the disk closed, and its socket too where a closed disk had a closed one. -/
theorem NfcDisk.close_closes (disk : NfcDisk) :
    (close disk).2.closed = true ∧
      ((disk.closed = true → disk.sock.closed = true) → (close disk).2.sock.closed = true) := by
  rw [close, Proc.get_bind_apply]
  by_cases hclosed : disk.closed = true
  · rw [if_pos hclosed]
    exact ⟨hclosed, fun hsound ↦ hsound hclosed⟩
  · rw [if_neg hclosed, Proc.modify_bind_apply, Proc.tryFinally_snd, Proc.zoom_apply,
      Sock.closeQuietly_snd]
    exact ⟨(works_closeSession { disk with closed := true }).closed_eq, fun _ ↦ rfl⟩

theorem NfcDisk.ages_close : Proc.Moves Ages close := by
  intro disk
  obtain ⟨-, hsock⟩ := disk.close_closes
  refine ⟨fun hclosed ↦ hsock fun _ ↦ hclosed, fun hsound _ ↦ hsock hsound⟩

namespace Opening

/-- What can happen to an opening once it has been entered. -/
inductive Step (before : Opening) : Opening → Prop
  | disk {disk last : NfcDisk} (hdisk : before.disk = some disk)
      (hages : ({ disk with sock := before.nfcSock } : NfcDisk).Ages last) :
      Step before (before.withDisk last)
  | authd : Step before before.closeAuthd

/-- Some steps, one after the other. -/
def Steps : Opening → Opening → Prop :=
  Relation.ReflTransGen Step

theorem Steps.refl (opening : Opening) : opening.Steps opening :=
  Relation.ReflTransGen.refl

theorem Steps.trans (first middle last : Opening) (hfirst : first.Steps middle)
    (hlast : middle.Steps last) : first.Steps last :=
  Relation.ReflTransGen.trans hfirst hlast

/-- What every step keeps is kept by any number of them. -/
theorem Steps.keeps {holds : Opening → Prop}
    (hstep : ∀ before after, Step before after → holds before → holds after) {before after : Opening}
    (hsteps : before.Steps after) (hbefore : holds before) : holds after := by
  induction hsteps with
  | refl => exact hbefore
  | tail _ hlast ih => exact hstep _ _ hlast ih

theorem steps_onDisk {α : Type} {body : Py NfcDisk α} (hbody : Proc.Moves NfcDisk.Ages body) :
    Proc.Moves Steps (onDisk body) := by
  intro opening
  rw [onDisk]
  rcases hdisk : opening.disk with _ | disk
  · exact .refl opening
  · exact Relation.ReflTransGen.single (.disk hdisk (hbody _))

theorem steps_read (library : FastLzLibrary) (startSector numSectors : ℤ) (skipDecompression : Bool)
    (buf : Buffer) : Proc.Moves Steps (read library startSector numSectors skipDecompression buf) :=
  steps_onDisk fun disk ↦
    (NfcDisk.works_readinto library startSector numSectors skipDecompression (disk, buf)).ages

theorem steps_write (library : FastLzLibrary) (startSector numSectors : ℤ) (buf : SourceBuffer) :
    Proc.Moves Steps (write library startSector numSectors buf) :=
  steps_onDisk fun disk ↦ (NfcDisk.works_write library startSector numSectors _ disk).ages

/-- `close` is a close of the disk and a close of the authd socket behind it. -/
theorem close_snd (opening : Opening) :
    (close opening).2 = (onDisk NfcDisk.close opening).2.closeAuthd := by
  rw [close, Proc.tryFinally_snd, Proc.zoom_apply, Sock.closeQuietly_snd]
  rfl

theorem steps_close : Proc.Moves Steps close := by
  intro opening
  rw [close_snd]
  exact .tail (steps_onDisk NfcDisk.ages_close opening) .authd

end Opening

end OpenVixDiskLib
