import OpenVixDiskLib.Handle.Release

/-!
# Sessions of `authenticate`

The interface below the handle: `authenticate` of `nfc_auth.py`, its `NfcAuthSession`, and `open_disk` with
its `NfcDisk`, both as context managers. A program of this interface is a `SessionCode`; its blocks may be
nested in any order, and `SessionCode.run` runs it on a `SessionWorld` of the blocks that were begun.

`authenticate` logs out by itself when a step behind the login raises (`NfcAuthSession.authenticate_outcome`),
and a session that is left closes its authd socket and logs out whatever that raises. So when all blocks have
been left, every session has been logged out exactly once and has closed its authd socket, and every disk has
closed its NFC socket, unless a step behind `os.dup` raised that no handler guards
(`SessionCode.releases_every_session`).
-/

set_option autoImplicit false
set_option relaxedAutoImplicit false

namespace OpenVixDiskLib

/-! ### Tickets -/

/-- `get_nfc_ticket` as `authenticate` calls it. -/
def NfcService.requestTicket (service : NfcService) (diskDeviceKey : Option ℤ) (readOnly : Bool)
    (diskPath : Option String) : Except PyError HostServiceTicket := do
  service.types
  let call ← match diskDeviceKey, diskPath with
    | none, none =>
      if readOnly then .ok .getVmFiles
      else .error (valueError "writable NFC tickets need disk_path or disk_device_key")
    | _, _ => service.vm.bind fun vm ↦ getNfcTicket vm diskDeviceKey none readOnly diskPath
  service.answer call

/-- The ticket of an `open` is the one that `authenticate` gets with the path of a writable disk, and without a
path for a read-only one. -/
theorem NfcService.ticket_eq (service : NfcService) (readOnly : Bool) (diskPath : String) :
    service.ticket readOnly diskPath =
      service.requestTicket none readOnly (if readOnly then none else some diskPath) := by
  cases readOnly <;> rfl

/-! ### A session -/

/-- The arguments of `authenticate`, as far as they are used. The VM is what the NFC service looks at. -/
structure AuthArgs where
  host : String
  port : ℕ
  thumbprint : Option String
  allowUntrusted : Bool
  diskDeviceKey : Option ℤ
  diskPath : Option String
  readOnly : Bool
  nfcSsl : Bool

/-- The arguments that `authenticate` hands to `connect_vim`. -/
def AuthArgs.connectArgs (args : AuthArgs) : ConnectArgs :=
  ⟨args.host, args.thumbprint, none, args.readOnly, none, args.port, args.allowUntrusted⟩

/-- What a session will meet. -/
structure AuthFate where
  login : LoginFate
  service : NfcService
  authd : AuthdRoute
  authdRaw : SockFate
  authdTls : SockFate

/-- `NfcAuthSession`, from the beginning of its `authenticate`. It is `made` when that has returned. -/
structure NfcAuthSession where
  args : AuthArgs
  service : NfcService
  login : Login
  ticket : Option HostServiceTicket
  authd : AuthdConn
  made : Bool

namespace NfcAuthSession

/-- A session that has not been asked for. -/
def fresh (args : AuthArgs) (fate : AuthFate) : NfcAuthSession where
  args := args
  service := fate.service
  login := .fresh fate.login
  ticket := none
  authd := ⟨fate.authd, fate.authdRaw.sock, fate.authdTls.sock, false, false⟩
  made := false

def loginPart : Proc.Part NfcAuthSession Login where
  get := NfcAuthSession.login
  set := fun login session ↦ { session with login := login }

def authdPart : Proc.Part NfcAuthSession AuthdConn where
  get := NfcAuthSession.authd
  set := fun authd session ↦ { session with authd := authd }

/-- `authd_sock`. -/
def authdSock : Proc.Part NfcAuthSession Sock where
  get := fun session ↦ session.authd.authd
  set := fun sock session ↦ { session with authd := { session.authd with authd := sock } }

/-- The `try` body of `authenticate`. -/
def authorize (special : Char → List Char) : Py NfcAuthSession Unit := do
  let session ← Proc.get
  let ticket ← Proc.lift (session.service.requestTicket session.args.diskDeviceKey
    session.args.readOnly session.args.diskPath)
  Proc.modify fun session ↦ { session with ticket := some ticket }
  Proc.zoom authdPart
    (connectAuthd special ticket session.args.allowUntrusted session.args.nfcSsl)

/-- `try: body` with `except Exception: Disconnect(si); raise`. -/
def logoutOnError (body : Py NfcAuthSession Unit) : Py NfcAuthSession Unit :=
  Proc.tryExcept body PyError.isException fun error ↦ do
    Proc.zoom loginPart Login.disconnect
    Proc.raise error

/-- `authenticate`. -/
def authenticate (special : Char → List Char) : Py NfcAuthSession Unit := do
  let session ← Proc.get
  Proc.zoom loginPart (Login.connectVim special session.args.connectArgs)
  logoutOnError (authorize special)
  Proc.modify fun session ↦ { session with made := true }

/-- `NfcAuthSession.close`. -/
def close : Py NfcAuthSession Unit :=
  Proc.tryFinally (Proc.zoom authdSock Sock.close) (Proc.zoom loginPart Login.disconnect)

/-- There is no session. -/
def notMade : PyError :=
  ⟨.external, "no session"⟩

/-- Run a procedure on a session that has been made. -/
def onSession {α : Type} (body : Py NfcAuthSession α) : Py NfcAuthSession α := fun session ↦
  if session.made then body session else (.error notMade, session)

/-- `session.nfc_ssl`. -/
def nfcSsl : Py NfcAuthSession Bool :=
  onSession fun session ↦ (.ok session.args.nfcSsl, session)

/-- The authd socket is closed, and a session with the management server has been logged out exactly
once. -/
structure Released (session : NfcAuthSession) : Prop where
  login : session.login.Released
  authd : session.authd.Released

/-- A session that has been made and not been closed. -/
structure Live (session : NfcAuthSession) : Prop where
  probe : session.login.probe.Released
  loggedIn : session.login.loggedIn = true
  logouts : session.login.logouts = 0
  wrapped : session.authd.wrapped = true

variable {special : Char → List Char} {session : NfcAuthSession}

/-- The steps behind the login leave it alone. When they raise, the descriptor of authd is closed. -/
theorem authorize_outcome (special : Char → List Char) (hconnected : session.authd.connected = false)
    (hwrapped : session.authd.wrapped = false) :
    Proc.Outcome (fun _ after ↦ after.login = session.login ∧ after.authd.wrapped = true)
      (fun _ after ↦ after.login = session.login ∧ after.authd.Released)
      (authorize special session) := by
  rw [authorize, Proc.get_bind_apply]
  rcases session.service.requestTicket session.args.diskDeviceKey session.args.readOnly
    session.args.diskPath with error | ticket
  · exact ⟨rfl, fun h ↦ absurd (hconnected.symm.trans h) Bool.false_ne_true⟩
  rw [Proc.lift_bind_of_ok rfl, Proc.modify_bind_apply]
  have houtcome := connectAuthd_outcome special ticket session.args.allowUntrusted session.args.nfcSsl
    session.authd
  rcases hconnect : connectAuthd special ticket session.args.allowUntrusted session.args.nfcSsl
    session.authd with ⟨error | ⟨⟨⟩⟩, authd⟩
  all_goals
    rw [hconnect] at houtcome
    have hzoom : Proc.zoom authdPart
        (connectAuthd special ticket session.args.allowUntrusted session.args.nfcSsl)
        { session with ticket := some ticket } = _ := Proc.zoom_of_eq authdPart hconnect
    rw [hzoom]
  · exact ⟨rfl, houtcome.released hconnected hwrapped⟩
  · exact ⟨rfl, houtcome.wrapped⟩

/-- A body that raises is behind a logout, whatever the logout raises. -/
theorem logoutOnError_of_error {body : Py NfcAuthSession Unit} {after : NfcAuthSession} {error : PyError}
    (hbody : body session = (.error error, after)) :
    ∃ raised, logoutOnError body session =
      (.error raised, { after with login := (Login.disconnect after.login).2 }) := by
  rw [logoutOnError, Proc.tryExcept_of_error hbody, if_pos (show error.isException = true from rfl)]
  rcases hlogout : Login.disconnect after.login with ⟨raised | ⟨⟨⟩⟩, login⟩
  · exact ⟨raised, Proc.bind_of_error (Proc.zoom_of_eq loginPart hlogout)⟩
  · exact ⟨error, Proc.bind_of_ok (Proc.zoom_of_eq loginPart hlogout)⟩

/-- `authenticate` raises and leaves nothing behind, or there is a session. -/
theorem authenticate_outcome (special : Char → List Char) (args : AuthArgs) (fate : AuthFate) :
    Proc.Outcome (fun _ after ↦ after.Live) (fun _ after ↦ after.Released)
      (authenticate special (.fresh args fate)) := by
  have hunused : (fresh args fate).authd.Released := fun h ↦ absurd h Bool.false_ne_true
  have hlogin : Proc.Outcome _ _ (Login.connectVim special (fresh args fate).args.connectArgs
    (fresh args fate).login) := Login.connectVim_outcome special args.connectArgs fate.login
  rw [authenticate, Proc.get_bind_apply]
  rcases hconnect : Login.connectVim special (fresh args fate).args.connectArgs (fresh args fate).login with
    ⟨error | ⟨⟨⟩⟩, login⟩
  all_goals rw [hconnect] at hlogin
  · rw [Proc.bind_of_error (Proc.zoom_of_eq loginPart hconnect)]
    exact ⟨hlogin, hunused⟩
  obtain ⟨hprobe, hloggedIn, hlogouts⟩ := hlogin
  rw [Proc.bind_of_ok (Proc.zoom_of_eq loginPart hconnect)]
  have hauthorize := @authorize_outcome (loginPart.set login (fresh args fate)) special rfl rfl
  rcases hrun : authorize special (loginPart.set login (fresh args fate)) with ⟨error | ⟨⟨⟩⟩, after⟩
  all_goals rw [hrun] at hauthorize
  · obtain ⟨hafter, hauthd⟩ := hauthorize
    obtain ⟨raised, hraises⟩ := logoutOnError_of_error hrun
    rw [Proc.bind_of_error hraises]
    refine ⟨?_, hauthd⟩
    rw [hafter]
    exact Login.disconnect_released hprobe hloggedIn hlogouts
  · obtain ⟨hafter, hwrapped⟩ := hauthorize
    have hreturns : logoutOnError (authorize special) (loginPart.set login (fresh args fate)) =
        (.ok (), after) := Proc.tryExcept_of_ok hrun
    rw [Proc.bind_of_ok hreturns]
    refine ⟨?_, ?_, ?_, hwrapped⟩
    · exact hafter ▸ hprobe
    · exact hafter ▸ hloggedIn
    · exact hafter ▸ hlogouts

/-- Closing a session closes its authd socket and logs out, whatever either raises. -/
theorem Live.close_released (hlive : session.Live) : (close session).2.Released := by
  rw [close, Proc.tryFinally_snd, Proc.zoom_apply, Proc.zoom_apply, Sock.close_snd]
  exact ⟨Login.disconnect_released hlive.probe hlive.loggedIn hlive.logouts,
    AuthdConn.released_close session.authd hlive.wrapped⟩

end NfcAuthSession

/-! ### A disk -/

/-- What `open_disk` will meet. -/
structure DiskFate where
  nfc : NfcRoute
  nfcRaw : SockFate
  nfcTls : SockFate

/-- One `with open_disk(session, ...)` block. -/
structure DiskBlock where
  nfcSsl : Bool
  nfc : NfcConn
  disk : Option NfcDisk

namespace DiskBlock

/-- A block that has not been entered. -/
def fresh (nfcSsl : Bool) (fate : DiskFate) : DiskBlock where
  nfcSsl := nfcSsl
  nfc := ⟨fate.nfc, fate.nfcRaw.sock, fate.nfcTls.sock, false, false⟩
  disk := none

def nfcPart : Proc.Part DiskBlock NfcConn where
  get := DiskBlock.nfc
  set := fun nfc block ↦ { block with nfc := nfc }

/-- The NFC socket. -/
def sock (block : DiskBlock) : Sock :=
  (NfcConn.sockPart block.nfcSsl).get block.nfc

/-- The block with another state of its disk. -/
def withDisk (block : DiskBlock) (disk : NfcDisk) : DiskBlock :=
  { block with
    disk := some disk
    nfc := (NfcConn.sockPart block.nfcSsl).set disk.sock block.nfc }

/-- `open_disk`. -/
def enter (args : OpenArgs) : Py DiskBlock Unit := do
  let block ← Proc.get
  let disk ← Proc.zoom nfcPart (NfcConn.openDisk args block.nfcSsl)
  Proc.modify fun block ↦ { block with disk := some disk }

/-- Run a procedure on the disk, which lives on the NFC socket. -/
def onDisk {α : Type} (body : Py NfcDisk α) : Py DiskBlock α := fun block ↦
  match block.disk with
  | none => (.error Opening.notOpened, block)
  | some disk =>
    match body { disk with sock := block.sock } with
    | (result, after) => (result, block.withDisk after)

/-- `NfcDisk.__exit__`. -/
def leave : Py DiskBlock Unit :=
  onDisk NfcDisk.close

/-- Once `os.dup` has returned, no step raised that no handler guards. -/
def Guarded (block : DiskBlock) : Prop :=
  block.nfc.dupped = true → block.nfc.route.Guarded block.nfcSsl

/-- The NFC socket is closed exactly in a guarded block, and so is every block with a disk. -/
structure Settled (block : DiskBlock) : Prop where
  nfc : block.nfc.Released ↔ block.Guarded
  disk : block.disk ≠ none → block.Guarded

/-- An entered block: it has a disk, which has a closed socket when it is closed, and the socket belongs to
the TLS session of its transport. -/
structure Live (block : DiskBlock) : Prop where
  disk : ∃ disk, block.disk = some disk ∧ (disk.closed = true → block.sock.closed = true)
  guarded : block.nfc.route.Guarded block.nfcSsl
  wrapped : block.nfc.wrapped = block.nfcSsl

/-- What calls on a disk make of its block: nothing without a disk, and otherwise what is released stays
released and what is live stays live. -/
structure Ages (before after : DiskBlock) : Prop where
  none : before.disk = none → after = before
  guarded : after.Guarded ↔ before.Guarded
  released : before.nfc.Released → after.nfc.Released
  live : before.Live → after.Live

theorem Ages.refl (block : DiskBlock) : block.Ages block :=
  ⟨fun _ ↦ rfl, Iff.rfl, id, id⟩

theorem Ages.trans (first middle last : DiskBlock) (hfirst : first.Ages middle)
    (hlast : middle.Ages last) : first.Ages last where
  none hnone := by
    obtain rfl := hfirst.none hnone
    exact hlast.none hnone
  guarded := hlast.guarded.trans hfirst.guarded
  released := hlast.released ∘ hfirst.released
  live := hlast.live ∘ hfirst.live

variable {block before after : DiskBlock}

theorem sock_withDisk (block : DiskBlock) (disk : NfcDisk) : (block.withDisk disk).sock = disk.sock :=
  NfcConn.sockPart_get_set _ _ _

/-- A new state of its disk moves neither the route nor the flags of a block. -/
theorem guarded_withDisk (block : DiskBlock) (disk : NfcDisk) :
    (block.withDisk disk).Guarded ↔ block.Guarded := by
  obtain ⟨hdupped, -, hroute⟩ := NfcConn.sockPart_set_flags block.nfcSsl disk.sock block.nfc
  unfold Guarded withDisk
  rw [hdupped, hroute]

/-- A new state of its disk leaves a block live, when a closed disk has a closed socket. -/
theorem Live.withDisk {last : NfcDisk} (hlive : block.Live)
    (hsound : last.closed = true → last.sock.closed = true) : (block.withDisk last).Live := by
  obtain ⟨-, hwrapped, hroute⟩ := NfcConn.sockPart_set_flags block.nfcSsl last.sock block.nfc
  refine ⟨⟨last, rfl, fun hclosed ↦ ?_⟩, ?_, hwrapped.trans hlive.wrapped⟩
  · rw [sock_withDisk]
    exact hsound hclosed
  · exact (congrArg (NfcRoute.Guarded block.nfcSsl) hroute).mpr hlive.guarded

/-- A procedure under which disks age makes their blocks age. -/
theorem ages_onDisk {α : Type} {body : Py NfcDisk α} (hbody : Proc.Moves NfcDisk.Ages body) :
    Proc.Moves Ages (onDisk body) := by
  intro block
  rw [onDisk]
  rcases hdisk : block.disk with _ | disk
  · exact .refl block
  have hages := hbody { disk with sock := block.sock }
  refine ⟨fun hnone ↦ ?_, guarded_withDisk block _, fun hreleased ↦ ?_, fun hlive ↦ ?_⟩
  · cases hdisk.symm.trans hnone
  · exact NfcConn.Released.set hreleased hages.sock
  · obtain ⟨disk', hdisk', hsound⟩ := hlive.disk
    obtain rfl := Option.some.inj (hdisk.symm.trans hdisk')
    exact hlive.withDisk (hages.sound hsound)

/-- What is settled stays settled. -/
theorem Settled.ages (hsettled : before.Settled) (hages : before.Ages after) : after.Settled := by
  rcases hdisk : before.disk with _ | disk
  · obtain rfl := hages.none hdisk
    exact hsettled
  · have hguarded : before.Guarded := hsettled.disk (by rw [hdisk]; exact Option.some_ne_none disk)
    have hafter := hages.guarded.mpr hguarded
    exact ⟨iff_of_true (hages.released (hsettled.nfc.mpr hguarded)) hafter, fun _ ↦ hafter⟩

/-- A live block that is left is settled. -/
theorem Live.leave_settled (hlive : block.Live) : (leave block).2.Settled := by
  obtain ⟨disk, hdisk, hsound⟩ := hlive.disk
  have hclosed := (NfcDisk.close_closes { disk with sock := block.sock }).2 hsound
  have hleft : (leave block).2 = block.withDisk (NfcDisk.close { disk with sock := block.sock }).2 := by
    simp only [leave, onDisk, hdisk]
  rw [hleft]
  generalize (NfcDisk.close { disk with sock := block.sock }).2 = last at hclosed
  have hafter := hlive.withDisk fun _ ↦ hclosed
  refine ⟨iff_of_true (fun _ ↦ ?_) fun _ ↦ hafter.guarded, fun _ _ ↦ hafter.guarded⟩
  have hsock : (block.withDisk last).sock.closed = true := by
    rw [sock_withDisk]
    exact hclosed
  revert hsock
  rw [hafter.wrapped]
  unfold sock NfcConn.sockPart
  cases (block.withDisk last).nfcSsl <;> exact id

/-- `open_disk` raises and leaves a settled block, or there is a disk. -/
theorem enter_outcome (args : OpenArgs) (nfcSsl : Bool) (fate : DiskFate) :
    Proc.Outcome (fun _ after ↦ after.Live) (fun _ after ↦ after.Settled)
      (enter args (.fresh nfcSsl fate)) := by
  have houtcome := (fresh nfcSsl fate).nfc.openDisk_outcome args nfcSsl
  rw [enter, Proc.get_bind_apply]
  rcases hopen : (fresh nfcSsl fate).nfc.openDisk args (fresh nfcSsl fate).nfcSsl with
    ⟨error | disk, nfc⟩
  all_goals
    rw [show (fresh nfcSsl fate).nfc.openDisk args nfcSsl = _ from hopen] at houtcome
    have hzoom := Proc.zoom_of_eq nfcPart (show NfcConn.openDisk args (fresh nfcSsl fate).nfcSsl
      (nfcPart.get (fresh nfcSsl fate)) = _ from hopen)
  · rw [Proc.bind_of_error hzoom]
    exact ⟨houtcome.released_iff rfl rfl rfl, fun hdisk ↦ absurd rfl hdisk⟩
  · rw [Proc.bind_of_ok hzoom]
    cases houtcome with
    | opened hguarded hopened =>
      obtain ⟨-, hwrapped, hroute⟩ := NfcConn.sockPart_set_flags nfcSsl disk.sock
        { (fresh nfcSsl fate).nfc with dupped := true, wrapped := false || nfcSsl }
      refine ⟨⟨disk, rfl, fun hclosed ↦ ?_⟩, ?_, hwrapped.trans (Bool.false_or _)⟩
      · exact absurd (hopened.symm.trans hclosed) Bool.false_ne_true
      · exact (congrArg (NfcRoute.Guarded nfcSsl) hroute).mpr hguarded

end DiskBlock

/-! ### Programs -/

/-- `NfcDisk.readinto`, with what it raises or returns and the buffer as it leaves it. -/
def NfcDisk.readBuffer (library : FastLzLibrary) (startSector numSectors : ℤ) (skipDecompression : Bool)
    (buf : Buffer) : Py NfcDisk (Except PyError ReadResult × Buffer) := fun disk ↦
  match readinto library startSector numSectors skipDecompression (disk, buf) with
  | (result, after, buf) => (.ok (result, buf), after)

/-- The calls on a disk. -/
inductive DiskUse (library : FastLzLibrary) : {α : Type} → Py NfcDisk α → Prop
  | read (startSector numSectors : ℤ) : DiskUse library (NfcDisk.read library startSector numSectors)
  | readinto (startSector numSectors : ℤ) (skipDecompression : Bool) (buf : Buffer) :
      DiskUse library (NfcDisk.readBuffer library startSector numSectors skipDecompression buf)
  | write (startSector numSectors : ℤ) (data : Bytes) :
      DiskUse library (NfcDisk.write library startSector numSectors data)
  | close : DiskUse library NfcDisk.close

theorem DiskUse.ages {library : FastLzLibrary} {α : Type} {body : Py NfcDisk α}
    (huse : DiskUse library body) : Proc.Moves NfcDisk.Ages body := by
  intro disk
  cases huse with
  | read startSector numSectors =>
    rw [read_snd]
    exact (NfcDisk.works_readinto library startSector numSectors false (disk, _)).ages
  | readinto startSector numSectors skipDecompression buf =>
    exact (NfcDisk.works_readinto library startSector numSectors skipDecompression (disk, buf)).ages
  | write startSector numSectors data =>
    exact (NfcDisk.works_write library startSector numSectors data disk).ages
  | close => exact NfcDisk.ages_close disk

/-- What is outside the client: the rest of Unicode, the FastLZ library, and what each block meets. -/
structure SessionEnvironment where
  special : Char → List Char
  library : FastLzLibrary
  sessions : ℕ → AuthFate
  disks : ℕ → DiskFate

/-- The blocks that were begun, in this order. -/
structure SessionWorld where
  sessions : List NfcAuthSession
  disks : List DiskBlock

/-- A program on `authenticate` and `open_disk`. A block hands its number to its body, and the program goes on
with what the block raised. -/
inductive SessionCode
  | finish (outcome : Except PyError Unit)
  | read (disk : ℕ) (startSector numSectors : ℤ) (next : Except PyError Bytes → SessionCode)
  | readinto (disk : ℕ) (startSector numSectors : ℤ) (skipDecompression : Bool) (buf : Buffer)
      (next : Except PyError (Except PyError ReadResult × Buffer) → SessionCode)
  | write (disk : ℕ) (startSector numSectors : ℤ) (data : Bytes)
      (next : Except PyError Unit → SessionCode)
  | close (disk : ℕ) (next : Except PyError Unit → SessionCode)
  | closeSession (session : ℕ) (next : Except PyError Unit → SessionCode)
  | authenticate (args : AuthArgs) (body : ℕ → SessionCode) (next : Except PyError Unit → SessionCode)
  | openDisk (session : ℕ) (args : OpenArgs) (body : ℕ → SessionCode)
      (next : Except PyError Unit → SessionCode)

namespace SessionWorld

def sessionsPart : Proc.Part SessionWorld (List NfcAuthSession) where
  get := SessionWorld.sessions
  set := fun sessions world ↦ { world with sessions := sessions }

def disksPart : Proc.Part SessionWorld (List DiskBlock) where
  get := SessionWorld.disks
  set := fun disks world ↦ { world with disks := disks }

/-- A call on a disk. -/
def onDisk {α : Type} (disk : ℕ) (body : Py NfcDisk α) : Py SessionWorld α :=
  Proc.zoom disksPart (Proc.onEntry Opening.notOpened disk (DiskBlock.onDisk body))

/-- `session.close()`. -/
def closeSession (session : ℕ) : Py SessionWorld Unit :=
  Proc.zoom sessionsPart (Proc.onEntry NfcAuthSession.notMade session
    (NfcAuthSession.onSession NfcAuthSession.close))

/-- `session.nfc_ssl`. -/
def nfcSsl (session : ℕ) : Py SessionWorld Bool :=
  Proc.zoom sessionsPart (Proc.onEntry NfcAuthSession.notMade session NfcAuthSession.nfcSsl)

/-- `with authenticate(...) as session`. -/
def sessionBlock (env : SessionEnvironment) (args : AuthArgs) (body : ℕ → Py SessionWorld Unit) :
    Py SessionWorld Unit :=
  Proc.withEntry sessionsPart NfcAuthSession.notMade
    (fun index ↦ NfcAuthSession.fresh args (env.sessions index))
    (NfcAuthSession.authenticate env.special) NfcAuthSession.close body

/-- `with open_disk(session, ...) as disk`. -/
def diskBlock (env : SessionEnvironment) (session : ℕ) (args : OpenArgs)
    (body : ℕ → Py SessionWorld Unit) : Py SessionWorld Unit := do
  let nfcSsl ← nfcSsl session
  Proc.withEntry disksPart Opening.notOpened (fun index ↦ DiskBlock.fresh nfcSsl (env.disks index))
    (DiskBlock.enter args) DiskBlock.leave body

end SessionWorld

namespace SessionCode

open SessionWorld

/-- Run a program. -/
def run (env : SessionEnvironment) : SessionCode → Py SessionWorld Unit
  | finish outcome => Proc.lift outcome
  | read disk startSector numSectors next => do
    let result ← Proc.attempt (onDisk disk (NfcDisk.read env.library startSector numSectors))
    run env (next result)
  | readinto disk startSector numSectors skipDecompression buf next => do
    let result ← Proc.attempt
      (onDisk disk (NfcDisk.readBuffer env.library startSector numSectors skipDecompression buf))
    run env (next result)
  | write disk startSector numSectors data next => do
    let result ← Proc.attempt (onDisk disk (NfcDisk.write env.library startSector numSectors data))
    run env (next result)
  | close disk next => do
    let result ← Proc.attempt (onDisk disk NfcDisk.close)
    run env (next result)
  | closeSession session next => do
    let result ← Proc.attempt (SessionWorld.closeSession session)
    run env (next result)
  | authenticate args body next => do
    let result ← Proc.attempt (sessionBlock env args fun index ↦ run env (body index))
    run env (next result)
  | openDisk session args body next => do
    let result ← Proc.attempt (diskBlock env session args fun index ↦ run env (body index))
    run env (next result)

/-- No call of the program is a `close` of a session; leaving its block is none. -/
def NeverCloses : SessionCode → Prop
  | finish _ => True
  | read _ _ _ next => ∀ result, (next result).NeverCloses
  | readinto _ _ _ _ _ next => ∀ result, (next result).NeverCloses
  | write _ _ _ _ next => ∀ result, (next result).NeverCloses
  | close _ next => ∀ result, (next result).NeverCloses
  | closeSession _ _ => False
  | authenticate _ body next =>
    (∀ index, (body index).NeverCloses) ∧ ∀ result, (next result).NeverCloses
  | openDisk _ _ body next =>
    (∀ index, (body index).NeverCloses) ∧ ∀ result, (next result).NeverCloses

variable {env : SessionEnvironment} {relation : SessionWorld → SessionWorld → Prop}

/-- What the calls and the two blocks keep is kept by every program that leaves its sessions to their
blocks. -/
theorem run_keeps (hrefl : ∀ world, relation world world)
    (htrans : ∀ first middle last, relation first middle → relation middle last →
      relation first last)
    (huse : ∀ {α : Type} (disk : ℕ) {body : Py NfcDisk α}, DiskUse env.library body →
      Proc.Moves relation (onDisk disk body))
    (hsession : ∀ args body, (∀ index, Proc.Moves relation (body index)) →
      Proc.Moves relation (sessionBlock env args body))
    (hdisk : ∀ session args body, (∀ index, Proc.Moves relation (body index)) →
      Proc.Moves relation (diskBlock env session args body)) :
    ∀ code : SessionCode, code.NeverCloses → Proc.Moves relation (code.run env) := by
  intro code
  induction code with
  | finish outcome => exact fun _ ↦ .lift hrefl outcome
  | read disk startSector numSectors next ih =>
    exact fun hcode ↦ .bind htrans (.attempt (huse disk (.read _ _))) fun result ↦
      ih result (hcode result)
  | readinto disk startSector numSectors skipDecompression buf next ih =>
    exact fun hcode ↦ .bind htrans (.attempt (huse disk (.readinto _ _ _ _))) fun result ↦
      ih result (hcode result)
  | write disk startSector numSectors data next ih =>
    exact fun hcode ↦ .bind htrans (.attempt (huse disk (.write _ _ _))) fun result ↦
      ih result (hcode result)
  | close disk next ih =>
    exact fun hcode ↦ .bind htrans (.attempt (huse disk .close)) fun result ↦ ih result (hcode result)
  | closeSession session next ih => exact fun hcode ↦ hcode.elim
  | authenticate args body next hbody hnext =>
    exact fun hcode ↦ .bind htrans
      (.attempt (hsession args _ fun index ↦ hbody index (hcode.1 index))) fun result ↦
        hnext result (hcode.2 result)
  | openDisk session args body next hbody hnext =>
    exact fun hcode ↦ .bind htrans
      (.attempt (hdisk session args _ fun index ↦ hbody index (hcode.1 index))) fun result ↦
        hnext result (hcode.2 result)

/-- Reading the transport of a session leaves the sessions as they were. -/
theorem nfcSsl_snd (session : ℕ) (world : SessionWorld) :
    (SessionWorld.nfcSsl session world).2 = world := by
  have hnone : ∀ entry : NfcAuthSession, (NfcAuthSession.nfcSsl entry).2 = entry := by
    intro entry
    unfold NfcAuthSession.nfcSsl NfcAuthSession.onSession
    split <;> rfl
  change ({ world with sessions := (Proc.onEntry NfcAuthSession.notMade session NfcAuthSession.nfcSsl
    world.sessions).2 } : SessionWorld) = world
  rcases hentry : world.sessions[session]? with _ | entry
  · rw [Proc.onEntry_of_none hentry]
  · obtain ⟨hinside, rfl⟩ := List.getElem?_eq_some_iff.mp hentry
    rw [Proc.onEntry_of_some hentry, hnone, List.set_getElem_self]

/-- Every session that a program begins ends released. -/
theorem releases_sessions (env : SessionEnvironment) {code : SessionCode} (hnever : code.NeverCloses) :
    Proc.Moves (fun before after ↦
      Proc.Extends Eq NfcAuthSession.Released before.sessions after.sessions) (code.run env) := by
  have hrefl : ∀ world : SessionWorld,
      Proc.Extends Eq NfcAuthSession.Released world.sessions world.sessions :=
    fun world ↦ .refl Eq.refl world.sessions
  have htrans : ∀ first middle last : SessionWorld,
      Proc.Extends Eq NfcAuthSession.Released first.sessions middle.sessions →
      Proc.Extends Eq NfcAuthSession.Released middle.sessions last.sessions →
        Proc.Extends Eq NfcAuthSession.Released first.sessions last.sessions := by
    refine fun _ _ _ ↦ Proc.Extends.trans (@Eq.trans NfcAuthSession) ?_
    rintro session _ hreleased rfl
    exact hreleased
  refine run_keeps hrefl htrans (fun _ _ _ world ↦ hrefl world) ?_ ?_ code hnever
  · intro args body hbody
    refine .withEntry (show sessionsPart.Lawful from fun _ _ ↦ rfl) Eq.refl _ _ ?_ ?_ hbody
    · intro index error after henter
      have houtcome := NfcAuthSession.authenticate_outcome env.special args (env.sessions index)
      rw [henter] at houtcome
      exact houtcome
    · rintro index entered last henter rfl
      have houtcome := NfcAuthSession.authenticate_outcome env.special args (env.sessions index)
      rw [henter] at houtcome
      exact NfcAuthSession.Live.close_released houtcome
  · intro session args body hbody
    refine .bind htrans (fun world ↦ ?_) fun nfcSsl ↦ .withEntry_keeps htrans _ _ (fun _ world ↦ hrefl world)
      hbody
    rw [nfcSsl_snd]
    exact hrefl world

/-- Every disk that a program begins ends settled. -/
theorem settles_disks (env : SessionEnvironment) {code : SessionCode} (hnever : code.NeverCloses) :
    Proc.Moves (fun before after ↦
      Proc.Extends DiskBlock.Ages DiskBlock.Settled before.disks after.disks) (code.run env) := by
  have hrefl : ∀ world : SessionWorld,
      Proc.Extends DiskBlock.Ages DiskBlock.Settled world.disks world.disks :=
    fun world ↦ .refl DiskBlock.Ages.refl world.disks
  have htrans : ∀ first middle last : SessionWorld,
      Proc.Extends DiskBlock.Ages DiskBlock.Settled first.disks middle.disks →
      Proc.Extends DiskBlock.Ages DiskBlock.Settled middle.disks last.disks →
        Proc.Extends DiskBlock.Ages DiskBlock.Settled first.disks last.disks :=
    fun _ _ _ ↦ .trans DiskBlock.Ages.trans fun _ _ hsettled ↦ hsettled.ages
  refine run_keeps hrefl htrans ?_ ?_ ?_ code hnever
  · intro α disk body huse
    exact .zoom (fun _ _ hextends ↦ hextends)
      (.onEntry DiskBlock.Ages.refl (DiskBlock.ages_onDisk huse.ages) _ disk)
  · intro args body hbody
    exact .withEntry_keeps htrans _ _ (fun _ world ↦ hrefl world) hbody
  · intro session args body hbody
    refine .bind htrans (fun world ↦ hrefl world) fun nfcSsl ↦ ?_
    refine .withEntry (show disksPart.Lawful from fun _ _ ↦ rfl) DiskBlock.Ages.refl _ _ ?_ ?_ hbody
    · intro index error after henter
      have houtcome := DiskBlock.enter_outcome args nfcSsl (env.disks index)
      rw [henter] at houtcome
      exact houtcome
    · intro index entered last henter hages
      have houtcome := DiskBlock.enter_outcome args nfcSsl (env.disks index)
      rw [henter] at houtcome
      exact (hages.live houtcome).leave_settled

/-- Every session that the program begins ends released. -/
def ReleasesSessions (env : SessionEnvironment) (world : SessionWorld) (code : SessionCode) : Prop :=
  ∀ (index : ℕ) (session : NfcAuthSession), world.sessions.length ≤ index →
    (code.run env world).2.sessions[index]? = some session → session.Released

/-- Every disk that the program begins has closed its NFC socket. -/
def ReleasesDisks (env : SessionEnvironment) (world : SessionWorld) (code : SessionCode) : Prop :=
  ∀ (index : ℕ) (block : DiskBlock), world.disks.length ≤ index →
    (code.run env world).2.disks[index]? = some block → block.nfc.Released

/-- Every disk that the program begins is guarded. -/
def Guarded (env : SessionEnvironment) (world : SessionWorld) (code : SessionCode) : Prop :=
  ∀ (index : ℕ) (block : DiskBlock), world.disks.length ≤ index →
    (code.run env world).2.disks[index]? = some block → block.Guarded

/-- A program that leaves its sessions to their blocks releases every session, and its disks exactly when
they are guarded. -/
theorem releases_every_session (env : SessionEnvironment) (world : SessionWorld) {code : SessionCode}
    (hnever : code.NeverCloses) :
    code.ReleasesSessions env world ∧ (code.ReleasesDisks env world ↔ code.Guarded env world) := by
  have hdisks := (settles_disks env hnever world).settled
  refine ⟨(releases_sessions env hnever world).settled, fun hreleases index block hnew hblock ↦ ?_,
    fun hguarded index block hnew hblock ↦ ?_⟩
  · exact (hdisks index block hnew hblock).nfc.mp (hreleases index block hnew hblock)
  · exact (hdisks index block hnew hblock).nfc.mpr (hguarded index block hnew hblock)

end SessionCode

/-- The outside for a session and a disk on it. -/
def willingSessions (ticket : HostServiceTicket) (nfc : NfcRoute) : SessionEnvironment where
  special := fun char ↦ [char]
  library := FastLz.storing
  sessions := fun _ ↦
    ⟨willingLogin, (willingOpening ticket nfc).service, openAuthdRoute, .meeting (asciiBytes "220 ready\n"),
      .meeting (asciiBytes "220 hello\n200 ok\n200 Connect\n")⟩
  disks := fun _ ↦ ⟨nfc, .meeting openingReplies, .meeting openingReplies⟩

/-- A session with one disk that is read once. -/
def readInSession : SessionCode :=
  .authenticate ⟨"vc", 443, none, true, none, some "[datastore0] vm/vm.vmdk", true, false⟩
    (fun session ↦ .openDisk session (defaultOpenArgs "[datastore0] vm/vm.vmdk")
      (fun disk ↦ .read disk 0 1 fun result ↦ .finish (result.map fun _ ↦ ())) .finish) .finish

theorem SessionCode.releases_every_session_readInSession :
    readInSession.ReleasesSessions (willingSessions bareTicket openNfcRoute) ⟨[], []⟩ ∧
      (readInSession.ReleasesDisks (willingSessions bareTicket openNfcRoute) ⟨[], []⟩ ↔
        readInSession.Guarded (willingSessions bareTicket openNfcRoute) ⟨[], []⟩) :=
  SessionCode.releases_every_session (willingSessions bareTicket openNfcRoute) ⟨[], []⟩
    ⟨fun _ ↦ ⟨fun _ _ ↦ trivial, fun _ ↦ trivial⟩, fun _ ↦ trivial⟩

end OpenVixDiskLib
