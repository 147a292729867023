import OpenVixDiskLib.Handle.Opening

/-!
# Logging in and out

`VixDiskLibHandle.connect` up to its `yield`, with `connect_vim` of `nfc_auth.py`, and
`VixDiskLibHandle.disconnect`. A `Login` is one `connect` block: what the system and the management server
will do (`VimRoute`), the connection that reads the thumbprint of the management certificate, and the VIM
session.

Entering a block either raises, and then there is no session, or there is one and it has not been logged
out (`Login.enter_outcome`); leaving it logs out once more. The connection for the thumbprint is closed in
either case.
-/

set_option autoImplicit false
set_option relaxedAutoImplicit false

namespace OpenVixDiskLib

/-! ### Arguments -/

/-- The name of a transport. -/
def TransportMode.ofName (name : String) : Option TransportMode :=
  if name = "nbdssl" then some .nbdssl else if name = "nbd" then some .nbd else none

/-- `_select_transport`. -/
def selectTransport (transportModes : Option String) : Except PyError TransportMode :=
  match transportModes with
  | none => .ok .nbdssl
  | some modes =>
    match ((modes.toList.splitOn ':').map String.ofList).findSome? TransportMode.ofName with
    | some mode => .ok mode
    | none => .error ⟨.notImplementedError,
        s!"supported transports are nbdssl and nbd, got {reprText modes}"⟩

/-- `_parse_vm_moref`. Only ASCII letters have the letters of `moref` as their lower case. -/
def parseVmMoref (vmxSpec : Option String) : Except PyError String :=
  match truthy vmxSpec with
  | none => .error (valueError "vmx_spec is required (for example 'moref=vm-13098')")
  | some spec =>
    if '=' ∈ spec.toList then
      let kind := spec.toList.takeWhile (· ≠ '=')
      let value := (spec.toList.dropWhile (· ≠ '=')).tail
      if kind.map Char.toLower ≠ "moref".toList ∨ value = [] then
        .error (valueError s!"unsupported vmx_spec: {spec}")
      else .ok (String.ofList value)
    else .ok spec

/-- The arguments of `connect`, as far as they are used. -/
structure ConnectArgs where
  serverName : String
  thumbprint : Option String
  vmxSpec : Option String
  readOnly : Bool
  transportModes : Option String
  port : ℕ
  allowUntrusted : Bool
deriving DecidableEq

/-! ### The management connection -/

/-- What the system and the management server do, besides the connection for the thumbprint: the TLS
context, the API versions that pyVmomi knows, and the SOAP calls of `SmartConnect` and `Disconnect`. -/
structure VimRoute where
  context : Except PyError Unit
  versions : Except PyError Unit
  login : Except PyError Unit
  logout : Except PyError Unit

/-- What a `connect` block will meet. -/
structure LoginFate where
  route : VimRoute
  probe : AuthdRoute
  probeRaw : SockFate
  probeTls : SockFate

/-- One `connect` block. `logouts` counts the calls of `Disconnect` on its session. -/
structure Login where
  route : VimRoute
  probe : AuthdConn
  loggedIn : Bool
  logouts : ℕ
  conn : Option Connection

/-- A block that has not been entered. -/
def Login.fresh (fate : LoginFate) : Login where
  route := fate.route
  probe := ⟨fate.probe, fate.probeRaw.sock, fate.probeTls.sock, false, false⟩
  loggedIn := false
  logouts := 0
  conn := none

/-- `with sock: with ssock: cert = ssock.getpeercert(binary_form=True)` of `get_ssl_cert_thumbprint`. -/
def readPeerCertificate : Py AuthdConn (Option Bytes) := do
  AuthdConn.createConnection
  Proc.tryFinally (do
    let conn ← Proc.get
    Proc.lift conn.route.wrap
    Proc.modify fun conn ↦ { conn with wrapped := true }
    Proc.tryFinally AuthdConn.getpeercert (Proc.zoom AuthdConn.authdPart Sock.close))
    (Proc.zoom AuthdConn.rawPart Sock.close)

/-- `get_ssl_cert_thumbprint`. -/
def getSslCertThumbprint (host : String) (port : ℕ) : Py AuthdConn String := do
  let conn ← Proc.get
  Proc.lift conn.route.context
  let cert ← readPeerCertificate
  Proc.raiseIf (cert.getD [] = []) (connectionError s!"no peer certificate from {host}:{port}")
  pure (sha1Thumbprint (cert.getD []))

namespace Login

def probePart : Proc.Part Login AuthdConn where
  get := Login.probe
  set := fun probe login ↦ { login with probe := probe }

/-- The check of the management certificate in `connect_vim`. -/
def checkManagement (special : Char → List Char) (args : ConnectArgs) : Py Login Unit :=
  match args.allowUntrusted, truthy args.thumbprint with
  | false, some thumbprint => do
    let peer ← Proc.zoom probePart (getSslCertThumbprint args.serverName args.port)
    Proc.raiseIf (normalizeThumbprint special peer ≠ normalizeThumbprint special thumbprint)
      (connectionError
        s!"management SSL thumbprint mismatch: got {peer}, expected {thumbprint}")
  | _, _ => pure ()

/-- The end of `connect_vim`. -/
def smartConnect (args : ConnectArgs) : Py Login Unit := do
  let login ← Proc.get
  Proc.lift (if args.allowUntrusted = true ∨ (truthy args.thumbprint).isSome then login.route.context
    else .ok ())
  Proc.lift login.route.versions
  Proc.lift login.route.login
  Proc.modify fun login ↦ { login with loggedIn := true }

/-- `connect_vim`. -/
def connectVim (special : Char → List Char) (args : ConnectArgs) : Py Login Unit := do
  checkManagement special args
  smartConnect args

/-- `VixDiskLibHandle.connect` up to its `yield`. -/
def enter (special : Char → List Char) (args : ConnectArgs) : Py Login Unit := do
  let transportMode ← Proc.lift (selectTransport args.transportModes)
  let vmMoref ← Proc.lift (parseVmMoref args.vmxSpec)
  connectVim special args
  Proc.modify fun login ↦
    { login with conn := some ⟨vmMoref, args.allowUntrusted, args.readOnly, transportMode⟩ }

/-- `VixDiskLibHandle.disconnect`. -/
def disconnect : Py Login Unit := do
  let login ← Proc.get
  Proc.modify fun login ↦ { login with logouts := login.logouts + 1 }
  Proc.lift login.route.logout

/-- There is no connection without a session. -/
def notConnected : PyError :=
  ⟨.external, "no connection"⟩

/-- The connection that an entered block hands to its body. -/
def connection : Py Login Connection := fun login ↦
  match login.conn with
  | some conn => (.ok conn, login)
  | none => (.error notConnected, login)

end Login

/-! ### What is released -/

/-- The descriptor of a TLS connection, if there is one, is closed by the socket that owns it. -/
def AuthdConn.Released (conn : AuthdConn) : Prop :=
  conn.connected = true → if conn.wrapped then conn.authd.closed = true else conn.raw.closed = true

/-- The connection for the thumbprint is closed, and a session has been logged out exactly once. -/
structure Login.Released (login : Login) : Prop where
  probe : login.probe.Released
  logouts_eq : login.logouts = if login.loggedIn then 1 else 0

/-- The connection that reads a certificate is closed, whatever happens on it. -/
theorem readPeerCertificate_released {conn : AuthdConn} (hconnected : conn.connected = false)
    (hwrapped : conn.wrapped = false) : (readPeerCertificate conn).2.Released := by
  rw [readPeerCertificate]
  rcases hconnect : conn.route.connect with error | ⟨⟨⟩⟩
  · rw [Proc.bind_of_error (AuthdConn.createConnection_of_error hconnect)]
    exact fun h ↦ absurd (hconnected.symm.trans h) Bool.false_ne_true
  rw [Proc.bind_of_ok (AuthdConn.createConnection_of_ok hconnect), Proc.tryFinally_snd,
    Proc.get_bind_apply, Proc.zoom_apply]
  intro _
  rcases hwrap : conn.route.wrap with error | ⟨⟨⟩⟩
  · change if conn.wrapped then _ else _
    rw [hwrapped, if_neg Bool.false_ne_true]
    exact congrArg Sock.closed (Sock.close_snd _)
  · rw [Proc.lift_bind_of_ok rfl, Proc.modify_bind_apply, Proc.tryFinally_snd, Proc.zoom_apply]
    exact congrArg Sock.closed (Sock.close_snd _)

theorem getSslCertThumbprint_released {conn : AuthdConn} (hconnected : conn.connected = false)
    (hwrapped : conn.wrapped = false) (host : String) (port : ℕ) :
    (getSslCertThumbprint host port conn).2.Released := by
  rw [getSslCertThumbprint, Proc.get_bind_apply]
  rcases hcontext : conn.route.context with error | ⟨⟨⟩⟩
  · exact fun h ↦ absurd (hconnected.symm.trans h) Bool.false_ne_true
  have hreleased := readPeerCertificate_released hconnected hwrapped
  rw [Proc.lift_bind_of_ok rfl]
  rcases hread : readPeerCertificate conn with ⟨error | cert, last⟩
  all_goals rw [hread] at hreleased
  · rw [Proc.bind_of_error hread]
    exact hreleased
  · rw [Proc.bind_of_ok hread]
    by_cases hempty : cert.getD [] = []
    · rw [Proc.raiseIf_bind_of_pos hempty]
      exact hreleased
    · rw [Proc.raiseIf_bind_of_neg hempty]
      exact hreleased

theorem Login.fresh_released (fate : LoginFate) : (Login.fresh fate).Released :=
  ⟨fun h ↦ absurd h Bool.false_ne_true, rfl⟩

/-- The check of the management certificate leaves its connection closed, and the session alone. -/
theorem Login.checkManagement_released (special : Char → List Char) (args : ConnectArgs)
    (fate : LoginFate) :
    ∃ result probe, checkManagement special args (.fresh fate) =
      (result, { Login.fresh fate with probe := probe }) ∧ probe.Released := by
  have hunused := (Login.fresh_released fate).probe
  unfold checkManagement
  cases hallow : args.allowUntrusted with
  | true => exact ⟨_, _, rfl, hunused⟩
  | false =>
    rcases hthumb : truthy args.thumbprint with _ | thumbprint
    · exact ⟨_, _, rfl, hunused⟩
    have hreleased := @getSslCertThumbprint_released (Login.fresh fate).probe rfl rfl args.serverName
      args.port
    dsimp only
    rcases hread : getSslCertThumbprint args.serverName args.port (Login.fresh fate).probe with
      ⟨error | peer, probe⟩
    all_goals
      rw [hread] at hreleased
      have hzoom := Proc.zoom_of_eq probePart (show getSslCertThumbprint args.serverName args.port
        (probePart.get (Login.fresh fate)) = _ from hread)
    · rw [Proc.bind_of_error hzoom]
      exact ⟨_, _, rfl, hreleased⟩
    · rw [Proc.bind_of_ok hzoom, Proc.raiseIf_apply]
      exact ⟨_, _, rfl, hreleased⟩

/-- `connect_vim` raises and leaves nothing behind, or there is a session that has not been logged
out. -/
theorem Login.connectVim_outcome (special : Char → List Char) (args : ConnectArgs) (fate : LoginFate) :
    Proc.Outcome (fun _ after ↦ after.probe.Released ∧ after.loggedIn = true ∧ after.logouts = 0)
      (fun _ after ↦ after.Released) (connectVim special args (.fresh fate)) := by
  obtain ⟨result, probe, hcheck, hprobe⟩ := Login.checkManagement_released special args fate
  have hreleased : ({ Login.fresh fate with probe := probe } : Login).Released := ⟨hprobe, rfl⟩
  rw [connectVim]
  rcases result with error | ⟨⟨⟩⟩
  · rw [Proc.bind_of_error hcheck]
    exact hreleased
  rw [Proc.bind_of_ok hcheck, smartConnect, Proc.get_bind_apply]
  rcases (if args.allowUntrusted = true ∨ (truthy args.thumbprint).isSome then
    (Login.fresh fate).route.context else .ok ()) with error | ⟨⟨⟩⟩
  · exact hreleased
  rw [Proc.lift_bind_of_ok rfl]
  rcases (Login.fresh fate).route.versions with error | ⟨⟨⟩⟩
  · exact hreleased
  rw [Proc.lift_bind_of_ok rfl]
  rcases (Login.fresh fate).route.login with error | ⟨⟨⟩⟩
  · exact hreleased
  · exact ⟨hprobe, rfl, rfl⟩

/-- Entering a block raises and leaves nothing behind, or there is a session that has not been logged
out. -/
theorem Login.enter_outcome (special : Char → List Char) (args : ConnectArgs) (fate : LoginFate) :
    Proc.Outcome (fun _ after ↦ after.probe.Released ∧ after.loggedIn = true ∧ after.logouts = 0)
      (fun _ after ↦ after.Released) (enter special args (.fresh fate)) := by
  unfold enter
  rcases selectTransport args.transportModes with error | transportMode
  · exact Login.fresh_released fate
  rw [Proc.lift_bind_of_ok rfl]
  rcases parseVmMoref args.vmxSpec with error | vmMoref
  · exact Login.fresh_released fate
  have hconnected := Login.connectVim_outcome special args fate
  rw [Proc.lift_bind_of_ok rfl]
  rcases hrun : connectVim special args (.fresh fate) with ⟨error | ⟨⟨⟩⟩, connected⟩
  all_goals rw [hrun] at hconnected
  · rw [Proc.bind_of_error hrun]
    exact hconnected
  · rw [Proc.bind_of_ok hrun]
    exact hconnected

/-- Leaving a block that has a session logs out once more, and so the session has been logged out once,
whatever `Disconnect` raises. -/
theorem Login.disconnect_released {login : Login} (hprobe : login.probe.Released)
    (hloggedIn : login.loggedIn = true) (hlogouts : login.logouts = 0) :
    (disconnect login).2.Released := by
  refine ⟨hprobe, ?_⟩
  change login.logouts + 1 = if login.loggedIn = true then 1 else 0
  rw [hlogouts, if_pos hloggedIn]

end OpenVixDiskLib
