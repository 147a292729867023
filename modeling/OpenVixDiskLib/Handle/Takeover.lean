import OpenVixDiskLib.Nfc.Works

/-!
# From authd to NFC

`takeover_authd_socket` and `wrap_nfcssl_socket` of `nfc_open.py`, and `open_disk` as a whole. An `NfcConn`
is the NFC connection of one opening on the way: what the operating system and the network will do
(`NfcRoute`), the socket on the duplicated descriptor, and the socket of the second TLS session.

`NfcConn.openDisk_outcome` says in which ways a run of `open_disk` can end. Between the call of `os.dup`
and the first handler there are steps that may raise, and a run that ends there leaves the new descriptor
open (`NfcRoute.Guarded`).
-/

set_option autoImplicit false
set_option relaxedAutoImplicit false

namespace OpenVixDiskLib

/-- What a new socket will meet. -/
structure SockFate where
  inbox : List Arrival
  sendsLeft : Option ℕ
  closeError : Option PyError
deriving DecidableEq

/-- A new socket. -/
def SockFate.sock (fate : SockFate) : Sock :=
  ⟨fate.inbox, [], false, fate.sendsLeft, fate.closeError⟩

/-- What the operating system and the network do on the way from an authd session to an NFC connection,
besides what they send. `fileno` is the call of `socket.socket`, and `certificate` is the certificate of
the peer of the second TLS session. -/
structure NfcRoute where
  dup : Except PyError Unit
  fileno : Except PyError Unit
  settimeout : Except PyError Unit
  nodelay : Except PyError Unit
  context : Except PyError Unit
  wrap : Except PyError Unit
  certificate : Option Bytes
deriving DecidableEq

/-- An NFC connection. `raw` owns the duplicated descriptor once it is there and until it is wrapped, and
`tls` from then on. -/
structure NfcConn where
  route : NfcRoute
  raw : Sock
  tls : Sock
  dupped : Bool
  wrapped : Bool
deriving DecidableEq

namespace NfcConn

def rawPart : Proc.Part NfcConn Sock where
  get := NfcConn.raw
  set := fun sock conn ↦ { conn with raw := sock }

def tlsPart : Proc.Part NfcConn Sock where
  get := NfcConn.tls
  set := fun sock conn ↦ { conn with tls := sock }

/-- The socket that `open_disk` speaks on. -/
def sockPart (nfcSsl : Bool) : Proc.Part NfcConn Sock :=
  if nfcSsl then tlsPart else rawPart

/-- `takeover_authd_socket`. -/
def takeoverAuthdSocket : Py NfcConn Unit := do
  let conn ← Proc.get
  Proc.lift conn.route.dup
  Proc.modify fun conn ↦ { conn with dupped := true }
  Proc.lift conn.route.fileno
  Proc.lift conn.route.settimeout
  Proc.lift conn.route.nodelay

/-- `ssl_context.wrap_socket`. A handshake that fails leaves the descriptor with the plaintext
socket. -/
def wrapSocket : Py NfcConn Unit := do
  let conn ← Proc.get
  Proc.lift conn.route.wrap
  Proc.modify fun conn ↦ { conn with wrapped := true }

/-- `wrap_nfcssl_socket`. -/
def wrapNfcsslSocket : Py NfcConn Unit := do
  takeoverAuthdSocket
  let conn ← Proc.get
  Proc.lift conn.route.context
  closeOnError rawPart wrapSocket

/-- `open_disk`. -/
def openDisk (args : OpenArgs) (nfcSsl : Bool) : Py NfcConn NfcDisk := do
  let settings ← Proc.lift args.check
  (if nfcSsl then wrapNfcsslSocket else takeoverAuthdSocket)
  closeOnError (sockPart nfcSsl) (Proc.zoom (sockPart nfcSsl) (NfcDisk.openOn args settings))

end NfcConn

/-- Once the descriptor is duplicated, no step raises that no handler guards. -/
structure NfcRoute.Guarded (nfcSsl : Bool) (route : NfcRoute) : Prop where
  fileno : route.fileno = .ok ()
  settimeout : route.settimeout = .ok ()
  nodelay : route.nodelay = .ok ()
  context : nfcSsl = true → route.context = .ok ()

variable {nfcSsl : Bool} {conn after : NfcConn} {args : OpenArgs}

/-- The takeover returns, or raises before there is a new descriptor, or leaves one behind. -/
theorem NfcConn.takeover_outcome (nfcSsl : Bool) (conn : NfcConn) :
    (conn.takeoverAuthdSocket = (.ok (), { conn with dupped := true }) ∧
      conn.route.fileno = .ok () ∧ conn.route.settimeout = .ok () ∧ conn.route.nodelay = .ok ()) ∨
    (∃ error, conn.takeoverAuthdSocket = (.error error, conn)) ∨
    ∃ error, conn.takeoverAuthdSocket = (.error error, { conn with dupped := true }) ∧
      ¬ conn.route.Guarded nfcSsl := by
  rw [takeoverAuthdSocket, Proc.get_bind_apply]
  rcases hdup : conn.route.dup with error | ⟨⟨⟩⟩
  · exact Or.inr (Or.inl ⟨error, rfl⟩)
  rw [Proc.lift_bind_of_ok rfl, Proc.modify_bind_apply]
  rcases hfileno : conn.route.fileno with error | ⟨⟨⟩⟩
  · refine Or.inr (Or.inr ⟨error, rfl, fun hguarded ↦ ?_⟩)
    cases hguarded.fileno.symm.trans hfileno
  rw [Proc.lift_bind_of_ok rfl]
  rcases hsettimeout : conn.route.settimeout with error | ⟨⟨⟩⟩
  · refine Or.inr (Or.inr ⟨error, rfl, fun hguarded ↦ ?_⟩)
    cases hguarded.settimeout.symm.trans hsettimeout
  rw [Proc.lift_bind_of_ok rfl]
  rcases hnodelay : conn.route.nodelay with error | ⟨⟨⟩⟩
  · refine Or.inr (Or.inr ⟨error, rfl, fun hguarded ↦ ?_⟩)
    cases hguarded.nodelay.symm.trans hnodelay
  · exact Or.inl ⟨rfl, rfl, rfl, rfl⟩

/-- How the new connection for `open_disk` ends: there is a socket to speak on, or there is no new
descriptor, or an unguarded step raised behind `os.dup`, or the second TLS handshake failed. -/
inductive NfcConn.Connected (nfcSsl : Bool) (conn : NfcConn) : Except PyError Unit → NfcConn → Prop
  | refused {error : PyError} : Connected nfcSsl conn (.error error) conn
  | leaked {error : PyError} (hunguarded : ¬ conn.route.Guarded nfcSsl) :
      Connected nfcSsl conn (.error error) { conn with dupped := true }
  | unwrapped {error : PyError} (hguarded : conn.route.Guarded nfcSsl) :
      Connected nfcSsl conn (.error error)
        { conn with dupped := true, raw := { conn.raw with closed := true } }
  | done (hguarded : conn.route.Guarded nfcSsl) :
      Connected nfcSsl conn (.ok ()) { conn with dupped := true, wrapped := conn.wrapped || nfcSsl }

theorem NfcConn.connected (nfcSsl : Bool) (conn : NfcConn) :
    Connected nfcSsl conn ((if nfcSsl then wrapNfcsslSocket else takeoverAuthdSocket) conn).1
      ((if nfcSsl then wrapNfcsslSocket else takeoverAuthdSocket) conn).2 := by
  obtain ⟨htakeover, hfileno, hsettimeout, hnodelay⟩ | ⟨error, htakeover⟩ |
    ⟨error, htakeover, hunguarded⟩ := conn.takeover_outcome nfcSsl
  · cases nfcSsl with
    | false =>
      have hguarded : conn.route.Guarded false :=
        ⟨hfileno, hsettimeout, hnodelay, fun h ↦ absurd h Bool.false_ne_true⟩
      have hdone := Connected.done hguarded
      rw [Bool.or_false] at hdone
      rw [if_neg Bool.false_ne_true, htakeover]
      exact hdone
    | true =>
      rw [if_pos rfl, wrapNfcsslSocket, Proc.bind_of_ok htakeover, Proc.get_bind_apply]
      rcases hcontext : conn.route.context with error | ⟨⟨⟩⟩
      · refine .leaked fun hguarded ↦ ?_
        cases (hguarded.context rfl).symm.trans hcontext
      have hguarded : conn.route.Guarded true :=
        ⟨hfileno, hsettimeout, hnodelay, fun _ ↦ hcontext⟩
      rw [Proc.lift_bind_of_ok rfl]
      rcases hwrap : conn.route.wrap with error | ⟨⟨⟩⟩
      · have hraised : wrapSocket { conn with dupped := true } =
            (.error error, { conn with dupped := true }) := by
          rw [wrapSocket, Proc.get_bind_apply, hwrap]
          rfl
        obtain ⟨raised, hclose⟩ := @closeOnError_of_error _ _ rawPart _ _ _ _ hraised
        rw [hclose]
        exact .unwrapped hguarded
      · have hwrapped : wrapSocket { conn with dupped := true } =
            (.ok (), { conn with dupped := true, wrapped := true }) := by
          rw [wrapSocket, Proc.get_bind_apply, hwrap]
          rfl
        have hdone := Connected.done hguarded
        rw [Bool.or_true] at hdone
        rw [closeOnError_of_ok hwrapped]
        exact hdone
  · cases nfcSsl with
    | false =>
      rw [if_neg Bool.false_ne_true, htakeover]
      exact .refused
    | true =>
      rw [if_pos rfl, wrapNfcsslSocket, Proc.bind_of_error htakeover]
      exact .refused
  · cases nfcSsl with
    | false =>
      rw [if_neg Bool.false_ne_true, htakeover]
      exact .leaked hunguarded
    | true =>
      rw [if_pos rfl, wrapNfcsslSocket, Proc.bind_of_error htakeover]
      exact .leaked hunguarded

/-- A disk that `open_disk` made is open, and lives on the socket. -/
theorem NfcDisk.openOn_ok {settings : OpenSettings} {sock last : Sock} {disk : NfcDisk}
    (h : NfcDisk.openOn args settings sock = (.ok disk, last)) : disk.closed = false ∧ disk.sock = last := by
  unfold NfcDisk.openOn at h
  obtain ⟨⟨⟩, greeted, -, h⟩ := Proc.bind_eq_ok.mp h
  rw [Proc.get_bind_apply, Proc.bind_eq_ok] at h
  obtain ⟨⟨⟨⟩, opened⟩, after, hopen, h⟩ := h
  rw [Proc.pure_apply, Prod.mk.injEq, Except.ok.injEq] at h
  obtain ⟨rfl, rfl⟩ := h
  obtain ⟨file, hfile, hset⟩ := Proc.zoom_eq_ok.mp (Proc.withLocal_eq_ok.mp hopen)
  obtain ⟨rfl, rfl⟩ := Prod.mk.inj hset
  have hworks := NfcDisk.works_openFile args.diskPath args.readOnly
    (NfcDisk.onSock.get (greeted, NfcDisk.init greeted args.diskPath settings))
  rw [hfile] at hworks
  exact ⟨hworks.closed_eq, rfl⟩

/-- How `open_disk` ends: there is no socket to speak on, or its messages fail on the socket, or there is a
disk. -/
inductive NfcOutcome (nfcSsl : Bool) (conn : NfcConn) : Except PyError NfcDisk → NfcConn → Prop
  | unconnected {error : PyError} {after : NfcConn} (hconnected : conn.Connected nfcSsl (.error error) after) :
      NfcOutcome nfcSsl conn (.error error) after
  | failed {error : PyError} {sock : Sock} (hguarded : conn.route.Guarded nfcSsl) :
      NfcOutcome nfcSsl conn (.error error) ((NfcConn.sockPart nfcSsl).set { sock with closed := true }
        { conn with dupped := true, wrapped := conn.wrapped || nfcSsl })
  | opened {disk : NfcDisk} (hguarded : conn.route.Guarded nfcSsl) (hopen : disk.closed = false) :
      NfcOutcome nfcSsl conn (.ok disk) ((NfcConn.sockPart nfcSsl).set disk.sock
        { conn with dupped := true, wrapped := conn.wrapped || nfcSsl })

theorem NfcConn.sockPart_get_set (nfcSsl : Bool) (sock : Sock) (conn : NfcConn) :
    (sockPart nfcSsl).get ((sockPart nfcSsl).set sock conn) = sock := by
  cases nfcSsl <;> rfl

theorem NfcConn.sockPart_set_set (nfcSsl : Bool) (first last : Sock) (conn : NfcConn) :
    (sockPart nfcSsl).set last ((sockPart nfcSsl).set first conn) = (sockPart nfcSsl).set last conn := by
  cases nfcSsl <;> rfl

/-- Every run of `open_disk` ends in one of these ways. -/
theorem NfcConn.openDisk_outcome (args : OpenArgs) (nfcSsl : Bool) (conn : NfcConn) :
    NfcOutcome nfcSsl conn (conn.openDisk args nfcSsl).1 (conn.openDisk args nfcSsl).2 := by
  rw [openDisk]
  rcases hcheck : args.check with error | settings
  · exact .unconnected .refused
  rw [Proc.lift_bind_of_ok rfl]
  have hconnected := conn.connected nfcSsl
  rcases hrun : (if nfcSsl then wrapNfcsslSocket else takeoverAuthdSocket) conn with
    ⟨error | ⟨⟨⟩⟩, connected⟩
  · rw [hrun] at hconnected
    rw [Proc.bind_of_error hrun]
    exact .unconnected hconnected
  rw [hrun] at hconnected
  rw [Proc.bind_of_ok hrun]
  cases hconnected with
  | done hguarded =>
    rcases hopen : NfcDisk.openOn args settings ((sockPart nfcSsl).get
      { conn with dupped := true, wrapped := conn.wrapped || nfcSsl }) with ⟨error | disk, sock⟩
    · obtain ⟨raised, hclose⟩ := @closeOnError_of_error _ _ (sockPart nfcSsl) _ _ _ _
        (Proc.zoom_of_eq _ hopen)
      rw [hclose, sockPart_get_set, sockPart_set_set]
      exact .failed hguarded
    · obtain ⟨hclosed, rfl⟩ := NfcDisk.openOn_ok hopen
      rw [closeOnError_of_ok (Proc.zoom_of_eq _ hopen)]
      exact .opened hguarded hclosed

end OpenVixDiskLib
