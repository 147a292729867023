import OpenVixDiskLib.Handle.Release
import OpenVixDiskLib.Nfc.SameStream

/-!
# Programs do not see how streams are segmented

The authd dialogue reads its lines byte by byte, and so does not see segments either. With that, two runs
of one program that reads into flat buffers, against peers that send the same bytes in other segments, go
side by side: every call returns or raises the same, and so does the program, and every socket has sent
the same bytes (`UserCode.run_sameStreams`).
-/

set_option autoImplicit false
set_option relaxedAutoImplicit false

namespace OpenVixDiskLib

open Arrival
open Proc (Couples)

/-! ### Lines -/

theorem couples_recvOne : Couples Sock.SameStream Eq (Sock.recv 1) (Sock.recv 1) := by
  intro sock sock' hsame
  by_cases hclosed : sock.closed = true
  · have hclosed' := hsame.closed_eq.trans hclosed
    simp only [Sock.recv, Sock.recvInto, if_pos hclosed, if_pos hclosed']
    exact ⟨.raised _, hsame⟩
  have hopen := Bool.not_eq_true _ ▸ hclosed
  have hopen' := hsame.closed_eq.trans hopen
  rcases hstream : streamBytes sock.inbox with _ | ⟨byte, rest⟩
  · have hends : ∀ ended : Sock, ended.closed = false → Quiet ended.inbox →
        streamBytes ended.inbox = [] → ∃ after, Sock.recv 1 ended = (.ok [], after) ∧
          ended.Took [] after := by
      intro ended hopen hquiet hend
      have hsome := receive_isSome 1 hquiet
      rcases hreceive : receive 1 ended.inbox with ⟨_ | chunk, inbox⟩
      · rw [hreceive] at hsome
        cases hsome
      have hrun : Sock.recv 1 ended = (.ok chunk, { ended with inbox := inbox }) := by
        simp only [Sock.recv, Sock.recvInto, hopen, hreceive, Bool.false_eq_true, if_false]
      have htook := (Sock.recv_ok hrun).2
      obtain ⟨rfl, -⟩ := List.append_eq_nil_iff.mp (htook.stream.symm.trans hend)
      exact ⟨_, hrun, htook⟩
    obtain ⟨after, hrun, htook⟩ := hends sock hopen hsame.quiet hstream
    obtain ⟨after', hrun', htook'⟩ := hends sock' hopen' hsame.quiet' (hsame.stream.trans hstream)
    rw [hrun, hrun']
    exact ⟨.returned rfl, hsame.took htook htook'⟩
  · obtain ⟨after, hrun, htook⟩ := Sock.recv_of_holds ⟨hopen, hsame.quiet, hstream⟩
    obtain ⟨after', hrun', htook'⟩ :=
      Sock.recv_of_holds ⟨hopen', hsame.quiet', hsame.stream.trans hstream⟩
    rw [hrun, hrun']
    exact ⟨.returned rfl, hsame.took htook htook'⟩

theorem couples_readline : Couples Sock.SameStream Eq readline readline := by
  refine .bind_eq (.whileLoop (fun buf ↦ ?_) []) fun _ ↦ .pure rfl
  refine .bind_eq couples_recvOne fun _ ↦ ?_
  exact .bind_eq (.raiseIf _ _) fun _ ↦ .bind_eq (.raiseIf _ _) fun _ ↦ .pure rfl

theorem couples_expectReply (code what : String) :
    Couples Sock.SameStream Eq (expectReply code what) (expectReply code what) :=
  .bind_eq couples_readline fun _ ↦ .lift _

theorem couples_authdTalk (ticket : HostServiceTicket) (nfcSsl : Bool) :
    Couples Sock.SameStream Eq (authdTalk ticket nfcSsl) (authdTalk ticket nfcSsl) := by
  refine .bind_eq (.lift _) fun _ ↦ ?_
  refine .bind_eq (couples_sendall _) fun _ ↦ ?_
  refine .bind_eq (couples_sendall _) fun _ ↦ ?_
  refine .bind_eq (couples_expectReply _ _) fun _ ↦ ?_
  refine .bind_eq (couples_sendall _) fun _ ↦ ?_
  refine .bind_eq (couples_expectReply _ _) fun _ ↦ ?_
  refine .bind_eq (.lift _) fun _ ↦ ?_
  refine .bind_eq (couples_sendall _) fun _ ↦ ?_
  exact .bind_eq (couples_expectReply _ _) fun _ ↦ .pure rfl

/-! ### Connections to authd -/

/-- The same connection on sockets with the same streams. -/
def AuthdConn.SameStream (conn conn' : AuthdConn) : Prop :=
  ∃ raw authd, conn.raw.SameStream raw ∧ conn.authd.SameStream authd ∧
    conn' = { conn with raw := raw, authd := authd }

namespace AuthdConn

theorem couples_rawPart {α : Type} {body : Py Sock α} (hbody : Couples Sock.SameStream Eq body body) :
    Couples SameStream Eq (Proc.zoom rawPart body) (Proc.zoom rawPart body) := by
  refine .zoom ?_ ?_ hbody
  · rintro conn _ ⟨raw, authd, hraw, hauthd, rfl⟩
    exact hraw
  · rintro conn _ last last' ⟨raw, authd, hraw, hauthd, rfl⟩ hlast
    exact ⟨last', authd, hlast, hauthd, rfl⟩

theorem couples_authdPart {α : Type} {body : Py Sock α} (hbody : Couples Sock.SameStream Eq body body) :
    Couples SameStream Eq (Proc.zoom authdPart body) (Proc.zoom authdPart body) := by
  refine .zoom ?_ ?_ hbody
  · rintro conn _ ⟨raw, authd, hraw, hauthd, rfl⟩
    exact hauthd
  · rintro conn _ last last' ⟨raw, authd, hraw, hauthd, rfl⟩ hlast
    exact ⟨raw, last', hraw, hlast, rfl⟩

theorem couples_createConnection : Couples SameStream Eq createConnection createConnection := by
  refine .bind .get ?_
  rintro conn _ ⟨raw, authd, hraw, hauthd, rfl⟩
  refine .bind_eq (.lift _) fun _ ↦ .modify ?_
  rintro conn _ ⟨raw, authd, hraw, hauthd, rfl⟩
  exact ⟨raw, authd, hraw, hauthd, rfl⟩

theorem couples_wrapSocket : Couples SameStream Eq wrapSocket wrapSocket := by
  refine .bind .get ?_
  rintro conn _ ⟨raw, authd, hraw, hauthd, rfl⟩
  refine .bind_eq (.lift _) fun _ ↦ .bind_eq (.lift _) fun _ ↦ .modify ?_
  rintro conn _ ⟨raw, authd, hraw, hauthd, rfl⟩
  exact ⟨raw, authd, hraw, hauthd, rfl⟩

theorem couples_getpeercert : Couples SameStream Eq getpeercert getpeercert := by
  refine .bind .get ?_
  rintro conn _ ⟨raw, authd, hraw, hauthd, rfl⟩
  exact .lift _

theorem couples_checkCertificate (special : Char → List Char) (ticket : HostServiceTicket)
    (allowUntrusted : Bool) : Couples SameStream Eq (checkCertificate special ticket allowUntrusted)
      (checkCertificate special ticket allowUntrusted) := by
  unfold checkCertificate
  cases allowUntrusted with
  | true => exact .pure rfl
  | false =>
    rcases truthy ticket.sslThumbprint with _ | thumbprint
    · exact .pure rfl
    · refine .bind_eq couples_getpeercert fun _ ↦ ?_
      exact .bind_eq (.raiseIf _ _) fun _ ↦ .raiseIf _ _

theorem couples_connectAuthd (special : Char → List Char) (ticket : HostServiceTicket)
    (allowUntrusted nfcSsl : Bool) : Couples SameStream Eq
      (connectAuthd special ticket allowUntrusted nfcSsl)
      (connectAuthd special ticket allowUntrusted nfcSsl) := by
  refine .bind_eq couples_createConnection fun _ ↦ ?_
  refine .bind_eq (couples_closeOnError ?_ ?_ ?_) fun _ ↦ couples_closeOnError ?_ ?_ ?_
  · rintro conn _ ⟨raw, authd, hraw, hauthd, rfl⟩
    exact hraw
  · rintro conn _ last last' ⟨raw, authd, hraw, hauthd, rfl⟩ hlast
    exact ⟨last', authd, hlast, hauthd, rfl⟩
  · refine .bind_eq (couples_rawPart couples_readline) fun _ ↦ ?_
    exact .bind_eq (.raiseIf _ _) fun _ ↦ couples_wrapSocket
  · rintro conn _ ⟨raw, authd, hraw, hauthd, rfl⟩
    exact hauthd
  · rintro conn _ last last' ⟨raw, authd, hraw, hauthd, rfl⟩ hlast
    exact ⟨raw, last', hraw, hlast, rfl⟩
  · refine .bind_eq (couples_checkCertificate _ _ _) fun _ ↦ ?_
    exact couples_authdPart (couples_authdTalk _ _)

end AuthdConn

/-! ### NFC connections -/

/-- The same connection on sockets with the same streams. -/
def NfcConn.SameStream (conn conn' : NfcConn) : Prop :=
  ∃ raw tls, conn.raw.SameStream raw ∧ conn.tls.SameStream tls ∧
    conn' = { conn with raw := raw, tls := tls }

namespace NfcConn

variable {conn conn' : NfcConn} {last last' : Sock}

theorem SameStream.sockPart_get (nfcSsl : Bool) (hsame : conn.SameStream conn') :
    ((sockPart nfcSsl).get conn).SameStream ((sockPart nfcSsl).get conn') := by
  obtain ⟨raw, tls, hraw, htls, rfl⟩ := hsame
  cases nfcSsl with
  | false => exact hraw
  | true => exact htls

theorem SameStream.sockPart_set (nfcSsl : Bool) (hsame : conn.SameStream conn')
    (hlast : last.SameStream last') :
    ((sockPart nfcSsl).set last conn).SameStream ((sockPart nfcSsl).set last' conn') := by
  obtain ⟨raw, tls, hraw, htls, rfl⟩ := hsame
  cases nfcSsl with
  | false => exact ⟨last', tls, hlast, htls, rfl⟩
  | true => exact ⟨raw, last', hraw, hlast, rfl⟩

theorem couples_takeoverAuthdSocket :
    Couples SameStream Eq takeoverAuthdSocket takeoverAuthdSocket := by
  refine .bind .get ?_
  rintro conn _ ⟨raw, tls, hraw, htls, rfl⟩
  refine .bind_eq (.lift _) fun _ ↦ .bind_eq (.modify ?_) fun _ ↦ ?_
  · rintro conn _ ⟨raw, tls, hraw, htls, rfl⟩
    exact ⟨raw, tls, hraw, htls, rfl⟩
  · exact .bind_eq (.lift _) fun _ ↦ .bind_eq (.lift _) fun _ ↦ .lift _

theorem couples_wrapNfcsslSocket : Couples SameStream Eq wrapNfcsslSocket wrapNfcsslSocket := by
  refine .bind_eq couples_takeoverAuthdSocket fun _ ↦ .bind .get ?_
  rintro conn _ ⟨raw, tls, hraw, htls, rfl⟩
  refine .bind_eq (.lift _) fun _ ↦ couples_closeOnError ?_ ?_ (.bind .get ?_)
  · exact fun _ _ ↦ SameStream.sockPart_get false
  · exact fun _ _ _ _ ↦ SameStream.sockPart_set false
  · rintro conn _ ⟨raw, tls, hraw, htls, rfl⟩
    refine .bind_eq (.lift _) fun _ ↦ .modify ?_
    rintro conn _ ⟨raw, tls, hraw, htls, rfl⟩
    exact ⟨raw, tls, hraw, htls, rfl⟩

theorem couples_openDisk (args : OpenArgs) (nfcSsl : Bool) :
    Couples SameStream NfcDisk.SameStream (openDisk args nfcSsl) (openDisk args nfcSsl) := by
  refine .bind_eq (.lift _) fun settings ↦ .bind_eq ?_ fun _ ↦ couples_closeOnError ?_ ?_ ?_
  · split
    · exact couples_wrapNfcsslSocket
    · exact couples_takeoverAuthdSocket
  · exact fun _ _ ↦ SameStream.sockPart_get nfcSsl
  · exact fun _ _ _ _ ↦ SameStream.sockPart_set nfcSsl
  · refine .zoom ?_ ?_ (NfcDisk.couples_openOn args settings)
    · exact fun _ _ ↦ SameStream.sockPart_get nfcSsl
    · exact fun _ _ _ _ ↦ SameStream.sockPart_set nfcSsl

end NfcConn

/-! ### Blocks -/

/-- New sockets that meet the same bytes. -/
def SockFate.SameStream (fate fate' : SockFate) : Prop :=
  fate.sock.SameStream fate'.sock

/-- What a `connect` block meets, but for the segments. -/
structure LoginFate.SameStream (fate fate' : LoginFate) : Prop where
  route : fate'.route = fate.route
  probe : fate'.probe = fate.probe
  probeRaw : fate.probeRaw.SameStream fate'.probeRaw
  probeTls : fate.probeTls.SameStream fate'.probeTls

/-- What an `open` block meets, but for the segments. -/
structure OpeningFate.SameStream (fate fate' : OpeningFate) : Prop where
  service : fate'.service = fate.service
  authd : fate'.authd = fate.authd
  authdRaw : fate.authdRaw.SameStream fate'.authdRaw
  authdTls : fate.authdTls.SameStream fate'.authdTls
  nfc : fate'.nfc = fate.nfc
  nfcRaw : fate.nfcRaw.SameStream fate'.nfcRaw
  nfcTls : fate.nfcTls.SameStream fate'.nfcTls

/-- The same `connect` block on sockets with the same streams. -/
def Login.SameStream (login login' : Login) : Prop :=
  ∃ probe, login.probe.SameStream probe ∧ login' = { login with probe := probe }

/-- The same `open` block on sockets with the same streams. -/
def Opening.SameStream (opening opening' : Opening) : Prop :=
  ∃ fate authd nfc disk, fate.service = opening.fate.service ∧ opening.authd.SameStream authd ∧
    opening.nfc.SameStream nfc ∧ Option.Rel NfcDisk.SameStream opening.disk disk ∧
    opening' = { opening with fate := fate, authd := authd, nfc := nfc, disk := disk }

namespace Login

variable {special : Char → List Char} {args : ConnectArgs}

theorem sameStream_fresh {fate fate' : LoginFate} (hfates : fate.SameStream fate') :
    (fresh fate).SameStream (fresh fate') := by
  refine ⟨(fresh fate').probe, ⟨_, _, hfates.probeRaw, hfates.probeTls, ?_⟩, ?_⟩
  · simp only [fresh, hfates.probe]
  · simp only [fresh, hfates.route]

theorem couples_readPeerCertificate :
    Couples AuthdConn.SameStream Eq readPeerCertificate readPeerCertificate := by
  refine .bind_eq AuthdConn.couples_createConnection fun _ ↦ ?_
  refine .tryFinally (.bind .get ?_) (AuthdConn.couples_rawPart couples_close)
  rintro conn _ ⟨raw, authd, hraw, hauthd, rfl⟩
  refine .bind_eq (.lift _) fun _ ↦ .bind_eq (.modify ?_) fun _ ↦ ?_
  · rintro conn _ ⟨raw, authd, hraw, hauthd, rfl⟩
    exact ⟨raw, authd, hraw, hauthd, rfl⟩
  · exact .tryFinally AuthdConn.couples_getpeercert (AuthdConn.couples_authdPart couples_close)

theorem couples_getSslCertThumbprint (host : String) (port : ℕ) :
    Couples AuthdConn.SameStream Eq (getSslCertThumbprint host port)
      (getSslCertThumbprint host port) := by
  refine .bind .get ?_
  rintro conn _ ⟨raw, authd, hraw, hauthd, rfl⟩
  refine .bind_eq (.lift _) fun _ ↦ .bind_eq couples_readPeerCertificate fun _ ↦ ?_
  exact .bind_eq (.raiseIf _ _) fun _ ↦ .pure rfl

theorem couples_checkManagement (special : Char → List Char) (args : ConnectArgs) :
    Couples SameStream Eq (checkManagement special args) (checkManagement special args) := by
  unfold checkManagement
  cases args.allowUntrusted with
  | true => exact .pure rfl
  | false =>
    rcases truthy args.thumbprint with _ | thumbprint
    · exact .pure rfl
    refine .bind_eq (.zoom ?_ ?_ (couples_getSslCertThumbprint args.serverName args.port)) fun _ ↦
      .raiseIf _ _
    · rintro login _ ⟨probe, hprobe, rfl⟩
      exact hprobe
    · rintro login _ last last' ⟨probe, hprobe, rfl⟩ hlast
      exact ⟨last', hlast, rfl⟩

theorem couples_smartConnect (args : ConnectArgs) :
    Couples SameStream Eq (smartConnect args) (smartConnect args) := by
  refine .bind .get ?_
  rintro login _ ⟨probe, hprobe, rfl⟩
  refine .bind_eq (.lift _) fun _ ↦ .bind_eq (.lift _) fun _ ↦ .bind_eq (.lift _) fun _ ↦ .modify ?_
  rintro login _ ⟨probe, hprobe, rfl⟩
  exact ⟨probe, hprobe, rfl⟩

theorem couples_enter (special : Char → List Char) (args : ConnectArgs) :
    Couples SameStream Eq (enter special args) (enter special args) := by
  refine .bind_eq (.lift _) fun _ ↦ .bind_eq (.lift _) fun _ ↦ ?_
  refine .bind_eq (.bind_eq (couples_checkManagement special args) fun _ ↦
    couples_smartConnect args) fun _ ↦ .modify ?_
  rintro login _ ⟨probe, hprobe, rfl⟩
  exact ⟨probe, hprobe, rfl⟩

theorem couples_disconnect : Couples SameStream Eq disconnect disconnect := by
  refine .bind .get ?_
  rintro login _ ⟨probe, hprobe, rfl⟩
  refine .bind_eq (.modify ?_) fun _ ↦ .lift _
  rintro login _ ⟨probe, hprobe, rfl⟩
  exact ⟨probe, hprobe, rfl⟩

theorem couples_connection : Couples SameStream Eq connection connection := by
  rintro ⟨route, probe, loggedIn, logouts, _ | conn⟩ _ ⟨probe', hprobe, rfl⟩
  · exact ⟨.raised _, probe', hprobe, rfl⟩
  · exact ⟨.returned rfl, probe', hprobe, rfl⟩

end Login

namespace Opening

theorem sameStream_fresh (conn : Connection) {fate fate' : OpeningFate}
    (hfates : fate.SameStream fate') : (fresh conn fate).SameStream (fresh conn fate') := by
  refine ⟨fate', (fresh conn fate').authd, (fresh conn fate').nfc, none, hfates.service,
    ⟨_, _, hfates.authdRaw, hfates.authdTls, ?_⟩, ⟨_, _, hfates.nfcRaw, hfates.nfcTls, ?_⟩, .none, rfl⟩
  · simp only [fresh, hfates.authd]
  · simp only [fresh, hfates.nfc]

theorem couples_authdSock {α : Type} {body : Py Sock α} (hbody : Couples Sock.SameStream Eq body body) :
    Couples SameStream Eq (Proc.zoom authdSock body) (Proc.zoom authdSock body) := by
  refine .zoom ?_ ?_ hbody
  · rintro opening _ ⟨fate, _, nfc, disk, hservice, ⟨raw, authd, hraw, hauthd, rfl⟩, hnfc, hdisk, rfl⟩
    exact hauthd
  · rintro opening _ last last'
      ⟨fate, _, nfc, disk, hservice, ⟨raw, authd, hraw, hauthd, rfl⟩, hnfc, hdisk, rfl⟩ hlast
    exact ⟨fate, _, nfc, disk, hservice, ⟨raw, last', hraw, hlast, rfl⟩, hnfc, hdisk, rfl⟩

theorem couples_enter (special : Char → List Char) (call : OpenCall) :
    Couples SameStream Eq (enter special call) (enter special call) := by
  refine .bind_eq (.lift _) fun compression ↦ .bind .get ?_
  rintro opening _ ⟨fate, authd, nfc, disk, hservice, hauthd, hnfc, hdisk, rfl⟩
  refine .bind_eq (.raiseIf _ _) fun _ ↦ ?_
  rw [hservice]
  refine .bind_eq (.lift _) fun ticket ↦ .bind_eq (.modify ?_) fun _ ↦ ?_
  · rintro opening _ ⟨fate, authd, nfc, disk, hservice, hauthd, hnfc, hdisk, rfl⟩
    exact ⟨fate, authd, nfc, disk, hservice, hauthd, hnfc, hdisk, rfl⟩
  refine .bind_eq (.zoom ?_ ?_ (AuthdConn.couples_connectAuthd _ _ _ _)) fun _ ↦
    .bind (couples_closeOnError ?_ ?_ (.zoom ?_ ?_ (NfcConn.couples_openDisk _ _))) ?_
  · rintro opening _ ⟨fate, authd, nfc, disk, hservice, hauthd, hnfc, hdisk, rfl⟩
    exact hauthd
  · rintro opening _ last last' ⟨fate, authd, nfc, disk, hservice, hauthd, hnfc, hdisk, rfl⟩ hlast
    exact ⟨fate, last', nfc, disk, hservice, hlast, hnfc, hdisk, rfl⟩
  · rintro opening _ ⟨fate, _, nfc, disk, hservice, ⟨raw, authd, hraw, hauthd, rfl⟩, hnfc, hdisk, rfl⟩
    exact hauthd
  · rintro opening _ last last'
      ⟨fate, _, nfc, disk, hservice, ⟨raw, authd, hraw, hauthd, rfl⟩, hnfc, hdisk, rfl⟩ hlast
    exact ⟨fate, _, nfc, disk, hservice, ⟨raw, last', hraw, hlast, rfl⟩, hnfc, hdisk, rfl⟩
  · rintro opening _ ⟨fate, authd, nfc, disk, hservice, hauthd, hnfc, hdisk, rfl⟩
    exact hnfc
  · rintro opening _ last last' ⟨fate, authd, nfc, disk, hservice, hauthd, hnfc, hdisk, rfl⟩ hlast
    exact ⟨fate, authd, last', disk, hservice, hauthd, hlast, hdisk, rfl⟩
  · intro made made' hmade
    refine .modify ?_
    rintro opening _ ⟨fate, authd, nfc, disk, hservice, hauthd, hnfc, hdisk, rfl⟩
    exact ⟨fate, authd, nfc, some made', hservice, hauthd, hnfc, .some hmade, rfl⟩

theorem couples_onDisk {α : Type} {body : Py NfcDisk α}
    (hbody : Couples NfcDisk.SameStream Eq body body) :
    Couples SameStream Eq (onDisk body) (onDisk body) := by
  rintro opening _ ⟨fate, authd, nfc, disk', hservice, hauthd, hnfc, hdisks, rfl⟩
  unfold onDisk
  rcases hdisk : opening.disk with _ | disk
  · rw [hdisk] at hdisks
    cases hdisks
    exact ⟨.raised _, fate, authd, nfc, none, hservice, hauthd, hnfc, by rw [hdisk]; exact .none, rfl⟩
  rw [hdisk] at hdisks
  cases hdisks with
  | @some _ disk' hsame =>
    obtain ⟨sock, hsock, rfl⟩ := hsame
    have hsocks := hnfc.sockPart_get opening.conn.nfcSsl
    obtain ⟨houtcomes, last, hlast, hafter⟩ := hbody { disk with sock := opening.nfcSock }
      { disk with sock := (NfcConn.sockPart opening.conn.nfcSsl).get nfc } ⟨_, hsocks, rfl⟩
    refine ⟨houtcomes, fate, authd, _, _, hservice, hauthd,
      hnfc.sockPart_set opening.conn.nfcSsl hlast, .some ⟨last, hlast, rfl⟩, ?_⟩
    change Opening.withDisk _ (body { disk with sock := (NfcConn.sockPart _).get nfc }).2 = _
    rw [hafter]
    rfl

theorem couples_close : Couples SameStream Eq close close :=
  .tryFinally (couples_onDisk NfcDisk.couples_close) (couples_authdSock couples_closeQuietly)

theorem couples_write (library : FastLzLibrary) (startSector numSectors : ℤ) (buf : SourceBuffer) :
    Couples SameStream Eq (write library startSector numSectors buf)
      (write library startSector numSectors buf) :=
  couples_onDisk (NfcDisk.couples_write library startSector numSectors _)

theorem couples_read (library : FastLzLibrary) (startSector numSectors : ℤ) (skipDecompression : Bool)
    {buf : Buffer} (hflat : buf.Flat) : Couples SameStream Eq
      (read library startSector numSectors skipDecompression buf)
      (read library startSector numSectors skipDecompression buf) := by
  refine couples_onDisk ?_
  rintro disk _ ⟨sock, hsame, rfl⟩
  obtain ⟨houtcomes, last, hlast, hafter, -⟩ := NfcDisk.couples_readinto library startSector numSectors
    skipDecompression (disk, buf) ({ disk with sock := sock }, buf) ⟨sock, hsame, rfl, hflat⟩
  unfold VixDiskLibHandle.read
  rw [Prod.ext_iff] at hafter
  refine ⟨?_, last, hlast, hafter.1⟩
  simp only [houtcomes.eq, hafter.2]
  exact .returned rfl

end Opening

/-! ### Programs -/

/-- The same outside, but for the segments in which peers send their bytes; no receive times out. -/
structure Environment.SameStreams (env env' : Environment) : Prop where
  special : env'.special = env.special
  library : env'.library = env.library
  logins : ∀ index, (env.logins index).SameStream (env'.logins index)
  openings : ∀ index, (env.openings index).SameStream (env'.openings index)

/-- The same blocks on sockets with the same streams. -/
structure World.SameStream (world world' : World) : Prop where
  logins : List.Forall₂ Login.SameStream world.logins world'.logins
  openings : List.Forall₂ Opening.SameStream world.openings world'.openings

theorem World.couples_onHandle {α : Type} {body : Py Opening α}
    (hbody : Couples Opening.SameStream Eq body body) (handle : ℕ) :
    Couples World.SameStream Eq (onHandle handle body) (onHandle handle body) :=
  .zoom (fun _ _ hworlds ↦ hworlds.openings) (fun _ _ _ _ hworlds hlast ↦ ⟨hworlds.logins, hlast⟩)
    (.onEntry hbody _ handle)

theorem World.couples_onLogin {α : Type} {body : Py Login α}
    (hbody : Couples Login.SameStream Eq body body) (conn : ℕ) :
    Couples World.SameStream Eq (Proc.zoom loginsPart (Proc.onEntry Login.notConnected conn body))
      (Proc.zoom loginsPart (Proc.onEntry Login.notConnected conn body)) :=
  .zoom (fun _ _ hworlds ↦ hworlds.logins) (fun _ _ _ _ hworlds hlast ↦ ⟨hlast, hworlds.openings⟩)
    (.onEntry hbody _ conn)

/-- Runs of one program against peers that send the same bytes go side by side: they return or raise the
same and leave the same blocks, with the same bytes sent. -/
theorem UserCode.run_sameStreams {env env' : Environment} (henv : env.SameStreams env')
    {code : UserCode} (hflat : code.ReadsFlat) : Couples World.SameStream Eq (code.run env) (code.run env') := by
  induction code with
  | finish outcome => exact .lift outcome
  | read handle startSector numSectors skipDecompression buf next ih =>
    rw [run, run, henv.library]
    exact .bind_eq (.attempt (World.couples_onHandle (Opening.couples_read _ _ _ _ hflat.1) handle))
      fun result ↦ ih result (hflat.2 result)
  | write handle startSector numSectors buf next ih =>
    rw [run, run, henv.library]
    exact .bind_eq (.attempt (World.couples_onHandle (Opening.couples_write _ _ _ _) handle))
      fun result ↦ ih result (hflat result)
  | close handle next ih =>
    exact .bind_eq (.attempt (World.couples_onHandle Opening.couples_close handle))
      fun result ↦ ih result (hflat result)
  | disconnect conn next ih =>
    exact .bind_eq (.attempt (World.couples_onLogin Login.couples_disconnect conn))
      fun result ↦ ih result (hflat result)
  | connect args body next hbody hnext =>
    refine .bind_eq (.attempt (.withEntry (fun _ _ hworlds ↦ hworlds.logins)
      (fun _ _ _ _ hworlds hlast ↦ ⟨hlast, hworlds.openings⟩) _
      (fun index ↦ Login.sameStream_fresh (henv.logins index)) ?_ Login.couples_disconnect
      fun index ↦ hbody index (hflat.1 index))) fun result ↦ hnext result (hflat.2 result)
    rw [henv.special]
    exact Login.couples_enter _ args
  | openDisk conn call body next hbody hnext =>
    refine .bind_eq (.attempt (.bind_eq (World.couples_onLogin Login.couples_connection conn)
      fun connection ↦ .withEntry (fun _ _ hworlds ↦ hworlds.openings)
        (fun _ _ _ _ hworlds hlast ↦ ⟨hworlds.logins, hlast⟩) _
        (fun index ↦ Opening.sameStream_fresh connection (henv.openings index)) ?_ Opening.couples_close
        fun index ↦ hbody index (hflat.1 index))) fun result ↦ hnext result (hflat.2 result)
    rw [henv.special]
    exact Opening.couples_enter _ call

/-- How the peers' bytes are cut into segments shows nowhere, when no receive times out and every read is
into a flat buffer: the program ends the same, and block by block every socket has sent the same bytes, is
closed or open the same, and has the same bytes to come. -/
theorem UserCode.ignores_segments {env env' : Environment} {world world' : World}
    (henv : env.SameStreams env') (hworlds : world.SameStream world') {code : UserCode}
    (hflat : code.ReadsFlat) :
    (code.run env world).1 = (code.run env' world').1 ∧
      (code.run env world).2.SameStream (code.run env' world').2 := by
  obtain ⟨houtcomes, hworlds'⟩ := UserCode.run_sameStreams henv hflat world world' hworlds
  exact ⟨houtcomes.eq, hworlds'⟩

/-! ### Byte by byte -/

/-- A socket that meets the same bytes, one in each segment. -/
def SockFate.dribbled (fate : SockFate) : SockFate :=
  { fate with inbox := (streamBytes fate.inbox).flatMap fun byte ↦ segment [byte] }

theorem SockFate.sameStream_dribbled {fate : SockFate} (hquiet : Quiet fate.inbox) :
    fate.SameStream fate.dribbled := by
  have hstream : ∀ bytes : Bytes,
      streamBytes (bytes.flatMap fun byte ↦ segment [byte]) = bytes ∧
        Quiet (bytes.flatMap fun byte ↦ segment [byte]) := by
    intro bytes
    induction bytes with
    | nil => exact ⟨rfl, quiet_nil⟩
    | cons byte rest ih =>
      rw [List.flatMap_cons, streamBytes_append, streamBytes_segment, ih.1, quiet_append]
      exact ⟨rfl, quiet_segment _, ih.2⟩
  exact ⟨rfl, (hstream _).1, hquiet, (hstream _).2⟩

/-- The outside for one opening, with all bytes one by one. -/
def dribblingEnvironment (ticket : HostServiceTicket) (nfc : NfcRoute) : Environment :=
  { willingEnvironment ticket nfc with
    logins := fun _ ↦ { willingLogin with
      probeRaw := willingLogin.probeRaw.dribbled
      probeTls := willingLogin.probeTls.dribbled }
    openings := fun _ ↦ { willingOpening ticket nfc with
      authdRaw := (willingOpening ticket nfc).authdRaw.dribbled
      authdTls := (willingOpening ticket nfc).authdTls.dribbled
      nfcRaw := (willingOpening ticket nfc).nfcRaw.dribbled
      nfcTls := (willingOpening ticket nfc).nfcTls.dribbled } }

theorem sameStreams_dribbling (ticket : HostServiceTicket) (nfc : NfcRoute) :
    (willingEnvironment ticket nfc).SameStreams (dribblingEnvironment ticket nfc) := by
  have hmeeting : ∀ stream : Bytes,
      (SockFate.meeting stream).SameStream (SockFate.meeting stream).dribbled :=
    fun stream ↦ SockFate.sameStream_dribbled (quiet_segment stream)
  refine ⟨rfl, rfl, fun _ ↦ ⟨rfl, rfl, hmeeting _, hmeeting _⟩, fun _ ↦ ?_⟩
  exact ⟨rfl, rfl, hmeeting _, hmeeting _, rfl, hmeeting _, hmeeting _⟩

/-- A program that opens a disk and reads a sector of it. -/
def readOnce : UserCode :=
  .connect ⟨"vc", none, some "moref=vm-1", true, some "nbd", 443, true⟩
    (fun conn ↦ .openDisk conn ⟨"[datastore0] vm/vm.vmdk", 4, nfcAioBufferSize, nfcAioBufferCount⟩
      (fun handle ↦ .read handle 0 1 false (Buffer.zeros 512) fun _ ↦ .finish (.ok ())) .finish) .finish

theorem UserCode.ignores_segments_readOnce :
    (readOnce.run (willingEnvironment bareTicket openNfcRoute) ⟨[], []⟩).1 =
        (readOnce.run (dribblingEnvironment bareTicket openNfcRoute) ⟨[], []⟩).1 ∧
      World.SameStream (readOnce.run (willingEnvironment bareTicket openNfcRoute) ⟨[], []⟩).2
        (readOnce.run (dribblingEnvironment bareTicket openNfcRoute) ⟨[], []⟩).2 :=
  @UserCode.ignores_segments _ _ ⟨[], []⟩ ⟨[], []⟩ (sameStreams_dribbling bareTicket openNfcRoute)
    ⟨.nil, .nil⟩ readOnce
    ⟨fun _ ↦ ⟨fun _ ↦ ⟨rfl, fun _ ↦ trivial⟩, fun _ ↦ trivial⟩, fun _ ↦ trivial⟩

end OpenVixDiskLib
