import OpenVixDiskLib.Handle.Speech
import OpenVixDiskLib.Nfc.Welcome

/-!
# Which outsides open a block

Entering an `open` block takes a ticket, a session with authd, a way from there to an NFC connection, and a
disk on it. On connections whose sends succeed and whose receives do not time out, it returns exactly when
the arguments ask for something that `open` does (`OpenCall.Allowed`) and everyone outside goes along
(`OpeningFate.Admits`): there is a ticket, the two streams of authd welcome the client, the certificate
passes, and the NFC stream starts with a welcome. Then exactly the two conversations have taken place
(`Opening.enter_returns_iff`).
-/

set_option autoImplicit false
set_option relaxedAutoImplicit false

namespace OpenVixDiskLib

open Arrival (Quiet quiet_segment streamBytes)

/-! ### What has to go well -/

/-- The arguments ask for a compression that is implemented and for sizes that `open_disk` accepts, and for
a writable disk only on a writable connection. -/
structure OpenCall.Allowed (conn : Connection) (call : OpenCall) (compression : Compression)
    (settings : OpenSettings) : Prop where
  compression_eq : nfcCompression call.flags = .ok compression
  readOnly : conn.readOnly = true → call.readOnly = true
  check : (call.openArgs compression).check = .ok settings

/-- The TCP connection and the TLS session are made. -/
structure AuthdRoute.Leads (route : AuthdRoute) : Prop where
  connect : route.connect = .ok ()
  context : route.context = .ok ()
  wrap : route.wrap = .ok ()

/-- Every step from the authd session to the NFC connection is made. -/
structure NfcRoute.Leads (nfcSsl : Bool) (route : NfcRoute) : Prop where
  dup : route.dup = .ok ()
  guarded : route.Guarded nfcSsl
  wrap : nfcSsl = true → route.wrap = .ok ()

/-- The stream that the NFC client of a block reads. -/
def OpeningFate.nfcInbox (nfcSsl : Bool) (fate : OpeningFate) : List Arrival :=
  if nfcSsl then fate.nfcTls.inbox else fate.nfcRaw.inbox

/-- There is a ticket, authd welcomes the client, and there is a way to an NFC connection. -/
structure OpeningFate.Connects (special : Char → List Char) (conn : Connection) (call : OpenCall)
    (ticket : HostServiceTicket) (fate : OpeningFate) : Prop where
  granted : fate.service.ticket call.readOnly call.diskPath = .ok ticket
  authd : fate.authd.Leads
  welcomes : (Opening.fresh conn fate).authd.Welcomes special ticket conn.allowUntrusted
  nfc : fate.nfc.Leads conn.nfcSsl

/-- The hosts go along with an opening: there is an NFC connection, and its stream starts with a welcome. -/
structure OpeningFate.Admits (special : Char → List Char) (conn : Connection) (call : OpenCall)
    (ticket : HostServiceTicket) (fate : OpeningFate) : Prop
    extends fate.Connects special conn call ticket where
  welcome : ∃ handle sectorSize welcome, Welcome handle sectorSize welcome ∧
    welcome <+: streamBytes (fate.nfcInbox conn.nfcSsl)

/-- On every connection of a block, sends succeed and receives meet bytes and then the end of the stream,
and its tickets have ASCII texts. -/
structure OpeningFate.Reliable (fate : OpeningFate) : Prop where
  sends : fate.Sends
  authd_sends : fate.authdTls.sock.Sends
  authdRaw_quiet : Quiet fate.authdRaw.inbox
  authdTls_quiet : Quiet fate.authdTls.inbox
  nfcRaw_quiet : Quiet fate.nfcRaw.inbox
  nfcTls_quiet : Quiet fate.nfcTls.inbox
  ascii : ∀ readOnly diskPath ticket, fate.service.ticket readOnly diskPath = .ok ticket →
    AsciiTicket ticket

/-- A block that has not been entered reads its own stream. -/
theorem Opening.fresh_inbox (conn : Connection) (fate : OpeningFate) :
    (fresh conn fate).nfcSock.inbox = fate.nfcInbox conn.nfcSsl := by
  unfold nfcSock NfcConn.sockPart OpeningFate.nfcInbox
  change _ = if (fresh conn fate).conn.nfcSsl then _ else _
  cases (fresh conn fate).conn.nfcSsl <;> rfl

theorem OpeningFate.Reliable.fresh_quiet {fate : OpeningFate} (hreliable : fate.Reliable)
    (conn : Connection) : Quiet (Opening.fresh conn fate).nfcSock.inbox := by
  rw [Opening.fresh_inbox, nfcInbox]
  split_ifs
  · exact hreliable.nfcTls_quiet
  · exact hreliable.nfcRaw_quiet

/-! ### The session with authd -/

section Authd

variable {special : Char → List Char} {ticket : HostServiceTicket} {allowUntrusted nfcSsl : Bool}
  {conn after : AuthdConn}

/-- A session with authd is made on a TCP connection and in a TLS session. -/
theorem connectAuthd_route (h : connectAuthd special ticket allowUntrusted nfcSsl conn = (.ok (), after)) :
    conn.route.Leads := by
  unfold connectAuthd at h
  obtain ⟨⟨⟩, connected, hconnect, h⟩ := Proc.bind_eq_ok.mp h
  obtain ⟨⟨⟩, greeted, hgreeting, -⟩ := Proc.bind_eq_ok.mp h
  have hconnected : conn.route.connect = .ok () := by
    rcases hroute : conn.route.connect with error | ⟨⟨⟩⟩
    · rw [AuthdConn.createConnection_of_error hroute] at hconnect
      cases hconnect
    · rfl
  rw [AuthdConn.createConnection_of_ok hconnected] at hconnect
  obtain ⟨-, rfl⟩ := Prod.mk.inj hconnect
  replace hgreeting := closeOnError_eq_ok.mp hgreeting
  unfold authdGreeting at hgreeting
  obtain ⟨banner, middle, hbanner, hgreeting⟩ := Proc.bind_eq_ok.mp hgreeting
  obtain ⟨raw, -, rfl⟩ := Proc.zoom_eq_ok.mp hbanner
  obtain ⟨-, hwrap⟩ := Proc.raiseIf_bind_eq_ok.mp hgreeting
  rw [AuthdConn.wrapSocket, Proc.get_bind_apply] at hwrap
  obtain ⟨⟨⟩, hcontext, hwrap⟩ := Proc.lift_bind_eq_ok.mp hwrap
  obtain ⟨⟨⟩, hwrapped, -⟩ := Proc.lift_bind_eq_ok.mp hwrap
  exact ⟨hconnected, hcontext, hwrapped⟩

/-- `connect_authd` returns exactly on connections that are made and welcome the client. -/
theorem connectAuthd_returns_iff (hopen : conn.raw.closed = false) (hraw : Quiet conn.raw.inbox)
    (hsends : conn.authd.Sends) (hquiet : Quiet conn.authd.inbox) (hascii : AsciiTicket ticket) :
    (connectAuthd special ticket allowUntrusted nfcSsl conn).1 = .ok () ↔
      conn.route.Leads ∧ conn.Welcomes special ticket allowUntrusted := by
  constructor
  · intro hreturns
    have houtcome := connectAuthd_outcome special ticket allowUntrusted nfcSsl conn
    rw [hreturns] at houtcome
    obtain ⟨⟨⟨banner, hbanner, hheard⟩, replies, hreplies, hexchange⟩, hpasses⟩ :=
      houtcome.done_of_ok hascii
    exact ⟨connectAuthd_route (Proc.eq_of_fst hreturns), ⟨banner, _, hbanner, hheard.stream⟩, hpasses,
      replies, _, hreplies, hexchange.stream⟩
  · rintro ⟨hleads, hwelcomes⟩
    exact hwelcomes.returns ⟨hleads.connect, hleads.context, hleads.wrap, hopen, hraw, hsends, hquiet⟩
      hascii nfcSsl

/-- The same, for the authd connection of a block. -/
theorem OpeningFate.Reliable.connectAuthd_iff {fate : OpeningFate} (hreliable : fate.Reliable)
    (conn : Connection) (hascii : AsciiTicket ticket) :
    (connectAuthd special ticket conn.allowUntrusted conn.nfcSsl (Opening.fresh conn fate).authd).1 =
        .ok () ↔
      fate.authd.Leads ∧ (Opening.fresh conn fate).authd.Welcomes special ticket conn.allowUntrusted :=
  connectAuthd_returns_iff rfl hreliable.authdRaw_quiet hreliable.authd_sends hreliable.authdTls_quiet
    hascii

end Authd

/-! ### The NFC connection -/

section NfcConn

variable {nfcSsl : Bool} {conn after : NfcConn} {args : OpenArgs} {disk : NfcDisk}

/-- There is a socket to speak on exactly when every step to it is made. -/
theorem NfcConn.connects_iff :
    (if nfcSsl then wrapNfcsslSocket else takeoverAuthdSocket) conn = (.ok (), after) ↔
      conn.route.Leads nfcSsl ∧
        after = { conn with dupped := true, wrapped := conn.wrapped || nfcSsl } := by
  have htakeover : ∀ after, takeoverAuthdSocket conn = (.ok (), after) ↔
      (conn.route.dup = .ok () ∧ conn.route.fileno = .ok () ∧ conn.route.settimeout = .ok () ∧
        conn.route.nodelay = .ok ()) ∧ after = { conn with dupped := true } := by
    intro after
    rw [takeoverAuthdSocket, Proc.get_bind_apply]
    rcases conn.route.dup with error | ⟨⟨⟩⟩
    · exact iff_of_false (fun h ↦ by cases h) fun h ↦ by cases h.1.1
    rw [Proc.lift_bind_of_ok rfl, Proc.modify_bind_apply]
    rcases conn.route.fileno with error | ⟨⟨⟩⟩
    · exact iff_of_false (fun h ↦ by cases h) fun h ↦ by cases h.1.2.1
    rw [Proc.lift_bind_of_ok rfl]
    rcases conn.route.settimeout with error | ⟨⟨⟩⟩
    · exact iff_of_false (fun h ↦ by cases h) fun h ↦ by cases h.1.2.2.1
    rw [Proc.lift_bind_of_ok rfl]
    rcases conn.route.nodelay with error | ⟨⟨⟩⟩
    · exact iff_of_false (fun h ↦ by cases h) fun h ↦ by cases h.1.2.2.2
    · exact ⟨fun h ↦ ⟨⟨rfl, rfl, rfl, rfl⟩, (Prod.mk.inj h).2.symm⟩, fun h ↦ by rw [h.2]; rfl⟩
  cases nfcSsl with
  | false =>
    rw [if_neg Bool.false_ne_true, htakeover, Bool.or_false]
    refine and_congr_left fun _ ↦ ⟨?_, ?_⟩
    · rintro ⟨hdup, hfileno, hsettimeout, hnodelay⟩
      exact ⟨hdup, ⟨hfileno, hsettimeout, hnodelay, fun h ↦ by cases h⟩, fun h ↦ by cases h⟩
    · rintro ⟨hdup, hguarded, -⟩
      exact ⟨hdup, hguarded.fileno, hguarded.settimeout, hguarded.nodelay⟩
  | true =>
    rw [if_pos rfl, wrapNfcsslSocket, Bool.or_true, Proc.bind_eq_ok]
    constructor
    · rintro ⟨⟨⟩, taken, htaken, h⟩
      obtain ⟨⟨hdup, hfileno, hsettimeout, hnodelay⟩, rfl⟩ := (htakeover taken).mp htaken
      rw [Proc.get_bind_apply] at h
      obtain ⟨⟨⟩, hcontext, h⟩ := Proc.lift_bind_eq_ok.mp h
      replace h := closeOnError_eq_ok.mp h
      rw [wrapSocket, Proc.get_bind_apply] at h
      obtain ⟨⟨⟩, hwrap, h⟩ := Proc.lift_bind_eq_ok.mp h
      exact ⟨⟨hdup, ⟨hfileno, hsettimeout, hnodelay, fun _ ↦ hcontext⟩, fun _ ↦ hwrap⟩,
        (Prod.mk.inj h).2.symm⟩
    · rintro ⟨⟨hdup, hguarded, hwrap⟩, rfl⟩
      refine ⟨(), _, (htakeover _).mpr ⟨⟨hdup, hguarded.fileno, hguarded.settimeout, hguarded.nodelay⟩,
        rfl⟩, ?_⟩
      rw [Proc.get_bind_apply, Proc.lift_bind_of_ok (hguarded.context rfl)]
      refine closeOnError_of_ok ?_
      rw [wrapSocket, Proc.get_bind_apply, Proc.lift_bind_of_ok (hwrap rfl)]
      rfl

/-- `open_disk` returns a disk exactly when its checks pass, there is a socket to speak on, and its messages
make the disk there. -/
theorem NfcConn.openDisk_eq_ok : conn.openDisk args nfcSsl = (.ok disk, after) ↔
    ∃ settings, args.check = .ok settings ∧ conn.route.Leads nfcSsl ∧
      NfcDisk.openOn args settings ((sockPart nfcSsl).get conn) = (.ok disk, disk.sock) ∧
      after = (sockPart nfcSsl).set disk.sock
        { conn with dupped := true, wrapped := conn.wrapped || nfcSsl } := by
  have hsame : (sockPart nfcSsl).get { conn with dupped := true, wrapped := conn.wrapped || nfcSsl } =
      (sockPart nfcSsl).get conn := by
    cases nfcSsl <;> rfl
  rw [openDisk, Proc.lift_bind_eq_ok]
  refine exists_congr fun settings ↦ and_congr_right fun hcheck ↦ ?_
  constructor
  · intro h
    obtain ⟨⟨⟩, connected, hconnects, hopens⟩ := Proc.bind_eq_ok.mp h
    obtain ⟨hleads, rfl⟩ := connects_iff.mp hconnects
    obtain ⟨sock, hmakes, rfl⟩ := Proc.zoom_eq_ok.mp (closeOnError_eq_ok.mp hopens)
    obtain ⟨-, rfl⟩ := NfcDisk.openOn_ok hmakes
    rw [hsame] at hmakes
    exact ⟨hleads, hmakes, rfl⟩
  · rintro ⟨hleads, hopens, rfl⟩
    rw [← hsame] at hopens
    rw [Proc.bind_of_ok (connects_iff.mpr ⟨hleads, rfl⟩),
      closeOnError_of_ok (Proc.zoom_of_eq (sockPart nfcSsl) hopens)]

end NfcConn

/-! ### Blocks -/

namespace Opening

variable {special : Char → List Char} {call : OpenCall} {start entered : Opening}

/-- Entering a block returns exactly when each of its steps does. -/
theorem enter_eq_ok : enter special call start = (.ok (), entered) ↔
    ∃ compression settings ticket authd nfc disk, call.Allowed start.conn compression settings ∧
      start.fate.service.ticket call.readOnly call.diskPath = .ok ticket ∧
      connectAuthd special ticket start.conn.allowUntrusted start.conn.nfcSsl start.authd =
        (.ok (), authd) ∧
      start.nfc.openDisk (call.openArgs compression) start.conn.nfcSsl = (.ok disk, nfc) ∧
      entered = { start with ticket := some ticket, authd := authd, nfc := nfc, disk := some disk } := by
  unfold enter
  rw [Proc.lift_bind_eq_ok]
  constructor
  · rintro ⟨compression, hcompression, h⟩
    rw [Proc.get_bind_apply] at h
    obtain ⟨hwritable, h⟩ := Proc.raiseIf_bind_eq_ok.mp h
    obtain ⟨ticket, hticket, h⟩ := Proc.lift_bind_eq_ok.mp h
    rw [Proc.modify_bind_apply] at h
    obtain ⟨⟨⟩, connected, hconnects, h⟩ := Proc.bind_eq_ok.mp h
    obtain ⟨authd, hauthd, rfl⟩ := Proc.zoom_eq_ok.mp hconnects
    obtain ⟨disk, opened, hopens, h⟩ := Proc.bind_eq_ok.mp h
    obtain ⟨nfc, hnfc, rfl⟩ := Proc.zoom_eq_ok.mp (closeOnError_eq_ok.mp hopens)
    obtain ⟨settings, hcheck, -⟩ := NfcConn.openDisk_eq_ok.mp hnfc
    have hreadOnly : start.conn.readOnly = true → call.readOnly = true := by
      intro hconn
      by_contra hwrites
      exact hwritable ⟨Bool.not_eq_true _ ▸ hwrites, hconn⟩
    exact ⟨compression, settings, ticket, authd, nfc, disk, ⟨hcompression, hreadOnly, hcheck⟩, hticket,
      hauthd, hnfc, (Prod.mk.inj h).2.symm⟩
  · rintro ⟨compression, settings, ticket, authd, nfc, disk, hallowed, hticket, hauthd, hnfc, rfl⟩
    refine ⟨compression, hallowed.compression_eq, ?_⟩
    have hwritable : ¬ (call.readOnly = false ∧ start.conn.readOnly = true) := by
      rintro ⟨hwrites, hconn⟩
      cases hwrites.symm.trans (hallowed.readOnly hconn)
    rw [Proc.get_bind_apply, Proc.raiseIf_bind_of_neg hwritable, Proc.lift_bind_of_ok hticket,
      Proc.modify_bind_apply]
    have hconnected : Proc.zoom authdPart
        (connectAuthd special ticket start.conn.allowUntrusted start.conn.nfcSsl)
        { start with ticket := some ticket } = _ := Proc.zoom_of_eq authdPart hauthd
    have hopened : Proc.zoom nfcPart
        (NfcConn.openDisk (call.openArgs compression) start.conn.nfcSsl)
        { start with ticket := some ticket, authd := authd } = _ := Proc.zoom_of_eq nfcPart hnfc
    rw [Proc.bind_of_ok hconnected,
      Proc.bind_of_ok (show closeOnError authdSock _ (authdPart.set authd _) = _ from
        closeOnError_of_ok hopened)]
    rfl

/-- What lies behind an entered block: the whole conversation with authd, the messages of an opening, a
welcome, and the disk that these make. -/
structure Entered (call : OpenCall) (compression : Compression) (settings : OpenSettings)
    (ticket : HostServiceTicket) (start entered : Opening) : Prop where
  ticket_eq : entered.ticket = some ticket
  authd : AuthdDone ticket start.conn.nfcSsl start.authd entered.authd
  disk : ∃ disk welcome, entered.disk = some disk ∧ disk.sock = entered.nfcSock ∧
    Welcome disk.handle disk.sectorSize welcome ∧
    start.nfcSock.Exchanged (tokenBytes (openTokens (call.openArgs compression) settings)) welcome
      disk.sock ∧
    disk = openedDisk (call.openArgs compression) settings disk.handle disk.sectorSize
      disk.sectorSize_pos disk.sock

/-- A block is entered exactly when its arguments are allowed and everyone outside goes along, and then
exactly the two conversations have taken place. -/
theorem enter_returns_iff (special : Char → List Char) (conn : Connection) {fate : OpeningFate}
    (hreliable : fate.Reliable) (hfits : call.Fits) :
    ((enter special call (.fresh conn fate)).1 = .ok () ↔
      ∃ compression settings ticket, call.Allowed conn compression settings ∧
        fate.Admits special conn call ticket) ∧
    ∀ entered, enter special call (.fresh conn fate) = (.ok (), entered) →
      ∃ compression settings ticket, call.Allowed conn compression settings ∧
        Entered call compression settings ticket (.fresh conn fate) entered := by
  obtain ⟨hsends, hnew⟩ := fresh_nfcSock conn hreliable.sends
  have hinbox := fresh_inbox conn fate
  have hquiet := hreliable.fresh_quiet conn
  have hwelcomed : ∀ {compression settings}, call.Allowed conn compression settings →
      (call.openArgs compression).FitsWire settings :=
    fun hallowed ↦ (hfits.fitsFields _).fitsWire hallowed.check
  refine ⟨⟨fun hreturns ↦ ?_, ?_⟩, fun entered henters ↦ ?_⟩
  · obtain ⟨compression, settings, ticket, authd, nfc, disk, hallowed, hticket, hconnects, hopens, -⟩ :=
      enter_eq_ok.mp (Proc.eq_of_fst hreturns)
    obtain ⟨settings', hcheck, hleads, hmakes, -⟩ := NfcConn.openDisk_eq_ok.mp hopens
    obtain ⟨hroute, hwelcomes⟩ :=
      (hreliable.connectAuthd_iff conn (hreliable.ascii _ _ _ hticket)).mp (congrArg Prod.fst hconnects)
    obtain ⟨-, welcome, hwelcome, hexchange, -⟩ :=
      openOn_welcomed hsends ((hfits.fitsFields _).fitsWire hcheck) hmakes
    refine ⟨compression, settings, ticket, hallowed, ⟨hticket, hroute, hwelcomes, hleads⟩, _, _, welcome,
      hwelcome, ?_⟩
    rw [← hinbox]
    exact ⟨_, hexchange.stream.symm⟩
  · rintro ⟨compression, settings, ticket, hallowed, hadmits⟩
    obtain ⟨handle, sectorSize, welcome, hwelcome, rest, hstream⟩ := hadmits.welcome
    rw [← hinbox] at hstream
    have hconnects := Proc.eq_of_fst ((hreliable.connectAuthd_iff conn
      (hreliable.ascii _ _ _ hadmits.granted)).mpr ⟨hadmits.authd, hadmits.welcomes⟩)
    obtain ⟨disk, hmakes, -⟩ := openOn_of_welcome hsends (hwelcomed hallowed) hwelcome
      ⟨hsends.1, hquiet, hstream.symm⟩
    have hopens := NfcConn.openDisk_eq_ok.mpr ⟨settings, hallowed.check, hadmits.nfc, hmakes, rfl⟩
    exact congrArg Prod.fst (enter_eq_ok.mpr ⟨compression, settings, ticket, _, _, disk, hallowed,
      hadmits.granted, hconnects, hopens, rfl⟩)
  · obtain ⟨compression, settings, ticket, authd, nfc, disk, hallowed, hticket, hconnects, hopens, rfl⟩ :=
      enter_eq_ok.mp henters
    obtain ⟨settings', hcheck, -, hmakes, rfl⟩ := NfcConn.openDisk_eq_ok.mp hopens
    obtain rfl := Except.ok.inj (hcheck.symm.trans hallowed.check)
    have houtcome := connectAuthd_outcome special ticket conn.allowUntrusted conn.nfcSsl
      (fresh conn fate).authd
    rw [show connectAuthd special ticket conn.allowUntrusted conn.nfcSsl (fresh conn fate).authd = _ from
      hconnects] at houtcome
    obtain ⟨hdone, -⟩ := houtcome.done_of_ok (hreliable.ascii _ _ _ hticket)
    obtain ⟨-, welcome, hwelcome, hexchange, hdisk⟩ :=
      openOn_welcomed hsends (hwelcomed hallowed) hmakes
    exact ⟨compression, settings', ticket, hallowed, rfl, hdone, disk, welcome, rfl,
      (NfcConn.sockPart_get_set _ _ _).symm, hwelcome, hexchange, hdisk⟩

end Opening

/-! ### One host -/

/-- A ticket is an answer of the service. -/
theorem NfcService.answer_of_ticket {service : NfcService} {readOnly : Bool} {diskPath : String}
    {ticket : HostServiceTicket} (h : service.ticket readOnly diskPath = .ok ticket) :
    ∃ asked, service.answer asked = .ok ticket := by
  rcases service with ⟨error | ⟨⟨⟩⟩, vm, answer⟩
  · cases h
  cases readOnly with
  | true => exact ⟨.getVmFiles, h⟩
  | false =>
    change (vm.bind fun vm ↦ getNfcTicket vm none none false (some diskPath)).bind answer =
      .ok ticket at h
    rcases hcall : vm.bind fun vm ↦ getNfcTicket vm none none false (some diskPath) with error | asked
    all_goals rw [hcall] at h
    · cases h
    · exact ⟨asked, h⟩

theorem reliable_willingOpening {service : NfcService}
    (hanswer : ∀ asked, service.answer asked = .ok bareTicket) (nfc : NfcRoute) :
    ({ willingOpening bareTicket nfc with service := service } : OpeningFate).Reliable where
  sends := ⟨⟨rfl, rfl⟩, ⟨rfl, rfl⟩⟩
  authd_sends := ⟨rfl, rfl⟩
  authdRaw_quiet := quiet_segment (asciiBytes "220 ready\n")
  authdTls_quiet := quiet_segment (asciiBytes "220 hello\n200 ok\n200 Connect\n")
  nfcRaw_quiet := quiet_segment openingReplies
  nfcTls_quiet := quiet_segment openingReplies
  ascii := by
    intro readOnly diskPath ticket hticket
    obtain ⟨asked, hasked⟩ := NfcService.answer_of_ticket hticket
    obtain rfl := Except.ok.inj ((hanswer asked).symm.trans hasked)
    exact ⟨by decide, fun service hservice ↦ by
      obtain rfl := Option.some.inj hservice
      decide⟩

theorem Opening.enter_returns_iff_willing : ∃ compression settings ticket,
    (⟨"[datastore0] vm/vm.vmdk", 4, nfcAioBufferSize, nfcAioBufferCount⟩ : OpenCall).Allowed
      ⟨"vm-1", true, true, .nbd⟩ compression settings ∧
    (willingOpening bareTicket openNfcRoute).Admits (fun char ↦ [char]) ⟨"vm-1", true, true, .nbd⟩
      ⟨"[datastore0] vm/vm.vmdk", 4, nfcAioBufferSize, nfcAioBufferCount⟩ ticket := by
  refine (Opening.enter_returns_iff _ _ (reliable_willingOpening (fun _ ↦ rfl) openNfcRoute)
    ⟨by decide, by decide, by decide +kernel⟩).1.mp ?_
  decide +kernel

end OpenVixDiskLib
