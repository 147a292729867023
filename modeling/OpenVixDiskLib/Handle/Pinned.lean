import OpenVixDiskLib.Handle.Trust

/-!
# The chain of trust of a pinned program

A program whose `connect` blocks all name the thumbprint of the management certificate, and trust nothing
else. Then every session it gets stands behind a certificate that the thumbprint names, and every `open`
block stands on such a session and tells its authd nothing before the check of the ticket
(`UserCode.pins`).

The invariant relates the two lists of blocks: each opening is on the connection of a login (`Backed`), and
logins keep their connections (`Login.Stays`).
-/

set_option autoImplicit false
set_option relaxedAutoImplicit false

namespace OpenVixDiskLib

/-- The thumbprint is that of the certificate, apart from colons, spaces and case. -/
def NamesCertificate (special : Char → List Char) (thumbprint : String)
    (certificate : Except PyError (Option Bytes)) : Prop :=
  ∃ derCert, certificate = .ok (some derCert) ∧ derCert ≠ [] ∧
    normalizeThumbprint special (sha1Thumbprint derCert) = normalizeThumbprint special thumbprint

/-- The arguments name the thumbprint, and trust nothing else. -/
structure ConnectArgs.Pins (thumbprint : String) (args : ConnectArgs) : Prop where
  untrusting : args.allowUntrusted = false
  names : truthy args.thumbprint = some thumbprint

/-- A session is there only behind a certificate that the thumbprint names, and its connection is
untrusting. -/
structure Login.Pinned (special : Char → List Char) (thumbprint : String) (login : Login) : Prop where
  session : login.loggedIn = true →
    NamesCertificate special thumbprint login.probe.route.certificate
  conn : ∀ conn, login.conn = some conn → login.loggedIn = true ∧ conn.allowUntrusted = false

/-! ### Entering -/

section Enter

variable {special : Char → List Char} {args : ConnectArgs} {thumbprint : String} {fate : LoginFate}

/-- The connection for a thumbprint stays on its route. -/
theorem route_getSslCertThumbprint (host : String) (port : ℕ) :
    Proc.Moves (fun before after : AuthdConn ↦ after.route = before.route)
      (getSslCertThumbprint host port) := by
  have hrefl : ∀ conn : AuthdConn, conn.route = conn.route := fun _ ↦ rfl
  have htrans : ∀ first middle last : AuthdConn, middle.route = first.route →
      last.route = middle.route → last.route = first.route := fun _ _ _ hfirst hlast ↦ hlast.trans hfirst
  refine .bind htrans (.get hrefl) fun conn ↦ .bind htrans (.lift hrefl _) fun _ ↦ ?_
  refine .bind htrans ?_ fun cert ↦ .bind htrans (.raiseIf hrefl _ _) fun _ ↦ .pure hrefl _
  have hcreate : Proc.Moves (fun before after : AuthdConn ↦ after.route = before.route)
      AuthdConn.createConnection :=
    .bind htrans (.get hrefl) fun _ ↦ .bind htrans (.lift hrefl _) fun _ ↦ .modify fun _ ↦ rfl
  refine .bind htrans hcreate fun _ ↦ .tryFinally htrans ?_ fun _ ↦ rfl
  refine .bind htrans (.get hrefl) fun conn ↦ .bind htrans (.lift hrefl _) fun _ ↦ ?_
  refine .bind htrans (.modify fun _ ↦ rfl) fun _ ↦ .tryFinally htrans ?_ fun _ ↦ rfl
  exact .bind htrans (.get hrefl) fun conn ↦ .lift hrefl _

/-- A thumbprint that is returned is that of the certificate. -/
theorem getSslCertThumbprint_ok {host : String} {port : ℕ} {conn after : AuthdConn} {peer : String}
    (hread : getSslCertThumbprint host port conn = (.ok peer, after)) :
    ∃ derCert, conn.route.certificate = .ok (some derCert) ∧ derCert ≠ [] ∧
      peer = sha1Thumbprint derCert := by
  rw [getSslCertThumbprint, Proc.get_bind_apply] at hread
  obtain ⟨⟨⟩, -, hread⟩ := Proc.lift_bind_eq_ok.mp hread
  obtain ⟨cert, closed, hcert, hread⟩ := Proc.bind_eq_ok.mp hread
  obtain ⟨hsome, hread⟩ := Proc.raiseIf_bind_eq_ok.mp hread
  obtain ⟨hpeer, -⟩ := Prod.mk.inj hread
  have hcertificate : conn.route.certificate = .ok cert := by
    obtain ⟨⟨⟩, connected, hconnect, hcert⟩ := Proc.bind_eq_ok.mp hcert
    have hroute : connected.route = conn.route := by
      rw [AuthdConn.createConnection, Proc.get_bind_apply] at hconnect
      obtain ⟨⟨⟩, -, hconnect⟩ := Proc.lift_bind_eq_ok.mp hconnect
      obtain ⟨-, rfl⟩ := Prod.mk.inj hconnect
      rfl
    obtain ⟨raw, hraw, -⟩ := Proc.tryFinally_eq_ok hcert
    rw [Proc.get_bind_apply] at hraw
    obtain ⟨⟨⟩, -, hraw⟩ := Proc.lift_bind_eq_ok.mp hraw
    rw [Proc.modify_bind_apply] at hraw
    obtain ⟨tls, htls, -⟩ := Proc.tryFinally_eq_ok hraw
    rw [AuthdConn.getpeercert, Proc.get_bind_apply] at htls
    obtain ⟨hresult, -⟩ := Prod.mk.inj htls
    rw [← hroute]
    exact hresult
  rcases cert with _ | derCert
  · exact absurd rfl hsome
  · exact ⟨derCert, hcertificate, hsome, (Except.ok.inj hpeer).symm⟩

/-- A check of the management certificate that passes has seen what the thumbprint names. -/
theorem Login.checkManagement_ok (hpins : args.Pins thumbprint) {login after : Login}
    (hcheck : checkManagement special args login = (.ok (), after)) :
    NamesCertificate special thumbprint after.probe.route.certificate := by
  rw [checkManagement, hpins.untrusting, hpins.names] at hcheck
  obtain ⟨peer, middle, hzoom, hraise⟩ := Proc.bind_eq_ok.mp hcheck
  obtain ⟨probe, hread, rfl⟩ := Proc.zoom_eq_ok.mp hzoom
  obtain ⟨derCert, hcertificate, hsome, rfl⟩ := getSslCertThumbprint_ok hread
  have hroute := route_getSslCertThumbprint args.serverName args.port login.probe
  rw [show getSslCertThumbprint args.serverName args.port login.probe = _ from hread] at hroute
  rw [Proc.raiseIf_apply, Prod.mk.injEq] at hraise
  obtain ⟨hpasses, rfl⟩ := hraise
  refine ⟨derCert, (congrArg AuthdRoute.certificate hroute).trans hcertificate, hsome, ?_⟩
  by_contra hother
  rw [if_pos hother] at hpasses
  cases hpasses

/-- The end of `connect_vim` logs in or leaves everything as it is. -/
theorem Login.smartConnect_cases (args : ConnectArgs) (login : Login) :
    (∃ error, smartConnect args login = (.error error, login)) ∨
      smartConnect args login = (.ok (), { login with loggedIn := true }) := by
  rw [smartConnect, Proc.get_bind_apply]
  rcases (if args.allowUntrusted = true ∨ (truthy args.thumbprint).isSome then login.route.context
    else .ok ()) with error | ⟨⟨⟩⟩
  · exact .inl ⟨error, rfl⟩
  rw [Proc.lift_bind_of_ok rfl]
  rcases login.route.versions with error | ⟨⟨⟩⟩
  · exact .inl ⟨error, rfl⟩
  rw [Proc.lift_bind_of_ok rfl]
  rcases login.route.login with error | ⟨⟨⟩⟩
  · exact .inl ⟨error, rfl⟩
  · exact .inr rfl

/-- Entering a block with pinned arguments gives a session behind a certificate that the thumbprint names, or
none. -/
theorem Login.enter_pinned (hpins : args.Pins thumbprint) :
    (enter special args (.fresh fate)).2.Pinned special thumbprint := by
  have hnone : ∀ login : Login, login.loggedIn = false → login.conn = none →
      login.Pinned special thumbprint := by
    intro login hloggedIn hconn
    constructor
    · exact fun h ↦ absurd (hloggedIn.symm.trans h) Bool.false_ne_true
    · intro conn hsome
      rw [hconn] at hsome
      cases hsome
  unfold enter
  rcases selectTransport args.transportModes with error | transportMode
  · exact hnone _ rfl rfl
  rw [Proc.lift_bind_of_ok rfl]
  rcases parseVmMoref args.vmxSpec with error | vmMoref
  · exact hnone _ rfl rfl
  rw [Proc.lift_bind_of_ok rfl, connectVim]
  obtain ⟨result, probe, hcheck, -⟩ := checkManagement_released special args fate
  rcases result with error | ⟨⟨⟩⟩
  · rw [Proc.bind_of_error (Proc.bind_of_error hcheck)]
    exact hnone _ rfl rfl
  have hnames := checkManagement_ok hpins hcheck
  obtain ⟨error, hconnect⟩ | hconnect := smartConnect_cases args { fresh fate with probe := probe }
  · rw [Proc.bind_of_error ((Proc.bind_of_ok hcheck).trans hconnect)]
    exact hnone _ rfl rfl
  · rw [Proc.bind_of_ok ((Proc.bind_of_ok hcheck).trans hconnect)]
    refine ⟨fun _ ↦ hnames, fun conn hconn ↦ ?_⟩
    obtain rfl := Option.some.inj hconn
    exact ⟨rfl, hpins.untrusting⟩

end Enter

/-! ### Programs -/

/-- The login is the same, but for the logouts on its session. -/
def Login.Stays (login last : Login) : Prop :=
  last = { login with logouts := last.logouts }

theorem Login.Stays.refl (login : Login) : login.Stays login :=
  rfl

theorem Login.Stays.trans (first middle last : Login) (hfirst : first.Stays middle)
    (hlast : middle.Stays last) : first.Stays last := by
  unfold Stays at hfirst hlast ⊢
  rw [hfirst] at hlast
  exact hlast

theorem Login.Stays.pinned {special : Char → List Char} {thumbprint : String} (login last : Login)
    (hpinned : login.Pinned special thumbprint) (hstays : login.Stays last) :
    last.Pinned special thumbprint := by
  unfold Stays at hstays
  rw [hstays]
  exact ⟨hpinned.session, hpinned.conn⟩

theorem Login.stays_disconnect : Proc.Moves Stays disconnect :=
  fun _ ↦ rfl

/-- The opening is on the connection of one of the logins. -/
def Opening.Backed (logins : List Login) (opening : Opening) : Prop :=
  ∃ login ∈ logins, login.conn = some opening.conn

/-- The opening is on the same connection. -/
def Opening.Stays (opening last : Opening) : Prop :=
  last.conn = opening.conn

theorem Opening.Stays.refl (opening : Opening) : opening.Stays opening :=
  rfl

theorem Opening.Stays.trans (first middle last : Opening) (hfirst : first.Stays middle)
    (hlast : middle.Stays last) : first.Stays last :=
  Eq.trans hlast hfirst

theorem Opening.Stays.backed {logins : List Login} (opening last : Opening)
    (hbacked : opening.Backed logins) (hstays : opening.Stays last) : last.Backed logins := by
  obtain ⟨login, hmem, hconn⟩ := hbacked
  exact ⟨login, hmem, hconn.trans (congrArg some hstays.symm)⟩

theorem Opening.Steps.stays {before after : Opening} (hsteps : before.Steps after) :
    before.Stays after := by
  refine @Opening.Steps.keeps (fun opening ↦ opening.conn = before.conn) ?_ _ _ hsteps rfl
  intro first last hstep hconn
  cases hstep with
  | disk => exact hconn
  | authd => exact hconn

/-- Entering leaves an opening on its connection. -/
theorem Opening.Entry.conn_eq {special : Char → List Char} {conn : Connection} {fate : OpeningFate}
    {result : Except PyError Unit} {after : Opening}
    (hentry : Opening.Entry special (.fresh conn fate) result after) : after.conn = conn := by
  cases hentry <;> rfl

/-- What a piece of a pinned program makes of the blocks: logins stay, and new ones are pinned; openings stay
on their connections, and new ones are on those of logins. -/
structure World.Pins (special : Char → List Char) (thumbprint : String) (before after : World) : Prop where
  logins : Proc.Extends Login.Stays (Login.Pinned special thumbprint) before.logins after.logins
  openings : Proc.Extends Opening.Stays (Opening.Backed after.logins)
    before.openings after.openings

namespace World

variable {special : Char → List Char} {thumbprint : String}

theorem Pins.refl (world : World) : world.Pins special thumbprint world :=
  ⟨.refl Login.Stays.refl _, .refl Opening.Stays.refl _⟩

/-- A login that stays goes on backing what it backs. -/
theorem Pins.backed {before after : World} (hpins : before.Pins special thumbprint after)
    (opening : Opening) (hbacked : opening.Backed before.logins) : opening.Backed after.logins := by
  obtain ⟨login, hmem, hconn⟩ := hbacked
  obtain ⟨index, hlogin⟩ := List.mem_iff_getElem?.mp hmem
  obtain ⟨last, hlast, hstays⟩ := hpins.logins.kept index login hlogin
  refine ⟨last, List.mem_of_getElem? hlast, ?_⟩
  unfold Login.Stays at hstays
  rw [hstays]
  exact hconn

theorem Pins.trans (first middle last : World) (hfirst : first.Pins special thumbprint middle)
    (hlast : middle.Pins special thumbprint last) : first.Pins special thumbprint last := by
  refine ⟨hfirst.logins.trans Login.Stays.trans Login.Stays.pinned hlast.logins, ?_⟩
  have hkept := hfirst.openings.mono (fun _ _ ↦ id) hlast.backed
  exact hkept.trans Opening.Stays.trans Opening.Stays.backed hlast.openings

theorem pins_onLogin {α : Type} {body : Py Login α} (hbody : Proc.Moves Login.Stays body) (conn : ℕ) :
    Proc.Moves (Pins special thumbprint)
      (Proc.zoom loginsPart (Proc.onEntry Login.notConnected conn body)) := by
  intro world
  exact ⟨Proc.Moves.onEntry Login.Stays.refl hbody _ conn world.logins, .refl Opening.Stays.refl _⟩

theorem pins_onHandle {α : Type} {body : Py Opening α} (hbody : Proc.Moves Opening.Steps body)
    (handle : ℕ) : Proc.Moves (Pins special thumbprint) (onHandle handle body) := by
  intro world
  have hstays : Proc.Moves Opening.Stays body := fun opening ↦ (hbody opening).stays
  exact ⟨.refl Login.Stays.refl _, Proc.Moves.onEntry Opening.Stays.refl hstays _ handle world.openings⟩

theorem stays_connection : Proc.Moves Login.Stays Login.connection := by
  intro login
  unfold Login.connection
  split <;> exact .refl login

/-- The connection of a block is that of a login. -/
theorem connection_ok {conn : ℕ} {world after : World} {connection : Connection}
    (hconn : World.connection conn world = (.ok connection, after)) :
    ∃ login ∈ after.logins, login.conn = some connection := by
  obtain ⟨logins, hentry, rfl⟩ := Proc.zoom_eq_ok.mp hconn
  change ∃ login ∈ logins, login.conn = some connection
  rcases hlogin : (loginsPart.get world)[conn]? with _ | login
  · rw [Proc.onEntry_of_none hlogin] at hentry
    cases hentry
  rw [Proc.onEntry_of_some hlogin, Prod.mk.injEq] at hentry
  obtain ⟨hconnection, rfl⟩ := hentry
  obtain ⟨hinside, -⟩ := List.getElem?_eq_some_iff.mp hlogin
  refine ⟨_, List.mem_of_getElem? (List.getElem?_set_self hinside), ?_⟩
  rcases hsome : login.conn with _ | made
  all_goals simp only [Login.connection, hsome] at hconnection ⊢
  · cases hconnection
  · exact congrArg some (Except.ok.inj hconnection)

end World

namespace UserCode

open World

variable {env : Environment} {thumbprint : String}

/-- A pinned program keeps its logins pinned and its openings on their connections. -/
theorem run_pins {code : UserCode} (hpins : code.Uses (ConnectArgs.Pins thumbprint) fun _ ↦ True) :
    Proc.Moves (World.Pins env.special thumbprint) (code.run env) := by
  refine run_calls Pins.refl Pins.trans (fun handle _ hcall ↦ pins_onHandle hcall.steps handle) ?_ ?_ code
    hpins (.inr (pins_onLogin Login.stays_disconnect))
  · intro args hargs body hbody world
    refine Proc.withEntry_keeps_of (show loginsPart.Lawful from fun _ _ ↦ rfl) Pins.trans _ _ ?_
      (pins_onLogin Login.stays_disconnect) hbody
    exact ⟨.refused Login.Stays.refl _ (Login.enter_pinned hargs), .refl Opening.Stays.refl _⟩
  · intro conn call _ body hbody world
    have hpinned := @pins_onLogin env.special thumbprint _ _ stays_connection conn world
    rcases hconn : connection conn world with ⟨error | connection, after⟩
    all_goals rw [show Proc.zoom loginsPart _ world = _ from hconn] at hpinned
    · rw [openBlock, Proc.bind_of_error hconn]
      exact hpinned
    rw [openBlock, Proc.bind_of_ok hconn]
    refine Pins.trans _ _ _ hpinned (Proc.withEntry_keeps_of
      (show openingsPart.Lawful from fun _ _ ↦ rfl) Pins.trans _ _ ?_
      (pins_onHandle Opening.steps_close) hbody)
    refine ⟨.refl Login.Stays.refl _, .refused Opening.Stays.refl _ ?_⟩
    obtain ⟨login, hmem, hconnection⟩ := connection_ok hconn
    refine ⟨login, hmem, hconnection.trans (congrArg some ?_)⟩
    exact (Opening.enter_entry env.special call (.fresh connection _)).conn_eq.symm

/-- In every run of a pinned program, every session stands behind a certificate that the thumbprint names.
Every opening stands on the untrusting connection of such a session; what it tells authd it tells in a TLS
session, of a peer whose certificate the ticket's thumbprint names when the ticket has one. -/
theorem pins {code : UserCode} (hpins : code.Uses (ConnectArgs.Pins thumbprint) fun _ ↦ True) :
    (∀ login ∈ (code.run env ⟨[], []⟩).2.logins, login.loggedIn = true →
      NamesCertificate env.special thumbprint login.probe.route.certificate) ∧
    ∀ opening ∈ (code.run env ⟨[], []⟩).2.openings,
      (∃ login ∈ (code.run env ⟨[], []⟩).2.logins, login.conn = some opening.conn ∧
        login.loggedIn = true ∧
        NamesCertificate env.special thumbprint login.probe.route.certificate) ∧
      opening.conn.allowUntrusted = false ∧ opening.authd.raw.sent = [] ∧
      (opening.authd.authd.sent ≠ [] → opening.authd.wrapped = true ∧
        ∃ ticket, opening.ticket = some ticket ∧
          ∀ named, truthy ticket.sslThumbprint = some named →
            NamesCertificate env.special named opening.authd.route.certificate) := by
  have hran := @run_pins env _ _ hpins ⟨[], []⟩
  have hlogins : ∀ login ∈ (code.run env ⟨[], []⟩).2.logins, login.Pinned env.special thumbprint := by
    intro login hmem
    obtain ⟨index, hlogin⟩ := List.mem_iff_getElem?.mp hmem
    exact hran.logins.settled index login (Nat.zero_le _) hlogin
  refine ⟨fun login hmem ↦ (hlogins login hmem).session, fun opening hmem ↦ ?_⟩
  obtain ⟨index, hopening⟩ := List.mem_iff_getElem?.mp hmem
  obtain ⟨login, hlogin, hconn⟩ := hran.openings.settled index opening (Nat.zero_le _) hopening
  obtain ⟨hloggedIn, huntrusting⟩ := (hlogins login hlogin).conn _ hconn
  have htrusted := (trusts env code ⟨[], []⟩).settled index opening (Nat.zero_le _) hopening
  refine ⟨⟨login, hlogin, hconn, hloggedIn, (hlogins login hlogin).session hloggedIn⟩, huntrusting,
    htrusted.authd_raw, fun hsent ↦ ?_⟩
  obtain ⟨hwrapped, ticket, hticket, hpasses⟩ := htrusted.authd hsent
  exact ⟨hwrapped, ticket, hticket, hpasses huntrusting⟩

end UserCode

/-! ### One block -/

/-- `connect` with a thumbprint, `open`, and nothing else. -/
def pinnedOnce (thumbprint : String) : UserCode :=
  .connect ⟨"vc", some thumbprint, some "moref=vm-1", true, some "nbd", 443, false⟩
    (fun conn ↦ .openDisk conn ⟨"[datastore0] vm/vm.vmdk", 4, nfcAioBufferSize, nfcAioBufferCount⟩
      (fun _ ↦ .finish (.ok ())) .finish) .finish

/-- A management server and a host with one certificate. -/
def pinnedEnvironment (derCert : Bytes) : Environment :=
  { peersEnvironment (pinnedTicket derCert) derCert derCert with
    logins := fun _ ↦ { willingLogin with
      probe := { openAuthdRoute with certificate := .ok (some derCert) } } }

theorem UserCode.pins_pinnedOnce :
    ∃ login opening, ((pinnedOnce (sha1Thumbprint [1])).run (pinnedEnvironment [1]) ⟨[], []⟩).2 =
        ⟨[login], [opening]⟩ ∧ login.loggedIn = true ∧ opening.authd.authd.sent ≠ [] ∧
      NamesCertificate (fun char ↦ [char]) (sha1Thumbprint [1]) login.probe.route.certificate ∧
      NamesCertificate (fun char ↦ [char]) (sha1Thumbprint [1]) opening.authd.route.certificate := by
  have hfacts : ((pinnedOnce (sha1Thumbprint [1])).run (pinnedEnvironment [1]) ⟨[], []⟩).2.logins.map
        Login.loggedIn = [true] ∧
      ((pinnedOnce (sha1Thumbprint [1])).run (pinnedEnvironment [1]) ⟨[], []⟩).2.openings.map
        (fun opening ↦ (opening.ticket, opening.authd.authd.sent.isEmpty)) =
          [(some (pinnedTicket [1]), false)] := by
    decide +kernel
  have huses : (pinnedOnce (sha1Thumbprint [1])).Uses (ConnectArgs.Pins (sha1Thumbprint [1]))
      fun _ ↦ True :=
    ⟨⟨rfl, by decide +kernel⟩, fun _ ↦ ⟨trivial, fun _ ↦ trivial, fun _ ↦ trivial⟩, fun _ ↦ trivial⟩
  obtain ⟨hlogins, hopenings⟩ := @UserCode.pins (pinnedEnvironment [1]) _ _ huses
  revert hfacts hlogins hopenings
  rcases ((pinnedOnce (sha1Thumbprint [1])).run (pinnedEnvironment [1]) ⟨[], []⟩).2 with
    ⟨logins, openings⟩
  rintro ⟨hlogged, htalked⟩ hlogins hopenings
  obtain ⟨login, rfl, hloggedIn⟩ := List.map_eq_singleton_iff.mp hlogged
  obtain ⟨opening, rfl, htalk⟩ := List.map_eq_singleton_iff.mp htalked
  obtain ⟨hticket, hsent⟩ := Prod.mk.inj htalk
  have hsome : opening.authd.authd.sent ≠ [] := List.isEmpty_eq_false_iff.mp hsent
  obtain ⟨-, -, -, htold⟩ := hopenings opening List.mem_cons_self
  obtain ⟨-, ticket, hticket', hnames⟩ := htold hsome
  obtain rfl := Option.some.inj (hticket.symm.trans hticket')
  refine ⟨login, opening, rfl, hloggedIn, hsome, hlogins login List.mem_cons_self hloggedIn, ?_⟩
  exact hnames _ (by decide +kernel)

end OpenVixDiskLib
