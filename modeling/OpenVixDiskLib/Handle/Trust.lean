import OpenVixDiskLib.Handle.Release

/-!
# Which TLS sessions are trusted

An opening has two TLS sessions on one TCP connection, and each peer may be anybody. Nothing is sent to
authd except in the first session, behind the check of its certificate; the ticket's sessionId is one of
these texts. On nbdssl nothing is sent or received on the duplicated descriptor except in the second
session, whose certificate is not looked at (`Opening.Trusted`).

So an untrusting opening speaks with authenticated peers where its ticket names a thumbprint and the second
certificate has it too (`UserCode.authenticates`).
-/

set_option autoImplicit false
set_option relaxedAutoImplicit false

namespace OpenVixDiskLib

/-- The SHA-1 thumbprint of the certificate is the ticket's, apart from colons, spaces and case. -/
def CertificateMatches (special : Char → List Char) (ticket : HostServiceTicket)
    (certificate : Option Bytes) : Prop :=
  ∃ thumbprint derCert, truthy ticket.sslThumbprint = some thumbprint ∧ certificate = some derCert ∧
    normalizeThumbprint special (sha1Thumbprint derCert) = normalizeThumbprint special thumbprint

/-- Bytes have been sent or received on a socket since it was new. -/
def SockFate.UsedBy (fate : SockFate) (sock : Sock) : Prop :=
  sock.sent ≠ [] ∨ sock.inbox ≠ fate.inbox

/-- What an opening has said to whom: authd has been told something only in the first TLS session, of a peer
that passed the check; on nbdssl NFC was spoken only in the second one. -/
structure Opening.Trusted (special : Char → List Char) (opening : Opening) : Prop where
  authd_raw : opening.authd.raw.sent = []
  authd : opening.authd.authd.sent ≠ [] → opening.authd.wrapped = true ∧
    ∃ ticket, opening.ticket = some ticket ∧ CertificatePasses special ticket
      opening.conn.allowUntrusted opening.authd.route.certificate
  nfc_raw : opening.conn.nfcSsl = true → ¬ opening.fate.nfcRaw.UsedBy opening.nfc.raw
  nfc : opening.conn.nfcSsl = true → opening.fate.nfcTls.UsedBy opening.nfc.tls →
    opening.nfc.wrapped = true ∧ opening.ticket ≠ none
  handle : opening.disk ≠ none →
    (opening.conn.nfcSsl = true → opening.nfc.wrapped = true) ∧ opening.ticket ≠ none

/-- The sessionId is sent only in a TLS session whose peer has the ticket's certificate, and on nbdssl NFC
bytes are sent and received only in such a session. -/
structure Opening.Authenticated (special : Char → List Char) (opening : Opening) : Prop where
  authd_raw : opening.authd.raw.sent = []
  authd : opening.authd.authd.sent ≠ [] → opening.authd.wrapped = true ∧
    ∃ ticket certificate, opening.ticket = some ticket ∧
      opening.authd.route.certificate = .ok certificate ∧ CertificateMatches special ticket certificate
  nfc_raw : opening.conn.nfcSsl = true → ¬ opening.fate.nfcRaw.UsedBy opening.nfc.raw
  nfc : opening.conn.nfcSsl = true → opening.fate.nfcTls.UsedBy opening.nfc.tls →
    opening.nfc.wrapped = true ∧ ∃ ticket, opening.ticket = some ticket ∧
      CertificateMatches special ticket opening.nfc.route.certificate

/-- The ticket has a thumbprint, and on nbdssl the peer of the second TLS session has it too. -/
def Opening.Verifiable (special : Char → List Char) (opening : Opening) : Prop :=
  ∀ ticket, opening.ticket = some ticket → truthy ticket.sslThumbprint ≠ none ∧
    (opening.conn.nfcSsl = true → CertificateMatches special ticket opening.nfc.route.certificate)

section Trusted

variable {special : Char → List Char} {ticket : HostServiceTicket} {allowUntrusted nfcSsl : Bool}
  {before after : Opening} {conn : Connection} {fate : OpeningFate}

/-- Nothing that can happen to an opening speaks with anybody else. -/
theorem Opening.Trusted.step (hstep : before.Step after) (htrusted : before.Trusted special) :
    after.Trusted special := by
  cases hstep with
  | @disk disk last hdisk hages =>
    obtain ⟨-, hwrapped, -⟩ := NfcConn.sockPart_set_flags before.conn.nfcSsl last.sock before.nfc
    have hhandle := htrusted.handle (by rw [hdisk]; exact Option.some_ne_none _)
    have hown : before.conn.nfcSsl = true → (before.withDisk last).nfc.wrapped = true :=
      fun hssl ↦ hwrapped.trans (hhandle.1 hssl)
    refine ⟨htrusted.authd_raw, htrusted.authd, fun hssl ↦ ?_, fun hssl _ ↦ ⟨hown hssl, hhandle.2⟩,
      fun _ ↦ ⟨hown, hhandle.2⟩⟩
    have hraw : (before.withDisk last).nfc.raw = before.nfc.raw := by
      change before.conn.nfcSsl = true at hssl
      change ((NfcConn.sockPart before.conn.nfcSsl).set last.sock before.nfc).raw = _
      rw [hssl]
      rfl
    rw [hraw]
    exact htrusted.nfc_raw hssl
  | authd => exact ⟨htrusted.authd_raw, htrusted.authd, htrusted.nfc_raw, htrusted.nfc, htrusted.handle⟩

/-- What `connect_authd` has sent when it returns or raises. -/
theorem AuthdOutcome.trusted {start after : AuthdConn} {result : Except PyError Unit}
    (houtcome : AuthdOutcome special ticket allowUntrusted nfcSsl start result after)
    (hraw : start.raw.sent = []) (hauthd : start.authd.sent = []) :
    after.raw.sent = [] ∧ (after.authd.sent ≠ [] → after.wrapped = true ∧
      CertificatePasses special ticket allowUntrusted after.route.certificate) := by
  cases houtcome with
  | refused => exact ⟨hraw, fun h ↦ absurd hauthd h⟩
  | ungreeted htook => exact ⟨htook.sent_eq.trans hraw, fun h ↦ absurd hauthd h⟩
  | untrusted hbanner htook hfails => exact ⟨htook.sent_eq.trans hraw, fun h ↦ absurd hauthd h⟩
  | stopped hbanner htook hpasses htalk => exact ⟨htook.sent_eq.trans hraw, fun _ ↦ ⟨rfl, hpasses⟩⟩
  | done hbanner htook hpasses htalk => exact ⟨htook.sent_eq.trans hraw, fun _ ↦ ⟨rfl, hpasses⟩⟩

/-- On nbdssl `open_disk` speaks in the second TLS session alone. -/
theorem NfcOutcome.trusted {start after : NfcConn} {result : Except PyError NfcDisk}
    (houtcome : NfcOutcome true start result after) :
    after.raw.sent = start.raw.sent ∧ after.raw.inbox = start.raw.inbox ∧
      (after.tls = start.tls ∨ after.wrapped = true) := by
  cases houtcome with
  | unconnected hconnected => cases hconnected <;> exact ⟨rfl, rfl, .inl rfl⟩
  | failed hguarded => exact ⟨rfl, rfl, .inr (Bool.or_true _)⟩
  | opened hguarded hopen => exact ⟨rfl, rfl, .inr (Bool.or_true _)⟩

theorem NfcOutcome.wrapped {start after : NfcConn} {disk : NfcDisk}
    (houtcome : NfcOutcome true start (.ok disk) after) : after.wrapped = true := by
  cases houtcome with
  | opened hguarded hopen => exact Bool.or_true _

/-- An opening that ends in `open_disk` has spoken with nobody else. -/
theorem NfcOutcome.opening_trusted {authd : AuthdConn} {nfc : NfcConn} {disk : Option NfcDisk}
    {authdResult : Except PyError Unit} {result : Except PyError NfcDisk}
    (hauthd : AuthdOutcome special ticket conn.allowUntrusted conn.nfcSsl
      (Opening.fresh conn fate).authd authdResult authd)
    (hnfc : NfcOutcome conn.nfcSsl (Opening.fresh conn fate).nfc result nfc)
    (hdisk : disk ≠ none → conn.nfcSsl = true → nfc.wrapped = true) :
    Opening.Trusted special ⟨fate, conn, some ticket, authd, nfc, disk⟩ := by
  obtain ⟨hraw, htalk⟩ := hauthd.trusted rfl rfl
  refine ⟨hraw, fun hsent ↦ ?_, fun hssl ↦ ?_, fun hssl hused ↦ ⟨?_, Option.some_ne_none _⟩,
    fun hopened ↦ ⟨hdisk hopened, Option.some_ne_none _⟩⟩
  · obtain ⟨hwrapped, hpasses⟩ := htalk hsent
    exact ⟨hwrapped, ticket, rfl, hpasses⟩
  all_goals
    change conn.nfcSsl = true at hssl
    rw [hssl] at hnfc
    obtain ⟨hsent, hinbox, htls⟩ := hnfc.trusted
  · rintro (h | h)
    · exact h hsent
    · exact h hinbox
  · obtain hsame | hwrapped := htls
    · change fate.nfcTls.UsedBy nfc.tls at hused
      rw [hsame] at hused
      exact absurd hused (by rintro (h | h) <;> exact h rfl)
    · exact hwrapped

/-- Entering speaks with nobody else. -/
theorem Opening.Entry.trusted {result : Except PyError Unit} {after : Opening}
    (hentry : Opening.Entry special (.fresh conn fate) result after) : after.Trusted special := by
  cases hentry with
  | refused =>
    refine ⟨rfl, fun h ↦ absurd rfl h, ?_, ?_, fun h ↦ absurd rfl h⟩
    · rintro _ (h | h) <;> exact h rfl
    · rintro _ (h | h) <;> exact absurd rfl h
  | unauthorized hauthd =>
    obtain ⟨hraw, htalk⟩ := hauthd.trusted rfl rfl
    refine ⟨hraw, fun hsent ↦ ?_, ?_, ?_, fun h ↦ absurd rfl h⟩
    · obtain ⟨hwrapped, hpasses⟩ := htalk hsent
      exact ⟨hwrapped, _, rfl, hpasses⟩
    · rintro _ (h | h) <;> exact h rfl
    · rintro _ (h | h) <;> exact absurd rfl h
  | unopened hauthd hnfc =>
    exact .step .authd (hnfc.opening_trusted hauthd fun h ↦ absurd rfl h)
  | opened hauthd hnfc =>
    refine hnfc.opening_trusted hauthd fun _ hssl ↦ ?_
    change conn.nfcSsl = true at hssl
    change NfcOutcome conn.nfcSsl _ _ _ at hnfc
    rw [hssl] at hnfc
    exact hnfc.wrapped

/-- With a ticket that names a thumbprint, whose second peer has it too, an untrusting opening speaks with
authenticated peers alone. -/
theorem Opening.Trusted.authenticated (htrusted : after.Trusted special)
    (huntrusted : after.conn.allowUntrusted = false) (hverifiable : after.Verifiable special) :
    after.Authenticated special := by
  refine ⟨htrusted.authd_raw, fun hsent ↦ ?_, htrusted.nfc_raw, fun hssl hused ↦ ?_⟩
  · obtain ⟨hwrapped, ticket, hticket, hpasses⟩ := htrusted.authd hsent
    obtain ⟨thumbprint, hthumbprint⟩ := Option.ne_none_iff_exists'.mp (hverifiable ticket hticket).1
    obtain ⟨derCert, hcertificate, -, hsame⟩ := hpasses huntrusted thumbprint hthumbprint
    exact ⟨hwrapped, ticket, some derCert, hticket, hcertificate, thumbprint, derCert, hthumbprint, rfl,
      hsame⟩
  · obtain ⟨hwrapped, hsome⟩ := htrusted.nfc hssl hused
    obtain ⟨ticket, hticket⟩ := Option.ne_none_iff_exists'.mp hsome
    exact ⟨hwrapped, ticket, hticket, (hverifiable ticket hticket).2 hssl⟩

end Trusted

namespace UserCode

/-- Every opening of a program speaks with trusted sessions. -/
theorem trusts (env : Environment) (code : UserCode) : Proc.Moves (fun before after ↦
    Proc.Extends Opening.Steps (Opening.Trusted env.special) before.openings after.openings)
      (code.run env) := by
  refine run_openings ?_ ?_ ?_ code
  · exact fun _ _ htrusted hsteps ↦ hsteps.keeps (fun _ _ ↦ Opening.Trusted.step) htrusted
  · exact fun _ _ _ _ hentry ↦ hentry.trusted
  · intro conn fate entered last hentry hsteps
    exact (hsteps.trans _ _ _ (Opening.steps_close last)).keeps (fun _ _ ↦ Opening.Trusted.step)
      hentry.trusted

/-- In every run of every program, an untrusting opening whose ticket names a thumbprint and whose second
peer has it too speaks with authenticated peers alone. -/
theorem authenticates {env : Environment} {code : UserCode} {world : World} {index : ℕ}
    {opening : Opening} (hnew : world.openings.length ≤ index)
    (hopening : (code.run env world).2.openings[index]? = some opening)
    (huntrusted : opening.conn.allowUntrusted = false) (hverifiable : opening.Verifiable env.special) :
    opening.Authenticated env.special :=
  ((trusts env code world).settled index opening hnew hopening).authenticated huntrusted hverifiable

end UserCode

/-! ### Two peers -/

/-- A ticket that names a certificate. -/
def pinnedTicket (derCert : Bytes) : HostServiceTicket :=
  { bareTicket with sslThumbprint := some (sha1Thumbprint derCert) }

/-- A network on which the peers of the two TLS sessions have these certificates. -/
def peersEnvironment (ticket : HostServiceTicket) (first second : Bytes) : Environment where
  special := fun char ↦ [char]
  library := FastLz.storing
  logins := fun _ ↦ willingLogin
  openings := fun _ ↦ { willingOpening ticket { openNfcRoute with certificate := some second } with
    authd := { openAuthdRoute with certificate := .ok (some first) } }

theorem UserCode.authenticates_pinned :
    ∃ opening, ((openOnce "nbdssl" false).run (peersEnvironment (pinnedTicket [1]) [1] [1])
        ⟨[], []⟩).2.openings[0]? = some opening ∧ opening.authd.authd.sent ≠ [] ∧
      opening.nfc.tls.sent ≠ [] ∧ opening.Authenticated fun char ↦ [char] := by
  have hfacts : ((openOnce "nbdssl" false).run (peersEnvironment (pinnedTicket [1]) [1] [1])
      ⟨[], []⟩).2.openings[0]?.map (fun opening ↦ (opening.conn.allowUntrusted, opening.ticket,
        opening.nfc.route.certificate, opening.authd.authd.sent.isEmpty,
        opening.nfc.tls.sent.isEmpty)) =
      some (false, some (pinnedTicket [1]), some [1], false, false) := by
    decide +kernel
  obtain ⟨opening, hopening, hfacts⟩ := Option.map_eq_some_iff.mp hfacts
  simp only [Prod.mk.injEq] at hfacts
  obtain ⟨huntrusted, hticket, hcertificate, hsession, hnfc⟩ := hfacts
  refine ⟨opening, hopening, List.isEmpty_eq_false_iff.mp hsession, List.isEmpty_eq_false_iff.mp hnfc,
    UserCode.authenticates (Nat.zero_le 0) hopening huntrusted fun ticket hticket' ↦ ?_⟩
  obtain rfl := Option.some.inj (hticket.symm.trans hticket')
  have hthumbprint : truthy (pinnedTicket [1]).sslThumbprint = some (sha1Thumbprint [1]) := by
    decide +kernel
  refine ⟨by rw [hthumbprint]; exact Option.some_ne_none _, fun _ ↦ ?_⟩
  exact ⟨_, [1], hthumbprint, hcertificate, rfl⟩

/-- The client speaks NFC with whoever answers the second handshake, and with a ticket without a thumbprint
it tells the sessionId to whoever answers the first. -/
theorem UserCode.speaks_unauthenticated :
    (∃ opening, ((openOnce "nbdssl" false).run (peersEnvironment (pinnedTicket [1]) [1] [2])
        ⟨[], []⟩).2.openings[0]? = some opening ∧ opening.conn.allowUntrusted = false ∧
      ¬ opening.Authenticated fun char ↦ [char]) ∧
    ∃ opening, ((openOnce "nbd" false).run (peersEnvironment bareTicket [1] [1])
        ⟨[], []⟩).2.openings[0]? = some opening ∧ opening.conn.allowUntrusted = false ∧
      ¬ opening.Authenticated fun char ↦ [char] := by
  constructor
  · have hfacts : ((openOnce "nbdssl" false).run (peersEnvironment (pinnedTicket [1]) [1] [2])
        ⟨[], []⟩).2.openings[0]?.map (fun opening ↦ (opening.ticket,
          opening.nfc.route.certificate, opening.conn.allowUntrusted, opening.conn.nfcSsl,
          opening.nfc.tls.sent.isEmpty)) =
        some (some (pinnedTicket [1]), some [2], false, true, false) := by
      decide +kernel
    obtain ⟨opening, hopening, hfacts⟩ := Option.map_eq_some_iff.mp hfacts
    simp only [Prod.mk.injEq] at hfacts
    obtain ⟨hticket, hcertificate, huntrusted, hssl, hsent⟩ := hfacts
    refine ⟨opening, hopening, huntrusted, fun hauthenticated ↦ ?_⟩
    obtain ⟨-, ticket, hticket', thumbprint, derCert, hthumbprint, hcertificate', hsame⟩ :=
      hauthenticated.nfc hssl (.inl (List.isEmpty_eq_false_iff.mp hsent))
    obtain rfl := Option.some.inj (hticket.symm.trans hticket')
    obtain rfl := Option.some.inj (hcertificate.symm.trans hcertificate')
    have hnamed : truthy (pinnedTicket [1]).sslThumbprint = some (sha1Thumbprint [1]) := by
      decide +kernel
    obtain rfl := Option.some.inj (hnamed.symm.trans hthumbprint)
    have hdigests := normalizeThumbprint_format_inj.mp hsame
    revert hdigests
    decide +kernel
  · have hfacts : ((openOnce "nbd" false).run (peersEnvironment bareTicket [1] [1])
        ⟨[], []⟩).2.openings[0]?.map (fun opening ↦ (opening.conn.allowUntrusted, opening.ticket,
          opening.authd.authd.sent.isEmpty)) = some (false, some bareTicket, false) := by
      decide +kernel
    obtain ⟨opening, hopening, hfacts⟩ := Option.map_eq_some_iff.mp hfacts
    simp only [Prod.mk.injEq] at hfacts
    obtain ⟨huntrusted, hticket, hsent⟩ := hfacts
    refine ⟨opening, hopening, huntrusted, fun hauthenticated ↦ ?_⟩
    obtain ⟨-, ticket, certificate, hticket', -, thumbprint, derCert, hthumbprint, -⟩ :=
      hauthenticated.authd (List.isEmpty_eq_false_iff.mp hsent)
    obtain rfl := Option.some.inj (hticket.symm.trans hticket')
    cases hthumbprint

end OpenVixDiskLib
