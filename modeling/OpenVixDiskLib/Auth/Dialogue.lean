import OpenVixDiskLib.Auth.Authd

/-!
# What authd sees and what the client takes

`connectAuthd_follows_protocol` puts the dialogue together, for every ticket with ASCII texts, every
certificate and every pair of byte streams in any segmentation: when `connect_authd` returns, what it has
taken and sent by then, and that whatever happens a command is only sent behind the replies to the
commands before it. The service of `PROXY` is the ticket's, or `vpxa-nfc` when the ticket has none.
-/

set_option autoImplicit false
set_option relaxedAutoImplicit false

namespace OpenVixDiskLib

open Arrival (Quiet streamBytes quiet_segment)

variable {special : Char → List Char} {ticket : HostServiceTicket} {allowUntrusted nfcSsl : Bool}
  {conn after : AuthdConn}

/-- A connection whose TCP connect, TLS handshake and sends succeed, and whose receives meet bytes and
then the end of the stream. -/
structure AuthdConn.Reachable (conn : AuthdConn) : Prop where
  connect : conn.route.connect = .ok ()
  context : conn.route.context = .ok ()
  wrap : conn.route.wrap = .ok ()
  raw_open : conn.raw.closed = false
  raw_quiet : Quiet conn.raw.inbox
  sends : conn.authd.Sends
  quiet : Quiet conn.authd.inbox

/-- The streams of the connection start with the lines the client waits for, and its certificate
passes. -/
structure AuthdConn.Welcomes (special : Char → List Char) (ticket : HostServiceTicket)
    (allowUntrusted : Bool) (conn : AuthdConn) : Prop where
  banner : ∃ banner rest, Answers "220" banner ∧ streamBytes conn.raw.inbox = banner ++ rest
  certificate : CertificatePasses special ticket allowUntrusted conn.route.certificate
  replies : ∃ replies rest, Answered authdCodes replies ∧
    streamBytes conn.authd.inbox = replies ++ rest

/-- Exactly the greeting has been taken from the plaintext socket and exactly the replies from the TLS
session, and exactly the commands have been sent. -/
structure AuthdDone (ticket : HostServiceTicket) (nfcSsl : Bool) (conn after : AuthdConn) : Prop where
  raw : ∃ banner, Answers "220" banner ∧ conn.raw.Exchanged [] banner after.raw
  authd : ∃ replies, Answered authdCodes replies ∧
    conn.authd.Exchanged ((authdCommands ticket nfcSsl).flatMap asciiBytes) replies after.authd

/-- Nothing has been sent in plaintext. In the TLS session the first `count` commands have been sent,
none of them before the wrap and the certificate check, and the replies to all of them but the last one
have been taken and accepted. The first command has no reply. -/
structure AuthdSaid (special : Char → List Char) (ticket : HostServiceTicket)
    (allowUntrusted nfcSsl : Bool) (conn after : AuthdConn) (count : ℕ) : Prop where
  raw_sent : after.raw.sent = conn.raw.sent
  sent : after.authd.sent =
    conn.authd.sent ++ ((authdCommands ticket nfcSsl).take count).flatMap asciiBytes
  allowed : 0 < count → after.wrapped = true ∧
    CertificatePasses special ticket allowUntrusted conn.route.certificate
  answered : ∃ taken more, Answered (authdCodes.take (count - 2)) taken ∧
    streamBytes conn.authd.inbox = taken ++ more ++ streamBytes after.authd.inbox

theorem AuthdSaid.nothing (hraw : after.raw.sent = conn.raw.sent)
    (hsent : after.authd.sent = conn.authd.sent) (hinbox : after.authd.inbox = conn.authd.inbox) :
    AuthdSaid special ticket allowUntrusted nfcSsl conn after 0 where
  raw_sent := hraw
  sent := by rw [hsent, List.take_zero, List.flatMap_nil, List.append_nil]
  allowed hpos := absurd hpos (lt_irrefl 0)
  answered := ⟨[], [], answered_nil, by rw [hinbox]; rfl⟩

/-- Whatever its outcome, a run has sent a first part of the commands, each behind its replies. -/
theorem AuthdOutcome.said {result : Except PyError Unit} (hascii : AsciiTicket ticket)
    (houtcome : AuthdOutcome special ticket allowUntrusted nfcSsl conn result after) :
    ∃ count, AuthdSaid special ticket allowUntrusted nfcSsl conn after count := by
  cases houtcome with
  | refused => exact ⟨0, .nothing rfl rfl rfl⟩
  | ungreeted htook => exact ⟨0, .nothing htook.sent_eq rfl rfl⟩
  | untrusted _ htook _ => exact ⟨0, .nothing htook.sent_eq rfl rfl⟩
  | stopped _ htook hpasses htalk =>
    have htalks := authdTalk_talks hascii nfcSsl conn.authd conn.authd (talked_nil _)
    rw [htalk] at htalks
    obtain ⟨count, taken, more, hanswered, hexchange⟩ := htalks
    exact ⟨count, htook.sent_eq, hexchange.sent_eq, fun _ ↦ ⟨rfl, hpasses⟩, taken, more, hanswered,
      hexchange.stream⟩
  | done _ htook hpasses htalk =>
    have htalks := authdTalk_talks hascii nfcSsl conn.authd conn.authd (talked_nil _)
    rw [htalk] at htalks
    obtain ⟨replies, hanswered, hexchange⟩ := htalks
    obtain ⟨first, more, rfl, hfirst⟩ := hanswered.take 2
    exact ⟨4, htook.sent_eq, hexchange.sent_eq, fun _ ↦ ⟨rfl, hpasses⟩, first, more, hfirst,
      hexchange.stream⟩

/-- A run that returns has taken the lines and sent the commands. -/
theorem AuthdOutcome.done_of_ok (hascii : AsciiTicket ticket)
    (houtcome : AuthdOutcome special ticket allowUntrusted nfcSsl conn (.ok ()) after) :
    AuthdDone ticket nfcSsl conn after ∧
      CertificatePasses special ticket allowUntrusted conn.route.certificate := by
  cases houtcome with
  | done hbanner htook hpasses htalk =>
    have htalks := authdTalk_talks hascii nfcSsl conn.authd conn.authd (talked_nil _)
    rw [htalk] at htalks
    exact ⟨⟨⟨_, hbanner, .of_took htook⟩, htalks⟩, hpasses⟩

/-- A connection that welcomes the client gets the session. -/
theorem AuthdConn.Welcomes.returns (hwelcomes : conn.Welcomes special ticket allowUntrusted)
    (hreachable : conn.Reachable) (hascii : AsciiTicket ticket) (nfcSsl : Bool) :
    (connectAuthd special ticket allowUntrusted nfcSsl conn).1 = .ok () := by
  obtain ⟨banner, rest, hbanner, hstream⟩ := hwelcomes.banner
  obtain ⟨replies, rest', hreplies, hstream'⟩ := hwelcomes.replies
  obtain ⟨raw, hgreeting⟩ := @authdGreeting_of_answers { conn with connected := true } _ _ hbanner
    ⟨hreachable.raw_open, hreachable.raw_quiet, hstream⟩ hreachable.context hreachable.wrap
  obtain ⟨result, hcheck, hpasses⟩ := checkCertificate_apply special ticket allowUntrusted
    { conn with raw := raw, connected := true, wrapped := true }
  obtain rfl := hpasses.mpr hwelcomes.certificate
  obtain ⟨authd, htalk⟩ := authdTalk_of_answered hascii nfcSsl hreachable.sends hreplies
    ⟨hreachable.sends.1, hreachable.quiet, hstream'⟩
  have hlogin : authdLogin special ticket allowUntrusted nfcSsl
      { conn with raw := raw, connected := true, wrapped := true } = (.ok (), _) :=
    (Proc.bind_of_ok hcheck).trans (Proc.zoom_of_eq AuthdConn.authdPart htalk)
  rw [connectAuthd, Proc.bind_of_ok (AuthdConn.createConnection_of_ok hreachable.connect),
    Proc.bind_of_ok (closeOnError_of_ok hgreeting), closeOnError_of_ok hlogin]

/-- A ticket whose thumbprint spells a digest is passed by the certificates with that digest. -/
theorem certificatePasses_iff_digest {thumbprint : String} {digest : Bytes}
    {certificate : Except PyError (Option Bytes)}
    (hthumbprint : truthy ticket.sslThumbprint = some thumbprint)
    (hspells : normalizeThumbprint special thumbprint =
      normalizeThumbprint special (formatThumbprint digest)) :
    CertificatePasses special ticket false certificate ↔
      ∃ derCert, certificate = .ok (some derCert) ∧ derCert ≠ [] ∧ sha1 derCert = digest := by
  simp only [CertificatePasses, hthumbprint, true_implies, Option.some.injEq, forall_eq', hspells,
    sha1Thumbprint, normalizeThumbprint_format_inj]

/-- The authd protocol, for every ticket with ASCII texts and every connection that can be reached. -/
theorem connectAuthd_follows_protocol (special : Char → List Char) (ticket : HostServiceTicket)
    (allowUntrusted nfcSsl : Bool) (conn : AuthdConn) (hreachable : conn.Reachable)
    (hascii : AsciiTicket ticket) :
    ((connectAuthd special ticket allowUntrusted nfcSsl conn).1 = .ok () ↔
      conn.Welcomes special ticket allowUntrusted) ∧
    ((connectAuthd special ticket allowUntrusted nfcSsl conn).1 = .ok () →
      AuthdDone ticket nfcSsl conn (connectAuthd special ticket allowUntrusted nfcSsl conn).2) ∧
    (∃ count, AuthdSaid special ticket allowUntrusted nfcSsl conn
      (connectAuthd special ticket allowUntrusted nfcSsl conn).2 count) ∧
    ∀ thumbprint digest, truthy ticket.sslThumbprint = some thumbprint →
      normalizeThumbprint special thumbprint =
        normalizeThumbprint special (formatThumbprint digest) →
      (CertificatePasses special ticket false conn.route.certificate ↔
        ∃ derCert, conn.route.certificate = .ok (some derCert) ∧ derCert ≠ [] ∧
          sha1 derCert = digest) := by
  have houtcome := connectAuthd_outcome special ticket allowUntrusted nfcSsl conn
  refine ⟨⟨fun hreturns ↦ ?_, fun hwelcomes ↦ hwelcomes.returns hreachable hascii nfcSsl⟩,
    fun hreturns ↦ ?_, houtcome.said hascii,
    fun thumbprint digest hthumbprint hspells ↦ certificatePasses_iff_digest hthumbprint hspells⟩
  · rw [hreturns] at houtcome
    obtain ⟨⟨⟨banner, hbanner, hraw⟩, replies, hreplies, hauthd⟩, hpasses⟩ :=
      houtcome.done_of_ok hascii
    exact ⟨⟨banner, _, hbanner, hraw.stream⟩, hpasses, replies, _, hreplies, hauthd.stream⟩
  · rw [hreturns] at houtcome
    exact (houtcome.done_of_ok hascii).1

/-- A host that greets the client and answers its commands, and sends nothing else. -/
def welcomingHost : AuthdConn where
  route := ⟨.ok (), .ok (), .ok (), .ok none⟩
  raw := ⟨Arrival.segment (asciiBytes "220 ready\n"), [], false, none, none⟩
  authd := ⟨Arrival.segment (asciiBytes "220 hello\n200 ok\n200 Connect\n"), [], false, none, none⟩
  connected := false
  wrapped := false

/-- The host with a certificate. -/
def certifiedHost (derCert : Bytes) : AuthdConn :=
  { welcomingHost with route := ⟨.ok (), .ok (), .ok (), .ok (some derCert)⟩ }

/-- A ticket without a service. -/
def bareTicket : HostServiceTicket where
  host := "esx"
  port := none
  sslThumbprint := none
  service := some ""
  sessionId := "5a"

/-- A ticket with a service, and the thumbprint of the certificate `abc` in lower case. -/
def spelledTicket : HostServiceTicket where
  host := "esx"
  port := none
  sslThumbprint := some "a9993e36 4706816a ba3e2571 7850c26c 9cd0d89d"
  service := some "nfc"
  sessionId := "5a"

theorem connectAuthd_follows_protocol_certified :
    (certifiedHost (asciiBytes "abc")).Welcomes (fun char ↦ [char]) spelledTicket false ∧
      AuthdDone spelledTicket true (certifiedHost (asciiBytes "abc"))
        (connectAuthd (fun char ↦ [char]) spelledTicket false true
          (certifiedHost (asciiBytes "abc"))).2 ∧
      (∃ count, AuthdSaid (fun char ↦ [char]) spelledTicket false true
        (certifiedHost (asciiBytes "abc"))
        (connectAuthd (fun char ↦ [char]) spelledTicket false true
          (certifiedHost (asciiBytes "abc"))).2 count) ∧
      ∃ derCert, (certifiedHost (asciiBytes "abc")).route.certificate = .ok (some derCert) ∧
        derCert ≠ [] ∧ sha1 derCert = sha1 (asciiBytes "abc") := by
  obtain ⟨hreturns, hdone, hsaid, hchecks⟩ := connectAuthd_follows_protocol (fun char ↦ [char])
    spelledTicket false true (certifiedHost (asciiBytes "abc"))
    ⟨rfl, rfl, rfl, rfl, quiet_segment (asciiBytes "220 ready\n"), ⟨rfl, rfl⟩,
      quiet_segment (asciiBytes "220 hello\n200 ok\n200 Connect\n")⟩
    ⟨by decide, fun service hservice ↦ by
      obtain rfl := Option.some.inj hservice
      decide⟩
  have hreturned : (connectAuthd (fun char ↦ [char]) spelledTicket false true
      (certifiedHost (asciiBytes "abc"))).1 = .ok () := by
    decide +kernel
  have hspells : normalizeThumbprint (fun char ↦ [char]) "a9993e36 4706816a ba3e2571 7850c26c 9cd0d89d" =
      normalizeThumbprint (fun char ↦ [char]) (formatThumbprint (sha1 (asciiBytes "abc"))) := by
    decide +kernel
  have hwelcomes := hreturns.mp hreturned
  refine ⟨hwelcomes, hdone hreturned, hsaid, ?_⟩
  exact (hchecks _ _ (Option.filter_some_pos rfl) hspells).mp hwelcomes.certificate

/-- With a ticket whose service is empty, `PROXY` names `vpxa-nfc` and not the ticket's service. -/
theorem connectAuthd_proxies_default :
    (connectAuthd (fun char ↦ [char]) bareTicket false false welcomingHost).1 = .ok () ∧
      (connectAuthd (fun char ↦ [char]) bareTicket false false welcomingHost).2.authd.sent =
        asciiBytes "SESSION 5a\r\nBANNER \r\nTHUMBPRINT_SHA2 PlainText\r\nPROXY vpxa-nfc\r\n" ∧
      (connectAuthd (fun char ↦ [char]) bareTicket false false welcomingHost).2.authd.sent ≠
        asciiBytes "SESSION 5a\r\nBANNER \r\nTHUMBPRINT_SHA2 PlainText\r\nPROXY \r\n" := by
  refine ⟨?_, ?_, ?_⟩
  · decide +kernel
  · decide +kernel
  · decide +kernel

end OpenVixDiskLib
