import Mathlib.Data.List.Forall2
import OpenVixDiskLib.Auth.Readline
import OpenVixDiskLib.Auth.Thumbprint

/-!
# The authd dialogue

`connect_authd` of `nfc_auth.py`: a TCP connection, the plaintext greeting, the TLS wrap, the check of
the peer's certificate, and four commands with three replies. `AuthdConn` is a connection on the way:
what the network and the operating system will do (`AuthdRoute`), the plaintext socket and the socket of
the TLS session.

The commands stand in one list (`authdCommands`), and so do the codes of their replies (`authdCodes`).
`Talked` says how far the talk has come, and every step of it extends that or stops the talk
(`authdTalk_talks`). `connectAuthd_outcome` says in which ways a run can end.
-/

set_option autoImplicit false
set_option relaxedAutoImplicit false

namespace OpenVixDiskLib

open Arrival (Quiet streamBytes)

/-! ### Tickets -/

/-- `vim.HostServiceTicket`, as far as the client reads it. -/
structure HostServiceTicket where
  host : String
  port : Option ℕ
  sslThumbprint : Option String
  service : Option String
  sessionId : String
deriving DecidableEq

def authdDefaultPort : ℕ := 902

/-- A text that counts as present: neither `None` nor empty. -/
def truthy (text : Option String) : Option String :=
  text.filter (· ≠ "")

/-- `ticket.port or AUTHD_DEFAULT_PORT`. -/
def HostServiceTicket.authdPort (ticket : HostServiceTicket) : ℕ :=
  (ticket.port.filter (· ≠ 0)).getD authdDefaultPort

/-- `nfcssl_service_name`. -/
def nfcsslServiceName (service : String) : String :=
  if "ssl".toList.isSuffixOf service.toList then service else s!"{service}ssl"

/-- The argument of `PROXY`. -/
def proxyService (ticket : HostServiceTicket) (nfcSsl : Bool) : String :=
  let service := (truthy ticket.service).getD "vpxa-nfc"
  if nfcSsl then nfcsslServiceName service else service

/-! ### The connection -/

/-- What the operating system and the network do on the way to an authd session, besides what they send.
`certificate` is what `getpeercert(True)` gives. -/
structure AuthdRoute where
  connect : Except PyError Unit
  context : Except PyError Unit
  wrap : Except PyError Unit
  certificate : Except PyError (Option Bytes)

/-- A connection to authd. `raw` owns its descriptor once it is connected and until it is wrapped, and
`authd` from then on. -/
structure AuthdConn where
  route : AuthdRoute
  raw : Sock
  authd : Sock
  connected : Bool
  wrapped : Bool

namespace AuthdConn

def rawPart : Proc.Part AuthdConn Sock where
  get := AuthdConn.raw
  set := fun sock conn ↦ { conn with raw := sock }

def authdPart : Proc.Part AuthdConn Sock where
  get := AuthdConn.authd
  set := fun sock conn ↦ { conn with authd := sock }

/-- `socket.create_connection`. -/
def createConnection : Py AuthdConn Unit := do
  let conn ← Proc.get
  Proc.lift conn.route.connect
  Proc.modify fun conn ↦ { conn with connected := true }

/-- `_ssl_client_context(verify=False)` and `wrap_socket`. A handshake that fails leaves the descriptor
with the plaintext socket. -/
def wrapSocket : Py AuthdConn Unit := do
  let conn ← Proc.get
  Proc.lift conn.route.context
  Proc.lift conn.route.wrap
  Proc.modify fun conn ↦ { conn with wrapped := true }

/-- `getpeercert(True)`. -/
def getpeercert : Py AuthdConn (Option Bytes) := do
  let conn ← Proc.get
  Proc.lift conn.route.certificate

theorem createConnection_of_error {conn : AuthdConn} {error : PyError}
    (hconnect : conn.route.connect = .error error) : createConnection conn = (.error error, conn) := by
  rw [createConnection, Proc.get_bind_apply, hconnect]
  rfl

theorem createConnection_of_ok {conn : AuthdConn} (hconnect : conn.route.connect = .ok ()) :
    createConnection conn = (.ok (), { conn with connected := true }) := by
  rw [createConnection, Proc.get_bind_apply, hconnect]
  rfl

theorem wrapSocket_of_ok {conn : AuthdConn} (hcontext : conn.route.context = .ok ())
    (hwrap : conn.route.wrap = .ok ()) : wrapSocket conn = (.ok (), { conn with wrapped := true }) := by
  rw [wrapSocket, Proc.get_bind_apply, hcontext, hwrap]
  rfl

end AuthdConn

/-! ### The dialogue -/

/-- The characters that `lstrip()` strips from a decoded line: it has no others than ASCII and U+FFFD. -/
def isSpace (char : Char) : Bool :=
  char.toNat ∈ [9, 10, 11, 12, 13, 28, 29, 30, 31, 32]

/-- `_expect_code`: what stands behind the code. -/
def expectCode (line code what : String) : Except PyError String :=
  if startsWith line code then
    .ok (String.ofList ((line.toList.drop code.length).dropWhile isSpace))
  else .error (connectionError s!"authd {what} failed: {line}")

/-- `_expect_code(_readline(ssock), code, what)`. -/
def expectReply (code what : String) : Py Sock String := do
  let line ← readline
  Proc.lift (expectCode line code what)

/-- The greeting and the TLS wrap. -/
def authdGreeting : Py AuthdConn Unit := do
  let banner ← Proc.zoom AuthdConn.rawPart readline
  Proc.raiseIf (¬ startsWith banner "220") (connectionError s!"unexpected authd banner: {banner}")
  AuthdConn.wrapSocket

/-- The check of the peer's certificate. -/
def checkCertificate (special : Char → List Char) (ticket : HostServiceTicket)
    (allowUntrusted : Bool) : Py AuthdConn Unit :=
  match allowUntrusted, truthy ticket.sslThumbprint with
  | false, some thumbprint => do
    let derCert ← AuthdConn.getpeercert
    Proc.raiseIf (derCert.getD [] = [])
      (connectionError s!"no peer certificate from {ticket.host}:{ticket.authdPort}")
    let peer := sha1Thumbprint (derCert.getD [])
    Proc.raiseIf (normalizeThumbprint special peer ≠ normalizeThumbprint special thumbprint)
      (connectionError s!"ESXi SSL thumbprint mismatch: got {peer}, expected {thumbprint}")
  | _, _ => pure ()

/-- The commands in the TLS session and their replies. -/
def authdTalk (ticket : HostServiceTicket) (nfcSsl : Bool) : Py Sock Unit := do
  let session ← Proc.lift (encodeAscii s!"SESSION {ticket.sessionId}\r\n")
  Sock.sendall session
  Sock.sendall (asciiBytes "BANNER \r\n")
  let _ ← expectReply "220" "BANNER"
  Sock.sendall (asciiBytes "THUMBPRINT_SHA2 PlainText\r\n")
  let _ ← expectReply "200" "THUMBPRINT_SHA2"
  let proxy ← Proc.lift (encodeAscii s!"PROXY {proxyService ticket nfcSsl}\r\n")
  Sock.sendall proxy
  let _ ← expectReply "200" "PROXY"

/-- The certificate check and the commands. -/
def authdLogin (special : Char → List Char) (ticket : HostServiceTicket)
    (allowUntrusted nfcSsl : Bool) : Py AuthdConn Unit := do
  checkCertificate special ticket allowUntrusted
  Proc.zoom AuthdConn.authdPart (authdTalk ticket nfcSsl)

/-- `connect_authd`. -/
def connectAuthd (special : Char → List Char) (ticket : HostServiceTicket)
    (allowUntrusted nfcSsl : Bool) : Py AuthdConn Unit := do
  AuthdConn.createConnection
  closeOnError AuthdConn.rawPart authdGreeting
  closeOnError AuthdConn.authdPart (authdLogin special ticket allowUntrusted nfcSsl)

/-! ### Replies -/

/-- A line that `_expect_code` accepts. -/
def Answers (code : String) (line : Bytes) : Prop :=
  IsLine line ∧ asciiBytes code <+: line

/-- The bytes are one accepted line for each of the codes. -/
def Answered (codes : List String) (bytes : Bytes) : Prop :=
  ∃ lines, List.Forall₂ Answers codes lines ∧ bytes = lines.flatten

theorem answered_nil : Answered [] [] :=
  ⟨[], .nil, rfl⟩

theorem Answered.concat {codes : List String} {bytes line : Bytes} {code : String}
    (hanswered : Answered codes bytes) (hanswers : Answers code line) :
    Answered (codes ++ [code]) (bytes ++ line) := by
  obtain ⟨lines, hlines, rfl⟩ := hanswered
  refine ⟨lines ++ [line], List.rel_append hlines (.cons hanswers .nil), ?_⟩
  rw [List.flatten_append, List.flatten_singleton]

/-- The first codes are answered by the first lines. -/
theorem Answered.take {codes : List String} {bytes : Bytes} (hanswered : Answered codes bytes)
    (count : ℕ) : ∃ first more, bytes = first ++ more ∧ Answered (codes.take count) first := by
  obtain ⟨lines, hlines, rfl⟩ := hanswered
  refine ⟨(lines.take count).flatten, (lines.drop count).flatten, ?_, _,
    List.forall₂_take count hlines, rfl⟩
  rw [← List.flatten_append, List.take_append_drop]

/-- The codes the client waits for are digits. -/
def IsCode (code : String) : Prop :=
  code = "220" ∨ code = "200"

theorem IsCode.startsWith_iff {code : String} {line : Bytes} (hcode : IsCode code) :
    startsWith (lineText line) code = true ↔ asciiBytes code <+: line := by
  have hnewline : ∀ first second third : Char, isNewline first = false → isNewline second = false →
      isNewline third = false → ∀ char ∈ [first, second, third], isNewline char = false := by
    intro first second third hfirst hsecond hthird
    rw [List.forall_mem_cons, List.forall_mem_cons, List.forall_mem_singleton]
    exact ⟨hfirst, hsecond, hthird⟩
  obtain rfl | rfl := hcode
  · exact startsWith_lineText (by decide) (hnewline '2' '2' '0' (by decide) (by decide) (by decide))
  · exact startsWith_lineText (by decide) (hnewline '2' '0' '0' (by decide) (by decide) (by decide))

/-! ### The certificate -/

/-- No certificate is asked for, or its SHA-1 thumbprint is the ticket's, apart from colons, spaces and
case. -/
def CertificatePasses (special : Char → List Char) (ticket : HostServiceTicket)
    (allowUntrusted : Bool) (certificate : Except PyError (Option Bytes)) : Prop :=
  allowUntrusted = false → ∀ thumbprint, truthy ticket.sslThumbprint = some thumbprint →
    ∃ derCert, certificate = .ok (some derCert) ∧ derCert ≠ [] ∧
      normalizeThumbprint special (sha1Thumbprint derCert) = normalizeThumbprint special thumbprint

variable {special : Char → List Char} {ticket : HostServiceTicket} {allowUntrusted nfcSsl : Bool}
  {conn after : AuthdConn}

/-- The check changes nothing, and returns exactly when the certificate passes. -/
theorem checkCertificate_apply (special : Char → List Char) (ticket : HostServiceTicket)
    (allowUntrusted : Bool) (conn : AuthdConn) :
    ∃ result, checkCertificate special ticket allowUntrusted conn = (result, conn) ∧
      (result = .ok () ↔
        CertificatePasses special ticket allowUntrusted conn.route.certificate) := by
  unfold checkCertificate CertificatePasses
  cases allowUntrusted with
  | true => exact ⟨.ok (), rfl, iff_of_true rfl fun h ↦ by cases h⟩
  | false =>
    rcases truthy ticket.sslThumbprint with _ | thumbprint
    · exact ⟨.ok (), rfl, iff_of_true rfl fun _ _ h ↦ by cases h⟩
    have hget : AuthdConn.getpeercert conn = (conn.route.certificate, conn) := rfl
    simp only [true_implies, Option.some.injEq, forall_eq']
    rcases hcertificate : conn.route.certificate with error | derCert
    · rw [hcertificate] at hget
      refine ⟨.error error, Proc.bind_of_error hget, iff_of_false (fun h ↦ by cases h) ?_⟩
      rintro ⟨derCert, h, -⟩
      cases h
    · rw [hcertificate] at hget
      rw [Proc.bind_of_ok hget]
      by_cases hempty : derCert.getD [] = []
      · rw [Proc.raiseIf_bind_of_pos hempty]
        refine ⟨_, rfl, iff_of_false (fun h ↦ by cases h) ?_⟩
        rintro ⟨derCert, h, hne, -⟩
        obtain rfl := Except.ok.inj h
        exact hne hempty
      · rw [Proc.raiseIf_bind_of_neg hempty, Proc.raiseIf_apply]
        obtain ⟨derCert, rfl⟩ : ∃ some', derCert = some some' := by
          rcases derCert with _ | derCert
          · exact absurd rfl hempty
          · exact ⟨derCert, rfl⟩
        refine ⟨_, rfl, ?_⟩
        rw [Option.getD_some] at hempty ⊢
        split_ifs with hother
        · refine iff_of_false (fun h ↦ by cases h) ?_
          rintro ⟨derCert', h, -, hsame⟩
          obtain rfl := Option.some.inj (Except.ok.inj h)
          exact hother hsame
        · exact iff_of_true rfl ⟨derCert, rfl, hempty, not_not.mp hother⟩

/-! ### The talk -/

/-- The commands of the client, in order. -/
def authdCommands (ticket : HostServiceTicket) (nfcSsl : Bool) : List String :=
  [s!"SESSION {ticket.sessionId}\r\n", "BANNER \r\n", "THUMBPRINT_SHA2 PlainText\r\n",
    s!"PROXY {proxyService ticket nfcSsl}\r\n"]

/-- The codes of the replies to all commands but the first. -/
def authdCodes : List String :=
  ["220", "200", "200"]

/-- Since `start` the first `count` commands have been sent and the first `replies` replies accepted. -/
def Talked (ticket : HostServiceTicket) (nfcSsl : Bool) (start : Sock) (count replies : ℕ)
    (sock : Sock) : Prop :=
  ∃ taken, Answered (authdCodes.take replies) taken ∧
    start.Exchanged (((authdCommands ticket nfcSsl).take count).flatMap asciiBytes) taken sock

/-- The talk has raised after `count` commands: every command before the last of them was answered. -/
def TalkStopped (ticket : HostServiceTicket) (nfcSsl : Bool) (start sock : Sock) : Prop :=
  ∃ count taken more, Answered (authdCodes.take (count - 2)) taken ∧
    start.Exchanged (((authdCommands ticket nfcSsl).take count).flatMap asciiBytes) (taken ++ more) sock

section Talk

variable {start sock : Sock} {count replies : ℕ} {command code what : String}

theorem talked_nil (start : Sock) : Talked ticket nfcSsl start 0 0 start :=
  ⟨[], answered_nil, .of_took (.refl start)⟩

theorem Talked.took {after : Sock} {taken : Bytes}
    (htalked : Talked ticket nfcSsl start count replies sock) (htook : sock.Took taken after)
    (hreplies : count - 2 ≤ replies) : TalkStopped ticket nfcSsl start after := by
  obtain ⟨replied, hanswered, hexchange⟩ := htalked
  obtain ⟨first, more, rfl, hfirst⟩ := hanswered.take (count - 2)
  rw [List.take_take, Nat.min_eq_left hreplies] at hfirst
  have hwhole := hexchange.trans (.of_took htook)
  rw [List.append_nil, List.append_assoc] at hwhole
  exact ⟨count, first, _, hfirst, hwhole⟩

/-- The next command is sent, or the talk stops before it. -/
theorem talk_sends (hnext : (authdCommands ticket nfcSsl)[count]? = some command)
    (hreplies : count - 2 ≤ replies) :
    Proc.Triple (Talked ticket nfcSsl start count replies) (Sock.sendall (asciiBytes command))
      (fun _ ↦ Talked ticket nfcSsl start (count + 1) replies)
      (fun _ ↦ TalkStopped ticket nfcSsl start) := by
  intro sock htalked
  rcases hsend : Sock.sendall (asciiBytes command) sock with ⟨error | ⟨⟨⟩⟩, after⟩
  · obtain rfl := Sock.sendall_error hsend
    exact htalked.took (.refl _) hreplies
  · obtain ⟨taken, hanswered, hexchange⟩ := htalked
    have hwhole := hexchange.trans (Sock.sendall_ok hsend)
    have hcommands : ((authdCommands ticket nfcSsl).take (count + 1)).flatMap asciiBytes =
        ((authdCommands ticket nfcSsl).take count).flatMap asciiBytes ++ asciiBytes command := by
      rw [List.take_add_one, hnext, Option.toList_some, List.flatMap_append, List.flatMap_singleton]
    rw [← hcommands, List.append_nil] at hwhole
    exact ⟨taken, hanswered, hwhole⟩

/-- A reply is accepted, or the talk stops at it. -/
theorem talk_expects (hnext : authdCodes[replies]? = some code) (hcode : IsCode code)
    (hcount : count - 2 ≤ replies) :
    Proc.Triple (Talked ticket nfcSsl start count replies) (expectReply code what)
      (fun _ ↦ Talked ticket nfcSsl start count (replies + 1))
      (fun _ ↦ TalkStopped ticket nfcSsl start) := by
  intro sock htalked
  rw [expectReply]
  rcases hrun : readline sock with ⟨error | text, after⟩
  · rw [Proc.bind_of_error hrun]
    have htook := readline_took sock
    rw [hrun] at htook
    obtain ⟨taken, htook⟩ := htook
    exact htalked.took htook hcount
  · rw [Proc.bind_of_ok hrun, Proc.lift_apply, expectCode]
    obtain ⟨line, hline, htook, rfl⟩ := readline_ok hrun
    split_ifs with haccepted
    · obtain ⟨taken, hanswered, hexchange⟩ := htalked
      have hwhole := hexchange.trans (.of_took htook)
      rw [List.append_nil] at hwhole
      refine ⟨taken ++ line, ?_, hwhole⟩
      rw [List.take_add_one, hnext, Option.toList_some]
      exact hanswered.concat ⟨hline, hcode.startsWith_iff.mp haccepted⟩
    · exact htalked.took htook hcount

end Talk

/-- The ticket's texts are ASCII, and so are the commands. -/
structure AsciiTicket (ticket : HostServiceTicket) : Prop where
  sessionId : IsAscii ticket.sessionId
  service : ∀ service, ticket.service = some service → IsAscii service

theorem isAscii_append {first second : String} (hfirst : IsAscii first) (hsecond : IsAscii second) :
    IsAscii (first ++ second) := by
  intro char hchar
  rw [String.toList_append, List.mem_append] at hchar
  exact hchar.elim (hfirst char) (hsecond char)

theorem AsciiTicket.proxyService (hascii : AsciiTicket ticket) (nfcSsl : Bool) :
    IsAscii (proxyService ticket nfcSsl) := by
  have hservice : IsAscii ((truthy ticket.service).getD "vpxa-nfc") := by
    rcases hservice : truthy ticket.service with _ | service
    · show IsAscii "vpxa-nfc"
      decide
    · exact hascii.service service (Option.filter_eq_some_iff.mp hservice).1
  rw [OpenVixDiskLib.proxyService]
  cases nfcSsl with
  | false => exact hservice
  | true =>
    simp only [if_true, nfcsslServiceName]
    split_ifs
    · exact hservice
    · exact isAscii_append (isAscii_append (show IsAscii "" by decide) hservice)
        (show IsAscii "ssl" by decide)

theorem AsciiTicket.encode_session (hascii : AsciiTicket ticket) :
    encodeAscii s!"SESSION {ticket.sessionId}\r\n" =
      .ok (asciiBytes s!"SESSION {ticket.sessionId}\r\n") :=
  encodeAscii_of_isAscii (isAscii_append (isAscii_append (show IsAscii "SESSION " by decide)
    hascii.sessionId) (show IsAscii "\r\n" by decide))

theorem AsciiTicket.encode_proxy (hascii : AsciiTicket ticket) (nfcSsl : Bool) :
    encodeAscii s!"PROXY {OpenVixDiskLib.proxyService ticket nfcSsl}\r\n" =
      .ok (asciiBytes s!"PROXY {OpenVixDiskLib.proxyService ticket nfcSsl}\r\n") :=
  encodeAscii_of_isAscii (isAscii_append (isAscii_append (show IsAscii "PROXY " by decide)
    (hascii.proxyService nfcSsl)) (show IsAscii "\r\n" by decide))

/-- The talk sends every command and receives every reply, or stops on the way. -/
theorem authdTalk_talks (hascii : AsciiTicket ticket) (nfcSsl : Bool) (start : Sock) :
    Proc.Triple (Talked ticket nfcSsl start 0 0) (authdTalk ticket nfcSsl)
      (fun _ ↦ Talked ticket nfcSsl start 4 3) (fun _ ↦ TalkStopped ticket nfcSsl start) := by
  unfold authdTalk
  rw [hascii.encode_session]
  refine .lift_bind_ok (.bind (talk_sends rfl (by decide)) fun _ ↦ ?_)
  refine .bind (talk_sends rfl (by decide)) fun _ ↦ ?_
  refine .bind (talk_expects rfl (.inl rfl) (by decide)) fun _ ↦ ?_
  refine .bind (talk_sends rfl (by decide)) fun _ ↦ ?_
  refine .bind (talk_expects rfl (.inr rfl) (by decide)) fun _ ↦ ?_
  rw [hascii.encode_proxy]
  refine .lift_bind_ok (.bind (talk_sends rfl (by decide)) fun _ ↦ ?_)
  refine .bind (talk_expects rfl (.inr rfl) (by decide)) fun _ ↦ ?_
  exact fun _ htalked ↦ htalked

/-- A reply that is on the stream is accepted. -/
theorem expectReply_of_answers {code : String} {line rest : Bytes} {sock : Sock} (what : String)
    (hcode : IsCode code) (hanswers : Answers code line) (hholds : sock.Holds (line ++ rest)) :
    ∃ text after, expectReply code what sock = (.ok text, after) ∧ sock.Took line after := by
  obtain ⟨after, hrun, htook⟩ := readline_of_line hanswers.1 hholds
  obtain ⟨text, haccepted⟩ : ∃ text, expectCode (lineText line) code what = .ok text :=
    ⟨_, if_pos (hcode.startsWith_iff.mpr hanswers.2)⟩
  refine ⟨text, after, ?_, htook⟩
  rw [expectReply, Proc.bind_of_ok hrun, Proc.lift_apply, haccepted]

/-- The talk returns when the replies are on the stream and sends succeed. -/
theorem authdTalk_of_answered {start : Sock} {replies rest : Bytes} (hascii : AsciiTicket ticket)
    (nfcSsl : Bool) (hsends : start.Sends) (hanswered : Answered authdCodes replies)
    (hholds : start.Holds (replies ++ rest)) :
    ∃ after, authdTalk ticket nfcSsl start = (.ok (), after) := by
  obtain ⟨lines, hlines, rfl⟩ := hanswered
  obtain ⟨banner, rest₁, hbanner, htail₁, rfl⟩ := List.forall₂_cons_left_iff.mp hlines
  obtain ⟨thumbprint, rest₂, hthumbprint, htail₂, rfl⟩ := List.forall₂_cons_left_iff.mp htail₁
  obtain ⟨proxy, rest₃, hproxy, htail₃, rfl⟩ := List.forall₂_cons_left_iff.mp htail₂
  obtain rfl := List.forall₂_nil_left_iff.mp htail₃
  simp only [List.flatten_cons, List.flatten_nil, List.append_nil, List.append_assoc] at hholds
  have hsends₁ := (hsends.afterSend (asciiBytes s!"SESSION {ticket.sessionId}\r\n")).afterSend
    (asciiBytes "BANNER \r\n")
  obtain ⟨_, first, hfirst, htook₁⟩ := expectReply_of_answers "BANNER" (.inl rfl) hbanner
    ((hholds.afterSend (asciiBytes s!"SESSION {ticket.sessionId}\r\n")).afterSend
      (asciiBytes "BANNER \r\n"))
  have hholds₁ := htook₁.holds ((hholds.afterSend _).afterSend _)
  have hsends₂ := (htook₁.sends hsends₁).afterSend (asciiBytes "THUMBPRINT_SHA2 PlainText\r\n")
  obtain ⟨_, second, hsecond, htook₂⟩ := expectReply_of_answers "THUMBPRINT_SHA2" (.inr rfl)
    hthumbprint (hholds₁.afterSend (asciiBytes "THUMBPRINT_SHA2 PlainText\r\n"))
  have hholds₂ := htook₂.holds (hholds₁.afterSend _)
  obtain ⟨_, third, hthird, -⟩ := expectReply_of_answers "PROXY" (.inr rfl) hproxy
    (hholds₂.afterSend (asciiBytes s!"PROXY {proxyService ticket nfcSsl}\r\n"))
  refine ⟨third, ?_⟩
  rw [authdTalk, hascii.encode_session, Proc.lift_bind_of_ok rfl,
    Proc.bind_of_ok (Sock.sendall_of_sends hsends _),
    Proc.bind_of_ok (Sock.sendall_of_sends (hsends.afterSend _) _), Proc.bind_of_ok hfirst,
    Proc.bind_of_ok (Sock.sendall_of_sends (htook₁.sends hsends₁) _), Proc.bind_of_ok hsecond,
    hascii.encode_proxy, Proc.lift_bind_of_ok rfl,
    Proc.bind_of_ok (Sock.sendall_of_sends (htook₂.sends hsends₂) _), Proc.bind_of_ok hthird]
  rfl

/-! ### The greeting -/

/-- A greeting that returns has taken one accepted line and wrapped the socket. -/
theorem authdGreeting_ok (h : authdGreeting conn = (.ok (), after)) :
    ∃ banner raw, Answers "220" banner ∧ conn.raw.Took banner raw ∧
      after = { conn with raw := raw, wrapped := true } := by
  unfold authdGreeting at h
  rw [Proc.bind_eq_ok] at h
  obtain ⟨text, read, hread, h⟩ := h
  obtain ⟨raw, hrun, rfl⟩ := Proc.zoom_eq_ok.mp hread
  obtain ⟨line, hline, htook, rfl⟩ := readline_ok hrun
  rw [Proc.raiseIf_bind_eq_ok, not_not] at h
  obtain ⟨haccepted, h⟩ := h
  refine ⟨line, raw, ⟨hline, (IsCode.startsWith_iff (.inl rfl)).mp haccepted⟩, htook, ?_⟩
  rw [AuthdConn.wrapSocket, Proc.get_bind_apply, Proc.lift_bind_eq_ok] at h
  obtain ⟨⟨⟩, -, h⟩ := h
  rw [Proc.lift_bind_eq_ok] at h
  obtain ⟨⟨⟩, -, h⟩ := h
  exact (Prod.mk.inj h).2.symm

/-- A greeting that raises has received, and neither sent anything nor wrapped the socket. -/
theorem authdGreeting_error {error : PyError} (h : authdGreeting conn = (.error error, after)) :
    ∃ taken raw, conn.raw.Took taken raw ∧ after = { conn with raw := raw } := by
  unfold authdGreeting at h
  have htook := readline_took conn.raw
  rw [Proc.bind_eq_error] at h
  obtain hread | ⟨text, read, hread, h⟩ := h
  · obtain ⟨raw, hrun, rfl⟩ := Proc.zoom_eq_error.mp hread
    change readline conn.raw = _ at hrun
    rw [hrun] at htook
    obtain ⟨taken, htook⟩ := htook
    exact ⟨taken, raw, htook, rfl⟩
  · obtain ⟨raw, hrun, rfl⟩ := Proc.zoom_eq_ok.mp hread
    change readline conn.raw = _ at hrun
    rw [hrun] at htook
    obtain ⟨taken, htook⟩ := htook
    refine ⟨taken, raw, htook, ?_⟩
    rw [Proc.raiseIf_bind_eq_error, AuthdConn.wrapSocket, Proc.get_bind_apply,
      Proc.lift_bind_eq_error] at h
    obtain ⟨-, -, rfl⟩ | ⟨-, ⟨-, rfl⟩ | ⟨⟨⟩, -, h⟩⟩ := h
    · rfl
    · rfl
    · rw [Proc.lift_bind_eq_error] at h
      obtain ⟨-, rfl⟩ | ⟨⟨⟩, -, h⟩ := h
      · rfl
      · cases h

/-- A greeting whose line is on the stream and whose TLS handshake succeeds returns. -/
theorem authdGreeting_of_answers {banner rest : Bytes} (hbanner : Answers "220" banner)
    (hholds : conn.raw.Holds (banner ++ rest)) (hcontext : conn.route.context = .ok ())
    (hwrap : conn.route.wrap = .ok ()) :
    ∃ raw, authdGreeting conn = (.ok (), { conn with raw := raw, wrapped := true }) := by
  obtain ⟨raw, hrun, -⟩ := readline_of_line hbanner.1 hholds
  have haccepted : startsWith (lineText banner) "220" = true :=
    (IsCode.startsWith_iff (.inl rfl)).mpr hbanner.2
  refine ⟨raw, ?_⟩
  rw [authdGreeting, Proc.bind_of_ok (Proc.zoom_of_eq AuthdConn.rawPart hrun),
    Proc.raiseIf_bind_of_neg (not_not.mpr haccepted)]
  refine AuthdConn.wrapSocket_of_ok ?_ ?_
  · exact hcontext
  · exact hwrap

/-! ### The whole connection -/

/-- How `connect_authd` ends: the TCP connection fails, the greeting does, the certificate does not pass,
the talk stops, or the talk is over. -/
inductive AuthdOutcome (special : Char → List Char) (ticket : HostServiceTicket)
    (allowUntrusted nfcSsl : Bool) (conn : AuthdConn) : Except PyError Unit → AuthdConn → Prop
  | refused {error : PyError} :
      AuthdOutcome special ticket allowUntrusted nfcSsl conn (.error error) conn
  | ungreeted {error : PyError} {taken : Bytes} {raw : Sock} (htook : conn.raw.Took taken raw) :
      AuthdOutcome special ticket allowUntrusted nfcSsl conn (.error error)
        { conn with raw := { raw with closed := true }, connected := true }
  | untrusted {error : PyError} {banner : Bytes} {raw : Sock} (hbanner : Answers "220" banner)
      (htook : conn.raw.Took banner raw)
      (hfails : ¬ CertificatePasses special ticket allowUntrusted conn.route.certificate) :
      AuthdOutcome special ticket allowUntrusted nfcSsl conn (.error error)
        { conn with
          raw := raw, authd := { conn.authd with closed := true }, connected := true, wrapped := true }
  | stopped {error raised : PyError} {banner : Bytes} {raw authd : Sock}
      (hbanner : Answers "220" banner) (htook : conn.raw.Took banner raw)
      (hpasses : CertificatePasses special ticket allowUntrusted conn.route.certificate)
      (htalk : authdTalk ticket nfcSsl conn.authd = (.error raised, authd)) :
      AuthdOutcome special ticket allowUntrusted nfcSsl conn (.error error)
        { conn with
          raw := raw, authd := { authd with closed := true }, connected := true, wrapped := true }
  | done {banner : Bytes} {raw authd : Sock} (hbanner : Answers "220" banner)
      (htook : conn.raw.Took banner raw)
      (hpasses : CertificatePasses special ticket allowUntrusted conn.route.certificate)
      (htalk : authdTalk ticket nfcSsl conn.authd = (.ok (), authd)) :
      AuthdOutcome special ticket allowUntrusted nfcSsl conn (.ok ())
        { conn with raw := raw, authd := authd, connected := true, wrapped := true }

/-- Every run of `connect_authd` ends in one of these ways. -/
theorem connectAuthd_outcome (special : Char → List Char) (ticket : HostServiceTicket)
    (allowUntrusted nfcSsl : Bool) (conn : AuthdConn) :
    AuthdOutcome special ticket allowUntrusted nfcSsl conn
      (connectAuthd special ticket allowUntrusted nfcSsl conn).1
      (connectAuthd special ticket allowUntrusted nfcSsl conn).2 := by
  rw [connectAuthd]
  rcases hconnect : conn.route.connect with error | ⟨⟨⟩⟩
  · rw [Proc.bind_of_error (AuthdConn.createConnection_of_error hconnect)]
    exact .refused
  rw [Proc.bind_of_ok (AuthdConn.createConnection_of_ok hconnect)]
  rcases hgreeting : authdGreeting { conn with connected := true } with ⟨error | ⟨⟨⟩⟩, greeted⟩
  · obtain ⟨taken, raw, htook, rfl⟩ := authdGreeting_error hgreeting
    obtain ⟨raised, hclose⟩ := @closeOnError_of_error _ _ AuthdConn.rawPart _ _ _ _ hgreeting
    rw [Proc.bind_of_error hclose]
    exact .ungreeted htook
  obtain ⟨banner, raw, hbanner, htook, rfl⟩ := authdGreeting_ok hgreeting
  rw [Proc.bind_of_ok (closeOnError_of_ok hgreeting)]
  obtain ⟨result, hcheck, hpasses⟩ := checkCertificate_apply special ticket allowUntrusted
    { conn with raw := raw, connected := true, wrapped := true }
  rcases result with error | ⟨⟨⟩⟩
  · have hlogin : authdLogin special ticket allowUntrusted nfcSsl
        { conn with raw := raw, connected := true, wrapped := true } = (.error error, _) :=
      Proc.bind_of_error hcheck
    obtain ⟨raised, hclose⟩ := @closeOnError_of_error _ _ AuthdConn.authdPart _ _ _ _ hlogin
    rw [hclose]
    refine .untrusted hbanner htook fun h ↦ ?_
    cases hpasses.mpr h
  have hpassed := hpasses.mp rfl
  rcases htalk : authdTalk ticket nfcSsl conn.authd with ⟨error | ⟨⟨⟩⟩, authd⟩
  · have hlogin : authdLogin special ticket allowUntrusted nfcSsl
        { conn with raw := raw, connected := true, wrapped := true } = (.error error, _) :=
      (Proc.bind_of_ok hcheck).trans (Proc.zoom_of_eq AuthdConn.authdPart htalk)
    obtain ⟨raised, hclose⟩ := @closeOnError_of_error _ _ AuthdConn.authdPart _ _ _ _ hlogin
    rw [hclose]
    exact .stopped hbanner htook hpassed htalk
  · have hlogin : authdLogin special ticket allowUntrusted nfcSsl
        { conn with raw := raw, connected := true, wrapped := true } = (.ok (), _) :=
      (Proc.bind_of_ok hcheck).trans (Proc.zoom_of_eq AuthdConn.authdPart htalk)
    rw [closeOnError_of_ok hlogin]
    exact .done hbanner htook hpassed htalk

end OpenVixDiskLib
