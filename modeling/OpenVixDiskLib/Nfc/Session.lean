import OpenVixDiskLib.Nfc.Open

/-!
# What a session emits, step by step

The client sends whole messages: classic 264-byte messages, the connection data with its two raw strings,
and AIO messages with the extra behind them (`Token`). `Sock.Emitted` and `NfcDisk.Emitted` say which of
them a step has sent since a starting point. When a step raises, it has sent a first part of what it
would have sent, and what it raises on a connection without timeouts is a protocol error (`Stopped`).

There is one triple for each step: the handshake (`handshake_emits`), an AIO round trip
(`aioRoundtrip_emits`), the opening (`openFile_emits`, `openDisk_emits`) and the close
(`close_emits`).
-/

set_option autoImplicit false
set_option relaxedAutoImplicit false

namespace OpenVixDiskLib

open NfcDisk
open Arrival (Quiet streamBytes)

/-- The procedure returned, or raised a protocol error. -/
def ProtocolErrorsOnly {α : Type} (result : Except PyError α) : Prop :=
  ∀ error, result = .error error → error.kind = .nfcProtocolError

/-! ### Tokens -/

/-- A message the client sends, as a whole. -/
inductive Token
  | classic (msgType : ℕ) (body : Bytes)
  | connection (clientName opId : Bytes)
  | aio (msgType opId : ℕ) (payload extra : Bytes)
deriving DecidableEq

/-- The two lengths in the connection data. -/
def connectionLengths (clientName opId : Bytes) : Bytes :=
  [Field.I clientName.length, Field.I opId.length].flatMap Field.bytes

def Token.bytes : Token → Bytes
  | .classic msgType body => nfcMessage msgType body
  | .connection clientName opId =>
    nfcMessage nfcMsgConnectionData (connectionLengths clientName opId) ++ clientName ++ opId
  | .aio msgType opId payload extra => aioMessage msgType opId payload ++ extra

/-- The bytes of some tokens, one behind the other. -/
def tokenBytes (tokens : List Token) : Bytes :=
  tokens.flatMap Token.bytes

theorem tokenBytes_append (first second : List Token) :
    tokenBytes (first ++ second) = tokenBytes first ++ tokenBytes second :=
  List.flatMap_append

theorem tokenBytes_singleton (token : Token) : tokenBytes [token] = token.bytes :=
  List.flatMap_singleton _ _

theorem tokenBytes_take_succ {planned : List Token} {count : ℕ} {token : Token}
    (hnext : planned[count]? = some token) :
    tokenBytes (planned.take (count + 1)) = tokenBytes (planned.take count) ++ token.bytes := by
  rw [List.take_add_one, hnext, Option.toList_some, tokenBytes_append, tokenBytes_singleton]

/-! ### On the socket -/

/-- The socket has sent these tokens since `start`, and received something. -/
def Sock.Emitted (start : Sock) (tokens : List Token) (sock : Sock) : Prop :=
  ∃ reply, start.Exchanged (tokenBytes tokens) reply sock

/-- A step that would have sent `planned` has raised: it has sent the first of them, and on a connection
without timeouts it raised a protocol error. -/
def Sock.Stopped (start : Sock) (planned : List Token) (error : PyError) (sock : Sock) : Prop :=
  (Quiet start.inbox → error.kind = .nfcProtocolError) ∧
    ∃ count, start.Emitted (planned.take count) sock

section OnSock

variable {start : Sock} {tokens planned : List Token} {count : ℕ}

theorem Sock.emitted_nil (start : Sock) : start.Emitted [] start :=
  ⟨[], .of_took (Sock.Took.refl start)⟩

/-- A received reply adds nothing to what was sent. -/
theorem Sock.Emitted.took {sock after : Sock} {taken : Bytes} (hemitted : start.Emitted tokens sock)
    (htook : sock.Took taken after) : start.Emitted tokens after := by
  obtain ⟨reply, hexchange⟩ := hemitted
  have hwhole := hexchange.trans (.of_took htook)
  rw [List.append_nil] at hwhole
  exact ⟨_, hwhole⟩

/-- A step that stopped would have sent more, too. -/
theorem Sock.Stopped.append {error : PyError} {sock : Sock} (hstopped : start.Stopped tokens error sock)
    (more : List Token) : start.Stopped (tokens ++ more) error sock := by
  obtain ⟨hkind, count, hemitted⟩ := hstopped
  refine ⟨hkind, min count tokens.length, ?_⟩
  rw [List.take_append_of_le_length (Nat.min_le_right _ _), ← List.take_eq_take_min]
  exact hemitted

/-- A receive of an emitting socket that raises stops the step. -/
theorem Sock.Emitted.stopped {sock after : Sock} {size : ℕ} {error : PyError}
    (hsends : start.Sends) (hemitted : start.Emitted (planned.take count) sock)
    (h : recvn size sock = (.error error, after)) : start.Stopped planned error after := by
  obtain ⟨taken, -, htook, -⟩ := recvn_error h
  refine ⟨fun hquiet ↦ ?_, count, hemitted.took htook⟩
  obtain ⟨reply, hexchange⟩ := hemitted
  exact recvn_calm_error (hexchange.closed_eq.trans hsends.1) (hexchange.quiet hquiet) h

/-- A send of the next token. -/
theorem sendall_emits {token : Token} (hsends : start.Sends) (hnext : planned[count]? = some token)
    {raised : PyError → Sock → Prop} :
    Proc.Triple (start.Emitted (planned.take count)) (Sock.sendall token.bytes)
      (fun _ ↦ start.Emitted (planned.take (count + 1))) raised := by
  rintro sock ⟨reply, hexchange⟩
  have hsend := Sock.sendall_of_sends (hexchange.sends hsends) token.bytes
  have hwhole := hexchange.trans (Sock.sendall_ok hsend)
  rw [← tokenBytes_take_succ hnext] at hwhole
  rw [hsend]
  exact ⟨_, hwhole⟩

theorem sendNfcMsg_emits {msgType : ℕ} {body : Bytes} (hsends : start.Sends)
    (hnext : planned[count]? = some (.classic msgType body)) (hmsgType : msgType < 2 ^ 32)
    (hbody : body.length ≤ nfcMsgSize - 4) {raised : PyError → Sock → Prop} :
    Proc.Triple (start.Emitted (planned.take count)) (sendNfcMsg msgType body)
      (fun _ ↦ start.Emitted (planned.take (count + 1))) raised := by
  intro sock hemitted
  have hsend := @sendall_emits _ _ _ _ hsends hnext raised sock hemitted
  obtain ⟨reply, hexchange⟩ := hemitted
  rw [Sock.sendall_of_sends (hexchange.sends hsends)] at hsend
  rw [sendNfcMsg_of_sends hmsgType hbody (hexchange.sends hsends)]
  exact hsend

/-- The connection data and its two strings are sent one behind the other. -/
theorem sendConnection_emits {α : Type} {clientName opId : Bytes} {rest : Py Sock α}
    {post : α → Sock → Prop} {raised : PyError → Sock → Prop} (hsends : start.Sends)
    (hnext : planned[count]? = some (.connection clientName opId))
    (hrest : Proc.Triple (start.Emitted (planned.take (count + 1))) rest post raised) :
    Proc.Triple (start.Emitted (planned.take count))
      (sendNfcMsg nfcMsgConnectionData (connectionLengths clientName opId) >>= fun _ ↦
        Sock.sendall clientName >>= fun _ ↦ Sock.sendall opId >>= fun _ ↦ rest) post raised := by
  have hlengths : (connectionLengths clientName opId).length ≤ nfcMsgSize - 4 := by
    rw [connectionLengths, List.flatMap_cons, List.flatMap_singleton, List.length_append,
      Field.length_bytes, Field.length_bytes]
    exact show 8 ≤ 260 by decide
  rintro sock ⟨reply, hexchange⟩
  have hsends' := hexchange.sends hsends
  have hsent := hexchange.trans (Sock.sendall_ok (Sock.sendall_of_sends hsends'
    (Token.connection clientName opId).bytes))
  rw [← tokenBytes_take_succ hnext, Token.bytes] at hsent
  rw [Proc.bind_of_ok (sendNfcMsg_of_sends (by decide) hlengths hsends'),
    Proc.bind_of_ok (Sock.sendall_of_sends (hsends'.afterSend _) _),
    Proc.bind_of_ok (Sock.sendall_of_sends ((hsends'.afterSend _).afterSend _) _),
    Sock.afterSend_afterSend, Sock.afterSend_afterSend, ← List.append_assoc]
  exact hrest _ ⟨_, hsent⟩

theorem recvNfcMsg_emits (hsends : start.Sends) :
    Proc.Triple (start.Emitted (planned.take count)) recvNfcMsg
      (fun reply sock ↦ 4 ≤ reply.2.length ∧ start.Emitted (planned.take count) sock)
      (start.Stopped planned) := by
  intro sock hemitted
  rw [recvNfcMsg]
  rcases hrecv : recvn nfcMsgSize sock with ⟨error | frame, after⟩
  · rw [Proc.bind_of_error hrecv]
    exact hemitted.stopped hsends hrecv
  · rw [Proc.bind_of_ok hrecv]
    have hok := recvn_ok hrecv
    have hlength : 8 ≤ frame.length := hok.1.symm ▸ show 8 ≤ nfcMsgSize by decide
    obtain ⟨msgType, hmsgType⟩ : ∃ msgType, unpackI frame 0 = .ok msgType :=
      unpackField_of_le (by omega)
    rw [Proc.lift_bind_of_ok hmsgType]
    refine ⟨?_, hemitted.took hok.2⟩
    rw [List.length_drop]
    omega

/-- A check that fails with a protocol error stops the step. -/
theorem raiseIf_emits (condition : Prop) [Decidable condition] (message : String) :
    Proc.Triple (start.Emitted (planned.take count))
      (Proc.raiseIf condition (nfcProtocolError message))
      (fun _ ↦ start.Emitted (planned.take count)) (start.Stopped planned) :=
  Proc.Triple.raiseIf (fun _ _ hemitted ↦ ⟨fun _ ↦ rfl, count, hemitted⟩)
    fun _ _ hemitted ↦ hemitted

end OnSock

/-! ### The handshake -/

-- A triple unfolds to runs of its procedure, and this one receives 264 bytes when it is evaluated.
attribute [local irreducible] recvNfcMsg

/-- The messages of the handshake. -/
def handshakeTokens (clientName opId : String) (version : ℤ) : List Token :=
  [.classic nfcMsgHandshake plainText, .classic nfcMsgSessionParams [],
    .classic nfcMsgVersion ([Field.I version].flatMap Field.bytes),
    .connection (asciiBytes clientName) (asciiBytes opId),
    .classic nfcMsgSessionFeatures
      ([Field.I nfcSessionFeatureInterruptionSwitch].flatMap Field.bytes),
    .classic nfcMsgAioSessionOpen []]

/-- The strings and the version of the handshake fit their messages. -/
structure HandshakeFits (clientName opId : String) (version : ℤ) : Prop where
  clientName_ascii : IsAscii clientName
  opId_ascii : IsAscii opId
  version_fits : (Field.I version).Fits
  clientName_lt : (asciiBytes clientName).length < 2 ^ 32
  opId_lt : (asciiBytes opId).length < 2 ^ 32

/-- A run of the handshake sends its messages in order, or raises on the way. -/
theorem handshake_emits {start : Sock} {clientName opId : String} {version : ℤ}
    (hsends : start.Sends) (hfits : HandshakeFits clientName opId version) :
    Proc.Triple (start.Emitted []) (handshake clientName opId version)
      (fun _ ↦ start.Emitted (handshakeTokens clientName opId version))
      (start.Stopped (handshakeTokens clientName opId version)) := by
  have hversion : pack [.I version] = .ok ([Field.I version].flatMap Field.bytes) :=
    pack_of_fits (List.forall_mem_singleton.mpr hfits.version_fits)
  have hlengths : pack [.I (asciiBytes clientName).length, .I (asciiBytes opId).length] =
      .ok (connectionLengths (asciiBytes clientName) (asciiBytes opId)) := by
    refine pack_of_fits ?_
    rw [List.forall_mem_cons, List.forall_mem_singleton]
    exact ⟨Field.fits_I.mpr hfits.clientName_lt, Field.fits_I.mpr hfits.opId_lt⟩
  have hfeatures : pack [.I nfcSessionFeatureInterruptionSwitch] =
      .ok ([Field.I nfcSessionFeatureInterruptionSwitch].flatMap Field.bytes) :=
    pack_of_fits (List.forall_mem_singleton.mpr (by decide))
  have hfield : ∀ value : ℤ, ([Field.I value].flatMap Field.bytes).length ≤ nfcMsgSize - 4 := by
    intro value
    rw [List.flatMap_singleton, Field.length_bytes]
    exact show 4 ≤ 260 by decide
  generalize hplanned : handshakeTokens clientName opId version = planned
  have hnext : ∀ (count : ℕ) (token : Token),
      (handshakeTokens clientName opId version)[count]? = some token →
        planned[count]? = some token := fun count token hget ↦ hplanned ▸ hget
  have hwhole : planned.take 6 = planned := by
    rw [← hplanned]
    rfl
  unfold handshake
  refine .bind (sendNfcMsg_emits hsends (hnext 0 _ rfl) (by decide) (by decide)) fun _ ↦ ?_
  refine .bind (sendNfcMsg_emits hsends (hnext 1 _ rfl) (by decide) (Nat.zero_le _)) fun _ ↦ ?_
  refine .bind (recvNfcMsg_emits hsends) fun (replyType, _) ↦ ?_
  refine .bind ((raiseIf_emits _ _).conseq (fun _ h ↦ h.2) (fun _ _ h ↦ h) fun _ _ h ↦ h)
    fun _ ↦ ?_
  rw [hversion]
  refine .lift_bind_ok ?_
  refine .bind (sendNfcMsg_emits hsends (hnext 2 _ rfl) (by decide) (hfield _)) fun _ ↦ ?_
  refine .bind (recvNfcMsg_emits hsends) fun (replyType, body) ↦ ?_
  refine .assume fun hbody ↦ ?_
  obtain ⟨remoteVersion, hremote⟩ : ∃ remoteVersion, unpackI body 0 = .ok remoteVersion :=
    unpackField_of_le hbody
  refine .bind (raiseIf_emits _ _) fun _ ↦ ?_
  rw [hremote, encodeAscii_of_isAscii hfits.clientName_ascii, encodeAscii_of_isAscii hfits.opId_ascii]
  refine .lift_bind_ok ?_
  refine .bind (raiseIf_emits _ _) fun _ ↦ ?_
  refine .lift_bind_ok (.lift_bind_ok ?_)
  rw [hlengths]
  refine .lift_bind_ok ?_
  refine sendConnection_emits hsends (hnext 3 _ rfl) ?_
  rw [hfeatures]
  refine .lift_bind_ok ?_
  refine .bind (sendNfcMsg_emits hsends (hnext 4 _ rfl) (by decide) (hfield _)) fun _ ↦ ?_
  refine .bind (sendNfcMsg_emits hsends (hnext 5 _ rfl) (by decide) (Nat.zero_le _)) fun _ ↦ ?_
  refine .bind (recvNfcMsg_emits hsends) fun (replyType, _) ↦ ?_
  refine (raiseIf_emits _ _).conseq (fun _ h ↦ h.2) (fun _ _ h ↦ ?_) fun _ _ h ↦ h
  rw [← hwhole]
  exact h

/-! ### On a disk -/

/-- A reply on an open socket without timeouts is received or raises a protocol error. -/
theorem aioRecvReply_calm_error {disk after : NfcDisk} {error : PyError}
    (hopen : disk.sock.closed = false) (hquiet : Quiet disk.sock.inbox)
    (h : aioRecvReply disk = (.error error, after)) : error.kind = .nfcProtocolError := by
  unfold aioRecvReply at h
  rw [Proc.bind_eq_error] at h
  obtain hrecvHdr | ⟨hdr, headed, hrecvHdr, h⟩ := h
  · obtain ⟨sock, hrun, -⟩ := Proc.zoom_eq_error.mp hrecvHdr
    exact recvn_calm_error hopen hquiet hrun
  obtain ⟨sock, hrun, rfl⟩ := Proc.zoom_eq_ok.mp hrecvHdr
  obtain ⟨hlength, htook⟩ := recvn_ok hrun
  have hroom : ∀ offset, offset + 4 ≤ 16 → ∃ value, unpackI hdr offset = .ok value :=
    fun offset hoffset ↦ unpackField_of_le (hoffset.trans hlength.ge)
  obtain ⟨magic, hmagic⟩ := hroom 0 (by decide)
  obtain ⟨rtype, htype⟩ := hroom 4 (by decide)
  obtain ⟨rsize, hsize⟩ := hroom 8 (by decide)
  obtain ⟨rop, hop⟩ := hroom 12 (by decide)
  rw [Proc.lift_bind_of_ok hmagic, Proc.lift_bind_of_ok htype, Proc.lift_bind_of_ok hsize,
    Proc.lift_bind_of_ok hop, Proc.raiseIf_bind_eq_error] at h
  obtain ⟨-, rfl, -⟩ | ⟨-, h⟩ := h
  · rfl
  rw [Proc.bind_eq_error] at h
  obtain hrecvBody | ⟨body, bodied, -, h⟩ := h
  · obtain ⟨last, hrun', -⟩ := Proc.zoom_eq_error.mp hrecvBody
    rw [recvnIfAny_eq] at hrun'
    exact recvn_calm_error (htook.closed_eq.trans hopen) (htook.quiet hquiet) hrun'
  · rw [Proc.raiseIf_bind_eq_error] at h
    obtain ⟨-, rfl, -⟩ | ⟨-, h⟩ := h
    · rfl
    · cases h

namespace NfcDisk

/-- Since `start` the session has sent these tokens, used `count` opIds and received something, and
nothing else of it has changed. -/
def Emitted (start : NfcDisk) (tokens : List Token) (count : ℕ) (disk : NfcDisk) : Prop :=
  start.sock.Emitted tokens disk.sock ∧
    disk = { start with opId := start.opId + count, sock := disk.sock }

/-- The last of what the session received since `start` is a reply with this payload. -/
def Replied (start : NfcDisk) (tokens : List Token) (count msgType opId : ℕ) (body : Bytes)
    (disk : NfcDisk) : Prop :=
  (∃ front, start.sock.Exchanged (tokenBytes tokens) (front ++ aioMessage msgType opId body)
    disk.sock) ∧ disk = { start with opId := start.opId + count, sock := disk.sock }

/-- A step that would have sent `planned` has raised: as `Sock.Stopped`, and it may have used opIds. -/
def Stopped (start : NfcDisk) (planned : List Token) (error : PyError) (disk : NfcDisk) : Prop :=
  start.sock.Stopped planned error disk.sock ∧
    ∃ opId, disk = { start with opId := opId, sock := disk.sock }

variable {start disk after : NfcDisk} {tokens planned : List Token} {count msgType : ℕ}
  {payload extra body : Bytes}

theorem emitted_nil (start : NfcDisk) : start.Emitted [] 0 start :=
  ⟨start.sock.emitted_nil, rfl⟩

theorem Replied.emitted {opId : ℕ} (hreplied : start.Replied tokens count msgType opId body disk) :
    start.Emitted tokens count disk := by
  obtain ⟨⟨front, hexchange⟩, hdisk⟩ := hreplied
  exact ⟨⟨_, hexchange⟩, hdisk⟩

/-- An AIO round trip sends the next token and returns the payload of its reply, or raises. -/
theorem aioRoundtrip_emits (hsends : start.sock.Sends)
    (hnext : planned[count]? = some (.aio msgType (start.opId + count) payload extra))
    (hmsgType : msgType < 2 ^ 32) (hpayload : payload.length < 2 ^ 32)
    (hopId : start.opId + count < 2 ^ 32) :
    Proc.Triple (start.Emitted (planned.take count) count) (aioRoundtrip msgType payload extra 0)
      (fun body ↦ start.Replied (planned.take (count + 1)) (count + 1) msgType (start.opId + count)
        body)
      (start.Stopped planned) := by
  rintro disk ⟨⟨reply, hexchange⟩, hdisk⟩
  have hcounter : disk.opId = start.opId + count := by rw [hdisk]
  rw [← hcounter] at hopId hnext
  have hsend := Sock.sendall_of_sends (hexchange.sends hsends)
    (Token.aio msgType disk.opId payload extra).bytes
  have hsent := hexchange.trans (Sock.sendall_ok hsend)
  rw [← tokenBytes_take_succ hnext, List.append_nil] at hsent
  have hreceived := moves_aioRecvReply
    (disk.afterCall (disk.sock.afterSend (Token.aio msgType disk.opId payload extra).bytes))
  rw [aioRoundtrip, Proc.bind_of_ok (aioSend_of_sends extra hmsgType hpayload hopId
    (hexchange.sends hsends))]
  change Proc.Outcome _ _ ((aioRecvReply >>= _)
    (disk.afterCall (disk.sock.afterSend (Token.aio msgType disk.opId payload extra).bytes)))
  rcases hrun : aioRecvReply
    (disk.afterCall (disk.sock.afterSend (Token.aio msgType disk.opId payload extra).bytes)) with
    ⟨error | ⟨rtype, rop, body⟩, after⟩
  all_goals
    rw [hrun] at hreceived
    obtain ⟨taken, htook, hafter⟩ := hreceived
    change after = _ at hafter
    have hwhole : after = { start with opId := start.opId + (count + 1), sock := after.sock } := by
      rw [hafter, hdisk]
      rfl
  · rw [Proc.bind_of_error hrun]
    refine ⟨⟨fun hquiet ↦ ?_, count + 1, Sock.Emitted.took ⟨_, hsent⟩ htook⟩, _, hwhole⟩
    refine aioRecvReply_calm_error ?_ ?_ hrun
    · exact hsent.closed_eq.trans hsends.1
    · exact hsent.quiet hquiet
  · rw [Proc.bind_of_ok hrun]
    obtain ⟨htook', -, -, -⟩ := aioRecvReply_ok hrun
    simp only
    by_cases hother : rtype ≠ msgType ∨ rop ≠ disk.opId
    · rw [Proc.raiseIf_bind_of_pos hother]
      exact ⟨⟨fun _ ↦ rfl, count + 1, Sock.Emitted.took ⟨_, hsent⟩ htook⟩, _, hwhole⟩
    · rw [Proc.raiseIf_bind_of_neg hother, recvnIfAny, if_pos rfl]
      simp only [not_or, not_not] at hother
      obtain ⟨rfl, rfl⟩ := hother
      have hreplied := hsent.trans (.of_took htook')
      rw [List.append_nil] at hreplied
      refine ⟨⟨reply, ?_⟩, hwhole⟩
      rw [← hcounter, List.append_nil]
      exact hreplied

/-! ### Opening -/

/-- The AIO messages that open a disk, from an opId on. -/
def openFileTokens (opId aioBufferSize aioBufferCount : ℕ) (diskPath : String) (readOnly : Bool) :
    List Token :=
  [.aio nfcAioMsgOpenSession opId ([Field.I 0, Field.I aioBufferSize, Field.I aioBufferCount,
      Field.I 0].flatMap Field.bytes) [],
    .aio nfcAioMsgSetSockOpts (opId + 1) (List.replicate 12 0) [],
    .aio nfcAioMsgSetResPool (opId + 2) ([Field.I 1].flatMap Field.bytes) [],
    .aio nfcAioMsgOpenFile (opId + 3) (ljust 60 ([Field.I (encodeUtf8 diskPath).length, Field.I 0,
      Field.I 0, Field.I 0, Field.I nfcDisk, Field.I (openFlags readOnly)].flatMap Field.bytes))
      (encodeUtf8 diskPath)]

/-- The buffer settings and the path fit their messages, and four opIds are left. -/
structure OpenFits (disk : NfcDisk) (diskPath : String) : Prop where
  opId_lt : disk.opId + 3 < 2 ^ 32
  aioBufferSize_lt : disk.aioBufferSize < 2 ^ 32
  aioBufferCount_lt : disk.aioBufferCount < 2 ^ 32
  path_lt : (encodeUtf8 diskPath).length < 2 ^ 32

/-- The disk is open: its handle and its sector size are those of the OPEN_FILE reply. -/
structure Opened (start : NfcDisk) (tokens : List Token) (disk : NfcDisk) : Prop where
  replied : ∃ body sectorSize, parseOpenReply body = .ok (disk.handle, sectorSize) ∧
    disk.sectorSize = sectorSize.val ∧
    ∃ front, start.sock.Exchanged (tokenBytes tokens)
      (front ++ aioMessage nfcAioMsgOpenFile (start.opId + 3) body) disk.sock
  disk_eq : disk = { start with
    opId := start.opId + 4, sock := disk.sock, handle := disk.handle, sectorSize := disk.sectorSize,
    sectorSize_pos := disk.sectorSize_pos }

/-- The reply to OPEN_FILE is parsed or raises a protocol error. -/
theorem parseOpenReply_error {error : PyError} (h : parseOpenReply body = .error error) :
    error.kind = .nfcProtocolError := by
  unfold parseOpenReply at h
  split_ifs at h with hshort
  · obtain rfl := Except.error.inj h
    rfl
  obtain ⟨handle, hhandle⟩ : ∃ handle, unpackQ body 8 = .ok handle := unpackField_of_le (by omega)
  obtain ⟨fileType, htype⟩ : ∃ fileType, unpackI body 16 = .ok fileType :=
    unpackField_of_le (by omega)
  obtain ⟨sectorSize, hsize⟩ : ∃ sectorSize, unpackI body 36 = .ok sectorSize :=
    unpackField_of_le (by omega)
  simp only [hhandle, htype, hsize, bind, Except.bind] at h
  split_ifs at h
  obtain rfl := Except.error.inj h
  rfl

/-- The three round trips before a file is opened. -/
theorem aioPrepare_emits {diskPath : String} {readOnly : Bool} (hsends : start.sock.Sends)
    (hfits : OpenFits start diskPath) (hnext : ∀ (count : ℕ) (token : Token),
      (openFileTokens start.opId start.aioBufferSize start.aioBufferCount diskPath readOnly)[count]? =
        some token → planned[count]? = some token) :
    Proc.Triple (start.Emitted [] 0) aioPrepare (fun _ ↦ start.Emitted (planned.take 3) 3)
      (start.Stopped planned) := by
  have hopId := hfits.opId_lt
  have hsession : pack [.I 0, .I start.aioBufferSize, .I start.aioBufferCount, .I 0] =
      .ok ([Field.I 0, Field.I start.aioBufferSize, Field.I start.aioBufferCount,
        Field.I 0].flatMap Field.bytes) := by
    refine pack_of_fits ?_
    simp only [List.forall_mem_cons, List.not_mem_nil, false_imp_iff, implies_true, and_true]
    exact ⟨Field.fits_I_zero, Field.fits_I.mpr hfits.aioBufferSize_lt,
      Field.fits_I.mpr hfits.aioBufferCount_lt, Field.fits_I_zero⟩
  have hpool : pack [.I 1] = .ok ([Field.I 1].flatMap Field.bytes) :=
    pack_of_fits (List.forall_mem_singleton.mpr (by decide))
  have hlength : ([Field.I 0, Field.I start.aioBufferSize, Field.I start.aioBufferCount,
      Field.I 0].flatMap Field.bytes).length < 2 ^ 32 := by
    simp [Field.width]
  rintro disk ⟨hsock, hdisk⟩
  have hsize : disk.aioBufferSize = start.aioBufferSize := by rw [hdisk]
  have hcount : disk.aioBufferCount = start.aioBufferCount := by rw [hdisk]
  rw [aioPrepare, Proc.get_bind_apply, hsize, hcount, hsession]
  refine (show Proc.Triple (start.Emitted [] 0) _ _ _ from .lift_bind_ok ?_) disk ⟨hsock, hdisk⟩
  refine .bind (aioRoundtrip_emits hsends (hnext 0 _ rfl) (by decide) hlength
    (by omega)) fun _ ↦ ?_
  refine .bind ((aioRoundtrip_emits hsends (hnext 1 _ rfl) (by decide) (by decide)
    (by omega)).conseq (fun _ h ↦ h.emitted) (fun _ _ h ↦ h) fun _ _ h ↦ h) fun _ ↦ ?_
  rw [hpool]
  refine .lift_bind_ok ?_
  refine .bind ((aioRoundtrip_emits hsends (hnext 2 _ rfl) (by decide) (by decide)
    (by omega)).conseq (fun _ h ↦ h.emitted) (fun _ _ h ↦ h) fun _ _ h ↦ h) fun _ ↦ ?_
  exact Proc.Triple.pure.conseq (fun _ h ↦ h.emitted) (fun _ _ h ↦ h) fun _ _ h ↦ h

/-- The opening of a file sends its four messages in order, or raises on the way. -/
theorem openFile_emits {diskPath : String} (readOnly : Bool) (hsends : start.sock.Sends)
    (hfits : OpenFits start diskPath) :
    Proc.Triple (start.Emitted [] 0) (openFile diskPath readOnly)
      (fun _ ↦ start.Opened
        (openFileTokens start.opId start.aioBufferSize start.aioBufferCount diskPath readOnly))
      (start.Stopped
        (openFileTokens start.opId start.aioBufferSize start.aioBufferCount diskPath readOnly)) := by
  have hopId := hfits.opId_lt
  generalize hplanned :
    openFileTokens start.opId start.aioBufferSize start.aioBufferCount diskPath readOnly = planned
  have hnext : ∀ (count : ℕ) (token : Token),
      (openFileTokens start.opId start.aioBufferSize start.aioBufferCount diskPath readOnly)[count]? =
        some token → planned[count]? = some token := fun count token hget ↦ hplanned ▸ hget
  have hbody : pack [.I (encodeUtf8 diskPath).length, .I 0, .I 0, .I 0, .I nfcDisk,
      .I (openFlags readOnly)] = .ok ([Field.I (encodeUtf8 diskPath).length, Field.I 0, Field.I 0,
        Field.I 0, Field.I nfcDisk, Field.I (openFlags readOnly)].flatMap Field.bytes) := by
    have hflags : (Field.I (openFlags readOnly)).Fits := by
      cases readOnly <;> decide
    refine pack_of_fits ?_
    simp only [List.forall_mem_cons, List.not_mem_nil, false_imp_iff, implies_true, and_true]
    exact ⟨Field.fits_I.mpr hfits.path_lt, Field.fits_I_zero, Field.fits_I_zero, Field.fits_I_zero,
      by decide, hflags⟩
  have hlength : (ljust 60 ([Field.I (encodeUtf8 diskPath).length, Field.I 0, Field.I 0,
      Field.I 0, Field.I nfcDisk, Field.I (openFlags readOnly)].flatMap Field.bytes)).length < 2 ^ 32 := by
    rw [length_ljust (by simp [Field.width])]
    decide
  unfold openFile
  refine .bind (aioPrepare_emits hsends hfits hnext) fun _ ↦ ?_
  simp only
  rw [hbody]
  refine .lift_bind_ok ?_
  refine .bind (aioRoundtrip_emits hsends (hnext 3 _ rfl) (by decide) hlength hopId) fun body ↦ ?_
  rintro disk hreplied
  rcases hparse : parseOpenReply body with error | ⟨handle, sectorSize⟩
  · obtain ⟨hsock, hdisk⟩ := hreplied.emitted
    exact ⟨⟨fun _ ↦ parseOpenReply_error hparse, 4, hsock⟩, _, hdisk⟩
  · obtain ⟨⟨front, hexchange⟩, hdisk⟩ := hreplied
    have hwhole : planned.take 4 = planned := by
      rw [← hplanned]
      rfl
    rw [hwhole] at hexchange
    refine ⟨⟨body, sectorSize, hparse, rfl, front, hexchange⟩, ?_⟩
    rw [hdisk]

/-! ### Closing -/

/-- The messages of a close. -/
def closeTokens (disk : NfcDisk) : List Token :=
  [.aio nfcAioMsgCloseFile disk.opId ([Field.Q disk.handle.toNat].flatMap Field.bytes) [],
    .aio nfcAioMsgCloseSession (disk.opId + 1) ([Field.I 0].flatMap Field.bytes) [],
    .classic nfcMsgSessionComplete []]

/-- The three messages of a close are sent in order, or it raises on the way. -/
theorem closeSession_emits (hsends : start.sock.Sends) (hopId : start.opId + 1 < 2 ^ 32) :
    Proc.Triple (start.Emitted [] 0) closeSession (fun _ ↦ start.Emitted (closeTokens start) 2)
      (start.Stopped (closeTokens start)) := by
  generalize hplanned : closeTokens start = planned
  have hnext : ∀ (count : ℕ) (token : Token), (closeTokens start)[count]? = some token →
      planned[count]? = some token := fun count token hget ↦ hplanned ▸ hget
  have hhandle : pack [.Q start.handle.toNat] = .ok ([Field.Q start.handle.toNat].flatMap Field.bytes) :=
    pack_of_fits (List.forall_mem_singleton.mpr (Field.fits_Q.mpr start.handle.toNat_lt))
  have hzero : pack [.I 0] = .ok ([Field.I 0].flatMap Field.bytes) :=
    pack_of_fits (List.forall_mem_singleton.mpr Field.fits_I_zero)
  have hlength : ([Field.Q start.handle.toNat].flatMap Field.bytes).length < 2 ^ 32 := by
    rw [List.flatMap_singleton, Field.length_bytes]
    exact show 8 < 2 ^ 32 by decide
  rintro disk ⟨hsock, hdisk⟩
  have hsame : disk.handle = start.handle := by rw [hdisk]
  rw [closeSession, Proc.get_bind_apply, hsame, hhandle]
  refine (show Proc.Triple (start.Emitted [] 0) _ _ _ from .lift_bind_ok ?_) disk ⟨hsock, hdisk⟩
  refine .bind (aioRoundtrip_emits hsends (hnext 0 _ rfl) (by decide) hlength (by omega)) fun _ ↦ ?_
  rw [hzero]
  refine .lift_bind_ok ?_
  refine .bind ((aioRoundtrip_emits hsends (hnext 1 _ rfl) (by decide) (by decide)
    hopId).conseq (fun _ h ↦ h.emitted) (fun _ _ h ↦ h) fun _ _ h ↦ h) fun _ ↦ ?_
  rintro last hreplied
  obtain ⟨hsent, hlast⟩ := hreplied.emitted
  have hcomplete := @sendNfcMsg_emits start.sock planned 2 _ _ hsends (hnext 2 _ rfl) (by decide)
    (Nat.zero_le _) (fun _ _ ↦ False) last.sock hsent
  rw [Proc.zoom_apply]
  rcases hrun : sendNfcMsg nfcMsgSessionComplete [] last.sock with ⟨error | ⟨⟨⟩⟩, after⟩
  · rw [hrun] at hcomplete
    exact hcomplete.elim
  · rw [hrun] at hcomplete
    change Proc.Outcome _ _ ((sendNfcMsg nfcMsgSessionComplete [] last.sock).1,
      sockPart.set (sendNfcMsg nfcMsgSessionComplete [] last.sock).2 last)
    rw [hrun]
    refine ⟨?_, by rw [hlast]; rfl⟩
    rw [← show planned.take 3 = planned by rw [← hplanned]; rfl]
    exact hcomplete

/-- A close sends the first of its messages, all of them when it returns, and closes the socket whatever
it receives. -/
theorem close_emits (hsends : disk.sock.Sends) (hopId : disk.opId + 1 < 2 ^ 32)
    (hopen : disk.closed = false) :
    (∃ count, (close disk).2.sock.sent =
      disk.sock.sent ++ tokenBytes ((closeTokens disk).take count)) ∧
    (close disk).2.closed = true ∧ (close disk).2.sock.closed = true ∧
    (Quiet disk.sock.inbox → disk.sock.closeError = none → ProtocolErrorsOnly (close disk).1) := by
  have hsession := @closeSession_emits { disk with closed := true } hsends hopId
    { disk with closed := true } (emitted_nil _)
  have hclose : close disk = Proc.tryFinally closeSession (Proc.zoom sockPart Sock.closeQuietly)
      { disk with closed := true } := by
    rw [close, Proc.get_bind_apply, hopen, if_neg Bool.false_ne_true, Proc.modify_bind_apply]
  rw [hclose, Proc.tryFinally_snd, Proc.zoom_apply]
  rcases hrun : closeSession { disk with closed := true } with ⟨result, after⟩
  rw [hrun] at hsession
  -- What the three messages did to the session, and what they raised.
  have houtcome : (∃ count, after.sock.sent =
        disk.sock.sent ++ tokenBytes ((closeTokens disk).take count)) ∧
      after.closed = true ∧ after.sock.closeError = disk.sock.closeError ∧
      (Quiet disk.sock.inbox → ProtocolErrorsOnly result) := by
    cases result with
    | ok value =>
      obtain ⟨⟨reply, hexchange⟩, hafter⟩ := hsession
      exact ⟨⟨3, hexchange.sent_eq⟩, by rw [hafter], hexchange.closeError_eq, fun _ error hraised ↦ by
        cases hraised⟩
    | error error =>
      obtain ⟨⟨hkind, count, reply, hexchange⟩, opId, hafter⟩ := hsession
      refine ⟨⟨count, hexchange.sent_eq⟩, by rw [hafter], hexchange.closeError_eq,
        fun hquiet raised hraised ↦ ?_⟩
      obtain rfl := Except.error.inj hraised
      exact hkind hquiet
  obtain ⟨hsent, hclosed, hcloseError, hkind⟩ := houtcome
  refine ⟨?_, hclosed, ?_, fun hquiet hnone ↦ ?_⟩
  · change ∃ count, (Sock.closeQuietly after.sock).2.sent = _
    rw [Sock.closeQuietly_snd]
    exact hsent
  · change (Sock.closeQuietly after.sock).2.closed = true
    rw [Sock.closeQuietly_snd]
  · have hquietly : Sock.closeQuietly after.sock = (.ok (), { after.sock with closed := true }) :=
      Sock.closeQuietly_apply fun error hraises ↦ by rw [hcloseError, hnone] at hraises; cases hraises
    rw [Proc.tryFinally_of_ok hrun (Proc.zoom_of_eq sockPart hquietly)]
    exact hkind hquiet

end NfcDisk

/-! ### Opening a disk -/

/-- The messages of `open_disk`. -/
def openTokens (args : OpenArgs) (settings : OpenSettings) : List Token :=
  handshakeTokens args.clientName args.opId args.version ++
    openFileTokens 0 settings.aioBufferSize settings.aioBufferCount args.diskPath args.readOnly

/-- The arguments of an opening pass its checks and fit its messages. -/
structure OpenArgs.FitsWire (args : OpenArgs) (settings : OpenSettings) : Prop where
  check_eq : args.check = .ok settings
  handshake : HandshakeFits args.clientName args.opId args.version
  aioBufferSize_lt : settings.aioBufferSize < 2 ^ 32
  aioBufferCount_lt : settings.aioBufferCount < 2 ^ 32
  path_lt : (encodeUtf8 args.diskPath).length < 2 ^ 32

/-- The arguments of an opening fit the fields they are sent in. -/
structure OpenArgs.FitsFields (args : OpenArgs) : Prop where
  handshake : HandshakeFits args.clientName args.opId args.version
  aioBufferSize_lt : args.aioBufferSize < 2 ^ 32
  aioBufferCount_lt : args.aioBufferCount < 2 ^ 32
  path_lt : (encodeUtf8 args.diskPath).length < 2 ^ 32

/-- What the checks let through are the arguments. -/
theorem OpenArgs.check_ok {args : OpenArgs} {settings : OpenSettings} (hcheck : args.check = .ok settings) :
    settings.aioBufferSize = args.aioBufferSize.toNat ∧
      settings.aioBufferCount = args.aioBufferCount.toNat := by
  unfold OpenArgs.check at hcheck
  split_ifs at hcheck
  split at hcheck
  · cases hcheck
  · obtain rfl := Except.ok.inj hcheck
    exact ⟨rfl, rfl⟩

theorem OpenArgs.FitsFields.fitsWire {args : OpenArgs} {settings : OpenSettings}
    (hfits : args.FitsFields) (hcheck : args.check = .ok settings) : args.FitsWire settings := by
  obtain ⟨hsize, hcount⟩ := OpenArgs.check_ok hcheck
  have hsizeLt := hfits.aioBufferSize_lt
  have hcountLt := hfits.aioBufferCount_lt
  exact ⟨hcheck, hfits.handshake, by omega, by omega, hfits.path_lt⟩

/-- A disk that `open_disk` returned: it has sent all its messages, its handle and its sector size are
those of the OPEN_FILE reply, and the next opId is 4. -/
structure DiskOpened (start : Sock) (args : OpenArgs) (settings : OpenSettings) (disk : NfcDisk) :
    Prop where
  replied : ∃ body sectorSize, parseOpenReply body = .ok (disk.handle, sectorSize) ∧
    disk.sectorSize = sectorSize.val ∧
    ∃ front, start.Exchanged (tokenBytes (openTokens args settings))
      (front ++ aioMessage nfcAioMsgOpenFile 3 body) disk.sock
  opId_eq : disk.opId = 4
  closed_eq : disk.closed = false
  compression_eq : disk.compression = settings.compression
  aioBufferSize_eq : disk.aioBufferSize = settings.aioBufferSize

/-- The `try` body of `open_disk` sends its messages in order, or raises on the way. -/
theorem openOn_emits {start : Sock} {args : OpenArgs} {settings : OpenSettings}
    (hsends : start.Sends) (hfits : args.FitsWire settings) :
    Proc.Triple (start.Emitted []) (openOn args settings)
      (fun disk sock ↦ sock = disk.sock ∧ DiskOpened start args settings disk)
      (start.Stopped (openTokens args settings)) := by
  refine .bind ((handshake_emits hsends hfits.handshake).conseq (fun _ h ↦ h) (fun _ _ h ↦ h)
    fun _ _ h ↦ h.append _) fun _ ↦ ?_
  rintro middle ⟨reply, hexchange⟩
  have hopen := @openFile_emits (init middle args.diskPath settings) args.diskPath args.readOnly
    (hexchange.sends hsends)
    ⟨show 0 + 3 < 2 ^ 32 by decide, hfits.aioBufferSize_lt, hfits.aioBufferCount_lt, hfits.path_lt⟩
    (init middle args.diskPath settings) (emitted_nil _)
  have hstart : onSock.get (middle, init middle args.diskPath settings) =
      init middle args.diskPath settings := rfl
  rw [Proc.get_bind_apply]
  rcases hrun : openFile args.diskPath args.readOnly (init middle args.diskPath settings) with
    ⟨error | ⟨⟨⟩⟩, disk⟩
  all_goals
    rw [hrun] at hopen
    rw [← hstart] at hrun
    have hzoom := Proc.zoom_of_eq onSock hrun
  · obtain ⟨⟨hkind, count, reply', hexchange'⟩, -⟩ := hopen
    rw [Proc.bind_of_error (Proc.withLocal_of_error hzoom)]
    have hwhole := hexchange.trans hexchange'
    rw [← tokenBytes_append, ← List.take_length_add_append] at hwhole
    exact ⟨fun hquiet ↦ hkind (hexchange.quiet hquiet), _, _, hwhole⟩
  · obtain ⟨⟨body, sectorSize, hparse, hsize, front, hexchange'⟩, hdisk⟩ := hopen
    rw [Proc.bind_of_ok (Proc.withLocal_of_ok hzoom)]
    have hwhole := hexchange.trans hexchange'
    rw [← tokenBytes_append, ← List.append_assoc] at hwhole
    refine ⟨rfl, ⟨body, sectorSize, hparse, hsize, _, hwhole⟩, ?_, ?_, ?_, ?_⟩
    all_goals
      change disk = _ at hdisk
      rw [hdisk]
      rfl

/-- `open_disk` sends its messages in order and returns an open disk, or raises on the way and closes the
socket. -/
theorem openDisk_emits {start : Sock} {args : OpenArgs} {settings : OpenSettings}
    (hsends : start.Sends) (hfits : args.FitsWire settings) :
    Proc.Outcome (fun disk sock ↦ sock = disk.sock ∧ DiskOpened start args settings disk)
      (fun error sock ↦ sock.closed = true ∧
        (∃ count, sock.sent = start.sent ++ tokenBytes ((openTokens args settings).take count)) ∧
        (Quiet start.inbox → start.closeError = none → error.kind = .nfcProtocolError))
      (openDisk args start) := by
  have hopen := openOn_emits hsends hfits start start.emitted_nil
  rw [openDisk, hfits.check_eq, Proc.lift_bind_of_ok rfl]
  rcases hrun : openOn args settings start with ⟨error | disk, after⟩
  · rw [hrun] at hopen
    obtain ⟨hkind, count, reply, hexchange⟩ := hopen
    rw [Proc.tryExcept_of_error hrun, if_pos (show error.isException = true from rfl)]
    have hclosed := Sock.close_snd after
    rcases hclose : Sock.close after with ⟨raised | ⟨⟨⟩⟩, last⟩
    all_goals
      rw [hclose] at hclosed
      change last = _ at hclosed
    · rw [Proc.bind_of_error hclose]
      refine ⟨by rw [hclosed], ⟨count, by rw [hclosed]; exact hexchange.sent_eq⟩, fun _ hnone ↦ ?_⟩
      rw [← hexchange.closeError_eq] at hnone
      unfold Sock.close at hclose
      rw [hnone] at hclose
      split_ifs at hclose
      · cases hclose
      · cases hclose
    · rw [Proc.bind_of_ok hclose]
      exact ⟨by rw [hclosed], ⟨count, by rw [hclosed]; exact hexchange.sent_eq⟩,
        fun hquiet _ ↦ hkind hquiet⟩
  · rw [hrun] at hopen
    rw [Proc.tryExcept_of_ok hrun]
    exact hopen

end OpenVixDiskLib
