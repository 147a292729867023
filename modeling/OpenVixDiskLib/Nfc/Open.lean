import OpenVixDiskLib.Nfc.Aio
import OpenVixDiskLib.Text

/-!
# Opening and closing a disk

The classic 264-byte NFC messages, the session handshake, the AIO requests that open a VMDK, and
`NfcDisk.close`. `openDisk` is `open_disk` from the socket on: it speaks on a socket that has been
taken over from authd or wrapped in NFCSSL, and closes it when a step raises.
-/

set_option autoImplicit false
set_option relaxedAutoImplicit false

namespace OpenVixDiskLib

/-! ### Classic messages -/

/-- `_send_nfc_msg`. -/
def sendNfcMsg (msgType : ℕ) (body : Bytes) : Py Sock Unit := do
  Proc.raiseIf (nfcMsgSize - 4 < body.length) (valueError "NFC classic message body too large")
  let packed ← Proc.lift (pack [.I msgType])
  Sock.sendall (ljust nfcMsgSize (packed ++ body))

/-- A whole classic message. -/
def nfcMessage (msgType : ℕ) (body : Bytes) : Bytes :=
  ljust nfcMsgSize ((Field.I msgType).bytes ++ body)

theorem sendNfcMsg_of_sends {sock : Sock} {msgType : ℕ} {body : Bytes} (hmsgType : msgType < 2 ^ 32)
    (hbody : body.length ≤ nfcMsgSize - 4) (hsends : sock.Sends) :
    sendNfcMsg msgType body sock = (.ok (), sock.afterSend (nfcMessage msgType body)) := by
  have hpack : pack [.I msgType] = .ok (Field.I msgType).bytes := by
    rw [pack_of_fits (List.forall_mem_singleton.mpr (Field.fits_I.mpr hmsgType)),
      List.flatMap_singleton]
  rw [sendNfcMsg, Proc.raiseIf_bind_of_neg (Nat.not_lt.mpr hbody), Proc.lift_bind_of_ok hpack]
  exact Sock.sendall_of_sends hsends _

/-- `_recv_nfc_msg`: the type and the body of the next classic message. -/
def recvNfcMsg : Py Sock (ℕ × Bytes) := do
  let frame ← recvn nfcMsgSize
  let msgType ← Proc.lift (unpackI frame 0)
  pure (msgType, frame.drop 4)

/-- `b"PlainText"`. -/
def plainText : Bytes :=
  asciiBytes "PlainText"

/-- `_handshake`. -/
def handshake (clientName opId : String) (version : ℤ) : Py Sock Unit := do
  sendNfcMsg nfcMsgHandshake plainText
  sendNfcMsg nfcMsgSessionParams []
  let (replyType, _) ← recvNfcMsg
  Proc.raiseIf (replyType ≠ nfcMsgSessionParamsReply) (nfcProtocolError
    s!"expected session-params reply {nfcMsgSessionParamsReply}, got {replyType}")
  let versionBody ← Proc.lift (pack [.I version])
  sendNfcMsg nfcMsgVersion versionBody
  let (replyType, body) ← recvNfcMsg
  Proc.raiseIf (replyType ≠ nfcMsgVersion) (nfcProtocolError
    s!"expected version reply {nfcMsgVersion}, got {replyType}")
  let remoteVersion ← Proc.lift (unpackI body 0)
  Proc.raiseIf (remoteVersion < 3) (nfcProtocolError
    s!"NFC server version {remoteVersion} is too old for AIO")
  let nameB ← Proc.lift (encodeAscii clientName)
  let opB ← Proc.lift (encodeAscii opId)
  let lengths ← Proc.lift (pack [.I nameB.length, .I opB.length])
  sendNfcMsg nfcMsgConnectionData lengths
  Sock.sendall nameB
  Sock.sendall opB
  let features ← Proc.lift (pack [.I nfcSessionFeatureInterruptionSwitch])
  sendNfcMsg nfcMsgSessionFeatures features
  sendNfcMsg nfcMsgAioSessionOpen []
  let (replyType, _) ← recvNfcMsg
  Proc.raiseIf (replyType ≠ nfcMsgAioSessionOpen) (nfcProtocolError
    s!"expected AIO session-open reply {nfcMsgAioSessionOpen}, got {replyType}")

/-! ### Opening -/

/-- The arguments of `open_disk` besides the authenticated session. -/
structure OpenArgs where
  diskPath : String
  clientName : String
  opId : String
  version : ℤ
  readOnly : Bool
  compression : ℤ
  aioBufferSize : ℤ
  aioBufferCount : ℤ
deriving DecidableEq

/-- The compression types a session may have. -/
def Compression.ofCode (code : ℤ) : Option Compression :=
  if code = Compression.none.code then some .none
  else if code = Compression.fastlz.code then some .fastlz
  else Option.none

/-- The settings of a session, as `open_disk` lets them through. -/
structure OpenSettings where
  compression : Compression
  aioBufferSize : ℕ
  aioBufferCount : ℕ
  aioBufferSize_pos : 0 < aioBufferSize
  aioBufferCount_pos : 0 < aioBufferCount

/-- The checks `open_disk` makes before it touches the connection. -/
def OpenArgs.check (args : OpenArgs) : Except PyError OpenSettings :=
  if hsize : args.aioBufferSize < 1 then
    .error (valueError "aio_buffer_size must be at least 1")
  else if hcount : args.aioBufferCount < 1 then
    .error (valueError "aio_buffer_count must be at least 1")
  else
    match Compression.ofCode args.compression with
    | Option.none => .error ⟨.notImplementedError,
        s!"NFC compression type {args.compression} is not supported"⟩
    | some compression => .ok
        { compression := compression
          aioBufferSize := args.aioBufferSize.toNat
          aioBufferCount := args.aioBufferCount.toNat
          aioBufferSize_pos := by omega
          aioBufferCount_pos := by omega }

/-- `_parse_open_reply`: the handle and the sector size. -/
def parseOpenReply (body : Bytes) :
    Except PyError (UInt64 × { sectorSize : ℕ // 0 < sectorSize }) :=
  if body.length < 40 then
    .error (nfcProtocolError s!"OPEN_FILE reply too short: {body.length}")
  else do
    let handle ← unpackQ body 8
    let fileType ← unpackI body 16
    let sectorSize ← unpackI body 36
    if fileType ≠ nfcDisk then
      .error (nfcProtocolError s!"opened file type {fileType}, expected NFC_DISK")
    else if hzero : sectorSize = 0 then
      .ok (UInt64.ofNat handle, ⟨nfcSectorSize, by decide⟩)
    else
      .ok (UInt64.ofNat handle, ⟨sectorSize, Nat.pos_of_ne_zero hzero⟩)

namespace NfcDisk

/-- `NfcDisk.__init__` of a disk that is not open yet. -/
def init (sock : Sock) (diskPath : String) (settings : OpenSettings) : NfcDisk where
  sock := sock
  opId := 0
  path := diskPath
  handle := 0
  sectorSize := nfcSectorSize
  compression := settings.compression
  aioBufferSize := settings.aioBufferSize
  aioBufferCount := settings.aioBufferCount
  closed := false
  sectorSize_pos := by decide
  aioBufferSize_pos := settings.aioBufferSize_pos

/-- `_aio_prepare`. -/
def aioPrepare : Py NfcDisk Unit := do
  let disk ← Proc.get
  let openSession ← Proc.lift (pack [.I 0, .I disk.aioBufferSize, .I disk.aioBufferCount, .I 0])
  let _ ← aioRoundtrip nfcAioMsgOpenSession openSession [] 0
  let _ ← aioRoundtrip nfcAioMsgSetSockOpts (List.replicate 12 0) [] 0
  let resPool ← Proc.lift (pack [.I 1])
  let _ ← aioRoundtrip nfcAioMsgSetResPool resPool [] 0
  pure ()

/-- `NFC_OPEN_FLAGS_READ_ONLY if read_only else NFC_OPEN_FLAGS_READ_WRITE`. -/
def openFlags (readOnly : Bool) : ℕ :=
  if readOnly then nfcOpenFlagsReadOnly else nfcOpenFlagsReadWrite

/-- The end of `open_disk`, on the new disk: open the file and take its handle and sector size. -/
def openFile (diskPath : String) (readOnly : Bool) : Py NfcDisk Unit := do
  aioPrepare
  let pathB := encodeUtf8 diskPath
  let openBody ← Proc.lift (pack
    [.I pathB.length, .I 0, .I 0, .I 0, .I nfcDisk, .I (openFlags readOnly)])
  let reply ← aioRoundtrip nfcAioMsgOpenFile (ljust 60 openBody) pathB 0
  let (handle, sectorSize) ← Proc.lift (parseOpenReply reply)
  Proc.modify fun disk ↦
    { disk with
      handle := handle
      sectorSize := sectorSize.val
      sectorSize_pos := sectorSize.property }

/-- A disk that lives on the socket of the state. -/
def onSock : Proc.Part (Sock × NfcDisk) NfcDisk where
  get := fun state ↦ { state.2 with sock := state.1 }
  set := fun disk _ ↦ (disk.sock, disk)

/-- The `try` body of `open_disk`. -/
def openOn (args : OpenArgs) (settings : OpenSettings) : Py Sock NfcDisk := do
  handshake args.clientName args.opId args.version
  let sock ← Proc.get
  let opened ← Proc.withLocal (init sock args.diskPath settings)
    (Proc.zoom onSock (openFile args.diskPath args.readOnly))
  pure opened.2

/-- `open_disk` from the socket on. -/
def openDisk (args : OpenArgs) : Py Sock NfcDisk := do
  let settings ← Proc.lift args.check
  Proc.tryExcept (openOn args settings) PyError.isException fun error ↦ do
    Sock.close
    Proc.raise error

/-! ### Closing -/

/-- The three messages of `NfcDisk.close`. -/
def closeSession : Py NfcDisk Unit := do
  let disk ← Proc.get
  let handle ← Proc.lift (pack [.Q disk.handle.toNat])
  let _ ← aioRoundtrip nfcAioMsgCloseFile handle [] 0
  let zero ← Proc.lift (pack [.I 0])
  let _ ← aioRoundtrip nfcAioMsgCloseSession zero [] 0
  Proc.zoom sockPart (sendNfcMsg nfcMsgSessionComplete [])

/-- `NfcDisk.close`. -/
def close : Py NfcDisk Unit := do
  let disk ← Proc.get
  if disk.closed then pure ()
  else do
    Proc.modify fun disk ↦ { disk with closed := true }
    Proc.tryFinally closeSession (Proc.zoom sockPart Sock.closeQuietly)

/-- The requests of `close`. -/
def closeBytes (disk : NfcDisk) : Bytes :=
  aioMessage nfcAioMsgCloseFile disk.opId (Field.Q disk.handle.toNat).bytes ++
    aioMessage nfcAioMsgCloseSession (disk.opId + 1) (Field.I 0).bytes ++
    nfcMessage nfcMsgSessionComplete []

/-- The three messages are sent when both requests are acknowledged. -/
theorem closeSession_of_acks {disk : NfcDisk} {fileBody sessionBody rest : Bytes}
    (hopId : disk.opId + 1 < 2 ^ 32) (hfileBody : fileBody.length < 2 ^ 32)
    (hsessionBody : sessionBody.length < 2 ^ 32) (hsends : disk.sock.Sends)
    (hholds : disk.sock.Holds (aioMessage nfcAioMsgCloseFile disk.opId fileBody ++
      (aioMessage nfcAioMsgCloseSession (disk.opId + 1) sessionBody ++ rest))) :
    ∃ sock, closeSession disk = (.ok (), { disk with opId := disk.opId + 2, sock := sock }) ∧
      disk.sock.Exchanged (closeBytes disk) (aioMessage nfcAioMsgCloseFile disk.opId fileBody ++
        aioMessage nfcAioMsgCloseSession (disk.opId + 1) sessionBody) sock := by
  have hhandle : pack [.Q disk.handle.toNat] = .ok (Field.Q disk.handle.toNat).bytes := by
    rw [pack_of_fits (List.forall_mem_singleton.mpr (Field.fits_Q.mpr disk.handle.toNat_lt)),
      List.flatMap_singleton]
  have hzero : pack [.I 0] = .ok (Field.I 0).bytes := by
    rw [pack_of_fits (List.forall_mem_singleton.mpr Field.fits_I_zero), List.flatMap_singleton]
  obtain ⟨first, hfile, hfirst⟩ := aioRoundtrip_of_reply (Field.Q disk.handle.toNat).bytes []
    (show nfcAioMsgCloseFile < 2 ^ 32 by decide) (by decide)
    (by rw [Field.length_bytes]; exact show 8 < 2 ^ 32 by decide) hfileBody (by omega) hsends hholds
  obtain ⟨second, hsession, hsecond⟩ := aioRoundtrip_of_reply (Field.I 0).bytes []
    (show nfcAioMsgCloseSession < 2 ^ 32 by decide) (by decide)
    (by rw [Field.length_bytes]; exact show 4 < 2 ^ 32 by decide) hsessionBody
    (show (disk.afterCall first).opId < 2 ^ 32 from hopId) (hfirst.sends hsends)
    (hfirst.holds hholds)
  have hsends' := hsecond.sends (hfirst.sends hsends)
  have hcomplete := sendNfcMsg_of_sends (show nfcMsgSessionComplete < 2 ^ 32 by decide)
    (show ([] : Bytes).length ≤ nfcMsgSize - 4 from Nat.zero_le _) hsends'
  refine ⟨second.afterSend (nfcMessage nfcMsgSessionComplete []), ?_, ?_⟩
  · rw [closeSession, Proc.get_bind_apply, Proc.lift_bind_of_ok hhandle, Proc.bind_of_ok hfile,
      Proc.lift_bind_of_ok hzero, Proc.bind_of_ok hsession]
    exact Proc.zoom_of_eq sockPart hcomplete
  · have hwhole := (hfirst.trans hsecond).trans (Sock.sendall_ok
      (Sock.sendall_of_sends hsends' (nfcMessage nfcMsgSessionComplete [])))
    simp only [List.append_nil] at hwhole
    exact hwhole

/-- `close` completes when both requests are acknowledged. -/
theorem close_of_acks {disk : NfcDisk} {fileBody sessionBody rest : Bytes}
    (hopen : disk.closed = false) (hopId : disk.opId + 1 < 2 ^ 32)
    (hfileBody : fileBody.length < 2 ^ 32) (hsessionBody : sessionBody.length < 2 ^ 32)
    (hsends : disk.sock.Sends)
    (hcloses : ∀ error, disk.sock.closeError = some error → error.isOsError = true)
    (hholds : disk.sock.Holds (aioMessage nfcAioMsgCloseFile disk.opId fileBody ++
      (aioMessage nfcAioMsgCloseSession (disk.opId + 1) sessionBody ++ rest))) :
    ∃ after, close disk = (.ok (), after) ∧
      after.sock.sent = disk.sock.sent ++ closeBytes disk ∧ after.sock.closed = true := by
  obtain ⟨sock, hsession, hexchange⟩ :=
    closeSession_of_acks (show ({ disk with closed := true } : NfcDisk).opId + 1 < 2 ^ 32 from hopId)
      hfileBody hsessionBody hsends hholds
  have hquietly : Sock.closeQuietly sock = (.ok (), { sock with closed := true }) := by
    refine Sock.closeQuietly_apply ?_
    rw [hexchange.closeError_eq]
    exact hcloses
  refine ⟨{ disk with
    closed := true, opId := disk.opId + 2, sock := { sock with closed := true } }, ?_,
    hexchange.sent_eq, rfl⟩
  rw [close, Proc.get_bind_apply, hopen, if_neg Bool.false_ne_true, Proc.modify_bind_apply]
  exact Proc.tryFinally_of_ok hsession (Proc.zoom_of_eq sockPart hquietly)

end NfcDisk

end OpenVixDiskLib
