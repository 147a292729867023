import OpenVixDiskLib.FastLz
import OpenVixDiskLib.Socket

/-!
# NFC AIO framing

The constants, the 16-byte AIO header and the session object of `nfc_open.py`, with the request
and reply steps every AIO exchange is made of. An AIO message is a header (magic, type, payload
size, opId), the payload, and for some types an extra that the payload size does not count.

An `NfcDisk` carries what `open_disk` guarantees about it: its sector size and its AIO buffer size
are positive, its handle is a 64-bit number, and its compression is one of the two supported types.
-/

set_option autoImplicit false
set_option relaxedAutoImplicit false

namespace OpenVixDiskLib

/-! ### Constants -/

def nfcMsgSize : ℕ := 264
def nfcAioMagic : ℕ := 0xA100DA7A
def nfcAioHdrSize : ℕ := 16
def nfcSectorSize : ℕ := 512
def nfcProtocolVersion : ℕ := 11
def nfcAioBufferSize : ℕ := 65536
def nfcAioBufferCount : ℕ := 1

def nfcMsgSessionComplete : ℕ := 4
def nfcMsgSessionParams : ℕ := 33
def nfcMsgSessionParamsReply : ℕ := 36
def nfcMsgHandshake : ℕ := 43
def nfcMsgVersion : ℕ := 51
def nfcMsgAioSessionOpen : ℕ := 52
def nfcMsgConnectionData : ℕ := 54
def nfcMsgSessionFeatures : ℕ := 55

def nfcSessionFeatureInterruptionSwitch : ℕ := 3

def nfcAioMsgError : ℕ := 1
def nfcAioMsgOpenSession : ℕ := 2
def nfcAioMsgCloseSession : ℕ := 3
def nfcAioMsgOpenFile : ℕ := 4
def nfcAioMsgCloseFile : ℕ := 5
def nfcAioMsgIo : ℕ := 7
def nfcAioMsgSetSockOpts : ℕ := 9
def nfcAioMsgSetResPool : ℕ := 22

def nfcDisk : ℕ := 2
def nfcOpenFlagsReadOnly : ℕ := 0x1E
def nfcOpenFlagsReadWrite : ℕ := 0x1A

def nfcAioIoWrite : ℕ := 0
def nfcAioIoRead : ℕ := 1

/-- The NFC IO compression types a session may have. -/
inductive Compression
  | none
  | fastlz
deriving DecidableEq, Repr

/-- `NFC_COMPRESSION_NONE` and `NFC_COMPRESSION_FASTLZ`, the high half of the IO opcode. -/
def Compression.code : Compression → ℕ
  | .none => 0
  | .fastlz => 2

/-- The opcode of an IO message: its direction in the low half, its compression type in the high. -/
def ioOpcode (direction ctype : ℕ) : ℕ :=
  direction ||| (ctype <<< 32)

/-! ### The AIO header -/

/-- The fields of an AIO header, packed as `<IIII`. -/
def hdrFields (msgType payloadSize opId : ℕ) : List Field :=
  [.I nfcAioMagic, .I msgType, .I payloadSize, .I opId]

/-- `_pack_aio_hdr`. -/
def packAioHdr (msgType payloadSize opId : ℕ) : Except PyError Bytes :=
  pack (hdrFields msgType payloadSize opId)

/-- A whole AIO message: a header and the payload it announces. -/
def aioMessage (msgType opId : ℕ) (payload : Bytes) : Bytes :=
  (hdrFields msgType payload.length opId).flatMap Field.bytes ++ payload

theorem hdrFields_fits {msgType payloadSize opId : ℕ} :
    (∀ field ∈ hdrFields msgType payloadSize opId, field.Fits) ↔
      msgType < 2 ^ 32 ∧ payloadSize < 2 ^ 32 ∧ opId < 2 ^ 32 := by
  simp only [hdrFields, List.forall_mem_cons, Field.fits_I, List.not_mem_nil, false_imp_iff,
    implies_true, and_true]
  exact and_iff_right (by decide)

/-- The error of a header with the wrong magic. -/
def magicMismatch (magic : ℕ) : PyError :=
  nfcProtocolError
    s!"AIO header magic mismatch: 0x{hexNumeral magic}, expected 0x{hexNumeral nfcAioMagic}"

/-- The error of a header that reports an error: the payload is not read. -/
def headerError (opId size : ℕ) : PyError :=
  nfcProtocolError s!"AIO error opId={opId} size={size}"

/-- The error of a reply that reports an error, with its payload. -/
def replyError (opId size : ℕ) (payload : Bytes) : PyError :=
  nfcProtocolError s!"AIO error opId={opId} size={size} {hexBytes payload}"

/-- `_unpack_aio_hdr`: the type, payload size and opId of a header. -/
def unpackAioHdr (hdr : Bytes) : Except PyError (ℕ × ℕ × ℕ) := do
  let magic ← unpackI hdr 0
  let msgType ← unpackI hdr 4
  let size ← unpackI hdr 8
  let opId ← unpackI hdr 12
  if magic ≠ nfcAioMagic then
    .error (magicMismatch magic)
  else if msgType = nfcAioMsgError then
    .error (headerError opId size)
  else
    .ok (msgType, size, opId)

@[simp] theorem length_hdrFields (msgType payloadSize opId : ℕ) :
    ((hdrFields msgType payloadSize opId).flatMap Field.bytes).length = nfcAioHdrSize := by
  simp [hdrFields, Field.width, nfcAioHdrSize]

/-- The four fields of a packed header. -/
theorem unpack_hdrFields {msgType payloadSize opId : ℕ} (hmsgType : msgType < 2 ^ 32)
    (hpayloadSize : payloadSize < 2 ^ 32) (hopId : opId < 2 ^ 32) (rest : Bytes) :
    unpackI ((hdrFields msgType payloadSize opId).flatMap Field.bytes ++ rest) 0 =
        .ok nfcAioMagic ∧
      unpackI ((hdrFields msgType payloadSize opId).flatMap Field.bytes ++ rest) 4 =
        .ok msgType ∧
      unpackI ((hdrFields msgType payloadSize opId).flatMap Field.bytes ++ rest) 8 =
        .ok payloadSize ∧
      unpackI ((hdrFields msgType payloadSize opId).flatMap Field.bytes ++ rest) 12 =
        .ok opId := by
  refine ⟨?_, ?_, ?_, ?_⟩
  · exact unpackField_fields (show (Field.I nfcAioMagic).Fits by decide) [] _ rest
  · exact unpackField_fields (Field.fits_I.mpr hmsgType) [.I nfcAioMagic] _ rest
  · exact unpackField_fields (Field.fits_I.mpr hpayloadSize) [.I nfcAioMagic, .I msgType] _ rest
  · exact unpackField_fields (Field.fits_I.mpr hopId)
      [.I nfcAioMagic, .I msgType, .I payloadSize] _ rest

/-- Sixteen bytes that unpack to the fields of a header are the packed header. -/
theorem eq_hdrFields {hdr : Bytes} {msgType payloadSize opId : ℕ}
    (hlength : hdr.length = nfcAioHdrSize) (hmagic : unpackI hdr 0 = .ok nfcAioMagic)
    (htype : unpackI hdr 4 = .ok msgType) (hsize : unpackI hdr 8 = .ok payloadSize)
    (hop : unpackI hdr 12 = .ok opId) :
    hdr = (hdrFields msgType payloadSize opId).flatMap Field.bytes := by
  have hlast : (hdr.drop 12).take 4 = hdr.drop 12 :=
    List.take_of_length_le (by rw [List.length_drop, hlength]; decide)
  have hfields : (hdrFields msgType payloadSize opId).flatMap Field.bytes =
      hdr.take 4 ++ ((hdr.drop 4).take 4 ++ ((hdr.drop 8).take 4 ++ hdr.drop 12)) := by
    rw [← hlast, ← encode_unpackField htype, ← encode_unpackField hsize, ← encode_unpackField hop]
    have hfirst := encode_unpackField hmagic
    rw [List.drop_zero] at hfirst
    rw [← hfirst]
    simp only [hdrFields, List.flatMap_cons, List.flatMap_nil, Field.bytes, Field.width,
      Field.value, Int.toNat_natCast, List.append_nil]
  have hthird : (hdr.drop 8).take 4 ++ hdr.drop 12 = hdr.drop 8 := by
    have hsplit := List.take_append_drop 4 (hdr.drop 8)
    rwa [List.drop_drop] at hsplit
  have hsecond : (hdr.drop 4).take 4 ++ hdr.drop 8 = hdr.drop 4 := by
    have hsplit := List.take_append_drop 4 (hdr.drop 4)
    rwa [List.drop_drop] at hsplit
  rw [hfields, hthird, hsecond, List.take_append_drop]

/-- A packed header of any type but the error type unpacks to its fields. -/
theorem unpackAioHdr_hdrFields {msgType payloadSize opId : ℕ} (hmsgType : msgType < 2 ^ 32)
    (hpayloadSize : payloadSize < 2 ^ 32) (hopId : opId < 2 ^ 32)
    (herror : msgType ≠ nfcAioMsgError) :
    unpackAioHdr ((hdrFields msgType payloadSize opId).flatMap Field.bytes) =
      .ok (msgType, payloadSize, opId) := by
  have h := unpack_hdrFields hmsgType hpayloadSize hopId []
  simp only [List.append_nil] at h
  obtain ⟨hmagic, htype, hsize, hop⟩ := h
  simp only [unpackAioHdr, hmagic, htype, hsize, hop, bind, Except.bind, ne_eq, not_true_eq_false,
    if_false, if_neg herror]

/-- `_aio_extra_len`: the size of a fragment's extra on the wire. -/
def aioExtraLen (ctype : ℕ) (body : Bytes) (chunkLen : ℕ) : Except PyError ℕ :=
  if ctype = Compression.fastlz.code then do
    let extraLen ← unpackI body 36
    if extraLen < 1 then
      .error (nfcProtocolError s!"FastLZ extra length {extraLen} is invalid, chunk {chunkLen}")
    else
      .ok extraLen
  else if ctype = Compression.none.code then
    .ok chunkLen
  else
    .error (nfcProtocolError s!"unsupported NFC IO compression type {ctype}")

/-! ### The session object -/

/-- An NFC AIO session with one VMDK opened for I/O. -/
structure NfcDisk where
  sock : Sock
  opId : ℕ
  path : String
  handle : UInt64
  sectorSize : ℕ
  compression : Compression
  aioBufferSize : ℕ
  aioBufferCount : ℕ
  closed : Bool
  sectorSize_pos : 0 < sectorSize
  aioBufferSize_pos : 0 < aioBufferSize
deriving DecidableEq

namespace NfcDisk

/-- A fresh session with sectors of four bytes whose receives meet one segment, to run the model
on. -/
def fresh (stream : Bytes) : NfcDisk where
  sock := ⟨Arrival.segment stream, [], false, none, none⟩
  opId := 0
  path := "[datastore0] vm/vm.vmdk"
  handle := 1
  sectorSize := 4
  compression := .none
  aioBufferSize := nfcAioBufferSize
  aioBufferCount := nfcAioBufferCount
  closed := false
  sectorSize_pos := by decide
  aioBufferSize_pos := by decide

/-- The session with other arrivals to come. -/
def withInbox (disk : NfcDisk) (inbox : List Arrival) : NfcDisk :=
  { disk with sock := { disk.sock with inbox := inbox } }

/-- The session once more arrivals are to come. -/
def meets (disk : NfcDisk) (inbox : List Arrival) : NfcDisk :=
  disk.withInbox (disk.sock.inbox ++ inbox)

/-- A session with nothing unread holds what arrives. -/
theorem meets_holds {disk : NfcDisk} {inbox : List Arrival} (hholds : disk.sock.Holds [])
    (hquiet : Arrival.Quiet inbox) :
    (disk.meets inbox).sock.Holds (Arrival.streamBytes inbox) := by
  refine ⟨hholds.is_open, Arrival.quiet_append.mpr ⟨hholds.quiet, hquiet⟩, ?_⟩
  change Arrival.streamBytes (disk.sock.inbox ++ inbox) = _
  rw [Arrival.streamBytes_append, hholds.stream, List.nil_append]

/-- The session after a call that took one opId and whose socket became `sock`. -/
def afterCall (disk : NfcDisk) (sock : Sock) : NfcDisk :=
  { disk with opId := disk.opId + 1, sock := sock }

/-- The socket of a session. -/
def sockPart : Proc.Part NfcDisk Sock where
  get := NfcDisk.sock
  set := fun sock disk ↦ { disk with sock := sock }

/-- `NfcDisk._next_op_id`. -/
def nextOpId : Py NfcDisk ℕ := do
  let disk ← Proc.get
  Proc.modify fun disk ↦ { disk with opId := disk.opId + 1 }
  pure disk.opId

theorem nextOpId_apply (disk : NfcDisk) :
    nextOpId disk = (.ok disk.opId, { disk with opId := disk.opId + 1 }) :=
  rfl

/-- `NfcDisk._aio_send`: send one AIO request, and return its opId. -/
def aioSend (msgType : ℕ) (payload extra : Bytes) : Py NfcDisk ℕ := do
  let opId ← nextOpId
  let hdr ← Proc.lift (packAioHdr msgType payload.length opId)
  Proc.zoom sockPart (Sock.sendall (hdr ++ payload ++ extra))
  pure opId

/-- `NfcDisk._aio_recv_reply`: the type, opId and payload of the next AIO reply. -/
def aioRecvReply : Py NfcDisk (ℕ × ℕ × Bytes) := do
  let rhdr ← Proc.zoom sockPart (recvn nfcAioHdrSize)
  let magic ← Proc.lift (unpackI rhdr 0)
  let rtype ← Proc.lift (unpackI rhdr 4)
  let rsize ← Proc.lift (unpackI rhdr 8)
  let rop ← Proc.lift (unpackI rhdr 12)
  Proc.raiseIf (magic ≠ nfcAioMagic) (magicMismatch magic)
  let body ← Proc.zoom sockPart (recvnIfAny rsize)
  Proc.raiseIf (rtype = nfcAioMsgError) (replyError rop rsize body)
  pure (rtype, rop, body)

/-- `NfcDisk._aio_roundtrip`: send one AIO request and return the payload of its reply, with the
`extraRecv` bytes that follow it. -/
def aioRoundtrip (msgType : ℕ) (payload extra : Bytes) (extraRecv : ℕ) : Py NfcDisk Bytes := do
  let opId ← aioSend msgType payload extra
  let (rtype, rop, body) ← aioRecvReply
  Proc.raiseIf (rtype ≠ msgType ∨ rop ≠ opId) (nfcProtocolError
    s!"AIO reply type={rtype} opId={rop}, expected type={msgType} opId={opId}")
  let more ← Proc.zoom sockPart (recvnIfAny extraRecv)
  pure (body ++ more)

/-- The request of a round trip is sent when sends succeed. -/
theorem aioSend_of_sends {disk : NfcDisk} {msgType : ℕ} {payload : Bytes} (extra : Bytes)
    (hmsgType : msgType < 2 ^ 32) (hpayload : payload.length < 2 ^ 32) (hopId : disk.opId < 2 ^ 32)
    (hsends : disk.sock.Sends) :
    aioSend msgType payload extra disk = (.ok disk.opId,
      disk.afterCall (disk.sock.afterSend (aioMessage msgType disk.opId payload ++ extra))) := by
  have hhdr : packAioHdr msgType payload.length disk.opId =
      .ok ((hdrFields msgType payload.length disk.opId).flatMap Field.bytes) :=
    pack_of_fits (hdrFields_fits.mpr ⟨hmsgType, hpayload, hopId⟩)
  rw [aioSend, Proc.bind_of_ok (nextOpId_apply disk), Proc.lift_bind_of_ok hhdr]
  exact Proc.bind_of_ok (Proc.zoom_of_eq sockPart (Sock.sendall_of_sends hsends _))

/-- The session has sent and received nothing; it may have used up opIds. -/
def Refused (before after : NfcDisk) : Prop :=
  ∃ opId, before.opId ≤ opId ∧ after = { before with opId := opId }

/-- The session has received bytes, and nothing else of it has changed. -/
def Received (before after : NfcDisk) : Prop :=
  ∃ taken, before.sock.Took taken after.sock ∧ after = { before with sock := after.sock }

theorem Received.refl (disk : NfcDisk) : disk.Received disk :=
  ⟨[], Sock.Took.refl _, rfl⟩

theorem Received.trans (first middle last : NfcDisk) (hfirst : first.Received middle)
    (hlast : middle.Received last) : first.Received last := by
  obtain ⟨taken, htook, hmiddle⟩ := hfirst
  obtain ⟨taken', htook', hafter⟩ := hlast
  exact ⟨_, htook.trans htook', by rw [hafter, hmiddle]⟩

theorem moves_sockPart {α : Type} {body : Py Sock α}
    (hbody : Proc.Moves (fun before after : Sock ↦ ∃ taken, before.Took taken after) body) :
    Proc.Moves Received (Proc.zoom sockPart body) := by
  refine .zoom (fun disk last htook ↦ ?_) hbody
  obtain ⟨taken, htook⟩ := htook
  exact ⟨taken, htook, rfl⟩

/-- Waiting for a reply only receives, whether it returns or raises. -/
theorem moves_aioRecvReply : Proc.Moves Received aioRecvReply := by
  unfold aioRecvReply
  refine .bind Received.trans (moves_sockPart (moves_recvn _)) fun rhdr ↦ ?_
  refine .bind Received.trans (.lift Received.refl _) fun magic ↦ ?_
  refine .bind Received.trans (.lift Received.refl _) fun rtype ↦ ?_
  refine .bind Received.trans (.lift Received.refl _) fun rsize ↦ ?_
  refine .bind Received.trans (.lift Received.refl _) fun rop ↦ ?_
  refine .bind Received.trans (.raiseIf Received.refl _ _) fun _ ↦ ?_
  refine .bind Received.trans (moves_sockPart (by rw [recvnIfAny_eq]; exact moves_recvn _))
    fun body ↦ ?_
  exact .bind Received.trans (.raiseIf Received.refl _ _) fun _ ↦ .pure Received.refl _

/-- Waiting for a reply takes a whole message from the stream, and raises when it reports an
error. -/
theorem aioRecvReply_of_holds {disk : NfcDisk} {msgType opId : ℕ} {payload rest : Bytes}
    (hmsgType : msgType < 2 ^ 32) (hpayload : payload.length < 2 ^ 32) (hopId : opId < 2 ^ 32)
    (hholds : disk.sock.Holds (aioMessage msgType opId payload ++ rest)) :
    ∃ sock, disk.sock.Took (aioMessage msgType opId payload) sock ∧
      aioRecvReply disk =
        (if msgType = nfcAioMsgError then .error (replyError opId payload.length payload)
          else .ok (msgType, opId, payload), { disk with sock := sock }) := by
  rw [aioMessage, List.append_assoc] at hholds
  obtain ⟨hmagic, htype, hsize, hop⟩ := unpack_hdrFields hmsgType hpayload hopId []
  rw [List.append_nil] at hmagic htype hsize hop
  obtain ⟨middle, hhdr, htookHdr⟩ := recvn_of_holds hholds (length_hdrFields _ _ _)
  obtain ⟨last, hbody, htookBody⟩ := recvn_of_holds (htookHdr.holds hholds) rfl
  refine ⟨last, htookHdr.trans htookBody, ?_⟩
  have hreceived : Proc.zoom sockPart (recvnIfAny payload.length) { disk with sock := middle } =
      (.ok payload, { disk with sock := last }) := by
    rw [recvnIfAny_eq]
    exact Proc.zoom_of_eq sockPart hbody
  rw [aioRecvReply, Proc.bind_of_ok (Proc.zoom_of_eq sockPart hhdr), Proc.lift_bind_of_ok hmagic,
    Proc.lift_bind_of_ok htype, Proc.lift_bind_of_ok hsize, Proc.lift_bind_of_ok hop,
    Proc.raiseIf_bind_of_neg (not_not.mpr rfl)]
  refine (Proc.bind_of_ok hreceived).trans ?_
  by_cases herror : msgType = nfcAioMsgError
  · rw [Proc.raiseIf_bind_of_pos herror, if_pos herror]
  · rw [Proc.raiseIf_bind_of_neg herror, if_neg herror]
    rfl

/-- A reply that was waited for is a whole message at the head of the stream. -/
theorem aioRecvReply_ok {disk after : NfcDisk} {rtype rop : ℕ} {body : Bytes}
    (h : aioRecvReply disk = (.ok (rtype, rop, body), after)) :
    disk.sock.Took (aioMessage rtype rop body) after.sock ∧
      after = { disk with sock := after.sock } ∧ rtype ≠ nfcAioMsgError ∧ body.length < 2 ^ 32 := by
  unfold aioRecvReply at h
  obtain ⟨hdr, headed, hrecvHdr, h⟩ := Proc.bind_eq_ok.mp h
  obtain ⟨magic, hmagic, h⟩ := Proc.lift_bind_eq_ok.mp h
  obtain ⟨msgType, htype, h⟩ := Proc.lift_bind_eq_ok.mp h
  obtain ⟨size, hsize, h⟩ := Proc.lift_bind_eq_ok.mp h
  obtain ⟨opId, hop, h⟩ := Proc.lift_bind_eq_ok.mp h
  obtain ⟨hsame, h⟩ := Proc.raiseIf_bind_eq_ok.mp h
  obtain ⟨payload, bodied, hrecvBody, h⟩ := Proc.bind_eq_ok.mp h
  obtain ⟨herror, hpure⟩ := Proc.raiseIf_bind_eq_ok.mp h
  rw [Proc.pure_apply] at hpure
  simp only [Prod.mk.injEq, Except.ok.injEq] at hpure
  obtain ⟨⟨rfl, rfl, rfl⟩, rfl⟩ := hpure
  rw [recvnIfAny_eq] at hrecvBody
  obtain ⟨middle, hhdr, rfl⟩ := Proc.zoom_eq_ok.mp hrecvHdr
  obtain ⟨last, hbody, rfl⟩ := Proc.zoom_eq_ok.mp hrecvBody
  obtain ⟨hhdrLength, htookHdr⟩ := recvn_ok hhdr
  obtain ⟨hbodyLength, htookBody⟩ := recvn_ok hbody
  obtain rfl : magic = nfcAioMagic := not_not.mp hsame
  have hpacked := eq_hdrFields hhdrLength hmagic htype hsize hop
  refine ⟨?_, rfl, herror, ?_⟩
  · rw [aioMessage, hbodyLength, ← hpacked]
    exact htookHdr.trans htookBody
  · rw [hbodyLength]
    exact unpackField_lt hsize

/-- A round trip completes when a reply of its type and opId is at the head of the stream. -/
theorem aioRoundtrip_of_reply {disk : NfcDisk} {msgType : ℕ} {body rest : Bytes}
    (payload extra : Bytes) (hmsgType : msgType < 2 ^ 32) (herror : msgType ≠ nfcAioMsgError)
    (hpayload : payload.length < 2 ^ 32) (hbody : body.length < 2 ^ 32) (hopId : disk.opId < 2 ^ 32)
    (hsends : disk.sock.Sends)
    (hholds : disk.sock.Holds (aioMessage msgType disk.opId body ++ rest)) :
    ∃ sock, aioRoundtrip msgType payload extra 0 disk = (.ok body, disk.afterCall sock) ∧
      disk.sock.Exchanged (aioMessage msgType disk.opId payload ++ extra)
        (aioMessage msgType disk.opId body) sock := by
  have hsent := Sock.sendall_ok (Sock.sendall_of_sends hsends
    (aioMessage msgType disk.opId payload ++ extra))
  obtain ⟨sock, htook, hreply⟩ := aioRecvReply_of_holds hmsgType hbody hopId
    (show (disk.afterCall (disk.sock.afterSend _)).sock.Holds _ from hsent.holds hholds)
  rw [if_neg herror] at hreply
  have hwhole := hsent.trans (.of_took htook)
  rw [List.append_nil, List.nil_append] at hwhole
  refine ⟨sock, ?_, hwhole⟩
  rw [aioRoundtrip, Proc.bind_of_ok (aioSend_of_sends extra hmsgType hpayload hopId hsends),
    Proc.bind_of_ok hreply]
  simp only
  rw [Proc.raiseIf_bind_of_neg (by simp), recvnIfAny, if_pos rfl]
  refine Prod.ext ?_ rfl
  exact congrArg Except.ok (List.append_nil body)

end NfcDisk

end OpenVixDiskLib
