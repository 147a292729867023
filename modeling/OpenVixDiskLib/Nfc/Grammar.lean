import OpenVixDiskLib.Base.SelfDelimiting
import OpenVixDiskLib.Nfc.Session

/-!
# The grammar of a session

What a client may say on an NFC connection. A message ends where it says so itself: a classic message
behind 264 bytes, the connection data behind two strings whose lengths it holds, an AIO message behind
its payload and the extra that its payload announces (`Token.WellFormed`). So bytes are cut into
messages in at most one way (`Token.selfDelimiting`).

`SessionText` is a whole session, by what it says, and `SessionText.tokens` its messages: ten messages
that open the disk, the IO requests, and three messages that close it. The AIO messages of a legal
session carry the opIds from 0 on, one for each request, and all frames of a write carry the same.
-/

set_option autoImplicit false
set_option relaxedAutoImplicit false

namespace OpenVixDiskLib

/-! ### Where a message ends -/

/-- The size of the body of a classic message. -/
def classicBodyLength (msgType : ℕ) : Option ℕ :=
  if msgType = nfcMsgHandshake then some 9
  else if msgType = nfcMsgVersion ∨ msgType = nfcMsgSessionFeatures then some 4
  else if msgType = nfcMsgSessionParams ∨ msgType = nfcMsgAioSessionOpen ∨
      msgType = nfcMsgSessionComplete then some 0
  else none

/-- The size of the extra behind an AIO request: the path behind an OPEN_FILE, the data behind a frame
of a write. -/
def requestExtraLength (msgType : ℕ) (payload : Bytes) : Except PyError ℕ :=
  if msgType = nfcAioMsgOpenFile then unpackI payload 0
  else if msgType = nfcAioMsgIo then do
    let opcode ← unpackQ payload 8
    if opcode % 2 ^ 32 = nfcAioIoWrite then unpackI payload 36 else .ok 0
  else .ok 0

namespace Token

/-- A message whose bytes say where it ends. -/
def WellFormed : Token → Prop
  | .classic msgType body => classicBodyLength msgType = some body.length
  | .connection clientName opId => clientName.length < 2 ^ 32 ∧ opId.length < 2 ^ 32
  | .aio msgType opId payload extra => msgType < 2 ^ 32 ∧ opId < 2 ^ 32 ∧
      payload.length < 2 ^ 32 ∧ requestExtraLength msgType payload = .ok extra.length

instance : DecidablePred WellFormed
  | .classic msgType body => inferInstanceAs (Decidable (classicBodyLength msgType = some body.length))
  | .connection clientName opId =>
    inferInstanceAs (Decidable (clientName.length < 2 ^ 32 ∧ opId.length < 2 ^ 32))
  | .aio msgType opId payload extra => inferInstanceAs (Decidable (msgType < 2 ^ 32 ∧
      opId < 2 ^ 32 ∧ payload.length < 2 ^ 32 ∧
      requestExtraLength msgType payload = .ok extra.length))

/-- The number a message begins with. -/
def tag : Token → ℕ
  | .classic msgType _ => msgType
  | .connection _ _ => nfcMsgConnectionData
  | .aio _ _ _ _ => nfcAioMagic

/-- What follows the tag. -/
def tail : Token → Bytes
  | .classic msgType body =>
    body ++ List.replicate (nfcMsgSize - ((Field.I msgType).bytes ++ body).length) 0
  | .connection clientName opId =>
    connectionLengths clientName opId ++ List.replicate (nfcMsgSize -
      ((Field.I nfcMsgConnectionData).bytes ++ connectionLengths clientName opId).length) 0 ++
      clientName ++ opId
  | .aio msgType opId payload extra =>
    [Field.I msgType, Field.I payload.length, Field.I opId].flatMap Field.bytes ++ payload ++ extra

theorem bytes_eq (token : Token) : token.bytes = (Field.I token.tag).bytes ++ token.tail := by
  cases token with
  | classic msgType body => exact List.append_assoc _ _ _
  | connection clientName opId =>
    simp only [bytes, nfcMessage, ljust, tag, tail, List.append_assoc]
  | aio msgType opId payload extra =>
    simp only [bytes, aioMessage, hdrFields, tag, tail, List.flatMap_cons, List.append_assoc]

/-- The types of classic messages, with the size of their bodies. -/
theorem classic_lt {msgType size : ℕ} (h : classicBodyLength msgType = some size) :
    msgType < 2 ^ 32 ∧ msgType ≠ nfcMsgConnectionData ∧ msgType ≠ nfcAioMagic := by
  unfold classicBodyLength at h
  split_ifs at h with hhandshake hfour hnone
  · subst hhandshake
    decide
  · obtain rfl | rfl := hfour <;> decide
  · obtain rfl | rfl | rfl := hnone <;> decide

theorem WellFormed.tag_lt {token : Token} (htoken : token.WellFormed) : token.tag < 2 ^ 32 := by
  cases token with
  | classic msgType body => exact (classic_lt htoken).1
  | connection clientName opId => exact show nfcMsgConnectionData < 2 ^ 32 by decide
  | aio msgType opId payload extra => exact show nfcAioMagic < 2 ^ 32 by decide

/-- Fitting fields of the same widths are read off the start of a stream. -/
theorem fields_injOn {first second : List Field} {rest rest' : Bytes}
    (hfirst : ∀ field ∈ first, field.Fits) (hsecond : ∀ field ∈ second, field.Fits)
    (hwidths : first.map Field.width = second.map Field.width)
    (h : first.flatMap Field.bytes ++ rest = second.flatMap Field.bytes ++ rest') :
    first.map Field.value = second.map Field.value ∧ rest = rest' := by
  have hlength : (first.flatMap Field.bytes).length = (second.flatMap Field.bytes).length := by
    rw [List.length_flatMap, List.length_flatMap]
    simp only [Field.length_bytes]
    exact congrArg List.sum hwidths
  obtain ⟨hfields, hrest⟩ := List.append_inj h hlength
  exact ⟨flatMap_bytes_injOn hfirst hsecond hwidths hfields, hrest⟩

/-- Classic messages of one type are as long as one another. -/
theorem classic_unique {msgType : ℕ} {body body' rest rest' : Bytes}
    (hbody : classicBodyLength msgType = some body.length)
    (hbody' : classicBodyLength msgType = some body'.length)
    (h : (classic msgType body).tail ++ rest = (classic msgType body').tail ++ rest') :
    body = body' ∧ rest = rest' := by
  have hlength : body.length = body'.length := Option.some.inj (hbody.symm.trans hbody')
  have hpadding : ((Field.I msgType).bytes ++ body).length =
      ((Field.I msgType).bytes ++ body').length := by
    rw [List.length_append, List.length_append, hlength]
  rw [tail, tail, hpadding, List.append_assoc, List.append_assoc] at h
  obtain ⟨rfl, hrest⟩ := List.append_inj h hlength
  exact ⟨rfl, List.append_cancel_left hrest⟩

/-- The connection data tells where its strings end. -/
theorem connection_unique {clientName clientName' opId opId' rest rest' : Bytes}
    (hfits : (connection clientName opId).WellFormed)
    (hfits' : (connection clientName' opId').WellFormed)
    (h : (connection clientName opId).tail ++ rest = (connection clientName' opId').tail ++ rest') :
    clientName = clientName' ∧ opId = opId' ∧ rest = rest' := by
  have hlengthFits : ∀ {first second : Bytes}, (connection first second).WellFormed →
      ∀ field ∈ [Field.I first.length, Field.I second.length], field.Fits := by
    intro first second hboth
    rw [List.forall_mem_cons, List.forall_mem_singleton]
    exact ⟨Field.fits_I.mpr hboth.1, Field.fits_I.mpr hboth.2⟩
  simp only [tail, List.append_assoc] at h
  obtain ⟨hvalues, hpadded⟩ := fields_injOn (hlengthFits hfits) (hlengthFits hfits') rfl h
  simp only [List.map_cons, List.map_nil, Field.value, List.cons.injEq, Nat.cast_inj, and_true]
    at hvalues
  obtain ⟨hname, hop⟩ := hvalues
  have hstrings := List.append_inj_right hpadded (by
    simp only [connectionLengths, hname, hop])
  obtain ⟨rfl, hafter⟩ := List.append_inj hstrings hname
  obtain ⟨rfl, hrest⟩ := List.append_inj hafter hop
  exact ⟨rfl, rfl, hrest⟩

/-- The header of an AIO message tells where its payload ends, and the payload where its extra does. -/
theorem aio_unique {msgType msgType' opId opId' : ℕ} {payload payload' extra extra' rest rest' : Bytes}
    (hfits : (aio msgType opId payload extra).WellFormed)
    (hfits' : (aio msgType' opId' payload' extra').WellFormed)
    (h : (aio msgType opId payload extra).tail ++ rest =
      (aio msgType' opId' payload' extra').tail ++ rest') :
    aio msgType opId payload extra = aio msgType' opId' payload' extra' ∧ rest = rest' := by
  have hheaderFits : ∀ {type op : ℕ} {body more : Bytes}, (aio type op body more).WellFormed →
      ∀ field ∈ [Field.I type, Field.I body.length, Field.I op], field.Fits := by
    intro type op body more hall
    rw [List.forall_mem_cons, List.forall_mem_cons, List.forall_mem_singleton]
    exact ⟨Field.fits_I.mpr hall.1, Field.fits_I.mpr hall.2.2.1, Field.fits_I.mpr hall.2.1⟩
  simp only [tail, List.append_assoc] at h
  obtain ⟨hvalues, hbody⟩ := fields_injOn (hheaderFits hfits) (hheaderFits hfits') rfl h
  simp only [List.map_cons, List.map_nil, Field.value, List.cons.injEq, Nat.cast_inj, and_true]
    at hvalues
  obtain ⟨rfl, hlength, rfl⟩ := hvalues
  obtain ⟨rfl, hmore⟩ := List.append_inj hbody hlength
  have hextra : extra.length = extra'.length :=
    Except.ok.inj (hfits.2.2.2.symm.trans hfits'.2.2.2)
  obtain ⟨rfl, hrest⟩ := List.append_inj hmore hextra
  exact ⟨rfl, hrest⟩

/-- Bytes are cut into messages in at most one way. -/
theorem selfDelimiting : SelfDelimiting bytes WellFormed where
  ne_nil token _ hnil := by
    have hlength := congrArg List.length hnil
    rw [bytes_eq, List.length_append, Field.length_bytes, List.length_nil] at hlength
    exact absurd hlength (by simp [Field.width])
  unique := by
    intro first second rest rest' hfirst hsecond h
    rw [bytes_eq, bytes_eq, List.append_assoc, List.append_assoc] at h
    have hheads : [Field.I first.tag].flatMap Field.bytes ++ (first.tail ++ rest) =
        [Field.I second.tag].flatMap Field.bytes ++ (second.tail ++ rest') := by
      rw [List.flatMap_singleton, List.flatMap_singleton]
      exact h
    obtain ⟨hvalues, htails⟩ := fields_injOn
      (List.forall_mem_singleton.mpr (Field.fits_I.mpr hfirst.tag_lt))
      (List.forall_mem_singleton.mpr (Field.fits_I.mpr hsecond.tag_lt)) rfl hheads
    have htag : first.tag = second.tag := by
      simpa only [List.map_cons, List.map_nil, Field.value, List.cons.injEq, Nat.cast_inj,
        and_true] using hvalues
    cases first with
    | classic msgType body =>
      cases second with
      | classic msgType' body' =>
        obtain rfl : msgType = msgType' := htag
        obtain ⟨rfl, hrest⟩ := classic_unique hfirst hsecond htails
        exact ⟨rfl, hrest⟩
      | connection => exact absurd htag (classic_lt hfirst).2.1
      | aio => exact absurd htag (classic_lt hfirst).2.2
    | connection clientName opId =>
      cases second with
      | classic => exact absurd htag.symm (classic_lt hsecond).2.1
      | connection clientName' opId' =>
        obtain ⟨rfl, rfl, hrest⟩ := connection_unique hfirst hsecond htails
        exact ⟨rfl, hrest⟩
      | aio => exact absurd htag (show nfcMsgConnectionData ≠ nfcAioMagic by decide)
    | aio msgType opId payload extra =>
      cases second with
      | classic => exact absurd htag.symm (classic_lt hsecond).2.2
      | connection => exact absurd htag (show nfcAioMagic ≠ nfcMsgConnectionData by decide)
      | aio => exact aio_unique hfirst hsecond htails

end Token

/-! ### Sessions -/

/-- The payload of an IO message: 44 bytes with the handle of the file and the direction. -/
structure IoPayload (handle : UInt64) (direction : ℕ) (payload : Bytes) : Prop where
  length_eq : payload.length = 44
  handle_eq : unpackQ payload 0 = .ok handle.toNat
  opcode : ∃ opcode, unpackQ payload 8 = .ok opcode ∧ opcode % 2 ^ 32 = direction

/-- The messages of one IO request: a read is one message, a write is one or more frames of one opId,
each with the extra it announces behind it. -/
inductive LegalRequest (handle : UInt64) (opId : ℕ) : List Token → Prop
  | read {payload : Bytes} (hpayload : IoPayload handle nfcAioIoRead payload) :
      LegalRequest handle opId [.aio nfcAioMsgIo opId payload []]
  | write {frames : List (Bytes × Bytes)} (hsome : frames ≠ [])
      (hframes : ∀ frame ∈ frames, IoPayload handle nfcAioIoWrite frame.1 ∧
        unpackI frame.1 36 = .ok frame.2.length) :
      LegalRequest handle opId
        (frames.map fun frame ↦ .aio nfcAioMsgIo opId frame.1 frame.2)

/-- A session, by what the client says in it: `requests` are the messages of its reads and writes. -/
structure SessionText where
  version : ℤ
  clientName : Bytes
  opId : Bytes
  bufferSize : ℕ
  bufferCount : ℕ
  path : Bytes
  readOnly : Bool
  handle : UInt64
  requests : List (List Token)

namespace SessionText

/-- HANDSHAKE, SESSION_PARAMS, VERSION, CONNECTION_DATA, FEATURES, AIO_SESSION_OPEN, and the AIO messages
OPEN_SESSION, SET_SOCK_OPTS, SET_RES_POOL and OPEN_FILE. -/
def opening (text : SessionText) : List Token :=
  [.classic nfcMsgHandshake (asciiBytes "PlainText"),
    .classic nfcMsgSessionParams [],
    .classic nfcMsgVersion (Field.I text.version).bytes,
    .connection text.clientName text.opId,
    .classic nfcMsgSessionFeatures (Field.I nfcSessionFeatureInterruptionSwitch).bytes,
    .classic nfcMsgAioSessionOpen [],
    .aio nfcAioMsgOpenSession 0 ([Field.I 0, Field.I text.bufferSize, Field.I text.bufferCount,
      Field.I 0].flatMap Field.bytes) [],
    .aio nfcAioMsgSetSockOpts 1 (List.replicate 12 0) [],
    .aio nfcAioMsgSetResPool 2 (Field.I 1).bytes [],
    .aio nfcAioMsgOpenFile 3 (ljust 60 ([Field.I text.path.length, Field.I 0, Field.I 0, Field.I 0,
      Field.I nfcDisk, Field.I (NfcDisk.openFlags text.readOnly)].flatMap Field.bytes)) text.path]

/-- CLOSE_FILE with the handle, CLOSE_SESSION and SESSION_COMPLETE. -/
def closing (text : SessionText) : List Token :=
  [.aio nfcAioMsgCloseFile (4 + text.requests.length) (Field.Q text.handle.toNat).bytes [],
    .aio nfcAioMsgCloseSession (4 + text.requests.length + 1) (Field.I 0).bytes [],
    .classic nfcMsgSessionComplete []]

/-- All messages of the session. -/
def tokens (text : SessionText) : List Token :=
  text.opening ++ text.requests.flatten ++ text.closing

/-- The fields of the messages fit, and the requests carry the opIds that follow the opening. -/
structure Legal (text : SessionText) : Prop where
  version_fits : (Field.I text.version).Fits
  clientName_lt : text.clientName.length < 2 ^ 32
  opId_lt : text.opId.length < 2 ^ 32
  bufferSize_lt : text.bufferSize < 2 ^ 32
  bufferCount_lt : text.bufferCount < 2 ^ 32
  path_lt : text.path.length < 2 ^ 32
  requests : ∀ k (hk : k < text.requests.length),
    LegalRequest text.handle (4 + k) text.requests[k]
  count_le : text.requests.length + 6 ≤ 2 ^ 32

end SessionText

/-- An IO message announces the extra behind it. -/
theorem IoPayload.wellFormed {handle : UInt64} {direction opId : ℕ} {payload extra : Bytes}
    (hpayload : IoPayload handle direction payload) (hopId : opId < 2 ^ 32)
    (hextra : if direction = nfcAioIoWrite then unpackI payload 36 = .ok extra.length
      else extra = []) :
    (Token.aio nfcAioMsgIo opId payload extra).WellFormed := by
  obtain ⟨hlength, -, opcode, hopcode, rfl⟩ := hpayload
  refine ⟨show nfcAioMsgIo < 2 ^ 32 by decide, hopId, by omega, ?_⟩
  rw [requestExtraLength, if_neg (by decide), if_pos rfl, hopcode]
  change (if opcode % 2 ^ 32 = nfcAioIoWrite then unpackI payload 36 else .ok 0) = _
  split_ifs at hextra ⊢ with hwrite
  · exact hextra
  · rw [hextra, List.length_nil]

/-- The messages of a legal request are well formed. -/
theorem LegalRequest.wellFormed {handle : UInt64} {opId : ℕ} {tokens : List Token}
    (hrequest : LegalRequest handle opId tokens) (hopId : opId < 2 ^ 32) :
    ∀ token ∈ tokens, token.WellFormed := by
  cases hrequest with
  | read hpayload =>
    rw [List.forall_mem_singleton]
    exact hpayload.wellFormed hopId rfl
  | write hsome hframes =>
    rw [List.forall_mem_map]
    intro frame hmem
    exact (hframes frame hmem).1.wellFormed hopId (hframes frame hmem).2

/-- The messages of a legal session are well formed. -/
theorem SessionText.Legal.wellFormed {text : SessionText} (hlegal : text.Legal) :
    ∀ token ∈ text.tokens, token.WellFormed := by
  have hcount := hlegal.count_le
  have hfield : ∀ value : ℤ, (Field.I value).bytes.length = 4 := fun _ ↦ Field.length_bytes _
  have hsession : ([Field.I 0, Field.I text.bufferSize, Field.I text.bufferCount,
      Field.I 0].flatMap Field.bytes).length < 2 ^ 32 := by
    simp [Field.width]
  have hpath : (Token.aio nfcAioMsgOpenFile 3 (ljust 60 ([Field.I text.path.length, Field.I 0,
      Field.I 0, Field.I 0, Field.I nfcDisk, Field.I (NfcDisk.openFlags text.readOnly)].flatMap
      Field.bytes)) text.path).WellFormed := by
    refine ⟨show nfcAioMsgOpenFile < 2 ^ 32 by decide, by decide, ?_, ?_⟩
    · rw [length_ljust (by simp [Field.width])]
      decide
    · rw [requestExtraLength, if_pos rfl]
      exact unpackField_fields (Field.fits_I.mpr hlegal.path_lt) [] _ _
  intro token hmem
  rw [tokens, List.mem_append, List.mem_append] at hmem
  obtain (hopening | hrequest) | hclosing := hmem
  · revert token
    simp only [opening, List.forall_mem_cons, List.not_mem_nil, false_imp_iff, implies_true, and_true]
    refine ⟨by decide, by decide, congrArg some (hfield _).symm,
      ⟨hlegal.clientName_lt, hlegal.opId_lt⟩, by decide, by decide,
      ⟨by decide, by decide, hsession, rfl⟩, by decide, by decide, hpath⟩
  · obtain ⟨request, hrequest, hmem⟩ := List.mem_flatten.mp hrequest
    obtain ⟨k, hk, rfl⟩ := List.getElem_of_mem hrequest
    exact (hlegal.requests k hk).wellFormed (by omega) token hmem
  · revert token
    simp only [closing, List.forall_mem_cons, List.not_mem_nil, false_imp_iff, implies_true, and_true]
    refine ⟨⟨by decide, by omega, ?_, rfl⟩, ⟨by decide, by omega, by decide, rfl⟩, by decide⟩
    rw [Field.length_bytes]
    exact show 8 < 2 ^ 32 by decide

end OpenVixDiskLib
