import OpenVixDiskLib.Nfc.Session

/-!
# Which streams open a disk

The replies that `open_disk` waits for, as a grammar: three classic messages, the second of which names a
version, three AIO replies, and the reply to OPEN_FILE with a handle and a sector size (`Welcome`). On a
connection whose sends succeed and whose receives do not time out, `open_disk` returns exactly when its
arguments pass their checks and the stream starts with a welcome (`openDisk_returns_iff`), and then the disk
has the welcome's handle and sector size, and exactly the welcome has been taken.
-/

set_option autoImplicit false
set_option relaxedAutoImplicit false

namespace OpenVixDiskLib

open NfcDisk
open Arrival (Quiet streamBytes)

/-! ### The grammar -/

/-- A classic message of the server: a type and 260 bytes. -/
def classicReply (msgType : ℕ) (body : Bytes) : Bytes :=
  (Field.I msgType).bytes ++ body

/-- The replies of the handshake. -/
inductive Greeting : Bytes → Prop
  | intro {params version session : Bytes} {remoteVersion : ℕ} (hparams : params.length = nfcMsgSize - 4)
      (hversion : version.length = nfcMsgSize - 4) (hsession : session.length = nfcMsgSize - 4)
      (hremote : unpackI version 0 = .ok remoteVersion) (hrecent : 3 ≤ remoteVersion) :
      Greeting (classicReply nfcMsgSessionParamsReply params ++
        (classicReply nfcMsgVersion version ++ classicReply nfcMsgAioSessionOpen session))

/-- The replies to the messages that open a file, for the opIds from one on. The payloads of the first three
may be anything. -/
inductive OpenReplies (opId : ℕ) (handle : UInt64) (sectorSize : ℕ) : Bytes → Prop
  | intro {session sockOpts resPool file : Bytes} {size : { size : ℕ // 0 < size }}
      (hsession : session.length < 2 ^ 32) (hsockOpts : sockOpts.length < 2 ^ 32)
      (hresPool : resPool.length < 2 ^ 32) (hfile : file.length < 2 ^ 32)
      (hparse : parseOpenReply file = .ok (handle, size)) (hsize : size.val = sectorSize) :
      OpenReplies opId handle sectorSize (aioMessage nfcAioMsgOpenSession opId session ++
        (aioMessage nfcAioMsgSetSockOpts (opId + 1) sockOpts ++
          (aioMessage nfcAioMsgSetResPool (opId + 2) resPool ++
            aioMessage nfcAioMsgOpenFile (opId + 3) file)))

/-- The replies that open a disk with this handle and this sector size. -/
def Welcome (handle : UInt64) (sectorSize : ℕ) (bytes : Bytes) : Prop :=
  ∃ greeting replies, Greeting greeting ∧ OpenReplies 0 handle sectorSize replies ∧
    bytes = greeting ++ replies

/-! ### What a run that returns has heard -/

-- A run that is taken apart unfolds, and a classic message has 264 bytes to receive.
attribute [local irreducible] recvn recvNfcMsg

/-- A classic message that was received is at the head of the stream. -/
theorem recvNfcMsg_ok {sock after : Sock} {msgType : ℕ} {body : Bytes}
    (h : recvNfcMsg sock = (.ok (msgType, body), after)) :
    body.length = nfcMsgSize - 4 ∧ sock.Took (classicReply msgType body) after := by
  unfold recvNfcMsg at h
  obtain ⟨frame, received, hrecv, h⟩ := Proc.bind_eq_ok.mp h
  obtain ⟨unpacked, hunpack, h⟩ := Proc.lift_bind_eq_ok.mp h
  rw [Proc.pure_apply, Prod.mk.injEq, Except.ok.injEq, Prod.mk.injEq] at h
  obtain ⟨⟨rfl, rfl⟩, rfl⟩ := h
  obtain ⟨hlength, htook⟩ := recvn_ok hrecv
  have hframe : classicReply unpacked (frame.drop 4) = frame := by
    have hhead := encode_unpackField hunpack
    rw [List.drop_zero] at hhead
    change LittleEndian.encode 4 unpacked ++ frame.drop 4 = frame
    rw [hhead, List.take_append_drop]
  refine ⟨by rw [List.length_drop, hlength], ?_⟩
  rw [hframe]
  exact htook

theorem sendNfcMsg_inbox {sock after : Sock} {msgType : ℕ} {body : Bytes} {result : Except PyError Unit}
    (h : sendNfcMsg msgType body sock = (result, after)) : after.inbox = sock.inbox := by
  unfold sendNfcMsg at h
  by_cases hlong : nfcMsgSize - 4 < body.length
  · rw [Proc.raiseIf_bind_of_pos hlong] at h
    exact congrArg Sock.inbox (Prod.mk.inj h).2.symm
  rw [Proc.raiseIf_bind_of_neg hlong] at h
  rcases hpack : pack [.I msgType] with error | packed
  · rw [hpack] at h
    exact congrArg Sock.inbox (Prod.mk.inj h).2.symm
  · rw [Proc.lift_bind_of_ok hpack] at h
    exact Sock.sendall_inbox h

/-- A handshake that returns has heard a greeting. -/
theorem handshake_ok {start after : Sock} {clientName opId : String} {version : ℤ}
    (h : handshake clientName opId version start = (.ok (), after)) :
    ∃ greeting, Greeting greeting ∧ streamBytes start.inbox = greeting ++ streamBytes after.inbox := by
  unfold handshake at h
  obtain ⟨⟨⟩, first, hfirst, h⟩ := Proc.bind_eq_ok.mp h
  obtain ⟨⟨⟩, second, hsecond, h⟩ := Proc.bind_eq_ok.mp h
  obtain ⟨⟨paramsType, params⟩, third, hparams, h⟩ := Proc.bind_eq_ok.mp h
  obtain ⟨hparamsType, h⟩ := Proc.raiseIf_bind_eq_ok.mp h
  obtain ⟨versionBody, -, h⟩ := Proc.lift_bind_eq_ok.mp h
  obtain ⟨⟨⟩, fourth, hfourth, h⟩ := Proc.bind_eq_ok.mp h
  obtain ⟨⟨versionType, versionReply⟩, fifth, hversion, h⟩ := Proc.bind_eq_ok.mp h
  obtain ⟨hversionType, h⟩ := Proc.raiseIf_bind_eq_ok.mp h
  obtain ⟨remoteVersion, hremote, h⟩ := Proc.lift_bind_eq_ok.mp h
  obtain ⟨hrecent, h⟩ := Proc.raiseIf_bind_eq_ok.mp h
  obtain ⟨nameB, -, h⟩ := Proc.lift_bind_eq_ok.mp h
  obtain ⟨opB, -, h⟩ := Proc.lift_bind_eq_ok.mp h
  obtain ⟨lengths, -, h⟩ := Proc.lift_bind_eq_ok.mp h
  obtain ⟨⟨⟩, sixth, hsixth, h⟩ := Proc.bind_eq_ok.mp h
  obtain ⟨⟨⟩, seventh, hseventh, h⟩ := Proc.bind_eq_ok.mp h
  obtain ⟨⟨⟩, eighth, heighth, h⟩ := Proc.bind_eq_ok.mp h
  obtain ⟨features, -, h⟩ := Proc.lift_bind_eq_ok.mp h
  obtain ⟨⟨⟩, ninth, hninth, h⟩ := Proc.bind_eq_ok.mp h
  obtain ⟨⟨⟩, tenth, htenth, h⟩ := Proc.bind_eq_ok.mp h
  obtain ⟨⟨sessionType, session⟩, last, hsession, h⟩ := Proc.bind_eq_ok.mp h
  dsimp only at hparamsType hversionType hremote hrecent h
  rw [Proc.raiseIf_apply] at h
  split_ifs at h with hsessionType
  · cases h
  obtain rfl := (Prod.mk.inj h).2
  obtain rfl := not_not.mp hparamsType
  obtain rfl := not_not.mp hversionType
  obtain rfl := not_not.mp hsessionType
  obtain ⟨hparamsLength, hparamsTook⟩ := recvNfcMsg_ok hparams
  obtain ⟨hversionLength, hversionTook⟩ := recvNfcMsg_ok hversion
  obtain ⟨hsessionLength, hsessionTook⟩ := recvNfcMsg_ok hsession
  refine ⟨_, .intro hparamsLength hversionLength hsessionLength hremote (not_lt.mp hrecent), ?_⟩
  rw [← sendNfcMsg_inbox hfirst, ← sendNfcMsg_inbox hsecond, hparamsTook.stream,
    ← sendNfcMsg_inbox hfourth, hversionTook.stream, ← sendNfcMsg_inbox hsixth,
    ← Sock.sendall_inbox hseventh, ← Sock.sendall_inbox heighth, ← sendNfcMsg_inbox hninth,
    ← sendNfcMsg_inbox htenth, hsessionTook.stream, List.append_assoc, List.append_assoc]

namespace NfcDisk

/-- A request that is sent takes an opId and leaves the stream alone. -/
theorem aioSend_ok {disk after : NfcDisk} {msgType opId : ℕ} {payload extra : Bytes}
    (h : aioSend msgType payload extra disk = (.ok opId, after)) :
    opId = disk.opId ∧ after = disk.afterCall after.sock ∧ after.sock.inbox = disk.sock.inbox := by
  rw [aioSend, Proc.bind_of_ok (nextOpId_apply disk)] at h
  obtain ⟨hdr, -, h⟩ := Proc.lift_bind_eq_ok.mp h
  obtain ⟨⟨⟩, sent, hsend, h⟩ := Proc.bind_eq_ok.mp h
  obtain ⟨sock, hsent, rfl⟩ := Proc.zoom_eq_ok.mp hsend
  rw [Proc.pure_apply, Prod.mk.injEq, Except.ok.injEq] at h
  obtain ⟨rfl, rfl⟩ := h
  exact ⟨rfl, rfl, Sock.sendall_inbox hsent⟩

/-- A round trip that returns has heard its reply, and nothing else. -/
theorem aioRoundtrip_ok {disk after : NfcDisk} {msgType : ℕ} {payload extra body : Bytes}
    (h : aioRoundtrip msgType payload extra 0 disk = (.ok body, after)) :
    body.length < 2 ^ 32 ∧ after = disk.afterCall after.sock ∧
      streamBytes disk.sock.inbox = aioMessage msgType disk.opId body ++ streamBytes after.sock.inbox := by
  unfold aioRoundtrip at h
  obtain ⟨opId, asked, hsend, h⟩ := Proc.bind_eq_ok.mp h
  obtain ⟨⟨rtype, rop, reply⟩, answered, hrecv, h⟩ := Proc.bind_eq_ok.mp h
  obtain ⟨hsame, h⟩ := Proc.raiseIf_bind_eq_ok.mp h
  rw [not_or, not_not, not_not] at hsame
  rw [recvnIfAny, if_pos rfl] at h
  have hlast : ((.ok (reply ++ []), answered) : Except PyError Bytes × NfcDisk) = (.ok body, after) := h
  rw [List.append_nil, Prod.mk.injEq, Except.ok.injEq] at hlast
  obtain ⟨rfl, rfl⟩ := hlast
  obtain ⟨hopId, hasked, hinbox⟩ := aioSend_ok hsend
  obtain ⟨htook, hanswered, -, hlength⟩ := aioRecvReply_ok hrecv
  refine ⟨hlength, ?_, ?_⟩
  · rw [hanswered, hasked]
    rfl
  · rw [← hinbox, htook.stream, hsame.1, hsame.2, hopId]

/-- The messages before OPEN_FILE have heard their replies. -/
theorem aioPrepare_ok {disk after : NfcDisk} (h : aioPrepare disk = (.ok (), after)) :
    ∃ session sockOpts resPool : Bytes, session.length < 2 ^ 32 ∧ sockOpts.length < 2 ^ 32 ∧
      resPool.length < 2 ^ 32 ∧ after = { disk with opId := disk.opId + 3, sock := after.sock } ∧
      streamBytes disk.sock.inbox = aioMessage nfcAioMsgOpenSession disk.opId session ++
        (aioMessage nfcAioMsgSetSockOpts (disk.opId + 1) sockOpts ++
          (aioMessage nfcAioMsgSetResPool (disk.opId + 2) resPool ++ streamBytes after.sock.inbox)) := by
  rw [aioPrepare, Proc.get_bind_apply] at h
  obtain ⟨openSession, -, h⟩ := Proc.lift_bind_eq_ok.mp h
  obtain ⟨session, first, hfirst, h⟩ := Proc.bind_eq_ok.mp h
  obtain ⟨sockOpts, second, hsecond, h⟩ := Proc.bind_eq_ok.mp h
  obtain ⟨pool, -, h⟩ := Proc.lift_bind_eq_ok.mp h
  obtain ⟨resPool, third, hthird, h⟩ := Proc.bind_eq_ok.mp h
  obtain rfl := (Prod.mk.inj h).2
  obtain ⟨hsession, hfirst, hheard₁⟩ := aioRoundtrip_ok hfirst
  obtain ⟨hsockOpts, hsecond, hheard₂⟩ := aioRoundtrip_ok hsecond
  obtain ⟨hresPool, hthird, hheard₃⟩ := aioRoundtrip_ok hthird
  have hopId₁ : first.opId = disk.opId + 1 := by rw [hfirst]; rfl
  have hopId₂ : second.opId = disk.opId + 2 := by rw [hsecond]; exact congrArg (· + 1) hopId₁
  refine ⟨session, sockOpts, resPool, hsession, hsockOpts, hresPool, ?_, ?_⟩
  · rw [hthird, hsecond, hfirst]
    rfl
  · rw [hheard₁, hheard₂, hheard₃, hopId₁, hopId₂]

/-- An opening that returns has heard the replies of a disk with its handle and its sector size. -/
theorem openFile_ok {disk after : NfcDisk} {diskPath : String} {readOnly : Bool}
    (h : openFile diskPath readOnly disk = (.ok (), after)) :
    ∃ replies, OpenReplies disk.opId after.handle after.sectorSize replies ∧
      streamBytes disk.sock.inbox = replies ++ streamBytes after.sock.inbox ∧
      after = { disk with
        opId := disk.opId + 4, sock := after.sock, handle := after.handle,
        sectorSize := after.sectorSize, sectorSize_pos := after.sectorSize_pos } := by
  unfold openFile at h
  obtain ⟨⟨⟩, prepared, hprepare, h⟩ := Proc.bind_eq_ok.mp h
  obtain ⟨openBody, -, h⟩ := Proc.lift_bind_eq_ok.mp h
  obtain ⟨file, replied, hreply, h⟩ := Proc.bind_eq_ok.mp h
  obtain ⟨⟨handle, size⟩, hparse, h⟩ := Proc.lift_bind_eq_ok.mp h
  obtain rfl := (Prod.mk.inj h).2
  obtain ⟨session, sockOpts, resPool, hsession, hsockOpts, hresPool, hprepared, hheard⟩ :=
    aioPrepare_ok hprepare
  obtain ⟨hfile, hreplied, hheard'⟩ := aioRoundtrip_ok hreply
  have hopId : prepared.opId = disk.opId + 3 := by rw [hprepared]
  refine ⟨_, .intro hsession hsockOpts hresPool hfile hparse rfl, ?_, ?_⟩
  · rw [hheard, hheard', hopId]
    simp only [List.append_assoc]
  · rw [hreplied, hprepared]
    rfl

end NfcDisk

/-! ### Streams that start with a welcome -/

/-- A classic message at the head of the stream is received. -/
theorem recvNfcMsg_of_holds {sock : Sock} {msgType : ℕ} {body rest : Bytes} (hmsgType : msgType < 2 ^ 32)
    (hbody : body.length = nfcMsgSize - 4) (hholds : sock.Holds (classicReply msgType body ++ rest)) :
    ∃ after, recvNfcMsg sock = (.ok (msgType, body), after) ∧
      sock.Took (classicReply msgType body) after := by
  have hlength : (classicReply msgType body).length = nfcMsgSize := by
    rw [classicReply, List.length_append, Field.length_bytes, hbody]
    rfl
  obtain ⟨after, hrecv, htook⟩ := recvn_of_holds hholds hlength
  have hunpack : unpackI (classicReply msgType body) 0 = .ok msgType :=
    unpackField_append (show msgType < 256 ^ 4 from hmsgType) [] body
  refine ⟨after, ?_, htook⟩
  rw [recvNfcMsg, Proc.bind_of_ok hrecv, Proc.lift_bind_of_ok hunpack]
  refine Prod.ext (congrArg Except.ok (Prod.ext rfl ?_)) rfl
  exact List.drop_left' (Field.length_bytes _)

theorem pack_lengths {clientName opId : Bytes} (hclientName : clientName.length < 2 ^ 32)
    (hopId : opId.length < 2 ^ 32) :
    pack [.I clientName.length, .I opId.length] = .ok (connectionLengths clientName opId) := by
  refine pack_of_fits ?_
  rw [List.forall_mem_cons, List.forall_mem_singleton]
  exact ⟨Field.fits_I.mpr hclientName, Field.fits_I.mpr hopId⟩

/-- A handshake returns on a stream that starts with a greeting. -/
theorem handshake_of_greeting {start : Sock} {clientName opId : String} {version : ℤ}
    {greeting rest : Bytes} (hsends : start.Sends) (hfits : HandshakeFits clientName opId version)
    (hgreeting : Greeting greeting) (hholds : start.Holds (greeting ++ rest)) :
    ∃ after, handshake clientName opId version start = (.ok (), after) ∧ after.Sends ∧
      after.Holds rest := by
  obtain ⟨hparams, hversion, hsession, hremote, hrecent⟩ := hgreeting
  have hfield : ∀ value : ℤ, ([Field.I value].flatMap Field.bytes).length ≤ nfcMsgSize - 4 := by
    intro value
    rw [List.flatMap_singleton, Field.length_bytes]
    exact show 4 ≤ 260 by decide
  have hlengths : (connectionLengths (asciiBytes clientName) (asciiBytes opId)).length ≤
      nfcMsgSize - 4 := by
    rw [connectionLengths, List.flatMap_cons, List.flatMap_singleton, List.length_append,
      Field.length_bytes, Field.length_bytes]
    exact show 8 ≤ 260 by decide
  simp only [List.append_assoc] at hholds
  have hsends₁ := (hsends.afterSend (nfcMessage nfcMsgHandshake plainText)).afterSend
    (nfcMessage nfcMsgSessionParams [])
  have hholds₁ := (hholds.afterSend (nfcMessage nfcMsgHandshake plainText)).afterSend
    (nfcMessage nfcMsgSessionParams [])
  obtain ⟨first, hrecv₁, htook₁⟩ := recvNfcMsg_of_holds (by decide) hparams hholds₁
  have hsends₂ := (htook₁.sends hsends₁).afterSend
    (nfcMessage nfcMsgVersion ([Field.I version].flatMap Field.bytes))
  have hholds₂ := (htook₁.holds hholds₁).afterSend
    (nfcMessage nfcMsgVersion ([Field.I version].flatMap Field.bytes))
  obtain ⟨second, hrecv₂, htook₂⟩ := recvNfcMsg_of_holds (by decide) hversion hholds₂
  have hsends₃ := htook₂.sends hsends₂
  have hspoken : ∀ message : Bytes, (second.afterSend message).Holds
      (classicReply nfcMsgAioSessionOpen _ ++ rest) := fun message ↦ (htook₂.holds hholds₂).afterSend message
  obtain ⟨last, hrecv₃, htook₃⟩ := recvNfcMsg_of_holds (by decide) hsession (hspoken
    (nfcMessage nfcMsgConnectionData (connectionLengths (asciiBytes clientName) (asciiBytes opId)) ++
      (asciiBytes clientName ++ asciiBytes opId) ++
      (nfcMessage nfcMsgSessionFeatures
        ([Field.I nfcSessionFeatureInterruptionSwitch].flatMap Field.bytes) ++
        nfcMessage nfcMsgAioSessionOpen [])))
  refine ⟨last, ?_, htook₃.sends (hsends₃.afterSend _), htook₃.holds (hspoken _)⟩
  rw [handshake, Proc.bind_of_ok (sendNfcMsg_of_sends (by decide) (by decide) hsends),
    Proc.bind_of_ok (sendNfcMsg_of_sends (by decide) (Nat.zero_le _) (hsends.afterSend _)),
    Proc.bind_of_ok hrecv₁]
  dsimp only
  rw [Proc.raiseIf_bind_of_neg (not_not.mpr rfl),
    Proc.lift_bind_of_ok (pack_of_fits (List.forall_mem_singleton.mpr hfits.version_fits)),
    Proc.bind_of_ok (sendNfcMsg_of_sends (by decide) (hfield _) (htook₁.sends hsends₁)),
    Proc.bind_of_ok hrecv₂]
  dsimp only
  rw [Proc.raiseIf_bind_of_neg (not_not.mpr rfl), Proc.lift_bind_of_ok hremote,
    Proc.raiseIf_bind_of_neg (not_lt.mpr hrecent),
    Proc.lift_bind_of_ok (encodeAscii_of_isAscii hfits.clientName_ascii),
    Proc.lift_bind_of_ok (encodeAscii_of_isAscii hfits.opId_ascii),
    Proc.lift_bind_of_ok (pack_lengths hfits.clientName_lt hfits.opId_lt),
    Proc.bind_of_ok (sendNfcMsg_of_sends (by decide) hlengths hsends₃),
    Proc.bind_of_ok (Sock.sendall_of_sends (hsends₃.afterSend _) _),
    Proc.bind_of_ok (Sock.sendall_of_sends ((hsends₃.afterSend _).afterSend _) _),
    Proc.lift_bind_of_ok (pack_of_fits (List.forall_mem_singleton.mpr (by decide))),
    Sock.afterSend_afterSend, Sock.afterSend_afterSend,
    Proc.bind_of_ok (sendNfcMsg_of_sends (by decide) (hfield _) (hsends₃.afterSend _)),
    Proc.bind_of_ok (sendNfcMsg_of_sends (by decide) (Nat.zero_le _) ((hsends₃.afterSend _).afterSend _)),
    Sock.afterSend_afterSend, Sock.afterSend_afterSend, Proc.bind_of_ok hrecv₃]
  dsimp only
  rw [Proc.raiseIf_apply, if_neg (not_not.mpr rfl)]

namespace NfcDisk

/-- An opening returns on a stream that starts with the replies to it. -/
theorem openFile_of_replies {disk : NfcDisk} {diskPath : String} {handle : UInt64} {sectorSize : ℕ}
    {replies rest : Bytes} (readOnly : Bool) (hsends : disk.sock.Sends) (hfits : OpenFits disk diskPath)
    (hreplies : OpenReplies disk.opId handle sectorSize replies)
    (hholds : disk.sock.Holds (replies ++ rest)) :
    ∃ after, openFile diskPath readOnly disk = (.ok (), after) ∧ after.handle = handle ∧
      after.sectorSize = sectorSize ∧ after.sock.Sends ∧ after.sock.Holds rest := by
  obtain ⟨hsession, hsockOpts, hresPool, hfile, hparse, hsize⟩ := hreplies
  have hopId := hfits.opId_lt
  simp only [List.append_assoc] at hholds
  have hfields : pack [.I 0, .I disk.aioBufferSize, .I disk.aioBufferCount, .I 0] =
      .ok ([Field.I 0, Field.I disk.aioBufferSize, Field.I disk.aioBufferCount,
        Field.I 0].flatMap Field.bytes) := by
    refine pack_of_fits ?_
    simp only [List.forall_mem_cons, List.not_mem_nil, false_imp_iff, implies_true, and_true]
    exact ⟨Field.fits_I_zero, Field.fits_I.mpr hfits.aioBufferSize_lt,
      Field.fits_I.mpr hfits.aioBufferCount_lt, Field.fits_I_zero⟩
  have hbody : pack [.I (encodeUtf8 diskPath).length, .I 0, .I 0, .I 0, .I nfcDisk,
      .I (openFlags readOnly)] = .ok ([Field.I (encodeUtf8 diskPath).length, Field.I 0, Field.I 0,
        Field.I 0, Field.I nfcDisk, Field.I (openFlags readOnly)].flatMap Field.bytes) := by
    have hflags : (Field.I (openFlags readOnly)).Fits := by
      cases readOnly <;> decide
    refine pack_of_fits ?_
    simp only [List.forall_mem_cons, List.not_mem_nil, false_imp_iff, implies_true, and_true]
    exact ⟨Field.fits_I.mpr hfits.path_lt, Field.fits_I_zero, Field.fits_I_zero, Field.fits_I_zero,
      by decide, hflags⟩
  obtain ⟨first, hrun₁, hexchange₁⟩ := aioRoundtrip_of_reply ([Field.I 0, Field.I disk.aioBufferSize,
      Field.I disk.aioBufferCount, Field.I 0].flatMap Field.bytes) [] (by decide) (by decide)
    (by simp [Field.width]) hsession (by omega) hsends hholds
  have hsends₁ := hexchange₁.sends hsends
  have hholds₁ := hexchange₁.holds hholds
  obtain ⟨second, hrun₂, hexchange₂⟩ := @aioRoundtrip_of_reply (disk.afterCall first) _ _ _
    (List.replicate 12 0) [] (show nfcAioMsgSetSockOpts < 2 ^ 32 by decide) (by decide) (by decide)
    hsockOpts (show disk.opId + 1 < 2 ^ 32 by omega) hsends₁ hholds₁
  have hsends₂ := hexchange₂.sends hsends₁
  have hholds₂ := hexchange₂.holds hholds₁
  obtain ⟨third, hrun₃, hexchange₃⟩ := @aioRoundtrip_of_reply ((disk.afterCall first).afterCall second)
    _ _ _ ([Field.I 1].flatMap Field.bytes) [] (show nfcAioMsgSetResPool < 2 ^ 32 by decide) (by decide)
    (by decide) hresPool (show disk.opId + 2 < 2 ^ 32 by omega) hsends₂ hholds₂
  have hsends₃ := hexchange₃.sends hsends₂
  have hholds₃ := hexchange₃.holds hholds₂
  obtain ⟨fourth, hrun₄, hexchange₄⟩ := @aioRoundtrip_of_reply
    (((disk.afterCall first).afterCall second).afterCall third) _ _ _
    (ljust 60 ([Field.I (encodeUtf8 diskPath).length, Field.I 0, Field.I 0, Field.I 0, Field.I nfcDisk,
      Field.I (openFlags readOnly)].flatMap Field.bytes)) (encodeUtf8 diskPath)
    (show nfcAioMsgOpenFile < 2 ^ 32 by decide) (by decide)
    (by rw [length_ljust (by simp [Field.width])]; decide) hfile hopId hsends₃ hholds₃
  have hprepare : aioPrepare disk = (.ok (), ((disk.afterCall first).afterCall second).afterCall third) := by
    rw [aioPrepare, Proc.get_bind_apply, Proc.lift_bind_of_ok hfields, Proc.bind_of_ok hrun₁,
      Proc.bind_of_ok hrun₂, Proc.lift_bind_of_ok (pack_of_fits (List.forall_mem_singleton.mpr (by decide))),
      Proc.bind_of_ok hrun₃]
    rfl
  rw [openFile, Proc.bind_of_ok hprepare]
  dsimp only
  rw [Proc.lift_bind_of_ok hbody, Proc.bind_of_ok hrun₄, Proc.lift_bind_of_ok hparse]
  exact ⟨_, rfl, rfl, hsize, hexchange₄.sends hsends₃, hexchange₄.holds hholds₃⟩

end NfcDisk

/-! ### Opening a disk -/

/-- The disk that `open_disk` makes of its arguments and the reply to OPEN_FILE. -/
def openedDisk (args : OpenArgs) (settings : OpenSettings) (handle : UInt64)
    (sectorSize : ℕ) (hpositive : 0 < sectorSize) (sock : Sock) : NfcDisk :=
  { init sock args.diskPath settings with
    opId := 4
    handle := handle
    sectorSize := sectorSize
    sectorSize_pos := hpositive }

section Opening

variable {start after : Sock} {args : OpenArgs} {settings : OpenSettings} {disk : NfcDisk}

/-- A disk that was made has heard a welcome with its handle and its sector size. -/
theorem openOn_heard (h : openOn args settings start = (.ok disk, after)) :
    after = disk.sock ∧ ∃ welcome, Welcome disk.handle disk.sectorSize welcome ∧
      streamBytes start.inbox = welcome ++ streamBytes disk.sock.inbox ∧
      disk = openedDisk args settings disk.handle disk.sectorSize disk.sectorSize_pos disk.sock := by
  unfold openOn at h
  obtain ⟨⟨⟩, greeted, hhandshake, h⟩ := Proc.bind_eq_ok.mp h
  rw [Proc.get_bind_apply, Proc.bind_eq_ok] at h
  obtain ⟨⟨⟨⟩, opened⟩, last, hopen, h⟩ := h
  rw [Proc.pure_apply, Prod.mk.injEq, Except.ok.injEq] at h
  obtain ⟨rfl, rfl⟩ := h
  obtain ⟨file, hfile, hset⟩ := Proc.zoom_eq_ok.mp (Proc.withLocal_eq_ok.mp hopen)
  obtain ⟨rfl, rfl⟩ := Prod.mk.inj hset
  obtain ⟨greeting, hgreeting, hheard⟩ := handshake_ok hhandshake
  obtain ⟨replies, hreplies, hheard', hafter⟩ := openFile_ok hfile
  refine ⟨rfl, greeting ++ replies, ⟨greeting, replies, hgreeting, hreplies, rfl⟩, ?_, hafter⟩
  rw [hheard, List.append_assoc]
  exact congrArg (greeting ++ ·) hheard'

/-- By the time a disk is made, exactly the messages of an opening have been sent, and exactly a welcome has
been taken. -/
theorem openOn_welcomed (hsends : start.Sends) (hfits : args.FitsWire settings)
    (h : openOn args settings start = (.ok disk, after)) : after = disk.sock ∧
      ∃ welcome, Welcome disk.handle disk.sectorSize welcome ∧
        start.Exchanged (tokenBytes (openTokens args settings)) welcome disk.sock ∧
        disk = openedDisk args settings disk.handle disk.sectorSize disk.sectorSize_pos disk.sock := by
  have hemits := openOn_emits hsends hfits start start.emitted_nil
  rw [h] at hemits
  obtain ⟨-, ⟨body, size, -, -, front, hexchange⟩, -, -, -, -⟩ := hemits
  obtain ⟨hafter, welcome, hwelcome, hheard, hdisk⟩ := openOn_heard h
  have hsame := List.append_cancel_right (hexchange.stream.symm.trans hheard)
  rw [hsame] at hexchange
  exact ⟨hafter, welcome, hwelcome, hexchange, hdisk⟩

/-- A disk is made on a stream that starts with a welcome. -/
theorem openOn_of_welcome {handle : UInt64} {sectorSize : ℕ} {welcome rest : Bytes}
    (hsends : start.Sends) (hfits : args.FitsWire settings) (hwelcome : Welcome handle sectorSize welcome)
    (hholds : start.Holds (welcome ++ rest)) :
    ∃ disk, openOn args settings start = (.ok disk, disk.sock) ∧ disk.handle = handle ∧
      disk.sectorSize = sectorSize ∧ disk.sock.Sends ∧ disk.sock.Holds rest := by
  obtain ⟨greeting, replies, hgreeting, hreplies, rfl⟩ := hwelcome
  rw [List.append_assoc] at hholds
  obtain ⟨greeted, hhandshake, hsends₁, hholds₁⟩ :=
    handshake_of_greeting hsends hfits.handshake hgreeting hholds
  obtain ⟨disk, hopen, hhandle, hsize, hsends₂, hholds₂⟩ := @openFile_of_replies
    (onSock.get (greeted, init greeted args.diskPath settings)) _ _ _ _ _ args.readOnly hsends₁
    ⟨show 0 + 3 < 2 ^ 32 by decide, hfits.aioBufferSize_lt, hfits.aioBufferCount_lt, hfits.path_lt⟩
    hreplies hholds₁
  refine ⟨disk, ?_, hhandle, hsize, hsends₂, hholds₂⟩
  rw [openOn, Proc.bind_of_ok hhandshake, Proc.get_bind_apply,
    Proc.bind_of_ok (Proc.withLocal_of_ok (Proc.zoom_of_eq onSock hopen))]
  rfl

theorem openDisk_eq_ok (hcheck : args.check = .ok settings) :
    openDisk args start = (.ok disk, after) ↔ openOn args settings start = (.ok disk, after) := by
  rw [openDisk, hcheck, Proc.lift_bind_of_ok rfl]
  exact @closeOnError_eq_ok _ _ ⟨id, fun sock _ ↦ sock⟩ _ _ _ _

/-- `open_disk` with arguments that fit their fields returns exactly when they pass its checks and the stream
starts with a welcome. The disk it returns has the welcome's handle and sector size and the settings of the
arguments, and by then it has taken exactly the welcome, and sent exactly the messages of an opening. -/
theorem openDisk_returns_iff (hsends : start.Sends) (hquiet : Quiet start.inbox)
    (hfits : args.FitsFields) :
    ((∃ disk after, openDisk args start = (.ok disk, after)) ↔
      (∃ settings, args.check = .ok settings) ∧ ∃ handle sectorSize welcome,
        Welcome handle sectorSize welcome ∧ welcome <+: streamBytes start.inbox) ∧
    ∀ disk after, openDisk args start = (.ok disk, after) → after = disk.sock ∧
      ∃ settings welcome, args.check = .ok settings ∧ Welcome disk.handle disk.sectorSize welcome ∧
        start.Exchanged (tokenBytes (openTokens args settings)) welcome disk.sock ∧
        disk = openedDisk args settings disk.handle disk.sectorSize disk.sectorSize_pos
          disk.sock := by
  have hreturned : ∀ disk after, openDisk args start = (.ok disk, after) → after = disk.sock ∧
      ∃ settings welcome, args.check = .ok settings ∧ Welcome disk.handle disk.sectorSize welcome ∧
        start.Exchanged (tokenBytes (openTokens args settings)) welcome disk.sock ∧
        disk = openedDisk args settings disk.handle disk.sectorSize disk.sectorSize_pos disk.sock := by
    intro disk after hopen
    rcases hcheck : args.check with error | settings
    · rw [openDisk, hcheck] at hopen
      cases hopen
    obtain ⟨hafter, welcome, hwelcome, hrest⟩ :=
      openOn_welcomed hsends (hfits.fitsWire hcheck) ((openDisk_eq_ok hcheck).mp hopen)
    exact ⟨hafter, settings, welcome, rfl, hwelcome, hrest⟩
  refine ⟨⟨?_, ?_⟩, hreturned⟩
  · rintro ⟨disk, after, hopen⟩
    obtain ⟨-, settings, welcome, hcheck, hwelcome, hexchange, -⟩ := hreturned disk after hopen
    exact ⟨⟨settings, hcheck⟩, _, _, welcome, hwelcome, _, hexchange.stream.symm⟩
  · rintro ⟨⟨settings, hcheck⟩, handle, sectorSize, welcome, hwelcome, rest, hstream⟩
    obtain ⟨disk, hopen, -⟩ :=
      openOn_of_welcome hsends (hfits.fitsWire hcheck) hwelcome ⟨hsends.1, hquiet, hstream.symm⟩
    exact ⟨disk, disk.sock, (openDisk_eq_ok hcheck).mpr hopen⟩

/-- What a server answers that opens a disk with handle 7 and sectors of 512 bytes. -/
def openingReplies : Bytes :=
  nfcMessage nfcMsgSessionParamsReply [] ++ nfcMessage nfcMsgVersion (Field.I 11).bytes ++
    nfcMessage nfcMsgAioSessionOpen [] ++ aioMessage nfcAioMsgOpenSession 0 [] ++
    aioMessage nfcAioMsgSetSockOpts 1 [] ++ aioMessage nfcAioMsgSetResPool 2 [] ++
    aioMessage nfcAioMsgOpenFile 3 ([Field.Q 0, Field.Q 7, Field.I nfcDisk, Field.I 0, Field.I 0,
      Field.I 0, Field.I 0, Field.I 512].flatMap Field.bytes)

/-- The arguments of `open_disk` with its defaults. -/
def defaultOpenArgs (diskPath : String) : OpenArgs :=
  ⟨diskPath, "vddk", "nbdmode", nfcProtocolVersion, true, Compression.none.code, nfcAioBufferSize,
    nfcAioBufferCount⟩

/-- A server that opens a disk with handle 7 and sectors of 512 bytes. -/
theorem welcome_openingReplies : Welcome 7 512 openingReplies := by
  have hparse : parseOpenReply ([Field.Q 0, Field.Q 7, Field.I nfcDisk, Field.I 0, Field.I 0, Field.I 0,
      Field.I 0, Field.I 512].flatMap Field.bytes) = .ok (7, ⟨512, by decide⟩) := by
    decide +kernel
  have hsplit : openingReplies = classicReply nfcMsgSessionParamsReply (List.replicate 260 0) ++
        (classicReply nfcMsgVersion ((Field.I 11).bytes ++ List.replicate 256 0) ++
          classicReply nfcMsgAioSessionOpen (List.replicate 260 0)) ++
      (aioMessage nfcAioMsgOpenSession 0 [] ++ (aioMessage nfcAioMsgSetSockOpts (0 + 1) [] ++
        (aioMessage nfcAioMsgSetResPool (0 + 2) [] ++ aioMessage nfcAioMsgOpenFile (0 + 3)
          ([Field.Q 0, Field.Q 7, Field.I nfcDisk, Field.I 0, Field.I 0, Field.I 0, Field.I 0,
            Field.I 512].flatMap Field.bytes)))) := by
    decide +kernel
  have hremote : unpackI ((Field.I 11).bytes ++ List.replicate 256 0) 0 = .ok 11 :=
    unpackField_append (show 11 < 256 ^ 4 by decide) [] (List.replicate 256 0)
  refine ⟨_, _, .intro ?_ ?_ ?_ hremote ?_, .intro ?_ ?_ ?_ ?_ hparse rfl, hsplit⟩
  · exact List.length_replicate
  · rw [List.length_append, List.length_replicate, Field.length_bytes]
    rfl
  · exact List.length_replicate
  all_goals decide

theorem openDisk_returns_iff_default :
    ∃ disk after, openDisk (defaultOpenArgs "[datastore0] vm/vm.vmdk")
      ⟨Arrival.segment openingReplies, [], false, none, none⟩ = (.ok disk, after) := by
  have hfits : (defaultOpenArgs "[datastore0] vm/vm.vmdk").FitsFields :=
    ⟨⟨by decide, by decide, by decide, by decide, by decide⟩, by decide, by decide, by decide⟩
  refine (openDisk_returns_iff ⟨rfl, rfl⟩ (Arrival.quiet_segment openingReplies) hfits).1.mpr ?_
  refine ⟨⟨⟨.none, nfcAioBufferSize, nfcAioBufferCount, by decide, by decide⟩, rfl⟩, ?_⟩
  exact ⟨7, 512, openingReplies, welcome_openingReplies, [],
    (List.append_nil _).trans (Arrival.streamBytes_segment openingReplies).symm⟩

end Opening

end OpenVixDiskLib
