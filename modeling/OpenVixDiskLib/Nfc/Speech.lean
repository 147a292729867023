import OpenVixDiskLib.Nfc.ClientRun

/-!
# What a client says when its calls are not valid

A call with arguments that do not serve, or behind the last opId, may take opIds and say nothing, and a
write may be broken off between two of its frames. So the requests of a session have gaps (`Said`): behind
the opening, the opId `4 + k` belongs to at most one request, of which nothing may have been said.

Every call keeps a client in such a session, whatever its arguments are and whatever it receives
(`Speaking.readinto`, `Speaking.write`, `Speaking.close`).
-/

set_option autoImplicit false
set_option relaxedAutoImplicit false

namespace OpenVixDiskLib

open NfcDisk

variable {library : FastLzLibrary} {disk : NfcDisk} {opId : ℕ}

/-- What was said under an opId: nothing, or the messages of a request, perhaps without its last frames. -/
def Said (handle : UInt64) (opId : ℕ) (tokens : List Token) : Prop :=
  tokens = [] ∨ opId < 2 ^ 32 ∧ LegalRequest handle opId tokens

theorem Said.wellFormed {handle : UInt64} {tokens : List Token} (hsaid : Said handle opId tokens) :
    ∀ token ∈ tokens, token.WellFormed := by
  obtain rfl | ⟨hopId, hrequest⟩ := hsaid
  · exact fun token hmem ↦ absurd hmem List.not_mem_nil
  · exact hrequest.wellFormed hopId

/-! ### Frames of a write -/

/-- On a connection whose sends succeed, some frames of a write under an opId have been sent, and something
may have been received. -/
structure NfcDisk.Frames (opId : ℕ) (before after : NfcDisk) : Prop where
  config : after = { before with sock := after.sock }
  sent : before.sock.Sends → after.sock.Sends ∧ ∃ frames : List (Bytes × Bytes),
    (frames ≠ [] → opId < 2 ^ 32) ∧
    (∀ frame ∈ frames, IoPayload before.handle nfcAioIoWrite frame.1 ∧
      unpackI frame.1 36 = .ok frame.2.length) ∧
    after.sock.sent = before.sock.sent ++
      tokenBytes (frames.map fun frame ↦ .aio nfcAioMsgIo opId frame.1 frame.2)

namespace NfcDisk

theorem Frames.of_sent_eq {before after : NfcDisk} (hconfig : after = { before with sock := after.sock })
    (hsent : before.sock.Sends → after.sock.Sends ∧ after.sock.sent = before.sock.sent) :
    before.Frames opId after := by
  refine ⟨hconfig, fun hsends ↦ ⟨(hsent hsends).1, [], fun h ↦ absurd rfl h, ?_, ?_⟩⟩
  · exact fun frame hmem ↦ absurd hmem List.not_mem_nil
  · exact (hsent hsends).2.trans (List.append_nil _).symm

theorem Frames.refl (disk : NfcDisk) : disk.Frames opId disk :=
  .of_sent_eq rfl fun hsends ↦ ⟨hsends, rfl⟩

theorem Frames.trans (first middle last : NfcDisk) (hfirst : first.Frames opId middle)
    (hlast : middle.Frames opId last) : first.Frames opId last := by
  have hhandle : middle.handle = first.handle := by rw [hfirst.config]
  refine ⟨by rw [hlast.config, hfirst.config], fun hsends ↦ ?_⟩
  obtain ⟨hsends', frames, hopId, hframes, hsent⟩ := hfirst.sent hsends
  obtain ⟨hsends'', frames', hopId', hframes', hsent'⟩ := hlast.sent hsends'
  refine ⟨hsends'', frames ++ frames', fun hsome ↦ ?_, ?_, ?_⟩
  · by_cases hnil : frames = []
    · exact hopId' fun h ↦ hsome (by rw [hnil, h, List.append_nil])
    · exact hopId hnil
  · rw [List.forall_mem_append]
    rw [hhandle] at hframes'
    exact ⟨hframes, hframes'⟩
  · rw [hsent', hsent, List.map_append, tokenBytes_append, List.append_assoc]

theorem Received.frames {before after : NfcDisk} (hreceived : before.Received after) :
    before.Frames opId after := by
  obtain ⟨taken, htook, hafter⟩ := hreceived
  exact .of_sent_eq hafter fun hsends ↦ ⟨htook.sends hsends, htook.sent_eq⟩

/-- A round of the write loop sends one frame or none. -/
theorem frames_writeFragment (startSector : ℤ) (length : ℕ) (data : Bytes) (opId fragOffset : ℕ) :
    Proc.Moves (Frames opId) (writeFragment library startSector length data opId fragOffset) := by
  intro disk
  rcases hround : writeFragment library startSector length data opId fragOffset disk with
    ⟨error | next, after⟩
  · rw [writeFragment, Proc.get_bind_apply] at hround
    obtain ⟨-, rfl⟩ | ⟨⟨ctype, extra⟩, -, hround⟩ := Proc.lift_bind_eq_error.mp hround
    · exact .refl after
    obtain ⟨-, rfl⟩ | ⟨payload, -, hround⟩ := Proc.lift_bind_eq_error.mp hround
    · exact .refl after
    obtain ⟨-, rfl⟩ | ⟨hdr, -, hround⟩ := Proc.lift_bind_eq_error.mp hround
    · exact .refl after
    obtain hsend | ⟨⟨⟩, sent, -, hpure⟩ := Proc.bind_eq_error.mp hround
    · obtain ⟨sock, hsendall, rfl⟩ := Proc.zoom_eq_error.mp hsend
      obtain rfl := Sock.sendall_error hsendall
      exact .refl disk
    · cases hpure
  · obtain ⟨ctype, extra, -, hopId, hfits, hsend, hafter, -⟩ := writeFragment_ok hround
    refine ⟨hafter, fun hsends ↦ ?_⟩
    obtain ⟨-, hsock⟩ := Prod.mk.inj ((Sock.sendall_of_sends hsends _).symm.trans hsend)
    change after.sock.Sends ∧ _
    rw [← hsock]
    refine ⟨hsends.afterSend _, [((writeFrame disk startSector length data opId fragOffset ctype
      extra).fields.flatMap Field.bytes, extra)], fun _ ↦ hopId, List.forall_mem_singleton.mpr
      (IoFrame.ioPayload hfits rfl (show nfcAioIoWrite < 2 ^ 32 by decide)), ?_⟩
    rw [List.map_singleton, tokenBytes_singleton, ← IoFrame.token_bytes]
    rfl

/-- A write takes at most one opId, and says frames under it and nothing else. -/
theorem write_frames (startSector numSectors : ℤ) (data : Bytes) (disk : NfcDisk) :
    ((write library startSector numSectors data disk).2 = disk) ∨
      ({ disk with opId := disk.opId + 1 } : NfcDisk).Frames disk.opId
        (write library startSector numSectors data disk).2 := by
  unfold NfcDisk.write
  by_cases hpositive : numSectors < 1
  · exact .inl (congrArg Prod.snd (Proc.raiseIf_bind_of_pos hpositive _ _ _))
  rw [Proc.raiseIf_bind_of_neg hpositive, Proc.get_bind_apply]
  by_cases hdata : data.length ≠ requestLength disk numSectors
  · exact .inl (congrArg Prod.snd (Proc.raiseIf_bind_of_pos hdata _ _ _))
  rw [Proc.raiseIf_bind_of_neg hdata, Proc.bind_of_ok (nextOpId_apply disk)]
  right
  refine (Proc.Moves.bind Frames.trans (.whileLoop Frames.refl Frames.trans ?_ _) fun _ ↦ ?_) _
  · exact fun fragOffset ↦ frames_writeFragment startSector _ data disk.opId fragOffset
  · exact fun last ↦ (moves_writeReply disk.opId last).frames

end NfcDisk

/-! ### Closing -/

/-- Without an opId left a round trip raises before it sends. -/
theorem NfcDisk.aioRoundtrip_of_overflow {msgType : ℕ} {payload extra : Bytes} {extraRecv : ℕ}
    (hopId : 2 ^ 32 ≤ disk.opId) : ∃ error, aioRoundtrip msgType payload extra extraRecv disk =
      (.error error, { disk with opId := disk.opId + 1 }) := by
  have hhdr : packAioHdr msgType payload.length disk.opId =
      .error (structError "argument out of range") := by
    rw [packAioHdr, pack, if_neg]
    exact fun hfits ↦ absurd (hdrFields_fits.mp hfits).2.2 (not_lt_of_ge hopId)
  have hsend : aioSend msgType payload extra disk =
      (.error (structError "argument out of range"), { disk with opId := disk.opId + 1 }) := by
    rw [aioSend, Proc.bind_of_ok (nextOpId_apply disk)]
    exact Proc.bind_of_error (by rw [Proc.lift_apply, hhdr])
  exact ⟨_, Proc.bind_of_error hsend⟩

/-- CLOSE_FILE is well formed when its opId fits. -/
theorem closeFile_wellFormed (hopId : disk.opId < 2 ^ 32) :
    (Token.aio nfcAioMsgCloseFile disk.opId
      ([Field.Q disk.handle.toNat].flatMap Field.bytes) []).WellFormed := by
  refine ⟨show nfcAioMsgCloseFile < 2 ^ 32 by decide, hopId, ?_, rfl⟩
  rw [List.flatMap_singleton, Field.length_bytes]
  exact show 8 < 2 ^ 32 by decide

/-- A session without two opIds left says CLOSE_FILE in its close, or nothing. -/
theorem NfcDisk.closeSession_of_overflow (hsends : disk.sock.Sends) (hopId : 2 ^ 32 ≤ disk.opId + 1) :
    ∃ said, said <+: closeTokens disk ∧ (∀ token ∈ said, token.WellFormed) ∧
      (closeSession disk).2.sock.sent = disk.sock.sent ++ tokenBytes said := by
  have hnothing : ∃ said, said <+: closeTokens disk ∧ (∀ token ∈ said, token.WellFormed) ∧
      disk.sock.sent = disk.sock.sent ++ tokenBytes said :=
    ⟨[], List.nil_prefix, fun _ hmem ↦ absurd hmem List.not_mem_nil, (List.append_nil _).symm⟩
  have hhandle : pack [.Q disk.handle.toNat] = .ok ([Field.Q disk.handle.toNat].flatMap Field.bytes) :=
    pack_of_fits (List.forall_mem_singleton.mpr (Field.fits_Q.mpr disk.handle.toNat_lt))
  rw [closeSession, Proc.get_bind_apply, Proc.lift_bind_of_ok hhandle]
  by_cases hfirst : disk.opId < 2 ^ 32
  · have hwellFormed := closeFile_wellFormed hfirst
    have hemits := @aioRoundtrip_emits disk
      [.aio nfcAioMsgCloseFile disk.opId ([Field.Q disk.handle.toNat].flatMap Field.bytes) []] 0 _ _ _
      hsends rfl (by decide) hwellFormed.2.2.1 hfirst disk (emitted_nil disk)
    have hprefix : ∀ count, [Token.aio nfcAioMsgCloseFile disk.opId
        ([Field.Q disk.handle.toNat].flatMap Field.bytes) []].take count <+: closeTokens disk :=
      fun count ↦ (List.take_prefix _ _).trans (List.prefix_append _ _)
    have hall : ∀ count, ∀ token ∈ [Token.aio nfcAioMsgCloseFile disk.opId
        ([Field.Q disk.handle.toNat].flatMap Field.bytes) []].take count, token.WellFormed :=
      fun count token hmem ↦ List.forall_mem_singleton.mpr hwellFormed token (List.mem_of_mem_take hmem)
    rcases hrun : aioRoundtrip nfcAioMsgCloseFile ([Field.Q disk.handle.toNat].flatMap Field.bytes) [] 0
      disk with ⟨error | body, after⟩
    all_goals rw [hrun] at hemits
    · obtain ⟨⟨-, count, reply, hexchange⟩, -⟩ := hemits
      rw [Proc.bind_of_error hrun]
      exact ⟨_, hprefix count, hall count, hexchange.sent_eq⟩
    · obtain ⟨⟨front, hexchange⟩, hafter⟩ := hemits
      have hspent : 2 ^ 32 ≤ after.opId := by
        rw [hafter]
        exact hopId
      obtain ⟨error, hraised⟩ := @aioRoundtrip_of_overflow after nfcAioMsgCloseSession
        ([Field.I 0].flatMap Field.bytes) [] 0 hspent
      have hzero : pack [.I 0] = .ok ([Field.I 0].flatMap Field.bytes) :=
        pack_of_fits (List.forall_mem_singleton.mpr Field.fits_I_zero)
      rw [Proc.bind_of_ok hrun, Proc.lift_bind_of_ok hzero, Proc.bind_of_error hraised]
      exact ⟨_, hprefix 1, hall 1, hexchange.sent_eq⟩
  · obtain ⟨error, hraised⟩ := @aioRoundtrip_of_overflow disk nfcAioMsgCloseFile
      ([Field.Q disk.handle.toNat].flatMap Field.bytes) [] 0 (not_lt.mp hfirst)
    rw [Proc.bind_of_error hraised]
    exact hnothing

/-- A close of an open disk says the first of its messages, as far as there are opIds, and closes the
socket. -/
theorem close_says (hsends : disk.sock.Sends) (hopen : disk.closed = false) :
    (∃ said, said <+: closeTokens disk ∧ (∀ token ∈ said, token.WellFormed) ∧
      (NfcDisk.close disk).2.sock.sent = disk.sock.sent ++ tokenBytes said) ∧
    (NfcDisk.close disk).2.closed = true ∧ (NfcDisk.close disk).2.sock.closed = true := by
  by_cases hopId : disk.opId + 1 < 2 ^ 32
  · obtain ⟨⟨count, hsent⟩, hclosed, hsock, -⟩ := close_emits hsends hopId hopen
    refine ⟨⟨_, List.take_prefix _ _, fun token hmem ↦ ?_, hsent⟩, hclosed, hsock⟩
    have hall : ∀ token ∈ closeTokens disk, token.WellFormed := by
      simp only [closeTokens, List.forall_mem_cons, List.not_mem_nil, false_imp_iff, implies_true,
        and_true]
      exact ⟨closeFile_wellFormed (by omega), ⟨by decide, hopId, by decide, rfl⟩, by decide⟩
    exact hall token (List.mem_of_mem_take hmem)
  · obtain ⟨said, hprefix, hall, hsent⟩ :=
      @closeSession_of_overflow { disk with closed := true } hsends (not_lt.mp hopId)
    have hclosed := (works_closeSession { disk with closed := true }).closed_eq
    rw [NfcDisk.close, Proc.get_bind_apply, hopen, if_neg Bool.false_ne_true, Proc.modify_bind_apply,
      Proc.tryFinally_snd, Proc.zoom_apply, Sock.closeQuietly_snd]
    exact ⟨⟨said, hprefix, hall, hsent⟩, hclosed, rfl⟩

/-! ### Speaking -/

/-- The opening of the session fits its messages, and behind it each opId was used by at most one
request. -/
structure SessionText.Spoken (text : SessionText) : Prop where
  frame : ({ text with requests := [] } : SessionText).Legal
  requests : ∀ (k : ℕ) (request : List Token), text.requests[k]? = some request →
    Said text.handle (4 + k) request

theorem SessionText.Spoken.wellFormed {text : SessionText} (hspoken : text.Spoken) :
    ∀ token ∈ text.opening ++ text.requests.flatten, token.WellFormed := by
  rw [List.forall_mem_append]
  constructor
  · intro token hmem
    refine hspoken.frame.wellFormed token ?_
    exact List.mem_append_left _ (List.mem_append_left _ hmem)
  · intro token hmem
    obtain ⟨request, hrequest, hmem⟩ := List.mem_flatten.mp hmem
    obtain ⟨k, hk⟩ := List.mem_iff_getElem?.mp hrequest
    exact (hspoken.requests k request hk).wellFormed token hmem

/-- Where a client is in its session: it is between two calls and has used the opIds below the counter, or
it has been closed and has said a start of its session. -/
inductive Speaking (start : Sock) (args : OpenArgs) (disk : NfcDisk) : Prop
  | talking {requests : List (List Token)}
      (hspoken : (args.sessionText disk.handle requests).Spoken)
      (hsent : disk.sock.sent = start.sent ++
        tokenBytes ((args.sessionText disk.handle requests).opening ++ requests.flatten))
      (hopId : disk.opId = 4 + requests.length) (hsends : disk.sock.Sends)
      (hopen : disk.closed = false) : Speaking start args disk
  | ended {handle : UInt64} {requests : List (List Token)} {said : List Token}
      (hspoken : (args.sessionText handle requests).Spoken)
      (hsaid : said <+: (args.sessionText handle requests).tokens)
      (hwellFormed : ∀ token ∈ said, token.WellFormed)
      (hsent : disk.sock.sent = start.sent ++ tokenBytes said) (hsock : disk.sock.closed = true)
      (hclosed : disk.closed = true) : Speaking start args disk

section Speaking

variable {start : Sock} {args : OpenArgs} {requests : List (List Token)} {after : NfcDisk}

/-- A request and the gap behind it, under the next opIds of a session. -/
theorem SessionText.Spoken.append {handle : UInt64} {tokens : List Token} (spare : ℕ)
    (hspoken : (args.sessionText handle requests).Spoken)
    (hsaid : Said handle (4 + requests.length) tokens) :
    (args.sessionText handle (requests ++ tokens :: List.replicate spare [])).Spoken := by
  refine ⟨hspoken.frame, fun k request hrequest ↦ ?_⟩
  change Said handle (4 + k) request
  change (requests ++ tokens :: List.replicate spare [])[k]? = some request at hrequest
  obtain hfront | rfl | hgap := lt_trichotomy k requests.length
  · rw [List.getElem?_append_left hfront] at hrequest
    exact hspoken.requests k request hrequest
  · rw [List.getElem?_append_right le_rfl, Nat.sub_self, List.getElem?_cons_zero] at hrequest
    rwa [← Option.some.inj hrequest]
  · obtain ⟨later, hlater⟩ : ∃ later, k - requests.length = later + 1 :=
      ⟨k - requests.length - 1, by omega⟩
    rw [List.getElem?_append_right hgap.le, hlater, List.getElem?_cons_succ] at hrequest
    exact .inl (List.mem_replicate.mp (List.mem_of_getElem? hrequest)).2

/-- What a call between two others says adds a request to the session, and the opIds it took beside it
stay without one. -/
theorem Speaking.goes_on {tokens : List Token} {spare : ℕ}
    (hspoken : (args.sessionText disk.handle requests).Spoken)
    (hsent : disk.sock.sent = start.sent ++
      tokenBytes ((args.sessionText disk.handle requests).opening ++ requests.flatten))
    (hopId : disk.opId = 4 + requests.length) (hopen : disk.closed = false)
    (hsaid : Said disk.handle disk.opId tokens) (hsends : after.sock.Sends)
    (hafter : after = { disk with opId := disk.opId + 1 + spare, sock := after.sock })
    (hrequest : after.sock.sent = disk.sock.sent ++ tokenBytes tokens) : Speaking start args after := by
  have hhandle : after.handle = disk.handle := by rw [hafter]
  have hflatten : (requests ++ tokens :: List.replicate spare []).flatten =
      requests.flatten ++ tokens := by
    rw [List.flatten_append, List.flatten_cons, List.flatten_replicate_nil, List.append_nil]
  rw [hopId] at hsaid
  have hmore := hspoken.append spare hsaid
  rw [← hhandle] at hmore
  refine .talking hmore ?_ ?_ hsends ?_
  · rw [hrequest, hsent, hhandle, List.append_assoc, ← tokenBytes_append, hflatten, List.append_assoc]
    rfl
  · rw [hafter, List.length_append, List.length_cons, List.length_replicate]
    change disk.opId + 1 + spare = _
    omega
  · rw [hafter]
    exact hopen

/-- A read keeps a client in its session. -/
theorem Speaking.readinto (hspeaking : Speaking start args disk) (startSector numSectors : ℤ)
    (skipDecompression : Bool) (buf : Buffer) :
    Speaking start args
      (NfcDisk.readinto library startSector numSectors skipDecompression (disk, buf)).2.1 := by
  cases hspeaking with
  | talking hspoken hsent hopId hsends hopen =>
    obtain ⟨opId, hle, hafter⟩ | ⟨⟨data, haccepted⟩, hfits, -⟩ :=
      readinto_sends_or_refuses library startSector numSectors skipDecompression (disk, buf)
    · rw [hafter]
      obtain heq | ⟨spare, hspare⟩ : disk.opId = opId ∨ ∃ spare, opId = disk.opId + 1 + spare :=
        (Nat.eq_or_lt_of_le hle).imp_right Nat.exists_eq_add_of_le
      · rw [← heq]
        exact .talking hspoken hsent hopId hsends hopen
      · refine @Speaking.goes_on _ _ _ _ _ _ spare hspoken hsent hopId hopen (.inl rfl) hsends ?_
          (List.append_nil _).symm
        rw [hspare]
    · have hasks : (Operation.readinto startSector numSectors skipDecompression buf).Asks library disk _ :=
        .readinto haccepted hfits
      obtain ⟨tokens, hlegal, hbytes⟩ := hasks.legalRequest fun _ _ _ _ h ↦ by cases h
      obtain ⟨taken, htook, hafter⟩ := hasks.received hsends
      refine @Speaking.goes_on _ _ _ _ _ _ 0 hspoken hsent hopId hopen (.inr ⟨hfits.opId_lt, hlegal⟩)
        (htook.sends hsends) hafter ?_
      rw [hbytes]
      exact htook.sent_eq
  | ended hspoken hsaid hwellFormed hsent hsock hclosed =>
    have hworks := works_readinto library startSector numSectors skipDecompression (disk, buf)
    exact .ended hspoken hsaid hwellFormed ((hworks.sock.mute hsock).trans hsent)
      (hworks.sock.closed_eq.trans hsock) (hworks.closed_eq.trans hclosed)

/-- A write keeps a client in its session, however far it gets. -/
theorem Speaking.write (hspeaking : Speaking start args disk) (startSector numSectors : ℤ)
    (data : Bytes) :
    Speaking start args (NfcDisk.write library startSector numSectors data disk).2 := by
  cases hspeaking with
  | talking hspoken hsent hopId hsends hopen =>
    obtain hsame | hframes := write_frames startSector numSectors data disk
    · rw [hsame]
      exact .talking hspoken hsent hopId hsends hopen
    · obtain ⟨hsends', frames, hfits, hpayloads, hsent'⟩ := hframes.sent hsends
      refine @Speaking.goes_on _ _ _ _ _ _ 0 hspoken hsent hopId hopen ?_ hsends' hframes.config hsent'
      by_cases hnil : frames = []
      · rw [hnil]
        exact .inl rfl
      · exact .inr ⟨hfits hnil, .write hnil hpayloads⟩
  | ended hspoken hsaid hwellFormed hsent hsock hclosed =>
    have hworks := works_write library startSector numSectors data disk
    exact .ended hspoken hsaid hwellFormed ((hworks.sock.mute hsock).trans hsent)
      (hworks.sock.closed_eq.trans hsock) (hworks.closed_eq.trans hclosed)

/-- A close ends the session, or says a start of its closing. -/
theorem Speaking.close (hspeaking : Speaking start args disk) :
    Speaking start args (NfcDisk.close disk).2 := by
  cases hspeaking with
  | talking hspoken hsent hopId hsends hopen =>
    rename_i requests
    obtain ⟨⟨said, hprefix, hwellFormed, hsent'⟩, hclosed, hsock⟩ := close_says hsends hopen
    refine @Speaking.ended _ _ _ disk.handle requests
      ((args.sessionText disk.handle requests).opening ++ requests.flatten ++ said) hspoken ?_ ?_ ?_ hsock
      hclosed
    · rw [SessionText.tokens]
      refine (List.prefix_append_right_inj _).mpr ?_
      rwa [← closeTokens_eq hopId rfl]
    · rw [List.forall_mem_append]
      exact ⟨hspoken.wellFormed, hwellFormed⟩
    · rw [hsent', hsent, List.append_assoc, ← tokenBytes_append]
  | ended hspoken hsaid hwellFormed hsent hsock hclosed =>
    have hworks : disk.Works (NfcDisk.close disk).2 := DiskCall.run_of_closed FastLz.storing .close hclosed
    exact .ended hspoken hsaid hwellFormed ((hworks.sock.mute hsock).trans hsent)
      (hworks.sock.closed_eq.trans hsock) (hworks.closed_eq.trans hclosed)

/-- A disk that has been opened is between two calls. -/
theorem DiskOpened.speaking {settings : OpenSettings} (hopened : DiskOpened start args settings disk)
    (hfits : args.FitsFields) (hcheck : args.check = .ok settings) (hsends : start.Sends) :
    Speaking start args disk := by
  obtain ⟨body, sectorSize, -, -, front, hexchange⟩ := hopened.replied
  have hlegal : (args.sessionText disk.handle []).Legal :=
    hfits.legal (fun k hk ↦ absurd hk (Nat.not_lt_zero k)) (by decide)
  refine @Speaking.talking _ _ _ [] ⟨hlegal, fun k request h ↦ by cases h⟩ ?_ hopened.opId_eq
    (hexchange.sends hsends) hopened.closed_eq
  rw [List.flatten_nil, List.append_nil, ← OpenArgs.opening_eq hcheck]
  exact hexchange.sent_eq

/-- Bytes are a start of a session with these arguments, cut into messages in one way only. -/
def OpenArgs.StartsSession (args : OpenArgs) (sent : Bytes) : Prop :=
  ∃ handle requests said, (args.sessionText handle requests).Spoken ∧
    said <+: (args.sessionText handle requests).tokens ∧ sent = tokenBytes said ∧
    (∀ token ∈ said, token.WellFormed) ∧
    ∀ other : List Token, (∀ token ∈ other, token.WellFormed) → tokenBytes other = sent → other = said

/-- Well-formed messages are cut in one way only. -/
theorem SessionText.Spoken.startsSession {handle : UInt64} {said : List Token} {sent : Bytes}
    (hspoken : (args.sessionText handle requests).Spoken)
    (hsaid : said <+: (args.sessionText handle requests).tokens)
    (hwellFormed : ∀ token ∈ said, token.WellFormed) (hsent : sent = tokenBytes said) :
    args.StartsSession sent := by
  refine ⟨handle, requests, said, hspoken, hsaid, hsent, hwellFormed, fun other hother hbytes ↦ ?_⟩
  exact Token.selfDelimiting.flatMap_injOn hother hwellFormed (hbytes.trans hsent)

/-- A first part of the opening is a start of a session. -/
theorem OpenArgs.FitsFields.startsSession (hfits : args.FitsFields) {said : List Token} {sent : Bytes}
    (hsaid : said <+: (args.sessionText 0 []).opening) (hsent : sent = tokenBytes said) :
    args.StartsSession sent := by
  have hlegal : (args.sessionText 0 []).Legal :=
    hfits.legal (fun k hk ↦ absurd hk (Nat.not_lt_zero k)) (by decide)
  have hwhole : said <+: (args.sessionText 0 []).tokens := by
    rw [SessionText.tokens, List.append_assoc]
    exact hsaid.trans (List.prefix_append _ _)
  refine SessionText.Spoken.startsSession ⟨hlegal, fun k request h ↦ by cases h⟩ hwhole ?_ hsent
  exact fun token hmem ↦ hlegal.wellFormed token (hwhole.subset hmem)

/-- Wherever a client is, what it has sent is a start of a session. -/
theorem Speaking.startsSession (hspeaking : Speaking start args disk) (hnew : start.sent = []) :
    args.StartsSession disk.sock.sent := by
  cases hspeaking with
  | talking hspoken hsent hopId hsends hopen =>
    rw [hnew, List.nil_append] at hsent
    exact hspoken.startsSession (List.prefix_append _ _) hspoken.wellFormed hsent
  | ended hspoken hsaid hwellFormed hsent hsock hclosed =>
    rw [hnew, List.nil_append] at hsent
    exact hspoken.startsSession hsaid hwellFormed hsent

end Speaking

end OpenVixDiskLib
