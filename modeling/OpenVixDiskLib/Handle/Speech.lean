import OpenVixDiskLib.Handle.Release
import OpenVixDiskLib.Nfc.Speech

/-!
# What programs say on their NFC connections

Whatever a program calls on its handles, valid or not, inside their blocks or behind them, each of its NFC
connections has been sent a start of one session, and that session is the one an `open` of the program asks
for. On a connection that is read-only that `open` asks for a read-only disk, and a ticket was asked for its
own mode and path (`UserCode.speaks`).
-/

set_option autoImplicit false
set_option relaxedAutoImplicit false

namespace OpenVixDiskLib

/-! ### Opening -/

/-- The arguments of `open` that are sent fit their fields. -/
structure OpenCall.Fits (call : OpenCall) : Prop where
  aioBufferSize_lt : call.aioBufferSize < 2 ^ 32
  aioBufferCount_lt : call.aioBufferCount < 2 ^ 32
  path_lt : (encodeUtf8 call.diskPath).length < 2 ^ 32

theorem OpenCall.Fits.fitsFields {call : OpenCall} (hfits : call.Fits) (compression : Compression) :
    (call.openArgs compression).FitsFields := by
  have hhandshake : HandshakeFits "vddk" "nbdmode" nfcProtocolVersion :=
    ⟨by decide, by decide, by decide, by decide, by decide⟩
  exact ⟨hhandshake, hfits.aioBufferSize_lt, hfits.aioBufferCount_lt, hfits.path_lt⟩

/-- Sends on the NFC sockets succeed. -/
structure OpeningFate.Sends (fate : OpeningFate) : Prop where
  raw : fate.nfcRaw.sock.Sends
  tls : fate.nfcTls.sock.Sends

section NfcConn

variable {args : OpenArgs} {nfcSsl : Bool} {conn after : NfcConn}

/-- Until `open_disk` has a socket to speak on, nothing is sent on it. -/
theorem NfcConn.Connected.sent_eq {result : Except PyError Unit}
    (hconnected : conn.Connected nfcSsl result after) :
    ((sockPart nfcSsl).get after).sent = ((sockPart nfcSsl).get conn).sent := by
  cases hconnected <;> cases nfcSsl <;> rfl

/-- A disk that `open_disk` returns is between two calls, on its socket, and an `open_disk` that raises has said
a first part of its messages. -/
theorem NfcConn.openDisk_says (hfits : args.FitsFields)
    (hsends : ((sockPart nfcSsl).get conn).Sends) :
    Proc.Outcome (fun disk after ↦ Speaking ((sockPart nfcSsl).get conn) args disk ∧
        (sockPart nfcSsl).get after = disk.sock)
      (fun _ after ↦ ∃ said, said <+: (args.sessionText 0 []).opening ∧
        ((sockPart nfcSsl).get after).sent = ((sockPart nfcSsl).get conn).sent ++ tokenBytes said)
      (conn.openDisk args nfcSsl) := by
  have hconnected := conn.connected nfcSsl
  rw [openDisk]
  rcases hcheck : args.check with error | settings
  · exact ⟨[], List.nil_prefix, (List.append_nil _).symm⟩
  rw [Proc.lift_bind_of_ok rfl]
  rcases hrun : (if nfcSsl then wrapNfcsslSocket else takeoverAuthdSocket) conn with
    ⟨error | ⟨⟨⟩⟩, started⟩
  all_goals rw [hrun] at hconnected
  · rw [Proc.bind_of_error hrun]
    exact ⟨[], List.nil_prefix, hconnected.sent_eq.trans (List.append_nil _).symm⟩
  have hstarted : (sockPart nfcSsl).get started = (sockPart nfcSsl).get conn := by
    cases hconnected with
    | done hguarded => cases nfcSsl <;> rfl
  have hemits := openOn_emits hsends (hfits.fitsWire hcheck) _ (Sock.emitted_nil _)
  rw [← hstarted] at hemits ⊢
  rw [Proc.bind_of_ok hrun]
  rcases hopen : NfcDisk.openOn args settings ((sockPart nfcSsl).get started) with ⟨error | disk, last⟩
  all_goals rw [hopen] at hemits
  · obtain ⟨-, count, reply, hexchange⟩ := hemits
    obtain ⟨raised, hclose⟩ := @closeOnError_of_error _ _ (sockPart nfcSsl) _ _ _ _
      (Proc.zoom_of_eq (sockPart nfcSsl) hopen)
    rw [hclose, sockPart_get_set, sockPart_set_set]
    refine ⟨(openTokens args settings).take count, ?_, ?_⟩
    · rw [← OpenArgs.opening_eq hcheck]
      exact List.take_prefix _ _
    · rw [sockPart_get_set]
      exact hexchange.sent_eq
  · obtain ⟨rfl, hopened⟩ := hemits
    rw [closeOnError_of_ok (Proc.zoom_of_eq (sockPart nfcSsl) hopen)]
    rw [hstarted] at hopened ⊢
    exact ⟨hopened.speaking hfits hcheck hsends, sockPart_get_set _ _ _⟩

end NfcConn

/-! ### Blocks -/

/-- What an opening with these arguments has said: a start of its session, and no more while it has no
disk. -/
structure Opening.Talks (args : OpenArgs) (opening : Opening) : Prop where
  readOnly : opening.conn.readOnly = true → args.readOnly = true
  ticket : ∀ ticket, opening.ticket = some ticket →
    opening.fate.service.ticket args.readOnly args.diskPath = .ok ticket
  opens : opening.disk = none → args.StartsSession opening.nfcSock.sent
  speaks : ∀ disk, opening.disk = some disk →
    ∃ start : Sock, start.sent = [] ∧ Speaking start args { disk with sock := opening.nfcSock }

/-- What has been said in a block begun with this `open`: nothing, when no ticket was asked for, or a start of
the session it asks for. -/
inductive Opening.Says (call : OpenCall) (opening : Opening) : Prop
  | nothing (hticket : opening.ticket = none) (hdisk : opening.disk = none)
      (hsent : opening.nfcSock.sent = [])
  | session (compression : Compression) (hcompression : nfcCompression call.flags = .ok compression)
      (htalks : opening.Talks (call.openArgs compression))

namespace Opening

variable {args : OpenArgs} {call : OpenCall} {opening : Opening}

/-- Whether there is a disk or not, what has been said is a start of a session. -/
theorem Talks.startsSession (htalks : opening.Talks args) : args.StartsSession opening.nfcSock.sent := by
  rcases hdisk : opening.disk with _ | disk
  · exact htalks.opens hdisk
  · obtain ⟨start, hnew, hspeaking⟩ := htalks.speaks disk hdisk
    exact hspeaking.startsSession hnew

/-- A procedure that keeps a client in its session keeps an opening in it. -/
theorem Talks.onDisk {α : Type} {body : Py NfcDisk α} (htalks : opening.Talks args)
    (hbody : ∀ (start : Sock) (disk : NfcDisk), Speaking start args disk →
      Speaking start args (body disk).2) : (onDisk body opening).2.Talks args := by
  unfold Opening.onDisk
  rcases hdisk : opening.disk with _ | disk
  · exact htalks
  obtain ⟨start, hnew, hspeaking⟩ := htalks.speaks disk hdisk
  refine ⟨htalks.readOnly, htalks.ticket, fun h ↦ (by cases h), fun last hlast ↦ ⟨start, hnew, ?_⟩⟩
  obtain rfl := Option.some.inj hlast
  change Speaking start args { (body { disk with sock := opening.nfcSock }).2 with
    sock := (opening.withDisk (body { disk with sock := opening.nfcSock }).2).nfcSock }
  rw [nfcSock_withDisk]
  exact hbody start _ hspeaking

/-- Closing the authd socket says nothing. -/
theorem Talks.closeAuthd (htalks : opening.Talks args) : opening.closeAuthd.Talks args :=
  ⟨htalks.readOnly, htalks.ticket, htalks.opens, htalks.speaks⟩

/-- A procedure on the disk does nothing while there is none. -/
theorem onDisk_snd_of_none {α : Type} (body : Py NfcDisk α) (hdisk : opening.disk = none) :
    (onDisk body opening).2 = opening := by
  unfold Opening.onDisk
  rw [hdisk]

end Opening

/-- Every call on its handle keeps an opening in its session. -/
theorem HandleCall.talks {library : FastLzLibrary} {α : Type} {body : Py Opening α}
    (hcall : HandleCall library body) {args : OpenArgs} {opening : Opening}
    (htalks : opening.Talks args) : (body opening).2.Talks args := by
  cases hcall with
  | read startSector numSectors skipDecompression buf =>
    exact htalks.onDisk fun start disk hspeaking ↦ hspeaking.readinto _ _ _ _
  | write startSector numSectors buf =>
    exact htalks.onDisk fun start disk hspeaking ↦ hspeaking.write _ _ _
  | close =>
    rw [Opening.close_snd]
    exact (htalks.onDisk fun start disk hspeaking ↦ hspeaking.close).closeAuthd

/-- Every call on its handle keeps an opening in what its `open` says. -/
theorem HandleCall.tells {library : FastLzLibrary} {α : Type} {body : Py Opening α}
    (hcall : HandleCall library body) : Proc.Moves (fun before after : Opening ↦
      ∀ call, before.Says call → after.Says call) body := by
  rintro opening call (⟨hticket, hdisk, hsent⟩ | ⟨compression, hcompression, htalks⟩)
  · cases hcall with
    | read => exact (Opening.onDisk_snd_of_none _ hdisk).symm ▸ .nothing hticket hdisk hsent
    | write => exact (Opening.onDisk_snd_of_none _ hdisk).symm ▸ .nothing hticket hdisk hsent
    | close =>
      rw [Opening.close_snd, Opening.onDisk_snd_of_none _ hdisk]
      exact .nothing hticket hdisk hsent
  · exact .session compression hcompression (hcall.talks htalks)

/-- A block that has not been entered says nothing, on a socket whose sends succeed. -/
theorem Opening.fresh_nfcSock (conn : Connection) {fate : OpeningFate} (hsends : fate.Sends) :
    (fresh conn fate).nfcSock.Sends ∧ (fresh conn fate).nfcSock.sent = [] := by
  unfold nfcSock NfcConn.sockPart
  cases (fresh conn fate).conn.nfcSsl
  · exact ⟨hsends.raw, rfl⟩
  · exact ⟨hsends.tls, rfl⟩

/-- However entering ends, what has been said is a start of the session that the `open` asks for, or
nothing. -/
theorem Opening.enter_says {special : Char → List Char} {call : OpenCall} {start : Opening}
    (hfits : call.Fits) (hticketNone : start.ticket = none) (hdiskNone : start.disk = none)
    (hsends : start.nfcSock.Sends) (hnew : start.nfcSock.sent = []) :
    (enter special call start).2.Says call := by
  have hnone : ∀ {disk : NfcDisk}, start.disk ≠ some disk := by
    intro disk hsome
    cases hdiskNone.symm.trans hsome
  have hfresh : start.Says call := .nothing hticketNone hdiskNone hnew
  unfold enter
  rcases hcompression : nfcCompression call.flags with error | compression
  · exact hfresh
  rw [Proc.lift_bind_of_ok rfl, Proc.get_bind_apply]
  by_cases hwritable : call.readOnly = false ∧ start.conn.readOnly = true
  · rw [Proc.raiseIf_bind_of_pos hwritable]
    exact hfresh
  rw [Proc.raiseIf_bind_of_neg hwritable]
  have hreadOnly : start.conn.readOnly = true → call.readOnly = true := by
    intro hconn
    by_contra hwrites
    exact hwritable ⟨Bool.not_eq_true _ ▸ hwrites, hconn⟩
  rcases hticket : start.fate.service.ticket call.readOnly call.diskPath with error | ticket
  · exact hfresh
  rw [Proc.lift_bind_of_ok rfl, Proc.modify_bind_apply]
  have hargs := hfits.fitsFields compression
  have htickets : ∀ asked, some ticket = some asked →
      start.fate.service.ticket call.readOnly call.diskPath = .ok asked := by
    intro asked hasked
    rw [← Option.some.inj hasked]
    exact hticket
  refine .session compression hcompression ?_
  rcases hconnect : connectAuthd special ticket start.conn.allowUntrusted start.conn.nfcSsl
    start.authd with ⟨error | ⟨⟨⟩⟩, authd⟩
  all_goals
    have hzoom : Proc.zoom authdPart (connectAuthd special ticket start.conn.allowUntrusted start.conn.nfcSsl)
        { start with ticket := some ticket } = _ := Proc.zoom_of_eq authdPart hconnect
  · rw [Proc.bind_of_error hzoom]
    exact ⟨hreadOnly, htickets, fun _ ↦ hargs.startsSession List.nil_prefix hnew, fun _ h ↦ absurd h hnone⟩
  rw [Proc.bind_of_ok hzoom]
  have hsays := @NfcConn.openDisk_says _ start.conn.nfcSsl start.nfc hargs hsends
  rcases hrun : start.nfc.openDisk (call.openArgs compression) start.conn.nfcSsl with
    ⟨error | disk, nfc⟩
  all_goals
    rw [hrun] at hsays
    have hzoom : Proc.zoom nfcPart (NfcConn.openDisk (call.openArgs compression) start.conn.nfcSsl)
        { start with ticket := some ticket, authd := authd } = _ :=
      Proc.zoom_of_eq nfcPart hrun
  · obtain ⟨said, hsaid, hsent⟩ := hsays
    obtain ⟨raised, hclose⟩ := @closeOnError_of_error _ _ authdSock _ _ _ _ hzoom
    rw [Proc.bind_of_error (show closeOnError authdSock _ (authdPart.set authd _) = _ from hclose)]
    refine ⟨hreadOnly, htickets, fun _ ↦ hargs.startsSession hsaid (hsent.trans ?_),
      fun _ h ↦ absurd h hnone⟩
    rw [show ((NfcConn.sockPart start.conn.nfcSsl).get start.nfc).sent = [] from hnew,
      List.nil_append]
  · obtain ⟨hspeaking, hsock⟩ := hsays
    rw [Proc.bind_of_ok (show closeOnError authdSock _ (authdPart.set authd _) = _ from
      closeOnError_of_ok hzoom)]
    refine ⟨hreadOnly, htickets, fun h ↦ (by cases h), fun last hlast ↦ ⟨_, hnew, ?_⟩⟩
    obtain rfl := Option.some.inj hlast
    change Speaking _ _ { disk with sock := (NfcConn.sockPart start.conn.nfcSsl).get nfc }
    rw [hsock]
    exact hspeaking

/-! ### Programs -/

/-- In every run of a program, what has been sent on the NFC connection of a block is nothing, when no ticket
was asked for, or a start of the session that one `open` of the program asks for, cut into messages in one way
only, where each opId behind the opening belongs to at most one request. On a connection that is read-only
that `open` asks for a read-only disk, and the ticket was asked for its mode and its path. -/
theorem UserCode.speaks {env : Environment} {code : UserCode} {opens : OpenCall → Prop} {world : World}
    {index : ℕ} {opening : Opening} (hsends : ∀ index, (env.openings index).Sends)
    (huses : code.Uses (fun _ ↦ True) opens) (hfits : ∀ call, opens call → call.Fits)
    (hnew : world.openings.length ≤ index)
    (hopening : (code.run env world).2.openings[index]? = some opening) :
    ∃ call, opens call ∧ (opening.ticket = none ∧ opening.nfcSock.sent = [] ∨
      ∃ compression, nfcCompression call.flags = .ok compression ∧
        (call.openArgs compression).StartsSession opening.nfcSock.sent ∧
        (opening.conn.readOnly = true → call.readOnly = true) ∧
        ∀ ticket, opening.ticket = some ticket →
          opening.fate.service.ticket call.readOnly call.diskPath = .ok ticket) := by
  have hruns : Proc.Moves (fun before after : World ↦ Proc.Extends
      (fun opening last ↦ ∀ call, opening.Says call → last.Says call)
      (fun opening ↦ ∃ call, opens call ∧ opening.Says call) before.openings after.openings)
        (code.run env) := by
    refine run_handles (fun _ _ ↦ id) (fun _ _ _ hfirst hlast call hsays ↦ hlast call (hfirst call hsays))
      ?_ (fun hcall ↦ hcall.tells) ?_ ?_ code huses
    · rintro before after ⟨call, hopens, hsays⟩ hmoves
      exact ⟨call, hopens, hmoves call hsays⟩
    all_goals
      intro conn call index
      obtain ⟨hopen, hfresh⟩ := Opening.fresh_nfcSock conn (hsends index)
    · intro error after hcall henter
      have hsays := @Opening.enter_says env.special _ _ (hfits call hcall) rfl rfl hopen hfresh
      rw [henter] at hsays
      exact ⟨call, hcall, hsays⟩
    · intro entered last hcall henter hmoves
      have hsays := @Opening.enter_says env.special _ _ (hfits call hcall) rfl rfl hopen hfresh
      rw [henter] at hsays
      exact ⟨call, hcall, (@HandleCall.close env.library).tells last call (hmoves call hsays)⟩
  obtain ⟨call, hopens, hsays⟩ := (hruns world).settled index opening hnew hopening
  refine ⟨call, hopens, ?_⟩
  cases hsays with
  | nothing hticket hdisk hsent => exact .inl ⟨hticket, hsent⟩
  | session compression hcompression htalks =>
    exact .inr ⟨compression, hcompression, htalks.startsSession, htalks.readOnly, htalks.ticket⟩

/-- An `open` for a disk of a VM, read-only. -/
def vmOpen : OpenCall :=
  ⟨"[datastore0] vm/vm.vmdk", 4, nfcAioBufferSize, nfcAioBufferCount⟩

/-- A block in which a read is refused and a write fails on the wire. -/
def openAndFail : UserCode :=
  .connect ⟨"vc", none, some "moref=vm-1", true, some "nbd", 443, true⟩
    (fun conn ↦ .openDisk conn vmOpen
      (fun handle ↦ .read handle (-1) 1 false (.zeros 512) fun _ ↦
        .write handle 0 1 (.bytes (List.replicate 512 1)) fun _ ↦ .finish (.ok ())) .finish) .finish

theorem UserCode.speaks_openAndFail :
    ∃ opening, ∃ compression, (openAndFail.run (willingEnvironment bareTicket openNfcRoute)
        ⟨[], []⟩).2.openings[0]? = some opening ∧ opening.nfcSock.sent ≠ [] ∧
      opening.conn.readOnly = true ∧ vmOpen.readOnly = true ∧
      (vmOpen.openArgs compression).StartsSession opening.nfcSock.sent := by
  have hfacts : (openAndFail.run (willingEnvironment bareTicket openNfcRoute)
      ⟨[], []⟩).2.openings[0]?.map (fun opening ↦ (opening.conn.readOnly, opening.nfcSock.sent.isEmpty)) =
        some (true, false) := by
    decide +kernel
  obtain ⟨opening, hopening, hfacts⟩ := Option.map_eq_some_iff.mp hfacts
  obtain ⟨hreadOnly, hsent⟩ := Prod.mk.inj hfacts
  have hsent := List.isEmpty_eq_false_iff.mp hsent
  have huses : openAndFail.Uses (fun _ ↦ True) (· = vmOpen) :=
    ⟨trivial, fun _ ↦ ⟨rfl, fun _ _ _ ↦ trivial, fun _ ↦ trivial⟩, fun _ ↦ trivial⟩
  have hfits : vmOpen.Fits := ⟨by decide, by decide, by decide +kernel⟩
  obtain ⟨call, rfl, ⟨-, hnothing⟩ | ⟨compression, -, hstarts, hreads, -⟩⟩ :=
    UserCode.speaks (fun _ ↦ ⟨⟨rfl, rfl⟩, ⟨rfl, rfl⟩⟩) huses (by rintro _ rfl; exact hfits)
      (Nat.zero_le 0) hopening
  · exact absurd hnothing hsent
  · exact ⟨opening, compression, hopening, hsent, hreadOnly, hreads hreadOnly, hstarts⟩

end OpenVixDiskLib
