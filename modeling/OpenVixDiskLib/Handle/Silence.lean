import OpenVixDiskLib.Handle.Release
import OpenVixDiskLib.Nfc.SameStream

/-!
# Blocks that have been left

A call on a closed socket raises and changes nothing of it (`NfcDisk.Shut`). When an `open` block has been
left, its disk, its NFC socket and its authd socket are closed (`Opening.Left`), and so whatever a program
does afterwards, with the old handle, with other handles or in new blocks, moves neither of the two
connections again, and no read or write on the old handle returns (`UserCode.silent_afterwards`).
-/

set_option autoImplicit false
set_option relaxedAutoImplicit false

namespace OpenVixDiskLib

open NfcDisk

/-! ### Closed sockets -/

/-- A socket that is closed stays as it is. -/
def Sock.Shut (before after : Sock) : Prop :=
  before.closed = true → after = before

theorem Sock.Shut.refl (sock : Sock) : sock.Shut sock :=
  fun _ ↦ rfl

theorem Sock.Shut.trans (first middle last : Sock) (hfirst : first.Shut middle)
    (hlast : middle.Shut last) : first.Shut last := by
  intro hclosed
  obtain rfl := hfirst hclosed
  exact hlast hclosed

theorem shut_sendall (data : Bytes) : Proc.Moves Sock.Shut (Sock.sendall data) := by
  intro sock hclosed
  rw [Sock.sendall, if_pos hclosed]

theorem shut_recvn (size : ℕ) : Proc.Moves Sock.Shut (recvn size) := by
  intro sock hclosed
  rw [recvn_apply, recvnInto_of_closed _ hclosed]
  split_ifs <;> rfl

/-- A disk whose socket is closed keeps it as it is, and stays closed or open. -/
structure NfcDisk.Shut (before after : NfcDisk) : Prop where
  sock : before.sock.Shut after.sock
  closed_eq : after.closed = before.closed

namespace NfcDisk

theorem Shut.refl (disk : NfcDisk) : disk.Shut disk :=
  ⟨.refl disk.sock, rfl⟩

theorem Shut.trans (first middle last : NfcDisk) (hfirst : first.Shut middle)
    (hlast : middle.Shut last) : first.Shut last :=
  ⟨.trans _ _ _ hfirst.sock hlast.sock, hlast.closed_eq.trans hfirst.closed_eq⟩

theorem shut_sockPart {α : Type} {body : Py Sock α} (hbody : Proc.Moves Sock.Shut body) :
    Proc.Moves Shut (Proc.zoom sockPart body) :=
  .zoom (fun _ _ hshut ↦ ⟨hshut, rfl⟩) hbody

theorem shut_aioRecvReply : Proc.Moves Shut aioRecvReply := by
  refine .bind Shut.trans (shut_sockPart (shut_recvn _)) fun rhdr ↦ ?_
  refine .bind Shut.trans (.lift Shut.refl _) fun magic ↦ ?_
  refine .bind Shut.trans (.lift Shut.refl _) fun rtype ↦ ?_
  refine .bind Shut.trans (.lift Shut.refl _) fun rsize ↦ ?_
  refine .bind Shut.trans (.lift Shut.refl _) fun rop ↦ ?_
  refine .bind Shut.trans (.raiseIf Shut.refl _ _) fun _ ↦ ?_
  refine .bind Shut.trans (shut_sockPart (by rw [recvnIfAny_eq]; exact shut_recvn _)) fun body ↦ ?_
  exact .bind Shut.trans (.raiseIf Shut.refl _ _) fun _ ↦ .pure Shut.refl _

theorem shut_write (library : FastLzLibrary) (startSector numSectors : ℤ) (data : Bytes) :
    Proc.Moves Shut (write library startSector numSectors data) :=
  write_keeps Shut.refl Shut.trans (fun _ ↦ shut_sockPart (shut_sendall _))
    (fun disk ↦ ⟨.refl disk.sock, rfl⟩) shut_aioRecvReply library startSector numSectors data

theorem shut_readinto (library : FastLzLibrary) (startSector numSectors : ℤ)
    (skipDecompression : Bool) (env : ReadEnv) :
    env.1.Shut (readinto library startSector numSectors skipDecompression env).2.1 := by
  obtain ⟨⟨opId, -, hafter⟩, -⟩ | ⟨-, hfits, sock, hsend⟩ :=
    readinto_sends_or_keeps library startSector numSectors skipDecompression env
  · rw [hafter]
    exact ⟨.refl _, rfl⟩
  · have hopen : env.1.sock.closed = false := (Sock.sendall_eq_ok.mp ⟨sock, hsend⟩).1
    refine ⟨fun hclosed ↦ ?_, ?_⟩
    · exact absurd (hopen.symm.trans hclosed) Bool.false_ne_true
    · exact (works_readinto library startSector numSectors skipDecompression env).closed_eq

/-- No read on a closed socket returns. -/
theorem readinto_shut {library : FastLzLibrary} {startSector numSectors : ℤ} {skipDecompression : Bool}
    {env : ReadEnv} (hclosed : env.1.sock.closed = true) (result : ReadResult) :
    (readinto library startSector numSectors skipDecompression env).1 ≠ .ok result := by
  intro hreturns
  have hrun := Proc.eq_of_fst hreturns
  rw [readinto, Proc.raiseIf_bind_eq_ok, Proc.get_bind_apply] at hrun
  obtain ⟨data, -, hrun⟩ := Proc.lift_bind_eq_ok.mp hrun.2
  obtain ⟨opId, sent, hsent, -⟩ := Proc.bind_eq_ok.mp hrun
  obtain ⟨disk, hsend, -⟩ := Proc.zoom_eq_ok.mp hsent
  obtain ⟨-, -, hsendall, -⟩ := sendRead_ok hsend
  exact Bool.false_ne_true ((Sock.sendall_eq_ok.mp ⟨_, hsendall⟩).1.symm.trans hclosed)

/-- No write on a closed socket returns. -/
theorem write_shut {library : FastLzLibrary} {startSector numSectors : ℤ} {data : Bytes} {disk : NfcDisk}
    (hclosed : disk.sock.closed = true) :
    (write library startSector numSectors data disk).1 ≠ .ok () := by
  intro hreturns
  have hrun := Proc.eq_of_fst hreturns
  unfold NfcDisk.write at hrun
  obtain ⟨hpositive, hrun⟩ := Proc.raiseIf_bind_eq_ok.mp hrun
  rw [Proc.get_bind_apply] at hrun
  obtain ⟨hdata, hrun⟩ := Proc.raiseIf_bind_eq_ok.mp hrun
  rw [Proc.bind_of_ok (nextOpId_apply disk)] at hrun
  obtain ⟨last, middle, hloop, -⟩ := Proc.bind_eq_ok.mp hrun
  rw [writeLoop, Proc.whileLoop_unfold (writeFragment_decreasing _ _ (not_not.mp hdata) _),
    if_pos (by simpa using requestLength_pos (not_lt.mp hpositive))] at hloop
  obtain ⟨next, sent, hround, -⟩ := Proc.bind_eq_ok.mp hloop
  obtain ⟨ctype, extra, -, -, -, hsend, -⟩ := writeFragment_ok hround
  exact Bool.false_ne_true ((Sock.sendall_eq_ok.mp ⟨_, hsend⟩).1.symm.trans hclosed)

end NfcDisk

/-! ### Blocks -/

namespace Opening

/-- A block that has been left: its disk, its NFC socket and its authd socket are closed. -/
structure Left (opening : Opening) : Prop where
  disk : ∃ disk, opening.disk = some disk ∧ disk.closed = true
  nfc : opening.nfcSock.closed = true
  authd : opening.authd.authd.closed = true

/-- Neither connection has moved, and the block is still one that has been left. -/
structure Silent (before after : Opening) : Prop where
  authd : after.authd = before.authd
  nfc : after.nfc = before.nfc
  left : after.Left

/-- What calls on a handle make of a block: some steps, which are silent when it has been left. -/
structure Called (before after : Opening) : Prop where
  steps : before.Steps after
  silent : before.Left → before.Silent after

theorem Called.refl (opening : Opening) : opening.Called opening :=
  ⟨.refl opening, fun hleft ↦ ⟨rfl, rfl, hleft⟩⟩

theorem Called.trans (first middle last : Opening) (hfirst : first.Called middle)
    (hlast : middle.Called last) : first.Called last := by
  refine ⟨.trans _ _ _ hfirst.steps hlast.steps, fun hleft ↦ ?_⟩
  have hbetween := hfirst.silent hleft
  have hafter := hlast.silent hbetween.left
  exact ⟨hafter.authd.trans hbetween.authd, hafter.nfc.trans hbetween.nfc, hafter.left⟩

/-- On a handle, a procedure on the disk runs on the NFC socket. -/
theorem onDisk_of_some {α : Type} {opening : Opening} {disk : NfcDisk} (hdisk : opening.disk = some disk)
    (body : Py NfcDisk α) : onDisk body opening =
      ((body { disk with sock := opening.nfcSock }).1,
        opening.withDisk (body { disk with sock := opening.nfcSock }).2) := by
  simp only [onDisk, hdisk]

/-- A read through a handle returns what the disk makes of it on the NFC socket, with the buffer. -/
theorem read_fst {library : FastLzLibrary} {startSector numSectors : ℤ} {skipDecompression : Bool}
    {buf : Buffer} {opening : Opening} {disk : NfcDisk} (hdisk : opening.disk = some disk) :
    (read library startSector numSectors skipDecompression buf opening).1 =
      .ok ((VixDiskLibHandle.read library startSector numSectors skipDecompression
        ({ disk with sock := opening.nfcSock }, buf)).1,
        (VixDiskLibHandle.read library startSector numSectors skipDecompression
          ({ disk with sock := opening.nfcSock }, buf)).2.2) :=
  congrArg Prod.fst (onDisk_of_some hdisk _)

/-- Closing a closed authd socket changes nothing. -/
theorem closeAuthd_of_closed {opening : Opening} (hclosed : opening.authd.authd.closed = true) :
    opening.closeAuthd = opening := by
  rw [closeAuthd, ← hclosed]
  rfl

/-- A procedure on a disk that keeps closed sockets as they are is silent on a block that has been left. -/
theorem Left.onDisk {α : Type} {body : Py NfcDisk α} {opening : Opening} (hleft : opening.Left)
    (hbody : ∀ disk : NfcDisk, disk.closed = true → disk.sock.closed = true →
      (body disk).2.closed = true ∧ (body disk).2.sock = disk.sock) :
    opening.Silent (onDisk body opening).2 := by
  obtain ⟨disk, hdisk, hclosed⟩ := hleft.disk
  obtain ⟨hafter, hsock⟩ := hbody { disk with sock := opening.nfcSock } hclosed hleft.nfc
  have hnfc : (opening.withDisk (body { disk with sock := opening.nfcSock }).2).nfc = opening.nfc := by
    change (NfcConn.sockPart opening.conn.nfcSsl).set (body _).2.sock opening.nfc = opening.nfc
    rw [hsock]
    unfold nfcSock
    cases opening.conn.nfcSsl <;> rfl
  rw [onDisk_of_some hdisk]
  refine ⟨rfl, hnfc, ⟨_, rfl, hafter⟩, ?_, hleft.authd⟩
  rw [nfcSock_withDisk, hsock]
  exact hleft.nfc

theorem called_close : Proc.Moves Called close := by
  intro opening
  refine ⟨steps_close opening, fun hleft ↦ ?_⟩
  have hclose : ∀ disk : NfcDisk, disk.closed = true → NfcDisk.close disk = (.ok (), disk) := by
    intro disk hclosed
    rw [NfcDisk.close, Proc.get_bind_apply, if_pos hclosed]
    rfl
  have hsilent : opening.Silent (onDisk NfcDisk.close opening).2 :=
    hleft.onDisk fun disk hclosed _ ↦ by
      rw [hclose disk hclosed]
      exact ⟨hclosed, rfl⟩
  rw [close_snd, closeAuthd_of_closed hsilent.left.authd]
  exact hsilent

theorem called_read (library : FastLzLibrary) (startSector numSectors : ℤ) (skipDecompression : Bool)
    (buf : Buffer) : Proc.Moves Called (read library startSector numSectors skipDecompression buf) := by
  intro opening
  refine ⟨steps_read _ _ _ _ _ opening, fun hleft ↦ hleft.onDisk fun disk hclosed hsock ↦ ?_⟩
  have hshut := NfcDisk.shut_readinto library startSector numSectors skipDecompression (disk, buf)
  exact ⟨hshut.closed_eq.trans hclosed, hshut.sock hsock⟩

theorem called_write (library : FastLzLibrary) (startSector numSectors : ℤ) (buf : SourceBuffer) :
    Proc.Moves Called (write library startSector numSectors buf) := by
  intro opening
  refine ⟨steps_write _ _ _ _ opening, fun hleft ↦ hleft.onDisk fun disk hclosed hsock ↦ ?_⟩
  have hshut := NfcDisk.shut_write library startSector numSectors
    (VixDiskLibHandle.writeData numSectors buf) disk
  exact ⟨hshut.closed_eq.trans hclosed, hshut.sock hsock⟩

/-- On a block that has been left, no read returns. -/
theorem Left.read_raises {opening : Opening} (hleft : opening.Left) {library : FastLzLibrary}
    {startSector numSectors : ℤ} {skipDecompression : Bool} {buf : Buffer}
    {outcome : Except PyError ReadResult × Buffer}
    (hread : (read library startSector numSectors skipDecompression buf opening).1 = .ok outcome)
    (result : ReadResult) : outcome.1 ≠ .ok result := by
  obtain ⟨disk, hdisk, -⟩ := hleft.disk
  rw [← Except.ok.inj ((read_fst hdisk).symm.trans hread)]
  exact @NfcDisk.readinto_shut _ _ _ _ ({ disk with sock := opening.nfcSock }, buf) hleft.nfc result

/-- Nor does a write. -/
theorem Left.write_raises {opening : Opening} (hleft : opening.Left) (library : FastLzLibrary)
    (startSector numSectors : ℤ) (buf : SourceBuffer) :
    (write library startSector numSectors buf opening).1 ≠ .ok () := by
  obtain ⟨disk, hdisk, -⟩ := hleft.disk
  rw [write, onDisk_of_some hdisk]
  exact @NfcDisk.write_shut _ _ _ _ { disk with sock := opening.nfcSock } hleft.nfc

/-- An entered block that is left has been left. -/
theorem Live.close_left {opening : Opening} (hlive : opening.Live) : (close opening).2.Left := by
  obtain ⟨disk, hdisk, hsound⟩ := hlive.disk
  obtain ⟨hclosed, hsock⟩ := NfcDisk.close_closes { disk with sock := opening.nfcSock }
  rw [close_snd, onDisk_of_some hdisk]
  refine ⟨⟨_, rfl, hclosed⟩, ?_, rfl⟩
  change (opening.withDisk _).nfcSock.closed = true
  rw [nfcSock_withDisk]
  exact hsock hsound

end Opening

/-! ### Programs -/

theorem HandleCall.called {library : FastLzLibrary} {α : Type} {body : Py Opening α}
    (hcall : HandleCall library body) : Proc.Moves Opening.Called body := by
  cases hcall with
  | read => exact Opening.called_read _ _ _ _ _
  | write => exact Opening.called_write _ _ _ _
  | close => exact Opening.called_close

/-- A block without a handle gets none. -/
theorem Opening.Steps.disk_eq_none {before after : Opening} (hsteps : before.Steps after)
    (hdisk : before.disk = none) : after.disk = none := by
  refine @Opening.Steps.keeps (fun opening ↦ opening.disk = none) ?_ _ _ hsteps hdisk
  intro first last hstep hnone
  cases hstep with
  | disk hsome => exact absurd (hnone.symm.trans hsome) (Option.some_ne_none _).symm
  | authd => exact hnone

namespace UserCode

/-- Calls are silent on blocks that have been left, and every block with a handle that a program begins has
been left when the program ends. -/
theorem leaves (env : Environment) (code : UserCode) : Proc.Moves (fun before after ↦
    Proc.Extends Opening.Called (fun opening ↦ opening.disk ≠ none → opening.Left)
      before.openings after.openings) (code.run env) := by
  refine run_handles Opening.Called.refl Opening.Called.trans ?_ (fun hbody ↦ hbody.called) ?_ ?_ code
    code.uses_some
  · intro before after hbefore hcalled hafter
    have hdisk : before.disk ≠ none := fun hnone ↦ hafter (hcalled.steps.disk_eq_none hnone)
    exact (hcalled.silent (hbefore hdisk)).left
  all_goals
    intro conn call index
    have hentry := Opening.enter_entry env.special call (.fresh conn (env.openings index))
  · intro error after _ henter
    rw [henter] at hentry
    cases hentry <;> exact fun h ↦ absurd rfl h
  · intro entered last _ henter hcalled _
    rw [henter] at hentry
    exact (hcalled.steps.keeps (fun _ _ ↦ Opening.Live.step) hentry.live).close_left

/-- Nothing a program does behind an `open` block moves the two connections of the block again, and no read
or write on its handle returns. -/
theorem silent_afterwards {env : Environment} {world : World} (first later : UserCode) {index : ℕ}
    {opening : Opening} (hnew : world.openings.length ≤ index)
    (hopening : (first.run env world).2.openings[index]? = some opening)
    (hentered : opening.disk ≠ none) :
    ∃ last, (later.run env (first.run env world).2).2.openings[index]? = some last ∧
      last.authd = opening.authd ∧ last.nfc = opening.nfc ∧
      ∀ library startSector numSectors,
        (∀ skipDecompression buf result after,
          (Opening.read library startSector numSectors skipDecompression buf last).1 ≠
            .ok (.ok result, after)) ∧
        ∀ buf, (Opening.write library startSector numSectors buf last).1 ≠ .ok () := by
  have hleft := (leaves env first world).settled index opening hnew hopening hentered
  obtain ⟨last, hlast, hcalled⟩ := (leaves env later (first.run env world).2).kept index opening hopening
  have hsilent := hcalled.silent hleft
  refine ⟨last, hlast, hsilent.authd, hsilent.nfc, fun library startSector numSectors ↦ ⟨?_, ?_⟩⟩
  · exact fun skipDecompression buf result after hread ↦ hsilent.left.read_raises hread result rfl
  · exact fun buf ↦ hsilent.left.write_raises library startSector numSectors buf

/-- A write on the handle behind the block, and another block. -/
theorem silent_afterwards_openOnce :
    ∃ opening last, ((openOnce "nbd" true).run (willingEnvironment bareTicket openNfcRoute)
        ⟨[], []⟩).2.openings[0]? = some opening ∧
      ((write 0 0 1 (.bytes (List.replicate 512 7)) fun _ ↦ openOnce "nbd" true).run
        (willingEnvironment bareTicket openNfcRoute)
        ((openOnce "nbd" true).run (willingEnvironment bareTicket openNfcRoute)
          ⟨[], []⟩).2).2.openings[0]? = some last ∧ last.nfc = opening.nfc := by
  have hentered : ((openOnce "nbd" true).run (willingEnvironment bareTicket openNfcRoute)
      ⟨[], []⟩).2.openings[0]?.map (fun opening ↦ opening.disk.isSome) = some true := by
    decide +kernel
  obtain ⟨opening, hopening, hdisk⟩ := Option.map_eq_some_iff.mp hentered
  obtain ⟨last, hlast, -, hnfc, -⟩ := silent_afterwards (openOnce "nbd" true)
    (write 0 0 1 (.bytes (List.replicate 512 7)) fun _ ↦ openOnce "nbd" true) (Nat.zero_le 0) hopening
    (Option.isSome_iff_ne_none.mp hdisk)
  exact ⟨opening, last, hopening, hlast, hnfc⟩

end UserCode

end OpenVixDiskLib
