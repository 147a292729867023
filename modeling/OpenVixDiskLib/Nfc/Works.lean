import OpenVixDiskLib.Nfc.Open
import OpenVixDiskLib.Nfc.ReadRun
import OpenVixDiskLib.Nfc.Write

/-!
# What the NFC code leaves alone

Whatever the network does, no send and no receive closes a socket, and nothing is sent on a closed one
(`Sock.Works`). So it is with what a disk does by sends and receives: the round trips, the opening of a
file, reads, writes, and the messages of a close.
-/

set_option autoImplicit false
set_option relaxedAutoImplicit false

namespace OpenVixDiskLib

open NfcDisk

/-! ### On a socket -/

/-- The socket is open or closed as before, and nothing has been sent on a closed one. -/
structure Sock.Works (before after : Sock) : Prop where
  closed_eq : after.closed = before.closed
  mute : before.closed = true → after.sent = before.sent

theorem Sock.Works.refl (sock : Sock) : sock.Works sock :=
  ⟨rfl, fun _ ↦ rfl⟩

theorem Sock.Works.trans (first middle last : Sock) (hfirst : first.Works middle)
    (hlast : middle.Works last) : first.Works last where
  closed_eq := hlast.closed_eq.trans hfirst.closed_eq
  mute hclosed := (hlast.mute (hfirst.closed_eq.trans hclosed)).trans (hfirst.mute hclosed)

theorem Sock.Took.works {before after : Sock} {taken : Bytes} (htook : before.Took taken after) :
    before.Works after :=
  ⟨htook.closed_eq, fun _ ↦ htook.sent_eq⟩

theorem works_sendall (data : Bytes) : Proc.Moves Sock.Works (Sock.sendall data) := by
  intro sock
  unfold Sock.sendall
  by_cases hclosed : sock.closed = true
  · rw [if_pos hclosed]
    exact .refl sock
  · rw [if_neg hclosed]
    split
    · exact ⟨rfl, fun h ↦ absurd h hclosed⟩
    · exact .refl sock
    · exact ⟨rfl, fun h ↦ absurd h hclosed⟩

theorem works_recvn (size : ℕ) : Proc.Moves Sock.Works (recvn size) := by
  intro sock
  obtain ⟨taken, htook⟩ := moves_recvn size sock
  exact htook.works

theorem works_sendNfcMsg (msgType : ℕ) (body : Bytes) :
    Proc.Moves Sock.Works (sendNfcMsg msgType body) := by
  refine .bind Sock.Works.trans (.raiseIf Sock.Works.refl _ _) fun _ ↦ ?_
  exact .bind Sock.Works.trans (.lift Sock.Works.refl _) fun _ ↦ works_sendall _

/-! ### On a disk -/

/-- The disk is open or closed as before, and so is its socket. -/
structure NfcDisk.Works (before after : NfcDisk) : Prop where
  sock : before.sock.Works after.sock
  closed_eq : after.closed = before.closed

namespace NfcDisk

theorem Works.refl (disk : NfcDisk) : disk.Works disk :=
  ⟨.refl disk.sock, rfl⟩

theorem Works.trans (first middle last : NfcDisk) (hfirst : first.Works middle)
    (hlast : middle.Works last) : first.Works last :=
  ⟨.trans _ _ _ hfirst.sock hlast.sock, hlast.closed_eq.trans hfirst.closed_eq⟩

theorem Received.works {before after : NfcDisk} (hreceived : before.Received after) :
    before.Works after := by
  obtain ⟨taken, htook, hafter⟩ := hreceived
  exact ⟨htook.works, by rw [hafter]⟩

theorem works_sockPart {α : Type} {body : Py Sock α} (hbody : Proc.Moves Sock.Works body) :
    Proc.Moves Works (Proc.zoom sockPart body) :=
  .zoom (fun _ _ hworks ↦ ⟨hworks, rfl⟩) hbody

theorem works_nextOpId : Proc.Moves Works nextOpId :=
  fun disk ↦ ⟨.refl disk.sock, rfl⟩

theorem works_aioSend (msgType : ℕ) (payload extra : Bytes) :
    Proc.Moves Works (aioSend msgType payload extra) := by
  refine .bind Works.trans works_nextOpId fun _ ↦ ?_
  refine .bind Works.trans (.lift Works.refl _) fun _ ↦ ?_
  exact .bind Works.trans (works_sockPart (works_sendall _)) fun _ ↦ .pure Works.refl _

theorem works_aioRecvReply : Proc.Moves Works aioRecvReply :=
  fun disk ↦ (moves_aioRecvReply disk).works

theorem works_aioRoundtrip (msgType : ℕ) (payload extra : Bytes) (extraRecv : ℕ) :
    Proc.Moves Works (aioRoundtrip msgType payload extra extraRecv) := by
  refine .bind Works.trans (works_aioSend _ _ _) fun _ ↦ ?_
  refine .bind Works.trans works_aioRecvReply fun _ ↦ ?_
  refine .bind Works.trans (.raiseIf Works.refl _ _) fun _ ↦ ?_
  refine .bind Works.trans (works_sockPart ?_) fun _ ↦ .pure Works.refl _
  rw [recvnIfAny_eq]
  exact works_recvn _

theorem works_aioPrepare : Proc.Moves Works aioPrepare := by
  refine .bind Works.trans (.get Works.refl) fun _ ↦ ?_
  refine .bind Works.trans (.lift Works.refl _) fun _ ↦ ?_
  refine .bind Works.trans (works_aioRoundtrip _ _ _ _) fun _ ↦ ?_
  refine .bind Works.trans (works_aioRoundtrip _ _ _ _) fun _ ↦ ?_
  refine .bind Works.trans (.lift Works.refl _) fun _ ↦ ?_
  exact .bind Works.trans (works_aioRoundtrip _ _ _ _) fun _ ↦ .pure Works.refl _

theorem works_openFile (diskPath : String) (readOnly : Bool) :
    Proc.Moves Works (openFile diskPath readOnly) := by
  refine .bind Works.trans works_aioPrepare fun _ ↦ ?_
  refine .bind Works.trans (.lift Works.refl _) fun _ ↦ ?_
  refine .bind Works.trans (works_aioRoundtrip _ _ _ _) fun _ ↦ ?_
  exact .bind Works.trans (.lift Works.refl _) fun _ ↦ .modify fun disk ↦ ⟨.refl disk.sock, rfl⟩

theorem works_closeSession : Proc.Moves Works closeSession := by
  refine .bind Works.trans (.get Works.refl) fun _ ↦ ?_
  refine .bind Works.trans (.lift Works.refl _) fun _ ↦ ?_
  refine .bind Works.trans (works_aioRoundtrip _ _ _ _) fun _ ↦ ?_
  refine .bind Works.trans (.lift Works.refl _) fun _ ↦ ?_
  exact .bind Works.trans (works_aioRoundtrip _ _ _ _) fun _ ↦ works_sockPart (works_sendNfcMsg _ _)

theorem works_readinto (library : FastLzLibrary) (startSector numSectors : ℤ)
    (skipDecompression : Bool) (env : ReadEnv) :
    env.1.Works (readinto library startSector numSectors skipDecompression env).2.1 := by
  obtain ⟨⟨opId, -, hafter⟩, -⟩ | ⟨⟨data, haccepted⟩, hfits, sock, hsend⟩ :=
    readinto_sends_or_keeps library startSector numSectors skipDecompression env
  · rw [hafter]
    exact ⟨.refl _, rfl⟩
  · have hworks := works_sendall (readRequest env.1 startSector (requestLength env.1 numSectors))
      env.1.sock
    rw [hsend] at hworks
    exact .trans env.1 (env.1.afterCall sock) _ ⟨hworks, rfl⟩
      (readinto_received library skipDecompression haccepted hfits hsend).works

section Keeps

variable {relation : NfcDisk → NfcDisk → Prop} (hrefl : ∀ disk, relation disk disk)
  (htrans : ∀ first middle last, relation first middle → relation middle last → relation first last)
  (hsend : ∀ data, Proc.Moves relation (Proc.zoom sockPart (Sock.sendall data)))

include hrefl htrans hsend

/-- What sends keep is kept by the frames of a write. -/
theorem writeLoop_keeps (library : FastLzLibrary) (startSector : ℤ) (length : ℕ) (data : Bytes)
    (opId : ℕ) (fragOffset : ℕ) :
    Proc.Moves relation (writeLoop library startSector length data opId fragOffset) := by
  refine .whileLoop hrefl htrans (fun _ ↦ ?_) _
  refine .bind htrans (.get hrefl) fun _ ↦ ?_
  refine .bind htrans (.lift hrefl _) fun _ ↦ ?_
  refine .bind htrans (.lift hrefl _) fun _ ↦ ?_
  refine .bind htrans (.lift hrefl _) fun _ ↦ ?_
  exact .bind htrans (hsend _) fun _ ↦ .pure hrefl _

/-- What a fresh opId, sends and the wait for a reply keep is kept by a write. -/
theorem write_keeps (hnext : Proc.Moves relation nextOpId) (hreply : Proc.Moves relation aioRecvReply)
    (library : FastLzLibrary) (startSector numSectors : ℤ) (data : Bytes) :
    Proc.Moves relation (write library startSector numSectors data) := by
  refine .bind htrans (.raiseIf hrefl _ _) fun _ ↦ ?_
  refine .bind htrans (.get hrefl) fun _ ↦ ?_
  refine .bind htrans (.raiseIf hrefl _ _) fun _ ↦ ?_
  refine .bind htrans hnext fun opId ↦ ?_
  refine .bind htrans (writeLoop_keeps hrefl htrans hsend _ _ _ _ _ _) fun _ ↦ ?_
  exact .bind htrans hreply fun _ ↦ .raiseIf hrefl _ _

end Keeps

theorem works_write (library : FastLzLibrary) (startSector numSectors : ℤ) (data : Bytes) :
    Proc.Moves Works (write library startSector numSectors data) :=
  write_keeps Works.refl Works.trans (fun _ ↦ works_sockPart (works_sendall _)) works_nextOpId
    works_aioRecvReply library startSector numSectors data

end NfcDisk

end OpenVixDiskLib
