import OpenVixDiskLib.Base.Coupling
import OpenVixDiskLib.Nfc.Open
import OpenVixDiskLib.Nfc.Read
import OpenVixDiskLib.Nfc.Write

/-!
# The client on a stream that ends early

TCP hands over a stream in segments of its own choice, and a connection may be lost behind any byte. On a
connection without timeouts a receive loop takes the same bytes however they are cut into segments, and when
the stream ends early it says so (`recvnInto_of_short`). So every procedure that speaks NFC does on a start
of a stream (`Sock.Cut`) what it does on the whole of it, until it misses a byte (`Sock.Missed`): opening,
reading and writing return and raise the same, send the same, and leave the same disk, or raise the error of
an early end and leave nothing to receive.
-/

set_option autoImplicit false
set_option relaxedAutoImplicit false

namespace OpenVixDiskLib

open Arrival
open Proc (Couples CouplesUntil)

/-! ### Receives -/

/-- The error of a receive of `n` bytes on a stream that ends behind `filled` of them. -/
def closedEarly (n filled : ℕ) : PyError :=
  nfcProtocolError s!"NFC connection closed, needed {n} bytes, got {filled}"

/-- On an open socket without timeouts, a round receives more, or the stream has ended behind what was
received. -/
theorem recvRound_ends (before : Sock) (view : Bytes) (filled : ℕ) (hfilled : filled < view.length)
    (hopen : before.closed = false) (hquiet : Quiet before.inbox) :
    Proc.Triple (fun state ↦ ∃ got, got.length = filled ∧ Received before view got state)
      (recvRound .flat view.length filled)
      (fun next state ↦ ∃ got, got.length = next ∧ Received before view got state)
      (fun error state ↦ ∃ got, error = closedEarly view.length got.length ∧
        Received before view got state ∧ streamBytes state.1.inbox = []) := by
  intro state hstate
  have houtcome := recvRound_triple before view filled hfilled state hstate
  obtain ⟨got, rfl, hreceived⟩ := hstate
  rcases hrun : recvRound .flat view.length got.length state with ⟨error | next, after⟩
  · rw [hrun] at houtcome
    obtain ⟨more, hshort, hmore, hinterrupted⟩ := houtcome
    obtain hclosed | hloud | hend := hinterrupted
    · exact absurd (hopen.symm.trans hclosed) Bool.false_ne_true
    · exact absurd hquiet hloud
    have hrecv := receive_isSome (view.length - got.length) (hreceived.took.quiet hquiet)
    have hsplit := receive_streamBytes (view.length - got.length) state.1.inbox
    rcases hreceive : receive (view.length - got.length) state.1.inbox with ⟨_ | chunk, rest⟩
    · rw [hreceive] at hrecv
      cases hrecv
    have hopen' : state.1.closed = false := hreceived.took.closed_eq.trans hopen
    have hzoom : Proc.zoom viewSock (Sock.recvInto (view.length - got.length)) state =
        (.ok chunk, { state.1 with inbox := rest }, state.2) :=
      Proc.zoom_of_eq _ (by simp [viewSock, Sock.recvInto, hopen', hreceive])
    rw [recvRound_flat hfilled, Proc.bind_of_ok hzoom, Proc.modify_bind_apply] at hrun
    by_cases hchunk : chunk = []
    · subst hchunk
      rw [Proc.raiseIf_bind_of_pos rfl, Prod.mk.injEq, Except.error.injEq] at hrun
      obtain ⟨rfl, rfl⟩ := hrun
      rw [hreceive] at hsplit
      have hcut : more = got := by
        have hstream := hmore.took.stream.symm.trans hreceived.took.stream
        rw [hsplit] at hstream
        exact List.append_cancel_right hstream
      exact ⟨more, by rw [hcut]; rfl, hmore, hend⟩
    · rw [Proc.raiseIf_bind_of_neg hchunk, Proc.pure_apply] at hrun
      cases hrun
  · rw [hrun] at houtcome
    exact houtcome

/-- A receive on a stream that ends early takes all of it, and says how much that was. -/
theorem recvnInto_of_short {sock : Sock} {view : Bytes} (hopen : sock.closed = false)
    (hquiet : Quiet sock.inbox) (hshort : (streamBytes sock.inbox).length < view.length) :
    ∃ after, recvnInto .flat (sock, view) =
        (.error (closedEarly view.length (streamBytes sock.inbox).length), after,
          view.splice 0 (streamBytes sock.inbox)) ∧
      sock.Took (streamBytes sock.inbox) after := by
  have hloop := Proc.Triple.whileLoop (recvRound_decreasing .flat view.length)
    (fun filled hgo ↦ recvRound_ends sock view filled (by simpa using hgo) hopen hquiet) 0
    (sock, view) ⟨[], rfl, ⟨.refl sock, (List.splice_nil _ _).symm, Nat.zero_le _⟩⟩
  rcases hrun : recvnInto .flat (sock, view) with ⟨error | ⟨⟨⟩⟩, after, filled⟩
  · rw [recvnInto_flat] at hrun
    obtain hraised | ⟨last, middle, -, hpure⟩ := Proc.bind_eq_error.mp hrun
    · rw [hraised] at hloop
      obtain ⟨got, rfl, hreceived, hend⟩ := hloop
      have hstream := hreceived.took.stream
      rw [hend, List.append_nil] at hstream
      obtain rfl : filled = _ := hreceived.view_eq
      rw [hstream]
      exact ⟨after, rfl, hreceived.took⟩
    · cases hpure
  · obtain ⟨hlength, htook⟩ := recvnInto_ok hrun
    have hstream := congrArg List.length htook.stream
    rw [List.length_append] at hstream
    change filled.length = view.length at hlength
    change _ = filled.length + _ at hstream
    omega

/-- A receive on a closed socket raises, unless the view is empty. -/
theorem recvnInto_of_closed {sock : Sock} (view : Bytes) (hclosed : sock.closed = true) :
    recvnInto .flat (sock, view) = (if view = [] then .ok () else .error ⟨.osError, "Bad file descriptor"⟩,
      sock, view) := by
  have hloop := Proc.whileLoop_unfold (recvRound_decreasing .flat view.length) 0 (sock, view)
  rw [recvnInto_flat]
  by_cases hempty : view = []
  · subst hempty
    rfl
  · have hpos := List.length_pos_iff.mpr hempty
    have hround : recvRound .flat view.length 0 (sock, view) =
        (.error ⟨.osError, "Bad file descriptor"⟩, sock, view) := by
      rw [recvRound_flat hpos]
      exact Proc.bind_of_error (Proc.zoom_of_eq _ (by simp [viewSock, Sock.recvInto, hclosed]))
    rw [if_pos (by simpa using hpos), Proc.bind_of_error hround] at hloop
    rw [Proc.bind_of_error hloop, if_neg hempty]

/-! ### Sockets -/

/-- The same socket, but for the segments in which the bytes to come are handed over, and for the last of
these bytes, which are lost; no receive on either times out. -/
structure Sock.Cut (lost : Bytes) (sock sock' : Sock) : Prop where
  frame : sock' = { sock with inbox := sock'.inbox }
  stream : streamBytes sock.inbox = streamBytes sock'.inbox ++ lost
  quiet : Quiet sock.inbox
  quiet' : Quiet sock'.inbox

/-- A receive has raised because of lost bytes, and has left nothing to receive. -/
structure Sock.Missed (lost : Bytes) (error : PyError) (sock : Sock) : Prop where
  lost_ne_nil : lost ≠ []
  error_eq : ∃ size filled, error = closedEarly size filled
  ended : streamBytes sock.inbox = []
  quiet : Quiet sock.inbox

namespace Sock.Cut

variable {lost taken : Bytes} {sock sock' after after' : Sock}

theorem closed_eq (hcut : sock.Cut lost sock') : sock'.closed = sock.closed := by
  rw [hcut.frame]

/-- Receives of the same bytes leave the same bytes lost. -/
theorem took (hcut : sock.Cut lost sock') (htook : sock.Took taken after)
    (htook' : sock'.Took taken after') : after.Cut lost after' := by
  refine ⟨?_, ?_, htook.quiet hcut.quiet, htook'.quiet hcut.quiet'⟩
  · rw [htook.frame, htook'.frame, hcut.frame]
  · have hstream := hcut.stream
    rw [htook.stream, htook'.stream, List.append_assoc] at hstream
    exact List.append_cancel_left hstream

end Sock.Cut

/-- A procedure does on a start of a stream what it does on the whole of it, until it misses a byte. -/
abbrev Sock.Survives (lost : Bytes) {α : Type} (body : Py Sock α) : Prop :=
  CouplesUntil (Sock.Missed lost) (Sock.Cut lost) Eq body body

section Procedures

variable {lost : Bytes}

/-- What a receive into a flat view makes of a stream and of a start of it. -/
theorem cut_recvnInto : CouplesUntil (fun error (state' : Sock × Bytes) ↦ state'.1.Missed lost error)
    (fun state state' : Sock × Bytes ↦ state.1.Cut lost state'.1 ∧ state.2 = state'.2) Eq
    (recvnInto .flat) (recvnInto .flat) := by
  rintro ⟨sock, view⟩ ⟨sock', _⟩ ⟨hcut, rfl⟩
  change sock.Cut lost sock' at hcut
  by_cases hclosed : sock.closed = true
  · rw [recvnInto_of_closed view hclosed, recvnInto_of_closed view (hcut.closed_eq.trans hclosed)]
    refine .inl ⟨?_, hcut, rfl⟩
    split
    · exact .returned rfl
    · exact .raised _
  have hopen := Bool.not_eq_true _ ▸ hclosed
  have hopen' := hcut.closed_eq.trans hopen
  have hstream := hcut.stream
  by_cases hshort : (streamBytes sock'.inbox).length < view.length
  · obtain ⟨after', hrun', htook'⟩ := recvnInto_of_short hopen' hcut.quiet' hshort
    rw [hrun']
    by_cases hlost : lost = []
    · rw [hlost, List.append_nil] at hstream
      obtain ⟨after, hrun, htook⟩ := recvnInto_of_short hopen hcut.quiet (hstream ▸ hshort)
      rw [hstream] at hrun htook
      rw [hrun]
      exact .inl ⟨.raised _, hcut.took htook htook', rfl⟩
    · have hended := List.append_cancel_left (htook'.stream.symm.trans (List.append_nil _).symm)
      exact .inr ⟨_, rfl, hlost, ⟨_, _, rfl⟩, hended, htook'.quiet hcut.quiet'⟩
  · have hlength : ((streamBytes sock'.inbox).take view.length).length = view.length :=
      List.length_take_of_le (not_lt.mp hshort)
    have hsplit := (List.take_append_drop view.length (streamBytes sock'.inbox)).symm
    have hwhole := congrArg (· ++ lost) hsplit
    rw [← hstream, List.append_assoc] at hwhole
    obtain ⟨after, hrun, htook⟩ := recvnInto_of_holds ⟨hopen, hcut.quiet, hwhole⟩ hlength
    obtain ⟨after', hrun', htook'⟩ := recvnInto_of_holds ⟨hopen', hcut.quiet', hsplit⟩ hlength
    rw [hrun, hrun']
    exact .inl ⟨.returned rfl, hcut.took htook htook', rfl⟩

theorem cut_recvn (size : ℕ) : Sock.Survives lost (recvn size) := by
  refine .bind (.withLocal rfl cut_recvnInto) ?_
  rintro ⟨_, bytes⟩ ⟨_, _⟩ ⟨-, rfl⟩
  exact .pure rfl

theorem cut_recvnIfAny (size : ℕ) : Sock.Survives lost (recvnIfAny size) := by
  rw [recvnIfAny_eq]
  exact cut_recvn size

theorem cut_sendall (data : Bytes) : Sock.Survives lost (Sock.sendall data) := by
  rintro ⟨inbox, _, _, _, _⟩ ⟨inbox', sent, closed, sendsLeft, closeError⟩
    ⟨hframe, hstream, hquiet, hquiet'⟩
  obtain ⟨-, rfl, rfl, rfl, rfl⟩ := Sock.mk.inj hframe
  cases closed with
  | true => exact .inl ⟨.raised _, rfl, hstream, hquiet, hquiet'⟩
  | false =>
    rcases sendsLeft with _ | _ | left
    · exact .inl ⟨.returned rfl, rfl, hstream, hquiet, hquiet'⟩
    · exact .inl ⟨.raised _, rfl, hstream, hquiet, hquiet'⟩
    · exact .inl ⟨.returned rfl, rfl, hstream, hquiet, hquiet'⟩

/-! ### Classic messages -/

theorem cut_sendNfcMsg (msgType : ℕ) (body : Bytes) :
    Sock.Survives lost (sendNfcMsg msgType body) :=
  .bind_eq (.raiseIf _ _) fun _ ↦ .bind_eq (.lift _) fun _ ↦ cut_sendall _

theorem cut_recvNfcMsg : Sock.Survives lost recvNfcMsg :=
  .bind_eq (cut_recvn _) fun _ ↦ .bind_eq (.lift _) fun _ ↦ .pure rfl

theorem cut_handshake (clientName opId : String) (version : ℤ) :
    Sock.Survives lost (handshake clientName opId version) := by
  refine .bind_eq (cut_sendNfcMsg _ _) fun _ ↦ ?_
  refine .bind_eq (cut_sendNfcMsg _ _) fun _ ↦ ?_
  refine .bind_eq cut_recvNfcMsg fun _ ↦ ?_
  refine .bind_eq (.raiseIf _ _) fun _ ↦ ?_
  refine .bind_eq (.lift _) fun _ ↦ ?_
  refine .bind_eq (cut_sendNfcMsg _ _) fun _ ↦ ?_
  refine .bind_eq cut_recvNfcMsg fun _ ↦ ?_
  refine .bind_eq (.raiseIf _ _) fun _ ↦ ?_
  refine .bind_eq (.lift _) fun _ ↦ ?_
  refine .bind_eq (.raiseIf _ _) fun _ ↦ ?_
  refine .bind_eq (.lift _) fun _ ↦ ?_
  refine .bind_eq (.lift _) fun _ ↦ ?_
  refine .bind_eq (.lift _) fun _ ↦ ?_
  refine .bind_eq (cut_sendNfcMsg _ _) fun _ ↦ ?_
  refine .bind_eq (cut_sendall _) fun _ ↦ ?_
  refine .bind_eq (cut_sendall _) fun _ ↦ ?_
  refine .bind_eq (.lift _) fun _ ↦ ?_
  refine .bind_eq (cut_sendNfcMsg _ _) fun _ ↦ ?_
  refine .bind_eq (cut_sendNfcMsg _ _) fun _ ↦ ?_
  exact .bind_eq cut_recvNfcMsg fun _ ↦ .raiseIf _ _

/-! ### Disks -/

/-- The same session on a stream and on a start of it. -/
def NfcDisk.Cut (lost : Bytes) (disk disk' : NfcDisk) : Prop :=
  ∃ sock, disk.sock.Cut lost sock ∧ disk' = { disk with sock := sock }

/-- A call has raised because of lost bytes, and has left nothing to receive. -/
def NfcDisk.Missed (lost : Bytes) (error : PyError) (disk : NfcDisk) : Prop :=
  disk.sock.Missed lost error

/-- A procedure on a disk does on a start of a stream what it does on the whole of it, until it misses a
byte. -/
abbrev NfcDisk.Survives (lost : Bytes) {α : Type} (body : Py NfcDisk α) : Prop :=
  CouplesUntil (NfcDisk.Missed lost) (NfcDisk.Cut lost) Eq body body

namespace NfcDisk

theorem cut_sockPart {α : Type} {body : Py Sock α} (hbody : Sock.Survives lost body) :
    Survives lost (Proc.zoom sockPart body) := by
  refine .zoom ?_ ?_ (fun _ _ _ ↦ id) hbody
  · rintro disk _ ⟨sock, hcut, rfl⟩
    exact hcut
  · rintro disk _ last last' ⟨sock, hcut, rfl⟩ hlast
    exact ⟨last', hlast, rfl⟩

theorem cut_nextOpId : Survives lost nextOpId := by
  rintro disk _ ⟨sock, hcut, rfl⟩
  exact .inl ⟨.returned rfl, sock, hcut, rfl⟩

theorem cut_aioSend (msgType : ℕ) (payload extra : Bytes) :
    Survives lost (aioSend msgType payload extra) := by
  refine .bind_eq cut_nextOpId fun _ ↦ ?_
  refine .bind_eq (.lift _) fun _ ↦ ?_
  exact .bind_eq (cut_sockPart (cut_sendall _)) fun _ ↦ .pure rfl

theorem cut_aioRecvReply : Survives lost aioRecvReply := by
  refine .bind_eq (cut_sockPart (cut_recvn _)) fun _ ↦ ?_
  refine .bind_eq (.lift _) fun _ ↦ ?_
  refine .bind_eq (.lift _) fun _ ↦ ?_
  refine .bind_eq (.lift _) fun _ ↦ ?_
  refine .bind_eq (.lift _) fun _ ↦ ?_
  refine .bind_eq (.raiseIf _ _) fun _ ↦ ?_
  refine .bind_eq (cut_sockPart (cut_recvnIfAny _)) fun _ ↦ ?_
  exact .bind_eq (.raiseIf _ _) fun _ ↦ .pure rfl

theorem cut_aioRoundtrip (msgType : ℕ) (payload extra : Bytes) (extraRecv : ℕ) :
    Survives lost (aioRoundtrip msgType payload extra extraRecv) := by
  refine .bind_eq (cut_aioSend _ _ _) fun _ ↦ ?_
  refine .bind_eq cut_aioRecvReply fun _ ↦ ?_
  refine .bind_eq (.raiseIf _ _) fun _ ↦ ?_
  exact .bind_eq (cut_sockPart (cut_recvnIfAny _)) fun _ ↦ .pure rfl

theorem cut_aioPrepare : Survives lost aioPrepare := by
  refine .bind .get ?_
  rintro disk _ ⟨sock, hcut, rfl⟩
  refine .bind_eq (.lift _) fun _ ↦ ?_
  refine .bind_eq (cut_aioRoundtrip _ _ _ _) fun _ ↦ ?_
  refine .bind_eq (cut_aioRoundtrip _ _ _ _) fun _ ↦ ?_
  refine .bind_eq (.lift _) fun _ ↦ ?_
  exact .bind_eq (cut_aioRoundtrip _ _ _ _) fun _ ↦ .pure rfl

theorem cut_openFile (diskPath : String) (readOnly : Bool) :
    Survives lost (openFile diskPath readOnly) := by
  refine .bind_eq cut_aioPrepare fun _ ↦ ?_
  refine .bind_eq (.lift _) fun _ ↦ ?_
  refine .bind_eq (cut_aioRoundtrip _ _ _ _) fun _ ↦ ?_
  refine .bind_eq (.lift _) fun _ ↦ .modify ?_
  rintro disk _ ⟨sock, hcut, rfl⟩
  exact ⟨sock, hcut, rfl⟩

/-- The `try` body of `open_disk` makes the same disk. -/
theorem cut_openOn (args : OpenArgs) (settings : OpenSettings) :
    CouplesUntil (Sock.Missed lost) (Sock.Cut lost) (Cut lost) (openOn args settings)
      (openOn args settings) := by
  refine .bind_eq (cut_handshake _ _ _) fun _ ↦ .bind .get fun sock sock' hcut ↦ ?_
  have hinit : Cut lost (init sock args.diskPath settings) (init sock' args.diskPath settings) :=
    ⟨sock', hcut, rfl⟩
  refine .bind (.withLocal hinit (.zoom ?_ ?_ (fun _ _ _ ↦ id)
    (cut_openFile args.diskPath args.readOnly))) ?_
  · rintro ⟨sock, disk⟩ ⟨sock', _⟩ ⟨hsocks, inner, -, rfl⟩
    exact ⟨sock', hsocks, rfl⟩
  · rintro _ _ last _ _ ⟨inner, hinner, rfl⟩
    exact ⟨hinner, inner, hinner, rfl⟩
  · rintro ⟨_, disk⟩ ⟨_, disk'⟩ ⟨_, hdisks⟩
    exact .pure hdisks

theorem cut_closeSession : Survives lost closeSession := by
  refine .bind .get ?_
  rintro disk _ ⟨sock, hcut, rfl⟩
  refine .bind_eq (.lift _) fun _ ↦ ?_
  refine .bind_eq (cut_aioRoundtrip _ _ _ _) fun _ ↦ ?_
  refine .bind_eq (.lift _) fun _ ↦ ?_
  exact .bind_eq (cut_aioRoundtrip _ _ _ _) fun _ ↦ cut_sockPart (cut_sendNfcMsg _ _)

/-! ### Reads -/

/-- The same session on a stream and on a start of it, and the same buffer, which is flat. -/
def CutRead (lost : Bytes) (env env' : ReadEnv) : Prop :=
  env.1.Cut lost env'.1 ∧ env.2 = env'.2 ∧ env.2.Flat

/-- A read does on a start of a stream what it does on the whole of it, until it misses a byte. -/
abbrev SurvivesRead (lost : Bytes) {α : Type} (body : Py ReadEnv α) : Prop :=
  CouplesUntil (fun error env' ↦ env'.1.Missed lost error) (CutRead lost) Eq body body

theorem cut_envSock {α : Type} {body : Py Sock α} (hbody : Sock.Survives lost body) :
    SurvivesRead lost (Proc.zoom envSock body) := by
  refine .zoom ?_ ?_ (fun _ _ _ ↦ id) hbody
  · rintro ⟨disk, buf⟩ ⟨_, _⟩ ⟨⟨sock, hcut, rfl⟩, rfl, -⟩
    exact hcut
  · rintro ⟨disk, buf⟩ ⟨_, _⟩ last last' ⟨⟨sock, hcut, rfl⟩, rfl, hflat⟩ hlast
    exact ⟨⟨last', hlast, rfl⟩, rfl, hflat⟩

theorem cut_receiveInto (offset length : ℕ) : SurvivesRead lost (receiveInto .flat offset length) := by
  refine .zoom ?_ ?_ (fun _ _ _ ↦ id) cut_recvnInto
  · rintro ⟨disk, buf⟩ ⟨_, _⟩ ⟨⟨sock, hcut, rfl⟩, rfl, -⟩
    exact ⟨hcut, rfl⟩
  · rintro ⟨disk, buf⟩ ⟨_, _⟩ ⟨last, view⟩ ⟨last', _⟩ ⟨⟨sock, hcut, rfl⟩, rfl, hflat⟩ ⟨hlast, rfl⟩
    exact ⟨⟨last', hlast, rfl⟩, rfl, hflat⟩

theorem cut_storeChunk (offset : ℕ) (chunk : Bytes) :
    SurvivesRead lost (storeChunk .flat offset chunk) := by
  refine .bind_eq (.raiseIf _ _) fun _ ↦ .modify ?_
  rintro ⟨disk, buf⟩ ⟨_, _⟩ ⟨hcut, rfl, hflat⟩
  exact ⟨hcut, rfl, hflat⟩

theorem cut_receiveExtra (library : FastLzLibrary) (length : ℕ) (skipDecompression : Bool)
    (packedOffset dest chunkLen ctype extraLen : ℕ) : SurvivesRead lost
      (receiveExtra library .flat length skipDecompression packedOffset dest chunkLen ctype extraLen) := by
  unfold receiveExtra
  split
  · refine .bind_eq (.raiseIf _ _) fun _ ↦ ?_
    exact .bind_eq (cut_receiveInto _ _) fun _ ↦ .pure rfl
  split
  · refine .bind_eq (cut_envSock (cut_recvn _)) fun _ ↦ ?_
    refine .bind_eq (Couples.tryExcept (.lift _) fun _ ↦ .raise _).until fun _ ↦ ?_
    refine .bind_eq (.raiseIf _ _) fun _ ↦ ?_
    exact .bind_eq (cut_storeChunk _ _) fun _ ↦ .pure rfl
  split
  · exact .bind_eq (cut_receiveInto _ _) fun _ ↦ .pure rfl
  · exact .raise _

theorem cut_readFragment (library : FastLzLibrary) (length opId : ℕ) (skipDecompression : Bool)
    (locals : ReadLocals) :
    SurvivesRead lost (readFragment library .flat length opId skipDecompression locals) := by
  refine .bind_eq (cut_envSock (cut_recvn _)) fun _ ↦ ?_
  refine .bind_eq (.lift _) fun _ ↦ ?_
  refine .bind_eq (.raiseIf _ _) fun _ ↦ ?_
  refine .bind_eq (cut_envSock (cut_recvn _)) fun _ ↦ ?_
  refine .bind_eq (.raiseIf _ _) fun _ ↦ ?_
  refine .bind_eq (.lift _) fun _ ↦ ?_
  refine .bind_eq (.lift _) fun _ ↦ ?_
  refine .bind_eq (.lift _) fun _ ↦ ?_
  refine .bind_eq (.raiseIf _ _) fun _ ↦ ?_
  refine .bind_eq (.lift _) fun _ ↦ ?_
  exact .bind_eq (cut_receiveExtra _ _ _ _ _ _ _ _) fun _ ↦ .pure rfl

theorem cut_sendRead (startSector : ℤ) (length : ℕ) :
    Survives lost (sendRead startSector length) := by
  refine .bind .get ?_
  rintro disk _ ⟨sock, hcut, rfl⟩
  refine .bind_eq (.lift _) fun _ ↦ ?_
  refine .bind_eq cut_nextOpId fun _ ↦ ?_
  refine .bind_eq (.lift _) fun _ ↦ ?_
  exact .bind_eq (cut_sockPart (cut_sendall _)) fun _ ↦ .pure rfl

theorem cut_readinto (library : FastLzLibrary) (startSector numSectors : ℤ)
    (skipDecompression : Bool) :
    SurvivesRead lost (readinto library startSector numSectors skipDecompression) := by
  refine .bind_eq (.raiseIf _ _) fun _ ↦ .bind .get ?_
  rintro ⟨disk, buf⟩ ⟨_, _⟩ ⟨⟨sock, hcut, rfl⟩, rfl, hflat⟩
  change Buffer.Flat buf at hflat
  have hlift : Couples (CutRead lost) (fun data data' ↦ data' = data ∧ data = ByteView.flat)
      (Proc.lift (writableBytes buf (requestLength disk numSectors)))
      (Proc.lift (writableBytes buf (requestLength disk numSectors))) :=
    .lift_of fun data hdata ↦ ⟨rfl, (hflat.writableBytes_eq_ok.mp hdata).2.2⟩
  refine .bind hlift.until ?_
  rintro data _ ⟨rfl, rfl⟩
  refine .bind_eq (.zoom ?_ ?_ (fun _ _ _ ↦ id) (cut_sendRead startSector _)) fun _ ↦ ?_
  · exact fun _ _ hread ↦ hread.1
  · exact fun _ _ _ _ hread hlast ↦ ⟨hlast, hread.2⟩
  · exact .bind_eq (.whileLoop (cut_readFragment library _ _ skipDecompression) _) fun _ ↦
      .pure rfl

theorem cut_read (library : FastLzLibrary) (startSector numSectors : ℤ) :
    Survives lost (read library startSector numSectors) := by
  refine .bind_eq (.raiseIf _ _) fun _ ↦ .bind .get ?_
  rintro disk _ ⟨sock, hcut, rfl⟩
  refine .bind (@CouplesUntil.withLocal _ _ _ _ _ _ _ _ _ _ (fun buf buf' : Buffer ↦ buf = buf' ∧ buf.Flat)
    _ _ _ _ ⟨rfl, Buffer.zeros_flat _⟩ (cut_readinto library startSector numSectors false)) ?_
  rintro ⟨_, buf⟩ ⟨_, _⟩ ⟨-, rfl, -⟩
  exact .pure rfl

/-! ### Writes -/

theorem cut_writeFragment (library : FastLzLibrary) (startSector : ℤ) (length : ℕ) (data : Bytes)
    (opId fragOffset : ℕ) :
    Survives lost (writeFragment library startSector length data opId fragOffset) := by
  refine .bind .get ?_
  rintro disk _ ⟨sock, hcut, rfl⟩
  refine .bind_eq (.lift _) fun _ ↦ ?_
  refine .bind_eq (.lift _) fun _ ↦ ?_
  refine .bind_eq (.lift _) fun _ ↦ ?_
  exact .bind_eq (cut_sockPart (cut_sendall _)) fun _ ↦ .pure rfl

theorem cut_write (library : FastLzLibrary) (startSector numSectors : ℤ) (data : Bytes) :
    Survives lost (write library startSector numSectors data) := by
  refine .bind_eq (.raiseIf _ _) fun _ ↦ .bind .get ?_
  rintro disk _ ⟨sock, hcut, rfl⟩
  refine .bind_eq (.raiseIf _ _) fun _ ↦ ?_
  refine .bind_eq cut_nextOpId fun opId ↦ ?_
  refine .bind_eq (.whileLoop (cut_writeFragment library startSector _ data opId) 0) fun _ ↦ ?_
  exact .bind_eq cut_aioRecvReply fun _ ↦ .raiseIf _ _

end NfcDisk

end Procedures

end OpenVixDiskLib
