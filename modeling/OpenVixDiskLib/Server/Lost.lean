import OpenVixDiskLib.Nfc.CutStream
import OpenVixDiskLib.Server.Lifetime

/-!
# Lost connections

A connection may be lost behind any byte of what a server sends. Every call then does on what arrives what
it does on the whole stream, until one misses a byte; that one raises, and there is nothing left to receive
(`Call.ReadsFlat.survives`). Where there is nothing to receive no call returns, so from then on every call
raises (`calls_survive_cut`).

Against the server, the calls in front of the loss show what an array of bytes shows, the server holds what
the array holds, and the socket is closed in the end, wherever the connection is lost: in the opening, in the
answer to a call, or in the close (`lost_life_fails`).
-/

set_option autoImplicit false
set_option relaxedAutoImplicit false

namespace OpenVixDiskLib

open NfcDisk
open Arrival (Quiet streamBytes quiet_segment)

/-! ### Nothing to receive -/

/-- No byte is left to receive. -/
def NfcDisk.Ended (disk : NfcDisk) : Prop :=
  streamBytes disk.sock.inbox = []

namespace NfcDisk

/-- Nothing is received where nothing is left. -/
theorem Ended.took {before after : Sock} {taken : Bytes} (hended : streamBytes before.inbox = [])
    (htook : before.Took taken after) : taken = [] ∧ streamBytes after.inbox = [] :=
  List.append_eq_nil_iff.mp (htook.stream.symm.trans hended)

/-- Where nothing is left to receive, nothing will be. -/
def Ends (before after : NfcDisk) : Prop :=
  before.Ended → after.Ended

theorem Ends.refl (disk : NfcDisk) : disk.Ends disk :=
  id

theorem Ends.trans (first middle last : NfcDisk) (hfirst : first.Ends middle) (hlast : middle.Ends last) :
    first.Ends last :=
  fun hended ↦ hlast (hfirst hended)

theorem Received.ends {before after : NfcDisk} (hreceived : before.Received after) :
    before.Ends after := by
  obtain ⟨taken, htook, -⟩ := hreceived
  intro hended
  exact (Ended.took hended htook).2

/-- Sends leave what is to be received. -/
theorem ends_sendall (data : Bytes) : Proc.Moves Ends (Proc.zoom sockPart (Sock.sendall data)) := by
  intro disk hended
  rcases hsend : Sock.sendall data disk.sock with ⟨result, sock⟩
  rw [show Proc.zoom sockPart (Sock.sendall data) disk = _ from Proc.zoom_of_eq sockPart hsend]
  change streamBytes sock.inbox = []
  rw [Sock.sendall_inbox hsend]
  exact hended

/-- No reply comes where nothing is left to receive. -/
theorem Ended.aioRecvReply_ne_ok {disk : NfcDisk} (hended : disk.Ended) (reply : ℕ × ℕ × Bytes) :
    (aioRecvReply disk).1 ≠ .ok reply := by
  intro hreturns
  obtain ⟨htook, -⟩ := aioRecvReply_ok (Proc.eq_of_fst hreturns)
  have hlength := congrArg List.length (Ended.took hended htook).1
  rw [aioMessage, List.length_append, length_hdrFields, nfcAioHdrSize, List.length_nil] at hlength
  omega

theorem ends_write (library : FastLzLibrary) (startSector numSectors : ℤ) (data : Bytes) :
    Proc.Moves Ends (write library startSector numSectors data) :=
  write_keeps Ends.refl Ends.trans ends_sendall (fun _ ↦ id)
    (fun disk ↦ (moves_aioRecvReply disk).ends) library startSector numSectors data

/-- No write returns where nothing is left to receive. -/
theorem Ended.write_ne_ok {disk : NfcDisk} (hended : disk.Ended) (library : FastLzLibrary)
    (startSector numSectors : ℤ) (data : Bytes) :
    (write library startSector numSectors data disk).1 ≠ .ok () := by
  intro hreturns
  have hrun := Proc.eq_of_fst hreturns
  unfold write at hrun
  obtain ⟨-, hrun⟩ := Proc.raiseIf_bind_eq_ok.mp hrun
  rw [Proc.get_bind_apply] at hrun
  obtain ⟨-, hrun⟩ := Proc.raiseIf_bind_eq_ok.mp hrun
  rw [Proc.bind_of_ok (nextOpId_apply disk)] at hrun
  obtain ⟨last, sent, hloop, hreply⟩ := Proc.bind_eq_ok.mp hrun
  have hsent := writeLoop_keeps Ends.refl Ends.trans ends_sendall library startSector
    (requestLength disk numSectors) data disk.opId 0 { disk with opId := disk.opId + 1 } hended
  rw [hloop] at hsent
  obtain ⟨reply, after, hreply, -⟩ := Proc.bind_eq_ok.mp hreply
  exact Ended.aioRecvReply_ne_ok hsent reply (congrArg Prod.fst hreply)

theorem ends_readinto (library : FastLzLibrary) (startSector numSectors : ℤ)
    (skipDecompression : Bool) (env : ReadEnv) :
    env.1.Ends (readinto library startSector numSectors skipDecompression env).2.1 := by
  obtain ⟨⟨opId, -, hafter⟩, -⟩ | ⟨⟨data, haccepted⟩, hfits, sock, hsend⟩ :=
    readinto_sends_or_keeps library startSector numSectors skipDecompression env
  · rw [hafter]
    exact .refl env.1
  · intro hended
    refine (readinto_received library skipDecompression haccepted hfits hsend).ends ?_
    change streamBytes sock.inbox = []
    rw [Sock.sendall_inbox hsend]
    exact hended

/-- No read returns where nothing is left to receive. -/
theorem Ended.readinto_ne_ok {env : ReadEnv} (hended : env.1.Ended) (library : FastLzLibrary)
    (startSector numSectors : ℤ) (skipDecompression : Bool) (result : ReadResult) :
    (readinto library startSector numSectors skipDecompression env).1 ≠ .ok result := by
  intro hreturns
  have hrun := Proc.eq_of_fst hreturns
  rw [readinto, Proc.raiseIf_bind_eq_ok, Proc.get_bind_apply] at hrun
  obtain ⟨hpositive, hrun⟩ := hrun
  obtain ⟨data, -, hrun⟩ := Proc.lift_bind_eq_ok.mp hrun
  obtain ⟨opId, sent, hsent, hrun⟩ := Proc.bind_eq_ok.mp hrun
  obtain ⟨disk, hsend, rfl⟩ := Proc.zoom_eq_ok.mp hsent
  obtain ⟨last, after, hloop, -⟩ := Proc.bind_eq_ok.mp hrun
  have hgo : readStart.filled < requestLength env.1 numSectors := requestLength_pos (not_lt.mp hpositive)
  -- The first round of the loop receives a header.
  rw [readLoop, Proc.whileLoop_unfold (readFragment_decreasing _ _ _ _ _),
    if_pos (decide_eq_true hgo)] at hloop
  obtain ⟨next, middle, hround, -⟩ := Proc.bind_eq_ok.mp hloop
  obtain ⟨header, received, hheader, -⟩ := Proc.bind_eq_ok.mp hround
  obtain ⟨hlength, htook, -⟩ := recvn_env_ok hheader
  have hkept : disk.Ended := by
    obtain ⟨-, -, hsendall, hafter⟩ := sendRead_ok hsend
    change streamBytes disk.sock.inbox = []
    rw [Sock.sendall_inbox hsendall]
    exact hended
  rw [(Ended.took hkept htook).1] at hlength
  cases hlength

end NfcDisk

/-! ### Calls on a start of a stream -/

section Cut

variable {lost : Bytes}

/-- The buffer of a call is flat. -/
def Call.ReadsFlat : Call → Prop
  | .readinto _ _ _ buf => buf.Flat
  | _ => True

/-- Valid calls read into flat buffers. -/
theorem Call.Valid.readsFlat {call : Call} {sectorSize size : ℕ} (hvalid : call.Valid sectorSize size) :
    call.ReadsFlat := by
  cases call with
  | write | read => trivial
  | readinto => exact hvalid.data.2.1

/-- A call does on a start of a stream what it does on the whole of it, until it misses a byte. -/
theorem Call.ReadsFlat.survives (library : FastLzLibrary) {call : Call} (hflat : call.ReadsFlat) :
    NfcDisk.Survives lost (call.run library) := by
  intro disk cut hcut
  cases call with
  | write startSector numSectors data =>
    have hwrite := cut_write library startSector numSectors data disk cut hcut
    simp only [run]
    rcases hrun : NfcDisk.write library startSector numSectors data disk with ⟨result, after⟩
    rcases hrun' : NfcDisk.write library startSector numSectors data cut with ⟨result', after'⟩
    rw [hrun, hrun'] at hwrite
    obtain ⟨houtcomes, hafter⟩ | ⟨error, rfl, hmissed⟩ := hwrite
    · cases houtcomes with
      | raised error => exact .inl ⟨.raised error, hafter⟩
      | returned hvalues => exact .inl ⟨.returned rfl, hafter⟩
    · exact .inr ⟨error, rfl, hmissed⟩
  | read startSector numSectors => exact cut_read library startSector numSectors disk cut hcut
  | readinto startSector numSectors skipDecompression buf =>
    have hread := cut_readinto library startSector numSectors skipDecompression (disk, buf) (cut, buf)
      ⟨hcut, rfl, hflat⟩
    simp only [run]
    rcases hrun : NfcDisk.readinto library startSector numSectors skipDecompression (disk, buf) with
      ⟨result, after⟩
    rcases hrun' : NfcDisk.readinto library startSector numSectors skipDecompression (cut, buf) with
      ⟨result', after'⟩
    rw [hrun, hrun'] at hread
    obtain ⟨houtcomes, hafter, hbuf, -⟩ | ⟨error, rfl, hmissed⟩ := hread
    · cases houtcomes with
      | raised error => exact .inl ⟨.raised error, hafter⟩
      | returned hvalues =>
        obtain rfl := hvalues
        change after.2 = after'.2 at hbuf
        refine .inl ⟨?_, hafter⟩
        simp only [hbuf]
        exact .refl _
    · exact .inr ⟨error, rfl, hmissed⟩

/-- A call has raised. -/
def Raises (outcome : Except PyError Bytes) : Prop :=
  ∃ error, outcome = .error error

/-- A call has missed a byte. -/
def Misses (outcome : Except PyError Bytes) : Prop :=
  ∃ size filled, outcome = .error (closedEarly size filled)

/-- No call returns where nothing is left to receive, and nothing will be. -/
theorem Call.run_of_ended (library : FastLzLibrary) (call : Call) {disk : NfcDisk} (hended : disk.Ended) :
    Raises (call.run library disk).1 ∧ (call.run library disk).2.Ended := by
  have hraises : (∀ bytes, (call.run library disk).1 ≠ .ok bytes) → Raises (call.run library disk).1 := by
    intro hnever
    rcases hrun : (call.run library disk).1 with error | bytes
    · exact ⟨error, rfl⟩
    · exact absurd hrun (hnever bytes)
  cases call with
  | write startSector numSectors data =>
    rw [run_write_snd]
    refine ⟨hraises fun bytes hreturns ↦ ?_, ends_write library startSector numSectors data disk hended⟩
    rw [run] at hreturns
    rcases hrun : NfcDisk.write library startSector numSectors data disk with ⟨error | ⟨⟨⟩⟩, after⟩
    all_goals rw [hrun] at hreturns
    · cases hreturns
    · exact hended.write_ne_ok library startSector numSectors data (congrArg Prod.fst hrun)
  | read startSector numSectors =>
    refine ⟨hraises fun bytes hreturns ↦ ?_, ?_⟩
    · obtain ⟨result, hread⟩ := read_eq_ok.mp (Proc.eq_of_fst hreturns)
      exact Ended.readinto_ne_ok hended library startSector numSectors false result
        (congrArg Prod.fst hread)
    · rw [run, read_snd]
      exact ends_readinto library startSector numSectors false (disk, _) hended
  | readinto startSector numSectors skipDecompression buf =>
    rw [run_readinto_snd]
    refine ⟨hraises fun bytes hreturns ↦ ?_,
      ends_readinto library startSector numSectors skipDecompression (disk, buf) hended⟩
    rw [run] at hreturns
    rcases hrun : NfcDisk.readinto library startSector numSectors skipDecompression (disk, buf) with
      ⟨error | result, after⟩
    all_goals rw [hrun] at hreturns
    · cases hreturns
    · exact Ended.readinto_ne_ok hended library startSector numSectors skipDecompression result
        (congrArg Prod.fst hrun)

/-- The client as a machine: a disk answers each call with what it shows. -/
def diskMachine (library : FastLzLibrary) (disk : NfcDisk) (call : Call) :
    Except PyError Bytes × NfcDisk :=
  call.run library disk

/-- On a start of a stream, calls do what they do on the whole of it up to one that misses a byte, and
from then on they raise. Their buffers are flat: how much a receive into rows takes depends on the arrivals. -/
theorem calls_survive_cut (library : FastLzLibrary) {calls : List Call} {disk cut : NfcDisk}
    (hflat : ∀ call ∈ calls, call.ReadsFlat) (hcut : disk.Cut lost cut) : ∃ kept later, calls = kept ++ later ∧
      (Run.answers (diskMachine library) cut kept).1 = (Run.answers (diskMachine library) disk kept).1 ∧
      (Run.answers (diskMachine library) disk kept).2.Cut lost
        (Run.answers (diskMachine library) cut kept).2 ∧
      ∀ call rest, later = call :: rest →
        Misses (diskMachine library (Run.answers (diskMachine library) cut kept).2 call).1 ∧
          ∀ outcome ∈ (Run.answers (diskMachine library)
              (diskMachine library (Run.answers (diskMachine library) cut kept).2 call).2 rest).1,
            Raises outcome := by
  refine Run.answers_until (fun state state' call hcall hrelated ↦ ?_)
    (fun state call hended ↦ call.run_of_ended library hended) hflat hcut
  obtain ⟨houtcomes, hafter⟩ | ⟨error, hraised, hmissed⟩ := hcall.survives library state state' hrelated
  · exact .inl ⟨houtcomes.eq.symm, hafter⟩
  · obtain ⟨size, filled, rfl⟩ := hmissed.error_eq
    exact .inr ⟨⟨size, filled, hraised⟩, hmissed.ended⟩

end Cut

/-- Two reads of which the first may miss bytes of its reply. -/
theorem calls_survive_cut_swapped : ∃ kept later,
    [Call.read 0 1, Call.readinto 1 1 true (.zeros 4)] = kept ++ later ∧
    (Run.answers (diskMachine FastLz.storing) (fresh (swappedReply.take 20)) kept).1 =
      (Run.answers (diskMachine FastLz.storing) (fresh swappedReply) kept).1 ∧
    ∀ call rest, later = call :: rest → Misses (diskMachine FastLz.storing
      (Run.answers (diskMachine FastLz.storing) (fresh (swappedReply.take 20)) kept).2 call).1 := by
  have hcut : (fresh swappedReply).Cut (swappedReply.drop 20) (fresh (swappedReply.take 20)) := by
    refine ⟨_, ⟨rfl, ?_, quiet_segment swappedReply, quiet_segment (swappedReply.take 20)⟩, rfl⟩
    change streamBytes (Arrival.segment swappedReply) =
      streamBytes (Arrival.segment (swappedReply.take 20)) ++ swappedReply.drop 20
    rw [Arrival.streamBytes_segment, Arrival.streamBytes_segment, List.take_append_drop]
  have hflat : ∀ call ∈ [Call.read 0 1, Call.readinto 1 1 true (.zeros 4)], call.ReadsFlat := by
    rw [List.forall_mem_cons, List.forall_mem_singleton]
    exact ⟨trivial, Buffer.zeros_flat 4⟩
  obtain ⟨kept, later, hcalls, hsame, -, hlater⟩ := calls_survive_cut FastLz.storing hflat hcut
  exact ⟨kept, later, hcalls, hsame, fun call rest h ↦ (hlater call rest h).1⟩

/-! ### Lives -/

/-- A life of a disk on a connection that is lost: in the welcome, in the answer to a call, or in the
acknowledgements of the close. The calls of `kept` have been answered, `missed` is the call whose answer
is lost in part, and the calls of `later` are made behind it. -/
inductive LostLife (library : FastLzLibrary) (args : OpenArgs) (start : Sock) (content : Bytes) :
    List Call → Option Call → List Call → List (Except PyError Bytes) → Bytes → Except PyError Unit →
      Sock → Prop
  | opening {lost : Bytes} {cut sock : Sock} {opened : Except PyError NfcDisk}
      (hlost : lost ≠ []) (hcut : start.Cut lost cut) (hopen : openDisk args cut = (opened, sock)) :
      LostLife library args start content [] none [] [] content (opened.map fun _ ↦ ()) sock
  | calling {disk last closed : NfcDisk} {session : Session} {kept later : List Call} {call : Call}
      {observed raised : List (Except PyError Bytes)} {lost request reply held : Bytes}
      {cut : List Arrival} {result : Except PyError Unit}
      (hopen : openDisk args start = (.ok disk, disk.sock))
      (hrun : Run (Step library) ⟨disk, content⟩ kept observed session)
      (hsent : (call.run library (session.disk.meets cut)).2.sock.sent =
        session.disk.sock.sent ++ request)
      (hserves : Serves library call.skips session.disk.handle.toNat session.content request held reply)
      (hlost : lost ≠ []) (hquiet : Quiet cut) (hcut : reply = streamBytes cut ++ lost)
      (hlater : Run.answers (diskMachine library) (session.disk.meets cut) (call :: later) =
        (raised, last))
      (hclose : close last = (result, closed)) :
      LostLife library args start content kept (some call) later (observed ++ raised) held result
        closed.sock
  | closing {disk closed : NfcDisk} {session : Session} {kept : List Call}
      {observed : List (Except PyError Bytes)} {lost : Bytes} {cut : List Arrival}
      {result : Except PyError Unit}
      (hopen : openDisk args start = (.ok disk, disk.sock))
      (hrun : Run (Step library) ⟨disk, content⟩ kept observed session)
      (hlost : lost ≠ []) (hquiet : Quiet cut)
      (hacks : Acknowledges session.disk.opId (streamBytes cut ++ lost))
      (hclose : close (session.disk.meets cut) = (result, closed)) :
      LostLife library args start content kept none [] observed session.content result closed.sock

/-- How a lost life ends: the calls answered have shown what the array shows, the others have raised, the
first of them because it missed a byte, the server holds what the array holds behind the calls it took, the
close raises, and the socket is closed. -/
structure Failed (sectorSize : ℕ) (content : Bytes) (kept : List Call) (missed : Option Call)
    (later : List Call) (observed : List (Except PyError Bytes)) (held : Bytes)
    (result : Except PyError Unit) (sock : Sock) : Prop where
  observed : ∃ raised, observed = (Run.answers (arrayMachine sectorSize) content kept).1 ++ raised ∧
    raised.length = (missed.toList ++ later).length ∧ (∀ outcome ∈ raised, Raises outcome) ∧
    (missed ≠ none → ∃ outcome ∈ raised.head?, Misses outcome)
  held : held = (Run.answers (arrayMachine sectorSize) content (kept ++ missed.toList)).2
  raises : ∃ error, result = .error error
  closed : sock.closed = true

section Lives

variable {library : FastLzLibrary} {args : OpenArgs} {settings : OpenSettings} {handle : UInt64}
  {sectorSize : ℕ} {start sock : Sock} {content held lost : Bytes} {kept later calls : List Call}
  {missed : Option Call} {observed : List (Except PyError Bytes)} {result : Except PyError Unit}

/-- The whole of a stream is not taken where a start of it has been. -/
theorem Sock.Cut.not_ended {cut : Sock} (hcut : start.Cut lost cut) (hlost : lost ≠ []) :
    streamBytes start.inbox ≠ [] := by
  rw [hcut.stream]
  exact fun hnil ↦ hlost (List.append_eq_nil_iff.mp hnil).2

/-- A procedure that takes the whole of a stream misses a byte on every start of it. -/
theorem NfcDisk.Survives.misses {α : Type} {body : Py NfcDisk α} {disk cut : NfcDisk}
    (hbody : Survives lost body) (hcut : disk.Cut lost cut) (hlost : lost ≠ [])
    (hended : (body disk).2.Ended) :
    ∃ error, (body cut).1 = .error error ∧ (body cut).2.Missed lost error := by
  obtain ⟨-, sock, hafter, -⟩ | hmissed := hbody disk cut hcut
  · exact absurd hended (hafter.not_ended hlost)
  · exact hmissed

/-- The arrivals of a start of what is to come. -/
theorem NfcDisk.cut_meets {disk : NfcDisk} {inbox cut : List Arrival} (hholds : disk.sock.Holds [])
    (hinbox : Quiet inbox) (hquiet : Quiet cut) (hcut : streamBytes inbox = streamBytes cut ++ lost) :
    (disk.meets inbox).Cut lost (disk.meets cut) := by
  refine ⟨(disk.meets cut).sock, ⟨rfl, ?_, (meets_holds hholds hinbox).quiet,
    (meets_holds hholds hquiet).quiet⟩, rfl⟩
  rw [(meets_holds hholds hinbox).stream, (meets_holds hholds hquiet).stream, hcut]

theorem Call.closed_run (library : FastLzLibrary) (call : Call) (disk : NfcDisk) :
    (call.run library disk).2.closed = disk.closed := by
  cases call with
  | write startSector numSectors data =>
    rw [run_write_snd]
    exact (works_write library startSector numSectors data disk).closed_eq
  | read startSector numSectors =>
    rw [run, read_snd]
    exact (works_readinto library startSector numSectors false (disk, _)).closed_eq
  | readinto startSector numSectors skipDecompression buf =>
    rw [run_readinto_snd]
    exact (works_readinto library startSector numSectors skipDecompression (disk, buf)).closed_eq

/-- The messages of a close raise where nothing is left to receive. -/
theorem NfcDisk.Ended.closeSession_ne_ok {disk : NfcDisk} (hended : disk.Ended) :
    (closeSession disk).1 ≠ .ok () := by
  intro hreturns
  have hrun := Proc.eq_of_fst hreturns
  rw [closeSession, Proc.get_bind_apply] at hrun
  obtain ⟨handle, -, hrun⟩ := Proc.lift_bind_eq_ok.mp hrun
  obtain ⟨body, after, htrip, -⟩ := Proc.bind_eq_ok.mp hrun
  obtain ⟨opId, sent, hsend, htrip⟩ := Proc.bind_eq_ok.mp htrip
  obtain ⟨reply, middle, hreply, -⟩ := Proc.bind_eq_ok.mp htrip
  have hsent : Proc.Moves Ends (aioSend nfcAioMsgCloseFile handle []) := by
    refine .bind Ends.trans (fun _ ↦ id) fun _ ↦ ?_
    refine .bind Ends.trans (.lift Ends.refl _) fun _ ↦ ?_
    exact .bind Ends.trans (ends_sendall _) fun _ ↦ .pure Ends.refl _
  have hmiddle := hsent disk hended
  rw [hsend] at hmiddle
  exact Ended.aioRecvReply_ne_ok hmiddle reply (congrArg Prod.fst hreply)

/-- A disk that is open and has nothing left to receive. -/
structure NfcDisk.Stranded (disk : NfcDisk) : Prop where
  ended : disk.Ended
  opened : disk.closed = false

/-- Every call on a stranded disk raises and leaves it stranded. -/
theorem Call.run_of_stranded (library : FastLzLibrary) (call : Call) {disk : NfcDisk}
    (hstranded : disk.Stranded) :
    Raises (diskMachine library disk call).1 ∧ (diskMachine library disk call).2.Stranded := by
  obtain ⟨hraises, hended⟩ := call.run_of_ended library hstranded.ended
  exact ⟨hraises, hended, (call.closed_run library disk).trans hstranded.opened⟩

/-- A close whose messages raise raises, and closes the socket. -/
theorem NfcDisk.close_of_raises {disk : NfcDisk} (hopen : disk.closed = false)
    (hraises : (closeSession { disk with closed := true }).1 ≠ .ok ()) :
    (∃ error, (close disk).1 = .error error) ∧ (close disk).2.sock.closed = true := by
  have hclose : close disk = Proc.tryFinally closeSession (Proc.zoom sockPart Sock.closeQuietly)
      { disk with closed := true } := by
    rw [close, Proc.get_bind_apply, hopen, if_neg Bool.false_ne_true, Proc.modify_bind_apply]
  rw [hclose]
  constructor
  · rcases hrun : Proc.tryFinally closeSession (Proc.zoom sockPart Sock.closeQuietly)
      { disk with closed := true } with ⟨error | ⟨⟨⟩⟩, last⟩
    · exact ⟨error, rfl⟩
    · obtain ⟨after, hbody, -⟩ := Proc.tryFinally_eq_ok hrun
      exact absurd (congrArg Prod.fst hbody) hraises
  · rw [Proc.tryFinally_snd, Proc.zoom_apply, Sock.closeQuietly_snd]
    rfl

/-- Closing a stranded disk raises, and closes its socket. -/
theorem NfcDisk.Stranded.close {disk : NfcDisk} (hstranded : disk.Stranded) :
    (∃ error, (NfcDisk.close disk).1 = .error error) ∧ (NfcDisk.close disk).2.sock.closed = true :=
  close_of_raises hstranded.opened (Ended.closeSession_ne_ok hstranded.ended)

/-- An opening misses a byte on every start of a welcome. -/
theorem Viable.opening_fails {cut : Sock} {opened : Except PyError NfcDisk}
    (hviable : Viable library args settings handle sectorSize start content calls) (hlost : lost ≠ [])
    (hcut : start.Cut lost cut) (hopen : openDisk args cut = (opened, sock)) :
    (∃ error, opened = .error error) ∧ sock.closed = true := by
  have hsends : cut.Sends := by
    rw [hcut.frame]
    exact hviable.sends
  have hemits := openDisk_emits hsends hviable.fits
  rw [hopen] at hemits
  rcases opened with error | disk
  · exact ⟨⟨error, rfl⟩, hemits.1⟩
  · obtain ⟨welcome, hwelcome, hholds⟩ := hviable.welcome
    rw [← List.append_nil welcome] at hholds
    obtain ⟨whole, hmakes, -, -, -, hrest⟩ := openOn_of_welcome hviable.sends hviable.fits hwelcome hholds
    have hmade := (openDisk_eq_ok hviable.fits.check_eq).mp hopen
    obtain ⟨-, hafter⟩ | ⟨error, hraised, -⟩ := cut_openOn args settings start cut hcut
    · rw [hmakes, hmade] at hafter
      exact absurd hrest.stream (Sock.Cut.not_ended hafter hlost)
    · rw [hmade] at hraised
      cases hraised

/-- The answered part of a lost life: the calls have shown what the array shows, and the session is alive. -/
theorem Viable.answered {disk : NfcDisk} {session : Session} {more : List Call}
    (hviable : Viable library args settings handle sectorSize start content (kept ++ more))
    (hopen : openDisk args start = (.ok disk, disk.sock))
    (hrun : Run (Step library) ⟨disk, content⟩ kept observed session) :
    disk.sectorSize = sectorSize ∧ disk.opId = 4 ∧ disk.closed = false ∧
      observed = (Run.answers (arrayMachine sectorSize) content kept).1 ∧
      session.Alive library disk (kept ++ more).length more
        (Run.answers (arrayMachine sectorSize) content kept).2 := by
  obtain ⟨disk', hopened, -, hsize, hopId, hclosed, -, -, halive⟩ := hviable.opens
  obtain rfl := Except.ok.inj (Prod.mk.inj (hopened.symm.trans hopen)).1
  subst hsize
  exact ⟨rfl, hopId, hclosed, @Run.simulates _ _ _ _ (Step library) (arrayMachine disk'.sectorSize)
    (fun calls session content ↦
      session.Alive library disk' (kept ++ more).length (calls ++ more) content)
    (fun _ _ _ _ _ _ ↦ Session.Alive.step) _ _ _ _ _ halive hrun⟩

/-- A session in its life has the sector size of its start, and is open or closed as that was. -/
theorem Session.Alive.sectorSize_eq {disk : NfcDisk} {session : Session} {count : ℕ}
    (halive : session.Alive library disk count calls content) :
    session.disk.sectorSize = disk.sectorSize := by
  rw [halive.disk_eq]

theorem Session.Alive.closed_eq {disk : NfcDisk} {session : Session} {count : ℕ}
    (halive : session.Alive library disk count calls content) :
    session.disk.closed = disk.closed := by
  rw [halive.disk_eq]

/-- The messages of a close miss a byte on every start of their acknowledgements. -/
theorem Session.Ready.closeSession_ne_ok {session : Session} {cut : List Arrival}
    (hready : session.Ready library []) (hlost : lost ≠ []) (hquiet : Quiet cut)
    (hacks : Acknowledges session.disk.opId (streamBytes cut ++ lost))
    (hopId : session.disk.opId + 1 < 2 ^ 32) :
    (closeSession { session.disk.meets cut with closed := true }).1 ≠ .ok () := by
  obtain ⟨fileBody, sessionBody, hfile, hsession, hstream⟩ := hacks
  obtain ⟨inbox, hinbox, hwhole⟩ : ∃ inbox, Quiet inbox ∧ streamBytes inbox = streamBytes cut ++ lost :=
    ⟨_, quiet_segment _, Arrival.streamBytes_segment _⟩
  have hholds := meets_holds hready.holds hinbox
  rw [hwhole, hstream, ← List.append_nil (aioMessage nfcAioMsgCloseSession _ _)] at hholds
  obtain ⟨sock, hrun, hexchange⟩ := @closeSession_of_acks { session.disk.meets inbox with closed := true }
    fileBody sessionBody [] hopId hfile hsession hready.sends hholds
  obtain ⟨middle, hcut, hsame⟩ := cut_meets hready.holds hinbox hquiet hwhole
  have hmeets : ({ session.disk.meets inbox with closed := true } : NfcDisk).Cut lost
      { session.disk.meets cut with closed := true } := ⟨middle, hcut, by rw [hsame]⟩
  obtain ⟨error, hraised, -⟩ := Survives.misses cut_closeSession hmeets hlost (by
    rw [hrun]
    rw [← List.append_assoc] at hholds
    exact (hexchange.holds hholds).stream)
  rw [hraised]
  exact fun hreturns ↦ by cases hreturns

/-- The call whose answer is lost in part misses a byte, and leaves nothing to receive. -/
theorem Session.Ready.misses {session : Session} {call : Call} {request reply : Bytes}
    {cut : List Arrival} (hready : session.Ready library (call :: calls))
    (hsent : (call.run library (session.disk.meets cut)).2.sock.sent =
      session.disk.sock.sent ++ request)
    (hserves : Serves library call.skips session.disk.handle.toNat session.content request held reply)
    (hlost : lost ≠ []) (hquiet : Quiet cut) (hcut : reply = streamBytes cut ++ lost) :
    Misses (call.run library (session.disk.meets cut)).1 ∧
      (call.run library (session.disk.meets cut)).2.Ended ∧
      held = (arrayMachine session.disk.sectorSize session.content call).2 := by
  obtain ⟨request', hcorrect⟩ := hready.correct
  have hemits := hcorrect.emits cut
  rw [hsent] at hemits
  obtain rfl := List.append_cancel_left hemits
  rw [← Arrival.streamBytes_segment reply] at hserves
  obtain ⟨sock, hrun, hheld, -, hholds⟩ :=
    hcorrect.answered held (Arrival.segment reply) (quiet_segment reply) hserves
  have hmeets := cut_meets hready.holds (quiet_segment reply) hquiet
    ((Arrival.streamBytes_segment reply).trans hcut)
  obtain ⟨error, hraised, hmissed⟩ := ((hready.valid call List.mem_cons_self).readsFlat.survives library).misses
    hmeets hlost
    (show (call.run library (session.disk.meets (Arrival.segment reply))).2.Ended by
      rw [hrun]
      exact hholds.stream)
  obtain ⟨size, filled, rfl⟩ := hmissed.error_eq
  exact ⟨⟨size, filled, hraised⟩, hmissed.ended, hheld⟩

/-- Wherever the connection is lost, what has been answered is right, nothing else returns, and the socket
is closed. -/
theorem LostLife.fails
    (hlife : LostLife library args start content kept missed later observed held result sock)
    (hviable : Viable library args settings handle sectorSize start content (kept ++ missed.toList)) :
    Failed sectorSize content kept missed later observed held result sock := by
  cases hlife with
  | opening hlost hcut hopen =>
    obtain ⟨⟨error, rfl⟩, hclosed⟩ := hviable.opening_fails hlost hcut hopen
    exact ⟨⟨[], rfl, rfl, fun _ hmem ↦ absurd hmem List.not_mem_nil, fun h ↦ absurd rfl h⟩, rfl,
      ⟨error, rfl⟩, hclosed⟩
  | @calling disk last closed session _ _ call observed raised lost request reply _ cut _ hopen hrun hsent
      hserves hlost hquiet hcut hlater hclose =>
    obtain ⟨rfl, -, hdisk, rfl, halive⟩ := hviable.answered hopen hrun
    obtain ⟨hmisses, hended, hheld⟩ := halive.ready.misses hsent hserves hlost hquiet hcut
    have hstranded : (diskMachine library (session.disk.meets cut) call).2.Stranded :=
      ⟨hended, (call.closed_run library _).trans (halive.closed_eq.trans hdisk)⟩
    obtain ⟨rfl, rfl⟩ := Prod.mk.inj hlater
    obtain ⟨hraises, hlast⟩ := @Run.answers_of_stopped _ _ _ (diskMachine library) NfcDisk.Stranded Raises
      (fun _ call ↦ call.run_of_stranded library) _ hstranded later
    have hends := hlast.close
    rw [show NfcDisk.close _ = (result, closed) from hclose] at hends
    obtain ⟨hraised, hclosed⟩ := hends
    refine ⟨⟨_, rfl, ?_, ?_, fun _ ↦ ⟨_, rfl, hmisses⟩⟩, ?_, hraised, hclosed⟩
    · exact Run.length_answers (diskMachine library) _ (call :: later)
    · obtain ⟨size, filled, hmissed⟩ := hmisses
      exact List.forall_mem_cons.mpr ⟨⟨_, hmissed⟩, hraises⟩
    · rw [Option.toList_some, Run.answers_append, hheld, halive.content_eq, halive.sectorSize_eq]
      rfl
  | @closing disk closed session _ _ lost cut _ hopen hrun hlost hquiet hacks hclose =>
    rw [Option.toList_none] at hviable
    obtain ⟨rfl, hnumber, hdisk, rfl, halive⟩ := hviable.answered hopen hrun
    have hopId : session.disk.opId + 1 < 2 ^ 32 := by
      have hcount := hviable.opId_le
      rw [halive.disk_eq, hnumber, List.length_nil, Nat.sub_zero]
      change 4 + (kept ++ []).length + 1 < 2 ^ 32
      omega
    obtain ⟨hraised, hclosed⟩ := @close_of_raises (session.disk.meets cut)
      (halive.closed_eq.trans hdisk) (halive.ready.closeSession_ne_ok hlost hquiet hacks hopId)
    rw [hclose] at hraised hclosed
    refine ⟨⟨[], (List.append_nil _).symm, rfl, fun _ hmem ↦ absurd hmem List.not_mem_nil,
      fun h ↦ absurd rfl h⟩, ?_, hraised, hclosed⟩
    rw [Option.toList_none, List.append_nil]
    exact halive.content_eq

/-- A call can always be lost: the whole of its answer may be. -/
theorem Viable.loses {call : Call}
    (hviable : Viable library args settings handle sectorSize start content (kept ++ [call])) :
    ∃ observed held result sock,
      LostLife library args start content kept (some call) later observed held result sock := by
  obtain ⟨disk, hopen, -, -, -, -, -, -, halive⟩ := hviable.opens
  obtain ⟨observed, session, hrun⟩ := @Run.exists_of_progress _ _ _ (Step library)
    (fun calls session ↦ session.Ready library (calls ++ [call])) (fun call calls session hready ↦ by
      obtain ⟨outcome, after, hstep⟩ := hready.progress
      exact ⟨outcome, after, hstep, hready.step hstep⟩) _ kept halive.ready
  obtain ⟨-, -, -, -, hsession⟩ := hviable.answered hopen hrun
  obtain ⟨request, hcorrect⟩ := hsession.ready.correct
  obtain ⟨held, reply, hserves⟩ := hcorrect.served
  have hreply : reply ≠ [] := by
    rintro rfl
    obtain ⟨sock, hanswered, -⟩ := hcorrect.answered held [] Arrival.quiet_nil hserves
    obtain ⟨error, hraises⟩ := (call.run_of_ended library
      (show (session.disk.meets []).Ended from
        (meets_holds hsession.ready.holds Arrival.quiet_nil).stream)).1
    rw [hanswered] at hraises
    cases call <;> cases hraises
  exact ⟨_, held, _, _, .calling hopen hrun (hcorrect.emits []) hserves hreply Arrival.quiet_nil rfl rfl rfl⟩

/-- A connection may be lost in any call of a viable life, and wherever it is lost, in the opening, in a call
or in the close, what has been answered is right, nothing else returns, and the socket is closed. -/
theorem lost_life_fails
    (hviable : Viable library args settings handle sectorSize start content (kept ++ missed.toList)) :
    (missed ≠ none → ∃ observed held result sock,
      LostLife library args start content kept missed later observed held result sock) ∧
    ∀ observed held result sock,
      LostLife library args start content kept missed later observed held result sock →
        Failed sectorSize content kept missed later observed held result sock := by
  refine ⟨fun hmissed ↦ ?_, fun observed held result sock hlife ↦ hlife.fails hviable⟩
  obtain ⟨call, rfl⟩ := Option.ne_none_iff_exists'.mp hmissed
  exact hviable.loses

end Lives

/-! ### A write, a read that is lost, and a read behind it -/

theorem lost_life_fails_twoCalls : ∃ observed held result sock,
    LostLife FastLz.storing { defaultOpenArgs "[datastore0] vm/vm.vmdk" with
        compression := Compression.fastlz.code }
      ⟨Arrival.segment openingReplies, [], false, none, none⟩ (List.replicate 1024 0)
      [.write 1 1 (List.replicate 512 1)] (some (.read 0 2)) [.read 0 1] observed held result sock ∧
    Failed 512 (List.replicate 1024 0) [.write 1 1 (List.replicate 512 1)] (some (.read 0 2)) [.read 0 1]
      observed held result sock := by
  obtain ⟨hexists, hfails⟩ := @lost_life_fails _ _ _ _ _ _ _ [.write 1 1 (List.replicate 512 1)]
    [.read 0 1] (some (.read 0 2)) (viable_twoCalls .fastlz)
  obtain ⟨observed, held, result, sock, hlife⟩ := hexists (Option.some_ne_none _)
  exact ⟨observed, held, result, sock, hlife, hfails observed held result sock hlife⟩

end OpenVixDiskLib
