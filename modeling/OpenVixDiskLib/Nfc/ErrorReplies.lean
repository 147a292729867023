import OpenVixDiskLib.Base.Simulation
import OpenVixDiskLib.Nfc.Operation
import OpenVixDiskLib.Nfc.ReadPrefix

/-!
# AIO error replies

What an error reply leaves on the stream. The two header decoders differ: `_aio_recv_reply` takes
the payload of an error before it raises, `_unpack_aio_hdr` raises on the header alone. So a write or
a round trip that meets an error has taken the whole reply, and a `readinto`, after however many
accepted fragments (`ReadPrefix`, `ReadRounds`), leaves the payload of the error unread
(`Operation.Asks.run_of_error`).

A history of operations whose read errors have no payload leaves nothing unread, and `close` then
completes (`error_replies_framed`).
-/

set_option autoImplicit false
set_option relaxedAutoImplicit false

namespace OpenVixDiskLib

open NfcDisk
open Arrival (Quiet streamBytes quiet_append quiet_segment streamBytes_segment)

variable {library : FastLzLibrary} {disk : NfcDisk} {opId : ℕ} {payload rest : Bytes}

/-! ### Reads -/

/-- A round that meets an error reply raises on its header. -/
theorem readFragment_of_error {data : ByteView} {length requestId : ℕ} {skipDecompression : Bool}
    {locals : ReadLocals} {env : ReadEnv} (hopId : opId < 2 ^ 32) (hpayload : payload.length < 2 ^ 32)
    (hholds : env.1.sock.Holds (aioMessage nfcAioMsgError opId payload ++ rest)) :
    ∃ after : ReadEnv,
      readFragment library data length requestId skipDecompression locals env =
        (.error (headerError opId payload.length), after) ∧
      after.1.sock.Holds (payload ++ rest) := by
  rw [aioMessage, List.append_assoc] at hholds
  obtain ⟨sock, hhdr, htook⟩ := recvn_of_holds hholds (length_hdrFields _ _ _)
  obtain ⟨hmagic, htype, hsize, hop⟩ :=
    unpack_hdrFields (show nfcAioMsgError < 2 ^ 32 by decide) hpayload hopId []
  rw [List.append_nil] at hmagic htype hsize hop
  have hunpack : unpackAioHdr
      ((hdrFields nfcAioMsgError payload.length opId).flatMap Field.bytes) =
      .error (headerError opId payload.length) := by
    simp only [unpackAioHdr, hmagic, htype, hsize, hop, bind, Except.bind, ne_eq,
      not_true_eq_false, if_false, if_true]
  refine ⟨envSock.set sock env, ?_, htook.holds hholds⟩
  rw [readFragment, Proc.bind_of_ok (Proc.zoom_of_eq envSock hhdr), hunpack]
  rfl

/-- A read that meets an error reply, behind the rounds that returned, raises a protocol error and leaves
the payload of the reply on the stream. -/
theorem readinto_of_error {startSector numSectors : ℤ} {skipDecompression : Bool} {env middle : ReadEnv}
    {data : ByteView} {last : ReadLocals} {sock : Sock} (haccepted : ReadAccepted numSectors env data)
    (hfits : ReadFits env.1 startSector (requestLength env.1 numSectors))
    (hsend : Sock.sendall (readRequest env.1 startSector (requestLength env.1 numSectors))
      env.1.sock = (.ok (), sock))
    (hrounds : ReadRounds library data (requestLength env.1 numSectors) env.1.opId skipDecompression
      readStart (envDisk.set (env.1.afterCall sock) env) last middle)
    (hopen : last.filled < requestLength env.1 numSectors)
    (hopId : opId < 2 ^ 32) (hpayload : payload.length < 2 ^ 32)
    (hholds : middle.1.sock.Holds (aioMessage nfcAioMsgError opId payload ++ rest)) :
    ∃ after : ReadEnv,
      readinto library startSector numSectors skipDecompression env =
        (.error (headerError opId payload.length), after) ∧
      after.1.sock.Holds (payload ++ rest) := by
  obtain ⟨after, hround, hafter⟩ := readFragment_of_error hopId hpayload hholds
  refine ⟨after, ?_, hafter⟩
  rw [readinto_eq_loop library skipDecompression haccepted hfits hsend]
  exact Proc.bind_of_error (hrounds.readLoop_of_error hopen hround)

/-! ### Operations -/

namespace Operation

/-- The bytes of its reply that the operation accepts before the reply fails: nothing, the first
fragments of a read into a flat buffer, or what the first rounds of a read into any buffer take. -/
inductive Accepts (library : FastLzLibrary) (disk : NfcDisk) : Operation → Bytes → Prop
  | fragments {startSector numSectors : ℤ} {skipDecompression : Bool} {buf : Buffer}
      {fragments : List Fragment} {accepted final : Bytes} {last : ReadLocals} (hflat : buf.Flat)
      (hfront : ReadPrefix library (requestLength disk numSectors) disk.opId skipDecompression
        readStart buf.bytes fragments accepted last final)
      (hopen : last.filled < requestLength disk numSectors) :
      Accepts library disk (.readinto startSector numSectors skipDecompression buf) accepted
  | rounds {startSector numSectors : ℤ} {skipDecompression : Bool} {buf : Buffer} {data : ByteView}
      {accepted : Bytes} {last : ReadLocals} {middle : ReadEnv}
      (hdata : writableBytes buf (requestLength disk numSectors) = .ok data)
      (hrounds : ReadRounds library data (requestLength disk numSectors) disk.opId skipDecompression
        readStart (disk.afterCall (disk.sock.afterSend
          (readRequest disk startSector (requestLength disk numSectors))), buf) last middle)
      (hopen : last.filled < requestLength disk numSectors)
      (htaken : streamBytes disk.sock.inbox = accepted ++ streamBytes middle.1.sock.inbox) :
      Accepts library disk (.readinto startSector numSectors skipDecompression buf) accepted
  | nothing {op : Operation} : Accepts library disk op []

variable {op : Operation} {request accepted : Bytes}

/-- An operation that meets an error reply raises a protocol error. A read leaves the payload of the
reply on the stream, the others leave nothing of it. -/
theorem Asks.run_of_error (hasks : op.Asks library disk request) (hsends : disk.sock.Sends)
    (haccepts : op.Accepts library disk accepted) (hopId : opId < 2 ^ 32)
    (hpayload : payload.length < 2 ^ 32)
    (hholds : disk.sock.Holds (accepted ++ (aioMessage nfcAioMsgError opId payload ++ rest))) :
    ∃ error after, op.run library disk = (.error error, after) ∧ error.kind = .nfcProtocolError ∧
      after.sock.Holds ((if op.reads then payload else []) ++ rest) := by
  have hsent : ∀ request : Bytes,
      (disk.afterCall (disk.sock.afterSend request)).sock.Holds
        (accepted ++ (aioMessage nfcAioMsgError opId payload ++ rest)) :=
    fun request ↦ (Sock.sendall_ok (Sock.sendall_of_sends hsends request)).holds hholds
  cases haccepts with
  | @fragments startSector numSectors skipDecompression buf fragments _ final last hflat hfront
      hopen =>
    cases hasks with
    | readinto haccepted hfits =>
      have hready := haccepted.ready hflat
      obtain ⟨middle, hrounds, hmiddle⟩ := hfront.rounds
        (show (envDisk.set (disk.afterCall (disk.sock.afterSend _)) (disk, buf)).2.bytes = buf.bytes
          from rfl) hready.room (hsent _)
      obtain ⟨after, hread, hafter⟩ := readinto_of_error hready.accepted hfits
        (Sock.sendall_of_sends hsends _) hrounds hopen hopId hpayload hmiddle
      exact ⟨_, after.1, by rw [run, hread]; rfl, rfl, hafter⟩
  | @rounds startSector numSectors skipDecompression buf data _ last middle hdata hrounds hopen
      htaken =>
    cases hasks with
    | readinto haccepted hfits =>
      obtain rfl := Except.ok.inj (haccepted.data_eq.symm.trans hdata)
      obtain ⟨after, hread, hafter⟩ := readinto_of_error haccepted hfits
        (Sock.sendall_of_sends hsends _) hrounds hopen hopId hpayload
        (hrounds.holds htaken (hsent _))
      exact ⟨_, after.1, by rw [run, hread]; rfl, rfl, hafter⟩
  | nothing =>
    cases hasks with
    | readinto haccepted hfits =>
      obtain ⟨after, hread, hafter⟩ := readinto_of_error haccepted hfits
        (Sock.sendall_of_sends hsends _) .start (requestLength_pos haccepted.positive) hopId hpayload
        (hsent _)
      exact ⟨_, after.1, by rw [run, hread]; rfl, rfl, hafter⟩
    | @write startSector numSectors data frames hpositive hdata hrun =>
      obtain ⟨sock, htook, hreply⟩ := aioRecvReply_of_holds (by decide) hpayload hopId
        (hsent (frames.flatMap IoFrame.bytes))
      rw [if_pos rfl] at hreply
      refine ⟨replyError opId payload.length payload, disk.afterCall sock, ?_, rfl,
        htook.holds (hsent _)⟩
      rw [run, write_of_run hpositive hdata hsends hrun]
      exact Proc.bind_of_error hreply
    | @roundtrip msgType body extra extraRecv hmsgType hbody hopIdLt =>
      obtain ⟨sock, htook, hreply⟩ := aioRecvReply_of_holds (by decide) hpayload hopId
        (hsent (aioMessage msgType disk.opId body ++ extra))
      rw [if_pos rfl] at hreply
      refine ⟨replyError opId payload.length payload, disk.afterCall sock, ?_, rfl,
        htook.holds (hsent _)⟩
      have hraise : aioRoundtrip msgType body extra extraRecv disk =
          (.error (replyError opId payload.length payload), disk.afterCall sock) := by
        rw [aioRoundtrip, Proc.bind_of_ok (aioSend_of_sends extra hmsgType hbody hopIdLt hsends)]
        exact Proc.bind_of_error hreply
      rw [run, hraise]
      rfl

end Operation

/-! ### Histories -/

/-- One operation of a history, with the payload of the error reply it met, if it met one: the
arrivals are all the operation takes when it succeeds, and the fragments it accepts and an error reply
when it fails. -/
inductive HistoryStep (library : FastLzLibrary) (before : NfcDisk) :
    Operation × Option Bytes → Except PyError Unit → NfcDisk → Prop
  | succeeded {op : Operation} {request : Bytes} {inbox : List Arrival} {after : NfcDisk}
      (hasks : op.Asks library (before.meets inbox) request) (hquiet : Quiet inbox)
      (hrun : op.run library (before.meets inbox) = (.ok (), after))
      (hwhole : streamBytes after.sock.inbox = []) :
      HistoryStep library before (op, none) (.ok ()) after
  | failed {op : Operation} {request accepted payload : Bytes} {opId : ℕ} {inbox : List Arrival}
      {outcome : Except PyError Unit} {after : NfcDisk}
      (hasks : op.Asks library (before.meets inbox) request) (hquiet : Quiet inbox)
      (haccepts : op.Accepts library (before.meets inbox) accepted) (hopId : opId < 2 ^ 32)
      (hpayload : payload.length < 2 ^ 32)
      (hreply : streamBytes inbox = accepted ++ aioMessage nfcAioMsgError opId payload)
      (hrun : op.run library (before.meets inbox) = (outcome, after)) :
      HistoryStep library before (op, some payload) outcome after

/-- The step leaves no payload of an error behind: a read met none, or an empty one. -/
def Framed (entry : Operation × Option Bytes) : Prop :=
  entry.1.reads = true → ∀ payload, entry.2 = some payload → payload = []

/-- A session with nothing unread, whose sends succeed, with opIds left for the entries to come and
for closing. -/
structure Settled (entries : List (Operation × Option Bytes)) (disk : NfcDisk) : Prop where
  sends : disk.sock.Sends
  holds : disk.sock.Holds []
  isOpen : disk.closed = false
  closes : ∀ error, disk.sock.closeError = some error → error.isOsError = true
  opId_le : disk.opId + entries.length + 2 ≤ 2 ^ 32

/-- An operation that leaves nothing unread leaves the session settled. -/
theorem Settled.of_received {entry : Operation × Option Bytes}
    {entries : List (Operation × Option Bytes)} {inbox : List Arrival} {request : Bytes}
    {after : NfcDisk} (hsettled : Settled (entry :: entries) disk) (hquiet : Quiet inbox)
    (hreceived : ((disk.meets inbox).afterCall
      ((disk.meets inbox).sock.afterSend request)).Received after)
    (hnothing : streamBytes after.sock.inbox = []) : Settled entries after := by
  obtain ⟨taken, htook, hafter⟩ := hreceived
  have hquietMeets : Quiet (disk.sock.inbox ++ inbox) :=
    quiet_append.mpr ⟨hsettled.holds.quiet, hquiet⟩
  have hopen : after.sock.closed = false := htook.closed_eq.trans hsettled.holds.is_open
  have hopId := hsettled.opId_le
  rw [List.length_cons] at hopId
  refine ⟨htook.sends hsettled.sends, ⟨hopen, htook.quiet hquietMeets, hnothing⟩, ?_, ?_, ?_⟩
  · rw [hafter]
    exact hsettled.isOpen
  · rw [htook.frame]
    exact hsettled.closes
  · rw [hafter]
    change disk.opId + 1 + entries.length + 2 ≤ 2 ^ 32
    omega

/-- A step that leaves no payload behind leaves the session settled; when it met an error reply, it
raised a protocol error. -/
theorem HistoryStep.settled {entry : Operation × Option Bytes}
    {entries : List (Operation × Option Bytes)} {outcome : Except PyError Unit} {after : NfcDisk}
    (hstep : HistoryStep library disk entry outcome after) (hframed : Framed entry)
    (hsettled : Settled (entry :: entries) disk) :
    Settled entries after ∧ (entry.2 = none ∧ outcome = .ok () ∨
      ∃ error, outcome = .error error ∧ error.kind = .nfcProtocolError) := by
  cases hstep with
  | @succeeded op request inbox after hasks hquiet hrun hwhole =>
    have hreceived := hasks.received (show (disk.meets inbox).sock.Sends from hsettled.sends)
    rw [hrun] at hreceived
    exact ⟨hsettled.of_received hquiet hreceived hwhole, Or.inl ⟨rfl, rfl⟩⟩
  | @failed op request accepted payload opId inbox outcome after hasks hquiet haccepts hopId hpayload
      hreply hrun =>
    have hsends : (disk.meets inbox).sock.Sends := hsettled.sends
    have hreceived := hasks.received hsends
    have hholds := meets_holds hsettled.holds hquiet
    rw [hreply, ← List.append_nil (aioMessage _ _ _)] at hholds
    obtain ⟨error, last, herror, hkind, hlast⟩ :=
      hasks.run_of_error hsends haccepts hopId hpayload hholds
    rw [hrun] at herror hreceived
    obtain ⟨rfl, rfl⟩ := Prod.mk.inj herror
    have hnothing : (if op.reads then payload else []) = [] := by
      split_ifs with hreads
      · exact hframed hreads payload rfl
      · rfl
    rw [hnothing] at hlast
    exact ⟨hsettled.of_received hquiet hreceived hlast.stream, Or.inr ⟨error, rfl, hkind⟩⟩

/-- A settled session closes when its requests are acknowledged. -/
theorem Settled.close_of_acks {inbox : List Arrival} {fileBody sessionBody : Bytes}
    (hsettled : Settled [] disk) (hquiet : Quiet inbox) (hfileBody : fileBody.length < 2 ^ 32)
    (hsessionBody : sessionBody.length < 2 ^ 32)
    (hacks : streamBytes inbox = aioMessage nfcAioMsgCloseFile disk.opId fileBody ++
      aioMessage nfcAioMsgCloseSession (disk.opId + 1) sessionBody) :
    ∃ after, NfcDisk.close (disk.meets inbox) = (.ok (), after) ∧
      after.sock.sent = disk.sock.sent ++ closeBytes disk ∧ after.sock.closed = true := by
  have hopId := hsettled.opId_le
  have hholds := meets_holds hsettled.holds hquiet
  rw [hacks, ← List.append_nil (aioMessage _ (_ + 1) _)] at hholds
  exact NfcDisk.close_of_acks (show (disk.meets inbox).closed = false from hsettled.isOpen)
    (show disk.opId + 1 < 2 ^ 32 by rw [List.length_nil] at hopId; omega) hfileBody hsessionBody
    hsettled.sends hsettled.closes hholds

/-- Any run of framed steps leaves the session settled, and each of its steps returned or raised a
protocol error. -/
theorem settled_of_run {history later : List (Operation × Option Bytes)}
    {observed : List (Except PyError Unit)} {last : NfcDisk}
    (hsettled : Settled (history ++ later) disk)
    (hrun : Run (HistoryStep library) disk history observed last)
    (hframed : ∀ entry ∈ history, Framed entry) :
    Settled later last ∧ ∀ outcome ∈ observed, outcome = .ok () ∨
      ∃ error, outcome = .error error ∧ error.kind = .nfcProtocolError := by
  induction hrun with
  | nil => exact ⟨hsettled, fun _ hmem ↦ absurd hmem List.not_mem_nil⟩
  | cons hstep _ ih =>
    obtain ⟨hhead, htail⟩ := List.forall_mem_cons.mp hframed
    obtain ⟨hmiddle, houtcome⟩ := hstep.settled hhead hsettled
    obtain ⟨hlast, hothers⟩ := ih hmiddle htail
    exact ⟨hlast, List.forall_mem_cons.mpr ⟨houtcome.imp_left And.right, hothers⟩⟩

/-- An operation that meets an error reply raises a protocol error, and it has taken exactly the
reply if and only if it is no read or the reply has no payload. Every history in which that is so at
each error leaves the session settled, and `close` then completes against a server that acknowledges
its requests. -/
theorem error_replies_framed (library : FastLzLibrary) :
    (∀ (op : Operation) (disk : NfcDisk) (request accepted payload rest : Bytes) (opId : ℕ),
      op.Asks library disk request → disk.sock.Sends → op.Accepts library disk accepted →
      opId < 2 ^ 32 → payload.length < 2 ^ 32 →
      disk.sock.Holds (accepted ++ (aioMessage nfcAioMsgError opId payload ++ rest)) →
      ∃ error after, op.run library disk = (.error error, after) ∧
        error.kind = .nfcProtocolError ∧
        (after.sock.Holds rest ↔ op.reads = false ∨ payload = [])) ∧
    ∀ (disk last : NfcDisk) (history : List (Operation × Option Bytes))
      (observed : List (Except PyError Unit)),
      Settled history disk → Run (HistoryStep library) disk history observed last →
      (∀ entry ∈ history, Framed entry) →
      Settled [] last ∧ ∀ (inbox : List Arrival) (fileBody sessionBody : Bytes),
        Quiet inbox → fileBody.length < 2 ^ 32 → sessionBody.length < 2 ^ 32 →
        streamBytes inbox = aioMessage nfcAioMsgCloseFile last.opId fileBody ++
          aioMessage nfcAioMsgCloseSession (last.opId + 1) sessionBody →
        ∃ after, NfcDisk.close (last.meets inbox) = (.ok (), after) ∧
          after.sock.sent = last.sock.sent ++ closeBytes last ∧ after.sock.closed = true := by
  constructor
  · intro op disk request accepted payload rest opId hasks hsends haccepts hopId hpayload hholds
    obtain ⟨error, after, hrun, hkind, hafter⟩ :=
      hasks.run_of_error hsends haccepts hopId hpayload hholds
    refine ⟨error, after, hrun, hkind, ?_⟩
    constructor
    · intro hrest
      rcases hreads : op.reads with _ | _
      · exact Or.inl rfl
      · rw [hreads, if_pos rfl] at hafter
        exact Or.inr (List.self_eq_append_left.mp (hrest.stream.symm.trans hafter.stream))
    · rintro (hreads | rfl)
      · rwa [hreads, if_neg Bool.false_ne_true] at hafter
      · rwa [ite_self] at hafter
  · intro disk last history observed hsettled hrun hframed
    rw [← List.append_nil history] at hsettled
    obtain ⟨hlast, -⟩ := settled_of_run hsettled hrun hframed
    exact ⟨hlast, fun inbox fileBody sessionBody hquiet hfile hsession hacks ↦
      hlast.close_of_acks hquiet hfile hsession hacks⟩

/-- A read and a write of one sector of a fresh session. -/
def sectorRead : Operation :=
  .readinto 0 1 false (Buffer.zeros 4)

def sectorWrite : Operation :=
  .write 0 1 [1, 2, 3, 4]

/-- Half a sector, and then an error. -/
def halfThenError (payload : Bytes) : Bytes :=
  (IoFrame.raw 4 0 [1, 2]).bytes ++ aioMessage nfcAioMsgError 5 payload

/-- The session behind a read that met it. -/
def afterHalf : NfcDisk :=
  (sectorRead.run FastLz.storing ((fresh []).meets (Arrival.segment (halfThenError [])))).2

theorem error_replies_framed_session :
    (∃ error after, sectorRead.run FastLz.storing (fresh (halfThenError [9])) = (.error error, after) ∧
      error.kind = .nfcProtocolError ∧ ¬ after.sock.Holds []) ∧
    ∃ last after inbox,
      Run (HistoryStep FastLz.storing) (fresh []) [(sectorRead, some []), (sectorWrite, some [7, 8])]
        [.error (headerError 5 0), .error (replyError 6 2 [7, 8])] last ∧
      NfcDisk.close (last.meets inbox) = (.ok (), after) ∧ after.sock.closed = true := by
  have haccepts : ∀ disk : NfcDisk, disk.sectorSize = 4 → disk.opId = 0 →
      sectorRead.Accepts FastLz.storing disk (IoFrame.raw 4 0 [1, 2]).bytes := by
    intro disk hsector hopId
    have hframe := IoFrame.replyFrame_raw 4 0 [1, 2] (by decide) (by decide)
    have hlength : requestLength disk 1 = 4 := by rw [requestLength, hsector]; rfl
    rw [← List.append_nil (IoFrame.raw _ _ _).bytes]
    refine .fragments (Buffer.zeros_flat 4) (.accept ?_ (by rw [hopId]; exact hframe) ⟨?_, ?_, ?_⟩ rfl
      .start) ?_
    · rw [hlength]
      decide
    · exact List.not_mem_nil
    · decide
    · rw [hlength]
      decide
    · rw [hlength]
      decide
  obtain ⟨hone, hruns⟩ := error_replies_framed FastLz.storing
  constructor
  · have hasks : sectorRead.Asks FastLz.storing (fresh (halfThenError [9])) _ :=
      .readinto ⟨le_rfl, rfl⟩ ⟨by decide, by decide, by decide, by decide⟩
    obtain ⟨error, after, hrun, hkind, hiff⟩ := hone sectorRead (fresh (halfThenError [9])) _ _ [9] [] 5
      hasks ⟨rfl, rfl⟩ (haccepts _ rfl rfl) (by decide) (by decide)
      ⟨rfl, quiet_segment (halfThenError [9]), streamBytes_segment (halfThenError [9])⟩
    exact ⟨error, after, hrun, hkind, fun hholds ↦ absurd (hiff.mp hholds) (by decide)⟩
  have hsettled : Settled [(sectorRead, some []), (sectorWrite, some [7, 8])] (fresh []) :=
    ⟨⟨rfl, rfl⟩, ⟨rfl, quiet_segment [], rfl⟩, rfl, (fun _ hraise ↦ by cases hraise), by decide⟩
  have hread : HistoryStep FastLz.storing (fresh []) (sectorRead, some [])
      (.error (headerError 5 0)) afterHalf :=
    .failed (.readinto ⟨le_rfl, rfl⟩ ⟨by decide, by decide, by decide, by decide⟩) (quiet_segment _)
      (haccepts _ rfl rfl) (by decide) (by decide) (streamBytes_segment _)
      (Proc.eq_of_fst (by decide +kernel))
  have hwrite : HistoryStep FastLz.storing afterHalf (sectorWrite, some [7, 8])
      (.error (replyError 6 2 [7, 8])) _ :=
    @HistoryStep.failed _ afterHalf _ _ _ _ 6 (Arrival.segment (aioMessage nfcAioMsgError 6 [7, 8])) _ _
      (.write le_rfl rfl (.send (by decide +kernel) rfl (by decide +kernel) (by decide +kernel)
        (.done (by decide +kernel))))
      (quiet_segment _) .nothing (by decide) (by decide) (streamBytes_segment _)
      (Proc.eq_of_fst (by decide +kernel))
  have hrun := Run.cons hread (Run.cons hwrite .nil)
  obtain ⟨-, hcloses⟩ := hruns _ _ _ _ hsettled hrun (by
    rw [List.forall_mem_cons, List.forall_mem_singleton]
    exact ⟨fun _ payload hpayload ↦ (Option.some.inj hpayload).symm, fun hreads ↦ by cases hreads⟩)
  obtain ⟨after, hclose, -, hclosed⟩ := hcloses (Arrival.segment _) [] [] (quiet_segment _)
    (by decide) (by decide) (streamBytes_segment _)
  exact ⟨_, after, _, hrun, hclose, hclosed⟩

/-- An error reply with a payload, and the acknowledgements of a `close` after it. -/
def errorThenAcks : Bytes :=
  aioMessage nfcAioMsgError 0 [1, 2, 3, 4] ++ (aioMessage nfcAioMsgCloseFile 1 [] ++
    aioMessage nfcAioMsgCloseSession 2 [])

/-- A read that meets an error reply with a payload leaves the payload on the stream, and the `close`
after it takes the payload for a header and raises. -/
theorem readinto_error_breaks_close :
    ∃ after, readinto FastLz.storing 0 1 false (fresh errorThenAcks, Buffer.zeros 4) =
        (.error (headerError 0 4), after) ∧
      streamBytes after.1.sock.inbox = [1, 2, 3, 4] ++ (aioMessage nfcAioMsgCloseFile 1 [] ++
        aioMessage nfcAioMsgCloseSession 2 []) ∧
      (NfcDisk.close after.1).1 = .error (magicMismatch 0x04030201) := by
  refine ⟨_, Proc.eq_of_fst (by decide +kernel), by decide +kernel, by decide +kernel⟩

end OpenVixDiskLib
