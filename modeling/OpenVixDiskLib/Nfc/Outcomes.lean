import OpenVixDiskLib.Nfc.Operation
import OpenVixDiskLib.Nfc.ReadPrefix
import OpenVixDiskLib.Nfc.Session

/-!
# What a call raises

Whatever bytes a peer sends before it ends the connection, a call with valid arguments returns or raises
a protocol error: the handshake, the opening, a write, an AIO round trip and a close always, and a
`readinto` exactly when it does not meet a FastLZ fragment whose payload ends inside the field that
holds the length of its extra (`Operation.MeetsTruncated`). Such a payload has 36 to 39 bytes: it passes
the check of its size, which does not ask for the last field. A read accepts at most one fragment for
each byte of its request (`ClientCall.raises_protocol_errors_only_iff`).
-/

set_option autoImplicit false
set_option relaxedAutoImplicit false

namespace OpenVixDiskLib

open NfcDisk
open Arrival (Quiet streamBytes)

variable {library : FastLzLibrary} {disk after : NfcDisk} {error : PyError}

/-- Behind the fragments that a read accepts, and before they fill the request, the stream goes on with
a truncated FastLZ payload. -/
def Operation.MeetsTruncated (library : FastLzLibrary) (disk : NfcDisk) : Operation → Prop
  | .readinto _ numSectors skipDecompression buf =>
    ∃ fragments taken last final rest, streamBytes disk.sock.inbox = taken ++ rest ∧
      ReadPrefix library (requestLength disk numSectors) disk.opId skipDecompression readStart
        buf.bytes fragments taken last final ∧
      last.filled < requestLength disk numSectors ∧
      TruncatedFastLz disk.opId (requestLength disk numSectors) last.seen rest
  | .write .. => False
  | .roundtrip .. => False

/-- Waiting for the reply of a write raises nothing but protocol errors. -/
theorem writeReply_calm_error {opId : ℕ} (hopen : disk.sock.closed = false)
    (hquiet : Quiet disk.sock.inbox) (h : writeReply opId disk = (.error error, after)) :
    error.kind = .nfcProtocolError := by
  unfold writeReply at h
  rw [Proc.bind_eq_error] at h
  obtain hreply | ⟨⟨rtype, rop, body⟩, middle, -, hcheck⟩ := h
  · exact aioRecvReply_calm_error hopen hquiet hreply
  · simp only [Proc.raiseIf_apply, Prod.mk.injEq] at hcheck
    obtain ⟨hraised, -⟩ := hcheck
    split_ifs at hraised
    obtain rfl := Except.error.inj hraised
    rfl

/-- So does an AIO round trip whose request is sent. -/
theorem aioRoundtrip_calm_error {msgType extraRecv : ℕ} {payload extra : Bytes}
    (hmsgType : msgType < 2 ^ 32) (hpayload : payload.length < 2 ^ 32) (hopId : disk.opId < 2 ^ 32)
    (hsends : disk.sock.Sends) (hquiet : Quiet disk.sock.inbox)
    (h : aioRoundtrip msgType payload extra extraRecv disk = (.error error, after)) :
    error.kind = .nfcProtocolError := by
  rw [aioRoundtrip, Proc.bind_of_ok (aioSend_of_sends extra hmsgType hpayload hopId hsends),
    Proc.bind_eq_error] at h
  obtain hreply | ⟨⟨rtype, rop, body⟩, middle, hreply, h⟩ := h
  · refine aioRecvReply_calm_error ?_ ?_ hreply
    · exact hsends.1
    · exact hquiet
  obtain ⟨htook, -, -, -⟩ := aioRecvReply_ok hreply
  simp only at h
  rw [Proc.raiseIf_bind_eq_error] at h
  obtain ⟨-, rfl, -⟩ | ⟨-, h⟩ := h
  · rfl
  rw [Proc.bind_eq_error] at h
  obtain hmore | ⟨more, last, -, hpure⟩ := h
  · obtain ⟨sock, hrun, -⟩ := Proc.zoom_eq_error.mp hmore
    rw [recvnIfAny_eq] at hrun
    exact recvn_calm_error (htook.closed_eq.trans hsends.1) (htook.quiet hquiet) hrun
  · cases hpure

/-- A read whose request is sent accepts at most one fragment for each byte of the request, and then it
returns or its next round raises. -/
theorem readinto_ended (library : FastLzLibrary) {startSector numSectors : ℤ}
    (skipDecompression : Bool) {env : ReadEnv} (hready : ReadReady numSectors env)
    (hfits : ReadFits env.1 startSector (requestLength env.1 numSectors))
    (hsends : env.1.sock.Sends) :
    ∃ fragments taken more buffer last result after,
      LoopEnded library .flat (requestLength env.1 numSectors) env.1.opId skipDecompression readStart
        (env.1.afterCall (env.1.sock.afterSend
          (readRequest env.1 startSector (requestLength env.1 numSectors))), env.2)
        fragments taken more buffer last result after ∧
      readinto library startSector numSectors skipDecompression env =
        (result.map (readResult (requestLength env.1 numSectors) skipDecompression), after) ∧
      fragments.length ≤ requestLength env.1 numSectors := by
  have hsend := Sock.sendall_of_sends hsends
    (readRequest env.1 startSector (requestLength env.1 numSectors))
  obtain ⟨fragments, taken, more, buffer, last, hended⟩ := @readLoop_ended library
    (requestLength env.1 numSectors) env.1.opId skipDecompression
    (env.1.afterCall (env.1.sock.afterSend
      (readRequest env.1 startSector (requestLength env.1 numSectors))), env.2) readStart .flat
    (.flat hready.room)
  refine ⟨fragments, taken, more, buffer, last, _, _, hended, ?_, hended.accepted.length_le⟩
  rw [readinto_eq_loop library skipDecompression hready.accepted hfits hsend]
  change (readLoop _ _ _ _ _ _ >>= _) (env.1.afterCall (env.1.sock.afterSend
    (readRequest env.1 startSector (requestLength env.1 numSectors))), env.2) = _
  rcases hrun : readLoop library .flat (requestLength env.1 numSectors) env.1.opId skipDecompression
    readStart (env.1.afterCall (env.1.sock.afterSend
      (readRequest env.1 startSector (requestLength env.1 numSectors))), env.2) with
    ⟨error | locals, after⟩
  · rw [Proc.bind_of_error hrun]
    rfl
  · rw [Proc.bind_of_ok hrun]
    rfl

/-- An operation with valid arguments and a flat buffer returns or raises a protocol error if and only if
it is not a read that meets a truncated FastLZ payload. -/
theorem Operation.Asks.protocolErrorsOnly_iff {op : Operation} {request : Bytes}
    (hasks : op.Asks library disk request) (hflat : op.ReadsFlat) (hsends : disk.sock.Sends)
    (hquiet : Quiet disk.sock.inbox) :
    ProtocolErrorsOnly (op.run library disk).1 ↔ ¬ op.MeetsTruncated library disk := by
  cases hasks with
  | write hpositive hdata hrun =>
    refine iff_of_true (fun error hraised ↦ ?_) not_false
    rw [run, write_of_run hpositive hdata hsends hrun] at hraised
    refine writeReply_calm_error ?_ ?_ (Proc.eq_of_fst hraised)
    · exact hsends.1
    · exact hquiet
  | @roundtrip msgType payload extra extraRecv hmsgType hpayload hopId =>
    refine iff_of_true (fun error hraised ↦ ?_) not_false
    rw [run] at hraised
    rcases hrun : aioRoundtrip msgType payload extra extraRecv disk with ⟨raised | body, after⟩
    · rw [hrun] at hraised
      obtain rfl := Except.error.inj hraised
      exact aioRoundtrip_calm_error hmsgType hpayload hopId hsends hquiet hrun
    · rw [hrun] at hraised
      cases hraised
  | @readinto startSector numSectors skipDecompression buf data haccepted hfits =>
    have hready := haccepted.ready hflat
    obtain ⟨fragments, taken, more, buffer, last, result, after, hended, hread, -⟩ :=
      readinto_ended library skipDecompression hready hfits hsends
    have hholds : ∀ rest, streamBytes disk.sock.inbox = rest →
        (disk.afterCall (disk.sock.afterSend (readRequest disk startSector
          (requestLength disk numSectors)))).sock.Holds rest :=
      fun rest hstream ↦ ⟨hsends.1, hquiet, hstream⟩
    rw [run, hread]
    constructor
    · rintro honly ⟨fragments', taken', last', final', rest', hstream, haccepted, hopen, htruncated⟩
      obtain ⟨error, after', hloop, hkind⟩ := readLoop_of_truncated haccepted
        (show (disk.afterCall (disk.sock.afterSend (readRequest disk startSector
          (requestLength disk numSectors))), buf).2.bytes = buf.bytes from rfl)
        hready.room hopen htruncated (hholds _ hstream)
      have hraised : NfcDisk.readinto library startSector numSectors skipDecompression (disk, buf) =
          (.error error, after') := by
        rw [readinto_eq_loop library skipDecompression hready.accepted hfits
          (Sock.sendall_of_sends hsends _)]
        exact Proc.bind_of_error hloop
      rw [hread] at hraised
      obtain ⟨hresult, -⟩ := Prod.mk.inj hraised
      have hprotocol := honly error (by rw [hresult]; rfl)
      rw [hkind] at hprotocol
      cases hprotocol
    · intro hmeets error hraised
      cases result with
      | ok value => cases hraised
      | error raised =>
        obtain rfl := Except.error.inj hraised
        obtain ⟨hopen, -, hkind⟩ := hended.raised raised rfl
        have hstream := hended.step.took.stream
        rw [List.append_assoc] at hstream
        refine (hkind rfl _ (hholds _ hstream)).resolve_right fun htruncated ↦ hmeets ?_
        exact ⟨fragments, taken, last, buffer, _, hstream, hended.accepted, hopen, htruncated⟩

/-! ### Calls -/

/-- A connection that does not fail by itself: sends and the close succeed, and receives meet bytes and
then the end of the stream. -/
structure Sock.Calm (sock : Sock) : Prop where
  sends : sock.Sends
  quiet : Quiet sock.inbox
  closes : sock.closeError = none

/-- A call of the client. -/
inductive ClientCall
  | handshake (sock : Sock) (clientName opId : String) (version : ℤ)
  | openDisk (sock : Sock) (args : OpenArgs)
  | request (disk : NfcDisk) (op : Operation)
  | close (disk : NfcDisk)

namespace ClientCall

/-- The connection of the call. -/
def sock : ClientCall → Sock
  | .handshake sock .. => sock
  | .openDisk sock _ => sock
  | .request disk _ => disk.sock
  | .close disk => disk.sock

/-- What the call returns or raises; the value it returns is left out. -/
def outcome (library : FastLzLibrary) : ClientCall → Except PyError Unit
  | .handshake sock clientName opId version =>
    (OpenVixDiskLib.handshake clientName opId version sock).1
  | .openDisk sock args => (NfcDisk.openDisk args sock).1.map fun _ ↦ ()
  | .request disk op => (op.run library disk).1
  | .close disk => (NfcDisk.close disk).1

/-- The arguments of the call are valid and fit the messages, and a read is given a flat buffer. -/
inductive Valid (library : FastLzLibrary) : ClientCall → Prop
  | handshake {sock : Sock} {clientName opId : String} {version : ℤ}
      (hfits : HandshakeFits clientName opId version) :
      Valid library (.handshake sock clientName opId version)
  | openDisk {sock : Sock} {args : OpenArgs} {settings : OpenSettings}
      (hfits : args.FitsWire settings) : Valid library (.openDisk sock args)
  | request {disk : NfcDisk} {op : Operation} {request : Bytes}
      (hasks : op.Asks library disk request) (hflat : op.ReadsFlat) : Valid library (.request disk op)
  | close {disk : NfcDisk} (hopId : disk.opId + 1 < 2 ^ 32) : Valid library (.close disk)

/-- The call is a read that meets a truncated FastLZ payload. -/
def MeetsTruncated (library : FastLzLibrary) : ClientCall → Prop
  | .request disk op => op.MeetsTruncated library disk
  | _ => False

/-- A call that is a read accepts at most as many fragments as its request has bytes, before it returns
or raises. -/
def AcceptsFew (library : FastLzLibrary) : ClientCall → Prop
  | .request disk (.readinto startSector numSectors skipDecompression buf) =>
    ∃ fragments taken more buffer last result after,
      LoopEnded library .flat (requestLength disk numSectors) disk.opId skipDecompression readStart
        (disk.afterCall (disk.sock.afterSend
          (readRequest disk startSector (requestLength disk numSectors))), buf)
        fragments taken more buffer last result after ∧
      NfcDisk.readinto library startSector numSectors skipDecompression (disk, buf) =
        (result.map (readResult (requestLength disk numSectors) skipDecompression), after) ∧
      fragments.length ≤ requestLength disk numSectors
  | _ => True

end ClientCall

/-- A handshake returns or raises a protocol error. -/
theorem handshake_protocolErrorsOnly {sock : Sock} {clientName opId : String} {version : ℤ}
    (hcalm : sock.Calm) (hfits : HandshakeFits clientName opId version) :
    ProtocolErrorsOnly (handshake clientName opId version sock).1 := by
  intro error hraised
  have hemits := handshake_emits hcalm.sends hfits sock sock.emitted_nil
  rw [Proc.eq_of_fst hraised] at hemits
  exact hemits.1 hcalm.quiet

/-- So does the opening of a disk. -/
theorem openDisk_protocolErrorsOnly {sock : Sock} {args : OpenArgs} {settings : OpenSettings}
    (hcalm : sock.Calm) (hfits : args.FitsWire settings) :
    ProtocolErrorsOnly (openDisk args sock).1 := by
  intro error hraised
  have hemits := openDisk_emits hcalm.sends hfits
  rw [Proc.eq_of_fst hraised] at hemits
  exact hemits.2.2 hcalm.quiet hcalm.closes

/-- So does a close. -/
theorem close_protocolErrorsOnly (hcalm : disk.sock.Calm) (hopId : disk.opId + 1 < 2 ^ 32) :
    ProtocolErrorsOnly (close disk).1 := by
  by_cases hclosed : disk.closed = true
  · intro error hraised
    rw [close, Proc.get_bind_apply, if_pos hclosed] at hraised
    cases hraised
  · obtain ⟨-, -, -, honly⟩ := close_emits hcalm.sends hopId (Bool.not_eq_true _ ▸ hclosed)
    exact honly hcalm.quiet hcalm.closes

theorem ProtocolErrorsOnly.map {α : Type} {result : Except PyError α}
    (honly : ProtocolErrorsOnly result) : ProtocolErrorsOnly (result.map fun _ ↦ ()) := by
  intro error hraised
  cases result with
  | error raised =>
    obtain rfl := Except.error.inj hraised
    exact honly raised rfl
  | ok value => cases hraised

/-- On a connection that does not fail by itself, a call with valid arguments returns or raises a
protocol error if and only if it is not a read that meets a truncated FastLZ payload, and a read accepts
at most one fragment for each byte of its request. -/
theorem ClientCall.raises_protocol_errors_only_iff (library : FastLzLibrary) (call : ClientCall)
    (hvalid : call.Valid library) (hcalm : call.sock.Calm) :
    (ProtocolErrorsOnly (call.outcome library) ↔ ¬ call.MeetsTruncated library) ∧
      call.AcceptsFew library := by
  cases hvalid with
  | handshake hfits =>
    exact ⟨iff_of_true (handshake_protocolErrorsOnly hcalm hfits) not_false, trivial⟩
  | openDisk hfits =>
    exact ⟨iff_of_true (openDisk_protocolErrorsOnly hcalm hfits).map not_false, trivial⟩
  | close hopId => exact ⟨iff_of_true (close_protocolErrorsOnly hcalm hopId) not_false, trivial⟩
  | request hasks hflat =>
    refine ⟨hasks.protocolErrorsOnly_iff hflat hcalm.sends hcalm.quiet, ?_⟩
    cases hasks with
    | readinto haccepted hfits =>
      exact readinto_ended library _ (haccepted.ready hflat) hfits hcalm.sends
    | write => trivial
    | roundtrip => trivial

/-- The later half of a sector, twice. -/
def repeatedHalf : Bytes :=
  (IoFrame.raw 4 2 [3, 4]).bytes ++ (IoFrame.raw 4 2 [3, 4]).bytes

/-- A read that is answered with it. -/
def repeatedRead : ClientCall :=
  .request (fresh repeatedHalf) (.readinto 0 1 false (Buffer.zeros 4))

theorem ClientCall.raises_protocol_errors_only_repeated :
    repeatedRead.outcome FastLz.storing =
        .error (nfcProtocolError "AIO IO chunk offset=2 length=2 invalid, request 4") ∧
      ¬ repeatedRead.MeetsTruncated FastLz.storing ∧ repeatedRead.AcceptsFew FastLz.storing := by
  have hraised : repeatedRead.outcome FastLz.storing =
      .error (nfcProtocolError "AIO IO chunk offset=2 length=2 invalid, request 4") := by
    decide +kernel
  have hvalid : repeatedRead.Valid FastLz.storing :=
    .request (.readinto ⟨le_rfl, rfl⟩ ⟨by decide, by decide, by decide, by decide⟩) rfl
  obtain ⟨honly, hfew⟩ := ClientCall.raises_protocol_errors_only_iff FastLz.storing repeatedRead hvalid
    ⟨⟨rfl, rfl⟩, Arrival.quiet_segment repeatedHalf, rfl⟩
  refine ⟨hraised, honly.mp fun error herror ↦ ?_, hfew⟩
  rw [hraised] at herror
  obtain rfl := Except.error.inj herror
  rfl

/-- A FastLZ frame of four bytes whose payload has 36 bytes: it ends where the length of the extra would
stand. -/
def truncatedReply : Bytes :=
  aioMessage nfcAioMsgIo 0 ([Field.Q 0, Field.Q (ioOpcode nfcAioIoRead Compression.fastlz.code),
    Field.Q 0, Field.I 0, Field.I 0, Field.I 4].flatMap Field.bytes)

/-- A read that meets such a frame raises `struct.error`. -/
theorem truncatedReply_raises_structError :
    ∃ error, ClientCall.outcome FastLz.storing
        (.request (fresh truncatedReply) (.readinto 0 1 false (Buffer.zeros 4))) = .error error ∧
      error.kind = .structError ∧
      ¬ ProtocolErrorsOnly (ClientCall.outcome FastLz.storing
        (.request (fresh truncatedReply) (.readinto 0 1 false (Buffer.zeros 4)))) := by
  have hraised : ClientCall.outcome FastLz.storing
      (.request (fresh truncatedReply) (.readinto 0 1 false (Buffer.zeros 4))) =
      .error (structError "unpack_from requires a buffer of at least 40 bytes") := by
    decide +kernel
  refine ⟨_, hraised, rfl, fun honly ↦ ?_⟩
  cases honly _ hraised

end OpenVixDiskLib
