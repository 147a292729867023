import OpenVixDiskLib.Nfc.Grammar
import OpenVixDiskLib.Nfc.OpIds
import OpenVixDiskLib.Nfc.Welcome
import OpenVixDiskLib.Nfc.Works

/-!
# What a client says

A client opens a disk, makes calls on it, closes it, and may go on calling. Whatever it receives at each
step, on a socket whose sends succeed it says the start of a legal session: a step that raises has sent
a first part of its messages, a close that raises between its messages closes the socket, and nothing is
sent on a closed socket (`client_says_start_of_session`).
-/

set_option autoImplicit false
set_option relaxedAutoImplicit false

namespace OpenVixDiskLib

open NfcDisk
open Arrival (streamBytes)

variable {library : FastLzLibrary} {disk : NfcDisk}

/-! ### Requests as messages -/

/-- The message a frame of a write is. -/
def IoFrame.token (frame : IoFrame) : Token :=
  .aio nfcAioMsgIo frame.opId (frame.fields.flatMap Field.bytes) frame.extra

theorem IoFrame.token_bytes (frame : IoFrame) : frame.token.bytes = frame.bytes := by
  rw [token, Token.bytes, aioMessage, fields, length_ioFields]
  rfl

/-- The payload of a frame that could be packed. -/
theorem IoFrame.ioPayload {frame : IoFrame} {handle : UInt64}
    (hfits : ∀ field ∈ frame.fields, field.Fits) (hhandle : frame.handle = handle.toNat)
    (hdirection : frame.direction < 2 ^ 32) :
    IoPayload handle frame.direction (frame.fields.flatMap Field.bytes) ∧
      unpackI (frame.fields.flatMap Field.bytes) 36 = .ok frame.extra.length := by
  have hpayload := List.append_nil (frame.fields.flatMap Field.bytes)
  simp only [IoFrame.fields, ioFields, List.forall_mem_cons] at hfits
  obtain ⟨hhandleFits, hopcode, -, -, -, -, hextraLen, -⟩ := hfits
  refine ⟨⟨length_ioFields _ _ _ _ _ _ _, ?_, _, ?_, ioOpcode_mod frame.ctype hdirection⟩, ?_⟩
  all_goals rw [← hpayload]
  · rw [← hhandle]
    exact unpackField_fields hhandleFits [] _ []
  · exact unpackField_fields hopcode [_] _ []
  · exact unpackField_fields hextraLen [_, _, _, _, _, _] _ []

/-- The payload of a read request. -/
theorem ReadFits.ioPayload {startSector : ℤ} {length : ℕ} (hfits : ReadFits disk startSector length) :
    IoPayload disk.handle nfcAioIoRead
      ((readFields disk startSector length).flatMap Field.bytes) := by
  have hall := readFields_fits.mpr ⟨hfits.start_nonneg, hfits.start_lt, hfits.length_lt⟩
  have hpayload := List.append_nil ((readFields disk startSector length).flatMap Field.bytes)
  refine ⟨length_readFields _ _ _, ?_, readOpcode disk.compression, ?_,
    ioOpcode_mod _ (show nfcAioIoRead < 2 ^ 32 by decide)⟩
  all_goals
    rw [← hpayload]
    simp only [readFields, List.forall_mem_cons] at hall
  · exact unpackField_fields hall.1 [] _ []
  · exact unpackField_fields hall.2.1 [_] _ []

/-- A read or a write asks by the messages of a legal request, with the opId the counter shows. -/
theorem Operation.Asks.legalRequest {op : Operation} {request : Bytes}
    (hasks : op.Asks library disk request)
    (hcall : ∀ msgType payload extra extraRecv, op ≠ .roundtrip msgType payload extra extraRecv) :
    ∃ tokens, LegalRequest disk.handle disk.opId tokens ∧ tokenBytes tokens = request := by
  cases hasks with
  | @readinto startSector numSectors skipDecompression buf data haccepted hfits =>
    refine ⟨_, .read hfits.ioPayload, ?_⟩
    rw [tokenBytes_singleton, Token.bytes, List.append_nil, aioMessage, length_readFields, readRequest]
  | @write startSector numSectors data frames hpositive hdata hrun =>
    have hsome := hrun.ne_nil (requestLength_pos hpositive)
    refine ⟨_, @LegalRequest.write _ _ (frames.map fun frame ↦
      (frame.fields.flatMap Field.bytes, frame.extra)) ?_ ?_, ?_⟩
    · rwa [ne_eq, List.map_eq_nil_iff]
    · rw [List.forall_mem_map]
      intro frame hmem
      obtain ⟨-, hhandle, hdirection, -⟩ := hrun.shared frame hmem
      have hpayload := IoFrame.ioPayload (hrun.fits frame hmem) hhandle (by
        rw [hdirection]
        decide)
      rwa [hdirection] at hpayload
    · rw [tokenBytes, List.map_map, List.flatMap_map]
      refine List.flatMap_congr fun frame hmem ↦ ?_
      rw [← frame.token_bytes, IoFrame.token, (hrun.shared frame hmem).1]
      rfl
  | roundtrip => exact absurd rfl (hcall _ _ _ _)

/-! ### Calls on a disk -/

/-- A call on a disk; leaving its context is a `close`. -/
inductive DiskCall
  | read (startSector numSectors : ℤ)
  | readinto (startSector numSectors : ℤ) (skipDecompression : Bool) (buf : Buffer)
  | write (startSector numSectors : ℤ) (data : Bytes)
  | close

namespace DiskCall

/-- Make the call; what it returns is left out. -/
def run (library : FastLzLibrary) : DiskCall → NfcDisk → Except PyError Unit × NfcDisk
  | .read startSector numSectors, disk =>
    match NfcDisk.read library startSector numSectors disk with
    | (result, after) => (result.map fun _ ↦ (), after)
  | .readinto startSector numSectors skipDecompression buf, disk =>
    (Operation.readinto startSector numSectors skipDecompression buf).run library disk
  | .write startSector numSectors data, disk =>
    (Operation.write startSector numSectors data).run library disk
  | .close, disk => NfcDisk.close disk

/-- The request of a call that is not a close. A `read` is to the session a `readinto`. -/
def operation (disk : NfcDisk) : DiskCall → Option Operation
  | .read startSector numSectors => some (.readinto startSector numSectors false
      (Buffer.zeros (requestLength disk numSectors)))
  | .readinto startSector numSectors skipDecompression buf =>
    some (.readinto startSector numSectors skipDecompression buf)
  | .write startSector numSectors data => some (.write startSector numSectors data)
  | .close => none

/-- The call is a close. -/
def closes : DiskCall → Bool
  | .close => true
  | _ => false

/-- The arguments of the call pass its checks, and the compressor takes its data. -/
def Valid (library : FastLzLibrary) (disk : NfcDisk) (call : DiskCall) : Prop :=
  ∀ op, call.operation disk = some op → op.Checked library disk

/-- A call leaves the session as its request does. -/
theorem run_snd (library : FastLzLibrary) (disk : NfcDisk) (call : DiskCall) {op : Operation}
    (hop : call.operation disk = some op) : (call.run library disk).2 = (op.run library disk).2 := by
  cases call with
  | read startSector numSectors =>
    obtain rfl := Option.some.inj hop
    exact read_snd library startSector numSectors disk
  | readinto => rw [← Option.some.inj hop, run]
  | write => rw [← Option.some.inj hop, run]
  | close => cases hop

theorem operation_eq_none {call : DiskCall} (hop : call.operation disk = none) : call = .close := by
  cases call with
  | close => rfl
  | _ => cases hop

theorem operation_ne_roundtrip {call : DiskCall} {op : Operation}
    (hop : call.operation disk = some op) (msgType : ℕ) (payload extra : Bytes) (extraRecv : ℕ) :
    op ≠ .roundtrip msgType payload extra extraRecv := by
  cases call with
  | close => cases hop
  | _ =>
    obtain rfl := Option.some.inj hop
    exact fun h ↦ by cases h

/-- A call on a closed disk sends nothing, and leaves the disk closed. -/
theorem run_of_closed (library : FastLzLibrary) (call : DiskCall) (hclosed : disk.closed = true) :
    disk.Works (call.run library disk).2 := by
  rcases hop : call.operation disk with _ | op
  · obtain rfl := operation_eq_none hop
    have hclose : NfcDisk.close disk = (.ok (), disk) := by
      rw [NfcDisk.close, Proc.get_bind_apply, if_pos hclosed]
      rfl
    rw [run, hclose]
    exact .refl disk
  · rw [run_snd library disk call hop]
    cases op with
    | readinto startSector numSectors skipDecompression buf =>
      exact works_readinto library startSector numSectors skipDecompression (disk, buf)
    | write startSector numSectors data => exact works_write library startSector numSectors data disk
    | roundtrip => exact absurd rfl (operation_ne_roundtrip hop _ _ _ _)

end DiskCall

/-- How many requests are made before the first close. -/
def requestsBeforeClose (calls : List DiskCall) : ℕ :=
  (calls.takeWhile fun call ↦ !call.closes).length

theorem requestsBeforeClose_cons {call : DiskCall} {calls : List DiskCall} {op : Operation}
    (hop : call.operation disk = some op) :
    requestsBeforeClose (call :: calls) = requestsBeforeClose calls + 1 := by
  cases call with
  | close => cases hop
  | _ => rfl

/-- One call of a run, before which more may arrive. While the disk is open its arguments are valid. -/
inductive DiskStep (library : FastLzLibrary) (before : NfcDisk) :
    DiskCall → Except PyError Unit → NfcDisk → Prop
  | call {call : DiskCall} {inbox : List Arrival} {outcome : Except PyError Unit} {after : NfcDisk}
      (hvalid : before.closed = false → call.Valid library (before.meets inbox))
      (hrun : call.run library (before.meets inbox) = (outcome, after)) :
      DiskStep library before call outcome after

/-- A run of a client: it opens a disk, and when that succeeds it makes some calls. -/
inductive ClientRun (library : FastLzLibrary) (args : OpenArgs) (start : Sock) :
    List DiskCall → Sock → Prop
  | refused {error : PyError} {sock : Sock} (hopen : openDisk args start = (.error error, sock)) :
      ClientRun library args start [] sock
  | opened {disk last : NfcDisk} {sock : Sock} {calls : List DiskCall}
      {outcomes : List (Except PyError Unit)} (hopen : openDisk args start = (.ok disk, sock))
      (hcalls : Run (DiskStep library) disk calls outcomes last) :
      ClientRun library args start calls last.sock

/-! ### The session of an opening -/

/-- The session of an opening with these arguments. -/
def OpenArgs.sessionText (args : OpenArgs) (handle : UInt64) (requests : List (List Token)) :
    SessionText where
  version := args.version
  clientName := asciiBytes args.clientName
  opId := asciiBytes args.opId
  bufferSize := args.aioBufferSize.toNat
  bufferCount := args.aioBufferCount.toNat
  path := encodeUtf8 args.diskPath
  readOnly := args.readOnly
  handle := handle
  requests := requests

variable {start : Sock} {args : OpenArgs} {settings : OpenSettings} {handle : UInt64}
  {requests : List (List Token)}

theorem OpenArgs.FitsFields.legal (hfits : args.FitsFields)
    (hrequests : ∀ k (hk : k < requests.length), LegalRequest handle (4 + k) requests[k])
    (hcount : requests.length + 6 ≤ 2 ^ 32) : (args.sessionText handle requests).Legal where
  version_fits := hfits.handshake.version_fits
  clientName_lt := hfits.handshake.clientName_lt
  opId_lt := hfits.handshake.opId_lt
  bufferSize_lt := by
    have hsize := hfits.aioBufferSize_lt
    change args.aioBufferSize.toNat < 2 ^ 32
    omega
  bufferCount_lt := by
    have hcount := hfits.aioBufferCount_lt
    change args.aioBufferCount.toNat < 2 ^ 32
    omega
  path_lt := hfits.path_lt
  requests := hrequests
  count_le := hcount

/-- The messages of `open_disk` are the opening of the session. -/
theorem OpenArgs.opening_eq (hcheck : args.check = .ok settings) :
    openTokens args settings = (args.sessionText handle requests).opening := by
  obtain ⟨hsize, hcount⟩ := OpenArgs.check_ok hcheck
  simp only [openTokens, handshakeTokens, openFileTokens, List.flatMap_singleton, hsize, hcount]
  rfl

/-- The messages of a `close` are the closing of the session. -/
theorem closeTokens_eq (hopId : disk.opId = 4 + requests.length) (hhandle : disk.handle = handle) :
    closeTokens disk = (args.sessionText handle requests).closing := by
  simp only [closeTokens, List.flatMap_singleton, hopId, hhandle]
  rfl

/-! ### A run of calls -/

/-- Where a client is in its session when these calls are still to come: it has made its requests so
far, or it is closed and has said a start of the session. -/
inductive InSession (start : Sock) (args : OpenArgs) (handle : UInt64) :
    List DiskCall → NfcDisk → Prop
  | speaking {calls : List DiskCall} {disk : NfcDisk} {requests : List (List Token)}
      (hrequests : ∀ k (hk : k < requests.length), LegalRequest handle (4 + k) requests[k])
      (hsent : disk.sock.sent = start.sent ++
        tokenBytes ((args.sessionText handle requests).opening ++ requests.flatten))
      (hopId : disk.opId = 4 + requests.length) (hhandle : disk.handle = handle)
      (hsends : disk.sock.Sends) (hopen : disk.closed = false)
      (hroom : requests.length + requestsBeforeClose calls + 6 ≤ 2 ^ 32) :
      InSession start args handle calls disk
  | silent {calls : List DiskCall} {disk : NfcDisk} {requests : List (List Token)} {count : ℕ}
      (hlegal : (args.sessionText handle requests).Legal)
      (hsent : disk.sock.sent = start.sent ++
        tokenBytes ((args.sessionText handle requests).tokens.take count))
      (hsock : disk.sock.closed = true) (hclosed : disk.closed = true) :
      InSession start args handle calls disk

/-- A request of a client that speaks adds its messages to the session. -/
theorem InSession.request {call : DiskCall} {calls : List DiskCall} {op : Operation}
    {request : Bytes}
    (hrequests : ∀ k (hk : k < requests.length), LegalRequest handle (4 + k) requests[k])
    (hsent : disk.sock.sent = start.sent ++
      tokenBytes ((args.sessionText handle requests).opening ++ requests.flatten))
    (hopId : disk.opId = 4 + requests.length) (hhandle : disk.handle = handle)
    (hsends : disk.sock.Sends) (hopen : disk.closed = false)
    (hroom : requests.length + requestsBeforeClose (call :: calls) + 6 ≤ 2 ^ 32)
    (hop : call.operation disk = some op) (hasks : op.Asks library disk request) :
    InSession start args handle calls (call.run library disk).2 := by
  obtain ⟨tokens, hlegal, hbytes⟩ := hasks.legalRequest (DiskCall.operation_ne_roundtrip hop)
  obtain ⟨taken, htook, hafter⟩ := hasks.received hsends
  rw [DiskCall.run_snd library disk call hop]
  refine @InSession.speaking _ _ _ _ _ (requests ++ [tokens]) ?_ ?_ ?_ ?_ (htook.sends hsends) ?_ ?_
  · intro k hk
    by_cases hfront : k < requests.length
    · rw [List.getElem_append_left hfront]
      exact hrequests k hfront
    · obtain rfl : k = requests.length := by
        rw [List.length_append, List.length_singleton] at hk
        omega
      rw [List.getElem_concat_length rfl, ← hopId, ← hhandle]
      exact hlegal
  · have hall := htook.sent_eq.trans (congrArg (· ++ request) hsent)
    rw [hall, List.append_assoc, ← hbytes, ← tokenBytes_append, List.append_assoc, List.flatten_append,
      List.flatten_singleton]
    rfl
  · rw [hafter, List.length_append]
    exact congrArg (· + 1) hopId
  · rw [hafter]
    exact hhandle
  · rw [hafter]
    exact hopen
  · rw [requestsBeforeClose_cons hop] at hroom
    rw [List.length_append, List.length_singleton]
    omega

/-- A close of a client that speaks says a first part of the closing, and the client is silent. -/
theorem InSession.close {calls : List DiskCall} (hfits : args.FitsFields)
    (hrequests : ∀ k (hk : k < requests.length), LegalRequest handle (4 + k) requests[k])
    (hsent : disk.sock.sent = start.sent ++
      tokenBytes ((args.sessionText handle requests).opening ++ requests.flatten))
    (hopId : disk.opId = 4 + requests.length) (hhandle : disk.handle = handle)
    (hsends : disk.sock.Sends) (hopen : disk.closed = false)
    (hroom : requests.length + 6 ≤ 2 ^ 32) :
    InSession start args handle calls (NfcDisk.close disk).2 := by
  obtain ⟨⟨count, hclosing⟩, hclosed, hsock, -⟩ := close_emits hsends (by omega) hopen
  refine @InSession.silent _ _ _ _ _ requests (((args.sessionText handle requests).opening ++
    requests.flatten).length + count) (hfits.legal hrequests hroom) ?_ hsock hclosed
  rw [hclosing, hsent, @closeTokens_eq _ args _ _ hopId hhandle, List.append_assoc,
    ← tokenBytes_append, ← List.take_length_add_append]
  rfl

/-- One call keeps a client in its session. -/
theorem DiskStep.inSession (hfits : args.FitsFields) {call : DiskCall} {calls : List DiskCall}
    {outcome : Except PyError Unit} {after : NfcDisk}
    (hsession : InSession start args handle (call :: calls) disk)
    (hstep : DiskStep library disk call outcome after) : InSession start args handle calls after := by
  obtain ⟨hvalid, hrun⟩ := hstep
  rename_i inbox
  obtain rfl : (call.run library (disk.meets inbox)).2 = after := congrArg Prod.snd hrun
  cases hsession with
  | speaking hrequests hsent hopId hhandle hsends hopen hroom =>
    rcases hop : call.operation (disk.meets inbox) with _ | op
    · obtain rfl := DiskCall.operation_eq_none hop
      exact .close hfits hrequests hsent hopId hhandle hsends hopen (by omega)
    · have hcounter : (disk.meets inbox).opId < 2 ^ 32 := by
        change disk.opId < 2 ^ 32
        rw [requestsBeforeClose_cons hop] at hroom
        omega
      obtain ⟨request, hasks⟩ := (hvalid hopen op hop).asks hcounter
        (DiskCall.operation_ne_roundtrip hop)
      exact InSession.request hrequests hsent hopId hhandle (show (disk.meets inbox).sock.Sends from
        hsends) hopen hroom hop hasks
  | silent hlegal hsent hsock hclosed =>
    have hworks := call.run_of_closed library (show (disk.meets inbox).closed = true from hclosed)
    exact .silent hlegal ((hworks.sock.mute hsock).trans hsent) (hworks.sock.closed_eq.trans hsock)
      (hworks.closed_eq.trans hclosed)

/-! ### The whole client -/

/-- What a client has sent between `start` and `last`: a start of a legal session, cut into messages in
one way only. When more than the opening was said, the stream starts with a welcome, and the handle of the
session is the one in the welcome's reply to OPEN_FILE. -/
structure SaysStart (start last : Sock) (text : SessionText) (said : List Token) : Prop where
  legal : text.Legal
  said_prefix : said <+: text.tokens
  sent_eq : last.sent = start.sent ++ tokenBytes said
  wellFormed : ∀ token ∈ said, token.WellFormed
  unique : ∀ other : List Token, (∀ token ∈ other, token.WellFormed) →
    tokenBytes other = tokenBytes said → other = said
  welcomed : text.opening.length < said.length → ∃ sectorSize welcome,
    Welcome text.handle sectorSize welcome ∧ welcome <+: streamBytes start.inbox

/-- A start of a legal session is cut into messages in one way only. -/
theorem SessionText.Legal.saysStart {text : SessionText} {last : Sock} {said : List Token}
    (hlegal : text.Legal) (hsaid : said <+: text.tokens)
    (hsent : last.sent = start.sent ++ tokenBytes said)
    (hwelcomed : text.opening.length < said.length → ∃ sectorSize welcome,
      Welcome text.handle sectorSize welcome ∧ welcome <+: streamBytes start.inbox) :
    SaysStart start last text said where
  legal := hlegal
  said_prefix := hsaid
  sent_eq := hsent
  wellFormed token hmem := hlegal.wellFormed token (hsaid.subset hmem)
  unique _ hother hbytes := Token.selfDelimiting.flatMap_injOn hother
    (fun token hmem ↦ hlegal.wellFormed token (hsaid.subset hmem)) hbytes
  welcomed := hwelcomed

/-- An opening that raises has said a start of the session. -/
theorem openDisk_error_says (hfits : args.FitsFields) (hsends : start.Sends) {error : PyError}
    {sock : Sock} (hopen : openDisk args start = (.error error, sock)) :
    ∃ said, SaysStart start sock (args.sessionText 0 []) said := by
  have hlegal : (args.sessionText 0 []).Legal :=
    hfits.legal (fun k hk ↦ absurd hk (Nat.not_lt_zero k)) (by decide)
  rcases hcheck : args.check with raised | settings
  · have hraised : openDisk args start = (.error raised, start) := by
      rw [openDisk, hcheck]
      rfl
    rw [hraised] at hopen
    obtain rfl : start = sock := congrArg Prod.snd hopen
    exact ⟨[], hlegal.saysStart (List.nil_prefix) (List.append_nil _).symm fun h ↦
      absurd h (Nat.not_lt_zero _)⟩
  · have houtcome := openDisk_emits hsends (hfits.fitsWire hcheck)
    rw [hopen] at houtcome
    obtain ⟨-, ⟨count, hsent⟩, -⟩ := houtcome
    rw [@OpenArgs.opening_eq _ _ 0 [] hcheck] at hsent
    refine ⟨_, hlegal.saysStart ?_ hsent fun h ↦ ?_⟩
    · refine (List.take_prefix _ _).trans ?_
      rw [SessionText.tokens, List.append_assoc]
      exact List.prefix_append _ _
    · rw [List.length_take] at h
      omega

/-- Whatever a client receives at each step, what it sends is a start of a legal session and is cut into
messages in one way only: for every opening whose arguments fit their fields, and all calls then made
on the disk, of which those before the first close have valid arguments and leave the closing an
opId. -/
theorem client_says_start_of_session {calls : List DiskCall} {last : Sock} (hsends : start.Sends)
    (hfits : args.FitsFields) (hcount : requestsBeforeClose calls + 6 ≤ 2 ^ 32)
    (hrun : ClientRun library args start calls last) :
    ∃ handle requests said, SaysStart start last (args.sessionText handle requests) said := by
  cases hrun with
  | refused hopen =>
    obtain ⟨said, hsays⟩ := openDisk_error_says hfits hsends hopen
    exact ⟨0, [], said, hsays⟩
  | @opened disk last sock _ _ hopen hcalls =>
    have hcheck : ∃ settings, args.check = .ok settings := by
      rw [openDisk, Proc.lift_bind_eq_ok] at hopen
      exact ⟨_, hopen.choose_spec.1⟩
    obtain ⟨settings, hcheck⟩ := hcheck
    obtain ⟨rfl, welcome, hwelcome, hexchange, hdisk⟩ :=
      openOn_welcomed hsends (hfits.fitsWire hcheck) ((openDisk_eq_ok hcheck).mp hopen)
    have hopId : disk.opId = 4 := congrArg NfcDisk.opId hdisk
    have hopen' : disk.closed = false := congrArg NfcDisk.closed hdisk
    have hstart : InSession start args disk.handle (calls ++ []) disk := by
      refine @InSession.speaking _ _ _ _ _ [] (fun k hk ↦ absurd hk (Nat.not_lt_zero k)) ?_ hopId rfl
        (hexchange.sends hsends) hopen' ?_
      · rw [List.flatten_nil, List.append_nil, ← OpenArgs.opening_eq hcheck]
        exact hexchange.sent_eq
      · rw [List.append_nil, List.length_nil]
        omega
    have hwelcomed : ∃ sectorSize welcome, Welcome disk.handle sectorSize welcome ∧
        welcome <+: streamBytes start.inbox :=
      ⟨disk.sectorSize, welcome, hwelcome, _, hexchange.stream.symm⟩
    have hend : InSession start args disk.handle [] last :=
      @Run.invariant _ _ _ (DiskStep library) (InSession start args disk.handle)
        (fun _ _ _ _ _ hsession hstep ↦ hstep.inSession hfits hsession) _ _ _ _ _ hstart hcalls
    cases hend with
    | @speaking requests hrequests hsent _ _ _ _ hroom =>
      refine ⟨disk.handle, requests, _, (hfits.legal hrequests (by omega)).saysStart ?_ hsent
        fun _ ↦ hwelcomed⟩
      exact List.prefix_append _ _
    | @silent requests count hlegal hsent _ _ =>
      exact ⟨disk.handle, requests, _, hlegal.saysStart (List.take_prefix _ _) hsent fun _ ↦ hwelcomed⟩

theorem client_says_start_of_session_abandoned :
    ∃ last handle requests said,
      ClientRun FastLz.storing (defaultOpenArgs "[datastore0] vm/vm.vmdk")
        ⟨Arrival.segment openingReplies, [], false, none, none⟩ [.read 0 1, .close, .close] last ∧
      SaysStart ⟨Arrival.segment openingReplies, [], false, none, none⟩ last
        ((defaultOpenArgs "[datastore0] vm/vm.vmdk").sessionText handle requests) said := by
  have hsize : (openDisk (defaultOpenArgs "[datastore0] vm/vm.vmdk")
      ⟨Arrival.segment openingReplies, [], false, none, none⟩).1.map NfcDisk.sectorSize = .ok 512 := by
    decide +kernel
  rcases hopen : openDisk (defaultOpenArgs "[datastore0] vm/vm.vmdk")
      ⟨Arrival.segment openingReplies, [], false, none, none⟩ with ⟨error | disk, sock⟩
  · rw [hopen] at hsize
    cases hsize
  rw [hopen] at hsize
  have hsector : disk.sectorSize = 512 := Except.ok.inj hsize
  have hvalid : DiskCall.Valid FastLz.storing (disk.meets []) (.read 0 1) := by
    rintro op hop
    obtain rfl := Option.some.inj hop
    have hlength : (1 : ℤ).toNat * disk.sectorSize < 2 ^ 32 := by
      rw [hsector]
      decide
    refine ⟨le_rfl, ⟨.flat, ?_⟩, (Int.zero_mul _).ge, (Int.zero_mul _).trans_lt (by decide), hlength⟩
    exact (Buffer.zeros_flat _).writableBytes_eq_ok.mpr ⟨rfl, (List.length_replicate).ge, rfl⟩
  have hcloses : ∀ {disk : NfcDisk}, DiskCall.Valid FastLz.storing (disk.meets []) .close :=
    fun _ hop ↦ by cases hop
  have hrun := ClientRun.opened hopen (.cons (.call (fun _ ↦ hvalid) rfl)
    (.cons (.call (fun _ ↦ hcloses) rfl) (.cons (.call (fun _ ↦ hcloses) rfl) .nil)))
  have hfits : (defaultOpenArgs "[datastore0] vm/vm.vmdk").FitsFields :=
    ⟨⟨by decide, by decide, by decide, by decide, by decide⟩, by decide, by decide, by decide⟩
  obtain ⟨handle, requests, said, hsays⟩ :=
    client_says_start_of_session ⟨rfl, rfl⟩ hfits (by decide) hrun
  exact ⟨_, handle, requests, said, hrun, hsays⟩

end OpenVixDiskLib
