import OpenVixDiskLib.Nfc.Open
import OpenVixDiskLib.Nfc.ReadRun
import OpenVixDiskLib.Nfc.Write

/-!
# Requests on a session

The calls of a session that send a request with an opId: a `readinto`, a `write` and an AIO round
trip. `Operation.Asks` says that the arguments of an operation are valid and what its request is; once
such a request is sent the operation only receives, whatever it then meets (`Operation.Asks.received`).
-/

set_option autoImplicit false
set_option relaxedAutoImplicit false

namespace OpenVixDiskLib

open NfcDisk

/-- A request on a session. -/
inductive Operation
  | readinto (startSector numSectors : ℤ) (skipDecompression : Bool) (buf : Buffer)
  | write (startSector numSectors : ℤ) (data : Bytes)
  | roundtrip (msgType : ℕ) (payload extra : Bytes) (extraRecv : ℕ)

namespace Operation

/-- Make the request; what it returns is left out. -/
def run (library : FastLzLibrary) : Operation → NfcDisk → Except PyError Unit × NfcDisk
  | .readinto startSector numSectors skipDecompression buf, disk =>
    match NfcDisk.readinto library startSector numSectors skipDecompression (disk, buf) with
    | (result, after) => (result.map fun _ ↦ (), after.1)
  | .write startSector numSectors data, disk =>
    NfcDisk.write library startSector numSectors data disk
  | .roundtrip msgType payload extra extraRecv, disk =>
    match aioRoundtrip msgType payload extra extraRecv disk with
    | (result, after) => (result.map fun _ ↦ (), after)

/-- The request is one of the read decoder. -/
def reads : Operation → Bool
  | .readinto .. => true
  | _ => false

/-- The buffer of a read is flat. -/
def ReadsFlat : Operation → Prop
  | .readinto _ _ _ buf => buf.Flat
  | _ => True

/-- The arguments of the operation are valid, and its request is these bytes. -/
inductive Asks (library : FastLzLibrary) (disk : NfcDisk) : Operation → Bytes → Prop
  | readinto {startSector numSectors : ℤ} {skipDecompression : Bool} {buf : Buffer} {data : ByteView}
      (haccepted : ReadAccepted numSectors (disk, buf) data)
      (hfits : ReadFits disk startSector (requestLength disk numSectors)) :
      Asks library disk (.readinto startSector numSectors skipDecompression buf)
        (readRequest disk startSector (requestLength disk numSectors))
  | write {startSector numSectors : ℤ} {data : Bytes} {frames : List IoFrame}
      (hpositive : 1 ≤ numSectors) (hdata : data.length = requestLength disk numSectors)
      (hrun : WriteRun library disk startSector (requestLength disk numSectors) data disk.opId 0
        frames) :
      Asks library disk (.write startSector numSectors data) (frames.flatMap IoFrame.bytes)
  | roundtrip {msgType : ℕ} {payload extra : Bytes} {extraRecv : ℕ} (hmsgType : msgType < 2 ^ 32)
      (hpayload : payload.length < 2 ^ 32) (hopId : disk.opId < 2 ^ 32) :
      Asks library disk (.roundtrip msgType payload extra extraRecv)
        (aioMessage msgType disk.opId payload ++ extra)

variable {library : FastLzLibrary} {disk : NfcDisk} {op : Operation} {request : Bytes}

/-- After its request an operation only receives, whether it returns or raises. -/
theorem Asks.received (hasks : op.Asks library disk request) (hsends : disk.sock.Sends) :
    (disk.afterCall (disk.sock.afterSend request)).Received (op.run library disk).2 := by
  cases hasks with
  | readinto haccepted hfits =>
    exact readinto_received library _ haccepted hfits (Sock.sendall_of_sends hsends _)
  | write hpositive hdata hrun =>
    rw [run, write_of_run hpositive hdata hsends hrun]
    exact moves_writeReply _ _
  | @roundtrip msgType payload extra extraRecv hmsgType hpayload hopId =>
    rw [run]
    change NfcDisk.Received _ (aioRoundtrip msgType payload extra extraRecv disk).2
    rw [aioRoundtrip, Proc.bind_of_ok (aioSend_of_sends extra hmsgType hpayload hopId hsends)]
    refine (Proc.Moves.bind Received.trans moves_aioRecvReply fun reply ↦ ?_) _
    refine .bind Received.trans (.raiseIf Received.refl _ _) fun _ ↦ ?_
    refine .bind Received.trans (moves_sockPart ?_) fun _ ↦ .pure Received.refl _
    rw [recvnIfAny_eq]
    exact moves_recvn _

end Operation

end OpenVixDiskLib
