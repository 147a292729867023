import OpenVixDiskLib.Server.Server

/-!
# Reads after a reply was abandoned

A receive that times out ends its read, and the rest of the reply stays on the stream. `Attempt` is
one read while arrivals with timeouts anywhere come in behind what is unread, and `Attempt.Happens`
one attempt against the server of the docs.

What is unread at a later read is left of the frames that the server has sent for the attempts so far,
which carry their ranges under opIds of earlier requests (`replies_of_run`). Whole frames are harmless, for
their opId is checked. The end of a frame is not: it is read as a header whatever it is. A plain read
that returns has its own range in the buffer unless the stream starts inside a frame and its first 16
bytes are an IO header of the read's opId (`readinto_after_abandoned`). Sector data can be such bytes
(`readinto_takes_sector_data`).
-/

set_option autoImplicit false
set_option relaxedAutoImplicit false

namespace OpenVixDiskLib

open NfcDisk
open Arrival (streamBytes streamBytes_append)

variable {library : FastLzLibrary} {opId : ℕ} {tail unread : Bytes} {frames : List IoFrame}

/-! ### Streams that start a reply -/

/-- The first bytes of the stream are an IO header of the request. -/
def StartsReply (opId : ℕ) (stream : Bytes) : Prop :=
  ∃ size, unpackAioHdr (stream.take nfcAioHdrSize) = .ok (nfcAioMsgIo, size, opId)

/-- A frame starts a reply to its own request only. -/
theorem StartsReply.opId_eq {frame : IoFrame} {rest : Bytes} (hframe : frame.WellFormed)
    (hstarts : StartsReply opId (frame.bytes ++ rest)) : frame.opId = opId := by
  obtain ⟨size, hhdr⟩ := hstarts
  have htake : (frame.bytes ++ rest).take nfcAioHdrSize =
      (hdrFields nfcAioMsgIo 44 frame.opId).flatMap Field.bytes := by
    rw [IoFrame.bytes, List.append_assoc, List.append_assoc]
    exact List.take_left' (length_hdrFields _ _ _)
  rw [htake, unpackAioHdr_hdrFields (by decide) (by decide) hframe.opId_lt (by decide)] at hhdr
  simpa using (Prod.mk.inj (Prod.mk.inj (Except.ok.inj hhdr)).2).2

theorem ReplyFrame.startsReply {fragment : Fragment} {bytes : Bytes} (rest : Bytes)
    (hframe : ReplyFrame opId fragment bytes) : StartsReply opId (bytes ++ rest) := by
  cases hframe with
  | @intro hdr body extra _ _ _ hlength hhdr =>
    refine ⟨body.length, ?_⟩
    rw [List.append_assoc, List.append_assoc, List.take_left' hlength]
    exact hhdr

/-- A run that goes on starts with a header of its opId. -/
theorem ReadRun.startsReply {length : ℕ} {skipDecompression : Bool} {locals last : ReadLocals}
    {buffer taken final : Bytes} {fragments : List Fragment}
    (hrun : ReadRun library length opId skipDecompression locals buffer fragments taken last final)
    (hgo : locals.filled < length) (rest : Bytes) : StartsReply opId (taken ++ rest) := by
  cases hrun with
  | done hfilled => exact absurd hgo (Nat.not_lt.mpr hfilled)
  | accept _ hframe =>
    rw [List.append_assoc]
    exact hframe.startsReply _

/-! ### Attempts -/

/-- One read of a caller who goes on after errors, and the arrivals that come in for it. -/
structure Attempt where
  startSector : ℤ
  numSectors : ℤ
  skipDecompression : Bool
  buf : Buffer
  arrivals : List Arrival

namespace Attempt

/-- What the attempt runs on. -/
def env (disk : NfcDisk) (attempt : Attempt) : ReadEnv :=
  (disk.meets attempt.arrivals, attempt.buf)

/-- The attempt against the server that holds `content`: behind what is unread, the arrivals are the
answer to the request, if one was sent, with timeouts anywhere. -/
structure Happens (library : FastLzLibrary) (content : Bytes) (before : NfcDisk)
    (attempt : Attempt) (outcome : Except PyError Bytes) (after : NfcDisk) : Prop where
  ran : ∃ result buffer, readinto library attempt.startSector attempt.numSectors
      attempt.skipDecompression (attempt.env before) = (result, after, buffer) ∧
    outcome = result.map fun _ ↦ buffer.bytes
  served : after.sock.sent = before.sock.sent ∧ streamBytes attempt.arrivals = [] ∨
    ∃ request, after.sock.sent = before.sock.sent ++ request ∧
      Serves library false before.handle.toNat content request content
        (streamBytes attempt.arrivals)

variable {content : Bytes} {before after : NfcDisk} {attempt : Attempt}
  {outcome : Except PyError Bytes}

/-- The range of the attempt. -/
def range (content : Bytes) (disk : NfcDisk) (attempt : Attempt) : Bytes :=
  content.slice (attempt.startSector * disk.sectorSize).toNat
    (requestLength disk attempt.numSectors)

/-- The stream an attempt meets. -/
def stream (disk : NfcDisk) (attempt : Attempt) : Bytes :=
  streamBytes disk.sock.inbox ++ streamBytes attempt.arrivals

theorem streamBytes_env (disk : NfcDisk) (attempt : Attempt) :
    streamBytes (attempt.env disk).1.sock.inbox = attempt.stream disk :=
  streamBytes_append _ _

/-- The request was sent: the arrivals are frames that carry the range, and what is unread is the
rest of the stream. -/
structure Asked (library : FastLzLibrary) (content : Bytes) (before : NfcDisk) (attempt : Attempt)
    (frames : List IoFrame) (after : NfcDisk) : Prop where
  arrivals : streamBytes attempt.arrivals = frames.flatMap IoFrame.bytes
  carries : Carries library before.opId (attempt.range content before) frames
  inside : (attempt.range content before).length = requestLength before attempt.numSectors
  disk : after = before.afterCall after.sock
  received : ∃ taken, attempt.stream before = taken ++ streamBytes after.sock.inbox

/-- An attempt sends nothing, and nothing comes in, or it asks for its range. -/
theorem Happens.refused_or_asked (h : attempt.Happens library content before outcome after) :
    (attempt.env before).1.Refused after ∧ streamBytes attempt.arrivals = [] ∨
      ∃ frames, attempt.Asked library content before frames after := by
  obtain ⟨⟨result, buffer, hran, -⟩, hserved⟩ := h
  obtain hrefused | ⟨⟨data, haccepted⟩, hfits, sock, hsend⟩ := readinto_sends_or_refuses library
    attempt.startSector attempt.numSectors attempt.skipDecompression (attempt.env before)
  · rw [hran] at hrefused
    refine Or.inl ⟨hrefused, ?_⟩
    obtain ⟨opId, -, hafter⟩ := hrefused
    change after = _ at hafter
    have hkept : after.sock.sent = before.sock.sent := by rw [hafter]; rfl
    obtain ⟨-, hnone⟩ | ⟨request, hsent, hserves⟩ := hserved
    · exact hnone
    · rw [hkept] at hsent
      exact absurd (List.self_eq_append_right.mp hsent) (hserves.request_ne_nil)
  · right
    have hreceived := readinto_received library attempt.skipDecompression haccepted hfits hsend
    rw [hran] at hreceived
    obtain ⟨taken, htook, hdisk⟩ := hreceived
    have hexchange := Sock.sendall_ok hsend
    have hsent : after.sock.sent = before.sock.sent ++
        (readHead before attempt.startSector (requestLength before attempt.numSectors)).bytes := by
      have hrequest := htook.sent_eq.trans hexchange.sent_eq
      rwa [readRequest_eq_head hfits.length_lt] at hrequest
    have hstream : attempt.stream before = taken ++ streamBytes after.sock.inbox := by
      rw [← streamBytes_env]
      exact hexchange.stream.trans htook.stream
    obtain ⟨hnone, -⟩ | ⟨request, hrequest, hserves⟩ := hserved
    · have hlength := congrArg List.length
        (List.self_eq_append_right.mp (hnone.symm.trans hsent))
      rw [IoHead.length_bytes, List.length_nil] at hlength
      omega
    · rw [hsent] at hrequest
      obtain rfl := List.append_cancel_left hrequest
      have hhead : (readHead before attempt.startSector
        (requestLength before attempt.numSectors)).Fits := hfits.head_fits
      obtain ⟨-, hinside, frames, hreply, hcarries, -⟩ := hserves.of_read hhead rfl
      exact ⟨frames, hreply, hcarries, List.length_slice _ _ _ hinside, hdisk, taken, hstream⟩

/-- The frames that the server has sent for an attempt, before a session came to its state: none, or frames
that carry the range of the attempt under the opId of a request before those to come. -/
structure Answered (library : FastLzLibrary) (content : Bytes) (session : NfcDisk) (attempt : Attempt)
    (frames : List IoFrame) : Prop where
  arrivals : streamBytes attempt.arrivals = frames.flatMap IoFrame.bytes
  earlier : frames = [] ∨
    ∃ opId < session.opId, Carries library opId (attempt.range content session) frames

/-- Later states of the session are as good. -/
theorem Answered.mono {session later : NfcDisk} {frames : List IoFrame}
    (hanswered : attempt.Answered library content session frames) (hopId : session.opId ≤ later.opId)
    (hsector : later.sectorSize = session.sectorSize) :
    attempt.Answered library content later frames := by
  refine ⟨hanswered.arrivals, hanswered.earlier.imp_right ?_⟩
  rintro ⟨opId, hlt, hcarries⟩
  have hrange : attempt.range content later = attempt.range content session := by
    simp only [range, requestLength, hsector]
  exact ⟨opId, hlt.trans_le hopId, hrange.symm ▸ hcarries⟩

/-- The frames of an attempt are of earlier requests. -/
theorem Answered.frame {session : NfcDisk} {frames : List IoFrame}
    (hanswered : attempt.Answered library content session frames) :
    ∀ frame ∈ frames, frame.WellFormed ∧ frame.opId < session.opId := by
  intro frame hmem
  obtain rfl | ⟨opId, hlt, hcarries⟩ := hanswered.earlier
  · cases hmem
  · obtain ⟨hframe, hown⟩ := hcarries.wellFormed frame hmem
    exact ⟨hframe, hown.trans_lt hlt⟩

/-- An attempt is answered by some frames, and what is unread behind it is an end of what was unread before
it and of these. -/
theorem Happens.answered (h : attempt.Happens library content before outcome after) :
    ∃ frames, attempt.Answered library content after frames ∧ before.opId ≤ after.opId ∧
      after.sectorSize = before.sectorSize ∧ ∃ taken, streamBytes before.sock.inbox ++
        frames.flatMap IoFrame.bytes = taken ++ streamBytes after.sock.inbox := by
  obtain ⟨⟨opId, hle, rfl⟩, hnone⟩ | ⟨frames, hasked⟩ := h.refused_or_asked
  · refine ⟨[], ⟨hnone, .inl rfl⟩, hle, rfl, [], ?_⟩
    change _ = streamBytes (before.sock.inbox ++ attempt.arrivals)
    rw [streamBytes_append, hnone]
    rfl
  · obtain ⟨taken, hstream⟩ := hasked.received
    rw [stream, hasked.arrivals] at hstream
    have hafter := hasked.disk
    have hopId : after.opId = before.opId + 1 := by rw [hafter]; rfl
    have hsector : after.sectorSize = before.sectorSize := by rw [hafter]; rfl
    have hrange : attempt.range content after = attempt.range content before := by
      simp only [range, requestLength, hsector]
    exact ⟨frames, ⟨hasked.arrivals, .inr ⟨before.opId, by omega, hrange.symm ▸ hasked.carries⟩⟩,
      by omega, hsector, taken, hstream⟩

/-- A plain read into a flat buffer that returned met a header of its opId; when nothing was unread, it has
its range in the buffer. -/
theorem Happens.returned {bytes : Bytes}
    (h : attempt.Happens library content before (.ok bytes) after)
    (hplain : attempt.skipDecompression = false) (hflat : attempt.buf.Flat) :
    StartsReply before.opId (attempt.stream before) ∧
      (streamBytes before.sock.inbox = [] → bytes = attempt.range content before ++
        attempt.buf.bytes.drop (requestLength before attempt.numSectors)) := by
  have hcases := h.refused_or_asked
  obtain ⟨⟨result, buffer, hran, houtcome⟩, -⟩ := h
  rw [hplain] at hran
  obtain ⟨result, rfl⟩ : ∃ value, result = .ok value := by
    cases result with
    | error error => cases houtcome
    | ok value => exact ⟨value, rfl⟩
  obtain rfl : bytes = buffer.bytes := Except.ok.inj houtcome
  obtain ⟨fragments, taken, last, hreturned, -⟩ := readinto_ok hflat hran
  have hpos : 0 < requestLength before attempt.numSectors :=
    Nat.mul_pos (by have := hreturned.ready.positive; omega) before.sectorSize_pos
  have hstream := hreturned.exchange.stream
  rw [streamBytes_env] at hstream
  refine ⟨hstream ▸ hreturned.run.startsReply hpos _, fun hclean ↦ ?_⟩
  obtain ⟨⟨opId, -, hrefused⟩, -⟩ | ⟨frames, hasked⟩ := hcases
  · have hkept : after.sock.sent = (attempt.env before).1.sock.sent := by rw [hrefused]
    have hsent := List.self_eq_append_right.mp (hkept.symm.trans hreturned.exchange.sent_eq)
    rw [readRequest_eq_head hreturned.fits.length_lt] at hsent
    have hlength := congrArg List.length hsent
    rw [IoHead.length_bytes, List.length_nil] at hlength
    omega
  · have hcarries := hasked.carries
    have hroom : (attempt.range content before).length ≤ attempt.buf.bytes.length := by
      rw [hasked.inside]
      exact hreturned.ready.room
    obtain ⟨last', hrun⟩ := ReadRun.of_carries hcarries hroom
    rw [hasked.inside] at hrun
    rw [Attempt.stream, hclean, List.nil_append, hasked.arrivals,
      ← List.append_nil (frames.flatMap _)] at hstream
    obtain ⟨rfl, -, -⟩ := hrun.unique hreturned.run rfl hstream
    exact hreturned.run.final_plain.2.trans (hrun.final_plain.2.symm)

end Attempt

/-! ### Runs of attempts -/

/-- Each attempt of a run is answered by some frames, and what is unread behind the run is an end of what
was unread before it and of all these. -/
theorem replies_of_run {content : Bytes} {disk middle : NfcDisk} {made : List Attempt}
    {observed : List (Except PyError Bytes)}
    (hrun : Run (Attempt.Happens library content) disk made observed middle) :
    ∃ replies, List.Forall₂ (Attempt.Answered library content middle) made replies ∧
      disk.opId ≤ middle.opId ∧ middle.sectorSize = disk.sectorSize ∧
      ∃ taken, streamBytes disk.sock.inbox ++ replies.flatten.flatMap IoFrame.bytes =
        taken ++ streamBytes middle.sock.inbox := by
  induction hrun with
  | nil => exact ⟨[], .nil, le_rfl, rfl, [], List.append_nil _⟩
  | cons hstep _ ih =>
    obtain ⟨frames, hanswered, hle, hsector, taken, hsplit⟩ := hstep.answered
    obtain ⟨replies, hreplies, hlater, hlast, taken', hsplit'⟩ := ih
    refine ⟨frames :: replies, .cons (hanswered.mono hlater hlast) hreplies, hle.trans hlater,
      hlast.trans hsector, taken ++ taken', ?_⟩
    rw [List.flatten_cons, List.flatMap_append, ← List.append_assoc, hsplit, List.append_assoc, hsplit',
      List.append_assoc]

/-- The frames that answer the attempts of a run are of earlier requests. -/
theorem frame_of_replies {content : Bytes} {middle : NfcDisk} {made : List Attempt}
    {replies : List (List IoFrame)}
    (hreplies : List.Forall₂ (Attempt.Answered library content middle) made replies) :
    ∀ frame ∈ replies.flatten, frame.WellFormed ∧ frame.opId < middle.opId := by
  induction hreplies with
  | nil => exact fun frame hmem ↦ absurd hmem List.not_mem_nil
  | cons hanswered _ ih =>
    rw [List.flatten_cons, List.forall_mem_append]
    exact ⟨hanswered.frame, ih⟩

/-- Whole frames of earlier requests do not start a reply. -/
theorem eq_nil_of_startsReply {more : Bytes}
    (hframes : ∀ frame ∈ frames, frame.WellFormed ∧ frame.opId < opId)
    (hrest : Rest IoFrame.bytes frames [] unread) (hstarts : StartsReply opId (unread ++ more)) :
    unread = [] := by
  cases hrest with
  | @between front back hframesEq =>
    cases back with
    | nil => rfl
    | cons frame back =>
      obtain ⟨hframe, hearlier⟩ := hframes frame (by
        rw [hframesEq]
        exact List.mem_append_right _ List.mem_cons_self)
      rw [List.flatMap_cons, List.append_assoc] at hstarts
      have hown := hstarts.opId_eq hframe
      omega
  | inside _ _ _ htail => exact absurd rfl htail

/-- After any run of reads against the server, in which any receives timed out, the unread bytes are left
of the frames that answered the attempts: whole frames, or the proper end `tail` of one and whole frames,
each with the range of its attempt and the opId of an earlier request. A plain read into a flat buffer that
then returns has its own range in the buffer, unless the unread bytes start inside a frame and the first
16 bytes of the stream are an IO header of this read's opId. -/
theorem readinto_after_abandoned {content : Bytes} {disk middle after : NfcDisk}
    {made : List Attempt} {attempt : Attempt} {observed : List (Except PyError Bytes)}
    {outcome : Except PyError Bytes} (hclean : streamBytes disk.sock.inbox = [])
    (hrun : Run (Attempt.Happens library content) disk made observed middle)
    (hstep : attempt.Happens library content middle outcome after) :
    ∃ replies tail, List.Forall₂ (Attempt.Answered library content middle) made replies ∧
      Rest IoFrame.bytes replies.flatten tail (streamBytes middle.sock.inbox) ∧
      (attempt.skipDecompression = false → attempt.buf.Flat → ∀ bytes, outcome = .ok bytes →
        ¬ (tail ≠ [] ∧ StartsReply middle.opId (attempt.stream middle)) →
        bytes = attempt.range content middle ++
          attempt.buf.bytes.drop (requestLength middle attempt.numSectors)) := by
  obtain ⟨replies, hreplies, -, -, taken, hsplit⟩ := replies_of_run hrun
  rw [hclean, List.nil_append] at hsplit
  obtain ⟨tail, hrest⟩ := exists_rest hsplit
  refine ⟨replies, tail, hreplies, hrest, ?_⟩
  rintro hplain hflat bytes rfl hheader
  obtain ⟨hstarts, hbytes⟩ := hstep.returned hplain hflat
  refine hbytes ?_
  rcases eq_or_ne tail [] with rfl | htail
  · exact eq_nil_of_startsReply (frame_of_replies hreplies) hrest hstarts
  · exact absurd ⟨htail, hstarts⟩ hheader

/-- The server can answer a read with one raw frame. -/
theorem Attempt.Happens.of_whole (library : FastLzLibrary) (content : Bytes) (before : NfcDisk)
    (attempt : Attempt) {result : Except PyError ReadResult}
    (hfits : ReadFits before attempt.startSector (requestLength before attempt.numSectors))
    (hinside : (attempt.startSector * before.sectorSize).toNat +
      requestLength before attempt.numSectors ≤ content.length)
    (hpos : attempt.range content before ≠ [])
    (harrivals : streamBytes attempt.arrivals =
      [{ IoFrame.raw (attempt.range content before).length 0 (attempt.range content before) with
        opId := before.opId }].flatMap IoFrame.bytes)
    (hresult : (readinto library attempt.startSector attempt.numSectors attempt.skipDecompression
      (attempt.env before)).1 = result)
    (hsent : (readinto library attempt.startSector attempt.numSectors attempt.skipDecompression
      (attempt.env before)).2.1.sock.sent = before.sock.sent ++ (readHead before attempt.startSector
        (requestLength before attempt.numSectors)).bytes) :
    attempt.Happens library content before
      (result.map fun _ ↦ (readinto library attempt.startSector attempt.numSectors
        attempt.skipDecompression (attempt.env before)).2.2.bytes)
      (readinto library attempt.startSector attempt.numSectors attempt.skipDecompression
        (attempt.env before)).2.1 := by
  have hlength : (attempt.range content before).length < 2 ^ 32 :=
    (List.length_slice _ _ _ hinside).trans_lt hfits.length_lt
  refine ⟨⟨result, _, Proc.eq_of_fst hresult, rfl⟩, Or.inr ⟨_, hsent, ?_⟩⟩
  rw [harrivals]
  exact .read hfits.head_fits rfl rfl rfl hfits.start_nonneg hinside
    (Carries.whole hfits.opId_lt hpos hlength) fun hpacking ↦ absurd hpacking (by decide)

/-- Sectors that start with the header of a message of request 1 whose payload is all that comes behind. -/
def swallowingSectors : Bytes :=
  (hdrFields nfcAioMsgIo 112 1).flatMap Field.bytes ++ List.replicate 48 0

/-- A read of all of them that times out behind the payload of its reply. -/
def abandonedAttempt : Attempt where
  startSector := 0
  numSectors := 16
  skipDecompression := false
  buf := Buffer.zeros 64
  arrivals := Arrival.segment ((IoFrame.raw 64 0 swallowingSectors).bytes.take 60) ++
    [.timeout] ++ Arrival.segment ((IoFrame.raw 64 0 swallowingSectors).bytes.drop 60)

/-- A read of the first sector as request `opId`. -/
def sectorAttempt (opId : ℕ) : Attempt where
  startSector := 0
  numSectors := 1
  skipDecompression := false
  buf := Buffer.zeros 4
  arrivals := Arrival.segment
    ({ IoFrame.raw 4 0 (swallowingSectors.take 4) with opId := opId } : IoFrame).bytes

/-- The session behind the abandoned read, and behind the read that then takes the sector data and its own
reply for the payload of one message, and raises. -/
def afterAbandoned : NfcDisk :=
  (readinto FastLz.storing abandonedAttempt.startSector abandonedAttempt.numSectors
    abandonedAttempt.skipDecompression (abandonedAttempt.env (fresh []))).2.1

def afterSwallowed : NfcDisk :=
  (readinto FastLz.storing (sectorAttempt 1).startSector (sectorAttempt 1).numSectors
    (sectorAttempt 1).skipDecompression ((sectorAttempt 1).env afterAbandoned)).2.1

theorem readinto_after_abandoned_swallowed :
    ∃ observed, Run (Attempt.Happens FastLz.storing swallowingSectors) (fresh [])
        [abandonedAttempt, sectorAttempt 1] observed afterSwallowed ∧
      (∀ outcome ∈ observed, ∃ error, outcome = .error error) ∧
      ∃ replies, List.Forall₂ (Attempt.Answered FastLz.storing swallowingSectors afterSwallowed)
          [abandonedAttempt, sectorAttempt 1] replies ∧
        Rest IoFrame.bytes replies.flatten [] [] ∧
        [0x7A, 0xDA, 0x00, 0xA1] = (sectorAttempt 2).range swallowingSectors afterSwallowed ++
          (sectorAttempt 2).buf.bytes.drop (requestLength afterSwallowed (sectorAttempt 2).numSectors) := by
  have hfirst := Attempt.Happens.of_whole FastLz.storing swallowingSectors (fresh []) abandonedAttempt
    ⟨by decide, by decide, by decide, by decide⟩ (by decide +kernel) (by decide +kernel)
    (by decide +kernel) (show _ = Except.error ⟨.timeoutError, "timed out"⟩ by decide +kernel)
    (by decide +kernel)
  have hsecond := Attempt.Happens.of_whole FastLz.storing swallowingSectors afterAbandoned
    (sectorAttempt 1) ⟨by decide +kernel, by decide +kernel, by decide +kernel, by decide +kernel⟩
    (by decide +kernel) (by decide +kernel) (by decide +kernel)
    (show _ = Except.error (nfcProtocolError "AIO IO chunk offset=0 length=0 invalid, request 4") by
      decide +kernel) (by decide +kernel)
  have hthird := Attempt.Happens.of_whole FastLz.storing swallowingSectors afterSwallowed
    (sectorAttempt 2) ⟨by decide +kernel, by decide +kernel, by decide +kernel, by decide +kernel⟩
    (by decide +kernel) (by decide +kernel) (by decide +kernel)
    (show _ = Except.ok ⟨4, 4, []⟩ by decide +kernel) (by decide +kernel)
  have hrun : Run (Attempt.Happens FastLz.storing swallowingSectors) (fresh [])
      [abandonedAttempt, sectorAttempt 1] _ afterSwallowed := .cons hfirst (.cons hsecond .nil)
  obtain ⟨replies, tail, hreplies, hrest, hreturned⟩ :=
    readinto_after_abandoned (show streamBytes (fresh []).sock.inbox = [] from rfl) hrun hthird
  have hclean : streamBytes afterSwallowed.sock.inbox = [] := by decide +kernel
  rw [hclean] at hrest
  obtain rfl : tail = [] := hrest.tail_eq_nil rfl
  refine ⟨_, hrun, ?_, replies, hreplies, hrest, ?_⟩
  · rw [List.forall_mem_cons, List.forall_mem_singleton]
    exact ⟨⟨_, rfl⟩, ⟨_, rfl⟩⟩
  · exact hreturned rfl rfl [0x7A, 0xDA, 0x00, 0xA1] (by decide +kernel) fun hinside ↦ hinside.1 rfl

/-! ### Sector data taken for a reply -/

/-- Sector data that are a reply frame of request 1. -/
def forgedSectors : Bytes :=
  ({ IoFrame.raw 4 0 [9, 9, 9, 9] with opId := 1 } : IoFrame).bytes

/-- A read of all sectors that times out behind the payload of its reply. -/
def interruptedAttempt : Attempt where
  startSector := 0
  numSectors := 16
  skipDecompression := false
  buf := Buffer.zeros 64
  arrivals := Arrival.segment ((IoFrame.raw 64 0 forgedSectors).bytes.take 60) ++
    [.timeout] ++ Arrival.segment ((IoFrame.raw 64 0 forgedSectors).bytes.drop 60)

/-- The read of the first sector after it. -/
def poisonedAttempt : Attempt where
  startSector := 0
  numSectors := 1
  skipDecompression := false
  buf := Buffer.zeros 4
  arrivals := Arrival.segment
    ({ IoFrame.raw 4 0 (forgedSectors.take 4) with opId := 1 } : IoFrame).bytes

/-- After a read that timed out inside its extra, the next read takes the sector data left on the
stream for its reply and returns them. -/
theorem readinto_takes_sector_data :
    ∃ last, Run (Attempt.Happens FastLz.storing forgedSectors) (fresh [])
        [interruptedAttempt, poisonedAttempt]
        [.error ⟨.timeoutError, "timed out"⟩, .ok [9, 9, 9, 9]] last ∧
      poisonedAttempt.range forgedSectors (fresh []) = [0x7A, 0xDA, 0x00, 0xA1] := by
  have hfirst := Attempt.Happens.of_whole FastLz.storing forgedSectors (fresh [])
    interruptedAttempt ⟨by decide, by decide, by decide, by decide⟩ (by decide +kernel)
    (by decide +kernel) (by decide +kernel)
    (show _ = Except.error ⟨.timeoutError, "timed out"⟩ by decide +kernel) (by decide +kernel)
  have hsecond := Attempt.Happens.of_whole FastLz.storing forgedSectors
    (readinto FastLz.storing 0 16 false (interruptedAttempt.env (fresh []))).2.1 poisonedAttempt
    ⟨by decide +kernel, by decide +kernel, by decide +kernel, by decide +kernel⟩
    (by decide +kernel) (by decide +kernel) (by decide +kernel)
    (show _ = Except.ok ⟨4, 4, []⟩ by decide +kernel) (by decide +kernel)
  exact ⟨_, .cons hfirst (.cons hsecond .nil), by decide +kernel⟩

end OpenVixDiskLib
