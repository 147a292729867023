import OpenVixDiskLib.Nfc.IoFrame
import OpenVixDiskLib.Nfc.Untouched

/-!
# Rows of more than one byte

The length of a view of several dimensions counts its rows, but a socket counts bytes. So a fragment that is
received into such a view goes elsewhere than its place, and more than the fragment may go there: when one
byte is asked for and two have come, both are received, the second of which is no part of the reply.

A read touches nothing it should not, on every stream and in every segmentation, exactly when it takes no
wide rows (`readinto_touches_only_iff`).
-/

set_option autoImplicit false
set_option relaxedAutoImplicit false

namespace OpenVixDiskLib

open NfcDisk
open Arrival (streamBytes)

variable {library : FastLzLibrary} {length opId : ℕ} {skipDecompression : Bool}
  {locals last : ReadLocals} {fragments : List Fragment} {fragment : Fragment}
  {bytes buffer final taken more got rest rest' : Bytes}

/-! ### What can be accepted of one frame and less than a header -/

/-- A frame has at least a header. -/
theorem ReplyFrame.header_le (hframe : ReplyFrame opId fragment bytes) : nfcAioHdrSize ≤ bytes.length := by
  cases hframe with
  | intro hlength =>
    rw [List.append_assoc, List.length_append, hlength]
    exact Nat.le_add_right _ _

/-- Of a frame and less than a header behind it, a run accepts nothing or the frame. -/
theorem ReadPrefix.of_frame (hframe : ReplyFrame opId fragment bytes) (hshort : rest.length < nfcAioHdrSize)
    (hstream : taken ++ rest' = bytes ++ rest)
    (hrun : ReadPrefix library length opId skipDecompression locals buffer fragments taken last final) :
    fragments = [] ∧ taken = [] ∨ fragments = [fragment] ∧ taken = bytes := by
  cases hrun with
  | start => exact Or.inl ⟨rfl, rfl⟩
  | accept _ hfirst _ _ hrest =>
    right
    rw [List.append_assoc] at hstream
    obtain ⟨rfl, rfl, hbehind⟩ := hfirst.unique hframe hstream
    cases hrest with
    | start => exact ⟨rfl, List.append_nil _⟩
    | accept _ hsecond =>
      have hheader := hsecond.header_le
      have hlength := congrArg List.length hbehind
      simp only [List.length_append] at hlength
      omega

/-- The head of a frame that was cut short is the head of the frame that the stream starts with. -/
theorem CutShort.got_lt {seen : List ℕ} {dest chunkLen ctype extraLen : ℕ}
    (hcut : CutShort opId length seen more got dest chunkLen ctype extraLen)
    (hframe : ReplyFrame opId fragment bytes) (hstream : more ++ rest' = bytes ++ rest) :
    got.length < fragment.extra.length := by
  obtain ⟨⟨hdr, body, rfl, hpasses, hextraLen⟩, hshort⟩ := hcut
  obtain ⟨code, hcode, rfl⟩ := hpasses.opcode_eq
  cases hframe with
  | @intro hdr' body' extra opcode dest' chunkLen' hlength hhdr hsize hopcode hdest hchunkLen hextra =>
    simp only [List.append_assoc] at hstream
    obtain ⟨rfl, htail⟩ := List.append_inj hstream (hpasses.hdr_length.trans hlength.symm)
    have hbodies : body.length = body'.length := by simpa [hhdr] using hpasses.hdr_eq.symm
    obtain ⟨rfl, -⟩ := List.append_inj htail hbodies
    obtain rfl : opcode = code := by simpa [hopcode] using hcode
    obtain rfl : chunkLen' = chunkLen := by simpa [hchunkLen] using hpasses.chunkLen_eq
    obtain rfl : extra.length = extraLen := by simpa [hextra] using hextraLen
    exact hshort

/-- What was cut short has a header. -/
theorem CutShort.header_le {seen : List ℕ} {dest chunkLen ctype extraLen : ℕ}
    (hcut : CutShort opId length seen more got dest chunkLen ctype extraLen) :
    nfcAioHdrSize ≤ more.length := by
  obtain ⟨⟨hdr, body, rfl, hpasses, -⟩, -⟩ := hcut
  rw [List.append_assoc, List.length_append, hpasses.hdr_length]
  exact Nat.le_add_right _ _

/-- On one raw frame for the first byte of the request, and one more byte, a read may touch the first byte
only. -/
theorem TouchesOnly.one_byte {env after : ReadEnv} {value stray : UInt8}
    (hframe : ReplyFrame opId ⟨0, 1, Compression.none.code, [value]⟩ bytes)
    (hinbox : streamBytes env.1.sock.inbox = bytes ++ [stray])
    (htouches : TouchesOnly library length opId skipDecompression env after fragments taken more last
      buffer) : after.2.bytes[1]? = env.2.bytes[1]? := by
  by_contra hchanged
  obtain ⟨-, hplace⟩ := htouches.changed 1 hchanged
  have hstream := htouches.stream
  rw [hinbox, List.append_assoc] at hstream
  have hone : ([stray] : Bytes).length < nfcAioHdrSize := show 1 < 16 by decide
  obtain ⟨rfl, rfl⟩ | ⟨rfl, rfl⟩ := htouches.accepted.of_frame hframe hone hstream.symm
  -- Nothing was accepted: of the frame's only byte nothing can have come.
  · rw [List.nil_append] at hstream
    cases skipDecompression with
    | false =>
      obtain ⟨fragment, hmem, -⟩ | ⟨got, dest, chunkLen, hcut, hfrom, hto⟩ := hplace
      · exact absurd hmem List.not_mem_nil
      · have hgot := hcut.got_lt hframe hstream.symm
        rw [List.length_singleton] at hgot
        obtain ⟨⟨hdr, body, -, hpasses, -⟩, -⟩ := hcut
        omega
    | true =>
      obtain hpacked | ⟨got, dest, chunkLen, ctype, extraLen, hcut, -, hto⟩ := hplace
      · exact absurd hpacked (Nat.not_lt_zero 1)
      · have hgot := hcut.got_lt hframe hstream.symm
        change 1 < 0 + got.length at hto
        rw [List.length_singleton] at hgot
        omega
  -- The frame was accepted: it covers one byte, and no header is left.
  · have hmore : more.length ≤ 1 := by
      have hbehind := congrArg List.length (List.append_cancel_left hstream)
      rw [List.length_singleton, List.length_append] at hbehind
      omega
    have hnocut : ∀ {got : Bytes} {dest chunkLen ctype extraLen : ℕ},
        ¬ CutShort opId length last.seen more got dest chunkLen ctype extraLen := by
      intro got dest chunkLen ctype extraLen hcut
      have hheader : 16 ≤ more.length := hcut.header_le
      omega
    cases skipDecompression with
    | false =>
      obtain ⟨fragment, hmem, hspan, -⟩ | ⟨got, dest, chunkLen, hcut, -⟩ := hplace
      · obtain rfl := List.mem_singleton.mp hmem
        have hcovers := Fragment.mem_span.mp hspan
        exact absurd hcovers.2 (Nat.lt_irrefl 1)
      · exact hnocut hcut
    | true =>
      obtain hpacked | ⟨got, dest, chunkLen, ctype, extraLen, hcut, -⟩ := hplace
      · exact absurd hpacked (Nat.lt_irrefl 1)
      · exact hnocut hcut

/-! ### One byte is asked for, and two are received -/

/-- The frame of one raw byte for the start of a request. -/
def oneByteFrame (opId : ℕ) (value : UInt8) : IoFrame :=
  { IoFrame.raw 1 0 [value] with opId := opId }

theorem replyFrame_oneByteFrame (hopId : opId < 2 ^ 32) (value : UInt8) :
    ReplyFrame opId ⟨0, 1, Compression.none.code, [value]⟩ (oneByteFrame opId value).bytes := by
  have hraw := @IoFrame.wellFormed_raw 1 0 [value] (by decide) le_rfl
  exact @IoFrame.replyFrame (oneByteFrame opId value)
    ⟨hopId, hraw.fits, hraw.direction_lt, hraw.extra_size⟩

/-- That frame, and one byte behind it. -/
def strayStream (opId : ℕ) (value stray : UInt8) : Bytes :=
  (oneByteFrame opId value).bytes ++ [stray]

variable {data : ByteView} {env : ReadEnv} {value stray : UInt8}

/-- A round that asks for one byte receives two into a wide row. -/
theorem readFragment_wide (hwide : 2 ≤ data.width) (hsolid : data.Receivable)
    (hrows : 1 ≤ data.count env.2.bytes.length) (hroom : data.width ≤ env.2.bytes.length)
    (hpos : 0 < length) (hopen : env.1.sock.closed = false)
    (hframe : ReplyFrame opId ⟨0, 1, Compression.none.code, [value]⟩ bytes)
    (hinbox : env.1.sock.inbox = Arrival.segment (bytes ++ [stray])) :
    ∃ next after, readFragment library data length opId skipDecompression readStart env =
        (.ok next, after) ∧
      after.1.sock.inbox = [] ∧ after.2.bytes = env.2.bytes.splice 0 [value, stray] := by
  have hholds : env.1.sock.Holds (bytes ++ [stray]) := by
    refine ⟨hopen, ?_, ?_⟩
    · rw [hinbox]
      exact Arrival.quiet_segment _
    · rw [hinbox, Arrival.streamBytes_segment]
  obtain ⟨front, middle, -, hstep, hmiddle, hstays, hround⟩ :=
    @readFragment_eq_extra library data length opId skipDecompression readStart _ _ _ env hframe
      ⟨List.not_mem_nil, Nat.one_ne_zero, hpos⟩ hholds
  have hleft : middle.1.sock.inbox = Arrival.segment [value, stray] := by
    obtain ⟨left, hleft⟩ := hstays ⟨_, hinbox⟩
    have hstream := hmiddle.stream
    rw [hleft, Arrival.streamBytes_segment] at hstream
    rw [hleft, hstream]
    rfl
  have hbuffer : middle.2.bytes = env.2.bytes := by rw [hstep.buf]
  rw [← hbuffer] at hrows hroom
  have hreceive := receiveInto_wide hmiddle.is_open hleft hwide hrows hsolid hroom
  obtain ⟨offset, hextra⟩ : ∃ offset, receiveExtra library data length skipDecompression
      readStart.packedOffset 0 1 Compression.none.code 1 middle = (.ok offset,
        { middle.1 with sock := { middle.1.sock with inbox := [] } },
        { middle.2 with bytes := middle.2.bytes.splice 0 [value, stray] }) := by
    cases skipDecompression with
    | false =>
      rw [receiveExtra, if_neg Bool.false_ne_true, if_neg (by decide), if_pos rfl,
        Proc.bind_of_ok hreceive]
      exact ⟨_, rfl⟩
    | true =>
      rw [receiveExtra, if_pos rfl]
      simp only
      rw [Proc.raiseIf_bind_of_neg (show ¬ length < readStart.packedOffset + 1 from not_lt.mpr hpos),
        Proc.bind_of_ok (show receiveInto data readStart.packedOffset 1 middle = _ from hreceive)]
      exact ⟨_, rfl⟩
  refine ⟨_, _, hround.trans (Proc.bind_of_ok hextra), rfl, ?_⟩
  rw [hbuffer]

/-- Where nothing is left to receive the loop leaves the buffer as it is. -/
theorem readLoop_of_ended (hended : streamBytes env.1.sock.inbox = []) :
    (readLoop library data length opId skipDecompression locals env).2.2 = env.2 := by
  rw [readLoop, Proc.whileLoop_unfold (readFragment_decreasing _ _ _ _ _)]
  split_ifs with hgo
  · rcases hrecv : Proc.zoom envSock (recvn nfcAioHdrSize) env with ⟨error | hdr, received⟩
    · obtain ⟨⟨taken, hstep⟩, -⟩ := recvn_env_error hrecv
      rw [Proc.bind_of_error (show readFragment _ _ _ _ _ _ env = _ from Proc.bind_of_error hrecv)]
      exact hstep.buf
    · obtain ⟨hlength, hstep⟩ := recvn_env_ok hrecv
      have hnil := List.append_eq_nil_iff.mp (hstep.took.stream.symm.trans hended)
      rw [hnil.1] at hlength
      cases hlength
  · rfl

/-- The loop on such a stream writes both bytes. -/
theorem readLoop_wide (hwide : 2 ≤ data.width) (hsolid : data.Receivable)
    (hrows : 1 ≤ data.count env.2.bytes.length) (hroom : data.width ≤ env.2.bytes.length)
    (hpos : 0 < length) (hopen : env.1.sock.closed = false) (hopId : opId < 2 ^ 32)
    (hinbox : env.1.sock.inbox = Arrival.segment (strayStream opId value stray)) :
    (readLoop library data length opId skipDecompression readStart env).2.2.bytes =
      env.2.bytes.splice 0 [value, stray] := by
  obtain ⟨next, after, hround, hended, hbytes⟩ := @readFragment_wide library length opId
    skipDecompression _ data env value stray hwide hsolid hrows hroom hpos hopen
    (replyFrame_oneByteFrame hopId value) hinbox
  have hgo : readStart.filled < length := hpos
  rw [readLoop, Proc.whileLoop_unfold (readFragment_decreasing _ _ _ _ _), if_pos (decide_eq_true hgo),
    Proc.bind_of_ok hround]
  change (readLoop _ _ _ _ _ next after).2.2.bytes = _
  rw [readLoop_of_ended (by rw [hended]; rfl), hbytes]

/-! ### Exactly the wide rows -/

variable {startSector numSectors : ℤ} {disk : NfcDisk} {buf : ShapedBuffer} {inbox : List Arrival}

/-- What is to be received does not matter. -/
theorem TakesWideRows.of_withInbox
    (htakes : TakesWideRows startSector numSectors (disk.withInbox inbox) buf.toBuffer) :
    TakesWideRows startSector numSectors disk buf.toBuffer := by
  obtain ⟨hfits, hsendable, data, haccepted, hwide⟩ := htakes
  exact ⟨hfits.withInbox disk.sock.inbox, hsendable, data,
    ⟨haccepted.positive, haccepted.data_eq⟩, hwide⟩

/-- A read that takes wide rows writes the byte behind the only one it asks for. -/
theorem TakesWideRows.strays (library : FastLzLibrary) (skipDecompression : Bool) (value stray : UInt8)
    (htakes : TakesWideRows startSector numSectors disk buf.toBuffer) :
    (readinto library startSector numSectors skipDecompression
        (disk.withInbox (Arrival.segment (strayStream disk.opId value stray)), buf.toBuffer)).2.2.bytes =
      buf.bytes.splice 0 [value, stray] := by
  obtain ⟨hfits, hsendable, data, haccepted, hwide, hsolid⟩ := htakes
  obtain ⟨hrows, hroom⟩ := ShapedBuffer.rows_fit haccepted.data_eq
  have hpos : 0 < requestLength disk numSectors := requestLength_pos haccepted.positive
  generalize hinbox : Arrival.segment (strayStream disk.opId value stray) = inbox
  have hmeets : ReadAccepted numSectors (disk.withInbox inbox, buf.toBuffer) data :=
    ⟨haccepted.positive, haccepted.data_eq⟩
  obtain ⟨sock, hsend⟩ := @Sock.sendall_eq_ok (disk.withInbox inbox).sock
    (readRequest (disk.withInbox inbox) startSector (requestLength disk numSectors)) |>.mpr hsendable
  have hopen : sock.closed = false := (Sock.sendall_ok hsend).closed_eq.trans hsendable.1
  have hsent : sock.inbox = inbox := Sock.sendall_inbox hsend
  rw [readinto_snd_eq_loop hmeets (hfits.withInbox inbox) hsend]
  exact @readLoop_wide library _ _ skipDecompression data
    (envDisk.set ((disk.withInbox inbox).afterCall sock) (disk.withInbox inbox, buf.toBuffer)) value stray
    hwide hsolid (hpos.trans_le hrows) ((Nat.le_mul_of_pos_left _ hpos).trans hroom) hpos hopen
    hfits.opId_lt (hsent.trans hinbox.symm)

/-- A read touches nothing it should not on every stream, in every segmentation and whether it returns or
raises, if and only if it takes no wide rows. -/
theorem readinto_touches_only_iff (library : FastLzLibrary) (startSector numSectors : ℤ)
    (skipDecompression : Bool) (disk : NfcDisk) (buf : ShapedBuffer) :
    (∀ inbox, ∃ fragments taken more last buffer,
      TouchesOnly library (requestLength disk numSectors) disk.opId skipDecompression
        (disk.withInbox inbox, buf.toBuffer)
        (readinto library startSector numSectors skipDecompression
          (disk.withInbox inbox, buf.toBuffer)).2
        fragments taken more last buffer) ↔
      ¬ TakesWideRows startSector numSectors disk buf.toBuffer := by
  constructor
  · intro htouches htakes
    have hstrays := fun stray ↦ htakes.strays library skipDecompression 0 stray
    obtain ⟨hfits, -, data, haccepted, hwide, -⟩ := htakes
    have hroom := (ShapedBuffer.rows_fit haccepted.data_eq).2
    have hpos : 0 < requestLength disk numSectors := requestLength_pos haccepted.positive
    have hsecond : 1 < buf.bytes.length :=
      hwide.trans ((Nat.le_mul_of_pos_left _ hpos).trans hroom)
    -- A stray byte that is another one than the second of the buffer.
    obtain ⟨fragments, taken, more, last, buffer, honly⟩ :=
      htouches (Arrival.segment (strayStream disk.opId 0 (buf.bytes[1] + 1)))
    have hsame := honly.one_byte (replyFrame_oneByteFrame hfits.opId_lt 0)
      (show streamBytes (Arrival.segment (strayStream disk.opId 0 (buf.bytes[1] + 1))) = _ from
        Arrival.streamBytes_segment _)
    have hwritten : (buf.bytes.splice 0 [0, buf.bytes[1] + 1])[1]? = some (buf.bytes[1] + 1) :=
      List.getElem?_splice_of_mem (Nat.zero_le _) (Nat.zero_le 1) (by simp)
    rw [hstrays, hwritten] at hsame
    change some (buf.bytes[1] + 1) = buf.bytes[1]? at hsame
    rw [List.getElem?_eq_getElem hsecond] at hsame
    simp at hsame
  · intro hnarrow inbox
    exact @readinto_touches_only library startSector numSectors skipDecompression (disk.withInbox inbox)
      buf fun htakes ↦ hnarrow htakes.of_withInbox

/-- Eight bytes as four rows of two. -/
def rowsOfTwo : ShapedBuffer where
  bytes := [0, 0, 0, 0, 0, 0, 0, 0]
  readonly := false
  layout := .bytes (.rows ⟨4, 2⟩ [⟨2, 1⟩])
  spans := rfl

/-- The two halves of a reply for four bytes, which arrive apart. -/
def halvesApart : List Arrival :=
  Arrival.segment (IoFrame.raw 4 0 [1, 2]).bytes ++ Arrival.segment (IoFrame.raw 4 2 [3, 4]).bytes

/-- A read of one sector of four bytes into rows of two returns, and has put the later half of the sector
behind the first four bytes of the buffer. -/
theorem readinto_writes_behind_request :
    requestLength (fresh []) 1 = 4 ∧
      (readinto FastLz.storing 0 1 false ((fresh []).withInbox halvesApart, rowsOfTwo.toBuffer)).1 =
        .ok ⟨4, 4, []⟩ ∧
      (readinto FastLz.storing 0 1 false
          ((fresh []).withInbox halvesApart, rowsOfTwo.toBuffer)).2.2.bytes = [1, 2, 0, 0, 3, 4, 0, 0] ∧
      rowsOfTwo.bytes[4]? = some 0 := by
  decide +kernel

end OpenVixDiskLib
