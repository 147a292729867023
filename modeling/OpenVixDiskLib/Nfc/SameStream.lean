import OpenVixDiskLib.Nfc.CutStream

/-!
# The client does not see how a stream is segmented

Two sockets with the same bytes to come (`Sock.SameStream`) are a stream and a start of it that has lost
nothing, so no receive misses a byte, and they are the same to every procedure that speaks NFC on them:
opening, reading, writing and closing return and raise the same, send the same bytes, and leave the same
disk.
-/

set_option autoImplicit false
set_option relaxedAutoImplicit false

namespace OpenVixDiskLib

open Arrival
open Proc (Couples CouplesUntil)

/-! ### Sockets -/

/-- The same socket, but for the segments in which the bytes to come are handed over; no receive on either
times out. -/
structure Sock.SameStream (sock sock' : Sock) : Prop where
  frame : sock' = { sock with inbox := sock'.inbox }
  stream : streamBytes sock'.inbox = streamBytes sock.inbox
  quiet : Quiet sock.inbox
  quiet' : Quiet sock'.inbox

namespace Sock.SameStream

variable {sock sock' after after' : Sock} {taken : Bytes}

theorem closed_eq (hsame : sock.SameStream sock') : sock'.closed = sock.closed := by
  rw [hsame.frame]

/-- Receives of the same bytes leave the same bytes. -/
theorem took (hsame : sock.SameStream sock') (htook : sock.Took taken after)
    (htook' : sock'.Took taken after') : after.SameStream after' := by
  refine ⟨?_, ?_, htook.quiet hsame.quiet, htook'.quiet hsame.quiet'⟩
  · rw [htook.frame, htook'.frame, hsame.frame]
  · exact List.append_cancel_left
      ((htook'.stream.symm.trans hsame.stream).trans htook.stream)

end Sock.SameStream

/-- A stream and a start of it that has lost nothing are the same. -/
theorem Sock.cut_nil : Sock.Cut [] = Sock.SameStream := by
  funext sock sock'
  refine propext ⟨fun hcut ↦ ⟨hcut.frame, ?_, hcut.quiet, hcut.quiet'⟩,
    fun hsame ↦ ⟨hsame.frame, ?_, hsame.quiet, hsame.quiet'⟩⟩
  · rw [hcut.stream, List.append_nil]
  · rw [hsame.stream, List.append_nil]

/-- What survives the loss of nothing does the same on the same stream. -/
theorem Sock.Survives.couples {α : Type} {body : Py Sock α} (hbody : Sock.Survives [] body) :
    Couples Sock.SameStream Eq body body := by
  rw [← Sock.cut_nil]
  exact CouplesUntil.couples (fun _ _ hmissed ↦ hmissed.lost_ne_nil rfl) hbody

theorem couples_sendall (data : Bytes) :
    Couples Sock.SameStream Eq (Sock.sendall data) (Sock.sendall data) :=
  Sock.Survives.couples (cut_sendall data)

theorem couples_close : Couples Sock.SameStream Eq Sock.close Sock.close := by
  rintro ⟨inbox, _, _, _, _⟩ ⟨inbox', sent, closed, sendsLeft, closeError⟩
    ⟨hframe, hstream, hquiet, hquiet'⟩
  obtain ⟨-, rfl, rfl, rfl, rfl⟩ := Sock.mk.inj hframe
  cases closed with
  | true => exact ⟨.returned rfl, rfl, hstream, hquiet, hquiet'⟩
  | false =>
    rcases closeError with _ | error
    · exact ⟨.returned rfl, rfl, hstream, hquiet, hquiet'⟩
    · exact ⟨.raised _, rfl, hstream, hquiet, hquiet'⟩

theorem couples_closeQuietly : Couples Sock.SameStream Eq Sock.closeQuietly Sock.closeQuietly :=
  .tryExcept couples_close fun _ ↦ .pure rfl

theorem couples_closeOnError {σ α : Type} {relation : σ → σ → Prop} {values : α → α → Prop}
    {part : Proc.Part σ Sock} {body body' : Py σ α}
    (hget : ∀ state state', relation state state' → (part.get state).SameStream (part.get state'))
    (hset : ∀ state state' last last', relation state state' → Sock.SameStream last last' →
      relation (part.set last state) (part.set last' state'))
    (hbody : Couples relation values body body') :
    Couples relation values (closeOnError part body) (closeOnError part body') :=
  .tryExcept hbody fun _ ↦ .bind_eq (.zoom hget hset couples_close) fun _ ↦ .raise _

/-! ### Disks -/

/-- The same session on sockets with the same stream. -/
def NfcDisk.SameStream (disk disk' : NfcDisk) : Prop :=
  ∃ sock, disk.sock.SameStream sock ∧ disk' = { disk with sock := sock }

namespace NfcDisk

theorem cut_nil : Cut [] = SameStream := by
  unfold Cut SameStream
  rw [Sock.cut_nil]

theorem Survives.couples {α : Type} {body : Py NfcDisk α} (hbody : Survives [] body) :
    Couples SameStream Eq body body := by
  rw [← cut_nil]
  exact CouplesUntil.couples (fun _ _ hmissed ↦ hmissed.lost_ne_nil rfl) hbody

theorem couples_sockPart {α : Type} {body : Py Sock α} (hbody : Couples Sock.SameStream Eq body body) :
    Couples SameStream Eq (Proc.zoom sockPart body) (Proc.zoom sockPart body) := by
  refine .zoom ?_ ?_ hbody
  · rintro disk _ ⟨sock, hsame, rfl⟩
    exact hsame
  · rintro disk _ last last' ⟨sock, hsame, rfl⟩ hlast
    exact ⟨last', hlast, rfl⟩

/-- The `try` body of `open_disk` makes the same disk. -/
theorem couples_openOn (args : OpenArgs) (settings : OpenSettings) :
    Couples Sock.SameStream SameStream (openOn args settings) (openOn args settings) := by
  rw [← Sock.cut_nil, ← cut_nil]
  exact (cut_openOn args settings).couples fun _ _ hmissed ↦ hmissed.lost_ne_nil rfl

theorem couples_closeSession : Couples SameStream Eq closeSession closeSession :=
  Survives.couples cut_closeSession

theorem couples_close : Couples SameStream Eq close close := by
  refine .bind .get ?_
  rintro disk _ ⟨sock, hsame, rfl⟩
  change Couples SameStream Eq (if disk.closed = true then _ else _) (if disk.closed = true then _ else _)
  split
  · exact .pure rfl
  · refine .bind_eq (.modify ?_) fun _ ↦
      .tryFinally couples_closeSession (couples_sockPart couples_closeQuietly)
    rintro disk _ ⟨sock, hsame, rfl⟩
    exact ⟨sock, hsame, rfl⟩

theorem couples_write (library : FastLzLibrary) (startSector numSectors : ℤ) (data : Bytes) :
    Couples SameStream Eq (write library startSector numSectors data)
      (write library startSector numSectors data) :=
  Survives.couples (cut_write library startSector numSectors data)

/-- The same session on sockets with the same stream, and the same buffer, which is flat. -/
def SameRead (env env' : ReadEnv) : Prop :=
  ∃ sock, env.1.sock.SameStream sock ∧ env' = ({ env.1 with sock := sock }, env.2) ∧ env.2.Flat

theorem couples_readinto (library : FastLzLibrary) (startSector numSectors : ℤ)
    (skipDecompression : Bool) : Couples SameRead Eq
      (readinto library startSector numSectors skipDecompression)
      (readinto library startSector numSectors skipDecompression) := by
  rintro ⟨disk, buf⟩ _ ⟨sock, hsame, rfl, hflat⟩
  rw [← Sock.cut_nil] at hsame
  obtain ⟨houtcomes, ⟨last, hlast, hdisk⟩, hbuf, hafter⟩ :=
    (cut_readinto library startSector numSectors skipDecompression).couples
      (fun _ _ hmissed ↦ hmissed.lost_ne_nil rfl) (disk, buf) ({ disk with sock := sock }, buf)
      ⟨⟨sock, hsame, rfl⟩, rfl, hflat⟩
  rw [Sock.cut_nil] at hlast
  exact ⟨houtcomes, last, hlast, Prod.ext hdisk hbuf.symm, hafter⟩

end NfcDisk

end OpenVixDiskLib
