import OpenVixDiskLib.Base.Arrivals
import OpenVixDiskLib.Base.Splice
import OpenVixDiskLib.View

/-!
# Sockets and exact receives

`Sock` is a connected socket as the client sees it: the arrivals later receives will meet, the
bytes sent so far, and whether it has been closed. A send on an open socket succeeds unless the
connection is broken (`sendsLeft`), and a receive takes at most the bytes it asks for from the next
arrival.

`recvnInto` and `recvn` model `_recvn_into` and `_recvn` of `nfc_open.py`, which loop over
`recv_into` until the view is full. `recvnInto_outcome` says what every run of the loop does:
whatever the segmentation, the view's first bytes are overwritten by a prefix of the stream, all
of them exactly when it returns.
-/

set_option autoImplicit false
set_option relaxedAutoImplicit false

namespace OpenVixDiskLib

open Arrival

/-- A connected socket. `sendsLeft` is how many more sends succeed, `none` when all do, and
`closeError` what closing it raises once it has released the descriptor. -/
structure Sock where
  inbox : List Arrival
  sent : Bytes
  closed : Bool
  sendsLeft : Option ℕ
  closeError : Option PyError
deriving DecidableEq, Repr

namespace Sock

/-- `sock.recv_into` of a view of `limit` bytes: the bytes received. -/
def recvInto (limit : ℕ) : Py Sock Bytes := fun sock ↦
  if sock.closed then (.error ⟨.osError, "Bad file descriptor"⟩, sock)
  else
    match receive limit sock.inbox with
    | (some chunk, rest) => (.ok chunk, { sock with inbox := rest })
    | (none, rest) => (.error ⟨.timeoutError, "timed out"⟩, { sock with inbox := rest })

/-- `sock.recv`: the bytes that `recv_into` would store. -/
def recv (limit : ℕ) : Py Sock Bytes :=
  recvInto limit

/-- The socket after more bytes were sent. -/
def afterSend (sock : Sock) (data : Bytes) : Sock :=
  { sock with sent := sock.sent ++ data }

/-- `sock.sendall`. -/
def sendall (data : Bytes) : Py Sock Unit := fun sock ↦
  if sock.closed then (.error ⟨.osError, "Bad file descriptor"⟩, sock)
  else
    match sock.sendsLeft with
    | none => (.ok (), sock.afterSend data)
    | some 0 => (.error ⟨.osError, "Broken pipe"⟩, sock)
    | some (left + 1) => (.ok (), { sock.afterSend data with sendsLeft := some left })

/-- `sock.close()`. It releases the descriptor even when it raises, and may be called again. -/
def close : Py Sock Unit := fun sock ↦
  if sock.closed then (.ok (), sock)
  else
    match sock.closeError with
    | none => (.ok (), { sock with closed := true })
    | some error => (.error error, { sock with closed := true })

/-- Sends on the socket succeed. -/
def Sends (sock : Sock) : Prop :=
  sock.closed = false ∧ sock.sendsLeft = none

/-- The next send on the socket succeeds. -/
def Sendable (sock : Sock) : Prop :=
  sock.closed = false ∧ sock.sendsLeft ≠ some 0

theorem Sends.sendable {sock : Sock} (hsends : sock.Sends) : sock.Sendable :=
  ⟨hsends.1, by rw [hsends.2]; simp⟩

/-- The receives of the socket meet exactly these bytes and then the end of the stream. -/
structure Holds (sock : Sock) (bytes : Bytes) : Prop where
  is_open : sock.closed = false
  quiet : Quiet sock.inbox
  stream : streamBytes sock.inbox = bytes

theorem Sends.afterSend {sock : Sock} (hsends : sock.Sends) (data : Bytes) :
    (sock.afterSend data).Sends :=
  hsends

theorem Holds.afterSend {sock : Sock} {bytes : Bytes} (hholds : sock.Holds bytes) (data : Bytes) :
    (sock.afterSend data).Holds bytes :=
  ⟨hholds.is_open, hholds.quiet, hholds.stream⟩

theorem sendall_of_sends {sock : Sock} (hsends : sock.Sends) (data : Bytes) :
    sendall data sock = (.ok (), sock.afterSend data) := by
  rw [sendall, hsends.1, hsends.2]
  rfl

theorem afterSend_afterSend (sock : Sock) (first second : Bytes) :
    (sock.afterSend first).afterSend second = sock.afterSend (first ++ second) := by
  simp only [afterSend, List.append_assoc]

/-- Whether a send succeeds does not depend on its bytes. -/
theorem sendall_eq_ok {sock : Sock} {data : Bytes} :
    (∃ after, sendall data sock = (.ok (), after)) ↔ sock.Sendable := by
  unfold sendall Sendable
  by_cases hclosed : sock.closed = true
  · simp [hclosed]
  · rcases hleft : sock.sendsLeft with _ | _ | left <;> simp [hclosed]

/-- A send that fails changes nothing. -/
theorem sendall_error {sock after : Sock} {data : Bytes} {error : PyError}
    (h : sendall data sock = (.error error, after)) : after = sock := by
  unfold sendall at h
  split_ifs at h with hclosed
  · exact (Prod.mk.inj h).2.symm
  · split at h
    · simp at h
    · exact (Prod.mk.inj h).2.symm
    · simp at h

/-- A send leaves the arrivals to come as they were. -/
theorem sendall_inbox {sock after : Sock} {data : Bytes} {result : Except PyError Unit}
    (h : sendall data sock = (result, after)) : after.inbox = sock.inbox := by
  unfold sendall at h
  split_ifs at h with hclosed
  · rw [← (Prod.mk.inj h).2]
  · split at h <;> rw [← (Prod.mk.inj h).2] <;> rfl

end Sock

/-- Closing releases the descriptor, whatever it raises. -/
theorem Sock.close_snd (sock : Sock) : (Sock.close sock).2 = { sock with closed := true } := by
  unfold Sock.close
  by_cases hclosed : sock.closed = true
  · rw [if_pos hclosed, ← hclosed]
  · rw [if_neg hclosed]
    rcases sock.closeError with _ | error <;> rfl

/-- `try: sock.close()` with `except OSError: pass`. -/
def Sock.closeQuietly : Py Sock Unit :=
  Proc.tryExcept Sock.close PyError.isOsError fun _ ↦ pure ()

theorem Sock.closeQuietly_snd (sock : Sock) :
    (Sock.closeQuietly sock).2 = { sock with closed := true } := by
  rw [← Sock.close_snd]
  rcases hclose : Sock.close sock with ⟨error | ⟨⟨⟩⟩, after⟩
  · rw [Sock.closeQuietly, Proc.tryExcept_of_error hclose]
    split_ifs <;> rfl
  · rw [Sock.closeQuietly, Proc.tryExcept_of_ok hclose]

/-- A socket whose close raises at most an `OSError` is closed quietly. -/
theorem Sock.closeQuietly_apply {sock : Sock}
    (hcloses : ∀ error, sock.closeError = some error → error.isOsError = true) :
    Sock.closeQuietly sock = (.ok (), { sock with closed := true }) := by
  have hafter := Sock.close_snd sock
  rcases hclose : Sock.close sock with ⟨error | ⟨⟨⟩⟩, after⟩
  · rw [hclose] at hafter
    change after = _ at hafter
    have herror : error.isOsError = true := by
      unfold Sock.close at hclose
      split_ifs at hclose
      · simp at hclose
      · split at hclose
        · simp at hclose
        · rename_i raised hraised
          obtain rfl := Except.error.inj (Prod.mk.inj hclose).1
          exact hcloses raised hraised
    rw [Sock.closeQuietly, Proc.tryExcept_of_error hclose, if_pos herror, Proc.pure_apply, hafter]
  · rw [hclose] at hafter
    change after = _ at hafter
    rw [Sock.closeQuietly, Proc.tryExcept_of_ok hclose, hafter]

/-- `try: body` with `except Exception: sock.close(); raise`, for a socket that is a part of the state. -/
def closeOnError {σ α : Type} (part : Proc.Part σ Sock) (body : Py σ α) : Py σ α :=
  Proc.tryExcept body PyError.isException fun error ↦ do
    Proc.zoom part Sock.close
    Proc.raise error

section CloseOnError

variable {σ α : Type} {part : Proc.Part σ Sock} {body : Py σ α} {state after : σ}

theorem closeOnError_of_ok {value : α} (hbody : body state = (.ok value, after)) :
    closeOnError part body state = (.ok value, after) :=
  Proc.tryExcept_of_ok hbody

/-- A body that raises leaves its socket closed, whatever closing it raises. -/
theorem closeOnError_of_error {error : PyError} (hbody : body state = (.error error, after)) :
    ∃ raised, closeOnError part body state =
      (.error raised, part.set { part.get after with closed := true } after) := by
  have hclosed := Sock.close_snd (part.get after)
  rw [closeOnError, Proc.tryExcept_of_error hbody, if_pos (show error.isException = true from rfl)]
  rcases hclose : Sock.close (part.get after) with ⟨raised | ⟨⟨⟩⟩, last⟩
  all_goals
    rw [hclose] at hclosed
    change last = _ at hclosed
    subst hclosed
  · exact ⟨raised, Proc.bind_of_error (Proc.zoom_of_eq part hclose)⟩
  · exact ⟨error, Proc.bind_of_ok (Proc.zoom_of_eq part hclose)⟩

theorem closeOnError_eq_ok {value : α} :
    closeOnError part body state = (.ok value, after) ↔ body state = (.ok value, after) := by
  constructor
  · intro h
    rcases hbody : body state with ⟨error | result, middle⟩
    · obtain ⟨raised, hrun⟩ := @closeOnError_of_error _ _ part _ _ _ _ hbody
      rw [hrun] at h
      cases h
    · rw [closeOnError_of_ok hbody] at h
      exact h
  · exact closeOnError_of_ok

end CloseOnError

/-- The socket of a receive that has a buffer next to it. -/
def viewSock : Proc.Part (Sock × Bytes) Sock where
  get := Prod.fst
  set := fun sock state ↦ (sock, state.2)

/-- `sock.recv_into` of a slice of `limit` bytes of the view: asking for no byte is no receive. A plain
socket is asked for all bytes of the slice. A TLS connection is asked for `len` of them, which for a view
whose items have more than one byte is one of the ways in which the bytes can arrive. -/
def recvSlice (limit : ℕ) : Py (Sock × Bytes) Bytes :=
  if limit = 0 then pure [] else Proc.zoom viewSock (Sock.recvInto limit)

/-- What a socket raises for a view with gaps. -/
def viewWithGaps : PyError :=
  ⟨.typeError, "recv_into() argument 1 must be read-write bytes-like object, not memoryview"⟩

/-- One round of `_recvn_into`: receive into `view[filled:n]`, which must be without gaps, and advance
`filled` by the number of bytes. -/
def recvRound (view : ByteView) (n filled : ℕ) : Py (Sock × Bytes) ℕ := do
  Proc.raiseIf ((view.slice filled n).contiguous = false) viewWithGaps
  let chunk ← recvSlice ((n - filled) * view.width)
  Proc.modify fun state ↦ (state.1, state.2.splice (filled * view.width) chunk)
  Proc.raiseIf (chunk = [])
    (nfcProtocolError s!"NFC connection closed, needed {n} bytes, got {filled}")
  pure (filled + chunk.length)

/-- `_recvn_into`: fill the view. Every view it is given has format `B` already. -/
def recvnInto (view : ByteView) : Py (Sock × Bytes) Unit := do
  let state ← Proc.get
  let n := view.count state.2.length
  let _ ← Proc.whileLoop (fun filled ↦ decide (filled < n)) (recvRound view n)
    (fun filled ↦ n - filled) 0
  pure ()

/-- `_recvn`: receive exactly `size` bytes. -/
def recvn (size : ℕ) : Py Sock Bytes := do
  let received ← Proc.withLocal (List.replicate size 0) (recvnInto .flat)
  pure received.2

/-- `_recvn(sock, size) if size else b""`. -/
def recvnIfAny (size : ℕ) : Py Sock Bytes :=
  if size = 0 then pure [] else recvn size

/-- `bytes` has been received: it is gone from the head of the stream, and nothing else of the
socket has changed. -/
structure Sock.Took (before : Sock) (bytes : Bytes) (after : Sock) : Prop where
  stream : streamBytes before.inbox = bytes ++ streamBytes after.inbox
  frame : after = { before with inbox := after.inbox }
  quiet : Quiet before.inbox → Quiet after.inbox

/-- `got` has been received into the start of the view. -/
structure Received (before : Sock) (view got : Bytes) (after : Sock × Bytes) : Prop where
  took : before.Took got after.1
  view_eq : after.2 = view.splice 0 got
  fits : got.length ≤ view.length

/-- Why a receive stopped short. -/
def Sock.Interrupted (before after : Sock) : Prop :=
  before.closed = true ∨ ¬ Quiet before.inbox ∨ streamBytes after.inbox = []

namespace Sock.Took

variable {first middle last : Sock} {before after rest : Bytes}

theorem refl (sock : Sock) : sock.Took [] sock :=
  ⟨rfl, rfl, id⟩

theorem trans (hfirst : first.Took before middle) (hlast : middle.Took after last) :
    first.Took (before ++ after) last := by
  refine ⟨?_, ?_, fun hquiet ↦ hlast.quiet (hfirst.quiet hquiet)⟩
  · rw [hfirst.stream, hlast.stream, List.append_assoc]
  · rw [hlast.frame, hfirst.frame]

theorem sent_eq (h : first.Took before last) : last.sent = first.sent := by
  rw [h.frame]

theorem closed_eq (h : first.Took before last) : last.closed = first.closed := by
  rw [h.frame]

theorem sends (h : first.Took before last) (hsends : first.Sends) : last.Sends := by
  rw [h.frame]
  exact hsends

/-- A socket that holds the bytes received and more holds the rest afterwards. -/
theorem holds (h : first.Took before last) (hholds : first.Holds (before ++ rest)) :
    last.Holds rest := by
  refine ⟨by rw [h.closed_eq]; exact hholds.is_open, h.quiet hholds.quiet, ?_⟩
  exact List.append_cancel_left (h.stream.symm.trans hholds.stream)

end Sock.Took

/-- A `recv` that returns has taken the bytes it returns. -/
theorem Sock.recv_ok {sock after : Sock} {limit : ℕ} {chunk : Bytes}
    (h : Sock.recv limit sock = (.ok chunk, after)) :
    chunk.length ≤ limit ∧ sock.Took chunk after := by
  have hsplit := receive_streamBytes limit sock.inbox
  have hbound := receive_length_le limit sock.inbox
  have hquiet := fun hquiet : Quiet sock.inbox ↦ receive_quiet limit hquiet
  unfold Sock.recv Sock.recvInto at h
  split_ifs at h
  · cases h
  rcases hreceive : receive limit sock.inbox with ⟨_ | got, rest⟩
  · simp only [hreceive] at h
    cases h
  · simp only [hreceive] at h hsplit hbound hquiet
    cases h
    exact ⟨hbound, hsplit, rfl, hquiet⟩

/-- A `recv` that raises has taken nothing. -/
theorem Sock.recv_error {sock after : Sock} {limit : ℕ} {error : PyError}
    (h : Sock.recv limit sock = (.error error, after)) : sock.Took [] after := by
  have hsplit := receive_streamBytes limit sock.inbox
  have hsome := fun hquiet : Quiet sock.inbox ↦ receive_isSome limit hquiet
  unfold Sock.recv Sock.recvInto at h
  split_ifs at h
  · cases h
    exact .refl sock
  rcases hreceive : receive limit sock.inbox with ⟨_ | got, rest⟩
  · simp only [hreceive] at h hsplit hsome
    cases h
    exact ⟨hsplit, rfl, fun hquiet ↦ by cases hsome hquiet⟩
  · simp only [hreceive] at h
    cases h

/-- While a byte remains and none is a timeout away, a `recv` of one byte takes it. -/
theorem Sock.recv_of_holds {sock : Sock} {byte : UInt8} {rest : Bytes}
    (hholds : sock.Holds (byte :: rest)) :
    ∃ after, Sock.recv 1 sock = (.ok [byte], after) ∧ sock.Took [byte] after := by
  have hsome := receive_isSome 1 hholds.quiet
  have hne := receive_ne_nil Nat.one_pos hholds.quiet (by rw [hholds.stream]; exact List.cons_ne_nil _ _)
  rcases hreceive : receive 1 sock.inbox with ⟨_ | got, inbox⟩
  · rw [hreceive] at hsome
    cases hsome
  have hrun : Sock.recv 1 sock = (.ok got, { sock with inbox := inbox }) := by
    simp only [Sock.recv, Sock.recvInto, hholds.is_open, hreceive, Bool.false_eq_true, if_false]
  obtain ⟨hlength, htook⟩ := Sock.recv_ok hrun
  rw [hreceive] at hne
  have hstream := htook.stream
  rw [hholds.stream] at hstream
  rcases got with _ | ⟨first, _ | ⟨second, more⟩⟩
  · exact absurd rfl hne
  · obtain ⟨rfl, -⟩ := List.cons.inj hstream
    exact ⟨_, hrun, htook⟩
  · simp at hlength

/-- `request` has been sent and `reply` received; what else may have changed is how many more sends
succeed. -/
structure Sock.Exchanged (before : Sock) (request reply : Bytes) (after : Sock) : Prop where
  stream : streamBytes before.inbox = reply ++ streamBytes after.inbox
  sent_eq : after.sent = before.sent ++ request
  closed_eq : after.closed = before.closed
  quiet : Quiet before.inbox → Quiet after.inbox
  sends : before.Sends → after.Sends
  closeError_eq : after.closeError = before.closeError

namespace Sock.Exchanged

variable {first middle last : Sock} {request request' reply reply' rest : Bytes}

theorem trans (hfirst : first.Exchanged request reply middle)
    (hlast : middle.Exchanged request' reply' last) :
    first.Exchanged (request ++ request') (reply ++ reply') last where
  stream := by rw [hfirst.stream, hlast.stream, List.append_assoc]
  sent_eq := by rw [hlast.sent_eq, hfirst.sent_eq, List.append_assoc]
  closed_eq := hlast.closed_eq.trans hfirst.closed_eq
  quiet hquiet := hlast.quiet (hfirst.quiet hquiet)
  sends hsends := hlast.sends (hfirst.sends hsends)
  closeError_eq := hlast.closeError_eq.trans hfirst.closeError_eq

theorem of_took (h : first.Took reply last) : first.Exchanged [] reply last where
  stream := h.stream
  sent_eq := by rw [h.sent_eq, List.append_nil]
  closed_eq := h.closed_eq
  quiet := h.quiet
  sends := h.sends
  closeError_eq := by rw [h.frame]

theorem holds (h : first.Exchanged request reply last) (hholds : first.Holds (reply ++ rest)) :
    last.Holds rest := by
  refine ⟨by rw [h.closed_eq]; exact hholds.is_open, h.quiet hholds.quiet, ?_⟩
  exact List.append_cancel_left (h.stream.symm.trans hholds.stream)

end Sock.Exchanged

/-- A send that succeeds adds its bytes to those sent. -/
theorem Sock.sendall_ok {sock after : Sock} {data : Bytes}
    (h : sendall data sock = (.ok (), after)) : sock.Exchanged data [] after := by
  have hinbox := sendall_inbox h
  unfold sendall at h
  split_ifs at h with hclosed
  · simp at h
  · split at h
    · obtain rfl := (Prod.mk.inj h).2
      exact ⟨rfl, rfl, rfl, id, id, rfl⟩
    · simp at h
    · rename_i left hleft
      obtain rfl := (Prod.mk.inj h).2
      exact ⟨rfl, rfl, rfl, id, (fun hsends ↦ by rw [hsends.2] at hleft; cases hleft), rfl⟩

theorem recvRound_decreasing (view : ByteView) (n : ℕ) :
    Proc.Decreasing (fun filled ↦ decide (filled < n)) (recvRound view n)
      (fun filled ↦ n - filled) where
  pos filled hgo := by
    have hlt : filled < n := by simpa using hgo
    omega
  lt filled state next after hgo hround := by
    have hlt : filled < n := by simpa using hgo
    rw [recvRound, Proc.raiseIf_bind_eq_ok, Proc.bind_eq_ok] at hround
    obtain ⟨-, chunk, middle, -, hrest⟩ := hround
    rw [Proc.modify_bind_apply, Proc.raiseIf_bind_eq_ok, Proc.pure_apply] at hrest
    obtain ⟨hchunk, hnext⟩ := hrest
    have hlength : 0 < chunk.length := List.length_pos_iff.mpr hchunk
    have hvalue : filled + chunk.length = next := by simpa using congrArg Prod.fst hnext
    omega

/-- In a flat view every byte is an item, and every slice can be received into. -/
theorem recvRound_flat {n filled : ℕ} (hgo : filled < n) :
    recvRound .flat n filled = (do
      let chunk ← Proc.zoom viewSock (Sock.recvInto (n - filled))
      Proc.modify fun state ↦ (state.1, state.2.splice filled chunk)
      Proc.raiseIf (chunk = [])
        (nfcProtocolError s!"NFC connection closed, needed {n} bytes, got {filled}")
      pure (filled + chunk.length)) := by
  have hlimit : n - filled ≠ 0 := by omega
  funext state
  rw [recvRound, Proc.raiseIf_bind_of_neg (by simp [ByteView.contiguous])]
  simp only [ByteView.width_flat, Nat.mul_one, recvSlice, if_neg hlimit]

theorem recvnInto_flat (sock : Sock) (view : Bytes) :
    recvnInto .flat (sock, view) =
      (Proc.whileLoop (fun filled ↦ decide (filled < view.length)) (recvRound .flat view.length)
        (fun filled ↦ view.length - filled) 0 >>= fun _ ↦ pure ()) (sock, view) :=
  rfl

/-- One round receives at least one byte behind those already received, or stops short. -/
theorem recvRound_triple (before : Sock) (view : Bytes) (filled : ℕ) (hfilled : filled < view.length) :
    Proc.Triple (fun state ↦ ∃ got, got.length = filled ∧ Received before view got state)
      (recvRound .flat view.length filled)
      (fun next state ↦ ∃ got, got.length = next ∧ Received before view got state)
      (fun _ state ↦ ∃ got, got.length < view.length ∧ Received before view got state ∧
        before.Interrupted state.1) := by
  rintro ⟨sock, current⟩ ⟨got, rfl, hreceived⟩
  have hframe : sock = { before with inbox := sock.inbox } := hreceived.took.frame
  have hsplit := receive_streamBytes (view.length - got.length) sock.inbox
  have hbound := receive_length_le (view.length - got.length) sock.inbox
  rw [recvRound_flat hfilled]
  by_cases hclosed : sock.closed = true
  · have hrecv : Proc.zoom viewSock (Sock.recvInto (view.length - got.length)) (sock, current) =
        (.error ⟨.osError, "Bad file descriptor"⟩, sock, current) :=
      Proc.zoom_of_eq _ (by simp [viewSock, Sock.recvInto, hclosed])
    rw [Proc.bind_of_error hrecv]
    exact ⟨got, hfilled, hreceived, Or.inl (by rw [hframe] at hclosed; exact hclosed)⟩
  · rcases hreceive : receive (view.length - got.length) sock.inbox with ⟨_ | chunk, rest⟩
    · have hrecv : Proc.zoom viewSock (Sock.recvInto (view.length - got.length)) (sock, current) =
          (.error ⟨.timeoutError, "timed out"⟩, { sock with inbox := rest }, current) :=
        Proc.zoom_of_eq _ (by simp [viewSock, Sock.recvInto, hclosed, hreceive])
      rw [Proc.bind_of_error hrecv]
      rw [hreceive] at hsplit
      have hnotQuiet : ¬ Quiet before.inbox := by
        intro hquiet
        have hsome := receive_isSome (view.length - got.length) (hreceived.took.quiet hquiet)
        rw [hreceive] at hsome
        simp at hsome
      refine ⟨got, hfilled, ⟨⟨?_, ?_, fun h ↦ absurd h hnotQuiet⟩, hreceived.view_eq,
        hreceived.fits⟩, Or.inr (Or.inl hnotQuiet)⟩
      · rw [hreceived.took.stream, hsplit]
        rfl
      · rw [hframe]
    · have hrecv : Proc.zoom viewSock (Sock.recvInto (view.length - got.length)) (sock, current) =
          (.ok chunk, { sock with inbox := rest }, current) :=
        Proc.zoom_of_eq _ (by simp [viewSock, Sock.recvInto, hclosed, hreceive])
      rw [Proc.bind_of_ok hrecv, Proc.modify_bind_apply]
      simp only [hreceive, Option.getD_some] at hsplit hbound
      have hnext : Received before view (got ++ chunk)
          ({ sock with inbox := rest }, current.splice got.length chunk) := by
        have hview : current = view.splice 0 got := hreceived.view_eq
        have hadjacent : (view.splice 0 got).splice (0 + got.length) chunk =
            view.splice 0 (got ++ chunk) :=
          List.splice_splice_append (by rw [Nat.zero_add]; exact hreceived.fits)
        refine ⟨⟨?_, ?_, ?_⟩, ?_, ?_⟩
        · rw [hreceived.took.stream, hsplit, List.append_assoc]
        · rw [hframe]
        · intro hquiet
          have hrest := receive_quiet (view.length - got.length) (hreceived.took.quiet hquiet)
          rwa [hreceive] at hrest
        · rw [← hadjacent, hview, Nat.zero_add]
        · rw [List.length_append]
          have hfits := hreceived.fits
          omega
      by_cases hchunk : chunk = []
      · rw [Proc.raiseIf_bind_of_pos hchunk]
        subst hchunk
        refine ⟨got ++ [], by simpa using hfilled, hnext, ?_⟩
        by_cases hquiet : Quiet before.inbox
        · refine Or.inr (Or.inr ?_)
          by_contra hbytes
          have hne := receive_ne_nil (show 0 < view.length - got.length by omega)
            (hreceived.took.quiet hquiet) (by rw [hsplit]; simpa using hbytes)
          rw [hreceive] at hne
          exact hne rfl
        · exact Or.inr (Or.inl hquiet)
      · rw [Proc.raiseIf_bind_of_neg hchunk, Proc.pure_apply]
        exact ⟨got ++ chunk, List.length_append, hnext⟩

/-- What every run of `recvnInto` does: it receives the whole view and returns, or less and
raises. -/
theorem recvnInto_outcome (sock : Sock) (view : Bytes) :
    Proc.Outcome (fun _ state ↦ ∃ got, got.length = view.length ∧ Received sock view got state)
      (fun _ state ↦ ∃ got, got.length < view.length ∧ Received sock view got state ∧
        sock.Interrupted state.1)
      (recvnInto .flat (sock, view)) := by
  have hstart : ∃ got, got.length = 0 ∧ Received sock view got (sock, view) :=
    ⟨[], rfl, ⟨Sock.Took.refl sock, (List.splice_nil _ _).symm, Nat.zero_le _⟩⟩
  have hloop := Proc.Triple.whileLoop (recvRound_decreasing .flat view.length)
    (fun filled hgo ↦ recvRound_triple sock view filled (by simpa using hgo)) 0 (sock, view) hstart
  rw [recvnInto_flat]
  rcases hrun : Proc.whileLoop (fun filled ↦ decide (filled < view.length)) (recvRound .flat view.length)
    (fun filled ↦ view.length - filled) 0 (sock, view) with ⟨_ | last, after⟩
  · rw [hrun] at hloop
    rw [Proc.bind_of_error hrun]
    exact hloop
  · rw [hrun] at hloop
    rw [Proc.bind_of_ok hrun]
    obtain ⟨hstop, got, hlength, hreceived⟩ := hloop
    have hle : view.length ≤ last := by simpa using hstop
    exact ⟨got, le_antisymm hreceived.fits (by omega), hreceived⟩

/-- `recvnInto` that returns has filled the whole view from the head of the stream. -/
theorem recvnInto_ok {sock : Sock} {view : Bytes} {after : Sock × Bytes}
    (h : recvnInto .flat (sock, view) = (.ok (), after)) :
    after.2.length = view.length ∧ sock.Took after.2 after.1 := by
  have houtcome := recvnInto_outcome sock view
  rw [h] at houtcome
  obtain ⟨got, hlength, hreceived⟩ := houtcome
  have hview : after.2 = got := by
    rw [hreceived.view_eq, List.splice_zero_of_length hlength]
  rw [hview]
  exact ⟨hlength, hreceived.took⟩

/-- `recvnInto` that raises has overwritten a proper prefix of the view from the head of the
stream. -/
theorem recvnInto_error {sock : Sock} {view : Bytes} {error : PyError} {after : Sock × Bytes}
    (h : recvnInto .flat (sock, view) = (.error error, after)) :
    ∃ got, got.length < view.length ∧ Received sock view got after ∧
      sock.Interrupted after.1 := by
  have houtcome := recvnInto_outcome sock view
  rw [h] at houtcome
  exact houtcome

/-- `recvnInto` returns when the stream holds enough bytes. -/
theorem recvnInto_of_holds {sock : Sock} {view bytes rest : Bytes}
    (hholds : sock.Holds (bytes ++ rest)) (hlength : bytes.length = view.length) :
    ∃ after, recvnInto .flat (sock, view) = (.ok (), after, bytes) ∧ sock.Took bytes after := by
  rcases hrun : recvnInto .flat (sock, view) with ⟨_ | ⟨⟨⟩⟩, after, filled⟩
  · obtain ⟨got, hgot, hreceived, hclosed | hloud | hend⟩ := recvnInto_error hrun
    · exact absurd hholds.is_open (by rw [hclosed]; simp)
    · exact absurd hholds.quiet hloud
    · have hstream := hreceived.took.stream
      rw [hholds.stream, hend, List.append_nil] at hstream
      have hlengths := congrArg List.length hstream
      rw [List.length_append] at hlengths
      omega
  · obtain ⟨hfilled, htook⟩ := recvnInto_ok hrun
    obtain ⟨hbytes, -⟩ := List.append_inj (htook.stream.symm.trans hholds.stream)
      (hfilled.trans hlength.symm)
    change filled = bytes at hbytes
    subst hbytes
    exact ⟨after, rfl, htook⟩

theorem recvn_apply (size : ℕ) (sock : Sock) :
    recvn size sock =
      match recvnInto .flat (sock, List.replicate size 0) with
      | (.ok _, after, bytes) => (.ok bytes, after)
      | (.error error, after, _) => (.error error, after) := by
  rcases hrun : recvnInto .flat (sock, List.replicate size 0) with ⟨_ | ⟨⟨⟩⟩, after, bytes⟩
  · exact Proc.bind_of_error (Proc.withLocal_of_error hrun)
  · exact Proc.bind_of_ok (Proc.withLocal_of_ok hrun)

/-- `recvn` that returns has taken `size` bytes from the head of the stream. -/
theorem recvn_ok {size : ℕ} {sock after : Sock} {bytes : Bytes}
    (h : recvn size sock = (.ok bytes, after)) : bytes.length = size ∧ sock.Took bytes after := by
  rw [recvn_apply] at h
  rcases hrun : recvnInto .flat (sock, List.replicate size 0) with ⟨_ | ⟨⟨⟩⟩, last, filled⟩
  · rw [hrun] at h
    simp at h
  · rw [hrun] at h
    simp only [Prod.mk.injEq, Except.ok.injEq] at h
    obtain ⟨rfl, rfl⟩ := h
    simpa using recvnInto_ok hrun

/-- `recvn` that raises has taken fewer bytes. -/
theorem recvn_error {size : ℕ} {sock after : Sock} {error : PyError}
    (h : recvn size sock = (.error error, after)) :
    ∃ got, got.length < size ∧ sock.Took got after ∧ sock.Interrupted after := by
  rw [recvn_apply] at h
  rcases hrun : recvnInto .flat (sock, List.replicate size 0) with ⟨_ | ⟨⟨⟩⟩, last, filled⟩
  · rw [hrun] at h
    simp only [Prod.mk.injEq, Except.error.injEq] at h
    obtain ⟨rfl, rfl⟩ := h
    obtain ⟨got, hgot, hreceived, hinterrupted⟩ := recvnInto_error hrun
    exact ⟨got, by simpa using hgot, hreceived.took, hinterrupted⟩
  · rw [hrun] at h
    simp at h

/-- `recvn` returns when the stream holds enough bytes. -/
theorem recvn_of_holds {size : ℕ} {sock : Sock} {bytes rest : Bytes}
    (hholds : sock.Holds (bytes ++ rest)) (hlength : bytes.length = size) :
    ∃ after, recvn size sock = (.ok bytes, after) ∧ sock.Took bytes after := by
  obtain ⟨after, hrun, htook⟩ :=
    recvnInto_of_holds hholds
      (show bytes.length = (List.replicate size (0 : UInt8)).length by simpa using hlength)
  exact ⟨after, by rw [recvn_apply, hrun], htook⟩

/-- A receive on an open socket without timeouts leaves it open and without timeouts, and raises
nothing but a protocol error. -/
theorem recvRound_calm {n filled : ℕ} (hgo : filled < n) :
    Proc.Triple (fun state : Sock × Bytes ↦ state.1.closed = false ∧ Quiet state.1.inbox)
      (recvRound .flat n filled) (fun _ state ↦ state.1.closed = false ∧ Quiet state.1.inbox)
      (fun error _ ↦ error.kind = .nfcProtocolError) := by
  rintro ⟨sock, current⟩ ⟨hopen, hquiet⟩
  change sock.closed = false at hopen
  have hsome := receive_isSome (n - filled) hquiet
  have hrest := receive_quiet (n - filled) hquiet
  rcases hreceive : receive (n - filled) sock.inbox with ⟨_ | chunk, rest⟩
  · rw [hreceive] at hsome
    simp at hsome
  · rw [hreceive] at hrest
    have hrecv : Proc.zoom viewSock (Sock.recvInto (n - filled)) (sock, current) =
        (.ok chunk, { sock with inbox := rest }, current) :=
      Proc.zoom_of_eq _ (by simp [viewSock, Sock.recvInto, hopen, hreceive])
    rw [recvRound_flat hgo, Proc.bind_of_ok hrecv, Proc.modify_bind_apply]
    by_cases hchunk : chunk = []
    · rw [Proc.raiseIf_bind_of_pos hchunk]
      rfl
    · rw [Proc.raiseIf_bind_of_neg hchunk, Proc.pure_apply]
      exact ⟨hopen, hrest⟩

theorem recvnInto_calm_error {sock : Sock} {view : Bytes} {error : PyError} {after : Sock × Bytes}
    (hopen : sock.closed = false) (hquiet : Quiet sock.inbox)
    (h : recvnInto .flat (sock, view) = (.error error, after)) : error.kind = .nfcProtocolError := by
  have hloop := Proc.Triple.whileLoop (recvRound_decreasing .flat view.length)
    (fun filled hgo ↦ recvRound_calm (by simpa using hgo)) 0 (sock, view) ⟨hopen, hquiet⟩
  rw [recvnInto_flat] at h
  obtain hraised | ⟨last, middle, -, hpure⟩ := Proc.bind_eq_error.mp h
  · rw [hraised] at hloop
    exact hloop
  · cases hpure

theorem recvn_calm_error {size : ℕ} {sock after : Sock} {error : PyError}
    (hopen : sock.closed = false) (hquiet : Quiet sock.inbox)
    (h : recvn size sock = (.error error, after)) : error.kind = .nfcProtocolError := by
  rw [recvn_apply] at h
  rcases hrun : recvnInto .flat (sock, List.replicate size 0) with ⟨raised | ⟨⟨⟩⟩, last, filled⟩
  · rw [hrun] at h
    obtain rfl := Except.error.inj (Prod.mk.inj h).1
    exact recvnInto_calm_error hopen hquiet hrun
  · rw [hrun] at h
    cases h

section Receives

variable {relation : Sock → Sock → Prop}

/-- What every `recv_into` does to a socket, `recvnInto` does, whatever its view. -/
theorem moves_recvnInto_of (hrefl : ∀ sock, relation sock sock)
    (htrans : ∀ first middle last, relation first middle → relation middle last → relation first last)
    (hrecv : ∀ limit, Proc.Moves relation (Sock.recvInto limit)) (view : ByteView) :
    Proc.Moves (fun before after : Sock × Bytes ↦ relation before.1 after.1) (recvnInto view) := by
  have hsame : ∀ state : Sock × Bytes, relation state.1 state.1 := fun state ↦ hrefl state.1
  have hboth : ∀ first middle last : Sock × Bytes, relation first.1 middle.1 →
      relation middle.1 last.1 → relation first.1 last.1 := fun _ _ _ ↦ htrans _ _ _
  refine .bind hboth (.get hsame) fun state ↦ ?_
  refine .bind hboth (.whileLoop hsame hboth (fun filled ↦ ?_) 0) fun _ ↦ .pure hsame _
  refine .bind hboth (.raiseIf hsame _ _) fun _ ↦ .bind hboth ?_ fun chunk ↦ ?_
  · unfold recvSlice
    split_ifs
    · exact .pure hsame _
    · exact .zoom (fun _ _ hsock ↦ hsock) (hrecv _)
  · refine .bind hboth (.modify hsame) fun _ ↦ ?_
    exact .bind hboth (.raiseIf hsame _ _) fun _ ↦ .pure hsame _

/-- So does `recvn`. -/
theorem moves_recvn_of (hrefl : ∀ sock, relation sock sock)
    (htrans : ∀ first middle last, relation first middle → relation middle last → relation first last)
    (hrecv : ∀ limit, Proc.Moves relation (Sock.recvInto limit)) (size : ℕ) :
    Proc.Moves relation (recvn size) := by
  intro sock
  have hmoves := moves_recvnInto_of hrefl htrans hrecv .flat (sock, List.replicate size 0)
  rw [recvn_apply]
  rcases hrun : recvnInto .flat (sock, List.replicate size 0) with ⟨_ | ⟨⟨⟩⟩, after, bytes⟩ <;>
    rwa [hrun] at hmoves

end Receives

theorem took_refl (sock : Sock) : ∃ taken, sock.Took taken sock :=
  ⟨[], .refl sock⟩

theorem took_trans (first middle last : Sock) (hfirst : ∃ taken, first.Took taken middle)
    (hlast : ∃ taken, middle.Took taken last) : ∃ taken, first.Took taken last := by
  obtain ⟨before, hbefore⟩ := hfirst
  obtain ⟨behind, hbehind⟩ := hlast
  exact ⟨before ++ behind, hbefore.trans hbehind⟩

theorem moves_recvInto (limit : ℕ) :
    Proc.Moves (fun before after : Sock ↦ ∃ taken, before.Took taken after)
      (Sock.recvInto limit) := by
  intro sock
  rcases hrun : Sock.recvInto limit sock with ⟨error | chunk, after⟩
  · exact ⟨[], Sock.recv_error hrun⟩
  · exact ⟨chunk, (Sock.recv_ok hrun).2⟩

/-- Whatever its view and its outcome, `recvnInto` only receives. -/
theorem moves_recvnInto (view : ByteView) :
    Proc.Moves (fun before after : Sock × Bytes ↦ ∃ taken, before.1.Took taken after.1)
      (recvnInto view) :=
  moves_recvnInto_of took_refl took_trans moves_recvInto view

theorem moves_recvn (size : ℕ) :
    Proc.Moves (fun before after : Sock ↦ ∃ taken, before.Took taken after) (recvn size) :=
  moves_recvn_of took_refl took_trans moves_recvInto size

/-- What is left of one segment is one segment. -/
def Sock.Stays (before after : Sock) : Prop :=
  (∃ bytes, before.inbox = Arrival.segment bytes) → ∃ bytes, after.inbox = Arrival.segment bytes

theorem stays_recvInto (limit : ℕ) : Proc.Moves Sock.Stays (Sock.recvInto limit) := by
  rintro sock ⟨bytes, hinbox⟩
  unfold Sock.recvInto
  split_ifs with hclosed
  · exact ⟨bytes, hinbox⟩
  · rw [hinbox, receive_segment]
    exact ⟨bytes.drop limit, rfl⟩

theorem stays_recvn (size : ℕ) : Proc.Moves Sock.Stays (recvn size) :=
  @moves_recvn_of Sock.Stays (fun _ ↦ id) (fun _ _ _ hfirst hlast ↦ hlast ∘ hfirst) stays_recvInto size

/-- Receiving nothing is no receive at all, so the test for an empty size changes nothing. -/
theorem recvnIfAny_eq (size : ℕ) : recvnIfAny size = recvn size := by
  unfold recvnIfAny
  split_ifs with hsize
  · subst hsize
    rfl
  · rfl

end OpenVixDiskLib
