import Mathlib.Data.List.DropRight
import OpenVixDiskLib.Socket
import OpenVixDiskLib.Text

/-!
# Lines from authd

`_readline` receives one byte at a time up to a line feed, and at most 4096 of them. It returns exactly
when the stream starts with such a line (`IsLine`), and then it has taken the line and nothing behind it
(`readline_ok`, `readline_of_line`). Decoding the line and stripping its end does not change whether it
starts with a code (`startsWith_lineText`).
-/

set_option autoImplicit false
set_option relaxedAutoImplicit false

namespace OpenVixDiskLib

/-! ### Decoding -/

/-- `buf.decode("ascii", "replace")`. -/
def decodeAscii (buf : Bytes) : String :=
  String.ofList (buf.map fun byte ↦ Char.ofNat (if byte.toNat < 128 then byte.toNat else 0xFFFD))

/-- The characters that `rstrip("\r\n")` strips. -/
def isNewline (char : Char) : Bool :=
  char = '\r' ∨ char = '\n'

/-- `text.rstrip("\r\n")`. -/
def rstripNewlines (text : String) : String :=
  String.ofList (text.toList.rdropWhile isNewline)

/-- `text.startswith(code)`. -/
def startsWith (text code : String) : Bool :=
  code.toList.isPrefixOf text.toList

/-! ### The loop -/

/-- One round of `_readline`. -/
def readlineRound (buf : Bytes) : Py Sock Bytes := do
  let chunk ← Sock.recv 1
  Proc.raiseIf (chunk = []) (connectionError "authd connection closed")
  Proc.raiseIf (4096 < (buf ++ chunk).length) (connectionError "oversized authd response")
  pure (buf ++ chunk)

/-- `while not buf.endswith(b"\n")`. -/
def readlineLoop : Bytes → Py Sock Bytes :=
  Proc.whileLoop (fun buf ↦ decide (buf.getLast? ≠ some 10)) readlineRound
    fun buf ↦ 4097 - buf.length + 1

/-- The text of a received line. -/
def lineText (buf : Bytes) : String :=
  rstripNewlines (decodeAscii buf)

/-- `_readline`. -/
def readline : Py Sock String := do
  let buf ← readlineLoop []
  pure (lineText buf)

/-- A line: its only line feed is its last byte, and it has at most 4096 bytes. -/
def IsLine (line : Bytes) : Prop :=
  ∃ text, line = text ++ [10] ∧ 10 ∉ text ∧ line.length ≤ 4096

/-- What a round that returns has done. -/
theorem readlineRound_ok {buf next : Bytes} {sock after : Sock}
    (h : readlineRound buf sock = (.ok next, after)) :
    ∃ byte, next = buf ++ [byte] ∧ next.length ≤ 4096 ∧ sock.Took [byte] after := by
  unfold readlineRound at h
  rw [Proc.bind_eq_ok] at h
  obtain ⟨chunk, middle, hrecv, h⟩ := h
  obtain ⟨hlength, htook⟩ := Sock.recv_ok hrecv
  rw [Proc.raiseIf_bind_eq_ok, Proc.raiseIf_bind_eq_ok, Proc.pure_apply] at h
  obtain ⟨hchunk, hshort, h⟩ := h
  obtain ⟨hnext, rfl⟩ := Prod.mk.inj h
  obtain rfl := Except.ok.inj hnext
  rcases chunk with _ | ⟨byte, _ | ⟨second, more⟩⟩
  · exact absurd rfl hchunk
  · exact ⟨byte, rfl, not_lt.mp hshort, htook⟩
  · simp at hlength

/-- A round takes nothing or the bytes it received. -/
theorem readlineRound_error {buf : Bytes} {sock after : Sock} {error : PyError}
    (h : readlineRound buf sock = (.error error, after)) : ∃ taken, sock.Took taken after := by
  unfold readlineRound at h
  rw [Proc.bind_eq_error] at h
  obtain hrecv | ⟨chunk, middle, hrecv, h⟩ := h
  · exact ⟨[], Sock.recv_error hrecv⟩
  · obtain ⟨-, htook⟩ := Sock.recv_ok hrecv
    refine ⟨chunk, ?_⟩
    rw [Proc.raiseIf_bind_eq_error, Proc.raiseIf_bind_eq_error, Proc.pure_apply] at h
    obtain ⟨-, -, rfl⟩ | ⟨-, ⟨-, -, rfl⟩ | ⟨-, h⟩⟩ := h
    · exact htook
    · exact htook
    · cases h

theorem readlineRound_of_holds {buf rest : Bytes} {byte : UInt8} {sock : Sock}
    (hroom : buf.length < 4096) (hholds : sock.Holds (byte :: rest)) :
    ∃ after, readlineRound buf sock = (.ok (buf ++ [byte]), after) ∧ sock.Took [byte] after := by
  obtain ⟨after, hrecv, htook⟩ := Sock.recv_of_holds hholds
  refine ⟨after, ?_, htook⟩
  rw [readlineRound, Proc.bind_of_ok hrecv, Proc.raiseIf_bind_of_neg (List.cons_ne_nil _ _),
    Proc.raiseIf_bind_of_neg]
  · rfl
  · rw [List.length_append, List.length_singleton]
    omega

theorem readlineRound_decreasing :
    Proc.Decreasing (fun buf : Bytes ↦ decide (buf.getLast? ≠ some 10)) readlineRound
      (fun buf ↦ 4097 - buf.length + 1) where
  pos _ _ := Nat.succ_pos _
  lt buf sock next after _ hround := by
    obtain ⟨byte, rfl, hshort, -⟩ := readlineRound_ok hround
    rw [List.length_append, List.length_singleton] at hshort ⊢
    omega

/-! ### Lines -/

/-- A line that is returned has been taken from the head of the stream. -/
theorem readline_ok {sock after : Sock} {text : String} (h : readline sock = (.ok text, after)) :
    ∃ line, IsLine line ∧ sock.Took line after ∧ text = lineText line := by
  -- The bytes `more` that the loop adds to `buf` end with the first line feed.
  have hloop := Proc.whileLoop_induction readlineRound_decreasing
    (fun buf sock last after ↦ ∃ more, last = buf ++ more ∧ sock.Took more after ∧
      last.getLast? = some 10 ∧ (buf.getLast? = some 10 → more = []) ∧ 10 ∉ more.dropLast ∧
      (more ≠ [] → last.length ≤ 4096)) ?_ ?_
  · rw [readline, Proc.bind_eq_ok] at h
    obtain ⟨buf, middle, hbuf, h⟩ := h
    obtain ⟨hvalue, rfl⟩ := Prod.mk.inj h
    obtain ⟨more, hlast, htook, hend, -, hfirst, hshort⟩ := hloop [] sock buf middle hbuf
    rw [List.nil_append] at hlast
    subst hlast
    obtain ⟨front, hfront⟩ := List.getLast?_eq_some_iff.mp hend
    refine ⟨buf, ⟨front, hfront, ?_, hshort ?_⟩, htook, (Except.ok.inj hvalue).symm⟩
    · rwa [hfront, List.dropLast_concat] at hfirst
    · rw [hfront]
      exact List.append_ne_nil_of_right_ne_nil _ (List.cons_ne_nil _ _)
  · intro buf sock hstop
    have hend : buf.getLast? = some 10 := by simpa using hstop
    exact ⟨[], (List.append_nil _).symm, .refl sock, hend, fun _ ↦ rfl, List.not_mem_nil,
      fun hne ↦ absurd rfl hne⟩
  · rintro buf sock next after last final hgo hround ⟨more, hlast, htook, hend, hstop, hfirst, hshort⟩
    obtain ⟨byte, rfl, hlength, htook'⟩ := readlineRound_ok hround
    refine ⟨byte :: more, by rw [hlast, List.append_assoc, List.singleton_append],
      htook'.trans htook, hend, fun hdone ↦ ?_, ?_, fun _ ↦ ?_⟩
    · rw [hdone] at hgo
      cases hgo
    · rcases more with _ | ⟨second, more⟩
      · exact List.not_mem_nil
      · rw [List.dropLast_cons_cons, List.mem_cons, not_or]
        refine ⟨?_, hfirst⟩
        rintro rfl
        cases hstop (by rw [List.getLast?_concat])
    · by_cases hmore : more = []
      · rw [hlast, hmore, List.append_nil]
        exact hlength
      · exact hshort hmore

/-- A stream that starts with a line gives the line. -/
theorem readline_of_line {sock : Sock} {line rest : Bytes} (hline : IsLine line)
    (hholds : sock.Holds (line ++ rest)) :
    ∃ after, readline sock = (.ok (lineText line), after) ∧ sock.Took line after := by
  obtain ⟨text, rfl, hfirst, hshort⟩ := hline
  suffices hloop : ∀ (text buf : Bytes) (sock : Sock), 10 ∉ text → buf.getLast? ≠ some 10 →
      (buf ++ (text ++ [10])).length ≤ 4096 → sock.Holds (text ++ [10] ++ rest) →
      ∃ after, readlineLoop buf sock = (.ok (buf ++ (text ++ [10])), after) ∧
        sock.Took (text ++ [10]) after by
    obtain ⟨after, hrun, htook⟩ := hloop text [] sock hfirst (by simp) (by simpa using hshort) hholds
    refine ⟨after, ?_, htook⟩
    rw [readline, Proc.bind_of_ok hrun]
    rfl
  intro text
  induction text with
  | nil =>
    intro buf sock _ hgo hlength hholds
    obtain ⟨after, hround, htook⟩ := readlineRound_of_holds (Nat.lt_of_succ_le (by simpa using hlength)) hholds
    refine ⟨after, ?_, htook⟩
    rw [readlineLoop, Proc.whileLoop_unfold readlineRound_decreasing, if_pos (by simpa using hgo),
      Proc.bind_of_ok hround, Proc.whileLoop_unfold readlineRound_decreasing, if_neg (by simp)]
    rfl
  | cons byte text ih =>
    intro buf sock hfirst hgo hlength hholds
    rw [List.mem_cons, not_or] at hfirst
    obtain ⟨middle, hround, htook⟩ := readlineRound_of_holds
      (show buf.length < 4096 by
        rw [List.length_append, List.length_append, List.length_cons] at hlength
        omega) hholds
    obtain ⟨after, hrun, htook'⟩ := ih (buf ++ [byte]) middle hfirst.2
      (by rw [List.getLast?_concat, ne_eq, Option.some.injEq]; exact fun h ↦ hfirst.1 h.symm)
      (by simpa using hlength) (htook.holds hholds)
    refine ⟨after, ?_, htook.trans htook'⟩
    rw [readlineLoop, Proc.whileLoop_unfold readlineRound_decreasing, if_pos (by simpa using hgo),
      Proc.bind_of_ok hround]
    rw [List.append_assoc, List.singleton_append] at hrun
    exact hrun

/-- A `readline` only receives, whatever its outcome. -/
theorem readline_took (sock : Sock) : ∃ taken, sock.Took taken (readline sock).2 := by
  have hloop := Proc.whileLoop_outcome readlineRound_decreasing
    (fun _ sock _ after ↦ ∃ taken, sock.Took taken after) (fun _ sock _ ↦ ⟨[], .refl sock⟩)
    (fun _ _ _ _ _ hround ↦ readlineRound_error hround)
    (fun _ _ _ _ _ _ _ hround ⟨more, hmore⟩ ↦ by
      obtain ⟨byte, -, -, htook⟩ := readlineRound_ok hround
      exact ⟨[byte] ++ more, htook.trans hmore⟩) [] sock
  change ∃ taken, sock.Took taken (readlineLoop [] sock).2 at hloop
  rw [readline]
  rcases hrun : readlineLoop [] sock with ⟨error | buf, after⟩
  all_goals rw [hrun] at hloop
  · rw [Proc.bind_of_error hrun]
    exact hloop
  · rw [Proc.bind_of_ok hrun]
    exact hloop

/-! ### Codes -/

/-- Stripping characters that a code does not have leaves whether a text starts with the code. -/
theorem isPrefix_rdropWhile {α : Type} {p : α → Bool} {code text : List α}
    (hcode : ∀ x ∈ code, p x = false) : code <+: text.rdropWhile p ↔ code <+: text := by
  constructor
  · exact fun h ↦ h.trans (List.rdropWhile_prefix p _)
  · rintro ⟨rest, rfl⟩
    rw [List.rdropWhile, List.reverse_append, List.dropWhile_append]
    split_ifs with hempty
    · have hself : code.reverse.dropWhile p = code.reverse := by
        rw [List.dropWhile_eq_self_iff]
        intro hlength
        rw [hcode _ (List.mem_reverse.mp (List.getElem_mem _))]
        exact Bool.false_ne_true
      rw [hself]
      exact (List.reverse_reverse code).symm ▸ List.prefix_rfl
    · rw [List.reverse_append, List.reverse_reverse]
      exact List.prefix_append _ _

/-- A decoded byte is an ASCII character exactly when it is the byte of the character. -/
theorem decodeAscii_char {byte : UInt8} {char : Char} (hchar : char.toNat < 128) :
    Char.ofNat (if byte.toNat < 128 then byte.toNat else 0xFFFD) = char ↔
      byte = UInt8.ofNat char.toNat := by
  constructor
  · rintro rfl
    have hround : ∀ value < 128, (Char.ofNat value).toNat = value := by
      decide
    by_cases hbyte : byte.toNat < 128
    · rw [if_pos hbyte, hround _ hbyte, UInt8.ofNat_toNat]
    · rw [if_neg hbyte] at hchar
      exact absurd hchar (by decide)
  · rintro rfl
    rw [UInt8.toNat_ofNat', Nat.mod_eq_of_lt (by omega), if_pos hchar, Char.ofNat_toNat]

/-- The text of a line starts with a code exactly when its bytes do. -/
theorem startsWith_lineText {line : Bytes} {code : String} (hascii : IsAscii code)
    (hcode : ∀ char ∈ code.toList, isNewline char = false) :
    startsWith (lineText line) code = true ↔ asciiBytes code <+: line := by
  rw [startsWith, lineText, rstripNewlines, String.toList_ofList, List.isPrefixOf_iff_prefix,
    isPrefix_rdropWhile hcode, decodeAscii, String.toList_ofList, asciiBytes]
  unfold IsAscii at hascii
  generalize code.toList = chars at hascii
  clear hcode
  induction chars generalizing line with
  | nil => simp
  | cons char chars ih =>
    rw [List.forall_mem_cons] at hascii
    rcases line with _ | ⟨byte, line⟩
    · simp
    · rw [List.map_cons, List.map_cons, List.cons_prefix_cons, List.cons_prefix_cons, ih hascii.2,
        eq_comm, decodeAscii_char hascii.1, eq_comm]

end OpenVixDiskLib
