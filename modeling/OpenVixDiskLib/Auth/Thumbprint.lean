import OpenVixDiskLib.Base.LittleEndian
import OpenVixDiskLib.Base.Splice
import OpenVixDiskLib.Text

/-!
# Certificate thumbprints

`_sha1_thumbprint` and `_normalize_thumbprint` of `nfc_auth.py`, over `hashlib.sha1` as FIPS 180 defines
it and `str.upper`. A ticket spells the thumbprint of the host's certificate in hexadecimal, with colons
or spaces between the bytes and in either case; two thumbprints of digests are the same once normalized
only if the digests are (`normalizeThumbprint_format_inj`).

What `str.upper` makes of a character that is not ASCII is left to a parameter `special`, the case
table of Unicode.
-/

set_option autoImplicit false
set_option relaxedAutoImplicit false

namespace OpenVixDiskLib

/-! ### SHA-1 -/

/-- The five words of the hash state. -/
structure Sha1State where
  a : UInt32
  b : UInt32
  c : UInt32
  d : UInt32
  e : UInt32

namespace Sha1State

/-- The state before the first block. -/
def start : Sha1State :=
  ⟨0x67452301, 0xEFCDAB89, 0x98BADCFE, 0x10325476, 0xC3D2E1F0⟩

def rotateLeft (count word : UInt32) : UInt32 :=
  (word <<< count) ||| (word >>> (32 - count))

/-- The function and the constant of a round. -/
def mix (round : ℕ) (b c d : UInt32) : UInt32 :=
  if round < 20 then ((b &&& c) ||| (~~~b &&& d)) + 0x5A827999
  else if round < 40 then (b ^^^ c ^^^ d) + 0x6ED9EBA1
  else if round < 60 then ((b &&& c) ||| (b &&& d) ||| (c &&& d)) + 0x8F1BBCDC
  else (b ^^^ c ^^^ d) + 0xCA62C1D6

/-- One round, with its word of the schedule. -/
def step (state : Sha1State) (word : UInt32 × ℕ) : Sha1State where
  a := rotateLeft 5 state.a + mix word.2 state.b state.c state.d + state.e + word.1
  b := state.a
  c := rotateLeft 30 state.b
  d := state.c
  e := state.d

def add (first second : Sha1State) : Sha1State :=
  ⟨first.a + second.a, first.b + second.b, first.c + second.c, first.d + second.d,
    first.e + second.e⟩

/-- The bytes of a word, the highest first. -/
def wordBytes (word : UInt32) : Bytes :=
  [(word >>> 24).toUInt8, (word >>> 16).toUInt8, (word >>> 8).toUInt8, word.toUInt8]

def digest (state : Sha1State) : Bytes :=
  [state.a, state.b, state.c, state.d, state.e].flatMap wordBytes

end Sha1State

/-- The sixteen words of a block. -/
def sha1Words (block : Bytes) : List UInt32 :=
  (List.range 16).map fun index ↦
    ((block.slice (4 * index) 4).foldl (fun word byte ↦ (word <<< 8) ||| byte.toUInt32) 0)

/-- The schedule, the newest word first: each further word is made of the third, eighth, fourteenth and
sixteenth newest. -/
def sha1Schedule (block : Bytes) : List UInt32 :=
  (List.range 64).foldl (fun words _ ↦
    Sha1State.rotateLeft 1 (words.getD 2 0 ^^^ words.getD 7 0 ^^^ words.getD 13 0 ^^^
      words.getD 15 0) :: words) (sha1Words block).reverse

/-- The message, a set bit, zeros to a whole number of blocks, and the length in bits. -/
def sha1Pad (message : Bytes) : Bytes :=
  message ++ 0x80 :: List.replicate ((119 - message.length % 64) % 64) 0 ++
    (LittleEndian.encode 8 (8 * message.length)).reverse

/-- `hashlib.sha1(message).digest()`. -/
def sha1 (message : Bytes) : Bytes :=
  let padded := sha1Pad message
  ((List.range (padded.length / 64)).foldl (fun state block ↦
    state.add ((sha1Schedule (padded.slice (64 * block) 64)).reverse.zipIdx.foldl Sha1State.step state))
    Sha1State.start).digest

example : hexBytes (sha1 (asciiBytes "abc")) = "a9993e364706816aba3e25717850c26c9cd0d89d" := by
  decide +kernel

/-! ### Spelling -/

/-- A digit of the format `X`. -/
def upperHexDigit (value : ℕ) : Char :=
  (Nat.digitChar value).toUpper

/-- A byte in the format `02X`. -/
def upperHex (byte : UInt8) : List Char :=
  [upperHexDigit (byte.toNat / 16), upperHexDigit (byte.toNat % 16)]

/-- `_format_thumbprint`. -/
def formatThumbprint (digest : Bytes) : String :=
  String.ofList ([':'].intercalate (digest.map upperHex))

/-- `_sha1_thumbprint`. -/
def sha1Thumbprint (derCert : Bytes) : String :=
  formatThumbprint (sha1 derCert)

/-- `text.replace(char, "")`. -/
def removeChar (char : Char) (text : String) : String :=
  String.ofList (text.toList.filter (· ≠ char))

/-- `text.upper()`. -/
def upperText (special : Char → List Char) (text : String) : String :=
  String.ofList (text.toList.flatMap fun char ↦
    if char.toNat < 128 then [char.toUpper] else special char)

/-- `_normalize_thumbprint`. -/
def normalizeThumbprint (special : Char → List Char) (thumbprint : String) : String :=
  upperText special (removeChar ' ' (removeChar ':' thumbprint))

theorem upperHexDigit_ne {value : ℕ} (hvalue : value < 16) :
    upperHexDigit value ≠ ':' ∧ upperHexDigit value ≠ ' ' ∧ (upperHexDigit value).toNat < 128 ∧
      (upperHexDigit value).toUpper = upperHexDigit value := by
  revert value
  decide

theorem upperHexDigit_inj {first second : ℕ} (hfirst : first < 16) (hsecond : second < 16)
    (h : upperHexDigit first = upperHexDigit second) : first = second := by
  have hdigits : ∀ first < 16, ∀ second < 16,
      upperHexDigit first = upperHexDigit second → first = second := by
    decide
  exact hdigits first hfirst second hsecond h

/-- A byte's digits are ASCII, in upper case, and neither colons nor spaces. -/
theorem mem_upperHex {char : Char} {byte : UInt8} (hchar : char ∈ upperHex byte) :
    char ≠ ':' ∧ char ≠ ' ' ∧ char.toNat < 128 ∧ char.toUpper = char := by
  have hbyte := byte.toNat_lt
  rw [upperHex, List.mem_cons, List.mem_singleton] at hchar
  obtain rfl | rfl := hchar
  · exact upperHexDigit_ne (by omega)
  · exact upperHexDigit_ne (by omega)

theorem upperHex_inj {first second : UInt8} (h : upperHex first = upperHex second) :
    first = second := by
  have hfirst := first.toNat_lt
  have hsecond := second.toNat_lt
  rw [upperHex, upperHex, List.cons.injEq, List.cons.injEq] at h
  have hhigh := upperHexDigit_inj (by omega) (by omega) h.1
  have hlow := upperHexDigit_inj (by omega) (by omega) h.2.1
  refine UInt8.toNat_inj.mp ?_
  omega

/-- The digits of bytes determine the bytes. -/
theorem flatMap_upperHex_inj : ∀ {first second : Bytes},
    first.flatMap upperHex = second.flatMap upperHex → first = second
  | [], [], _ => rfl
  | [], byte :: rest, h => by cases h
  | byte :: rest, [], h => by cases h
  | byte :: rest, byte' :: rest', h => by
    rw [List.flatMap_cons, List.flatMap_cons] at h
    obtain ⟨hhead, htail⟩ := List.append_inj h rfl
    rw [upperHex_inj hhead, flatMap_upperHex_inj htail]

/-- Removing the separator joins the parts. -/
theorem filter_intercalate {separator : Char} : ∀ {parts : List (List Char)},
    (∀ part ∈ parts, ∀ char ∈ part, char ≠ separator) →
    ([separator].intercalate parts).filter (· ≠ separator) = parts.flatten
  | [], _ => rfl
  | [part], hparts => by
    have hpart := hparts part List.mem_cons_self
    simpa [List.intercalate] using hpart
  | part :: next :: rest, hparts => by
    have hpart : part.filter (· ≠ separator) = part :=
      List.filter_eq_self.mpr fun char hchar ↦ by
        simpa using hparts part List.mem_cons_self char hchar
    have hrest := filter_intercalate fun other hother ↦ hparts other (List.mem_cons_of_mem _ hother)
    rw [List.intercalate_cons_cons, List.filter_append, List.filter_append, hpart, hrest,
      List.filter_singleton, List.flatten_cons]
    simp

/-- The thumbprint of a digest is normalized to its digits. -/
theorem normalizeThumbprint_format (special : Char → List Char) (digest : Bytes) :
    normalizeThumbprint special (formatThumbprint digest) =
      String.ofList (digest.flatMap upperHex) := by
  have hdigits : ∀ char ∈ digest.flatMap upperHex,
      char ≠ ':' ∧ char ≠ ' ' ∧ char.toNat < 128 ∧ char.toUpper = char := by
    intro char hchar
    obtain ⟨byte, -, hmem⟩ := List.mem_flatMap.mp hchar
    exact mem_upperHex hmem
  have hcolons : removeChar ':' (formatThumbprint digest) =
      String.ofList (digest.flatMap upperHex) := by
    rw [removeChar, formatThumbprint, String.toList_ofList, filter_intercalate, List.flatMap_def]
    intro part hpart char hchar
    obtain ⟨byte, -, rfl⟩ := List.mem_map.mp hpart
    exact (mem_upperHex hchar).1
  have hspaces : removeChar ' ' (String.ofList (digest.flatMap upperHex)) =
      String.ofList (digest.flatMap upperHex) := by
    rw [removeChar, String.toList_ofList, List.filter_eq_self.mpr]
    intro char hchar
    simpa using (hdigits char hchar).2.1
  rw [normalizeThumbprint, hcolons, hspaces, upperText, String.toList_ofList]
  congr 1
  calc (digest.flatMap upperHex).flatMap
        (fun char ↦ if char.toNat < 128 then [char.toUpper] else special char)
      = (digest.flatMap upperHex).flatMap (fun char ↦ [char]) := by
        refine List.flatMap_congr fun char hchar ↦ ?_
        rw [if_pos (hdigits char hchar).2.2.1, (hdigits char hchar).2.2.2]
    _ = digest.flatMap upperHex := List.flatMap_singleton' _

/-- Two digests whose thumbprints are the same once normalized are the same. -/
theorem normalizeThumbprint_format_inj {special : Char → List Char} {first second : Bytes} :
    normalizeThumbprint special (formatThumbprint first) =
      normalizeThumbprint special (formatThumbprint second) ↔ first = second := by
  constructor
  · intro h
    rw [normalizeThumbprint_format, normalizeThumbprint_format, String.ofList_inj] at h
    exact flatMap_upperHex_inj h
  · rintro rfl
    rfl

end OpenVixDiskLib
