import OpenVixDiskLib.Errors

/-!
# Strings on the wire

`str.encode` and `bytes.ljust`. A `String` is a sequence of Unicode scalar values, so it has a UTF-8
encoding; `encodeAscii` raises on a character that is not ASCII.
-/

set_option autoImplicit false
set_option relaxedAutoImplicit false

namespace OpenVixDiskLib

/-- Every character is ASCII. -/
def IsAscii (text : String) : Prop :=
  ∀ char ∈ text.toList, char.toNat < 128

instance (text : String) : Decidable (IsAscii text) :=
  List.decidableBAll (fun char : Char ↦ char.toNat < 128) text.toList

/-- The bytes of an ASCII string. -/
def asciiBytes (text : String) : Bytes :=
  text.toList.map fun char ↦ UInt8.ofNat char.toNat

/-- `text.encode("ascii")`. -/
def encodeAscii (text : String) : Except PyError Bytes :=
  if IsAscii text then .ok (asciiBytes text)
  else .error ⟨.unicodeEncodeError, "'ascii' codec can't encode characters"⟩

/-- `text.encode("utf-8")`. -/
def encodeUtf8 (text : String) : Bytes :=
  text.toList.flatMap String.utf8EncodeChar

/-- `bytes.ljust(width, b"\x00")`. -/
def ljust (width : ℕ) (bytes : Bytes) : Bytes :=
  bytes ++ List.replicate (width - bytes.length) 0

/-- The code points of controls, formats, private use and separators, apart from the ASCII space. -/
def unprintableRanges : List (ℕ × ℕ) :=
  [(0x0, 0x1f), (0x7f, 0xa0), (0xad, 0xad), (0x600, 0x605), (0x61c, 0x61c), (0x6dd, 0x6dd), (0x70f, 0x70f),
    (0x890, 0x891), (0x8e2, 0x8e2), (0x1680, 0x1680), (0x180e, 0x180e), (0x2000, 0x200f),
    (0x2028, 0x202f), (0x205f, 0x2064), (0x2066, 0x206f), (0x3000, 0x3000), (0xe000, 0xf8ff),
    (0xfeff, 0xfeff), (0xfff9, 0xfffb), (0x110bd, 0x110bd), (0x110cd, 0x110cd), (0x13430, 0x13438),
    (0x1bca0, 0x1bca3), (0x1d173, 0x1d17a), (0xe0001, 0xe0001), (0xe0020, 0xe007f), (0xf0000, 0xffffd),
    (0x100000, 0x10fffd)]

/-- `char.isprintable()`, with code points that Unicode has not assigned taken to be printable. -/
def isPrintable (char : Char) : Bool :=
  unprintableRanges.all fun range ↦ char.toNat < range.1 ∨ range.2 < char.toNat

/-- How `repr` writes a character of a string in these quotes. -/
def reprChar (quote char : Char) : String :=
  if char = quote ∨ char = '\\' then String.ofList ['\\', char]
  else if char = '\n' then "\\n"
  else if char = '\r' then "\\r"
  else if char = '\t' then "\\t"
  else if isPrintable char then String.ofList [char]
  else if char.toNat < 0x100 then "\\x" ++ hexBytes [UInt8.ofNat char.toNat]
  else if char.toNat < 0x10000 then
    "\\u" ++ hexBytes [UInt8.ofNat (char.toNat / 0x100), UInt8.ofNat char.toNat]
  else "\\U00" ++ hexBytes [UInt8.ofNat (char.toNat / 0x10000), UInt8.ofNat (char.toNat / 0x100),
    UInt8.ofNat char.toNat]

/-- `repr(text)`: single quotes, unless the text has single quotes and no double ones. -/
def reprText (text : String) : String :=
  let quote := if '\'' ∈ text.toList ∧ '"' ∉ text.toList then '"' else '\''
  String.ofList [quote] ++ String.join (text.toList.map (reprChar quote)) ++ String.ofList [quote]

-- A no-break space, a line separator and a language tag are escaped, a letter is not.
example : reprText (String.ofList [Char.ofNat 0xa0, Char.ofNat 0x2028, Char.ofNat 0xe0001, Char.ofNat 0xe9]) =
    "'\\xa0\\u2028\\U000e0001" ++ String.ofList [Char.ofNat 0xe9] ++ "'" := by
  decide +kernel

theorem encodeAscii_of_isAscii {text : String} (hascii : IsAscii text) :
    encodeAscii text = .ok (asciiBytes text) :=
  if_pos hascii

theorem length_ljust {width : ℕ} {bytes : Bytes} (hfits : bytes.length ≤ width) :
    (ljust width bytes).length = width := by
  rw [ljust, List.length_append, List.length_replicate]
  omega

end OpenVixDiskLib
