import Mathlib.Data.Nat.Basic
import Mathlib.Tactic.Ring

/-!
# Little-endian fields

A natural number below `256 ^ width` as `width` bytes, least significant first, and back. The two
maps are inverse on numbers that fit (`decode_encode`) and on byte lists (`encode_decode`), so an
encoding determines its number (`encode_injOn`).
-/

set_option autoImplicit false
set_option relaxedAutoImplicit false

namespace LittleEndian

/-- The `width` low bytes of a number, least significant first. -/
def encode : ℕ → ℕ → List UInt8
  | 0, _ => []
  | width + 1, value => UInt8.ofNat (value % 256) :: encode width (value / 256)

/-- The number with the given bytes, least significant first. -/
def decode : List UInt8 → ℕ
  | [] => 0
  | byte :: bytes => byte.toNat + 256 * decode bytes

@[simp] theorem length_encode (width value : ℕ) : (encode width value).length = width := by
  induction width generalizing value with
  | zero => rfl
  | succ width ih => simp only [encode, List.length_cons, ih]

/-- A wide field is its low half followed by its high half. -/
theorem encode_add (low high value : ℕ) :
    encode (low + high) value = encode low value ++ encode high (value / 256 ^ low) := by
  induction low generalizing value with
  | zero => simp [encode]
  | succ low ih =>
    rw [Nat.succ_add, encode, encode, ih, List.cons_append, Nat.div_div_eq_div_mul, ← pow_succ']

theorem decode_encode {width value : ℕ} (hfits : value < 256 ^ width) :
    decode (encode width value) = value := by
  induction width generalizing value with
  | zero =>
    rw [pow_zero] at hfits
    simp only [encode, decode]
    omega
  | succ width ih =>
    have hhigh : value / 256 < 256 ^ width := by
      rw [pow_succ] at hfits
      exact Nat.div_lt_of_lt_mul (by omega)
    have hlow : (UInt8.ofNat (value % 256)).toNat = value % 256 := by
      rw [UInt8.toNat_ofNat']
      omega
    simp only [encode, decode, ih hhigh, hlow]
    omega

theorem decode_lt (bytes : List UInt8) : decode bytes < 256 ^ bytes.length := by
  induction bytes with
  | nil => simp [decode]
  | cons byte bytes ih =>
    have hbyte : byte.toNat < 256 := byte.toNat_lt
    rw [decode, List.length_cons, pow_succ]
    omega

theorem encode_decode (bytes : List UInt8) : encode bytes.length (decode bytes) = bytes := by
  induction bytes with
  | nil => rfl
  | cons byte bytes ih =>
    have hbyte : byte.toNat < 256 := byte.toNat_lt
    have hlow : (byte.toNat + 256 * decode bytes) % 256 = byte.toNat := by omega
    have hhigh : (byte.toNat + 256 * decode bytes) / 256 = decode bytes := by omega
    simp only [List.length_cons, decode, encode, hlow, hhigh, ih, UInt8.ofNat_toNat]

/-- Two numbers that fit and have the same encoding are equal. -/
theorem encode_injOn {width first second : ℕ} (hfirst : first < 256 ^ width)
    (hsecond : second < 256 ^ width) (hencode : encode width first = encode width second) :
    first = second := by
  rw [← decode_encode hfirst, hencode, decode_encode hsecond]

end LittleEndian
