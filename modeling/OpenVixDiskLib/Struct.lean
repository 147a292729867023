import OpenVixDiskLib.Base.LittleEndian
import OpenVixDiskLib.Errors

/-!
# `struct.pack` and `struct.unpack_from`

The formats of the client are little-endian sequences of `I` (four bytes) and `Q` (eight bytes).
Packing a value that is negative or too large for its field, and unpacking past the end of the
buffer, raise `struct.error`.
-/

set_option autoImplicit false
set_option relaxedAutoImplicit false

namespace OpenVixDiskLib

/-- One field of a format, with the value packed into it. -/
inductive Field
  | I (value : ℤ)
  | Q (value : ℤ)
deriving DecidableEq, Repr

namespace Field

def width : Field → ℕ
  | I _ => 4
  | Q _ => 8

def value : Field → ℤ
  | I value => value
  | Q value => value

/-- The value is one the field can hold. -/
def Fits (field : Field) : Prop :=
  0 ≤ field.value ∧ field.value.toNat < 256 ^ field.width

instance (field : Field) : Decidable field.Fits :=
  inferInstanceAs (Decidable (_ ∧ _))

/-- The bytes of a field that fits. -/
def bytes (field : Field) : Bytes :=
  LittleEndian.encode field.width field.value.toNat

theorem fits_I {value : ℕ} : (I value).Fits ↔ value < 2 ^ 32 := by
  simp only [Fits, Field.value, width]
  omega

theorem fits_Q {value : ℕ} : (Q value).Fits ↔ value < 2 ^ 64 := by
  simp only [Fits, Field.value, width]
  omega

theorem fits_Q_int {value : ℤ} : (Q value).Fits ↔ 0 ≤ value ∧ value < 2 ^ 64 := by
  simp only [Fits, Field.value, width]
  omega

theorem fits_I_zero : (I 0).Fits := by
  decide

@[simp] theorem length_bytes (field : Field) : field.bytes.length = field.width :=
  LittleEndian.length_encode _ _

end Field

def structError (message : String) : PyError :=
  ⟨.structError, message⟩

/-- `struct.pack`. -/
def pack (fields : List Field) : Except PyError Bytes :=
  if ∀ field ∈ fields, field.Fits then .ok (fields.flatMap Field.bytes)
  else .error (structError "argument out of range")

/-- `struct.unpack_from` of one field of `width` bytes at `offset`. -/
def unpackField (width : ℕ) (buffer : Bytes) (offset : ℕ) : Except PyError ℕ :=
  if offset + width ≤ buffer.length then
    .ok (LittleEndian.decode ((buffer.drop offset).take width))
  else .error (structError s!"unpack_from requires a buffer of at least {offset + width} bytes")

/-- `struct.unpack_from("<I", buffer, offset)[0]`. -/
def unpackI (buffer : Bytes) (offset : ℕ) : Except PyError ℕ :=
  unpackField 4 buffer offset

/-- `struct.unpack_from("<Q", buffer, offset)[0]`. -/
def unpackQ (buffer : Bytes) (offset : ℕ) : Except PyError ℕ :=
  unpackField 8 buffer offset

theorem pack_of_fits {fields : List Field} (hfits : ∀ field ∈ fields, field.Fits) :
    pack fields = .ok (fields.flatMap Field.bytes) := by
  rw [pack, if_pos hfits]

theorem pack_eq_ok {fields : List Field} {bytes : Bytes} :
    pack fields = .ok bytes ↔
      (∀ field ∈ fields, field.Fits) ∧ bytes = fields.flatMap Field.bytes := by
  unfold pack
  split_ifs with hfits
  · rw [Except.ok.injEq]
    exact ⟨fun h ↦ ⟨hfits, h.symm⟩, fun h ↦ h.2.symm⟩
  · simp [hfits]

theorem unpackField_eq_ok {width offset value : ℕ} {buffer : Bytes} :
    unpackField width buffer offset = .ok value ↔
      offset + width ≤ buffer.length ∧
        value = LittleEndian.decode ((buffer.drop offset).take width) := by
  unfold unpackField
  split_ifs with hfits
  · rw [Except.ok.injEq]
    exact ⟨fun h ↦ ⟨hfits, h.symm⟩, fun h ↦ h.2.symm⟩
  · simp [hfits]

/-- A field that lies in the buffer unpacks. -/
theorem unpackField_of_le {width offset : ℕ} {buffer : Bytes}
    (hfits : offset + width ≤ buffer.length) :
    ∃ value, unpackField width buffer offset = .ok value :=
  ⟨_, unpackField_eq_ok.mpr ⟨hfits, rfl⟩⟩

/-- A field packed after `front` unpacks to its value at offset `front.length`. -/
theorem unpackField_append {width value : ℕ} (hfits : value < 256 ^ width) (front back : Bytes) :
    unpackField width (front ++ LittleEndian.encode width value ++ back) front.length =
      .ok value := by
  rw [unpackField_eq_ok]
  constructor
  · simp only [List.length_append, LittleEndian.length_encode]
    omega
  · rw [List.append_assoc, List.drop_left, List.take_left' (LittleEndian.length_encode _ _),
      LittleEndian.decode_encode hfits]

/-- A field packed among others unpacks to its value, at the sum of the widths before it. -/
theorem unpackField_fields {field : Field} (hfits : field.Fits) (front back : List Field)
    (rest : Bytes) :
    unpackField field.width ((front ++ field :: back).flatMap Field.bytes ++ rest)
      (front.map Field.width).sum = .ok field.value.toNat := by
  have hoffset : (front.flatMap Field.bytes).length = (front.map Field.width).sum := by
    rw [List.length_flatMap]
    simp only [Field.length_bytes]
  have hsplit : (front ++ field :: back).flatMap Field.bytes ++ rest =
      front.flatMap Field.bytes ++ LittleEndian.encode field.width field.value.toNat ++
        (back.flatMap Field.bytes ++ rest) := by
    simp only [List.flatMap_append, List.flatMap_cons, List.append_assoc, Field.bytes]
  rw [hsplit, ← hoffset]
  exact unpackField_append hfits.2 _ _

/-- Two fitting fields of one width with the same bytes have the same value. -/
theorem Field.bytes_injOn {first second : Field} (hfirst : first.Fits) (hsecond : second.Fits)
    (hwidth : first.width = second.width) (hbytes : first.bytes = second.bytes) :
    first.value = second.value := by
  unfold Field.bytes at hbytes
  rw [← hwidth] at hbytes
  have hvalues := LittleEndian.encode_injOn hfirst.2 (hwidth ▸ hsecond.2) hbytes
  rw [← Int.toNat_of_nonneg hfirst.1, hvalues, Int.toNat_of_nonneg hsecond.1]

/-- Fitting fields of the same widths with the same bytes have the same values. -/
theorem flatMap_bytes_injOn {first second : List Field} (hfirst : ∀ field ∈ first, field.Fits)
    (hsecond : ∀ field ∈ second, field.Fits)
    (hwidths : first.map Field.width = second.map Field.width)
    (hbytes : first.flatMap Field.bytes = second.flatMap Field.bytes) :
    first.map Field.value = second.map Field.value := by
  induction first generalizing second with
  | nil =>
    rw [List.map_nil, eq_comm, List.map_eq_nil_iff] at hwidths
    rw [hwidths, List.map_nil]
  | cons field first ih =>
    cases second with
    | nil => simp at hwidths
    | cons field' second =>
      obtain ⟨hhead, htail⟩ := List.forall_mem_cons.mp hfirst
      obtain ⟨hhead', htail'⟩ := List.forall_mem_cons.mp hsecond
      rw [List.map_cons, List.map_cons, List.cons.injEq] at hwidths
      rw [List.flatMap_cons, List.flatMap_cons] at hbytes
      obtain ⟨hheadBytes, htailBytes⟩ := List.append_inj hbytes (by
        rw [Field.length_bytes, Field.length_bytes, hwidths.1])
      rw [List.map_cons, List.map_cons, Field.bytes_injOn hhead hhead' hwidths.1 hheadBytes,
        ih htail htail' hwidths.2 htailBytes]

/-- The bytes of an unpacked value are those it was unpacked from. -/
theorem encode_unpackField {width offset value : ℕ} {buffer : Bytes}
    (hvalue : unpackField width buffer offset = .ok value) :
    LittleEndian.encode width value = (buffer.drop offset).take width := by
  obtain ⟨hfits, rfl⟩ := unpackField_eq_ok.mp hvalue
  have hwidth : ((buffer.drop offset).take width).length = width := by
    rw [List.length_take, List.length_drop]
    omega
  have hencode := LittleEndian.encode_decode ((buffer.drop offset).take width)
  rwa [hwidth] at hencode

/-- An unpacked value fits its field. -/
theorem unpackField_lt {width offset value : ℕ} {buffer : Bytes}
    (hvalue : unpackField width buffer offset = .ok value) : value < 256 ^ width := by
  obtain ⟨hfits, rfl⟩ := unpackField_eq_ok.mp hvalue
  have hlt := LittleEndian.decode_lt ((buffer.drop offset).take width)
  rwa [List.length_take, List.length_drop, Nat.min_eq_left (by omega)] at hlt

end OpenVixDiskLib
