import OpenVixDiskLib.Struct

/-!
# FastLZ extras

`fastlz.py` wraps the pip module, which prefixes its output with the uncompressed length as a
native `uint32`. The wrapper strips that prefix when it compresses and restores it when it
decompresses, so an NFC extra is raw FastLZ. The pip module itself is a parameter
(`FastLzLibrary`); `RoundTrips` says of one input what its documentation promises.
-/

set_option autoImplicit false
set_option relaxedAutoImplicit false

namespace OpenVixDiskLib

/-- The byte order of the host. -/
inductive ByteOrder
  | little
  | big
deriving DecidableEq, Repr

/-- The pip `fastlz` module: `compress` of some data at a level and `decompress` of a prefixed
buffer, which return or raise `FastlzError` with a text. -/
structure FastLzLibrary where
  byteOrder : ByteOrder
  compress : Bytes → ℕ → Except String Bytes
  decompress : Bytes → Except String Bytes

namespace FastLz

/-- `_PREFIX_SIZE`. -/
def prefixSize : ℕ := 4

/-- `struct.pack("I", value)` of a value that fits. -/
def packNative (order : ByteOrder) (value : ℕ) : Bytes :=
  match order with
  | .little => LittleEndian.encode 4 value
  | .big => (LittleEndian.encode 4 value).reverse

/-- The level `compress` asks for. -/
def level (data : Bytes) : ℕ :=
  if data.length < 65536 then 1 else 2

/-- `fastlz.compress`. -/
def compress (library : FastLzLibrary) (data : Bytes) : Except PyError Bytes :=
  match library.compress data (level data) with
  | .error text => .error (valueError text)
  | .ok wrapped =>
    if wrapped.length < prefixSize then
      .error (valueError "FastLZ compress returned a truncated buffer")
    else .ok (wrapped.drop prefixSize)

/-- `fastlz.decompress`. -/
def decompress (library : FastLzLibrary) (data : Bytes) (maxout : ℕ) : Except PyError Bytes :=
  if data = [] then .error (valueError "FastLZ input is empty")
  else if 256 ^ 4 ≤ maxout then .error (structError "argument out of range")
  else
    match library.decompress (packNative library.byteOrder maxout ++ data) with
    | .error text => .error (valueError text)
    | .ok out =>
      if maxout < out.length then
        .error (valueError s!"FastLZ decompressed {out.length} bytes, cap is {maxout}")
      else .ok out

/-- What the library promises of one input: `compress` returns, its output starts with the native
length of the input, and `decompress` takes the output back to the input. -/
def RoundTrips (library : FastLzLibrary) (data : Bytes) : Prop :=
  ∃ packed, library.compress data (level data) =
      .ok (packNative library.byteOrder data.length ++ packed) ∧
    library.decompress (packNative library.byteOrder data.length ++ packed) = .ok data

/-- A library that stores its input as it is, on a little-endian host: it keeps the promise on
every input, and the model can be run with it. -/
def storing : FastLzLibrary where
  byteOrder := .little
  compress := fun data _ ↦ .ok (packNative .little data.length ++ data)
  decompress := fun wrapped ↦ .ok (wrapped.drop prefixSize)

@[simp] theorem length_packNative (order : ByteOrder) (value : ℕ) :
    (packNative order value).length = prefixSize := by
  cases order <;> simp [packNative, prefixSize]

theorem roundTrips_storing (data : Bytes) : RoundTrips storing data :=
  ⟨data, rfl, congrArg Except.ok (List.drop_left' (length_packNative _ _))⟩

/-- The wrappers are inverse on an input the library keeps its promise on. -/
theorem decompress_compress {library : FastLzLibrary} {data : Bytes}
    (hround : RoundTrips library data) (hlength : data.length < 256 ^ 4) :
    ∃ packed, compress library data = .ok packed ∧
      (packed ≠ [] → decompress library packed data.length = .ok data) := by
  obtain ⟨packed, hcompress, hdecompress⟩ := hround
  refine ⟨packed, ?_, fun hpacked ↦ ?_⟩
  · have hlong : ¬ (packNative library.byteOrder data.length ++ packed).length < prefixSize := by
      rw [List.length_append, length_packNative]
      omega
    simp only [compress, hcompress, if_neg hlong]
    rw [List.drop_left' (length_packNative _ _)]
  · have hfits : ¬ 256 ^ 4 ≤ data.length := by omega
    simp only [decompress, if_neg hpacked, if_neg hfits, hdecompress, lt_irrefl, if_false]

end FastLz

end OpenVixDiskLib
