import OpenVixDiskLib.Errors

/-!
# Views of memory

A `memoryview` has dimensions, outermost first, and each has a number of items (`shape`) and a distance
between them (`strides`). `Layout` is what the client can be given: a view of format `B` is used as it
is (`ByteView`), any other is cast to one where that is possible (`Layout.raw`).

The length of a view of several dimensions counts its rows, and a slice of it is a slice of its rows. A
socket receives only into a view without gaps (`ByteView.contiguous`), and fills it byte by byte.
-/

set_option autoImplicit false
set_option relaxedAutoImplicit false

namespace OpenVixDiskLib

/-- One dimension of a view: its number of items, and how many bytes apart they begin. -/
structure Dim where
  extent : ℕ
  stride : ℤ
deriving DecidableEq, Repr

namespace Dim

/-- The number of bytes of an array whose items have `itemsize` bytes. -/
def span (itemsize : ℕ) : List Dim → ℕ
  | [] => itemsize
  | dim :: inner => dim.extent * span itemsize inner

/-- In every dimension of more than one item these follow each other without a gap. -/
def packed (itemsize : ℕ) : List Dim → Bool
  | [] => true
  | dim :: inner =>
    (dim.extent ≤ 1 ∨ dim.stride = span itemsize inner) ∧ packed itemsize inner

/-- `memoryview.c_contiguous`. An empty view of one dimension needs the right stride, one of several
does not. -/
def contiguous (itemsize : ℕ) : List Dim → Bool
  | [dim] => dim.extent = 1 ∨ dim.stride = itemsize
  | dims => span itemsize dims = 0 ∨ packed itemsize dims

end Dim

/-- A view of format `B`: one dimension without gaps, as a `bytearray` has it, or any other dimensions. -/
inductive ByteView
  | flat
  | rows (outer : Dim) (inner : List Dim)
deriving DecidableEq, Repr

namespace ByteView

/-- `len(view)`, for a view of `size` bytes. -/
def count (size : ℕ) : ByteView → ℕ
  | .flat => size
  | .rows outer _ => outer.extent

/-- The bytes of one item of the outermost dimension. -/
def width : ByteView → ℕ
  | .flat => 1
  | .rows _ inner => Dim.span 1 inner

/-- `view[start:stop]`. -/
def slice (start stop : ℕ) : ByteView → ByteView
  | .flat => .flat
  | .rows outer inner => .rows ⟨min stop outer.extent - start, outer.stride⟩ inner

/-- `view.c_contiguous`. -/
def contiguous : ByteView → Bool
  | .flat => true
  | .rows outer inner => Dim.contiguous 1 (outer :: inner)

/-- `view.ndim == 1`. -/
def oneDim : ByteView → Bool
  | .flat => true
  | .rows _ inner => inner = []

@[simp] theorem count_flat (size : ℕ) : flat.count size = size := rfl

@[simp] theorem width_flat : flat.width = 1 := rfl

@[simp] theorem slice_flat (start stop : ℕ) : flat.slice start stop = flat := rfl

/-- The items of the outermost dimension can be received into, one at a time. -/
def Receivable (view : ByteView) : Prop :=
  (view.slice 0 1).contiguous = true

end ByteView

/-- The layout of a caller's buffer. A view of format `B` may have no dimension (`scalar`); the items of
another format have `itemsize` bytes. -/
inductive Layout
  | bytes (view : ByteView)
  | scalar
  | items (itemsize : ℕ) (dims : List Dim)
deriving DecidableEq, Repr

namespace Layout

/-- `view.cast("B") if view.format != "B" else view`. The cast of a view without gaps is flat. A view
without a dimension is refused where its length is taken. -/
def raw : Layout → Except PyError ByteView
  | .bytes view => .ok view
  | .scalar => .error ⟨.typeError, "0-dim memory has no length"⟩
  | .items itemsize dims =>
    if Dim.contiguous itemsize dims = false then
      .error ⟨.typeError, "memoryview: casts are restricted to C-contiguous views"⟩
    else if dims.length ≠ 1 ∧ ∃ dim ∈ dims, dim.extent = 0 then
      .error ⟨.typeError, "memoryview: cannot cast view with zeros in shape or strides"⟩
    else .ok .flat

/-- The number of bytes that a layout makes of a view, for one whose length it decides. -/
def Spans (size : ℕ) : Layout → Prop
  | .bytes .flat => True
  | .bytes (.rows outer inner) => size = Dim.span 1 (outer :: inner)
  | .scalar => size = 1
  | .items itemsize dims => size = Dim.span itemsize dims

end Layout

end OpenVixDiskLib
