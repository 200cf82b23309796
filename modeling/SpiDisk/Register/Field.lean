/-!
# `SpiDisk.Register.Field` — bit fields of a 128-bit card register

A card hands out its registers as sixteen bytes, most significant first. A `Field` names a run of
bits of such an image; reading takes the run out, placing puts a value there and cuts it to the
field's width.

## Contents
- **Images.** `Image.ofBytes`, `Image.toBytes`.
- **Fields.** `Field.read`, `Field.isSet`, `Field.place`, and `Image.assemble`, which builds an image
  from fields and values.
-/

namespace SpiDisk

/-- The 128 bits of a card register. -/
abbrev Image := BitVec 128

namespace Image

/-- The image whose bytes, most significant first, are given. -/
def ofBytes (bytes : List UInt8) : Image :=
  bytes.foldl (fun image b => image <<< 8 ||| b.toBitVec.setWidth 128) 0

/-- The sixteen bytes of an image, most significant first. -/
def toBytes (image : Image) : List UInt8 :=
  (List.range 16).map fun i => ⟨image.extractLsb' (8 * (15 - i)) 8⟩

theorem length_toBytes (image : Image) : image.toBytes.length = 16 := by
  simp [toBytes]

end Image

/-- A run of `width` bits whose lowest has the number `offset`. -/
structure Field where
  offset : Nat
  width : Nat
  deriving DecidableEq

namespace Field

/-- The value of a field. -/
def read (field : Field) (image : Image) : Nat :=
  (image.extractLsb' field.offset field.width).toNat

/-- Whether a one-bit field holds a one. -/
def isSet (field : Field) (image : Image) : Bool :=
  field.read image != 0

/-- The image that holds the low bits of `value` in the field and zeros elsewhere. -/
def place (field : Field) (value : Nat) : Image :=
  (BitVec.ofNat field.width value).setWidth 128 <<< field.offset

end Field

/-- The image made of the given field values; fields that are not named are zero. -/
def Image.assemble (parts : List (Field × Nat)) : Image :=
  parts.foldr (fun part image => part.1.place part.2 ||| image) 0

end SpiDisk
