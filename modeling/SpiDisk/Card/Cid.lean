import SpiDisk.Register.Field
import SpiDisk.Text.Hex

/-!
# `SpiDisk.Card.Cid` — the card's identification register

## Contents
- **The register.** `Cid`, the layout of its fields, `Cid.decode` and `Cid.encode`.
- **Readings.** `Cid.nameText` and `Cid.revision`.
-/

namespace SpiDisk

/-- The first year that the register can name. -/
def epochYear : Nat := 2000

/-- The identification of a card. -/
structure Cid where
  /-- Number of the maker. -/
  manufacturer : UInt8 := 0
  /-- Two characters that name the brand. -/
  oem : Vector UInt8 2 := #v[0, 0]
  /-- Five characters that name the product. -/
  name : Vector UInt8 5 := #v[0, 0, 0, 0, 0]
  /-- The revision, one decimal digit in each half. -/
  revisionCode : UInt8 := 0
  serial : UInt32 := 0
  /-- The full year of manufacture. -/
  year : UInt16 := 0
  month : UInt8 := 0
  /-- The checksum, which is carried but not verified. -/
  crc : UInt8 := 0
  deriving DecidableEq

namespace Cid

/-! ## Layout -/

def manufacturerField : Field := ⟨120, 8⟩
/-- The field of one of the two brand characters. -/
def oemField (i : Nat) : Field := ⟨112 - 8 * i, 8⟩
/-- The field of one of the five product characters. -/
def nameField (i : Nat) : Field := ⟨96 - 8 * i, 8⟩
def revisionField : Field := ⟨56, 8⟩
def serialField : Field := ⟨24, 32⟩
def yearField : Field := ⟨12, 8⟩
def monthField : Field := ⟨8, 4⟩
def crcField : Field := ⟨1, 7⟩
/-- The lowest bit of a register, which is always one. -/
def endField : Field := ⟨0, 1⟩

/-- Read an identification out of a register image. -/
def ofImage (image : Image) : Cid where
  manufacturer := (manufacturerField.read image).toUInt8
  oem := #v[((oemField 0).read image).toUInt8, ((oemField 1).read image).toUInt8]
  name := #v[((nameField 0).read image).toUInt8, ((nameField 1).read image).toUInt8,
    ((nameField 2).read image).toUInt8, ((nameField 3).read image).toUInt8,
    ((nameField 4).read image).toUInt8]
  revisionCode := (revisionField.read image).toUInt8
  serial := (serialField.read image).toUInt32
  year := (epochYear + yearField.read image).toUInt16
  month := (monthField.read image).toUInt8
  crc := (crcField.read image).toUInt8

/-- The fields of the register, and the values that an identification has for them. Years before the
    first count as the first. -/
def parts (cid : Cid) : List (Field × Nat) := [
  (manufacturerField, cid.manufacturer.toNat),
  (oemField 0, cid.oem[0].toNat),
  (oemField 1, cid.oem[1].toNat),
  (nameField 0, cid.name[0].toNat),
  (nameField 1, cid.name[1].toNat),
  (nameField 2, cid.name[2].toNat),
  (nameField 3, cid.name[3].toNat),
  (nameField 4, cid.name[4].toNat),
  (revisionField, cid.revisionCode.toNat),
  (serialField, cid.serial.toNat),
  (yearField, cid.year.toNat - epochYear),
  (monthField, cid.month.toNat),
  (crcField, cid.crc.toNat),
  (endField, 1)]

/-- The register image of an identification; every value is cut to its field. -/
def toImage (cid : Cid) : Image :=
  Image.assemble cid.parts

/-- Read an identification out of the sixteen bytes of its register. -/
def decode (bytes : List UInt8) : Cid :=
  ofImage (Image.ofBytes bytes)

/-- The sixteen bytes of an identification's register. -/
def encode (cid : Cid) : List UInt8 :=
  cid.toImage.toBytes

/-! ## Readings -/

/-- The character of a byte: itself if it is printable ASCII, a question mark otherwise. -/
def printable (byte : UInt8) : Char :=
  if 0x20 ≤ byte ∧ byte ≤ 0x7E then Char.ofNat byte.toNat else '?'

/-- The product name with a question mark for every byte that is not printable. -/
def nameText (cid : Cid) : String :=
  String.ofList (cid.name.toList.map printable)

/-- The digits of the revision, major and minor. -/
def revision (cid : Cid) : UInt8 × UInt8 :=
  (cid.revisionCode >>> 4, cid.revisionCode &&& 0x0F)

end Cid

end SpiDisk
