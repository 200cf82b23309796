import Mathlib.Tactic.MkIffOfInductiveProp
import SpiDisk.Card.Csd
import SpiDisk.Proofs.Register.Mask

/-!
# `SpiDisk.Proofs.Register.Csd` — the specific-data register, there and back

The two layouts of the register name different bits. In each of them the fields are apart from each other,
and together with the bit at the end and the reserved ones they are all of the register. So card-specific
data that is encoded and decoded again is what it was with every value cut to its field, where the second
layout has no room at all for the currents and the multiplier of the first. And a register that is decoded
and encoded again loses its reserved bits only.

## Contents
- **Layouts.** `Csd.commonFields`, `Csd.layoutFields`, and the bits that are `Csd.reserved`.
- **There.** `Csd.reduced`, `Csd.Fits`, and `Csd.decode_encode_reduced`.
- **Back.** `Csd.fits_decode` and `Csd.toImage_ofImage`.
- **Both.** `Csd.specific_data_round_trip`.
-/

namespace SpiDisk

namespace Csd

/-! ## Layouts -/

/-- The fields that both layouts have, without the bit at the end. -/
def commonFields (layout : CsdLayout) : List Field := [versionField, taacField, nsacField, tranSpeedField,
  commandClassesField, readBlockLogField, readPartialField, writeMisalignField, readMisalignField,
  driverStageField, deviceSizeField layout, eraseSingleField, eraseSectorField, protectGroupField,
  protectGroupEnabledField, writeFactorField, writeBlockLogField, writePartialField, fileFormatGroupField,
  copiedField, permanentProtectField, temporaryProtectField, fileFormatField, crcField]

/-- The fields that only one layout has. -/
def layoutFields : CsdLayout → List Field
  | .v1 => [readCurrentMinField, readCurrentMaxField, writeCurrentMinField, writeCurrentMaxField,
    sizeMultiplierField]
  | .v2 => []

/-- The bits that belong to no field of a layout. -/
def reserved : CsdLayout → List Field
  | .v1 => [⟨120, 6⟩, ⟨74, 2⟩, ⟨29, 2⟩, ⟨16, 5⟩, ⟨8, 2⟩]
  | .v2 => [⟨120, 6⟩, ⟨70, 6⟩, ⟨47, 1⟩, ⟨29, 2⟩, ⟨16, 5⟩, ⟨8, 2⟩]

/-- All parts of the register. -/
def parts (csd : Csd) : List (Field × Nat) :=
  csd.commonParts ++ csd.layoutParts

theorem map_fst_parts (csd : Csd) : csd.parts.map Prod.fst =
    commonFields csd.layout ++ [endField] ++ layoutFields csd.layout := by
  have hcommon : csd.commonParts.map Prod.fst = commonFields csd.layout ++ [endField] := rfl
  have hlayout : csd.layoutParts.map Prod.fst = layoutFields csd.layout := by
    unfold layoutParts
    cases csd.layout with
    | v1 => rfl
    | v2 => rfl
  rw [parts, List.map_append, hcommon, hlayout]

/-- The fields of a layout do not overlap. -/
theorem isLayout_parts (csd : Csd) : Image.IsLayout (csd.parts.map Prod.fst) := by
  rw [map_fst_parts]
  cases csd.layout with
  | v1 => decide
  | v2 => decide

/-- The fields, the reserved bits and the bit at the end are all of the register. -/
theorem mask_fields (layout : CsdLayout) :
    Image.mask (commonFields layout ++ layoutFields layout) = ~~~(Image.mask (reserved layout) ||| 1) := by
  cases layout with
  | v1 => decide
  | v2 => decide

/-! ## There -/

/-- The width of the size field. -/
def sizeWidth : CsdLayout → Nat
  | .v1 => 12
  | .v2 => 22

/-- The width of the current and multiplier fields, for which the second layout has no room. -/
def extraWidth : CsdLayout → Nat
  | .v1 => 3
  | .v2 => 0

/-- Card-specific data as far as a register can hold it. -/
def reduced (csd : Csd) : Csd :=
  { csd with
    version := lowBits 2 csd.version
    commandClasses := (csd.commandClasses.toNat % 2 ^ 12).toUInt16
    readBlockLog := lowBits 4 csd.readBlockLog
    deviceSize := (csd.deviceSize.toNat % 2 ^ sizeWidth csd.layout).toUInt32
    readCurrentMin := lowBits (extraWidth csd.layout) csd.readCurrentMin
    readCurrentMax := lowBits (extraWidth csd.layout) csd.readCurrentMax
    writeCurrentMin := lowBits (extraWidth csd.layout) csd.writeCurrentMin
    writeCurrentMax := lowBits (extraWidth csd.layout) csd.writeCurrentMax
    sizeMultiplier := lowBits (extraWidth csd.layout) csd.sizeMultiplier
    eraseSector := lowBits 7 csd.eraseSector
    protectGroup := lowBits 7 csd.protectGroup
    writeFactor := lowBits 3 csd.writeFactor
    writeBlockLog := lowBits 4 csd.writeBlockLog
    fileFormat := lowBits 2 csd.fileFormat
    crc := lowBits 7 csd.crc }

/-- Card-specific data that a register can hold. In the second layout the currents and the multiplier
    fit only if they are zero. -/
@[mk_iff]
structure Fits (csd : Csd) : Prop where
  version : csd.version.toNat < 2 ^ 2
  commandClasses : csd.commandClasses.toNat < 2 ^ 12
  readBlockLog : csd.readBlockLog.toNat < 2 ^ 4
  deviceSize : csd.deviceSize.toNat < 2 ^ sizeWidth csd.layout
  readCurrentMin : csd.readCurrentMin.toNat < 2 ^ extraWidth csd.layout
  readCurrentMax : csd.readCurrentMax.toNat < 2 ^ extraWidth csd.layout
  writeCurrentMin : csd.writeCurrentMin.toNat < 2 ^ extraWidth csd.layout
  writeCurrentMax : csd.writeCurrentMax.toNat < 2 ^ extraWidth csd.layout
  sizeMultiplier : csd.sizeMultiplier.toNat < 2 ^ extraWidth csd.layout
  eraseSector : csd.eraseSector.toNat < 2 ^ 7
  protectGroup : csd.protectGroup.toNat < 2 ^ 7
  writeFactor : csd.writeFactor.toNat < 2 ^ 3
  writeBlockLog : csd.writeBlockLog.toNat < 2 ^ 4
  fileFormat : csd.fileFormat.toNat < 2 ^ 2
  crc : csd.crc.toNat < 2 ^ 7

attribute [ext] Csd

theorem read_toImage {csd : Csd} {field : Field} {value : Nat} (hmem : (field, value) ∈ csd.parts) :
    field.read csd.toImage = value % 2 ^ field.width :=
  Field.read_assemble csd.isLayout_parts hmem

theorem toUInt8_read_toImage {csd : Csd} {field : Field} {byte : UInt8}
    (hmem : (field, byte.toNat) ∈ csd.parts) :
    (field.read csd.toImage).toUInt8 = lowBits field.width byte :=
  Field.toUInt8_read_assemble csd.isLayout_parts hmem

theorem byte_read_toImage {csd : Csd} {field : Field} {byte : UInt8} (hwidth : field.width = 8)
    (hmem : (field, byte.toNat) ∈ csd.parts) : (field.read csd.toImage).toUInt8 = byte :=
  Field.byte_read_assemble csd.isLayout_parts hwidth hmem

/-- A field of one bit gives back its flag. -/
theorem isSet_toImage {csd : Csd} {field : Field} {flag : Bool} (hwidth : field.width = 1)
    (hmem : (field, flag.toNat) ∈ csd.parts) : field.isSet csd.toImage = flag := by
  unfold Field.isSet
  rw [read_toImage hmem, hwidth]
  cases flag with
  | false => rfl
  | true => rfl

theorem common_toImage (csd : Csd) : commonOfImage csd.layout csd.toImage =
    { csd.reduced with
      readCurrentMin := 0
      readCurrentMax := 0
      writeCurrentMin := 0
      writeCurrentMax := 0
      sizeMultiplier := 0 } := by
  apply Csd.ext
  case layout | readCurrentMin | readCurrentMax | writeCurrentMin | writeCurrentMax | sizeMultiplier =>
    rfl
  case taac | nsac | tranSpeed => exact byte_read_toImage rfl (by simp [reduced, parts, commonParts])
  case version | readBlockLog | eraseSector | protectGroup | writeFactor | writeBlockLog | fileFormat |
      crc =>
    exact toUInt8_read_toImage (by simp [parts, commonParts])
  case readPartial | writeMisalign | readMisalign | driverStage | eraseSingle | protectGroupEnabled |
      writePartial | fileFormatGroup | copied | permanentProtect | temporaryProtect =>
    exact isSet_toImage rfl (by simp [reduced, parts, commonParts])
  case commandClasses =>
    exact congrArg Nat.toUInt16 (read_toImage (by simp [parts, commonParts]))
  case deviceSize =>
    have hwidth : (deviceSizeField csd.layout).width = sizeWidth csd.layout := by
      cases csd.layout with
      | v1 => rfl
      | v2 => rfl
    have hread : (deviceSizeField csd.layout).read csd.toImage =
        csd.deviceSize.toNat % 2 ^ (deviceSizeField csd.layout).width :=
      read_toImage (by simp [parts, commonParts])
    rw [hwidth] at hread
    exact congrArg Nat.toUInt32 hread

theorem ofImage_toImage (csd : Csd) : ofImage csd.layout csd.toImage = csd.reduced := by
  have hcommon := csd.common_toImage
  cases hlayout : csd.layout with
  | v1 =>
    have hextra : ∀ {field : Field} {value : UInt8}, field.width = 3 →
        (field, value.toNat) ∈ csd.layoutParts →
        (field.read csd.toImage).toUInt8 = lowBits (extraWidth csd.layout) value := by
      intro field value hwidth hmem
      rw [toUInt8_read_toImage (List.mem_append_right _ hmem), hwidth, hlayout]
      rfl
    rw [hlayout] at hcommon
    unfold ofImage
    rw [hcommon]
    apply Csd.ext
    case readCurrentMin | readCurrentMax | writeCurrentMin | writeCurrentMax | sizeMultiplier =>
      exact hextra rfl (by simp [layoutParts, hlayout])
    all_goals rfl
  | v2 =>
    have hextra : ∀ value, lowBits (extraWidth csd.layout) value = 0 := by
      intro value
      rw [hlayout]
      exact congrArg Nat.toUInt8 (Nat.mod_one value.toNat)
    rw [hlayout] at hcommon
    unfold ofImage
    rw [hcommon]
    apply Csd.ext
    case readCurrentMin | readCurrentMax | writeCurrentMin | writeCurrentMax | sizeMultiplier =>
      exact (hextra _).symm
    all_goals rfl

/-- **Card-specific data is decoded as it was encoded,** as far as the register can hold it. -/
theorem decode_encode_reduced (csd : Csd) : decode csd.layout csd.encode = csd.reduced := by
  unfold decode encode
  rw [Image.ofBytes_toBytes, ofImage_toImage]

theorem reduced_eq_self_iff (csd : Csd) : csd.reduced = csd ↔ csd.Fits := by
  rw [Csd.ext_iff, fits_iff]
  simp only [reduced, lowBits_eq_self_iff, toUInt16_mod_eq_self_iff, toUInt32_mod_eq_self_iff, true_and]

/-! ## Back -/

/-- **Whatever is decoded fits a register,** so that it can be encoded without loss. -/
theorem fits_decode (layout : CsdLayout) (bytes : List UInt8) : (decode layout bytes).Fits := by
  unfold decode
  cases layout with
  | v1 =>
    constructor
    case commandClasses => exact commandClassesField.toUInt16_read_lt _
    case deviceSize => exact (deviceSizeField .v1).toUInt32_read_lt _
    all_goals exact Field.toUInt8_read_lt ..
  | v2 =>
    constructor
    case commandClasses => exact commandClassesField.toUInt16_read_lt _
    case deviceSize => exact (deviceSizeField .v2).toUInt32_read_lt _
    case readCurrentMin | readCurrentMax | writeCurrentMin | writeCurrentMax | sizeMultiplier =>
      exact Nat.one_pos
    all_goals exact Field.toUInt8_read_lt ..

theorem commonParts_ofImage (layout : CsdLayout) (image : Image) : (ofImage layout image).commonParts =
    (commonFields layout).map (fun field => (field, field.read image)) ++ [(endField, 1)] := by
  cases layout <;>
    simp (disch := decide) only [commonParts, ofImage, commonOfImage, commonFields,
      Field.toNat_toUInt8_read, Field.toNat_toUInt16_read, Field.toNat_toUInt32_read, Field.toNat_isSet,
      List.map_cons, List.map_nil, List.cons_append, List.nil_append]

theorem layoutParts_ofImage (layout : CsdLayout) (image : Image) : (ofImage layout image).layoutParts =
    (layoutFields layout).map fun field => (field, field.read image) := by
  cases layout with
  | v1 =>
    simp (disch := decide) only [layoutParts, ofImage, commonOfImage, layoutFields,
      Field.toNat_toUInt8_read, List.map_cons, List.map_nil]
  | v2 => rfl

/-- What was decoded and is encoded again has all the bits of the fields. -/
theorem toImage_ofImage (layout : CsdLayout) (image : Image) :
    (ofImage layout image).toImage = image.clear (reserved layout) ||| 1 := by
  have hend : Image.assemble [(endField, 1)] = 1 := by decide
  calc (ofImage layout image).toImage
      = Image.assemble ((commonFields layout).map fun field => (field, field.read image)) ||| 1 |||
          Image.assemble ((layoutFields layout).map fun field => (field, field.read image)) := by
        unfold toImage
        rw [Image.assemble_append, commonParts_ofImage, layoutParts_ofImage, Image.assemble_append, hend]
    _ = Image.assemble ((commonFields layout ++ layoutFields layout).map
          fun field => (field, field.read image)) ||| 1 := by
        rw [List.map_append, Image.assemble_append, BitVec.or_assoc, BitVec.or_assoc,
          BitVec.or_comm 1]
    _ = image.clear (reserved layout) ||| 1 := Image.assemble_read_or_one (mask_fields layout) image

/-! ## Both -/

/-- **There and back.** Fields are read by shifting and cutting, and the register of card-specific data is
    written field by field. Decoded again it is the data with every value cut to the width of its field,
    and with none of the currents and no multiplier in the second layout; it is the same data exactly if
    every value fits. And sixteen bytes that are decoded in either layout and encoded again are the same
    but for the reserved bits of that layout, which are cleared, and bit 0, which is set. -/
theorem specific_data_round_trip :
    (∀ (field : Field) (image : Image),
      field.read image = (image.toNat >>> field.offset) % 2 ^ field.width) ∧
    (∀ csd : Csd,
      csd.toImage = csd.parts.foldr (fun part image => part.1.write part.2 image) 0) ∧
    (∀ csd : Csd, decode csd.layout csd.encode = csd.reduced) ∧
    (∀ csd : Csd, decode csd.layout csd.encode = csd ↔ csd.Fits) ∧
    ∀ (layout : CsdLayout) (raw : Vector UInt8 16),
      (Image.ofBytes raw.toList).toBytes = raw.toList ∧
      (decode layout raw.toList).encode =
        ((Image.ofBytes raw.toList).clear (reserved layout) ||| 1).toBytes := by
  refine ⟨Field.read_eq_shiftRight, fun csd => ?_, decode_encode_reduced, fun csd => ?_,
    fun layout raw => ⟨?_, ?_⟩⟩
  · exact Image.assemble_eq_write csd.isLayout_parts.1
  · rw [decode_encode_reduced, reduced_eq_self_iff]
  · exact Image.toBytes_ofBytes raw.length_toList
  · unfold encode decode
    rw [toImage_ofImage]

end Csd

end SpiDisk
