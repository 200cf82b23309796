import SpiDisk.Card.Family
import SpiDisk.Register.Field

/-!
# `SpiDisk.Card.Csd` — the card's specific-data register

The register exists in two layouts, which differ in how they give the capacity; all other fields
are common to both.

## Contents
- **The register.** `Csd`, the layout of its fields, `Csd.decode` and `Csd.encode`.
- **Sizes.** `Csd.blockLenLog2` and `Csd.totalSectors`, with the reasons for refusing a card.
-/

namespace SpiDisk

/-- The card-specific data. Fields that one layout lacks are zero in it. -/
structure Csd where
  layout : CsdLayout := .v1
  /-- The version of the structure as the register states it. -/
  version : UInt8 := 0
  taac : UInt8 := 0
  nsac : UInt8 := 0
  tranSpeed : UInt8 := 0
  /-- One bit for each command class. -/
  commandClasses : UInt16 := 0
  /-- Logarithm of the longest read block. -/
  readBlockLog : UInt8 := 0
  readPartial : Bool := false
  writeMisalign : Bool := false
  readMisalign : Bool := false
  /-- Whether a driver stage register exists. -/
  driverStage : Bool := false
  /-- The size field, twelve bits wide in the first layout and twenty-two in the second. -/
  deviceSize : UInt32 := 0
  readCurrentMin : UInt8 := 0
  readCurrentMax : UInt8 := 0
  writeCurrentMin : UInt8 := 0
  writeCurrentMax : UInt8 := 0
  /-- The size multiplier of the first layout. -/
  sizeMultiplier : UInt8 := 0
  eraseSingle : Bool := false
  /-- Size of an erase sector, in write blocks less one. -/
  eraseSector : UInt8 := 0
  /-- Size of a write protect group, in erase sectors less one. -/
  protectGroup : UInt8 := 0
  protectGroupEnabled : Bool := false
  /-- Logarithm of the write time relative to the read time. -/
  writeFactor : UInt8 := 0
  /-- Logarithm of the longest write block. -/
  writeBlockLog : UInt8 := 0
  writePartial : Bool := false
  fileFormatGroup : Bool := false
  copied : Bool := false
  permanentProtect : Bool := false
  temporaryProtect : Bool := false
  fileFormat : UInt8 := 0
  /-- The checksum, which is carried but not verified. -/
  crc : UInt8 := 0
  deriving DecidableEq, Inhabited

namespace Csd

/-! ## Layout -/

def versionField : Field := ⟨126, 2⟩
def taacField : Field := ⟨112, 8⟩
def nsacField : Field := ⟨104, 8⟩
def tranSpeedField : Field := ⟨96, 8⟩
def commandClassesField : Field := ⟨84, 12⟩
def readBlockLogField : Field := ⟨80, 4⟩
def readPartialField : Field := ⟨79, 1⟩
def writeMisalignField : Field := ⟨78, 1⟩
def readMisalignField : Field := ⟨77, 1⟩
def driverStageField : Field := ⟨76, 1⟩
def eraseSingleField : Field := ⟨46, 1⟩
def eraseSectorField : Field := ⟨39, 7⟩
def protectGroupField : Field := ⟨32, 7⟩
def protectGroupEnabledField : Field := ⟨31, 1⟩
def writeFactorField : Field := ⟨26, 3⟩
def writeBlockLogField : Field := ⟨22, 4⟩
def writePartialField : Field := ⟨21, 1⟩
def fileFormatGroupField : Field := ⟨15, 1⟩
def copiedField : Field := ⟨14, 1⟩
def permanentProtectField : Field := ⟨13, 1⟩
def temporaryProtectField : Field := ⟨12, 1⟩
def fileFormatField : Field := ⟨10, 2⟩
def crcField : Field := ⟨1, 7⟩
/-- The lowest bit of a register, which is always one. -/
def endField : Field := ⟨0, 1⟩

/-- The size field of a layout. -/
def deviceSizeField : CsdLayout → Field
  | .v1 => ⟨62, 12⟩
  | .v2 => ⟨48, 22⟩

def readCurrentMinField : Field := ⟨59, 3⟩
def readCurrentMaxField : Field := ⟨56, 3⟩
def writeCurrentMinField : Field := ⟨53, 3⟩
def writeCurrentMaxField : Field := ⟨50, 3⟩
def sizeMultiplierField : Field := ⟨47, 3⟩

/-! ## Decoding -/

/-- The fields that both layouts share. -/
def commonOfImage (layout : CsdLayout) (image : Image) : Csd where
  layout := layout
  version := (versionField.read image).toUInt8
  taac := (taacField.read image).toUInt8
  nsac := (nsacField.read image).toUInt8
  tranSpeed := (tranSpeedField.read image).toUInt8
  commandClasses := (commandClassesField.read image).toUInt16
  readBlockLog := (readBlockLogField.read image).toUInt8
  readPartial := readPartialField.isSet image
  writeMisalign := writeMisalignField.isSet image
  readMisalign := readMisalignField.isSet image
  driverStage := driverStageField.isSet image
  deviceSize := ((deviceSizeField layout).read image).toUInt32
  eraseSingle := eraseSingleField.isSet image
  eraseSector := (eraseSectorField.read image).toUInt8
  protectGroup := (protectGroupField.read image).toUInt8
  protectGroupEnabled := protectGroupEnabledField.isSet image
  writeFactor := (writeFactorField.read image).toUInt8
  writeBlockLog := (writeBlockLogField.read image).toUInt8
  writePartial := writePartialField.isSet image
  fileFormatGroup := fileFormatGroupField.isSet image
  copied := copiedField.isSet image
  permanentProtect := permanentProtectField.isSet image
  temporaryProtect := temporaryProtectField.isSet image
  fileFormat := (fileFormatField.read image).toUInt8
  crc := (crcField.read image).toUInt8

/-- Read card-specific data out of a register image in the given layout. -/
def ofImage (layout : CsdLayout) (image : Image) : Csd :=
  match layout with
  | .v1 =>
    { commonOfImage .v1 image with
      readCurrentMin := (readCurrentMinField.read image).toUInt8
      readCurrentMax := (readCurrentMaxField.read image).toUInt8
      writeCurrentMin := (writeCurrentMinField.read image).toUInt8
      writeCurrentMax := (writeCurrentMaxField.read image).toUInt8
      sizeMultiplier := (sizeMultiplierField.read image).toUInt8 }
  | .v2 => commonOfImage .v2 image

/-- Read card-specific data out of the sixteen bytes of its register. -/
def decode (layout : CsdLayout) (bytes : List UInt8) : Csd :=
  ofImage layout (Image.ofBytes bytes)

/-! ## Encoding -/

/-- The values of the fields that both layouts share. -/
def commonParts (csd : Csd) : List (Field × Nat) := [
  (versionField, csd.version.toNat),
  (taacField, csd.taac.toNat),
  (nsacField, csd.nsac.toNat),
  (tranSpeedField, csd.tranSpeed.toNat),
  (commandClassesField, csd.commandClasses.toNat),
  (readBlockLogField, csd.readBlockLog.toNat),
  (readPartialField, csd.readPartial.toNat),
  (writeMisalignField, csd.writeMisalign.toNat),
  (readMisalignField, csd.readMisalign.toNat),
  (driverStageField, csd.driverStage.toNat),
  (deviceSizeField csd.layout, csd.deviceSize.toNat),
  (eraseSingleField, csd.eraseSingle.toNat),
  (eraseSectorField, csd.eraseSector.toNat),
  (protectGroupField, csd.protectGroup.toNat),
  (protectGroupEnabledField, csd.protectGroupEnabled.toNat),
  (writeFactorField, csd.writeFactor.toNat),
  (writeBlockLogField, csd.writeBlockLog.toNat),
  (writePartialField, csd.writePartial.toNat),
  (fileFormatGroupField, csd.fileFormatGroup.toNat),
  (copiedField, csd.copied.toNat),
  (permanentProtectField, csd.permanentProtect.toNat),
  (temporaryProtectField, csd.temporaryProtect.toNat),
  (fileFormatField, csd.fileFormat.toNat),
  (crcField, csd.crc.toNat),
  (endField, 1)]

/-- The values of the fields that only one layout has. -/
def layoutParts (csd : Csd) : List (Field × Nat) :=
  match csd.layout with
  | .v1 => [
    (readCurrentMinField, csd.readCurrentMin.toNat),
    (readCurrentMaxField, csd.readCurrentMax.toNat),
    (writeCurrentMinField, csd.writeCurrentMin.toNat),
    (writeCurrentMaxField, csd.writeCurrentMax.toNat),
    (sizeMultiplierField, csd.sizeMultiplier.toNat)]
  | .v2 => []

/-- The register image of card-specific data; every value is cut to its field. -/
def toImage (csd : Csd) : Image :=
  Image.assemble (csd.commonParts ++ csd.layoutParts)

/-- The sixteen bytes of the register of card-specific data. -/
def encode (csd : Csd) : List UInt8 :=
  csd.toImage.toBytes

/-! ## Sizes -/

/-- The reasons for which the sizes in the register are not supported. -/
inductive SizeFault where
  /-- Read and write blocks differ in length. -/
  | lengthMismatch (read write : UInt8)
  /-- The block length lies outside 512 to 2048 bytes. -/
  | lengthUnsupported (log : UInt8)
  /-- The sectors cannot be counted in 32 bits. -/
  | tooLarge
  deriving DecidableEq

/-- Logarithm of the native block length, which must be the same for reading and writing and lie
    between 9 and 11. -/
def blockLenLog2 (csd : Csd) : Except SizeFault UInt8 :=
  if csd.readBlockLog ≠ csd.writeBlockLog then
    .error (.lengthMismatch csd.readBlockLog csd.writeBlockLog)
  else if 9 ≤ csd.readBlockLog ∧ csd.readBlockLog ≤ 11 then .ok csd.readBlockLog
  else .error (.lengthUnsupported csd.readBlockLog)

/-- The number of 512-byte sectors in 64 bits, for a given logarithm of the block length; what is
    shifted past the top is lost. -/
def sectorCount (csd : Csd) (blockLog : UInt8) : UInt64 :=
  let units := csd.deviceSize.toUInt64 + 1
  match csd.layout with
  | .v1 => units <<< (csd.sizeMultiplier.toUInt64 + 2 + blockLog.toUInt64 - 9)
  | .v2 => units <<< (19 - blockLog.toUInt64)

/-- The capacity in 512-byte sectors. -/
def totalSectors (csd : Csd) : Except SizeFault UInt32 :=
  match csd.blockLenLog2 with
  | .error fault => .error fault
  | .ok blockLog =>
    let sectors := csd.sectorCount blockLog
    if sectors.toNat < UInt32.size then .ok sectors.toUInt32 else .error .tooLarge

end Csd

end SpiDisk
