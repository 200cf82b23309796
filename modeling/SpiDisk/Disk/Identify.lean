import SpiDisk.Card.Info
import SpiDisk.Disk.Geometry
import SpiDisk.Text.Flags

/-!
# `SpiDisk.Disk.Identify` — the words by which a disk introduces itself

The answer is 256 words: geometry, capacity, capabilities, and three texts made from the card's
identification. A text is written to a string that holds what its words have room for. It takes two
characters to the word, the first in the high byte, and is filled up with spaces.

## Contents
- **Texts.** `serialText`, `firmwareText`, `modelText`, and `pairAt`, which packs them.
- **Words.** `Identify.word` and `Identify.words`.
-/

namespace SpiDisk

namespace Identify

/-- The number of words in an answer. -/
def size : Nat := 256

/-- The capabilities word. -/
def capabilityNames : Text.FlagNames where
  title := "Capabilities"
  bits := [("DMA", 0x100), ("LBA", 0x200), ("IORDY_DISABLE", 0x400), ("IORDY", 0x800)]

/-- The capability of sector addressing. -/
def sectorAddressing : UInt16 := 0x200

/-- General configuration of a fixed disk. -/
def fixedDisk : UInt16 := 0x40

/-- The most sectors that a 28-bit address can reach. -/
def maxSectors : UInt32 := 0x0FFFFFFF

/-! ## Texts -/

/-- The characters that the words of the serial number have room for. -/
def serialLength : Nat := 20

/-- The characters that the words of the revision have room for. -/
def firmwareLength : Nat := 8

/-- The characters that the words of the model have room for. -/
def modelLength : Nat := 40

/-- The serial number: eight digits at the right of twenty characters. -/
def serialText (cid : Cid) : List Char :=
  let digits := Text.bounded 8 [Text.fixed Text.upperDigit 8 cid.serial.toNat]
  Text.bounded serialLength (List.replicate (20 - digits.length) [' '] ++ [digits])

/-- The revision: two digits. -/
def firmwareText (cid : Cid) : List Char :=
  Text.bounded firmwareLength
    [Text.fixed Text.upperDigit 1 cid.revision.1.toNat,
      Text.fixed Text.upperDigit 1 cid.revision.2.toNat]

/-- The model: the maker's number and the product name. -/
def modelText (cid : Cid) : List Char :=
  Text.bounded modelLength
    ["mfg.".toList, Text.fixed Text.upperDigit 2 cid.manufacturer.toNat, "SD-CARD".toList,
      cid.name.toList.map Cid.printable]

/-- The code of a character of a text, or of a space behind its end. -/
def codeAt (text : List Char) (i : Nat) : UInt16 :=
  (text.getD i ' ').toNat.toUInt16

/-- The word that holds the `i`-th pair of a text's characters. -/
def pairAt (text : List Char) (i : Nat) : UInt16 :=
  codeAt text (2 * i) <<< 8 ||| codeAt text (2 * i + 1)

/-! ## Words -/

/-- The sectors that the answer advertises. -/
def advertised (geometry : Geometry) : UInt32 :=
  min geometry.logicalSectors maxSectors

/-- One word of the answer; a word without a meaning is zero. -/
def word (cid : Cid) (geometry : Geometry) (i : Nat) : UInt16 :=
  if i = 0 then fixedDisk
  else if i = 1 then (min geometry.cylinders 0xFFFF).toUInt16
  else if i = 3 then geometry.heads.toUInt16
  else if i = 6 then geometry.sectorsPerTrack.toUInt16
  else if 10 ≤ i ∧ i < 10 + serialLength / 2 then pairAt (serialText cid) (i - 10)
  else if 23 ≤ i ∧ i < 23 + firmwareLength / 2 then pairAt (firmwareText cid) (i - 23)
  else if 27 ≤ i ∧ i < 27 + modelLength / 2 then pairAt (modelText cid) (i - 27)
  else if i = 49 then sectorAddressing
  else if i = 60 then (advertised geometry).toUInt16
  else if i = 61 then (advertised geometry >>> 16).toUInt16
  else 0

/-- The answer. -/
def words (cid : Cid) (geometry : Geometry) : List UInt16 :=
  (List.range size).map (word cid geometry)

theorem length_words (cid : Cid) (geometry : Geometry) : (words cid geometry).length = size := by
  simp [words]

end Identify

end SpiDisk
