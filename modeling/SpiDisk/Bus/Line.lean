import SpiDisk.Text.Hex

/-!
# `SpiDisk.Bus.Line` — the chip-select lines of a controller

A controller has two chip-select lines, each known by a one-bit mask. A byte names a line exactly
when it is one of those masks.

## Contents
- **Lines.** `Line`, its `mask`, and `Line.ofByte`.
- **Refusals.** `BusError`, the ways in which binding a device to a line can fail, with their texts.
-/

namespace SpiDisk

/-- A chip-select line. -/
inductive Line where
  | one | two
  deriving DecidableEq

/-- The reasons for which a device is refused a line. -/
inductive BusError where
  /-- The byte names no line. -/
  | invalidChannel (id : UInt8)
  /-- Another device drives the line. -/
  | channelInUse (id : UInt8)
  /-- The register of bound lines is full. -/
  | registryFull
  deriving DecidableEq

/-- The wording of a refusal. -/
def BusError.message : BusError → String
  | invalidChannel id => "invalid SPI channel " ++ Text.hexMarked 2 id.toNat
  | channelInUse id => "SPI channel " ++ Text.hexMarked 2 id.toNat ++ " already in use"
  | registryFull => "SPI bus registry full"

namespace Line

/-- The mask that drives this line and no other. -/
def mask : Line → UInt8
  | one => 0x01
  | two => 0x02

/-- The line that a byte names. -/
def ofByte (id : UInt8) : Except BusError Line :=
  if id = one.mask then .ok one
  else if id = two.mask then .ok two
  else .error (.invalidChannel id)

theorem ofByte_mask (line : Line) : ofByte line.mask = .ok line := by
  cases line <;> rfl

/-- The line that a unit is wired to unless told otherwise. -/
def default : Line := one

end Line

end SpiDisk
