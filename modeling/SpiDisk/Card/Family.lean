/-!
# `SpiDisk.Card.Family` — the kinds of memory card

The family of a card decides how it is addressed, whether it knows application commands, and how
the capacity is laid out in its specific-data register.
-/

namespace SpiDisk

/-- The layout of the capacity in the specific-data register. -/
inductive CsdLayout where
  /-- Standard capacity: a twelve-bit size and a multiplier. -/
  | v1
  /-- High capacity: a twenty-two-bit size in units of 512 kilobytes. -/
  | v2
  deriving DecidableEq, Inhabited

/-- The kind of card that was identified. -/
inductive Family where
  /-- Nothing was identified. -/
  | absent
  /-- MultiMediaCard. -/
  | mmc
  /-- SD version 1, standard capacity. -/
  | sd1
  /-- SD version 2, standard capacity. -/
  | sd2
  /-- SD version 2, high capacity. -/
  | sdhc
  deriving DecidableEq, Inhabited

namespace Family

/-- Whether commands take a sector number instead of a byte offset. -/
def blockAddressed (family : Family) : Bool :=
  family = sdhc

/-- Whether application commands are understood. -/
def isSd : Family → Bool
  | sd1 | sd2 | sdhc => true
  | absent | mmc => false

/-- The layout of the specific-data register. -/
def csdLayout : Family → CsdLayout
  | sdhc => .v2
  | _ => .v1

/-- The name of a family. -/
def name : Family → String
  | absent => "none"
  | mmc => "MMC"
  | sd1 => "SD v1.x"
  | sd2 => "SD v2.0"
  | sdhc => "SDHC"

end Family

end SpiDisk
