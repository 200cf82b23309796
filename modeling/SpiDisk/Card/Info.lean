import SpiDisk.Bus.Line
import SpiDisk.Card.Cid
import SpiDisk.Card.Csd

/-!
# `SpiDisk.Card.Info` — what is known about the card, and where its sectors lie

## Contents
- **Failures.** `CardError` with its texts.
- **Knowledge.** `CardInfo` and its one-line description.
- **Addresses.** `CardInfo.address?` and `CardInfo.runAddress`, the command argument of a sector and
  of a run of sectors.
-/

namespace SpiDisk

/-- Bytes in a sector. -/
def sectorSize : Nat := 512

/-- The ways in which an exchange with the card can fail. -/
inductive CardError where
  /-- No answer came in time. -/
  | timeout
  /-- The card answered outside the accepted set. -/
  | badResponse
  /-- There is no card, or none was identified. -/
  | noCard
  /-- The card's sizes are not supported. -/
  | unsupported
  /-- The run reaches past the last sector. -/
  | outOfRange
  deriving DecidableEq

namespace CardError

/-- The wording of a failure. -/
def message : CardError → String
  | timeout => "timeout"
  | badResponse => "bad response"
  | noCard => "no card"
  | unsupported => "unsupported card"
  | outOfRange => "address out of range"

/-- All failures. -/
def all : List CardError := [timeout, badResponse, noCard, unsupported, outOfRange]

/-- A card whose channel cannot be bound is as good as none. -/
def ofBusError (_ : BusError) : CardError :=
  noCard

end CardError

/-- What is known about the card. -/
structure CardInfo where
  family : Family := .absent
  /-- Capacity in sectors. -/
  totalSectors : UInt32 := 0
  /-- Logarithm of the native block length. -/
  blockLog : UInt8 := 0
  cid : Cid := {}
  csd : Csd := {}
  deriving DecidableEq

namespace CardInfo

/-- Whether a card was identified. -/
def isPresent (info : CardInfo) : Bool :=
  info.family ≠ .absent

/-- Whether commands take a sector number instead of a byte offset. -/
def blockAddressed (info : CardInfo) : Bool :=
  info.family.blockAddressed

/-- Capacity in bytes. -/
def capacityBytes (info : CardInfo) : UInt64 :=
  info.totalSectors.toUInt64 <<< 9

/-- One line that names the card, its maker, date and capacity. -/
def describe (info : CardInfo) : String :=
  let (major, minor) := info.cid.revision
  info.family.name ++ " mfg " ++ Text.hexMarked 2 info.cid.manufacturer.toNat
    ++ " '" ++ info.cid.nameText ++ "' rev " ++ toString major ++ "." ++ toString minor
    ++ " s/n " ++ Text.hex 8 info.cid.serial.toNat
    ++ " (" ++ Text.padLeft '0' 4 (toString info.cid.year)
    ++ "-" ++ Text.padLeft '0' 2 (toString info.cid.month)
    ++ "), " ++ toString info.totalSectors ++ " sectors ("
    ++ toString (info.capacityBytes / (1024 * 1024)) ++ " MB)"

/-! ## Addresses -/

/-- The command argument for a sector: its number, or its byte offset if that fits 32 bits. -/
def address? (info : CardInfo) (lba : UInt32) : Option UInt32 :=
  if info.blockAddressed then some lba
  else if lba.toNat * sectorSize < UInt32.size then some (lba * 512)
  else none

/-- The command argument for a run of `count` sectors at `lba`. The run must lie on the card, and
    its last sector must have an argument too. -/
def runAddress (info : CardInfo) (lba : UInt32) (count : Nat) : Except CardError UInt32 :=
  if lba.toNat + count ≤ info.totalSectors.toNat then
    match info.address? (lba.toNat + count - 1).toUInt32, info.address? lba with
    | some _, some argument => .ok argument
    | _, _ => .error .outOfRange
  else .error .outOfRange

end CardInfo

end SpiDisk
