import SpiDisk.Disk.Error

/-!
# `SpiDisk.Disk.Packet` — packet requests, all of which a card disk refuses

The disk subsystem makes these requests of every unit. A card is always a fixed disk, so every one
is refused, and nothing that came with it changes.
-/

namespace SpiDisk

/-- The direction of a transfer. -/
inductive Direction where
  | read | write
  deriving DecidableEq

/-- A packet with its command, data, and what was done so far. -/
structure Packet where
  command : List UInt8
  data : List UInt8
  /-- The bytes of the data that were used. -/
  actual : UInt32 := 0
  status : UInt8 := 0
  /-- The count of bytes that the caller keeps for a move of sectors. -/
  moved : UInt32 := 0
  deriving DecidableEq

/-- What can be asked of a unit by packets. -/
inductive PacketRequest where
  | startStop (start eject : Bool)
  | testReady
  | checkProtection
  /-- Move sectors, counting the bytes. -/
  | moveSectors (lba count : UInt32) (direction : Direction)
  | playAudioIndex
  | packet
  | modeSense
  | modeSelect
  | readWrite
  | packetUnaligned
  | autosense
  | passthrough
  deriving DecidableEq

/-- The answer to a request: whether it was done, and the packet afterwards. -/
def PacketRequest.answer (_ : PacketRequest) (packet : Packet) : Except DiskError Unit × Packet :=
  (.error .noCommand, packet)

/-- Whether being told that the medium is present or gone counts as a change; it never does. -/
def presenceChanged (_ : Bool) : Bool :=
  false

end SpiDisk
