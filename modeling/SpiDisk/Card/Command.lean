import SpiDisk.Text.Flags

/-!
# `SpiDisk.Card.Command` — what goes over the wire to and from a card

## Contents
- **Commands.** `Command`, the commands in use, and `Command.frame`, the six bytes of a command.
- **Answers.** The status byte R1.
- **Data.** The tokens around a block.
-/

namespace SpiDisk

/-! ## Commands -/

/-- A command: its index, and whether it is an application command, which goes behind a notice. -/
structure Command where
  index : UInt8
  app : Bool := false
  deriving DecidableEq

namespace Command

/-- The command of a code whose top bit marks application commands. -/
def ofCode (code : UInt8) : Command :=
  ⟨code &&& 0x7F, code &&& 0x80 != 0⟩

def goIdle : Command := { index := 0 }
def sendOpCond : Command := { index := 1 }
def sendIfCond : Command := { index := 8 }
def sendCsd : Command := { index := 9 }
def sendCid : Command := { index := 10 }
def stopTransmission : Command := { index := 12 }
def setBlockLen : Command := { index := 16 }
def readSingle : Command := { index := 17 }
def readMultiple : Command := { index := 18 }
def writeSingle : Command := { index := 24 }
def writeMultiple : Command := { index := 25 }
/-- The notice that an application command follows. -/
def appNotice : Command := { index := 55 }
def readOcr : Command := { index := 58 }
def setEraseCount : Command := { index := 23, app := true }
def appSendOpCond : Command := { index := 41, app := true }

/-- The checksum of the two commands that a card checks; every other command carries a dummy. -/
def checksum (index : UInt8) : UInt8 :=
  if index = 0 then 0x95 else if index = 8 then 0x87 else 0x01

/-- The four bytes of an argument, most significant first. -/
def argumentBytes (argument : UInt32) : List UInt8 :=
  [(argument >>> 24).toUInt8, (argument >>> 16).toUInt8, (argument >>> 8).toUInt8, argument.toUInt8]

/-- The six bytes of a command: start bits and index, argument, checksum. -/
def frame (index : UInt8) (argument : UInt32) : List UInt8 :=
  (0x40 ||| index) :: argumentBytes argument ++ [checksum index]

end Command

/-- The check of the interface condition: voltage window and pattern, which a version 2 card echoes. -/
def ifCondPattern : UInt32 := 0x1AA

/-- The argument that tells a card that high capacity is supported. -/
def highCapacitySupport : UInt32 := 0x40000000

/-- The bit of the conditions register that is set for block-addressed cards. -/
def capacityStatus : UInt32 := 0x40000000

/-! ## Answers -/

namespace R1

/-- The status of a card that is ready. -/
def ready : UInt8 := 0x00

/-- The status of a card in idle state. -/
def idle : UInt8 := 0x01

/-- The bit that no answer has set. -/
def noResponse : UInt8 := 0x80

/-- Whether a byte is an answer at all. -/
def isAnswer (r1 : UInt8) : Bool :=
  r1 &&& noResponse == 0

/-- The statuses of a card that goes on are answers. -/
theorem isAnswer_of_le {r1 : UInt8} (h : r1 ≤ idle) : isAnswer r1 = true := by
  have hle : r1.toNat ≤ 1 := UInt8.le_iff_toNat_le.mp h
  obtain rfl | rfl : r1 = 0 ∨ r1 = 1 := by
    rw [← UInt8.toNat_inj, ← UInt8.toNat_inj]
    exact Nat.le_one_iff_eq_zero_or_eq_one.mp hle
  · rfl
  · rfl

/-- The names of the status bits. -/
def names : Text.FlagNames where
  title := "R1"
  bits := [("IN_IDLE_STATE", 0x01), ("ERASE_RESET", 0x02), ("ILLEGAL_COMMAND", 0x04),
    ("COM_CRC_ERROR", 0x08), ("ERASE_SEQUENCE_ERROR", 0x10), ("ADDRESS_ERROR", 0x20),
    ("PARAMETER_ERROR", 0x40), ("NO_RESPONSE", 0x80)]

end R1

/-! ## Data -/

namespace Token

/-- Start of a block, except in a multiple write. -/
def startBlock : UInt8 := 0xFE

/-- Start of a block in a multiple write. -/
def startMultiWrite : UInt8 := 0xFC

/-- End of a multiple write. -/
def stopMultiWrite : UInt8 := 0xFD

/-- Whether a card's answer to a block says that it was accepted. -/
def accepts (response : UInt8) : Bool :=
  response &&& 0x1F == 0x05

end Token

end SpiDisk
