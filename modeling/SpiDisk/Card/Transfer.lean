import SpiDisk.Card.Exchange

/-!
# `SpiDisk.Card.Transfer` — moving runs of sectors

A run of one sector goes with a single command. A longer one is a stream of blocks that has to be
stopped, whether or not a block failed. The bus is given back in every case.

## Contents
- **Ending.** `conclude`, which every transfer comes to.
- **Reading.** `receiveBlocks`, `readRun`, `readSectors`.
- **Writing.** `transmitBlocks`, `writeRun`, `writeSectors`.
-/

namespace SpiDisk

/-- The first `count` sectors of a byte string. -/
def sectors : Nat → List UInt8 → List (List UInt8)
  | 0, _ => []
  | count + 1, bytes => bytes.take sectorSize :: sectors count (bytes.drop sectorSize)

namespace CardEngine

open SessionM ChannelM

variable {H C : Type} [Host H] [TickSource C]

/-- Give the bus back after a transfer, and report its failure. -/
def conclude {N : Type} [Diagnostic N] (note : CardError → N) (outcome : Except CardError Unit) :
    ChannelM H C Unit := do
  shutdown
  match outcome with
  | .ok () => pure ()
  | .error error => report (note error)

/-! ## Reading -/

/-- Receive up to `count` sectors, stopping at the first that fails. -/
def receiveBlocks (patience : Nat) :
    Nat → ChannelM H C (List (List UInt8) × Except CardError Unit)
  | 0 => pure ([], .ok ())
  | count + 1 => do
    match ← receiveBlock patience sectorSize with
    | .error error => pure ([], .error error)
    | .ok block =>
      let (rest, outcome) ← receiveBlocks patience count
      pure (block :: rest, outcome)

/-- Read a run of `count` sectors from an address. -/
def readRun (patience : Nat) (address : UInt32) (count : Nat) :
    ChannelM H C (List (List UInt8) × Except CardError Unit) := do
  let command := if count > 1 then Command.readMultiple else Command.readSingle
  let r1 ← send patience command address
  if r1 ≠ R1.ready then
    let error ← failureOf r1
    pure ([], .error error)
  else
    let received ← receiveBlocks patience count
    if count > 1 then
      let _ ← send patience Command.stopTransmission 0
      pure received
    else pure received

/-- Read `count` sectors from `lba` on, if they lie on the card. -/
def fetchRun (patience : Nat) (info : CardInfo) (lba : UInt32) (count : Nat) :
    ChannelM H C (List (List UInt8) × Except CardError Unit) :=
  match info.runAddress lba count with
  | .error error => pure ([], .error error)
  | .ok address => readRun patience address count

/-- Fill a buffer with as many whole sectors as it holds, from `lba` on. The sectors that arrived
    are put in front; all else in the buffer stays. -/
def readSectors (patience : Nat) (info : CardInfo) (lba : UInt32) (buffer : List UInt8) :
    ChannelM H C (Except CardError Unit × List UInt8) := do
  let count := buffer.length / sectorSize
  if !info.isPresent then pure (.error .noCard, buffer)
  else if count = 0 then pure (.ok (), buffer)
  else
    let (blocks, outcome) ← fetchRun patience info lba count
    conclude (CardNote.readFailed count lba) outcome
    pure (outcome, blocks.flatten ++ buffer.drop (blocks.length * sectorSize))

/-! ## Writing -/

/-- Send sectors one after the other, stopping at the first that fails. -/
def transmitBlocks (patience : Nat) : List (List UInt8) → ChannelM H C (Except CardError Unit)
  | [] => pure (.ok ())
  | block :: rest => do
    match ← transmitBlock patience Token.startMultiWrite block with
    | .error error => pure (.error error)
    | .ok () => transmitBlocks patience rest

/-- Tell an SD card how many sectors are going to be written; a refusal does no harm. Other cards
    are told nothing. -/
def announceCount (patience : Nat) (family : Family) (count : Nat) : ChannelM H C Unit := do
  if family.isSd then
    let r1 ← send patience Command.setEraseCount count.toUInt32
    if r1 ≠ R1.ready then report (CardNote.eraseCountRefused r1) else pure ()
  else pure ()

/-- Write one sector at an address. -/
def writeOne (patience : Nat) (address : UInt32) (block : List UInt8) :
    ChannelM H C (Except CardError Unit) := do
  let r1 ← send patience Command.writeSingle address
  if r1 ≠ R1.ready then
    let error ← failureOf r1
    pure (.error error)
  else transmitBlock patience Token.startBlock block

/-- Write several sectors from an address on. The first failure counts, but the card is told to stop
    in every case. -/
def writeMany (patience : Nat) (family : Family) (address : UInt32) (blocks : List (List UInt8)) :
    ChannelM H C (Except CardError Unit) := do
  announceCount patience family blocks.length
  let r1 ← send patience Command.writeMultiple address
  if r1 ≠ R1.ready then
    let error ← failureOf r1
    pure (.error error)
  else
    let outcome ← transmitBlocks patience blocks
    let stop ← transmitStop patience
    match outcome with
    | .error error => pure (.error error)
    | .ok () => pure stop

/-- Write a run of sectors from an address on. -/
def writeRun (patience : Nat) (family : Family) (address : UInt32) (blocks : List (List UInt8)) :
    ChannelM H C (Except CardError Unit) :=
  match blocks with
  | [block] => writeOne patience address block
  | blocks => writeMany patience family address blocks

/-- Write the first `count` sectors of `bytes` from `lba` on, if they lie on the card. -/
def storeRun (patience : Nat) (info : CardInfo) (lba : UInt32) (count : Nat)
    (bytes : List UInt8) : ChannelM H C (Except CardError Unit) :=
  match info.runAddress lba count with
  | .error error => pure (.error error)
  | .ok address => writeRun patience info.family address (sectors count bytes)

/-- Write as many whole sectors as the data holds, from `lba` on. -/
def writeSectors (patience : Nat) (info : CardInfo) (lba : UInt32) (bytes : List UInt8) :
    ChannelM H C (Except CardError Unit) := do
  let count := bytes.length / sectorSize
  if !info.isPresent then pure (.error .noCard)
  else if count = 0 then pure (.ok ())
  else
    let outcome ← storeRun patience info lba count bytes
    conclude (CardNote.writeFailed count lba) outcome
    pure outcome

end CardEngine

end SpiDisk
