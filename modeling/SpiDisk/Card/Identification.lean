import SpiDisk.Card.Exchange

/-!
# `SpiDisk.Card.Identification` — finding out what card is in the slot

A reset card is asked for its interface condition. One that echoes the pattern is a version 2 card
and is polled with the offer of high capacity; its conditions register then tells how it is
addressed. Any other card is polled the older way, as a version 1 card if it knows application
commands and as a MultiMediaCard if not. In the end both registers are read.

## Contents
- **Courses.** `CardM`, exchanges one after the other up to the first failure.
- **Steps.** `resetCard`, `pollReady`, `identifyVersion2`, `identifyLegacy`, `readRegister`.
- **All of it.** `identify`.
-/

namespace SpiDisk

/-- The time a card has to leave its idle state, in milliseconds. -/
def initTimeout : UInt32 := 1000

/-- The time a card has to settle after power-up, in milliseconds. -/
def settleTime : UInt32 := 20

/-- The idle bytes that a card needs after power-up. -/
def powerUpBytes : Nat := 10

/-- The length of a register. -/
def registerSize : Nat := 16

namespace CardEngine

open SessionM ChannelM

variable {H C : Type} [Host H] [TickSource C]

/-- A course of exchanges that ends at the first failure. -/
abbrev CardM (H C : Type) := ExceptT CardError (ChannelM H C)

/-- A step that cannot fail. -/
def step {α : Type} (action : ChannelM H C α) : CardM H C α :=
  ExceptT.lift action

/-- A step that may fail. -/
def attempt {α : Type} (action : ChannelM H C (Except CardError α)) : CardM H C α :=
  ExceptT.mk action

/-! ## Steps -/

/-- Clock the card with its line de-asserted, and let it settle. -/
def powerUp (patience : Nat) : ChannelM H C Unit := do
  obtain
  deselect
  write (List.replicate powerUpBytes idleByte)
  waitMillis patience settleTime

/-- Read four bytes as a number, most significant first. -/
def readWord : ChannelM H C UInt32 := do
  let bytes ← read 4
  pure (bytes.foldl (fun word byte => word <<< 8 ||| byte.toUInt32) 0)

/-- Go on only if a command was answered with the status of a ready card. -/
def requireReady (index r1 : UInt8) : ChannelM H C (Except CardError Unit) := do
  if r1 = R1.ready then pure (.ok ())
  else
    report (CardNote.commandFailed index r1)
    let error ← failureOf r1
    pure (.error error)

/-- Repeat a command until the card is ready. -/
def pollReady (patience : Nat) (command : Command) (argument : UInt32) (deadline : Deadline) :
    ChannelM H C (Except CardError Unit) := do
  let ready ← pollUntil deadline
    (do
      let r1 ← send patience command argument
      pure (if r1 = R1.ready then some () else none))
    patience
  match ready with
  | some () => pure (.ok ())
  | none =>
    report CardNote.initTimedOut
    pure (.error .timeout)

/-- Ask for a register and read it. -/
def readRegister (patience : Nat) (command : Command) : CardM H C (List UInt8) := do
  let r1 ← step (send patience command 0)
  attempt (requireReady command.index r1)
  let bytes ← attempt (receiveBlock patience registerSize)
  step (report (CardNote.registerRead command.index bytes))
  pure bytes

/-- Whether the card echoes the interface condition. -/
def echoesInterface (patience : Nat) : ChannelM H C Bool := do
  let r1 ← send patience Command.sendIfCond ifCondPattern
  if r1 = R1.idle then
    let word ← readWord
    pure (word = ifCondPattern)
  else pure false

/-- Bring up a version 2 card and find out how it is addressed. -/
def identifyVersion2 (patience : Nat) (deadline : Deadline) : CardM H C Family := do
  step (report CardNote.startingOpCond)
  attempt (pollReady patience Command.appSendOpCond highCapacitySupport deadline)
  let r1 ← step (send patience Command.readOcr 0)
  attempt (requireReady Command.readOcr.index r1)
  let ocr ← step readWord
  step (report (CardNote.conditions ocr))
  pure (if ocr &&& capacityStatus ≠ 0 then .sdhc else .sd2)

/-- Bring up an older card, which is a version 1 card if it knows application commands. -/
def identifyLegacy (patience : Nat) (deadline : Deadline) : CardM H C Family := do
  let probe ← step (send patience Command.appSendOpCond 0)
  let family := if probe ≤ R1.idle then Family.sd1 else Family.mmc
  let command := if probe ≤ R1.idle then Command.appSendOpCond else Command.sendOpCond
  step (report (CardNote.pollingLegacy family command.index))
  attempt (pollReady patience command 0 deadline)
  let r1 ← step (send patience Command.setBlockLen sectorSize.toUInt32)
  attempt (requireReady Command.setBlockLen.index r1)
  pure family

/-- Bring up a card that answered the reset and find out its family. -/
def identifyFamily (patience : Nat) : CardM H C Family := do
  let deadline ← step (startDeadline initTimeout)
  step (report CardNote.checkingInterface)
  if ← step (echoesInterface patience) then
    step (report CardNote.version2Found)
    identifyVersion2 patience deadline
  else identifyLegacy patience deadline

/-- Go on only if a card answered the reset. -/
def resetCard (patience : Nat) : ChannelM H C (Except CardError Unit) := do
  powerUp patience
  report CardNote.resetting
  let r1 ← send patience Command.goIdle 0
  if r1 = R1.idle then pure (.ok ())
  else
    report (CardNote.resetAnswered r1)
    pure (.error .noCard)

/-- Go on only if a size is supported. -/
def requireSize {α : Type} (size : Except Csd.SizeFault α) : ChannelM H C (Except CardError α) := do
  match size with
  | .ok value => pure (.ok value)
  | .error fault =>
    report fault
    pure (.error .unsupported)

/-! ## All of it -/

/-- Reset the card, bring it up and read its registers. The bus may be left taken. -/
def identify (patience : Nat) : CardM H C CardInfo := do
  attempt (resetCard patience)
  let family ← identifyFamily patience
  step (report (CardNote.familyFound family))
  let cid ← readRegister patience Command.sendCid
  let csd ← readRegister patience Command.sendCsd
  let cid := Cid.decode cid
  let csd := Csd.decode family.csdLayout csd
  let totalSectors ← attempt (requireSize csd.totalSectors)
  let blockLog ← attempt (requireSize csd.blockLenLog2)
  pure { family, totalSectors, blockLog, cid, csd }

end CardEngine

end SpiDisk
