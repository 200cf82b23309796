import SpiDisk.Card.Basic
import SpiDisk.Disk.Error
import SpiDisk.Disk.Identify

/-!
# `SpiDisk.Disk.Basic` — a memory card as a disk unit

A `Disk` is a card with the number of its unit, the line it is wired to, and a geometry. The
geometry is all zero until the unit is brought up. Failures of the card are reported here and told
apart no further.

## Contents
- **Reports.** `DiskNote`.
- **Bringing up.** `Disk.bringUp`.
- **Introducing.** `Disk.identify`.
- **Transfers.** `Disk.read`, `Disk.write`.
- **Settings.** `Disk.setTransferMethod`, `Disk.setPioMode`, which have no meaning here.
-/

namespace SpiDisk

/-- How the disk subsystem copies data. -/
inductive TransferMethod where
  | longwordMovem | longwordMove | wordMove
  deriving DecidableEq

/-- The name of a method. -/
def TransferMethod.name : TransferMethod → String
  | longwordMovem => "LongwordMovem"
  | longwordMove => "LongwordMove"
  | wordMove => "WordMove"

/-! ## Reports -/

/-- What a disk reports. -/
inductive DiskNote where
  | unitUnsupported (number : UInt8)
  | channelFailed (id : UInt8) (error : BusError)
  | noUsableCard (number : UInt8) (error : CardError)
  | broughtUp (number : UInt8) (geometry : Geometry)
  | identifyWithoutCard
  | identifyTooSmall (words : Nat)
  | readAborted (lba count : UInt32) (error : CardError)
  | writeAborted (lba count : UInt32) (error : CardError)
  | tooLong (count : UInt32) (available : Nat)
  | methodIgnored (method : TransferMethod)

instance : Diagnostic DiskNote where
  level
    | .broughtUp .. => .info
    | .identifyWithoutCard => .debug
    | .methodIgnored _ => .trace
    | _ => .error
  target _ := "sdspi::ata"
  text
    | .unitUnsupported number => "ATA: unit " ++ toString number ++ " not supported"
    | .channelFailed id error =>
      "ATA: SPI channel " ++ Text.hexMarked 2 id.toNat ++ " setup failed: " ++ error.message
    | .noUsableCard number error =>
      "ATA: unit " ++ toString number ++ " has no usable card: " ++ error.message
    | .broughtUp number g =>
      "ATA: unit " ++ toString number ++ " C/H/S " ++ toString g.cylinders ++ "/" ++ toString g.heads
        ++ "/" ++ toString g.sectorsPerTrack ++ ", " ++ toString g.logicalSectors ++ " sectors"
    | .identifyWithoutCard => "ATA: IDENTIFY without a card"
    | .identifyTooSmall words => "ATA: IDENTIFY buffer too small (" ++ toString words ++ " words)"
    | .readAborted lba count error =>
      "ATA: read LBA " ++ toString lba ++ " x" ++ toString count ++ " aborted: " ++ error.message
    | .writeAborted lba count error =>
      "ATA: write LBA " ++ toString lba ++ " x" ++ toString count ++ " aborted: " ++ error.message
    | .tooLong count available =>
      "ATA: " ++ toString count ++ " sectors do not fit a " ++ toString available ++ " byte buffer"
    | .methodIgnored method => "ATA: ignoring transfer method " ++ method.name

/-- A memory card as a disk unit. -/
structure Disk (H : Type) where
  card : Card H
  /-- The number by which the unit is addressed. -/
  number : UInt8
  /-- The byte that names the line of the card. -/
  wiredTo : UInt8
  geometry : Geometry := {}

namespace Disk

open SessionM

variable {H C : Type}

/-- The unit `number` on a board, wired to the line that a byte names. -/
def new (host : H) (number wiredTo : UInt8) : Disk H where
  card := .fresh host
  number := number
  wiredTo := wiredTo

/-- An operation of the unit's card. -/
def onCard {α : Type} (action : SessionM (Card H) C α) : SessionM (Disk H) C α :=
  within Disk.card (fun disk card => { disk with card }) action

/-- Put down the geometry. -/
def setGeometry (geometry : Geometry) : SessionM (Disk H) C Unit :=
  onDevice fun disk => ((), { disk with geometry })

/-! ## Bringing up -/

/-- The only number that a unit can have. -/
def onlyNumber : UInt8 := 0

variable [Host H] [TickSource C]

/-- Bind the unit's line, identify its card and work out the geometry. -/
def bringUp (patience : Nat) : SessionM (Disk H) C Bool := do
  let disk ← device
  if disk.number ≠ onlyNumber then
    report (DiskNote.unitUnsupported disk.number)
    pure false
  else
    setGeometry {}
    onCard Card.forget
    match ← onCard (Card.onChannel (ChannelM.bindTo disk.wiredTo)) with
    | .error error =>
      report (DiskNote.channelFailed disk.wiredTo error)
      pure false
    | .ok () =>
      match ← onCard (Card.bringUp patience) with
      | .error error =>
        report (DiskNote.noUsableCard disk.number error)
        pure false
      | .ok () =>
        let geometry := Geometry.ofSectors (← device).card.info.totalSectors
        setGeometry geometry
        report (DiskNote.broughtUp disk.number geometry)
        pure true

/-! ## Introducing -/

/-- Put the words by which the disk introduces itself in front of a buffer that can hold them. -/
def identify (buffer : List UInt16) : SessionM (Disk H) C (Bool × List UInt16) := do
  let disk ← device
  if !disk.card.info.isPresent then
    report DiskNote.identifyWithoutCard
    pure (false, buffer)
  else if buffer.length < Identify.size then
    report (DiskNote.identifyTooSmall buffer.length)
    pure (false, buffer)
  else
    pure (true, Identify.words disk.card.info.cid disk.geometry ++ buffer.drop Identify.size)

/-! ## Transfers -/

/-- The bytes of a transfer of `count` sectors, if there is a card and they fit what is available. -/
def transferLength (available : Nat) (count : UInt32) : SessionM (Disk H) C (Except DiskError Nat) := do
  let disk ← device
  if !disk.card.info.isPresent then pure (.error .openFail)
  else
    let length := count.toNat * sectorSize
    if length ≤ available then pure (.ok length)
    else
      report (DiskNote.tooLong count available)
      pure (.error .badLength)

/-- Read `count` sectors at `lba` into a buffer; the rest of the buffer stays. -/
def read (patience : Nat) (lba count : UInt32) (buffer : List UInt8) :
    SessionM (Disk H) C (Except DiskError Unit × List UInt8) := do
  match ← transferLength buffer.length count with
  | .error error => pure (.error error, buffer)
  | .ok length =>
    if length = 0 then pure (.ok (), buffer)
    else
      let (outcome, front) ← onCard (Card.read patience lba (buffer.take length))
      let buffer := front ++ buffer.drop length
      match outcome with
      | .ok () => pure (.ok (), buffer)
      | .error error =>
        report (DiskNote.readAborted lba count error)
        pure (.error .aborted, buffer)

/-- Write `count` sectors at `lba` from a buffer. -/
def write (patience : Nat) (lba count : UInt32) (buffer : List UInt8) :
    SessionM (Disk H) C (Except DiskError Unit) := do
  match ← transferLength buffer.length count with
  | .error error => pure (.error error)
  | .ok length =>
    if length = 0 then pure (.ok ())
    else
      match ← onCard (Card.write patience lba (buffer.take length)) with
      | .ok () => pure (.ok ())
      | .error error =>
        report (DiskNote.writeAborted lba count error)
        pure (.error .aborted)

/-! ## Settings -/

/-- The transfer method means nothing on a serial bus. -/
def setTransferMethod (method : TransferMethod) : SessionM (Disk H) C Unit :=
  report (DiskNote.methodIgnored method)

/-- The transfer mode means nothing on a serial bus, and setting it always succeeds. -/
def setPioMode (_ : UInt8) : SessionM (Disk H) C (Except DiskError Unit) :=
  pure (.ok ())

end Disk

end SpiDisk
