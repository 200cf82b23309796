import SpiDisk.Card.Identification
import SpiDisk.Card.Transfer

/-!
# `SpiDisk.Card.Basic` — a memory card on a channel

A `Card` is a channel together with what is known about the card behind it. Nothing is known until
`Card.bringUp` succeeds, and nothing after it fails.
-/

namespace SpiDisk

/-- A memory card on a channel. -/
structure Card (H : Type) where
  channel : Channel H
  /-- What the last successful identification found. -/
  info : CardInfo := {}

namespace Card

open SessionM

variable {H C : Type}

/-- The card slot of a board, whose card was not identified yet. -/
def fresh (host : H) : Card H where
  channel := { host }

/-- An operation of the card's channel. -/
def onChannel {α : Type} (action : ChannelM H C α) : SessionM (Card H) C α :=
  within Card.channel (fun card channel => { card with channel }) action

/-- Put down what is known about the card. -/
def setInfo (info : CardInfo) : SessionM (Card H) C Unit :=
  onDevice fun card => ((), { card with info })

/-- Forget the card; it must be brought up again before its next use. -/
def forget : SessionM (Card H) C Unit :=
  setInfo {}

variable [Host H] [TickSource C]

/-- Identify the card. Identification goes at slow speed; a card that was identified is used at full
    speed from then on, and of one that was not nothing is kept. The bus is free afterwards. -/
def bringUp (patience : Nat) : SessionM (Card H) C (Except CardError Unit) := do
  forget
  onChannel (ChannelM.setSpeed .slow)
  let outcome ← onChannel (CardEngine.identify patience).run
  onChannel ChannelM.shutdown
  match outcome with
  | .ok info =>
    setInfo info
    onChannel (ChannelM.setSpeed .fast)
    report (CardNote.identified info)
    pure (.ok ())
  | .error error =>
    report (CardNote.identificationFailed error)
    pure (.error error)

/-- Send a command and read its status; the bus stays taken. -/
def send (patience : Nat) (command : Command) (argument : UInt32) : SessionM (Card H) C UInt8 :=
  onChannel (CardEngine.send patience command argument)

/-- Fill a buffer with the sectors from `lba` on. -/
def read (patience : Nat) (lba : UInt32) (buffer : List UInt8) :
    SessionM (Card H) C (Except CardError Unit × List UInt8) := do
  let card ← device
  onChannel (CardEngine.readSectors patience card.info lba buffer)

/-- Write data to the sectors from `lba` on. -/
def write (patience : Nat) (lba : UInt32) (bytes : List UInt8) :
    SessionM (Card H) C (Except CardError Unit) := do
  let card ← device
  onChannel (CardEngine.writeSectors patience card.info lba bytes)

end Card

end SpiDisk
