import SpiDisk.Bus.Transaction
import SpiDisk.Card.Note

/-!
# `SpiDisk.Card.Exchange` — commands and blocks

Every command but the one that stops a running read stands in brackets of its own: the bus is given
back, taken again, the card selected and waited for. A card that is not ready in time makes the
command fail with the byte of an idle line, and the bus is free again.

## Contents
- **Readiness.** `waitReady`, `selectCard`.
- **Commands.** `awaitResponse`, `sendPlain`, `send`, and `failureOf`, what a refusing status means.
- **Blocks.** `receiveBlock`, `transmitBlock`, `transmitStop`.
-/

namespace SpiDisk

/-- The wait for a ready card and for a data token, in milliseconds. -/
def dataTimeout : UInt32 := 500

/-- The bytes that are read for an answer before giving up. -/
def responsePolls : Nat := 10

namespace CardEngine

open SessionM ChannelM

variable {H C : Type} [Host H] [TickSource C]

/-! ## Readiness -/

/-- Read until the line is idle, which tells that the card is ready; `false` if it is not in time. -/
def waitReady (patience : Nat) : ChannelM H C Bool := do
  let deadline ← startDeadline dataTimeout
  let ready ← pollUntil deadline
    (do
      let byte ← readByte
      pure (if byte = idleByte then some () else none))
    patience
  pure ready.isSome

/-- Take the bus, select the card and wait for it; if it is not ready the bus is given back. -/
def selectCard (patience : Nat) : ChannelM H C Bool := do
  obtain
  select
  let _ ← readByte
  if ← waitReady patience then pure true
  else
    report CardNote.notReady
    shutdown
    pure false

/-! ## Commands -/

/-- Read until a byte is an answer, but no more than `polls` bytes; the last byte read counts. -/
def awaitResponse : Nat → ChannelM H C UInt8
  | 0 => pure idleByte
  | polls + 1 => do
    let byte ← readByte
    if R1.isAnswer byte then pure byte
    else if polls = 0 then pure byte
    else awaitResponse polls

/-- Send one frame to the selected card and read the status. The stop command is followed by a byte
    that means nothing. -/
def exchangeFrame (index : UInt8) (argument : UInt32) : ChannelM H C UInt8 := do
  let bytes := Command.frame index argument
  report (CardNote.frame index bytes)
  write bytes
  if index = Command.stopTransmission.index then
    let _ ← readByte
    awaitResponse responsePolls
  else awaitResponse responsePolls

/-- Send a command in brackets of its own, except the one that stops a running read. -/
def sendPlain (patience : Nat) (index : UInt8) (argument : UInt32) : ChannelM H C UInt8 := do
  if index = Command.stopTransmission.index then exchangeFrame index argument
  else
    shutdown
    if ← selectCard patience then exchangeFrame index argument else pure idleByte

/-- Send a command and read its status. An application command goes behind a notice, and not at all
    if the notice is refused. A status with the top bit set tells only that there was no answer. -/
def send (patience : Nat) (command : Command) (argument : UInt32) : ChannelM H C UInt8 := do
  if command.app then
    let r1 ← sendPlain patience Command.appNotice.index 0
    if r1 > R1.idle then pure r1 else sendPlain patience command.index argument
  else sendPlain patience command.index argument

/-- What a refusing status means: silence is a timeout, anything else a bad response. -/
def failureOf (r1 : UInt8) : ChannelM H C CardError := do
  if R1.isAnswer r1 then
    report (CardNote.status r1)
    pure .badResponse
  else pure .timeout

/-! ## Blocks -/

/-- Wait for a block and read its bytes; the checksum behind it is read and dropped. -/
def receiveBlock (patience count : Nat) : ChannelM H C (Except CardError (List UInt8)) := do
  let deadline ← startDeadline dataTimeout
  let token ← pollUntil deadline
    (do
      let byte ← readByte
      pure (if byte = idleByte then none else some byte))
    patience
  match token with
  | none =>
    report CardNote.tokenTimedOut
    pure (.error .timeout)
  | some token =>
    if token = Token.startBlock then
      let bytes ← read count
      let _ ← read 2
      pure (.ok bytes)
    else
      report (CardNote.errorToken token)
      pure (.error .badResponse)

/-- Wait for the card to be ready for a token. -/
def readyFor (patience : Nat) (token : UInt8) : ChannelM H C Bool := do
  if ← waitReady patience then pure true
  else
    report (CardNote.busyBefore token)
    pure false

/-- Send a block behind a token, with a dummy checksum, and read whether it was accepted. -/
def transmitBlock (patience : Nat) (token : UInt8) (bytes : List UInt8) :
    ChannelM H C (Except CardError Unit) := do
  if ← readyFor patience token then
    write [token]
    write bytes
    write [idleByte, idleByte]
    let response ← readByte
    if Token.accepts response then pure (.ok ())
    else
      report (CardNote.blockRefused response)
      pure (.error .badResponse)
  else pure (.error .timeout)

/-- Send the token that ends a multiple write. -/
def transmitStop (patience : Nat) : ChannelM H C (Except CardError Unit) := do
  if ← readyFor patience Token.stopMultiWrite then
    write [Token.stopMultiWrite]
    pure (.ok ())
  else pure (.error .timeout)

end CardEngine

end SpiDisk
