import SpiDisk.Bus.Host
import SpiDisk.Card.Command
import SpiDisk.Card.Info

/-!
# `SpiDisk.Bench.SimCard` — a simulated card, byte by byte

The card listens and answers only while it is selected. What it takes in forms commands of six
bytes, and, after a write command, blocks behind tokens; what it gives out is pending output, busy
bytes, the blocks of a running read, or the idle line, in this order. De-selecting it ends every
transaction, but neither its being busy nor an announced application command.

## Contents
- **The card.** `SimKind`, `SimKnobs`, `SimLog`, `SimCard` and `SimCard.new`.
- **Answering.** `execute`, the reaction to a command.
- **Bytes.** `receive` and `transmit`, one byte in and one byte out; `select`.
- **As a board.** The `Host` instance.
-/

namespace SpiDisk

/-- The kinds of card that can be simulated. -/
inductive SimKind where
  | sdhc | sd2 | sd1 | mmc
  deriving DecidableEq

/-- The family as which a simulated card should be identified. -/
def SimKind.family : SimKind → Family
  | sdhc => .sdhc
  | sd2 => .sd2
  | sd1 => .sd1
  | mmc => .mmc

/-- How long a card stays busy. -/
inductive Busy where
  /-- For so many bytes. -/
  | bytes (count : Nat)
  | forever
  deriving DecidableEq

/-- The settings of a simulated card. -/
structure SimKnobs where
  present : Bool := true
  /-- What the card echoes of the interface condition. -/
  echo : UInt32 := ifCondPattern
  /-- Attempts to bring it up that it answers as idle. -/
  initPolls : Nat := 3
  /-- The block that it rejects, counting every block sent from one. -/
  failWriteBlock : Option Nat := none
  /-- The sector that it answers with an error token. -/
  failReadLba : Option UInt32 := none
  /-- How long it is busy after a block that it accepted. -/
  busyAfterBlock : Busy := .bytes 0
  /-- The idle bytes in front of every answer. -/
  responseGap : Nat := 1
  /-- Whether read commands are acknowledged without any block to follow. -/
  tokenlessRead : Bool := false
  /-- Whether the conditions register cannot be read. -/
  failReadOcr : Bool := false

/-- What a simulated card noted about its dealings, latest first. -/
structure SimLog where
  frames : List (List UInt8) := []
  /-- Index and argument of each command, application commands with the top bit set. -/
  commands : List (UInt8 × UInt32) := []
  masks : List UInt8 := []
  selects : Nat := 0
  delays : Nat := 0
  stopTokens : Nat := 0
  crcErrors : Nat := 0

/-- What a simulated card takes the next byte for. -/
inductive Phase where
  /-- Part of a command, of which some bytes have come in. -/
  | command (frame : List UInt8)
  /-- A token in front of a block for a sector. -/
  | token (lba : UInt32) (multi : Bool)
  /-- Part of a block for a sector, of which some bytes have come in, latest first. -/
  | block (lba : UInt32) (multi : Bool) (data : List UInt8)

/-- A simulated card. -/
structure SimCard where
  kind : SimKind
  cid : Cid
  csd : Csd
  knobs : SimKnobs := {}
  log : SimLog := {}
  selected : Bool := false
  idle : Bool := true
  /-- Attempts still to be answered as idle. -/
  pollsLeft : Nat := 0
  /-- Whether an application command was announced. -/
  appPending : Bool := false
  busy : Busy := .bytes 0
  phase : Phase := .command []
  /-- Blocks that were sent to it. -/
  writeAttempts : Nat := 0
  /-- The next sector of a running read. -/
  stream : Option UInt32 := none
  /-- Output that is pending. -/
  out : List UInt8 := []
  /-- The sectors that were written, latest first. -/
  storage : List (UInt32 × List UInt8) := []

namespace SimCard

/-- The identification of every simulated card. -/
def sampleCid : Cid where
  manufacturer := 0x27
  oem := #v[0x50, 0x48]
  name := #v[0x53, 0x44, 0x31, 0x36, 0x47]
  revisionCode := 0x30
  serial := 0x12345678
  year := 2019
  month := 7
  crc := 0x2B

/-- The specific data that a simulated card starts with. -/
def sampleCsd : SimKind → Csd
  | .sdhc =>
    { layout := .v2, version := 1, taac := 0x0E, tranSpeed := 0x32, commandClasses := 0x5B5,
      readBlockLog := 9, deviceSize := 30386, eraseSingle := true, eraseSector := 0x7F,
      writeFactor := 2, writeBlockLog := 9 }
  | _ =>
    { layout := .v1, taac := 0x26, tranSpeed := 0x32, commandClasses := 0x5F5, readBlockLog := 9,
      readPartial := true, deviceSize := 3839, sizeMultiplier := 7, eraseSingle := true,
      eraseSector := 0x7F, writeFactor := 2, writeBlockLog := 9 }

/-- A card as it leaves the factory. -/
def new (kind : SimKind) : SimCard where
  kind := kind
  cid := sampleCid
  csd := sampleCsd kind

/-! ## Sectors -/

/-- The byte at an offset of a sector that was never written. -/
def patternByte (lba : UInt32) (offset : Nat) : UInt8 :=
  (lba.toNat * 7 + offset).toUInt8

/-- What was written to a sector, if anything was. -/
def stored? (card : SimCard) (lba : UInt32) : Option (List UInt8) :=
  card.storage.lookup lba

/-- The contents of a sector. -/
def sector (card : SimCard) (lba : UInt32) : List UInt8 :=
  (card.stored? lba).getD ((List.range sectorSize).map (patternByte lba))

/-- The sector that a command argument means. -/
def sectorOf (card : SimCard) (argument : UInt32) : UInt32 :=
  match card.kind with
  | .sdhc => argument
  | _ => argument >>> 9

/-- What the card sends for a sector: a block with its token and checksum, an error token, or
    nothing at all. -/
def blockBytes (card : SimCard) (lba : UInt32) : List UInt8 :=
  if card.knobs.tokenlessRead then []
  else if card.knobs.failReadLba = some lba then [0x08]
  else Token.startBlock :: card.sector lba ++ [0x12, 0x34]

/-! ## Answering -/

/-- Answer after the usual gap. -/
def respond (card : SimCard) (bytes : List UInt8) : SimCard :=
  { card with out := card.out ++ List.replicate card.knobs.responseGap idleByte ++ bytes }

/-- Append to the output without a gap. -/
def emit (card : SimCard) (bytes : List UInt8) : SimCard :=
  { card with out := card.out ++ bytes }

/-- The status of the card. -/
def status (card : SimCard) : UInt8 :=
  if card.idle then R1.idle else R1.ready

/-- The status of a card that does not know the command. -/
def illegal (card : SimCard) : UInt8 :=
  card.status ||| 0x04

/-- Answer an attempt to bring the card up. -/
def pollInit (card : SimCard) : SimCard :=
  match card.pollsLeft with
  | 0 => { card with idle := false }.respond [R1.ready]
  | polls + 1 => { card with pollsLeft := polls }.respond [R1.idle]

/-- Answer with a register. -/
def respondRegister (card : SimCard) (register : List UInt8) : SimCard :=
  (card.respond [R1.ready]).emit ([idleByte, Token.startBlock] ++ register ++ [0x00, 0x00])

/-- The conditions register: the voltage window, whether the card is up, whether it is
    block-addressed. -/
def conditions (card : SimCard) : UInt32 :=
  0x00FF8000 ||| (if card.idle then 0 else 0x80000000) |||
    (if card.kind = .sdhc then capacityStatus else 0)

/-- Whether the card is of version 2. -/
def isVersion2 (card : SimCard) : Bool :=
  card.kind = .sdhc || card.kind = .sd2

/-- React to a command that arrived whole. -/
def execute (card : SimCard) (index : UInt8) (argument : UInt32) (app : Bool) : SimCard :=
  match index.toNat with
  | 0 =>
    { card with idle := true, pollsLeft := card.knobs.initPolls, stream := none }.respond [R1.idle]
  | 8 =>
    if card.isVersion2 then card.respond (card.status :: Command.argumentBytes card.knobs.echo)
    else card.respond [card.illegal]
  | 55 =>
    if card.kind = .mmc then card.respond [card.illegal]
    else { card with appPending := true }.respond [card.status]
  | 41 => if app then card.pollInit else card.respond [card.illegal]
  | 1 => if !app && card.kind = .mmc then card.pollInit else card.respond [card.illegal]
  | 58 =>
    if card.knobs.failReadOcr then card.respond [card.illegal]
    else card.respond (card.status :: Command.argumentBytes card.conditions)
  | 16 => card.respond [if argument = 512 then 0x00 else 0x40]
  | 9 => card.respondRegister card.csd.encode
  | 10 => card.respondRegister card.cid.encode
  | 12 => { card with stream := none, out := [0x5A, 0xFF, 0x00] }
  | 17 =>
    (card.respond [R1.ready]).emit (idleByte :: card.blockBytes (card.sectorOf argument))
  | 18 => { card with stream := some (card.sectorOf argument) }.respond [R1.ready]
  | 23 => if app then card.respond [R1.ready] else card.respond [card.illegal]
  | 24 => { card with phase := .token (card.sectorOf argument) false }.respond [R1.ready]
  | 25 => { card with phase := .token (card.sectorOf argument) true }.respond [R1.ready]
  | _ => card.respond [card.illegal]

/-- Whether the checksum of a command is right, where the card looks at it. -/
def checksumOk (index crc : UInt8) : Bool :=
  if index = 0 then crc = 0x95 else if index = 8 then crc = 0x87 else true

/-- The number made of four bytes, most significant first. -/
def argumentOf (bytes : List UInt8) : UInt32 :=
  bytes.foldl (fun word byte => word <<< 8 ||| byte.toUInt32) 0

/-- Note a command that arrived whole, and react to it if the card is there at all. -/
def accept (card : SimCard) (frame : List UInt8) : SimCard :=
  let index := frame.headD 0 &&& 0x3F
  let argument := argumentOf ((frame.drop 1).take 4)
  let app := card.appPending
  let card := { card with
    appPending := false
    log.frames := frame :: card.log.frames
    log.commands := (if app then index ||| 0x80 else index, argument) :: card.log.commands }
  if !card.knobs.present then card
  else if checksumOk index (frame.getD 5 0) then card.execute index argument app
  else { card with log.crcErrors := card.log.crcErrors + 1 }.respond [card.status ||| 0x08]

/-! ## Bytes -/

/-- The length of a block with its checksum. -/
def blockLength : Nat := sectorSize + 2

/-- Take a block that arrived whole: store it, or reject it if it is the one to be rejected. -/
def store (card : SimCard) (lba : UInt32) (multi : Bool) (block : List UInt8) : SimCard :=
  let card := { card with phase := if multi then .token (lba + 1) multi else .command [] }
  if card.knobs.failWriteBlock = some card.writeAttempts then card.emit [0x0D]
  else
    { card with
      storage := (lba, block.take sectorSize) :: card.storage
      busy := card.knobs.busyAfterBlock }.emit [0x05]

/-- Take in one byte. -/
def receive (card : SimCard) (byte : UInt8) : SimCard :=
  match card.phase with
  | .command frame =>
    if frame.isEmpty && byte &&& 0xC0 != 0x40 then card
    else
      let frame := frame ++ [byte]
      if frame.length = 6 then { card with phase := .command [] }.accept frame
      else { card with phase := .command frame }
  | .token lba multi =>
    if byte = (if multi then Token.startMultiWrite else Token.startBlock) then
      { card with phase := .block lba multi [], writeAttempts := card.writeAttempts + 1 }
    else if multi && byte = Token.stopMultiWrite then
      { card with
        phase := .command []
        busy := card.knobs.busyAfterBlock
        log.stopTokens := card.log.stopTokens + 1 }
    else card
  | .block lba multi data =>
    let data := byte :: data
    if data.length < blockLength then { card with phase := .block lba multi data }
    else card.store lba multi data.reverse

/-- Give out one byte. -/
def transmit (card : SimCard) : UInt8 × SimCard :=
  match card.out with
  | byte :: rest => (byte, { card with out := rest })
  | [] =>
    match card.busy with
    | .forever => (0x00, card)
    | .bytes (count + 1) => (0x00, { card with busy := .bytes count })
    | .bytes 0 =>
      match card.stream with
      | some lba => (idleByte, { card with stream := some (lba + 1), out := card.blockBytes lba })
      | none => (idleByte, card)

/-- Give out so many bytes; a card that is not selected leaves the line idle. -/
def transmitMany (card : SimCard) : Nat → List UInt8 × SimCard
  | 0 => ([], card)
  | count + 1 =>
    let (byte, card) := if card.selected then card.transmit else (idleByte, card)
    let (rest, card) := card.transmitMany count
    (byte :: rest, card)

theorem length_transmitMany (card : SimCard) (count : Nat) :
    (card.transmitMany count).1.length = count := by
  induction count generalizing card with
  | zero => rfl
  | succ count ih => simp [transmitMany, ih]

/-- Take in bytes; a card that is not selected ignores them. -/
def receiveMany (card : SimCard) (bytes : List UInt8) : SimCard :=
  if card.selected then bytes.foldl receive card else card

/-- See the lines driven. A mask of zero de-selects the card and ends its transaction. -/
def select (card : SimCard) (mask : UInt8) : SimCard :=
  let card := { card with log.masks := mask :: card.log.masks }
  if mask = 0 then
    { card with selected := false, out := [], phase := .command [], stream := none }
  else { card with selected := true, log.selects := card.log.selects + 1 }

/-- Note a pause. -/
def pause (card : SimCard) : SimCard :=
  { card with log.delays := card.log.delays + 1 }

end SimCard

/-! ## As a board -/

/-- A board whose only device is a simulated card; it never fails. -/
instance : Host SimCard where
  read card count :=
    let (bytes, card) := card.transmitMany count
    (bytes, none, card)
  write card bytes := (none, card.receiveMany bytes)
  exchange card bytes count :=
    let (got, card) := (card.receiveMany bytes).transmitMany count
    (got, none, card)
  flush card := (none, card)
  length_read card count := card.length_transmitMany count
  drive card mask := ([], card.select mask)
  pauseMicros card _ := card.pause
  pauseNanos card _ := card.pause

end SpiDisk
