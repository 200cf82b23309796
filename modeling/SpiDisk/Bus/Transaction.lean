import SpiDisk.Bus.Channel
import SpiDisk.Bus.Session

/-!
# `SpiDisk.Bus.Transaction` — owning the bus, selecting, and moving bytes

A channel owns the bus from `obtain` to `release`; between the two it selects its card, moves bytes
and de-selects it again. A board that fails is not an error here: a failed read reads as an idle
line, a failed write is lost, and both are only reported, so that whoever talks to the card runs
into its own time limit.

## Contents
- **Reports.** `BusNote`.
- **Bytes.** `read`, `readByte`, `write`, paced in slow mode.
- **Ownership.** `obtain`, `release`, `select`, `deselect`, `shutdown`.
- **Binding.** `bindTo`, `unbind`, `drop`.
-/

namespace SpiDisk

/-! ## Reports -/

/-- What a channel reports. -/
inductive BusNote where
  | flushFailed (fault : Fault)
  | readFailed (fault : Fault)
  | writeFailed (fault : Fault)
  | pinFailed (fault : Fault)
  | bound (line : Line)

instance : Diagnostic BusNote where
  level
    | .bound _ => .debug
    | _ => .warn
  target _ := "sdspi::drivers::spi"
  text
    | .flushFailed fault => "SPI: flush failed: " ++ fault.name
    | .readFailed fault => "SPI: read failed: " ++ fault.name
    | .writeFailed fault => "SPI: write failed: " ++ fault.name
    | .pinFailed fault => "SPI: chip-select pin error: " ++ fault.name
    | .bound line => "SPI: channel " ++ Text.hexMarked 2 line.mask.toNat ++ " initialized"

/-- An operation of a channel. -/
abbrev ChannelM (H C : Type) := SessionM (Channel H) C

namespace ChannelM

open SessionM

variable {H C : Type} [Host H]

/-! ## Bytes -/

/-- One read of the board; a failed one reads as an idle line. -/
def shiftIn (count : Nat) : ChannelM H C (List UInt8) := do
  let (bytes, fault) ← onDevice (Channel.callRead count)
  match fault with
  | none => pure bytes
  | some fault =>
    report (BusNote.readFailed fault)
    pure (List.replicate count idleByte)

/-- One write of the board; a failed one is lost. -/
def shiftOut (bytes : List UInt8) : ChannelM H C Unit := do
  match ← onDevice (Channel.callWrite bytes) with
  | none => pure ()
  | some fault => report (BusNote.writeFailed fault)

/-- Read byte by byte, pausing after each. -/
def readPaced : Nat → ChannelM H C (List UInt8)
  | 0 => pure []
  | count + 1 => do
    let byte ← shiftIn 1
    onDevice (Channel.callPause slowPause)
    let rest ← readPaced count
    pure (byte ++ rest)

/-- Write byte by byte, pausing after each. -/
def writePaced : List UInt8 → ChannelM H C Unit
  | [] => pure ()
  | byte :: rest => do
    shiftOut [byte]
    onDevice (Channel.callPause slowPause)
    writePaced rest

/-- Read so many bytes. -/
def read (count : Nat) : ChannelM H C (List UInt8) := do
  match (← device).speed with
  | .fast => shiftIn count
  | .slow => readPaced count

/-- Read one byte. -/
def readByte : ChannelM H C UInt8 := do
  let bytes ← read 1
  pure (bytes.headD idleByte)

/-- Write all of `bytes`. -/
def write (bytes : List UInt8) : ChannelM H C Unit := do
  match (← device).speed with
  | .fast => shiftOut bytes
  | .slow => writePaced bytes

/-- Set the clock for the transfers that follow. -/
def setSpeed (speed : Speed) : ChannelM H C Unit :=
  onDevice fun channel => ((), { channel with speed })

/-! ## Ownership -/

/-- Take the bus; nothing to do for its owner. While another device owns it, this never comes back. -/
def obtain : ChannelM H C Unit :=
  ⟨fun session =>
    if session.device.owns then (some (), session)
    else if session.env.bus.held then (none, session)
    else (some (), { session with
      device := { session.device with owns := true }.record .took
      env.bus.held := true })⟩

/-- Give the bus back; nothing to do for a channel that does not own it. -/
def release : ChannelM H C Unit :=
  act fun session =>
    if session.device.owns then
      ((), { session with
        device := { session.device with owns := false }.record .gave
        env.bus.held := false })
    else ((), session)

/-- Drive the lines in a mask, reporting every pin that fails. -/
def drive (mask : UInt8) : ChannelM H C Unit := do
  let pins ← onDevice (Channel.callDrive mask)
  (pins.filterMap PinMove.fault).forM fun fault => report (BusNote.pinFailed fault)

/-- Assert this channel's line. -/
def select : ChannelM H C Unit := do
  drive (← device).mask

/-- Let the shift register empty, de-assert all lines and clock one idle byte. -/
def deselect : ChannelM H C Unit := do
  match ← onDevice Channel.callFlush with
  | none => pure ()
  | some fault => report (BusNote.flushFailed fault)
  drive 0
  write [idleByte]

/-- Leave the bus clean: an owner de-selects and gives the bus back. -/
def shutdown : ChannelM H C Unit := do
  if (← device).owns then
    deselect
    release
  else pure ()

/-! ## Binding -/

/-- Give up the line that the channel is bound to. -/
def unbind : ChannelM H C Unit :=
  act fun session =>
    match session.device.line with
    | none => ((), session)
    | some line => ((), { session with
        device := { session.device with line := none }
        env.bus := session.env.bus.detach line })

/-- Take a line that is free. -/
def take (line : Line) : ChannelM H C (Except BusError Unit) :=
  act fun session =>
    match session.env.bus.attach line with
    | .error refusal => (.error refusal, session)
    | .ok bus => (.ok (), { session with
        device := { session.device with line := some line }
        env.bus := bus })

/-- Move to another line, giving up the old one first; a refusal leaves the channel without a line. -/
def rebind (line : Line) : ChannelM H C (Except BusError Unit) := do
  if (← device).line = some line then pure (.ok ())
  else
    unbind
    take line

/-- Bind the channel to the line that a byte names, at slow speed and without the bus. -/
def bindTo (id : UInt8) : ChannelM H C (Except BusError Unit) := do
  match Line.ofByte id with
  | .error refusal => pure (.error refusal)
  | .ok line =>
    shutdown
    match ← rebind line with
    | .error refusal => pure (.error refusal)
    | .ok () =>
      setSpeed .slow
      report (BusNote.bound line)
      pure (.ok ())

/-- The end of a channel: it leaves the bus clean and gives up its line. -/
def drop : ChannelM H C Unit := do
  shutdown
  unbind

end ChannelM

end SpiDisk
