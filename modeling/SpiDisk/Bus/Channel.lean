import SpiDisk.Bus.Host

/-!
# `SpiDisk.Bus.Channel` — one device's end of the bus

A channel is a device's board together with the line it is bound to, its clock setting, whether it
owns the bus, and the history of what it did.

## Contents
- **Speed.** `Speed` and the pause that paces a slow byte.
- **History.** `Event`: every call made on the board and every change of ownership.
- **Channels.** `Channel`, and the calls on its board, each of which goes into the history.
-/

namespace SpiDisk

/-- The clock setting of a channel. -/
inductive Speed where
  /-- Bytes go one by one, each followed by a pause. -/
  | slow
  /-- Whole transfers go at the controller's full speed. -/
  | fast
  deriving DecidableEq

/-- The pause after a slow byte, in microseconds. A byte takes about 32 at 250 kHz, and the margin
    keeps the clock under 400 kHz. -/
def slowPause : UInt32 := 40

/-- Something that a channel did. -/
inductive Event where
  /-- It took the bus. -/
  | took
  /-- It gave the bus back. -/
  | gave
  /-- It read; the bytes are those that the board took in. -/
  | read (bytes : List UInt8) (fault : Option Fault)
  /-- It wrote. -/
  | wrote (bytes : List UInt8) (fault : Option Fault)
  /-- It wrote and read at once. -/
  | exchanged (sent received : List UInt8) (fault : Option Fault)
  /-- It waited for the shift register. -/
  | flushed (fault : Option Fault)
  /-- It drove the lines. -/
  | drove (mask : UInt8) (pins : List PinMove)
  /-- It paused for so many microseconds. -/
  | pausedMicros (us : UInt32)
  /-- It paused for so many nanoseconds. -/
  | pausedNanos (ns : UInt32)

/-- A device's end of the bus. -/
structure Channel (H : Type) where
  host : H
  /-- The line it is bound to, if it is bound. -/
  line : Option Line := none
  speed : Speed := .slow
  /-- Whether it owns the bus. -/
  owns : Bool := false
  /-- What it did, latest first. -/
  history : List Event := []

namespace Channel

variable {H : Type}

/-- Note an event. -/
def record (channel : Channel H) (event : Event) : Channel H :=
  { channel with history := event :: channel.history }

/-- The mask that selects this channel; an unbound one selects nothing. -/
def mask (channel : Channel H) : UInt8 :=
  match channel.line with
  | none => 0
  | some line => line.mask

/-! ## Calls on the board -/

variable [Host H]

/-- Let the board read. -/
def callRead (count : Nat) (channel : Channel H) : (List UInt8 × Option Fault) × Channel H :=
  let (bytes, fault, host) := ByteBus.read channel.host count
  ((bytes, fault), { channel with host }.record (.read bytes fault))

/-- Let the board write. -/
def callWrite (bytes : List UInt8) (channel : Channel H) : Option Fault × Channel H :=
  let (fault, host) := ByteBus.write channel.host bytes
  (fault, { channel with host }.record (.wrote bytes fault))

/-- Let the board write and read at once. -/
def callExchange (bytes : List UInt8) (count : Nat) (channel : Channel H) :
    (List UInt8 × Option Fault) × Channel H :=
  let (got, fault, host) := ByteBus.exchange channel.host bytes count
  ((got, fault), { channel with host }.record (.exchanged bytes got fault))

/-- Let the board empty its shift register. -/
def callFlush (channel : Channel H) : Option Fault × Channel H :=
  let (fault, host) := ByteBus.flush channel.host
  (fault, { channel with host }.record (.flushed fault))

/-- Let the board drive the lines in a mask. -/
def callDrive (mask : UInt8) (channel : Channel H) : List PinMove × Channel H :=
  let (pins, host) := ChipSelect.drive channel.host mask
  (pins, { channel with host }.record (.drove mask pins))

/-- Let the board pause for so many microseconds. -/
def callPause (us : UInt32) (channel : Channel H) : Unit × Channel H :=
  ((), { channel with host := Pacer.pauseMicros channel.host us }.record (.pausedMicros us))

/-- Let the board pause for so many nanoseconds. -/
def callPauseNanos (ns : UInt32) (channel : Channel H) : Unit × Channel H :=
  ((), { channel with host := Pacer.pauseNanos channel.host ns }.record (.pausedNanos ns))

end Channel

end SpiDisk
