import SpiDisk.Bus.Line

/-!
# `SpiDisk.Bus.Host` — what a board gives to a device

A device needs three things from its board: a shift register that moves bytes both ways, the
chip-select lines, and a way to pause. A `Host` is all three in one.

## Contents
- **Faults.** `Fault`, the kinds of failure a board can report.
- **Parts.** The classes `ByteBus`, `ChipSelect`, `Pacer` and their union `Host`.
- **Boards of separate drivers.** `Parts` puts three drivers together; `SelectPins` makes lines out
  of two active-low pins.
-/

namespace SpiDisk

/-- The kinds of failure that a board reports. -/
inductive Fault where
  | overrun | modeFault | frameFormat | chipSelectFault | other
  deriving DecidableEq

/-- The name of a kind of failure. -/
def Fault.name : Fault → String
  | overrun => "Overrun"
  | modeFault => "ModeFault"
  | frameFormat => "FrameFormat"
  | chipSelectFault => "ChipSelectFault"
  | other => "Other"

/-- One pin of a chip-select line being driven to a level. -/
structure PinMove where
  line : Line
  high : Bool
  fault : Option Fault

/-! ## What a board offers -/

/-- The byte of an idle line, which also goes out while reading. -/
def idleByte : UInt8 := 0xFF

/-- A shift register. Every call may report a fault; a read that does still hands over what the
    register took in. -/
class ByteBus (B : Type) where
  /-- Take in so many bytes while the outgoing line stays high. -/
  read : B → Nat → List UInt8 × Option Fault × B
  /-- Send bytes. -/
  write : B → List UInt8 → Option Fault × B
  /-- Send bytes and take in so many. -/
  exchange : B → List UInt8 → Nat → List UInt8 × Option Fault × B
  /-- Wait until everything sent has left the register. -/
  flush : B → Option Fault × B
  /-- A read takes in as many bytes as were asked for. -/
  length_read : ∀ bus count, (read bus count).1.length = count

/-- The chip-select lines. -/
class ChipSelect (S : Type) where
  /-- Assert the lines in a mask and de-assert the others, telling which pins were driven for it. -/
  drive : S → UInt8 → List PinMove × S

/-- A source of pauses. -/
class Pacer (D : Type) where
  pauseMicros : D → UInt32 → D
  pauseNanos : D → UInt32 → D

/-- Everything a device needs from its board. -/
class Host (H : Type) extends ByteBus H, ChipSelect H, Pacer H

/-! ## Boards of separate drivers -/

/-- A board put together from a shift register, chip-select lines and a source of pauses. -/
structure Parts (B S D : Type) where
  bus : B
  lines : S
  pacer : D

instance {B S D : Type} [ByteBus B] [ChipSelect S] [Pacer D] : Host (Parts B S D) where
  read parts count :=
    let (bytes, fault, bus) := ByteBus.read parts.bus count
    (bytes, fault, { parts with bus })
  write parts bytes :=
    let (fault, bus) := ByteBus.write parts.bus bytes
    (fault, { parts with bus })
  exchange parts bytes count :=
    let (got, fault, bus) := ByteBus.exchange parts.bus bytes count
    (got, fault, { parts with bus })
  flush parts :=
    let (fault, bus) := ByteBus.flush parts.bus
    (fault, { parts with bus })
  length_read parts count := ByteBus.length_read parts.bus count
  drive parts mask :=
    let (moves, lines) := ChipSelect.drive parts.lines mask
    (moves, { parts with lines })
  pauseMicros parts us := { parts with pacer := Pacer.pauseMicros parts.pacer us }
  pauseNanos parts ns := { parts with pacer := Pacer.pauseNanos parts.pacer ns }

/-- An output pin. -/
class Pin (P : Type) where
  /-- Drive the pin high or low. -/
  drive : P → Bool → Option Fault × P

/-- One active-low pin for each line. -/
structure SelectPins (P Q : Type) where
  first : P
  second : Q

instance {P Q : Type} [Pin P] [Pin Q] : ChipSelect (SelectPins P Q) where
  drive pins mask :=
    let firstHigh := mask &&& Line.one.mask == 0
    let secondHigh := mask &&& Line.two.mask == 0
    let (firstFault, first) := Pin.drive pins.first firstHigh
    let (secondFault, second) := Pin.drive pins.second secondHigh
    ([⟨.one, firstHigh, firstFault⟩, ⟨.two, secondHigh, secondFault⟩], ⟨first, second⟩)

end SpiDisk
