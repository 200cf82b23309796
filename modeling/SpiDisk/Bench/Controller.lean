import SpiDisk.Bench.Faulty
import SpiDisk.Bench.Script
import SpiDisk.Bench.SimCard

/-!
# `SpiDisk.Bench.Controller` — any board of the bench, with its settings

## Contents
- **Boards.** `Controller`, one of the three kinds of board, and `BenchHost`, such a board with a
  schedule of faults.
- **Settings.** `Settings`, a change of some settings, and `BenchHost.adjust`, which makes it.
-/

namespace SpiDisk

/-- One of the boards of the bench. -/
inductive Controller where
  | sim (card : SimCard)
  | script (script : Script)
  | board (board : TestBoard)

namespace Controller

/-- One read of the board. -/
def read : Controller → Nat → List UInt8 × Option Fault × Controller
  | sim card, count =>
    let (bytes, fault, card) := ByteBus.read card count
    (bytes, fault, sim card)
  | script s, count =>
    let (bytes, fault, s) := ByteBus.read s count
    (bytes, fault, script s)
  | board b, count =>
    let (bytes, fault, b) := ByteBus.read b count
    (bytes, fault, board b)

/-- One write of the board. -/
def write : Controller → List UInt8 → Option Fault × Controller
  | sim card, bytes =>
    let (fault, card) := ByteBus.write card bytes
    (fault, sim card)
  | script s, bytes =>
    let (fault, s) := ByteBus.write s bytes
    (fault, script s)
  | board b, bytes =>
    let (fault, b) := ByteBus.write b bytes
    (fault, board b)

/-- One exchange of the board. -/
def exchange : Controller → List UInt8 → Nat → List UInt8 × Option Fault × Controller
  | sim card, bytes, count =>
    let (got, fault, card) := ByteBus.exchange card bytes count
    (got, fault, sim card)
  | script s, bytes, count =>
    let (got, fault, s) := ByteBus.exchange s bytes count
    (got, fault, script s)
  | board b, bytes, count =>
    let (got, fault, b) := ByteBus.exchange b bytes count
    (got, fault, board b)

/-- One flush of the board. -/
def flush : Controller → Option Fault × Controller
  | sim card =>
    let (fault, card) := ByteBus.flush card
    (fault, sim card)
  | script s =>
    let (fault, s) := ByteBus.flush s
    (fault, script s)
  | board b =>
    let (fault, b) := ByteBus.flush b
    (fault, board b)

/-- Drive the lines of the board. -/
def drive : Controller → UInt8 → List PinMove × Controller
  | sim card, mask =>
    let (pins, card) := ChipSelect.drive card mask
    (pins, sim card)
  | script s, mask =>
    let (pins, s) := ChipSelect.drive s mask
    (pins, script s)
  | board b, mask =>
    let (pins, b) := ChipSelect.drive b mask
    (pins, board b)

/-- Pause for so many microseconds. -/
def pauseMicros : Controller → UInt32 → Controller
  | sim card, us => sim (Pacer.pauseMicros card us)
  | script s, us => script (Pacer.pauseMicros s us)
  | board b, us => board (Pacer.pauseMicros b us)

/-- Pause for so many nanoseconds. -/
def pauseNanos : Controller → UInt32 → Controller
  | sim card, ns => sim (Pacer.pauseNanos card ns)
  | script s, ns => script (Pacer.pauseNanos s ns)
  | board b, ns => board (Pacer.pauseNanos b ns)

theorem length_read (controller : Controller) (count : Nat) :
    (controller.read count).1.length = count := by
  cases controller with
  | sim card => exact ByteBus.length_read card count
  | script source => exact ByteBus.length_read source count
  | board parts => exact ByteBus.length_read parts count

end Controller

instance : Host Controller where
  read := Controller.read
  write := Controller.write
  exchange := Controller.exchange
  flush := Controller.flush
  length_read := Controller.length_read
  drive := Controller.drive
  pauseMicros := Controller.pauseMicros
  pauseNanos := Controller.pauseNanos

/-- A board of the bench with a schedule of faults. -/
abbrev BenchHost := Faulty Controller

/-! ## Settings -/

/-- A change of some of a simulated card's settings. -/
structure SimSettings where
  present : Option Bool := none
  echo : Option UInt32 := none
  initPolls : Option Nat := none
  failWriteBlock : Option (Option Nat) := none
  failReadLba : Option (Option UInt32) := none
  busyAfterBlock : Option Busy := none
  responseGap : Option Nat := none
  tokenlessRead : Option Bool := none
  failReadOcr : Option Bool := none
  /-- A change of the specific data. -/
  csd : Csd → Csd := id

/-- A change of some of a script's settings. -/
structure ScriptSettings where
  /-- Whether to drop what is left first. -/
  clear : Bool := false
  /-- What to append. -/
  more : List UInt8 := []
  idle : Option UInt8 := none

/-- A change of some of a board's settings, those of its kind only. -/
structure Settings where
  schedule : Option FaultSchedule := none
  sim : SimSettings := {}
  script : ScriptSettings := {}
  failFirst : Option Bool := none
  failSecond : Option Bool := none

/-- Change the settings that are named. -/
def SimKnobs.adjust (knobs : SimKnobs) (settings : SimSettings) : SimKnobs where
  present := settings.present.getD knobs.present
  echo := settings.echo.getD knobs.echo
  initPolls := settings.initPolls.getD knobs.initPolls
  failWriteBlock := settings.failWriteBlock.getD knobs.failWriteBlock
  failReadLba := settings.failReadLba.getD knobs.failReadLba
  busyAfterBlock := settings.busyAfterBlock.getD knobs.busyAfterBlock
  responseGap := settings.responseGap.getD knobs.responseGap
  tokenlessRead := settings.tokenlessRead.getD knobs.tokenlessRead
  failReadOcr := settings.failReadOcr.getD knobs.failReadOcr

/-- Change the settings that are named. -/
def Script.adjust (script : Script) (settings : ScriptSettings) : Script where
  queue := (if settings.clear then [] else script.queue) ++ settings.more
  idle := settings.idle.getD script.idle

/-- Change whether a pin always fails, if that is named. -/
def TestPin.adjust (pin : TestPin) (fails : Option Bool) : TestPin :=
  { pin with fails := fails.getD pin.fails }

/-- Change the settings that are named. -/
def Controller.adjust (controller : Controller) (settings : Settings) : Controller :=
  match controller with
  | .sim card =>
    .sim { card with
      knobs := card.knobs.adjust settings.sim
      csd := settings.sim.csd card.csd }
  | .script source => .script (source.adjust settings.script)
  | .board parts =>
    .board { parts with
      bus := parts.bus.adjust settings.script
      lines := ⟨parts.lines.first.adjust settings.failFirst,
        parts.lines.second.adjust settings.failSecond⟩ }

/-- Change the settings that are named. A new schedule does not start the counts again. -/
def BenchHost.adjust (host : BenchHost) (settings : Settings) : BenchHost :=
  { host with
    inner := host.inner.adjust settings
    schedule := settings.schedule.getD host.schedule }

end SpiDisk
