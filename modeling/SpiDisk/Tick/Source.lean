/-!
# `SpiDisk.Tick.Source` — the free-running tick counter

The only clock is an 8-bit counter that wraps every 256 ticks and runs at a known rate. Reading it
may change the source, so `now` hands the source back.

## Contents
- **Interface.** `TickSource`, with `now` and `frequency`.
- **Conversion.** `ticksOfMillis` rounds up and keeps the low 32 bits.
- **A source.** `Counter` moves by a fixed step on every reading.
-/

namespace SpiDisk

/-- The rate of a source that does not state one, in hertz. -/
def defaultFrequency : UInt32 := 60

/-- A source of 8-bit tick counts. -/
class TickSource (C : Type) where
  /-- The current count. -/
  now : C → UInt8 × C
  /-- Ticks per second. -/
  frequency : C → UInt32

/-- The ticks in `ms` milliseconds, rounded up, computed in 64 bits and cut to 32. -/
def ticksOfMillis (ms frequency : UInt32) : UInt32 :=
  ((ms.toUInt64 * frequency.toUInt64 + 999) / 1000).toUInt32

/-- A counter that advances by `step` on every reading. -/
structure Counter where
  value : UInt8
  step : UInt8 := 1
  rate : UInt32 := defaultFrequency

instance : TickSource Counter where
  now c := (c.value, { c with value := c.value + c.step })
  frequency c := c.rate

end SpiDisk
