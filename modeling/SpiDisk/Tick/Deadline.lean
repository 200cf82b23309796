import SpiDisk.Tick.Source

/-!
# `SpiDisk.Tick.Deadline` — deadlines on a wrapping counter

A deadline is a counter value at most 128 ticks ahead. It counts as passed while the counter is
within the 127 ticks at or after it, and as still ahead in the other half of the counter's range.

## Contents
- **Deadlines.** `Deadline.start`, `Deadline.startTicks`, `Deadline.passed`.
- **Waiting.** `wait`, which watches the counter until enough ticks have gone by.
-/

namespace SpiDisk

variable {C : Type} [TickSource C]

/-- The furthest a deadline may lie ahead, in ticks. -/
def horizon : UInt32 := 128

/-- The counter value at which a deadline passes. -/
structure Deadline where
  due : UInt8

namespace Deadline

/-- The deadline `ticks` ticks from now, or at the horizon if that is nearer. -/
def startTicks (clock : C) (ticks : UInt32) : Deadline × C :=
  let (count, clock) := TickSource.now clock
  (⟨count + (min ticks horizon).toUInt8⟩, clock)

/-- The deadline `ms` milliseconds from now. -/
def start (clock : C) (ms : UInt32) : Deadline × C :=
  startTicks clock (ticksOfMillis ms (TickSource.frequency clock))

/-- Whether a count lies within 127 ticks at or after the deadline. -/
def reachedAt (deadline : Deadline) (count : UInt8) : Bool :=
  count - deadline.due ≤ 127

/-- Read the counter and tell whether the deadline has passed. -/
def passed (deadline : Deadline) (clock : C) : Bool × C :=
  let (count, clock) := TickSource.now clock
  (deadline.reachedAt count, clock)

end Deadline

/-! ## Waiting -/

/-- Read the counter until it stands `ticks` or more after `start`. The wait is given up, as one that
    never ends, when `patience` readings were not enough. -/
def waitFrom (start ticks : UInt8) : Nat → C → Option C
  | 0, _ => none
  | patience + 1, clock =>
    let (count, clock) := TickSource.now clock
    if count - start < ticks then waitFrom start ticks patience clock else some clock

/-- Wait for `ms` milliseconds, but for no more than 255 ticks. -/
def wait (patience : Nat) (clock : C) (ms : UInt32) : Option C :=
  let ticks := (min (ticksOfMillis ms (TickSource.frequency clock)) 255).toUInt8
  let (start, clock) := TickSource.now clock
  waitFrom start ticks patience clock

end SpiDisk
