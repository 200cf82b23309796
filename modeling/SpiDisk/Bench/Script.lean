import SpiDisk.Bus.Host

/-!
# `SpiDisk.Bench.Script` — boards that say what they are told to say

A script hands out prepared bytes and then an idle byte for ever, and ignores what is written to it.
Together with two recording pins and a stopwatch it makes a board of separate parts.

## Contents
- **Scripts.** `Script`.
- **Parts.** `TestPin`, `Stopwatch` and `TestBoard`.
-/

namespace SpiDisk

/-- A board that hands out prepared bytes. -/
structure Script where
  queue : List UInt8 := []
  /-- What comes when nothing is left. -/
  idle : UInt8 := 0xFF

namespace Script

/-- The next bytes. -/
def next (script : Script) (count : Nat) : List UInt8 × Script :=
  let prepared := script.queue.take count
  (prepared ++ List.replicate (count - prepared.length) script.idle,
    { script with queue := script.queue.drop count })

theorem length_next (script : Script) (count : Nat) : (script.next count).1.length = count := by
  simp only [next, List.length_append, List.length_replicate, List.length_take]
  omega

end Script

instance : ByteBus Script where
  read script count :=
    let (bytes, script) := script.next count
    (bytes, none, script)
  write script _ := (none, script)
  exchange script _ count :=
    let (bytes, script) := script.next count
    (bytes, none, script)
  flush script := (none, script)
  length_read script count := script.length_next count

instance : Host Script where
  drive script _ := ([], script)
  pauseMicros script _ := script
  pauseNanos script _ := script

/-! ## Parts -/

/-- A pin that remembers its level, unless it always fails. -/
structure TestPin where
  high : Bool := true
  fails : Bool := false

instance : Pin TestPin where
  drive pin high := if pin.fails then (some .other, pin) else (none, { pin with high })

/-- A source of pauses that adds them up. -/
structure Stopwatch where
  micros : Nat := 0
  nanos : Nat := 0

instance : Pacer Stopwatch where
  pauseMicros watch us := { watch with micros := watch.micros + us.toNat }
  pauseNanos watch ns := { watch with nanos := watch.nanos + ns.toNat }

/-- A board of a script, two pins and a stopwatch. -/
abbrev TestBoard := Parts Script (SelectPins TestPin TestPin) Stopwatch

/-- A board with the given script, whose pins are high. -/
def TestBoard.new (script : Script) : TestBoard where
  bus := script
  lines := ⟨{}, {}⟩
  pacer := {}

end SpiDisk
