import SpiDisk.Bus.Host

/-!
# `SpiDisk.Bench.Faulty` — boards whose calls fail by a schedule

A faulty board counts its reads, writes and flushes, and fails those that its schedule names. A read
that fails still moves bytes in the board underneath; a write or flush that fails never reaches it.
-/

namespace SpiDisk

/-- The calls that fail, each kind counted from zero, and how they fail. -/
structure FaultSchedule where
  read : Nat → Bool := fun _ => false
  write : Nat → Bool := fun _ => false
  flush : Nat → Bool := fun _ => false
  kind : Fault := .other

/-- A schedule that names the failing calls one by one. -/
def FaultSchedule.ofLists (reads writes flushes : List Nat) (kind : Fault) : FaultSchedule where
  read n := reads.contains n
  write n := writes.contains n
  flush n := flushes.contains n
  kind := kind

/-- A board whose calls fail by a schedule, and how many there were of each kind. -/
structure Faulty (H : Type) where
  inner : H
  schedule : FaultSchedule := {}
  reads : Nat := 0
  writes : Nat := 0
  flushes : Nat := 0

instance {H : Type} [Host H] : Host (Faulty H) where
  read board count :=
    let (bytes, fault, inner) := ByteBus.read board.inner count
    (bytes,
      if board.schedule.read board.reads then some board.schedule.kind else fault,
      { board with inner, reads := board.reads + 1 })
  write board bytes :=
    let counted := { board with writes := board.writes + 1 }
    if board.schedule.write board.writes then (some board.schedule.kind, counted)
    else
      let (fault, inner) := ByteBus.write board.inner bytes
      (fault, { counted with inner })
  exchange board bytes count :=
    let (got, fault, inner) := ByteBus.exchange board.inner bytes count
    (got, fault, { board with inner })
  flush board :=
    let counted := { board with flushes := board.flushes + 1 }
    if board.schedule.flush board.flushes then (some board.schedule.kind, counted)
    else
      let (fault, inner) := ByteBus.flush board.inner
      (fault, { counted with inner })
  length_read board count := ByteBus.length_read board.inner count
  drive board mask :=
    let (pins, inner) := ChipSelect.drive board.inner mask
    (pins, { board with inner })
  pauseMicros board us := { board with inner := Pacer.pauseMicros board.inner us }
  pauseNanos board ns := { board with inner := Pacer.pauseNanos board.inner ns }

end SpiDisk
