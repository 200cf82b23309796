/-!
# `SpiDisk.Disk.Geometry` — cylinders, heads and sectors for a disk known by its size alone

The layouts are tried in a fixed order, by sectors per track and then by heads, and the first whose
cylinders are few enough is taken. What does not fill a cylinder is given up.
-/

namespace SpiDisk

/-- The geometry of a disk. -/
structure Geometry where
  cylinders : UInt32 := 0
  heads : UInt32 := 0
  sectorsPerTrack : UInt32 := 0
  /-- The sectors that the cylinders cover. -/
  logicalSectors : UInt32 := 0
  blockSize : UInt32 := 0
  blockShift : UInt8 := 0
  deriving DecidableEq

namespace Geometry

/-- The numbers of sectors per track, in the order of trial. -/
def trackSizes : List UInt32 := [63, 127, 255]

/-- The numbers of heads, in the order of trial. -/
def headCounts : List UInt32 := [4, 5, 6, 7, 8, 9, 10, 11, 12, 13, 14, 15, 16]

/-- Sectors per track and heads, in the order of trial. -/
def candidates : List (UInt32 × UInt32) :=
  trackSizes.flatMap fun track => headCounts.map fun heads => (track, heads)

/-- The largest disk that must keep within 1023 cylinders, in sectors. -/
def smallDisk : UInt32 := 1024 * 1024

/-- Whether a disk of `total` sectors may have so many cylinders on so many heads. -/
def fits (total cylinders heads : UInt32) : Bool :=
  if total ≤ smallDisk then cylinders ≤ 1023
  else cylinders < 16383 || (cylinders < 32767 && heads ≥ 5) || cylinders ≤ 65535

/-- The first layout that fits; a disk too big for any gets the last one. -/
def choose (total : UInt32) : UInt32 × UInt32 :=
  (candidates.find? fun (track, heads) => fits total (total / (heads * track)) heads).getD (255, 16)

/-- The geometry of a disk of `total` sectors. -/
def ofSectors (total : UInt32) : Geometry :=
  let (track, heads) := choose total
  let cylinders := total / (heads * track)
  { cylinders
    heads
    sectorsPerTrack := track
    logicalSectors := cylinders * heads * track
    blockSize := 512
    blockShift := 0 }

end Geometry

end SpiDisk
