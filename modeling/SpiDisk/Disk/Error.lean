/-!
# `SpiDisk.Disk.Error` — the codes that the disk subsystem understands
-/

namespace SpiDisk

/-- The failures of a disk operation. -/
inductive DiskError where
  /-- There is no usable card. -/
  | openFail
  /-- The transfer failed. -/
  | aborted
  /-- The operation does not exist for this disk. -/
  | noCommand
  /-- The buffer is too small for the transfer. -/
  | badLength
  deriving DecidableEq

namespace DiskError

/-- All failures. -/
def all : List DiskError := [openFail, aborted, noCommand, badLength]

/-- The number of a failure. -/
def code : DiskError → Int
  | openFail => -1
  | aborted => -2
  | noCommand => -3
  | badLength => -4

/-- What a failure is called. -/
def phrase : DiskError → String
  | openFail => "open failed"
  | aborted => "I/O aborted"
  | noCommand => "command not supported"
  | badLength => "bad length"

/-- The wording of a failure, with its number. -/
def message (error : DiskError) : String :=
  error.phrase ++ " (" ++ toString error.code ++ ")"

end DiskError

end SpiDisk
