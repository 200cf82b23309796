/-!
# `SpiDisk.Log.Level` — severities and the threshold that lets them through
-/

namespace SpiDisk

/-- How serious a record is, the most serious first. -/
inductive Level where
  | error | warn | info | debug | trace
  deriving DecidableEq

namespace Level

/-- The rank of a level; a higher rank is less serious. -/
def rank : Level → Nat
  | error => 1
  | warn => 2
  | info => 3
  | debug => 4
  | trace => 5

/-- The name of a level. -/
def name : Level → String
  | error => "ERROR"
  | warn => "WARN"
  | info => "INFO"
  | debug => "DEBUG"
  | trace => "TRACE"

end Level

/-- The least serious level that is still written, if any is. -/
abbrev Threshold := Option Level

namespace Threshold

/-- The name of a threshold. -/
def name : Threshold → String
  | none => "OFF"
  | some level => level.name

/-- Whether records of `level` pass. -/
def admits (threshold : Threshold) (level : Level) : Bool :=
  match threshold with
  | none => false
  | some limit => level.rank ≤ limit.rank

end Threshold

end SpiDisk
