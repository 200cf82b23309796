import SpiDisk.Log.Level
import SpiDisk.Text.Hex

/-!
# `SpiDisk.Log.Logger` — numbered records, written to one sink

The first sink that is offered is kept for good; later offers only change the threshold. A record
that passes the threshold gets the next number and is written to that sink as one line.

## Contents
- **Records.** `Record`, and `Record.render`, the form of a line.
- **Diagnostics.** `Diagnostic`, the types of events that can be reported.
- **The logger.** `Logger.attach`, `Logger.setThreshold`, `Logger.write`, `Logger.report`.
-/

namespace SpiDisk

/-- A message with its severity and the part of the library that it comes from. -/
structure Record where
  level : Level
  target : String
  message : String

/-- The line of a record: its number in eight columns, its level in five, its target, its message. -/
def Record.render (record : Record) (number : UInt32) : String :=
  "[" ++ Text.padLeft ' ' 8 (toString number) ++ "] [" ++ Text.padRight ' ' 5 record.level.name ++ "] "
    ++ record.target ++ ": " ++ record.message ++ "\n"

/-- Events that can be reported: each has a severity, a target and a text. -/
class Diagnostic (N : Type) where
  level : N → Level
  target : N → String
  text : N → String

/-- The record of an event. -/
def Record.of {N : Type} [Diagnostic N] (event : N) : Record :=
  ⟨Diagnostic.level event, Diagnostic.target event, Diagnostic.text event⟩

/-- A place that takes log text. -/
structure Sink where
  id : Nat
  deriving DecidableEq

/-- The logger's threshold, its sink, the number of the next record, and what was written, latest first. -/
structure Logger where
  threshold : Threshold := none
  sink : Option Sink := none
  next : UInt32 := 0
  written : List (Sink × String) := []

namespace Logger

/-- Offer a sink, which is kept only if there is none yet, and set the threshold. -/
def attach (logger : Logger) (sink : Sink) (threshold : Threshold) : Logger :=
  { logger with sink := some (logger.sink.getD sink), threshold }

/-- Set the threshold alone. -/
def setThreshold (logger : Logger) (threshold : Threshold) : Logger :=
  { logger with threshold }

/-- Whether records of `level` are written. -/
def enabled (logger : Logger) (level : Level) : Bool :=
  logger.threshold.admits level

/-- Write a record, if it passes the threshold and there is a sink. -/
def write (logger : Logger) (record : Record) : Logger :=
  if logger.enabled record.level then
    match logger.sink with
    | none => logger
    | some sink =>
      { logger with
        next := logger.next + 1
        written := (sink, record.render logger.next) :: logger.written }
  else logger

/-- Write the record of an event; its text is made only if it passes. -/
def report {N : Type} [Diagnostic N] (logger : Logger) (event : N) : Logger :=
  if logger.enabled (Diagnostic.level event) then logger.write (Record.of event) else logger

/-- The text that `sink` has received, oldest first. -/
def received (logger : Logger) (sink : Sink) : String :=
  String.join (((logger.written.filter fun entry => entry.1 = sink).map Prod.snd).reverse)

/-- Forget what was written, keeping the numbering. -/
def drained (logger : Logger) : Logger :=
  { logger with written := [] }

end Logger

end SpiDisk
