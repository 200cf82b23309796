import SpiDisk.Bus.Channel
import SpiDisk.Text.Digest

/-!
# `SpiDisk.Bench.Trace` — a channel's dealings with its board as one line of text

Each call on the board is a token: `W`, `R`, `T`, `F` and `C` for write, read, exchange, flush and
lines, `P` for a pin. A pause joins the write or read in front of it, unless that has a pause
already. Equal tokens in a row are written once, with their number.

## Contents
- **Tokens.** `Trace.tokensOf`, the tokens of a history.
- **Text.** `Trace.runs` and `Trace.render`.
-/

namespace SpiDisk

namespace Trace

/-- A token, and whether a pause can still join it. -/
structure Mark where
  text : String
  joinable : Bool := false

/-- The mark of a call that failed. -/
def failure (fault : Option Fault) : String :=
  if fault.isSome then "!" else ""

/-- The token of a pin being driven. -/
def pinMark (pin : PinMove) : Mark where
  text := "P" ++ (match pin.line with | .one => "1" | .two => "2") ++ (if pin.high then "H" else "L")

/-- Let a pause join the latest token, or make it a token of its own. -/
def join (pause : String) : List Mark → List Mark
  | mark :: earlier =>
    if mark.joinable then { text := mark.text ++ pause } :: earlier
    else { text := pause } :: mark :: earlier
  | [] => [{ text := pause }]

/-- Add the tokens of an event to those before it, latest first. -/
def add (marks : List Mark) : Event → List Mark
  | .took | .gave => marks
  | .read bytes fault =>
    { text := "R" ++ failure fault ++ Text.abridged bytes, joinable := true } :: marks
  | .wrote bytes fault =>
    { text := "W" ++ failure fault ++ Text.abridged bytes, joinable := true } :: marks
  | .exchanged sent _ fault => { text := "T" ++ failure fault ++ Text.abridged sent } :: marks
  | .flushed fault => { text := "F" ++ failure fault } :: marks
  | .drove mask pins =>
    (pins.map pinMark).reverse ++ { text := "C" ++ toString mask } :: marks
  | .pausedMicros us => join ("~" ++ toString us) marks
  | .pausedNanos ns => join ("~" ++ toString ns ++ "n") marks

/-- The tokens of events, oldest first. -/
def tokensOf (events : List Event) : List String :=
  ((events.foldl add []).map Mark.text).reverse

/-- Equal neighbours, each with their number. -/
def runs : List String → List (String × Nat)
  | [] => []
  | token :: rest =>
    match runs rest with
    | (next, count) :: others =>
      if token = next then (token, count + 1) :: others else (token, 1) :: (next, count) :: others
    | [] => [(token, 1)]

/-- The text of a run of equal tokens. -/
def runText (run : String × Nat) : String :=
  if run.2 = 1 then run.1 else run.1 ++ "*" ++ toString run.2

/-- The text of events, oldest first. -/
def render (events : List Event) : String :=
  " ".intercalate ((runs (tokensOf events)).map runText)

end Trace

end SpiDisk
