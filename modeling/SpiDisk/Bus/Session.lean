import SpiDisk.Bus.Arbiter
import SpiDisk.Log.Logger
import SpiDisk.Tick.Deadline

/-!
# `SpiDisk.Bus.Session` — operations of a device in its surroundings

An operation of a device may change the device and what it shares with others: the arbiter, the
clock and the logger. It may also never come back: it can wait for a bus that is not given back, or
for a clock that does not move. Such an operation has no outcome, but what it did on its way is done,
and the session stands where it got to. A loop counts as never ending when it takes more rounds than the
`patience` it is given; with more patience it gets further.

## Contents
- **Surroundings.** `Env` and `Session`.
- **Operations.** `SessionM`, with the `outcome` of those that come back: `SessionM.act` for what is done
  at once, `SessionM.within` for operations of a part of a device, `SessionM.never` for one that does not
  come back.
- **Shared means.** `report`, `startDeadline`, `hasPassed`, `waitMillis`.
- **Polling.** `pollUntil`, the one loop behind every wait for an answer.
-/

namespace SpiDisk

/-- What the devices on one controller share. -/
structure Env (C : Type) where
  bus : Arbiter := {}
  clock : C
  log : Logger := {}

/-- A device in its surroundings. -/
structure Session (D C : Type) where
  device : D
  env : Env C

/-! ## Operations -/

/-- An operation of a device. -/
structure SessionM (D C α : Type) where
  /-- How far the operation gets: its result, if it comes back, and the session that it leaves behind or,
      if it does not come back, in which it stands. -/
  advance : Session D C → Option α × Session D C

namespace SessionM

variable {D E C α : Type}

instance : Monad (SessionM D C) where
  pure a := ⟨fun session => (some a, session)⟩
  bind action next := ⟨fun session =>
    match action.advance session with
    | (some a, session) => (next a).advance session
    | (none, session) => (none, session)⟩

/-- The outcome of an operation; it has none if it never comes back. -/
def outcome (action : SessionM D C α) (session : Session D C) : Option (α × Session D C) :=
  match action.advance session with
  | (some a, session) => some (a, session)
  | (none, _) => none

instance : CoeFun (SessionM D C α) fun _ => Session D C → Option (α × Session D C) where
  coe := outcome

/-- Something that is done at once. -/
def act (change : Session D C → α × Session D C) : SessionM D C α :=
  ⟨fun session =>
    let (result, session) := change session
    (some result, session)⟩

/-- An operation of a part of a device. -/
def within (part : D → E) (replace : D → E → D) (action : SessionM E C α) : SessionM D C α :=
  ⟨fun session =>
    let (result, inner) := action.advance ⟨part session.device, session.env⟩
    (result, ⟨replace session.device inner.device, inner.env⟩)⟩

/-- Never come back. -/
def never : SessionM D C α :=
  ⟨fun session => (none, session)⟩

/-- The device as it stands. -/
def device : SessionM D C D :=
  act fun session => (session.device, session)

/-- Change the device and hand over a result. -/
def onDevice (change : D → α × D) : SessionM D C α :=
  act fun session =>
    let (result, device) := change session.device
    (result, { session with device })

/-- Report an event to the logger. -/
def report {N : Type} [Diagnostic N] (event : N) : SessionM D C Unit :=
  act fun session => ((), { session with env.log := session.env.log.report event })

section Clock

variable [TickSource C]

/-- Read the clock, and set a deadline on it. -/
def startDeadline (ms : UInt32) : SessionM D C Deadline :=
  act fun session =>
    let (deadline, clock) := Deadline.start session.env.clock ms
    (deadline, { session with env.clock := clock })

/-- Read the clock, and tell whether a deadline has passed. -/
def hasPassed (deadline : Deadline) : SessionM D C Bool :=
  act fun session =>
    let (passed, clock) := deadline.passed session.env.clock
    (passed, { session with env.clock := clock })

/-- Watch the clock until so many milliseconds have gone by. Nothing else is done meanwhile, so that a wait
    that does not end stands where it began. -/
def waitMillis (patience : Nat) (ms : UInt32) : SessionM D C Unit :=
  ⟨fun session =>
    match wait patience session.env.clock ms with
    | some clock => (some (), { session with env.clock := clock })
    | none => (none, session)⟩

/-- Repeat `attempt` until it yields a value, or until the deadline is found to have passed after an
    attempt that yielded none. -/
def pollUntil (deadline : Deadline) (attempt : SessionM D C (Option α)) :
    Nat → SessionM D C (Option α)
  | 0 => never
  | patience + 1 => do
    match ← attempt with
    | some value => pure (some value)
    | none =>
      if ← hasPassed deadline then pure none else pollUntil deadline attempt patience

end Clock

end SessionM

end SpiDisk
