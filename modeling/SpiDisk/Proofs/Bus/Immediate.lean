import SpiDisk.Card.Transfer
import SpiDisk.Proofs.Outcome

/-!
# `SpiDisk.Proofs.Bus.Immediate` — what a channel does without waiting

A channel waits for the token, for a byte of its card and for the clock. Everything else that it does
comes back by itself, whatever the board answers, and is `Immediate`.

## Contents
- **The token.** `taken` and `given`, and what `obtain` and `release` come to.
- **Bytes and lines.** Moving bytes, driving lines, and leaving the bus clean.
- **Exchanges.** What is left of a command or a transfer once its card was waited for.
- **Binding.** `returns_bindTo`.
-/

namespace SpiDisk

namespace ChannelM

open SessionM CardEngine

variable {H C α : Type}

/-! ## The token -/

/-- The session after its channel took the bus. -/
def taken (s : Session (Channel H) C) : Session (Channel H) C :=
  { s with
    device := { s.device with owns := true }.record .took
    env.bus.held := true }

/-- The session after its channel gave the bus back. -/
def given (s : Session (Channel H) C) : Session (Channel H) C :=
  { s with
    device := { s.device with owns := false }.record .gave
    env.bus.held := false }

theorem obtain_advance (s : Session (Channel H) C) : obtain.advance s =
    if s.device.owns then (some (), s)
    else if s.env.bus.held then (none, s) else (some (), taken s) :=
  rfl

theorem obtain_apply (s : Session (Channel H) C) : obtain s =
    if s.device.owns then some ((), s)
    else if s.env.bus.held then none else some ((), taken s) := by
  rw [outcome, obtain_advance]
  cases s.device.owns with
  | true => rfl
  | false =>
    cases s.env.bus.held with
    | true => rfl
    | false => rfl

/-- Whoever waits for the token stands where it was. -/
theorem throughout_obtain {J : Session (Channel H) C → Prop} {s : Session (Channel H) C}
    {post : Unit → Session (Channel H) C → Prop} (hback : Ensures obtain s post) (h : J s) :
    Throughout J obtain s post where
  back := hback
  stands := by
    intro t hstands
    rw [obtain_advance] at hstands
    split at hstands
    · cases hstands
    split at hstands
    · cases hstands
      exact h
    · cases hstands

theorem release_apply (s : Session (Channel H) C) : release s =
    some ((), if s.device.owns then given s else s) := by
  rw [release, act_apply]
  cases s.device.owns with
  | true => rfl
  | false => rfl

theorem returns_release (s : Session (Channel H) C) : Returns release s :=
  ⟨_, _, release_apply s⟩

/-! ## Bytes and lines -/

variable [Host H]

theorem returns_shiftIn (count : Nat) (s : Session (Channel H) C) : Returns (shiftIn count) s := by
  refine returns_onDevice.then ?_
  rintro ⟨bytes, _ | fault⟩ s'
  · exact returns_pure
  · exact returns_report.then fun _ _ => returns_pure

theorem returns_shiftOut (bytes : List UInt8) (s : Session (Channel H) C) :
    Returns (shiftOut bytes) s := by
  refine returns_onDevice.then ?_
  rintro (_ | fault) s'
  · exact returns_pure
  · exact returns_report

theorem returns_readPaced (count : Nat) (s : Session (Channel H) C) :
    Returns (readPaced count) s := by
  induction count generalizing s with
  | zero => exact returns_pure
  | succ count ih =>
    refine (returns_shiftIn 1 s).then fun _ _ => returns_onDevice.then fun _ s₁ => ?_
    exact (ih s₁).then fun _ _ => returns_pure

theorem returns_writePaced (bytes : List UInt8) (s : Session (Channel H) C) :
    Returns (writePaced bytes) s := by
  induction bytes generalizing s with
  | nil => exact returns_pure
  | cons byte rest ih =>
    exact (returns_shiftOut [byte] s).then fun _ _ => returns_onDevice.then fun _ s₁ => ih s₁

theorem returns_read (count : Nat) (s : Session (Channel H) C) : Returns (read count) s := by
  refine returns_device.then fun device s' => ?_
  cases device.speed with
  | fast => exact returns_shiftIn count s'
  | slow => exact returns_readPaced count s'

instance (count : Nat) : Immediate (read count : ChannelM H C (List UInt8)) :=
  ⟨returns_read count⟩

theorem returns_readByte (s : Session (Channel H) C) : Returns readByte s :=
  (returns_read 1 s).then fun _ _ => returns_pure

instance : Immediate (readByte : ChannelM H C UInt8) :=
  ⟨returns_readByte⟩

theorem returns_write (bytes : List UInt8) (s : Session (Channel H) C) :
    Returns (write bytes) s := by
  refine returns_device.then fun device s' => ?_
  cases device.speed with
  | fast => exact returns_shiftOut bytes s'
  | slow => exact returns_writePaced bytes s'

instance (bytes : List UInt8) : Immediate (write bytes : ChannelM H C Unit) :=
  ⟨returns_write bytes⟩

omit [Host H] in
theorem returns_reportPins (faults : List Fault) (s : Session (Channel H) C) :
    Returns (faults.forM fun fault => report (BusNote.pinFailed fault)) s := by
  induction faults generalizing s with
  | nil => exact returns_pure
  | cons fault rest ih => exact returns_report.then fun _ s' => ih s'

theorem returns_drive (mask : UInt8) (s : Session (Channel H) C) : Returns (drive mask) s :=
  returns_onDevice.then fun _ s' => returns_reportPins _ s'

theorem returns_select (s : Session (Channel H) C) : Returns select s :=
  returns_device.then fun _ s' => returns_drive _ s'

instance : Immediate (select : ChannelM H C Unit) :=
  ⟨returns_select⟩

theorem returns_deselect (s : Session (Channel H) C) : Returns deselect s := by
  refine returns_onDevice.then ?_
  rintro (_ | fault) s'
  · exact (returns_drive 0 s').then fun _ s'' => returns_write _ s''
  · refine returns_report.then fun _ s₁ => ?_
    exact (returns_drive 0 s₁).then fun _ s₂ => returns_write _ s₂

instance : Immediate (deselect : ChannelM H C Unit) :=
  ⟨returns_deselect⟩

theorem returns_shutdown (s : Session (Channel H) C) : Returns shutdown s := by
  refine returns_device.then fun device s' => ?_
  split
  · exact (returns_deselect s').then fun _ s'' => returns_release s''
  · exact returns_pure

instance : Immediate (shutdown : ChannelM H C Unit) :=
  ⟨returns_shutdown⟩

omit [Host H] in
instance (speed : Speed) : Immediate (setSpeed speed : ChannelM H C Unit) :=
  ⟨fun _ => returns_onDevice⟩

/-! ## Exchanges -/

theorem returns_awaitResponse (polls : Nat) (s : Session (Channel H) C) :
    Returns (awaitResponse polls) s := by
  induction polls generalizing s with
  | zero => exact returns_pure
  | succ polls ih =>
    refine (returns_readByte s).then fun byte s' => ?_
    split
    · exact returns_pure
    · split
      · exact returns_pure
      · exact ih s'

theorem returns_exchangeFrame (index : UInt8) (argument : UInt32) (s : Session (Channel H) C) :
    Returns (exchangeFrame index argument) s := by
  refine returns_report.then fun _ s₁ => (returns_write _ s₁).then fun _ s₂ => ?_
  split
  · exact (returns_readByte s₂).then fun _ s₃ => returns_awaitResponse _ s₃
  · exact returns_awaitResponse _ s₂

instance (index : UInt8) (argument : UInt32) :
    Immediate (exchangeFrame index argument : ChannelM H C UInt8) :=
  ⟨returns_exchangeFrame index argument⟩

/-- The stop command needs no bracket of its own. -/
instance [TickSource C] (patience : Nat) (argument : UInt32) :
    Immediate (send patience Command.stopTransmission argument : ChannelM H C UInt8) :=
  ⟨returns_exchangeFrame _ argument⟩

theorem returns_readWord (s : Session (Channel H) C) : Returns readWord s :=
  (returns_read 4 s).then fun _ _ => returns_pure

instance : Immediate (readWord : ChannelM H C UInt32) :=
  ⟨returns_readWord⟩

omit [Host H] in
theorem returns_failureOf (r1 : UInt8) (s : Session (Channel H) C) : Returns (failureOf r1) s := by
  unfold failureOf
  split
  · exact returns_report.then fun _ _ => returns_pure
  · exact returns_pure

instance (r1 : UInt8) : Immediate (failureOf r1 : ChannelM H C CardError) :=
  ⟨returns_failureOf r1⟩

omit [Host H] in
theorem returns_requireReady (index r1 : UInt8) (s : Session (Channel H) C) :
    Returns (requireReady index r1) s := by
  unfold requireReady
  split
  · exact returns_pure
  · exact returns_report.then fun _ s₁ => (returns_failureOf r1 s₁).then fun _ _ => returns_pure

instance (index r1 : UInt8) : Immediate (requireReady index r1 : ChannelM H C (Except CardError Unit)) :=
  ⟨returns_requireReady index r1⟩

omit [Host H] in
theorem returns_requireSize (size : Except Csd.SizeFault α) (s : Session (Channel H) C) :
    Returns (requireSize size) s := by
  cases size with
  | ok value => exact returns_pure
  | error fault => exact returns_report.then fun _ _ => returns_pure

instance (size : Except Csd.SizeFault α) :
    Immediate (requireSize size : ChannelM H C (Except CardError α)) :=
  ⟨returns_requireSize size⟩

theorem returns_conclude {N : Type} [Diagnostic N] (note : CardError → N)
    (outcome : Except CardError Unit) (s : Session (Channel H) C) :
    Returns (conclude note outcome) s := by
  refine (returns_shutdown s).then fun _ s₁ => ?_
  cases outcome with
  | ok _ => exact returns_pure
  | error error => exact returns_report

instance {N : Type} [Diagnostic N] (note : CardError → N) (outcome : Except CardError Unit) :
    Immediate (conclude note outcome : ChannelM H C Unit) :=
  ⟨returns_conclude note outcome⟩

/-! ## Binding -/

omit [Host H] in
theorem returns_rebind (line : Line) (s : Session (Channel H) C) : Returns (rebind line) s := by
  refine returns_device.then fun channel s₁ => ?_
  split
  · exact returns_pure
  · exact Returns.then ⟨_, _, act_apply _ s₁⟩ fun _ s₂ => ⟨_, _, act_apply _ s₂⟩

/-- Binding always comes back: the bus is given up for it and never waited for. -/
theorem returns_bindTo (id : UInt8) (s : Session (Channel H) C) : Returns (bindTo id) s := by
  unfold bindTo
  cases Line.ofByte id with
  | error refusal => exact returns_pure
  | ok line =>
    refine (returns_shutdown s).then fun _ s₁ => (returns_rebind line s₁).then ?_
    rintro (refusal | _) s₂
    · exact returns_pure
    · exact returns_onDevice.then fun _ _ => returns_report.then fun _ _ => returns_pure

instance (id : UInt8) : Immediate (bindTo id : ChannelM H C (Except BusError Unit)) :=
  ⟨returns_bindTo id⟩

end ChannelM

end SpiDisk
