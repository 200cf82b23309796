import SpiDisk.Proofs.Bus.Calls
import SpiDisk.Proofs.Device
import SpiDisk.Proofs.Tick.Counter

/-!
# `SpiDisk.Proofs.Card.Return` — transfers come back

On a counter that moves one tick with every reading a wait is over after at most as many rounds as
its deadline is ticks ahead, which is no more than the horizon. Everything else in a transfer is
over by itself, apart from taking the bus, which comes back to a channel that has no rival.

## Contents
- **Waits.** `returns_pollUntil`, for attempts that leave the clock alone, and `Paced`, a clock on
  which the wait for a byte is over in time.
- **Rivals.** `Alone`, a token that no other channel holds, and `clock_invariant`, for what a clock
  keeps; `Unhindered` and `Enduring`, which are both.
- **The engine.** `Answerable`, for waits on any clock, and one rule for each operation, up to
  `Disk.returns_read` and `Disk.returns_write`.
-/

namespace SpiDisk

/-! ## Waits -/

namespace SessionM

variable {D α β : Type}

section Clock

variable {C : Type} [TickSource C]

/-- **A wait is over** as soon as its deadline is found to have passed, if its attempts come back and leave
    the clock alone. -/
theorem returns_pollUntil {deadline : Deadline} {attempt : SessionM D C (Option α)}
    (hattempt : ∀ s, Returns attempt s)
    (hclock : ∀ s, Ensures attempt s fun _ s' => s'.env.clock = s.env.clock)
    {rounds patience : Nat} (hpatience : rounds < patience) {s : Session D C}
    (hlate : deadline.reachedAt (TickSource.now (ticked rounds s.env.clock)).1 = true) :
    Returns (pollUntil deadline attempt patience) s := by
  induction patience generalizing rounds s with
  | zero => omega
  | succ patience ih =>
    refine (hattempt s).bind ((hclock s).mono ?_)
    rintro (_ | a) s₁ hs₁
    · refine returns_hasPassed.bind (ensures_hasPassed ?_)
      rw [hs₁]
      -- either it has passed already, or one round fewer is left
      cases hpassed : deadline.reachedAt (TickSource.now s.env.clock).1 with
      | true => exact returns_pure
      | false =>
        cases rounds with
        | zero =>
          rw [ticked, hpassed] at hlate
          cases hlate
        | succ rounds =>
          rw [Nat.add_comm rounds 1, ticked_add] at hlate
          exact ih (by omega) hlate
    · exact returns_pure

end Clock

end SessionM

/-- A counter that moves one tick with every reading, on which a wait for a byte takes no more rounds
    than the patience allows. -/
structure Paced (patience : Nat) (clock : Counter) : Prop where
  step : clock.step = 1
  rounds : (min (ticksOfMillis dataTimeout clock.rate) horizon).toNat - 1 < patience

/-- No deadline is further away than the horizon, whatever the rate. -/
theorem paced_of_horizon {patience : Nat} {clock : Counter} (hpatience : horizon.toNat ≤ patience)
    (hstep : clock.step = 1) : Paced patience clock where
  step := hstep
  rounds := by
    have hlength := min_horizon_le (ticksOfMillis dataTimeout clock.rate)
    have hhorizon : 128 ≤ patience := hpatience
    omega

namespace ChannelM

open SessionM CardEngine

variable {H C α : Type} [Host H]

/-! ## Rivals -/

omit [Host H] in
/-- No other channel holds the token. -/
def Alone (s : Session (Channel H) C) : Prop :=
  s.env.bus.held = s.device.owns

theorem alone_invariant [TickSource C] :
    DeviceInvariant (Alone : Session (Channel H) C → Prop) where
  harmless _ _ := trivial
  log _ h := h
  tick h := h
  bytes := CallSteady.steady ⟨fun _ h => h, fun _ h => h, fun _ _ h => h, fun _ h => h⟩
  callFlush _ h := h
  callDrive _ _ h := h
  took _ _ _ := rfl
  closed _ _ _ := rfl
  speed _ h := h
  binding _ _ h := h

/-- What every reading keeps of a clock is kept: nothing but a reading changes a clock. -/
theorem clock_invariant [TickSource C] (P : C → Prop)
    (htick : ∀ clock, P clock → P (TickSource.now clock).2) :
    DeviceInvariant fun s : Session (Channel H) C => P s.env.clock where
  harmless _ _ := trivial
  log _ h := h
  tick h := htick _ h
  bytes := CallSteady.steady ⟨fun _ h => h, fun _ h => h, fun _ _ h => h, fun _ h => h⟩
  callFlush _ h := h
  callDrive _ _ h := h
  took _ _ h := h
  closed {s s'} _ h hrun := by
    show P s'.env.clock
    rw [(reaches_deselect s () s' hrun).clock]
    exact h
  speed _ h := h
  binding _ _ h := h

omit [Host H] in
/-- A channel without a rival gets the bus. -/
theorem returns_obtain {s : Session (Channel H) C} (h : Alone s) : Returns obtain s := by
  rw [Returns, obtain_apply]
  cases howns : s.device.owns with
  | true => exact ⟨_, _, rfl⟩
  | false =>
    have hfree : s.env.bus.held = false := by rw [h, howns]
    rw [hfree]
    exact ⟨_, _, rfl⟩

/-- A channel without a rival on a counter that moves one tick with every reading. -/
structure Unhindered (s : Session (Channel H) Counter) : Prop where
  alone : Alone s
  step : s.env.clock.step = 1

theorem unhindered_invariant :
    DeviceInvariant (Unhindered : Session (Channel H) Counter → Prop) := by
  have hstep : DeviceInvariant fun s : Session (Channel H) Counter => s.env.clock.step = 1 :=
    clock_invariant (fun clock : Counter => clock.step = 1) fun _ h => h
  exact (alone_invariant.and hstep).congr fun s => ⟨fun h => ⟨h.1, h.2⟩, fun h => ⟨h.1, h.2⟩⟩

/-- A channel without a rival on a clock on which no wait for a byte outlasts the patience. -/
structure Enduring (patience : Nat) (s : Session (Channel H) Counter) : Prop where
  alone : Alone s
  paced : Paced patience s.env.clock

omit [Host H] in
theorem Unhindered.enduring {patience : Nat} {s : Session (Channel H) Counter} (h : Unhindered s)
    (hpatience : horizon.toNat ≤ patience) : Enduring patience s :=
  ⟨h.alone, paced_of_horizon hpatience h.step⟩

theorem enduring_invariant (patience : Nat) :
    DeviceInvariant (Enduring patience : Session (Channel H) Counter → Prop) := by
  have hpaced : DeviceInvariant fun s : Session (Channel H) Counter => Paced patience s.env.clock :=
    clock_invariant (Paced patience) fun _ h => ⟨h.step, h.rounds⟩
  exact (alone_invariant.and hpaced).congr fun s => ⟨fun h => ⟨h.1, h.2⟩, fun h => ⟨h.1, h.2⟩⟩

/-! ## The engine -/

/-- Reading a byte leaves the clock alone. -/
theorem clock_readByte {C α : Type} (accept : UInt8 → Option α) (s : Session (Channel H) C) :
    Ensures (do
      let byte ← readByte
      pure (accept byte)) s fun _ s' => s'.env.clock = s.env.clock := by
  have hJ : Steady anyFrame fun s' : Session (Channel H) C => s'.env.clock = s.env.clock :=
    CallSteady.steady ⟨fun _ h => h, fun _ h => h, fun _ _ h => h, fun _ h => h⟩
  exact (keeps_readByte hJ s rfl).bind fun _ _ hs' => ensures_pure hs'

/-- A wait for a byte, begun here, comes back. -/
def Answerable [TickSource C] (patience : Nat) (s : Session (Channel H) C) : Prop :=
  ∀ (α : Type) (accept : UInt8 → Option α),
    Returns (pollUntil (Deadline.start s.env.clock dataTimeout).1 (do
        let byte ← readByte
        pure (accept byte)) patience)
      { s with env.clock := (TickSource.now s.env.clock).2 }

/-- It does if one of the looks at its deadline finds that it has passed. -/
theorem answerable_of_late [TickSource C] {s : Session (Channel H) C} {rounds patience : Nat}
    (hpatience : rounds < patience)
    (hlate : (Deadline.start s.env.clock dataTimeout).1.reachedAt
      (TickSource.now (ticked rounds (TickSource.now s.env.clock).2)).1 = true) :
    Answerable patience s := by
  intro α accept
  refine returns_pollUntil ?_ (clock_readByte accept) hpatience hlate
  intro s'
  exact (returns_readByte s').then fun _ _ => returns_pure

theorem Answerable.waitReady [TickSource C] {s : Session (Channel H) C} {patience : Nat}
    (h : Answerable patience s) : Returns (waitReady patience) s := by
  refine returns_startDeadline.bind (ensures_startDeadline ?_)
  exact (h _ _).then fun _ _ => returns_pure

theorem Answerable.receiveBlock [TickSource C] {s : Session (Channel H) C} {patience : Nat}
    (h : Answerable patience s) (count : Nat) : Returns (receiveBlock patience count) s := by
  refine returns_startDeadline.bind (ensures_startDeadline ?_)
  refine (h _ _).then ?_
  rintro (_ | token) s₁
  · exact returns_report.then fun _ _ => returns_pure
  · dsimp only
    split
    · refine (returns_read count s₁).then fun _ s₂ => ?_
      exact (returns_read 2 s₂).then fun _ _ => returns_pure
    · exact returns_report.then fun _ _ => returns_pure

variable {s : Session (Channel H) Counter} {patience : Nat}

theorem paced_timed (patience : Nat) :
    Timed anyFrame fun s : Session (Channel H) Counter => Paced patience s.env.clock where
  toSteady := CallSteady.steady ⟨fun _ h => h, fun _ h => h, fun _ _ h => h, fun _ h => h⟩
  tick h := ⟨h.step, h.rounds⟩

theorem answerable_of_paced (h : Paced patience s.env.clock) : Answerable patience s := by
  have hlength := min_horizon_le (ticksOfMillis dataTimeout s.env.clock.rate)
  have hstart := elapsed_start h.step dataTimeout
  have hlate := (hstart.ticked
    ((min (ticksOfMillis dataTimeout s.env.clock.rate) horizon).toNat - 1)).reachedAt hlength (by omega)
  exact answerable_of_late h.rounds (hlate.trans (decide_eq_true (by omega)))

theorem returns_waitReady (hpaced : Paced patience s.env.clock) :
    Returns (waitReady patience) s :=
  (answerable_of_paced hpaced).waitReady

theorem returns_receiveBlock (hpaced : Paced patience s.env.clock) (count : Nat) :
    Returns (receiveBlock patience count) s :=
  (answerable_of_paced hpaced).receiveBlock count

theorem returns_receiveBlocks (hpaced : Paced patience s.env.clock) (count : Nat) :
    Returns (receiveBlocks patience count) s := by
  induction count generalizing s with
  | zero => exact returns_pure
  | succ count ih =>
    refine (returns_receiveBlock hpaced sectorSize).bind
      ((upholds_receiveBlock (paced_timed patience) patience sectorSize s hpaced).back.mono ?_)
    rintro (error | block) s₁ hpaced₁
    · exact returns_pure
    · exact (ih hpaced₁).then fun _ _ => returns_pure

theorem returns_readyFor (hpaced : Paced patience s.env.clock) (token : UInt8) :
    Returns (readyFor patience token) s := by
  refine (returns_waitReady hpaced).then fun ready s₁ => ?_
  split
  · exact returns_pure
  · exact returns_report.then fun _ _ => returns_pure

theorem returns_transmitBlock (hpaced : Paced patience s.env.clock) (token : UInt8)
    (bytes : List UInt8) : Returns (transmitBlock patience token bytes) s := by
  refine (returns_readyFor hpaced token).then fun ready s₁ => ?_
  split
  · refine (returns_write _ s₁).then fun _ s₂ => (returns_write _ s₂).then fun _ s₃ => ?_
    refine (returns_write _ s₃).then fun _ s₄ => (returns_readByte s₄).then fun response s₅ => ?_
    split
    · exact returns_pure
    · exact returns_report.then fun _ _ => returns_pure
  · exact returns_pure

theorem returns_transmitBlocks (hpaced : Paced patience s.env.clock) (blocks : List (List UInt8)) :
    Returns (transmitBlocks patience blocks) s := by
  induction blocks generalizing s with
  | nil => exact returns_pure
  | cons block rest ih =>
    refine (returns_transmitBlock hpaced _ block).bind
      ((upholds_transmitBlock (paced_timed patience) patience _ (sayable_any block) s hpaced).back.mono ?_)
    rintro (error | _) s₁ hpaced₁
    · exact returns_pure
    · exact ih hpaced₁

theorem returns_transmitStop (hpaced : Paced patience s.env.clock) :
    Returns (transmitStop patience) s := by
  refine (returns_readyFor hpaced _).then fun ready s₁ => ?_
  split
  · exact (returns_write _ s₁).then fun _ _ => returns_pure
  · exact returns_pure

/-- Selecting a card comes back, whether or not it was ready. -/
theorem returns_selectCard (h : Enduring patience s) :
    Returns (selectCard patience) s := by
  have hI : DeviceInvariant (Enduring patience : Session (Channel H) Counter → Prop) :=
    enduring_invariant patience
  refine (returns_obtain h.alone).bind ((hI.ensures_obtain h).mono fun _ s₁ h₁ => ?_)
  refine (returns_device.then fun _ s' => returns_drive _ s').bind
    ((hI.keeps_select s₁ h₁).mono fun _ s₂ h₂ => ?_)
  refine (returns_readByte s₂).bind ((keeps_readByte hI.timed.toSteady s₂ h₂).mono
    fun _ s₃ h₃ => ?_)
  refine (returns_waitReady h₃.1.paced).then fun ready s₄ => ?_
  split
  · exact returns_pure
  · exact returns_report.then fun _ s₅ => (returns_shutdown s₅).then fun _ _ => returns_pure

theorem returns_sendPlain (h : Enduring patience s) (index : UInt8)
    (argument : UInt32) : Returns (sendPlain patience index argument) s := by
  have hI : DeviceInvariant (Enduring patience : Session (Channel H) Counter → Prop) :=
    enduring_invariant patience
  unfold sendPlain
  split
  · exact returns_exchangeFrame _ _ s
  · refine (returns_shutdown s).bind ((hI.ensures_shutdown h).mono fun _ s₁ h₁ => ?_)
    refine (returns_selectCard h₁.1).then fun ready s₂ => ?_
    split
    · exact returns_exchangeFrame _ _ s₂
    · exact returns_pure

/-- Every command comes back. -/
theorem returns_send (h : Enduring patience s) (command : Command)
    (argument : UInt32) : Returns (send patience command argument) s := by
  have hI : DeviceInvariant (Enduring patience : Session (Channel H) Counter → Prop) :=
    enduring_invariant patience
  unfold send
  split
  · refine (returns_sendPlain h _ 0).bind
      ((hI.throughout_sendPlain patience (by decide) trivial h).back.mono fun r1 s₁ h₁ => ?_)
    split
    · exact returns_pure
    · exact returns_sendPlain h₁.1 _ argument
  · exact returns_sendPlain h _ argument

/-- A read behind its command comes back. -/
theorem returns_readRun (h : Enduring patience s)
    (address : UInt32) (count : Nat) : Returns (readRun patience address count) s := by
  have hI : DeviceInvariant (Enduring patience : Session (Channel H) Counter → Prop) :=
    enduring_invariant patience
  have hindex := Command.ne_stop_of_movesSectors (Command.movesSectors_read count)
  refine (returns_send h _ address).bind
    ((hI.throughout_send patience hindex trivial h).back.mono fun r1 s₁ h₁ => ?_)
  split
  · exact (returns_failureOf r1 s₁).then fun _ _ => returns_pure
  · refine (returns_receiveBlocks h₁.1.paced count).then fun received s₂ => ?_
    split
    · exact (returns_exchangeFrame _ 0 s₂).then fun _ _ => returns_pure
    · exact returns_pure

theorem returns_announceCount (h : Enduring patience s)
    (family : Family) (count : Nat) : Returns (announceCount patience family count) s := by
  unfold announceCount
  split
  · refine (returns_send h _ _).then fun r1 s₁ => ?_
    split
    · exact returns_report
    · exact returns_pure
  · exact returns_pure

theorem returns_writeOne (h : Enduring patience s)
    (address : UInt32) (block : List UInt8) : Returns (writeOne patience address block) s := by
  have hI : DeviceInvariant (Enduring patience : Session (Channel H) Counter → Prop) :=
    enduring_invariant patience
  refine (returns_send h _ address).bind
    ((hI.throughout_send patience (by decide) trivial h).back.mono fun r1 s₁ h₁ => ?_)
  split
  · exact (returns_failureOf r1 s₁).then fun _ _ => returns_pure
  · exact returns_transmitBlock h₁.1.paced _ block

theorem returns_writeMany (h : Enduring patience s)
    (family : Family) (address : UInt32) (blocks : List (List UInt8)) :
    Returns (writeMany patience family address blocks) s := by
  have hI : DeviceInvariant (Enduring patience : Session (Channel H) Counter → Prop) :=
    enduring_invariant patience
  refine (returns_announceCount h family _).bind
    ((hI.upholds_announceCount patience family _ s h).back.mono fun _ s₁ h₁ => ?_)
  refine (returns_send h₁ _ address).bind
    ((hI.throughout_send patience (by decide) trivial h₁).back.mono fun r1 s₂ h₂ => ?_)
  split
  · exact (returns_failureOf r1 s₂).then fun _ _ => returns_pure
  · refine (returns_transmitBlocks h₂.1.paced blocks).bind
      ((upholds_transmitBlocks (paced_timed patience) patience (fun block _ => sayable_any block) s₂
        h₂.1.paced).back.mono fun outcome s₃ h₃ => ?_)
    refine (returns_transmitStop h₃).then fun stop s₄ => ?_
    cases outcome with
    | error error => exact returns_pure
    | ok _ => exact returns_pure

theorem returns_writeRun (h : Enduring patience s)
    (family : Family) (address : UInt32) (blocks : List (List UInt8)) :
    Returns (writeRun patience family address blocks) s := by
  unfold writeRun
  split
  · exact returns_writeOne h address _
  · exact returns_writeMany h family address blocks

/-- **A read of sectors comes back,** whatever the card does. -/
theorem returns_readSectors (h : Enduring patience s)
    (info : CardInfo) (lba : UInt32) (buffer : List UInt8) :
    Returns (readSectors patience info lba buffer) s := by
  unfold readSectors
  dsimp only
  split
  · exact returns_pure
  split
  · exact returns_pure
  unfold fetchRun
  refine Returns.then ?_ fun _ s₁ => (returns_conclude _ _ s₁).then fun _ _ => returns_pure
  split
  · exact returns_pure
  · exact returns_readRun h _ _

/-- **A write of sectors comes back,** whatever the card does. -/
theorem returns_writeSectors (h : Enduring patience s)
    (info : CardInfo) (lba : UInt32) (bytes : List UInt8) :
    Returns (writeSectors patience info lba bytes) s := by
  unfold writeSectors
  dsimp only
  split
  · exact returns_pure
  split
  · exact returns_pure
  unfold storeRun
  refine Returns.then ?_ fun _ s₁ => (returns_conclude _ _ s₁).then fun _ _ => returns_pure
  split
  · exact returns_pure
  · exact returns_writeRun h _ _ _

end ChannelM

namespace Card

open SessionM ChannelM

variable {H : Type} [Host H] {s : Session (Card H) Counter} {patience : Nat}

theorem returns_read (h : Enduring patience (s.at Card.channel))
    (lba : UInt32) (buffer : List UInt8) : Returns (read patience lba buffer) s := by
  refine returns_device.bind (ensures_device ?_)
  exact returns_within (returns_readSectors h _ lba buffer)

theorem returns_write (h : Enduring patience (s.at Card.channel))
    (lba : UInt32) (bytes : List UInt8) : Returns (write patience lba bytes) s := by
  refine returns_device.bind (ensures_device ?_)
  exact returns_within (returns_writeSectors h _ lba bytes)

end Card

namespace Disk

open SessionM ChannelM

variable {H : Type} [Host H] {s : Session (Disk H) Counter} {patience : Nat}

/-- Reading comes back. -/
theorem returns_read (hpatience : horizon.toNat ≤ patience) (h : Unhindered (s.at channel))
    (lba count : UInt32) (buffer : List UInt8) : Returns (read patience lba count buffer) s := by
  obtain ⟨next, hread, hnext⟩ := resumes_read (H := H) (C := Counter) patience lba count buffer
  rw [hread]
  exact hnext.returns (returns_within (Card.returns_read (h.enduring hpatience) lba _))

/-- Writing comes back. -/
theorem returns_write (hpatience : horizon.toNat ≤ patience) (h : Unhindered (s.at channel))
    (lba count : UInt32) (buffer : List UInt8) : Returns (write patience lba count buffer) s := by
  obtain ⟨next, hwrite, hnext⟩ := resumes_write (H := H) (C := Counter) patience lba count buffer
  rw [hwrite]
  exact hnext.returns (returns_within (Card.returns_write (h.enduring hpatience) lba _))

end Disk

end SpiDisk
