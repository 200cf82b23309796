import SpiDisk.Proofs.Tick.Duration

/-!
# `SpiDisk.Proofs.Tick.Counter` — deadlines on a counter that moves by one

A counter that moves one tick with every reading turns every question about time into one about how
often it was read. A deadline on it counts as passed from its length on, as long as no more than 127
ticks went by since.

## Contents
- **Readings.** `ticked_counter` and `Spent`.
- **Waits.** `Waits`, for how many readings a wait for data may last on a clock.
- **Deadlines.** `Elapsed`, the ticks since a deadline was set, and `Elapsed.reachedAt`.
- **Tallies.** `Tally`, a counter that is not forgotten to have wrapped, and `Tally.reachedAt_of_le`, what a
  deadline on it looks like.
-/

namespace SpiDisk

namespace SessionM

/-! ## Readings -/

theorem ticked_counter {clock : Counter} (hstep : clock.step = 1) (readings : Nat) :
    ticked readings clock = { clock with value := clock.value + UInt8.ofNat readings } := by
  induction readings with
  | zero =>
    have hvalue : clock.value + UInt8.ofNat 0 = clock.value := UInt8.add_zero _
    rw [hvalue]
    rfl
  | succ readings ih =>
    have hnext : clock.value + UInt8.ofNat (readings + 1) =
        clock.value + UInt8.ofNat readings + clock.step := by
      rw [hstep, UInt8.ofNat_add, UInt8.add_assoc]
      rfl
    rw [ticked, ih, hnext]
    rfl

/-- A clock was read, at least and at most so often. -/
def Spent {C : Type} [TickSource C] (least most : Nat) (clock clock' : C) : Prop :=
  ∃ readings, least ≤ readings ∧ readings ≤ most ∧ clock' = ticked readings clock

theorem Spent.trans {C : Type} [TickSource C] {least most least' most' : Nat}
    {clock clock' clock'' : C} (h : Spent least most clock clock')
    (h' : Spent least' most' clock' clock'') :
    Spent (least + least') (most + most') clock clock'' := by
  obtain ⟨m, hleast, hmost, rfl⟩ := h
  obtain ⟨n, hleast', hmost', rfl⟩ := h'
  exact ⟨m + n, by omega, by omega, (ticked_add m n clock).symm⟩

theorem Spent.mono {C : Type} [TickSource C] {least most least' most' : Nat} {clock clock' : C}
    (h : Spent least most clock clock') (hleast : least' ≤ least) (hmost : most ≤ most') :
    Spent least' most' clock clock' := by
  obtain ⟨n, h₁, h₂, hclock⟩ := h
  exact ⟨n, by omega, by omega, hclock⟩

theorem spent_one {C : Type} [TickSource C] (clock : C) :
    Spent 1 1 clock (TickSource.now clock).2 :=
  ⟨1, Nat.le_refl 1, Nat.le_refl 1, rfl⟩

end SessionM

open SessionM

/-! ## Waits -/

/-- A wait for data, begun at any reading from now on, is found to be over so many readings later. -/
structure Waits {C : Type} [TickSource C] (longest : Nat) (clock : C) : Prop where
  pos : 0 < longest
  expires : ∀ n, (Deadline.start (ticked n clock) dataTimeout).1.reachedAt
    (TickSource.now (ticked (n + longest) clock)).1 = true

theorem Waits.spent {C : Type} [TickSource C] {longest least most : Nat} {clock clock' : C}
    (h : Waits longest clock) (hspent : Spent least most clock clock') : Waits longest clock' := by
  obtain ⟨readings, -, -, rfl⟩ := hspent
  refine ⟨h.pos, fun n => ?_⟩
  rw [← ticked_add, ← ticked_add, ← Nat.add_assoc]
  exact h.expires (readings + n)

/-! ## Deadlines -/

/-- So many ticks went by since a deadline of so many ticks was set, on a counter that moves by one. -/
structure Elapsed (deadline : Deadline) (length elapsed : Nat) (clock : Counter) : Prop where
  step : clock.step = 1
  value : clock.value + UInt8.ofNat length = deadline.due + UInt8.ofNat elapsed

theorem min_horizon_le (ticks : UInt32) : (min ticks horizon).toNat ≤ 128 := by
  rw [toNat_min_horizon]
  exact Nat.min_le_right _ _

/-- Setting a deadline takes one reading. -/
theorem elapsed_start {clock : Counter} (hstep : clock.step = 1) (ms : UInt32) :
    Elapsed (Deadline.start clock ms).1 (min (ticksOfMillis ms clock.rate) horizon).toNat 1
      (TickSource.now clock).2 where
  step := hstep
  value := by
    show clock.value + clock.step + UInt8.ofNat _ = clock.value + UInt8.ofNat _ + UInt8.ofNat 1
    rw [hstep, UInt8.add_assoc, UInt8.add_assoc, UInt8.add_comm 1]
    rfl

theorem Elapsed.ticked {deadline : Deadline} {length elapsed : Nat} {clock : Counter}
    (h : Elapsed deadline length elapsed clock) (readings : Nat) :
    Elapsed deadline length (elapsed + readings) (ticked readings clock) := by
  rw [ticked_counter h.step]
  refine ⟨h.step, ?_⟩
  show clock.value + UInt8.ofNat readings + UInt8.ofNat length = _
  rw [UInt8.add_assoc, UInt8.add_comm (UInt8.ofNat readings), ← UInt8.add_assoc, h.value,
    UInt8.add_assoc, ← UInt8.ofNat_add]

theorem Elapsed.spent {deadline : Deadline} {length elapsed least most : Nat}
    {clock clock' : Counter} (h : Elapsed deadline length elapsed clock)
    (hspent : Spent least most clock clock') :
    ∃ later, elapsed + least ≤ later ∧ later ≤ elapsed + most ∧
      Elapsed deadline length later clock' := by
  obtain ⟨n, hleast, hmost, rfl⟩ := hspent
  exact ⟨elapsed + n, by omega, by omega, h.ticked n⟩

/-- **A deadline has passed** from its length on, for as long as the counter can tell. -/
theorem Elapsed.reachedAt {deadline : Deadline} {length elapsed : Nat} {clock : Counter}
    (h : Elapsed deadline length elapsed clock) (hlength : length ≤ 128)
    (hwindow : elapsed ≤ length + 127) :
    deadline.reachedAt clock.value = decide (length ≤ elapsed) :=
  reachedAt_of_le h.value hlength hwindow

/-! ## Tallies -/

/-- A counter that moves one tick with every reading. It shows eight bits like any other, but here all
    the readings are known. -/
structure Tally where
  readings : Nat
  rate : UInt32 := defaultFrequency

instance : TickSource Tally where
  now tally := (UInt8.ofNat tally.readings, { tally with readings := tally.readings + 1 })
  frequency tally := tally.rate

theorem ticked_tally (readings : Nat) (tally : Tally) :
    ticked readings tally = { tally with readings := tally.readings + readings } := by
  induction readings with
  | zero => rfl
  | succ readings ih =>
    rw [ticked, ih]
    rfl

namespace Tally

/-- The ticks that a deadline lies ahead. -/
def span (tally : Tally) (ms : UInt32) : Nat :=
  (min (ticksOfMillis ms tally.rate) horizon).toNat

theorem advance_eq (tally : Tally) (n : Nat) : advance tally n = 1 := by
  have hcount : ∀ n, countAt tally n = UInt8.ofNat (tally.readings + n) := by
    intro n
    rw [countAt, ticked_tally]
    rfl
  have hdiff : ∀ count : UInt8, count + 1 - count = 1 := by grind
  rw [advance, hcount, hcount, ← Nat.add_assoc, UInt8.ofNat_add]
  exact congrArg UInt8.toNat (hdiff _)

theorem elapsed_eq (tally : Tally) (readings : Nat) : elapsed tally readings = readings := by
  induction readings with
  | zero => rfl
  | succ readings ih => rw [elapsed, ih, advance_eq]

theorem ahead_eq_span (tally : Tally) (ms : UInt32) : Deadline.ahead tally ms = tally.span ms := by
  rw [ahead_eq, span, toNat_min_horizon, toNat_ticksOfMillis_eq]
  rfl

/-- Until 128 ticks behind it, a deadline is told right. -/
theorem reachedAt_of_le (tally : Tally) (ms : UInt32) {readings : Nat}
    (h : readings ≤ tally.span ms + 127) :
    (Deadline.start tally ms).1.reachedAt (TickSource.now (ticked readings tally)).1 =
      decide (tally.span ms ≤ readings) := by
  have htold := reachedAt_elapsed tally ms (n := readings)
  rw [elapsed_eq, ahead_eq_span] at htold
  exact htold h

theorem waits (tally : Tally) : Waits (max 1 (tally.span dataTimeout)) tally := by
  refine ⟨by omega, fun n => ?_⟩
  have hspan : (ticked n tally).span dataTimeout = tally.span dataTimeout := by
    rw [ticked_tally]
    rfl
  rw [ticked_add, (ticked n tally).reachedAt_of_le dataTimeout (by omega), hspan]
  exact decide_eq_true (by omega)

end Tally

end SpiDisk
