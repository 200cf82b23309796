import Mathlib.Algebra.BigOperators.Group.Finset.Basic
import Mathlib.Data.Int.GCD
import SpiDisk.Proofs.Tick.Duration

/-!
# `SpiDisk.Proofs.Tick.Waiting` — waits that come to an end

A wait watches a counter of eight bits until it stands far enough behind where it was first seen. Nothing
grows on the way that could not wrap, so that the end of a wait is where the counter goes, and no more than
that. Two kinds of clock are told here. One moves at every reading, by so little that it cannot jump over
the counts at which the wait is over. The other moves by one and the same step, and may jump as far as it
likes: the counts that it ever shows are the multiples of the greatest common divisor of its step and 256,
and the wait ends if the last of them is late enough.

## Contents
- **Steps.** `StepsBy`, the ticks between the readings of a clock, and `elapsed_mod`, what the counter keeps
  of their sum.
- **Small steps.** `exists_waited`: the first reading that is late enough comes in time.
- **Even steps.** `exists_le_mul_mod_iff`: how far up the multiples of a step go, modulo 256.
- **Ends.** `waitTicks`, the length of a wait; `wait_standing`, on a counter that stands; `wait_ends`.
-/

namespace SpiDisk

open SessionM Finset

variable {C : Type} [TickSource C] {clock : C} {ticks : Nat → Nat} {length readings : Nat}

/-! ## Steps -/

/-- Behind each of the first readings `ticks` says how many ticks go by until the next, be they more than
    the counter can tell. -/
def StepsBy (ticks : Nat → Nat) (readings : Nat) (clock : C) : Prop :=
  ∀ n < readings, countAt clock (n + 1) = countAt clock n + UInt8.ofNat (ticks n)

theorem StepsBy.countAt_eq (h : StepsBy ticks readings clock) {n : Nat} (hn : n ≤ readings) :
    countAt clock n = countAt clock 0 + UInt8.ofNat (∑ i ∈ range n, ticks i) := by
  induction n with
  | zero => simp
  | succ n ih => rw [h n hn, ih (by omega), sum_range_succ, UInt8.ofNat_add, UInt8.add_assoc]

/-- However many ticks went by, the counter keeps of them what is left modulo 256. -/
theorem StepsBy.elapsed_mod (h : StepsBy ticks readings clock) {n : Nat} (hn : n ≤ readings) :
    elapsed clock n % 256 = (∑ i ∈ range n, ticks i) % 256 := by
  have hdiff : countAt clock n - countAt clock 0 = UInt8.ofNat (∑ i ∈ range n, ticks i) := by
    rw [h.countAt_eq hn]
    grind
  rw [← toNat_countAt_sub, hdiff, UInt8.toNat_ofNat']

/-- A counter moves in even steps. -/
theorem stepsBy_counter (clock : Counter) (readings : Nat) :
    StepsBy (fun _ => clock.step.toNat) readings clock := by
  intro n _
  have hadvance := advance_counter clock n
  rw [advance, UInt8.toNat_inj] at hadvance
  rw [UInt8.ofNat_toNat, ← hadvance]
  grind

/-! ## Small steps -/

theorem le_sum_ticks (hmoves : ∀ n < readings, 1 ≤ ticks n) {n : Nat} (hn : n ≤ readings) :
    n ≤ ∑ i ∈ range n, ticks i := by
  induction n with
  | zero => simp
  | succ n ih =>
    have hleast := hmoves n hn
    have hbefore := ih (by omega)
    rw [sum_range_succ]
    omega

/-- **In small steps** a clock does not get past the counts at which a wait is over: it was not late enough
    at the last reading, and from there no step is far enough to wrap. -/
theorem exists_waited (hlength : length ≤ 255) (hsteps : StepsBy ticks (max 1 length) clock)
    (hbounds : ∀ n < max 1 length, 1 ≤ ticks n ∧ ticks n ≤ 256 - length) :
    ∃ n < max 1 length, Waited length clock n ∧
      (1 ≤ length → length ≤ ∑ i ∈ range (n + 1), ticks i ∧ ∑ i ∈ range (n + 1), ticks i ≤ 255) := by
  rcases Nat.eq_zero_or_pos length with rfl | hpos
  · exact ⟨0, by omega, ⟨Nat.zero_le _, by simp⟩, by omega⟩
  rw [max_eq_right (show 1 ≤ length from hpos)] at *
  -- every step is a tick at least, so that `length` readings are enough
  have hover : ∃ n, length ≤ ∑ i ∈ range (n + 1), ticks i := by
    refine ⟨length - 1, ?_⟩
    rw [Nat.sub_add_cancel hpos]
    exact le_sum_ticks (fun n hn => (hbounds n hn).1) (Nat.le_refl length)
  obtain ⟨n, hlate, hfirst⟩ : ∃ n, length ≤ ∑ i ∈ range (n + 1), ticks i ∧
      ∀ k < n, ∑ i ∈ range (k + 1), ticks i < length :=
    ⟨Nat.find hover, Nat.find_spec hover, fun k hk => Nat.lt_of_not_le (Nat.find_min hover hk)⟩
  have hbefore : ∑ i ∈ range n, ticks i < length := by
    cases n with
    | zero => simpa using hpos
    | succ n => exact hfirst n (Nat.lt_succ_self n)
  have hn : n < length := by
    by_contra hge
    have hsum := le_sum_ticks (fun n hn => (hbounds n hn).1) (Nat.le_refl length)
    have hearly := hfirst (length - 1) (by omega)
    rw [Nat.sub_add_cancel hpos] at hearly
    omega
  have hmost : ∑ i ∈ range (n + 1), ticks i ≤ 255 := by
    have hstep := (hbounds n hn).2
    rw [sum_range_succ]
    omega
  refine ⟨n, hn, ⟨?_, fun k hk => ?_⟩, fun _ => ⟨hlate, hmost⟩⟩
  · rw [hsteps.elapsed_mod (show n + 1 ≤ length from hn)]
    omega
  · have hearly := hfirst k hk
    rw [hsteps.elapsed_mod (by omega)]
    omega

/-! ## Even steps -/

/-- **In even steps** a clock comes back to the multiples of one number, of which the last is that much
    short of 256. -/
theorem exists_le_mul_mod_iff (length step : Nat) :
    (∃ n, length ≤ (n + 1) * step % 256) ↔ length ≤ 256 - Nat.gcd step 256 := by
  have hdvd : Nat.gcd step 256 ∣ 256 := Nat.gcd_dvd_right step 256
  have hpos : 0 < Nat.gcd step 256 := Nat.gcd_pos_of_pos_right step (by decide)
  constructor
  · rintro ⟨n, hn⟩
    -- what is left modulo 256 is a multiple too, and less than 256
    have hleft : Nat.gcd step 256 ∣ (n + 1) * step % 256 :=
      (Nat.dvd_mod_iff hdvd).mpr (Dvd.dvd.mul_left (Nat.gcd_dvd_left step 256) _)
    have hless : (n + 1) * step % 256 < 256 := Nat.mod_lt _ (by decide)
    have hgap := Nat.le_of_dvd (Nat.sub_pos_of_lt hless) (Nat.dvd_sub hdvd hleft)
    omega
  · intro hlength
    rcases Nat.lt_or_ge (Nat.gcd step 256) 256 with hless | hge
    · -- some multiple is one divisor past a wrap, and 255 times as many are one short of it
      obtain ⟨m, -, hm⟩ := Nat.exists_mul_mod_eq_gcd hless
      cases m with
      | zero =>
        rw [Nat.mul_zero, Nat.zero_mod] at hm
        omega
      | succ m =>
        refine ⟨255 * m + 254, ?_⟩
        have hmultiple : (255 * m + 254 + 1) * step = 255 * (step * (m + 1)) := by grind
        rw [hmultiple]
        omega
    · exact ⟨0, by omega⟩

/-! ## Ends -/

/-- The ticks for which a wait lasts. -/
def waitTicks (clock : C) (ms : UInt32) : Nat :=
  min (ticksOfMillis ms (TickSource.frequency clock)).toNat 255

theorem wait_eq_some_iff_waited (clock clock' : C) (ms : UInt32) (patience : Nat) :
    wait patience clock ms = some clock' ↔
      ∃ n < patience, Waited (waitTicks clock ms) clock n ∧ clock' = ticked (n + 2) clock := by
  rw [waitTicks, toNat_ticksOfMillis_eq]
  exact wait_eq_some_iff clock clock' ms patience

/-- A counter that stands is not moved by a reading. -/
theorem now_standing {clock : Counter} (hstep : clock.step = 0) :
    TickSource.now clock = (clock.value, clock) := by
  obtain ⟨value, step, rate⟩ := clock
  obtain rfl : step = 0 := hstep
  exact congrArg (fun value' => (value, Counter.mk value' 0 rate)) (UInt8.add_zero value)

/-- Nor does it end a wait of a tick or more. -/
theorem wait_standing {clock : Counter} (hstep : clock.step = 0) {ms : UInt32}
    (hticks : 1 ≤ waitTicks clock ms) (patience : Nat) : wait patience clock ms = none := by
  refine Option.eq_none_iff_forall_ne_some.mpr fun clock' hrun => ?_
  obtain ⟨n, -, hwaited, -⟩ := (wait_eq_some_iff_waited clock clock' ms patience).mp hrun
  have helapsed := (stepsBy_counter clock (n + 1)).elapsed_mod (Nat.le_refl _)
  have hlate := hwaited.late
  simp only [hstep, UInt8.toNat_zero, sum_const_zero] at helapsed
  omega

/-- A wait that is late enough at some reading is over at the first such. -/
theorem exists_waited_iff (clock : C) (length : Nat) :
    (∃ n, Waited length clock n) ↔ ∃ n, length ≤ elapsed clock (n + 1) % 256 := by
  constructor
  · rintro ⟨n, hn⟩
    exact ⟨n, hn.late⟩
  · intro hover
    exact ⟨Nat.find hover, Nat.find_spec hover, fun k hk => Nat.lt_of_not_le (Nat.find_min hover hk)⟩

/-- **When a wait ends.** On any clock, from wherever it stands: if every reading behind the first finds it
    moved, by no more ticks than a wait of this length leaves of the counter's 256, then the wait ends. It
    takes no more such readings than it lasts ticks, or one if it lasts none, and ends with no fewer ticks
    gone by than it lasts and with none that the counter cannot tell. On a clock of even steps, of whatever
    size, the wait ends if and only if its length is no more than the last multiple of the greatest common
    divisor of the step and 256 that is less than 256. -/
theorem wait_ends (clock : C) (ms : UInt32) :
    (∀ ticks : Nat → Nat, StepsBy ticks (max 1 (waitTicks clock ms)) clock →
      (∀ n < max 1 (waitTicks clock ms), 1 ≤ ticks n ∧ ticks n ≤ 256 - waitTicks clock ms) →
      ∃ n < max 1 (waitTicks clock ms),
        (∀ patience, n < patience → wait patience clock ms = some (ticked (n + 2) clock)) ∧
        (1 ≤ waitTicks clock ms → waitTicks clock ms ≤ ∑ i ∈ range (n + 1), ticks i ∧
          ∑ i ∈ range (n + 1), ticks i ≤ 255)) ∧
    ∀ step : Nat, (∀ readings, StepsBy (fun _ => step) readings clock) →
      ((∃ patience clock', wait patience clock ms = some clock') ↔
        waitTicks clock ms ≤ 256 - Nat.gcd step 256) := by
  constructor
  · intro ticks hsteps hbounds
    obtain ⟨n, hn, hwaited, helapsed⟩ := exists_waited (Nat.min_le_right _ 255) hsteps hbounds
    refine ⟨n, hn, fun patience hpatience => ?_, helapsed⟩
    rw [wait_eq_some_iff_waited]
    exact ⟨n, hpatience, hwaited, rfl⟩
  · intro step hsteps
    have helapsed : ∀ n, elapsed clock (n + 1) % 256 = (n + 1) * step % 256 := by
      intro n
      rw [(hsteps (n + 1)).elapsed_mod (Nat.le_refl _), sum_const, card_range, smul_eq_mul]
    have hwaits : (∃ patience clock', wait patience clock ms = some clock') ↔
        ∃ n, Waited (waitTicks clock ms) clock n := by
      simp only [wait_eq_some_iff_waited]
      constructor
      · rintro ⟨-, -, n, -, hwaited, -⟩
        exact ⟨n, hwaited⟩
      · rintro ⟨n, hwaited⟩
        exact ⟨n + 1, _, n, Nat.lt_succ_self n, hwaited, rfl⟩
    rw [hwaits, exists_waited_iff, ← exists_le_mul_mod_iff]
    simp only [helapsed]

/-- At 60 Hz half a second is 30 ticks, which a counter that moves by a hundred does not miss. One that
    jumps over half of its range ends a wait of 2133 milliseconds, which are 128 ticks, but none that is a
    millisecond longer. -/
theorem wait_ends_leaping :
    let clock : Counter := { value := 250, step := 100 }
    let leaping : Counter := { value := 3, step := 128 }
    (∃ n < 30, ∀ patience, n < patience → wait patience clock 500 = some (ticked (n + 2) clock)) ∧
      (∃ patience clock', wait patience leaping 2133 = some clock') ∧
      ¬ ∃ patience clock', wait patience leaping 2134 = some clock' := by
  intro clock leaping
  have hlength : waitTicks clock 500 = 30 := by decide
  have hends := (wait_ends clock 500).1 (fun _ => 100) (stepsBy_counter clock _)
  rw [hlength] at hends
  obtain ⟨n, hn, hwait, -⟩ := hends fun _ _ => ⟨by decide, by decide⟩
  have heven := stepsBy_counter leaping
  refine ⟨⟨n, hn, hwait⟩, ?_, ?_⟩
  · exact ((wait_ends leaping 2133).2 128 heven).mpr (by decide)
  · exact mt ((wait_ends leaping 2134).2 128 heven).mp (by decide)

end SpiDisk
