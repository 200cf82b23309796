import Mathlib.Algebra.Group.Nat.Defs
import Mathlib.Algebra.Order.Floor.Div
import Mathlib.Data.UInt
import SpiDisk.Proofs.Outcome

/-!
# `SpiDisk.Proofs.Tick.Duration` — how long deadlines and waits last

A duration in milliseconds is turned into ticks, rounded up, in 64 bits, where nothing overflows, and the
result is then cut to 32 bits. Only behind that is it limited to what the counter can tell. Up to 1000 Hz the
cut loses nothing, so that every duration past the limit comes out as the limit. At higher rates it may lose
the high bits of a long duration, and what is left may be short.

## Contents
- **Counts.** `countAt`, `advance` and `elapsed`: what any clock shows at its readings, and the ticks that
  went by, counted without end. `Moves`, a clock that never stands still.
- **Ticks.** `exactTicks`, and what 32 bits keep of it.
- **Deadlines.** `reachedAt_eq_decide`, what a deadline looks like on a counter; `Deadline.ahead`, and
  `reachedAt_elapsed`, when a deadline on any clock counts as passed.
- **Waits.** `Waited` and `wait_eq_some_iff`: a wait is over at the first reading that is late enough.
- **Durations.** `Lasts` and `lasts_exactly`; `duration_wrapped`, a long duration that comes out as none.
-/

namespace SpiDisk

open SessionM

variable {C : Type} [TickSource C]

/-! ## Counts -/

/-- What the clock shows at the reading that has `n` others before it. -/
def countAt (clock : C) (n : Nat) : UInt8 :=
  (TickSource.now (ticked n clock)).1

/-- The ticks between that reading and the next, which the counter shows modulo 256. -/
def advance (clock : C) (n : Nat) : Nat :=
  (countAt clock (n + 1) - countAt clock n).toNat

/-- The ticks between the first reading and the one that has `n` others before it. -/
def elapsed (clock : C) : Nat → Nat
  | 0 => 0
  | n + 1 => elapsed clock n + advance clock n

theorem countAt_eq (clock : C) (n : Nat) :
    countAt clock n = countAt clock 0 + UInt8.ofNat (elapsed clock n) := by
  induction n with
  | zero => simp [elapsed]
  | succ n ih =>
    have hadvance : UInt8.ofNat (advance clock n) = countAt clock (n + 1) - countAt clock n := by
      simp [advance]
    rw [elapsed, UInt8.ofNat_add, ← UInt8.add_assoc, ← ih, hadvance]
    grind

/-- The counter shows how many ticks went by since the first reading, as far as eight bits can tell. -/
theorem toNat_countAt_sub (clock : C) (n : Nat) :
    (countAt clock n - countAt clock 0).toNat = elapsed clock n % 256 := by
  have hdiff : countAt clock n - countAt clock 0 = UInt8.ofNat (elapsed clock n) := by
    rw [countAt_eq clock n]
    grind
  rw [hdiff, UInt8.toNat_ofNat']

/-- A clock that moves with every reading, and by no more than so many ticks. -/
def Moves (most : Nat) (clock : C) : Prop :=
  ∀ n, 1 ≤ advance clock n ∧ advance clock n ≤ most

theorem Moves.le_elapsed {most : Nat} {clock : C} (h : Moves most clock) (n : Nat) :
    n ≤ elapsed clock n := by
  induction n with
  | zero => simp
  | succ n ih =>
    have hleast := (h n).1
    rw [elapsed]
    omega

theorem Moves.elapsed_succ_le {most : Nat} {clock : C} (h : Moves most clock) (n : Nat) :
    elapsed clock (n + 1) ≤ elapsed clock n + most :=
  Nat.add_le_add_left (h n).2 _

/-- A clock that moves goes on moving. -/
theorem Moves.ticked {most : Nat} {clock : C} (h : Moves most clock) (readings : Nat) :
    Moves most (ticked readings clock) := by
  intro n
  have hcount : ∀ k, countAt (SessionM.ticked readings clock) k = countAt clock (readings + k) := by
    intro k
    rw [countAt, countAt, ticked_add]
  rw [advance, hcount, hcount]
  exact h (readings + n)

/-- A counter moves by its step. -/
theorem advance_counter (clock : Counter) (n : Nat) : advance clock n = clock.step.toNat := by
  have hstep : (ticked n clock).step = clock.step := by
    induction n with
    | zero => rfl
    | succ n ih => exact ih
  have hnext : countAt clock (n + 1) = countAt clock n + (ticked n clock).step := rfl
  rw [advance, hnext, hstep]
  have hdiff : countAt clock n + clock.step - countAt clock n = clock.step := by grind
  rw [hdiff]

/-! ## Ticks -/

/-- The ticks in `ms` milliseconds, rounded up. -/
def exactTicks (ms rate : UInt32) : Nat :=
  ms.toNat * rate.toNat ⌈/⌉ 1000

theorem exactTicks_le_iff (ms rate : UInt32) (n : Nat) :
    exactTicks ms rate ≤ n ↔ ms.toNat * rate.toNat ≤ 1000 * n :=
  ceilDiv_le_iff_le_mul (by decide)

theorem toNat_ticksOfMillis (ms rate : UInt32) :
    (ticksOfMillis ms rate).toNat = (ms.toNat * rate.toNat + 999) / 1000 % 2 ^ 32 := by
  have hms := ms.toNat_lt
  have hrate := rate.toNat_lt
  have hproduct : ms.toNat * rate.toNat ≤ (2 ^ 32 - 1) * (2 ^ 32 - 1) :=
    Nat.mul_le_mul (by omega) (by omega)
  simp only [ticksOfMillis, UInt64.toNat_toUInt32, UInt64.toNat_div, UInt64.toNat_add,
    UInt64.toNat_mul, UInt32.toNat_toUInt64, UInt64.reduceToNat]
  rw [Nat.mod_eq_of_lt (show ms.toNat * rate.toNat < 2 ^ 64 by omega),
    Nat.mod_eq_of_lt (show ms.toNat * rate.toNat + 999 < 2 ^ 64 by omega)]

/-- What is computed are the low 32 bits. -/
theorem toNat_ticksOfMillis_eq (ms rate : UInt32) :
    (ticksOfMillis ms rate).toNat = exactTicks ms rate % 2 ^ 32 :=
  toNat_ticksOfMillis ms rate

theorem exactTicks_mono {ms longer : UInt32} (h : ms ≤ longer) (rate : UInt32) :
    exactTicks ms rate ≤ exactTicks longer rate := by
  have hlonger := (exactTicks_le_iff longer rate _).mp (Nat.le_refl _)
  rw [exactTicks_le_iff]
  exact Nat.le_trans (Nat.mul_le_mul_right _ (UInt32.le_iff_toNat_le.mp h)) hlonger

/-- Up to 1000 Hz a duration is no more ticks than milliseconds. -/
theorem exactTicks_le_of_rate {rate : UInt32} (h : rate ≤ 1000) (ms : UInt32) :
    exactTicks ms rate ≤ ms.toNat := by
  have hrate : rate.toNat ≤ 1000 := UInt32.le_iff_toNat_le.mp h
  rw [exactTicks_le_iff, Nat.mul_comm]
  exact Nat.mul_le_mul_right _ hrate

/-- The waits of the card engine take no more than a second, so that the cut never shows there. -/
theorem exactTicks_le_of_millis {ms : UInt32} (h : ms ≤ 1000) (rate : UInt32) :
    exactTicks ms rate ≤ rate.toNat := by
  have hms : ms.toNat ≤ 1000 := UInt32.le_iff_toNat_le.mp h
  rw [exactTicks_le_iff]
  exact Nat.mul_le_mul_right _ hms

/-! ## Deadlines -/

theorem toNat_min_horizon (ticks : UInt32) : (min ticks horizon).toNat = min ticks.toNat 128 :=
  UInt32.toNat_min ticks horizon

/-- **What a deadline looks like** on a counter, when so many ticks have gone by since a moment from which it
    lay `ahead`: the counter tells whether it has passed for half of its range, and the wrong of it for the
    other half. -/
theorem reachedAt_eq_decide {deadline : Deadline} {count : UInt8} {ahead gone : Nat}
    (hcount : count + UInt8.ofNat ahead = deadline.due + UInt8.ofNat gone) (hahead : ahead ≤ 128) :
    deadline.reachedAt count = decide ((gone + 256 - ahead) % 256 ≤ 127) := by
  have hvalue := congrArg UInt8.toNat hcount
  rw [UInt8.toNat_add, UInt8.toNat_add, UInt8.toNat_ofNat', UInt8.toNat_ofNat'] at hvalue
  have hleft := count.toNat_lt
  have hright := deadline.due.toNat_lt
  unfold Deadline.reachedAt
  rw [decide_eq_decide, UInt8.le_iff_toNat_le, UInt8.toNat_sub]
  show (2 ^ 8 - deadline.due.toNat + count.toNat) % 2 ^ 8 ≤ 127 ↔ _
  omega

/-- Until 128 ticks behind it, a deadline is told right. -/
theorem reachedAt_of_le {deadline : Deadline} {count : UInt8} {ahead gone : Nat}
    (hcount : count + UInt8.ofNat ahead = deadline.due + UInt8.ofNat gone) (hahead : ahead ≤ 128)
    (hgone : gone ≤ ahead + 127) : deadline.reachedAt count = decide (ahead ≤ gone) := by
  rw [reachedAt_eq_decide hcount hahead, decide_eq_decide]
  omega

/-- How far ahead of the current count a deadline is set. -/
def Deadline.ahead (clock : C) (ms : UInt32) : Nat :=
  ((Deadline.start clock ms).1.due - countAt clock 0).toNat

theorem due_start (clock : C) (ms : UInt32) :
    (Deadline.start clock ms).1.due = countAt clock 0 +
      (min (ticksOfMillis ms (TickSource.frequency clock)) horizon).toUInt8 :=
  rfl

theorem ahead_eq (clock : C) (ms : UInt32) :
    Deadline.ahead clock ms = min (exactTicks ms (TickSource.frequency clock) % 2 ^ 32) 128 := by
  have hdiff : ∀ count span : UInt8, count + span - count = span := by grind
  rw [Deadline.ahead, due_start, hdiff, UInt32.toNat_toUInt8, toNat_min_horizon,
    toNat_ticksOfMillis_eq]
  omega

theorem ahead_le (clock : C) (ms : UInt32) : Deadline.ahead clock ms ≤ 128 := by
  rw [ahead_eq]
  exact Nat.min_le_right _ _

/-- On any clock the ticks since a deadline was set tell whether it has passed, until 128 ticks behind it. -/
theorem reachedAt_elapsed (clock : C) (ms : UInt32) {n : Nat}
    (h : elapsed clock n ≤ Deadline.ahead clock ms + 127) :
    (Deadline.start clock ms).1.reachedAt (countAt clock n) =
      decide (Deadline.ahead clock ms ≤ elapsed clock n) := by
  refine reachedAt_of_le ?_ (ahead_le clock ms) h
  rw [countAt_eq clock n, Deadline.ahead, UInt8.ofNat_toNat]
  grind

/-! ## Waits -/

/-- A wait of so many ticks, begun with a reading of the clock, takes `n` readings that are too early and
    then one that is not. -/
structure Waited (ticks : Nat) (clock : C) (n : Nat) : Prop where
  late : ticks ≤ elapsed clock (n + 1) % 256
  early : ∀ k < n, elapsed clock (k + 1) % 256 < ticks

/-- A longer wait takes no fewer readings. -/
theorem Waited.le {ticks longer n m : Nat} {clock : C} (h : Waited ticks clock n)
    (h' : Waited longer clock m) (hle : ticks ≤ longer) : n ≤ m := by
  by_contra hlt
  have hearly := h.early m (by omega)
  have hlate := h'.late
  omega

/-- Watching the clock, with `i` readings behind the first one already made. -/
theorem waitFrom_eq_some_iff (clock clock' : C) (ticks : UInt8) (patience i : Nat) :
    waitFrom (countAt clock 0) ticks patience (ticked (i + 1) clock) = some clock' ↔
      ∃ n < patience, ticks.toNat ≤ elapsed clock (i + n + 1) % 256 ∧
        (∀ k < n, elapsed clock (i + k + 1) % 256 < ticks.toNat) ∧
        clock' = ticked (i + n + 2) clock := by
  induction patience generalizing i with
  | zero => simp [waitFrom]
  | succ patience ih =>
    have hcount : countAt clock (i + 1) - countAt clock 0 < ticks ↔
        elapsed clock (i + 1) % 256 < ticks.toNat := by
      rw [UInt8.lt_iff_toNat_lt, toNat_countAt_sub]
    rw [waitFrom]
    show (if countAt clock (i + 1) - countAt clock 0 < ticks then
      waitFrom (countAt clock 0) ticks patience (ticked (i + 2) clock)
      else some (ticked (i + 2) clock)) = some clock' ↔ _
    -- the readings of the wait are this one and those behind it
    rw [Nat.exists_lt_succ_left]
    by_cases hearly : elapsed clock (i + 1) % 256 < ticks.toNat
    · have hnot : ¬ ticks.toNat ≤ elapsed clock (i + 1) % 256 := by omega
      rw [if_pos (hcount.mpr hearly), ih (i + 1)]
      simp only [Nat.forall_lt_succ_left, Nat.add_zero, hearly, hnot, true_and, false_and, false_or,
        ← Nat.add_assoc, Nat.add_right_comm i 1]
    · have hlate : ticks.toNat ≤ elapsed clock (i + 1) % 256 := by omega
      rw [if_neg (mt hcount.mp hearly)]
      simp only [Nat.forall_lt_succ_left, Nat.add_zero, hearly, hlate, false_and, and_false, exists_false,
        or_false, true_and, Nat.not_lt_zero, false_implies, implies_true, Option.some.injEq]
      exact eq_comm

/-- **A wait is over** at the first reading that is late enough, and not before. -/
theorem wait_eq_some_iff (clock clock' : C) (ms : UInt32) (patience : Nat) :
    wait patience clock ms = some clock' ↔
      ∃ n < patience,
        Waited (min (exactTicks ms (TickSource.frequency clock) % 2 ^ 32) 255) clock n ∧
          clock' = ticked (n + 2) clock := by
  have hticks : (min (ticksOfMillis ms (TickSource.frequency clock)) 255).toUInt8.toNat =
      min (exactTicks ms (TickSource.frequency clock) % 2 ^ 32) 255 := by
    rw [UInt32.toNat_toUInt8, UInt32.toNat_min, toNat_ticksOfMillis_eq]
    show min _ 255 % 2 ^ 8 = _
    omega
  have hwait := waitFrom_eq_some_iff clock clock'
    (min (ticksOfMillis ms (TickSource.frequency clock)) 255).toUInt8 patience 0
  rw [hticks] at hwait
  simp only [Nat.zero_add] at hwait
  refine hwait.trans ⟨?_, ?_⟩
  · rintro ⟨n, hn, hlate, hearly, rfl⟩
    exact ⟨n, hn, ⟨hlate, hearly⟩, rfl⟩
  · rintro ⟨n, hn, h, rfl⟩
    exact ⟨n, hn, h.late, h.early, rfl⟩

/-! ## Durations -/

/-- On this clock `ms` milliseconds last so many ticks, as far as deadlines and waits go so far: a deadline
    passes when they have gone by, or 128 of them if there are more, and a wait is over when they have, or
    255 of them. -/
structure Lasts (ticks : Nat) (clock : C) (ms : UInt32) : Prop where
  deadline : Deadline.ahead clock ms = min ticks 128
  passes : ∀ n, elapsed clock n ≤ min ticks 128 + 127 →
    (Deadline.start clock ms).1.reachedAt (countAt clock n) =
      decide (min ticks 128 ≤ elapsed clock n)
  waits : ∀ patience clock', wait patience clock ms = some clock' ↔
    ∃ n < patience, Waited (min ticks 255) clock n ∧ clock' = ticked (n + 2) clock

/-- A duration lasts as many ticks as 32 bits keep of it. -/
theorem lasts_kept (clock : C) (ms : UInt32) :
    Lasts (exactTicks ms (TickSource.frequency clock) % 2 ^ 32) clock ms := by
  have hahead := ahead_eq clock ms
  refine ⟨hahead, ?_, fun patience clock' => wait_eq_some_iff clock clock' ms patience⟩
  intro n hn
  rw [← hahead] at hn ⊢
  exact reachedAt_elapsed clock ms hn

/-- The limits hide what the cut does to a deadline only where it leaves enough. -/
theorem ahead_exact_iff (clock : C) (ms : UInt32) :
    Deadline.ahead clock ms = min (exactTicks ms (TickSource.frequency clock)) 128 ↔
      exactTicks ms (TickSource.frequency clock) < 2 ^ 32 ∨
        128 ≤ exactTicks ms (TickSource.frequency clock) % 2 ^ 32 := by
  rw [ahead_eq]
  omega

theorem exactTicks_lt {ms rate : UInt32} (h : rate ≤ 1000 ∨ ms ≤ 1000) :
    exactTicks ms rate < 2 ^ 32 := by
  rcases h with hrate | hms
  · exact Nat.lt_of_le_of_lt (exactTicks_le_of_rate hrate ms) ms.toNat_lt
  · exact Nat.lt_of_le_of_lt (exactTicks_le_of_millis hms rate) rate.toNat_lt

/-- **How long a duration lasts.** On any clock it lasts as many ticks as 32 bits keep of it. So it lasts
    what it should, rounded up and limited to 128 ticks for a deadline and to 255 for a wait, whenever it is
    less than 2^32 ticks, which it is up to 1000 Hz and, at every rate, up to a second; a deadline that is
    right for another duration is so by luck. Among durations of less than 2^32 ticks a longer one gives no
    nearer deadline and no shorter wait. -/
theorem lasts_exactly (clock : C) (ms : UInt32) :
    Lasts (exactTicks ms (TickSource.frequency clock) % 2 ^ 32) clock ms ∧
      (exactTicks ms (TickSource.frequency clock) < 2 ^ 32 →
        Lasts (exactTicks ms (TickSource.frequency clock)) clock ms) ∧
      (TickSource.frequency clock ≤ 1000 ∨ ms ≤ 1000 →
        exactTicks ms (TickSource.frequency clock) < 2 ^ 32) ∧
      (Deadline.ahead clock ms = min (exactTicks ms (TickSource.frequency clock)) 128 ↔
        exactTicks ms (TickSource.frequency clock) < 2 ^ 32 ∨
          128 ≤ exactTicks ms (TickSource.frequency clock) % 2 ^ 32) ∧
      ∀ longer, ms ≤ longer → exactTicks longer (TickSource.frequency clock) < 2 ^ 32 →
        Deadline.ahead clock ms ≤ Deadline.ahead clock longer ∧
          ∀ n m, Waited (min (exactTicks ms (TickSource.frequency clock)) 255) clock n →
            Waited (min (exactTicks longer (TickSource.frequency clock)) 255) clock m → n ≤ m := by
  obtain ⟨rate, hrate⟩ : ∃ rate, TickSource.frequency clock = rate := ⟨_, rfl⟩
  have hkept := lasts_kept clock ms
  refine ⟨hkept, ?_, exactTicks_lt, ahead_exact_iff clock ms, ?_⟩
  · intro hfits
    rwa [Nat.mod_eq_of_lt hfits] at hkept
  · intro longer hlonger hfits
    have hticks := exactTicks_mono hlonger (TickSource.frequency clock)
    rw [hrate] at hfits hticks
    constructor
    · rw [ahead_eq, ahead_eq, hrate, Nat.mod_eq_of_lt (show exactTicks ms rate < 2 ^ 32 by omega),
        Nat.mod_eq_of_lt hfits]
      omega
    · intro n m hwait hwait'
      rw [hrate] at hwait hwait'
      exact hwait.le hwait' (by omega)

/-- On a counter at 60 Hz that has just passed 250, and at every rate for half a second. -/
theorem lasts_exactly_at_default :
    let clock : Counter := { value := 250 }
    Lasts 30 clock 500 ∧ Deadline.ahead clock 500 ≤ Deadline.ahead clock 60000 := by
  have h := lasts_exactly ({ value := 250 } : Counter) 500
  obtain ⟨-, hexact, hfits, -, hlonger⟩ := h
  refine ⟨?_, ?_⟩
  · exact hexact (hfits (by decide))
  · exact (hlonger 60000 (by decide) (by decide)).1

/-- **A duration that comes out as none.** At 2000 Hz 2147483648 milliseconds are 2^32 ticks. The deadline
    is there at once and the wait is over at its first reading, while half a second still sets a deadline at
    the limit, and 254 readings are not enough to wait for it. -/
theorem duration_wrapped :
    let clock : Counter := { value := 0, rate := 2000 }
    exactTicks 2147483648 clock.rate = 2 ^ 32 ∧ exactTicks 500 clock.rate = 1000 ∧
      Deadline.ahead clock 2147483648 = 0 ∧ Deadline.ahead clock 500 = 128 ∧
      (Deadline.start clock 2147483648).1.reachedAt (countAt clock 1) = true ∧
      (wait 1 clock 2147483648).map Counter.value = some 2 ∧
      (wait 254 clock 500).isNone = true := by
  intro clock
  have hticks : exactTicks 2147483648 clock.rate = 2 ^ 32 ∧ exactTicks 500 clock.rate = 1000 := by
    decide
  have hahead : Deadline.ahead clock 2147483648 = 0 ∧ Deadline.ahead clock 500 = 128 := by
    decide
  have hpassed : (Deadline.start clock 2147483648).1.reachedAt (countAt clock 1) = true := by
    decide
  exact ⟨hticks.1, hticks.2, hahead.1, hahead.2, hpassed, by decide +kernel, by decide +kernel⟩

end SpiDisk
