import SpiDisk.Proofs.Card.Request
import SpiDisk.Proofs.Card.Termination
import SpiDisk.Proofs.Tick.Duration

/-!
# `SpiDisk.Proofs.Card.Polling` — waits on a clock that moves unevenly

The deadline of a wait is looked at once behind every byte that did not do, so that the counter may move by
any number of ticks between two looks. As long as that is less than half of its range, the first look that
comes late enough is told right, wherever the counter wrapped: no look before it takes the deadline for one
that has passed, and none jumps over the half in which it counts as passed.

## Contents
- **Looks.** `Poll.span`, the length of a wait, and `Poll.lateAt_eq`, what a look in time tells.
- **Waits.** `Poll.Limited`, what a wait comes to, and `Poll.Timed.limited`.
- **Ends.** `polls_in_time`: waits for a card and for a token come to such an end, whatever the board does.
-/

namespace SpiDisk

open SessionM

variable {C : Type} [TickSource C]

/-! ## Looks -/

namespace Poll

/-- The ticks for which a byte is waited for. -/
def span (clock : C) : Nat :=
  min (ticksOfMillis dataTimeout (TickSource.frequency clock)).toNat 128

theorem ahead_dataTimeout (clock : C) : Deadline.ahead clock dataTimeout = span clock := by
  rw [ahead_eq, span, toNat_ticksOfMillis_eq]

/-- The first look is told right, and so is one behind another that was too early. -/
theorem lateAt_eq {clock : C} (hclock : Moves 127 clock) {i : Nat}
    (hearly : i = 0 ∨ elapsed clock i < span clock) :
    lateAt clock i = decide (span clock ≤ elapsed clock (i + 1)) := by
  have hnext := hclock.elapsed_succ_le i
  have hwindow : elapsed clock (i + 1) ≤ Deadline.ahead clock dataTimeout + 127 := by
    rw [ahead_dataTimeout]
    rcases hearly with rfl | hearly
    · simp only [elapsed] at hnext ⊢
      omega
    · omega
  rw [← ahead_dataTimeout]
  exact reachedAt_elapsed clock dataTimeout hwindow

/-- One of the looks, and not too many of them, finds that the deadline has passed. -/
theorem exists_lateAt {clock : C} (hclock : Moves 127 clock) :
    ∃ i < max 1 (span clock), lateAt clock i = true := by
  have hover : ∃ i, span clock ≤ elapsed clock (i + 1) :=
    ⟨span clock, Nat.le_trans (Nat.le_succ _) (hclock.le_elapsed _)⟩
  -- the first reading that is late enough has none behind it, or one that was too early
  have hfirst : Nat.find hover = 0 ∨ elapsed clock (Nat.find hover) < span clock := by
    cases hfind : Nat.find hover with
    | zero => simp
    | succ i =>
      have hbefore := Nat.find_min hover (m := i) (by omega)
      exact .inr (by omega)
  refine ⟨Nat.find hover, ?_, ?_⟩
  · rcases hfirst with hzero | hearly
    · omega
    · have hcount := hclock.le_elapsed (Nat.find hover)
      omega
  · rw [lateAt_eq hclock hfirst]
    exact decide_eq_true (Nat.find_spec hover)

/-! ## Waits -/

/-- What was polled in a wait, oldest first. -/
def polled (poll : Poll) : List UInt8 :=
  poll.vain ++ poll.found.toList

/-- A wait of so many ticks for a byte as `accepts` says, begun with the clock as it is here. The first byte
    that does ends it. It is given up at the first reading at which so many ticks have gone by, and not
    before. -/
structure Limited (accepts : UInt8 → Bool) (ticks : Nat) (clock : C) (poll : Poll) : Prop where
  bounded : poll.polled.length ≤ max 1 ticks
  first : ∀ byte ∈ poll.polled, accepts byte = true ↔ poll.found = some byte
  early : ∀ i < poll.vain.length, poll.ended = true ∨ i + 1 < poll.vain.length →
    elapsed clock (i + 1) < ticks
  expired : poll.ended = false → poll.vain ≠ [] ∧ ticks ≤ elapsed clock poll.vain.length

/-- A byte that does ends the wait that polls it. -/
theorem Timed.accepts_iff {accepts : UInt8 → Bool} {clock : C} {poll : Poll}
    (h : poll.Timed accepts clock) {byte : UInt8} (hbyte : byte ∈ poll.polled) :
    accepts byte = true ↔ poll.found = some byte := by
  constructor
  · intro haccepts
    rcases List.mem_append.mp hbyte with hvain | hfound
    · rw [h.rejected byte hvain] at haccepts
      cases haccepts
    · simpa using hfound
  · exact h.found byte

/-- A wait that was given up polled no byte that does. -/
theorem Limited.rejected {accepts : UInt8 → Bool} {ticks : Nat} {clock : C} {poll : Poll}
    (h : poll.Limited accepts ticks clock) (hended : poll.ended = false) :
    ∀ byte ∈ poll.polled, accepts byte = false := by
  intro byte hbyte
  have hfound : poll.found = none := Option.not_isSome_iff_eq_none.mp (Bool.eq_false_iff.mp hended)
  rw [← Bool.not_eq_true, h.first byte hbyte, hfound]
  simp

/-- Behind every byte but the one at which the wait was given up, it was too early for that. -/
theorem Timed.elapsed_lt {accepts : UInt8 → Bool} {clock : C} {poll : Poll}
    (h : poll.Timed accepts clock) (hclock : Moves 127 clock) {i : Nat} (hi : i < poll.vain.length)
    (hmore : poll.ended = true ∨ i + 1 < poll.vain.length) :
    elapsed clock (i + 1) < span clock := by
  -- a look is told right because the one before it was too early
  have hearly : i = 0 ∨ elapsed clock i < span clock := by
    cases i with
    | zero => simp
    | succ i => exact .inr (h.elapsed_lt hclock (by omega) (.inr hi))
  have hlook : lateAt clock i = false := by
    rw [← Bool.not_eq_true, h.late i hi]
    rintro ⟨hended, hlast⟩
    rcases hmore with hfound | hmore
    · simp [hfound] at hended
    · omega
  rw [lateAt_eq hclock hearly] at hlook
  simpa using hlook

/-- It was late behind the byte at which the wait was given up. -/
theorem Timed.span_le {accepts : UInt8 → Bool} {clock : C} {poll : Poll}
    (h : poll.Timed accepts clock) (hclock : Moves 127 clock) (hended : poll.ended = false) :
    span clock ≤ elapsed clock poll.vain.length := by
  obtain ⟨i, hlast⟩ := Nat.exists_eq_succ_of_ne_zero (mt List.length_eq_zero_iff.mp (h.tried hended))
  have hearly : i = 0 ∨ elapsed clock i < span clock := by
    cases i with
    | zero => simp
    | succ i => exact .inr (h.elapsed_lt hclock (by omega) (.inr (by omega)))
  have hlook : lateAt clock i = true := (h.late i (by omega)).mpr ⟨hended, hlast.symm⟩
  rw [lateAt_eq hclock hearly] at hlook
  rw [hlast]
  simpa using hlook

theorem Timed.limited {accepts : UInt8 → Bool} {clock : C} {poll : Poll}
    (h : poll.Timed accepts clock) (hclock : Moves 127 clock) :
    poll.Limited accepts (span clock) clock where
  bounded := by
    have hpolled : poll.polled.length = poll.vain.length + poll.found.toList.length :=
      List.length_append
    have hbyte : poll.found.toList.length ≤ 1 := by
      cases poll.found <;> simp
    cases hlength : poll.vain.length with
    | zero => omega
    | succ n =>
      -- so many bytes were polled without its being late, and every one of them took a tick
      cases hended : poll.ended with
      | true =>
        have hearly := h.elapsed_lt hclock (i := n) (by omega) (.inl hended)
        have hcount := hclock.le_elapsed (n + 1)
        omega
      | false =>
        have hfound : poll.found.toList.length = 0 := by
          unfold Poll.ended at hended
          cases hfound : poll.found with
          | none => rfl
          | some byte => simp [hfound] at hended
        cases n with
        | zero => omega
        | succ n =>
          have hearly := h.elapsed_lt hclock (i := n) (by omega) (.inr (by omega))
          have hcount := hclock.le_elapsed (n + 1)
          omega
  first _ hbyte := h.accepts_iff hbyte
  early _ hi hmore := h.elapsed_lt hclock hi hmore
  expired hended := ⟨h.tried hended, h.span_le hclock hended⟩

end Poll

/-! ## Ends -/

namespace ChannelM

open CardEngine

variable {H : Type} [Host H] {s : Session (Channel H) C} {patience : Nat}

/-- A wait for a byte comes back, and in time. -/
theorem answerable_of_moves (hclock : Moves 127 s.env.clock)
    (hpatience : max 1 (Poll.span s.env.clock) ≤ patience) : Answerable patience s := by
  obtain ⟨rounds, hrounds, hlate⟩ := Poll.exists_lateAt hclock
  rw [Poll.lateAt, Nat.add_comm, ticked_add] at hlate
  exact answerable_of_late (by omega) hlate

/-- **Waiting for a byte.** On any clock that moves at every reading by less than half of its range, whatever
    the board does and wherever the counter stands: the wait for a card and the wait for a token in front of
    a block come back, in loops of no more rounds than the wait lasts ticks, and what was polled is as
    `Poll.Limited` says. They report that it is too late only where the wait was given up, without a byte
    that is ready and without a token. -/
theorem polls_in_time (s : Session (Channel H) C) (hclock : Moves 127 s.env.clock) :
    (∃ ready s', (∀ patience, max 1 (Poll.span s.env.clock) ≤ patience →
        waitReady patience s = some (ready, s')) ∧
      ∃ wait : Poll, wait.ended = ready ∧
        (ready = false → ∀ byte ∈ wait.polled, byte ≠ idleByte) ∧
        wait.Limited isIdle (Poll.span s.env.clock) s.env.clock ∧
        Passed wait.signals wait.readings s s') ∧
    ∀ count, ∃ result s', (∀ patience, max 1 (Poll.span s.env.clock) ≤ patience →
        receiveBlock patience count s = some (result, s')) ∧
      ∃ token : Poll, (result = .error .timeout ↔ token.ended = false) ∧
        (result = .error .timeout → ∀ byte ∈ token.polled, byte = idleByte) ∧
        (result.isOk ↔ token.found = some Token.startBlock) ∧
        token.Limited isToken (Poll.span s.env.clock) s.env.clock ∧
        ∃ more : List UInt8, more.length = (if result.isOk then count + 2 else 0) ∧
          Passed (token.signals ++ more.map .heard) token.readings s s' := by
  have hback := answerable_of_moves hclock (Nat.le_refl _)
  constructor
  · have hend : Terminates (max 1 (Poll.span s.env.clock)) waitReady s :=
      terminates_of_returns hback.waitReady fun _ hle =>
        (mirrors_waitReady (parallel_lock kindred_eq) hle).follows
    obtain ⟨⟨ready, s'⟩, hrun⟩ := hend
    obtain ⟨wait, rfl, htimed, hpassed⟩ :=
      passed_waitReady _ s ready s' (hrun _ (Nat.le_refl _))
    have hlimited := htimed.limited hclock
    refine ⟨wait.ended, s', hrun, wait, rfl, ?_, hlimited, hpassed⟩
    intro hended byte hbyte
    simpa [isIdle] using hlimited.rejected hended byte hbyte
  · intro count
    have hend : Terminates (max 1 (Poll.span s.env.clock))
        (fun patience => receiveBlock patience count) s :=
      terminates_of_returns (hback.receiveBlock count) fun _ hle =>
        (mirrors_receiveBlock (parallel_lock kindred_eq) hle count).follows
    obtain ⟨⟨result, s'⟩, hrun⟩ := hend
    obtain ⟨token, htimed, more, hpassed, hresult⟩ :=
      passed_receiveBlock count s result s' (hrun _ (Nat.le_refl _))
    have hlimited := htimed.limited hclock
    have htimeout : result = .error .timeout ↔ token.ended = false := by
      cases result with
      | ok bytes => simp [Poll.ended, hresult.1]
      | error error =>
        obtain ⟨-, -, rfl⟩ := hresult
        cases hended : token.ended <;> simp
    refine ⟨result, s', hrun, token, htimeout, ?_, ?_, hlimited, more, ?_, hpassed⟩
    · intro hlate byte hbyte
      simpa [isToken] using hlimited.rejected (htimeout.mp hlate) byte hbyte
    · cases result <;> simp [hresult.1, Except.isOk, Except.toBool]
    · cases result with
      | ok bytes =>
        obtain ⟨-, hbytes, checksum, hchecksum, rfl⟩ := hresult
        simp [hbytes, hchecksum, Except.isOk, Except.toBool]
      | error error => simp [hresult.2.1, Except.isOk, Except.toBool]

/-- A line that is stuck low, on a counter that moves by seven ticks and wraps at the second reading: half a
    second is 30 ticks at 60 Hz, and the card is given up in time. -/
theorem polls_in_time_stuck :
    let s : Session (Channel Script) Counter :=
      ⟨{ host := { idle := 0x00 } }, { clock := { value := 250, step := 7 } }⟩
    Poll.span s.env.clock = 30 ∧
      ∃ s', ∀ patience, 30 ≤ patience → waitReady patience s = some (false, s') := by
  intro s
  have hclock : Moves 127 s.env.clock := by
    intro n
    rw [advance_counter]
    exact ⟨by decide, by decide⟩
  have hspan : Poll.span s.env.clock = 30 := by decide
  obtain ⟨⟨ready, s', hrun, -⟩, -⟩ := polls_in_time s hclock
  rw [hspan] at hrun
  have hstuck : (waitReady 30 s).map Prod.fst = some false := by decide +kernel
  rw [hrun 30 (by decide)] at hstuck
  cases hstuck
  exact ⟨hspan, s', hrun⟩

end ChannelM

end SpiDisk
